import RoutineVisibility.Proofs.Store.Edits
import RoutineVisibility.Proofs.Store.Loading

/-! Runs of calls on a store amount to histories of single changes. -/
namespace RoutineVisibility

namespace Dataset

/-- What the lists bring, one after the other: the records of all lists, or those before the first
fault. -/
inductive Brought (members : List (Text × Json)) :
    List (Text × (Json → Verdict (Entry Exact))) → List (Entry Exact) → Prop where
  | nil : Brought members [] []
  | whole {l : Text × (Json → Verdict (Entry Exact))}
    {ls : List (Text × (Json → Verdict (Entry Exact)))} {es more : List (Entry Exact)}
    (accepted : Accepts members l.1 l.2 es) (rest : Brought members ls more) :
    Brought members (l :: ls) (es ++ more)
  | noList {l : Text × (Json → Verdict (Entry Exact))}
    {ls : List (Text × (Json → Verdict (Entry Exact)))} (none : itemsIn? members l.1 = none) :
    Brought members (l :: ls) []
  | part {l : Text × (Json → Verdict (Entry Exact))}
    {ls : List (Text × (Json → Verdict (Entry Exact)))} {before after : List Json} {item : Json}
    {r : Refusal} {es : List (Entry Exact)}
    (items : itemsIn? members l.1 = some (before ++ item :: after))
    (accepted : before.map l.2 = es.map .accept) (refused : l.2 item = .refuse r) :
    Brought members (l :: ls) es

inductive Adds (localOffset : Int) : Json → List (Entry Exact) → Prop where
  | nothing {data : Json} (other : ∀ members, data ≠ .obj members) : Adds localOffset data []
  | records {members : List (Text × Json)} {es : List (Entry Exact)}
    (brought : Brought members
      [("persons", fun v => .person <$> Person.validate v),
        ("routines", fun v => .routine <$> Routine.validate v),
        ("tasks", fun v => .task <$> Task.validate v),
        ("completions", fun v => .completion <$> Completion.validate localOffset v),
        ("goals", fun v => .goal <$> GoalProgress.validate v),
        ("conditions", fun v => .condition <$> Condition.validate v)] es) : Adds localOffset
          (.obj members) es

variable {localOffset : Int} {members : List (Text × Json)} {data : Json} {es : List (Entry Exact)}

theorem exists_brought (members : List (Text × Json))
    (ls : List (Text × (Json → Verdict (Entry Exact)))) : ∃ es, Brought members ls es := by
  induction ls with
  | nil => exact ⟨[], .nil⟩
  | cons l ls ih =>
    rcases accepts_or_stops members l.1 l.2 with ⟨es, accepted⟩ | ⟨f, stops⟩
    · obtain ⟨more, rest⟩ := ih
      exact ⟨es ++ more, .whole accepted rest⟩
    · cases stops with
      | noList none => exact ⟨[], .noList none⟩
      | refused items accepted refused =>
        obtain ⟨es, accepted⟩ := exists_accepted_iff.2 accepted
        exact ⟨es, .part items accepted refused⟩

theorem exists_adds (localOffset : Int) (data : Json) : ∃ es, Adds localOffset data es := by
  cases data with
  | obj members =>
    obtain ⟨es, brought⟩ := exists_brought members (lists localOffset)
    exact ⟨es, .records brought⟩
  | null | bool | int | float | str | arr => exact ⟨[], .nothing nofun⟩

/-- The entries go on with a fault, or they end. -/
theorem entries_of_brought {ls : List (Text × (Json → Verdict (Entry Exact)))}
    (brought : Brought members ls es) :
    ∃ rest, ls.flatMap (entriesIn members) = es.map .ok ++ rest ∧
      ∀ e ∈ rest.head?, ∃ f, e = .error f := by
  induction brought with
  | nil => exact ⟨[], rfl, nofun⟩
  | whole accepted _ ih =>
    obtain ⟨rest, later, fault⟩ := ih
    refine ⟨rest, ?_, fault⟩
    rw [List.flatMap_cons, entriesIn_of_accepts accepted, later, List.map_append, List.append_assoc]
  | @noList l ls none =>
    refine ⟨.error .noList :: ls.flatMap (entriesIn members), ?_, ?_⟩
    · rw [List.flatMap_cons, entriesIn_eq, none]
      rfl
    · rintro e ⟨⟩
      exact ⟨_, rfl⟩
  | @part l ls before after item r es items accepted refused =>
    refine ⟨.error (.refused r) ::
      ((after.map l.2).map result ++ ls.flatMap (entriesIn members)), ?_, ?_⟩
    · rw [List.flatMap_cons, entriesIn_of_refused items accepted refused, List.append_assoc,
        List.cons_append]
    · rintro e ⟨⟩
      exact ⟨_, rfl⟩

end Dataset

namespace Store

theorem load_of_adds {localOffset : Int} {data : Json} {es : List (Entry Exact)}
    (adds : Dataset.Adds localOffset data es) (s : Store Exact) :
    (s.load localOffset data).1 = es.foldl add s := by
  cases adds with
  | nothing other =>
    cases data with
    | obj members => exact absurd rfl (other members)
    | null | bool | int | float | str | arr => rfl
  | @records members _ brought =>
    obtain ⟨rest, split, fault⟩ := Dataset.entries_of_brought brought
    have entries : Dataset.entries localOffset (.obj members) = es.map .ok ++ rest := split
    unfold load
    rw [entries, addWhileAccepted_append]
    cases rest with
    | nil => rfl
    | cons e rest =>
      obtain ⟨f, rfl⟩ := fault e rfl
      rfl

end Store

namespace Entry

def person? : Entry Exact → Option (Person Exact)
  | .person p => some p
  | _ => none

def routine? : Entry Exact → Option (Routine Exact)
  | .routine r => some r
  | _ => none

def task? : Entry Exact → Option (Task Exact)
  | .task t => some t
  | _ => none

def completion? : Entry Exact → Option (Completion Exact)
  | .completion c => some c
  | _ => none

def goal? : Entry Exact → Option (GoalProgress Exact)
  | .goal g => some g
  | _ => none

def condition? : Entry Exact → Option (Condition Exact)
  | .condition c => some c
  | _ => none

end Entry

inductive Change where
  | add (e : Entry Exact)
  | delete (condition : Text)

namespace Change
open Table (Edit)

/-- What a change writes of a kind of records that are never deleted. -/
def write? {α : Type} (kind? : Entry Exact → Option α) : Change → Option (Edit α)
  | .add e => (kind? e).map .write
  | .delete _ => none

def condition? : Change → Option (Edit (Condition Exact))
  | .add e => e.condition?.map .write
  | .delete name => some (.delete name)

def completion? : Change → Option (Completion Exact)
  | .add e => e.completion?
  | .delete _ => none

end Change

namespace Store

def change (s : Store Exact) : Change → Store Exact
  | .add e => s.add e
  | .delete name => (s.removeCondition name).2

/-- The store is what the history leaves: of every kind the records that stand, and all
completions. -/
structure Reflects (history : List Change) (s : Store Exact) : Prop where
  persons : Table.Reflects (history.filterMap (Change.write? Entry.person?)) s.persons
  routines : Table.Reflects (history.filterMap (Change.write? Entry.routine?)) s.routines
  tasks : Table.Reflects (history.filterMap (Change.write? Entry.task?)) s.tasks
  goals : Table.Reflects (history.filterMap (Change.write? Entry.goal?)) s.goals
  conditions : Table.Reflects (history.filterMap Change.condition?) s.conditions
  completions : s.completions = history.filterMap Change.completion?

end Store

/-- A change that does not concern a table leaves it as it is. -/
theorem Table.Reflects.next {α : Type} [Keyed α] {edit? : Change → Option (Edit α)}
    {history : List Change} {t : List α} (reflects : Reflects (history.filterMap edit?) t)
    (named : ∀ a : α, ∃ name, Keyed.key a = .value name) (c : Change) :
    Reflects ((history ++ [c]).filterMap edit?) ((edit? c).elim t (Table.edit t)) := by
  rw [List.filterMap_append]
  cases kind : edit? c with
  | none =>
    rw [List.filterMap_cons_none kind, List.filterMap_nil, List.append_nil]
    exact reflects
  | some e =>
    rw [List.filterMap_cons_some kind, List.filterMap_nil]
    exact reflects.edit named e

namespace Store
variable {s : Store Exact} {history : List Change}

theorem reflects_empty : Reflects [] empty :=
  ⟨.nil, .nil, .nil, .nil, .nil, rfl⟩

theorem Reflects.change (reflects : s.Reflects history) (c : Change) :
    (s.change c).Reflects (history ++ [c]) := by
  have persons := reflects.persons.next (fun p => ⟨p.id, rfl⟩) c
  have routines := reflects.routines.next (fun r => ⟨r.id, rfl⟩) c
  have tasks := reflects.tasks.next (fun t => ⟨t.id, rfl⟩) c
  have goals := reflects.goals.next (fun g => ⟨g.goalId, rfl⟩) c
  have conditions := reflects.conditions.next (fun d => ⟨d.id, rfl⟩) c
  have completions : (s.change c).completions = (history ++ [c]).filterMap Change.completion? := by
    rw [List.filterMap_append, ← reflects.completions]
    cases c with
    | add e => cases e <;> simp [Store.change, add, Change.completion?, Entry.completion?]
    | delete name => simp [Store.change, removeCondition, eraseCondition, Change.completion?]
  cases c with
  | add e => cases e <;> exact ⟨persons, routines, tasks, goals, conditions, completions⟩
  | delete name => exact ⟨persons, routines, tasks, goals, conditions, completions⟩

/-- Whatever happens to a store, it reflects its history. -/
theorem reflects_foldl (history : List Change) : (history.foldl change empty).Reflects history := by
  induction history using List.reverseRecOn with
  | nil => exact reflects_empty
  | append_singleton history c ih =>
    rw [List.foldl_append]
    exact ih.change c

end Store

inductive Call where
  | add (e : Entry Exact)
  | save (c : Condition Exact)
  | delete (condition : Text)
  | load (localOffset : Int) (data : Json)

/-- The changes that a call amounts to. -/
inductive Call.AmountsTo : Call → List Change → Prop where
  | add {e : Entry Exact} : AmountsTo (.add e) [.add e]
  | save {c : Condition Exact} : AmountsTo (.save c) [.add (.condition c)]
  | delete {name : Text} : AmountsTo (.delete name) [.delete name]
  | load {localOffset : Int} {data : Json} {es : List (Entry Exact)}
    (adds : Dataset.Adds localOffset data es) :
    AmountsTo (.load localOffset data) (es.map .add)

def Amounts (calls : List Call) (history : List Change) : Prop :=
  ∃ parts, List.Forall₂ Call.AmountsTo calls parts ∧ history = parts.flatten

theorem exists_amounts (calls : List Call) : ∃ history, Amounts calls history := by
  induction calls with
  | nil => exact ⟨[], [], .nil, rfl⟩
  | cons c calls ih =>
    obtain ⟨_, parts, later, rfl⟩ := ih
    have first : ∃ changes, c.AmountsTo changes := by
      cases c with
      | add e => exact ⟨_, .add⟩
      | save c => exact ⟨_, .save⟩
      | delete name => exact ⟨_, .delete⟩
      | load localOffset data =>
        obtain ⟨es, adds⟩ := Dataset.exists_adds localOffset data
        exact ⟨_, .load adds⟩
    obtain ⟨changes, amounts⟩ := first
    exact ⟨_, changes :: parts, .cons amounts later, rfl⟩

namespace Store
variable {s : Store Exact} {history : List Change}

def call (s : Store Exact) : Call → Store Exact
  | .add e => s.add e
  | .save c => s.add (.condition c)
  | .delete name => (s.removeCondition name).2
  | .load localOffset data => (s.load localOffset data).1

theorem call_eq {c : Call} {changes : List Change} (amounts : c.AmountsTo changes)
    (s : Store Exact) : s.call c = changes.foldl change s := by
  cases amounts with
  | add => rfl
  | save => rfl
  | delete => rfl
  | load adds =>
    rw [List.foldl_map]
    exact load_of_adds adds s

theorem calls_eq {calls : List Call} (amounts : Amounts calls history) (s : Store Exact) :
    calls.foldl call s = history.foldl change s := by
  obtain ⟨parts, each, rfl⟩ := amounts
  induction each generalizing s with
  | nil => rfl
  | cons first _ ih => rw [List.foldl_cons, call_eq first, ih, List.flatten_cons, List.foldl_append]

/-- Deleting tells whether the name stood, and takes nothing else away. -/
structure Deletes (s : Store Exact) (history : List Change) (name : Text) : Prop where
  answer : (s.removeCondition name).1 = true ↔
    Table.Stands (history.filterMap Change.condition?) name
  left : (s.removeCondition name).2 =
    { s with conditions := s.conditions.filter fun c => c.id != name }

theorem Reflects.deletes (reflects : s.Reflects history) (name : Text) :
    s.Deletes history name where
  answer := reflects.conditions.has_iff
  left := rfl

/-- A store that begins empty holds after any calls what these amount to, and a deletion answers
accordingly. -/
theorem reflects_of_calls (calls : List Call) :
    (∃ history, Amounts calls history) ∧ ∀ history, Amounts calls history →
      (calls.foldl call empty).Reflects history ∧ ∀ name,
        (calls.foldl call empty).Deletes history name := by
  refine ⟨exists_amounts calls, fun history amounts => ?_⟩
  have reflects : (calls.foldl call empty).Reflects history := by
    rw [calls_eq amounts]
    exact reflects_foldl history
  exact ⟨reflects, reflects.deletes⟩

def secondRefused : List (Text × Json) :=
  [("persons", .arr [.obj [("id", .str "P")], .obj [], .obj [("id", .str "Q")]])]

def rewritings : List Call :=
  [.add (.condition ⟨"c", "R", true, .and, []⟩), .add (.condition ⟨"d", "R", true, .and, []⟩),
    .save ⟨"c", "R", false, .and, []⟩, .delete "c", .load 0 (.obj secondRefused),
    .save ⟨"c", "R", true, .or, []⟩]

def rewritten : List Change :=
  [.add (.condition ⟨"c", "R", true, .and, []⟩), .add (.condition ⟨"d", "R", true, .and, []⟩),
    .add (.condition ⟨"c", "R", false, .and, []⟩), .delete "c", .add (.person ⟨"P", ""⟩),
    .add (.condition ⟨"c", "R", true, .or, []⟩)]

theorem rewritings_reflected :
    Amounts rewritings rewritten ∧ (rewritings.foldl call empty).Reflects rewritten ∧
      Table.names (rewritings.foldl call empty).conditions = ["d", "c"] ∧
      ((rewritings.foldl call empty).removeCondition "d").1 = true := by
  have items : Dataset.itemsIn? secondRefused "persons" =
      some ([.obj [("id", .str "P")]] ++ .obj [] :: [.obj [("id", .str "Q")]]) := rfl
  have adds : Dataset.Adds 0 (.obj secondRefused) [.person ⟨"P", ""⟩] :=
    .records (.part items rfl rfl)
  have amounts : Amounts rewritings rewritten :=
    ⟨_, .cons .add
      (.cons .add (.cons .save (.cons .delete (.cons (.load adds) (.cons .save .nil))))), rfl⟩
  exact ⟨amounts, ((reflects_of_calls rewritings).2 rewritten amounts).1, by decide +kernel,
    by decide +kernel⟩

end Store
end RoutineVisibility
