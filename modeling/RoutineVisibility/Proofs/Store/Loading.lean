import Mathlib.Data.Set.List
import RoutineVisibility.Proofs.Authoring.Outcome
import RoutineVisibility.Store.Dataset

/-! A data set is loaded whole, or up to its first fault. -/
namespace RoutineVisibility

def Table.ofList {α : Type} [Keyed α] (records : List α) : List α :=
  records.foldl (fun t a => insert a t) []

namespace Dataset

/-- The items that the list of a name goes through: none if it is not there. -/
def itemsIn? (members : List (Text × Json)) (name : Text) : Option (List Json) :=
  (Json.findMember? members name).elim (some []) items?

/-- The items of a list are all accepted, as these records. -/
def Accepts {α : Type} (members : List (Text × Json)) (name : Text) (read : Json → Verdict α)
    (records : List α) : Prop :=
  ∃ items, itemsIn? members name = some items ∧ items.map read = records.map .accept

inductive Stops {α : Type} (members : List (Text × Json)) (name : Text) (read : Json → Verdict α) :
    LoadFault → Prop where
  | noList (none : itemsIn? members name = none) : Stops members name read .noList
  | refused {before after : List Json} {item : Json} {r : Refusal}
    (items : itemsIn? members name = some (before ++ item :: after))
    (accepted : ∀ earlier ∈ before, ∃ record, read earlier = .accept record)
    (refused : read item = .refuse r) :
    Stops members name read (.refused r)

/-- The first fault on the way through a data set: all lists before that of the fault are
accepted. -/
inductive FirstFault (localOffset : Int) : Json → LoadFault → Prop where
  | noObject {data : Json} (other : ∀ members, data ≠ .obj members) :
    FirstFault localOffset data .noObject
  | inList {members : List (Text × Json)}
    {before after : List (Text × (Json → Verdict (Entry Exact)))}
    {l : Text × (Json → Verdict (Entry Exact))} {f : LoadFault}
    (order : lists localOffset = before ++ l :: after)
    (accepted : ∀ earlier ∈ before, ∃ es, Accepts members earlier.1 earlier.2 es)
    (stops : Stops members l.1 l.2 f) :
    FirstFault localOffset (.obj members) f

structure Records where
  persons : List (Person Exact)
  routines : List (Routine Exact)
  tasks : List (Task Exact)
  completions : List (Completion Exact)
  goals : List (GoalProgress Exact)
  conditions : List (Condition Exact)

/-- All lists of a data set are accepted, as these records. -/
structure Brings (localOffset : Int) (members : List (Text × Json)) (r : Records) : Prop where
  persons : Accepts members "persons" Person.validate r.persons
  routines : Accepts members "routines" Routine.validate r.routines
  tasks : Accepts members "tasks" Task.validate r.tasks
  completions : Accepts members "completions" (Completion.validate localOffset) r.completions
  goals : Accepts members "goals" GoalProgress.validate r.goals
  conditions : Accepts members "conditions" Condition.validate r.conditions

def Records.entries (r : Records) : List (Entry Exact) :=
  r.persons.map .person ++ (r.routines.map .routine ++
    (r.tasks.map .task ++ (r.completions.map .completion ++
      (r.goals.map .goal ++ r.conditions.map .condition))))

variable {localOffset : Int} {members : List (Text × Json)} {name : Text} {f : LoadFault}

section
variable {α β : Type} {read : Json → Verdict α} {records : List α}

theorem exists_accepted_iff {items : List Json} :
    (∃ records : List α, items.map read = records.map .accept) ↔
      ∀ item ∈ items, ∃ record, read item = .accept record := by
  have range := Set.ext_iff.1 (Set.range_list_map (Verdict.accept : α → Verdict α)) (items.map read)
  simpa only [Set.mem_range, Set.mem_ofPred_eq, List.forall_mem_map, eq_comm] using range

theorem exists_accepts_iff : (∃ records, Accepts members name read records) ↔
    ∃ items, itemsIn? members name = some items ∧ ∀ item ∈ items, ∃ record,
      read item = .accept record := by
  unfold Accepts
  rw [exists_comm]
  exact exists_congr fun items => exists_and_left.trans (and_congr_right' exists_accepted_iff)

theorem accepts_map (wrap : α → β) (lists : Accepts members name read records) :
    Accepts members name (fun v => wrap <$> read v) (records.map wrap) := by
  obtain ⟨items, there, accepted⟩ := lists
  refine ⟨items, there, ?_⟩
  have wrapped := congrArg (List.map (wrap <$> ·)) accepted
  rw [List.map_map, List.map_map] at wrapped
  rw [List.map_map]
  exact wrapped

theorem exists_accepts_of_map {wrap : α → β}
    (lists : ∃ wrapped, Accepts members name (fun v => wrap <$> read v) wrapped) :
    ∃ records, Accepts members name read records := by
  obtain ⟨items, there, accepted⟩ := exists_accepts_iff.1 lists
  refine exists_accepts_iff.2 ⟨items, there, fun item mem => ?_⟩
  obtain ⟨_, accept⟩ := accepted item mem
  obtain ⟨record, accept, -⟩ := Verdict.map_eq_accept.1 accept
  exact ⟨record, accept⟩

def result : Verdict α → Except LoadFault α
  | .accept a => .ok a
  | .refuse r => .error (.refused r)

theorem result_eq_ok_iff {v : Verdict α} {a : α} : result v = .ok a ↔ v = .accept a := by
  cases v <;> simp [result]

theorem result_eq_error_iff {v : Verdict α} :
    result v = .error f ↔ ∃ r, v = .refuse r ∧ f = .refused r := by
  cases v <;> simp [result, eq_comm]

theorem accepts_or_stops (members : List (Text × Json)) (name : Text) (read : Json → Verdict α) :
    (∃ records, Accepts members name read records) ∨ ∃ f, Stops members name read f := by
  cases there : itemsIn? members name with
  | none => exact Or.inr ⟨_, .noList there⟩
  | some items =>
    rcases Except.exists_first_error (fun item => result (read item)) items with
      answers | ⟨before, item, after, f, rfl, answers, failed⟩
    · refine Or.inl (exists_accepts_iff.2 ⟨items, there, fun item mem => ?_⟩)
      exact (answers item mem).imp fun _ => result_eq_ok_iff.1
    · obtain ⟨r, refused, rfl⟩ := result_eq_error_iff.1 failed
      exact Or.inr ⟨_,
        .refused there (fun item mem => (answers item mem).imp fun _ => result_eq_ok_iff.1) refused⟩

end

section
variable {l : Text × (Json → Verdict (Entry Exact))}
  {ls : List (Text × (Json → Verdict (Entry Exact)))}

def entriesIn (members : List (Text × Json)) (l : Text × (Json → Verdict (Entry Exact))) :
    List (Except LoadFault (Entry Exact)) :=
  (Json.findMember? members l.1).elim [] (readings l.2)

theorem entriesIn_eq (members : List (Text × Json)) (l : Text × (Json → Verdict (Entry Exact))) :
    entriesIn members l = (itemsIn? members l.1).elim [.error .noList] fun items =>
      (items.map l.2).map result := by
  unfold entriesIn itemsIn?
  cases Json.findMember? members l.1 with
  | none => rfl
  | some v =>
    show readings l.2 v = (items? v).elim _ _
    unfold readings
    cases items? v with
    | none => rfl
    | some items =>
      show items.map _ = (items.map l.2).map result
      rw [List.map_map]
      refine List.map_congr_left fun item _ => ?_
      show _ = result (l.2 item)
      cases l.2 item <;> rfl

theorem entriesIn_of_accepts {es : List (Entry Exact)} (lists : Accepts members l.1 l.2 es) :
    entriesIn members l = es.map .ok := by
  obtain ⟨items, there, accepted⟩ := lists
  rw [entriesIn_eq, there, Option.elim_some, accepted, List.map_map]
  rfl

/-- A list is read up to the first item that is refused. -/
theorem entriesIn_of_refused {before after : List Json} {item : Json} {r : Refusal}
    {es : List (Entry Exact)} (items : itemsIn? members l.1 = some (before ++ item :: after))
    (accepted : before.map l.2 = es.map .accept) (refused : l.2 item = .refuse r) :
    entriesIn members l = es.map .ok ++ .error (.refused r) :: (after.map l.2).map result := by
  rw [entriesIn_eq, items, Option.elim_some, List.map_append, List.map_append, List.map_cons,
    List.map_cons, accepted, refused, List.map_map]
  rfl

theorem entriesIn_of_stops (stops : Stops members l.1 l.2 f) :
    ∃ (es : List (Entry Exact)) (rest : _), entriesIn members l = es.map .ok ++
      .error f :: rest := by
  cases stops with
  | noList none =>
    rw [entriesIn_eq, none]
    exact ⟨[], [], rfl⟩
  | refused items accepted refused =>
    obtain ⟨es, accepted⟩ := exists_accepted_iff.2 accepted
    exact ⟨es, _, entriesIn_of_refused items accepted refused⟩

theorem flatMap_entriesIn_of_accepts (accepted : ∀ l ∈ ls, ∃ es, Accepts members l.1 l.2 es) :
    ∃ es : List (Entry Exact), ls.flatMap (entriesIn members) = es.map .ok := by
  induction ls with
  | nil => exact ⟨[], rfl⟩
  | cons l ls ih =>
    obtain ⟨⟨es, lists⟩, accepted⟩ := List.forall_mem_cons.1 accepted
    obtain ⟨more, rest⟩ := ih accepted
    exact ⟨es ++ more, by rw [List.flatMap_cons, entriesIn_of_accepts lists, rest, List.map_append]⟩

theorem FirstFault.kind {data : Json} (first : FirstFault localOffset data f) :
    f = .noObject ∨ f = .noList ∨ ∃ r, f = .refused r := by
  cases first with
  | noObject other => exact Or.inl rfl
  | inList order accepted stops =>
    cases stops with
    | noList none => exact Or.inr (Or.inl rfl)
    | refused items accepted refused => exact Or.inr (Or.inr ⟨_, rfl⟩)

theorem entries_of_firstFault {data : Json} (first : FirstFault localOffset data f) :
    ∃ (es : List (Entry Exact)) (rest : _), entries localOffset data = es.map .ok ++
      .error f :: rest := by
  cases first with
  | noObject other =>
    refine ⟨[], [], ?_⟩
    cases data with
    | obj members => exact absurd rfl (other members)
    | null | bool | int | float | str | arr => rfl
  | @inList members before after l f order accepted stops =>
    obtain ⟨es, earlier⟩ := flatMap_entriesIn_of_accepts accepted
    obtain ⟨own, rest, later⟩ := entriesIn_of_stops stops
    refine ⟨es ++ own, rest ++ after.flatMap (entriesIn members), ?_⟩
    show (lists localOffset).flatMap (entriesIn members) = _
    rw [order, List.flatMap_append, List.flatMap_cons, earlier, later, List.map_append,
      List.append_assoc, List.append_assoc, List.cons_append]

/-- All lists are accepted, or one is the first that is not. -/
theorem accepts_or_firstFault (members : List (Text × Json))
    (ls : List (Text × (Json → Verdict (Entry Exact)))) :
    (∀ l ∈ ls, ∃ es, Accepts members l.1 l.2 es) ∨
      ∃ before l after f, ls = before ++ l :: after ∧
        (∀ l ∈ before, ∃ es, Accepts members l.1 l.2 es) ∧
        Stops members l.1 l.2 f := by
  induction ls with
  | nil => exact Or.inl fun l mem => nomatch mem
  | cons l ls ih =>
    rcases accepts_or_stops members l.1 l.2 with lists | ⟨f, stops⟩
    · rcases ih with accepted | ⟨before, k, after, f, order, accepted, stops⟩
      · exact Or.inl (List.forall_mem_cons.2 ⟨lists, accepted⟩)
      · exact Or.inr ⟨l :: before, k, after, f, by rw [order, List.cons_append],
          List.forall_mem_cons.2 ⟨lists, accepted⟩, stops⟩
    · exact Or.inr ⟨[], l, ls, f, rfl, fun l mem => (nomatch mem), stops⟩

end

/-- Either a data set brings records, or there is a first fault in it. -/
theorem brings_or_firstFault (localOffset : Int) (data : Json) :
    (∃ members r, data = .obj members ∧ Brings localOffset members r) ∨
      ∃ f, FirstFault localOffset data f := by
  cases data with
  | obj members =>
    rcases accepts_or_firstFault members (lists localOffset) with accepted | ⟨before, l, after, f,
      order, accepted, stops⟩
    · simp only [lists, List.forall_mem_cons] at accepted
      obtain ⟨persons, routines, tasks, completions, goals, conditions, -⟩ := accepted
      obtain ⟨ps, persons⟩ := exists_accepts_of_map persons
      obtain ⟨rs, routines⟩ := exists_accepts_of_map routines
      obtain ⟨ts, tasks⟩ := exists_accepts_of_map tasks
      obtain ⟨cs, completions⟩ := exists_accepts_of_map completions
      obtain ⟨gs, goals⟩ := exists_accepts_of_map goals
      obtain ⟨ds, conditions⟩ := exists_accepts_of_map conditions
      exact Or.inl ⟨members, ⟨ps, rs, ts, cs, gs, ds⟩, rfl, persons, routines, tasks, completions,
        goals, conditions⟩
    · exact Or.inr ⟨f, .inList order accepted stops⟩
  | null | bool | int | float | str | arr =>
    exact Or.inr ⟨_, .noObject fun members same => nomatch same⟩

theorem entries_of_brings {r : Records} (brings : Brings localOffset members r) :
    entries localOffset (.obj members) = r.entries.map .ok := by
  have persons :=
    entriesIn_of_accepts (l := ("persons", _)) (accepts_map Entry.person brings.persons)
  have routines :=
    entriesIn_of_accepts (l := ("routines", _)) (accepts_map Entry.routine brings.routines)
  have tasks := entriesIn_of_accepts (l := ("tasks", _)) (accepts_map Entry.task brings.tasks)
  have completions :=
    entriesIn_of_accepts (l := ("completions", _)) (accepts_map Entry.completion brings.completions)
  have goals := entriesIn_of_accepts (l := ("goals", _)) (accepts_map Entry.goal brings.goals)
  have conditions :=
    entriesIn_of_accepts (l := ("conditions", _)) (accepts_map Entry.condition brings.conditions)
  show (lists localOffset).flatMap (entriesIn members) = _
  simp only [lists, List.flatMap_cons, List.flatMap_nil, List.append_nil, persons, routines, tasks,
    completions, goals, conditions, Records.entries, List.map_append]

end Dataset

theorem Entry.held_exact (e : Entry Exact) : (e.held : Entry Exact) = e := by
  cases e with
  | condition c => exact congrArg Entry.condition c.held_exact
  | person | routine | task | completion | goal => rfl

namespace Store

def ofRecords (r : Dataset.Records) : Store Exact where
  persons := Table.ofList r.persons
  routines := Table.ofList r.routines
  tasks := Table.ofList r.tasks
  completions := r.completions
  goals := Table.ofList r.goals
  conditions := Table.ofList r.conditions

theorem addWhileAccepted_append (s : Store Exact) (es : List (Entry Exact))
    (rest : List (Except LoadFault (Entry Exact))) :
    s.addWhileAccepted (es.map .ok ++ rest) = (es.foldl add s).addWhileAccepted rest := by
  induction es generalizing s with
  | nil => rfl
  | cons e es ih =>
    show (s.add e.held).addWhileAccepted (es.map .ok ++ rest) = _
    rw [e.held_exact, ih, List.foldl_cons]

/-- Entries of one kind fill one part of a store. -/
theorem foldl_add_map {α : Type} (fill : List α → Store Exact) (write : List α → α → List α)
    (wrap : α → Entry Exact) (added : ∀ t a, (fill t).add (wrap a) = fill (write t a))
    (records t : List α) :
    (records.map wrap).foldl add (fill t) = fill (records.foldl write t) := by
  induction records generalizing t with
  | nil => rfl
  | cons a records ih => rw [List.map_cons, List.foldl_cons, added, ih, List.foldl_cons]

theorem foldl_add_entries (r : Dataset.Records) : r.entries.foldl add empty = ofRecords r := by
  have persons : (r.persons.map .person).foldl add empty = { persons := Table.ofList r.persons } :=
    foldl_add_map (fun t => { persons := t }) _ _ (fun _ _ => rfl) _ _
  have routines : (r.routines.map .routine).foldl add { persons := Table.ofList r.persons } =
      { ofRecords r with tasks := [], completions := [], goals := [], conditions := [] } :=
    foldl_add_map (fun t => { persons := Table.ofList r.persons, routines := t })
      _ _ (fun _ _ => rfl) _ _
  have tasks : (r.tasks.map .task).foldl add
        { ofRecords r with tasks := [], completions := [], goals := [], conditions := [] } =
      { ofRecords r with completions := [], goals := [], conditions := [] } :=
    foldl_add_map
      (fun t => { ofRecords r with tasks := t, completions := [], goals := [], conditions := [] })
      _ _ (fun _ _ => rfl) _ _
  have completions : (r.completions.map .completion).foldl add
        { ofRecords r with completions := [], goals := [], conditions := [] } =
      { ofRecords r with goals := [], conditions := [] } := by
    rw [foldl_add_map
      (fun t => { ofRecords r with completions := t, goals := [], conditions := [] })
      (fun t c => t ++ [c]) _ fun _ _ => rfl, List.foldl_append_eq_append, List.nil_append,
      ← List.flatMap_def, List.flatMap_singleton']
    rfl
  have goals : (r.goals.map .goal).foldl add { ofRecords r with goals := [], conditions := [] } =
      { ofRecords r with conditions := [] } :=
    foldl_add_map (fun t => { ofRecords r with goals := t, conditions := [] })
      _ _ (fun _ _ => rfl) _ _
  have conditions : (r.conditions.map .condition).foldl add { ofRecords r with conditions := [] } =
      ofRecords r :=
    foldl_add_map (fun t => { ofRecords r with conditions := t }) _ _ (fun _ _ => rfl) _ _
  rw [Dataset.Records.entries, List.foldl_append, persons, List.foldl_append, routines,
    List.foldl_append, tasks, List.foldl_append, completions, List.foldl_append, goals, conditions]

theorem ofData_of_brings {localOffset : Int} {members : List (Text × Json)} {r : Dataset.Records}
    (brings : Dataset.Brings localOffset members r) :
    ofData localOffset (.obj members) = .ok (ofRecords r) := by
  have loaded : load (F := Exact) empty localOffset (.obj members) = (ofRecords r, none) := by
    unfold load
    rw [Dataset.entries_of_brings brings, ← List.append_nil (r.entries.map _),
      addWhileAccepted_append, foldl_add_entries]
    rfl
  unfold ofData
  rw [loaded]

theorem ofData_of_firstFault {localOffset : Int} {data : Json} {f : LoadFault}
    (first : Dataset.FirstFault localOffset data f) :
    ofData (F := Exact) localOffset data = .error f := by
  obtain ⟨es, rest, entries⟩ := Dataset.entries_of_firstFault first
  have loaded : load (F := Exact) empty localOffset data = (es.foldl add empty, some f) := by
    unfold load
    rw [entries, addWhileAccepted_append]
    rfl
  unfold ofData
  rw [loaded]

end Store
end RoutineVisibility
