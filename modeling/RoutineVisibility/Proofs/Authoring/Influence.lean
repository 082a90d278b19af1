import RoutineVisibility.Proofs.Authoring.Judgement
import RoutineVisibility.Proofs.Evaluation.Congruence
import RoutineVisibility.Proofs.Evaluation.Shown

/-! What a write of a condition changes in what a person sees. -/
namespace RoutineVisibility
namespace Store
variable {setting : Setting} {person : Text} {context : Context} {condition : Text}

namespace SameBut

section
variable {F : Type → Type} [Holding F] {s t : Store F}

theorem eq (same : s.SameBut condition t) : t = { s with conditions := t.conditions } := by
  have same : t.eraseCondition (.value condition) = s.eraseCondition (.value condition) := same
  have persons : t.persons = s.persons := (congrArg Store.persons same :)
  have routines : t.routines = s.routines := (congrArg Store.routines same :)
  have tasks : t.tasks = s.tasks := (congrArg Store.tasks same :)
  have completions : t.completions = s.completions := (congrArg Store.completions same :)
  have goals : t.goals = s.goals := (congrArg Store.goals same :)
  rw [← persons, ← routines, ← tasks, ← completions, ← goals]

theorem persons (same : s.SameBut condition t) : t.persons = s.persons := by
  rw [same.eq]

theorem has_persons (same : s.SameBut condition t) (known : Table.has s.persons (.value person)) :
    Table.has t.persons (.value person) := by
  rw [same.persons]
  exact known

theorem routines (same : s.SameBut condition t) : t.routines = s.routines := by
  rw [same.eq]

theorem tasks (same : s.SameBut condition t) : t.tasks = s.tasks := by
  rw [same.eq]

theorem erase_eq (same : s.SameBut condition t) :
    Table.erase (.value condition) t.conditions = Table.erase (.value condition) s.conditions := by
  have same : t.eraseCondition (.value condition) = s.eraseCondition (.value condition) := same
  exact (congrArg Store.conditions same :)

theorem find?_eq (same : s.SameBut condition t) {name : Text} (other : name ≠ condition) :
    Table.find? t.conditions (.value name) = Table.find? s.conditions (.value name) := by
  rw [← Table.find?_erase_of_ne other, same.erase_eq, Table.find?_erase_of_ne other]

theorem mem_conditions (same : s.SameBut condition t) {c : Condition F}
    (other : view c.id ≠ .value condition) (mem : c ∈ s.conditions) : c ∈ t.conditions := by
  have kept : c ∈ Table.erase (.value condition) s.conditions := Table.mem_erase_iff.2 ⟨mem, other⟩
  rw [← same.erase_eq] at kept
  exact Table.mem_of_mem_erase kept

theorem evaluate_eq (same : s.SameBut condition t) (c : Condition F) :
    c.evaluate t setting person context = c.evaluate s setting person context := by
  rw [same.eq]
  rfl

theorem evaluateCondition_eq (same : s.SameBut condition t) {name : Text}
    (other : name ≠ condition) :
    t.evaluateCondition setting (.value name) person context =
      s.evaluateCondition setting (.value name) person context :=
  evaluateCondition_congr (same.find?_eq other) same.persons fun c _ => same.evaluate_eq c

end

variable {s t : Store Exact}

theorem isTaskVisible_eq (same : s.SameBut condition t) {task : Text}
    (free : ∀ record, Table.find? s.tasks (.value task) = some record →
      record.conditionId ≠ some condition) :
    t.isTaskVisible setting task person context = s.isTaskVisible setting task person context := by
  refine isTaskVisible_congr (by rw [same.tasks]) same.persons fun record found => ?_
  cases named : record.conditionId with
  | none => rw [showsTask_of_plain (Or.inr named), showsTask_of_plain (Or.inr named)]
  | some name =>
    have other : name ≠ condition := by
      rintro rfl
      exact free record found named
    refine showsTask_congr fun _ => ?_
    rw [view_exact, named]
    exact same.evaluateCondition_eq other

end SameBut

/-- One store comes from the other by a write of a condition. Its entries before and after it are
given, if any. -/
structure Rewrites (s t : Store Exact) (condition : Text)
    (before after : Option (Condition Exact)) : Prop where
  sameBut : s.SameBut condition t
  distinct : s.Distinct
  distinct' : t.Distinct
  before : Table.find? s.conditions (.value condition) = before
  after : Table.find? t.conditions (.value condition) = after

/-- A person gets the same answers from two stores, unless they are about a condition, its routine
or a task that names it. -/
structure AnswersAlike (s t : Store Exact) (setting : Setting) (person : Text) (context : Context)
    (condition owner : Text) : Prop where
  conditions : ∀ name, name ≠ condition →
    t.evaluateCondition setting (.value name) person context =
      s.evaluateCondition setting (.value name) person context
  routines : ∀ routine, routine ≠ owner →
    t.isRoutineVisible setting routine person context =
      s.isRoutineVisible setting routine person context
  tasks : ∀ task, (∀ record, Table.find? s.tasks (.value task) = some record →
    record.conditionId ≠ some condition) →
    t.isTaskVisible setting task person context = s.isTaskVisible setting task person context

variable {s t : Store Exact} {x : Condition Exact}

namespace Rewrites
variable {before after : Option (Condition Exact)} {routine owner : Text}

theorem symm (write : s.Rewrites t condition before after) : t.Rewrites s condition after before :=
  ⟨Eq.symm write.sameBut, write.distinct', write.distinct, write.after, write.before⟩

/-- A condition that does not control the routine is none of those that do. -/
theorem apart (write : s.Rewrites t condition before after)
    (silent : ∀ c ∈ before, c.routineId = routine → c.controlsRoutine = false) {c : Condition Exact}
    (mem : c ∈ s.routineConditions (.value routine) (some true)) : c.id ≠ condition := by
  rintro rfl
  obtain ⟨listed, owned, controls⟩ := mem_routineConditions.1 mem
  have entry : before = some c :=
    write.before.symm.trans (write.distinct.conditions.find? listed rfl)
  exact absurd (controls.symm.trans (silent c entry owned)) (by decide)

theorem routineConditions_eraseCondition (write : s.Rewrites t condition before after)
    (silent : ∀ c ∈ before, c.routineId = routine → c.controlsRoutine = false) :
    (s.eraseCondition (.value condition)).routineConditions (.value routine) (some true) =
      s.routineConditions (.value routine) (some true) :=
  Store.routineConditions_eraseCondition fun _ mem key =>
    write.apart silent mem (Field.value.inj (Field.sameKey_value_iff.1 key))

theorem isRoutineVisible_eq (write : s.Rewrites t condition before after)
    (silent : ∀ c ∈ before, c.routineId = routine → c.controlsRoutine = false)
    (silent' : ∀ c ∈ after, c.routineId = routine → c.controlsRoutine = false) :
    t.isRoutineVisible setting routine person context =
      s.isRoutineVisible setting routine person context := by
  have same := write.sameBut
  have conditions : t.routineConditions (.value routine) (some true) =
      s.routineConditions (.value routine) (some true) := by
    rw [← write.symm.routineConditions_eraseCondition silent', same,
      write.routineConditions_eraseCondition silent]
  refine isRoutineVisible_congr (by rw [same.routines]) same.persons conditions fun c mem => ?_
  exact same.evaluateCondition_eq (write.apart silent mem)

theorem answersAlike (write : s.Rewrites t condition before after)
    (owned : ∀ c ∈ before, c.routineId = owner) (owned' : ∀ c ∈ after, c.routineId = owner) :
    s.AnswersAlike t setting person context condition owner where
  conditions _ other := write.sameBut.evaluateCondition_eq other
  routines routine other := by
    refine write.isRoutineVisible_eq ?_ ?_
    · exact fun c entry foreign => absurd (foreign.symm.trans (owned c entry)) other
    · exact fun c entry foreign => absurd (foreign.symm.trans (owned' c entry)) other
  tasks _ free := write.sameBut.isTaskVisible_eq free

/-- A routine that is shown under one more condition is shown without it, and one that is hidden is
hidden with it. -/
theorem isRoutineVisible_mono (write : s.Rewrites t condition none after)
    (known : Table.has s.persons (.value person)) :
    (t.isRoutineVisible setting routine person context = .ok true →
        s.isRoutineVisible setting routine person context = .ok true) ∧
      (s.isRoutineVisible setting routine person context = .ok false →
        t.isRoutineVisible setting routine person context = .ok false) := by
  have same := write.sameBut
  have known' : Table.has t.persons (.value person) := same.has_persons known
  -- No condition of the store is the new one, so all of them stay.
  have more {c : Condition Exact} (listed : c ∈ s.conditions) : c ∈ t.conditions := by
    refine same.mem_conditions (fun named => ?_) listed
    exact absurd (write.before.symm.trans (write.distinct.conditions.find? listed named)) (by simp)
  rw [Store.isRoutineVisible_eq write.distinct known,
    Store.isRoutineVisible_eq write.distinct' known', same.routines]
  cases Table.find? s.routines (.value routine) with
  | none => simp
  | some record =>
    have met (c : Condition Exact) :
        c.met t setting person context = c.met s setting person context := by
      rw [same.eq]
      rfl
    have all : (t.routineConditions (.value routine) (some true)).all
        (fun c => c.met t setting person context) →
        (s.routineConditions (.value routine) (some true)).all fun c =>
          c.met s setting person context := by
      rw [List.all_eq_true, List.all_eq_true]
      intro shown c mem
      obtain ⟨listed, controls⟩ := mem_routineConditions.1 mem
      rw [← met c]
      exact shown c (mem_routineConditions.2 ⟨more listed, controls⟩)
    constructor
    · intro shown
      have shown := Bool.or_eq_true_iff.1 (Except.ok.inj shown)
      exact congrArg Except.ok (Bool.or_eq_true_iff.2 (shown.imp_right all))
    · intro hidden
      obtain ⟨smart, unmet⟩ := Bool.or_eq_false_iff.1 (Except.ok.inj hidden)
      have unmet' : (t.routineConditions (.value routine) (some true)).all
          (fun c => c.met t setting person context) =
          false := Bool.eq_false_iff.2 fun shown => Bool.eq_false_iff.1 unmet (all shown)
      exact congrArg Except.ok (Bool.or_eq_false_iff.2 ⟨smart, unmet'⟩)

end Rewrites

theorem rewrites_of_add (distinct : s.Distinct) {before : Option (Condition Exact)}
    (entry : Table.find? s.conditions (.value x.id) = before) :
    s.Rewrites (s.add (.condition x.held)) x.id before (some x) := by
  refine ⟨sameBut_add s x, distinct, distinct.add _, entry, ?_⟩
  rw [find?_add, x.held_exact]

theorem rewrites_of_createCondition (distinct : s.Distinct)
    (created : s.createCondition x = .ok t) : s.Rewrites t x.id none (some x) := by
  rw [← x.held_exact] at created
  obtain ⟨-, rfl⟩ := add_of_createCondition created
  exact rewrites_of_add distinct (free_of_createCondition created)

theorem rewrites_of_updateCondition (distinct : s.Distinct) {old : Condition Exact}
    (stored : Table.find? s.conditions (.value x.id) = some old)
    (updated : s.updateCondition x = .ok t) :
    s.Rewrites t x.id (some old) (some x) ∧ old.routineId = x.routineId := by
  rw [← x.held_exact] at updated
  obtain ⟨other, found, owned⟩ := stored_of_updateCondition updated
  obtain rfl : old = other := Option.some.inj (stored.symm.trans found)
  obtain ⟨-, rfl⟩ := add_of_updateCondition updated
  exact ⟨rewrites_of_add distinct stored, Field.value.inj owned⟩

theorem rewrites_of_deleteCondition (distinct : s.Distinct)
    (stored : Table.find? s.conditions (.value x.id) = some x)
    (deleted : s.deleteCondition x.id = .ok t) : s.Rewrites t x.id (some x) none := by
  obtain rfl := erase_of_deleteCondition deleted
  exact ⟨sameBut_eraseCondition s x.id, distinct, distinct.eraseCondition _, stored,
    Table.find?_erase _ _⟩

/-- A condition has a say in its own evaluation, in the tasks that name it, and in its routine, if
it controls it: to create it does not show the routine, and to delete it does not hide the
routine. -/
theorem answers_of_conditionWrite (s : Store Exact) (distinct : s.Distinct) (setting : Setting)
    (person : Text) (known : Table.has s.persons (.value person)) (context : Context) :
    (∀ x t, s.createCondition x = .ok t →
      s.AnswersAlike t setting person context x.id x.routineId ∧
      (s.isRoutineVisible setting x.routineId person context = .ok false →
        t.isRoutineVisible setting x.routineId person context = .ok false) ∧
      (x.controlsRoutine = false →
        t.isRoutineVisible setting x.routineId person context =
          s.isRoutineVisible setting x.routineId person context)) ∧
    (∀ x old t, Table.find? s.conditions (.value x.id) = some old → s.updateCondition x = .ok t →
      s.AnswersAlike t setting person context x.id x.routineId ∧
      (old.controlsRoutine = false → x.controlsRoutine = false →
        t.isRoutineVisible setting x.routineId person context =
          s.isRoutineVisible setting x.routineId person context)) ∧
    ∀ x t, Table.find? s.conditions (.value x.id) = some x → s.deleteCondition x.id = .ok t →
      s.AnswersAlike t setting person context x.id x.routineId ∧
      (s.isRoutineVisible setting x.routineId person context = .ok true →
        t.isRoutineVisible setting x.routineId person context = .ok true) ∧
      (x.controlsRoutine = false →
        t.isRoutineVisible setting x.routineId person context =
          s.isRoutineVisible setting x.routineId person context) := by
  refine ⟨fun x t created => ?_, fun x old t stored updated => ?_, fun x t stored deleted => ?_⟩
  · have write := rewrites_of_createCondition distinct created
    refine ⟨write.answersAlike ?_ ?_, (write.isRoutineVisible_mono known).2, fun silent => ?_⟩
    · exact fun c entry => nomatch entry
    · exact fun c entry => Option.some.inj entry ▸ rfl
    · exact write.isRoutineVisible_eq (fun c entry => nomatch entry) fun c entry _ =>
        Option.some.inj entry ▸ silent
  · obtain ⟨write, owned⟩ := rewrites_of_updateCondition distinct stored updated
    refine ⟨write.answersAlike ?_ ?_, fun silent silent' => write.isRoutineVisible_eq ?_ ?_⟩
    · exact fun c entry => Option.some.inj entry ▸ owned
    · exact fun c entry => Option.some.inj entry ▸ rfl
    · exact fun c entry _ => Option.some.inj entry ▸ silent
    · exact fun c entry _ => Option.some.inj entry ▸ silent'
  · have write := rewrites_of_deleteCondition distinct stored deleted
    have known' : Table.has t.persons (.value person) := write.sameBut.has_persons known
    refine ⟨write.answersAlike ?_ ?_, (write.symm.isRoutineVisible_mono known').1, fun silent => ?_⟩
    · exact fun c entry => Option.some.inj entry ▸ rfl
    · exact fun c entry => nomatch entry
    · exact write.isRoutineVisible_eq (fun c entry _ => Option.some.inj entry ▸ silent)
        fun c entry => nomatch entry

end Store

def Condition.onDay (condition owner : Text) (controls : Bool) (day : Int) : Condition Exact :=
  ⟨condition, owner, controls, .and,
    [⟨"1", .dayOfWeek, false, none, none, none, none, none, none, none, [day]⟩]⟩

namespace Store

/-- A routine that is shown on Sundays, and a task of another one that is shown together with it. -/
def sundays : Store Exact where
  persons := [⟨"P", ""⟩]
  routines := [⟨"R", "", .smart, .active, .daily, none⟩, ⟨"S", "", .smart, .active, .daily, none⟩]
  tasks := [⟨"T", "S", "", .smart, .active, 0, some "c"⟩]
  conditions := [.onDay "c" "R" true 0]

/-- Another condition that is not met on Sundays hides the routine if it controls it, but not the
task. Without its only condition the routine is still shown, while the task has no answer any
more. -/
theorem sundays_answers_of_conditionWrite :
    let setting : Setting := ⟨⟨.first, 0⟩, defaultResetTime⟩
    let sunday : Context := ⟨some .first, some 0⟩
    let controlling : Condition Exact := .onDay "d" "R" true 1
    let silent : Condition Exact := .onDay "d" "R" false 1
    let moved : Condition Exact := .onDay "c" "R" true 1
    sundays.createCondition controlling = .ok (sundays.add (.condition controlling)) ∧
      (sundays.add (.condition controlling)).isRoutineVisible setting "R" "P" sunday = .ok false ∧
      (sundays.add (.condition controlling)).isTaskVisible setting "T" "P" sunday = .ok true ∧
      sundays.createCondition silent = .ok (sundays.add (.condition silent)) ∧
      (sundays.add (.condition silent)).isRoutineVisible setting "R" "P" sunday = .ok true ∧
      sundays.updateCondition moved = .ok (sundays.add (.condition moved)) ∧
      (sundays.add (.condition moved)).isRoutineVisible setting "S" "P" sunday = .ok true ∧
      sundays.deleteCondition "c" = .ok (sundays.eraseCondition (.value "c")) ∧
      (sundays.eraseCondition (.value "c")).isRoutineVisible setting "R" "P" sunday = .ok true ∧
      (sundays.eraseCondition (.value "c")).isTaskVisible setting "T" "P" sunday =
        .error (.notFound .condition "c") := by
  intro setting sunday controlling silent moved
  have shown : sundays.isRoutineVisible setting "R" "P" sunday = .ok true := by decide +kernel
  obtain ⟨creates, updates, deletes⟩ :=
    answers_of_conditionWrite sundays (by decide +kernel) setting "P" (by decide) sunday
  obtain ⟨alike, -, -⟩ := creates controlling _ rfl
  obtain ⟨-, -, same⟩ := creates silent _ rfl
  obtain ⟨alikeMoved, -⟩ := updates moved (.onDay "c" "R" true 0) _ rfl rfl
  obtain ⟨-, kept, -⟩ := deletes (.onDay "c" "R" true 0) _ rfl rfl
  have task : sundays.isTaskVisible setting "T" "P" sunday = .ok true := by decide +kernel
  have other : sundays.isRoutineVisible setting "S" "P" sunday = .ok true := by decide +kernel
  refine ⟨rfl, by decide +kernel, ?_, rfl, (same rfl).trans shown, rfl, ?_, rfl, kept shown,
    by decide +kernel⟩
  · refine (alike.tasks "T" fun record found => ?_).trans task
    cases found
    decide
  · exact (alikeMoved.routines "S" (by decide)).trans other

end Store
end RoutineVisibility
