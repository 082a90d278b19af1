import RoutineVisibility.Proofs.Evaluation.Faults

/-! Further completions keep a condition met if none of its checks asks for few of them. -/
namespace RoutineVisibility

/-- Another outcome of a check is at least as good: it fails in the same way, if at all, and it is
met if this one is. -/
structure Outcome.AtMost (o o' : Outcome) : Prop where
  error : o'.error = o.error
  met : o.finalResult = true → o'.finalResult = true

theorem Outcome.AtMost.refl (o : Outcome) : o.AtMost o :=
  ⟨rfl, id⟩

theorem Outcome.AtMost.trans {o o' o'' : Outcome} (first : o.AtMost o') (second : o'.AtMost o'') :
    o.AtMost o'' :=
  ⟨second.error.trans first.error, fun met => second.met (first.met met)⟩

namespace Store
variable {s : Store Exact} {task person : Text} {since now : Moment}

/-- A record of a completion adds it to those that count, or leaves them alone. -/
theorem length_recorded_le_add (d : Completion Exact) :
    (s.recorded task person since now).length ≤
    ((s.add (.completion d)).recorded task person since now).length := by
  have appended : (s.add (.completion d)).completions = s.completions ++ [d] := rfl
  unfold recorded
  rw [appended, List.filter_append, List.length_append]
  omega

end Store

namespace Check
variable {c : Check Exact} {s : Store Exact} {setting : Setting} {person : Text} {context : Context}
  {time : TimeOfDay} {now : Moment}

def answerTo (c : Check Exact) (n : Nat) : Except Fault Bool :=
  match (c.operator : Operator) with
  | .taskCompleted => .ok (decide (0 < n))
  | .taskNotCompleted => .ok (decide (n = 0))
  | .taskCount comparison =>
    ((Operand.integer c.operand 0).mapError .numeral).map (comparison.ofInts n)
  | _ => .ok false

/-- Checks of a task that ask for no value look at the number of its completions only. -/
theorem evaluate_eq_answerTo (ofTask : Operator.category? c.operator = some .task)
    (counts : ∀ comparison, c.operator ≠ .taskValue comparison) :
    c.evaluate s setting person context =
      c.taskCompletions s setting.resetTime person (context.now setting.clock) >>= fun log =>
        c.answerTo log.length := by
  cases found : c.taskCompletions s setting.resetTime person (context.now setting.clock) with
  | error f => exact evaluate_of_taskCompletions_error ofTask found
  | ok log =>
    have answered : c.evaluate s setting person context = c.answerTo log.length := by
      rcases Operator.of_task ofTask with op | op | ⟨comparison, op⟩ | ⟨comparison, op⟩
      · rw [evaluate_taskCompleted op found, answerTo, op]
      · rw [evaluate_taskNotCompleted op found, answerTo, op]
      · rw [evaluate_taskCount op found, answerTo, op]
      · exact absurd op (counts comparison)
    exact answered

/-- A check that is never lost by progress: it asks for completions, it is the negation of one that
asks for few of them, or it does not look at completions at all. -/
inductive Rewards (c : Check Exact) : Prop where
  | asks (op : c.operator = .taskCompleted ∨ c.operator = .taskCount .greater)
    (plain : c.negate = false)
  | allows (op : c.operator = .taskNotCompleted ∨ c.operator = .taskCount .less)
    (negated : c.negate = true)
  | other (noTask : Operator.category? c.operator ≠ some .task)
    (noRoutine : Operator.category? c.operator ≠ some .routine)

theorem taskCompletions_add (d : Completion Exact) :
    Except.Related (fun log log' => log.length ≤ log'.length) (c.taskCompletions s time person now)
      (c.taskCompletions (s.add (.completion d)) time person now) := by
  unfold taskCompletions
  refine .bind_same fun task _ => .bind_same fun routine _ => .bind_same fun since _ => ?_
  rw [view_exact, Store.completionsWithin_value, Store.completionsWithin_value]
  apply Except.Related.ok
  rw [List.length_mergeSort, List.length_mergeSort]
  exact Store.length_recorded_le_add d

theorem evaluate_add_of_other (noTask : Operator.category? c.operator ≠ some .task)
    (noRoutine : Operator.category? c.operator ≠ some .routine) (d : Completion Exact) :
    c.evaluate (s.add (.completion d)) setting person context =
      c.evaluate s setting person context := by
  have goals : c.goalProgress (s.add (.completion d)) = c.goalProgress s := rfl
  unfold evaluate
  rw [view_exact]
  cases op : (c.operator : Operator) with
  | taskCompleted | taskNotCompleted | taskCount | taskValue =>
    simp [op, Operator.category?] at noTask
  | routinePercent => simp [op, Operator.category?] at noRoutine
  | goalAchieved | goalNotAchieved => simp only [goals]
  | timeOfDay | dayOfWeek | dateRange | other => rfl

/-- The answer to more completions is at least as good, once it is negated where the check is. -/
theorem answerTo_mono (rewards : c.Rewards) (ofTask : Operator.category? c.operator = some .task)
    {m n : Nat} (le : m ≤ n) :
    Except.Related (fun b b' => (b ^^ c.negate) = true →
      (b' ^^ c.negate) = true) (c.answerTo m) (c.answerTo n) := by
  unfold answerTo
  cases rewards with
  | asks op plain =>
    rcases op with op | op <;> simp only [op, plain]
    · refine .ok fun met => ?_
      simp only [Bool.xor_false, decide_eq_true_eq] at met ⊢
      omega
    · refine .map_same _ fun k met => ?_
      simp only [Comparison.ofInts, Bool.xor_false, decide_eq_true_eq] at met ⊢
      omega
  | allows op negated =>
    rcases op with op | op <;> simp only [op, negated]
    · refine .ok fun met => ?_
      simp only [Bool.xor_true, Bool.not_eq_true', decide_eq_false_iff_not] at met ⊢
      omega
    · refine .map_same _ fun k met => ?_
      simp only [Comparison.ofInts, Bool.xor_true, Bool.not_eq_true',
        decide_eq_false_iff_not] at met ⊢
      omega
  | other noTask => exact absurd ofTask noTask

theorem evaluate_add (rewards : c.Rewards) (d : Completion Exact) :
    Except.Related (fun b b' => (b ^^ c.negate) = true → (b' ^^ c.negate) = true)
      (c.evaluate s setting person context)
        (c.evaluate (s.add (.completion d)) setting person context) := by
  by_cases ofTask : Operator.category? c.operator = some .task
  · have counts : ∀ comparison, c.operator ≠ .taskValue comparison := by
      intro comparison op
      cases rewards with
      | asks known plain => simp [op] at known
      | allows known negated => simp [op] at known
      | other noTask => exact noTask ofTask
    rw [evaluate_eq_answerTo ofTask counts, evaluate_eq_answerTo ofTask counts]
    exact (taskCompletions_add d).bind fun log log' longer => answerTo_mono rewards ofTask longer
  · have noRoutine : Operator.category? c.operator ≠ some .routine := by
      cases rewards with
      | asks known plain => rcases known with op | op <;> simp [op, Operator.category?]
      | allows known negated => rcases known with op | op <;> simp [op, Operator.category?]
      | other noTask noRoutine => exact noRoutine
    rw [evaluate_add_of_other ofTask noRoutine]
    exact .refl (fun _ met => met) _

/-- One more completion leaves a check at least as good as it was. -/
theorem entry_add (rewards : c.Rewards) (d : Completion Exact) :
    (c.entry s setting person context).AtMost
    (c.entry (s.add (.completion d)) setting person context) := by
  unfold entry
  have related : Except.Related _ (c.evaluate s setting person context)
      (c.evaluate (s.add (.completion d)) setting person context) :=
    evaluate_add rewards d
  generalize c.evaluate s setting person context = before at related
  generalize c.evaluate (s.add (.completion d)) setting person context = after at related
  cases related with
  | error f => exact .refl _
  | ok better => exact ⟨rfl, better⟩

/-- As many completions as there may be leave a check at least as good as it was. -/
theorem entry_addAll (rewards : c.Rewards) (log : List (Completion Exact)) :
    (c.entry s setting person context).AtMost
      (c.entry ((log.map .completion).foldl Store.add s) setting person context) := by
  induction log generalizing s with
  | nil => exact .refl _
  | cons d log ih =>
    have first : (c.entry s setting person context).AtMost
        (c.entry (s.add (.completion d)) setting person context) :=
      entry_add rewards d
    rw [List.map_cons, List.foldl_cons]
    exact first.trans ih

end Check

namespace Evaluation

/-- A condition whose checks become no worse stays met. -/
theorem result_of_atMost {α : Type} {checks : List α} {f g : α → Outcome} {id : Text}
    {logic : Logic} (better : ∀ a ∈ checks, (f a).AtMost (g a))
    (met : (ofOutcomes id (some logic) (checks.map f)).result = true) :
    (ofOutcomes id (some logic) (checks.map g)).result = true := by
  rw [ofOutcomes_result_iff] at met ⊢
  obtain ⟨some, healthy, met⟩ := met
  refine ⟨by simpa using some, ?_, ?_⟩
  · simp only [List.forall_mem_map] at healthy ⊢
    intro a mem
    rw [(better a mem).error]
    exact healthy a mem
  · cases logic with
    | and =>
      simp only [Logic.Met, List.forall_mem_map] at met ⊢
      intro a mem
      exact (better a mem).met (met a mem)
    | or =>
      obtain ⟨o, mem, met⟩ := met
      obtain ⟨a, listed, rfl⟩ := List.mem_map.1 mem
      exact ⟨g a, List.mem_map_of_mem listed, (better a listed).met met⟩

end Evaluation

namespace Condition

/-- A condition of checks that are never lost by progress stays met, whatever is completed then, and
the checks that cannot be answered stay the same. -/
theorem met_of_progress (c : Condition Exact) (rewards : ∀ check ∈ c.checks, check.Rewards)
    (s : Store Exact) (log : List (Completion Exact)) (setting : Setting) (person : Text)
    (context : Context) :
    ∃ before after, c.evaluate s setting person context = .ok before ∧
      c.evaluate ((log.map .completion).foldl Store.add s) setting person context = .ok after ∧
      (before.result = true → after.result = true) ∧
      after.checks.map (·.error) = before.checks.map (·.error) := by
  have better : ∀ check ∈ c.checks,
      (check.entry s setting person (context.frozen setting.clock)).AtMost
      (check.entry ((log.map .completion).foldl Store.add s) setting person
        (context.frozen setting.clock)) :=
    fun check mem => Check.entry_addAll (rewards check mem) log
  refine ⟨_, _, evaluate_eq_ofOutcomes, evaluate_eq_ofOutcomes,
    Evaluation.result_of_atMost better, ?_⟩
  simp only [Evaluation.ofOutcomes, List.map_map]
  exact List.map_congr_left fun check mem => (better check mem).error

/-- At the end of March the task was done twice since the closing of February: more than once, and
not less than twice. It can be done once more, and this stays so. -/
theorem closing_met_of_progress :
    let more : Check Exact :=
      ⟨"1", .taskCount .greater, false, some "1", none, some "T", none, none, none, none, []⟩
    let notFewer : Check Exact :=
      ⟨"2", .taskCount .less, true, some "2", none, some "T", none, none, none, none, []⟩
    let never : Check Exact := ⟨"3", .dayOfWeek, true, none, none, none, none, none, none, none, []⟩
    let c : Condition Exact := ⟨"c", "R", false, .and, [more, notFewer, never]⟩
    let again : Completion Exact := ⟨"5", "T", "P", .onMinute 739700 0, none⟩
    let setting : Setting := ⟨⟨.first, 0⟩, defaultResetTime⟩
    let context : Context := ⟨some (.onMinute 739705 1434), none⟩
    (∀ check ∈ c.checks, check.Rewards) ∧
      ∃ before after, c.evaluate Store.closing setting "P" context = .ok before ∧
        before.result = true ∧
        c.evaluate (Store.closing.add (.completion again)) setting "P" context = .ok after ∧
        after.result = true := by
  intro more notFewer never c again setting context
  have rewards : ∀ check ∈ c.checks, check.Rewards := by
    simp only [c, List.forall_mem_cons]
    exact ⟨.asks (.inr rfl) rfl, .allows (.inr rfl) rfl, .other (by decide) (by decide),
      List.forall_mem_nil _⟩
  obtain ⟨before, after, evaluated, evaluated', stays, -⟩ :=
    met_of_progress c rewards Store.closing [again] setting "P" context
  have started : Routine.closing.periodStart defaultResetTime (.onMinute 739705 1434) =
      .ok (.onMinute 739674 1435) := by decide +kernel
  have counted (check : Check Exact) (target : check.targetTaskId = some "T")
      (ofTask : Operator.category? check.operator = some .task)
      (counts : ∀ comparison, check.operator ≠ .taskValue comparison) :
      check.evaluate Store.closing setting "P" (context.frozen setting.clock) =
        check.answerTo 2 := by
    have stored : Table.find? Store.closing.tasks (.value Task.ofClosing.id) =
        some Task.ofClosing := rfl
    obtain ⟨log, found, perm⟩ : ∃ log,
        check.taskCompletions Store.closing defaultResetTime "P" (.onMinute 739705 1434) = .ok log ∧
          log.Perm (Store.closing.recorded "T" "P" (.onMinute 739674 1435)
            (.onMinute 739705 1434)) :=
      Check.taskCompletions_perm target stored rfl started
    have two : log.length = 2 := perm.length_eq.trans (by decide +kernel)
    rw [Check.evaluate_eq_answerTo ofTask counts]
    show check.taskCompletions Store.closing defaultResetTime "P" (.onMinute 739705 1434) >>= _ = _
    rw [found, ← two]
    rfl
  have often : more.entry Store.closing setting "P" (context.frozen setting.clock) =
      ⟨"1", "TASK_COUNT_GT", true, false, true, none⟩ := by
    have answer : more.answerTo 2 = .ok true := by decide +kernel
    rw [Check.entry, counted more rfl rfl nofun, answer]
    rfl
  have enough : notFewer.entry Store.closing setting "P" (context.frozen setting.clock) =
      ⟨"2", "TASK_COUNT_LT", false, true, true, none⟩ := by
    have answer : notFewer.answerTo 2 = .ok false := by decide +kernel
    rw [Check.entry, counted notFewer rfl rfl nofun, answer]
    rfl
  have noDay : never.entry Store.closing setting "P" (context.frozen setting.clock) =
      ⟨"3", "DAY_OF_WEEK", false, true, true, none⟩ := rfl
  have met : before.result = true := by
    obtain rfl := Except.ok.inj (evaluate_eq_ofOutcomes.symm.trans evaluated)
    rw [Evaluation.ofOutcomes_result_iff]
    simp [c, Logic.Met, often, enough, noDay]
  exact ⟨rewards, before, after, evaluated, met, evaluated', stays met⟩

end Condition
end RoutineVisibility
