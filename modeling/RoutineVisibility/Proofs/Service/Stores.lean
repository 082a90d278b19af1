import RoutineVisibility.Service.Basic
import RoutineVisibility.Proofs.Authoring.Outcome
import RoutineVisibility.Proofs.Service.Requests
import RoutineVisibility.Proofs.Store.Distinct

/-! Requests keep the names in the store of a service distinct. -/
namespace RoutineVisibility

/-- A write of conditions that the store accepts: the action, its reply, and the store after it. -/
inductive Performs (s : Store Exact) : Action → Reply → Store Exact → Prop where
  | create {c : Condition Exact} {t : Store Exact} (accepted : s.createCondition c = .ok t) :
    Performs s (.create c) (.created c.toJson) t
  | replace {id : String} {c : Condition Exact} {t : Store Exact} (named : c.id = id)
    (accepted : s.updateCondition c = .ok t) : Performs s (.replace id c) (.ok c.toJson) t
  | delete {id : String} {t : Store Exact} (accepted : s.deleteCondition id = .ok t) :
    Performs s (.delete id) (.ok (.obj [("success", .bool true)])) t

/-- What a request does to a store: it performs a write, or it changes nothing and reports no
success. -/
inductive Answers (r : Request) (depth : Nat) (s : Store Exact) : Reply → Store Exact → Prop where
  | written {a : Action} {reply : Reply} {t : Store Exact} (understood : r.action depth = .ok a)
    (performs : Performs s a reply t) : Answers r depth s reply t
  | kept {reply : Reply} (unsuccessful : ¬ r.Succeeds reply)
    (refused : ∀ a reply t, r.action depth = .ok a → ¬ Performs s a reply t) :
    Answers r depth s reply s

variable {depth : Nat}

theorem Answers.distinct {r : Request} {reply : Reply} {s t : Store Exact}
    (answers : Answers r depth s reply t) (names : s.Distinct) : t.Distinct := by
  cases answers with
  | kept => exact names
  | written _ performs =>
    cases performs with
    | @create c _ accepted =>
      rw [← c.held_exact] at accepted
      obtain ⟨-, rfl⟩ := Store.add_of_createCondition accepted
      exact names.add _
    | @replace _ c _ _ accepted =>
      rw [← c.held_exact] at accepted
      obtain ⟨-, rfl⟩ := Store.add_of_updateCondition accepted
      exact names.add _
    | delete accepted =>
      obtain rfl := Store.erase_of_deleteCondition accepted
      exact names.eraseCondition _

namespace Service

def atTime (v : Service) (now : Moment) : Service :=
  { v with setting := { v.setting with clock := { v.setting.clock with now := now } } }

def after (v : Service) (rs : List (Moment × Request)) : Service :=
  rs.foldl (fun v r => ((v.atTime r.1).respond r.2).2) v

def Distinct (v : Service) : Prop :=
  ∀ s, v.store = some s → s.Distinct

variable {v : Service} {setting : Setting} {s : Store Exact} {r : Request} {a : Action}

theorem exists_store_of_start {loaded : Except LoadFault (Store Exact)}
    (started : start setting depth loaded = .ok v) : ∃ s, v = ⟨some s, setting, depth⟩ := by
  obtain ⟨s, -, rfl⟩ := Except.map_eq_ok_iff.1 started
  exact ⟨s, rfl⟩

theorem distinct_of_start {dataDepth : Nat} {localOffset : Int} {text : String}
    (started : start setting depth (Store.ofText dataDepth localOffset text) = .ok v) :
    v.Distinct := by
  obtain ⟨first, begun, rfl⟩ := Except.map_eq_ok_iff.1 started
  rintro s ⟨⟩
  cases loaded : Store.ofText (F := Exact) dataDepth localOffset text with
  | ok t =>
    rw [loaded] at begun
    cases begun
    exact Store.distinct_of_ofText loaded
  | error f =>
    rw [loaded] at begun
    by_cases tolerated : tolerates f
    · obtain rfl : Store.empty = first := Except.ok.inj ((if_pos tolerated).symm.trans begun)
      exact Store.distinct_empty
    · exact nomatch (if_neg tolerated).symm.trans begun

theorem performOn_replace (v : Service) (s : Store Exact) (id : String) (c : Condition Exact) :
    v.performOn s (.replace id c) =
      if c.id ≠ id then (.wrongId, v) else v.keep (.ok c.toJson) (s.updateCondition c) :=
  rfl

/-- A service with a store does everything on it, also what needs none. -/
theorem perform_of_store (stored : v.store = some s) (a : Action) :
    v.perform a = v.performOn s a := by
  unfold perform
  rw [stored]
  cases a <;> rfl

theorem with_store_self (stored : v.store = some s) : v = { v with store := some s } := by
  obtain ⟨store, setting, depth⟩ := v
  cases stored
  rfl

theorem answers_keep (understood : r.action depth = .ok a) (stored : v.store = some s)
    {reply : Reply} {written : Except Rejection (Store Exact)}
    (success : ∀ t, written = .ok t → Performs s a reply t)
    (failure : ∀ e, written = .error e → ∀ reply t, ¬ Performs s a reply t) :
    ∃ t, (v.keep reply written).2 = { v with store := some t } ∧
      Answers r depth s (v.keep reply written).1 t := by
  cases outcome : written with
  | ok t => exact ⟨t, rfl, .written understood (success t outcome)⟩
  | error e =>
    refine ⟨s, with_store_self stored,
      .kept (Request.not_succeeds_of_le (Reply.le_status_ofRejection e)) ?_⟩
    intro a' reply t understood'
    obtain rfl : a = a' := Except.ok.inj (understood.symm.trans understood')
    exact failure e outcome reply t

theorem answers_performOn (understood : r.action depth = .ok a) (stored : v.store = some s) :
    ∃ t, (v.performOn s a).2 = { v with store := some t } ∧
      Answers r depth s (v.performOn s a).1 t := by
  have asked : r.Asks a.method a.resource := Request.asks_of_action understood
  -- An action that is no write leaves the store, and its resource is not one of conditions.
  have reading {reply : Reply} (list : a.resource ≠ .conditions) (single : ∀ id,
      a.resource ≠ .condition id) :
      Answers r depth s reply s := by
    refine .kept (Request.not_succeeds_of_resource asked list single)
      fun a' reply t understood' performs => ?_
    obtain rfl : a = a' := Except.ok.inj (understood.symm.trans understood')
    cases performs with
    | create => exact list rfl
    | replace => exact single _ rfl
    | delete => exact single _ rfl
  cases a with
  | create c =>
    refine answers_keep understood stored (fun t => .create) fun e rejected reply t performs => ?_
    cases performs with
    | create accepted => exact nomatch rejected.symm.trans accepted
  | replace id c =>
    rw [performOn_replace]
    split
    · next wrong =>
      have failed : 400 ≤ Reply.wrongId.status := by decide
      refine ⟨s, with_store_self stored, .kept (Request.not_succeeds_of_le failed) ?_⟩
      intro a' reply t understood' performs
      obtain rfl : .replace id c = a' := Except.ok.inj (understood.symm.trans understood')
      cases performs with
      | replace named => exact wrong named
    · next same =>
      have named : c.id = id := Decidable.not_not.1 same
      refine answers_keep understood stored (fun t => .replace named)
        fun e rejected reply t performs => ?_
      cases performs with
      | replace _ accepted => exact nomatch rejected.symm.trans accepted
  | delete id =>
    refine answers_keep understood stored (fun t => .delete) fun e rejected reply t performs => ?_
    cases performs with
    | delete accepted => exact nomatch rejected.symm.trans accepted
  | evaluate | taskVisibility | routineVisibility | visibleTasks | cycleCheck | dependents | recipes
  | health =>
    exact ⟨s, with_store_self stored, reading nofun nofun⟩

theorem respond_of_action {r : Request} {a : Action} (understood : r.action v.depth = .ok a) :
    v.respond r = v.perform a := by
  unfold respond
  rw [understood]

/-- A request changes the store of a service as its reply says, and nothing else. -/
theorem answers_respond (stored : v.store = some s) (r : Request) :
    ∃ t, (v.respond r).2 = { v with store := some t } ∧ Answers r v.depth s (v.respond r).1 t := by
  cases understood : r.action v.depth with
  | error reply =>
    unfold respond
    rw [understood]
    refine ⟨s, with_store_self stored,
      .kept (Request.not_succeeds_of_le (Request.le_status_of_action understood)) ?_⟩
    exact fun a' reply t understood' => nomatch understood.symm.trans understood'
  | ok a =>
    rw [respond_of_action understood, perform_of_store stored]
    exact answers_performOn understood stored

theorem respond_of_unconfigured (unconfigured : v.store = none) (r : Request) :
    (v.respond r).2 = v := by
  unfold respond
  cases r.action v.depth with
  | error reply => rfl
  | ok a =>
    show (v.perform a).2 = v
    unfold perform
    rw [unconfigured]
    cases a <;> rfl

theorem Distinct.atTime (distinct : v.Distinct) (now : Moment) : (v.atTime now).Distinct :=
  distinct

theorem Distinct.respond (distinct : v.Distinct) (r : Request) : (v.respond r).2.Distinct := by
  cases stored : v.store with
  | none =>
    rw [respond_of_unconfigured stored]
    exact distinct
  | some s =>
    obtain ⟨t, later, answers⟩ := answers_respond stored r
    rw [later]
    rintro t ⟨⟩
    exact answers.distinct (distinct s stored)

/-- Whatever a service is asked for, the names in its store stay distinct. -/
theorem Distinct.after (distinct : v.Distinct) (rs : List (Moment × Request)) :
    (v.after rs).Distinct := by
  induction rs generalizing v with
  | nil => exact distinct
  | cons r rs ih => exact ih ((distinct.atTime r.1).respond r.2)

/-- A later state of a service: its clock keeps the offset, it reads bodies as before, and it has a
store if it had one. -/
structure Continues (v w : Service) : Prop where
  offset : w.setting.clock.offset = v.setting.clock.offset
  depth : w.depth = v.depth
  configured : w.store.isSome = v.store.isSome

theorem Continues.trans {u w : Service} (first : u.Continues v) (next : v.Continues w) :
    u.Continues w :=
  ⟨next.offset.trans first.offset, next.depth.trans first.depth,
    next.configured.trans first.configured⟩

theorem continues_atTime (v : Service) (now : Moment) : v.Continues (v.atTime now) :=
  ⟨rfl, rfl, rfl⟩

theorem continues_respond (v : Service) (r : Request) : v.Continues (v.respond r).2 := by
  cases stored : v.store with
  | none =>
    rw [respond_of_unconfigured stored]
    exact ⟨rfl, rfl, rfl⟩
  | some s =>
    obtain ⟨t, later, -⟩ := answers_respond stored r
    rw [later]
    exact ⟨rfl, rfl, by rw [stored]; rfl⟩

theorem continues_after (v : Service) (rs : List (Moment × Request)) :
    v.Continues (v.after rs) := by
  induction rs generalizing v with
  | nil => exact ⟨rfl, rfl, rfl⟩
  | cons r rs ih => exact ((continues_atTime v r.1).trans (continues_respond _ r.2)).trans (ih _)

end Service
end RoutineVisibility
