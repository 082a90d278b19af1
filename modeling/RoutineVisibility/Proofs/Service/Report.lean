import RoutineVisibility.Proofs.Service.Stores

/-! What the replies that are sent report of the conditions in the store. -/
namespace RoutineVisibility

def Action.condition? : Action → Option (Condition Exact)
  | .create c => some c
  | .replace _ c => some c
  | _ => none

/-- What the reply to a request reports of the store before it and the store after it. -/
structure Reports (r : Request) (depth : Nat) (reply : Reply) (s t : Store Exact) : Prop where
  /-- Persons, routines, tasks, completions and goals stay. -/
  others : { t with conditions := s.conditions } = s
  /-- The condition in the reply is the new last one, and its name has been free. -/
  created : r.Asks "POST" .conditions → reply.status = 201 →
    ∃ c : Condition Exact, reply.body = c.toJson ∧
    Table.find? s.conditions (.value c.id) = none ∧ t.conditions = s.conditions ++ [c]
  /-- The condition in the reply has the place, the name and the routine of the one that it
  replaces. -/
  replaced : ∀ id : String, r.Asks "PUT" (.condition id) → reply.status = 200 →
    ∃ (c old : Condition Exact) (before after : List (Condition Exact)), reply.body = c.toJson ∧
      c.id = id ∧ old.id = id ∧ c.routineId = old.routineId ∧
      s.conditions = before ++ old :: after ∧ t.conditions = before ++ c :: after
  deleted : ∀ id : String, r.Asks "DELETE" (.condition id) → reply.status = 200 →
    ∃ (old : Condition Exact) (before after : List (Condition Exact)), old.id = id ∧
      s.conditions = before ++ old :: after ∧ t.conditions = before ++ after
  /-- Nothing changes without success, unless a condition is written that JSON text cannot express:
  then the service breaks down over the reply. -/
  kept : ¬ r.Succeeds reply → t = s ∨ reply = .broken ∧
    ∃ a c, r.action depth = .ok a ∧ a.condition? = some c ∧ c.toJson.writable = false
  failed : 400 ≤ reply.status → reply.status < 500 → t = s
  /-- A write is answered with success if and only if the store accepts it and its reply can be
  sent. -/
  accepted : r.Succeeds reply ↔ ∃ a, r.action depth = .ok a ∧ Performs s a reply t
  /-- What the store accepts is written, whether the reply can be sent or not. -/
  written : ∀ a full u, r.action depth = .ok a → Performs s a full u → t = u ∧ reply = full.sent

variable {r : Request} {depth : Nat} {reply full : Reply} {s t : Store Exact}

namespace Performs
variable {a : Action}

theorem succeeds (performs : Performs s a reply t) (asked : r.Asks a.method a.resource) :
    r.Succeeds reply := by
  cases performs with
  | create => exact .inl ⟨asked, rfl⟩
  | replace => exact .inr ⟨_, .inl asked, rfl⟩
  | delete => exact .inr ⟨_, .inr asked, rfl⟩

theorem unique {u : Store Exact} (performs : Performs s a reply t)
    (performs' : Performs s a full u) : t = u ∧ reply = full := by
  cases performs with
  | create accepted =>
    cases performs' with
    | create accepted' => exact ⟨Except.ok.inj (accepted.symm.trans accepted'), rfl⟩
  | replace _ accepted =>
    cases performs' with
    | replace _ accepted' => exact ⟨Except.ok.inj (accepted.symm.trans accepted'), rfl⟩
  | delete accepted =>
    cases performs' with
    | delete accepted' => exact ⟨Except.ok.inj (accepted.symm.trans accepted'), rfl⟩

/-- The one part of a reply that may be impossible to send is the condition that was written. -/
theorem condition_of_not_writable (performs : Performs s a reply t) {part : Json}
    (mem : part ∈ reply.parts) (torn : part.writable = false) :
    ∃ c, a.condition? = some c ∧ c.toJson.writable = false := by
  obtain rfl : part = reply.body := by
    cases performs with
    | create | replace | delete => exact List.mem_singleton.1 mem
  cases performs with
  | @create c => exact ⟨c, rfl, torn⟩
  | @replace _ c => exact ⟨c, rfl, torn⟩
  | delete =>
    have plain : (Json.obj [("success", .bool true)]).writable = true := by decide
    exact nomatch plain.symm.trans torn

end Performs

namespace Reply

theorem sent_or_broken (full : Reply) :
    full.sent = full ∨ full.sent = .broken ∧ ∃ part ∈ full.parts, part.writable = false := by
  unfold sent
  split
  · exact .inl rfl
  · next torn => exact .inr ⟨rfl, by simpa using torn⟩

end Reply

theorem Request.Succeeds.of_sent (succeeds : r.Succeeds full.sent) : r.Succeeds full := by
  rcases full.sent_or_broken with same | ⟨broken, -⟩
  · rwa [same] at succeeds
  · rw [broken] at succeeds
    exact absurd succeeds (Request.not_succeeds_of_le Reply.le_status_broken)

namespace Store

theorem conditions_of_createCondition {c : Condition Exact}
    (accepted : s.createCondition c = .ok t) :
    Table.find? s.conditions (.value c.id) = none ∧
      t = { s with conditions := s.conditions ++ [c] } := by
  rw [← c.held_exact] at accepted
  have free : Table.find? s.conditions (.value c.id) = none := free_of_createCondition accepted
  obtain ⟨-, rfl⟩ := add_of_createCondition accepted
  exact ⟨free, by rw [add_condition_of_free free, c.held_exact]⟩

theorem conditions_of_updateCondition {c : Condition Exact}
    (accepted : s.updateCondition c = .ok t) :
    ∃ old before after, old.id = c.id ∧ c.routineId = old.routineId ∧
      s.conditions = before ++ old :: after ∧
      t = { s with conditions := before ++ c :: after } := by
  rw [← c.held_exact] at accepted
  obtain ⟨old, stored, owned⟩ := stored_of_updateCondition accepted
  obtain ⟨-, rfl⟩ := add_of_updateCondition accepted
  obtain ⟨before, after, split, added⟩ := Table.insert_of_find? (a := c) rfl stored
  have named : old.id = c.id := Field.value.inj (Table.mem_and_key_of_find? stored).2
  refine ⟨old, before, after, named, (Field.value.inj owned).symm, split, ?_⟩
  rw [c.held_exact, ← added]
  rfl

theorem conditions_of_deleteCondition {id : Text} (distinct : s.Distinct)
    (accepted : s.deleteCondition id = .ok t) :
    ∃ old before after, old.id = id ∧ s.conditions = before ++ old :: after ∧
      t = { s with conditions := before ++ after } := by
  obtain rfl := erase_of_deleteCondition accepted
  unfold deleteCondition at accepted
  split at accepted
  · next there =>
    obtain ⟨old, stored⟩ := Option.isSome_iff_exists.1 there
    obtain ⟨before, after, split, erased⟩ := distinct.conditions.erase_of_find? stored
    have named : old.id = id := Field.value.inj (Table.mem_and_key_of_find? stored).2
    refine ⟨old, before, after, named, split, ?_⟩
    unfold eraseCondition
    rw [erased]
  · cases accepted

end Store

theorem Performs.others {a : Action} (distinct : s.Distinct) (performs : Performs s a reply t) :
    { t with conditions := s.conditions } = s := by
  cases performs with
  | create created =>
    obtain ⟨-, rfl⟩ := Store.conditions_of_createCondition created
    rfl
  | replace _ replaced =>
    obtain ⟨old, before, after, -, -, -, rfl⟩ := Store.conditions_of_updateCondition replaced
    rfl
  | delete deleted =>
    obtain ⟨old, before, after, -, -, rfl⟩ := Store.conditions_of_deleteCondition distinct deleted
    rfl

/-- What a write reports whose reply is sent. -/
theorem Performs.reports {a : Action} (distinct : s.Distinct) (understood : r.action depth = .ok a)
    (performs : Performs s a reply t)
    (written : ∀ a' full u, r.action depth = .ok a' → Performs s a' full u → t = u ∧
      reply = full.sent) :
    Reports r depth reply s t := by
  have others := performs.others distinct
  have succeeds : r.Succeeds reply := performs.succeeds (Request.asks_of_action understood)
  have failed : 400 ≤ reply.status → reply.status < 500 → t = s := fun failed _ =>
    absurd succeeds (Request.not_succeeds_of_le failed)
  have accepted : r.Succeeds reply ↔ ∃ a, r.action depth = .ok a ∧ Performs s a reply t :=
    iff_of_true succeeds ⟨a, understood, performs⟩
  have kept (unsuccessful : ¬ r.Succeeds reply) : t = s ∨ reply = .broken ∧
      ∃ a c, r.action depth = .ok a ∧ a.condition? = some c ∧ c.toJson.writable = false :=
    absurd succeeds unsuccessful
  cases performs with
  | create created =>
    have asked : r.Asks "POST" .conditions := Request.asks_of_action understood
    obtain ⟨free, rfl⟩ := Store.conditions_of_createCondition created
    exact {
      created := fun _ _ => ⟨_, rfl, free, rfl⟩
      replaced := fun id put => absurd (asked.method_eq put) (by decide)
      deleted := fun id delete => absurd (asked.method_eq delete) (by decide)
      others, kept, failed, accepted, written }
  | replace named replaced =>
    have asked : r.Asks "PUT" (.condition _) := Request.asks_of_action understood
    obtain ⟨old, before, after, named', owned, split, rfl⟩ :=
      Store.conditions_of_updateCondition replaced
    exact {
      created := fun post => absurd (asked.method_eq post) (by decide)
      replaced := fun id put _ => by
        obtain rfl := Resource.condition.inj (asked.resource_eq put)
        exact ⟨_, old, before, after, rfl, named, named'.trans named, owned, split, rfl⟩
      deleted := fun id delete => absurd (asked.method_eq delete) (by decide)
      others, kept, failed, accepted, written }
  | delete deleted =>
    have asked : r.Asks "DELETE" (.condition _) := Request.asks_of_action understood
    obtain ⟨old, before, after, named, split, rfl⟩ :=
      Store.conditions_of_deleteCondition distinct deleted
    exact {
      created := fun post => absurd (asked.method_eq post) (by decide)
      replaced := fun id put => absurd (asked.method_eq put) (by decide)
      deleted := fun id delete _ => by
        obtain rfl := Resource.condition.inj (asked.resource_eq delete)
        exact ⟨old, before, after, named, split, rfl⟩
      others, kept, failed, accepted, written }

theorem Answers.reports (distinct : s.Distinct) (answers : Answers r depth s full t) :
    Reports r depth full.sent s t := by
  cases answers with
  | kept unsuccessful refused =>
    have unsent : ¬ r.Succeeds full.sent := fun succeeds => unsuccessful succeeds.of_sent
    exact {
      others := rfl
      created := fun asked status => absurd (.inl ⟨asked, status⟩) unsent
      replaced := fun id asked status => absurd (.inr ⟨id, .inl asked, status⟩) unsent
      deleted := fun id asked status => absurd (.inr ⟨id, .inr asked, status⟩) unsent
      kept := fun _ => .inl rfl
      failed := fun _ _ => rfl
      accepted := iff_of_false unsent fun ⟨a, understood, performs⟩ =>
        refused a _ _ understood performs
      written := fun a reply u understood performs =>
        absurd performs (refused a reply u understood) }
  | @written a _ _ understood performs =>
    have written (a' : Action) (full' : Reply) (u : Store Exact)
        (understood' : r.action depth = .ok a')
        (performs' : Performs s a' full' u) : t = u ∧ full.sent = full'.sent := by
      obtain rfl : a = a' := Except.ok.inj (understood.symm.trans understood')
      obtain ⟨same, rfl⟩ := performs.unique performs'
      exact ⟨same, rfl⟩
    rcases full.sent_or_broken with sent | ⟨broken, part, mem, torn⟩
    · rw [sent] at written ⊢
      exact performs.reports distinct understood written
    · rw [broken] at written ⊢
      have unsent : ¬ r.Succeeds .broken := Request.not_succeeds_of_le Reply.le_status_broken
      obtain ⟨c, writes, torn⟩ := performs.condition_of_not_writable mem torn
      exact {
        others := performs.others distinct
        created := fun asked status => absurd (.inl ⟨asked, status⟩) unsent
        replaced := fun id asked status => absurd (.inr ⟨id, .inl asked, status⟩) unsent
        deleted := fun id asked status => absurd (.inr ⟨id, .inr asked, status⟩) unsent
        kept := fun _ => .inr ⟨rfl, a, c, understood, writes, torn⟩
        failed := fun _ small => absurd small (Nat.lt_irrefl 500)
        accepted := iff_of_false unsent fun ⟨_, _, performs⟩ => nomatch performs
        written }

namespace Service
variable {v : Service}

theorem reports_answer (stored : v.store = some s) (distinct : s.Distinct) (r : Request) :
    ∃ t, (v.answer r).2.store = some t ∧ Reports r v.depth (v.answer r).1 s t := by
  obtain ⟨t, later, answers⟩ := answers_respond stored r
  refine ⟨t, ?_, answers.reports distinct⟩
  show (v.respond r).2.store = some t
  rw [later]

/-- Over all requests, the records that are no conditions stay. -/
theorem others_after (distinct : v.Distinct) (stored : v.store = some s)
    (rs : List (Moment × Request)) :
    ∃ t, (v.after rs).store = some t ∧ { t with conditions := s.conditions } = s := by
  induction rs generalizing v s with
  | nil => exact ⟨s, stored, rfl⟩
  | cons r rs ih =>
    obtain ⟨t, next, reports⟩ := reports_answer (v := v.atTime r.1) stored (distinct s stored) r.2
    obtain ⟨u, last, others⟩ := ih ((distinct.atTime r.1).respond r.2) next
    refine ⟨u, last, ?_⟩
    let rest (u : Store Exact) : Store Exact := { u with conditions := s.conditions }
    calc rest u
      _ = rest { u with conditions := t.conditions } := rfl
      _ = rest t := by rw [others]
      _ = s := reports.others

/-- In every state that a service reaches by requests, the records that are no conditions are those
that it began with, and what is sent for the next request reports what that one does to the
conditions, but for a write that it cannot report. A service without a store gets none. -/
theorem reports_after (v : Service) (distinct : v.Distinct) (rs : List (Moment × Request))
    (now : Moment) (r : Request) :
    let answer := ((v.after rs).atTime now).answer r
    (v.store = none → answer.2.store = none) ∧
      ∀ s, v.store = some s → ∃ t u, (v.after rs).store = some t ∧ answer.2.store = some u ∧
        { t with conditions := s.conditions } = s ∧ Reports r v.depth answer.1 t u := by
  intro answer
  have later := (continues_after v rs).trans (continues_atTime _ now)
  constructor
  · intro unconfigured
    have same := (later.trans (continues_respond _ r)).configured
    rw [unconfigured] at same
    exact Option.not_isSome_iff_eq_none.1 (Bool.eq_false_iff.1 same)
  · intro s stored
    obtain ⟨t, reached, others⟩ := others_after distinct stored rs
    have names : t.Distinct := distinct.after rs t reached
    obtain ⟨u, last, reports⟩ := reports_answer (v := (v.after rs).atTime now) reached names r
    rw [later.depth] at reports
    exact ⟨t, u, reached, last, others, reports⟩

def weekly : Service where
  store := some { routines := [⟨"R", "", .smart, .active, .daily, none⟩] }
  setting := ⟨⟨.first, 0⟩, defaultResetTime⟩
  depth := 4

def writeDay (method path : String) (day : Int) : Request where
  method := method
  path := path
  body := .json (.obj [("id", .str "c"), ("routine_id", .str "R"),
    ("checks", .arr [.obj [("id", .str "1"), ("operator", .str "DAY_OF_WEEK"),
      ("day_of_week", .arr [.int day])]])])

/-- The condition is created, but not twice, and then replaced and deleted. -/
theorem weekly_reports_after :
    let post : Request := writeDay "POST" "/api/conditions" 0
    let put : Request := writeDay "PUT" "/api/conditions/c" 6
    let delete : Request := ⟨"DELETE", "/api/conditions/c", [], .empty⟩
    let reports (rs : List (Moment × Request)) (r : Request) (status : Nat) : Prop :=
      let reply := (((weekly.after rs).atTime .first).answer r).1
      reply.status = status ∧ ∃ t u, (weekly.after rs).store = some t ∧ Reports r 4 reply t u
    weekly.Distinct ∧ reports [] post 201 ∧ reports [(.first, post)] post 409 ∧
      reports [(.first, post)] put 200 ∧
      reports [(.first, post), (.first, put)] delete 200 := by
  intro post put delete reports
  have distinct : weekly.Distinct := by
    rintro s ⟨⟩
    decide +kernel
  have reported (rs : List (Moment × Request)) (r : Request) (status : Nat)
      (answered : (((weekly.after rs).atTime .first).answer r).1.status = status) :
      reports rs r status := by
    obtain ⟨t, u, reached, -, -, told⟩ := (reports_after weekly distinct rs .first r).2 _ rfl
    exact ⟨answered, t, u, reached, told⟩
  refine ⟨distinct, reported _ _ _ ?_, reported _ _ _ ?_, reported _ _ _ ?_, reported _ _ _ ?_⟩
  · decide +kernel
  · decide +kernel
  · decide +kernel
  · decide +kernel

/-- A condition of the routine on a range of dates, whose operand is a surrogate that stands
alone. -/
def postTorn : Request where
  method := "POST"
  path := "/api/conditions"
  body := .text ("\x7b\"id\": \"c\", \"routine_id\": \"R\", \"checks\": [\x7b\"id\": \"1\", " ++
    "\"operator\": \"DATE_RANGE\", \"value\": \"\\ud800\"\x7d]\x7d")

/-- A change of the store may be answered with a failure: the condition is stored, but the service
breaks down over the reply. -/
theorem not_forall_kept :
    let answer := (weekly.atTime .first).answer postTorn
    answer.1.status = 500 ∧ (answer.2.store.map fun t => t.conditions.length) = some 1 ∧
      ¬ ∀ (v : Service) (rs : List (Moment × Request)) (now : Moment) (r : Request)
        (s t : Store Exact), v.Distinct →
        (v.after rs).store = some s → (((v.after rs).atTime now).answer r).2.store = some t →
        ¬ r.Succeeds (((v.after rs).atTime now).answer r).1 → t = s := by
  intro answer
  have broken : answer.1.status = 500 := by decide +kernel
  have stored : (answer.2.store.map fun t => t.conditions.length) = some 1 := by decide +kernel
  refine ⟨broken, stored, fun kept => ?_⟩
  have distinct : weekly.Distinct := by
    rintro s ⟨⟩
    decide +kernel
  obtain ⟨t, later, one⟩ := Option.map_eq_some_iff.1 stored
  have unsent : ¬ postTorn.Succeeds answer.1 := Request.not_succeeds_of_le (by rw [broken]; decide)
  have same : t = { routines := [⟨"R", "", .smart, .active, .daily, none⟩] } :=
    kept weekly [] .first postTorn _ t distinct rfl later unsent
  rw [same] at one
  cases one

end Service
end RoutineVisibility
