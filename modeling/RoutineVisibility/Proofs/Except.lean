import Mathlib.Data.List.Forall2

/-! Computations that can fail, one by one and over a list. -/
namespace RoutineVisibility.Except
variable {ε ε' α β : Type}

theorem bind_eq_ok_iff {x : Except ε α} {f : α → Except ε β} {b : β} :
    x >>= f = .ok b ↔ ∃ a, x = .ok a ∧ f a = .ok b := by
  cases x with
  | error e => simp [bind, Except.bind]
  | ok a => simp [bind, Except.bind]

theorem bind_eq_error_iff {x : Except ε α} {f : α → Except ε β} {e : ε} :
    x >>= f = .error e ↔ x = .error e ∨ ∃ a, x = .ok a ∧ f a = .error e := by
  cases x with
  | error e => simp [bind, Except.bind]
  | ok a => simp [bind, Except.bind]

theorem map_eq_ok_iff {x : Except ε α} {f : α → β} {b : β} :
    x.map f = .ok b ↔ ∃ a, x = .ok a ∧ f a = b := by
  cases x with
  | error e => simp [Except.map]
  | ok a => simp [Except.map]

theorem map_eq_error_iff {x : Except ε α} {f : α → β} {e : ε} :
    x.map f = .error e ↔ x = .error e := by
  cases x with
  | error e => simp [Except.map]
  | ok a => simp [Except.map]

theorem mapError_eq_ok_iff {x : Except ε α} {f : ε → ε'} {a : α} :
    x.mapError f = .ok a ↔ x = .ok a := by
  cases x with
  | error e =>
    constructor
    · rintro ⟨⟩
    · rintro ⟨⟩
  | ok b =>
    constructor
    · rintro ⟨⟩
      rfl
    · rintro ⟨⟩
      rfl

theorem mapError_eq_error_iff {x : Except ε α} {f : ε → ε'} {e' : ε'} :
    x.mapError f = .error e' ↔ ∃ e, x = .error e ∧ f e = e' := by
  cases x with
  | error e => simp [Except.mapError]
  | ok a => simp [Except.mapError]

theorem bind_congr_of_ok {x : Except ε α} {f g : α → Except ε β}
    (same : ∀ a, x = .ok a → f a = g a) : x >>= f = x >>= g := by
  cases x with
  | error e => rfl
  | ok a => exact same a rfl

/-- Two computations fail alike, or both succeed and their values are related. -/
inductive Related {β : Type} (r : α → β → Prop) : Except ε α → Except ε β → Prop where
  | error (e : ε) : Related r (.error e) (.error e)
  | ok {a : α} {b : β} (related : r a b) : Related r (.ok a) (.ok b)

theorem Related.refl {r : α → α → Prop} (reflexive : ∀ a, r a a) (x : Except ε α) :
    Related r x x := by
  cases x with
  | error e => exact .error e
  | ok a => exact .ok (reflexive a)

/-- Computations that begin alike are related if they go on in related ways. -/
theorem Related.bind_same {γ : Type} {r : β → γ → Prop} {f : α → Except ε β} {g : α → Except ε γ}
    {x : Except ε α} (go : ∀ a, x = .ok a → Related r (f a) (g a)) :
    Related r (x >>= f) (x >>= g) := by
  cases x with
  | error e => exact .error e
  | ok a => exact go a rfl

theorem Related.bind {α' β' : Type} {r : α → α' → Prop} {q : β → β' → Prop} {x : Except ε α}
    {y : Except ε α'} {f : α → Except ε β} {g : α' → Except ε β'} (related : Related r x y)
    (go : ∀ a b, r a b → Related q (f a) (g b)) : Related q (x >>= f) (y >>= g) := by
  cases related with
  | error e => exact .error e
  | ok related => exact go _ _ related

theorem Related.map_same {γ : Type} {r : β → γ → Prop} {f : α → β} {g : α → γ} (x : Except ε α)
    (go : ∀ a, r (f a) (g a)) : Related r (x.map f) (x.map g) := by
  cases x with
  | error e => exact .error e
  | ok a => exact .ok (go a)

theorem mapM_congr {f g : α → Except ε β} {l : List α} (same : ∀ a ∈ l, f a = g a) :
    l.mapM f = l.mapM g := by
  induction l with
  | nil => rfl
  | cons a l ih =>
    rw [List.mapM_cons, List.mapM_cons, same a List.mem_cons_self,
      ih fun b mem => same b (List.mem_cons_of_mem a mem)]

theorem filterM_congr {f g : α → Except ε Bool} {l : List α} (same : ∀ a ∈ l, f a = g a) :
    l.filterM f = l.filterM g := by
  have kept (acc : List α) : l.filterAuxM f acc = l.filterAuxM g acc := by
    induction l generalizing acc with
    | nil => rfl
    | cons a l ih =>
      rw [List.filterAuxM, List.filterAuxM, same a List.mem_cons_self]
      exact bind_congr fun b => ih (fun c mem => same c (List.mem_cons_of_mem a mem)) _
  rw [List.filterM, List.filterM, kept]

section
variable {f : α → Except ε β} {l : List α}

theorem mapM_eq_ok_iff {bs : List β} :
    l.mapM f = .ok bs ↔ List.Forall₂ (fun a b => f a = .ok b) l bs := by
  induction l generalizing bs with
  | nil =>
    rw [List.mapM_nil, List.forall₂_nil_left_iff]
    constructor
    · intro none
      cases none
      rfl
    · intro none
      rw [none]
      rfl
  | cons a l ih =>
    rw [List.mapM_cons, bind_eq_ok_iff, List.forall₂_cons_left_iff]
    constructor
    · intro answers
      obtain ⟨b, first, following⟩ := answers
      obtain ⟨bs, rest, last⟩ := bind_eq_ok_iff.1 following
      cases last
      exact ⟨b, bs, first, ih.1 rest, rfl⟩
    · intro answers
      obtain ⟨b, bs, first, rest, last⟩ := answers
      rw [last]
      exact ⟨b, first, bind_eq_ok_iff.2 ⟨bs, ih.2 rest, rfl⟩⟩

theorem exists_mapM_eq_ok_iff : (∃ bs, l.mapM f = .ok bs) ↔ ∀ a ∈ l, ∃ b, f a = .ok b := by
  simp only [mapM_eq_ok_iff]
  induction l with
  | nil => simp
  | cons a l ih =>
    rw [List.forall_mem_cons, ← ih]
    constructor
    · intro answers
      obtain ⟨_, related⟩ := answers
      obtain ⟨b, bs, first, rest, -⟩ := List.forall₂_cons_left_iff.1 related
      exact ⟨⟨b, first⟩, bs, rest⟩
    · intro answers
      obtain ⟨⟨b, first⟩, bs, rest⟩ := answers
      exact ⟨b :: bs, .cons first rest⟩

theorem exists_mem_of_mapM {a : α} {bs : List β} (answers : l.mapM f = .ok bs) (mem : a ∈ l) :
    ∃ b ∈ bs, f a = .ok b := by
  have related : List.Forall₂ (fun a b => f a = .ok b) l bs := mapM_eq_ok_iff.1 answers
  clear answers
  induction related with
  | nil => cases mem
  | cons first _ ih =>
    rcases List.mem_cons.1 mem with same | later
    · rw [same]
      exact ⟨_, List.mem_cons_self, first⟩
    · obtain ⟨b, mem, answer⟩ := ih later
      exact ⟨b, List.mem_cons_of_mem _ mem, answer⟩

end

/-- Either every item of a list has an answer, or there is a first one that has not. -/
theorem exists_first_error (f : α → Except ε β) (l : List α) :
    (∀ a ∈ l, ∃ b, f a = .ok b) ∨
      ∃ before a after e, l = before ++ a :: after ∧ (∀ b ∈ before, ∃ x, f b = .ok x) ∧
        f a = .error e := by
  induction l with
  | nil => exact Or.inl fun a mem => nomatch mem
  | cons a l ih =>
    cases answer : f a with
    | error e => exact Or.inr ⟨[], a, l, e, rfl, fun b mem => (nomatch mem), answer⟩
    | ok b =>
      rcases ih with answers | ⟨before, c, after, e, split, answers, failed⟩
      · exact Or.inl (List.forall_mem_cons.2 ⟨⟨b, answer⟩, answers⟩)
      · refine Or.inr ⟨a :: before, c, after, e, ?_,
          List.forall_mem_cons.2 ⟨⟨b, answer⟩, answers⟩, failed⟩
        rw [split, List.cons_append]

def holds : Except ε Bool → Bool
  | .ok b => b
  | .error _ => false

/-- A list is filtered by a question for each of its items: those stay that have the answer yes, in
their order, and if a question has no answer, the first failure is that of the whole. -/
structure Filtered (ask : α → Except ε Bool) (l : List α) (result : Except ε (List α)) : Prop where
  kept : (∀ a ∈ l, ∃ b, ask a = .ok b) → result = .ok (l.filter fun a => holds (ask a))
  failed : ∀ before a after e, l = before ++ a :: after → (∀ b ∈ before, ∃ x, ask b = .ok x) →
    ask a = .error e →
    result = .error e
  fails_iff : (∃ e, result = .error e) ↔ ∃ a ∈ l, ∃ e, ask a = .error e

variable {ask : α → Except ε Bool} {l : List α}

theorem filterAuxM_of_ok (answers : ∀ a ∈ l, ∃ b, ask a = .ok b) (acc : List α) :
    l.filterAuxM ask acc = .ok ((l.filter fun a => holds (ask a)).reverse ++ acc) := by
  induction l generalizing acc with
  | nil => rfl
  | cons a l ih =>
    obtain ⟨⟨b, answer⟩, answers⟩ := List.forall_mem_cons.1 answers
    have rest := ih answers (cond b (a :: acc) acc)
    rw [List.filterAuxM, List.filter_cons, answer]
    refine rest.trans ?_
    cases b <;> simp [holds]

theorem filterAuxM_of_error {before after : List α} {a : α} {e : ε}
    (answers : ∀ b ∈ before, ∃ x, ask b = .ok x) (failed : ask a = .error e) (acc : List α) :
    (before ++ a :: after).filterAuxM ask acc = .error e := by
  induction before generalizing acc with
  | nil =>
    rw [List.nil_append, List.filterAuxM, failed]
    rfl
  | cons b before ih =>
    obtain ⟨⟨x, answer⟩, answers⟩ := List.forall_mem_cons.1 answers
    rw [List.cons_append, List.filterAuxM, answer]
    exact ih answers _

theorem filterM_of_ok (answers : ∀ a ∈ l, ∃ b, ask a = .ok b) :
    l.filterM ask = .ok (l.filter fun a => holds (ask a)) := by
  rw [List.filterM, filterAuxM_of_ok answers, List.append_nil]
  exact congrArg Except.ok (List.reverse_reverse _)

theorem filterM_of_error {before after : List α} {a : α} {e : ε}
    (answers : ∀ b ∈ before, ∃ x, ask b = .ok x) (failed : ask a = .error e) :
    (before ++ a :: after).filterM ask = .error e := by
  rw [List.filterM, filterAuxM_of_error answers failed]
  rfl

theorem filtered_filterM (ask : α → Except ε Bool) (l : List α) :
    Filtered ask l (l.filterM ask) := by
  constructor
  · exact filterM_of_ok
  · rintro before a after e rfl answers failed
    exact filterM_of_error answers failed
  · constructor
    · rintro ⟨e, failed⟩
      rcases exists_first_error ask l with answers | ⟨before, a, after, e, rfl, -, failed⟩
      · rw [filterM_of_ok answers] at failed
        cases failed
      · exact ⟨a, by simp, e, failed⟩
    · rintro ⟨a, mem, e, failed⟩
      rcases exists_first_error ask l with answers | ⟨before, b, after, e, rfl, answers, failed⟩
      · obtain ⟨x, answer⟩ := answers a mem
        exact absurd (failed.symm.trans answer) (by simp)
      · exact ⟨e, filterM_of_error answers failed⟩

end RoutineVisibility.Except
