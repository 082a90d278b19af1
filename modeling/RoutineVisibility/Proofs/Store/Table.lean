import RoutineVisibility.Store.Table

/-! What stands in a table after a write, and what a look-up finds. -/
namespace RoutineVisibility

theorem Field.sameKey_value_iff {x : Field Text} {a : Text} :
    x.sameKey (.value a) ↔ x = .value a := by
  cases x <;> simp [Field.sameKey]

namespace Table
variable {α : Type} [Keyed α]

theorem mem_of_mem_insert {a b : α} {t : List α} (h : b ∈ insert a t) : b = a ∨ b ∈ t := by
  induction t with
  | nil => exact Or.inl (List.mem_singleton.1 h)
  | cons c t ih =>
    rw [insert] at h
    split at h
    · rcases List.mem_cons.1 h with rfl | h
      · exact Or.inl rfl
      · exact Or.inr (List.mem_cons_of_mem c h)
    · rcases List.mem_cons.1 h with rfl | h
      · exact Or.inr List.mem_cons_self
      · exact (ih h).imp_right (List.mem_cons_of_mem c)

theorem mem_of_mem_erase {b : α} {k : Field Text} {t : List α} (h : b ∈ erase k t) : b ∈ t :=
  (List.mem_filter.1 h).1

theorem mem_and_key_of_find? {t : List α} {name : Text} {a : α}
    (found : find? t (.value name) = some a) : a ∈ t ∧ Keyed.key a = .value name := by
  have same : (Keyed.key a).sameKey (.value name) = true :=
    List.find?_some (p := fun b => (Keyed.key b).sameKey (.value name)) found
  exact ⟨List.mem_of_find?_eq_some found, Field.sameKey_value_iff.1 same⟩

theorem find?_cons {a : α} {t : List α} {k : Field Text} :
    find? (a :: t) k = if (Keyed.key a).sameKey k then some a else find? t k := by
  unfold find?
  rw [List.find?_cons]
  split <;> simp_all

theorem find?_insert_self {a : α} {name : Text} (named : Keyed.key a = .value name) (t : List α) :
    find? (insert a t) (.value name) = some a := by
  have own : (Keyed.key a).sameKey (.value name) = true := Field.sameKey_value_iff.2 named
  induction t with
  | nil => rw [insert, find?_cons, if_pos own]
  | cons b t ih =>
    rw [insert, named]
    split
    · rw [find?_cons, if_pos own]
    · next other => rw [find?_cons, if_neg other, ih]

/-- A look-up of another name does not see a write. -/
theorem find?_insert_of_ne {a : α} {name : Text} (other : Keyed.key a ≠ .value name) (t : List α) :
    find? (insert a t) (.value name) = find? t (.value name) := by
  have ne : (Keyed.key a).sameKey (.value name) ≠ true :=
    fun same => other (Field.sameKey_value_iff.1 same)
  induction t with
  | nil => rw [insert, find?_cons, if_neg ne]
  | cons b t ih =>
    rw [insert]
    split
    · next replaced =>
      have ne' : (Keyed.key b).sameKey (.value name) ≠ true := by
        intro same
        rw [Field.sameKey_value_iff] at same
        rw [same] at replaced
        cases key : Keyed.key a <;> simp_all [Field.sameKey]
      rw [find?_cons, find?_cons, if_neg ne, if_neg ne']
    · rw [find?_cons, find?_cons, ih]

/-- A record under a name that is there takes the place of the old one. -/
theorem insert_of_find? {a old : α} {t : List α} {name : Text} (named : Keyed.key a = .value name)
    (stored : find? t (.value name) = some old) :
    ∃ before after, t = before ++ old :: after ∧ insert a t = before ++ a :: after := by
  induction t with
  | nil => cases stored
  | cons b t ih =>
    rw [find?_cons] at stored
    rw [insert, named]
    split at stored
    · next same =>
      cases stored
      exact ⟨[], t, rfl, by rw [if_pos same]; rfl⟩
    · next other =>
      obtain ⟨before, after, split, added⟩ := ih stored
      exact ⟨b :: before, after, by rw [split]; rfl, by rw [if_neg other, added]; rfl⟩

/-- A record under a new name comes last. -/
theorem insert_of_find?_eq_none {a : α} {t : List α} {name : Text}
    (named : Keyed.key a = .value name) (free : find? t (.value name) = none) :
    insert a t = t ++ [a] := by
  induction t with
  | nil => rfl
  | cons b t ih =>
    rw [find?_cons] at free
    rw [insert, named]
    split at free
    · cases free
    · next other => rw [if_neg other, ih free, List.cons_append]

/-- To write a record that is there already changes nothing. -/
theorem insert_of_find?_self {a : α} {t : List α} {name : Text} (named : Keyed.key a = .value name)
    (stored : find? t (.value name) = some a) : insert a t = t := by
  obtain ⟨before, after, split, added⟩ := insert_of_find? named stored
  rw [added, ← split]

theorem has_insert {a : α} {t : List α} {name : Text} (there : has t (.value name)) :
    has (insert a t) (.value name) := by
  by_cases own : Keyed.key a = .value name
  · rw [has, find?_insert_self own]
    rfl
  · rw [has, find?_insert_of_ne own]
    exact there

/-- Writes do not touch the entries of other names, nor their order. -/
theorem erase_insert {a : α} {name : Text} (named : Keyed.key a = .value name) (t : List α) :
    erase (.value name) (insert a t) = erase (.value name) t := by
  have own : (Keyed.key a).sameKey (.value name) = true := Field.sameKey_value_iff.2 named
  induction t with
  | nil => simp [insert, erase, own]
  | cons b t ih =>
    rw [insert, named]
    split
    · next same => simp [erase, own, same]
    · next other =>
      simp only [erase, List.filter_cons] at ih ⊢
      rw [ih]

theorem erase_erase (k : Field Text) (t : List α) : erase k (erase k t) = erase k t := by
  simp [erase]

theorem find?_erase (k : Field Text) (t : List α) : find? (erase k t) k = none := by
  simp [find?, erase]

theorem find?_erase_of_ne {name other : Text} (ne : other ≠ name) (t : List α) :
    find? (erase (.value name) t) (.value other) = find? t (.value other) := by
  unfold find? erase
  rw [List.find?_filter]
  congr 1
  funext a
  cases same : (Keyed.key a).sameKey (.value other) with
  | false => simp
  | true =>
    have key : Keyed.key a = .value other := Field.sameKey_value_iff.1 same
    have kept : (Keyed.key a).sameKey (.value name) = false := by
      rw [key, Field.sameKey_value]
      exact beq_eq_false_iff_ne.2 ne
    simp [kept]

theorem mem_erase_iff {a : α} {name : Text} {t : List α} :
    a ∈ erase (.value name) t ↔ a ∈ t ∧ Keyed.key a ≠ .value name := by
  unfold erase
  rw [List.mem_filter, Bool.not_eq_true', Bool.eq_false_iff, ne_eq, Field.sameKey_value_iff]

def names (t : List α) : List Text :=
  t.filterMap fun a => (Keyed.key a).value?

def Distinct (t : List α) : Prop :=
  (names t).Nodup

instance (t : List α) : Decidable (Distinct t) := inferInstanceAs (Decidable (names t).Nodup)

theorem mem_names {t : List α} {name : Text} :
    name ∈ names t ↔ ∃ a ∈ t, Keyed.key a = .value name := by
  have value (x : Field Text) : x.value? = some name ↔ x = .value name := by
    cases x <;> simp [Field.value?]
  simp only [names, List.mem_filterMap, value]

theorem names_cons {a : α} {t : List α} :
    names (a :: t) = (Keyed.key a).value?.toList ++ names t := by
  unfold names
  cases key : (Keyed.key a).value? <;> simp [key]

theorem Distinct.of_cons {a : α} {t : List α} (distinct : Distinct (a :: t)) : Distinct t := by
  rw [Distinct, names_cons] at distinct
  exact (List.nodup_append.1 distinct).2.1

theorem Distinct.key_ne {a b : α} {t : List α} {name : Text} (distinct : Distinct (a :: t))
    (named : Keyed.key a = .value name) (mem : b ∈ t) : Keyed.key b ≠ .value name := by
  rw [Distinct, names_cons, named] at distinct
  exact fun key => (List.nodup_cons.1 distinct).1 (mem_names.2 ⟨b, mem, key⟩)

theorem Distinct.eq {t : List α} (distinct : Distinct t) {a b : α} {name : Text} (ha : a ∈ t)
    (hb : b ∈ t) (keyA : Keyed.key a = .value name) (keyB : Keyed.key b = .value name) : a = b := by
  induction t with
  | nil => cases ha
  | cons c t ih =>
    rcases List.mem_cons.1 ha with rfl | inA <;> rcases List.mem_cons.1 hb with rfl | inB
    · rfl
    · exact absurd keyB (distinct.key_ne keyA inB)
    · exact absurd keyA (distinct.key_ne keyB inA)
    · exact ih distinct.of_cons inA inB

theorem Distinct.find? {t : List α} (distinct : Distinct t) {a : α} {name : Text} (mem : a ∈ t)
    (named : Keyed.key a = .value name) : Table.find? t (.value name) = some a := by
  cases found : Table.find? t (.value name) with
  | none =>
    have := List.find?_eq_none.1 found a mem
    exact absurd (Field.sameKey_value_iff.2 named) this
  | some b =>
    obtain ⟨memB, keyB⟩ := mem_and_key_of_find? found
    rw [distinct.eq memB mem keyB named]

theorem names_insert {a : α} {name : Text} (named : Keyed.key a = .value name) (t : List α) :
    names (insert a t) = if name ∈ names t then names t else names t ++ [name] := by
  have own : (Keyed.key a).value?.toList = [name] := by rw [named]; rfl
  induction t with
  | nil => rw [insert, names_cons, own]; rfl
  | cons b t ih =>
    rw [insert, named]
    split
    · next same =>
      have keyB : Keyed.key b = .value name := Field.sameKey_value_iff.1 same
      have first : name ∈ names (b :: t) := mem_names.2 ⟨b, List.mem_cons_self, keyB⟩
      rw [if_pos first, names_cons, names_cons, named, keyB]
    · next other =>
      have ne : Keyed.key b ≠ .value name := fun keyB => other (Field.sameKey_value_iff.2 keyB)
      have later : name ∈ names (b :: t) ↔ name ∈ names t := by simp [mem_names, ne]
      by_cases mem : name ∈ names t
      · rw [if_pos (later.2 mem), names_cons, names_cons, ih, if_pos mem]
      · rw [if_neg (mt later.1 mem), names_cons, names_cons, ih, if_neg mem, List.append_assoc]

theorem names_insert_of_unnamed {a : α} (unnamed : (Keyed.key a).value? = none) (t : List α) :
    names (insert a t) = names t := by
  induction t with
  | nil => simp [insert, names_cons, unnamed]
  | cons b t ih =>
    rw [insert]
    split
    · next same =>
      have unnamedB : (Keyed.key b).value? = none := by
        cases keyA : Keyed.key a <;> cases keyB : Keyed.key b <;>
          simp_all [Field.sameKey, Field.value?]
      rw [names_cons, names_cons, unnamed, unnamedB]
    · rw [names_cons, names_cons, ih]

theorem Distinct.insert {t : List α} (distinct : Distinct t) (a : α) : Distinct (insert a t) := by
  cases key : Keyed.key a with
  | value name =>
    rw [Distinct, names_insert key]
    split
    · exact distinct
    · next new =>
      refine List.nodup_append.2 ⟨distinct,
        List.nodup_cons.2 ⟨List.not_mem_nil, List.nodup_nil⟩, ?_⟩
      intro b mem c last
      rw [List.mem_singleton.1 last]
      rintro rfl
      exact new mem
  | stray v => rwa [Distinct, names_insert_of_unnamed (by rw [key]; rfl)]
  | absent => rwa [Distinct, names_insert_of_unnamed (by rw [key]; rfl)]

theorem Distinct.erase {t : List α} (distinct : Distinct t) (k : Field Text) :
    Distinct (erase k t) :=
  (List.filter_sublist.filterMap _).nodup distinct

/-- Without its first record, a table has none of that name. -/
theorem Distinct.erase_cons {a : α} {t : List α} {name : Text} (distinct : Distinct (a :: t))
    (named : Keyed.key a = .value name) : Table.erase (.value name) (a :: t) = t := by
  have own : (Keyed.key a).sameKey (.value name) = true := Field.sameKey_value_iff.2 named
  have others : Table.erase (.value name) t = t := by
    refine List.filter_eq_self.2 fun b mem => ?_
    rw [Bool.not_eq_true', Bool.eq_false_iff, ne_eq, Field.sameKey_value_iff]
    exact distinct.key_ne named mem
  rw [← others]
  simp [Table.erase, own]

theorem erase_cons_of_ne {a : α} {t : List α} {name : Text}
    (other : ¬ (Keyed.key a).sameKey (.value name)) :
    erase (.value name) (a :: t) = a :: erase (.value name) t := by
  simp [erase, other]

/-- To erase a name takes the one record of that name away. -/
theorem Distinct.erase_of_find? {old : α} {t : List α} {name : Text} (distinct : Distinct t)
    (stored : Table.find? t (.value name) = some old) :
    ∃ before after, t = before ++ old :: after ∧ Table.erase (.value name) t = before ++ after := by
  induction t with
  | nil => cases stored
  | cons b t ih =>
    rw [find?_cons] at stored
    split at stored
    · next same =>
      cases stored
      exact ⟨[], t, rfl, distinct.erase_cons (Field.sameKey_value_iff.1 same)⟩
    · next other =>
      obtain ⟨before, after, split, erased⟩ := ih distinct.of_cons stored
      exact ⟨b :: before, after, by rw [split]; rfl, by rw [erase_cons_of_ne other, erased]; rfl⟩

/-- A record under a name of its own is added once, in the place of the one that it replaces or at
the end. -/
theorem insert_perm {a : α} {t : List α} {name : Text} (distinct : Distinct t)
    (named : Keyed.key a = .value name) : (insert a t).Perm (a :: erase (.value name) t) := by
  induction t with
  | nil => exact .refl _
  | cons b t ih =>
    rw [insert, named]
    split
    · next same => rw [distinct.erase_cons (Field.sameKey_value_iff.1 same)]
    · next other =>
      rw [erase_cons_of_ne other]
      exact ((ih distinct.of_cons).cons b).trans (.swap a b _)

end RoutineVisibility.Table
