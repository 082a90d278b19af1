import Mathlib.Data.List.Induction
import RoutineVisibility.Proofs.Store.Table

/-! Tables and their histories: the records that were written and neither replaced nor deleted
since. -/
namespace RoutineVisibility

/-- The first condition held of an event and those before it, and the second one of all events after
it. -/
def Since {α : Type} (began : List α → α → Prop) (goesOn : α → Prop) (history : List α) : Prop :=
  ∃ before e after, history = before ++ e :: after ∧ began before e ∧ ∀ later ∈ after, goesOn later

section
variable {α : Type} {began : List α → α → Prop} {goesOn : α → Prop}

theorem not_since_nil : ¬ Since began goesOn [] := by
  rintro ⟨before, e, after, split, -⟩
  simp at split

theorem since_concat {history : List α} {e : α} :
    Since began goesOn (history ++ [e]) ↔
      began history e ∨ Since began goesOn history ∧ goesOn e := by
  constructor
  · rintro ⟨before, first, after, split, begins, keeps⟩
    rcases List.eq_nil_or_concat after with rfl | ⟨after, last, rfl⟩
    · obtain ⟨rfl, same⟩ := List.append_inj' split rfl
      cases same
      exact Or.inl begins
    · rw [List.concat_eq_append, ← List.cons_append, ← List.append_assoc] at split
      obtain ⟨rfl, same⟩ := List.append_inj' split rfl
      cases same
      refine Or.inr ⟨⟨before, first, after, rfl, begins, fun later mem => keeps later ?_⟩,
        keeps e ?_⟩
      · simp [mem]
      · simp
  · rintro (begins | ⟨⟨before, first, after, rfl, begins, keeps⟩, goes⟩)
    · exact ⟨history, e, [], rfl, begins, nofun⟩
    · refine ⟨before, first, after ++ [e], by simp, begins, fun later mem => ?_⟩
      rcases List.mem_append.1 mem with earlier | last
      · exact keeps later earlier
      · exact List.mem_singleton.1 last ▸ goes

theorem since_map {β : Type} {f : β → α} {history : List β} : Since began goesOn (history.map f) ↔
    Since (fun before b => began (before.map f) (f b)) (fun b => goesOn (f b)) history := by
  constructor
  · rintro ⟨before, e, after, split, begins, keeps⟩
    obtain ⟨before, rest, rfl, rfl, more⟩ := List.map_eq_append_iff.1 split
    obtain ⟨b, after, rfl, rfl, rfl⟩ := List.map_eq_cons_iff.1 more
    exact ⟨before, b, after, rfl, begins, fun later mem => keeps _ (List.mem_map_of_mem mem)⟩
  · rintro ⟨before, b, after, rfl, begins, keeps⟩
    refine ⟨before.map f, f b, after.map f, by simp, begins, fun later mem => ?_⟩
    obtain ⟨c, inside, rfl⟩ := List.mem_map.1 mem
    exact keeps c inside

end

namespace Table

inductive Edit (α : Type) where
  | write (a : α)
  | delete (name : Text)

variable {α : Type} [Keyed α]

def Edit.key : Edit α → Field Text
  | .write a => Keyed.key a
  | .delete name => .value name

def Edit.Writes (name : Text) (e : Edit α) : Prop :=
  ∃ a, e = .write a ∧ Keyed.key a = .value name

def edit (t : List α) : Edit α → List α
  | .write a => insert a t
  | .delete name => erase (.value name) t

/-- The record was written, and its name neither written nor deleted since. -/
def WrittenLast (es : List (Edit α)) (a : α) : Prop :=
  Since (fun _ e => e = .write a) (fun later => later.key ≠ Keyed.key a) es

def Stands (es : List (Edit α)) (name : Text) : Prop :=
  Since (fun _ e => e.Writes name) (· ≠ .delete name) es

/-- The name was written by the change of this number, and not deleted since; before, it did not
stand. -/
def StandsFrom (es : List (Edit α)) (name : Text) (n : Nat) : Prop :=
  Since (fun before e => before.length = n ∧ e.Writes name ∧
    ¬ Stands before name) (· ≠ .delete name) es

def Precedes (es : List (Edit α)) (x y : Text) : Prop :=
  ∃ m n, StandsFrom es x m ∧ StandsFrom es y n ∧ m < n

/-- The table holds what stands after the changes: each name once, with the record written last, in
the order in which the names came to stand. -/
structure Reflects (es : List (Edit α)) (t : List α) : Prop where
  distinct : Distinct t
  mem : ∀ a, a ∈ t ↔ WrittenLast es a
  lookup : ∀ name a, find? t (.value name) = some a ↔ WrittenLast es a ∧ Keyed.key a = .value name
  order : (names t).Pairwise (Precedes es)

variable {es : List (Edit α)} {e : Edit α} {t : List α} {a : α} {name : Text} {m n : Nat}

theorem writtenLast_concat :
    WrittenLast (es ++ [e]) a ↔ e = .write a ∨ WrittenLast es a ∧ e.key ≠ Keyed.key a :=
  since_concat

theorem stands_concat :
    Stands (es ++ [e]) name ↔ e.Writes name ∨ Stands es name ∧ e ≠ .delete name :=
  since_concat

theorem standsFrom_concat : StandsFrom (es ++ [e]) name n ↔
    (es.length = n ∧ e.Writes name ∧ ¬ Stands es name) ∨ StandsFrom es name n ∧ e ≠ .delete name :=
  since_concat

theorem stands_iff : Stands es name ↔ ∃ a, WrittenLast es a ∧ Keyed.key a = .value name := by
  induction es using List.reverseRecOn with
  | nil => exact iff_of_false not_since_nil fun ⟨a, written, _⟩ => not_since_nil written
  | append_singleton es e ih =>
    simp only [stands_concat, writtenLast_concat]
    constructor
    · rintro (⟨a, write, key⟩ | ⟨stands, keeps⟩)
      · exact ⟨a, Or.inl write, key⟩
      · obtain ⟨a, written, key⟩ := ih.1 stands
        cases e with
        | delete other =>
          refine ⟨a, Or.inr ⟨written, fun same => keeps ?_⟩, key⟩
          exact congrArg Edit.delete (Field.value.inj (same.trans key))
        | write b =>
          by_cases same : Keyed.key b = Keyed.key a
          · exact ⟨b, Or.inl rfl, same.trans key⟩
          · exact ⟨a, Or.inr ⟨written, same⟩, key⟩
    · rintro ⟨a, write | ⟨written, other⟩, key⟩
      · exact Or.inl ⟨a, write, key⟩
      · refine Or.inr ⟨ih.2 ⟨a, written, key⟩, ?_⟩
        rintro rfl
        exact other key.symm

theorem StandsFrom.lt_length (since : StandsFrom es name n) : n < es.length := by
  obtain ⟨before, e, after, rfl, ⟨rfl, -⟩, -⟩ := since
  simp

theorem exists_standsFrom (stands : Stands es name) : ∃ n, StandsFrom es name n := by
  induction es using List.reverseRecOn with
  | nil => exact absurd stands not_since_nil
  | append_singleton es e ih =>
    simp only [standsFrom_concat]
    rcases stands_concat.1 stands with ⟨a, rfl, key⟩ | ⟨stood, keeps⟩
    · by_cases stood : Stands es name
      · obtain ⟨n, since⟩ := ih stood
        exact ⟨n, Or.inr ⟨since, nofun⟩⟩
      · exact ⟨es.length, Or.inl ⟨rfl, ⟨a, rfl, key⟩, stood⟩⟩
    · obtain ⟨n, since⟩ := ih stood
      exact ⟨n, Or.inr ⟨since, keeps⟩⟩

theorem Precedes.concat {x y : Text} (precedes : Precedes es x y) (keeps : e ≠ .delete x)
    (keeps' : e ≠ .delete y) : Precedes (es ++ [e]) x y := by
  obtain ⟨m, n, since, since', less⟩ := precedes
  exact ⟨m, n, standsFrom_concat.2 (Or.inr ⟨since, keeps⟩),
    standsFrom_concat.2 (Or.inr ⟨since', keeps'⟩), less⟩

namespace Reflects

theorem mem_names_iff (reflects : Reflects es t) : name ∈ names t ↔ Stands es name := by
  rw [mem_names, stands_iff]
  exact exists_congr fun a => and_congr_left' (reflects.mem a)

theorem has_iff (reflects : Reflects es t) : has t (.value name) ↔ Stands es name := by
  rw [has, Option.isSome_iff_exists, stands_iff]
  exact exists_congr fun a => reflects.lookup name a

/-- What a look-up finds follows from what is there, since the names are distinct. -/
theorem of_mem (distinct : Distinct t) (mem : ∀ a, a ∈ t ↔ WrittenLast es a)
    (order : (names t).Pairwise (Precedes es)) : Reflects es t where
  distinct := distinct
  mem := mem
  lookup name a := by
    rw [← mem]
    exact ⟨mem_and_key_of_find?, fun ⟨stored, named⟩ => distinct.find? stored named⟩
  order := order

theorem nil : Reflects [] ([] : List α) :=
  of_mem List.nodup_nil (fun _ => iff_of_false List.not_mem_nil not_since_nil) .nil

theorem write (reflects : Reflects es t) (named : Keyed.key a = .value name) :
    Reflects (es ++ [.write a]) (insert a t) := by
  have mem (b : α) : b ∈ insert a t ↔ WrittenLast (es ++ [.write a]) b := by
    rw [(insert_perm reflects.distinct named).mem_iff, List.mem_cons, mem_erase_iff, reflects.mem,
      writtenLast_concat, Edit.write.injEq, eq_comm, ← named, ne_comm]
    rfl
  refine of_mem (reflects.distinct.insert a) mem ?_
  have kept : (names t).Pairwise (Precedes (es ++ [.write a])) :=
    reflects.order.imp fun precedes => precedes.concat nofun nofun
  rw [names_insert named]
  split
  · exact kept
  · next new =>
    have first : ¬ Stands es name := mt reflects.mem_names_iff.2 new
    refine List.pairwise_append.2 ⟨kept, List.pairwise_singleton _ _, fun x mem y last => ?_⟩
    obtain ⟨m, since⟩ := exists_standsFrom (reflects.mem_names_iff.1 mem)
    rw [List.mem_singleton.1 last]
    exact ⟨m, es.length, standsFrom_concat.2 (Or.inr ⟨since, nofun⟩),
      standsFrom_concat.2 (Or.inl ⟨rfl, ⟨a, rfl, named⟩, first⟩), since.lt_length⟩

theorem delete (reflects : Reflects es t) (name : Text) :
    Reflects (es ++ [.delete name]) (erase (.value name) t) := by
  have mem (a : α) : a ∈ erase (.value name) t ↔ WrittenLast (es ++ [.delete name]) a := by
    rw [mem_erase_iff, reflects.mem, writtenLast_concat, ne_comm]
    exact (or_iff_right nofun).symm
  refine of_mem (reflects.distinct.erase _) mem ?_
  have others {x : Text} (left : x ∈ names (erase (.value name) t)) :
      Edit.delete (α := α) name ≠ .delete x := by
    obtain ⟨a, stored, key⟩ := mem_names.1 left
    rintro ⟨⟩
    exact (mem_erase_iff.1 stored).2 key
  have kept : (names (erase (.value name) t)).Pairwise (Precedes es) :=
    reflects.order.sublist (List.filter_sublist.filterMap _)
  exact kept.imp_of_mem fun left left' precedes => precedes.concat (others left) (others left')

/-- A table is changed as its history goes on. -/
theorem edit (reflects : Reflects es t) (named : ∀ a : α, ∃ name, Keyed.key a = .value name)
    (e : Edit α) : Reflects (es ++ [e]) (Table.edit t e) := by
  cases e with
  | write a =>
    obtain ⟨name, key⟩ := named a
    exact reflects.write key
  | delete name => exact reflects.delete name

end Reflects
end Table
end RoutineVisibility
