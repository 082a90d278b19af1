import Mathlib.Data.List.Induction
import RoutineVisibility.Proofs.Calendar.DateText
import RoutineVisibility.Reset.Schedule

/-! Written times of day as a grammar, which the reader accepts and nothing else. -/
namespace RoutineVisibility

namespace Text

inductive Spells : List Char → Nat → Prop where
  | nil : Spells [] 0
  | snoc {ds : List Char} {d : Char} {n v : Nat} (row : Spells ds n)
    (digit : digitValue? d = some v) :
    Spells (ds ++ [d]) (10 * n + v)

theorem digitsValue_concat (ds : List Char) (d : Char) :
    digitsValue (ds ++ [d]) = 10 * digitsValue ds + (digitValue? d).getD 0 := by
  rw [digitsValue, List.foldl_append]
  rfl

theorem spells_iff {ds : List Char} {n : Nat} :
    Spells ds n ↔ (∀ d ∈ ds, isDigit d) ∧ digitsValue ds = n := by
  constructor
  · intro row
    induction row with
    | nil => exact ⟨nofun, rfl⟩
    | @snoc ds d n v _ digit ih =>
      obtain ⟨digits, value⟩ := ih
      refine ⟨fun c mem => ?_, ?_⟩
      · rcases List.mem_append.1 mem with earlier | last
        · exact digits c earlier
        · rw [List.mem_singleton.1 last, isDigit, digit]
          rfl
      · rw [digitsValue_concat, value, digit, Option.getD_some]
  · rintro ⟨digits, rfl⟩
    induction ds using List.reverseRecOn with
    | nil => exact .nil
    | append_singleton ds d ih =>
      obtain ⟨v, digit⟩ := Option.isSome_iff_exists.1 (digits d (by simp))
      rw [digitsValue_concat, digit]
      exact .snoc (ih fun c mem => digits c (List.mem_append_left [d] mem)) digit

/-- What is trimmed away on both sides are blanks. -/
theorem exists_append_trimBy (p : Char → Bool) (s : List Char) :
    ∃ before after, s = before ++ trimBy p s ++ after ∧ (∀ c ∈ before, p c) ∧ ∀ c ∈ after, p c := by
  refine ⟨s.takeWhile p, ((s.dropWhile p).reverse.takeWhile p).reverse, ?_, ?_, ?_⟩
  · rw [trimBy, List.append_assoc, ← List.reverse_append, List.takeWhile_append_dropWhile,
      List.reverse_reverse, List.takeWhile_append_dropWhile]
  · exact List.all_eq_true.1 List.all_takeWhile
  · intro c mem
    exact List.all_eq_true.1 List.all_takeWhile c (List.mem_reverse.1 mem)

end Text

namespace TimeOfDay
open Text

structure Writes (s : String) (h m : Nat) : Prop where
  split : ∃ before hour minute after, s.toList = before ++ (hour ++ ':' :: minute) ++ after ∧
    (∀ c ∈ before, isBlank c) ∧ (∀ c ∈ after, isBlank c) ∧ (hour.length = 1 ∨ hour.length = 2) ∧
      minute.length = 2 ∧
    Spells hour h ∧ Spells minute m
  hour_le : h ≤ 23
  minute_le : m ≤ 59

variable {s : String} {t : TimeOfDay}

theorem eq_of_minute {t u : TimeOfDay} (same : t.minute = u.minute) : t = u := by
  obtain ⟨t, _⟩ := t
  obtain ⟨u, _⟩ := u
  cases same
  rfl

theorem ofClock?_eq_some_iff {h m : Nat} :
    ofClock? h m = some t ↔ h ≤ 23 ∧ m ≤ 59 ∧ t.minute = 60 * h + m := by
  unfold ofClock?
  split
  · next clock =>
    constructor
    · rintro ⟨⟩
      exact ⟨clock.1, clock.2, rfl⟩
    · rintro ⟨-, -, value⟩
      exact congrArg some (eq_of_minute value.symm)
  · next none => exact ⟨nofun, fun ⟨hour, minute, _⟩ => absurd ⟨hour, minute⟩ none⟩

theorem ofDigits?_eq_some_iff {hour minute : List Char} : ofDigits? hour minute = some t ↔
    ∃ h m, Spells hour h ∧ Spells minute m ∧ h ≤ 23 ∧ m ≤ 59 ∧ t.minute = 60 * h + m := by
  have digits : (hour ++ minute).all isDigit ↔ (∀ d ∈ hour, isDigit d) ∧
      ∀ d ∈ minute, isDigit d := by
    rw [List.all_append, Bool.and_eq_true, List.all_eq_true, List.all_eq_true]
  unfold ofDigits?
  constructor
  · intro read
    split at read
    · next all =>
      obtain ⟨hours, minutes⟩ := digits.1 all
      exact ⟨_, _, spells_iff.2 ⟨hours, rfl⟩, spells_iff.2 ⟨minutes, rfl⟩,
        ofClock?_eq_some_iff.1 read⟩
    · cases read
  · rintro ⟨h, m, spellsHour, spellsMinute, clock⟩
    obtain ⟨hours, rfl⟩ := spells_iff.1 spellsHour
    obtain ⟨minutes, rfl⟩ := spells_iff.1 spellsMinute
    rw [if_pos (digits.2 ⟨hours, minutes⟩)]
    exact ofClock?_eq_some_iff.2 clock

theorem parse?_of_trimmed {hour minute : List Char}
    (trimmed : trimBlanks s.toList = hour ++ ':' :: minute)
    (hours : hour.length = 1 ∨ hour.length = 2) (minutes : minute.length = 2) :
    parse? s = ofDigits? hour minute := by
  obtain ⟨m, n, rfl⟩ := List.length_eq_two.1 minutes
  rcases hours with one | two
  · obtain ⟨h, rfl⟩ := List.length_eq_one_iff.1 one
    rw [parse?, trimmed]
    rfl
  · obtain ⟨h, i, rfl⟩ := List.length_eq_two.1 two
    rw [parse?, trimmed]
    split
    · next other => exact absurd (congrArg List.length other) (by simp)
    · next same =>
      cases same
      rfl
    · next none => exact absurd rfl (none h i m n)

/-- The reader takes a text apart as an hour, a colon and a minute, or it gives nothing. -/
theorem exists_trimmed_of_parse? (read : parse? s = some t) :
    ∃ hour minute, trimBlanks s.toList = hour ++ ':' :: minute ∧
      (hour.length = 1 ∨ hour.length = 2) ∧
      minute.length = 2 ∧ ofDigits? hour minute = some t := by
  unfold parse? at read
  split at read
  · next h m n trimmed => exact ⟨[h], [m, n], trimmed, Or.inl rfl, rfl, read⟩
  · next h i m n trimmed => exact ⟨[h, i], [m, n], trimmed, Or.inr rfl, rfl, read⟩
  · cases read

theorem parse?_eq_some_iff : parse? s = some t ↔ ∃ h m, Writes s h m ∧ t.minute = 60 * h + m := by
  constructor
  · intro read
    obtain ⟨hour, minute, trimmed, hours, minutes, read⟩ := exists_trimmed_of_parse? read
    obtain ⟨h, m, spellsHour, spellsMinute, hour_le, minute_le, value⟩ :=
      ofDigits?_eq_some_iff.1 read
    obtain ⟨before, after, split, leading, trailing⟩ := exists_append_trimBy isBlank s.toList
    rw [← trimBlanks, trimmed] at split
    exact ⟨h, m, ⟨⟨before, hour, minute, after, split, leading, trailing, hours, minutes,
      spellsHour, spellsMinute⟩, hour_le, minute_le⟩, value⟩
  · rintro ⟨h, m, ⟨⟨before, hour, minute, after, split, leading, trailing, hours, minutes,
      spellsHour, spellsMinute⟩, hour_le, minute_le⟩, value⟩
    have inside : ∀ c ∈ hour ++ ':' :: minute, isBlank c = false := by
      intro c mem
      rcases List.mem_append.1 mem with digit | mem
      · exact (apart_of_isDigit ((spells_iff.1 spellsHour).1 c digit)).1
      · rcases List.mem_cons.1 mem with rfl | digit
        · decide
        · exact (apart_of_isDigit ((spells_iff.1 spellsMinute).1 c digit)).1
    have trimmed : trimBlanks s.toList = hour ++ ':' :: minute := by
      rw [split, trimBlanks, trimBy_append (by simp) inside leading trailing]
    rw [parse?_of_trimmed trimmed hours minutes, ofDigits?_eq_some_iff]
    exact ⟨h, m, spellsHour, spellsMinute, hour_le, minute_le, value⟩

/-- What a text writes is read from it, so it writes at most one time of day. -/
theorem parse?_of_writes {h m : Nat} (writes : Writes s h m) :
    parse? s = some ⟨60 * h + m, by have := writes.hour_le; have := writes.minute_le; omega⟩ :=
  parse?_eq_some_iff.2 ⟨h, m, writes, rfl⟩

theorem parse?_eq_none_iff : parse? s = none ↔ ∀ h m, ¬ Writes s h m := by
  rw [Option.eq_none_iff_forall_ne_some]
  constructor
  · intro unread h m writes
    exact unread _ (parse?_of_writes writes)
  · intro none t read
    obtain ⟨h, m, writes, -⟩ := parse?_eq_some_iff.1 read
    exact none h m writes

end TimeOfDay

/-- The hour and the minute of a clock at which a text makes the periods roll over: those that it
writes, and five minutes to midnight if it writes none. -/
structure ResetsAt (s : String) (h m : Nat) : Prop where
  hour : (resetTimeOf s).minute / 60 = h
  minute : (resetTimeOf s).minute % 60 = m
  hour_le : h ≤ 23
  minute_le : m ≤ 59
  written : TimeOfDay.Writes s h m ∨ (∀ h m, ¬ TimeOfDay.Writes s h m) ∧ h = 23 ∧ m = 55

theorem exists_resetsAt (s : String) : ∃ h m, ResetsAt s h m := by
  cases read : TimeOfDay.parse? s with
  | some t =>
    obtain ⟨h, m, writes, value⟩ := TimeOfDay.parse?_eq_some_iff.1 read
    have time : (resetTimeOf s).minute = 60 * h + m := by
      rw [resetTimeOf, read, Option.getD_some, value]
    have minute_le := writes.minute_le
    exact ⟨h, m, by omega, by omega, writes.hour_le, minute_le, Or.inl writes⟩
  | none =>
    have time : (resetTimeOf s).minute = 1435 := by rw [resetTimeOf, read, Option.getD_none]; rfl
    exact ⟨23, 55, by omega, by omega, by decide, by decide,
      Or.inr ⟨TimeOfDay.parse?_eq_none_iff.1 read, rfl, rfl⟩⟩

/-- The reader of times of day accepts exactly its grammar, with the minutes since midnight as its
result, and a reset rolls over at a time of the clock for every text. -/
theorem TimeOfDay.parse?_iff_writes (s : String) :
    (∀ k : Int, (parse? s).map (fun t => (t.minute : Int)) = some k ↔ ∃ h m : Nat, Writes s h m ∧
      k = 60 * h + m) ∧
      (parse? s = none ↔ ∀ h m, ¬ Writes s h m) ∧
      (∀ k : Int, (parse? s).map (fun t => (t.minute : Int)) = some k → 0 ≤ k ∧ k ≤ 1439) ∧
      ∃ h m, ResetsAt s h m := by
  have grammar (k : Int) : (parse? s).map (fun t => (t.minute : Int)) = some k ↔
      ∃ h m : Nat, Writes s h m ∧ k = 60 * h + m := by
    rw [Option.map_eq_some_iff]
    constructor
    · rintro ⟨t, read, rfl⟩
      obtain ⟨h, m, writes, value⟩ := parse?_eq_some_iff.1 read
      exact ⟨h, m, writes, by omega⟩
    · rintro ⟨h, m, writes, rfl⟩
      exact ⟨_, parse?_of_writes writes, by simp⟩
  refine ⟨grammar, parse?_eq_none_iff, fun k read => ?_, exists_resetsAt s⟩
  obtain ⟨h, m, writes, rfl⟩ := (grammar k).1 read
  have hour_le := writes.hour_le
  have minute_le := writes.minute_le
  omega

/-- Digits of another script, and a line break at the end. -/
example : (TimeOfDay.parse? " \u0669:\u0660\u0665\n").map (·.minute) = some 545 := by decide +kernel

end RoutineVisibility
