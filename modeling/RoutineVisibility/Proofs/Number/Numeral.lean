import RoutineVisibility.Number.Numeral
import RoutineVisibility.Number.Shortest
import RoutineVisibility.Proofs.Text.Digit
import RoutineVisibility.Proofs.Text.Span

/-! The integer that a text begins with, as a grammar. -/
namespace RoutineVisibility.Number
open Text

inductive IsSign : Bool → List Char → Prop where
  | none : IsSign false []
  | plus : IsSign false ['+']
  | minus : IsSign true ['-']

/-- A text begins with blanks, a sign or none, and these digits, and does not go on with a digit. -/
def BeginsWith (s : List Char) (negative : Bool) (ds : List Char) : Prop :=
  ∃ blanks sign rest, s = blanks ++ (sign ++ (ds ++ rest)) ∧ (∀ c ∈ blanks, isBlank c) ∧
    IsSign negative sign ∧
    ds ≠ [] ∧ (∀ c ∈ ds, isDigit c) ∧ ∀ c ∈ rest.head?, isDigit c = false

theorem takeSign_append {negative : Bool} {sign s : List Char} (signed : IsSign negative sign)
    (ends : ∀ c ∈ s.head?, c ≠ '+' ∧ c ≠ '-') : takeSign (sign ++ s) = (negative, s) := by
  cases signed with
  | plus => rfl
  | minus => rfl
  | none =>
    rw [List.nil_append]
    unfold takeSign
    split
    · exact absurd rfl (ends '-' rfl).2
    · exact absurd rfl (ends '+' rfl).1
    · rfl

theorem exists_sign (s : List Char) :
    ∃ sign, IsSign (takeSign s).1 sign ∧ s = sign ++ (takeSign s).2 := by
  unfold takeSign
  split
  · exact ⟨_, .minus, rfl⟩
  · exact ⟨_, .plus, rfl⟩
  · exact ⟨_, .none, rfl⟩

variable {s ds : List Char} {negative : Bool}

theorem leadingInteger?_eq_iff_taken : leadingInteger? s = some (negative, ds) ↔
    (takeSign (s.dropWhile isBlank)).1 = negative ∧
      (takeSign (s.dropWhile isBlank)).2.takeWhile isDigit = ds ∧ ds ≠ [] := by
  unfold leadingInteger? takeDigits
  dsimp only
  cases (takeSign (s.dropWhile isBlank)).2.takeWhile isDigit with
  | nil => simp +contextual
  | cons d rest =>
    simp only [Option.some.injEq, Prod.mk.injEq]
    constructor
    · intro ⟨sign, taken⟩
      exact ⟨sign, taken, taken ▸ List.cons_ne_nil d rest⟩
    · intro ⟨sign, taken, _⟩
      exact ⟨sign, taken⟩

/-- Before digits, neither the blanks nor the sign can be taken further than they go. -/
theorem takeSign_of_signed {blanks sign : List Char} {d : Char}
    (blank : ∀ c ∈ blanks, isBlank c) (signed : IsSign negative sign) (digit : isDigit d) :
    takeSign ((blanks ++ (sign ++ d :: s)).dropWhile isBlank) = (negative, d :: s) := by
  have first := apart_of_isDigit digit
  have dropped : (blanks ++ (sign ++ d :: s)).dropWhile isBlank = sign ++ d :: s := by
    refine dropWhile_append_of_ends blank ?_
    intro c head
    cases signed with
    | none =>
      cases head
      exact first.1
    | plus =>
      cases head
      rfl
    | minus =>
      cases head
      rfl
  rw [dropped]
  refine takeSign_append signed ?_
  intro c head
  cases head
  exact first.2

theorem leadingInteger?_eq_some_iff :
    leadingInteger? s = some (negative, ds) ↔ BeginsWith s negative ds := by
  rw [leadingInteger?_eq_iff_taken]
  constructor
  · rintro ⟨rfl, rfl, some⟩
    obtain ⟨sign, signed, split⟩ := exists_sign (s.dropWhile isBlank)
    refine ⟨s.takeWhile isBlank, sign, (takeSign (s.dropWhile isBlank)).2.dropWhile isDigit, ?_, ?_,
      signed, some, ?_, ?_⟩
    · rw [List.takeWhile_append_dropWhile, ← split, List.takeWhile_append_dropWhile]
    · exact List.all_eq_true.1 List.all_takeWhile
    · exact List.all_eq_true.1 List.all_takeWhile
    · exact head?_dropWhile_ends isDigit _
  · rintro ⟨blanks, sign, rest, rfl, blank, signed, some, digits, ends⟩
    obtain ⟨d, ds, rfl⟩ := List.exists_cons_of_ne_nil some
    have taken : takeSign ((blanks ++ (sign ++ (d :: ds ++ rest))).dropWhile isBlank) =
        (negative, d :: ds ++ rest) :=
      takeSign_of_signed blank signed (digits d List.mem_cons_self)
    rw [taken]
    exact ⟨rfl, takeWhile_append_of_ends digits ends, some⟩

def isLeading (c : Char) : Bool :=
  isBlank c || c == '+' || c == '-' || isDigit c

/-- No integer reaches past a character that cannot stand in it. -/
theorem BeginsWith.length_le (begins : BeginsWith s negative ds) {before after : List Char}
    {c : Char} (stop : s = before ++ c :: after) (foreign : isLeading c = false) :
    ds.length ≤ before.length := by
  obtain ⟨blanks, sign, rest, split, blank, signed, -, digits, -⟩ := begins
  have leading : ∀ d ∈ blanks ++ (sign ++ ds), isLeading d := by
    intro d mem
    rcases List.mem_append.1 mem with mem | mem
    · simp [isLeading, blank d mem]
    · rcases List.mem_append.1 mem with mem | mem
      · cases signed with
        | none => cases mem
        | plus | minus =>
          rw [List.mem_singleton.1 mem]
          decide
      · simp [isLeading, digits d mem]
  have first : blanks ++ (sign ++ ds) <+: s := ⟨rest, by rw [split]; simp⟩
  have second : before ++ [c] <+: s := ⟨after, by rw [stop]; simp⟩
  have short : (blanks ++ (sign ++ ds)).length ≤ before.length := by
    refine Nat.le_of_not_lt fun long => ?_
    have within : before ++ [c] <+: blanks ++ (sign ++ ds) := by
      refine List.prefix_of_prefix_length_le second first ?_
      rw [List.length_append, List.length_singleton]
      omega
    have mem : c ∈ blanks ++ (sign ++ ds) := within.subset (by simp)
    rw [leading c mem] at foreign
    cases foreign
  simp only [List.length_append] at short
  omega

/-- Before the end of a text stands, early enough, a character that no integer contains. -/
def StopsWithin (n : Nat) (s : List Char) : Prop :=
  ∃ before c after, s = before ++ c :: after ∧ before.length ≤ n ∧ isLeading c = false

theorem BeginsWith.length_le_of_stopsWithin {n : Nat} (begins : BeginsWith s negative ds)
    (stops : StopsWithin n s) : ds.length ≤ n := by
  obtain ⟨before, c, after, split, short, foreign⟩ := stops
  exact Nat.le_trans (begins.length_le split foreign) short

theorem StopsWithin.cons {n : Nat} (c : Char) (stops : StopsWithin n s) :
    StopsWithin (n + 1) (c :: s) := by
  obtain ⟨before, d, after, rfl, short, foreign⟩ := stops
  exact ⟨c :: before, d, after, rfl, Nat.succ_le_succ short, foreign⟩

theorem stopsWithin_append {n : Nat} {before after : List Char} (short : before.length ≤ n)
    (stops : ∃ c, after.head? = some c ∧ isLeading c = false) :
    StopsWithin n (before ++ after) := by
  obtain ⟨c, head, foreign⟩ := stops
  obtain ⟨rest, rfl⟩ := List.head?_eq_some_iff.1 head
  exact ⟨before, c, rest, rfl, short, foreign⟩

/-- A float is written with its point or its exponent after at most sixteen digits. -/
theorem stopsWithin_magnitudeText (bits : Nat) : StopsWithin 16 (magnitudeText bits).toList := by
  unfold magnitudeText
  split
  · exact ⟨['0'], '.', ['0'], rfl, by decide, by decide⟩
  · split
    · exact ⟨[], 'n', ['a', 'n'], rfl, by decide, by decide⟩
    · split
      · exact ⟨[], 'i', ['n', 'f'], rfl, by decide, by decide⟩
      · dsimp only
        rw [String.toList_ofList]
        generalize significantDigits (shortest bits).1 = ds
        generalize (shortest bits).2 + (digitCount (shortest bits).1 : Int) = p
        split
        · simp only [List.append_assoc]
          refine stopsWithin_append (Nat.le_trans (List.length_take_le 1 ds) (by decide)) ?_
          split
          · exact ⟨'e', rfl, by decide⟩
          · exact ⟨'.', rfl, by decide⟩
        · next positional =>
          simp only [Bool.or_eq_true, decide_eq_true_eq, not_or] at positional
          split
          · exact ⟨['0'], '.', _, rfl, by decide, by decide⟩
          · split
            · next fits =>
              refine stopsWithin_append ?_ ⟨'.', rfl, by decide⟩
              rw [zeros, List.length_append, List.length_replicate]
              omega
            · have short : (ds.take p.toNat).length ≤ 16 := by
                rw [List.length_take]
                omega
              rw [List.append_assoc]
              exact stopsWithin_append short ⟨'.', rfl, by decide⟩

theorem stopsWithin_floatText (x : Float) : StopsWithin 17 (floatText x).toList := by
  unfold floatText
  dsimp only
  split
  · rw [String.toList_append]
    exact (stopsWithin_magnitudeText _).cons '-'
  · obtain ⟨before, c, after, split, short, foreign⟩ :=
      stopsWithin_magnitudeText (x.toBits.toNat % signBit)
    exact ⟨before, c, after, split, Nat.le_succ_of_le short, foreign⟩

def StartsInteger (s : List Char) : Prop :=
  ∃ blanks negative sign d rest, s = blanks ++ (sign ++ d :: rest) ∧ (∀ c ∈ blanks, isBlank c) ∧
    IsSign negative sign ∧ isDigit d

theorem startsInteger_iff : StartsInteger s ↔ ∃ negative ds, BeginsWith s negative ds := by
  constructor
  · rintro ⟨blanks, negative, sign, d, rest, split, blank, signed, digit⟩
    have run : d :: rest = d :: rest.takeWhile isDigit ++ rest.dropWhile isDigit := by
      rw [List.cons_append, List.takeWhile_append_dropWhile]
    rw [run] at split
    have digits : ∀ c ∈ d :: rest.takeWhile isDigit, isDigit c :=
      List.forall_mem_cons.2 ⟨digit, List.all_eq_true.1 List.all_takeWhile⟩
    exact ⟨negative, _, blanks, sign, _, split, blank, signed, List.cons_ne_nil _ _, digits,
      head?_dropWhile_ends _ rest⟩
  · rintro ⟨negative, ds, blanks, sign, rest, split, blank, signed, some, digits, -⟩
    obtain ⟨d, ds, rfl⟩ := List.exists_cons_of_ne_nil some
    exact ⟨blanks, negative, sign, d, ds ++ rest, split, blank, signed, digits d List.mem_cons_self⟩

theorem leadingInteger?_eq_none_iff : leadingInteger? s = none ↔ ¬ StartsInteger s := by
  rw [startsInteger_iff, not_exists, Option.eq_none_iff_forall_ne_some, Prod.forall]
  refine forall_congr' fun negative => ?_
  rw [not_exists]
  exact forall_congr' fun ds => not_congr leadingInteger?_eq_some_iff

/-- An integer is written as the digits of its magnitude, after a minus if it is negative. -/
theorem toList_toString (n : Int) :
    (toString n).toList = (if n < 0 then ['-'] else []) ++ Nat.toDigits 10 n.natAbs := by
  rw [Int.toString_eq_repr, Int.repr_eq_if]
  by_cases negative : n < 0
  · have magnitude : (-n).toNat = n.natAbs := by omega
    rw [if_neg (Int.not_le.2 negative), magnitude, String.toList_append, Nat.toList_repr,
      if_pos negative]
    rfl
  · have magnitude : n.toNat = n.natAbs := by omega
    rw [if_pos (Int.not_lt.1 negative), magnitude, Nat.toList_repr, if_neg negative]
    rfl

/-- A text begins with blanks, a plus where one may stand, and the decimal form of an integer, and
does not go on with a digit. -/
def BeginsWithDecimal (s : List Char) (n : Int) : Prop :=
  ∃ blanks plus rest, s = blanks ++ (plus ++ ((toString n).toList ++ rest)) ∧
    (∀ c ∈ blanks, isBlank c) ∧
    (plus = [] ∨ plus = ['+'] ∧ 0 ≤ n) ∧ ∀ c ∈ rest.head?, isDigit c = false

theorem BeginsWithDecimal.beginsWith {n : Int} (begins : BeginsWithDecimal s n) :
    BeginsWith s (decide (n < 0)) (Nat.toDigits 10 n.natAbs) := by
  obtain ⟨blanks, plus, rest, rfl, blank, plain, ends⟩ := begins
  have digits : ∀ c ∈ Nat.toDigits 10 n.natAbs, isDigit c :=
    fun c mem => isDigit_of_isDigit (Nat.isDigit_of_mem_toDigits (by decide) (by decide) mem)
  rw [toList_toString]
  by_cases negative : n < 0
  · have none : plus = [] :=
      plain.resolve_right fun signed => absurd signed.2 (Int.not_le.2 negative)
    rw [if_pos negative, decide_eq_true negative, none]
    exact ⟨blanks, ['-'], rest, by simp, blank, .minus, Nat.toDigits_ne_nil, digits, ends⟩
  · have signed : IsSign false plus := by
      rcases plain with rfl | ⟨rfl, -⟩
      · exact .none
      · exact .plus
    rw [if_neg negative, decide_eq_false negative]
    exact ⟨blanks, plus, rest, by simp, blank, signed, Nat.toDigits_ne_nil, digits, ends⟩

theorem beginsWithDecimal_toString (n : Int) : BeginsWithDecimal (toString n).toList n :=
  ⟨[], [], [], by simp, nofun, .inl rfl, nofun⟩

theorem beginsWith_toString (n : Int) :
    BeginsWith (toString n).toList (decide (n < 0)) (Nat.toDigits 10 n.natAbs) :=
  (beginsWithDecimal_toString n).beginsWith

/-- The digits of an integer stand for it, as long as there are not too many. -/
theorem integerValue_toDigits {n : Int} (fits : (Nat.toDigits 10 n.natAbs).length ≤ digitLimit) :
    integerValue (decide (n < 0)) (Nat.toDigits 10 n.natAbs) = .ok n := by
  have digits : ∀ c ∈ Nat.toDigits 10 n.natAbs, c.isDigit :=
    fun c => Nat.isDigit_of_mem_toDigits (by decide) (by decide)
  rw [integerValue, if_neg (Nat.not_lt.2 fits), digitsValue_eq_ofDigitChars digits,
    Nat.ofDigitChars_ten_toDigits]
  by_cases negative : n < 0
  · rw [decide_eq_true negative, if_pos rfl]
    exact congrArg Except.ok (by omega)
  · rw [decide_eq_false negative, if_neg Bool.false_ne_true]
    exact congrArg Except.ok (by omega)

end RoutineVisibility.Number
