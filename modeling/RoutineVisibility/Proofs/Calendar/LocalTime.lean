import RoutineVisibility.Calendar.Stamp

/-! Local time of a stamp with an offset: its instant, moved by the offset of the local zone. -/
namespace RoutineVisibility

namespace Moment

def onMinute (day minute : Nat) : Moment :=
  Date.atTime ⟨day % calendarDays, Nat.mod_lt _ (by decide)⟩ ⟨minute % 1440,
    Nat.mod_lt _ (by decide)⟩

def InCalendar (n : Int) : Prop :=
  0 ≤ n ∧ n < calendarDays * dayTicks

instance (n : Int) : Decidable (InCalendar n) := inferInstanceAs (Decidable (_ ∧ _))

theorem isSome_ofTicks?_iff {n : Int} : (ofTicks? n).isSome ↔ InCalendar n := by
  unfold ofTicks? InCalendar
  split
  · next inside =>
    have before : n.toNat < calendarDays * dayTicks :=
      (Nat.div_lt_iff_lt_mul (by decide)).1 inside.2
    refine iff_of_true rfl ⟨inside.1, ?_⟩
    omega
  · next outside =>
    apply iff_of_false (by simp)
    intro calendar
    have before : n.toNat / dayTicks < calendarDays := by
      rw [Nat.div_lt_iff_lt_mul (by decide)]
      omega
    exact outside ⟨calendar.1, before⟩

theorem ofTicks?_eq_some_iff {n : Int} {m : Moment} :
    ofTicks? n = some m ↔ (m.ticks : Int) = n := by
  constructor
  · exact ticks_of_ofTicks?
  · rintro rfl
    exact ofTicks?_ticks m

theorem inCalendar_ticks (m : Moment) : InCalendar m.ticks := by
  have there : (ofTicks? m.ticks).isSome := by rw [ofTicks?_ticks]; rfl
  exact isSome_ofTicks?_iff.1 there

end Moment

namespace Stamp
open Moment

/-- The UTC time of a stamp with an offset, in microseconds from the start of the calendar on. It
may lie outside the calendar. -/
def instant? (t : Stamp) : Option Int :=
  t.offset.map fun o => t.moment.ticks - o * minuteTicks

def Convertible (t : Stamp) (localOffset : Int) : Prop :=
  ∀ o ∈ t.offset, InCalendar (t.moment.ticks - o * minuteTicks) ∧
    InCalendar (t.moment.ticks - o * minuteTicks + localOffset * minuteTicks)

instance (t : Stamp) (localOffset : Int) : Decidable (t.Convertible localOffset) :=
  inferInstanceAs (Decidable (∀ o ∈ t.offset, _ ∧ _))

variable {t : Stamp} {localOffset n : Int}

theorem toLocal?_of_instant? (instant : t.instant? = some n) :
    t.toLocal? localOffset = (ofTicks? n).bind fun utc =>
      utc.shift? (localOffset * minuteTicks) := by
  obtain ⟨moment, offset⟩ := t
  obtain ⟨o, rfl, rfl⟩ := Option.map_eq_some_iff.1 instant
  have utcTicks : (moment.ticks : Int) + -o * minuteTicks = moment.ticks - o * minuteTicks := by
    rw [Int.neg_mul, Int.sub_eq_add_neg]
  rw [← utcTicks]
  rfl

/-- The local time of an instant is the instant moved by the offset of the local zone. -/
theorem toLocal?_eq_some_iff (instant : t.instant? = some n) {m : Moment} :
    t.toLocal? localOffset = some m ↔ InCalendar n ∧
      (m.ticks : Int) = n + localOffset * minuteTicks := by
  rw [toLocal?_of_instant? instant]
  cases utc : ofTicks? n with
  | none =>
    have outside : ¬ InCalendar n := by
      rw [← isSome_ofTicks?_iff, utc]
      decide
    simp [outside]
  | some u =>
    have ticks : (u.ticks : Int) = n := ticks_of_ofTicks? utc
    have inside : InCalendar n := by
      rw [← ticks]
      exact inCalendar_ticks u
    rw [Option.bind_some, shift?, ofTicks?_eq_some_iff, ticks, and_iff_right inside]

theorem isSome_toLocal?_iff : (t.toLocal? localOffset).isSome ↔ t.Convertible localOffset := by
  unfold Convertible
  cases offset : t.offset with
  | none =>
    have naive : t.toLocal? localOffset = some t.moment := by rw [toLocal?, offset]
    rw [naive]
    exact iff_of_true rfl (by simp)
  | some o =>
    have instant : t.instant? = some (t.moment.ticks - o * minuteTicks) := by
      rw [instant?, offset, Option.map_some]
    simp only [Option.mem_def, Option.some.injEq, forall_eq', Option.isSome_iff_exists,
      toLocal?_eq_some_iff instant, exists_and_left, ← isSome_ofTicks?_iff, ofTicks?_eq_some_iff]

end Stamp
end RoutineVisibility
