import Mathlib.Data.Prod.Lex
import VehicleLink.Calendar.Moment

namespace VehicleLink.Calendar

/-- The year counts most, then the month, then the day. -/
def Date.key (d : Date) : Int ×ₗ Nat ×ₗ Nat := toLex (d.year, toLex (d.month, d.day))

theorem Date.key_injective : Function.Injective key := by
  intro a b same
  obtain ⟨year, rest⟩ := Prod.mk.inj (toLex_inj.mp same)
  obtain ⟨month, day⟩ := Prod.mk.inj (toLex_inj.mp rest)
  exact Date.mk.injEq .. |>.mpr ⟨year, month, day⟩

instance : LinearOrder Date := LinearOrder.lift' Date.key Date.key_injective

/-- Dates come before each other in a linear order. -/
theorem Date.before_iff {a b : Date} : a.before b = true ↔ a < b := by
  have weighed : a < b ↔
      a.year < b.year ∨ a.year = b.year ∧ (a.month < b.month ∨ a.month = b.month ∧ a.day < b.day) :=
    Prod.Lex.toLex_lt_toLex.trans (or_congr_right (and_congr_right fun _ => Prod.Lex.toLex_lt_toLex))
  rw [weighed]
  simp [Date.before]

/-- The date counts most, then the second of the day. A second is counted once before it is counted twice. -/
def Moment.key (t : Moment) : Date ×ₗ Nat ×ₗ Bool := toLex (t.date, toLex (t.second, t.leap))

theorem Moment.key_injective : Function.Injective key := by
  intro a b same
  obtain ⟨date, rest⟩ := Prod.mk.inj (toLex_inj.mp same)
  obtain ⟨second, leap⟩ := Prod.mk.inj (toLex_inj.mp rest)
  exact Moment.mk.injEq .. |>.mpr ⟨date, second, leap⟩

instance : LinearOrder Moment := LinearOrder.lift' Moment.key Moment.key_injective

/-- Moments come before each other in a linear order. -/
theorem Moment.before_iff {a b : Moment} : a.before b = true ↔ a < b := by
  have weighed : a < b ↔ a.date < b.date ∨ a.date = b.date ∧
      (a.second < b.second ∨ a.second = b.second ∧ a.leap < b.leap) :=
    Prod.Lex.toLex_lt_toLex.trans (or_congr_right (and_congr_right fun _ => Prod.Lex.toLex_lt_toLex))
  rw [weighed, ← Date.before_iff, Bool.lt_iff]
  simp [Moment.before, and_assoc]

end VehicleLink.Calendar
