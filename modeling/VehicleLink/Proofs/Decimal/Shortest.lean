import VehicleLink.Decimal.Shortest

namespace VehicleLink.Decimal

/-- Zero lies below all the reals that round to a number that is not zero. -/
theorem Binary.readsBack_zero {x : Binary} (nonzero : x.mantissa ≠ 0) (scale : Int) :
    x.readsBack ⟨0, scale⟩ = false := by
  have less (low : Nat) (positive : 0 < low) (j : Int) : compareScaled 0 scale low j = .lt := by
    unfold compareScaled
    rw [Nat.zero_mul, Nat.zero_mul]
    refine Nat.compare_eq_lt.mpr (Nat.mul_pos (Nat.mul_pos positive ?_) ?_)
    · exact Nat.pow_pos (by decide)
    · exact Nat.pow_pos (by decide)
  unfold Binary.readsBack
  split
  · simp [less (4 * x.mantissa - 1) (by omega)]
  · simp [less (4 * x.mantissa - 2) (by omega)]

theorem Binary.onGrid?_ne_zero {x : Binary} {tie : Tie} {scale : Int} {d : Dec}
    (nonzero : x.mantissa ≠ 0) (found : x.onGrid? tie scale = some d) : d.digits ≠ 0 := by
  have back : x.readsBack d = true := by
    unfold Binary.onGrid? at found
    simp only at found
    split at found
    · cases found
    · rename_i low _
      cases found
      exact low
    · rename_i _ high
      cases found
      exact high
    · rename_i low high
      split at found
      · cases found
        exact low
      · cases found
        exact high
      · split at found
        · cases found
          exact high
        · cases found
          exact low
  obtain ⟨n, place⟩ := d
  rintro rfl
  rw [Binary.readsBack_zero nonzero] at back
  cases back

theorem Dec.strip_ne_zero {fuel : Nat} {d : Dec} (nonzero : d.digits ≠ 0) :
    (d.strip fuel).digits ≠ 0 := by
  induction fuel generalizing d with
  | zero => exact nonzero
  | succ fuel ih =>
    unfold Dec.strip
    split
    · rename_i zeros
      exact ih (by dsimp only; omega)
    · exact nonzero

theorem Binary.exact_ne_zero {x : Binary} (nonzero : x.mantissa ≠ 0) : x.exact.digits ≠ 0 := by
  have power (base k : Nat) (positive : 0 < base) : Nat.pow base k ≠ 0 :=
    Nat.ne_of_gt (Nat.pow_pos positive)
  unfold Binary.exact
  split
  · exact Nat.mul_ne_zero nonzero (power 2 _ (by decide))
  · exact Nat.mul_ne_zero nonzero (power 5 _ (by decide))

/-- The shortest decimal of a number that is not zero is not zero either. -/
theorem Binary.shortest_ne_zero {x : Binary} (tie : Tie) (nonzero : x.mantissa ≠ 0) :
    (x.shortest tie).digits ≠ 0 := by
  refine Dec.strip_ne_zero ?_
  cases found : (List.range 17).findSome? fun (n : Nat) => x.onGrid? tie (x.place - (n + 1)) with
  | none => exact Binary.exact_ne_zero nonzero
  | some d =>
    obtain ⟨n, _, onGrid⟩ := List.exists_of_findSome?_eq_some found
    exact Binary.onGrid?_ne_zero nonzero onGrid

end VehicleLink.Decimal
