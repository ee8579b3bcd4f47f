namespace VehicleLink

/-- An instant of a clock that only goes forward, in nanoseconds. -/
structure Instant where
  nanoseconds : Int
deriving DecidableEq, Repr

/-- The nanoseconds of a second. -/
def secondLength : Int := 1000000000

/-- The first count of nanoseconds that the clock cannot reach. It counts seconds in 64 bits with sign. -/
def clockEnd : Int := 0x8000000000000000 * secondLength

/-- The instant some nanoseconds later, if the clock reaches it. -/
def Instant.later? (t : Instant) (nanoseconds : Nat) : Option Instant :=
  let sum := t.nanoseconds + nanoseconds
  if sum < clockEnd then some ⟨sum⟩ else none

/-- The instant some seconds later, if the clock reaches it. -/
def Instant.secondsLater? (t : Instant) (seconds : Nat) : Option Instant :=
  t.later? (seconds * secondLength.toNat)

section Later

variable {t u : Instant} {n : Nat}

/-- There is a later instant exactly where the clock reaches it. -/
theorem Instant.later?_eq_some_iff :
    t.later? n = some u ↔ u.nanoseconds = t.nanoseconds + n ∧ u.nanoseconds < clockEnd := by
  obtain ⟨nanoseconds⟩ := u
  rw [later?]
  dsimp only
  split <;> simp only [Option.some.injEq, Instant.mk.injEq, reduceCtorEq, false_iff] <;> omega

/-- There is none where it would lie at the end of the clock or behind it. -/
theorem Instant.later?_eq_none_iff : t.later? n = none ↔ clockEnd ≤ t.nanoseconds + n := by
  rw [later?]
  split <;> simp only [reduceCtorEq, true_iff, false_iff] <;> omega

theorem nanoseconds_of_seconds (n : Nat) : ((n * secondLength.toNat : Nat) : Int) = n * secondLength := by
  rw [Int.natCast_mul, Int.toNat_of_nonneg (by decide)]

theorem Instant.secondsLater?_eq_some_iff : t.secondsLater? n = some u ↔
    u.nanoseconds = t.nanoseconds + n * secondLength ∧ u.nanoseconds < clockEnd := by
  rw [secondsLater?, later?_eq_some_iff, nanoseconds_of_seconds]

theorem Instant.secondsLater?_eq_none_iff :
    t.secondsLater? n = none ↔ clockEnd ≤ t.nanoseconds + n * secondLength := by
  rw [secondsLater?, later?_eq_none_iff, nanoseconds_of_seconds]

end Later

/-- Whether an instant comes before another one. -/
def Instant.before (a b : Instant) : Bool := a.nanoseconds < b.nanoseconds

/-- The program went past the last instant of the clock, or past the last number of 64 bits. It cannot
go on. -/
structure Overflow where
deriving DecidableEq, Repr

/-- A value that must be there, or the program cannot go on. -/
def orOverflow {m : Type → Type} [Monad m] [MonadExceptOf Overflow m] {α : Type} :
    Option α → m α
  | some a => pure a
  | none => throw Overflow.mk

end VehicleLink
