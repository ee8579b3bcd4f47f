import Mathlib.Data.List.Basic
import VehicleLink.Proofs.Calendar.ReadBack

namespace VehicleLink.Calendar

open Decimal (padded)

/-- An offset of whole minutes as text, such as `+0200` or `-0330`. -/
def offsetChars (west : Bool) (minutes : Nat) : List Char :=
  (if west then '-' else '+') :: (padded 2 (minutes / 60) ++ padded 2 (minutes % 60))

/-- An offset of whole minutes in seconds east of UTC. -/
def offsetSeconds (west : Bool) (minutes : Nat) : Int := if west then -(minutes * 60 : Int) else minutes * 60

variable {u : Moment} {west : Bool} {minutes n : Nat}

theorem offsetSeconds_lt (below : minutes < 1440) : (offsetSeconds west minutes).natAbs < daySeconds := by
  unfold offsetSeconds daySeconds
  split_ifs <;> omega

theorem takePair?_padded (small : n < 100) (rest : List Char) : takePair? (padded 2 n ++ rest) = some (n, rest) := by
  obtain ⟨a, b, shape⟩ := List.length_eq_two.mp (Decimal.length_padded (by decide : 0 < 2) small)
  have value := Decimal.ofDigits_padded 2 n
  have digit (c : Char) (member : c ∈ padded 2 n) : Decimal.digit? c = some ((Decimal.digit? c).getD 0) := by
    simp [Decimal.digit?, Decimal.isDigit_of_mem_padded member]
  have first := digit a (by simp [shape])
  have last := digit b (by simp [shape])
  rw [shape, Decimal.ofDigits, Decimal.ofDigitsFrom_cons, Decimal.ofDigitsFrom_cons, Nat.zero_mul,
    Nat.zero_add] at value
  rw [shape, List.cons_append, List.cons_append, List.nil_append, takePair?, first, last]
  exact congrArg (fun n => some (n, rest)) value

theorem takeSpan?_padded (below : minutes < 1440) :
    takeSpan? (padded 2 (minutes / 60) ++ padded 2 (minutes % 60)) = some (minutes * 60, []) := by
  have hours : takePair? (padded 2 (minutes / 60) ++ padded 2 (minutes % 60)) =
      some (minutes / 60, padded 2 (minutes % 60)) := takePair?_padded (by omega) (padded 2 (minutes % 60))
  have rest : takePair? (padded 2 (minutes % 60) ++ []) = some (minutes % 60, []) := takePair?_padded (by omega) []
  rw [List.append_nil] at rest
  have stays : ((padded 2 (minutes % 60)).dropWhile fun c => c = ':' ∨ Text.isBlank c) = padded 2 (minutes % 60) := by
    obtain ⟨c, ds, shape, digit⟩ := Decimal.padded_eq_cons 2 (minutes % 60)
    have visible := Text.isBlank_of_isDigit digit
    have other : c ≠ ':' := by
      rintro rfl
      cases digit
    rw [shape]
    exact List.dropWhile_cons_of_neg (by simp [visible, other])
  have seconds : minutes / 60 * 3600 + minutes % 60 * 60 = minutes * 60 := by omega
  rw [takeSpan?, hours, Option.bind_eq_bind, Option.bind_some]
  dsimp only
  rw [stays, rest, Option.bind_some, if_pos (Nat.mod_lt minutes (by decide)), seconds]

/-- An offset is read back from its text. -/
theorem takeOffset?_offsetChars (below : minutes < 1440) :
    takeOffset? (offsetChars west minutes) = some (offsetSeconds west minutes, []) := by
  have span := takeSpan?_padded below
  cases west with
  | false =>
    have taken : takeOffset? (offsetChars false minutes) =
        (takeSpan? (padded 2 (minutes / 60) ++ padded 2 (minutes % 60))).map fun span => ((span.1 : Int), span.2) := rfl
    rw [taken, span]
    rfl
  | true =>
    have taken : takeOffset? (offsetChars true minutes) =
        (takeSpan? (padded 2 (minutes / 60) ++ padded 2 (minutes % 60))).map fun span => (-(span.1 : Int), span.2) :=
      rfl
    rw [taken, span]
    rfl

theorem offsetChars_visible (west : Bool) (minutes : Nat) : ∀ c ∈ offsetChars west minutes, Text.isBlank c = false := by
  have digits := List.forall_mem_append.mpr ⟨padded_visible 2 (minutes / 60), padded_visible 2 (minutes % 60)⟩
  cases west with
  | false => exact List.forall_mem_cons.mpr ⟨rfl, digits⟩
  | true => exact List.forall_mem_cons.mpr ⟨rfl, digits⟩

/-- Without an offset the text of a moment is no moment at an offset. -/
theorem readUtc?_chars (proper : u.Proper) : readUtc? u.chars = none := by
  have parts := readParts?_moment proper [.offset] []
  rw [List.append_nil] at parts
  have nothing : readParts? u.reading [.offset] [] = none := rfl
  rw [readUtc?, offsetPattern, parts, nothing]
  rfl

/-- What is read of a moment with an offset lies as much earlier as the offset is east, if its year is one that can
be read. -/
theorem readUtc?_offset (below : minutes < 1440) (readable : u.Readable) :
    readUtc? (u.chars ++ offsetChars west minutes) =
      if inYears (u.shift (-offsetSeconds west minutes)).date.year then
        some (u.shift (-offsetSeconds west minutes)) else none := by
  have parts := readParts?_moment readable.toProper [.offset] (offsetChars west minutes)
  have taken : takePart? u.reading (offsetChars west minutes) .offset =
      some ({ u.reading with offset := some (offsetSeconds west minutes) }, []) := by
    rw [takePart?, takeOffset?_offsetChars below]
    rfl
  have moment : ({ u.reading with offset := some (offsetSeconds west minutes) } : Reading).moment? = some u :=
    readable.reading_moment
  have within : (offsetSeconds west minutes).natAbs < daySeconds := offsetSeconds_lt below
  rw [readUtc?, offsetPattern, parts, readParts?_cons taken, readParts?, Option.bind_some, Reading.utc?, moment,
    Option.bind_eq_bind, Option.bind_some]
  dsimp only
  rw [Option.bind_eq_bind, Option.bind_some, if_pos within]

end VehicleLink.Calendar
