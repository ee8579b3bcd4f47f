import VehicleLink.Proofs.Calendar.Offsets
import VehicleLink.Proofs.Text.Replacement
import VehicleLink.Timestamp

namespace VehicleLink

open Calendar

section Tidy

variable {cs date clock front gap back : List Char}

theorem tidyTimestamp_ofList (cs : List Char) :
    tidyTimestamp (String.ofList cs) = Text.replaceChars [' ', 'T'] ['T'] (Text.trimChars cs) := by
  rw [tidyTimestamp, String.toList_ofList]

theorem space_not_mem (visible : ∀ c ∈ cs, Text.isBlank c = false) : ' ' ∉ cs :=
  fun member => nomatch visible ' ' member

theorem replaceChars_visible (visible : ∀ c ∈ cs, Text.isBlank c = false) :
    Text.replaceChars [' ', 'T'] ['T'] cs = cs := by
  have split : Text.replaceChars [' ', 'T'] ['T'] (cs ++ []) = cs ++ Text.replaceChars [' ', 'T'] ['T'] [] :=
    Text.replaceChars_append_of_absent (space_not_mem visible)
  rwa [Text.replaceChars_nil (List.cons_ne_nil ' ' ['T']), List.append_nil] at split

theorem tidyTimestamp_visible (visible : ∀ c ∈ cs, Text.isBlank c = false) :
    tidyTimestamp (String.ofList cs) = cs := by
  rw [tidyTimestamp_ofList, Text.trimChars_of_bare (Text.bare_of_forall visible), replaceChars_visible visible]

/-- Blanks around a timestamp and a space before its T are taken away. -/
theorem tidyTimestamp_spaced (visible : ∀ c ∈ date, Text.isBlank c = false)
    (visible' : ∀ c ∈ clock, Text.isBlank c = false) (some : date ≠ []) (gaps : gap = [] ∨ gap = [' '])
    (blanks : ∀ c ∈ front, Text.isBlank c = true) (blanks' : ∀ c ∈ back, Text.isBlank c = true) :
    tidyTimestamp (String.ofList (front ++ (date ++ gap ++ 'T' :: clock) ++ back)) = date ++ 'T' :: clock := by
  have marked : ∀ c ∈ 'T' :: clock, Text.isBlank c = false := List.forall_mem_cons.mpr ⟨rfl, visible'⟩
  have bare : Text.Bare (date ++ gap ++ 'T' :: clock) :=
    (Text.bare_of_forall visible).around (Text.bare_of_forall marked) some (List.cons_ne_nil 'T' clock) gap
  have replaced : Text.replaceChars [' ', 'T'] ['T'] (gap ++ 'T' :: clock) = 'T' :: clock := by
    rcases gaps with rfl | rfl
    · exact replaceChars_visible marked
    · have found : Text.replaceChars [' ', 'T'] ['T'] ([' ', 'T'] ++ clock) =
          ['T'] ++ Text.replaceChars [' ', 'T'] ['T'] clock :=
        Text.replaceChars_found (List.cons_ne_nil ' ' ['T']) clock
      rw [replaceChars_visible visible'] at found
      exact found
  rw [tidyTimestamp_ofList, Text.trimChars_pad bare blanks blanks', List.append_assoc,
    Text.replaceChars_append_of_absent (space_not_mem visible), replaced]

end Tidy

section Written

/-- The moments that stand for a moment of UTC, with what is written behind them: the moment itself with nothing,
and the moment at an offset with the offset, zero included. -/
inductive Calendar.Moment.Zoned (t : Moment) : Moment → List Char → Prop
  | utc : Zoned t t []
  | offset {u : Moment} {west : Bool} {minutes : Nat} (below : minutes < 1440) (civil : u.Civil)
      (later : u.epoch = t.epoch + offsetSeconds west minutes) : Zoned t u (offsetChars west minutes)

/-- The texts that stand for a moment of UTC. A space before the T and blanks around make no difference. -/
inductive Calendar.Moment.WrittenAs (t : Moment) : String → Prop
  | text {u : Moment} {offset front gap back : List Char} (zoned : t.Zoned u offset) (gaps : gap = [] ∨ gap = [' '])
      (blanks : ∀ c ∈ front, Text.isBlank c = true) (blanks' : ∀ c ∈ back, Text.isBlank c = true) :
      WrittenAs t (String.ofList (front ++ (u.date.iso ++ gap ++ 'T' :: (u.isoClock ++ offset)) ++ back))

variable {t u : Moment} {offset : List Char} {raw : String}

/-- The local moment lies in the year of the moment or in one beside it. -/
theorem Calendar.Moment.Zoned.civil (zoned : t.Zoned u offset) (civil : t.Civil) :
    u.Civil ∧ t.date.year - 1 ≤ u.date.year ∧ u.date.year ≤ t.date.year + 1 := by
  cases zoned with
  | utc => exact ⟨civil, by omega, by omega⟩
  | @offset u west minutes below civil' later =>
    have within : (offsetSeconds west minutes).natAbs ≤ daySeconds := (offsetSeconds_lt below).le
    have moved : u = t.shift (offsetSeconds west minutes) := civil.eq_shift civil' within later
    exact ⟨civil', moved ▸ Moment.year_shift civil.toProper within⟩

theorem Calendar.Moment.Zoned.visible (zoned : t.Zoned u offset) : ∀ c ∈ offset, Text.isBlank c = false := by
  cases zoned with
  | utc => exact nofun
  | offset => exact offsetChars_visible _ _

/-- Without an offset a text is read as a local moment, and otherwise as the moment of UTC that it stands for. -/
theorem Calendar.Moment.Zoned.read (zoned : t.Zoned u offset) (civil : t.Civil) (lower : 1 ≤ t.date.year)
    (upper : t.date.year ≤ 9998) :
    (readUtc? (u.chars ++ offset) <|> readMoment? secondPattern (u.chars ++ offset)) = some t := by
  have readable : t.Readable := civil.readable (by omega) (by omega)
  obtain ⟨civil', lower', upper'⟩ := zoned.civil civil
  have readable' : u.Readable := civil'.readable (by omega) (by omega)
  cases zoned with
  | utc =>
    rw [List.append_nil, readUtc?_chars civil.toProper, readMoment?_chars readable]
    rfl
  | @offset u west minutes below civil' later =>
    have within : (-offsetSeconds west minutes).natAbs ≤ daySeconds := by
      rw [Int.natAbs_neg]
      exact (offsetSeconds_lt below).le
    have back : t.epoch = u.epoch + -offsetSeconds west minutes := by omega
    have moved : t = u.shift (-offsetSeconds west minutes) := civil'.eq_shift civil within back
    rw [readUtc?_offset below readable', ← moved, if_pos readable.inYears]
    rfl

theorem Calendar.Moment.WrittenAs.tidy (written : t.WrittenAs raw) (civil : t.Civil) (lower : 1 ≤ t.date.year)
    (upper : t.date.year ≤ 9998) : ∃ u offset, t.Zoned u offset ∧ tidyTimestamp raw = u.chars ++ offset := by
  obtain @⟨u, offset, front, gap, back, zoned, gaps, blanks, blanks'⟩ := written
  obtain ⟨civil', lower', upper'⟩ := zoned.civil civil
  have date : u.date.chars = u.date.iso := Date.chars_eq_iso (by omega) (by omega)
  have some : u.date.iso ≠ [] := by simp [Date.iso]
  have visible : ∀ c ∈ u.date.iso, Text.isBlank c = false := date ▸ u.date.chars_visible
  have visible' : ∀ c ∈ u.isoClock ++ offset, Text.isBlank c = false :=
    List.forall_mem_append.mpr ⟨civil'.clock_eq ▸ u.clockChars_visible, zoned.visible⟩
  refine ⟨u, offset, zoned, ?_⟩
  rw [tidyTimestamp_spaced visible visible' some gaps blanks blanks', civil'.chars_eq_iso (by omega) (by omega),
    Moment.iso, List.append_assoc, List.cons_append]

/-- A moment of the years 1 to 9998 is read from every text that stands for it. In a zone it is shown as the moment that
lies so many seconds later, and there is one. -/
theorem timestamp_of_written (civil : t.Civil) (lower : 1 ≤ t.date.year) (upper : t.date.year ≤ 9998)
    (written : t.WrittenAs raw) : readTimestamp? raw = some t ∧
      ∀ zone : Int, zone.natAbs < daySeconds →
        ∃ v : Moment, v.Civil ∧ v.epoch = t.epoch + zone ∧ localTimestamp zone raw = String.ofList v.iso := by
  have read : readTimestamp? raw = some t := by
    obtain ⟨u, offset, zoned, tidy⟩ := written.tidy civil lower upper
    rw [readTimestamp?, tidy]
    exact zoned.read civil lower upper
  refine ⟨read, fun zone within => ?_⟩
  have moved : (t.shift zone).Civil := civil.shift within.le
  have years := Moment.year_shift civil.toProper within.le
  have text : (t.shift zone).chars = (t.shift zone).iso := moved.chars_eq_iso (by omega) (by omega)
  refine ⟨t.shift zone, moved, Moment.epoch_shift civil.toProper within.le, ?_⟩
  rw [localTimestamp, read]
  exact congrArg String.ofList text

/-- Half an hour before the end of a leap day, written half an hour east of UTC and so on the next day. -/
theorem timestamp_of_written_sample :
    let t : Moment := ⟨⟨2020, 2, 29⟩, 84600, false⟩
    let raw := "\t2020-03-01 T00:00:00+0030 "
    t.Civil ∧ t.WrittenAs raw ∧ readTimestamp? raw = some t ∧ localTimestamp 7200 raw = "2020-03-01T01:30:00" := by
  intro t raw
  let u : Moment := ⟨⟨2020, 3, 1⟩, 0, false⟩
  let v : Moment := ⟨⟨2020, 3, 1⟩, 5400, false⟩
  have civil : t.Civil := ⟨⟨⟨by decide, by decide, by decide, by decide⟩, by decide⟩, rfl⟩
  have written : t.WrittenAs raw := by
    have local' : u.Civil := ⟨⟨⟨by decide, by decide, by decide, by decide⟩, by decide⟩, rfl⟩
    have zoned : t.Zoned u (offsetChars false 30) := .offset (by decide) local' (by decide)
    have text : t.WrittenAs (String.ofList (['\t'] ++
        (u.date.iso ++ [' '] ++ 'T' :: (u.isoClock ++ offsetChars false 30)) ++ [' '])) :=
      .text zoned (.inr rfl) (List.forall_mem_singleton.mpr rfl) (List.forall_mem_singleton.mpr rfl)
    have same : String.ofList (['\t'] ++
        (u.date.iso ++ [' '] ++ 'T' :: (u.isoClock ++ offsetChars false 30)) ++ [' ']) = raw := by decide +kernel
    exact same ▸ text
  obtain ⟨read, shown⟩ := timestamp_of_written civil (by decide) (by decide) written
  obtain ⟨w, civil', later, text⟩ := shown 7200 (by decide)
  have proper : v.Proper := ⟨⟨by decide, by decide, by decide, by decide⟩, by decide⟩
  have there : v.epoch = t.epoch + 7200 := by decide
  have same : w = v := Moment.eq_of_epoch_eq civil'.toProper proper civil'.leap_eq (later.trans there.symm)
  have iso : String.ofList v.iso = "2020-03-01T01:30:00" := by decide +kernel
  exact ⟨civil, written, read, text.trans (same ▸ iso)⟩

end Written

section Trips

theorem tripTimestamp_text {t : Moment} (readable : t.Readable) : tripTimestamp t.text = t.text := by
  have tidy : tidyTimestamp t.text = t.chars := tidyTimestamp_visible t.chars_visible
  rw [tripTimestamp, tidy, readMoment?_chars readable]
  rfl

/-- What is shown in place of a date that cannot be read is a date like any other. -/
theorem nullDate_readable : ∃ t : Moment, t.Readable ∧ nullDate = t.text :=
  ⟨.midnight ⟨1900, 1, 1⟩, ⟨⟨⟨by decide, by decide, by decide, by decide⟩, by decide⟩, nofun, by decide⟩,
    by decide +kernel⟩

theorem exists_tripTimestamp (raw : String) : ∃ t : Moment, t.Readable ∧ tripTimestamp raw = t.text := by
  rw [tripTimestamp]
  cases seconds : readMoment? secondPattern (tidyTimestamp raw) with
  | some t => exact ⟨t, readable_of_readMoment? seconds, rfl⟩
  | none =>
    cases minutes : readMoment? minutePattern (tidyTimestamp raw) with
    | some t => exact ⟨t, readable_of_readMoment? minutes, rfl⟩
    | none => exact nullDate_readable

/-- A trip date that has been shown is shown as it is. The texts that stay as they are are those of the moments that can
be read, and no others. -/
theorem tripTimestamp_settled (raw : String) : tripTimestamp (tripTimestamp raw) = tripTimestamp raw ∧
    (tripTimestamp raw = raw ↔ ∃ t : Moment, t.Readable ∧ raw = t.text) := by
  obtain ⟨t, readable, shown⟩ := exists_tripTimestamp raw
  refine ⟨?_, fun same => ⟨t, readable, same.symm.trans shown⟩, ?_⟩
  · rw [shown]
    exact tripTimestamp_text readable
  · rintro ⟨u, readable', rfl⟩
    exact tripTimestamp_text readable'

/-- A signed year of five digits, single digits and a leap second. -/
example : tripTimestamp " +12345-1-2 T3:4:60" = "+12345-01-02T03:04:60" := by decide +kernel

end Trips

end VehicleLink
