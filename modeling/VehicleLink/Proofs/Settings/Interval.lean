import VehicleLink.Program.Run
import VehicleLink.Proofs.Json.Readings

namespace VehicleLink

namespace Settings

/-- The setting for the minutes between two polls. -/
def refreshKey : String := "REFRESH_INTERVAL_MINUTES"

/-- All settings but one. -/
def without (key : String) (lookup : String → Option String) (other : String) : Option String :=
  if other = key then none else lookup other

/-- What it takes to read settings: each of them is given as it should be, or may be missing. -/
structure Given (lookup : String → Option String) (s : Settings) : Prop where
  region : optional lookup "CONNECTED_DRIVE_REGION" readRegion .restOfWorld = .ok s.region
  units : optional lookup "UNITS" readUnits .autodetect = .ok s.units
  vehicleType : (required lookup "VEHICLE_TYPE" >>= readVehicleType) = .ok s.vehicleType
  refreshMinutes : optional lookup refreshKey (readCount .notMinutes) defaultRefreshMinutes = .ok s.refreshMinutes
  timeoutSeconds : optional lookup "REQUEST_TIMEOUT_SECS" (readCount .notSeconds) defaultTimeoutSeconds =
    .ok s.timeoutSeconds
  username : required lookup "CONNECTED_DRIVE_USERNAME" = .ok s.username
  password : required lookup "CONNECTED_DRIVE_PASSWORD" = .ok s.password
  clientAuth : required lookup "CONNECTED_DRIVE_CLIENT_AUTH" = .ok s.clientAuth
  vin : required lookup "CONNECTED_DRIVE_VIN" = .ok s.vin

variable {lookup : String → Option String} {key other raw : String} {n : Nat} {s : Settings}

theorem read_eq_ok_iff : read lookup = .ok s ↔ Given lookup s := by
  unfold read
  simp only [Json.bind_eq_ok]
  constructor
  · rintro ⟨_, region, _, units, _, type, _, minutes, _, seconds, _, username, _, password, _, auth, _, vin, same⟩
    cases same
    exact ⟨region, units, Json.bind_eq_ok.mpr type, minutes, seconds, username, password, auth, vin⟩
  · intro ⟨region, units, type, minutes, seconds, username, password, auth, vin⟩
    exact ⟨_, region, _, units, _, Json.bind_eq_ok.mp type, _, minutes, _, seconds, _, username, _, password, _, auth,
      _, vin, rfl⟩

theorem value?_without (differs : other ≠ key) : value? (without key lookup) other = value? lookup other := by
  rw [value?, value?, without, if_neg differs]

theorem required_without (differs : other ≠ key) :
    required (without key lookup) other = required lookup other := by
  rw [required, value?_without differs, required]

theorem optional_without {α : Type} {reader : String → Except SettingProblem α} {default : α}
    (differs : other ≠ key) :
    optional (without key lookup) other reader default = optional lookup other reader default := by
  rw [optional, value?_without differs, optional]

theorem readNat?_ne_nil {limit : Nat} {cs : List Char} (number : Decimal.readNat? limit cs = some n) : cs ≠ [] := by
  rintro rfl
  cases number

/-- A number of 64 bits is read as itself, with blanks around it or not. -/
theorem optional_count {problem : SettingProblem} {default : Nat} (given : lookup key = some raw)
    (number : Decimal.readNat? Decimal.max64 (Text.trim raw).toList = some n) :
    optional lookup key (readCount problem) default = .ok n := by
  have some : (Text.trim raw).isEmpty = false := by
    rw [String.isEmpty_eq_false_iff, ← String.toList_inj.ne]
    exact readNat?_ne_nil number
  have value : value? lookup key = Option.some (Text.trim raw) := by
    rw [value?, given]
    simp [Option.filter, some]
  rw [optional, value]
  simp only [readCount, number]

/-- A number of minutes takes the place of the usual one, and changes nothing else. -/
theorem read_minutes (given : lookup refreshKey = some raw)
    (number : Decimal.readNat? Decimal.max64 (Text.trim raw).toList = some n)
    (valid : read (without refreshKey lookup) = .ok s) : read lookup = .ok { s with refreshMinutes := n } := by
  have others := read_eq_ok_iff.mp valid
  refine read_eq_ok_iff.mpr ?_
  exact {
    region := (optional_without (by decide)).symm.trans others.region
    units := (optional_without (by decide)).symm.trans others.units
    vehicleType := by
      rw [← required_without (by decide : "VEHICLE_TYPE" ≠ refreshKey)]
      exact others.vehicleType
    refreshMinutes := optional_count given number
    timeoutSeconds := (optional_without (by decide)).symm.trans others.timeoutSeconds
    username := (required_without (by decide)).symm.trans others.username
    password := (required_without (by decide)).symm.trans others.password
    clientAuth := (required_without (by decide)).symm.trans others.clientAuth
    vin := (required_without (by decide)).symm.trans others.vin }

end Settings

namespace Poller

variable {m : Type → Type} [Monad m] [MonadExceptOf Overflow m] {start : Instant} {interval : Nat}

theorem deadline_reached (reached : start.nanoseconds + interval < clockEnd) :
    (deadline start interval : m Instant) = pure ⟨start.nanoseconds + interval⟩ := by
  rw [deadline, Instant.later?_eq_some_iff.mpr ⟨rfl, reached⟩, orOverflow]

/-- A cycle that would end behind the end of the clock runs over. -/
theorem deadline_overflows (passed : clockEnd ≤ start.nanoseconds + interval) :
    (deadline start interval : m Instant) = throw Overflow.mk := by
  rw [deadline, Instant.later?_eq_none_iff.mpr passed, orOverflow]

end Poller

namespace Config

variable {lookup : String → Option String} {raw : String} {minutes : Nat} {c : Config}

theorem ofSettings_minutes {s : Settings} (made : ofSettings s = .ok c) :
    ofSettings { s with refreshMinutes := minutes } =
      if max minutes 1 * 60 ≤ Decimal.max64 then .ok { c with refreshSeconds := max minutes 1 * 60 }
      else .error Overflow.mk := by
  rw [ofSettings] at made
  split at made
  · cases made
  · cases made
    rw [ofSettings, Settings.refreshSeconds?]
    by_cases fits : max minutes 1 * 60 ≤ Decimal.max64
    · simp only [if_pos fits]
    · simp only [if_neg fits]

/-- Settings that are valid otherwise are read exactly if the seconds of their minutes are a number of 64 bits. -/
theorem read_minutes (given : lookup Settings.refreshKey = some raw)
    (number : Decimal.readNat? Decimal.max64 (Text.trim raw).toList = some minutes)
    (valid : read (Settings.without Settings.refreshKey lookup) = .ok (.ok c)) :
    read lookup = if max minutes 1 * 60 ≤ Decimal.max64 then .ok (.ok { c with refreshSeconds := max minutes 1 * 60 })
      else .error Overflow.mk := by
  rw [read] at valid
  split at valid
  · cases valid
  · rename_i s others
    obtain ⟨c', made, same⟩ := Json.map_eq_ok.mp valid
    cases same
    rw [read, Settings.read_minutes given number others]
    dsimp only
    rw [ofSettings_minutes made]
    split <;> rfl

/-- Settings that are valid otherwise, and give any number of 64 bits for the minutes between two polls: reading
them runs over exactly if the seconds, those of one minute at least, are no number of 64 bits. If they are one, the
configuration has them, and a cycle runs over exactly if it would end behind the end of the clock. -/
theorem interval_limits (given : lookup Settings.refreshKey = some raw)
    (number : Decimal.readNat? Decimal.max64 (Text.trim raw).toList = some minutes)
    (valid : read (Settings.without Settings.refreshKey lookup) = .ok (.ok c)) :
    let seconds := max minutes 1 * 60
    (read lookup = .error Overflow.mk ↔ Decimal.max64 < seconds) ∧
    (seconds ≤ Decimal.max64 → read lookup = .ok (.ok { c with refreshSeconds := seconds }) ∧
      ∀ r : Running, r.refreshSeconds = seconds →
        ∀ (m : Type → Type) [Monad m] [MonadExceptOf Overflow m] (start : Instant),
          (start.nanoseconds + seconds * secondLength < clockEnd →
            (Poller.deadline start r.interval : m Instant) =
              pure ⟨start.nanoseconds + seconds * secondLength⟩) ∧
          (clockEnd ≤ start.nanoseconds + seconds * secondLength →
            (Poller.deadline start r.interval : m Instant) = throw Overflow.mk)) := by
  intro seconds
  have result : read lookup = if seconds ≤ Decimal.max64 then .ok (.ok { c with refreshSeconds := seconds })
      else .error Overflow.mk := read_minutes given number valid
  refine ⟨?_, fun fits => ⟨?_, fun r same m _ _ start => ?_⟩⟩
  · by_cases fits : seconds ≤ Decimal.max64
    · simp [result, fits, Nat.not_lt.mpr fits]
    · simp [result, fits, Nat.lt_of_not_le fits]
  · rw [result, if_pos fits]
  · have interval : (r.interval : Int) = seconds * secondLength := by
      rw [Running.interval, same, nanoseconds_of_seconds]
    rw [← interval]
    exact ⟨Poller.deadline_reached, Poller.deadline_overflows⟩

/-- Settings of an electric vehicle, with a text for the minutes. -/
def electricSettings (minutes key : String) : Option String :=
  [("CONNECTED_DRIVE_USERNAME", "driver"), ("CONNECTED_DRIVE_PASSWORD", "secret"),
    ("CONNECTED_DRIVE_CLIENT_AUTH", "client"), ("CONNECTED_DRIVE_VIN", "WBY1Z21000V000000"),
    ("VEHICLE_TYPE", "BEV"), (Settings.refreshKey, minutes)].lookup key

/-- So many minutes are taken, and no cycle comes to its end. -/
theorem interval_limits_sample :
    let lookup := electricSettings " 153722867280912931 "
    let seconds := 9223372036854775860
    (∃ c, read lookup = .ok (.ok c) ∧ c.refreshSeconds = seconds) ∧
      ∀ r : Running, r.refreshSeconds = seconds →
        (Poller.deadline ⟨0⟩ r.interval : Except Overflow Instant) = .error Overflow.mk := by
  intro lookup seconds
  have given : lookup Settings.refreshKey = some " 153722867280912931 " := by decide
  have number : Decimal.readNat? Decimal.max64 (Text.trim " 153722867280912931 ").toList =
      some 153722867280912931 := by decide
  have valid : read (Settings.without Settings.refreshKey lookup) = .ok (.ok
      { username := "driver", password := "secret", clientAuth := "client", region := .restOfWorld,
        vin := "WBY1Z21000V000000", vehicleType := .electric, units := .autodetect, refreshSeconds := 300,
        timeoutSeconds := 30 }) := by decide +kernel
  obtain ⟨accepted, ends⟩ := (interval_limits given number valid).2 (by decide)
  exact ⟨⟨_, accepted, rfl⟩, fun r same => (ends r same (Except Overflow) ⟨0⟩).2 (by decide)⟩

/-- A number of minutes whose seconds are no number of 64 bits, though it is one itself: reading the settings runs
over. The seconds of half of it are one, but then the first cycle runs over. -/
theorem interval_overflows :
    Decimal.readNat? Decimal.max64 "307445734561825861".toList = some 307445734561825861 ∧
      read (electricSettings "307445734561825861") = .error Overflow.mk ∧
      ∃ c, read (electricSettings "153722867280912931") = .ok (.ok c) ∧
        ∀ r : Running, r.refreshSeconds = c.refreshSeconds →
          (Poller.deadline ⟨0⟩ r.interval : Except Overflow Instant) = .error Overflow.mk := by
  have accepted : read (electricSettings "153722867280912931") = .ok (.ok
      { username := "driver", password := "secret", clientAuth := "client", region := .restOfWorld,
        vin := "WBY1Z21000V000000", vehicleType := .electric, units := .autodetect,
        refreshSeconds := 9223372036854775860, timeoutSeconds := 30 }) := by decide +kernel
  refine ⟨by decide, by decide +kernel, _, accepted, fun r same => Poller.deadline_overflows ?_⟩
  rw [Running.interval, same]
  decide

end Config

end VehicleLink
