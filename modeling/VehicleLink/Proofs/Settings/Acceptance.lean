import VehicleLink.Proofs.Settings.Offences

namespace VehicleLink

open Text (isBlank sameAscii)

/-- The configuration that settings state. -/
structure Config.Stated (lookup : String → Option String) (c : Config) : Prop where
  username : GivenAt lookup Setting.username.key c.username
  password : GivenAt lookup Setting.password.key c.password
  clientAuth : GivenAt lookup Setting.clientAuth.key c.clientAuth
  vin : GivenAt lookup Setting.vin.key c.vin
  vehicleType : ∃ s, GivenAt lookup Setting.vehicleType.key s ∧ sameAscii s c.vehicleType.name = true
  region : StatedOr lookup Setting.region.key (fun s r => sameAscii s (Region.name r) = true) .restOfWorld c.region
  units : StatedOr lookup Setting.units.key (fun s u => sameAscii s (Units.name u) = true) .autodetect c.units
  refresh : ∃ minutes, StatedOr lookup Setting.refresh.key (fun s => Decimal.Writes Decimal.max64 s.toList) 5 minutes ∧
    c.refreshSeconds = max minutes 1 * 60
  timeout : StatedOr lookup Setting.timeout.key (fun s => Decimal.Writes Decimal.max64 s.toList) 30 c.timeoutSeconds

namespace Config

variable {lookup : String → Option String} {setting : Setting} {problem : SettingProblem} {minutes : Nat} {s : Settings}
  {c : Config}

/-- If minutes are given, they are so few that their seconds are a number of 64 bits. -/
def MinutesFit (lookup : String → Option String) : Prop :=
  ∀ s minutes, GivenAt lookup Setting.refresh.key s → Decimal.Writes Decimal.max64 s.toList minutes →
    minutes ≤ Decimal.max64 / 60

/-- A problem with the settings is the same for the configuration. -/
theorem read_eq_problem_iff : read lookup = .ok (.error problem) ↔ Settings.read lookup = .error problem := by
  rw [read]
  cases Settings.read lookup with
  | error problem' => simp
  | ok s =>
    constructor
    · intro same
      obtain ⟨_, _, other⟩ := Json.map_eq_ok.mp same
      cases other
    · intro same
      cases same

/-- A configuration is made of settings that can be read, if their minutes are not too many. -/
theorem read_eq_config_iff :
    read lookup = .ok (.ok c) ↔ ∃ s, Settings.read lookup = .ok s ∧ ofSettings s = .ok c := by
  rw [read]
  cases Settings.read lookup with
  | error problem => simp
  | ok s => simp only [Json.map_eq_ok, Except.ok.injEq, exists_eq_right', exists_eq_left']

theorem ofSettings_of_fits (fits : max s.refreshMinutes 1 * 60 ≤ Decimal.max64) :
    ofSettings s = .ok ⟨s.username, s.password, s.clientAuth, s.region, s.vin, s.vehicleType, s.units,
      max s.refreshMinutes 1 * 60, s.timeoutSeconds⟩ := by
  rw [ofSettings, Settings.refreshSeconds?]
  simp only [if_pos fits]

/-- The seconds of minutes that fit are a number of 64 bits, those of one minute at least. -/
theorem MinutesFit.seconds (fits : MinutesFit lookup)
    (stated : StatedOr lookup Setting.refresh.key (fun s => Decimal.Writes Decimal.max64 s.toList) 5 minutes) :
    max minutes 1 * 60 ≤ Decimal.max64 := by
  have few : minutes ≤ Decimal.max64 / 60 := by
    rcases stated with ⟨_, rfl⟩ | ⟨s, given, writes⟩
    · decide
    · exact fits s minutes given writes
  unfold Decimal.max64 at few ⊢
  omega

theorem stated_of_given (fits : MinutesFit lookup) (given : Settings.Given lookup s) (made : ofSettings s = .ok c) :
    Stated lookup c := by
  have refresh := (optional_eq_ok_iff (readCount_readsAs .notMinutes)).mp given.refreshMinutes
  rw [ofSettings_of_fits (fits.seconds refresh)] at made
  cases made
  exact {
    username := required_eq_ok_iff.mp given.username
    password := required_eq_ok_iff.mp given.password
    clientAuth := required_eq_ok_iff.mp given.clientAuth
    vin := required_eq_ok_iff.mp given.vin
    vehicleType := (required_read_eq_ok_iff readVehicleType_readsAs).mp given.vehicleType
    region := (optional_eq_ok_iff readRegion_readsAs).mp given.region
    units := (optional_eq_ok_iff readUnits_readsAs).mp given.units
    refresh := ⟨s.refreshMinutes, refresh, rfl⟩
    timeout := (optional_eq_ok_iff (readCount_readsAs .notSeconds)).mp given.timeoutSeconds }

theorem Stated.read (fits : MinutesFit lookup) (stated : Stated lookup c) : read lookup = .ok (.ok c) := by
  obtain ⟨minutes, refresh, seconds⟩ := stated.refresh
  let s : Settings := ⟨c.username, c.password, c.clientAuth, c.region, c.vin, c.vehicleType, c.units, minutes,
    c.timeoutSeconds⟩
  have given : Settings.Given lookup s := {
    username := required_eq_ok_iff.mpr stated.username
    password := required_eq_ok_iff.mpr stated.password
    clientAuth := required_eq_ok_iff.mpr stated.clientAuth
    vin := required_eq_ok_iff.mpr stated.vin
    vehicleType := (required_read_eq_ok_iff readVehicleType_readsAs).mpr stated.vehicleType
    region := (optional_eq_ok_iff readRegion_readsAs).mpr stated.region
    units := (optional_eq_ok_iff readUnits_readsAs).mpr stated.units
    refreshMinutes := (optional_eq_ok_iff (readCount_readsAs .notMinutes)).mpr refresh
    timeoutSeconds := (optional_eq_ok_iff (readCount_readsAs .notSeconds)).mpr stated.timeout }
  refine read_eq_config_iff.mpr ⟨s, Settings.read_eq_ok_iff.mpr given, ?_⟩
  rw [ofSettings_of_fits (fits.seconds refresh), ← seconds]

theorem accepted_of_given {text : String} (given : GivenAt lookup setting.key text) (takes : setting.Takes text) :
    Accepted lookup setting := .inr ⟨text, given, takes⟩

theorem accepted_of_statedOr {α : Type} {Says : String → α → Prop} {usual a : α} (optional : setting.mayMiss = true)
    (takes : ∀ s, setting.Takes s ↔ ∃ a, Says s a) (stated : StatedOr lookup setting.key Says usual a) :
    Accepted lookup setting := by
  rcases stated with ⟨missing, _⟩ | ⟨s, given, stated⟩
  · exact .inl ⟨missing, optional⟩
  · exact .inr ⟨s, given, (takes s).mpr ⟨a, stated⟩⟩

/-- In settings that state a configuration each one is as it should be. -/
theorem Stated.accepted (stated : Stated lookup c) (setting : Setting) : Accepted lookup setting := by
  cases setting with
  | region => exact accepted_of_statedOr rfl (fun _ => .rfl) stated.region
  | units => exact accepted_of_statedOr rfl (fun _ => .rfl) stated.units
  | vehicleType =>
    obtain ⟨s, given, named⟩ := stated.vehicleType
    exact accepted_of_given given ⟨c.vehicleType, named⟩
  | refresh =>
    obtain ⟨_, refresh, _⟩ := stated.refresh
    exact accepted_of_statedOr rfl (fun _ => .rfl) refresh
  | timeout => exact accepted_of_statedOr rfl (fun _ => .rfl) stated.timeout
  | username => exact accepted_of_given stated.username trivial
  | password => exact accepted_of_given stated.password trivial
  | clientAuth => exact accepted_of_given stated.clientAuth trivial
  | vin => exact accepted_of_given stated.vin trivial

/-- Reading comes to an end without overflow: with a configuration or with the first problem. -/
theorem read_ends (fits : MinutesFit lookup) : (∃ c, read lookup = .ok (.ok c) ∧ Stated lookup c) ∨
    ∃ problem, read lookup = .ok (.error problem) ∧ FirstOffence lookup Setting.all problem := by
  cases settings : Settings.read lookup with
  | error problem => exact .inr ⟨problem, read_eq_problem_iff.mpr settings, Settings.read_eq_error_iff.mp settings⟩
  | ok s =>
    have given := Settings.read_eq_ok_iff.mp settings
    have refresh := (optional_eq_ok_iff (readCount_readsAs .notMinutes)).mp given.refreshMinutes
    have made := ofSettings_of_fits (fits.seconds refresh)
    exact .inl ⟨_, read_eq_config_iff.mpr ⟨s, settings, made⟩, stated_of_given fits given made⟩

/-- Settings whose minutes are not too many are accepted exactly if each of them is, and the configuration is then the
one that they state. Otherwise the problem with the first of them that is not accepted is reported. Two ways to give
the settings that say alike at each key come to the same. -/
theorem read_accepted (fits : MinutesFit lookup) :
    ((∃ c, read lookup = .ok (.ok c)) ↔ ∀ setting, Accepted lookup setting) ∧
    (∀ c, read lookup = .ok (.ok c) ↔ Stated lookup c) ∧
    ((∃ problem, read lookup = .ok (.error problem)) ↔ ¬∀ setting, Accepted lookup setting) ∧
    (∀ problem, read lookup = .ok (.error problem) ↔ FirstOffence lookup Setting.all problem) ∧
    ∀ lookup', (∀ setting : Setting, SaysAlike (lookup setting.key) (lookup' setting.key)) →
      read lookup' = read lookup := by
  have stated (c : Config) : read lookup = .ok (.ok c) ↔ Stated lookup c := by
    refine ⟨fun made => ?_, fun stated => stated.read fits⟩
    obtain ⟨s, settings, made⟩ := read_eq_config_iff.mp made
    exact stated_of_given fits (Settings.read_eq_ok_iff.mp settings) made
  have first (problem : SettingProblem) :
      read lookup = .ok (.error problem) ↔ FirstOffence lookup Setting.all problem :=
    read_eq_problem_iff.trans Settings.read_eq_error_iff
  have refused {problem : SettingProblem} (offence : FirstOffence lookup Setting.all problem) :
      ¬∀ setting, Accepted lookup setting := by
    obtain ⟨_, setting, _, _, _, offends⟩ := offence
    exact fun all => offends.not_accepted (all setting)
  refine ⟨?_, stated, ?_, first, fun lookup' alike => ?_⟩
  · constructor
    · rintro ⟨c, made⟩
      exact ((stated c).mp made).accepted
    · intro all
      rcases read_ends fits with ⟨c, made, _⟩ | ⟨problem, _, offence⟩
      · exact ⟨c, made⟩
      · exact absurd all (refused offence)
  · constructor
    · rintro ⟨problem, reported⟩
      exact refused ((first problem).mp reported)
    · intro some
      rcases read_ends fits with ⟨c, _, stated⟩ | ⟨problem, reported, _⟩
      · exact absurd stated.accepted some
      · exact ⟨problem, reported⟩
  · rw [read, read, Settings.read_congr fun setting => Settings.value?_congr (alike setting)]

theorem saysAlike_refl (a : Option String) : SaysAlike a a := by
  cases a with
  | none => exact .silent nofun nofun
  | some raw => exact @SaysAlike.padded raw raw [] [] [] [] raw.toList (by simp) (by simp) (by simp) (by simp)

theorem minutesFit_of_value {text : String} (given : Settings.value? lookup Setting.refresh.key = some text)
    (few : ∀ minutes ∈ Decimal.readNat? Decimal.max64 text.toList, minutes ≤ Decimal.max64 / 60) :
    MinutesFit lookup := by
  intro s minutes given' writes
  cases given.symm.trans (value?_eq_some_iff.mpr given')
  exact few minutes (Decimal.readNat?_eq_some_iff.mpr writes)

/-- The settings of a car, with texts for the minutes and for the type of the vehicle, and with one for the units. -/
def carSettings (minutes type units key : String) : Option String :=
  [("CONNECTED_DRIVE_USERNAME", "driver"), ("CONNECTED_DRIVE_PASSWORD", "secret"),
    ("CONNECTED_DRIVE_CLIENT_AUTH", "client"), ("CONNECTED_DRIVE_VIN", "WBY1Z21000V000000"),
    ("VEHICLE_TYPE", type), ("UNITS", units), ("REFRESH_INTERVAL_MINUTES", minutes)].lookup key

/-- Minutes with a sign, a type in mixed case and blank units are accepted. With other blanks around the texts they
come to the same. A type that there is not is reported before minutes that are no number. -/
theorem read_accepted_sample :
    let lookup := carSettings " +7 " "bev_Rex" "\t"
    let c : Config := ⟨"driver", "secret", "client", .restOfWorld, "WBY1Z21000V000000", .electricRangeExtender,
      .autodetect, 420, 30⟩
    let wrong := carSettings "soon" "hydrogen" "metric"
    MinutesFit lookup ∧ (∀ setting, Accepted lookup setting) ∧ Stated lookup c ∧
      read (carSettings "+7" " bev_Rex\n" "") = .ok (.ok c) ∧
      MinutesFit wrong ∧ FirstOffence wrong Setting.all (.unknownVehicleType "HYDROGEN") := by
  intro lookup c wrong
  have fits : MinutesFit lookup := @minutesFit_of_value lookup "+7" (by decide +kernel) (by decide)
  have made : read lookup = .ok (.ok c) := by decide +kernel
  have fits' : MinutesFit wrong := @minutesFit_of_value wrong "soon" (by decide +kernel) (by decide)
  have reported : read wrong = .ok (.error (.unknownVehicleType "HYDROGEN")) := by decide +kernel
  have alike (setting : Setting) :
      SaysAlike (lookup setting.key) (carSettings "+7" " bev_Rex\n" "" setting.key) := by
    cases setting with
    | units =>
      have blank : ∀ raw, some "\t" = some raw → ∀ c ∈ raw.toList, isBlank c = true := by
        rintro _ ⟨⟩
        exact List.all_eq_true.mp (by decide)
      exact .silent blank (by rintro _ ⟨⟩; simp)
    | vehicleType =>
      exact @SaysAlike.padded "bev_Rex" " bev_Rex\n" [] [] [' '] ['\n'] "bev_Rex".toList (by decide) (by decide)
        (by simp) (List.all_eq_true.mp (by decide))
    | refresh =>
      exact @SaysAlike.padded " +7 " "+7" [' '] [' '] [] [] "+7".toList (by decide) (by decide)
        (List.all_eq_true.mp (by decide)) (by simp)
    | region | timeout | username | password | clientAuth | vin => exact saysAlike_refl _
  obtain ⟨accepts, stated, _, _, same⟩ := read_accepted fits
  obtain ⟨_, _, _, first, _⟩ := read_accepted fits'
  exact ⟨fits, accepts.mp ⟨c, made⟩, (stated c).mp made, (same _ alike).trans made, fits', (first _).mp reported⟩

end Config

end VehicleLink
