import VehicleLink.Proofs.Decimal.Digits
import VehicleLink.Proofs.Settings.Interval
import VehicleLink.Proofs.Text.Cutting
import VehicleLink.Proofs.Text.LetterCase

namespace VehicleLink

open Text (isBlank trim trimChars sameAscii upperAscii)

/-- The name of a region as a setting. -/
def Region.name : Region → String
  | .restOfWorld => "ROW"
  | .northAmerica => "NORTH_AMERICA"
  | .china => "CHINA"

/-- The name of units as a setting. -/
def Units.name : Units → String
  | .autodetect => "AUTODETECT"
  | .imperial => "IMPERIAL"
  | .metric => "METRIC"

/-- The name of a type of vehicle as a setting. -/
def VehicleType.name : VehicleType → String
  | .conventional => "CONV"
  | .pluginHybrid => "PHEV"
  | .electricRangeExtender => "BEV_REX"
  | .electric => "BEV"

/-- The settings that are looked at. -/
inductive Setting where
  | region
  | units
  | vehicleType
  | refresh
  | timeout
  | username
  | password
  | clientAuth
  | vin

namespace Setting

/-- The key of a setting. -/
def key : Setting → String
  | region => "CONNECTED_DRIVE_REGION"
  | units => "UNITS"
  | vehicleType => "VEHICLE_TYPE"
  | refresh => "REFRESH_INTERVAL_MINUTES"
  | timeout => "REQUEST_TIMEOUT_SECS"
  | username => "CONNECTED_DRIVE_USERNAME"
  | password => "CONNECTED_DRIVE_PASSWORD"
  | clientAuth => "CONNECTED_DRIVE_CLIENT_AUTH"
  | vin => "CONNECTED_DRIVE_VIN"

/-- The settings in the order in which they are looked at. -/
def all : List Setting := [region, units, vehicleType, refresh, timeout, username, password, clientAuth, vin]

/-- Whether a setting may be missing. -/
def mayMiss : Setting → Bool
  | region | units | refresh | timeout => true
  | vehicleType | username | password | clientAuth | vin => false

/-- The texts that a setting takes: a name in any letter case, a number of 64 bits, or any text. -/
def Takes : Setting → String → Prop
  | region, s => ∃ r : Region, sameAscii s r.name = true
  | units, s => ∃ u : Units, sameAscii s u.name = true
  | vehicleType, s => ∃ t : VehicleType, sameAscii s t.name = true
  | refresh, s | timeout, s => ∃ n, Decimal.Writes Decimal.max64 s.toList n
  | username, _ | password, _ | clientAuth, _ | vin, _ => True

/-- What is wrong with a text that a setting does not take. -/
def refusal : Setting → String → SettingProblem
  | region, s => .unknownRegion (upperAscii s)
  | units, s => .unknownUnits (upperAscii s)
  | vehicleType, s => .unknownVehicleType (upperAscii s)
  | refresh, _ => .notMinutes
  | timeout, _ => .notSeconds
  -- The others take any text.
  | setting, _ => .missing setting.key

end Setting

/-- A text is given at a key: it is there without the blanks at its ends, and is not empty. -/
def GivenAt (lookup : String → Option String) (key text : String) : Prop :=
  text ≠ "" ∧ ∃ raw, lookup key = some raw ∧ trim raw = text

/-- Nothing is given at a key: what is there is blank, if there is something. -/
def MissingAt (lookup : String → Option String) (key : String) : Prop := ∀ raw, lookup key = some raw → trim raw = ""

/-- A setting is as it should be. -/
def Accepted (lookup : String → Option String) (setting : Setting) : Prop :=
  MissingAt lookup setting.key ∧ setting.mayMiss = true ∨ ∃ s, GivenAt lookup setting.key s ∧ setting.Takes s

/-- The problems with a setting: it is missing and may not be, or is given with a text that it does not take. -/
inductive Offends (lookup : String → Option String) : Setting → SettingProblem → Prop
  | missing {setting : Setting} (needed : setting.mayMiss = false) (missing : MissingAt lookup setting.key) :
      Offends lookup setting (.missing setting.key)
  | refused {setting : Setting} {s : String} (given : GivenAt lookup setting.key s) (refused : ¬setting.Takes s) :
      Offends lookup setting (setting.refusal s)

/-- The problem with the first of some settings that is not as it should be. -/
def FirstOffence (lookup : String → Option String) (settings : List Setting) (problem : SettingProblem) : Prop :=
  ∃ before setting after, settings = before ++ setting :: after ∧ (∀ other ∈ before, Accepted lookup other) ∧
    Offends lookup setting problem

/-- What an optional setting states: what its text says, or the usual value where nothing is given. -/
def StatedOr {α : Type} (lookup : String → Option String) (key : String) (Says : String → α → Prop)
    (usual a : α) : Prop :=
  MissingAt lookup key ∧ a = usual ∨ ∃ s, GivenAt lookup key s ∧ Says s a

/-- What is there for a key, twice: both times it is missing or blank, or it is the same but for the blanks at its
ends. -/
inductive SaysAlike : Option String → Option String → Prop
  | silent {a b : Option String} (blank : ∀ raw, a = some raw → ∀ c ∈ raw.toList, isBlank c = true)
      (blank' : ∀ raw, b = some raw → ∀ c ∈ raw.toList, isBlank c = true) : SaysAlike a b
  | padded {raw raw' : String} {front back front' back' text : List Char} (written : raw.toList = front ++ text ++ back)
      (written' : raw'.toList = front' ++ text ++ back') (blanks : ∀ c ∈ front ++ back, isBlank c = true)
      (blanks' : ∀ c ∈ front' ++ back', isBlank c = true) : SaysAlike (some raw) (some raw')

section Values

variable {lookup : String → Option String} {key s t : String}

theorem trim_trim (s : String) : trim (trim s) = trim s := by
  rw [trim, trim, String.toList_ofList, Text.trimChars_of_bare (Text.trimChars_bare s.toList)]

/-- A setting has a value exactly if one is given that is not blank. -/
theorem value?_eq_some_iff : Settings.value? lookup key = some s ↔ GivenAt lookup key s := by
  simp only [Settings.value?, Option.filter_eq_some_iff, Option.map_eq_some_iff, GivenAt, and_comm]
  simp

/-- A setting has no value exactly if it is not there or is blank. -/
theorem value?_eq_none_iff : Settings.value? lookup key = none ↔ MissingAt lookup key := by
  simp [Settings.value?, MissingAt]

theorem GivenAt.trim_eq (given : GivenAt lookup key s) : trim s = s := by
  obtain ⟨_, raw, _, rfl⟩ := given
  exact trim_trim raw

theorem GivenAt.unique (given : GivenAt lookup key s) (given' : GivenAt lookup key t) : s = t :=
  Option.some.inj ((value?_eq_some_iff.mpr given).symm.trans (value?_eq_some_iff.mpr given'))

theorem GivenAt.not_missing (given : GivenAt lookup key s) : ¬MissingAt lookup key := fun missing => by
  cases (value?_eq_some_iff.mpr given).symm.trans (value?_eq_none_iff.mpr missing)

/-- At every key there is either a text or nothing. -/
theorem missing_or_given (lookup : String → Option String) (key : String) :
    MissingAt lookup key ∨ ∃ s, GivenAt lookup key s := by
  cases value : Settings.value? lookup key with
  | none => exact .inl (value?_eq_none_iff.mp value)
  | some s => exact .inr ⟨s, value?_eq_some_iff.mp value⟩

end Values

section Judging

variable {α β : Type} {lookup : String → Option String} {setting : Setting} {problem : SettingProblem}
  {key s : String} {a usual : α} {reader : String → Except SettingProblem α} {Says : String → α → Prop}
  {refusal : String → SettingProblem}

theorem offends_iff_of_missing (missing : MissingAt lookup setting.key) :
    Offends lookup setting problem ↔ setting.mayMiss = false ∧ problem = .missing setting.key := by
  constructor
  · rintro (⟨needed, _⟩ | ⟨given, _⟩)
    · exact ⟨needed, rfl⟩
    · exact absurd missing given.not_missing
  · rintro ⟨needed, rfl⟩
    exact .missing needed missing

theorem offends_iff_of_given (given : GivenAt lookup setting.key s) :
    Offends lookup setting problem ↔ ¬setting.Takes s ∧ problem = setting.refusal s := by
  constructor
  · rintro (⟨_, missing⟩ | ⟨given', refused⟩)
    · exact absurd missing given.not_missing
    · cases given.unique given'
      exact ⟨refused, rfl⟩
  · rintro ⟨refused, rfl⟩
    exact .refused given refused

/-- A setting with a problem is not accepted. -/
theorem Offends.not_accepted (offends : Offends lookup setting problem) : ¬Accepted lookup setting := by
  rintro (⟨missing, optional⟩ | ⟨s, given, takes⟩)
  · obtain ⟨needed, _⟩ := (offends_iff_of_missing missing).mp offends
    cases optional.symm.trans needed
  · exact ((offends_iff_of_given given).mp offends).1 takes

/-- A setting without a problem is accepted. -/
theorem accepted_of_not_offends (none : ∀ problem, ¬Offends lookup setting problem) : Accepted lookup setting := by
  rcases missing_or_given lookup setting.key with missing | ⟨s, given⟩
  · refine .inl ⟨missing, ?_⟩
    rw [← Bool.not_eq_false]
    exact fun needed => none _ (.missing needed missing)
  · exact .inr ⟨s, given, Classical.not_not.mp fun refused => none _ (.refused given refused)⟩

/-- How a reader reads a text that has no blanks at its ends: as what the text says, if it says something. -/
structure ReadsAs (reader : String → Except SettingProblem α) (Says : String → α → Prop)
    (refusal : String → SettingProblem) : Prop where
  said {s : String} {a : α} (bare : trim s = s) : reader s = .ok a ↔ Says s a
  refused {s : String} {problem : SettingProblem} (bare : trim s = s) (refuses : reader s = .error problem) :
    problem = refusal s

/-- A reader fails where the text says nothing, and then in one way. -/
theorem ReadsAs.eq_error_iff (reads : ReadsAs reader Says refusal) (bare : trim s = s) :
    reader s = .error problem ↔ (¬∃ a, Says s a) ∧ problem = refusal s := by
  cases read : reader s with
  | ok a => exact iff_of_false nofun fun ⟨nothing, _⟩ => nothing ⟨a, (reads.said bare).mp read⟩
  | error p =>
    have nothing : ¬∃ a, Says s a := fun ⟨a, stated⟩ => by cases read.symm.trans ((reads.said bare).mpr stated)
    rw [reads.refused bare read, Except.error.injEq, eq_comm]
    exact (and_iff_right nothing).symm

theorem required_of_given (given : GivenAt lookup key s) : Settings.required lookup key = .ok s := by
  rw [Settings.required, value?_eq_some_iff.mpr given]

theorem required_of_missing (missing : MissingAt lookup key) :
    Settings.required lookup key = .error (.missing key) := by
  rw [Settings.required, value?_eq_none_iff.mpr missing]

theorem optional_of_given (given : GivenAt lookup key s) : Settings.optional lookup key reader usual = reader s := by
  rw [Settings.optional, value?_eq_some_iff.mpr given]

theorem optional_of_missing (missing : MissingAt lookup key) :
    Settings.optional lookup key reader usual = .ok usual := by
  rw [Settings.optional, value?_eq_none_iff.mpr missing]

theorem required_eq_ok_iff : Settings.required lookup key = .ok s ↔ GivenAt lookup key s := by
  constructor
  · intro read
    rcases missing_or_given lookup key with missing | ⟨t, given⟩
    · cases (required_of_missing missing).symm.trans read
    · cases (required_of_given given).symm.trans read
      exact given
  · exact required_of_given

theorem required_read_eq_ok_iff (reads : ReadsAs reader Says refusal) :
    (Settings.required lookup key >>= reader) = .ok a ↔ ∃ s, GivenAt lookup key s ∧ Says s a := by
  simp only [Json.bind_eq_ok, required_eq_ok_iff]
  exact exists_congr fun s => and_congr_right fun given => reads.said given.trim_eq

/-- An optional setting is read as what it states. -/
theorem optional_eq_ok_iff (reads : ReadsAs reader Says refusal) :
    Settings.optional lookup key reader usual = .ok a ↔ StatedOr lookup key Says usual a := by
  rw [StatedOr]
  rcases missing_or_given lookup key with missing | ⟨s, given⟩
  · rw [optional_of_missing missing, Except.ok.injEq, eq_comm]
    refine ⟨fun same => .inl ⟨missing, same⟩, ?_⟩
    rintro (⟨_, same⟩ | ⟨t, given, _⟩)
    · exact same
    · exact absurd missing given.not_missing
  · rw [optional_of_given given, reads.said given.trim_eq]
    refine ⟨fun stated => .inr ⟨s, given, stated⟩, ?_⟩
    rintro (⟨missing, _⟩ | ⟨t, given', stated⟩)
    · exact absurd missing given.not_missing
    · rwa [given.unique given']

/-- A setting that may not be missing, and takes any text, is in error where it is missing. -/
theorem required_eq_error_iff (setting : Setting) (needed : setting.mayMiss = false) (takes : ∀ s, setting.Takes s) :
    Settings.required lookup setting.key = .error problem ↔ Offends lookup setting problem := by
  rcases missing_or_given lookup setting.key with missing | ⟨s, given⟩
  · rw [required_of_missing missing, offends_iff_of_missing missing, Except.error.injEq, eq_comm]
    exact (and_iff_right needed).symm
  · rw [required_of_given given, offends_iff_of_given given]
    exact iff_of_false nofun fun ⟨refused, _⟩ => refused (takes s)

/-- A setting that may not be missing is in error where it is, and where its reader fails. -/
theorem required_read_eq_error_iff (setting : Setting) (needed : setting.mayMiss = false)
    (reads : ReadsAs reader Says setting.refusal) (takes : ∀ s, setting.Takes s ↔ ∃ a, Says s a) :
    (Settings.required lookup setting.key >>= reader) = .error problem ↔ Offends lookup setting problem := by
  rcases missing_or_given lookup setting.key with missing | ⟨s, given⟩
  · rw [required_of_missing missing, offends_iff_of_missing missing]
    change Except.error _ = _ ↔ _
    rw [Except.error.injEq, eq_comm]
    exact (and_iff_right needed).symm
  · rw [required_of_given given, offends_iff_of_given given, takes]
    exact reads.eq_error_iff given.trim_eq

/-- A setting that may be missing is in error where its reader fails. -/
theorem optional_eq_error_iff (setting : Setting) (optional : setting.mayMiss = true)
    (reads : ReadsAs reader Says setting.refusal) (takes : ∀ s, setting.Takes s ↔ ∃ a, Says s a) :
    Settings.optional lookup setting.key reader usual = .error problem ↔ Offends lookup setting problem := by
  rcases missing_or_given lookup setting.key with missing | ⟨s, given⟩
  · rw [optional_of_missing missing, offends_iff_of_missing missing, optional]
    exact iff_of_false nofun fun ⟨needed, _⟩ => nomatch needed
  · rw [optional_of_given given, offends_iff_of_given given, takes]
    exact reads.eq_error_iff given.trim_eq

/-- A step that fails where its setting is not as it should be, before steps that report the first of the others. -/
theorem firstOffence_bind {step : Except SettingProblem α} {next : α → Except SettingProblem β} {rest : List Setting}
    (judges : ∀ {problem}, step = .error problem ↔ Offends lookup setting problem)
    (later : ∀ a, next a = .error problem ↔ FirstOffence lookup rest problem) :
    (step >>= next) = .error problem ↔ FirstOffence lookup (setting :: rest) problem := by
  cases step with
  | error first =>
    have offends : Offends lookup setting first := judges.mp rfl
    constructor
    · intro same
      cases same
      exact ⟨[], setting, rest, rfl, by simp, offends⟩
    · rintro ⟨before, other, after, whole, accepted, own⟩
      cases before with
      | nil =>
        cases whole
        exact congrArg Except.error (Except.error.inj (judges.mpr own))
      | cons earlier before =>
        cases whole
        exact absurd (accepted setting List.mem_cons_self) offends.not_accepted
  | ok a =>
    have accepted : Accepted lookup setting := accepted_of_not_offends fun problem offends => nomatch judges.mpr offends
    refine (later a).trans ?_
    constructor
    · rintro ⟨before, other, after, rfl, earlier, offends⟩
      exact ⟨setting :: before, other, after, rfl, List.forall_mem_cons.mpr ⟨accepted, earlier⟩, offends⟩
    · rintro ⟨before, other, after, whole, earlier, offends⟩
      cases before with
      | nil =>
        cases whole
        exact absurd accepted offends.not_accepted
      | cons first before =>
        cases whole
        exact ⟨before, other, after, rfl, (List.forall_mem_cons.mp earlier).2, offends⟩

theorem not_firstOffence_nil : ¬FirstOffence lookup [] problem := fun ⟨before, setting, after, whole, _⟩ => by
  cases before <;> cases whole

end Judging

section Readers

variable {α : Type} {s : String} {reader : String → Except SettingProblem α} {Says : String → α → Prop}
  {refusal : String → SettingProblem}

/-- A reader that looks its text up reads it as what is found, if the text says just this. -/
theorem readsAs_of_option (ofText? : String → Option α) (found : ∀ {s a}, ofText? s = some a → reader s = .ok a)
    (unfound : ∀ {s}, trim s = s → ofText? s = none → reader s = .error (refusal s))
    (named : ∀ {s a}, trim s = s → (ofText? s = some a ↔ Says s a)) : ReadsAs reader Says refusal where
  said {s a} bare := by
    rw [← named bare]
    cases known : ofText? s with
    | none => exact iff_of_false (fun read => nomatch (unfound bare known).symm.trans read) nofun
    | some b => rw [found known, Except.ok.injEq, Option.some.injEq]
  refused {s problem} bare refuses := by
    cases known : ofText? s with
    | none => exact Except.error.inj (refuses.symm.trans (unfound bare known))
    | some a => cases (found known).symm.trans refuses

theorem settingName_of_bare (bare : trim s = s) : settingName s = upperAscii s := by rw [settingName, bare]

/-- A name in capitals is found exactly where it stands in any letter case. -/
theorem settingName_eq_iff {word : String} (capital : word.toList.map Char.toUpper = word.toList) (bare : trim s = s) :
    settingName s = word ↔ sameAscii s word = true := by
  have upper : upperAscii word = word := by rwa [← String.toList_inj, upperAscii, String.toList_map]
  rw [settingName_of_bare bare, Text.sameAscii_iff, upper]

/-- A reader of names in capitals reads them in any letter case. -/
theorem readsAs_of_names (ofSetting? : String → Option α) {name : α → String} {unknown : String → SettingProblem}
    (found : ∀ {s a}, ofSetting? s = some a → reader s = .ok a)
    (unfound : ∀ {s}, ofSetting? s = none → reader s = .error (unknown (settingName s)))
    (named : ∀ {s a}, ofSetting? s = some a ↔ settingName s = name a)
    (capital : ∀ a, (name a).toList.map Char.toUpper = (name a).toList) :
    ReadsAs reader (fun s a => sameAscii s (name a) = true) fun s => unknown (upperAscii s) := by
  refine readsAs_of_option ofSetting? found (fun bare nameless => ?_) fun bare => ?_
  · rw [unfound nameless, settingName_of_bare bare]
  · exact named.trans (settingName_eq_iff (capital _) bare)

theorem Region.ofSetting?_eq_some_iff {r : Region} : ofSetting? s = some r ↔ settingName s = r.name := by
  constructor
  · intro named
    unfold ofSetting? at named
    split at named <;> cases named <;> assumption
  · intro same
    rw [ofSetting?, same]
    cases r <;> rfl

theorem Units.ofSetting?_eq_some_iff {u : Units} : ofSetting? s = some u ↔ settingName s = u.name := by
  constructor
  · intro named
    unfold ofSetting? at named
    split at named <;> cases named <;> assumption
  · intro same
    rw [ofSetting?, same]
    cases u <;> rfl

theorem VehicleType.ofSetting?_eq_some_iff {t : VehicleType} : ofSetting? s = some t ↔ settingName s = t.name := by
  constructor
  · intro named
    unfold ofSetting? at named
    split at named <;> cases named <;> assumption
  · intro same
    rw [ofSetting?, same]
    cases t <;> rfl

theorem readRegion_readsAs :
    ReadsAs readRegion (fun s r => sameAscii s (Region.name r) = true) Setting.region.refusal := by
  refine readsAs_of_names Region.ofSetting? (fun known => ?_) (fun unknown => ?_) Region.ofSetting?_eq_some_iff ?_
  · rw [readRegion, known]
  · rw [readRegion, unknown]
  · intro r
    cases r <;> rfl

theorem readUnits_readsAs : ReadsAs readUnits (fun s u => sameAscii s (Units.name u) = true) Setting.units.refusal := by
  refine readsAs_of_names Units.ofSetting? (fun known => ?_) (fun unknown => ?_) Units.ofSetting?_eq_some_iff ?_
  · rw [readUnits, known]
  · rw [readUnits, unknown]
  · intro u
    cases u <;> rfl

theorem readVehicleType_readsAs :
    ReadsAs readVehicleType (fun s t => sameAscii s (VehicleType.name t) = true) Setting.vehicleType.refusal := by
  refine readsAs_of_names VehicleType.ofSetting? (fun known => ?_) (fun unknown => ?_)
    VehicleType.ofSetting?_eq_some_iff ?_
  · rw [readVehicleType, known]
  · rw [readVehicleType, unknown]
  · intro t
    cases t <;> rfl

/-- A reader of numbers reads those of 64 bits. -/
theorem readCount_readsAs (problem : SettingProblem) :
    ReadsAs (readCount problem) (fun s => Decimal.Writes Decimal.max64 s.toList) fun _ => problem := by
  refine readsAs_of_option (fun s => Decimal.readNat? Decimal.max64 s.toList) (fun known => ?_) (fun _ unknown => ?_)
    fun _ => Decimal.readNat?_eq_some_iff
  · rw [readCount, known]
  · rw [readCount, unknown]

end Readers

namespace Settings

variable {lookup lookup' : String → Option String} {problem : SettingProblem}

/-- The first setting that is not as it should be is reported. -/
theorem read_eq_error_iff : read lookup = .error problem ↔ FirstOffence lookup Setting.all problem := by
  unfold read
  refine firstOffence_bind (optional_eq_error_iff .region rfl readRegion_readsAs fun _ => .rfl) fun _ => ?_
  refine firstOffence_bind (optional_eq_error_iff .units rfl readUnits_readsAs fun _ => .rfl) fun _ => ?_
  refine firstOffence_bind (required_read_eq_error_iff .vehicleType rfl readVehicleType_readsAs fun _ => .rfl)
    fun _ => ?_
  refine firstOffence_bind (optional_eq_error_iff .refresh rfl (readCount_readsAs .notMinutes) fun _ => .rfl)
    fun _ => ?_
  refine firstOffence_bind (optional_eq_error_iff .timeout rfl (readCount_readsAs .notSeconds) fun _ => .rfl)
    fun _ => ?_
  refine firstOffence_bind (required_eq_error_iff .username rfl fun _ => trivial) fun _ => ?_
  refine firstOffence_bind (required_eq_error_iff .password rfl fun _ => trivial) fun _ => ?_
  refine firstOffence_bind (required_eq_error_iff .clientAuth rfl fun _ => trivial) fun _ => ?_
  refine firstOffence_bind (required_eq_error_iff .vin rfl fun _ => trivial) fun _ => ?_
  exact iff_of_false nofun not_firstOffence_nil

theorem trim_of_blanks {raw : String} (blanks : ∀ c ∈ raw.toList, isBlank c = true) : trim raw = "" := by
  rw [trim, ← List.nil_append raw.toList, Text.trimChars_append_blanks blanks]
  rfl

/-- Blanks around a text, more or fewer, do not change what is left of it without them. -/
theorem trim_padded {raw : String} {front text back : List Char} (written : raw.toList = front ++ text ++ back)
    (blanks : ∀ c ∈ front ++ back, isBlank c = true) : trim raw = String.ofList (trimChars text) := by
  obtain ⟨before, behind⟩ := List.forall_mem_append.mp blanks
  rw [trim, written, Text.trimChars_append_blanks behind, trimChars, Text.dropBlanks_pad before]
  rfl

theorem value?_congr {key : String} (alike : SaysAlike (lookup key) (lookup' key)) :
    value? lookup key = value? lookup' key := by
  generalize there : lookup key = a at alike
  generalize there' : lookup' key = b at alike
  cases alike with
  | silent blank blank' =>
    have missing : MissingAt lookup key := fun raw found => trim_of_blanks (blank raw (there ▸ found))
    have missing' : MissingAt lookup' key := fun raw found => trim_of_blanks (blank' raw (there' ▸ found))
    rw [value?_eq_none_iff.mpr missing, value?_eq_none_iff.mpr missing']
  | padded written written' blanks blanks' =>
    rw [value?, value?, there, there', Option.map_some, Option.map_some, trim_padded written blanks,
      trim_padded written' blanks']

/-- Only what is given at the keys of the settings counts. -/
theorem read_congr (same : ∀ setting : Setting, value? lookup setting.key = value? lookup' setting.key) :
    read lookup = read lookup' := by
  have optional_congr {α : Type} (setting : Setting) {reader : String → Except SettingProblem α} {usual : α} :
      optional lookup setting.key reader usual = optional lookup' setting.key reader usual := by
    rw [optional, same, optional]
  have required_congr (setting : Setting) : required lookup setting.key = required lookup' setting.key := by
    rw [required, same, required]
  unfold read
  refine congrArg₂ bind (optional_congr .region) (funext fun _ => ?_)
  refine congrArg₂ bind (optional_congr .units) (funext fun _ => ?_)
  refine congrArg₂ bind (congrArg (· >>= readVehicleType) (required_congr .vehicleType)) (funext fun _ => ?_)
  refine congrArg₂ bind (optional_congr .refresh) (funext fun _ => ?_)
  refine congrArg₂ bind (optional_congr .timeout) (funext fun _ => ?_)
  refine congrArg₂ bind (required_congr .username) (funext fun _ => ?_)
  refine congrArg₂ bind (required_congr .password) (funext fun _ => ?_)
  refine congrArg₂ bind (required_congr .clientAuth) (funext fun _ => ?_)
  exact congrArg₂ bind (required_congr .vin) rfl

end Settings

end VehicleLink
