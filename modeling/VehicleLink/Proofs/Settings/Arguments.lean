import VehicleLink.Settings.Arguments
import VehicleLink.Proofs.Text.Cutting

namespace VehicleLink

/-- The ways to name a file: any argument behind the option, or a text joined to it by an equals sign. -/
inductive NamesFile : RawText → List RawText → Prop
  | apart (path : RawText) : NamesFile path [.text fileOption, path]
  | joined {path : String} (some : path ≠ "") : NamesFile (.text path) [.text (fileOption ++ "=" ++ path)]

/-- The arguments are over: there are none, or two dashes end them. -/
inductive ArgumentsOver : List RawText → Prop
  | nothing : ArgumentsOver []
  | dashes (rest : List RawText) : ArgumentsOver (.text argumentsEnd :: rest)

/-- Arguments that have all been passed before any two dashes stand alone. Behind the option, two dashes are a path. -/
inductive Passed : List RawText → Prop
  | nil : Passed []
  | option (path : RawText) {rest : List RawText} (later : Passed rest) : Passed (.text fileOption :: path :: rest)
  | other {argument : RawText} {rest : List RawText} (noOption : argument ≠ .text fileOption)
      (noEnd : argument ≠ .text argumentsEnd) (later : Passed rest) : Passed (argument :: rest)

variable {found result : Option RawText} {path : RawText} {option arguments front rest : List RawText} {s : String}

theorem readArgumentsFrom_apart (path : RawText) (rest : List RawText) :
    readArgumentsFrom found (.text fileOption :: path :: rest) =
      if found.isSome then .error .repeated else readArgumentsFrom (some path) rest := by
  rw [readArgumentsFrom, if_pos rfl]

theorem readArgumentsFrom_other (other : s ≠ fileOption) (rest : List RawText) :
    readArgumentsFrom found (.text s :: rest) =
      match Text.after? (fileOption ++ "=").toList s.toList with
      | some [] => .error .noPath
      | some path =>
        if found.isSome then .error .repeated
        else readArgumentsFrom (some (.text (String.ofList path))) rest
      | none => if s = argumentsEnd then .ok found else .error (.unrecognised s) := by
  cases rest <;> exact if_neg other

theorem readArgumentsFrom_joined {path : String} (nonempty : path ≠ "") (rest : List RawText) :
    readArgumentsFrom found (.text (fileOption ++ "=" ++ path) :: rest) =
      if found.isSome then .error .repeated else readArgumentsFrom (some (.text path)) rest := by
  have other : fileOption ++ "=" ++ path ≠ fileOption := by
    intro same
    have inside : '=' ∈ fileOption.toList := by
      rw [← same]
      simp
    exact absurd inside (by decide)
  have behind : Text.after? (fileOption ++ "=").toList (fileOption ++ "=" ++ path).toList = some path.toList :=
    Text.after?_eq_some_iff.mpr String.toList_append
  obtain ⟨c, cs, characters⟩ := List.exists_cons_of_ne_nil (fun none => nonempty (String.toList_inj.mp none))
  rw [readArgumentsFrom_other other, behind, characters]
  dsimp only
  rw [← characters, String.ofList_toList]

/-- A file may be named in either way, and only once. -/
theorem NamesFile.readArgumentsFrom (names : NamesFile path option) (rest : List RawText) :
    readArgumentsFrom found (option ++ rest) =
      if found.isSome then .error .repeated else VehicleLink.readArgumentsFrom (some path) rest := by
  cases names with
  | apart => exact readArgumentsFrom_apart path rest
  | joined nonempty => exact readArgumentsFrom_joined nonempty rest

theorem ArgumentsOver.readArgumentsFrom (ended : ArgumentsOver arguments) :
    readArgumentsFrom found arguments = .ok found := by
  cases ended with
  | nothing => rfl
  | dashes rest =>
    rw [readArgumentsFrom_other (by decide)]
    rfl

/-- How arguments can begin. Those that begin otherwise are in error, whatever has been found before. -/
inductive ArgumentsBegin : List RawText → Prop
  | finished {arguments : List RawText} (ended : ArgumentsOver arguments) : ArgumentsBegin arguments
  | named {path : RawText} {option : List RawText} (names : NamesFile path option) (rest : List RawText) :
      ArgumentsBegin (option ++ rest)
  | wrong {arguments : List RawText} {problem : ArgumentProblem}
      (fails : ∀ found, readArgumentsFrom found arguments = .error problem) : ArgumentsBegin arguments

theorem arguments_begin (arguments : List RawText) : ArgumentsBegin arguments := by
  match arguments with
  | [] => exact .finished .nothing
  | .broken bytes :: rest => exact .wrong fun found => by rw [readArgumentsFrom]
  | .text s :: rest =>
    by_cases same : s = fileOption
    · subst same
      match rest with
      | [] => exact .wrong fun found => by rw [readArgumentsFrom, if_pos rfl]
      | path :: rest => exact .named (.apart path) rest
    · cases behind : Text.after? (fileOption ++ "=").toList s.toList with
      | none =>
        by_cases dashes : s = argumentsEnd
        · subst dashes
          exact .finished (.dashes rest)
        · exact .wrong fun found => by rw [readArgumentsFrom_other same, behind]; exact if_neg dashes
      | some path =>
        match path with
        | [] => exact .wrong fun found => by rw [readArgumentsFrom_other same, behind]
        | c :: cs =>
          have whole : s = fileOption ++ "=" ++ String.ofList (c :: cs) := by
            rw [← String.toList_inj, String.toList_append, String.toList_ofList]
            exact Text.after?_eq_some_iff.mp behind
          rw [whole]
          exact .named (.joined (by simp)) rest

/-- When a file has been named, only the end is read. -/
theorem readArgumentsFrom_some_eq_ok_iff :
    readArgumentsFrom (some path) arguments = .ok result ↔ ArgumentsOver arguments ∧ result = some path := by
  constructor
  · intro read
    cases arguments_begin arguments with
    | finished ended =>
      rw [ended.readArgumentsFrom] at read
      cases read
      exact ⟨ended, rfl⟩
    | named names rest =>
      rw [names.readArgumentsFrom] at read
      cases read
    | wrong fails => cases (fails _).symm.trans read
  · rintro ⟨ended, rfl⟩
    exact ended.readArgumentsFrom

theorem readArguments_eq_ok_iff : readArguments arguments = .ok result ↔
    ArgumentsOver arguments ∧ result = none ∨
      ∃ path option rest, NamesFile path option ∧ arguments = option ++ rest ∧ ArgumentsOver rest ∧
        result = some path := by
  constructor
  · intro read
    rw [readArguments] at read
    cases arguments_begin arguments with
    | finished ended =>
      rw [ended.readArgumentsFrom] at read
      cases read
      exact .inl ⟨ended, rfl⟩
    | @named path option names rest =>
      rw [names.readArgumentsFrom] at read
      obtain ⟨ended, same⟩ := readArgumentsFrom_some_eq_ok_iff.mp read
      exact .inr ⟨path, option, rest, names, rfl, ended, same⟩
    | wrong fails => cases (fails _).symm.trans read
  · rintro (⟨ended, rfl⟩ | ⟨path, option, rest, names, rfl, ended, rfl⟩)
    · exact ended.readArgumentsFrom
    · rw [readArguments, names.readArgumentsFrom]
      exact ended.readArgumentsFrom

/-- Two dashes after arguments that have all been passed end the arguments. -/
theorem Passed.readArgumentsFrom (passed : Passed front) (rest : List RawText) :
    readArgumentsFrom found (front ++ .text argumentsEnd :: rest) = VehicleLink.readArgumentsFrom found front := by
  induction passed generalizing found with
  | nil => exact (ArgumentsOver.dashes rest).readArgumentsFrom
  | option path later ih =>
    rw [List.cons_append, List.cons_append, readArgumentsFrom_apart, readArgumentsFrom_apart, ih]
  | @other argument front noOption noEnd later ih =>
    cases argument with
    | broken bytes => rw [List.cons_append, VehicleLink.readArgumentsFrom, VehicleLink.readArgumentsFrom]
    | text s =>
      have other : s ≠ fileOption := fun same => noOption (congrArg RawText.text same)
      have lasting : s ≠ argumentsEnd := fun same => noEnd (congrArg RawText.text same)
      rw [List.cons_append, readArgumentsFrom_other other, readArgumentsFrom_other other]
      simp only [ih, if_neg lasting]

/-- Which arguments are read, and as what. No file is named by arguments that are over at once. A file is named by those
that begin with one option and are over then. All others are in error. Nothing behind the end counts, and a path that is
a text may be written apart or joined. -/
theorem readArguments_grammar (arguments : List RawText) :
    (readArguments arguments = .ok none ↔ ArgumentsOver arguments) ∧
    (∀ path, readArguments arguments = .ok (some path) ↔
      ∃ option rest, NamesFile path option ∧ arguments = option ++ rest ∧ ArgumentsOver rest) ∧
    ((∃ problem, readArguments arguments = .error problem) ↔ ¬ArgumentsOver arguments ∧
      ¬∃ path option rest, NamesFile path option ∧ arguments = option ++ rest ∧ ArgumentsOver rest) ∧
    (∀ front rest, Passed front → arguments = front ++ .text argumentsEnd :: rest →
      readArguments arguments = readArguments front) ∧
    ∀ path : String, path ≠ "" → readArguments (.text fileOption :: .text path :: arguments) =
      readArguments (.text (fileOption ++ "=" ++ path) :: arguments) := by
  have nothing : readArguments arguments = .ok none ↔ ArgumentsOver arguments := by
    simp [readArguments_eq_ok_iff]
  have named (path : RawText) : readArguments arguments = .ok (some path) ↔
      ∃ option rest, NamesFile path option ∧ arguments = option ++ rest ∧ ArgumentsOver rest := by
    rw [readArguments_eq_ok_iff]
    constructor
    · rintro (⟨_, none⟩ | ⟨_, option, rest, names, whole, ended, same⟩)
      · cases none
      · cases same
        exact ⟨option, rest, names, whole, ended⟩
    · rintro ⟨option, rest, names, whole, ended⟩
      exact .inr ⟨path, option, rest, names, whole, ended, rfl⟩
  refine ⟨nothing, named, ?_, ?_, ?_⟩
  · rw [← nothing, ← exists_congr named]
    cases readArguments arguments with
    | error problem => simp
    | ok found => cases found <;> simp
  · rintro front rest passed rfl
    exact passed.readArgumentsFrom rest
  · intro path nonempty
    rw [readArguments, readArguments, readArgumentsFrom_apart, readArgumentsFrom_joined nonempty]

/-- A path that is no text, with something behind the end that would be in error in front of it, and two dashes as a
path, apart and joined, with a second option behind them. -/
theorem readArguments_grammar_sample :
    let front : List RawText := [.text "--env-file", .broken [255]]
    let arguments := front ++ [.text "--", .broken [254]]
    readArguments arguments = .ok (some (.broken [255])) ∧ Passed front ∧
      readArguments arguments = readArguments front ∧ "--" ≠ "" ∧
      readArguments (.text "--env-file" :: .text "--" :: front) = readArguments (.text "--env-file=--" :: front) := by
  intro front arguments
  have passed : Passed front := .option (.broken [255]) .nil
  have nonempty : "--" ≠ "" := by decide
  have joined : fileOption ++ "=" ++ "--" = "--env-file=--" := by decide
  obtain ⟨_, named, _, ends, _⟩ := readArguments_grammar arguments
  obtain ⟨_, _, _, _, spellings⟩ := readArguments_grammar front
  have alike := spellings "--" nonempty
  rw [joined] at alike
  exact ⟨(named (.broken [255])).mpr ⟨front, _, .apart (.broken [255]), rfl, .dashes [.broken [254]]⟩, passed,
    ends front [.broken [254]] passed rfl, nonempty, alike⟩

end VehicleLink
