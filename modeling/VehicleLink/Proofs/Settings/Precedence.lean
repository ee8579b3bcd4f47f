import VehicleLink.Settings.Environment
import VehicleLink.Proofs.Settings.Assignments
import VehicleLink.Proofs.Text.Lines
import VehicleLink.Proofs.Text.Utf8

namespace VehicleLink

/-- A line that can be read, also one that assigns nothing. -/
def Readable (line : List Char) : Prop := ∃ a, readAssignmentLine line = .ok a

instance (line : List Char) : Decidable (Readable line) :=
  match read : readAssignmentLine line with
  | .ok a => .isTrue ⟨a, read⟩
  | .error _ => .isFalse fun ⟨_, readable⟩ => nomatch read.symm.trans readable

/-- What lines assign, in their order. -/
def assignmentsIn (lines : List (List Char)) : List Assignment :=
  lines.filterMap fun line => (readAssignmentLine line).toOption.join

/-- An environment into which assignments have been filled: a variable has the value that it had before, or else that
of its first assignment. -/
def Environment.Filled (env : Environment) (assigned : List Assignment) (filled : Environment) : Prop :=
  ∀ key, List.lookup key filled = (List.lookup key env).or ((List.lookup key assigned).map RawText.text)

section Lines

variable {line : List Char} {before after lines : List (List Char)} {a : Assignment}

theorem assignmentsIn_nothing (nothing : readAssignmentLine line = .ok none) (lines : List (List Char)) :
    assignmentsIn (line :: lines) = assignmentsIn lines := by
  rw [assignmentsIn, List.filterMap_cons, nothing]
  rfl

theorem assignmentsIn_assigns (assigns : readAssignmentLine line = .ok (some a)) (lines : List (List Char)) :
    assignmentsIn (line :: lines) = a :: assignmentsIn lines := by
  rw [assignmentsIn, List.filterMap_cons, assigns]
  rfl

theorem exists_of_mem_assignmentsIn (member : a ∈ assignmentsIn lines) :
    ∃ line ∈ lines, readAssignmentLine line = .ok (some a) := by
  obtain ⟨line, inside, assigns⟩ := List.mem_filterMap.mp member
  refine ⟨line, inside, ?_⟩
  cases read : readAssignmentLine line with
  | error problem => simp [read, Except.toOption] at assigns
  | ok b => simpa [read, Except.toOption] using assigns

/-- The first line that cannot be read. -/
theorem exists_first_unreadable (some : ¬∀ line ∈ lines, Readable line) : ∃ before line after problem,
    lines = before ++ line :: after ∧ (∀ line ∈ before, Readable line) ∧ readAssignmentLine line = .error problem := by
  induction lines with
  | nil => simp at some
  | cons line lines ih =>
    cases read : readAssignmentLine line with
    | error problem => exact ⟨[], line, lines, problem, rfl, by simp, read⟩
    | ok a =>
      have readable : Readable line := ⟨a, read⟩
      have later : ¬∀ line ∈ lines, Readable line := fun all => some (List.forall_mem_cons.mpr ⟨readable, all⟩)
      obtain ⟨before, bad, after, problem, whole, earlier, unreadable⟩ := ih later
      exact ⟨line :: before, bad, after, problem, by rw [whole, List.cons_append],
        List.forall_mem_cons.mpr ⟨readable, earlier⟩, unreadable⟩

/-- What the text of a file without a zero assigns can be assigned. -/
theorem allowed_of_mem_lines {text : List Char} (noZero : '\x00' ∉ text)
    (member : a ∈ assignmentsIn (Text.lines text)) : a.Allowed := by
  obtain ⟨line, inside, read⟩ := exists_of_mem_assignmentsIn member
  exact allowed_of_read read fun zero => noZero (Text.linesBy_subset inside zero)

end Lines

section Filling

variable {before lines : List (List Char)} {env : Environment}

theorem Environment.filled_nil (env : Environment) : env.Filled [] env := fun key => by
  rw [List.lookup_nil, Option.map_none, Option.or_none]

/-- One assignment changes one variable at most, and none that was there. -/
theorem Environment.filled_fill (env : Environment) (a : Assignment) : env.Filled [a] (env.fill a) := by
  intro key
  rw [fill]
  split
  · rename_i there
    by_cases same : key = a.1
    · obtain ⟨value, found⟩ := Option.isSome_iff_exists.mp there
      rw [same, found, Option.some_or]
    · have other : List.lookup key [a] = none := by rw [List.lookup_cons, beq_false_of_ne same, List.lookup_nil]
      rw [other, Option.map_none, Option.or_none]
  · have added : List.lookup key [(a.1, RawText.text a.2)] = (List.lookup key [a]).map RawText.text := by
      obtain ⟨name, value⟩ := a
      cases same : key == name <;> simp [List.lookup_cons, same]
    rw [List.lookup_append, added]

/-- What is filled in first wins over what is filled in later. -/
theorem Environment.Filled.trans {first second : List Assignment} {between filled : Environment}
    (fills : env.Filled first between) (fills' : between.Filled second filled) :
    env.Filled (first ++ second) filled := by
  intro key
  rw [fills' key, fills key, Option.or_assoc, List.lookup_append, Option.map_or]

/-- Lines that can be read are filled in up to any line behind them. -/
theorem fillFrom_append (readable : ∀ line ∈ before, Readable line) (number : Nat) (env : Environment) :
    ∃ filled, env.Filled (assignmentsIn before) filled ∧
      ∀ rest, fillFrom number env (before ++ rest) = fillFrom (number + before.length) filled rest := by
  -- The environment changes from line to line, so the induction is over any environment and any number.
  induction before generalizing number env with
  | nil => exact ⟨env, env.filled_nil, fun rest => rfl⟩
  | cons line before ih =>
    obtain ⟨⟨a, read⟩, later⟩ := List.forall_mem_cons.mp readable
    have count : number + 1 + before.length = number + (line :: before).length := by
      rw [List.length_cons]
      omega
    cases a with
    | none =>
      obtain ⟨filled, fills, run⟩ := ih later (number + 1) env
      refine ⟨filled, assignmentsIn_nothing read before ▸ fills, fun rest => ?_⟩
      rw [List.cons_append, fillFrom, read, ← count]
      exact run rest
    | some a =>
      obtain ⟨filled, fills, run⟩ := ih later (number + 1) (env.fill a)
      refine ⟨filled, assignmentsIn_assigns read before ▸ (env.filled_fill a).trans fills, fun rest => ?_⟩
      rw [List.cons_append, fillFrom, read, ← count]
      exact run rest

theorem fillFrom_readable (readable : ∀ line ∈ lines, Readable line) (number : Nat) (env : Environment) :
    ∃ filled, env.Filled (assignmentsIn lines) filled ∧ fillFrom number env lines = (filled, none) := by
  obtain ⟨filled, fills, run⟩ := fillFrom_append readable number env
  exact ⟨filled, fills, by simpa [fillFrom] using run []⟩

theorem fillFrom_unreadable {line : List Char} {problem : AssignmentProblem} (readable : ∀ line ∈ before, Readable line)
    (unreadable : readAssignmentLine line = .error problem) (after : List (List Char)) (number : Nat)
    (env : Environment) : ∃ filled, env.Filled (assignmentsIn before) filled ∧
      fillFrom number env (before ++ line :: after) = (filled, some ⟨number + before.length, problem⟩) := by
  obtain ⟨filled, fills, run⟩ := fillFrom_append readable number env
  refine ⟨filled, fills, ?_⟩
  rw [run, fillFrom, unreadable]

end Filling

section Files

variable {m : Type → Type} [Monad m] [LawfulMonad m] {files : Files m} {file : LoadedFile} {env filled : Environment}
  {text : String}

theorem Files.load_of_filled (there : files.read file.path = pure (.ok (Text.utf8 text)))
    (fills : fillFromText env text = (filled, none)) : files.load file env = pure (.ok (some file, filled)) := by
  rw [load, there, pure_bind]
  simp only [Text.decodeUtf8?_eq_some_iff.mpr rfl, fills]

theorem Files.load_of_fault {fault : LineFault} (there : files.read file.path = pure (.ok (Text.utf8 text)))
    (fills : fillFromText env text = (filled, some fault)) :
    files.load file env = pure (.error (.line file.path fault)) := by
  rw [load, there, pure_bind]
  simp only [Text.decodeUtf8?_eq_some_iff.mpr rfl, fills]

/-- A file without a zero assigns only what can be assigned. When it has been loaded, all variables are as its lines
fill them in. When it cannot be loaded, the first line that cannot be read is reported, and nothing has been filled in
from there on. -/
theorem Files.load_precedence (there : files.read file.path = pure (.ok (Text.utf8 text)))
    (noZero : '\x00' ∉ text.toList) :
    (∀ a ∈ assignmentsIn (Text.lines text.toList), a.Allowed) ∧
    ((∀ line ∈ Text.lines text.toList, Readable line) → ∃ filled,
      files.load file env = pure (.ok (some file, filled)) ∧
        env.Filled (assignmentsIn (Text.lines text.toList)) filled) ∧
    ((¬∀ line ∈ Text.lines text.toList, Readable line) → ∃ before line after problem,
      Text.lines text.toList = before ++ line :: after ∧ (∀ line ∈ before, Readable line) ∧
        readAssignmentLine line = .error problem ∧
        files.load file env = pure (.error (.line file.path ⟨before.length + 1, problem⟩)) ∧
        (StartProblem.line file.path ⟨before.length + 1, problem⟩).message = file.path.shown ++ ":" ++
          Decimal.integerText (before.length + 1) ++ ": " ++ problem.message ∧
        env.Filled (assignmentsIn before) (fillFromText env text).1) := by
  refine ⟨fun a member => allowed_of_mem_lines noZero member, fun readable => ?_, fun some => ?_⟩
  · obtain ⟨filled, fills, run⟩ := fillFrom_readable readable 1 env
    exact ⟨filled, load_of_filled there run, fills⟩
  · obtain ⟨before, line, after, problem, whole, readable, unreadable⟩ := exists_first_unreadable some
    obtain ⟨filled, fills, run⟩ := fillFrom_unreadable readable unreadable after 1 env
    have stopped : fillFromText env text = (filled, Option.some ⟨before.length + 1, problem⟩) := by
      rw [fillFromText, whole, run, Nat.add_comm]
    exact ⟨before, line, after, problem, whole, readable, unreadable, load_of_fault there stopped, rfl,
      by rwa [stopped]⟩

/-- A file system with one file. -/
def Files.holding (text : String) : Files Id where
  isFile _ := true
  read _ := .ok (Text.utf8 text)

/-- An empty value that was there stays, the first assignment of two counts, and an empty line is counted. -/
theorem Files.load_precedence_sample :
    (∃ filled, (holding "UNITS=METRIC\n# or\nexport UNITS=IMPERIAL\nREGION=CHINA\n").load ⟨.text ".env", false⟩
        [("REGION", .text "")] = .ok (some ⟨.text ".env", false⟩, filled) ∧
      List.lookup "UNITS" filled = some (.text "METRIC") ∧ List.lookup "REGION" filled = some (.text "") ∧
      List.lookup "VIN" filled = none) ∧
    ∃ problem, (holding "UNITS=METRIC\n\nREGION CHINA\n").load ⟨.text ".env", false⟩ [] =
      .error (.line (.text ".env") ⟨3, problem⟩) := by
  constructor
  · obtain ⟨_, loads, _⟩ := @Files.load_precedence Id _ _
      (holding "UNITS=METRIC\n# or\nexport UNITS=IMPERIAL\nREGION=CHINA\n") ⟨.text ".env", false⟩
      [("REGION", .text "")] "UNITS=METRIC\n# or\nexport UNITS=IMPERIAL\nREGION=CHINA\n" rfl (by decide)
    obtain ⟨filled, loaded, fills⟩ := loads (by decide)
    exact ⟨filled, loaded, (fills "UNITS").trans (by decide), (fills "REGION").trans (by decide),
      (fills "VIN").trans (by decide)⟩
  · obtain ⟨_, _, stops⟩ := @Files.load_precedence Id _ _ (holding "UNITS=METRIC\n\nREGION CHINA\n")
      ⟨.text ".env", false⟩ [] "UNITS=METRIC\n\nREGION CHINA\n" rfl (by decide)
    obtain ⟨before, line, after, problem, whole, _, unreadable, stopped, _, _⟩ := stops (by decide)
    have lines : Text.lines "UNITS=METRIC\n\nREGION CHINA\n".toList =
        ["UNITS=METRIC".toList, [], "REGION CHINA".toList] := by decide
    rw [lines] at whole
    have third : before.length = 2 := by
      match before with
      | [] =>
        cases whole
        cases unreadable
      | [_] =>
        cases whole
        cases unreadable
      | [_, _] => rfl
      | _ :: _ :: _ :: _ => simp at whole
    rw [third] at stopped
    exact ⟨problem, stopped⟩

end Files

end VehicleLink
