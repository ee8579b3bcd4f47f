import VehicleLink.Settings.Assignment
import VehicleLink.Proofs.Json.Readings
import VehicleLink.Proofs.Text.Cutting

namespace VehicleLink

open Text

/-- A character as it is written between double quotes. -/
def escapeQuoted : Char → List Char
  | '\\' => ['\\', '\\']
  | '"' => ['\\', '"']
  | '\n' => ['\\', 'n']
  | '\r' => ['\\', 'r']
  | '\t' => ['\\', 't']
  | c => [c]

/-- The ways to write a value. Between single quotes and without quotes every character stands for itself. -/
inductive ValueWritten : List Char → List Char → Prop
  | double (value : List Char) : ValueWritten value ('"' :: (value.flatMap escapeQuoted ++ ['"']))
  | single {value : List Char} (absent : '\'' ∉ value) : ValueWritten value ('\'' :: (value ++ ['\'']))
  | unquoted {value : List Char} (absent : '#' ∉ value) (bare : Bare value)
      (first : value.head? ≠ some '"' ∧ value.head? ≠ some '\'') : ValueWritten value value

/-- What may stand behind a value: blanks, and perhaps a comment. -/
inductive Remark : List Char → Prop
  | blank {cs : List Char} (blanks : ∀ c ∈ cs, isBlank c = true) : Remark cs
  | comment {front : List Char} (blanks : ∀ c ∈ front, isBlank c = true) (comment : List Char) :
      Remark (front ++ '#' :: comment)

/-- What may stand for a variable. -/
structure IsVariable (name : List Char) : Prop where
  nonempty : name ≠ []
  visible : ∀ c ∈ name, isBlank c = false
  noEquals : '=' ∉ name
  noComment : name.head? ≠ some '#'

/-- The lines that say an assignment. -/
inductive Assignment.Written : Assignment → List Char → Prop
  | intro {name value : String} {front exported gap written remark : List Char} (named : IsVariable name.toList)
      (blanks : ∀ c ∈ front, isBlank c = true) (exports : exported = [] ∨ exported = "export ".toList)
      (blanks' : ∀ c ∈ gap, isBlank c = true) (spelled : ValueWritten value.toList written) (behind : Remark remark) :
      Written (name, value) (front ++ exported ++ name.toList ++ '=' :: (gap ++ written ++ remark))

/-- A character is written as itself if it is neither a quote nor a backslash, and otherwise with an escape that is
read as it. -/
theorem unescape_escapeQuoted (c : Char) : escapeQuoted c = [c] ∧ c ≠ '"' ∧ c ≠ '\\' ∨
    ∃ d, escapeQuoted c = ['\\', d] ∧ unescape d = c := by
  by_cases special : c ∈ ['\\', '"', '\n', '\r', '\t']
  · simp only [List.mem_cons, List.not_mem_nil, or_false] at special
    rcases special with rfl | rfl | rfl | rfl | rfl
    · exact .inr ⟨'\\', rfl, rfl⟩
    · exact .inr ⟨'"', rfl, rfl⟩
    · exact .inr ⟨'n', rfl, rfl⟩
    · exact .inr ⟨'r', rfl, rfl⟩
    · exact .inr ⟨'t', rfl, rfl⟩
  · simp only [List.mem_cons, List.not_mem_nil, or_false, not_or] at special
    refine .inl ⟨?_, special.2.1, special.1⟩
    unfold escapeQuoted
    split <;> simp_all

section Values

variable {quote : Quote} {value written remark rest : List Char}

theorem readQuoted_cons (c : Char) : readQuoted quote (c :: rest) =
    if c = quote.sign then if isRemark rest then .ok [] else .error (.afterQuote quote)
    else if c = '\\' ∧ quote = .double then
      match rest with
      | [] => .error .openEscape
      | escaped :: rest => (readQuoted quote rest).map (unescape escaped :: ·)
    else (readQuoted quote rest).map (c :: ·) := by
  cases rest <;> rfl

theorem readQuoted_end (closed : isRemark rest = true) : readQuoted quote (quote.sign :: rest) = .ok [] := by
  rw [readQuoted_cons, if_pos rfl, if_pos closed]

theorem readQuoted_plain {c : Char} (other : c ≠ quote.sign) (plain : c ≠ '\\' ∨ quote ≠ .double) :
    readQuoted quote (c :: rest) = (readQuoted quote rest).map (c :: ·) := by
  have noEscape : ¬(c = '\\' ∧ quote = .double) := fun ⟨slash, double⟩ => plain.elim (· slash) (· double)
  rw [readQuoted_cons, if_neg other, if_neg noEscape]

theorem readQuoted_escape (c : Char) :
    readQuoted .double ('\\' :: c :: rest) = (readQuoted .double rest).map (unescape c :: ·) := by
  rw [readQuoted_cons, if_neg (by decide), if_pos ⟨rfl, rfl⟩]

/-- A value between double quotes is what was escaped for it. -/
theorem readQuoted_double (closed : isRemark rest = true) :
    readQuoted .double (value.flatMap escapeQuoted ++ '"' :: rest) = .ok value := by
  induction value with
  | nil => exact readQuoted_end closed
  | cons c value ih =>
    rw [List.flatMap_cons, List.append_assoc]
    rcases unescape_escapeQuoted c with ⟨single, noQuote, noEscape⟩ | ⟨d, escaped, back⟩
    · rw [single, List.singleton_append, readQuoted_plain noQuote (.inl noEscape), ih]
      rfl
    · rw [escaped, List.cons_append, List.singleton_append, readQuoted_escape, ih, back]
      rfl

/-- What stands between single quotes is read as it is, since there are no escapes. -/
theorem readQuoted_single (absent : '\'' ∉ value) (closed : isRemark rest = true) :
    readQuoted .single (value ++ '\'' :: rest) = .ok value := by
  induction value with
  | nil => exact readQuoted_end closed
  | cons c value ih =>
    obtain ⟨other, later⟩ := List.ne_and_not_mem_of_not_mem_cons absent
    rw [List.cons_append, readQuoted_plain other.symm (.inr (by decide)), ih later]
    rfl

theorem isRemark_dropBlanksEnd (cs : List Char) : isRemark (dropBlanksEnd cs) = isRemark cs := by
  rw [isRemark, trimChars_dropBlanksEnd, isRemark]

/-- What may stand behind a value is taken for it. -/
theorem Remark.isRemark (remarks : Remark remark) : isRemark remark = true := by
  cases remarks with
  | blank blanks =>
    have none : trimChars remark = [] := trimChars_append_blanks blanks []
    rw [VehicleLink.isRemark, none]
  | @comment front blanks comment =>
    have begins : trimChars (front ++ '#' :: comment) = '#' :: dropBlanksEnd comment := by
      rw [trimChars_visible (by decide), dropBlanks_blanks blanks, List.nil_append]
    rw [VehicleLink.isRemark, begins]
    rfl

theorem readValue_dropBlanksEnd (cs : List Char) : readValue (dropBlanksEnd cs) = readValue cs := by
  rw [readValue, trimChars_dropBlanksEnd, readValue]

theorem readValue_quoted {cs : List Char} (begins : trimChars cs = quote.sign :: rest) :
    readValue cs = readQuoted quote rest := by
  rw [readValue, begins]
  cases quote <;> rfl

theorem readValue_unquoted {cs : List Char}
    (first : (trimChars cs).head? ≠ some '"' ∧ (trimChars cs).head? ≠ some '\'') :
    readValue cs = .ok (dropBlanksEnd ((trimChars cs).takeWhile (· ≠ '#'))) := by
  rw [readValue]
  cases trimmed : trimChars cs with
  | nil => rfl
  | cons c rest =>
    rw [trimmed, List.head?_cons] at first
    have noDouble : c ≠ '"' := fun same => first.1 (congrArg some same)
    have noSingle : c ≠ '\'' := fun same => first.2 (congrArg some same)
    simp only [noDouble, noSingle, if_false]

/-- Blanks in front of a quoted value do not count, nor does a remark behind it. -/
theorem readValue_between (quote : Quote) {gap body : List Char} (blanks : ∀ c ∈ gap, isBlank c = true)
    (inside : readQuoted quote (body ++ quote.sign :: dropBlanksEnd remark) = .ok value) :
    readValue (gap ++ quote.sign :: (body ++ [quote.sign]) ++ remark) = .ok value := by
  have visible : isBlank quote.sign = false := by cases quote <;> decide
  have trimmed : trimChars (gap ++ quote.sign :: (body ++ [quote.sign]) ++ remark) =
      quote.sign :: (body ++ quote.sign :: dropBlanksEnd remark) := by
    rw [List.append_assoc, List.cons_append, List.append_assoc, List.singleton_append, trimChars_visible visible,
      dropBlanks_blanks blanks, dropBlanksEnd_visible visible, List.nil_append]
  rw [readValue_quoted trimmed, inside]

section Unquoted

variable {gap front : List Char}

/-- Where a value without blanks at its ends is followed by blanks, it is empty or begins at once. -/
theorem dropBlanks_before (bare : Bare value) (blanks : ∀ c ∈ front, isBlank c = true) :
    dropBlanks (value ++ front) = [] ∨ dropBlanks (value ++ front) = value ++ front ∧ value ≠ [] := by
  cases value with
  | nil => exact .inl (dropBlanks_blanks blanks)
  | cons c rest => exact .inr ⟨dropBlanks_cons (bare.1 c rest rfl) _, List.cons_ne_nil c rest⟩

/-- The blanks in front of a comment go only when the comment has gone. -/
theorem readValue_commented (absent : '#' ∉ value) (bare : Bare value)
    (first : value.head? ≠ some '"' ∧ value.head? ≠ some '\'') (blanks : ∀ c ∈ gap, isBlank c = true)
    (blanks' : ∀ c ∈ front, isBlank c = true) (comment : List Char) :
    readValue (gap ++ value ++ (front ++ '#' :: comment)) = .ok value := by
  have trimmed : trimChars (gap ++ value ++ (front ++ '#' :: comment)) =
      dropBlanks (value ++ front) ++ '#' :: dropBlanksEnd comment := by
    rw [← List.append_assoc, trimChars_visible (by decide), List.append_assoc gap, dropBlanks_pad blanks]
  have kept : ∀ c ∈ dropBlanks (value ++ front), decide (c ≠ '#') = true := by
    refine fun c member => decide_eq_true fun same => ?_
    rcases List.mem_append.mp (dropBlanks_subset _ member) with inside | inside
    · exact absent (same ▸ inside)
    · have blank : isBlank '#' = true := blanks' '#' (same ▸ inside)
      exact absurd blank (by decide)
  have cut : (dropBlanks (value ++ front) ++ '#' :: dropBlanksEnd comment).takeWhile (· ≠ '#') =
      dropBlanks (value ++ front) := by
    rw [List.takeWhile_append_of_pos kept, List.takeWhile_cons_of_neg (by decide), List.append_nil]
  have whole : trimChars (value ++ front) = value := @trimChars_pad value [] front bare (by simp) blanks'
  have first' : (dropBlanks (value ++ front) ++ '#' :: dropBlanksEnd comment).head? ≠ some '"' ∧
      (dropBlanks (value ++ front) ++ '#' :: dropBlanksEnd comment).head? ≠ some '\'' := by
    rcases dropBlanks_before bare blanks' with gone | ⟨same, nonempty⟩
    · simp [gone]
    · obtain ⟨c, rest, rfl⟩ := List.exists_cons_of_ne_nil nonempty
      rw [same]
      exact first
  rw [readValue_unquoted (by rwa [trimmed]), trimmed, cut]
  exact congrArg Except.ok whole

theorem readValue_bare (absent : '#' ∉ value) (bare : Bare value)
    (first : value.head? ≠ some '"' ∧ value.head? ≠ some '\'') (blanks : ∀ c ∈ gap, isBlank c = true)
    (blanks' : ∀ c ∈ front, isBlank c = true) : readValue (gap ++ value ++ front) = .ok value := by
  have trimmed : trimChars (gap ++ value ++ front) = value := trimChars_pad bare blanks blanks'
  have kept : ∀ c ∈ value, decide (c ≠ '#') = true := fun c member =>
    decide_eq_true fun same => absent (same ▸ member)
  have whole : dropBlanksEnd value = value := by
    have again := trimChars_of_bare bare
    rwa [trimChars, dropBlanks_first bare.1] at again
  rw [readValue_unquoted (by rwa [trimmed]), trimmed, List.takeWhile_eq_self_iff.mpr kept, whole]

end Unquoted

/-- A value is read as what was written, whatever blanks and comment stand around it. -/
theorem ValueWritten.read {gap : List Char} (spelled : ValueWritten value written)
    (blanks : ∀ c ∈ gap, isBlank c = true) (behind : Remark remark) :
    readValue (gap ++ written ++ remark) = .ok value := by
  have closed : VehicleLink.isRemark (dropBlanksEnd remark) = true := by rw [isRemark_dropBlanksEnd, behind.isRemark]
  cases spelled with
  | double => exact readValue_between .double blanks (readQuoted_double closed)
  | single absent => exact readValue_between .single blanks (readQuoted_single absent closed)
  | unquoted absent bare first =>
    cases behind with
    | blank blanks' => exact readValue_bare absent bare first blanks blanks'
    | comment blanks' comment => exact readValue_commented absent bare first blanks blanks' comment

end Values

section Lines

variable {name rest line : List Char}

theorem IsVariable.dropExport (named : IsVariable name) {exported : List Char}
    (exports : exported = [] ∨ exported = "export ".toList) :
    dropExport (exported ++ name ++ '=' :: rest) = name ++ '=' :: rest := by
  rcases exports with rfl | rfl
  · have differs : after? "export ".toList (name ++ '=' :: rest) = none := by
      refine Option.eq_none_iff_forall_ne_some.mpr fun more found => ?_
      have same : name ++ '=' :: rest = "export".toList ++ ' ' :: more := (after?_eq_some_iff.mp found).trans (by simp)
      -- The blank behind the word would be in the name, or the equals sign in the word.
      rcases List.append_eq_append_iff.mp same with ⟨between, word, tail⟩ | ⟨between, word, tail⟩
      · cases between with
        | nil => cases tail
        | cons c between =>
          cases tail
          have inside : '=' ∈ "export".toList := by simp [word]
          exact absurd inside (by decide)
      · cases between with
        | nil => cases tail
        | cons c between =>
          cases tail
          have inside : ' ' ∈ name := by simp [word]
          exact absurd (named.visible ' ' inside) (by decide)
    rw [List.nil_append, VehicleLink.dropExport, differs]
  · have found : after? "export ".toList ("export ".toList ++ name ++ '=' :: rest) = some (name ++ '=' :: rest) :=
      after?_eq_some_iff.mpr (List.append_assoc ..)
    obtain ⟨c, more, rfl⟩ := List.exists_cons_of_ne_nil named.nonempty
    rw [VehicleLink.dropExport, found]
    exact dropBlanks_cons (named.visible c List.mem_cons_self) _

/-- An assignment begins neither with a blank nor like a comment. -/
theorem IsVariable.first (named : IsVariable name) {exported : List Char}
    (exports : exported = [] ∨ exported = "export ".toList) {c : Char} (begins : exported ++ name = c :: rest) :
    isBlank c = false ∧ c ≠ '#' := by
  rcases exports with rfl | rfl
  · rw [List.nil_append] at begins
    refine ⟨named.visible c (begins ▸ List.mem_cons_self), fun same => named.noComment ?_⟩
    rw [begins, same, List.head?_cons]
  · cases begins
    decide

theorem IsVariable.readAssignment (named : IsVariable name) {cs : List Char}
    (splits : VehicleLink.dropExport cs = name ++ '=' :: rest) :
    readAssignment cs = (readValue rest).map fun value => (String.ofList name, String.ofList value) := by
  have cut : cutAt (· == '=') (name ++ '=' :: rest) = some (name, rest) :=
    cutAt_append (fun c member => beq_false_of_ne fun same => named.noEquals (same ▸ member)) rfl
  have whole : trimChars name = name := trimChars_of_bare (bare_of_forall named.visible)
  have nonempty : name.isEmpty = false := List.isEmpty_eq_false_iff.mpr named.nonempty
  have visible : name.any isBlank = false := List.any_eq_false.mpr fun c member => by simp [named.visible c member]
  simp only [VehicleLink.readAssignment, splits, cut, whole, nonempty, visible, if_false, Bool.false_eq_true]

theorem readAssignmentLine_of_head (nonempty : trimChars line ≠ []) (first : (trimChars line).head? ≠ some '#') :
    readAssignmentLine line = (readAssignment (trimChars line)).map some := by
  rw [readAssignmentLine]
  split
  · contradiction
  · rename_i begins
    exact absurd (by rw [begins]; rfl) first
  · rfl

end Lines

section Sources

variable {quote : Quote} {cs value line : List Char} {a : Assignment}

theorem unescape_source (c : Char) : unescape c = c ∨ unescape c ∈ ['\n', '\r', '\t'] := by
  unfold unescape
  split <;> simp

/-- What is read of a quoted value stands there, up to the characters that only an escape can write. -/
theorem readQuoted_source (read : readQuoted quote cs = .ok value) :
    ∀ c ∈ value, c ∈ cs ∨ c ∈ ['\n', '\r', '\t'] := by
  induction cs using readQuoted.induct quote generalizing value with
  | case1 => cases read
  | case2 tail closed =>
    cases (readQuoted_end closed).symm.trans read
    simp
  | case3 tail unclosed =>
    rw [readQuoted_cons, if_pos rfl, if_neg unclosed] at read
    cases read
  | case4 c other escape =>
    rw [readQuoted_cons, if_neg other, if_pos escape] at read
    cases read
  | case5 c other escape escaped tail ih =>
    rw [readQuoted_cons, if_neg other, if_pos escape] at read
    obtain ⟨rest, inner, rfl⟩ := Json.map_eq_ok.mp read
    refine List.forall_mem_cons.mpr ⟨(unescape_source escaped).imp_left fun same => by simp [same], fun d member => ?_⟩
    exact (ih inner d member).imp_left fun inside => List.mem_cons_of_mem _ (List.mem_cons_of_mem _ inside)
  | case6 c tail other plain ih =>
    rw [readQuoted_cons, if_neg other, if_neg plain] at read
    obtain ⟨rest, inner, rfl⟩ := Json.map_eq_ok.mp read
    refine List.forall_mem_cons.mpr ⟨.inl List.mem_cons_self, fun d member => ?_⟩
    exact (ih inner d member).imp_left (List.mem_cons_of_mem _)

/-- A value has only characters of its line, and those that an escape stands for. -/
theorem readValue_source (read : readValue cs = .ok value) : ∀ c ∈ value, c ∈ cs ∨ c ∈ ['\n', '\r', '\t'] := by
  intro d member
  have trimmed := trimChars_subset cs
  rw [readValue] at read
  split at read
  · cases read
    cases member
  · rename_i c rest begins
    rw [begins] at trimmed
    have quoted : ∀ {quote}, readQuoted quote rest = .ok value → d ∈ cs ∨ d ∈ ['\n', '\r', '\t'] := fun inner =>
      (readQuoted_source inner d member).imp_left fun inside => trimmed (List.mem_cons_of_mem c inside)
    split_ifs at read
    · exact quoted read
    · exact quoted read
    · cases read
      exact .inl (trimmed ((List.takeWhile_sublist _).subset (dropBlanksEnd_subset _ member)))

theorem dropExport_subset (cs : List Char) : dropExport cs ⊆ cs := by
  unfold dropExport
  split
  · rename_i rest found
    rw [after?_eq_some_iff.mp found]
    exact List.Subset.trans (dropBlanks_subset rest) (List.subset_append_right ..)
  · exact List.Subset.refl cs

theorem readAssignment_eq_ok (read : readAssignment cs = .ok a) : ∃ name value, dropExport cs = name ++ '=' :: value ∧
    '=' ∉ name ∧ trimChars name = a.1.toList ∧ a.1.toList ≠ [] ∧ readValue value = .ok a.2.toList := by
  rw [readAssignment] at read
  split at read
  · cases read
  · rename_i name value cut
    obtain ⟨c, splits, here, absent⟩ := exists_of_cutAt cut
    cases eq_of_beq here
    dsimp only at read
    split_ifs at read with empty blank
    obtain ⟨_, inner, rfl⟩ := Json.map_eq_ok.mp read
    refine ⟨name, value, splits, fun inside => ?_, String.toList_ofList.symm, ?_, ?_⟩
    · cases (beq_self_eq_true '=').symm.trans (absent '=' inside)
    · simpa using empty
    · simpa using inner

theorem readAssignmentLine_eq_some (read : readAssignmentLine line = .ok (some a)) :
    readAssignment (trimChars line) = .ok a := by
  rw [readAssignmentLine] at read
  split at read
  · cases read
  · cases read
  · obtain ⟨_, inner, same⟩ := Json.map_eq_ok.mp read
    cases same
    exact inner

/-- An assignment that a system can make: it takes no name that is empty or contains an equals sign, and no zero. -/
structure Assignment.Allowed (a : Assignment) : Prop where
  nonempty : a.1.toList ≠ []
  noEquals : '=' ∉ a.1.toList
  noZero : '\x00' ∉ a.1.toList ∧ '\x00' ∉ a.2.toList

/-- What a line assigns can be assigned, unless there is a zero on the line. -/
theorem allowed_of_read (read : readAssignmentLine line = .ok (some a)) (noZero : '\x00' ∉ line) : a.Allowed := by
  obtain ⟨name, value, splits, noEquals, named, nonempty, valued⟩ :=
    readAssignment_eq_ok (readAssignmentLine_eq_some read)
  have parts : name ++ '=' :: value ⊆ line :=
    splits ▸ List.Subset.trans (dropExport_subset (trimChars line)) (trimChars_subset line)
  have inName : a.1.toList ⊆ name := named ▸ trimChars_subset name
  refine ⟨nonempty, fun inside => noEquals (inName inside), fun inside => ?_, fun inside => ?_⟩
  · exact noZero (parts (List.mem_append_left _ (inName inside)))
  · rcases readValue_source valued '\x00' inside with there | special
    · exact noZero (parts (List.mem_append_right _ (List.mem_cons_of_mem _ there)))
    · exact absurd special (by decide)

end Sources

/-- A line that says an assignment is read as that assignment. -/
theorem assignment_of_written {a : Assignment} {line : List Char} (written : a.Written line) :
    readAssignmentLine line = .ok (some a) := by
  obtain @⟨name, value, front, exported, gap, written, remark, named, blanks, exports, blanks', spelled, behind⟩ :=
    written
  have start : dropBlanks (front ++ exported ++ name.toList) = exported ++ name.toList := by
    rw [List.append_assoc, dropBlanks_pad blanks]
    exact dropBlanks_first fun c rest begins => (named.first exports begins).1
  have trimmed : trimChars (front ++ exported ++ name.toList ++ '=' :: (gap ++ written ++ remark)) =
      exported ++ name.toList ++ '=' :: dropBlanksEnd (gap ++ written ++ remark) := by
    rw [trimChars_visible (by decide), start]
  have head : (exported ++ name.toList ++ '=' :: dropBlanksEnd (gap ++ written ++ remark)).head? ≠ some '#' := by
    have nonempty : exported ++ name.toList ≠ [] := List.append_ne_nil_of_right_ne_nil _ named.nonempty
    obtain ⟨c, rest, begins⟩ := List.exists_cons_of_ne_nil nonempty
    rw [begins]
    exact fun same => (named.first exports begins).2 (Option.some.inj same)
  rw [readAssignmentLine_of_head (by rw [trimmed]; simp) (by rwa [trimmed]), trimmed,
    named.readAssignment (named.dropExport exports), readValue_dropBlanksEnd, spelled.read blanks' behind]
  simp only [Except.map, String.ofList_toList]

/-- A value with a number sign and with characters that are escaped, in front of a comment. -/
theorem assignment_of_written_sample :
    Assignment.Written ("SECRET", "a#\"b\\\n") "  export SECRET= \"a#\\\"b\\\\\\n\" # new".toList ∧
      readAssignmentLine "  export SECRET= \"a#\\\"b\\\\\\n\" # new".toList =
        .ok (some ("SECRET", "a#\"b\\\n")) := by
  have one : ∀ c ∈ " ".toList, isBlank c = true := List.all_eq_true.mp (by decide)
  have two : ∀ c ∈ "  ".toList, isBlank c = true := List.all_eq_true.mp (by decide)
  have visible : ∀ c ∈ "SECRET".toList, (!isBlank c) = true := List.all_eq_true.mp (by decide)
  have named : IsVariable "SECRET".toList :=
    ⟨by decide, fun c member => by simpa using visible c member, by decide, by decide⟩
  have written : Assignment.Written ("SECRET", "a#\"b\\\n") "  export SECRET= \"a#\\\"b\\\\\\n\" # new".toList :=
    @Assignment.Written.intro "SECRET" "a#\"b\\\n" "  ".toList "export ".toList " ".toList _ " # new".toList named
      two (.inr rfl) one (.double "a#\"b\\\n".toList) (.comment one " new".toList)
  exact ⟨written, assignment_of_written written⟩

end VehicleLink
