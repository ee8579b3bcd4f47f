import Mathlib
import VehicleLink.Text.LetterCase
import VehicleLink.Proofs.Text.Lines

namespace VehicleLink.Text

/-- Texts that differ in the case of ASCII letters at most are the same in upper case. -/
theorem sameAscii_iff {s t : String} : sameAscii s t = true ↔ upperAscii s = upperAscii t := by
  have lower (s : String) : s.toList.map Char.toLower = (upperAscii s).toList.map Char.toLower := by
    rw [upperAscii, String.toList_map, List.map_map]
    exact List.map_congr_left fun c _ => (Char.toLower_toUpper_eq_toLower c).symm
  have upper (s : String) : (upperAscii s).toList = (s.toList.map Char.toLower).map Char.toUpper := by
    rw [upperAscii, String.toList_map, List.map_map]
    exact List.map_congr_left fun c _ => (Char.toUpper_toLower_eq_toUpper c).symm
  rw [sameAscii, beq_iff_eq]
  constructor
  · intro same
    rw [← String.toList_inj, upper, upper, same]
  · intro same
    rw [lower s, lower t, same]

/-- The characters that divide the words of a name. -/
def divides (c : Char) : Bool := c = '_' ∨ c = ' '

/-- How a character is shown behind another one. -/
def titledChar (before c : Char) : Char :=
  if divides c then ' ' else if divides before then c.toUpper else c.toLower

/-- How characters are shown behind another one, each at its place. -/
def titledAfter (before : Char) (cs : List Char) : List Char := List.zipWith titledChar (before :: cs) cs

/-- A name with underscores for spaces. -/
def underscored (s : String) : String := s.map fun c => if c = ' ' then '_' else c

/-- A name of ASCII characters. -/
def IsAscii (s : String) : Prop := ∀ c ∈ s.toList, c.toNat < 0x80

/-- A name as it stands for a constant. -/
def IsConstantName (s : String) : Prop := ∀ c ∈ s.toList, c.isUpper = true ∨ c.isDigit = true ∨ c = '_'

instance (s : String) : Decidable (IsAscii s) := List.decidableBAll (fun c : Char => c.toNat < 0x80) s.toList

instance (s : String) : Decidable (IsConstantName s) :=
  List.decidableBAll (fun c : Char => c.isUpper = true ∨ c.isDigit = true ∨ c = '_') s.toList

/-- A word starts at the beginning and behind what divides words. -/
def WordStart (cs : List Char) (i : Nat) : Prop := i = 0 ∨ ∃ d, cs[i - 1]? = some d ∧ divides d = true

/-- What is shown for a name: as many characters, spaces where the name divides words, and each word with its first
character in upper case and the others in lower case. -/
structure Titled (name shown : List Char) : Prop where
  length : shown.length = name.length
  space {i : Nat} {c : Char} (here : name[i]? = some c) : shown[i]? = some ' ' ↔ divides c = true
  first {i : Nat} {c : Char} (here : name[i]? = some c) (visible : divides c = false) (start : WordStart name i) :
    shown[i]? = some c.toUpper
  later {i : Nat} {c : Char} (here : name[i]? = some c) (visible : divides c = false) (inside : ¬WordStart name i) :
    shown[i]? = some c.toLower

section Characters

variable {before c d : Char}

theorem divides_of_isAlpha (letter : c.isAlpha = true) : divides c = false := by
  refine decide_eq_false fun divider => ?_
  rcases divider with rfl | rfl <;> cases letter

theorem divides_toUpper (c : Char) : divides c.toUpper = divides c := by
  by_cases lower : c.isLower = true
  · have letter : c.isAlpha = true := by rw [Char.isAlpha, lower, Bool.or_true]
    rw [divides_of_isAlpha letter, divides_of_isAlpha (by rwa [Char.isAlpha_toUpper_eq_isAlpha])]
  · rw [Char.toUpper_eq_of_not_isLower lower]

theorem divides_toLower (c : Char) : divides c.toLower = divides c := by
  rw [← divides_toUpper, Char.toUpper_toLower_eq_toUpper, divides_toUpper]

/-- Spaces are shown where a name is divided, and nowhere else. -/
theorem divides_titledChar (before c : Char) : divides (titledChar before c) = divides c := by
  rw [titledChar]
  split_ifs with divider start
  · exact divider.symm
  · exact divides_toUpper c
  · exact divides_toLower c

theorem titledChar_of_divides (divider : divides c = true) : titledChar before c = ' ' := if_pos divider

/-- Behind a divider a character is shown in upper case. -/
theorem titledChar_start (start : divides before = true) (visible : divides c = false) :
    titledChar before c = c.toUpper := by
  rw [titledChar, visible, if_neg (by decide), if_pos start]

/-- Inside a word a character is shown in lower case. -/
theorem titledChar_inside (inside : divides before = false) (visible : divides c = false) :
    titledChar before c = c.toLower := by
  rw [titledChar, visible, if_neg (by decide), inside, if_neg (by decide)]

/-- A character in the form that is kept: in upper case, with an underscore for a space. -/
def plainChar (c : Char) : Char := if c.toUpper = ' ' then '_' else c.toUpper

theorem plainChar_of_divides (divider : divides c = true) : plainChar c = '_' := by
  rcases of_decide_eq_true divider with rfl | rfl <;> rfl

theorem plainChar_of_visible (visible : divides c = false) : plainChar c = c.toUpper := by
  refine if_neg fun space => ?_
  rw [← divides_toUpper, space] at visible
  cases visible

theorem divides_plainChar (c : Char) : divides (plainChar c) = divides c := by
  cases kind : divides c with
  | true => rw [plainChar_of_divides kind]; rfl
  | false => rw [plainChar_of_visible kind, divides_toUpper, kind]

/-- What is shown of a character and what is kept of it say the same about it. -/
theorem plainChar_titledChar (before c : Char) : plainChar (titledChar before c) = plainChar c := by
  cases kind : divides c with
  | true => rw [titledChar_of_divides kind, plainChar_of_divides kind]; rfl
  | false =>
    have visible : divides (titledChar before c) = false := by rw [divides_titledChar, kind]
    rw [plainChar_of_visible kind, plainChar_of_visible visible, titledChar, kind, if_neg (by decide)]
    split
    · exact Char.toUpper_toUpper_eq_toUpper c
    · exact Char.toUpper_toLower_eq_toUpper c

/-- How a character is shown depends on its plain form, and on whether the one before it divides. -/
theorem titledChar_congr (before' : divides before = divides d) {c' : Char} (same : plainChar c = plainChar c') :
    titledChar before c = titledChar d c' := by
  have kind : divides c = divides c' := by rw [← divides_plainChar, same, divides_plainChar]
  cases visible : divides c with
  | true => rw [titledChar_of_divides visible, titledChar_of_divides (kind ▸ visible)]
  | false =>
    have upper : c.toUpper = c'.toUpper := by
      rwa [plainChar_of_visible visible, plainChar_of_visible (kind ▸ visible)] at same
    have lower : c.toLower = c'.toLower := by
      rw [← Char.toLower_toUpper_eq_toLower, upper, Char.toLower_toUpper_eq_toLower]
    rw [titledChar, titledChar, ← kind, ← before', upper, lower]

end Characters

section Places

variable {before d : Char} {cs ds : List Char}

@[simp] theorem titledAfter_nil (before : Char) : titledAfter before [] = [] := rfl

@[simp] theorem titledAfter_cons (before c : Char) (cs : List Char) :
    titledAfter before (c :: cs) = titledChar before c :: titledAfter c cs := rfl

theorem titledAfter_congr (before' : divides before = divides d) (same : cs.map plainChar = ds.map plainChar) :
    titledAfter before cs = titledAfter d ds := by
  induction cs generalizing before d ds with
  | nil => rw [List.map_eq_nil_iff.mp same.symm]; rfl
  | cons c cs ih =>
    cases ds with
    | nil => cases same
    | cons c' ds =>
      obtain ⟨first, later⟩ := List.cons.inj same
      have kind : divides c = divides c' := by rw [← divides_plainChar, first, divides_plainChar]
      rw [titledAfter_cons, titledAfter_cons, titledChar_congr before' first, ih kind later]

/-- What is shown of a name has the same plain form, character by character. -/
theorem map_plainChar_titledAfter (before : Char) (cs : List Char) :
    (titledAfter before cs).map plainChar = cs.map plainChar := by
  induction cs generalizing before with
  | nil => rfl
  | cons c cs ih => rw [titledAfter_cons, List.map_cons, plainChar_titledChar, ih, List.map_cons]

theorem length_titledAfter (before : Char) (cs : List Char) : (titledAfter before cs).length = cs.length := by
  simp [titledAfter]

/-- Every character stands at its own place, shown behind the one before it. -/
theorem titledAfter_getElem? {i : Nat} {c : Char} (here : cs[i]? = some c) :
    ∃ d, (before :: cs)[i]? = some d ∧ (titledAfter before cs)[i]? = some (titledChar d c) := by
  obtain ⟨inside, _⟩ := List.getElem?_eq_some_iff.mp here
  have some : i < (before :: cs).length := Nat.lt_succ_of_lt inside
  refine ⟨(before :: cs)[i], List.getElem?_eq_getElem some, ?_⟩
  exact List.getElem?_zipWith_eq_some.mpr ⟨_, _, List.getElem?_eq_getElem some, here, rfl⟩

/-- Behind a space, words start where they start in the name. -/
theorem wordStart_iff {i : Nat} (there : (' ' :: cs)[i]? = some d) : WordStart cs i ↔ divides d = true := by
  cases i with
  | zero =>
    cases there
    exact iff_of_true (.inl rfl) rfl
  | succ i =>
    have here : cs[i]? = some d := there
    simp [WordStart, here]

/-- Characters that are shown one by one, each behind the one before it, make up a title. -/
theorem titled_titledAfter (cs : List Char) : Titled cs (titledAfter ' ' cs) where
  length := length_titledAfter ' ' cs
  space {i c} here := by
    obtain ⟨d, _, shown⟩ := titledAfter_getElem? here
    rw [shown, Option.some_inj, ← divides_titledChar d c]
    constructor
    · intro space
      rw [space]
      rfl
    · intro divider
      rw [divides_titledChar] at divider
      exact titledChar_of_divides divider
  first {i c} here visible start := by
    obtain ⟨d, there, shown⟩ := titledAfter_getElem? here
    rw [shown, titledChar_start ((wordStart_iff there).mp start) visible]
  later {i c} here visible inside := by
    obtain ⟨d, there, shown⟩ := titledAfter_getElem? here
    rw [shown, titledChar_inside (Bool.eq_false_iff.mpr fun start => inside ((wordStart_iff there).mpr start)) visible]

theorem titledAfter_divided (divider : divides d = true) (cs : List Char) :
    titledAfter d cs = titledAfter ' ' cs := titledAfter_congr divider rfl

/-- The words are shown as they are in their places, whatever is before the first one. -/
theorem intercalate_titledAfter (before : Char) {part : List Char} {parts : List (List Char)}
    (split : splitAll divides cs = part :: parts) :
    [' '].intercalate (titledAfter before part :: parts.map (titledAfter ' ')) = titledAfter before cs := by
  induction cs generalizing before part parts with
  | nil =>
    cases split
    rfl
  | cons c cs ih =>
    cases kind : divides c with
    | true =>
      obtain ⟨rfl, rfl⟩ := List.cons.inj ((splitAll_cons_here kind cs).symm.trans split)
      obtain ⟨next, others, more⟩ := List.exists_cons_of_ne_nil (splitAll_ne_nil divides cs)
      rw [more, List.map_cons, titledAfter_nil, List.intercalate_cons_cons, ih ' ' more, titledAfter_cons,
        titledChar_of_divides kind, titledAfter_divided kind]
      rfl
    | false =>
      obtain ⟨next, others, more, whole⟩ := splitAll_cons_other kind cs
      obtain ⟨rfl, rfl⟩ := List.cons.inj (whole.symm.trans split)
      have rest := ih c more
      rw [titledAfter_cons, titledAfter_cons, ← rest]
      cases others <;> rfl

end Places

section Ascii

variable {c : Char} {cs word : List Char} {s t : String}

theorem ascii_of_isAlpha (letter : c.isAlpha = true) : c.toNat < 0x80 := by
  simp only [Char.isAlpha, Char.isUpper, Char.isLower, Bool.or_eq_true, Bool.and_eq_true, decide_eq_true_eq,
    UInt32.le_iff_toNat_le, ge_iff_le] at letter
  have upper : 'Z'.val.toNat = 90 := rfl
  have lower : 'z'.val.toNat = 122 := rfl
  have number : c.toNat = c.val.toNat := rfl
  omega

theorem ascii_toUpper (ascii : c.toNat < 0x80) : c.toUpper.toNat < 0x80 := by
  by_cases letter : c.isAlpha = true
  · exact ascii_of_isAlpha (by rwa [Char.isAlpha_toUpper_eq_isAlpha])
  · have lower : ¬c.isLower = true := fun lower => letter (by rw [Char.isAlpha, lower, Bool.or_true])
    rwa [Char.toUpper_eq_of_not_isLower lower]

theorem ascii_toLower (ascii : c.toNat < 0x80) : c.toLower.toNat < 0x80 := by
  by_cases letter : c.isAlpha = true
  · exact ascii_of_isAlpha (by rwa [Char.isAlpha_toLower_eq_isAlpha])
  · have upper : ¬c.isUpper = true := fun upper => letter (by rw [Char.isAlpha, upper, Bool.true_or])
    rwa [Char.toLower_eq_of_not_isUpper upper]

/-- Of an ASCII name nothing but ASCII characters are shown. -/
theorem ascii_titledAfter {before : Char} (ascii : ∀ c ∈ cs, c.toNat < 0x80) :
    ∀ c ∈ titledAfter before cs, c.toNat < 0x80 := by
  induction cs generalizing before with
  | nil => simp
  | cons c cs ih =>
    obtain ⟨first, later⟩ := List.forall_mem_cons.mp ascii
    refine List.forall_mem_cons.mpr ⟨?_, ih later⟩
    rw [titledChar]
    split_ifs
    · decide
    · exact ascii_toUpper first
    · exact ascii_toLower first

theorem lowerChar_ascii (ascii : c.toNat < 0x80) : lowerChar c = [c.toLower] := if_pos ascii

theorem upperChar_ascii (ascii : c.toNat < 0x80) : upperChar c = [c.toUpper] := if_pos ascii

/-- In an ASCII word a letter has one lower case, wherever it stands. -/
theorem lowerFrom_ascii (before : List Char) (ascii : ∀ c ∈ cs, c.toNat < 0x80) :
    lowerFrom before cs = cs.map Char.toLower := by
  induction cs generalizing before with
  | nil => rfl
  | cons c cs ih =>
    obtain ⟨first, later⟩ := List.forall_mem_cons.mp ascii
    have other : c ≠ 'Σ' := by
      rintro rfl
      exact absurd first (by decide)
    rw [lowerFrom, ih (c :: before) later, if_neg other, lowerChar_ascii first]
    rfl

theorem titledAfter_word {before : Char} (letter : divides before = false) (visible : ∀ c ∈ word, divides c = false) :
    titledAfter before word = word.map Char.toLower := by
  induction word generalizing before with
  | nil => rfl
  | cons c word ih =>
    obtain ⟨first, later⟩ := List.forall_mem_cons.mp visible
    rw [titledAfter_cons, titledChar_inside letter first, ih first later, List.map_cons]

/-- A word is shown with its first character in upper case and the others in lower case. -/
theorem titleWord_ascii (ascii : ∀ c ∈ word, c.toNat < 0x80) (visible : ∀ c ∈ word, divides c = false) :
    titleWord word = titledAfter ' ' word := by
  cases word with
  | nil => rfl
  | cons c word =>
    obtain ⟨first, later⟩ := List.forall_mem_cons.mp visible
    have small : c.toLower.toNat < 0x80 := ascii_toLower (ascii c List.mem_cons_self)
    rw [titleWord, lowerChars, lowerFrom_ascii [] ascii, List.map_cons]
    dsimp only
    rw [upperChar_ascii small, Char.toUpper_toLower_eq_toUpper, titledAfter_cons, titledChar_start rfl first,
      titledAfter_word first later]
    rfl

/-- What is shown for an ASCII name can be told character by character. -/
theorem titleCase_eq (ascii : IsAscii s) : titleCase s = String.ofList (titledAfter ' ' s.toList) := by
  have words : (splitAll divides s.toList).map titleWord = (splitAll divides s.toList).map (titledAfter ' ') := by
    refine List.map_congr_left fun word member => ?_
    have inside := of_mem_splitAll member
    exact titleWord_ascii (fun c here => ascii c (inside c here).1) fun c here => (inside c here).2
  obtain ⟨part, parts, split⟩ := List.exists_cons_of_ne_nil (splitAll_ne_nil divides s.toList)
  have shown := congrArg String.ofList (intercalate_titledAfter ' ' split)
  rw [← List.map_cons, ← split, ← words] at shown
  exact shown

theorem isAscii_titleCase (ascii : IsAscii s) : IsAscii (titleCase s) := by
  rw [titleCase_eq ascii, IsAscii, String.toList_ofList]
  exact ascii_titledAfter ascii

theorem toList_underscored_upperAscii (s : String) : (underscored (upperAscii s)).toList = s.toList.map plainChar := by
  rw [underscored, upperAscii, String.toList_map, String.toList_map, List.map_map]
  rfl

/-- Names are shown alike exactly if they differ in letter case and in the kind of their dividers at most. -/
theorem titleCase_eq_iff (ascii : IsAscii s) (ascii' : IsAscii t) :
    titleCase s = titleCase t ↔ underscored (upperAscii s) = underscored (upperAscii t) := by
  rw [titleCase_eq ascii, titleCase_eq ascii', String.ofList_inj, ← String.toList_inj, toList_underscored_upperAscii,
    toList_underscored_upperAscii]
  constructor
  · intro same
    rw [← map_plainChar_titledAfter ' ', same, map_plainChar_titledAfter]
  · exact titledAfter_congr rfl

/-- What is shown for a name differs from it in the letter case and in the kind of the dividers only. -/
theorem underscored_titleCase (ascii : IsAscii s) :
    underscored (upperAscii (titleCase s)) = underscored (upperAscii s) := by
  rw [← String.toList_inj, toList_underscored_upperAscii, toList_underscored_upperAscii, titleCase_eq ascii,
    String.toList_ofList, map_plainChar_titledAfter]

/-- What is shown for a name is shown as it is. -/
theorem titleCase_titleCase (ascii : IsAscii s) : titleCase (titleCase s) = titleCase s :=
  (titleCase_eq_iff (isAscii_titleCase ascii) ascii).mpr (underscored_titleCase ascii)

theorem IsConstantName.isAscii (named : IsConstantName s) : IsAscii s := by
  intro c member
  rcases named c member with upper | digit | rfl
  · exact ascii_of_isAlpha (by rw [Char.isAlpha, upper, Bool.true_or])
  · have range : c.toNat ≤ '9'.toNat := (Char.isDigit_iff_toNat.mp digit).2
    exact Nat.lt_of_le_of_lt range (by decide)
  · decide

theorem plainChar_of_isUpper (upper : c.isUpper = true) : plainChar c = c := by
  have letter : c.isAlpha = true := by rw [Char.isAlpha, upper, Bool.true_or]
  rw [plainChar_of_visible (divides_of_isAlpha letter),
    Char.toUpper_eq_of_not_isLower (Char.not_isLower_of_isUpper upper)]

theorem plainChar_of_isDigit (digit : c.isDigit = true) : plainChar c = c := by
  have visible : divides c = false := by
    refine decide_eq_false fun divider => ?_
    rcases divider with rfl | rfl <;> cases digit
  have lower : ¬c.isLower = true := by
    obtain ⟨_, last⟩ := Char.isDigit_iff_toNat.mp digit
    simp only [Char.isLower, Bool.and_eq_true, decide_eq_true_eq, UInt32.le_iff_toNat_le, ge_iff_le]
    have nine : '9'.toNat = 57 := rfl
    have first : 'a'.val.toNat = 97 := rfl
    have number : c.toNat = c.val.toNat := rfl
    omega
  rw [plainChar_of_visible visible, Char.toUpper_eq_of_not_isLower lower]

/-- A constant has the form that is kept, so it can be found again by what is shown for it. -/
theorem IsConstantName.underscored_upperAscii (named : IsConstantName s) : underscored (upperAscii s) = s := by
  have kept : ∀ c ∈ s.toList, plainChar c = c := by
    intro c member
    rcases named c member with upper | digit | rfl
    · exact plainChar_of_isUpper upper
    · exact plainChar_of_isDigit digit
    · rfl
  rw [← String.toList_inj, toList_underscored_upperAscii, List.map_congr_left kept, List.map_id']

/-- What is shown for an ASCII name, and what is kept of it: all but the letter case and the kind of the dividers. So
no two constants are shown alike. -/
theorem titleCase_ascii :
    (∀ s, IsAscii s → Titled s.toList (titleCase s).toList ∧ titleCase (titleCase s) = titleCase s ∧
      underscored (upperAscii (titleCase s)) = underscored (upperAscii s)) ∧
    ∀ s t, IsConstantName s → IsConstantName t → titleCase s = titleCase t → s = t := by
  constructor
  · intro s ascii
    refine ⟨?_, titleCase_titleCase ascii, underscored_titleCase ascii⟩
    rw [titleCase_eq ascii, String.toList_ofList]
    exact titled_titledAfter s.toList
  · intro s t named named' same
    have kept := (titleCase_eq_iff named.isAscii named'.isAscii).mp same
    rwa [named.underscored_upperAscii, named'.underscored_upperAscii] at kept

/-- A name with dividers at both ends and side by side, with a word that begins with a digit, and two constants that
differ in a divider only. -/
theorem titleCase_ascii_sample :
    IsAscii "_DC 2nd__goal " ∧ titleCase "_DC 2nd__goal " = " Dc 2nd  Goal " ∧
      Titled "_DC 2nd__goal ".toList " Dc 2nd  Goal ".toList ∧ titleCase " Dc 2nd  Goal " = " Dc 2nd  Goal " ∧
      underscored (upperAscii " Dc 2nd  Goal ") = "_DC_2ND__GOAL_" ∧
      IsConstantName "AC_2" ∧ IsConstantName "AC__2" ∧ titleCase "AC_2" ≠ titleCase "AC__2" := by
  have ascii : IsAscii "_DC 2nd__goal " := by decide
  have value : titleCase "_DC 2nd__goal " = " Dc 2nd  Goal " := by decide +kernel
  have named : IsConstantName "AC_2" := by decide
  have named' : IsConstantName "AC__2" := by decide
  obtain ⟨shown, constants⟩ := titleCase_ascii
  obtain ⟨titled, again, kept⟩ := shown "_DC 2nd__goal " ascii
  rw [value] at titled again kept
  have plain : underscored (upperAscii "_DC 2nd__goal ") = "_DC_2ND__GOAL_" := by
    rw [← String.toList_inj, toList_underscored_upperAscii]
    rfl
  exact ⟨ascii, value, titled, again, kept.trans plain, named, named',
    fun same => absurd (constants _ _ named named' same) (by decide)⟩

end Ascii

end VehicleLink.Text
