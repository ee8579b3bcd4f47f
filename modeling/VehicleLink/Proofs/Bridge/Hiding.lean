import VehicleLink.Bridge.Fingerprint
import VehicleLink.Proofs.Json.Mentions

namespace VehicleLink

/-- The number of a vehicle: seventeen capital letters and digits. -/
def IsVehicleNumber (vin : String) : Prop :=
  vin.toList.length = 17 ∧ ∀ c ∈ vin.toList, isMark c = true

instance (vin : String) : Decidable (IsVehicleNumber vin) :=
  decidable_of_iff (vin.toList.length = 17 ∧ vin.toList.all isMark = true)
    (and_congr_right fun _ => List.all_eq_true)

/-- A word of capital letters and digits is replaced on both sides of any other character. -/
theorem Plain.replaceChars_append_cons {word new : List Char} (plain : Plain word) {c : Char}
    (other : isMark c = false) (front back : List Char) : Text.replaceChars word new (front ++ c :: back) =
      Text.replaceChars word new front ++ c :: Text.replaceChars word new back :=
  Text.replaceChars_append_cons plain.some (plain.outside other)

namespace IsVehicleNumber

variable {vin : String} {cs : List Char}

theorem plain (proper : IsVehicleNumber vin) : Plain vin.toList where
  some := by
    intro empty
    rw [IsVehicleNumber, empty] at proper
    cases proper.1
  marks := proper.2

/-- The number is not in a text that has too few capital letters and digits. -/
theorem not_infix (proper : IsVehicleNumber vin) (few : cs.countP isMark < 17) : ¬vin.toList <:+: cs :=
  proper.plain.not_infix (proper.1.symm ▸ few)

end IsVehicleNumber

/-- A text as it is written between quotes. -/
def escapedText (s : String) : String := String.ofList (s.toList.flatMap Json.escapeChar)

namespace Bridge

variable {b : Bridge}

theorem hideNumber_toList (some : b.vin.toList ≠ []) (raw : String) :
    (b.hideNumber raw).toList = Text.replaceChars b.vin.toList anonymous.toList raw.toList := by
  have set : b.vin.isEmpty = false := by
    rw [← Bool.not_eq_true, String.isEmpty_iff, ← String.toList_eq_nil_iff]
    exact some
  simp [hideNumber, set, Text.replaceAll]

/-- A text is either left as it is, or shows that something has been hidden in it. -/
theorem hideNumber_cases (b : Bridge) (raw : String) :
    b.hideNumber raw = raw ∨ anonymous.toList <:+: (b.hideNumber raw).toList := by
  by_cases some : b.vin.toList = []
  · left
    simp [hideNumber, String.toList_eq_nil_iff.mp some]
  · by_cases occurs : b.vin.toList <:+: raw.toList
    · right
      rw [hideNumber_toList some]
      exact Text.infix_replaceChars some occurs
    · left
      rw [← String.toList_inj, hideNumber_toList some, Text.replaceChars_of_not_infix some occurs]

section Number

variable (proper : IsVehicleNumber b.vin)

include proper

/-- After it has been hidden in a text, the number is not there any more. -/
theorem not_infix_hideNumber (raw : String) : ¬b.vin.toList <:+: (b.hideNumber raw).toList := by
  rw [hideNumber_toList proper.plain.some]
  refine Text.not_infix_replaceChars proper.plain.some (by decide) (fun c member => ?_) raw.toList
  have mark := proper.plain.marks c member
  have small : (anonymous.toList.all fun d => !isMark d) = true := by decide
  intro inside
  have other := List.all_eq_true.mp small c inside
  rw [mark] at other
  cases other

theorem hideNumber_of_few {raw : String} (few : raw.toList.countP isMark < 17) : b.hideNumber raw = raw := by
  rw [← String.toList_inj, hideNumber_toList proper.plain.some,
    Text.replaceChars_of_not_infix proper.plain.some (proper.not_infix few)]

end Number

/-- The section of a document has what is shown of the text that is kept for it, and only that. -/
theorem sectionText_eq (b : Bridge) (e : Endpoint) :
    b.sectionText e = ((b.answers e).map (b.maskAnswer e)).elim ["### " ++ sectionTitle e ++ " Empty ###"]
      fun shown => ["### " ++ sectionTitle e ++ " ###", shown] := by
  rw [sectionText]
  cases b.answers e <;> rfl

/-- What is masked of an answer depends on the number of the vehicle only. -/
theorem maskAnswer_of_vin {b b' : Bridge} (same : b.vin = b'.vin) : b.maskAnswer = b'.maskAnswer := by
  have hide : b.hideNumber = b'.hideNumber := by
    funext raw
    rw [hideNumber, same, hideNumber]
  funext e raw
  cases e with
  | status => simp only [maskAnswer, maskStatus, hide]
  | destinations => simp only [maskAnswer, maskDestinations, hide]
  | chargeProfile | lastTrip | allTrips => simp only [maskAnswer, hide]

/-- The lines of a document's section stand in the fingerprint. -/
theorem fingerprint_split {e : Endpoint} (part : e ∈ b.sections) :
    ∃ front back, b.fingerprint = "\n".intercalate (front ++ b.sectionText e ++ back) := by
  obtain ⟨before, behind, split⟩ := List.append_of_mem part
  refine ⟨fingerprintFrame "BEGIN" :: before.flatMap b.sectionText,
    behind.flatMap b.sectionText ++ [fingerprintFrame "END"], ?_⟩
  rw [fingerprint, split]
  simp

/-- A word without a line feed stands in one of the lines of a text. -/
theorem infix_intercalate_iff {word : List Char} (some : word ≠ []) (feed : '\n' ∉ word) (lines : List String) :
    word <:+: ("\n".intercalate lines).toList ↔ ∃ line ∈ lines, word <:+: line.toList := by
  rw [String.toList_intercalate, show "\n".toList = ['\n'] from rfl]
  induction lines with
  | nil => simp [some]
  | cons line rest ih =>
    cases rest with
    | nil => simp
    | cons next rest =>
      rw [List.map_cons, List.map_cons, List.intercalate_cons_cons, List.append_assoc, List.singleton_append,
        Text.infix_append_cons feed, List.exists_mem_cons_iff]
      exact or_congr_right ih

/-- The number is not in the lines around the answers. -/
theorem infix_sectionText_iff (proper : IsVehicleNumber b.vin) (e : Endpoint) :
    (∃ line ∈ b.sectionText e, b.vin.toList <:+: line.toList) ↔
      ∃ raw, b.answers e = some raw ∧ b.vin.toList <:+: (b.maskAnswer e raw).toList := by
  have title : ¬b.vin.toList <:+: ("### " ++ sectionTitle e ++ " ###").toList :=
    proper.not_infix (by cases e <;> decide)
  have noAnswer : ¬b.vin.toList <:+: ("### " ++ sectionTitle e ++ " Empty ###").toList :=
    proper.not_infix (by cases e <;> decide)
  rw [sectionText]
  cases b.answers e with
  | none => simpa using noAnswer
  | some raw =>
    constructor
    · rintro ⟨line, member, occurs⟩
      rcases List.mem_cons.mp member with rfl | member
      · exact absurd occurs title
      · exact ⟨raw, rfl, List.mem_singleton.mp member ▸ occurs⟩
    · rintro ⟨_, ⟨⟩, occurs⟩
      exact ⟨_, List.mem_cons_of_mem _ List.mem_cons_self, occurs⟩

/-- The number is in a fingerprint exactly if it is in what is shown of one of the answers. -/
theorem infix_fingerprint_iff (proper : IsVehicleNumber b.vin) :
    b.vin.toList <:+: b.fingerprint.toList ↔
      ∃ e ∈ b.sections, ∃ raw, b.answers e = some raw ∧ b.vin.toList <:+: (b.maskAnswer e raw).toList := by
  have first : ¬b.vin.toList <:+: (fingerprintFrame "BEGIN").toList := proper.not_infix (by decide)
  have last : ¬b.vin.toList <:+: (fingerprintFrame "END").toList := proper.not_infix (by decide)
  rw [fingerprint, infix_intercalate_iff proper.plain.some (proper.plain.outside rfl)]
  constructor
  · rintro ⟨line, member, occurs⟩
    rcases List.mem_append.mp member with member | final
    · rcases List.mem_cons.mp member with rfl | member
      · exact absurd occurs first
      · obtain ⟨e, part, inside⟩ := List.mem_flatMap.mp member
        exact ⟨e, part, (infix_sectionText_iff proper e).mp ⟨line, inside, occurs⟩⟩
    · exact absurd (List.mem_singleton.mp final ▸ occurs) last
  · rintro ⟨e, part, shown⟩
    obtain ⟨line, inside, occurs⟩ := (infix_sectionText_iff proper e).mpr shown
    refine ⟨line, List.mem_append_left _ (List.mem_cons_of_mem _ ?_), occurs⟩
    exact List.mem_flatMap.mpr ⟨e, part, inside⟩

end Bridge

end VehicleLink
