import Mathlib.Order.MinMax
import VehicleLink.Vehicle.Opening

namespace VehicleLink

namespace OpenState

/-- How open a state is. Nothing is known to be less open than what is not known. -/
def rank : OpenState → Nat
  | .unknown => 0
  | .closed => 1
  | .intermediate => 2
  | .opened => 3

theorem rank_injective : Function.Injective rank := by
  intro a b same
  cases a <;> cases b <;> cases same <;> rfl

instance : LinearOrder OpenState := LinearOrder.lift' rank rank_injective

/-- The state that a part names, if it names one. -/
def said (report : Option String) : OpenState := (report.bind ofReport?).getD .unknown

/-- A part reports a word, in any letter case. -/
def Reports (parts : List PartReport) (word : String) : Prop :=
  ∃ name report, (name, some report) ∈ parts ∧ Text.sameAscii report word = true

/-- A report that tells nothing about the state: it is missing, the part is not there, or no state is named. -/
def IsSilent (report : Option String) : Prop :=
  ∀ text ∈ report, Text.sameAscii text "INVALID" = true ∨
    Text.sameAscii text "OPEN" = false ∧ Text.sameAscii text "INTERMEDIATE" = false ∧
      Text.sameAscii text "CLOSED" = false

variable {state bound : OpenState} {parts parts' : List PartReport} {report : Option String} {text : String}

theorem unknown_le (state : OpenState) : .unknown ≤ state := by
  cases state <;> decide

theorem le_opened (state : OpenState) : state ≤ .opened := by
  cases state <;> decide

theorem eq_opened_iff (state : OpenState) : state = .opened ↔ .opened ≤ state := by
  cases state <;> decide

theorem eq_intermediate_iff (state : OpenState) : state = .intermediate ↔ .intermediate ≤ state ∧ ¬.opened ≤ state := by
  cases state <;> decide

theorem eq_closed_iff (state : OpenState) : state = .closed ↔ .closed ≤ state ∧ ¬.intermediate ≤ state := by
  cases state <;> decide

theorem eq_unknown_iff (state : OpenState) : state = .unknown ↔ ¬.closed ≤ state := by
  cases state <;> decide

/-- Of the state so far and the one that a part names the more open one is kept. -/
theorem take_eq_max (state : OpenState) (report : Option String) : state.take report = max state (said report) := by
  unfold take said
  cases report.bind ofReport? with
  | none => cases state <;> decide
  | some named => cases named <;> cases state <;> decide

/-- A part that is open is not passed, but nothing is more open. -/
theorem overallFrom_lt_iff : overallFrom state parts < bound ↔ state < bound ∧ ∀ p ∈ parts, said p.2 < bound := by
  induction parts generalizing state with
  | nil => simp [overallFrom]
  | cons p parts ih =>
    obtain ⟨name, report⟩ := p
    have bounds : state.take report < bound ↔ state < bound ∧ said report < bound := by
      rw [take_eq_max, max_lt_iff]
    rw [List.forall_mem_cons, ← and_assoc, ← bounds, overallFrom]
    split
    · rename_i opened
      have never : ¬OpenState.opened < bound := (le_opened bound).not_gt
      rw [opened]
      exact ⟨fun less => absurd less never, And.left⟩
    · exact ih

/-- The state of parts together is the most open one that a part names. -/
theorem overall_lt_iff : overall parts < bound ↔ .unknown < bound ∧ ∀ p ∈ parts, said p.2 < bound := overallFrom_lt_iff

theorem said_some (text : String) : said (some text) =
    if Text.sameAscii text "OPEN" then .opened
    else if Text.sameAscii text "INTERMEDIATE" then .intermediate
    else if Text.sameAscii text "CLOSED" then .closed else .unknown := by
  simp only [said, Option.bind_some, ofReport?, List.find?, name]
  cases Text.sameAscii text "OPEN" <;> cases Text.sameAscii text "INTERMEDIATE" <;>
    cases Text.sameAscii text "CLOSED" <;> rfl

/-- A report that tells nothing counts as an unknown state. -/
theorem said_of_isSilent (silent : IsSilent report) : said report = .unknown := by
  cases report with
  | none => rfl
  | some text =>
    have nothing : Text.sameAscii text "OPEN" = false ∧ Text.sameAscii text "INTERMEDIATE" = false ∧
        Text.sameAscii text "CLOSED" = false := by
      rcases silent text rfl with absent | unnamed
      · have differs {word : String} (other : Text.sameAscii "INVALID" word = false) :
            Text.sameAscii text word = false :=
          Text.not_sameAscii_of_sameAscii absent other
        exact ⟨differs (by decide), differs (by decide), differs (by decide)⟩
      · exact unnamed
    obtain ⟨unopened, apart, unclosed⟩ := nothing
    simp [said_some, unopened, apart, unclosed]

theorem le_said (same : Text.sameAscii text state.name = true) : state ≤ said (some text) := by
  rw [said_some]
  cases state with
  | unknown => exact unknown_le _
  | closed =>
    have here : Text.sameAscii text "CLOSED" = true := same
    rw [if_pos here]
    split_ifs <;> decide
  | intermediate =>
    have here : Text.sameAscii text "INTERMEDIATE" = true := same
    rw [if_pos here]
    split_ifs <;> decide
  | opened =>
    have here : Text.sameAscii text "OPEN" = true := same
    rw [if_pos here]

/-- A state that is known was named by its word. -/
theorem sameAscii_said (known : .unknown < said (some text)) : Text.sameAscii text (said (some text)).name = true := by
  unfold said at known ⊢
  rw [Option.bind_some] at known ⊢
  cases named : ofReport? text with
  | none =>
    rw [named] at known
    exact absurd known (lt_irrefl _)
  | some state =>
    have found : Text.sameAscii text state.name = true :=
      List.find?_some (p := fun state : OpenState => Text.sameAscii text state.name) named
    exact found

/-- The state is at least so open exactly if some part reports a word for a state that is. -/
theorem le_overall_iff (known : .unknown < state) :
    state ≤ overall parts ↔ ∃ named, state ≤ named ∧ Reports parts named.name := by
  have attained : state ≤ overall parts ↔ ∃ p ∈ parts, state ≤ said p.2 := by
    rw [← not_lt, overall_lt_iff, and_iff_right known]
    simp only [not_forall, not_lt, exists_prop]
  rw [attained]
  constructor
  · rintro ⟨⟨name, report⟩, member, reached⟩
    cases report with
    | none => exact absurd known reached.not_gt
    | some text => exact ⟨said (some text), reached, name, text, member, sameAscii_said (known.trans_le reached)⟩
  · rintro ⟨named, reached, name, text, member, same⟩
    exact ⟨(name, some text), member, reached.trans (le_said same)⟩

theorem exists_state_iff {p : OpenState → Prop} :
    (∃ state, p state) ↔ p .opened ∨ p .intermediate ∨ p .closed ∨ p .unknown := by
  constructor
  · rintro ⟨state, here⟩
    cases state <;> simp [here]
  · rintro (here | here | here | here) <;> exact ⟨_, here⟩

theorem opened_le_overall_iff : .opened ≤ overall parts ↔ Reports parts "OPEN" := by
  rw [le_overall_iff (by decide), exists_state_iff]
  simp +decide [name]

theorem intermediate_le_overall_iff :
    .intermediate ≤ overall parts ↔ Reports parts "OPEN" ∨ Reports parts "INTERMEDIATE" := by
  rw [le_overall_iff (by decide), exists_state_iff]
  simp +decide [name]

theorem closed_le_overall_iff :
    .closed ≤ overall parts ↔ Reports parts "OPEN" ∨ Reports parts "INTERMEDIATE" ∨ Reports parts "CLOSED" := by
  rw [le_overall_iff (by decide), exists_state_iff]
  simp +decide [name]

/-- The state of two lists of parts together is the more open one of their states. -/
theorem overall_append : overall (parts ++ parts') = max (overall parts) (overall parts') := by
  refine eq_of_forall_gt_iff fun bound => ?_
  rw [max_lt_iff, overall_lt_iff, overall_lt_iff, overall_lt_iff, List.forall_mem_append, and_and_left]

/-- Neither the order of the parts counts, nor how many of them report the same. -/
theorem overall_congr (same : ∀ report, report ∈ parts.map Prod.snd ↔ report ∈ parts'.map Prod.snd) :
    overall parts = overall parts' := by
  refine eq_of_forall_gt_iff fun bound => ?_
  have bounded (parts : List PartReport) :
      (∀ p ∈ parts, said p.2 < bound) ↔ ∀ report ∈ parts.map Prod.snd, said report < bound := by
    rw [List.forall_mem_map]
  rw [overall_lt_iff, overall_lt_iff, bounded, bounded]
  simp only [same]

/-- A part that tells nothing can be left out. -/
theorem overall_silent {front back : List PartReport} {name : String} (silent : IsSilent report) :
    overall (front ++ (name, report) :: back) = overall (front ++ back) := by
  refine eq_of_forall_gt_iff fun bound => ?_
  rw [overall_lt_iff, overall_lt_iff, List.forall_mem_append, List.forall_mem_append, List.forall_mem_cons,
    said_of_isSilent silent]
  exact and_congr_right fun known => and_congr_right fun _ => and_iff_right known

/-- Parts together are open if one of them is, else intermediate if one of them is, else closed if one of them is. So
only what is reported counts, and not by which part, in which order or how often; silent reports count for nothing, and
two groups together are as open as the one that is more open. -/
theorem overall_most_open (parts : List PartReport) :
    (overall parts = .opened ↔ Reports parts "OPEN") ∧
    (overall parts = .intermediate ↔ ¬Reports parts "OPEN" ∧ Reports parts "INTERMEDIATE") ∧
    (overall parts = .closed ↔ ¬Reports parts "OPEN" ∧ ¬Reports parts "INTERMEDIATE" ∧ Reports parts "CLOSED") ∧
    (overall parts = .unknown ↔ ¬Reports parts "OPEN" ∧ ¬Reports parts "INTERMEDIATE" ∧ ¬Reports parts "CLOSED") ∧
    (∀ parts' : List PartReport, (∀ report, report ∈ parts.map Prod.snd ↔ report ∈ parts'.map Prod.snd) →
      overall parts = overall parts') ∧
    (∀ front back name report, parts = front ++ (name, report) :: back → IsSilent report →
      overall parts = overall (front ++ back)) ∧
    ∀ parts', overall (parts ++ parts') = max (overall parts) (overall parts') := by
  have opened : .opened ≤ overall parts ↔ Reports parts "OPEN" := opened_le_overall_iff
  have intermediate : .intermediate ≤ overall parts ↔ Reports parts "OPEN" ∨ Reports parts "INTERMEDIATE" :=
    intermediate_le_overall_iff
  have closed : .closed ≤ overall parts ↔
      Reports parts "OPEN" ∨ Reports parts "INTERMEDIATE" ∨ Reports parts "CLOSED" := closed_le_overall_iff
  refine ⟨?_, ?_, ?_, ?_, fun parts' same => overall_congr same, ?_, fun parts' => overall_append⟩
  · rw [eq_opened_iff, opened]
  · rw [eq_intermediate_iff, intermediate, opened, and_comm]
    exact and_congr_right fun unopened => or_iff_right unopened
  · rw [eq_closed_iff, closed, intermediate, and_comm, not_or, and_assoc]
    exact and_congr_right fun unopened => and_congr_right fun apart =>
      (or_iff_right unopened).trans (or_iff_right apart)
  · rw [eq_unknown_iff, closed, not_or, not_or]
  · rintro front back name report rfl silent
    exact overall_silent silent

/-- The word in lower case counts, though the door comes last. The hood is not there, the trunk tells nothing known. -/
theorem overall_most_open_sample :
    let parts : List PartReport :=
      [("hood", some "invalid"), ("sunroof", some "CLOSED"), ("trunk", some "AJAR"), ("doorDriverRear", some "open")]
    let parts' : List PartReport :=
      [("trunk", some "open"), ("hood", some "AJAR"), ("hood", some "CLOSED"), ("hood", some "CLOSED"),
        ("sunroof", some "invalid")]
    overall parts = .opened ∧ overall parts = overall parts' ∧ IsSilent (some "invalid") ∧
      overall parts = overall parts.tail ∧
      overall (parts ++ [("trunk", some "CLOSED")]) = max (overall parts) (overall [("trunk", some "CLOSED")]) := by
  intro parts parts'
  obtain ⟨opened, _, _, _, reports, silent, together⟩ := overall_most_open parts
  have reported : Reports parts "OPEN" := ⟨"doorDriverRear", "open", by simp [parts], by decide⟩
  have same : ∀ report, report ∈ parts.map Prod.snd ↔ report ∈ parts'.map Prod.snd := by
    intro report
    simp only [parts, parts', List.map_cons, List.map_nil, List.mem_cons, List.not_mem_nil, or_false]
    grind
  have absent : IsSilent (some "invalid") := by
    rintro text ⟨⟩
    exact .inl (by decide)
  exact ⟨opened.mpr reported, reports parts' same, absent, silent [] parts.tail "hood" (some "invalid") rfl absent,
    together [("trunk", some "CLOSED")]⟩

end OpenState

end VehicleLink
