import VehicleLink.Proofs.Bridge.Contents

namespace VehicleLink

/-- The channels of the groups `status`, `range`, `service` and `check` that show a length. -/
def lengthChannels : List Channel := [
  ⟨.status, "service-mileage"⟩,
  ⟨.range, "mileage"⟩,
  ⟨.range, "electric"⟩, ⟨.range, "radius-electric"⟩,
  ⟨.range, "fuel"⟩, ⟨.range, "radius-fuel"⟩,
  ⟨.range, "hybrid"⟩, ⟨.range, "radius-hybrid"⟩,
  ⟨.service, "mileage"⟩,
  ⟨.check, "mileage"⟩]

/-- What is told is a length in the unit system if the channel shows one, and otherwise it is no length. -/
structure Measured (imperial : Bool) (u : ChannelUpdate) : Prop where
  length : u.channel ∈ lengthChannels →
    ∃ value unit, u.state = .quantity value unit ∧ unit.symbol = if imperial then "mi" else "km"
  other : u.channel ∉ lengthChannels →
    ∀ value, u.state ≠ .quantity value .mile ∧ u.state ≠ .quantity value .kilometre

/-- Channel states of one group, with the lengths among them in one unit system. -/
def Sheet (group : ChannelGroup) (imperial : Bool) (us : List ChannelUpdate) : Prop :=
  ∀ u ∈ us, u.channel.group = group ∧ Measured imperial u

namespace Sheet

variable {group : ChannelGroup} {imperial : Bool} {us vs : List ChannelUpdate} {id : String}

theorem nil : Sheet group imperial [] := fun _ member => nomatch member

/-- A length goes on a channel that shows one, in the unit system of the sheet. -/
theorem length (shows : ⟨group, id⟩ ∈ lengthChannels) (value : Float) (rest : Sheet group imperial us) :
    Sheet group imperial (.of group id (.quantity value (.length imperial)) :: us) := by
  have label : (MeasureUnit.length imperial).symbol = if imperial then "mi" else "km" := by
    cases imperial <;> rfl
  exact List.forall_mem_cons.mpr
    ⟨⟨rfl, fun _ => ⟨value, _, rfl, label⟩, fun none => absurd shows none⟩, rest⟩

/-- A channel that shows no length may say anything but a length. -/
theorem other {state : ChannelState} (none : ⟨group, id⟩ ∉ lengthChannels)
    (foreign : ∀ value, state ≠ .quantity value .mile ∧ state ≠ .quantity value .kilometre)
    (rest : Sheet group imperial us) : Sheet group imperial (.of group id state :: us) :=
  List.forall_mem_cons.mpr ⟨⟨rfl, fun shows => absurd shows none, fun _ => foreign⟩, rest⟩

theorem words (none : ⟨group, id⟩ ∉ lengthChannels) (s : Option String) (rest : Sheet group imperial us) :
    Sheet group imperial (.of group id (VehicleLink.words s) :: us) :=
  other none (by simp [VehicleLink.words]) rest

theorem append (first : Sheet group imperial us) (second : Sheet group imperial vs) :
    Sheet group imperial (us ++ vs) := List.forall_mem_append.mpr ⟨first, second⟩

theorem ite (sheet : Sheet group imperial us) (shown : Bool) :
    Sheet group imperial (if shown then us else []) := by
  cases shown with
  | false => exact nil
  | true => exact sheet

theorem statusView (d : Display) (now : Calendar.Moment) (s : VehicleStatus) :
    Sheet .status d.imperial (VehicleLink.statusView d now s) := by
  refine append ?_ (ite ?_ _)
  · exact words (by decide) _ <| words (by decide) _ <| words (by decide) _ <| other (by decide) (by simp) <|
      length (by decide) _ <| other (by decide) (by simp) <| other (by decide) (by simp) nil
  · cases s.chargingText with
    | none => exact nil
    | some charging => exact words (by decide) _ nil

theorem part (id : String) (report : Option String) (rest : Sheet .doors imperial us) :
    Sheet .doors imperial (partView id report :: us) :=
  other (by simp [lengthChannels]) (by simp) rest

theorem openingView (imperial : Bool) (s : VehicleStatus) : Sheet .doors imperial (VehicleLink.openingView s) := by
  rw [VehicleLink.openingView]
  repeat apply part
  exact nil

theorem positionView (imperial : Bool) (p : Option Position) :
    Sheet .location imperial ((p.map VehicleLink.positionView).getD []) :=
  forall_mem_getD (fun _ => other (by decide) (by simp) <| other (by decide) (by simp) <|
    other (by decide) (by simp) <| other (by decide) (by simp) nil) p

theorem electricView (d : Display) (s : VehicleStatus) :
    Sheet .range d.imperial (VehicleLink.electricView d s) :=
  length (by decide) _ <| length (by decide) _ <| other (by decide) (by simp) nil

theorem fuelView (d : Display) (s : VehicleStatus) : Sheet .range d.imperial (VehicleLink.fuelView d s) :=
  length (by decide) _ <| length (by decide) _ <| other (by decide) (by simp) nil

theorem hybridView (d : Display) (s : VehicleStatus) : Sheet .range d.imperial (VehicleLink.hybridView d s) :=
  length (by decide) _ <| length (by decide) _ nil

/-- The ranges of a status are lengths in one unit system. -/
theorem rangeView (d : Display) (s : VehicleStatus) : Sheet .range d.imperial (VehicleLink.rangeView d s) :=
  append (append (append (length (by decide) _ nil) (ite (electricView d s) _)) (ite (fuelView d s) _))
    (ite (hybridView d s) _)

theorem serviceView (imperial : Bool) (l : Browse ServiceEntry) :
    Sheet .service imperial (VehicleLink.serviceView imperial l) := by
  refine other (by decide) ?_ <| other (by decide) (by simp) <| length (by decide) _ <|
    other (by decide) (by simp) <| other (by decide) (by simp) nil
  cases l.current?.map Prod.snd <;> simp [VehicleLink.words]

theorem checkView (imperial : Bool) (l : Browse CheckMessage) :
    Sheet .check imperial (VehicleLink.checkView imperial l) :=
  other (by decide) (by simp) <| length (by decide) _ <| other (by decide) (by simp) <|
    other (by decide) (by simp) nil

end Sheet

section Ranges

variable {d : Display} {s : VehicleStatus} {state : ChannelState}

theorem mem_rangeView_electric : .of .range "electric" state ∈ rangeView d s ↔
    d.vehicleType.isElectric = true ∧ state = .quantity (s.electricRange d.imperial) d.length := by
  simp [rangeView, electricView, fuelView, hybridView, ChannelUpdate.of]

theorem mem_rangeView_fuel : .of .range "fuel" state ∈ rangeView d s ↔
    d.vehicleType.hasFuel = true ∧ state = .quantity (s.fuelRange d.imperial) d.length := by
  simp [rangeView, electricView, fuelView, hybridView, ChannelUpdate.of]

/-- Where both are shown, the sum of the ranges is one of the figures in the same unit. -/
theorem mem_rangeView_hybrid : .of .range "hybrid" state ∈ rangeView d s ↔
    d.vehicleType.isHybrid = true ∧
      state = .quantity (Figure.roundTenth (0.0 + s.electricRange d.imperial + s.fuelRange d.imperial)) d.length := by
  simp [rangeView, electricView, fuelView, hybridView, ChannelUpdate.of]

/-- A figure is chosen together with its unit. -/
theorem choose_length (d : Display) (metric miles : Float) :
    d.length = .mile ∧ Figure.choose metric miles d.imperial = miles ∨
      d.length = .kilometre ∧ Figure.choose metric miles d.imperial = metric := by
  obtain ⟨_, _, imperial⟩ := d
  cases imperial with
  | true => exact .inl ⟨rfl, rfl⟩
  | false => exact .inr ⟨rfl, rfl⟩

end Ranges

namespace Bridge

variable {b : Bridge} {i : Incident} {u : ChannelUpdate}

theorem destinationView_group (member : u ∈ b.destinationView) : u.channel.group = .destination := by
  have shown : u ∈ Panel.destinations.view b := member
  exact Panel.view_group shown

/-- What is told of the groups with lengths. Of the ranges either nothing is told in a step, or all of a status. -/
theorem told_lengths (member : u ∈ b.told i) (own : u.channel.group ∈ [.status, .range, .service, .check]) :
    Measured (b.meet i).imperial u ∧ (u.channel.group = .range → ∃ s, i.status? = some s ∧
      u ∈ rangeView (b.meet i).display s ∧ ∀ v ∈ rangeView (b.meet i).display s, v ∈ b.told i) := by
  have met := b.meet_met i
  generalize b.meet i = next, b.told i = told at met member ⊢
  have elsewhere {group : ChannelGroup} {us : List ChannelUpdate} {Q : Prop} (here : u ∈ us)
      (sheet : Sheet group next.imperial us) (other : group ≠ .range) :
      Measured next.imperial u ∧ (u.channel.group = .range → Q) :=
    ⟨(sheet u here).2, fun ranged => absurd ((sheet u here).1.symm.trans ranged) other⟩
  cases met with
  | status read =>
    rw [channelStates_takeStatus] at member ⊢
    simp only [List.mem_append] at member ⊢
    -- The groups in the order in which a status tells them. The ranges are the third.
    rcases member with ((((member | member) | member) | member) | member) | member
    · exact elsewhere member (.statusView _ _ _) (by decide)
    · exact elsewhere member (.openingView _ _) (by decide)
    · exact ⟨(Sheet.rangeView _ _ u member).2, fun _ =>
        ⟨_, read, member, fun v ranged => .inl (.inl (.inl (.inr ranged)))⟩⟩
    · exact elsewhere member (.positionView _ _) (by decide)
    · exact elsewhere member (.serviceView _ _) (by decide)
    · exact elsewhere member (.checkView _ _) (by decide)
  | nextService => exact elsewhere member (.serviceView _ _) (by decide)
  | nextCheck => exact elsewhere member (.checkView _ _) (by decide)
  | destinations | nextDestination =>
    rw [destinationView_group member] at own
    exact absurd own (by decide)
  | aside _ _ _ _ remote =>
    have shown : u.channel.group ∈ [.status, .range, .service, .check] ++ [.destination] :=
      List.mem_append_left _ own
    exact absurd shown (remote u member)

/-- A range is told by a status, together with the others. -/
theorem told_range {id : String} {state : ChannelState} (member : .of .range id state ∈ b.told i) :
    ∃ s, i.status? = some s ∧ .of .range id state ∈ rangeView (b.meet i).display s ∧
      ∀ v ∈ rangeView (b.meet i).display s, v ∈ b.told i :=
  (told_lengths member (List.mem_cons_of_mem _ (List.mem_cons_self ..))).2 rfl

/-- Only a status changes the unit system. -/
theorem imperial_meet (b : Bridge) (i : Incident) : (b.meet i).imperial = match i.status? with
    | some s => if b.units = .autodetect then b.units.imperialIn s.vehicleCountry else b.imperial
    | none => b.imperial := by
  have met := b.meet_met i
  generalize b.meet i = next, b.told i = told at met
  cases met with
  | status read =>
    rw [read]
    rfl
  | destinations | nextService | nextCheck | nextDestination => rfl
  | aside noStatus _ _ same =>
    rw [noStatus]
    exact congrArg (·.2.1) same

/-- The unit system is that of the country that the latest status names, or the one that is set. -/
theorem imperial_after (units : Units) (type : VehicleType) (vin : String) (zone : Int)
    (incidents : List Incident) : ((Bridge.start units type vin zone).after incidents).imperial =
      units.imperialIn ((incidents.filterMap Incident.status?).getLast?.bind (·.vehicleCountry)) := by
  induction incidents using List.reverseRecOn with
  | nil => rfl
  | append_singleton incidents i ih =>
    rw [after_append, imperial_meet, after_units, ih, List.filterMap_append]
    cases read : i.status? with
    | none => simp [read]
    | some s =>
      have latest : (incidents.filterMap Incident.status? ++ [i].filterMap Incident.status?).getLast? = some s := by
        simp [read]
      rw [latest]
      cases units <;> rfl

/-- The unit system is imperial where that is set, or where it is left to the country and that is one with miles. -/
theorem imperialIn_iff (units : Units) (country : Option String) : units.imperialIn country = true ↔
    units = .imperial ∨ units = .autodetect ∧ ∃ name, country = some name ∧
      (Text.trim name = "US" ∨ Text.trim name = "GB") := by
  cases units with
  | imperial => simp [Units.imperialIn]
  | metric => simp [Units.imperialIn]
  | autodetect => cases country <;> simp [Units.imperialIn, mileCountries]

/-- Whatever has happened to a bridge, it shows lengths in miles if that is set, or if the unit system is that of the
country and the latest status names one with miles. Whatever happens next, the lengths that are told of the status,
the ranges, the services and the check-control messages are all in the unit system that the bridge has from then on.
The ranges on electricity and on fuel are the figures that the status has in this unit, and the range on both is
made from just these two. -/
theorem lengths_agree (units : Units) (type : VehicleType) (vin : String) (zone : Int)
    (incidents : List Incident) :
    let b := (Bridge.start units type vin zone).after incidents
    (b.imperial = true ↔ units = .imperial ∨ units = .autodetect ∧ ∃ s country,
      (incidents.filterMap Incident.status?).getLast? = some s ∧ s.vehicleCountry = some country ∧
        (Text.trim country = "US" ∨ Text.trim country = "GB")) ∧
    ∀ i : Incident,
      (∀ u ∈ b.told i, u.channel.group ∈ [.status, .range, .service, .check] →
        Measured (b.meet i).imperial u) ∧
      (∀ range unit, .of .range "electric" (.quantity range unit) ∈ b.told i → ∃ s, i.status? = some s ∧
        (unit = .mile ∧ range = s.remainingRangeElectricMiles.getD 0.0 ∨
          unit = .kilometre ∧ range = s.remainingRangeElectric.getD 0.0)) ∧
      (∀ range unit, .of .range "fuel" (.quantity range unit) ∈ b.told i → ∃ s, i.status? = some s ∧
        (unit = .mile ∧ range = s.remainingRangeFuelMiles.getD 0.0 ∨
          unit = .kilometre ∧ range = s.remainingRangeFuel.getD 0.0)) ∧
      ∀ range unit, .of .range "hybrid" (.quantity range unit) ∈ b.told i → ∃ electric fuel,
        .of .range "electric" (.quantity electric unit) ∈ b.told i ∧
        .of .range "fuel" (.quantity fuel unit) ∈ b.told i ∧
        range = Figure.roundTenth (0.0 + electric + fuel) := by
  intro b
  refine ⟨?_, fun i => ⟨fun u member own => (told_lengths member own).1, fun range unit told => ?_,
    fun range unit told => ?_, fun range unit told => ?_⟩⟩
  · rw [imperial_after, imperialIn_iff]
    refine or_congr_right (and_congr_right fun _ => ⟨?_, ?_⟩)
    · rintro ⟨country, named, miles⟩
      obtain ⟨s, latest, own⟩ := Option.bind_eq_some_iff.mp named
      exact ⟨s, country, latest, own, miles⟩
    · rintro ⟨s, country, latest, own, miles⟩
      exact ⟨country, Option.bind_eq_some_iff.mpr ⟨s, latest, own⟩, miles⟩
  · obtain ⟨s, read, ranged, _⟩ := told_range told
    obtain ⟨_, state⟩ := mem_rangeView_electric.mp ranged
    cases state
    exact ⟨s, read, choose_length ..⟩
  · obtain ⟨s, read, ranged, _⟩ := told_range told
    obtain ⟨_, state⟩ := mem_rangeView_fuel.mp ranged
    cases state
    exact ⟨s, read, choose_length ..⟩
  · obtain ⟨s, read, ranged, all⟩ := told_range told
    obtain ⟨both, state⟩ := mem_rangeView_hybrid.mp ranged
    cases state
    obtain ⟨fuel, electric⟩ := Bool.and_eq_true_iff.mp both
    exact ⟨_, _, all _ (mem_rangeView_electric.mpr ⟨electric, rfl⟩), all _ (mem_rangeView_fuel.mpr ⟨fuel, rfl⟩),
      rfl⟩

/-- A vehicle in the United States shows miles as soon as its first status is there, and adds up the two ranges in
miles that the status gives. -/
theorem lengths_agree_sample :
    let status : Incident := .answered ⟨⟨2020, 1, 1⟩, 0, false⟩ .status
      ("\x7b\"vehicleStatus\":\x7b\"vehicleCountry\":\" US\",\"remainingRangeElectric\":20.0," ++
        "\"remainingRangeElectricMls\":12.5\x7d\x7d")
    let start := Bridge.start .autodetect .pluginHybrid "" 0
    start.imperial = false ∧ (start.after [status]).imperial = true ∧ ∃ electric fuel,
      .of .range "electric" (.quantity electric .mile) ∈ start.told status ∧
      .of .range "fuel" (.quantity fuel .mile) ∈ start.told status ∧
      .of .range "hybrid" (.quantity (Figure.roundTenth (0.0 + electric + fuel)) .mile) ∈ start.told status := by
  intro status start
  obtain ⟨miles, _⟩ := lengths_agree .autodetect .pluginHybrid "" 0 [status]
  obtain ⟨_, step⟩ := lengths_agree .autodetect .pluginHybrid "" 0 []
  refine ⟨rfl, miles.mpr (.inr ⟨rfl, ?_⟩), ?_⟩
  · have country : (status.status?.bind (·.vehicleCountry)).map Text.trim = some "US" := by decide +kernel
    obtain ⟨name, named, trimmed⟩ := Option.map_eq_some_iff.mp country
    obtain ⟨s, read, own⟩ := Option.bind_eq_some_iff.mp named
    exact ⟨s, name, by rw [List.filterMap_cons, read]; rfl, own, .inl trimmed⟩
  · have told : ((start.told status).any fun u => u.channel = ⟨.range, "hybrid"⟩ && match u.state with
        | .quantity _ unit => unit = .mile
        | _ => false) = true := by decide +kernel
    obtain ⟨⟨channel, state⟩, member, shape⟩ := List.any_eq_true.mp told
    cases state with
    | quantity range unit =>
      simp only [Bool.and_eq_true, decide_eq_true_eq] at shape
      obtain ⟨rfl, rfl⟩ := shape
      obtain ⟨electric, fuel, first, second, sum⟩ := (step status).2.2.2 range .mile member
      exact ⟨electric, fuel, first, second, sum ▸ member⟩
    | text | moment | onOff | decimal | point => simp at shape

end Bridge

end VehicleLink
