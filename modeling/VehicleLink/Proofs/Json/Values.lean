import VehicleLink.Proofs.Json.Members

namespace VehicleLink.Json

/-- Induction over values, with the items of a list and the members of an object at once. -/
@[induction_eliminator]
theorem inductionOn {motive : Json → Prop} (null : motive .null) (flag : ∀ b, motive (.flag b))
    (number : ∀ n, motive (.number n)) (text : ∀ s, motive (.text s))
    (list : ∀ items, (∀ v ∈ items, motive v) → motive (.list items))
    (object : ∀ members, (∀ m ∈ members, motive m.2) → motive (.object members)) (v : Json) :
    motive v :=
  @Json.rec motive (fun items => ∀ v ∈ items, motive v) (fun members => ∀ m ∈ members, motive m.2)
    (fun m => motive m.2) null flag number text list object (fun _ member => nomatch member)
    (fun _ _ here later => List.forall_mem_cons.mpr ⟨here, later⟩) (fun _ member => nomatch member)
    (fun _ _ here later => List.forall_mem_cons.mpr ⟨here, later⟩) (fun _ _ here => here) v

mutual
/-- The values that a value consists of: itself, its items or what its members hold, and so on. -/
def parts : Json → List Json
  | .list items => .list items :: partsOfItems items
  | .object members => .object members :: partsOfMembers members
  | v => [v]

/-- The values that the items of a list consist of. -/
def partsOfItems : List Json → List Json
  | [] => []
  | v :: rest => parts v ++ partsOfItems rest

/-- The values that the members of an object consist of. -/
def partsOfMembers : List (String × Json) → List Json
  | [] => []
  | (_, v) :: rest => parts v ++ partsOfMembers rest
end

mutual
/-- How many containers there are one in another. -/
def depth : Json → Nat
  | .list items => depthOfItems items + 1
  | .object members => depthOfMembers members + 1
  | _ => 0

/-- The depth of the deepest item. -/
def depthOfItems : List Json → Nat
  | [] => 0
  | v :: rest => max (depth v) (depthOfItems rest)

/-- The depth of the deepest member. -/
def depthOfMembers : List (String × Json) → Nat
  | [] => 0
  | (_, v) :: rest => max (depth v) (depthOfMembers rest)
end

mutual
/-- The value with the members of every object sorted. Of several members of one key the last is
kept. -/
def normal : Json → Json
  | .list items => .list (normalItems items)
  | .object members => .object (insertAll [] (normalMembers members))
  | v => v

/-- The items of a list in normal form. -/
def normalItems : List Json → List Json
  | [] => []
  | v :: rest => normal v :: normalItems rest

/-- The members of an object with their values in normal form. -/
def normalMembers : List (String × Json) → List (String × Json)
  | [] => []
  | (key, v) :: rest => (key, normal v) :: normalMembers rest
end

/-- Every object in the value has its members sorted. -/
def Ascends (v : Json) : Prop := ∀ members, .object members ∈ v.parts → Ascending members

/-- A value with room for that many containers one in another, whose numbers satisfy a condition. -/
def Bounded (numbers : Number → Prop) (room : Nat) (v : Json) : Prop :=
  v.depth ≤ room ∧ ∀ n, .number n ∈ v.parts → numbers n

theorem mem_partsOfItems {items : List Json} {u : Json} :
    u ∈ partsOfItems items ↔ ∃ v ∈ items, u ∈ v.parts := by
  induction items with
  | nil => simp [partsOfItems]
  | cons v rest ih => simp [partsOfItems, ih]

theorem mem_partsOfMembers {members : List (String × Json)} {u : Json} :
    u ∈ partsOfMembers members ↔ ∃ m ∈ members, u ∈ m.2.parts := by
  induction members with
  | nil => simp [partsOfMembers]
  | cons m rest ih => simp [partsOfMembers, ih]

/-- A list consists of itself and of what its items consist of. -/
theorem mem_parts_list {items : List Json} {u : Json} :
    u ∈ (Json.list items).parts ↔ u = .list items ∨ ∃ v ∈ items, u ∈ v.parts := by
  simp [parts, mem_partsOfItems]

/-- An object consists of itself and of what its members consist of. -/
theorem mem_parts_object {members : List (String × Json)} {u : Json} :
    u ∈ (Json.object members).parts ↔ u = .object members ∨ ∃ m ∈ members, u ∈ m.2.parts := by
  simp [parts, mem_partsOfMembers]

theorem depthOfItems_le {items : List Json} {room : Nat} :
    depthOfItems items ≤ room ↔ ∀ v ∈ items, v.depth ≤ room := by
  induction items with
  | nil => simp [depthOfItems]
  | cons v rest ih => simp [depthOfItems, ih]

theorem depthOfMembers_le {members : List (String × Json)} {room : Nat} :
    depthOfMembers members ≤ room ↔ ∀ m ∈ members, m.2.depth ≤ room := by
  induction members with
  | nil => simp [depthOfMembers]
  | cons m rest ih => simp [depthOfMembers, ih]

/-- A list is one deeper than its deepest item. -/
theorem depth_list_le {items : List Json} {room : Nat} :
    (Json.list items).depth ≤ room + 1 ↔ ∀ v ∈ items, v.depth ≤ room := by
  simp [depth, depthOfItems_le]

/-- An object is one deeper than its deepest member. -/
theorem depth_object_le {members : List (String × Json)} {room : Nat} :
    (Json.object members).depth ≤ room + 1 ↔ ∀ m ∈ members, m.2.depth ≤ room := by
  simp [depth, depthOfMembers_le]

theorem normalItems_eq (items : List Json) : normalItems items = items.map normal := by
  induction items with
  | nil => rfl
  | cons v rest ih => simp [normalItems, ih]

theorem normalMembers_eq (members : List (String × Json)) :
    normalMembers members = members.map fun m => (m.1, m.2.normal) := by
  induction members with
  | nil => rfl
  | cons m rest ih => simp [normalMembers, ih]

/-- The normal form keeps the keys in their order, and only the values are normalised. -/
@[simp] theorem keys_normalMembers (members : List (String × Json)) :
    (normalMembers members).map Prod.fst = members.map Prod.fst := by
  simp [normalMembers_eq]

theorem lookup_normalMembers (members : List (String × Json)) (key : String) :
    (normalMembers members).lookup key = (members.lookup key).map normal := by
  induction members with
  | nil => rfl
  | cons m rest ih =>
    obtain ⟨k, v⟩ := m
    simp only [normalMembers, lookup_cons_ite, ih]
    split <;> rfl

theorem ascends_list {items : List Json} : (Json.list items).Ascends ↔ ∀ v ∈ items, v.Ascends := by
  constructor
  · intro sorted v member inner part
    exact sorted inner (mem_parts_list.mpr (Or.inr ⟨v, member, part⟩))
  · intro sorted inner part
    rcases mem_parts_list.mp part with same | ⟨v, member, part⟩
    · cases same
    · exact sorted v member inner part

/-- An object is sorted all through if its members are, and each of their values. -/
theorem ascends_object {members : List (String × Json)} :
    (Json.object members).Ascends ↔ Ascending members ∧ ∀ m ∈ members, m.2.Ascends := by
  constructor
  · intro sorted
    refine ⟨sorted members (mem_parts_object.mpr (Or.inl rfl)), fun m member inner part => ?_⟩
    exact sorted inner (mem_parts_object.mpr (Or.inr ⟨m, member, part⟩))
  · rintro ⟨here, later⟩ inner part
    rcases mem_parts_object.mp part with same | ⟨m, member, part⟩
    · cases same
      exact here
    · exact later m member inner part

/-- A list takes the room of one container. -/
theorem bounded_list {numbers : Number → Prop} {room : Nat} {items : List Json} :
    (Json.list items).Bounded numbers (room + 1) ↔ ∀ v ∈ items, v.Bounded numbers room := by
  constructor
  · rintro ⟨deep, fine⟩ v member
    exact ⟨depth_list_le.mp deep v member,
      fun n part => fine n (mem_parts_list.mpr (Or.inr ⟨v, member, part⟩))⟩
  · intro each
    refine ⟨depth_list_le.mpr fun v member => (each v member).1, fun n part => ?_⟩
    rcases mem_parts_list.mp part with same | ⟨v, member, part⟩
    · cases same
    · exact (each v member).2 n part

/-- An object takes the room of one container. -/
theorem bounded_object {numbers : Number → Prop} {room : Nat} {members : List (String × Json)} :
    (Json.object members).Bounded numbers (room + 1) ↔ ∀ m ∈ members, m.2.Bounded numbers room := by
  constructor
  · rintro ⟨deep, fine⟩ m member
    exact ⟨depth_object_le.mp deep m member,
      fun n part => fine n (mem_parts_object.mpr (Or.inr ⟨m, member, part⟩))⟩
  · intro each
    refine ⟨depth_object_le.mpr fun m member => (each m member).1, fun n part => ?_⟩
    rcases mem_parts_object.mp part with same | ⟨m, member, part⟩
    · cases same
    · exact (each m member).2 n part

theorem not_bounded_list_zero {numbers : Number → Prop} {items : List Json} :
    ¬(Json.list items).Bounded numbers 0 := by
  simp [Bounded, depth]

theorem not_bounded_object_zero {numbers : Number → Prop} {members : List (String × Json)} :
    ¬(Json.object members).Bounded numbers 0 := by
  simp [Bounded, depth]

theorem bounded_text {numbers : Number → Prop} {room : Nat} (s : String) :
    (Json.text s).Bounded numbers room := by
  simp [Bounded, depth, parts]

theorem bounded_flag {numbers : Number → Prop} {room : Nat} (b : Bool) :
    (Json.flag b).Bounded numbers room := by
  simp [Bounded, depth, parts]

/-- A value whose members are sorted already is its own normal form. -/
theorem Ascends.normal_eq {v : Json} (sorted : v.Ascends) : v.normal = v := by
  induction v with
  | null => rfl
  | flag b => rfl
  | number n => rfl
  | text s => rfl
  | list items ih =>
    have each := ascends_list.mp sorted
    rw [normal, normalItems_eq, List.map_congr_left fun v member => ih v member (each v member)]
    simp
  | object members ih =>
    obtain ⟨here, each⟩ := ascends_object.mp sorted
    have values : normalMembers members = members := by
      rw [normalMembers_eq, List.map_congr_left (g := id) fun m member => ?_, List.map_id]
      rw [ih m member (each m member)]
      rfl
    rw [normal, values, here.insertAll_nil]

/-- The normal form of a value is not nested deeper than the value. -/
theorem depth_normal {v : Json} {room : Nat} (fits : v.depth ≤ room) : v.normal.depth ≤ room := by
  induction v generalizing room with
  | null | flag b | number n | text s => exact fits
  | list items ih =>
    obtain ⟨inner, rfl⟩ : ∃ inner, room = inner + 1 := by
      cases room with
      | zero => simp [depth] at fits
      | succ inner => exact ⟨inner, rfl⟩
    have each := depth_list_le.mp fits
    rw [normal, normalItems_eq]
    refine depth_list_le.mpr fun u member => ?_
    obtain ⟨v, inside, rfl⟩ := List.mem_map.mp member
    exact ih v inside (each v inside)
  | object members ih =>
    obtain ⟨inner, rfl⟩ : ∃ inner, room = inner + 1 := by
      cases room with
      | zero => simp [depth] at fits
      | succ inner => exact ⟨inner, rfl⟩
    have each := depth_object_le.mp fits
    rw [normal]
    refine depth_object_le.mpr fun m member => ?_
    rcases mem_insertAll member with new | old
    · rw [normalMembers_eq] at new
      obtain ⟨n, inside, rfl⟩ := List.mem_map.mp new
      exact ih n inside (each n inside)
    · cases old

end VehicleLink.Json
