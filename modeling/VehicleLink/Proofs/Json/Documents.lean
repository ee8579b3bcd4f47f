import VehicleLink.Json.Shape
import VehicleLink.Proofs.Json.Values

namespace VehicleLink.Json

/-- The declared members that are set, in declared order. -/
def declared (fields : Fields) (found : String → Option Json) : List (String × Json) :=
  fields.filterMap fun f => (found f.1).map fun v => (f.1, v)

/-- Shapes in which every record is open and none of its members is needed. -/
inductive Shape.Open : Shape → Prop
  | text : Open .text
  | flag : Open .flag
  | list {item : Shape} (each : Open item) : Open (.list item)
  | record {fields : Fields} (distinct : (fields.map Prod.fst).Nodup)
      (optional : ∀ f ∈ fields, f.2.1 = .optional) (each : ∀ f ∈ fields, Open f.2.2) :
      Open (.record .opened fields)

/-- The members of an open record that are not declared, as they are kept: sorted, with their numbers
and their depth within bounds. -/
structure Free (numbers : Number → Prop) (room : Nat) (fields : Fields) (others : List (String × Json)) :
    Prop where
  undeclared : ∀ m ∈ others, fields.lookup m.1 = none
  sorted : Ascending others
  ascends : ∀ m ∈ others, m.2.Ascends
  bounded : ∀ m ∈ others, m.2.Bounded numbers room

/-- A document of a shape in the form in which it is read: the declared members that are set, and then
the others. -/
inductive Document (numbers : Number → Prop) : Nat → Shape → Json → Prop
  | text {room : Nat} (s : String) : Document numbers room .text (.text s)
  | flag {room : Nat} (b : Bool) : Document numbers room .flag (.flag b)
  | list {room : Nat} {item : Shape} {items : List Json}
      (each : ∀ v ∈ items, Document numbers room item v) :
      Document numbers (room + 1) (.list item) (.list items)
  | record {room : Nat} {fields : Fields} {found : String → Option Json} {others : List (String × Json)}
      (each : ∀ f ∈ fields, ∀ v, found f.1 = some v → Document numbers room f.2.2 v)
      (free : Free numbers room fields others) :
      Document numbers (room + 1) (.record .opened fields) (.object (declared fields found ++ others))

variable {numbers : Number → Prop} {room : Nat} {shape : Shape} {fields : Fields} {v u : Json}
  {found : String → Option Json} {members others : List (String × Json)}

theorem Document.not_null (document : Document numbers room shape u) : u ≠ .null := by
  cases document <;> simp

theorem Document.normal_ne_null (document : Document numbers room shape u) : u.normal ≠ .null := by
  cases document <;> simp [normal]

theorem mem_declared {m : String × Json} :
    m ∈ declared fields found ↔ (∃ f ∈ fields, f.1 = m.1) ∧ found m.1 = some m.2 := by
  obtain ⟨key, v⟩ := m
  simp only [declared, List.mem_filterMap, Option.map_eq_some_iff, Prod.mk.injEq]
  constructor
  · rintro ⟨f, member, w, value, rfl, rfl⟩
    exact ⟨⟨f, member, rfl⟩, value⟩
  · rintro ⟨⟨f, member, rfl⟩, value⟩
    exact ⟨f, member, v, value, rfl, rfl⟩

theorem lookup_isSome {key : String} : (fields.lookup key).isSome ↔ ∃ f ∈ fields, f.1 = key := by
  constructor
  · intro some
    obtain ⟨value, found⟩ := Option.isSome_iff_exists.mp some
    exact ⟨(key, value), mem_of_lookup found, rfl⟩
  · rintro ⟨f, member, rfl⟩
    by_contra none
    exact key_ne_of_lookup_none (Option.not_isSome_iff_eq_none.mp none) member rfl

theorem lookup_of_field (distinct : (fields.map Prod.fst).Nodup) {f : String × Need × Shape}
    (member : f ∈ fields) : fields.lookup f.1 = some f.2 :=
  lookup_of_mem distinct member

/-- The declared members that are set stand in declared order. -/
theorem keys_declared : (declared fields found).map Prod.fst =
    (fields.map Prod.fst).filter fun key => (found key).isSome := by
  induction fields with
  | nil => rfl
  | cons f rest ih =>
    simp only [declared, List.filterMap_cons, List.map_cons, List.filter_cons] at ih ⊢
    cases value : found f.1 with
    | none => simpa using ih
    | some v => simpa using ih

theorem lookup_declared (key : String) : (declared fields found).lookup key =
    if (fields.lookup key).isSome then found key else none := by
  induction fields with
  | nil => rfl
  | cons f rest ih =>
    obtain ⟨k, need, shape⟩ := f
    simp only [declared, List.filterMap_cons] at ih ⊢
    rw [lookup_cons_ite]
    by_cases same : key = k
    · subst same
      cases value : found key with
      | none =>
        simp only [Option.map_none, ih, value]
        simp
      | some v => simp
    · rw [if_neg same, ← ih]
      cases value : found k with
      | none => rfl
      | some v => simp only [Option.map_some, lookup_cons_ite, if_neg same]

theorem lookup_ascends (ascends : ∀ m ∈ members, m.2.Ascends) (key : String) :
    (members.lookup key).map normal = members.lookup key := by
  cases value : members.lookup key with
  | none => rfl
  | some v => rw [Option.map_some, (ascends _ (mem_of_lookup value)).normal_eq]

theorem normalMembers_ascends (ascends : ∀ m ∈ members, m.2.Ascends) : normalMembers members = members := by
  induction members with
  | nil => rfl
  | cons m rest ih =>
    obtain ⟨here, later⟩ := List.forall_mem_cons.mp ascends
    rw [normalMembers, here.normal_eq, ih later]

/-- No other member stands at a declared key. -/
theorem Free.absent (free : Free numbers room fields others) {key : String}
    (declared : (fields.lookup key).isSome) : others.lookup key = none := by
  refine lookup_none_of_forall_ne fun m member => ?_
  rintro rfl
  rw [free.undeclared m member] at declared
  cases declared

section Record

variable (distinct : (fields.map Prod.fst).Nodup) (free : Free numbers room fields others)
include distinct free

/-- The keys of a record in normal form are distinct. -/
theorem record_distinct : ((declared fields found ++ others).map Prod.fst).Nodup := by
  rw [List.map_append, keys_declared, List.nodup_append]
  refine ⟨distinct.filter _, free.sorted.distinct, ?_⟩
  rintro key inside _ outside rfl
  obtain ⟨f, member, rfl⟩ := List.mem_map.mp (List.mem_filter.mp inside).1
  obtain ⟨m, other, same⟩ := List.mem_map.mp outside
  have absent := free.undeclared m other
  rw [same, lookup_of_field distinct member] at absent
  cases absent

omit distinct in
/-- At a declared key of a record stands what was set, and elsewhere what was kept. -/
theorem record_lookup (key : String) : (declared fields found ++ others).lookup key =
    if (fields.lookup key).isSome then found key else others.lookup key := by
  rw [List.lookup_append, lookup_declared]
  cases value : fields.lookup key with
  | none => rfl
  | some f =>
    have absent : others.lookup key = none := free.absent (value ▸ rfl)
    simp [absent]

/-- The normal form of a record, by what stands at its keys. -/
theorem record_normal (found : String → Option Json) :
    ∃ sorted, (Json.object (declared fields found ++ others)).normal = .object sorted ∧
      Ascending sorted ∧ ∀ key, sorted.lookup key =
        if (fields.lookup key).isSome then (found key).map normal else others.lookup key := by
  refine ⟨_, rfl, Ascending.insertAll List.Pairwise.nil, fun key => ?_⟩
  rw [lookup_insertAll (by rw [keys_normalMembers]; exact record_distinct distinct free),
    lookup_normalMembers, record_lookup free]
  split
  · simp
  · simp [lookup_ascends free.ascends]

end Record

/-- A document fits in the room that it was read in. -/
theorem Document.bounded (document : Document numbers room shape u) : u.Bounded numbers room := by
  induction document with
  | text s => exact bounded_text s
  | flag b => exact bounded_flag b
  | list each ih => exact bounded_list.mpr ih
  | record each free ih =>
    refine bounded_object.mpr fun m member => ?_
    rcases List.mem_append.mp member with set | other
    · obtain ⟨⟨f, declared, key⟩, value⟩ := mem_declared.mp set
      exact ih f declared m.2 (key ▸ value)
    · exact free.bounded m other

/-- No object in a document of open records has a repeated key. -/
theorem Document.distinct (opened : shape.Open) (document : Document numbers room shape u) :
    ∀ members, .object members ∈ u.parts → (members.map Prod.fst).Nodup := by
  induction document with
  | text s => simp [parts]
  | flag b => simp [parts]
  | list each ih =>
    intro members part
    cases opened with
    | list opened =>
      rcases mem_parts_list.mp part with same | ⟨v, member, part⟩
      · cases same
      · exact ih v member opened members part
  | record each free ih =>
    intro members part
    cases opened with
    | record distinct optional opened =>
      rcases mem_parts_object.mp part with same | ⟨m, member, part⟩
      · cases same
        exact record_distinct distinct free
      · rcases List.mem_append.mp member with set | other
        · obtain ⟨⟨f, declared, key⟩, value⟩ := mem_declared.mp set
          exact ih f declared m.2 (key ▸ value) (opened f declared) members part
        · exact (free.ascends m other members part).distinct

/-- A document whose numbers satisfy another condition as well. -/
theorem Document.satisfies {numbers' : Number → Prop} (document : Document numbers room shape u)
    (satisfied : ∀ n, .number n ∈ u.parts → numbers' n) : Document numbers' room shape u := by
  induction document with
  | text s => exact .text s
  | flag b => exact .flag b
  | list each ih =>
    exact .list fun v member => ih v member fun n part =>
      satisfied n (mem_parts_list.mpr (Or.inr ⟨v, member, part⟩))
  | @record room fields found others each free ih =>
    refine .record (fun f member v value => ih f member v value fun n part => ?_)
      ⟨free.undeclared, free.sorted, free.ascends, fun m member => ⟨(free.bounded m member).1, fun n part => ?_⟩⟩
    · have inside : (f.1, v) ∈ declared fields found := mem_declared.mpr ⟨⟨f, member, rfl⟩, value⟩
      exact satisfied n (mem_parts_object.mpr (Or.inr ⟨_, List.mem_append_left _ inside, part⟩))
    · exact satisfied n (mem_parts_object.mpr (Or.inr ⟨m, List.mem_append_right _ member, part⟩))

end VehicleLink.Json
