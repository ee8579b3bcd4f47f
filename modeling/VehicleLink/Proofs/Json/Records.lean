import VehicleLink.Proofs.Json.Documents
import VehicleLink.Proofs.Json.Readings
import VehicleLink.Proofs.Json.Written

namespace VehicleLink.Json

/-- The members that are set among those found: `null` is as good as nothing. -/
def given (found : List (String × Json)) (key : String) : Option Json :=
  match found.lookup key with
  | none | some .null => none
  | some v => some v

/-- Whether a value is `null`. -/
def isNull : Json → Bool
  | .null => true
  | _ => false

mutual
/-- A value without those declared members that are `null`. -/
def dropUnset : Json → Shape → Json
  | .list items, .list item => .list (dropUnsetItems items item)
  | .object members, .record _ fields => .object (dropUnsetMembers members fields)
  | v, _ => v

/-- Items without those declared members that are `null`. -/
def dropUnsetItems : List Json → Shape → List Json
  | [], _ => []
  | v :: rest, item => dropUnset v item :: dropUnsetItems rest item

/-- The members of a record without those declared ones that are `null`. -/
def dropUnsetMembers : List (String × Json) → Fields → List (String × Json)
  | [], _ => []
  | (key, v) :: rest, fields =>
    match fields.lookup key with
    | none => (key, v) :: dropUnsetMembers rest fields
    | some (_, shape) =>
      if isNull v then dropUnsetMembers rest fields
      else (key, dropUnset v shape) :: dropUnsetMembers rest fields
end

variable {numbers : Number → Prop} {room : Nat} {shape : Shape} {fields : Fields} {v u : Json}
  {members others : List (String × Json)}

theorem given_eq_some {found : List (String × Json)} {key : String} :
    given found key = some v ↔ found.lookup key = some v ∧ v ≠ .null := by
  unfold given
  split
  · rename_i absent
    simp [absent]
  · rename_i null
    rw [null]
    simpa using Eq.symm
  · rename_i w unset value
    rw [value]
    constructor
    · rintro ⟨⟩
      exact ⟨rfl, fun same => unset (same ▸ rfl)⟩
    · exact fun both => both.1

theorem given_of_null {found : List (String × Json)} {key : String}
    (value : found.lookup key = some .null) : given found key = none := by
  rw [given, value]

theorem given_of_absent {found : List (String × Json)} {key : String} (absent : found.lookup key = none) :
    given found key = none := by
  rw [given, absent]

/-- The normal form of an open record: what is set of the declared members, and then the others. -/
theorem normalRecord_opened (found : List (String × Json)) :
    normalRecord .opened fields found others = .object (declared fields (given found) ++ others) := by
  rw [normalRecord, declared]
  congr 2
  refine List.filterMap_congr fun f _ => ?_
  obtain ⟨key, need, shape⟩ := f
  simp only [given]
  cases found.lookup key with
  | none => rfl
  | some v => cases v <;> rfl

theorem toTreeMembers_cons (m : String × Json) (rest : List (String × Json)) :
    toTreeMembers (m :: rest) = (verbatim m.1, toTree m.2) :: toTreeMembers rest := rfl

variable {m : String × Json} {rest found others : List (String × Json)}

theorem readMembers_declared {need : Need} (field : fields.lookup m.1 = some (need, shape)) :
    readMembers room .opened fields none found others (toTreeMembers (m :: rest)) = .ok u ↔
      found.lookup m.1 = none ∧ ∃ w, (toTree m.2).read room need shape = .ok w ∧
        readMembers room .opened fields none ((m.1, w) :: found) others (toTreeMembers rest) = .ok u := by
  rw [toTreeMembers_cons, readMembers_cons_declared (verbatim_read m.1) field]

/-- A member that is not declared is kept among the others. -/
theorem readMembers_other (absent : fields.lookup m.1 = none) (shallow : m.2.depth ≤ room) :
    readMembers room .opened fields none found others (toTreeMembers (m :: rest)) =
      readMembers room .opened fields none found (insert m.1 m.2.normal others) (toTreeMembers rest) := by
  rw [toTreeMembers_cons, readMembers, verbatim_read]
  simp only [orFlaw, bind, Except.bind, absent, keep_toTree shallow]

/-- What has been read of the members of an object: at every declared key the reading of the member, and
the other members as they are. -/
theorem readMembers_eq (distinct : (members.map Prod.fst).Nodup) (shallow : ∀ m ∈ members, m.2.depth ≤ room)
    (read : readMembers room .opened fields none found others (toTreeMembers members) = .ok u) :
    ∃ all, u = normalRecord .opened fields all
        (insertAll others (normalMembers (members.filter fun m => (fields.lookup m.1).isNone))) ∧
      ∀ key need shape, fields.lookup key = some (need, shape) →
        (∀ v, members.lookup key = some v →
          ∃ w, (toTree v).read room need shape = .ok w ∧ all.lookup key = some w) ∧
        (members.lookup key = none → all.lookup key = found.lookup key) := by
  induction members generalizing found others with
  | nil =>
    obtain ⟨-, -, rfl⟩ := readMembers_nil.mp read
    exact ⟨found, rfl, fun key need shape _ => ⟨fun v absent => (nomatch absent), fun _ => rfl⟩⟩
  | cons m rest ih =>
    obtain ⟨shallow, later⟩ := List.forall_mem_cons.mp shallow
    obtain ⟨unique, distinct⟩ := distinct_cons.mp distinct
    cases lookup : fields.lookup m.1 with
    | none =>
      rw [readMembers_other lookup shallow] at read
      obtain ⟨all, result, each⟩ := ih distinct later read
      refine ⟨all, ?_, fun key need shape value => ?_⟩
      · simpa [List.filter_cons, lookup, normalMembers, insertAll] using result
      · have other : key ≠ m.1 := by
          rintro rfl
          rw [lookup] at value
          cases value
        rw [lookup_cons_ite, if_neg other]
        exact each key need shape value
    | some f =>
      obtain ⟨fresh, w, here, read⟩ := (readMembers_declared lookup).mp read
      obtain ⟨all, result, each⟩ := ih distinct later read
      refine ⟨all, ?_, fun key need shape value => ?_⟩
      · simpa [List.filter_cons, lookup] using result
      · obtain ⟨found, absent⟩ := each key need shape value
        rw [lookup_cons_ite]
        rw [lookup_cons_ite] at absent
        by_cases same : key = m.1
        · subst same
          rw [if_pos rfl]
          rw [if_pos rfl] at absent
          rw [lookup] at value
          cases value
          refine ⟨fun v equal => ?_, fun equal => by cases equal⟩
          cases equal
          exact ⟨w, here, absent unique⟩
        · rw [if_neg same]
          rw [if_neg same] at absent
          exact ⟨found, absent⟩

/-- The members of an object are read when each of the declared ones is. -/
theorem readMembers_ok (complete : ∀ found, complete fields found = true)
    (distinct : (members.map Prod.fst).Nodup) (shallow : ∀ m ∈ members, m.2.depth ≤ room)
    (fresh : ∀ m ∈ members, found.lookup m.1 = none)
    (each : ∀ m ∈ members, ∀ need shape, fields.lookup m.1 = some (need, shape) →
      ∃ w, (toTree m.2).read room need shape = .ok w) :
    ∃ u, readMembers room .opened fields none found others (toTreeMembers members) = .ok u := by
  induction members generalizing found others with
  | nil => exact ⟨_, readMembers_nil.mpr ⟨rfl, complete found, rfl⟩⟩
  | cons m rest ih =>
    obtain ⟨shallow, shallow'⟩ := List.forall_mem_cons.mp shallow
    obtain ⟨unique, distinct⟩ := distinct_cons.mp distinct
    obtain ⟨fresh, fresh'⟩ := List.forall_mem_cons.mp fresh
    obtain ⟨here, later⟩ := List.forall_mem_cons.mp each
    cases lookup : fields.lookup m.1 with
    | none =>
      rw [readMembers_other lookup shallow]
      exact ih distinct shallow' fresh' later
    | some f =>
      obtain ⟨w, read⟩ := here _ _ lookup
      have fresh (n : String × Json) (member : n ∈ rest) : ((m.1, w) :: found).lookup n.1 = none := by
        rw [lookup_cons_ite, if_neg (key_ne_of_lookup_none unique member)]
        exact fresh' n member
      obtain ⟨u, result⟩ := ih distinct shallow' fresh later
      exact ⟨u, (readMembers_declared lookup).mpr ⟨‹_›, w, read, result⟩⟩

theorem toTrees_eq (items : List Json) : toTrees items = items.map toTree := by
  induction items with
  | nil => rfl
  | cons v rest ih => rw [toTrees, ih, List.map_cons]

theorem forall₂_toTrees {item : Shape} {items values : List Json} :
    List.Forall₂ (fun t u => t.read room .required item = .ok u) (toTrees items) values ↔
      List.Forall₂ (fun v u => (toTree v).read room .required item = .ok u) items values := by
  rw [toTrees_eq, List.forall₂_map_left_iff]

/-- What can be read of a value that is not `null`: texts and flags as they are, lists item by item and
objects member by member. -/
theorem read_cases {need : Need} (opened : shape.Open) (set : v ≠ .null)
    (read : (toTree v).read room need shape = .ok u) :
    (∃ s, shape = .text ∧ v = .text s ∧ u = .text s) ∨ (∃ b, shape = .flag ∧ v = .flag b ∧ u = .flag b) ∨
    (∃ item items values inner, shape = .list item ∧ v = .list items ∧ room = inner + 1 ∧
      u = .list values ∧ List.Forall₂ (fun v u => (toTree v).read inner .required item = .ok u) items values) ∨
    ∃ fields members inner, shape = .record .opened fields ∧ v = .object members ∧ room = inner + 1 ∧
      readMembers inner .opened fields none [] [] (toTreeMembers members) = .ok u := by
  cases v with
  | null => exact absurd rfl set
  | flag b =>
    cases opened with
    | flag =>
      cases read
      exact Or.inr (Or.inl ⟨b, rfl, rfl, rfl⟩)
    | _ => cases read
  | number n => cases n <;> cases opened <;> cases read
  | text s =>
    obtain ⟨s', same, rfl, rfl⟩ := read_text_iff.mp read
    obtain rfl := Except.ok.inj ((verbatim_read s).symm.trans same)
    exact Or.inl ⟨s, rfl, rfl, rfl⟩
  | list items =>
    cases opened with
    | @list item opened =>
      obtain ⟨inner, rfl⟩ := room_of_list read
      obtain ⟨-, values, all, rfl⟩ := read_list_iff.mp read
      exact Or.inr (Or.inr (Or.inl ⟨_, items, values, inner, rfl, rfl, rfl, rfl, forall₂_toTrees.mp all⟩))
    | _ => cases room <;> cases read
  | object members =>
    cases opened with
    | record distinct optional each =>
      obtain ⟨inner, rfl⟩ := room_of_object read
      rw [toTree, Tree.read] at read
      exact Or.inr (Or.inr (Or.inr ⟨_, members, inner, rfl, rfl, rfl, read⟩))
    | _ => cases room <;> cases read

theorem dropUnsetItems_eq (items : List Json) (item : Shape) :
    dropUnsetItems items item = items.map fun v => dropUnset v item := by
  induction items with
  | nil => rfl
  | cons v rest ih => rw [dropUnsetItems, ih, List.map_cons]

theorem dropUnsetMembers_keys (members : List (String × Json)) (fields : Fields) :
    ((dropUnsetMembers members fields).map Prod.fst).Sublist (members.map Prod.fst) := by
  induction members with
  | nil => exact List.Sublist.refl _
  | cons m rest ih =>
    obtain ⟨key, v⟩ := m
    rw [dropUnsetMembers]
    split
    · exact ih.cons_cons key
    · split
      · exact ih.cons key
      · exact ih.cons_cons key

/-- Leaving members out keeps the others sorted. -/
theorem dropUnsetMembers_ascending (sorted : Ascending members) :
    Ascending (dropUnsetMembers members fields) := by
  have keys : (members.map Prod.fst).Pairwise (· < ·) := List.pairwise_map.mpr sorted
  exact List.pairwise_map.mp (keys.sublist (dropUnsetMembers_keys members fields))

/-- At a declared key stands what was set there, without its own unset members; elsewhere nothing changes. -/
theorem lookup_dropUnsetMembers (distinct : (members.map Prod.fst).Nodup) (key : String) :
    (dropUnsetMembers members fields).lookup key = match fields.lookup key with
      | none => members.lookup key
      | some (_, shape) => (given members key).map fun v => dropUnset v shape := by
  induction members with
  | nil => cases fields.lookup key <;> rfl
  | cons m rest ih =>
    obtain ⟨k, v⟩ := m
    obtain ⟨unique, later⟩ := distinct_cons.mp distinct
    rw [dropUnsetMembers]
    by_cases same : key = k
    · subst same
      have after := ih later
      simp only [given, unique] at after
      cases lookup : fields.lookup key with
      | none => simp
      | some f =>
        rw [lookup] at after
        simp only [given, lookup_cons_ite, if_true]
        cases v with
        | null => simpa [isNull] using after
        | _ => simp [isNull]
    · simp only [given] at ih ⊢
      rw [lookup_cons_ite, if_neg same, ← ih later]
      split
      · rw [lookup_cons_ite, if_neg same]
      · split
        · rfl
        · rw [lookup_cons_ite, if_neg same]

theorem complete_of_optional (optional : ∀ f ∈ fields, f.2.1 = .optional) (found : List (String × Json)) :
    complete fields found = true := by
  refine List.all_eq_true.mpr fun f member => ?_
  obtain ⟨key, need, shape⟩ := f
  simpa using Or.inl (optional _ member)

/-- The reading of a member of a record, if that of a value of its shape is as it should be. -/
theorem readMembers_given {all members : List (String × Json)} {key : String} {need : Need} {small : Nat}
    (each : ∀ v w, v.Ascends → v.Bounded numbers small → v ≠ .null →
      (toTree v).read room need shape = .ok w → Document numbers small shape w ∧ w.normal = dropUnset v shape)
    (ascends : ∀ m ∈ members, m.2.Ascends) (bounded : ∀ m ∈ members, m.2.Bounded numbers small)
    (reading : ∀ v, members.lookup key = some v →
      ∃ w, (toTree v).read room need shape = .ok w ∧ all.lookup key = some w)
    (absent : members.lookup key = none → all.lookup key = none) :
    (∀ w, given all key = some w → Document numbers small shape w) ∧
      (given all key).map normal = (given members key).map fun v => dropUnset v shape := by
  cases value : members.lookup key with
  | none =>
    rw [given_of_absent (absent value), given_of_absent value]
    exact ⟨fun w none => (nomatch none), rfl⟩
  | some v =>
    obtain ⟨w, read, value'⟩ := reading v value
    by_cases unset : v = .null
    · subst unset
      have null : w = .null := by
        rw [toTree, Tree.read] at read
        split at read
        · cases read
          rfl
        · cases read
      rw [given_of_null value, given_of_null (null ▸ value')]
      exact ⟨fun w none => (nomatch none), rfl⟩
    · have member := mem_of_lookup value
      obtain ⟨document, normal⟩ := each v w (ascends _ member) (bounded _ member) unset read
      rw [given_eq_some.mpr ⟨value', document.not_null⟩, given_eq_some.mpr ⟨value, unset⟩]
      refine ⟨fun w' same => ?_, congrArg some normal⟩
      cases same
      exact document

/-- The reading of an open record, if that of each declared member is as it should be. -/
theorem read_record (distinct : (fields.map Prod.fst).Nodup) {small : Nat} (fits : small ≤ room)
    (each : ∀ f ∈ fields, ∀ v w, v.Ascends → v.Bounded numbers small → v ≠ .null →
      (toTree v).read room f.2.1 f.2.2 = .ok w →
        Document numbers small f.2.2 w ∧ w.normal = dropUnset v f.2.2)
    (sorted : Ascending members) (ascends : ∀ m ∈ members, m.2.Ascends)
    (bounded : ∀ m ∈ members, m.2.Bounded numbers small)
    (read : readMembers room .opened fields none [] [] (toTreeMembers members) = .ok u) :
    Document numbers (small + 1) (.record .opened fields) u ∧
      u.normal = .object (dropUnsetMembers members fields) := by
  obtain ⟨all, rfl, reading⟩ :=
    readMembers_eq sorted.distinct (fun m member => (bounded m member).1.trans fits) read
  obtain ⟨others, kept⟩ : ∃ others, others = members.filter fun m => (fields.lookup m.1).isNone := ⟨_, rfl⟩
  have inside {m : String × Json} (member : m ∈ others) : m ∈ members := by
    rw [kept] at member
    exact List.mem_of_mem_filter member
  have free : Free numbers small fields others := by
    refine ⟨fun m member => ?_, kept ▸ sorted.filter _, fun m member => ascends m (inside member),
      fun m member => bounded m (inside member)⟩
    rw [kept] at member
    simpa using (List.mem_filter.mp member).2
  have value (f : String × Need × Shape) (member : f ∈ fields) :=
    readMembers_given (each f member) ascends bounded
      (reading f.1 f.2.1 f.2.2 (lookup_of_field distinct member)).1
      (reading f.1 f.2.1 f.2.2 (lookup_of_field distinct member)).2
  rw [← kept, normalMembers_ascends free.ascends, free.sorted.insertAll_nil, normalRecord_opened]
  refine ⟨.record (fun f member => (value f member).1) free, ?_⟩
  obtain ⟨result, normal, ascending, lookup⟩ := record_normal distinct free (given all)
  rw [normal]
  refine congrArg _ (ascending.ext (dropUnsetMembers_ascending sorted) fun key => ?_)
  rw [lookup, lookup_dropUnsetMembers sorted.distinct]
  cases field : fields.lookup key with
  | none =>
    rw [kept, lookup_filter fun key => (fields.lookup key).isNone, field]
    rfl
  | some f => exact (value (key, f) (mem_of_lookup field)).2

/-- The reading of a list, if that of each item is as it should be. -/
theorem read_items {item : Shape} {items values : List Json} {small : Nat}
    (each : ∀ v w, v.Ascends → v.Bounded numbers small → v ≠ .null →
      (toTree v).read room .required item = .ok w → Document numbers small item w ∧ w.normal = dropUnset v item)
    (ascends : ∀ v ∈ items, v.Ascends) (bounded : ∀ v ∈ items, v.Bounded numbers small)
    (read : List.Forall₂ (fun v u => (toTree v).read room .required item = .ok u) items values) :
    (∀ w ∈ values, Document numbers small item w) ∧
      values.map normal = items.map fun v => dropUnset v item := by
  induction read with
  | nil => exact ⟨fun w member => (nomatch member), rfl⟩
  | @cons v w items values read rest ih =>
    obtain ⟨here, ascends⟩ := List.forall_mem_cons.mp ascends
    obtain ⟨here', bounded⟩ := List.forall_mem_cons.mp bounded
    have set : v ≠ .null := by
      rintro rfl
      cases read
    obtain ⟨document, normal⟩ := each v w here here' set read
    obtain ⟨documents, normals⟩ := ih ascends bounded
    refine ⟨List.forall_mem_cons.mpr ⟨document, documents⟩, ?_⟩
    rw [List.map_cons, List.map_cons, normal, normals]

/-- What is read of a value is a document: the value without the declared members that are `null`. -/
theorem read_toTree (opened : shape.Open) {need : Need} {small : Nat} (fits : small ≤ room)
    (sorted : v.Ascends) (bounded : v.Bounded numbers small) (set : v ≠ .null)
    (read : (toTree v).read room need shape = .ok u) :
    Document numbers small shape u ∧ u.normal = dropUnset v shape := by
  induction opened generalizing small room need v u with
  | text =>
    obtain ⟨s, -, rfl, rfl⟩ | ⟨b, other, -⟩ | ⟨_, _, _, _, other, -⟩ | ⟨_, _, _, other, -⟩ :=
      read_cases .text set read
    · exact ⟨.text s, rfl⟩
    all_goals cases other
  | flag =>
    obtain ⟨s, other, -⟩ | ⟨b, -, rfl, rfl⟩ | ⟨_, _, _, _, other, -⟩ | ⟨_, _, _, other, -⟩ :=
      read_cases .flag set read
    · cases other
    · exact ⟨.flag b, rfl⟩
    all_goals cases other
  | list opened ih =>
    obtain ⟨s, other, -⟩ | ⟨b, other, -⟩ | ⟨_, items, values, inner, same, rfl, rfl, rfl, read⟩ |
      ⟨_, _, _, other, -⟩ := read_cases (.list opened) set read
    · cases other
    · cases other
    · cases same
      cases small with
      | zero => exact absurd bounded not_bounded_list_zero
      | succ small =>
        obtain ⟨documents, normals⟩ := read_items
          (fun v w sorted bounded set read => ih (Nat.le_of_succ_le_succ fits) sorted bounded set read)
          (ascends_list.mp sorted) (bounded_list.mp bounded) read
        refine ⟨.list documents, ?_⟩
        rw [normal, normalItems_eq, dropUnset, dropUnsetItems_eq, normals]
    · cases other
  | record distinct optional opened ih =>
    obtain ⟨s, other, -⟩ | ⟨b, other, -⟩ | ⟨_, _, _, _, other, -⟩ |
      ⟨_, members, inner, same, rfl, rfl, read⟩ := read_cases (.record distinct optional opened) set read
    · cases other
    · cases other
    · cases other
    · cases same
      cases small with
      | zero => exact absurd bounded not_bounded_object_zero
      | succ small =>
        obtain ⟨sorted, ascends⟩ := ascends_object.mp sorted
        have inside : small ≤ inner := Nat.le_of_succ_le_succ fits
        exact read_record distinct inside
          (fun f member v w sorted bounded set read => ih f member inside sorted bounded set read)
          sorted ascends (bounded_object.mp bounded) read

theorem readMembers_normal (distinct : (fields.map Prod.fst).Nodup)
    (optional : ∀ f ∈ fields, f.2.1 = .optional) {small : Nat} (fits : small ≤ room)
    (free : Free numbers small fields others) {found : String → Option Json}
    (documents : ∀ f ∈ fields, ∀ v, found f.1 = some v → Document numbers small f.2.2 v)
    (each : ∀ f ∈ fields, ∀ v, found f.1 = some v → (toTree v.normal).read room f.2.1 f.2.2 = .ok v)
    {sorted : List (String × Json)} (ascending : Ascending sorted)
    (lookup : ∀ key, sorted.lookup key =
      if (fields.lookup key).isSome then (found key).map normal else others.lookup key) :
    readMembers room .opened fields none [] [] (toTreeMembers sorted) =
      .ok (.object (declared fields found ++ others)) := by
  have reading (m : String × Json) (member : m ∈ sorted) (need : Need) (shape : Shape)
      (field : fields.lookup m.1 = some (need, shape)) :
      ∃ w, (toTree m.2).read room need shape = .ok w := by
    have value := lookup m.1
    rw [lookup_of_mem ascending.distinct member, field] at value
    obtain ⟨w, set, same⟩ := Option.map_eq_some_iff.mp value.symm
    exact ⟨w, same ▸ each _ (mem_of_lookup field) w set⟩
  have shallow (m : String × Json) (member : m ∈ sorted) : m.2.depth ≤ room := by
    have value := lookup m.1
    rw [lookup_of_mem ascending.distinct member] at value
    cases field : fields.lookup m.1 with
    | none =>
      rw [field] at value
      exact (free.bounded _ (mem_of_lookup value.symm)).1.trans fits
    | some f =>
      rw [field] at value
      obtain ⟨w, set, same⟩ := Option.map_eq_some_iff.mp value.symm
      exact same ▸ depth_normal ((documents _ (mem_of_lookup field) w set).bounded.1.trans fits)
  have success : ∃ u, readMembers room .opened fields none [] [] (toTreeMembers sorted) = .ok u :=
    readMembers_ok (complete_of_optional optional) ascending.distinct shallow (fun _ _ => rfl) reading
  obtain ⟨u, read⟩ := success
  obtain ⟨all, result, values⟩ := readMembers_eq ascending.distinct shallow read
  -- Both sides are sorted, so it is enough that they agree at every key.
  have kept : sorted.filter (fun m => (fields.lookup m.1).isNone) = others := by
    refine Ascending.ext (ascending.filter _) free.sorted fun key => ?_
    rw [lookup_filter fun key => (fields.lookup key).isNone, lookup]
    cases field : fields.lookup key with
    | none => rfl
    | some f => exact (free.absent (field ▸ rfl)).symm
  have set : declared fields (given all) = declared fields found := by
    refine List.filterMap_congr fun f member => ?_
    have field := lookup_of_field distinct member
    obtain ⟨present, absent⟩ := values f.1 f.2.1 f.2.2 field
    have value := lookup f.1
    rw [field] at value
    cases here : found f.1 with
    | none =>
      rw [here] at value
      rw [given_of_absent (absent value)]
    | some w =>
      rw [here] at value
      obtain ⟨w', read', stored⟩ := present w.normal value
      rw [each f member w here] at read'
      cases read'
      rw [given_eq_some.mpr ⟨stored, (documents f member w here).not_null⟩]
  rw [read, result, kept, normalMembers_ascends free.ascends, free.sorted.insertAll_nil,
    normalRecord_opened, set]

/-- A document is read back from its normal form. -/
theorem Document.read (opened : shape.Open) {need : Need} {small : Nat} (fits : small ≤ room)
    (document : Document numbers small shape u) : (toTree u.normal).read room need shape = .ok u := by
  induction document generalizing room need with
  | text s => exact read_text_iff.mpr ⟨s, verbatim_read s, rfl, rfl⟩
  | flag b => rfl
  | @list small item items documents ih =>
    obtain ⟨inner, rfl⟩ : ∃ inner, room = inner + 1 := ⟨room - 1, by omega⟩
    cases opened with
    | list opened =>
      have inside : small ≤ inner := Nat.le_of_succ_le_succ fits
      rw [normal, toTree, normalItems_eq]
      refine read_list_iff.mpr ⟨rfl, items, forall₂_toTrees.mpr ?_, rfl⟩
      rw [List.forall₂_map_left_iff, List.forall₂_same]
      exact fun v member => ih v member opened inside
  | @record small fields found others documents free ih =>
    obtain ⟨inner, rfl⟩ : ∃ inner, room = inner + 1 := ⟨room - 1, by omega⟩
    have inside : small ≤ inner := Nat.le_of_succ_le_succ fits
    cases opened with
    | record distinct optional opened =>
      obtain ⟨sorted, normal, ascending, lookup⟩ := record_normal distinct free found
      rw [normal, toTree, Tree.read]
      exact readMembers_normal distinct optional inside free documents
        (fun f member v set => ih f member v set (opened f member) inside) ascending lookup

end VehicleLink.Json
