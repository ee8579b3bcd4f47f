import VehicleLink.Proofs.Json.Documents
import VehicleLink.Proofs.Json.Readings
import VehicleLink.Proofs.Json.Written

namespace VehicleLink.Json

variable {room : Nat} {need : Need} {shape : Shape} {fields : Fields} {flaw : Option Flaw} {u : Json}

section Members

variable {name : Written} {t : Tree} {key : String} {members : List (Written × Tree)}
  {found others : List (String × Json)}

theorem readMembers_cons_other (named : name.read = .ok key) (field : fields.lookup key = none) :
    readMembers room .closed fields flaw found others ((name, t) :: members) = .ok u ↔
      t.skip = none ∧ readMembers room .closed fields flaw found others members = .ok u := by
  rw [readMembers, named]
  simp only [orFlaw, bind, Except.bind, field]
  cases t.skip with
  | none => simp
  | some f => simp [flawed]

/-- What the members of an object are taken for in a closed record: the declared ones are read, and all others
are passed over. -/
inductive Taken (room : Nat) (fields : Fields) : List (Written × Tree) → List (String × Json) → Prop
  | nil : Taken room fields [] []
  | declared {name : Written} {t : Tree} {rest : List (Written × Tree)} {entries : List (String × Json)}
      {key : String} {need : Need} {shape : Shape} {v : Json} (named : name.read = .ok key)
      (field : fields.lookup key = some (need, shape)) (value : t.read room need shape = .ok v)
      (later : Taken room fields rest entries) : Taken room fields ((name, t) :: rest) ((key, v) :: entries)
  | other {name : Written} {t : Tree} {rest : List (Written × Tree)} {entries : List (String × Json)}
      {key : String} (named : name.read = .ok key) (field : fields.lookup key = none) (valid : t.skip = none)
      (later : Taken room fields rest entries) : Taken room fields ((name, t) :: rest) entries

/-- The members of an object are read as those of a closed record when no declared one comes twice and none is
missing that is needed. -/
theorem readMembers_closed : readMembers room .closed fields flaw found others members = .ok u ↔
    flaw = none ∧ ∃ entries, Taken room fields members entries ∧ (entries.map Prod.fst).Nodup ∧
      (∀ e ∈ entries, found.lookup e.1 = none) ∧ complete fields (entries.reverse ++ found) = true ∧
      u = normalRecord .closed fields (entries.reverse ++ found) others := by
  constructor
  · intro read
    -- What has been found before grows with every declared member, at its front.
    induction members generalizing found with
    | nil =>
      obtain ⟨sound, all, result⟩ := readMembers_nil.mp read
      exact ⟨sound, [], .nil, List.nodup_nil, by simp, all, result⟩
    | cons m rest ih =>
      obtain ⟨name, t⟩ := m
      cases named : name.read with
      | error f => exact absurd read (readMembers_cons_unnamed named)
      | ok key =>
        cases field : fields.lookup key with
        | none =>
          obtain ⟨valid, read⟩ := (readMembers_cons_other named field).mp read
          obtain ⟨sound, entries, taken, facts⟩ := ih read
          exact ⟨sound, entries, .other named field valid taken, facts⟩
        | some declared =>
          obtain ⟨need, shape⟩ := declared
          obtain ⟨fresh, v, value, read⟩ := (readMembers_cons_declared named field).mp read
          obtain ⟨sound, entries, taken, distinct, absent, all, result⟩ := ih read
          refine ⟨sound, (key, v) :: entries, .declared named field value taken, ?_, ?_, ?_, ?_⟩
          · refine distinct_cons.mpr ⟨lookup_none_of_forall_ne fun e member => ?_, distinct⟩
            exact key_ne_of_lookup_none (absent e member) List.mem_cons_self |>.symm
          · refine List.forall_mem_cons.mpr ⟨fresh, fun e member => ?_⟩
            have here := absent e member
            rw [lookup_cons_ite] at here
            split at here
            · cases here
            · exact here
          · simpa using all
          · simpa using result
  · rintro ⟨rfl, entries, taken, distinct, absent, all, rfl⟩
    induction taken generalizing found with
    | nil => exact readMembers_nil.mpr ⟨rfl, all, rfl⟩
    | @declared name t rest entries key need shape v named field value later ih =>
      obtain ⟨fresh, absent⟩ := List.forall_mem_cons.mp absent
      obtain ⟨unique, distinct⟩ := distinct_cons.mp distinct
      refine (readMembers_cons_declared named field).mpr ⟨fresh, v, value, ?_⟩
      have once (e : String × Json) (member : e ∈ entries) : ((key, v) :: found).lookup e.1 = none := by
        rw [lookup_cons_ite, if_neg (key_ne_of_lookup_none unique member)]
        exact absent e member
      simpa using ih distinct once (by simpa using all)
    | other named field valid later ih =>
      exact (readMembers_cons_other named field).mpr ⟨valid, ih distinct absent all⟩

/-- An object is read as a closed record when its declared members are, no one of them comes twice, and those
that are needed are there. The record holds what they are read as, in declared order. -/
theorem read_object_iff : (Tree.object members flaw).read (room + 1) need (.record .closed fields) = .ok u ↔
    flaw = none ∧ ∃ entries, Taken room fields members entries ∧ (entries.map Prod.fst).Nodup ∧
      (∀ f ∈ fields, f.2.1 = .optional ∨ (entries.lookup f.1).isSome) ∧
      u = .object (fields.map fun f => (f.1, (entries.lookup f.1).getD .null)) := by
  rw [Tree.read, readMembers_closed]
  have lookup {entries : List (String × Json)} (distinct : (entries.map Prod.fst).Nodup) (key : String) :
      (entries.reverse ++ []).lookup key = entries.lookup key := by
    rw [List.append_nil]
    exact (lookup_of_perm distinct (List.reverse_perm entries).symm key).symm
  refine and_congr_right fun _ => exists_congr fun entries => and_congr_right fun _ =>
    and_congr_right fun distinct => ?_
  simp only [complete, normalRecord, lookup distinct, List.all_eq_true, Bool.or_eq_true, decide_eq_true_eq,
    List.lookup_nil, implies_true, true_and]

end Members

section Columns

variable {index : Nat} {items : List Tree} {found : List (String × Json)}

/-- What the items of a list are read as where they stand for the members of a record, in declared order. -/
inductive Columns (room : Nat) : Fields → List Tree → List (String × Json) → Prop
  | nil : Columns room [] [] []
  | cons {key : String} {need : Need} {shape : Shape} {fields : Fields} {t : Tree} {items : List Tree} {v : Json}
      {found : List (String × Json)} (value : t.read room need shape = .ok v)
      (later : Columns room fields items found) :
      Columns room ((key, need, shape) :: fields) (t :: items) ((key, v) :: found)

theorem readColumns_iff : readColumns room flaw index fields items = .ok found ↔
    flaw = none ∧ Columns room fields items found := by
  constructor
  · intro read
    induction items generalizing fields index found with
    | nil =>
      cases fields with
      | nil =>
        cases flaw with
        | none =>
          cases read
          exact ⟨rfl, .nil⟩
        | some f => cases read
      | cons f fields => cases flaw <;> cases read
    | cons t rest ih =>
      cases fields with
      | nil =>
        rw [readColumns] at read
        cases read
      | cons f fields =>
        obtain ⟨key, need, shape⟩ := f
        rw [readColumns] at read
        simp only [bind_eq_ok, within_eq_ok] at read
        obtain ⟨v, value, entries, more, result⟩ := read
        obtain ⟨sound, later⟩ := ih more
        cases result
        exact ⟨sound, .cons value later⟩
  · rintro ⟨rfl, columns⟩
    induction columns generalizing index with
    | nil => rw [readColumns]
    | cons value later ih =>
      rw [readColumns, value, ih]
      rfl

/-- A list is read as a closed record when it has one item for each declared member. -/
theorem read_columns_iff : (Tree.list items flaw).read (room + 1) need (.record .closed fields) = .ok u ↔
    flaw = none ∧ ∃ entries, Columns room fields items entries ∧
      u = .object (fields.map fun f => (f.1, (entries.lookup f.1).getD .null)) := by
  rw [Tree.read, map_eq_ok]
  simp only [readColumns_iff, normalRecord, and_assoc, exists_and_left]

end Columns

section Forms

/-- Shapes in which every record is closed, its declared members are distinct, and integers have 64 bits. -/
inductive Shape.Closed : Shape → Prop
  | text : Closed .text
  | flag : Closed .flag
  | whole {least greatest : Int} (below : -0x8000000000000000 ≤ least)
      (above : greatest ≤ 0xFFFFFFFFFFFFFFFF) : Closed (.whole least greatest)
  | real : Closed .real
  | list {item : Shape} (each : Closed item) : Closed (.list item)
  | record {fields : Fields} (distinct : (fields.map Prod.fst).Nodup) (each : ∀ f ∈ fields, Closed f.2.2) :
      Closed (.record .closed fields)

/-- A document of closed records in the form in which it is read: every declared member is there, in order, and
`null` where it is unset. -/
inductive Filled : Nat → Need → Shape → Json → Prop
  | unset {room : Nat} {shape : Shape} : Filled room .optional shape .null
  | text {room : Nat} {need : Need} (s : String) : Filled room need .text (.text s)
  | flag {room : Nat} {need : Need} (b : Bool) : Filled room need .flag (.flag b)
  | whole {room : Nat} {need : Need} {least greatest i : Int} (range : least ≤ i ∧ i ≤ greatest) :
      Filled room need (.whole least greatest) (.whole i)
  | real {room : Nat} {need : Need} (x : Float) : Filled room need .real (.real x)
  | list {room : Nat} {need : Need} {item : Shape} {items : List Json}
      (each : ∀ v ∈ items, Filled room .required item v) : Filled (room + 1) need (.list item) (.list items)
  | record {room : Nat} {need : Need} {fields : Fields} {value : String → Json}
      (each : ∀ f ∈ fields, Filled room f.2.1 f.2.2 (value f.1)) :
      Filled (room + 1) need (.record .closed fields) (.object (fields.map fun f => (f.1, value f.1)))

variable {t : Tree}

theorem Taken.mem {members : List (Written × Tree)} {entries : List (String × Json)} {e : String × Json}
    (taken : Taken room fields members entries) (member : e ∈ entries) :
    ∃ m ∈ members, ∃ f, fields.lookup e.1 = some f ∧ m.2.read room f.1 f.2 = .ok e.2 := by
  induction taken with
  | nil => cases member
  | declared named field value later ih =>
    rcases List.mem_cons.mp member with rfl | behind
    · exact ⟨_, List.mem_cons_self, _, field, value⟩
    · obtain ⟨m, inside, facts⟩ := ih behind
      exact ⟨m, List.mem_cons_of_mem _ inside, facts⟩
  | other named field valid later ih =>
    obtain ⟨m, inside, facts⟩ := ih member
    exact ⟨m, List.mem_cons_of_mem _ inside, facts⟩

theorem Columns.keys {items : List Tree} {entries : List (String × Json)}
    (columns : Columns room fields items entries) : entries.map Prod.fst = fields.map Prod.fst := by
  induction columns with
  | nil => rfl
  | cons value later ih => rw [List.map_cons, List.map_cons, ih]

theorem Columns.mem {items : List Tree} {entries : List (String × Json)} {f : String × Need × Shape}
    (columns : Columns room fields items entries) (member : f ∈ fields) :
    ∃ t ∈ items, ∃ v, (f.1, v) ∈ entries ∧ t.read room f.2.1 f.2.2 = .ok v := by
  induction columns with
  | nil => cases member
  | cons value later ih =>
    rcases List.mem_cons.mp member with rfl | behind
    · exact ⟨_, List.mem_cons_self, _, List.mem_cons_self, value⟩
    · obtain ⟨t, inside, v, entry, read⟩ := ih behind
      exact ⟨t, List.mem_cons_of_mem _ inside, v, List.mem_cons_of_mem _ entry, read⟩

theorem exists_of_mem_right {α β : Type} {R : α → β → Prop} {xs : List α} {ys : List β} {y : β}
    (all : List.Forall₂ R xs ys) (member : y ∈ ys) : ∃ x ∈ xs, R x y := by
  induction all with
  | nil => cases member
  | cons related later ih =>
    rcases List.mem_cons.mp member with rfl | behind
    · exact ⟨_, List.mem_cons_self, related⟩
    · obtain ⟨x, inside, related⟩ := ih behind
      exact ⟨x, List.mem_cons_of_mem _ inside, related⟩

/-- What is read of closed records is in the form in which it is read. -/
theorem Filled.of_read (closed : shape.Closed) (read : t.read room need shape = .ok u) :
    Filled room need shape u := by
  induction t generalizing room need shape u with
  | null =>
    rw [Tree.read] at read
    split at read
    · rename_i optional
      cases read
      exact optional ▸ .unset
    · cases read
  | flag b =>
    cases closed <;> cases read
    exact .flag b
  | number n =>
    cases n with
    | none => cases read
    | some n =>
      cases n with
      | whole i =>
        cases closed with
        | whole below above =>
          rw [Tree.read] at read
          split at read
          · rename_i range
            cases read
            exact .whole range
          · cases read
        | real =>
          cases read
          exact .real _
        | _ => cases read
      | real x =>
        cases closed <;> cases read
        exact .real x
  | text t =>
    obtain ⟨s, _, rfl, rfl⟩ := read_text_iff.mp read
    exact .text s
  | list items flaw ih =>
    cases closed with
    | list each =>
      obtain ⟨room, rfl⟩ := room_of_list read
      obtain ⟨_, values, all, rfl⟩ := read_list_iff.mp read
      refine .list fun v member => ?_
      obtain ⟨t, inside, here⟩ := exists_of_mem_right all member
      exact ih t inside each here
    | record distinct each =>
      obtain ⟨room, rfl⟩ := room_of_list read
      obtain ⟨_, entries, columns, rfl⟩ := read_columns_iff.mp read
      refine @Filled.record _ _ _ (fun key => (entries.lookup key).getD .null) fun f member => ?_
      obtain ⟨t, inside, v, entry, here⟩ := columns.mem member
      rw [lookup_of_mem (columns.keys ▸ distinct) entry]
      exact ih t inside (each f member) here
    | _ => cases read
  | object members flaw ih =>
    cases closed with
    | record distinct each =>
      obtain ⟨room, rfl⟩ := room_of_object read
      obtain ⟨_, entries, taken, _, all, rfl⟩ := read_object_iff.mp read
      -- A declared member without an entry is optional, or the record would not have been read.
      refine @Filled.record _ _ _ (fun key => (entries.lookup key).getD .null) fun f member => ?_
      cases here : entries.lookup f.1 with
      | none =>
        rcases all f member with optional | set
        · rw [optional]
          exact .unset
        · rw [here] at set
          cases set
      | some v =>
        obtain ⟨m, inside, _, field, value⟩ := taken.mem (mem_of_lookup here)
        obtain rfl := Option.some.inj ((lookup_of_field distinct member).symm.trans field)
        exact ih m inside (each f member) value
    | _ => cases read
  | brokenNumber flaw => cases read
  | stray flaw => cases read

theorem forall₂_treesWith {spelling : String → Written} {item : Shape} {items : List Json}
    (each : ∀ v ∈ items, (treeWith spelling v).read room .required item = .ok v) :
    List.Forall₂ (fun t v => t.read room .required item = .ok v) (treesWith spelling items) items := by
  induction items with
  | nil => exact .nil
  | cons v rest ih =>
    obtain ⟨here, later⟩ := List.forall_mem_cons.mp each
    exact .cons here (ih later)

theorem taken_memberTreesWith {spelling : String → Written} {value : String → Json} {part : Fields}
    (each : ∀ f ∈ part, fields.lookup f.1 = some f.2 ∧
      (treeWith spelling (value f.1)).read room f.2.1 f.2.2 = .ok (value f.1))
    (read : ∀ s, (spelling s).read = .ok s) :
    Taken room fields (memberTreesWith spelling (part.map fun f => (f.1, value f.1)))
      (part.map fun f => (f.1, value f.1)) := by
  induction part with
  | nil => exact .nil
  | cons f rest ih =>
    obtain ⟨⟨field, here⟩, later⟩ := List.forall_mem_cons.mp each
    exact .declared (read f.1) field here (ih later)

/-- A document of closed records in the form in which it is read is read back as it is. -/
theorem Filled.read {spelling : String → Written} (read : ∀ s, (spelling s).read = .ok s)
    (closed : shape.Closed) (filled : Filled room need shape u) :
    (treeWith spelling u).read room need shape = .ok u := by
  induction filled with
  | unset => rfl
  | text s => exact read_text_iff.mpr ⟨s, read s, rfl, rfl⟩
  | flag b => rfl
  | whole range => exact if_pos range
  | real x => rfl
  | @list room need item items each ih =>
    cases closed with
    | list closed =>
      exact read_list_iff.mpr ⟨rfl, items, forall₂_treesWith fun v member => ih v member closed, rfl⟩
  | @record room need fields value each ih =>
    cases closed with
    | record distinct closed =>
      have keys : ((fields.map fun f => (f.1, value f.1)).map Prod.fst) = fields.map Prod.fst := by simp
      have found {f} (member : f ∈ fields) :
          (fields.map fun f => (f.1, value f.1)).lookup f.1 = some (value f.1) :=
        lookup_of_mem (keys ▸ distinct) (List.mem_map_of_mem member)
      refine read_object_iff.mpr
        ⟨rfl, _, taken_memberTreesWith (fun f member => ?_) read, keys ▸ distinct, ?_, ?_⟩
      · exact ⟨lookup_of_field distinct member, ih f member (closed f member)⟩
      · intro f member
        rw [found member]
        exact Or.inr rfl
      · refine congrArg Json.object (List.map_congr_left fun f member => ?_)
        rw [found member]
        rfl

/-- The integers of a document of closed records have 64 bits. -/
theorem Filled.whole_inRange (closed : shape.Closed) (filled : Filled room need shape u) {i : Int}
    (part : .whole i ∈ u.parts) : Number.InRange (.whole i) := by
  induction filled with
  | unset => cases List.mem_singleton.mp part
  | text s => cases List.mem_singleton.mp part
  | flag b => cases List.mem_singleton.mp part
  | whole range =>
    cases List.mem_singleton.mp part
    cases closed with
    | whole below above => exact ⟨below.trans range.1, range.2.trans above⟩
  | real x => cases List.mem_singleton.mp part
  | list each ih =>
    cases closed with
    | list closed =>
      rcases mem_parts_list.mp part with same | ⟨v, member, part⟩
      · cases same
      · exact ih v member closed part
  | record each ih =>
    cases closed with
    | record distinct closed =>
      rcases mem_parts_object.mp part with same | ⟨m, member, part⟩
      · cases same
      · obtain ⟨f, field, rfl⟩ := List.mem_map.mp member
        exact ih f field (closed f field) part

/-- A document of closed records is read back from what is written for it when its floating-point numbers are. -/
theorem read_toText (closed : shape.Closed) (filled : Filled depthLimit .required shape u)
    (back : ∀ x, .real x ∈ u.parts → Number.ReadsBack (.real x)) : read shape u.toText = .ok u := by
  have numbers (n : Number) (part : .number n ∈ u.parts) : n.ReadsBack := by
    cases n with
    | whole i => exact Number.readsBack_whole (filled.whole_inRange closed part)
    | real x => exact back x part
  rw [Json.read, treeOfText_toText numbers]
  exact filled.read escaped_read closed

end Forms

end VehicleLink.Json
