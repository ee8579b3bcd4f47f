import VehicleLink.Proofs.Json.Closed

namespace VehicleLink.Json

/-- A value that can be written. -/
def Tree.Valid (t : Tree) : Prop := ∃ cs rest, t.Spells cs rest

/-- One rewriting of a document of a shape. -/
inductive Rewrite : Shape → Tree → Tree → Prop
  /-- The members of a record may stand in any order. -/
  | permute {fields : Fields} {members members' : List (Written × Tree)} (perm : members.Perm members') :
      Rewrite (.record .closed fields) (.object members none) (.object members' none)
  /-- A member may be added that is not declared. -/
  | undeclared {fields : Fields} {members : List (Written × Tree)} {name : Written} {key : String} {t : Tree}
      (named : name.read = .ok key) (undeclared : fields.lookup key = none) (valid : t.Valid) :
      Rewrite (.record .closed fields) (.object members none) (.object ((name, t) :: members) none)
  /-- A declared member may be added as null if it is missing. -/
  | unset {fields : Fields} {members : List (Written × Tree)} {name : Written} {key : String}
      (named : name.read = .ok key) (declared : (fields.lookup key).isSome)
      (missing : ∀ m ∈ members, m.1.read ≠ .ok key) :
      Rewrite (.record .closed fields) (.object members none) (.object ((name, .null) :: members) none)
  /-- The value of a member that is not declared may be any other. -/
  | skipped {fields : Fields} {members : List (Written × Tree)} {name : Written} {key : String} {t t' : Tree}
      (named : name.read = .ok key) (undeclared : fields.lookup key = none) (valid : t'.Valid) :
      Rewrite (.record .closed fields) (.object ((name, t) :: members) none) (.object ((name, t') :: members) none)
  /-- The value of a declared member may be rewritten. -/
  | member {fields : Fields} {members : List (Written × Tree)} {name : Written} {key : String} {need : Need}
      {shape : Shape} {t t' : Tree} (named : name.read = .ok key) (declared : fields.lookup key = some (need, shape))
      (value : Rewrite shape t t') :
      Rewrite (.record .closed fields) (.object ((name, t) :: members) none) (.object ((name, t') :: members) none)
  | item {item : Shape} {before after : List Tree} {t t' : Tree} (value : Rewrite item t t') :
      Rewrite (.list item) (.list (before ++ t :: after) none) (.list (before ++ t' :: after) none)
  | column {fields : Fields} {before after : List Tree} {key : String} {need : Need} {shape : Shape} {t t' : Tree}
      (declared : fields[before.length]? = some (key, need, shape)) (value : Rewrite shape t t') :
      Rewrite (.record .closed fields) (.list (before ++ t :: after) none) (.list (before ++ t' :: after) none)

variable {room : Nat} {need : Need} {shape : Shape} {fields : Fields} {t t' : Tree} {u : Json}

section Members

variable {members members' : List (Written × Tree)} {entries : List (String × Json)}

/-- In another order the members of an object are taken for the same entries, in another order. -/
theorem Taken.perm (perm : members.Perm members') (taken : Taken room fields members entries) :
    ∃ entries', Taken room fields members' entries' ∧ entries.Perm entries' := by
  induction perm generalizing entries with
  | nil => exact ⟨entries, taken, .refl _⟩
  | cons m perm ih =>
    cases taken with
    | declared named field value later =>
      obtain ⟨entries', taken', same⟩ := ih later
      exact ⟨_, .declared named field value taken', same.cons _⟩
    | other named field valid later =>
      obtain ⟨entries', taken', same⟩ := ih later
      exact ⟨entries', .other named field valid taken', same⟩
  | swap m n rest =>
    -- The entries of two neighbours change places only if both members are declared.
    cases taken with
    | declared named field value later =>
      cases later with
      | declared named' field' value' later =>
        exact ⟨_, .declared named' field' value' (.declared named field value later), .swap _ _ _⟩
      | other named' field' valid' later =>
        exact ⟨_, .other named' field' valid' (.declared named field value later), .refl _⟩
    | other named field valid later =>
      cases later with
      | declared named' field' value' later =>
        exact ⟨_, .declared named' field' value' (.other named field valid later), .refl _⟩
      | other named' field' valid' later =>
        exact ⟨_, .other named' field' valid' (.other named field valid later), .refl _⟩
  | trans _ _ first second =>
    obtain ⟨_, taken', same⟩ := first taken
    obtain ⟨_, taken'', same'⟩ := second taken'
    exact ⟨_, taken'', same.trans same'⟩

theorem Taken.missing {key : String} (taken : Taken room fields members entries)
    (missing : ∀ m ∈ members, m.1.read ≠ .ok key) : entries.lookup key = none := by
  induction taken with
  | nil => rfl
  | @declared _ _ _ _ key' _ _ _ named field value later ih =>
    obtain ⟨here, missing⟩ := List.forall_mem_cons.mp missing
    have other : key ≠ key' := by
      rintro rfl
      exact here named
    rw [lookup_cons_ite, if_neg other]
    exact ih missing
  | other named field valid later ih => exact ih (List.forall_mem_cons.mp missing).2

/-- A declared member may be written in any other way that is read as the same. -/
theorem Taken.cons_of_declared {name : Written} {key : String}
    (taken : Taken room fields ((name, t) :: members) entries)
    (named : name.read = .ok key) (declared : fields.lookup key = some (need, shape))
    (value : ∀ {v}, t.read room need shape = .ok v → t'.read room need shape = .ok v) :
    Taken room fields ((name, t') :: members) entries := by
  cases taken with
  | declared named' declared' here later =>
    cases named.symm.trans named'
    cases declared.symm.trans declared'
    exact .declared named declared (value here) later
  | other named' undeclared valid later =>
    cases named.symm.trans named'
    cases declared.symm.trans undeclared

/-- A member that nobody declared may hold any value in which nothing is wrong. -/
theorem Taken.cons_of_undeclared {name : Written} {key : String}
    (taken : Taken room fields ((name, t) :: members) entries)
    (named : name.read = .ok key) (undeclared : fields.lookup key = none) (valid : t'.skip = none) :
    Taken room fields ((name, t') :: members) entries := by
  cases taken with
  | declared named' declared here later =>
    cases named.symm.trans named'
    cases undeclared.symm.trans declared
  | other named' _ _ later => exact .other named undeclared valid later

end Members

theorem exists_of_mem_left {α β : Type} {R : α → β → Prop} {xs : List α} {ys : List β} {x : α}
    (all : List.Forall₂ R xs ys) (member : x ∈ xs) : ∃ y ∈ ys, R x y :=
  exists_of_mem_right all.flip member

section Items

variable {before after : List Tree}

theorem forall₂_replace {R : Tree → Json → Prop} {values : List Json}
    (all : List.Forall₂ R (before ++ t :: after) values) (value : ∀ {v}, R t v → R t' v) :
    List.Forall₂ R (before ++ t' :: after) values := by
  induction before generalizing values with
  | nil =>
    cases all with
    | cons here later => exact .cons (value here) later
  | cons _ before ih =>
    cases all with
    | cons here later => exact .cons here (ih later)

/-- One item of a list may be written in any other way that is read as the same. -/
theorem Columns.replace {key : String} {entries : List (String × Json)}
    (columns : Columns room fields (before ++ t :: after) entries)
    (declared : fields[before.length]? = some (key, need, shape))
    (value : ∀ {v}, t.read room need shape = .ok v → t'.read room need shape = .ok v) :
    Columns room fields (before ++ t' :: after) entries := by
  induction before generalizing fields entries with
  | nil =>
    cases columns with
    | cons here later =>
      cases declared
      exact .cons (value here) later
  | cons _ before ih =>
    cases columns with
    | cons here later => exact .cons here (ih later declared)

end Items

/-- Nothing is wrong with a value that can be written. -/
theorem Tree.Valid.sound (valid : t.Valid) : t.skip = none := by
  obtain ⟨_, _, spelled⟩ := valid
  exact spelled.sound

theorem joinPieces_sound {flaw : Option Flaw} {pieces : List Piece} {cs : List Char}
    (read : joinPieces flaw pieces = .ok cs) : flaw = none := by
  fun_induction joinPieces flaw pieces generalizing cs with
  | case1 none => exact none
  | case3 c rest ih | case4 n rest single ih | case8 n high alone m rest low ih =>
    obtain ⟨_, later, _⟩ := map_eq_ok.mp read
    exact ih later
  | _ => cases read

theorem Written.sound_of_read {name : Written} {key : String} (named : name.read = .ok key) :
    name.flaw = none := by
  obtain ⟨cs, joined, _⟩ := map_eq_ok.mp named
  exact joinPieces_sound joined

theorem Taken.sound {members : List (Written × Tree)} {entries : List (String × Json)}
    (taken : Taken room fields members entries) {m : Written × Tree} (member : m ∈ members) :
    m.1.flaw = none ∧ (m.2.skip = none ∨ ∃ f ∈ fields, ∃ v, m.2.read room f.2.1 f.2.2 = .ok v) := by
  induction taken with
  | nil => cases member
  | declared named field value later ih =>
    rcases List.mem_cons.mp member with rfl | behind
    · exact ⟨Written.sound_of_read named, Or.inr ⟨_, mem_of_lookup field, _, value⟩⟩
    · exact ih behind
  | other named field valid later ih =>
    rcases List.mem_cons.mp member with rfl | behind
    · exact ⟨Written.sound_of_read named, Or.inl valid⟩
    · exact ih behind

theorem Columns.read_of_mem {items : List Tree} {entries : List (String × Json)}
    (columns : Columns room fields items entries) (member : t ∈ items) :
    ∃ f ∈ fields, ∃ v, t.read room f.2.1 f.2.2 = .ok v := by
  induction columns with
  | nil => cases member
  | cons value later ih =>
    rcases List.mem_cons.mp member with rfl | behind
    · exact ⟨_, List.mem_cons_self, _, value⟩
    · obtain ⟨f, declared, read⟩ := ih behind
      exact ⟨f, List.mem_cons_of_mem _ declared, read⟩

/-- Nothing is wrong with what is read of closed records. -/
theorem Tree.sound_of_read (closed : shape.Closed) (read : t.read room need shape = .ok u) : t.skip = none := by
  induction t generalizing room need shape u with
  | null => rfl
  | flag b => rfl
  | number n => rfl
  | text t =>
    obtain ⟨s, text, _⟩ := read_text_iff.mp read
    exact Written.sound_of_read text
  | list items flaw ih =>
    cases closed with
    | list closed =>
      obtain ⟨room, rfl⟩ := room_of_list read
      obtain ⟨rfl, values, all, _⟩ := read_list_iff.mp read
      have sound : skipItems items = none := skipItems_eq_none.mpr fun t member => by
        obtain ⟨v, _, value⟩ := exists_of_mem_left all member
        exact ih t member closed value
      rw [Tree.skip, sound]
      rfl
    | record distinct closed =>
      obtain ⟨room, rfl⟩ := room_of_list read
      obtain ⟨rfl, entries, columns, _⟩ := read_columns_iff.mp read
      have sound : skipItems items = none := skipItems_eq_none.mpr fun t member => by
        obtain ⟨f, declared, v, value⟩ := columns.read_of_mem member
        exact ih t member (closed f declared) value
      rw [Tree.skip, sound]
      rfl
    | _ => cases read
  | object members flaw ih =>
    cases closed with
    | record distinct closed =>
      obtain ⟨room, rfl⟩ := room_of_object read
      obtain ⟨rfl, entries, taken, _⟩ := read_object_iff.mp read
      have sound : skipMembers members = none := skipMembers_eq_none.mpr fun m member => by
        obtain ⟨named, valid | ⟨f, declared, v, value⟩⟩ := taken.sound member
        · exact ⟨named, valid⟩
        · exact ⟨named, ih m member (closed f declared) value⟩
      rw [Tree.skip, sound]
      rfl
    | _ => cases read
  | brokenNumber flaw => cases read
  | stray flaw => cases read

/-- A document that has been rewritten is read as before. -/
theorem Rewrite.read (rewrite : Rewrite shape t t') (read : t.read room need shape = .ok u) :
    t'.read room need shape = .ok u := by
  induction rewrite generalizing room need u with
  | permute perm =>
    obtain ⟨room, rfl⟩ := room_of_object read
    obtain ⟨sound, entries, taken, distinct, all, rfl⟩ := read_object_iff.mp read
    obtain ⟨entries', taken', same⟩ := taken.perm perm
    have lookup := lookup_of_perm distinct same
    refine read_object_iff.mpr ⟨sound, entries', taken', (same.map _).nodup_iff.mp distinct, ?_, ?_⟩
    · simpa only [lookup] using all
    · simp only [lookup]
  | undeclared named undeclared valid =>
    obtain ⟨room, rfl⟩ := room_of_object read
    obtain ⟨sound, entries, taken, facts⟩ := read_object_iff.mp read
    exact read_object_iff.mpr ⟨sound, entries, .other named undeclared valid.sound taken, facts⟩
  | @unset fields members name key named declared missing =>
    obtain ⟨room, rfl⟩ := room_of_object read
    obtain ⟨sound, entries, taken, distinct, all, rfl⟩ := read_object_iff.mp read
    have absent := taken.missing missing
    obtain ⟨⟨need, shape⟩, declared⟩ := Option.isSome_iff_exists.mp declared
    -- Only an optional member can be missing.
    obtain rfl : need = .optional := by
      rcases all _ (mem_of_lookup declared) with optional | set
      · exact optional
      · rw [absent] at set
        cases set
    have lookup (k : String) :
        (((key, Json.null) :: entries).lookup k).getD .null = (entries.lookup k).getD .null := by
      rw [lookup_cons_ite]
      split
      · rename_i same
        rw [same, absent]
        rfl
      · rfl
    refine read_object_iff.mpr ⟨sound, (key, .null) :: entries, .declared named declared rfl taken,
      distinct_cons.mpr ⟨absent, distinct⟩, fun f member => (all f member).imp_right fun set => ?_, ?_⟩
    · rw [lookup_cons_ite]
      split
      · rfl
      · exact set
    · simp only [lookup]
  | skipped named undeclared valid =>
    obtain ⟨room, rfl⟩ := room_of_object read
    obtain ⟨sound, entries, taken, facts⟩ := read_object_iff.mp read
    exact read_object_iff.mpr ⟨sound, entries, taken.cons_of_undeclared named undeclared valid.sound, facts⟩
  | member named declared value ih =>
    obtain ⟨room, rfl⟩ := room_of_object read
    obtain ⟨sound, entries, taken, facts⟩ := read_object_iff.mp read
    exact read_object_iff.mpr ⟨sound, entries, taken.cons_of_declared named declared ih, facts⟩
  | item value ih =>
    obtain ⟨room, rfl⟩ := room_of_list read
    obtain ⟨sound, values, all, rfl⟩ := read_list_iff.mp read
    exact read_list_iff.mpr ⟨sound, values, forall₂_replace all ih, rfl⟩
  | column declared value ih =>
    obtain ⟨room, rfl⟩ := room_of_list read
    obtain ⟨sound, entries, columns, rfl⟩ := read_columns_iff.mp read
    exact read_columns_iff.mpr ⟨sound, entries, columns.replace declared ih, rfl⟩

end VehicleLink.Json
