import VehicleLink.Json.Tree
import VehicleLink.Proofs.Json.Values

namespace VehicleLink

/-- A number that a text can hold: an integer only if it fits in 64 bits, with or without sign. -/
def Number.InRange : Number → Prop
  | .whole n => -0x8000000000000000 ≤ n ∧ n ≤ 0xFFFFFFFFFFFFFFFF
  | .real _ => True

namespace Json

theorem fill64_le {n : Nat} (cs : List Char) (start : n ≤ Decimal.max64) :
    (fill64 n cs).1 ≤ Decimal.max64 := by
  induction cs generalizing n with
  | nil => exact start
  | cons c cs ih =>
    simp only [fill64]
    split
    · rename_i fits
      exact ih fits
    · exact start

theorem Numeral.integer?_inRange {n : Numeral} {i : Int} (value : n.integer? = some i) :
    Number.InRange (.whole i) := by
  have size := fill64_le n.whole (Nat.zero_le Decimal.max64)
  unfold Numeral.integer? at value
  split at value
  · rename_i read
    rw [read] at size
    have limit : Decimal.max64 = 0xFFFFFFFFFFFFFFFF := rfl
    simp only [limit] at size
    split at value
    · cases value
      exact ⟨by omega, by omega⟩
    · split at value
      · cases value
        exact ⟨by omega, by omega⟩
      · cases value
  · cases value

/-- An integer is only made of a numeral that fits in 64 bits. -/
theorem Numeral.value?_inRange {n : Numeral} {v : Number} (value : n.value? = some v) :
    v.InRange := by
  unfold Numeral.value? at value
  split at value
  · rename_i i integer
    cases value
    exact integer?_inRange integer
  · obtain ⟨x, _, rfl⟩ := Option.map_eq_some_iff.mp value
    trivial

/-- Induction over trees, with the items of a list and the members of an object at once. -/
@[induction_eliminator]
theorem Tree.inductionOn {motive : Tree → Prop} (null : motive .null)
    (flag : ∀ b, motive (.flag b)) (number : ∀ n, motive (.number n)) (text : ∀ t, motive (.text t))
    (list : ∀ items flaw, (∀ t ∈ items, motive t) → motive (.list items flaw))
    (object : ∀ members flaw, (∀ m ∈ members, motive m.2) → motive (.object members flaw))
    (brokenNumber : ∀ flaw, motive (.brokenNumber flaw)) (stray : ∀ flaw, motive (.stray flaw))
    (t : Tree) : motive t :=
  @Tree.rec motive (fun items => ∀ t ∈ items, motive t) (fun members => ∀ m ∈ members, motive m.2)
    (fun m => motive m.2) null flag number text list object brokenNumber stray (fun _ member => nomatch member)
    (fun _ _ here later => List.forall_mem_cons.mpr ⟨here, later⟩) (fun _ member => nomatch member)
    (fun _ _ here later => List.forall_mem_cons.mpr ⟨here, later⟩) (fun _ _ here => here) t

mutual
/-- Every number in the tree that has a value has one that satisfies a condition. -/
def Tree.Holds (numbers : Number → Prop) : Tree → Prop
  | .number (some n) => numbers n
  | .list items _ => HoldsItems numbers items
  | .object members _ => HoldsMembers numbers members
  | _ => True

/-- The same for the items of a list. -/
def HoldsItems (numbers : Number → Prop) : List Tree → Prop
  | [] => True
  | t :: rest => t.Holds numbers ∧ HoldsItems numbers rest

/-- The same for the members of an object. -/
def HoldsMembers (numbers : Number → Prop) : List (Written × Tree) → Prop
  | [] => True
  | (_, t) :: rest => t.Holds numbers ∧ HoldsMembers numbers rest
end

variable {numbers : Number → Prop}

theorem Tree.holds_list {items : List Tree} {flaw : Option Flaw} :
    (Tree.list items flaw).Holds numbers ↔ ∀ t ∈ items, t.Holds numbers := by
  rw [Tree.Holds]
  induction items with
  | nil => simp [HoldsItems]
  | cons t rest ih => simp [HoldsItems, ih]

theorem Tree.holds_object {members : List (Written × Tree)} {flaw : Option Flaw} :
    (Tree.object members flaw).Holds numbers ↔ ∀ m ∈ members, m.2.Holds numbers := by
  rw [Tree.Holds]
  induction members with
  | nil => simp [HoldsMembers]
  | cons m rest ih => simp [HoldsMembers, ih]

/-- The trees that an open container holds so far. -/
def Frame.Holds (numbers : Number → Prop) : Frame → Prop
  | .list items => ∀ t ∈ items, t.Holds numbers
  | .object members _ => ∀ m ∈ members, m.2.Holds numbers

/-- The numbers read so far satisfy a condition. -/
def State.Holds (numbers : Number → Prop) : State → Prop
  | .valueDue frames | .listStart frames | .objectStart frames => ∀ f ∈ frames, f.Holds numbers
  | .keyDue members frames | .colonDue members _ frames | .afterMember members frames =>
    (∀ m ∈ members, m.2.Holds numbers) ∧ ∀ f ∈ frames, f.Holds numbers
  | .afterItem items frames => (∀ t ∈ items, t.Holds numbers) ∧ ∀ f ∈ frames, f.Holds numbers
  | .done tree => tree.Holds numbers

theorem State.deliver_holds {tree : Tree} {frames : List Frame} (here : tree.Holds numbers)
    (around : ∀ f ∈ frames, f.Holds numbers) : (State.deliver tree frames).Holds numbers := by
  cases frames with
  | nil => exact here
  | cons f frames =>
    obtain ⟨inner, outer⟩ := List.forall_mem_cons.mp around
    cases f with
    | list items => exact ⟨List.forall_mem_cons.mpr ⟨here, inner⟩, outer⟩
    | object members key => exact ⟨List.forall_mem_cons.mpr ⟨here, inner⟩, outer⟩

theorem abandon_holds {flaw : Flaw} {tree : Tree} {frames : List Frame}
    (here : tree.Holds numbers) (around : ∀ f ∈ frames, f.Holds numbers) :
    (abandon flaw tree frames).Holds numbers := by
  induction frames generalizing tree with
  | nil => exact here
  | cons f frames ih =>
    obtain ⟨inner, outer⟩ := List.forall_mem_cons.mp around
    cases f with
    | list items =>
      refine ih (Tree.holds_list.mpr fun t member => ?_) outer
      exact List.forall_mem_cons.mpr ⟨here, inner⟩ t (List.mem_reverse.mp member)
    | object members key =>
      refine ih (Tree.holds_object.mpr fun m member => ?_) outer
      rcases List.mem_cons.mp (List.mem_reverse.mp member) with new | old
      · exact new ▸ here
      · exact inner m old

/-- A token changes nothing about numbers that satisfy a condition, if its own one does. -/
theorem State.readValue_holds {frames : List Frame} {token : Token}
    (own : ∀ n v, token = .number n → n.value? = some v → numbers v)
    (around : ∀ f ∈ frames, f.Holds numbers) : (State.readValue frames token).Holds numbers := by
  have stop (flaw : Flaw) (tree : Tree) (here : tree.Holds numbers) :
      (State.stop flaw tree frames).Holds numbers := abandon_holds here around
  cases token with
  | null => exact deliver_holds trivial around
  | flag b => exact deliver_holds trivial around
  | number n =>
    refine deliver_holds ?_ around
    cases value : n.value? with
    | none => trivial
    | some v => exact own n v rfl value
  | text pieces flaw =>
    cases flaw with
    | none => exact deliver_holds trivial around
    | some flaw => exact stop flaw _ trivial
  | listOpen => exact around
  | objectOpen => exact around
  | brokenNumber flaw => exact stop flaw _ trivial
  | stray flaw => exact stop flaw _ trivial
  | listClose => exact stop _ _ trivial
  | objectClose => exact stop _ _ trivial
  | colon => exact stop _ _ trivial
  | comma => exact stop _ _ trivial

theorem State.readKey_holds {members : List (Written × Tree)} {frames : List Frame} {token : Token}
    (inner : ∀ m ∈ members, m.2.Holds numbers) (around : ∀ f ∈ frames, f.Holds numbers) :
    (State.readKey members frames token).Holds numbers := by
  have closed (flaw : Flaw) :
      (State.stop flaw (.object members.reverse (some flaw)) frames).Holds numbers := by
    refine abandon_holds (Tree.holds_object.mpr fun m member => ?_) around
    exact inner m (List.mem_reverse.mp member)
  cases token with
  | text pieces flaw =>
    cases flaw with
    | none => exact ⟨inner, around⟩
    | some flaw =>
      refine abandon_holds (Tree.holds_object.mpr fun m member => ?_) around
      rcases List.mem_cons.mp (List.mem_reverse.mp member) with new | old
      · exact new ▸ trivial
      · exact inner m old
  | _ => exact closed .malformed

/-- A step of the reading keeps a condition on all numbers, if the number of its token satisfies it. -/
theorem State.step_holds {st : State} {token : Token} (held : st.Holds numbers)
    (own : ∀ n v, token = .number n → n.value? = some v → numbers v) :
    (st.step token).Holds numbers := by
  have listed (items : List Tree) (flaw : Option Flaw) (inner : ∀ t ∈ items, t.Holds numbers) :
      (Tree.list items.reverse flaw).Holds numbers :=
    Tree.holds_list.mpr fun t member => inner t (List.mem_reverse.mp member)
  have grouped (members : List (Written × Tree)) (flaw : Option Flaw)
      (inner : ∀ m ∈ members, m.2.Holds numbers) :
      (Tree.object members.reverse flaw).Holds numbers :=
    Tree.holds_object.mpr fun m member => inner m (List.mem_reverse.mp member)
  cases st with
  | valueDue frames => exact readValue_holds own held
  | listStart frames =>
    by_cases close : token = .listClose
    · subst close
      exact deliver_holds (Tree.holds_list.mpr (by simp)) held
    · have opened : State.step (.listStart frames) token = .readValue (.list [] :: frames) token := by
        cases token <;> first | rfl | exact absurd rfl close
      rw [opened]
      exact readValue_holds own (List.forall_mem_cons.mpr ⟨by simp [Frame.Holds], held⟩)
  | objectStart frames =>
    by_cases close : token = .objectClose
    · subst close
      exact deliver_holds (Tree.holds_object.mpr (by simp)) held
    · have opened : State.step (.objectStart frames) token = .readKey [] frames token := by
        cases token <;> first | rfl | exact absurd rfl close
      rw [opened]
      exact readKey_holds (by simp) held
  | keyDue members frames => exact readKey_holds held.1 held.2
  | colonDue members key frames =>
    have inside : ∀ f ∈ Frame.object members key :: frames, f.Holds numbers :=
      List.forall_mem_cons.mpr ⟨held.1, held.2⟩
    cases token with
    | colon => exact inside
    | _ => exact abandon_holds trivial inside
  | afterItem items frames =>
    cases token with
    | comma => exact List.forall_mem_cons.mpr ⟨held.1, held.2⟩
    | listClose => exact deliver_holds (listed items none held.1) held.2
    | _ => exact abandon_holds (listed items _ held.1) held.2
  | afterMember members frames =>
    cases token with
    | comma => exact held
    | objectClose => exact deliver_holds (grouped members none held.1) held.2
    | _ => exact abandon_holds (grouped members _ held.1) held.2
  | done tree => exact held

theorem State.foldl_holds {st : State} {ts : List Token} (held : st.Holds numbers)
    (own : ∀ (n : Numeral) v, n.value? = some v → numbers v) : (ts.foldl State.step st).Holds numbers := by
  induction ts generalizing st with
  | nil => exact held
  | cons token ts ih => exact ih (step_holds held fun n v _ => own n v)

theorem State.finish_holds {st : State} (held : st.Holds numbers) : st.finish.Holds numbers := by
  cases st with
  | valueDue frames => exact abandon_holds trivial held
  | listStart frames => exact abandon_holds (Tree.holds_list.mpr (by simp)) held
  | objectStart frames => exact abandon_holds (Tree.holds_object.mpr (by simp)) held
  | keyDue members frames =>
    exact abandon_holds (Tree.holds_object.mpr fun m member => held.1 m (List.mem_reverse.mp member))
      held.2
  | colonDue members key frames =>
    exact abandon_holds trivial (List.forall_mem_cons.mpr ⟨held.1, held.2⟩)
  | afterItem items frames =>
    exact abandon_holds (Tree.holds_list.mpr fun t member => held.1 t (List.mem_reverse.mp member))
      held.2
  | afterMember members frames =>
    exact abandon_holds (Tree.holds_object.mpr fun m member => held.1 m (List.mem_reverse.mp member))
      held.2
  | done tree => exact held

/-- The integers of a text fit in 64 bits, wherever they stand. -/
theorem Tree.ofText_holds (s : String) : (Tree.ofText s).Holds Number.InRange :=
  State.finish_holds (State.foldl_holds (by simp [State.Holds]) fun _ _ => Numeral.value?_inRange)

/-- What is kept of a list is kept of its items. -/
theorem mem_of_keepItems {room : Nat} {flaw : Option Flaw} {items : List Tree} {values : List Json}
    (kept : keepItems room flaw items = .ok values) :
    ∀ v ∈ values, ∃ t ∈ items, t.keep room = .ok v := by
  induction items generalizing values with
  | nil =>
    cases flaw with
    | none => cases kept; simp
    | some flaw => cases kept
  | cons t rest ih =>
    simp only [keepItems, bind, Except.bind] at kept
    split at kept
    · cases kept
    · rename_i v here
      split at kept
      · cases kept
      · rename_i later restKept
        cases kept
        intro u member
        rcases List.mem_cons.mp member with same | behind
        · exact ⟨t, List.mem_cons_self, same ▸ here⟩
        · obtain ⟨t', inRest, keep⟩ := ih restKept u behind
          exact ⟨t', List.mem_cons_of_mem _ inRest, keep⟩

/-- What is kept of an object is sorted, and kept of its members. -/
theorem mem_of_keepMembers {room : Nat} {flaw : Option Flaw} {members : List (Written × Tree)}
    {before after : List (String × Json)} (kept : keepMembers room flaw before members = .ok after)
    (sorted : Ascending before) :
    Ascending after ∧ ∀ m ∈ after, m ∈ before ∨ ∃ n ∈ members, n.2.keep room = .ok m.2 := by
  induction members generalizing before with
  | nil =>
    cases flaw with
    | none => cases kept; exact ⟨sorted, fun m member => Or.inl member⟩
    | some flaw => cases kept
  | cons n rest ih =>
    obtain ⟨key, t⟩ := n
    simp only [keepMembers, bind, Except.bind] at kept
    split at kept
    · cases kept
    · split at kept
      · cases kept
      · rename_i v here
        obtain ⟨sorted', origin⟩ := ih kept sorted.insert
        refine ⟨sorted', fun m member => ?_⟩
        rcases origin m member with inserted | ⟨n, inRest, keep⟩
        · rcases mem_insert inserted with new | old
          · exact Or.inr ⟨(key, t), List.mem_cons_self, new ▸ here⟩
          · exact Or.inl old
        · exact Or.inr ⟨n, List.mem_cons_of_mem _ inRest, keep⟩

/-- A value that is kept has its members sorted, fits in the room there was, and has only numbers of
the tree. -/
theorem Tree.keep_bounded {room : Nat} {t : Tree} {v : Json} (kept : t.keep room = .ok v)
    (held : t.Holds numbers) : v.Ascends ∧ v.Bounded numbers room := by
  induction t generalizing room v with
  | null => cases kept; simp [Ascends, Bounded, depth, parts]
  | flag b => cases kept; simp [Ascends, Bounded, depth, parts]
  | number value =>
    cases value with
    | none => cases kept
    | some n =>
      cases kept
      refine ⟨by simp [Ascends, parts], by simp [depth], fun m part => ?_⟩
      simp only [parts, List.mem_singleton, Json.number.injEq] at part
      exact part ▸ held
  | text t =>
    rw [Tree.keep] at kept
    cases read : t.read with
    | error flaw => simp [read, Except.map] at kept
    | ok s =>
      simp only [read, Except.map, Except.ok.injEq] at kept
      subst kept
      simp [Ascends, Bounded, depth, parts]
  | list items flaw ih =>
    cases room with
    | zero => cases kept
    | succ room =>
      rw [Tree.keep] at kept
      cases read : keepItems room flaw items with
      | error flaw => simp [read, Except.map] at kept
      | ok values =>
        simp only [read, Except.map, Except.ok.injEq] at kept
        subst kept
        have each (u : Json) (member : u ∈ values) : u.Ascends ∧ u.Bounded numbers room := by
          obtain ⟨t, inItems, keep⟩ := mem_of_keepItems read u member
          exact ih t inItems keep (Tree.holds_list.mp held t inItems)
        exact ⟨ascends_list.mpr fun u member => (each u member).1,
          bounded_list.mpr fun u member => (each u member).2⟩
  | object members flaw ih =>
    cases room with
    | zero => cases kept
    | succ room =>
      rw [Tree.keep] at kept
      cases read : keepMembers room flaw [] members with
      | error flaw => simp [read, Except.map] at kept
      | ok after =>
        simp only [read, Except.map, Except.ok.injEq] at kept
        subst kept
        obtain ⟨sorted, origin⟩ := mem_of_keepMembers read List.Pairwise.nil
        have each (m : String × Json) (member : m ∈ after) :
            m.2.Ascends ∧ m.2.Bounded numbers room := by
          rcases origin m member with none | ⟨n, inMembers, keep⟩
          · cases none
          · exact ih n inMembers keep (Tree.holds_object.mp held n inMembers)
        exact ⟨ascends_object.mpr ⟨sorted, fun m member => (each m member).1⟩,
          bounded_object.mpr fun m member => (each m member).2⟩
  | brokenNumber flaw => cases kept
  | stray flaw => cases kept

/-- The first value of a text has its members sorted. -/
theorem ofText_ascends {s : String} {v : Json} (read : ofText s = .ok v) : v.Ascends :=
  (Tree.keep_bounded read (Tree.ofText_holds s)).1

/-- The first value of a text is no deeper than allowed, and its integers fit in 64 bits. -/
theorem ofText_bounded {s : String} {v : Json} (read : ofText s = .ok v) :
    v.Bounded Number.InRange depthLimit :=
  (Tree.keep_bounded read (Tree.ofText_holds s)).2

end Json

end VehicleLink
