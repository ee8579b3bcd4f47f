import VehicleLink.Proofs.Json.Grammar

namespace VehicleLink.Json

/-- A reading of a tree goes on with the tokens of more text. -/
def State.feed (st : State) (cs : List Char) : State := (tokens cs).foldl State.step st

/-- A token that is written is one step of the reading. -/
theorem State.feed_spelled {st : State} {token : Token} {cs rest : List Char}
    (spelled : Spaced token.Spells cs rest) : st.feed cs = (st.step token).feed rest := by
  rw [feed, tokens_spelled spelled, List.foldl_cons, feed]

theorem State.foldl_done (tree : Tree) (ts : List Token) : ts.foldl State.step (.done tree) = .done tree := by
  induction ts with
  | nil => rfl
  | cons token ts ih => exact ih

/-- A value may begin in the state, inside these frames. -/
def State.TakesValue (st : State) (frames : List Frame) : Prop :=
  ∀ token, token ≠ .listClose → st.step token = .readValue frames token

/-- A key may begin in the state, after these members and inside these frames. -/
def State.TakesKey (st : State) (members : List (Written × Tree)) (frames : List Frame) : Prop :=
  ∀ token, token ≠ .objectClose → st.step token = .readKey members frames token

theorem State.valueDue_takesValue (frames : List Frame) : (valueDue frames).TakesValue frames :=
  fun _ _ => rfl

theorem State.listStart_takesValue (frames : List Frame) :
    (listStart frames).TakesValue (.list [] :: frames) := by
  intro token other
  cases token with
  | listClose => exact absurd rfl other
  | _ => rfl

theorem State.keyDue_takesKey (members : List (Written × Tree)) (frames : List Frame) :
    (keyDue members frames).TakesKey members frames :=
  fun _ _ => rfl

theorem State.objectStart_takesKey (frames : List Frame) : (objectStart frames).TakesKey [] frames := by
  intro token other
  cases token with
  | objectClose => exact absurd rfl other
  | _ => rfl

section Taken

/-- Wherever the value is written it is taken as a whole. -/
def Tree.TakenWhole (t : Tree) : Prop :=
  ∀ {st : State} {frames : List Frame} {cs rest : List Char}, st.TakesValue frames →
    Spaced t.Spells cs rest → st.feed cs = (State.deliver t frames).feed rest

variable {st : State} {frames : List Frame} {cs rest : List Char}

/-- The items of a list that are taken as a whole make up the list. -/
theorem feed_items {ts items : List Tree} (each : ∀ t ∈ ts, t.TakenWhole) (spelled : ItemsSpell ts cs rest) :
    (State.afterItem items frames).feed cs =
      (State.deliver (.list (items.reverse ++ ts) none) frames).feed rest := by
  induction ts generalizing items cs with
  | nil => rw [State.feed_spelled spelled, State.step, List.append_nil]
  | cons t ts ih =>
    obtain ⟨here, later⟩ := List.forall_mem_cons.mp each
    obtain ⟨due, after, comma, item, more⟩ := spelled
    rw [State.feed_spelled comma, State.step, here (State.valueDue_takesValue _) item, State.deliver,
      ih later more, List.reverse_cons, List.append_assoc, List.singleton_append]

theorem feed_member {key : Written} {t : Tree} {members : List (Written × Tree)} {colon due : List Char}
    (taken : t.TakenWhole) (ready : st.TakesKey members frames) (named : Spaced key.Spells cs colon)
    (mark : Spaced Token.colon.Spells colon due) (value : Spaced t.Spells due rest) :
    st.feed cs = (State.afterMember ((key, t) :: members) frames).feed rest := by
  obtain ⟨pieces, flaw⟩ := key
  obtain ⟨here, space, sound, text⟩ := named
  obtain rfl : flaw = none := sound
  have named : Spaced (Token.text pieces none).Spells cs colon := ⟨here, space, rfl, text⟩
  rw [State.feed_spelled named, ready _ (by simp), State.readKey, State.feed_spelled mark, State.step,
    taken (State.valueDue_takesValue _) value, State.deliver]

/-- The members of an object that are taken as a whole make up the object. -/
theorem feed_members {ms members : List (Written × Tree)} (each : ∀ m ∈ ms, m.2.TakenWhole)
    (spelled : MembersSpell ms cs rest) :
    (State.afterMember members frames).feed cs =
      (State.deliver (.object (members.reverse ++ ms) none) frames).feed rest := by
  induction ms generalizing members cs with
  | nil => rw [State.feed_spelled spelled, State.step, List.append_nil]
  | cons m ms ih =>
    obtain ⟨key, t⟩ := m
    obtain ⟨here, later⟩ := List.forall_mem_cons.mp each
    obtain ⟨next, colon, due, after, comma, named, mark, value, more⟩ := spelled
    rw [State.feed_spelled comma, State.step, feed_member here (State.keyDue_takesKey members frames) named mark value,
      ih later more, List.reverse_cons, List.append_assoc, List.singleton_append]

/-- A value is taken as a whole wherever it is written. -/
theorem Tree.takenWhole (t : Tree) : t.TakenWhole := by
  intro st frames cs rest ready spelled
  -- The state and its frames stay general: the values inside are taken within more frames.
  induction t generalizing st frames cs rest with
  | null =>
    have spelled : Spaced Token.null.Spells cs rest := spelled
    rw [State.feed_spelled spelled, ready _ (by simp), State.readValue]
  | flag b =>
    have spelled : Spaced (Token.flag b).Spells cs rest := spelled
    rw [State.feed_spelled spelled, ready _ (by simp), State.readValue]
  | number value =>
    obtain ⟨here, space, n, numeral, rfl⟩ := spelled
    have spelled : Spaced (Token.number n).Spells cs rest := ⟨here, space, numeral⟩
    rw [State.feed_spelled spelled, ready _ (by simp), State.readValue]
  | text t =>
    obtain ⟨pieces, flaw⟩ := t
    obtain ⟨here, space, sound, text⟩ := spelled
    obtain rfl : flaw = none := sound
    have spelled : Spaced (Token.text pieces none).Spells cs rest := ⟨here, space, rfl, text⟩
    rw [State.feed_spelled spelled, ready _ (by simp), State.readValue]
  | list items flaw ih =>
    have each : ∀ t ∈ items, t.TakenWhole := fun t member => ih t member
    obtain ⟨here, space, spelled⟩ := spelled
    cases flaw with
    | some f => cases items <;> exact spelled.elim
    | none =>
      cases items with
      | nil =>
        obtain ⟨inner, opening, closing⟩ := spelled
        rw [State.feed_spelled ⟨here, space, opening⟩, ready _ (by simp), State.readValue, State.feed_spelled closing,
          State.step]
      | cons t ts =>
        obtain ⟨first, later⟩ := List.forall_mem_cons.mp each
        obtain ⟨inner, after, opening, item, more⟩ := spelled
        rw [State.feed_spelled ⟨here, space, opening⟩, ready _ (by simp), State.readValue,
          first (State.listStart_takesValue frames) item, State.deliver, feed_items later more]
        rfl
  | object members flaw ih =>
    have each : ∀ m ∈ members, m.2.TakenWhole := fun m member => ih m member
    obtain ⟨here, space, spelled⟩ := spelled
    cases flaw with
    | some f => cases members <;> exact spelled.elim
    | none =>
      cases members with
      | nil =>
        obtain ⟨inner, opening, closing⟩ := spelled
        rw [State.feed_spelled ⟨here, space, opening⟩, ready _ (by simp), State.readValue,
          State.feed_spelled closing, State.step]
      | cons m ms =>
        obtain ⟨first, later⟩ := List.forall_mem_cons.mp each
        obtain ⟨inner, colon, due, after, opening, named, mark, value, more⟩ := spelled
        rw [State.feed_spelled ⟨here, space, opening⟩, ready _ (by simp), State.readValue,
          feed_member first (State.objectStart_takesKey frames) named mark value, feed_members later more]
        rfl
  | brokenNumber flaw => exact spelled.choose_spec.2.elim
  | stray flaw => exact spelled.choose_spec.2.elim

end Taken

section Sound

variable {t : Tree} {items : List Tree} {members : List (Written × Tree)} {m : Written × Tree} {cs rest : List Char}

theorem skipItems_eq_none : skipItems items = none ↔ ∀ t ∈ items, t.skip = none := by
  induction items with
  | nil => simp [skipItems]
  | cons t rest ih => simp [skipItems, ih]

theorem skipMembers_eq_none :
    skipMembers members = none ↔ ∀ m ∈ members, m.1.flaw = none ∧ m.2.skip = none := by
  induction members with
  | nil => simp [skipMembers]
  | cons m rest ih => simp [skipMembers, ih, and_assoc]

theorem ItemsSpell.mem (spelled : ItemsSpell items cs rest) (member : t ∈ items) :
    ∃ here after, t.Spells here after := by
  induction items generalizing cs with
  | nil => cases member
  | cons u items ih =>
    obtain ⟨due, after, _, ⟨here, _, item⟩, more⟩ := spelled
    rcases List.mem_cons.mp member with rfl | later
    · exact ⟨here, after, item⟩
    · exact ih more later

theorem MembersSpell.mem (spelled : MembersSpell members cs rest) (member : m ∈ members) :
    m.1.flaw = none ∧ ∃ here after, m.2.Spells here after := by
  induction members generalizing cs with
  | nil => cases member
  | cons n members ih =>
    obtain ⟨next, colon, due, after, _, ⟨_, _, named⟩, _, ⟨here, _, value⟩, more⟩ := spelled
    rcases List.mem_cons.mp member with rfl | later
    · exact ⟨named.1, here, after, value⟩
    · exact ih more later

theorem Tree.Spells.list_mem {flaw : Option Flaw} (spelled : (Tree.list items flaw).Spells cs rest)
    (member : t ∈ items) : ∃ here after, t.Spells here after := by
  cases items with
  | nil => cases member
  | cons u items =>
    cases flaw with
    | some f => exact spelled.elim
    | none =>
      obtain ⟨inner, after, _, ⟨here, _, item⟩, more⟩ := spelled
      rcases List.mem_cons.mp member with rfl | later
      · exact ⟨here, after, item⟩
      · exact more.mem later

theorem Tree.Spells.object_mem {flaw : Option Flaw} (spelled : (Tree.object members flaw).Spells cs rest)
    (member : m ∈ members) : m.1.flaw = none ∧ ∃ here after, m.2.Spells here after := by
  cases members with
  | nil => cases member
  | cons n members =>
    cases flaw with
    | some f => exact spelled.elim
    | none =>
      obtain ⟨inner, colon, due, after, _, ⟨_, _, named⟩, _, ⟨here, _, value⟩, more⟩ := spelled
      rcases List.mem_cons.mp member with rfl | later
      · exact ⟨named.1, here, after, value⟩
      · exact more.mem later

/-- Nothing is wrong with a value that is written. -/
theorem Tree.Spells.sound (spelled : t.Spells cs rest) : t.skip = none := by
  induction t generalizing cs rest with
  | null => rfl
  | flag b => rfl
  | number value => rfl
  | text t => exact spelled.1
  | list items flaw ih =>
    obtain rfl : flaw = none := by
      cases flaw with
      | none => rfl
      | some f => cases items <;> exact spelled.elim
    have each : skipItems items = none := skipItems_eq_none.mpr fun t member => by
      obtain ⟨_, _, item⟩ := spelled.list_mem member
      exact ih t member item
    rw [Tree.skip, each]
    rfl
  | object members flaw ih =>
    obtain rfl : flaw = none := by
      cases flaw with
      | none => rfl
      | some f => cases members <;> exact spelled.elim
    have each : skipMembers members = none := skipMembers_eq_none.mpr fun m member => by
      obtain ⟨named, _, _, value⟩ := spelled.object_mem member
      exact ⟨named, ih m member value⟩
    rw [Tree.skip, each]
    rfl
  | brokenNumber flaw => exact spelled.elim
  | stray flaw => exact spelled.elim

end Sound

section Completes

/-- With a value read inside the frames, the text goes on to a whole tree. -/
def Closes : List Frame → Tree → List Char → Tree → Prop
  | [], t, _, root => root = t
  | .list items :: frames, t, cs, root => ∃ more rest, ItemsSpell more cs rest ∧
      Closes frames (.list ((t :: items).reverse ++ more) none) rest root
  | .object members key :: frames, t, cs, root => ∃ more rest, MembersSpell more cs rest ∧
      Closes frames (.object (((key, t) :: members).reverse ++ more) none) rest root

/-- From the state the text goes on to a whole tree. -/
def State.Completes : State → List Char → Tree → Prop
  | .valueDue frames, cs, root => ∃ t rest, Spaced t.Spells cs rest ∧ Closes frames t rest root
  | .listStart frames, cs, root => ∃ items rest, (Tree.list items none).Spells ('[' :: cs) rest ∧
      Closes frames (.list items none) rest root
  | .objectStart frames, cs, root => ∃ members rest, (Tree.object members none).Spells ('\x7b' :: cs) rest ∧
      Closes frames (.object members none) rest root
  | .keyDue members frames, cs, root => ∃ key t colon due rest, Spaced key.Spells cs colon ∧
      Spaced Token.colon.Spells colon due ∧ Spaced t.Spells due rest ∧
        Closes (.object members key :: frames) t rest root
  | .colonDue members key frames, cs, root => ∃ t due rest, Spaced Token.colon.Spells cs due ∧
      Spaced t.Spells due rest ∧ Closes (.object members key :: frames) t rest root
  | .afterItem items frames, cs, root => ∃ more rest, ItemsSpell more cs rest ∧
      Closes frames (.list (items.reverse ++ more) none) rest root
  | .afterMember members frames, cs, root => ∃ more rest, MembersSpell more cs rest ∧
      Closes frames (.object (members.reverse ++ more) none) rest root
  | .done tree, _, root => root = tree

variable {st : State} {frames : List Frame} {members : List (Written × Tree)} {token : Token} {cs rest : List Char}
  {root : Tree}

/-- A value that has been read is completed by what closes the containers around it. -/
theorem deliver_completes {t : Tree} :
    (State.deliver t frames).Completes cs root ↔ Closes frames t cs root := by
  cases frames with
  | nil => rfl
  | cons frame frames => cases frame <;> rfl

theorem abandon_flawed {flaw : Flaw} {t : Tree} (flawed : t.skip ≠ none) : (abandon flaw t frames).skip ≠ none := by
  induction frames generalizing t with
  | nil => exact flawed
  | cons frame frames ih =>
    cases frame with
    | list items => exact ih (by simp [Tree.skip])
    | object members key => exact ih (by simp [Tree.skip])

/-- Where the reading has stopped at a flaw, the tree that comes of it is flawed. -/
theorem stop_completes {flaw : Flaw} {t : Tree} (flawed : t.skip ≠ none)
    (stopped : (State.stop flaw t frames).Completes cs root) : root.skip ≠ none := by
  obtain rfl : root = abandon flaw t frames := stopped
  exact abandon_flawed flawed

/-- What completes a state after the first token of a value completes the value, and then what is around it. -/
theorem readValue_completes (sound : root.skip = none) (first : Spaced token.Spells cs rest)
    (later : (State.readValue frames token).Completes rest root) :
    ∃ t after, Spaced t.Spells cs after ∧ Closes frames t after root := by
  obtain ⟨here, space, spelled⟩ := first
  cases token with
  | null => exact ⟨.null, rest, ⟨here, space, spelled⟩, deliver_completes.mp later⟩
  | flag b => exact ⟨.flag b, rest, ⟨here, space, spelled⟩, deliver_completes.mp later⟩
  | number n => exact ⟨.number n.value?, rest, ⟨here, space, n, spelled, rfl⟩, deliver_completes.mp later⟩
  | text pieces flaw =>
    obtain rfl : flaw = none := spelled.1
    exact ⟨.text ⟨pieces, none⟩, rest, ⟨here, space, spelled⟩, deliver_completes.mp later⟩
  | listOpen =>
    obtain rfl : here = '[' :: rest := spelled
    obtain ⟨items, after, list, closes⟩ := later
    exact ⟨.list items none, after, ⟨_, space, list⟩, closes⟩
  | objectOpen =>
    obtain rfl : here = '\x7b' :: rest := spelled
    obtain ⟨members, after, object, closes⟩ := later
    exact ⟨.object members none, after, ⟨_, space, object⟩, closes⟩
  | brokenNumber flaw => cases spelled
  | stray flaw => cases spelled
  | _ => exact absurd sound (stop_completes (by simp [Tree.skip]) later)

theorem readKey_completes (sound : root.skip = none) (first : Spaced token.Spells cs rest)
    (later : (State.readKey members frames token).Completes rest root) :
    (State.keyDue members frames).Completes cs root := by
  obtain ⟨here, space, spelled⟩ := first
  cases token with
  | text pieces flaw =>
    obtain rfl : flaw = none := spelled.1
    obtain ⟨t, due, after, mark, value, closes⟩ := later
    exact ⟨⟨pieces, none⟩, t, rest, due, after, ⟨here, space, spelled⟩, mark, value, closes⟩
  | _ => exact absurd sound (stop_completes (by simp [Tree.skip]) later)

/-- What completes the state after a token completes the state before it together with the token. -/
theorem step_completes (sound : root.skip = none) (first : Spaced token.Spells cs rest)
    (later : (st.step token).Completes rest root) : st.Completes cs root := by
  cases st with
  | valueDue frames =>
    obtain ⟨t, after, value, closes⟩ := readValue_completes sound first later
    exact ⟨t, after, value, closes⟩
  | listStart frames =>
    by_cases close : token = .listClose
    · subst close
      exact ⟨[], rest, ⟨cs, rfl, first⟩, deliver_completes.mp later⟩
    · rw [State.listStart_takesValue frames token close] at later
      obtain ⟨t, after, item, more, end_, items, closes⟩ := readValue_completes sound first later
      exact ⟨t :: more, end_, ⟨cs, after, rfl, item, items⟩, closes⟩
  | objectStart frames =>
    by_cases close : token = .objectClose
    · subst close
      exact ⟨[], rest, ⟨cs, rfl, first⟩, deliver_completes.mp later⟩
    · rw [State.objectStart_takesKey frames token close] at later
      obtain ⟨key, t, colon, due, after, named, mark, value, more, end_, members, closes⟩ :=
        readKey_completes sound first later
      exact ⟨(key, t) :: more, end_, ⟨cs, colon, due, after, rfl, named, mark, value, members⟩, closes⟩
  | keyDue members frames => exact readKey_completes sound first later
  | colonDue members key frames =>
    cases token with
    | colon =>
      obtain ⟨t, after, value, closes⟩ := later
      exact ⟨t, rest, after, first, value, closes⟩
    | _ => exact absurd sound (stop_completes (by simp [Tree.skip]) later)
  | afterItem items frames =>
    cases token with
    | comma =>
      obtain ⟨t, after, item, more, end_, spelled, closes⟩ := later
      refine ⟨t :: more, end_, ⟨rest, after, first, item, spelled⟩, ?_⟩
      rwa [List.reverse_cons, List.append_assoc, List.singleton_append] at closes
    | listClose =>
      refine ⟨[], rest, first, ?_⟩
      rw [List.append_nil]
      exact deliver_completes.mp later
    | _ => exact absurd sound (stop_completes (by simp [Tree.skip]) later)
  | afterMember members frames =>
    cases token with
    | comma =>
      obtain ⟨key, t, colon, due, after, named, mark, value, more, end_, spelled, closes⟩ := later
      refine ⟨(key, t) :: more, end_, ⟨rest, colon, due, after, first, named, mark, value, spelled⟩, ?_⟩
      rwa [List.reverse_cons, List.append_assoc, List.singleton_append] at closes
    | objectClose =>
      refine ⟨[], rest, first, ?_⟩
      rw [List.append_nil]
      exact deliver_completes.mp later
    | _ => exact absurd sound (stop_completes (by simp [Tree.skip]) later)
  | done tree => exact later

/-- No reading goes on after a broken token. -/
theorem step_broken (st : State) (broken : ¬token.Sound) :
    (∃ t, st = .done t) ∨ ∃ t, t.skip ≠ none ∧ st.step token = .done t := by
  cases st with
  | done t => exact Or.inl ⟨t, rfl⟩
  | _ =>
    cases token with
    | text pieces flaw =>
      cases flaw with
      | none => exact absurd rfl broken
      | some f => exact Or.inr ⟨_, abandon_flawed (by simp [Tree.skip]), rfl⟩
    | brokenNumber flaw => exact Or.inr ⟨_, abandon_flawed (by simp [Tree.skip]), rfl⟩
    | stray flaw => exact Or.inr ⟨_, abandon_flawed (by simp [Tree.skip]), rfl⟩
    | _ => exact absurd trivial broken

/-- A reading that ends in a tree without flaw has gone through a text that completes its state. -/
theorem feed_completes (sound : (st.feed cs).finish.skip = none) : st.Completes cs (st.feed cs).finish := by
  -- By induction on the length of the text: a token that is not broken leaves a shorter one.
  induction size : cs.length using Nat.strong_induction_on generalizing st cs with
  | h n ih =>
    subst size
    cases ts : tokens cs with
    | nil =>
      have stays : st.feed cs = st := by rw [State.feed, ts, List.foldl_nil]
      rw [stays] at sound ⊢
      -- A text that ends too early leaves a flaw, so there is a whole tree already.
      cases st with
      | done t => rfl
      | _ => exact absurd sound (abandon_flawed (by simp [Tree.skip]))
    | cons token more =>
      by_cases whole : token.Sound
      · obtain ⟨rest, first, _, shorter⟩ := spelled_of_tokens ts whole
        rw [State.feed_spelled first] at sound ⊢
        exact step_completes sound first (ih rest.length shorter sound rfl)
      · have goes : st.feed cs = more.foldl State.step (st.step token) := by
          rw [State.feed, ts, List.foldl_cons]
        rcases step_broken st whole with ⟨t, rfl⟩ | ⟨t, flawed, stops⟩
        · rw [goes, State.step, State.foldl_done]
          rfl
        · rw [goes, stops, State.foldl_done] at sound
          exact absurd sound flawed

end Completes

/-- The tree of a text is a value without flaw exactly when the text begins with that value. -/
theorem Tree.begins_iff {t : Tree} {s : String} : t.Begins s ↔ Tree.ofText s = t ∧ t.skip = none := by
  have reads : Tree.ofText s = ((State.valueDue []).feed s.toList).finish := rfl
  constructor
  · rintro ⟨rest, spelled⟩
    have taken := t.takenWhole (State.valueDue_takesValue []) spelled
    -- With the value taken the reading is done, whatever follows.
    rw [reads, taken, State.deliver, State.feed, State.foldl_done]
    obtain ⟨_, _, spelled⟩ := spelled
    exact ⟨rfl, spelled.sound⟩
  · rintro ⟨rfl, sound⟩
    rw [reads] at sound ⊢
    obtain ⟨t, rest, spelled, same⟩ := feed_completes sound
    obtain rfl : _ = t := same
    exact ⟨rest, spelled⟩

end VehicleLink.Json
