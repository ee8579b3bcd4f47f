import VehicleLink.Json.Shape
import Mathlib.Data.List.Forall2

namespace VehicleLink.Json

/-- Two steps succeed exactly if the first does, and then the second. -/
theorem bind_eq_ok {ε α β : Type} {x : Except ε α} {f : α → Except ε β} {b : β} :
    (x >>= f) = .ok b ↔ ∃ a, x = .ok a ∧ f a = .ok b := by
  cases x <;> simp [bind, Except.bind]

/-- A function of a result succeeds exactly if the result does. -/
theorem map_eq_ok {ε α β : Type} {x : Except ε α} {f : α → β} {b : β} :
    x.map f = .ok b ↔ ∃ a, x = .ok a ∧ b = f a := by
  cases x <;> simp [Except.map, eq_comm]

theorem within_eq_ok {α : Type} {step : Step} {x : Except Problem α} {a : α} :
    within step x = .ok a ↔ x = .ok a := by
  cases x <;> simp [within]

theorem endAt_eq_ok {α : Type} {flaw : Option Flaw} {a b : α} :
    endAt a flaw = .ok b ↔ flaw = none ∧ b = a := by
  cases flaw <;> simp [endAt, flawed, eq_comm]

variable {room : Nat} {need : Need} {shape : Shape} {flaw : Option Flaw} {u : Json}

/-- A text is read under the shape of texts only, as what it spells. -/
theorem read_text_iff {t : Written} :
    (Tree.text t).read room need shape = .ok u ↔ ∃ s, t.read = .ok s ∧ shape = .text ∧ u = .text s := by
  cases here : t.read with
  | error f => simp [Tree.read, here, flawed]
  | ok s => cases shape <;> simp [Tree.read, here, mismatched, eq_comm]

section Items

theorem room_of_list {items : List Tree} (read : (Tree.list items flaw).read room need shape = .ok u) :
    ∃ inner, room = inner + 1 := by
  cases room with
  | zero => rcases shape with _ | _ | _ | _ | _ | ⟨_ | _, _⟩ <;> cases read
  | succ inner => exact ⟨inner, rfl⟩

variable {item : Shape} {index : Nat} {items : List Tree} {values : List Json}

/-- A list is read item by item. -/
theorem readItems_iff : readItems room item flaw index items = .ok values ↔
    flaw = none ∧ List.Forall₂ (fun t v => t.read room .required item = .ok v) items values := by
  induction items generalizing index values with
  | nil => rw [readItems, endAt_eq_ok, List.forall₂_nil_left_iff]
  | cons t rest ih =>
    rw [readItems, List.forall₂_cons_left_iff]
    simp only [bind_eq_ok, within_eq_ok, ih, pure, Except.pure, Except.ok.injEq]
    constructor
    · rintro ⟨v, here, vs, ⟨sound, later⟩, same⟩
      exact ⟨sound, v, vs, here, later, same.symm⟩
    · rintro ⟨sound, v, vs, here, later, same⟩
      exact ⟨v, here, vs, ⟨sound, later⟩, same.symm⟩

/-- A list is read exactly if it is not flawed and each of its items is read. -/
theorem read_list_iff : (Tree.list items flaw).read (room + 1) need (.list item) = .ok u ↔
    flaw = none ∧ ∃ values, List.Forall₂ (fun t v => t.read room .required item = .ok v) items values ∧
      u = .list values := by
  rw [Tree.read, map_eq_ok]
  simp only [readItems_iff, and_assoc, exists_and_left]

end Items

section Members

variable {extent : Extent} {fields : Fields} {name : Written} {t : Tree} {key : String}
  {members : List (Written × Tree)} {found others : List (String × Json)}

theorem room_of_object (read : (Tree.object members flaw).read room need shape = .ok u) :
    ∃ inner, room = inner + 1 := by
  cases room with
  | zero => cases shape <;> cases read
  | succ inner => exact ⟨inner, rfl⟩

theorem readMembers_nil : readMembers room extent fields flaw found others [] = .ok u ↔
    flaw = none ∧ complete fields found = true ∧ u = normalRecord extent fields found others := by
  rw [readMembers, bind_eq_ok]
  simp only [endAt_eq_ok]
  by_cases all : complete fields found = true
  · simp [all, eq_comm]
  · simp [all, mismatched]

/-- A declared member is read under its own shape, and must not come twice. -/
theorem readMembers_cons_declared (named : name.read = .ok key)
    (field : fields.lookup key = some (need, shape)) :
    readMembers room extent fields flaw found others ((name, t) :: members) = .ok u ↔
      found.lookup key = none ∧ ∃ v, t.read room need shape = .ok v ∧
        readMembers room extent fields flaw ((key, v) :: found) others members = .ok u := by
  rw [readMembers, named]
  simp only [orFlaw, bind_eq_ok, Except.ok.injEq, exists_eq_left', field]
  cases found.lookup key with
  | some w => simp [mismatched]
  | none => simp [bind_eq_ok, within_eq_ok]

theorem readMembers_cons_unnamed {f : Flaw} (unnamed : name.read = .error f) :
    readMembers room extent fields flaw found others ((name, t) :: members) ≠ .ok u := by
  rw [readMembers, unnamed]
  simp [orFlaw, flawed, bind, Except.bind]

end Members

end VehicleLink.Json
