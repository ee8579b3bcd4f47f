namespace VehicleLink

/-- A list that is shown one entry at a time, the one under the cursor. -/
structure Browse (α : Type) where
  items : List α := []
  /-- Where the cursor was moved to. It may lie behind the end until it is settled. -/
  cursor : Option Nat := none

namespace Browse

variable {α : Type}

/-- The list with other entries, the cursor where it was. -/
def replace (l : Browse α) (items : List α) : Browse α := { l with items }

/-- The list with its cursor moved on by one entry. -/
def advance (l : Browse α) : Browse α :=
  match l.cursor with
  | none => { l with cursor := some 0 }
  | some i => { l with cursor := some (i + 1) }

/-- The list with its cursor on an entry: on the first one where it was on none, and nowhere in an
empty list. -/
def settle (l : Browse α) : Browse α :=
  if l.items.isEmpty then { l with cursor := none }
  else
    match l.cursor with
    | none => { l with cursor := some 0 }
    | some i => { l with cursor := some (if i < l.items.length then i else 0) }

/-- The entry under the cursor and its place. -/
def current? (l : Browse α) : Option (Nat × α) := do
  let i ← l.cursor
  let item ← l.items[i]?
  return (i, item)

end Browse

end VehicleLink
