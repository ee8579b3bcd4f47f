namespace VehicleLink

/-- A number of a JSON text. One that is written as an integer and fits in 64 bits stays an integer. -/
inductive Number where
  | whole (n : Int)
  | real (x : Float)

/-- A JSON value. -/
inductive Json where
  | null
  | flag (b : Bool)
  | number (n : Number)
  | text (s : String)
  | list (items : List Json)
  | object (members : List (String × Json))
deriving Inhabited

namespace Json

/-- An integer. -/
@[match_pattern] def whole (n : Int) : Json := .number (.whole n)

/-- A floating-point number. -/
@[match_pattern] def real (x : Float) : Json := .number (.real x)

/-- The members with one more; it takes the place of an earlier member of the same key. Sorted
members stay sorted. -/
def insert (key : String) (value : Json) : List (String × Json) → List (String × Json)
  | [] => [(key, value)]
  | (k, v) :: rest =>
    if key = k then (key, value) :: rest
    else if key < k then (key, value) :: (k, v) :: rest
    else (k, v) :: insert key value rest

/-- The members without one key. -/
def erase (key : String) (members : List (String × Json)) : List (String × Json) :=
  members.filter (·.1 ≠ key)

/-- The value of a member, if the value is an object that has it. -/
def get? (key : String) : Json → Option Json
  | .object members => members.lookup key
  | _ => none

/-- The text, if the value is one. -/
def text? : Json → Option String
  | .text s => some s
  | _ => none

/-- The flag, if the value is one. -/
def flag? : Json → Option Bool
  | .flag b => some b
  | _ => none

/-- The integer, if the value is one. -/
def whole? : Json → Option Int
  | .number (.whole n) => some n
  | _ => none

/-- The floating-point number, if the value is one. -/
def real? : Json → Option Float
  | .number (.real x) => some x
  | _ => none

/-- The items, if the value is a list. -/
def list? : Json → Option (List Json)
  | .list items => some items
  | _ => none

/-- The text at a member. -/
def textAt (key : String) (v : Json) : Option String := (v.get? key).bind text?

/-- The flag at a member. -/
def flagAt (key : String) (v : Json) : Option Bool := (v.get? key).bind flag?

/-- The integer at a member. -/
def wholeAt (key : String) (v : Json) : Option Int := (v.get? key).bind whole?

/-- The floating-point number at a member. -/
def realAt (key : String) (v : Json) : Option Float := (v.get? key).bind real?

/-- The items of the list at a member, each taken by a function. -/
def listAt {α : Type} (item : Json → α) (key : String) (v : Json) : Option (List α) :=
  ((v.get? key).bind list?).map fun items => items.map item

/-- The record at a member, taken by a function; `null` is no record. -/
def recordAt {α : Type} (record : Json → α) (key : String) (v : Json) : Option α :=
  match v.get? key with
  | none | some .null => none
  | some v => some (record v)

/-- An optional value as JSON, `null` where there is none. -/
def ofOption {α : Type} (value : α → Json) : Option α → Json
  | none => .null
  | some a => value a

end Json

end VehicleLink
