import VehicleLink.Json.Tree
import VehicleLink.Decimal.Digits

namespace VehicleLink.Json

/-- One step of a path into a document. -/
inductive Step where
  | member (key : String)
  | item (index : Nat)
deriving DecidableEq, Repr

/-- The first problem of a document. -/
inductive Problem where
  /-- The text cannot be read on. -/
  | flaw (flaw : Flaw)
  /-- The value at the path is not of the declared shape. -/
  | mismatch (path : List Step)
deriving DecidableEq, Repr

/-- A problem inside a part of a document, seen from outside. -/
def Problem.under (step : Step) : Problem → Problem
  | .flaw f => .flaw f
  | .mismatch path => .mismatch (step :: path)

/-- The text of the steps of a path that follow others. -/
def stepText : Step → String
  | .member key => "." ++ key
  | .item index => "[" ++ Decimal.integerText index ++ "]"

/-- The text of a path; the whole document is a single point. -/
def pathText : List Step → String
  | [] => "."
  | .member key :: rest => key ++ String.join (rest.map stepText)
  | .item index :: rest => stepText (.item index) ++ String.join (rest.map stepText)

/-- Whether a member has to be there. An optional one may be absent or `null`. -/
inductive Need where
  | required
  | optional
deriving DecidableEq

/-- Whether a record holds other members than those declared. An open one does, and then it cannot
be written as a list of its members' values. -/
inductive Extent where
  | closed
  | opened
deriving DecidableEq

/-- The shape of a value. -/
inductive Shape where
  | text
  | flag
  /-- An integer between two bounds. -/
  | whole (least greatest : Int)
  | real
  | list (item : Shape)
  | record (extent : Extent) (fields : List (String × Need × Shape))

/-- The declared members of a record. -/
abbrev Fields := List (String × Need × Shape)

/-- An integer of 64 bits with sign. -/
def Shape.integer : Shape := .whole (-0x8000000000000000) 0x7FFFFFFFFFFFFFFF

/-- A natural number of 64 bits. -/
def Shape.natural : Shape := .whole 0 0xFFFFFFFFFFFFFFFF

/-- An optional member of a record. -/
def field (key : String) (shape : Shape) : String × Need × Shape := (key, .optional, shape)

/-- A member that a record must have. -/
def neededField (key : String) (shape : Shape) : String × Need × Shape := (key, .required, shape)

/-- What is not of the declared shape. -/
def mismatched {α : Type} : Except Problem α := .error (.mismatch [])

/-- What cannot be read on. -/
def flawed {α : Type} (f : Flaw) : Except Problem α := .error (.flaw f)

/-- A reading that stops at a flaw. -/
def orFlaw {α : Type} : Except Flaw α → Except Problem α
  | .ok a => .ok a
  | .error f => flawed f

/-- The end of a container, where nothing must be wrong. -/
def endAt {α : Type} (value : α) : Option Flaw → Except Problem α
  | none => .ok value
  | some f => flawed f

/-- A part of a document read inside the whole. -/
def within {α : Type} (step : Step) : Except Problem α → Except Problem α
  | .ok a => .ok a
  | .error p => .error (p.under step)

/-- Whether every required member is among those set. -/
def complete (fields : Fields) (found : List (String × Json)) : Bool :=
  fields.all fun (key, need, _) => need = .optional || (found.lookup key).isSome

/-- The normal form of a record. A closed one has all its declared members in order, unset ones as `null`; an open
one has those that are set, in order, and then the other ones. -/
def normalRecord (extent : Extent) (fields : Fields) (found others : List (String × Json)) : Json :=
  match extent with
  | .closed => .object (fields.map fun (key, _, _) => (key, (found.lookup key).getD .null))
  | .opened =>
    .object <| (fields.filterMap fun (key, _, _) =>
      match found.lookup key with
      | none | some .null => none
      | some v => some (key, v)) ++ others

mutual
/-- Reads a tree as a value of a shape, with room for that many containers one in another. -/
def Tree.read (room : Nat) (need : Need) (shape : Shape) : Tree → Except Problem Json
  | .null => if need = .optional then .ok .null else mismatched
  | .flag b => match shape with
    | .flag => .ok (.flag b)
    | _ => mismatched
  | .number none => flawed .malformed
  | .number (some n) => match n, shape with
    | .whole i, .whole least greatest =>
      if least ≤ i ∧ i ≤ greatest then .ok (.whole i) else mismatched
    | .whole i, .real => .ok (.real (floatOfInt i))
    | .real x, .real => .ok (.real x)
    | _, _ => mismatched
  | .text t => match t.read, shape with
    | .error f, _ => flawed f
    | .ok s, .text => .ok (.text s)
    | .ok _, _ => mismatched
  | .list items flaw => match shape, room with
    | .list _, 0 | .record .closed _, 0 => flawed .malformed
    | .list item, room + 1 => (readItems room item flaw 0 items).map .list
    | .record .closed fields, room + 1 =>
      (readColumns room flaw 0 fields items).map fun found => normalRecord .closed fields found []
    | _, _ => mismatched
  | .object members flaw => match shape, room with
    | .record _ _, 0 => flawed .malformed
    | .record extent fields, room + 1 => readMembers room extent fields flaw [] [] members
    | _, _ => mismatched
  | .brokenNumber flaw => flawed flaw
  | .stray flaw => flawed flaw

/-- Reads the items of a list from one index on. -/
def readItems (room : Nat) (item : Shape) (flaw : Option Flaw) (index : Nat) :
    List Tree → Except Problem (List Json)
  | [] => endAt [] flaw
  | t :: rest => do
    let v ← within (.item index) (t.read room .required item)
    let vs ← readItems room item flaw (index + 1) rest
    return v :: vs

/-- Reads the values of a record that is written as a list: as many as there are fields. -/
def readColumns (room : Nat) (flaw : Option Flaw) (index : Nat) (fields : Fields) :
    List Tree → Except Problem (List (String × Json))
  | [] => match fields, flaw with
    | [], none => .ok []
    | _ :: _, none => mismatched
    | _, some f => flawed f
  | t :: rest => match fields with
    | [] => flawed .malformed
    | (key, need, shape) :: fields => do
      let v ← within (.item index) (t.read room need shape)
      let found ← readColumns room flaw (index + 1) fields rest
      return (key, v) :: found

/-- Reads the members of a record, after those already found. No declared member may come twice. A
closed record passes over the others, an open one keeps them. -/
def readMembers (room : Nat) (extent : Extent) (fields : Fields) (flaw : Option Flaw)
    (found others : List (String × Json)) : List (Written × Tree) → Except Problem Json
  | [] => do
    endAt () flaw
    if complete fields found then .ok (normalRecord extent fields found others) else mismatched
  | (key, t) :: rest => do
    let k ← orFlaw key.read
    match fields.lookup k with
    | some (need, shape) =>
      if (found.lookup k).isSome then mismatched
      else
        let v ← within (.member k) (t.read room need shape)
        readMembers room extent fields flaw ((k, v) :: found) others rest
    | none =>
      match extent with
      | .closed =>
        match t.skip with
        | none => readMembers room extent fields flaw found others rest
        | some f => flawed f
      | .opened => do
        let v ← orFlaw (t.keep room)
        readMembers room extent fields flaw found (Json.insert k v others) rest
end

/-- Reads a text as a document of a shape, in its normal form. The document is gone through in order, and the first
problem in it is the one that is reported. -/
def read (shape : Shape) (s : String) : Except Problem Json :=
  (Tree.ofText s).read depthLimit .required shape

mutual
/-- The syntax tree of a value. -/
def toTree : Json → Tree
  | .null => .null
  | .flag b => .flag b
  | .number n => .number (some n)
  | .text s => .text ⟨s.toList.map .char, none⟩
  | .list items => .list (toTrees items) none
  | .object members => .object (toTreeMembers members) none

/-- The syntax trees of the items of a list. -/
def toTrees : List Json → List Tree
  | [] => []
  | v :: rest => toTree v :: toTrees rest

/-- The syntax trees of the members of an object. -/
def toTreeMembers : List (String × Json) → List (Written × Tree)
  | [] => []
  | (k, v) :: rest => (⟨k.toList.map .char, none⟩, toTree v) :: toTreeMembers rest
end

/-- Reads a value as a document of a shape. -/
def readValue (shape : Shape) (v : Json) : Except Problem Json :=
  (toTree v).read depthLimit .required shape

end VehicleLink.Json
