import VehicleLink.Json.Token

namespace VehicleLink.Json

/-- A text as written: its pieces, and what is wrong where they end. -/
structure Written where
  pieces : List Piece
  flaw : Option Flaw

/-- The syntax tree of a JSON text. A container holds what was read of it and what is wrong where its
next item, its comma or its end was due. -/
inductive Tree where
  | null
  | flag (b : Bool)
  /-- A number, with its value unless that is out of range. -/
  | number (value : Option Number)
  | text (t : Written)
  | list (items : List Tree) (flaw : Option Flaw)
  | object (members : List (Written × Tree)) (flaw : Option Flaw)
  | brokenNumber (flaw : Flaw)
  | stray (flaw : Flaw)

/-- A container that is being read, with what it holds so far, the last first. In an object a key has
been read whose value is due. -/
inductive Frame where
  | list (items : List Tree)
  | object (members : List (Written × Tree)) (key : Written)

/-- Where the reading of a text stands. The frames are the containers around that place, the inner
ones first. -/
inductive State where
  /-- A value is due. -/
  | valueDue (frames : List Frame)
  /-- The first item of a list is due, or its end. -/
  | listStart (frames : List Frame)
  /-- The first key of an object is due, or its end. -/
  | objectStart (frames : List Frame)
  /-- A key is due. -/
  | keyDue (members : List (Written × Tree)) (frames : List Frame)
  /-- The colon after a key is due. -/
  | colonDue (members : List (Written × Tree)) (key : Written) (frames : List Frame)
  /-- A comma is due, or the end of the list. -/
  | afterItem (items : List Tree) (frames : List Frame)
  /-- A comma is due, or the end of the object. -/
  | afterMember (members : List (Written × Tree)) (frames : List Frame)
  /-- The document is complete, or cannot be read on. -/
  | done (tree : Tree)

/-- The state after a value has been read. -/
def State.deliver (tree : Tree) : List Frame → State
  | [] => .done tree
  | .list items :: frames => .afterItem (tree :: items) frames
  | .object members key :: frames => .afterMember ((key, tree) :: members) frames

/-- The whole tree, when the innermost value has come to a flaw. -/
def abandon (flaw : Flaw) (tree : Tree) : List Frame → Tree
  | [] => tree
  | .list items :: frames => abandon flaw (.list (tree :: items).reverse (some flaw)) frames
  | .object members key :: frames =>
    abandon flaw (.object ((key, tree) :: members).reverse (some flaw)) frames

/-- The state after a flaw in the innermost value. -/
def State.stop (flaw : Flaw) (tree : Tree) (frames : List Frame) : State :=
  .done (abandon flaw tree frames)

/-- One token where a value is due. -/
def State.readValue (frames : List Frame) : Token → State
  | .null => .deliver .null frames
  | .flag b => .deliver (.flag b) frames
  | .number n => .deliver (.number n.value?) frames
  | .text pieces none => .deliver (.text ⟨pieces, none⟩) frames
  | .text pieces (some flaw) => .stop flaw (.text ⟨pieces, some flaw⟩) frames
  | .listOpen => .listStart frames
  | .objectOpen => .objectStart frames
  | .brokenNumber flaw => .stop flaw (.brokenNumber flaw) frames
  | .stray flaw => .stop flaw (.stray flaw) frames
  | .listClose | .objectClose | .colon | .comma => .stop .malformed (.stray .malformed) frames

/-- One token where a key is due. -/
def State.readKey (members : List (Written × Tree)) (frames : List Frame) : Token → State
  | .text pieces none => .colonDue members ⟨pieces, none⟩ frames
  | .text pieces (some flaw) =>
    .stop flaw (.object ((⟨pieces, some flaw⟩, .stray flaw) :: members).reverse (some flaw)) frames
  | _ => .stop .malformed (.object members.reverse (some .malformed)) frames

/-- The state after one more token. -/
def State.step : State → Token → State
  | .valueDue frames, token => .readValue frames token
  | .listStart frames, .listClose => .deliver (.list [] none) frames
  | .listStart frames, token => .readValue (.list [] :: frames) token
  | .objectStart frames, .objectClose => .deliver (.object [] none) frames
  | .objectStart frames, token => .readKey [] frames token
  | .keyDue members frames, token => .readKey members frames token
  | .colonDue members key frames, .colon => .valueDue (.object members key :: frames)
  | .colonDue members key frames, _ =>
    .stop .malformed (.stray .malformed) (.object members key :: frames)
  | .afterItem items frames, .comma => .valueDue (.list items :: frames)
  | .afterItem items frames, .listClose => .deliver (.list items.reverse none) frames
  | .afterItem items frames, _ => .stop .malformed (.list items.reverse (some .malformed)) frames
  | .afterMember members frames, .comma => .keyDue members frames
  | .afterMember members frames, .objectClose => .deliver (.object members.reverse none) frames
  | .afterMember members frames, _ =>
    .stop .malformed (.object members.reverse (some .malformed)) frames
  | .done tree, _ => .done tree

/-- The tree when the text ends. -/
def State.finish : State → Tree
  | .valueDue frames => abandon .ended (.stray .ended) frames
  | .listStart frames => abandon .ended (.list [] (some .ended)) frames
  | .objectStart frames => abandon .ended (.object [] (some .ended)) frames
  | .keyDue members frames => abandon .ended (.object members.reverse (some .ended)) frames
  | .colonDue members key frames => abandon .ended (.stray .ended) (.object members key :: frames)
  | .afterItem items frames => abandon .ended (.list items.reverse (some .ended)) frames
  | .afterMember members frames => abandon .ended (.object members.reverse (some .ended)) frames
  | .done tree => tree

/-- The tree of a list of tokens: that of the first value in it. -/
def Tree.ofTokens (ts : List Token) : Tree := (ts.foldl State.step (.valueDue [])).finish

/-- The syntax tree of the first value in a text. What follows that value is not looked at. Where the text is flawed
the tree says so at that place, with everything before the flaw in it. -/
def Tree.ofText (s : String) : Tree := .ofTokens (tokens s.toList)

/-- The characters of a text without escapes. A unit in the range of surrogates must be one of a pair
of a high and a low one. -/
def joinPieces (flaw : Option Flaw) : List Piece → Except Flaw (List Char)
  | [] => match flaw with
    | none => .ok []
    | some f => .error f
  | .char c :: rest => (joinPieces flaw rest).map (c :: ·)
  | .unit n :: rest =>
    if n < 0xD800 ∨ 0xE000 ≤ n then (joinPieces flaw rest).map (Char.ofNat n :: ·)
    else if 0xDC00 ≤ n then .error .malformed
    else
      match rest with
      | [] => .error (flaw.getD .malformed)
      | .char _ :: _ => .error .malformed
      | .unit m :: rest =>
        if 0xDC00 ≤ m ∧ m < 0xE000 then
          (joinPieces flaw rest).map
            (Char.ofNat (0x10000 + (n - 0xD800) * 0x400 + (m - 0xDC00)) :: ·)
        else .error .malformed

/-- The text that is written, or what is wrong with it first. -/
def Written.read (t : Written) : Except Flaw String :=
  (joinPieces t.flaw t.pieces).map String.ofList

mutual
/-- What is wrong with a value that nobody reads. Such a value only has to follow the grammar: the
size of its numbers and the pairing of its surrogates do not matter, nor how deep it is nested. A
number that breaks off is malformed even at the end of the text. -/
def Tree.skip : Tree → Option Flaw
  | .null | .flag _ | .number _ => none
  | .text t => t.flaw
  | .list items flaw => skipItems items <|> flaw
  | .object members flaw => skipMembers members <|> flaw
  | .brokenNumber _ => some .malformed
  | .stray flaw => some flaw

/-- What is wrong first in a list of values that nobody reads. -/
def skipItems : List Tree → Option Flaw
  | [] => none
  | t :: rest => t.skip <|> skipItems rest

/-- What is wrong first in the members of an object that nobody reads. -/
def skipMembers : List (Written × Tree) → Option Flaw
  | [] => none
  | (key, t) :: rest => key.flaw <|> t.skip <|> skipMembers rest
end

mutual
/-- Reads a value as it is, with room for that many containers one in another. The members of objects
come out sorted, and of several members of one key the last is kept. -/
def Tree.keep (room : Nat) : Tree → Except Flaw Json
  | .null => .ok .null
  | .flag b => .ok (.flag b)
  | .number (some n) => .ok (.number n)
  | .number none => .error .malformed
  | .text t => t.read.map .text
  | .list items flaw =>
    match room with
    | 0 => .error .malformed
    | room + 1 => (keepItems room flaw items).map .list
  | .object members flaw =>
    match room with
    | 0 => .error .malformed
    | room + 1 => (keepMembers room flaw [] members).map .object
  | .brokenNumber flaw => .error flaw
  | .stray flaw => .error flaw

/-- Reads the items of a list as they are. -/
def keepItems (room : Nat) (flaw : Option Flaw) : List Tree → Except Flaw (List Json)
  | [] => match flaw with
    | none => .ok []
    | some f => .error f
  | t :: rest => do
    let v ← t.keep room
    let vs ← keepItems room flaw rest
    return v :: vs

/-- Reads the members of an object as they are, after those already kept. -/
def keepMembers (room : Nat) (flaw : Option Flaw) (kept : List (String × Json)) :
    List (Written × Tree) → Except Flaw (List (String × Json))
  | [] => match flaw with
    | none => .ok kept
    | some f => .error f
  | (key, t) :: rest => do
    let k ← key.read
    let v ← t.keep room
    keepMembers room flaw (Json.insert k v kept) rest
end

/-- How many containers one in another a document may have where its values are kept. -/
def depthLimit : Nat := 127

/-- The first value of a text, or what is wrong with it first. -/
def ofText (s : String) : Except Flaw Json := (Tree.ofText s).keep depthLimit

end VehicleLink.Json
