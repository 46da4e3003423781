import ApiRouter.Error
import ApiRouter.Text.Digit
import ApiRouter.Text.Numeral
import ApiRouter.Text.Split
import ApiRouter.Value.Display

set_option autoImplicit false

/-! # Pointers

A pointer such as `#/definitions/Pet` names a place in a document: segments after the mark `#/`,
each a key of a mapping or an index of a list. In a segment `~1` stands for a slash and `~0` for a
tilde, so that any key can be written. -/

namespace ApiRouter.Pointer

/-! ## Segments -/

/-- A segment with its escapes resolved. -/
def unescape : List Char → List Char
  | '~' :: '1' :: rest => '/' :: unescape rest
  | '~' :: '0' :: rest => '~' :: unescape rest
  | c :: rest => c :: unescape rest
  | [] => []

/-- A key as a segment. -/
def escape : List Char → List Char
  | [] => []
  | c :: rest =>
    if c = '~' then '~' :: '0' :: escape rest
    else if c = '/' then '~' :: '1' :: escape rest
    else c :: escape rest

/-- The segments of a pointer; a reference of any other form points outside the document. -/
def segments? (ref : String) : Option (List String) :=
  match ref.toList with
  | '#' :: '/' :: rest => some ((Text.split '/' rest).map fun part => String.ofList (unescape part))
  | _ => none

/-- The pointer with the given segments. -/
def ofSegments (segments : List String) : String :=
  "#" ++ String.join (segments.map fun s => "/" ++ String.ofList (escape s.toList))

/-! ## Following -/

/-- Why a segment leads nowhere. -/
inductive Obstacle where
  | noKey (segment : String)
  | badIndex (segment : String)
  | noParts (kind : String)
  deriving DecidableEq, Repr

def Obstacle.message : Obstacle → String
  | .noKey segment => "key '" ++ segment ++ "' not found at path"
  | .badIndex segment => "invalid array index '" ++ segment ++ "'"
  | .noParts kind => "cannot navigate into " ++ kind

/-- One step into a value. A row of digits that denotes no number is a defect, not an obstacle. -/
def step (node : Value) (segment : String) : Except Failure (Except Obstacle Value) :=
  match node with
  | .map entries =>
    match Entries.find? entries segment with
    | some v => .ok (.ok v)
    | none => .ok (.error (.noKey segment))
  | .list items =>
    if segment.isEmpty || !segment.toList.all Text.isAnyDigit then .ok (.error (.badIndex segment))
    else
      match Text.readInt? segment with
      | none => defect .badValue
      | some n =>
        match items[n.toNat]? with
        | some v => .ok (.ok v)
        | none => .ok (.error (.badIndex segment))
  | .endless => defect .endless
  | v => .ok (.error (.noParts v.kindName))

/-- The place that segments lead to from a value; an obstacle is reported for the reference
`ref`. -/
def walk (ref : String) (node : Value) : List String → Except Failure Value
  | [] => .ok node
  | segment :: rest => do
    match ← step node segment with
    | .ok next => walk ref next rest
    | .error o =>
      fail .specParse ("Cannot resolve $ref '" ++ ref ++ "': " ++ o.message)

/-- The place in `root` that a reference names. -/
def follow (root : Value) (ref : String) : Except Failure Value :=
  match segments? ref with
  | some segments => walk ref root segments
  | none =>
    fail .specParse ("External $ref not supported: " ++ ref ++
      ". Definitions must live in the same document.")

/-- The place in `root` that a reference value names; only a text is a reference. -/
def followValue (root : Value) (ref : Value) : Except Failure Value :=
  match ref with
  | .text r => follow root r
  | _ => defect .noMember

end ApiRouter.Pointer
