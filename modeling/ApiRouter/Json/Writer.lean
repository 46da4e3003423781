import ApiRouter.Error
import ApiRouter.Number.Shortest
import ApiRouter.Text.Quoted
import ApiRouter.Value.Display

set_option autoImplicit false

/-! # Writing JSON

A value as JSON text, on one line or indented by two spaces a level. Characters outside ASCII
stand for themselves. Keys that are not texts are written as the text of their scalar. -/

namespace ApiRouter.Json

/-- One character inside a string. -/
def escapeChar (c : Char) : String :=
  if c == '"' then "\\\""
  else if c == '\\' then "\\\\"
  else if c == '\n' then "\\n"
  else if c == '\r' then "\\r"
  else if c == '\t' then "\\t"
  else if c == '\x08' then "\\b"
  else if c == '\x0c' then "\\f"
  else if c.toNat < 0x20 then "\\u" ++ Text.hex 4 c.toNat
  else String.ofList [c]

/-- A string between double quotes. -/
def stringText (s : String) : String :=
  "\"" ++ String.join (s.toList.map escapeChar) ++ "\""

/-- A binary number; the special values have names of their own. -/
def floatText : Binary64 → String
  | .nan _ => "NaN"
  | .infinite s => if s then "-Infinity" else "Infinity"
  | x => x.text

/-- A scalar as a value. -/
def scalarText : Scalar → String
  | .null => "null"
  | .bool b => if b then "true" else "false"
  | .int n => toString n
  | .float x => floatText x
  | .text s => stringText s
  | .date d => stringText d.text
  | .moment m => stringText m.text
  | .bytes b => stringText (Text.quotedBytes b)

/-- A scalar as a value, if it can be shown. -/
def writeScalar (s : Scalar) : Except Defect String :=
  if s.isShowable then .ok (scalarText s) else .error .badValue

/-- A scalar as a key; dates, moments and bytes are none. -/
def writeKey : Scalar → Except Defect String
  | .text s => .ok (stringText s)
  | .date _ | .moment _ | .bytes _ => .error .wrongType
  | s => stringText <$> writeScalar s

/-- Where the parts of a list or mapping stand. -/
inductive Layout where
  /-- All on one line, with this text between two parts and this one after a key. -/
  | inline (separator colon : String)
  /-- Every part on a line of its own, two spaces further in than its surroundings. -/
  | indented
  deriving DecidableEq, Repr

/-- The usual layout on one line. -/
def Layout.compact : Layout := .inline ", " ": "

/-- The layout without any blank. -/
def Layout.dense : Layout := .inline "," ":"

namespace Layout

def newline (depth : Nat) : String :=
  "\n" ++ String.ofList (List.replicate (2 * depth) ' ')

def separator : Layout → Nat → String
  | .inline s _, _ => s
  | .indented, depth => "," ++ newline depth

def colon : Layout → String
  | .inline _ c => c
  | .indented => ": "

/-- The text between an opening bracket and the first part at `depth`. -/
def lead : Layout → Nat → String
  | .inline _ _, _ => ""
  | .indented, depth => newline depth

end Layout

mutual

/-- A value whose surroundings are `depth` levels in. A pair is written as a list, and a set as a
text. -/
def write (layout : Layout) (depth : Nat) : Value → Except Defect String
  | .scalar s => writeScalar s
  | .list [] => .ok "[]"
  | .map [] => .ok "\x7b\x7d"
  | .list items => do
    let body ← writeItems layout (depth + 1) items
    .ok ("[" ++ layout.lead (depth + 1) ++ body ++ layout.lead depth ++ "]")
  | .map entries => do
    let body ← writeEntries layout (depth + 1) entries
    .ok ("\x7b" ++ layout.lead (depth + 1) ++ body ++ layout.lead depth ++ "\x7d")
  | .pair a b => do
    let first ← write layout (depth + 1) a
    let second ← write layout (depth + 1) b
    .ok ("[" ++ layout.lead (depth + 1) ++ first ++ layout.separator (depth + 1) ++ second ++
      layout.lead depth ++ "]")
  | .set members =>
    if (Value.set members).isShowable then .ok (stringText (Value.set members).quoted)
    else .error .badValue
  | .endless => .error .badValue

def writeItems (layout : Layout) (depth : Nat) : List Value → Except Defect String
  | [] => .ok ""
  | [v] => write layout depth v
  | v :: vs => do
    let first ← write layout depth v
    let rest ← writeItems layout depth vs
    .ok (first ++ layout.separator depth ++ rest)

def writeEntries (layout : Layout) (depth : Nat) : Entries → Except Defect String
  | [] => .ok ""
  | [(k, v)] => do
    let key ← writeKey k
    let value ← write layout depth v
    .ok (key ++ layout.colon ++ value)
  | (k, v) :: es => do
    let key ← writeKey k
    let value ← write layout depth v
    let rest ← writeEntries layout depth es
    .ok (key ++ layout.colon ++ value ++ layout.separator depth ++ rest)

end

end ApiRouter.Json
