import ApiRouter.Text.Base64
import ApiRouter.Text.Case
import ApiRouter.Text.Numeral
import ApiRouter.Text.Split
import ApiRouter.Yaml.Error
import ApiRouter.Yaml.Flow
import ApiRouter.Yaml.Tag

set_option autoImplicit false

/-! # Values of scalars

What the text of a scalar denotes under its tag. A tag that is written out may stand before a text
that is no value of its type. -/

namespace ApiRouter.Yaml

/-! ## Numbers -/

/-- A text without its underscores. -/
def withoutUnderscores (text : String) : List Char :=
  text.toList.filter (· != '_')

/-- What follows the letter that marks numerals of a base, if it is there. -/
def afterBaseMark (letter : Char) : List Char → List Char
  | '0' :: c :: rest => if c.toLower == letter then rest else '0' :: c :: rest
  | cs => cs

/-- The value of a digit: a decimal digit of any script, or a letter that goes on after nine. -/
def digitValue? (c : Char) : Option Nat :=
  (Text.hexValue? c).orElse fun _ => Text.decimalValue? c

/-- The number that digits of a base denote. -/
def readBase? (base : Nat) (letter : Char) (cs : List Char) : Option Int :=
  let (negative, rest) := Text.readSign (Text.trim cs)
  match afterBaseMark letter rest with
  | [] => none
  | digits =>
    let number? : Option Nat := digits.foldlM (fun n c =>
      match digitValue? c with
      | some d => if d < base then some (n * base + d) else none
      | none => none) 0
    number?.map fun n => if negative then -(n : Int) else n

/-- A number in base sixty, the last part first. -/
def inBaseSixty (parts : List Int) : Int :=
  parts.foldr (fun part n => part + 60 * n) 0

/-- A whole number without its sign. -/
def readMagnitude (cs : List Char) : Except Error Int :=
  let valueOf (n : Option Int) : Except Error Int :=
    match n with
    | some n => .ok n
    | none => .error (.defect .badValue)
  match cs with
  | ['0'] => .ok 0
  | '0' :: 'b' :: digits => valueOf (readBase? 2 'b' digits)
  | '0' :: 'x' :: digits => valueOf (readBase? 16 'x' digits)
  | '0' :: _ => valueOf (readBase? 8 'o' cs)
  | [] => .error (.defect .outOfBounds)
  | cs =>
    if cs.contains ':' then
      valueOf (((Text.split ':' cs).mapM fun part => Text.readInt? (String.ofList part)).map
        fun parts => inBaseSixty parts.reverse)
    else valueOf (Text.readInt? (String.ofList cs))

/-- A whole number with an optional sign. -/
def readInt (text : String) : Except Error Int :=
  match withoutUnderscores text with
  | [] => .error (.defect .outOfBounds)
  | cs => do
    let (negative, rest) := Text.readSign cs
    let n ← readMagnitude rest
    .ok (if negative then -n else n)

/-- The sum of parts in base sixty, the last part first, each product and sum rounded. -/
def sumInBaseSixty (total : Binary64) (base : Nat) : List Binary64 → Option Binary64
  | [] => some total
  | part :: rest => do
    let unit ← Binary64.ofInt? base
    sumInBaseSixty (total.add (part.mul unit)) (base * 60) rest

/-- A number with a fraction, without its sign. -/
def readFraction (cs : List Char) : Except Error Binary64 :=
  match String.ofList cs with
  | ".inf" => .ok (.infinite false)
  | ".nan" => .ok (.nan .yaml)
  | s =>
    if cs.contains ':' then
      match (Text.split ':' cs).mapM fun part => Text.readFloat? (String.ofList part) with
      | none => .error (.defect .badValue)
      | some parts =>
        match sumInBaseSixty (.zero false) 1 parts.reverse with
        | some x => .ok x
        | none => .error (.defect .overflow)
    else
      match Text.readFloat? s with
      | some x => .ok x
      | none => .error (.defect .badValue)

/-- A number with a fraction and an optional sign. -/
def readFloat (text : String) : Except Error Binary64 :=
  match (Text.lower (String.ofList (withoutUnderscores text))).toList with
  | [] => .error (.defect .outOfBounds)
  | cs => do
    let (negative, rest) := Text.readSign cs
    let x ← readFraction rest
    .ok (if negative then x.neg else x)

/-! ## Other types -/

def readBool (text : String) : Except Error Bool :=
  match Text.lower text with
  | "yes" | "true" | "on" => .ok true
  | "no" | "false" | "off" => .ok false
  | _ => .error (.defect .missingKey)

/-- The day or moment of a timestamp. -/
def readTimestamp (text : String) : Except Error Scalar :=
  match Timestamp.read? (Tag.withoutLastBreak text).toList with
  | none => .error (.defect .noMember)
  | some t =>
    match t.value? with
    | some s => .ok s
    | none => .error (.defect .badValue)

/-- Bytes in base 64. -/
def readBinary (text : String) : Except Error Scalar :=
  if !text.toList.all fun c => c.toNat < 128 then refuse .badBinary
  else
    match Text.Base64.decode? text with
    | some bytes => .ok (.bytes bytes)
    | none => refuse .badBinary

/-- The value of a text under a tag whose nodes are scalars. -/
def scalarValue (tag : Tag) (text : String) : Except Error Scalar :=
  match tag with
  | .null => .ok .null
  | .bool => .bool <$> readBool text
  | .int => .int <$> readInt text
  | .float => .float <$> readFloat text
  | .timestamp => readTimestamp text
  | .binary => readBinary text
  | .text => .ok (.text text)
  | .list | .map | .orderedMap | .pairs | .set => refuse .otherKind
  | .merge | .value | .unknown => refuse .unknownTag

end ApiRouter.Yaml
