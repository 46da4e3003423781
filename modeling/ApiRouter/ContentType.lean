import ApiRouter.Error
import ApiRouter.Text.Case
import ApiRouter.Text.Charset
import ApiRouter.Text.Digit
import ApiRouter.Text.Split

set_option autoImplicit false

/-! # Content types

A content type consists of parts with semicolons between them. Each part is a parameter, a name and
a value, and the charset of the content is one of them. A long value may be given in pieces: the
parameters `name*0`, `name*1` and so on. An asterisk at the end of a name says that the value is
written with percent escapes, after a charset and a language with apostrophes between them. -/

namespace ApiRouter.ContentType

/-! ## Parts -/

/-- The parts of a content type. A semicolon between quotes does not end a part; a quote after a
backslash does not count. -/
def splitParts (quoted escaped : Bool) : List Char → List (List Char)
  | [] => [[]]
  | c :: rest =>
    if c == ';' && !quoted then [] :: splitParts false false rest
    else
      let quoted := if c == '"' && !escaped then !quoted else quoted
      match splitParts quoted (c == '\\') rest with
      | part :: parts => (c :: part) :: parts
      | [] => [[c]]

/-- A text without white space at its ends. -/
def trim (cs : List Char) : List Char :=
  (Text.strip (String.ofList cs)).toList

/-- Resolves escapes between quotes: a backslash before a backslash, then one before a quote. -/
def unescape (cs : List Char) : List Char :=
  let rec pairs (second : Char) : List Char → List Char
    | '\\' :: c :: rest =>
      if c == second then c :: pairs second rest else '\\' :: pairs second (c :: rest)
    | c :: rest => c :: pairs second rest
    | [] => []
  termination_by cs => cs.length
  pairs '"' (pairs '\\' cs)

/-- A value without the quotes or angle brackets around it. -/
def unquote (value : List Char) : List Char :=
  match value, value.getLast? with
  | '"' :: c :: rest, some '"' => unescape (c :: rest).dropLast
  | '<' :: c :: rest, some '>' => (c :: rest).dropLast
  | _, _ => value

/-- A parameter. Names are the same in capitals and small letters. -/
structure Parameter where
  name : String
  value : List Char
  deriving DecidableEq, Repr

/-- The parameter in a part; without an equals sign the value is empty. -/
def Parameter.ofPart (part : List Char) : Parameter :=
  let name := part.takeWhile (· != '=')
  let value := part.drop (name.length + 1)
  ⟨Text.lower (Text.strip (String.ofList name)), unquote (trim value)⟩

/-- The parameters of a content type, the type itself among them. -/
def parameters (contentType : String) : List Parameter :=
  (splitParts false false contentType.toList).map .ofPart

/-! ## Pieces -/

/-- A piece of a value: its number, if it has one, and whether it is written with escapes. -/
structure Piece where
  number : Option Nat
  value : List Char
  escaped : Bool
  deriving DecidableEq, Repr

/-- The piece that a parameter gives of the value with a name. -/
def Piece.of? (name : String) (p : Parameter) : Option Piece :=
  if !p.name.startsWith (name ++ "*") then none
  else
    let rest := p.name.toList.drop (name.length + 1)
    let digits := rest.takeWhile Text.isAsciiDigit
    let number := if digits.isEmpty then none else some (Text.decimalNumber digits)
    match number, rest.drop digits.length with
    | none, [] => some ⟨none, p.value, true⟩
    | some n, [] => some ⟨some n, p.value, false⟩
    | some n, ['*'] => some ⟨some n, p.value, true⟩
    | _, _ => none

/-- Whether a piece comes before another or is the same. -/
def Piece.le (a b : Piece) : Bool :=
  let byValue := String.ofList a.value < String.ofList b.value || (a.value == b.value
    && (!a.escaped || b.escaped))
  match a.number, b.number with
  | some m, some n => m < n || (m == n && byValue)
  | _, _ => byValue

/-- Resolves percent escapes, each of which stands for the character with that number. -/
def resolveEscapes : List Char → List Char
  | '%' :: a :: b :: rest =>
    match Text.hexNumber? [a, b] with
    | some n => Char.ofNat n :: resolveEscapes rest
    | none => '%' :: resolveEscapes (a :: b :: rest)
  | c :: rest => c :: resolveEscapes rest
  | [] => []

/-- The text of a piece. -/
def Piece.text (p : Piece) : List Char :=
  if p.escaped then resolveEscapes p.value else p.value

/-- What follows the charset and the language of a value, if it has them. -/
def afterLanguage (value : List Char) : List Char :=
  match Text.split '\'' value with
  | _ :: _ :: part :: parts => ['\''].intercalate (part :: parts)
  | _ => value

/-- The value that pieces give together. Pieces with and without numbers cannot be put in order. -/
def assemble (pieces : List Piece) : Except Failure (List Char) :=
  if pieces.any (·.number.isSome) && pieces.any (·.number.isNone) then defect .wrongType
  else
    let value := (pieces.mergeSort Piece.le).flatMap Piece.text
    .ok (if pieces.any (·.escaped) then afterLanguage value else value)

/-! ## Charsets -/

/-- The value of a parameter, whole or in pieces. The type itself is never a piece. -/
def value? (contentType name : String) : Except Failure (Option (List Char)) :=
  let parameters := parameters contentType
  match parameters.find? (·.name == name), parameters.tail.filterMap (Piece.of? name) with
  | some p, _ => .ok (some p.value)
  | none, [] => .ok none
  | none, pieces => some <$> assemble pieces

/-- The charset of a content, which is UTF-8 unless the content type names another one that is
known. -/
def charset (contentType : String) : Except Failure Text.Charset := do
  match ← value? contentType "charset" with
  | none => .ok .utf8
  | some name =>
    if name.all (·.toNat < 0x80) then .ok ((Text.Charset.ofName? (String.ofList name)).getD .utf8)
    else .ok .utf8

end ApiRouter.ContentType
