import ApiRouter.Text.Digit
import ApiRouter.Text.Numeral
import ApiRouter.Value

set_option autoImplicit false

/-! # Reading JSON

The JSON grammar, with `NaN`, `Infinity` and `-Infinity` as further numbers. A text that breaks the
grammar is refused with the first offence and its place. A number without fraction and exponent is a
whole number of any size up to the longest numeral; a repeated key takes the last value. -/

namespace ApiRouter.Json

/-! ## What can be wrong with a text -/

/-- An offence against the grammar. -/
inductive Cause where
  | expectingValue
  | expectingName
  | expectingColon
  | expectingComma
  | extraData
  | unterminatedString
  | controlCharacter
  | badEscape
  | badUnicodeEscape
  | byteOrderMark
  deriving DecidableEq, Repr

/-- The wording of an offence. -/
def Cause.message : Cause → String
  | .expectingValue => "Expecting value"
  | .expectingName => "Expecting property name enclosed in double quotes"
  | .expectingColon => "Expecting ':' delimiter"
  | .expectingComma => "Expecting ',' delimiter"
  | .extraData => "Extra data"
  | .unterminatedString => "Unterminated string starting at"
  | .controlCharacter => "Invalid control character at"
  | .badEscape => "Invalid \\escape"
  | .badUnicodeEscape => "Invalid \\uXXXX escape"
  | .byteOrderMark => "Unexpected UTF-8 BOM (decode using utf-8-sig)"

/-- Why a text cannot be read. -/
inductive Error where
  /-- The grammar is broken after `offset` characters. -/
  | malformed (cause : Cause) (offset line column : Nat)
  /-- Lists and mappings are nested beyond the limit. -/
  | tooDeep
  /-- A whole number has more digits than the longest numeral. -/
  | tooManyDigits
  deriving DecidableEq, Repr

/-- The offence and its place: line and column count from one, the offset from zero. -/
def Error.message : Error → String
  | .malformed cause offset line column =>
    cause.message ++ ": line " ++ toString line ++ " column " ++ toString column ++ " (char " ++
      toString offset ++ ")"
  | .tooDeep => "nested too deeply"
  | .tooManyDigits => "too many digits"

/-- An offence within the reader: its place is given by the number of characters left.
Every step of the reader gives its result and the rest of the text. -/
inductive Stop where
  | malformed (cause : Cause) (remaining : Nat)
  | tooDeep
  | tooManyDigits

/-- Lists and mappings may be nested this deep. -/
def nestingLimit : Nat := 990

/-- Refuses the text at the beginning of `rest`. -/
def refuse {α : Type} (cause : Cause) (rest : List Char) : Except Stop α :=
  .error (.malformed cause rest.length)

/-! ## Tokens -/

/-- The four characters that may stand between tokens. -/
def isSpace (c : Char) : Bool :=
  c == ' ' || c == '\t' || c == '\n' || c == '\r'

def skipSpace (cs : List Char) : List Char :=
  cs.dropWhile isSpace

/-- The number that four hexadecimal digits denote. -/
def hexQuad? : List Char → Option Nat
  | [a, b, c, d] => Text.hexNumber? [a, b, c, d]
  | _ => none

/-- The four digits after `\u`, which something must follow; `rest` starts at the `u`. -/
def readQuad (rest : List Char) : Except Stop (Nat × List Char) :=
  let body := rest.drop 1
  match hexQuad? (body.take 4), body.drop 4 with
  | some n, c :: more => .ok (n, c :: more)
  | _, _ => refuse .badUnicodeEscape rest

def isHighSurrogate (n : Nat) : Bool := 0xD800 ≤ n && n < 0xDC00

def isLowSurrogate (n : Nat) : Bool := 0xDC00 ≤ n && n < 0xE000

/-- A character written as `\u` and four digits, or as two of them that form a surrogate pair. -/
def readUnicode (rest : List Char) : Except Stop (Char × List Char) := do
  let (high, after) ← readQuad rest
  match isHighSurrogate high, after with
  | true, '\\' :: 'u' :: tail =>
    if tail.length ≤ 4 then .ok (Text.charOfCode high, after)
    else
      match hexQuad? (tail.take 4) with
      | none => refuse .badUnicodeEscape ('u' :: tail)
      | some low =>
        if isLowSurrogate low then
          .ok (Char.ofNat (0x10000 + (high - 0xD800) * 0x400 + (low - 0xDC00)), tail.drop 4)
        else .ok (Text.charOfCode high, after)
  | _, _ => .ok (Text.charOfCode high, after)

/-- The character that a simple escape stands for. -/
def simpleEscape? : Char → Option Char
  | '"' => some '"'
  | '\\' => some '\\'
  | '/' => some '/'
  | 'b' => some '\x08'
  | 'f' => some '\x0c'
  | 'n' => some '\n'
  | 'r' => some '\r'
  | 't' => some '\t'
  | _ => none

/-- The characters of a string up to its closing quote; `opening` is what remains at the opening
one. -/
def readChars (opening : Nat) : (fuel : Nat) → List Char → Except Stop (List Char × List Char)
  | 0, _ => .error (.malformed .unterminatedString opening)
  | fuel + 1, cs =>
    match cs with
    | [] => .error (.malformed .unterminatedString opening)
    | '"' :: rest => .ok ([], rest)
    | '\\' :: [] => .error (.malformed .unterminatedString opening)
    | '\\' :: 'u' :: rest => do
      let (c, rest) ← readUnicode ('u' :: rest)
      let (more, rest) ← readChars opening fuel rest
      .ok (c :: more, rest)
    | '\\' :: e :: rest =>
      match simpleEscape? e with
      | none => refuse .badEscape ('\\' :: e :: rest)
      | some c => do
        let (more, rest) ← readChars opening fuel rest
        .ok (c :: more, rest)
    | c :: rest =>
      if c.toNat ≤ 0x1f then refuse .controlCharacter (c :: rest)
      else do
        let (more, rest) ← readChars opening fuel rest
        .ok (c :: more, rest)

/-- A string after its opening quote. -/
def readString (cs : List Char) : Except Stop (String × List Char) := do
  let (chars, rest) ← readChars (cs.length + 1) (cs.length + 1) cs
  .ok (String.ofList chars, rest)

/-- The leading ASCII digits and what follows. -/
def spanDigits (cs : List Char) : List Char × List Char :=
  cs.span Text.isAsciiDigit

/-- An exponent after the mantissa, if a complete one is there. -/
def readExponent? : List Char → Option (Int × List Char)
  | [] => none
  | e :: rest =>
    if e == 'e' || e == 'E' then
      let (negative, rest) := Text.readSign rest
      match spanDigits rest with
      | ([], _) => none
      | (ds, rest) =>
        let n : Int := Text.decimalNumber ds
        some (if negative then -n else n, rest)
    else none

/-- A fraction after the whole part, if a complete one is there. -/
def readFraction? : List Char → Option (List Char × List Char)
  | '.' :: rest =>
    match spanDigits rest with
    | ([], _) => none
    | found => some found
  | _ => none

/-- The whole part of a number: a zero alone, or digits that start with another one. -/
def readWhole? (cs : List Char) : Option (List Char × List Char) :=
  match cs with
  | '0' :: rest => some (['0'], rest)
  | c :: _ => if Text.isAsciiDigit c then some (spanDigits cs) else none
  | [] => none

/-- A number of the given sign. -/
def readNumber? (negative : Bool) (cs : List Char) : Option (Except Stop (Value × List Char)) :=
  (readWhole? cs).map fun (whole, rest) =>
    match readFraction? rest, readExponent? rest with
    | none, none =>
      if whole.length > Text.maxDigits then .error .tooManyDigits
      else
        let n : Int := Text.decimalNumber whole
        .ok (.int (if negative then -n else n), rest)
    | none, some (e, rest) =>
      .ok (.float (Binary64.ofDecimal negative (Text.decimalNumber whole) e), rest)
    | some (part, rest), _ =>
      let (e, rest) := (readExponent? rest).getD (0, rest)
      let digits := Text.decimalNumber (whole ++ part)
      .ok (.float (Binary64.ofDecimal negative digits (e - (part.length : Int))), rest)

/-- What follows the word, if the text starts with it. -/
def afterWord? (word : String) (cs : List Char) : Option (List Char) :=
  if word.toList.isPrefixOf cs then some (cs.drop word.length) else none

/-- A value without parts that is not a string. -/
def readAtom (cs : List Char) : Except Stop (Value × List Char) :=
  if let some rest := afterWord? "null" cs then .ok (.null, rest)
  else if let some rest := afterWord? "true" cs then .ok (.bool true, rest)
  else if let some rest := afterWord? "false" cs then .ok (.bool false, rest)
  else if let some rest := afterWord? "NaN" cs then .ok (.float (.nan .json), rest)
  else if let some rest := afterWord? "Infinity" cs then .ok (.float (.infinite false), rest)
  else if let some rest := afterWord? "-Infinity" cs then .ok (.float (.infinite true), rest)
  else
    match cs with
    | '-' :: rest => (readNumber? true rest).getD (refuse .expectingValue cs)
    | _ => (readNumber? false cs).getD (refuse .expectingValue cs)

/-! ## Values -/

mutual

/-- A value; `depth` levels of nesting are left. -/
def readValue (depth : Nat) : (fuel : Nat) → List Char → Except Stop (Value × List Char)
  | 0, cs => refuse .expectingValue cs
  | fuel + 1, cs =>
    match cs with
    | '"' :: rest => do
      let (s, rest) ← readString rest
      .ok (.text s, rest)
    | '[' :: rest =>
      match depth with
      | 0 => .error .tooDeep
      | depth + 1 =>
        match skipSpace rest with
        | ']' :: rest => .ok (.list [], rest)
        | rest => do
          let (items, rest) ← readItems depth fuel rest
          .ok (.list items, rest)
    | '\x7b' :: rest =>
      match depth with
      | 0 => .error .tooDeep
      | depth + 1 =>
        match skipSpace rest with
        | '\x7d' :: rest => .ok (.map [], rest)
        | rest => do
          let (entries, rest) ← readEntries depth fuel rest
          .ok (.map (Ordered.ofList entries), rest)
    | cs => readAtom cs

/-- The items of a list up to its closing bracket; there is at least one. -/
def readItems (depth : Nat) : (fuel : Nat) → List Char → Except Stop (List Value × List Char)
  | 0, cs => refuse .expectingValue cs
  | fuel + 1, cs => do
    let (v, rest) ← readValue depth fuel cs
    match skipSpace rest with
    | ']' :: rest => .ok ([v], rest)
    | ',' :: rest =>
      let (vs, rest) ← readItems depth fuel (skipSpace rest)
      .ok (v :: vs, rest)
    | rest => refuse .expectingComma rest

/-- The entries of a mapping up to its closing brace; there is at least one. -/
def readEntries (depth : Nat) : (fuel : Nat) → List Char → Except Stop (Entries × List Char)
  | 0, cs => refuse .expectingName cs
  | fuel + 1, cs =>
    match cs with
    | '"' :: rest => do
      let (k, rest) ← readString rest
      match skipSpace rest with
      | ':' :: rest =>
        let (v, rest) ← readValue depth fuel (skipSpace rest)
        match skipSpace rest with
        | '\x7d' :: rest => .ok ([(.text k, v)], rest)
        | ',' :: rest =>
          let (es, rest) ← readEntries depth fuel (skipSpace rest)
          .ok ((.text k, v) :: es, rest)
        | rest => refuse .expectingComma rest
      | rest => refuse .expectingColon rest
    | cs => refuse .expectingName cs

end

/-- A whole text: one value with white space around it. -/
def readAll (cs : List Char) : Except Stop Value := do
  if cs.head? == some '\uFEFF' then refuse .byteOrderMark cs
  else
    let (v, rest) ← readValue nestingLimit (2 * cs.length + 2) (skipSpace cs)
    match skipSpace rest with
    | [] => .ok v
    | rest => refuse .extraData rest

/-- The line and column of the place after the characters `before`. -/
def place (before : List Char) : Nat × Nat :=
  let step := fun (line, column) c => if c == '\n' then (line + 1, 1) else (line, column + 1)
  before.foldl step (1, 1)

/-- The value that a JSON text denotes. -/
def read (text : String) : Except Error Value :=
  let cs := text.toList
  match readAll cs with
  | .ok v => .ok v
  | .error .tooDeep => .error .tooDeep
  | .error .tooManyDigits => .error .tooManyDigits
  | .error (.malformed cause remaining) =>
    let offset := cs.length - remaining
    let (line, column) := place (cs.take offset)
    .error (.malformed cause offset line column)

end ApiRouter.Json
