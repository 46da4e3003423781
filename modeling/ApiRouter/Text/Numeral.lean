import ApiRouter.Number.Binary64
import ApiRouter.Text.Digit
import ApiRouter.Text.Split

set_option autoImplicit false

/-! # Numerals

Reading numbers from text. A numeral may be written in the decimal digits of any script; single
underscores may stand between digits where a rule allows them. -/

namespace ApiRouter.Text

/-- The longest row of digits that is read as a whole number. -/
def maxDigits : Nat := 4300

/-- A sign, if there is one, and what follows it. -/
def readSign : List Char → Bool × List Char
  | '-' :: rest => (true, rest)
  | '+' :: rest => (false, rest)
  | rest => (false, rest)

/-- A row of decimal digits: their values and what follows. -/
def readDigits : List Char → List Nat × List Char
  | [] => ([], [])
  | c :: rest =>
    match decimalValue? c with
    | some d => let (ds, r) := readDigits rest; (d :: ds, r)
    | none => ([], c :: rest)

/-- The number that a row of digit values denotes. -/
def ofDigits (ds : List Nat) : Nat :=
  ds.foldl (fun n d => n * 10 + d) 0

/-- Removes single underscores between digits; `none` when one stands elsewhere. -/
def joinUnderscores : List Char → Option (List Char)
  | [] => some []
  | '_' :: _ => none
  | c :: '_' :: d :: rest =>
    if isDecimal c && isDecimal d then (joinUnderscores (d :: rest)).map (c :: ·) else none
  | c :: rest => (joinUnderscores rest).map (c :: ·)

/-- The whole number written by the trimmed text; `none` when it is no numeral. -/
def readInt? (s : String) : Option Int :=
  match joinUnderscores (trim s.toList) with
  | none => none
  | some cs =>
    let (negative, rest) := readSign cs
    match readDigits rest with
    | ([], _) => none
    | (ds, []) => if ds.length ≤ maxDigits then
        some (if negative then -(ofDigits ds : Int) else ofDigits ds) else none
    | _ => none

/-- The exponent after a mantissa: absent, or `e`, a sign and digits. -/
def readExponent? : List Char → Option Int
  | [] => some 0
  | c :: rest =>
    if c == 'e' || c == 'E' then
      let (negative, rest) := readSign rest
      match readDigits rest with
      | ([], _) => none
      | (ds, []) => some (if negative then -(ofDigits ds : Int) else ofDigits ds)
      | _ => none
    else none

/-- An unsigned decimal fraction with an optional exponent. -/
def readFraction? (negative : Bool) (cs : List Char) : Option Binary64 :=
  let (whole, rest) := readDigits cs
  let (part, rest) := match rest with
    | '.' :: rest => readDigits rest
    | rest => ([], rest)
  if whole.isEmpty && part.isEmpty then none
  else
    (readExponent? rest).map fun e =>
      Binary64.ofDecimal negative (ofDigits (whole ++ part)) (e - (part.length : Int))

/-- The binary number nearest to the trimmed text's numeral, or the special value that it names. -/
def readFloat? (s : String) : Option Binary64 :=
  match joinUnderscores (trim s.toList) with
  | none => none
  | some cs =>
    let (negative, rest) := readSign cs
    let name := String.ofList (rest.map Char.toLower)
    if name == "inf" || name == "infinity" then some (.infinite negative)
    else if name == "nan" then some (.nan .other)
    else readFraction? negative rest

end ApiRouter.Text
