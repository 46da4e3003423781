import ApiRouter.Error
import ApiRouter.Text.Numeral
import ApiRouter.Text.Split
import ApiRouter.Text.Utf8
import ApiRouter.Value.Display

set_option autoImplicit false

/-! # Typed fields

Reading the fields of a structured input from document values. Reading is lenient: a text that
spells a number or a boolean serves as one, a number without fraction serves as a whole one, and
bytes serve as the text that they encode.
All ill-typed fields are reported together, in the order in which the structure declares them. -/

namespace ApiRouter

/-- A value that has the type it needs, or the issues that it has instead. -/
inductive Checked (α : Type) where
  | ok (value : α)
  | issues (found : List Issue)
  deriving Repr

namespace Checked

variable {α β : Type}

protected def map (f : α → β) : Checked α → Checked β
  | .ok a => .ok (f a)
  | .issues is => .issues is

/-- The issues of both parts add up, those of the first part first. -/
protected def seq (f : Checked (α → β)) (a : Unit → Checked α) : Checked β :=
  match f, a () with
  | .ok f, .ok a => .ok (f a)
  | .ok _, .issues is => .issues is
  | .issues is, .ok _ => .issues is
  | .issues is, .issues js => .issues (is ++ js)

instance : Applicative Checked where
  pure := .ok
  map := Checked.map
  seq := Checked.seq

/-- A single issue with the value itself. -/
def issue (kind : IssueKind) : Checked α :=
  .issues [⟨[], kind⟩]

/-- The issues seen from outside the field `name`. -/
def under (name : String) : Checked α → Checked α
  | .ok a => .ok a
  | .issues is => .issues (is.map (Issue.under name))

/-- The values of all items, or all their issues. -/
def all : List (Checked α) → Checked (List α)
  | [] => .ok []
  | c :: cs => List.cons <$> c <*> all cs

def toExcept : Checked α → Except Failure α
  | .ok a => .ok a
  | .issues is => .error (.illTyped is)

end Checked

namespace Field

/-! ## Texts -/

/-- The text that bytes encode. -/
def textOfBytes? (bytes : List UInt8) : Option String :=
  Text.Utf8.decode? (bytes.map UInt8.toNat)

/-- A text. -/
def text : Value → Checked String
  | .text s => .ok s
  | .bytes b =>
    match textOfBytes? b with
    | some s => .ok s
    | none => .issue .undecodableText
  | _ => .issue .notText

/-- What a text, or the text of bytes, spells in the eyes of `read`; bytes that are no text are as
unreadable as a text that spells nothing. -/
def spelled {α : Type} (unreadable : IssueKind) (read : String → Checked α) :
    Value → Option (Checked α)
  | .text s => some (read s)
  | .bytes b =>
    match textOfBytes? b with
    | some s => some (read s)
    | none => some (.issue unreadable)
  | _ => none

/-! ## Booleans -/

/-- The boolean that a word spells, whatever its case. -/
def spelledBool (s : String) : Checked Bool :=
  let word := String.ofList (s.toList.map Char.toLower)
  if ["1", "t", "y", "yes", "on", "true"].contains word then .ok true
  else if ["0", "f", "n", "no", "off", "false"].contains word then .ok false
  else .issue .unreadableBool

/-- The boolean that zero or one stands for. -/
def numberedBool (n : Int) : Checked Bool :=
  if n == 0 then .ok false else if n == 1 then .ok true else .issue .unreadableBool

/-- Binary numbers of this size and beyond do not serve as whole numbers. -/
def wholeFloatLimit : Nat := twoPow 63

/-- A boolean, the number zero or one, or a word that spells a boolean. Numbers that need more than
sixty-four bits are of the wrong type altogether. -/
def bool (v : Value) : Checked Bool :=
  match v with
  | .bool b => .ok b
  | .int n =>
    if -(wholeFloatLimit : Int) ≤ n && n < wholeFloatLimit then numberedBool n else .issue .notBool
  | .float x =>
    match x.toInt? with
    | some n => if n.natAbs < wholeFloatLimit then numberedBool n else .issue .notBool
    | none => .issue .notBool
  | v => (spelled .unreadableBool spelledBool v).getD (.issue .notBool)

/-! ## Numerals -/

/-- White space around numerals: the information separators do not count. -/
def isNumeralBlank (c : Char) : Bool :=
  Text.isBlank c && !(28 ≤ c.toNat && c.toNat ≤ 31)

def trimNumeral (cs : List Char) : List Char :=
  ((cs.dropWhile isNumeralBlank).reverse.dropWhile isNumeralBlank).reverse

/-- A numeral without its underscores, which stand neither at its ends nor side by side. -/
def withoutUnderscores? (cs : List Char) : Option (List Char) :=
  let parts := Text.split '_' cs
  if parts.any List.isEmpty then none else some parts.flatten

/-- A whole number in digits, without zeros in front. A row of digits that is too long counts before
what follows it. -/
def plainInt (cs : List Char) : Checked Int :=
  let (negative, digits) :=
    match cs with
    | '-' :: digits => (true, digits)
    | digits => (false, digits)
  let row := digits.takeWhile Text.isAsciiDigit
  let length := row.length + (if negative then 1 else 0)
  if row.isEmpty || (row.head? == some '0' && digits.length > 1) then .issue .unreadableInt
  else if length > Text.maxDigits then .issue .oversizedInt
  else if row.length < digits.length then .issue .unreadableInt
  else
    let n := Text.decimalNumber row
    .ok (if negative then -(n : Int) else n)

/-- What follows the zeros, and the underscores among them, in front of a numeral without a minus
sign, which must be a digit or a point; the last zero stays if there is no further digit before the
point. -/
def dropLeadingZeros (cs : List Char) : List Char :=
  if cs.head? == some '0' then
    match cs.dropWhile fun c => c == '0' || c == '_' with
    | [] => cs.drop (cs.length - 1)
    | '.' :: rest => cs.drop (cs.length - rest.length - 2)
    | c :: rest => if Text.isAsciiDigit c then c :: rest else []
  else cs

/-- The numeral before a point that only zeros follow, of which there must be some. -/
def dropZeroFraction (cs : List Char) : List Char :=
  let whole := cs.takeWhile (· != '.')
  let zeros := cs.drop (whole.length + 1)
  if !zeros.isEmpty && zeros.all (· == '0') then whole else cs

/-- A whole number without the blanks around it, a plus sign, zeros in front, a fraction of zeros
and underscores. -/
def cleanInt (cs : List Char) : List Char :=
  let cs := trimNumeral cs
  let cs :=
    match cs with
    | '+' :: '-' :: _ => []
    | '+' :: rest => rest
    | rest => rest
  let cs := dropZeroFraction (dropLeadingZeros cs)
  (withoutUnderscores? cs).getD []

/-- The whole number that a text spells. -/
def spelledInt (s : String) : Checked Int :=
  match plainInt s.toList with
  | .ok n => .ok n
  | .issues is =>
    if is.any fun i => i.kind == .oversizedInt then .issues is else plainInt (cleanInt s.toList)

/-- A whole number, or a boolean, a number without fraction or a text that spells one. -/
def int (v : Value) : Checked Int :=
  match v with
  | .int n => .ok n
  | .bool b => .ok (if b then 1 else 0)
  | .float (.nan _) => .issue .notFinite
  | .float (.infinite _) => .issue .notFinite
  | .float x =>
    match x.toInt? with
    | some n => if n.natAbs < wholeFloatLimit then .ok n else .issue .oversizedInt
    | none => .issue .fractionalInt
  | v => (spelled .unreadableInt spelledInt v).getD (.issue .notInt)

/-- The binary number that a text spells in ASCII. -/
def spelledFloat (s : String) : Checked Binary64 :=
  let cs := trimNumeral s.toList
  let plain := cs.all fun c => c.toNat < 128 && !Text.isBlank c
  match withoutUnderscores? cs with
  | some cs =>
    match if plain then Text.readFloat? (String.ofList cs) else none with
    | some x => .ok x
    | none => .issue .unreadableFloat
  | none => .issue .unreadableFloat

/-- The number that a text spells; it is whole if it can be. -/
def spelledNumber (s : String) : Checked Number :=
  match spelledInt s, spelledFloat s with
  | .ok n, _ => .ok (.int n)
  | .issues _, .ok x => .ok (.float x)
  | .issues is, .issues js => .issues (is.map (.under "int") ++ js.map (.under "float"))

/-- A number of either kind, kept as it is, or a text that spells one. -/
def number (v : Value) : Checked Number :=
  match v with
  | .int n => .ok (.int n)
  | .float x => .ok (.float x)
  | .bool b => .ok (.int (if b then 1 else 0))
  | .text s => spelledNumber s
  | .bytes b =>
    match textOfBytes? b with
    | some s => spelledNumber s
    | none => .issues [⟨["int"], .unreadableInt⟩, ⟨["float"], .unreadableFloat⟩]
  | _ => .issues [⟨["int"], .notInt⟩, ⟨["float"], .notFloat⟩]

/-! ## Containers -/

/-- A list with items of one type. -/
def listOf {α : Type} (item : Value → Checked α) : Value → Checked (List α)
  | .list vs => Checked.all (vs.zipIdx.map fun (v, i) => (item v).under (toString i))
  | _ => .issue .notList

/-- The name of a key in the path of an issue: a boolean counts as zero or one. -/
def keyName : Scalar → String
  | .bool b => if b then "1" else "0"
  | s => s.display

/-- A key that has to be a text. -/
def key (k : Scalar) : Checked String :=
  (text (.scalar k)).under "[key]" |>.under (keyName k)

/-- A mapping with text keys and values of one type. -/
def mapOf {α : Type} (value : Value → Checked α) : Value → Checked (List (String × α))
  | .map es =>
    Checked.all (es.map fun (k, v) => Prod.mk <$> key k <*> (value v).under (keyName k))
  | _ => .issue .notMapping

/-- Any value. -/
def any (v : Value) : Checked Value := .ok v

/-- Null, or a value of the type. -/
def orNull {α : Type} (read : Value → Checked α) : Value → Checked (Option α)
  | .null => .ok none
  | v => some <$> read v

/-! ## Fields of a structure -/

/-- A field that has to be there. -/
def required {α : Type} (m : Entries) (name : String) (read : Value → Checked α) : Checked α :=
  (match Entries.find? m name with
    | some v => read v
    | none => .issue .missing).under name

/-- A field with a default. -/
def withDefault {α : Type} (m : Entries) (name : String) (default : α) (read : Value → Checked α) :
    Checked α :=
  match Entries.find? m name with
  | some v => (read v).under name
  | none => .ok default

/-- A field that may be absent or null. -/
def optional {α : Type} (m : Entries) (name : String) (read : Value → Checked α) :
    Checked (Option α) :=
  withDefault m name none (orNull read)

/-- A structure: a mapping from which fields are read. -/
def model {α : Type} (read : Entries → Checked α) : Value → Checked α
  | .map es => read es
  | _ => .issue .notModel

end Field

end ApiRouter
