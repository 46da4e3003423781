import ApiRouter.Yaml.Error
import ApiRouter.Yaml.Glyph

set_option autoImplicit false

/-! # Block scalars

Scalars whose lines are set apart by their indentation. A header says whether lines are kept or
folded, what becomes of the line breaks at the end, and, if need be, how far the lines are
indented. -/

namespace ApiRouter.Yaml

/-- What becomes of the line breaks at the end of a block scalar. -/
inductive Chomping where
  | strip
  | clip
  | keep
  deriving DecidableEq, Repr

/-- What the header of a block scalar says. -/
structure BlockHeader where
  chomping : Chomping
  indentation : Option Nat

def chompingOf? : Char → Option Chomping
  | '+' => some .keep
  | '-' => some .strip
  | _ => none

/-- The indicators after the style of a block scalar, in any order. -/
def readBlockHeader (t : List Glyph) : Except Error (BlockHeader × List Glyph) := do
  let (indicators, rest) := spanChars (fun c => c == '+' || c == '-' || c.isDigit) t
  let digit? (c : Char) : Option Nat :=
    if c.isDigit && c != '0' then some (c.toNat - 48) else none
  if !endsWord (charOf rest) then refuse .badBlockHeader
  else
    match indicators with
    | [] => .ok (⟨.clip, none⟩, rest)
    | [a] =>
      match chompingOf? a, digit? a with
      | some c, _ => .ok (⟨c, none⟩, rest)
      | none, some n => .ok (⟨.clip, some n⟩, rest)
      | none, none => refuse .badBlockHeader
    | [a, b] =>
      match chompingOf? a, digit? b, digit? a, chompingOf? b with
      | some c, some n, _, _ => .ok (⟨c, some n⟩, rest)
      | _, _, some n, some c => .ok (⟨c, some n⟩, rest)
      | _, _, _, _ => refuse .badBlockHeader
    | _ => refuse .badBlockHeader

/-- The line breaks before the first line with content, and the furthest column that spaces
reach. -/
def openingBreaks (furthest : Nat) : List Glyph → List Char × Nat × List Glyph
  | [] => ([], furthest, [])
  | g :: rest =>
    if g.char == ' ' then openingBreaks (max furthest (g.column + 1)) rest
    else if isBreak g.char then
      let (breaks, furthest, rest) := openingBreaks furthest rest
      (g.char :: breaks, furthest, rest)
    else ([], furthest, g :: rest)

/-- The line breaks before the next line with content, and its content after the indentation. -/
def breaksBetween (indent : Nat) : List Glyph → List Char × List Glyph
  | [] => ([], [])
  | g :: rest =>
    if g.char == ' ' && g.column < indent then breaksBetween indent rest
    else if isBreak g.char then
      let (breaks, rest) := breaksBetween indent rest
      (g.char :: breaks, rest)
    else ([], g :: rest)

/-- The next line break, if there is one, and what follows it. -/
def spanBreak : List Glyph → List Char × List Glyph
  | [] => ([], [])
  | g :: rest => if isBreak g.char then ([g.char], rest) else ([], g :: rest)

/-- The lines of a block scalar, the break after the last one, and those before the next content. -/
structure BlockLines where
  chars : List Char
  lastBreak : List Char
  breaks : List Char
  rest : List Glyph

/-- Whether a line of the block scalar is next. -/
def atBlockLine (indent : Nat) (t : List Glyph) : Bool :=
  (glyphOf t).column == indent && charOf t != endMark

def isBlank (c : Char) : Bool :=
  c == ' ' || c == '\t'

/-- The lines of a block scalar. Between lines that do not start with a blank a folded scalar
makes one line break a space, and drops one of several. -/
def readBlockLines (folded : Bool) (indent : Nat) (breaks : List Char) :
    (fuel : Nat) → List Glyph → BlockLines
  | 0, t => ⟨[], [], breaks, t⟩
  | fuel + 1, t =>
    if !atBlockLine indent t then ⟨[], [], breaks, t⟩
    else
      let (line, rest) := spanChars (fun c => !endsLine c) t
      let (lineBreak, rest) := spanBreak rest
      let (between, rest) := breaksBetween indent rest
      if !atBlockLine indent rest then ⟨breaks ++ line, lineBreak, between, rest⟩
      else
        let joint :=
          if folded && lineBreak == ['\n'] && !isBlank (charOf t) && !isBlank (charOf rest) then
            if between.isEmpty then [' '] else []
          else lineBreak
        let more := readBlockLines folded indent between fuel rest
        { more with chars := breaks ++ line ++ joint ++ more.chars }

/-- A block scalar after its style indicator, within a block that is indented by `outer`. -/
def readBlock (folded : Bool) (outer : Int) (t : List Glyph) :
    Except Error (String × List Glyph) := do
  let (header, rest) ← readBlockHeader t
  let rest := dropComment (dropSpaces rest)
  if !endsLine (charOf rest) then refuse .badBlockHeader
  else
    let rest := dropBreak rest
    let least := max 1 (outer + 1).toNat
    let (breaks, indent, rest) :=
      match header.indentation with
      | none =>
        let (breaks, furthest, rest) := openingBreaks 0 rest
        (breaks, max least furthest, rest)
      | some n =>
        let indent := least + n - 1
        let (breaks, rest) := breaksBetween indent rest
        (breaks, indent, rest)
    let lines := readBlockLines folded indent breaks rest.length rest
    let tail :=
      match header.chomping with
      | .strip => []
      | .clip => lines.lastBreak
      | .keep => lines.lastBreak ++ lines.breaks
    .ok (String.ofList (lines.chars ++ tail), lines.rest)

end ApiRouter.Yaml
