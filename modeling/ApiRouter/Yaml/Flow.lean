import ApiRouter.Text.Digit
import ApiRouter.Yaml.Error
import ApiRouter.Yaml.Glyph

set_option autoImplicit false

/-! # Quoted and plain scalars

Scalars that go on over several lines: a single line break becomes a space, further ones are kept,
and the blanks around them are dropped. -/

namespace ApiRouter.Yaml

/-! ## Gaps -/

/-- Blanks and line breaks since the last word; lists hold the latest character first. -/
inductive Gap where
  | empty
  | blanks (chars : List Char)
  | lines (first : Char) (more : List Char)
  /-- The first line break was escaped. -/
  | joined (more : List Char)

namespace Gap

/-- One more blank; those at the start of a line do not count. -/
def blank (c : Char) : Gap → Gap
  | .empty => .blanks [c]
  | .blanks cs => .blanks (c :: cs)
  | gap => gap

/-- One more line break. -/
def lineBreak (c : Char) : Gap → Gap
  | .empty | .blanks _ => .lines c []
  | .lines first more => .lines first (c :: more)
  | .joined more => .joined (c :: more)

/-- The characters that a gap stands for, latest first. -/
def chars : Gap → List Char
  | .empty => []
  | .blanks cs => cs
  | .lines first more =>
    if first != '\n' then more ++ [first] else if more.isEmpty then [' '] else more
  | .joined more => more

/-- Whether a line ended within the gap. -/
def hasBreak : Gap → Bool
  | .empty | .blanks _ => false
  | .lines .. | .joined _ => true

end Gap

/-! ## Quoted scalars -/

/-- The character that a simple escape stands for. -/
def simpleEscape? : Char → Option Char
  | '0' => some '\x00'
  | 'a' => some '\x07'
  | 'b' => some '\x08'
  | 't' | '\t' => some '\t'
  | 'n' => some '\n'
  | 'v' => some '\x0b'
  | 'f' => some '\x0c'
  | 'r' => some '\r'
  | 'e' => some '\x1b'
  | ' ' => some ' '
  | '"' => some '"'
  | '\\' => some '\\'
  | '/' => some '/'
  | 'N' => some '\u0085'
  | '_' => some '\u00a0'
  | 'L' => some '\u2028'
  | 'P' => some '\u2029'
  | _ => none

/-- The number of hexadecimal digits after the letter of an escape. -/
def escapeLength? : Char → Option Nat
  | 'x' => some 2
  | 'u' => some 4
  | 'U' => some 8
  | _ => none

/-- The character with a number; numbers beyond the last character have none. -/
def charWith (n : Nat) : Except Error Char :=
  if n ≥ 0x80000000 then .error (.defect .overflow)
  else if n > 0x10FFFF then .error (.defect .badValue)
  else .ok (Text.charOfCode n)

/-- What an escape after its backslash adds to a scalar. -/
inductive Escape where
  | char (c : Char) (length : Nat)
  | lineBreak

/-- The escape that is next. -/
def readEscape (t : List Glyph) : Except Error Escape :=
  let c := charOf t
  match simpleEscape? c, escapeLength? c with
  | some x, _ => .ok (.char x 1)
  | none, some n =>
    match Text.hexNumber? ((List.range n).map fun i => charAt t (i + 1)) with
    | some code => (fun x => .char x (n + 1)) <$> charWith code
    | none => refuse .badEscape
  | none, none => if isBreak c then .ok .lineBreak else refuse .badEscape

/-- The rest of a quoted scalar after `skip` characters; `found` holds what is known of it, latest
first. -/
def readQuotedFrom (double : Bool) (gap : Gap) (found : List Char) (skip : Nat) :
    List Glyph → Except Error (String × List Glyph)
  | [] => refuse .unterminatedQuote
  | g :: rest =>
    let c := g.char
    match skip with
    | skip + 1 => readQuotedFrom double gap found skip rest
    | 0 =>
      if c == endMark then refuse .unterminatedQuote
      else if c == ' ' || c == '\t' then readQuotedFrom double (gap.blank c) found 0 rest
      else if isBreak c then
        if atDocumentMark rest then refuse .documentMarkInQuote
        else readQuotedFrom double (gap.lineBreak c) found 0 rest
      else
        let found := gap.chars ++ found
        if !double && c == '\'' then
          if charOf rest == '\'' then readQuotedFrom double .empty ('\'' :: found) 1 rest
          else .ok (String.ofList found.reverse, rest)
        else if double && c == '"' then .ok (String.ofList found.reverse, rest)
        else if double && c == '\\' then do
          match ← readEscape rest with
          | .char x length => readQuotedFrom double .empty (x :: found) length rest
          | .lineBreak =>
            if atDocumentMark (rest.drop 1) then refuse .documentMarkInQuote
            else readQuotedFrom double (.joined []) found 1 rest
        else readQuotedFrom double .empty (c :: found) 0 rest

/-- A quoted scalar after its opening quote. -/
def readQuoted (double : Bool) (t : List Glyph) : Except Error (String × List Glyph) :=
  readQuotedFrom double .empty [] 0 t

/-! ## Plain scalars -/

/-- Whether a plain scalar cannot go on with a character, given the one after it. -/
def endsPlain (inFlow : Bool) (c next : Char) : Bool :=
  isGap c || (c == ':' && (isGap next || (inFlow && ",[]\x7b\x7d".contains next))) ||
    (inFlow && ",?[]\x7b\x7d".contains c)

/-- A plain scalar, whether a line ended after it, and what follows. -/
structure Plain where
  text : String
  lineEnded : Bool
  rest : List Glyph

/-- The rest of a plain scalar; outside of flow collections its lines start at `column` or later. -/
def readPlainFrom (inFlow : Bool) (column : Nat) (gap : Gap) (found : List Char) :
    List Glyph → Plain
  | [] => ⟨String.ofList found.reverse, gap.hasBreak, []⟩
  | g :: rest =>
    let c := g.char
    let done (gap : Gap) (t : List Glyph) : Plain := ⟨String.ofList found.reverse, gap.hasBreak, t⟩
    if c == ' ' then readPlainFrom inFlow column (gap.blank c) found rest
    else if isBreak c then
      let gap := gap.lineBreak c
      if atDocumentMark rest then done gap rest else readPlainFrom inFlow column gap found rest
    else
      match gap with
      | .empty =>
        if endsPlain inFlow c (charOf rest) then done gap (g :: rest)
        else readPlainFrom inFlow column .empty (c :: found) rest
      | gap =>
        if c == '#' || (!inFlow && g.column < column) || endsPlain inFlow c (charOf rest) then
          done gap (g :: rest)
        else readPlainFrom inFlow column .empty (c :: gap.chars ++ found) rest

/-- A plain scalar. -/
def readPlain (inFlow : Bool) (column : Nat) (t : List Glyph) : Plain :=
  readPlainFrom inFlow column .empty [] t

end ApiRouter.Yaml
