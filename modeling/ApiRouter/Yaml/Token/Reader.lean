import ApiRouter.Yaml.Block
import ApiRouter.Yaml.Token

set_option autoImplicit false

/-! # Finding the tokens of a text

A colon shows only afterwards that a key came before it. Every place where a key may have started
is therefore remembered, one for each level of flow collections, and the tokens that announce the
key are put there once its colon is found. A key ends within its line and within 1024 characters.
-/

namespace ApiRouter.Yaml

/-- A place where a key may have started. -/
structure KeyStart where
  /-- The number of tokens before it. -/
  position : Nat
  /-- Whether nothing but a key can start there. -/
  required : Bool
  place : Glyph

/-- The state of the reader between two tokens. -/
structure Reader where
  text : List Glyph
  /-- The tokens found so far, latest first, and their number. -/
  tokens : List Token
  count : Nat
  /-- The column of the innermost block and those of the blocks around it. -/
  indent : Int
  outerIndents : List Int
  /-- Whether a key may start at the next token. -/
  keyAllowed : Bool
  /-- The place of a possible key on the current level, and on the levels around it. -/
  keyStart : Option KeyStart
  outerKeyStarts : List (Option KeyStart)
  done : Bool

namespace Reader

/-- The reader at the beginning of a text. -/
def start (text : List Glyph) : Reader :=
  ⟨text, [], 0, -1, [], true, none, [], false⟩

/-- Whether the reader is within a flow collection. -/
def inFlow (r : Reader) : Bool :=
  !r.outerKeyStarts.isEmpty

/-- The column of the next character. -/
def column (r : Reader) : Nat :=
  (glyphOf r.text).column

/-- Adds a token. -/
def push (r : Reader) (t : Token) : Reader :=
  { r with tokens := t :: r.tokens, count := r.count + 1 }

/-- Adds a token at an earlier position. -/
def insertAt (r : Reader) (position : Nat) (t : Token) : Reader :=
  let later := r.count - position
  { r with tokens := r.tokens.take later ++ t :: r.tokens.drop later, count := r.count + 1 }

/-- Moves past some characters. -/
def skip (r : Reader) (n : Nat) : Reader :=
  { r with text := r.text.drop n }

/-! ## Keys -/

/-- Forgets the possible key of the current level; one that is required must not be lost. -/
def dropKeyStart (r : Reader) : Except Error Reader :=
  match r.keyStart with
  | some k => if k.required then refuse .missingColon else .ok { r with keyStart := none }
  | none => .ok r

/-- Whether a key that started at a place would be too long by now. -/
def isStale (here : Glyph) (k : KeyStart) : Bool :=
  k.place.line != here.line || here.index - k.place.index > 1024

/-- A possible key, unless it would be too long by now. -/
def freshKeyStart (here : Glyph) (k : Option KeyStart) : Except Error (Option KeyStart) :=
  match k with
  | none => .ok none
  | some k =>
    if !isStale here k then .ok (some k)
    else if k.required then refuse .missingColon
    else .ok none

/-- Forgets all possible keys that would be too long by now. -/
def dropStaleKeyStarts (r : Reader) : Except Error Reader := do
  let here := glyphOf r.text
  let keyStart ← freshKeyStart here r.keyStart
  let outer ← r.outerKeyStarts.mapM (freshKeyStart here)
  .ok { r with keyStart := keyStart, outerKeyStarts := outer }

/-- Remembers that a key may start at the next token. -/
def saveKeyStart (r : Reader) : Except Error Reader :=
  if !r.keyAllowed then .ok r
  else do
    let r ← r.dropKeyStart
    let required := !r.inFlow && r.indent == (r.column : Int)
    .ok { r with keyStart := some ⟨r.count, required, glyphOf r.text⟩ }

/-! ## Indentation -/

/-- Ends the blocks that are indented further than a column. -/
def unwindBlocks (column : Int) : (outer : List Int) → Reader → Reader
  | [], r => r
  | o :: outer, r =>
    if r.indent ≤ column then r
    else unwindBlocks column outer ({ r with indent := o, outerIndents := outer }.push .blockEnd)

/-- Ends the blocks that are indented further than a column; within flow collections there are
none. -/
def unwind (r : Reader) (column : Int) : Reader :=
  if r.inFlow then r else unwindBlocks column r.outerIndents r

/-- Whether a block that starts at a column is a new one. -/
def opensBlock (r : Reader) (column : Nat) : Bool :=
  r.indent < (column : Int)

/-- Enters a block that starts at a column. -/
def enterBlock (r : Reader) (column : Nat) : Reader :=
  { r with outerIndents := r.indent :: r.outerIndents, indent := column }

/-- Opens a block at the next token, unless it belongs to the current one. -/
def openBlock (r : Reader) (t : Token) : Reader :=
  if r.opensBlock r.column then (r.enterBlock r.column).push t else r

/-! ## Tokens of one kind -/

/-- The end of the text, which ends all blocks. -/
def readStreamEnd (r : Reader) : Except Error Reader := do
  let r ← (r.unwind (-1)).dropKeyStart
  .ok { r.push .streamEnd with keyAllowed := false, done := true }

def readDirectiveToken (r : Reader) : Except Error Reader := do
  let r ← (r.unwind (-1)).dropKeyStart
  let (d, rest) ← readDirective (r.text.drop 1)
  .ok { r.push (.directive d) with text := rest, keyAllowed := false }

/-- A mark between documents, which ends all blocks. -/
def readDocumentMark (r : Reader) (t : Token) : Except Error Reader := do
  let r ← (r.unwind (-1)).dropKeyStart
  .ok { (r.skip 3).push t with keyAllowed := false }

/-- An opening bracket; a flow collection may be a key as a whole. -/
def readFlowStart (r : Reader) (t : Token) : Except Error Reader := do
  let r ← r.saveKeyStart
  .ok { (r.skip 1).push t with
    keyAllowed := true, keyStart := none, outerKeyStarts := r.keyStart :: r.outerKeyStarts }

/-- A closing bracket. -/
def readFlowEnd (r : Reader) (t : Token) : Except Error Reader := do
  let r ← r.dropKeyStart
  match r.outerKeyStarts with
  | [] => refuse .missingContent
  | k :: outer =>
    .ok { (r.skip 1).push t with keyAllowed := false, keyStart := k, outerKeyStarts := outer }

def readFlowEntry (r : Reader) : Except Error Reader := do
  let r ← r.dropKeyStart
  .ok { (r.skip 1).push .flowEntry with keyAllowed := true }

/-- The dash of an item. -/
def readBlockEntry (r : Reader) : Except Error Reader := do
  if !r.inFlow && !r.keyAllowed then refuse .misplacedEntry
  else
    let r := if r.inFlow then r else r.openBlock .blockSequenceStart
    let r ← r.dropKeyStart
    .ok { (r.skip 1).push .blockEntry with keyAllowed := true }

/-- The question mark before a key. -/
def readKey (r : Reader) : Except Error Reader := do
  if !r.inFlow && !r.keyAllowed then refuse .misplacedKey
  else
    let r := if r.inFlow then r else r.openBlock .blockMappingStart
    let r ← r.dropKeyStart
    .ok { (r.skip 1).push .key with keyAllowed := !r.inFlow }

/-- The colon before a value: it belongs to the possible key, or to a key after a question mark. -/
def readValue (r : Reader) : Except Error Reader := do
  match r.keyStart with
  | some k =>
    let column := k.place.column
    let r := { r with keyStart := none }.insertAt k.position .key
    let r :=
      if !r.inFlow && r.opensBlock column then
        (r.enterBlock column).insertAt k.position .blockMappingStart
      else r
    .ok { (r.skip 1).push .value with keyAllowed := false }
  | none =>
    if !r.inFlow && !r.keyAllowed then refuse .misplacedValue
    else
      let r := if r.inFlow then r else r.openBlock .blockMappingStart
      .ok { (r.skip 1).push .value with keyAllowed := !r.inFlow }

/-- A token that a key may start with. -/
def readKeyPart (r : Reader) (read : List Glyph → Except Error (Token × List Glyph)) :
    Except Error Reader := do
  let r ← r.saveKeyStart
  let (t, rest) ← read r.text
  .ok { r.push t with text := rest, keyAllowed := false }

def readAnchor (r : Reader) : Except Error Reader :=
  r.readKeyPart fun t => do
    let (name, rest) ← readName (t.drop 1)
    .ok (.anchor name, rest)

def readAlias (r : Reader) : Except Error Reader :=
  r.readKeyPart fun t => do
    let (name, rest) ← readName (t.drop 1)
    .ok (.alias name, rest)

def readTagToken (r : Reader) : Except Error Reader :=
  r.readKeyPart fun t => do
    let (tag, rest) ← readTag t
    .ok (.tag tag, rest)

def readQuotedToken (r : Reader) (double : Bool) : Except Error Reader :=
  r.readKeyPart fun t => do
    let (text, rest) ← readQuoted double (t.drop 1)
    .ok (.scalar false text, rest)

/-- A plain scalar; a key may start after it if its line ended. -/
def readPlainToken (r : Reader) : Except Error Reader := do
  let r ← r.saveKeyStart
  let found := readPlain r.inFlow (r.indent + 1).toNat r.text
  .ok { r.push (.scalar true found.text) with text := found.rest, keyAllowed := found.lineEnded }

def readBlockToken (r : Reader) (folded : Bool) : Except Error Reader := do
  let r ← r.dropKeyStart
  let (text, rest) ← readBlock folded r.indent (r.text.drop 1)
  .ok { r.push (.scalar false text) with text := rest, keyAllowed := true }

/-! ## The next token -/

/-- What remains after spaces, comments and line breaks, and whether a line ended among them. -/
def skipGap : (fuel : Nat) → List Glyph → List Glyph × Bool
  | 0, t => (t, false)
  | fuel + 1, t =>
    let t := dropComment (dropSpaces t)
    if isBreak (charOf t) then ((skipGap fuel (t.drop 1)).1, true) else (t, false)

/-- Moves to the next token, past the byte order mark at the beginning of the text. -/
def toNextToken (r : Reader) : Reader :=
  let text := match r.text with
    | g :: rest => if g.index == 0 && g.char == byteOrderMark then rest else g :: rest
    | [] => []
  let (text, lineEnded) := skipGap text.length text
  { r with text := text, keyAllowed := r.keyAllowed || (lineEnded && !r.inFlow) }

/-- Whether a plain scalar can start with a character, given the one after it. -/
def startsPlain (r : Reader) (c next : Char) : Bool :=
  !(isGap c || "-?:,[]\x7b\x7d#&*!|>'\"%@\x60".contains c) ||
    (!isGap next && (c == '-' || (!r.inFlow && (c == '?' || c == ':'))))

/-- Adds the next token, and those that it ends or announces. -/
def readToken (r : Reader) : Except Error Reader := do
  let r ← r.toNextToken.dropStaleKeyStarts
  let r := r.unwind r.column
  let c := charOf r.text
  let next := charAt r.text 1
  let atLineStart := r.column == 0
  if c == endMark then r.readStreamEnd
  else if c == '%' && atLineStart then r.readDirectiveToken
  else if atLineStart && isTripled '-' r.text then r.readDocumentMark .documentStart
  else if atLineStart && isTripled '.' r.text then r.readDocumentMark .documentEnd
  else if c == '[' then r.readFlowStart .flowSequenceStart
  else if c == '\x7b' then r.readFlowStart .flowMappingStart
  else if c == ']' then r.readFlowEnd .flowSequenceEnd
  else if c == '\x7d' then r.readFlowEnd .flowMappingEnd
  else if c == ',' then r.readFlowEntry
  else if c == '-' && isGap next then r.readBlockEntry
  else if c == '?' && (r.inFlow || isGap next) then r.readKey
  else if c == ':' && (r.inFlow || isGap next) then r.readValue
  else if c == '*' then r.readAlias
  else if c == '&' then r.readAnchor
  else if c == '!' then r.readTagToken
  else if c == '|' && !r.inFlow then r.readBlockToken false
  else if c == '>' && !r.inFlow then r.readBlockToken true
  else if c == '\'' then r.readQuotedToken false
  else if c == '"' then r.readQuotedToken true
  else if r.startsPlain c next then r.readPlainToken
  else refuse .strayCharacter

/-- The number of tokens that are certain. While a place may be where a key starts, it is open
whether the tokens from there on belong to the key, and what is wrong after them comes first. -/
def certainCount (r : Reader) : Nat :=
  let here := glyphOf r.text
  let starts := (r.keyStart :: r.outerKeyStarts).filterMap fun start =>
    start.filter fun k => k.required || !isStale here k
  starts.foldl (fun n k => min n k.position) r.count

/-- Adds all tokens. Every token takes at least one character. -/
def readTokens : (fuel : Nat) → Reader → Tokens
  | 0, r => ⟨r.tokens.reverse, none⟩
  | fuel + 1, r =>
    if r.done then ⟨r.tokens.reverse, none⟩
    else
      match r.readToken with
      | .ok r => readTokens fuel r
      | .error e => ⟨r.tokens.reverse.take r.certainCount, some e⟩

end Reader

/-- The tokens of a text, all of whose characters must be printable. -/
def Tokens.ofText (text : String) : Tokens :=
  if text.toList.all isAllowed then
    let glyphs := glyphsOf text
    Reader.readTokens (glyphs.length + 1) (Reader.start glyphs)
  else ⟨[], some (.malformed .unprintable)⟩

end ApiRouter.Yaml
