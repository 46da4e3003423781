import ApiRouter.Ordered
import ApiRouter.Text.Quoted

set_option autoImplicit false

/-! # Path templates

A template such as `/pets/{id}` is a text in which a name between braces stands for a capture: one
or more characters other than the slash and the line break. Everything else stands for itself,
braces included when what they enclose is empty or holds a slash or a brace.

Matching is anchored at both ends and greedy: the first capture is as long as any match allows,
then the second, and so on. The values of a name that occurs several times are the ones of its
last occurrence, at the place of its first. -/

namespace ApiRouter.Template

/-- A piece of a template. -/
inductive Token where
  | literal (c : Char)
  | capture (name : List Char)
  deriving DecidableEq, Repr

namespace Token

/-- The text of the template that a token comes from. -/
def source : Token → List Char
  | .literal c => [c]
  | .capture name => '\x7b' :: name ++ ['\x7d']

/-! ## Scanning -/

/-- The literal text of an opening brace whose name, reversed, is not closed. -/
def unclosed : Option (List Char) → List Token
  | none => []
  | some name => .literal '\x7b' :: name.reverse.map .literal

/-- The tokens of a text. While a brace is open, `pending` holds the name read so far, reversed. -/
def scan : (pending : Option (List Char)) → List Char → List Token
  | pending, [] => unclosed pending
  | none, c :: cs => if c = '\x7b' then scan (some []) cs else .literal c :: scan none cs
  | some name, c :: cs =>
    if c = '\x7d' then
      if name.isEmpty then .literal '\x7b' :: .literal '\x7d' :: scan none cs
      else .capture name.reverse :: scan none cs
    else if c = '\x7b' then unclosed (some name) ++ scan (some []) cs
    else if c = '/' then unclosed (some name) ++ .literal '/' :: scan none cs
    else scan (some (c :: name)) cs

/-! ## Matching -/

/-- The characters that a capture may hold. -/
def isSegmentChar (c : Char) : Bool :=
  c != '/' && c != '\n'

/-- A capture that holds `taken`, reversed, goes on as far as it can while `next` accepts the
rest. -/
def extend (next : List Char → Option (List (List Char))) (taken : List Char) :
    List Char → Option (List (List Char))
  | [] => (next []).map (taken.reverse :: ·)
  | c :: rest =>
    match if isSegmentChar c then extend next (c :: taken) rest else none with
    | some captures => some captures
    | none => (next (c :: rest)).map (taken.reverse :: ·)

/-- The captures of the tokens on a path, the longest ones first. -/
def matchAll : List Token → List Char → Option (List (List Char))
  | [], [] => some []
  | [], _ :: _ => none
  | .literal _ :: _, [] => none
  | .literal c :: tokens, d :: path => if c = d then matchAll tokens path else none
  | .capture _ :: _, [] => none
  | .capture _ :: tokens, c :: path =>
    if isSegmentChar c then extend (matchAll tokens) [c] path else none

/-! ## The equivalent regular expression -/

/-- The characters that a regular expression reads as syntax or skips as blanks. -/
def specialChars : List Char :=
  "()[]\x7b\x7d?*+-|^$\\.&~# \t\n\r\x0b\x0c".toList

/-- A token as a regular expression. -/
def pattern : Token → String
  | .literal c => if specialChars.contains c then String.ofList ['\\', c] else String.ofList [c]
  | .capture _ => "([^/\\n]+)"

def name? : Token → Option String
  | .literal _ => none
  | .capture name => some (String.ofList name)

end Token

end ApiRouter.Template

namespace ApiRouter

/-- A scanned path template. -/
structure Template where
  source : String
  tokens : List Template.Token
  deriving DecidableEq, Repr

namespace Template

def ofString (source : String) : Template :=
  ⟨source, Token.scan none source.toList⟩

/-- The capture names in order, repetitions included. -/
def names (t : Template) : List String :=
  t.tokens.filterMap Token.name?

/-- The regular expression that accepts the same paths. -/
def pattern (t : Template) : String :=
  "\\A" ++ String.join (t.tokens.map Token.pattern) ++ "\\Z"

/-- The values captured from a path, if the template matches all of it. -/
def captures? (t : Template) (path : String) : Option (List (String × String)) :=
  (Token.matchAll t.tokens path.toList).map fun values =>
    Ordered.ofList (t.names.zip (values.map String.ofList))

/-- Templates are equal when they accept the same expression under the same names. -/
def same (a b : Template) : Bool :=
  a.pattern == b.pattern && a.names == b.names

/-- What a template is hashed by. -/
def hashKey (t : Template) : String × List String :=
  (t.pattern, t.names)

/-- The template as a message shows it. -/
def display (t : Template) : String :=
  "PathMatcher(" ++ Text.quoted t.source ++ ", pattern=" ++ Text.quoted t.pattern ++ ")"

end Template

end ApiRouter
