import ApiRouter.Error
import ApiRouter.Text.Emoji
import ApiRouter.Text.Markup.Literal
import ApiRouter.Text.Markup.Style
import ApiRouter.Text.Width

set_option autoImplicit false

/-! # Style marks in messages

A message may hold style marks in brackets: `[name]` opens a style, `[/name]` closes it, and `[/]`
closes the last one. A backslash before a mark makes it ordinary text; one before any other
opening bracket is dropped. A mark whose name starts with an at sign is an action, which may have
literals as parameters. Without a terminal the marks have no effect, but they are taken out all the
same, and each closing mark needs an open one. -/

namespace ApiRouter.Text.Markup

/-! ## Pieces -/

/-- A piece of a message. -/
inductive Piece where
  | text (cs : List Char)
  | mark (name : List Char) (parameters : Option (List Char))
  deriving DecidableEq, Repr

/-- Whether a mark may start with the character. -/
def startsMark (c : Char) : Bool :=
  ('a' ≤ c && c ≤ 'z') || c == '#' || c == '/' || c == '@'

/-- The inside of the mark after an opening bracket. -/
def markAfter? (cs : List Char) : Option (List Char) :=
  match cs with
  | [] => none
  | c :: rest =>
    if !startsMark c then none
    else
      let (inner, after) := rest.span fun c => c != '[' && c != ']'
      if after.head? == some ']' then some (c :: inner) else none

/-- The mark with the given inside: parameters follow an equals sign. -/
def markOf (inner : List Char) : Piece :=
  let name := inner.takeWhile (· != '=')
  .mark name (if name.length < inner.length then some (inner.drop (name.length + 1)) else none)

/-- The piece of a text that is given in reverse, unless it is empty. -/
def textPiece (reversed : List Char) : List Piece :=
  if reversed.isEmpty then [] else [.text reversed.reverse]

/-- The pieces of a message; `found` is the text since the last mark, in reverse, and `slashes`
counts the backslashes just before. -/
def piecesFrom (found : List Char) (slashes : Nat) (skip : Nat) : List Char → List Piece
  | [] => textPiece (List.replicate slashes '\\' ++ found)
  | c :: rest =>
    match skip with
    | skip + 1 => piecesFrom found 0 skip rest
    | 0 =>
      if c == '\\' then piecesFrom found (slashes + 1) 0 rest
      else
        match if c == '[' then markAfter? rest else none with
        | none => piecesFrom (c :: List.replicate slashes '\\' ++ found) 0 0 rest
        | some inner =>
          let mark := if slashes % 2 == 1 then .text ('[' :: inner ++ [']']) else markOf inner
          textPiece found ++ textPiece (List.replicate (slashes / 2) '\\') ++
            mark :: piecesFrom [] 0 (inner.length + 1) rest

/-- A text without the backslashes before opening brackets. -/
def withoutEscapes : List Char → List Char
  | [] => []
  | '\\' :: '[' :: rest => '[' :: withoutEscapes rest
  | c :: rest => c :: withoutEscapes rest

/-! ## Marks -/

/-- An open mark: the normal form of its style, and its parameters. -/
structure OpenMark where
  name : String
  parameters : Option (List Char)
  deriving DecidableEq, Repr

/-- The parameters between parentheses after the name of an action, or none at all; other texts have
no name. -/
def argumentsOf (cs : List Char) : List Char :=
  let after := cs.dropWhile fun c => isWord c || c == '.'
  if after.isEmpty then "()".toList
  else if after.head? == some '(' && after.getLast? == some ')' && !after.contains '\n' then after
  else cs

/-- Whether a mark can be closed: the parameters of an action must be literals. -/
def OpenMark.isSound (m : OpenMark) : Bool :=
  match m.parameters with
  | some (c :: cs) => !m.name.startsWith "@" || Literal.isLiteral (argumentsOf (trim (c :: cs)))
  | some [] | none => true

/-- Takes out the last open mark with a name. -/
def close? (name : String) : List OpenMark → Option (OpenMark × List OpenMark)
  | [] => none
  | m :: marks =>
    if m.name == name then some (m, marks)
    else (close? name marks).map fun (found, rest) => (found, m :: rest)

/-- A style's normal form. -/
def styleName (definition : List Char) : Except Defect String :=
  (Style.normalize definition).mapError fun _ => .badValue

/-- The text of pieces, given the open marks, the last one first. -/
def render (marks : List OpenMark) : List Piece → Except Defect (List Char)
  | [] => .ok []
  | .text cs :: rest => do
    let more ← render marks rest
    .ok (Emoji.replace (withoutEscapes cs) ++ more)
  | .mark ('/' :: name) _ :: rest => do
    let closed ←
      if (trim name).isEmpty then
        match marks with
        | [] => .ok none
        | m :: outer => .ok (some (m, outer))
      else do
        .ok (close? (← styleName name) marks)
    match closed with
    | none => .error .badMarkup
    | some (m, outer) => if m.isSound then render outer rest else .error .badMarkup
  | .mark name parameters :: rest => do
    render (⟨← styleName name, parameters⟩ :: marks) rest

/-! ## Lines -/

/-- Whether the character moves the cursor or rings the bell. -/
def isControl (c : Char) : Bool :=
  ['\x07', '\x08', '\x0b', '\x0c', '\r'].contains c

/-- The distance between the columns that tabs reach. -/
def tabWidth : Nat := 8

/-- A line with spaces for tabs; `cells` counts the cells before the current part, whose characters
since the last tab are given in reverse. A tab is at least one space. -/
def expandTabs (cells : Nat) (part : List Char) : List Char → List Char
  | [] => part.reverse
  | '\n' :: rest => part.reverse ++ '\n' :: expandTabs 0 [] rest
  | '\t' :: rest =>
    let part := (' ' :: part).reverse
    let reached := cells + width part
    let more := (tabWidth - reached % tabWidth) % tabWidth
    part ++ List.replicate more ' ' ++ expandTabs (reached + more) [] rest
  | c :: rest => expandTabs cells (c :: part) rest

/-- A message with pictures for their names and spaces for tabs, but without style marks and control
characters. -/
def plain (message : String) : Except Defect String := do
  let cs ←
    if message.toList.contains '[' then render [] (piecesFrom [] 0 0 message.toList)
    else .ok (Emoji.replace message.toList)
  .ok (String.ofList (expandTabs 0 [] (cs.filter fun c => !isControl c)))

end ApiRouter.Text.Markup
