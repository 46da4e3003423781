import ApiRouter.Number.Shortest
import ApiRouter.Text.Numeral
import ApiRouter.Text.Quoted
import ApiRouter.Value

set_option autoImplicit false

/-! # Display of values

The form in which messages and plain output show a value. A text on its own stands unquoted;
inside a list or mapping, and wherever a message quotes a value, texts are quoted. -/

namespace ApiRouter

namespace Scalar

/-- A scalar as a message quotes it. -/
def quoted : Scalar → String
  | .null => "None"
  | .bool b => if b then "True" else "False"
  | .int n => toString n
  | .float x => x.text
  | .text s => Text.quoted s
  | .date d => d.quoted
  | .moment m => m.quoted
  | .bytes b => Text.quotedBytes b

/-- A scalar as it stands on its own. -/
def display : Scalar → String
  | .text s => s
  | .date d => d.text
  | .moment m => m.text
  | s => s.quoted

/-- Whether a scalar can be shown: a whole number of too many digits cannot. -/
def isShowable : Scalar → Bool
  | .int n => n.natAbs < tenPow Text.maxDigits
  | _ => true

end Scalar

namespace Value

mutual

/-- A value as a message quotes it. -/
def quoted : Value → String
  | .scalar s => s.quoted
  | .list items => "[" ++ quotedItems items ++ "]"
  | .map entries => "\x7b" ++ quotedEntries entries ++ "\x7d"
  | .pair a b => "(" ++ quoted a ++ ", " ++ quoted b ++ ")"
  | .set [] => "set()"
  | .set ks => "\x7b" ++ String.intercalate ", " (ks.map Scalar.quoted) ++ "\x7d"
  | .endless => "..."

def quotedItems : List Value → String
  | [] => ""
  | [v] => quoted v
  | v :: vs => quoted v ++ ", " ++ quotedItems vs

def quotedEntries : Entries → String
  | [] => ""
  | [(k, v)] => k.quoted ++ ": " ++ quoted v
  | (k, v) :: es => k.quoted ++ ": " ++ quoted v ++ ", " ++ quotedEntries es

end

mutual

/-- Whether a value can be shown: all its parts can. -/
def isShowable : Value → Bool
  | .scalar s => s.isShowable
  | .list items => areShowable items
  | .map entries => areShowableEntries entries
  | .pair a b => isShowable a && isShowable b
  | .set ks => ks.all Scalar.isShowable
  | .endless => true

def areShowable : List Value → Bool
  | [] => true
  | v :: vs => isShowable v && areShowable vs

def areShowableEntries : Entries → Bool
  | [] => true
  | (k, v) :: es => k.isShowable && isShowable v && areShowableEntries es

end

/-- A value as it stands on its own. -/
def display : Value → String
  | .scalar s => s.display
  | v => v.quoted

/-- The name of a value's kind, as messages give it. -/
def kindName : Value → String
  | .null => "NoneType"
  | .bool _ => "bool"
  | .int _ => "int"
  | .float _ => "float"
  | .text _ => "str"
  | .date _ => "date"
  | .moment _ => "datetime"
  | .bytes _ => "bytes"
  | .list _ => "list"
  | .map _ | .endless => "dict"
  | .pair _ _ => "tuple"
  | .set _ => "set"

end Value

end ApiRouter
