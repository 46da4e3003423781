import ApiRouter.Text.Digit
import ApiRouter.Text.Utf8

set_option autoImplicit false

/-! # Percent escapes

A percent sign and two hexadecimal digits stand for a byte; a percent sign before anything else
stands for itself. -/

namespace ApiRouter.Text.Percent

/-- The bytes of a text once its escapes are resolved. -/
def bytes : List Char → List Nat
  | '%' :: a :: b :: rest =>
    match hexNumber? [a, b] with
    | some n => n :: bytes rest
    | none => 0x25 :: bytes (a :: b :: rest)
  | c :: rest => Utf8.encodeChar c ++ bytes rest
  | [] => []

/-- A text with its escapes resolved; escaped bytes that are no text are replaced. -/
def decode (cs : List Char) : List Char :=
  Utf8.decodeLenient (bytes cs)

end ApiRouter.Text.Percent
