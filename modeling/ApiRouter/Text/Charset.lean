import ApiRouter.Text.Charset.Name

set_option autoImplicit false

/-! # Charsets by name

In a name, only ASCII letters, digits and periods count; whatever stands between them counts as one
underscore, and capitals as small letters. -/

namespace ApiRouter.Text.Charset

/-- Whether a character counts in a name. -/
def isNameChar (c : Char) : Bool := c.isAlphanum || c == '.'

/-- The name as it is looked up. -/
def normalName (name : String) : String :=
  let parts := name.toList.splitBy fun a b => isNameChar a && isNameChar b
  let words := parts.filter fun part => part.all isNameChar
  String.intercalate "_" (words.map fun word => String.ofList (word.map Char.toLower))

/-- The charset that a name stands for besides its first name. -/
def ofOtherName? (name : String) : Option Charset :=
  (all.find? fun n => n.others.contains name).map Named.charset

/-- The charset of a name. Periods in another name than the first may be written as underscores. -/
def ofName? (name : String) : Option Charset :=
  let name := normalName name
  ofOtherName? name
    <|> ofOtherName? (String.ofList (name.toList.map fun c => if c == '.' then '_' else c))
    <|> (all.find? fun n => n.name == name).map Named.charset

end ApiRouter.Text.Charset
