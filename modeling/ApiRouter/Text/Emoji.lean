import ApiRouter.Text.Case
import ApiRouter.Text.Digit
import ApiRouter.Text.Emoji.Table
import ApiRouter.Text.Split

set_option autoImplicit false

/-! # Pictures by their names

A message may call a picture by a name between colons. `-emoji` or `-text` after the name asks for
the picture in colours or for the plain sign. -/

namespace ApiRouter.Text.Emoji

/-! ## Looking up -/

/-- The code points that an entry gives for a picture. -/
def codesOf? (cs : List Char) : Option (List Char) :=
  (split '+' cs).mapM fun digits => (hexNumber? digits).map charOfCode

/-- An entry of the table: a name, whether there are tones, and the picture. -/
def entry? (cs : List Char) : Option (List Char × Bool × List Char) := do
  let name := cs.takeWhile (· != '=')
  let picture ← codesOf? (cs.drop (name.length + 1))
  if name.getLast? == some '~' then some (name.dropLast, true, picture)
  else some (name, false, picture)

/-- The picture with a name in the table, and whether there are tones of it. -/
def plainPicture? (name : List Char) : Option (Bool × List Char) :=
  rows.findSome? fun row =>
    (split ' ' row.toList).findSome? fun cs =>
      if name.isPrefixOf cs then
        match entry? cs with
        | some (found, toned, picture) => if found == name then some (toned, picture) else none
        | none => none
      else none

/-- The tones of skin and the characters that give them to a picture. -/
def tones : List (String × Char) :=
  [("_light_skin_tone", '🏻'), ("_medium-light_skin_tone", '🏼'), ("_medium_skin_tone", '🏽'),
    ("_medium-dark_skin_tone", '🏾'), ("_dark_skin_tone", '🏿')]

/-- A picture in a tone of skin: the tone follows its first character in place of a selector. -/
def withTone (tone : Char) : List Char → List Char
  | [] => []
  | c :: '\ufe0f' :: rest => c :: tone :: rest
  | c :: rest => c :: tone :: rest

/-- The picture with a name that ends in a tone of skin. -/
def tonedPicture? (name : List Char) : Option (List Char) :=
  tones.findSome? fun (ending, tone) =>
    if ending.toList.isSuffixOf name then
      match plainPicture? (name.take (name.length - ending.length)) with
      | some (true, picture) => some (withTone tone picture)
      | _ => none
    else none

/-- The picture with a name, in which capitals count as small letters. -/
def picture? (name : List Char) : Option (List Char) :=
  let name := (lower (String.ofList name)).toList
  match plainPicture? name with
  | some (_, picture) => some picture
  | none => tonedPicture? name

/-! ## Replacing -/

/-- What stands between colons as a name and the selector that it asks for. -/
def nameAndSelector (inner : List Char) : List Char × List Char :=
  let without (ending : String) : Option (List Char) :=
    if ending.toList.isSuffixOf inner then some (inner.take (inner.length - ending.length))
    else none
  match without "-emoji", without "-text" with
  | some name, _ => (name, ['\ufe0f'])
  | none, some name => (name, ['\ufe0e'])
  | none, none => (inner, [])

/-- What stands before the next colon, if there is one with no white space before it. -/
def upToColon? : List Char → Option (List Char)
  | [] => none
  | c :: rest =>
    if c == ':' then some []
    else if isBlank c then none
    else (upToColon? rest).map (c :: ·)

/-- The rest of a text after `skip` characters, with pictures for their names. -/
def replaceFrom (skip : Nat) : List Char → List Char
  | [] => []
  | c :: rest =>
    match skip with
    | skip + 1 => replaceFrom skip rest
    | 0 =>
      match if c == ':' then upToColon? rest else none with
      | none => c :: replaceFrom 0 rest
      | some inner =>
        let (name, selector) := nameAndSelector inner
        let shown :=
          match picture? name with
          | some picture => picture ++ selector
          | none => ':' :: inner ++ [':']
        shown ++ replaceFrom (inner.length + 1) rest

/-- A text with pictures for their names. -/
def replace (cs : List Char) : List Char :=
  replaceFrom 0 cs

end ApiRouter.Text.Emoji
