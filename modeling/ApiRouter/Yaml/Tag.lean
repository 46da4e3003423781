import ApiRouter.Text.Split
import ApiRouter.Yaml.Timestamp

set_option autoImplicit false

/-! # Tags

The tag of a node says what its content denotes. A plain scalar without a tag takes one from the
form of its text. -/

namespace ApiRouter.Yaml

/-- What the content of a node denotes. -/
inductive Tag where
  | null
  | bool
  | int
  | float
  | timestamp
  | binary
  | text
  | list
  | map
  /-- A list of mappings with one entry each whose order counts. -/
  | orderedMap
  /-- The same, where a key may come more than once. -/
  | pairs
  /-- The keys of a mapping whose values do not count. -/
  | set
  /-- The key of a mapping whose entries are taken over. -/
  | merge
  /-- The key of a default value. -/
  | value
  /-- A tag that nothing is known of. -/
  | unknown
  deriving DecidableEq, Repr

namespace Tag

/-- The beginning of the addresses of the common tags. -/
def commonAddress : String := "tag:yaml.org,2002:"

/-- The tag with a given address. -/
def ofAddress (address : String) : Tag :=
  match address with
  | "tag:yaml.org,2002:null" => .null
  | "tag:yaml.org,2002:bool" => .bool
  | "tag:yaml.org,2002:int" => .int
  | "tag:yaml.org,2002:float" => .float
  | "tag:yaml.org,2002:timestamp" => .timestamp
  | "tag:yaml.org,2002:binary" => .binary
  | "tag:yaml.org,2002:str" => .text
  | "tag:yaml.org,2002:seq" => .list
  | "tag:yaml.org,2002:map" => .map
  | "tag:yaml.org,2002:omap" => .orderedMap
  | "tag:yaml.org,2002:pairs" => .pairs
  | "tag:yaml.org,2002:set" => .set
  | "tag:yaml.org,2002:merge" => .merge
  | "tag:yaml.org,2002:value" => .value
  | _ => .unknown

/-! ## Forms of plain scalars -/

/-- Whether the text is a word in lower case, with a capital, or in upper case. -/
def isWord (word : String) (text : String) : Bool :=
  text == word || text == word.capitalize || text == word.toUpper

def isBool (text : String) : Bool :=
  ["yes", "no", "true", "false", "on", "off"].any fun word => isWord word text

def isNull (text : String) : Bool :=
  text.isEmpty || text == "~" || isWord "null" text

/-- What follows an optional sign. -/
def afterSign : List Char → List Char
  | '-' :: rest => rest
  | '+' :: rest => rest
  | rest => rest

/-- Whether the character is one of the first `base` digits or an underscore. -/
def isDigitOf (base : Nat) (c : Char) : Bool :=
  c == '_' || (c.isDigit && c.toNat < 48 + base) ||
    (base == 16 && (('a' ≤ c && c ≤ 'f') || ('A' ≤ c && c ≤ 'F')))

/-- Whether the characters are digits and underscores, and there are some. -/
def areDigitsOf (base : Nat) (cs : List Char) : Bool :=
  !cs.isEmpty && cs.all (isDigitOf base)

/-- Whether the characters are a number below sixty, of one or two digits. -/
def isSixtieth : List Char → Bool
  | [a] => a.isDigit
  | [a, b] => a.isDigit && a.toNat < 54 && b.isDigit
  | _ => false

/-- A whole number: in base two, eight, ten or sixteen, or in base sixty with colons. -/
def isInt (text : String) : Bool :=
  match afterSign text.toList with
  | '0' :: 'b' :: digits => areDigitsOf 2 digits
  | '0' :: 'x' :: digits => areDigitsOf 16 digits
  | ['0'] => true
  | '0' :: digits => areDigitsOf 8 digits
  | c :: rest =>
    c.isDigit &&
      match Text.split ':' rest with
      | first :: more => first.all (isDigitOf 10) && more.all isSixtieth
      | [] => false
  | [] => false

/-- An exponent, whose sign is required, or nothing. -/
def isExponent : List Char → Bool
  | [] => true
  | e :: sign :: digits =>
    (e == 'e' || e == 'E') && (sign == '-' || sign == '+') && !digits.isEmpty &&
      digits.all Char.isDigit
  | _ => false

/-- What remains of a fraction after its point: digits and an exponent. -/
def isFraction (cs : List Char) : Bool :=
  isExponent (cs.dropWhile (isDigitOf 10))

/-- Whether the last of the parts of a number in base sixty has a fraction, the others being
whole. -/
def areSixtieths : List (List Char) → Bool
  | [] => false
  | [last] =>
    match last.span (· != '.') with
    | (whole, '.' :: digits) => isSixtieth whole && digits.all (isDigitOf 10)
    | _ => false
  | part :: rest => isSixtieth part && areSixtieths rest

/-- A number with a point, the name of an infinity or of what is no number. -/
def isFloat (text : String) : Bool :=
  let cs := text.toList
  let named (word : String) (rest : List Char) : Bool :=
    match rest with
    | '.' :: rest => isWord word (String.ofList rest)
    | _ => false
  let proper :=
    match afterSign cs with
    | c :: rest =>
      c.isDigit &&
        match (rest.dropWhile (isDigitOf 10)) with
        | '.' :: rest => isFraction rest
        | ':' :: rest => areSixtieths (Text.split ':' rest)
        | _ => false
    | [] => false
  let leading :=
    match cs with
    | '.' :: c :: rest => c.isDigit && isFraction rest
    | _ => false
  proper || leading || named "inf" (afterSign cs) || [".nan", ".NaN", ".NAN"].contains text

/-- Whether the text is a timestamp that is known by its form. -/
def isTimestamp (text : String) : Bool :=
  (Timestamp.read? text.toList).any Timestamp.isPlain

/-- The tag that the form of a text tells. A lone mark of a tag, an anchor or an alias has one of
its own that means nothing. -/
def ofForm (text : String) : Tag :=
  if isBool text then .bool
  else if isFloat text then .float
  else if isInt text then .int
  else if text == "<<" then .merge
  else if isNull text then .null
  else if isTimestamp text then .timestamp
  else if text == "=" then .value
  else if ["!", "&", "*"].contains text then .unknown
  else .text

/-- A text without the line break at its end, unless it is nothing else. -/
def withoutLastBreak (text : String) : String :=
  match text.toList.reverse with
  | '\n' :: c :: rest => String.ofList (c :: rest).reverse
  | _ => text

/-- The tag of a scalar that is given none; a line break at its end does not count. -/
def ofPlain (text : String) : Tag :=
  ofForm (withoutLastBreak text)

end Tag

end ApiRouter.Yaml
