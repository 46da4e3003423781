import ApiRouter.Schema
import ApiRouter.Value.Mapping

set_option autoImplicit false

/-! # Coercion of request texts

Query strings, forms, paths and headers carry texts. A text becomes a number, a boolean or null
when the declared types ask for it, the first type that takes the text deciding; a text that no
type takes stays as it is, for the validator to report. -/

namespace ApiRouter.Coercion

/-! ## Which texts a type takes -/

/-- The text without a line break at its end; the numeral rules look only at what is before it. -/
def withoutFinalBreak (cs : List Char) : List Char :=
  match cs.reverse with
  | '\n' :: rest => rest.reverse
  | _ => cs

/-- The text without a sign at its beginning. -/
def withoutSign : List Char → List Char
  | '-' :: rest => rest
  | '+' :: rest => rest
  | cs => cs

/-- One or more decimal digits. -/
def isDigits (cs : List Char) : Bool :=
  !cs.isEmpty && cs.all Text.isDecimal

/-- A sign, perhaps, and digits. -/
def isInteger (s : String) : Bool :=
  isDigits (withoutSign (withoutFinalBreak s.toList))

/-- Nothing, or an exponent mark with a whole number. -/
def isExponent : List Char → Bool
  | [] => true
  | c :: rest => (c == 'e' || c == 'E') && isDigits (withoutSign rest)

/-- Digits with at most one point among or around them, then perhaps an exponent. -/
def isFraction (cs : List Char) : Bool :=
  let whole := cs.takeWhile Text.isDecimal
  match cs.dropWhile Text.isDecimal with
  | '.' :: rest =>
    let part := rest.takeWhile Text.isDecimal
    !(whole.isEmpty && part.isEmpty) && isExponent (rest.dropWhile Text.isDecimal)
  | rest => !whole.isEmpty && isExponent rest

/-- A sign, perhaps, and a decimal fraction. -/
def isNumber (s : String) : Bool :=
  isFraction (withoutSign (withoutFinalBreak s.toList))

/-! ## Coercing values -/

/-- What a declared type makes of a text, if it takes it. A row of digits beyond the longest
numeral has no value. -/
def coerceTo (declared : Value) (s : String) : Except Failure (Option Value) :=
  match declared with
  | .text "string" => .ok (some (.text s))
  | .text "integer" =>
    if isInteger s then
      match Text.readInt? s with
      | some n => .ok (some (.int n))
      | none => defect .badValue
    else .ok none
  | .text "number" =>
    if isNumber s then
      match Text.readFloat? s with
      | some x => .ok (some (.float x))
      | none => defect .badValue
    else .ok none
  | .text "boolean" =>
    if s == "true" then .ok (some (.bool true))
    else if s == "false" then .ok (some (.bool false))
    else .ok none
  | .text "null" => .ok (if s.isEmpty then some .null else none)
  | _ => .ok none

/-- What the first of the types that takes a text makes of it. -/
def coerceText (types : List Value) (s : String) : Except Failure Value :=
  match types with
  | [] => .ok (.text s)
  | t :: ts => do
    match ← coerceTo t s with
    | some v => .ok v
    | none => coerceText ts s

/-- A text as the types want it; any other value as it is. -/
def coerceItem (types : List Value) (v : Value) : Except Failure Value :=
  match v with
  | .text s => coerceText types s
  | v => .ok v

/-- The types that the payload for items declares. -/
def itemTypes? (items : Value) : Option (List Value) :=
  match items with
  | .map m =>
    match Entries.get m "type" with
    | .null => none
    | .list ts => some ts
    | t => some [t]
  | _ => none

/-- A value as a property of the given types wants it. The items of a list are coerced when the
property allows lists and says what their items are. -/
def coerceValue (types : List String) (items : Value) (v : Value) : Except Failure Value :=
  match v with
  | .list vs =>
    match types.contains "array", itemTypes? items with
    | true, some ts => .list <$> vs.mapM (coerceItem ts)
    | _, _ => .ok (.list vs)
  | v => coerceItem (types.map .text) v

/-- The value under a name, as the property of that name wants it. -/
def coerceEntry (schema : Schema) (name : String) (v : Value) : Except Failure Value :=
  match Ordered.find? schema.properties name with
  | some p =>
    match p.constraints.types with
    | some types => coerceValue types p.constraints.items v
    | none => .ok v
  | none => .ok v

/-- The values of a mapping as the properties of the schema want them; a key that is no text is the
name of none. What only stands for a mapping does not serve. -/
def coerceMapping (params : Value) (schema : Schema) : Except Failure Value :=
  match params with
  | .map entries => .map <$> entries.mapM fun (k, v) =>
    match k with
    | .text name => (k, ·) <$> coerceEntry schema name v
    | _ => .ok (k, v)
  | v =>
    match v.mapping with
    | .ok _ => defect .noMember
    | .error cause => defect cause

/-- The values as the properties of the schema want them. -/
def coerceParams (params : List (String × Value)) (schema : Schema) :
    Except Failure (List (String × Value)) :=
  params.mapM fun (name, v) => do
    .ok (name, ← coerceEntry schema name v)

end ApiRouter.Coercion
