import ApiRouter.Field
import ApiRouter.Pattern.Reader
import ApiRouter.Value.Equal
import ApiRouter.Value.Mapping

set_option autoImplicit false

/-! # Schemas

A schema payload with its constraints made available as typed attributes. The payload itself is
kept as it was written, its keys as texts; references in it are recorded and not followed. The
properties of a schema are schemas in their turn. -/

namespace ApiRouter

/-- The constraints of a schema, apart from its properties. An absent constraint is `none`. -/
structure Constraints where
  ref : Option String
  types : Option (List String)
  enum : Option (List Value)
  format : Option String
  pattern : Option Pattern
  minLength : Option Int
  maxLength : Option Int
  minItems : Option Int
  maxItems : Option Int
  uniqueItems : Option Bool
  /-- The payload for list items as it stands, null when there is none. -/
  items : Value
  minimum : Option Number
  exclusiveMinimum : Option Bool
  maximum : Option Number
  exclusiveMaximum : Option Bool
  multipleOf : Option Number
  required : List String
  deriving DecidableEq, Repr

/-- A schema: its payload, its constraints, and its properties in order. -/
inductive Schema where
  | mk (data : Entries) (constraints : Constraints) (properties : List (String × Schema))

namespace Schema

/-- The payload, as a validator takes it. -/
def data : Schema → Entries
  | .mk d _ _ => d

def constraints : Schema → Constraints
  | .mk _ c _ => c

def properties : Schema → List (String × Schema)
  | .mk _ _ ps => ps

/-! ## Reading -/

/-- Keywords of constraints that are copied without change of shape. -/
def plainKeywords : List String :=
  ["format", "minLength", "maxLength", "minItems", "maxItems", "uniqueItems", "items", "minimum",
    "exclusiveMinimum", "maximum", "exclusiveMaximum", "multipleOf"]

/-- All keywords that reading asks for by name. -/
def askedKeywords : List String :=
  ["$ref", "type", "enum", "pattern"] ++ plainKeywords

/-- The parts of a value as a list: items, keys, characters or the numbers of bytes. -/
def partsOf (v : Value) : Except Failure (List Value) :=
  match v.row? with
  | some parts => .ok parts
  | none => defect .wrongType

/-- Why a pattern that is neither text nor bytes cannot be read. -/
def patternKindMessage : Value → String
  | .list _ => "unhashable type: 'list'"
  | .map _ => "unhashable type: 'dict'"
  | .set _ => "unhashable type: 'set'"
  | _ => "first argument must be string or compiled pattern"

/-- Refuses a pattern, which the message quotes. -/
def refusePattern {α : Type} (v : Value) (reason : String) : Except Failure α :=
  fail .specParse ("invalid pattern " ++ v.quoted ++ ": " ++ reason)

/-- What reading a pattern comes to, where `describe` says what is wrong with it. -/
def orRefused (v : Value) (describe : Pattern.Cause → Option Nat → String) :
    Except Pattern.Error Pattern → Except Failure Pattern
  | .ok p => .ok p
  | .error (.malformed cause place) => refusePattern v (describe cause place)
  | .error .hugeRepeat => defect .overflow
  | .error .contradictoryFlags => defect .badValue
  | .error .tooDeep => defect .endless

/-- The regular expression of a `pattern` keyword. -/
def readPattern (v : Value) : Except Failure Pattern :=
  match v with
  | .text s => orRefused v (Pattern.describe s) (Pattern.read s)
  | .bytes b => orRefused v (Pattern.describeBytes b) (Pattern.readBytes b)
  | v => refusePattern v (patternKindMessage v)

/-- A single type name stands for the list of it alone. -/
def typeList : Value → Value
  | .list vs => .list vs
  | v => .list [v]

/-- Everything that is read before the properties: the parts of `enum`, and the pattern. -/
structure Prepared where
  enum : Option (List Value)
  pattern : Option Pattern

def prepare (data : Entries) : Except Failure Prepared := do
  let enum ← match Entries.find? data "enum" with
    | some v => some <$> partsOf v
    | none => .ok none
  let pattern ← match Entries.find? data "pattern" with
    | some v => some <$> readPattern v
    | none => .ok none
  .ok ⟨enum, pattern⟩

/-- The required names; anything but a list names none. -/
def requiredOf (data : Entries) : Checked (List String) :=
  match Entries.find? data "required" with
  | some (.list vs) => (Field.listOf Field.text (.list vs)).under "required"
  | _ => .ok []

/-- The payload as it is kept, from its rows under the texts of their keys: of keys that read as the
same text the last one counts. -/
def keptData (rows : List (String × Value)) : Entries :=
  (Ordered.ofList rows).map fun e => (.text e.1, e.2)

/-- The schema of a payload whose enumeration, pattern and properties are known. -/
def assemble (data : Entries) (prepared : Prepared) (properties : List (Scalar × Schema)) :
    Checked Schema :=
  let field {α : Type} (keyword name : String) (read : Value → Checked α) : Checked (Option α) :=
    match Entries.find? data keyword with
    | some v => (Field.orNull read v).under name
    | none => .ok none
  let types : Checked (Option (List String)) :=
    match Entries.find? data "type" with
    | some v => some <$> (Field.listOf Field.text (typeList v)).under "type"
    | none => .ok none
  -- keys that read as the same text are one
  let keys : Checked (List (String × Schema)) :=
    (Ordered.ofList <$> Checked.all (properties.map fun (k, s) => (·, s) <$> Field.key k)).under
      "properties"
  let constraints := Constraints.mk
    <$> field "$ref" "ref" Field.text
    <*> types
    <*> .ok prepared.enum
    <*> field "format" "format" Field.text
    <*> .ok prepared.pattern
    <*> field "minLength" "min_length" Field.int
    <*> field "maxLength" "max_length" Field.int
    <*> field "minItems" "min_items" Field.int
    <*> field "maxItems" "max_items" Field.int
    <*> field "uniqueItems" "unique_items" Field.bool
    <*> .ok (Entries.get data "items")
    <*> field "minimum" "min" Field.number
    <*> field "exclusiveMinimum" "min_exclusive" Field.bool
    <*> field "maximum" "max" Field.number
    <*> field "exclusiveMaximum" "max_exclusive" Field.bool
    <*> field "multipleOf" "multiple_of" Field.number
  (fun rows c ps required => Schema.mk (keptData rows) (c required) ps)
    <$> (Field.mapOf Field.any (.map data)).under "data"
    <*> constraints
    <*> keys
    <*> requiredOf data

/-- A value found in a mapping is smaller than the mapping. -/
theorem sizeOf_find? {m : Entries} {k : String} {v : Value} (h : Entries.find? m k = some v) :
    sizeOf v < sizeOf m := by
  unfold Entries.find? at h
  induction m with
  | nil => simp [Ordered.find?] at h
  | cons e rest ih =>
    obtain ⟨k', v'⟩ := e
    simp only [Ordered.find?] at h
    split at h
    · cases h
      simp only [List.cons.sizeOf_spec, Prod.mk.sizeOf_spec]
      omega
    · have := ih h
      simp only [List.cons.sizeOf_spec]
      omega

mutual

/-- The schema of a payload. The parts come first: enumeration, pattern, then every property that
is a mapping, in order; the attributes are checked last. -/
def ofEntries (data : Entries) : Except Failure Schema := do
  let prepared ← prepare data
  let properties ← match _h : Entries.find? data "properties" with
    | some (.map subs) => propertiesOf subs
    | _ => .ok []
  (assemble data prepared properties).toExcept
termination_by sizeOf data
decreasing_by
  have := sizeOf_find? _h
  simp only [Value.map.sizeOf_spec] at this
  omega

/-- The schemas of the properties that are mappings. -/
def propertiesOf : Entries → Except Failure (List (Scalar × Schema))
  | [] => .ok []
  | (_, .endless) :: _ => defect .endless
  | (k, .map sub) :: rest => do
    let s ← ofEntries sub
    let more ← propertiesOf rest
    .ok ((k, s) :: more)
  | _ :: rest => propertiesOf rest
termination_by es => sizeOf es

end

/-- Whether a text or list seems to have one of the keywords: the text contains its name, or the
list has it as an item. Pairs and sets are like lists here. -/
def mentions (v : Value) (keyword : String) : Bool :=
  match v with
  | .text s => (s.splitOn keyword).length > 1
  | .list vs => vs.any fun v => v.equal (.text keyword)
  | .pair a b => a.equal (.text keyword) || b.equal (.text keyword)
  | .set members => members.contains (.text keyword)
  | _ => false

/-- Whether a value can be asked if it has a keyword, though it is no mapping. -/
def canMention : Value → Bool
  | .text _ | .list _ | .pair _ _ | .set _ => true
  | _ => false

/-- The schema of any payload; only a mapping has one. -/
def ofValue : Value → Except Failure Schema
  | .map data => ofEntries data
  | .endless => defect .endless
  | v => if canMention v && !askedKeywords.any (mentions v) then defect .noMember
    else defect .wrongType

/-! ## Equality -/

mutual

/-- Whether enumerations agree in order, those of the properties included. -/
def sameEnums : Schema → Schema → Bool
  | .mk _ c ps, .mk _ d qs =>
    (match c.enum, d.enum with
      | some xs, some ys => (Value.list xs).equal (.list ys)
      | none, none => true
      | _, _ => false) && samePropertyEnums ps qs

def samePropertyEnums : List (String × Schema) → List (String × Schema) → Bool
  | [], _ => true
  | (name, s) :: rest, qs =>
    (match Ordered.find? qs name with
      | some t => sameEnums s t
      | none => false) && samePropertyEnums rest qs

end

/-- Schemas are equal when their payloads are, and enumerations keep their order. -/
def same (a b : Schema) : Bool :=
  (Value.map a.data).equal (.map b.data) && sameEnums a b

end Schema

end ApiRouter
