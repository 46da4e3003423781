import ApiRouter.Schema

set_option autoImplicit false

/-! # Parameter declarations

An operation declares its inputs one by one, each with a name and a location. Declarations outside
the body and the headers merge into one object schema for the request's parameters; those of
headers merge into a schema of their own. A body declaration carries a whole schema instead, and
cannot stand beside parameters. -/

namespace ApiRouter

/-- Where an input of a request is found. -/
inductive Location where
  | path
  | query
  | header
  | form
  | body
  deriving DecidableEq, Repr

/-- The location that a declaration's `in` names; form data goes by two names. -/
def Location.ofName? : String → Option Location
  | "path" => some .path
  | "query" => some .query
  | "header" => some .header
  | "form" => some .form
  | "formData" => some .form
  | "body" => some .body
  | _ => none

namespace Parameter

/-- The location of a declaration: the query when it names none, nothing when it is unknown. -/
def locationOf (declaration : Entries) : Option Location :=
  match Entries.find? declaration "in" with
  | none => some .query
  | some (.text s) => Location.ofName? s
  | some _ => none

/-- The location of anything declared; only a mapping can have one. -/
def location (declaration : Value) : Except Failure (Option Location) :=
  match declaration with
  | .map d => .ok (locationOf d)
  | _ => defect .noMember

/-! ## One declaration as a schema -/

/-- The keywords copied into the schema of a declaration, in this order. -/
def constraintKeywords : List String :=
  ["format", "pattern", "minLength", "maxLength", "minItems", "maxItems", "uniqueItems", "items",
    "minimum", "exclusiveMinimum", "maximum", "exclusiveMaximum", "multipleOf"]

/-- The schema payload of a declaration: its type as a list of one, the parts of its enumeration,
then the other constraints that it has. -/
def payload (declaration : Entries) : Except Failure Entries := do
  let types : Entries := match Entries.find? declaration "type" with
    | some t => [(.text "type", .list [t])]
    | none => []
  let enum : Entries ← match Entries.find? declaration "enum" with
    | some v => (fun vs => [(.text "enum", .list vs)]) <$> Schema.partsOf v
    | none => .ok []
  let others := constraintKeywords.filterMap fun k =>
    (Entries.find? declaration k).map fun v => (Scalar.text k, v)
  .ok (types ++ enum ++ others)

/-- The schema of a declaration. -/
def schemaOf (declaration : Entries) : Except Failure Schema := do
  Schema.ofEntries (← payload declaration)

/-- The schema of anything declared. A text or list declares nothing, unless it seems to have one
of the keywords. -/
def schema (declaration : Value) : Except Failure Schema :=
  let asked := "type" :: "enum" :: constraintKeywords
  match declaration with
  | .map d => schemaOf d
  | v =>
    if Schema.canMention v && !asked.any (Schema.mentions v) then Schema.ofEntries []
    else defect .wrongType

/-! ## The declarations of an operation -/

/-- Whether a declaration has a name; a text or list has one when it seems to. -/
def isNamed (declaration : Value) : Except Failure Bool :=
  match declaration with
  | .map d => .ok (Entries.has d "name")
  | v => if Schema.canMention v then .ok (Schema.mentions v "name") else defect .wrongType

/-- Refuses the first declaration without a name. -/
def requireNames : List Value → Except Failure Unit
  | [] => .ok ()
  | d :: ds => do
    if ← isNamed d then requireNames ds
    else fail .missingParameterName "no name section in link data."

/-- The declarations listed by an operation, all of them named. -/
def declarations (operation : Value) : Except Failure (List Value) :=
  match operation with
  | .map op => do
    let listed := Entries.get op "parameters"
    let ds ← if listed.truthy then Schema.partsOf listed else .ok []
    requireNames ds
    .ok ds
  | _ => defect .noMember

/-- A key made of a declaration's name; lists and mappings make none. -/
def nameKey (name : Value) : Except Failure Scalar :=
  match name with
  | .scalar s => .ok s
  | _ => defect .wrongType

/-! ## Merging declarations -/

/-- What the declarations seen so far amount to. -/
structure Merged where
  /-- The schema payloads by name, the last declaration of a name counting. -/
  properties : List (Scalar × Entries)
  /-- The names of the required ones, as often as they are declared. -/
  required : List Value
  /-- The schema of the last body declaration, null when that has none. -/
  body : Option Value

namespace Merged

def empty : Merged := ⟨[], [], none⟩

/-- Adds a declaration that becomes a property. -/
def addProperty (m : Merged) (declaration : Entries) : Except Failure Merged := do
  let name := Entries.get declaration "name"
  let required :=
    if (Entries.get declaration "required").truthy then m.required ++ [name] else m.required
  let s ← schemaOf declaration
  let key ← nameKey name
  .ok { m with properties := Ordered.insert m.properties key s.data, required := required }

/-- Adds a declaration as one of a request: headers and unknown locations leave no trace. -/
def addToRequest (m : Merged) (declaration : Value) : Except Failure Merged :=
  match declaration with
  | .map d =>
    match locationOf d with
    | none | some .header => .ok m
    | some .body => .ok { m with body := some (Entries.get d "schema") }
    | some .path | some .query | some .form => m.addProperty d
  | _ => defect .noMember

/-- Adds a declaration as one of a header: all other locations leave no trace. -/
def addToHeaders (m : Merged) (declaration : Value) : Except Failure Merged :=
  match declaration with
  | .map d => if locationOf d = some .header then m.addProperty d else .ok m
  | _ => defect .noMember

/-- The payload of the object schema: required names are listed when there are any. -/
def objectPayload (m : Merged) : Entries :=
  [(.text "type", .texts ["object"]),
    (.text "properties", .map (m.properties.map fun p => (p.1, .map p.2)))]
  ++ (if m.required.isEmpty then [] else [(.text "required", .list m.required)])

/-- The object schema with the merged properties. -/
def objectSchema (m : Merged) : Except Failure Schema :=
  Schema.ofEntries m.objectPayload

end Merged

/-- What a request has to carry: parameters of a schema, or a body of a payload (null for any). -/
inductive RequestShape where
  | parameters (schema : Schema)
  | body (payload : Value)

namespace RequestShape

/-- The schema of the parameters, unless there is a body. -/
def schema? : RequestShape → Option Schema
  | .parameters s => some s
  | .body _ => none

/-- The payload for the body, null when there is none. -/
def payload : RequestShape → Value
  | .parameters _ => .null
  | .body p => p

end RequestShape

/-- What the request of an operation has to carry. -/
def requestShape (operation : Value) : Except Failure RequestShape := do
  let m ← (← declarations operation).foldlM Merged.addToRequest Merged.empty
  match m.body with
  | some payload =>
    if m.properties.isEmpty then .ok (.body payload)
    else fail .incompatibleLocations "can't mix body parameter with form parameters."
  | none => .parameters <$> m.objectSchema

/-- The schema of the headers of an operation. -/
def headerSchema (operation : Value) : Except Failure Schema := do
  let m ← (← declarations operation).foldlM Merged.addToHeaders Merged.empty
  m.objectSchema

/-! ## Notices -/

/-- A declaration that is left out because its location is unknown. -/
structure Notice where
  name : Value
  location : Value
  deriving DecidableEq, Repr

def Notice.message (n : Notice) : String :=
  "Skipping parameter '" ++ n.name.display ++ "' with unknown location '" ++
    n.location.display ++ "'"

/-- The notices for declarations in order, up to the first one that cannot be used. -/
def noticesFrom (m : Merged) : List Value → List Notice
  | [] => []
  | d :: ds =>
    match d, m.addToRequest d with
    | .map e, .ok m =>
      if locationOf e = none then
        ⟨Entries.get e "name", Entries.get e "in"⟩ :: noticesFrom m ds
      else noticesFrom m ds
    | _, _ => []

/-- The notices for the declarations of an operation. -/
def notices (operation : Value) : List Notice :=
  match declarations operation with
  | .ok ds => noticesFrom Merged.empty ds
  | .error _ => []

end Parameter

end ApiRouter
