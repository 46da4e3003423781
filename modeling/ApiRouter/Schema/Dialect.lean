import ApiRouter.Schema
import ApiRouter.Uri

set_option autoImplicit false

/-! # Dialects

The versions of the schema language. They differ in their keywords, and in what makes a part of a
schema a resource of its own: how it is identified, which places in it have names, and where the
parts of it stand that are schemas in their turn.

A part that ought to be a schema may be anything. Asking it for something that its kind does not
have is a defect. -/

namespace ApiRouter.Schema

/-! ## Asking a part -/

/-- Whether a part has a member of a name: a key, an item, or a piece of a text. -/
def hasMember (part : Value) (name : String) : Except Defect Bool :=
  match part with
  | .map m => .ok (Entries.has m name)
  | v => if canMention v then .ok (mentions v name) else .error .wrongType

/-- The value under a key of a part; null counts as none. -/
def valueOf? (part : Value) (name : String) : Except Defect (Option Value) :=
  match part with
  | .map m => .ok (Entries.get m name).present?
  | _ => .error .noMember

/-- The parts of a value that is gone through. -/
def itemsOf (v : Value) : Except Defect (List Value) :=
  match partsOf v with
  | .ok vs => .ok vs
  | .error _ => .error .wrongType

/-- A value that is used as a text. -/
def textOf (v : Value) : Except Defect String :=
  match v with
  | .text s => .ok s
  | .bytes _ => .error .wrongType
  | _ => .error .noMember

/-- A text without the number signs at its end. -/
def withoutMark (s : String) : String :=
  String.ofList (s.toList.reverse.dropWhile (· == '#')).reverse

/-! ## The dialects -/

/-- The versions of the schema language. -/
inductive Dialect where
  | draft3
  | draft4
  | draft6
  | draft7
  | draft2019
  | draft2020
  deriving DecidableEq, Repr

namespace Dialect

def all : List Dialect := [.draft3, .draft4, .draft6, .draft7, .draft2019, .draft2020]

/-- The identifier of a dialect. -/
def identifier : Dialect → String
  | .draft3 => "http://json-schema.org/draft-03/schema"
  | .draft4 => "http://json-schema.org/draft-04/schema"
  | .draft6 => "http://json-schema.org/draft-06/schema"
  | .draft7 => "http://json-schema.org/draft-07/schema"
  | .draft2019 => "https://json-schema.org/draft/2019-09/schema"
  | .draft2020 => "https://json-schema.org/draft/2020-12/schema"

/-- The dialect of an identifier. -/
def ofIdentifier? (identifier : String) : Option Dialect :=
  all.find? fun d => d.identifier == identifier

/-- Whether a reference hides the keywords beside it. -/
def hidesSiblings : Dialect → Bool
  | .draft2019 | .draft2020 => false
  | _ => true

/-- Whether a number without fraction is a whole one, however it is written. -/
def countsWholeFloats : Dialect → Bool
  | .draft3 | .draft4 => false
  | _ => true

/-- The dialect that a part inside a resource of this dialect declares, or this one. -/
def declaredIn (d : Dialect) (part : Value) : Except Defect Dialect :=
  match part with
  | .map m =>
    match (Entries.get m "$schema").present? with
    | none => .ok d
    | some v => do .ok ((ofIdentifier? (withoutMark (← textOf v))).getD d)
  | _ => .ok d

/-! ## Identifiers of resources -/

/-- The identifier that stands under a key, unless it is only the name of a place. -/
def identifierUnder (key : String) (part : Value) : Except Defect (Option String) := do
  match ← valueOf? part key with
  | none => return none
  | some v =>
    let s ← textOf v
    return if s.startsWith "#" then none else some (withoutMark s)

/-- The identifier of a part, if that makes the part a resource of its own. -/
def idOf (d : Dialect) (part : Value) : Except Defect (Option String) :=
  match d, part with
  | .draft3, part | .draft4, part => do
    if ← hasMember part "$ref" then return none
    identifierUnder "id" part
  | _, .bool _ => .ok none
  | .draft6, part | .draft7, part => identifierUnder "$id" part
  | .draft2019, part | .draft2020, part => do
    match ← valueOf? part "$id" with
    | none => return none
    | some v => return some (withoutMark (← textOf v))

/-! ## Named places -/

/-- The name of a place that an identifier under a key gives. -/
def nameUnder (key : String) (part : Value) : Except Defect (List Scalar) :=
  match part with
  | .map m =>
    match Entries.find? m key with
    | none => .ok []
    | some v => do
      let s ← textOf v
      return if s.startsWith "#" then [.text (s.drop 1).toString] else []
  | _ => .error .noMember

/-- A name under a key of its own; anything that can be a key serves. -/
def anchorUnder (key : String) (part : Value) : Except Defect (List Scalar) := do
  match ← valueOf? part key with
  | none => return []
  | some (.scalar s) => return [s]
  | some (.pair _ _) => return []
  | some _ => throw .wrongType

/-- The names of a part as a place in its resource. -/
def namesOf (d : Dialect) (part : Value) : Except Defect (List Scalar) :=
  match d, part with
  | .draft3, part | .draft4, part => nameUnder "id" part
  | _, .bool _ => .ok []
  | .draft6, part | .draft7, part => nameUnder "$id" part
  | .draft2019, part | .draft2020, part => anchorUnder "$anchor" part

/-- The names of a part as a place that an outer resource may take over. -/
def dynamicNamesOf (d : Dialect) (part : Value) : Except Defect (List Scalar) :=
  match d, part with
  | .draft2020, .bool _ => .ok []
  | .draft2020, part => anchorUnder "$dynamicAnchor" part
  | _, _ => .ok []

/-! ## Parts that are schemas -/

/-- Keywords whose value is a schema. -/
def schemaKeywords : Dialect → List String
  | .draft3 => []
  | .draft4 => ["not"]
  | .draft6 => ["additionalItems", "additionalProperties", "contains", "not", "propertyNames"]
  | .draft7 =>
    ["additionalItems", "additionalProperties", "contains", "else", "if", "not", "propertyNames",
      "then"]
  | .draft2019 =>
    ["additionalItems", "additionalProperties", "contains", "contentSchema", "else", "if", "not",
      "propertyNames", "then", "unevaluatedItems", "unevaluatedProperties"]
  | .draft2020 =>
    ["additionalProperties", "contains", "contentSchema", "else", "if", "items", "not",
      "propertyNames", "then", "unevaluatedItems", "unevaluatedProperties"]

/-- Keywords whose value lists schemas. -/
def listKeywords : Dialect → List String
  | .draft3 => ["extends"]
  | .draft2020 => ["allOf", "anyOf", "oneOf", "prefixItems"]
  | _ => ["allOf", "anyOf", "oneOf"]

/-- Keywords whose value holds schemas by name. -/
def mapKeywords : Dialect → List String
  | .draft2019 | .draft2020 =>
    ["$defs", "definitions", "dependentSchemas", "patternProperties", "properties"]
  | _ => ["definitions", "patternProperties", "properties"]

/-- The schemas for items: one for all, or one for each of the first. -/
def itemSchemas (m : Entries) : Except Defect (List Value) :=
  match Entries.get m "items" with
  | .null => .ok []
  | .map es => .ok [.map es]
  | .set members => .ok [.set members]
  | .list vs => .ok vs
  | .pair a b => .ok [a, b]
  | .text s => itemsOf (.text s)
  | .bytes b => itemsOf (.bytes b)
  | v => .ok [v]

/-- The schemas among dependencies; when the first one is no schema none is. -/
def dependencySchemas (m : Entries) : Except Defect (List Value) :=
  match Entries.get m "dependencies" with
  | .null => .ok []
  | .map deps =>
    match deps with
    | (_, .map _) :: _ => .ok (Ordered.values deps)
    | _ => .ok []
  | _ => .error .noMember

/-- The schemas for what no other keyword accounts for, as far as they are mappings. -/
def remainderSchemas (m : Entries) : List Value :=
  ["additionalItems", "additionalProperties"].filterMap fun key =>
    match Entries.get m key with
    | .map es => some (.map es)
    | _ => none

/-- The schemas under keywords that hold them in one of the three plain ways. -/
def plainSchemas (d : Dialect) (m : Entries) : Except Defect (List Value) := do
  let single := d.schemaKeywords.filterMap fun key => Entries.find? m key
  let listed ← (d.listKeywords.filterMap fun key => Entries.find? m key).mapM itemsOf
  let named ← (d.mapKeywords.filterMap fun key => Entries.find? m key).mapM fun v =>
    match v with
    | .map es => .ok (Ordered.values es)
    | _ => .error .noMember
  return single ++ listed.flatten ++ named.flatten

/-- The parts of a mapping that are schemas. -/
def schemasIn (d : Dialect) (m : Entries) : Except Defect (List Value) := do
  let plain ← d.plainSchemas m
  match d with
  | .draft2020 => return plain
  | .draft2019 => return plain ++ (← itemSchemas m)
  | .draft6 | .draft7 => return plain ++ (← itemSchemas m) ++ (← dependencySchemas m)
  | .draft3 | .draft4 =>
    return plain ++ (← itemSchemas m) ++ (← dependencySchemas m) ++ remainderSchemas m

/-! ## Ways to schemas -/

/-- Keywords that lead on to a schema. -/
def leadingKeywords : Dialect → List String
  | .draft3 => ["additionalItems", "additionalProperties"]
  | .draft4 => ["additionalItems", "additionalProperties", "not"]
  | d => d.schemaKeywords

/-- Keywords that hold a mapping of schemas, or something else. -/
def variedKeywords : Dialect → List String
  | .draft2020 => []
  | .draft2019 => ["items"]
  | _ => ["items", "dependencies"]

/-- Whether the segments passed since the last resource lead to a part that may be a resource. -/
def leadsToSchema (d : Dialect) (part : Value) : List String → Bool
  | [] => true
  | segment :: rest =>
    if d.variedKeywords.contains segment && part.isMap then true
    else if d.leadingKeywords.contains segment then leadsToSchema d part rest
    else if d.listKeywords.contains segment || d.mapKeywords.contains segment then
      match rest with
      | [] => false
      | _ :: rest => leadsToSchema d part rest
    else false

end Dialect

end ApiRouter.Schema
