import ApiRouter.Pointer
import ApiRouter.Schema.Metaschema
import ApiRouter.Text.Percent

set_option autoImplicit false

/-! # Resources and references

A reference names a schema by the identifier of a resource and a place in it: a pointer, or a name
that the place has. A document is a resource; so is every part of it with an identifier of its own.
Which parts those are is found out only when a reference is not understood otherwise. The documents
that describe the dialects are always at hand. -/

namespace ApiRouter.Schema

/-- A schema with the dialect that it is written in. -/
structure Resource where
  dialect : Dialect
  contents : Value

/-- A place that has a name. -/
structure Place where
  resource : Resource
  /-- Whether a resource that one came from may replace it. -/
  dynamic : Bool

/-- The resources and named places known so far. -/
structure Registry where
  resources : List (String × Resource)
  /-- By the identifier of the resource and the name. -/
  places : List ((String × Scalar) × Place)
  /-- Documents that were not searched for resources and places yet. -/
  unsearched : List String

namespace Registry

def empty : Registry := ⟨[], [], []⟩

/-- Adds a document. -/
def add (r : Registry) (identifier : String) (resource : Resource) : Registry :=
  let identifier := withoutMark identifier
  { r with
    resources := Ordered.insert r.resources identifier resource
    unsearched := r.unsearched ++ [identifier] }

/-- Adds a named place of a resource. -/
def addPlace (identifier : String) (resource : Resource) (dynamic : Bool) (r : Registry)
    (name : Scalar) : Registry :=
  { r with places := Ordered.insert r.places (identifier, name) ⟨resource, dynamic⟩ }

mutual

/-- Searches a part of a resource, then what it holds, the last parts first; what is found later
replaces what was found before. -/
def search (identifier : String) (resource : Resource) :
    (fuel : Nat) → Registry → Except Defect Registry
  | 0, r => .ok r
  | fuel + 1, r => do
    let own ← resource.dialect.idOf resource.contents
    let identifier ← match own with
      | none => .ok identifier
      | some id => Uri.join identifier id
    let r := if own.isNone then r
      else { r with resources := Ordered.insert r.resources identifier resource }
    let names ← resource.dialect.namesOf resource.contents
    let dynamicNames ← resource.dialect.dynamicNamesOf resource.contents
    let r := names.foldl (addPlace identifier resource false) r
    let r := dynamicNames.foldl (addPlace identifier resource true) r
    match resource.contents with
    | .map m =>
      let parts ← resource.dialect.schemasIn m
      let inner ← parts.mapM fun part => do
        .ok (Resource.mk (← resource.dialect.declaredIn part) part)
      searchAll identifier inner.reverse fuel r
    | _ => .ok r

/-- Searches parts of a resource. -/
def searchAll (identifier : String) (parts : List Resource) :
    (fuel : Nat) → Registry → Except Defect Registry
  | 0, r => .ok r
  | fuel + 1, r =>
    match parts with
    | [] => .ok r
    | part :: rest => do
      let r ← search identifier part fuel r
      searchAll identifier rest fuel r

end

mutual

/-- A depth that no search of a value exceeds. -/
def searchDepth : Value → Nat
  | .scalar _ | .endless => 2
  | .list vs => 2 + searchDepthOfItems vs
  | .map es => 2 + searchDepthOfEntries es
  | .pair a b => 4 + searchDepth a + searchDepth b
  | .set members => 4 + members.length

def searchDepthOfItems : List Value → Nat
  | [] => 2
  | v :: vs => 2 + searchDepth v + searchDepthOfItems vs

def searchDepthOfEntries : Entries → Nat
  | [] => 2
  | (_, v) :: es => 2 + searchDepth v + searchDepthOfEntries es

end

/-- Searches the documents that were not searched yet. -/
def searched (r : Registry) : Except Defect Registry :=
  r.unsearched.foldlM (fun r identifier =>
    match Ordered.find? r.resources identifier with
    | some resource => search identifier resource (searchDepth resource.contents) r
    | none => .ok r) { r with unsearched := [] }

/-- The documents that describe the dialects, searched. -/
def standard : Registry :=
  let documents := Dialect.all.flatMap fun d => d.metaschemas.map fun v => Resource.mk d v
  let r := documents.foldl (fun r d =>
    match d.dialect.idOf d.contents with
    | .ok (some id) => r.add id d
    | _ => r) empty
  match r.searched with
  | .ok r => r
  | .error _ => r

/-- The resource with an identifier. -/
def resource? (r : Registry) (identifier : String) : Option Resource :=
  (Ordered.find? r.resources identifier).or (Ordered.find? standard.resources identifier)

/-- The place with a name in a resource. -/
def place? (r : Registry) (identifier : String) (name : Scalar) : Option Place :=
  (Ordered.find? r.places (identifier, name)).or
    (Ordered.find? standard.places (identifier, name))

/-- The resource with an identifier, searching the documents if it is not known. -/
def retrieve (r : Registry) (identifier : String) : Except Defect (Registry × Resource) :=
  match r.resource? identifier with
  | some resource => .ok (r, resource)
  | none => do
    let r ← r.searched
    match r.resource? identifier with
    | some resource => .ok (r, resource)
    | none => .error .danglingReference

/-- The place with a name in a resource, searching the documents if it is not known. -/
def retrievePlace (r : Registry) (identifier : String) (name : Scalar) :
    Except Defect (Registry × Place) :=
  match r.place? identifier name with
  | some place => .ok (r, place)
  | none => do
    let r ← r.searched
    match r.place? identifier name with
    | some place => .ok (r, place)
    | none =>
      match r.resource? (withoutMark identifier) with
      | none => .error .unknownResource
      | some resource =>
        match ← resource.dialect.idOf resource.contents with
        | none => .error .danglingReference
        | some own =>
          match r.place? own name with
          | some place => .ok (r, place)
          | none => .error .danglingReference

end Registry

/-! ## Surroundings of a schema -/

/-- What references inside a schema start from: the resource that it belongs to, those that one came
through to it, the latest first, and what is known. -/
structure Scope where
  base : String
  previous : List String
  registry : Registry

namespace Scope

/-- The surroundings in a document of its own. -/
def ofDocument (document : Resource) : Except Defect Scope := do
  let identifier := (← document.dialect.idOf document.contents).getD ""
  return ⟨identifier, [], Registry.empty.add identifier document⟩

/-- The surroundings inside a part that may be a resource; `none` if it is not. -/
def within? (s : Scope) (part : Resource) : Except Defect (Option Scope) := do
  match ← part.dialect.idOf part.contents with
  | none => return none
  | some id => return some { s with base := ← Uri.join s.base id }

/-- The surroundings inside a part. -/
def within (s : Scope) (part : Resource) : Except Defect Scope := do
  return (← s.within? part).getD s

/-- The surroundings in another resource. -/
def moveTo (s : Scope) (base : String) (registry : Registry) : Scope :=
  let moved := !s.base.isEmpty && (s.previous.isEmpty || base != s.base)
  ⟨base, if moved then s.base :: s.previous else s.previous, registry⟩

/-! ## Following pointers -/

/-- One step of a pointer, and the name of the part that it leads to. -/
def step (node : Value) (segment : String) : Except Defect (Value × String) :=
  let index (parts : List Value) : Except Defect (Value × String) := do
    let n : Int ← match Text.readInt? segment with
      | none => .error .badValue
      | some n => .ok n
    let place := if n < 0 then n + parts.length else n
    match if place < 0 then none else parts[place.toNat]? with
    | some v => .ok (v, segment)
    | none => .error .danglingReference
  match node with
  | .map m =>
    let key := String.ofList (Pointer.unescape segment.toList)
    match Entries.find? m key with
    | some v => .ok (v, key)
    | none => .error .danglingReference
  | .list _ | .pair _ _ | .text _ | .bytes _ => do index (← itemsOf node)
  | .set _ | .scalar _ => .error .wrongType
  | .endless => .error .endless

/-- Follows segments; `passed` holds the names passed since the last resource. -/
def walk (dialect : Dialect) (s : Scope) (node : Value) (passed : List String) :
    List String → Except Defect (Scope × Value)
  | [] => .ok (s, node)
  | segment :: rest => do
    let (next, name) ← step node segment
    let passed := passed ++ [name]
    let inner ← if dialect.leadsToSchema next passed then s.within? ⟨dialect, next⟩ else .ok none
    match inner with
    | some inner => walk dialect inner next [] rest
    | none => walk dialect s next passed rest

/-! ## References -/

/-- The resource that one came from first and that gives a dynamic place its meaning. -/
def overriding (s : Scope) (name : Scalar) : List String → Resource → Except Defect Resource
  | [], last => .ok last
  | identifier :: rest, last =>
    match s.registry.retrievePlace identifier name with
    | .ok (_, place) => overriding s name rest (if place.dynamic then place.resource else last)
    | .error .danglingReference => overriding s name rest last
    | .error cause => .error cause

/-- The schema that a name denotes. -/
def resolvePlace (s : Scope) (name : Scalar) (place : Place) : Except Defect (Scope × Value) := do
  if !place.dynamic then return (s, place.resource.contents)
  let last ← overriding s name s.previous place.resource
  return (← s.within last, last.contents)

/-- The schema that a reference denotes, with its surroundings. -/
def lookUp (s : Scope) (reference : String) : Except Defect (Scope × Value) := do
  let (identifier, fragment) ←
    if reference.startsWith "#" then .ok (s.base, (reference.drop 1).toString)
    else Uri.splitFragment (← Uri.join s.base reference)
  let (registry, resource) ← s.registry.retrieve identifier
  if fragment.isEmpty then return (s.moveTo identifier registry, resource.contents)
  match fragment.toList with
  | '/' :: rest =>
    let segments := (Text.split '/' (Text.Percent.decode rest)).map String.ofList
    walk resource.dialect (s.moveTo identifier registry) resource.contents [] segments
  | _ =>
    let name := Scalar.text fragment
    let (registry, place) ← registry.retrievePlace identifier name
    resolvePlace (s.moveTo identifier registry) name place

/-- The schema that a reference value denotes; only a text is a reference. -/
def resolve (s : Scope) (reference : Value) : Except Defect (Scope × Value) :=
  match reference with
  | .text r => s.lookUp r
  | .bytes _ => .error .wrongType
  | _ => .error .noMember

/-- Whether a schema lets the resources that lead to it take its place. -/
def isRecursive (v : Value) : Bool :=
  match v with
  | .map m => (Entries.get m "$recursiveAnchor").truthy
  | _ => false

/-- The outermost of the recursive schemas that led here without a break. -/
def outermost (s : Scope) (found : Scope × Value) : List String → Except Defect (Scope × Value)
  | [] => .ok found
  | identifier :: rest => do
    let next ← s.lookUp identifier
    if isRecursive next.2 then outermost s next rest else return found

/-- The schema that a recursive reference denotes. -/
def resolveRecursive (s : Scope) : Except Defect (Scope × Value) := do
  let found ← s.lookUp "#"
  if isRecursive found.2 then outermost s found s.previous else return found

end Scope

end ApiRouter.Schema
