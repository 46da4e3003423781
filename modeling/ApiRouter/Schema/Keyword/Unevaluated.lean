import ApiRouter.Schema.Keyword.Nested

set_option autoImplicit false

/-! # What no other keyword looked at

The later dialects have keywords for the items and properties of an instance that neither the other
keywords beside them nor the schemas that these apply looked at. Which those are is found out by
going through the schema once more. -/

namespace ApiRouter.Schema.Keyword

/-- A search through a schema for the parts of an instance that it looks at, of which there is one
for items and one for properties. -/
abbrev Coverage (α : Type) := Evaluator → (schema : Value) → Except Defect (List α)

/-- The schemas that references in a schema lead to, each with the evaluator for it. -/
def referencesIn (e : Evaluator) (m : Entries) : Except Defect (List (Evaluator × Value)) := do
  let scope := e.context.scope
  let targets ← ["$ref", "$dynamicRef"].filterMapM fun key => do
    if key == "$dynamicRef" && e.context.rules.dialect != .draft2020 then return none
    match (Entries.get m key).present? with
    | none => return none
    | some v => return some (← scope.resolve v)
  let recursive ←
    if e.context.rules.dialect == .draft2019 && Entries.has m "$recursiveRef" then
      List.singleton <$> scope.resolveRecursive
    else .ok []
  (targets ++ recursive).mapM fun (scope, schema) => do
    let rules ← e.context.rules.inside schema
    return (⟨⟨rules, scope⟩, e.evaluate⟩, schema)

/-- The schemas beside the others that apply to the instance as a whole. -/
def branchesIn (e : Evaluator) (m : Entries) (subject : Value) : Except Defect (List Value) := do
  let tested ← ["allOf", "oneOf", "anyOf"].mapM fun key =>
    match Entries.find? m key with
    | none => .ok []
    | some v => do
      (← itemsOf v).filterM fun sub => (e.descend sub subject).isClear
  let chosen ← match Entries.find? m "if" with
    | none => .ok []
    | some sub => do
      if ← e.judge sub subject then return sub :: (Entries.find? m "then").toList
      return (Entries.find? m "else").toList
  return tested.flatten ++ chosen

/-- What a schema covers by the schemas that apply to the instance as a whole. -/
def coveredByBranches {α : Type} (cover : Coverage α) (e : Evaluator) (m : Entries)
    (subject : Value) : Except Defect (List α) := do
  let byReference ← (← referencesIn e m).mapM fun (e, schema) => cover e schema
  let byBranch ← (← branchesIn e m subject).mapM fun sub => cover e sub
  return byReference.flatten ++ byBranch.flatten

/-- A schema as a mapping; booleans cover nothing. -/
def mappingOf? (schema : Value) : Except Defect (Option Entries) :=
  match schema with
  | .bool _ => .ok none
  | .map m => .ok (some m)
  | _ => .error .noMember

/-! ## Items -/

/-- The items that the keywords for items of a schema cover, by index; `none` for all. -/
def itemsCovered (e : Evaluator) (m : Entries) (xs : List Value) :
    Except Defect (Option (List Nat)) := do
  let first ←
    if e.context.rules.dialect == .draft2020 then
      if Entries.has m "items" then return none
      List.range <$> sizeOfKeyword m "prefixItems"
    else
      match Entries.find? m "items" with
      | none => .ok []
      | some v =>
        if Entries.has m "additionalItems" || v.isMap then return none
        List.range <$> sizeOfKeyword m "items"
  let tested ← ["contains", "unevaluatedItems"].mapM fun key =>
    match Entries.find? m key with
    | none => .ok []
    | some sub => do
      return (← xs.zipIdx.filterM fun (x, _) => e.judge sub x).map Prod.snd
  return some (first ++ tested.flatten)

/-- The items that a schema looks at, by index. -/
def coveredItems (xs : List Value) : (fuel : Nat) → Coverage Nat
  | 0, _, _ => .error .endless
  | fuel + 1, e, schema => do
    match ← mappingOf? schema with
    | none => return []
    | some m =>
      match ← itemsCovered e m xs with
      | none => return List.range xs.length
      | some own => return own ++ (← coveredByBranches (coveredItems xs fuel) e m (.list xs))

/-- How deeply a schema is gone through. -/
def coverageDepth : Nat := 300

def unevaluatedItems : Keyword := fun e schema _ subject =>
  match subject with
  | .list xs =>
    .withValue (coveredItems xs coverageDepth e (.map schema)) fun covered =>
      let extras := (xs.zipIdx.filter fun (_, i) => !covered.contains i).map Prod.fst
      if extras.isEmpty then .clear else extraItems extras "Unevaluated"
  | _ => .clear

/-! ## Properties -/

/-- The keys that the keywords for properties of a schema cover. -/
def keysCovered (e : Evaluator) (m es : Entries) : Except Defect (List Scalar) := do
  let named ← match Entries.get m "properties" with
    | .map subs => .ok (Ordered.keys (subs.filter fun s => Ordered.has es s.1))
    | _ => .ok []
  let others ← ["additionalProperties", "unevaluatedProperties"].mapM fun key =>
    match (Entries.get m key).present? with
    | none => .ok []
    | some sub => do
      return Ordered.keys (← es.filterM fun (_, x) => (e.descend sub x).isClear)
  let found ← match Entries.find? m "patternProperties" with
    | none => .ok []
    | some v => do
      let patterns ← itemsOf v
      return Ordered.keys (← es.filterM fun (k, _) =>
        patterns.anyM fun p => do (← searchFor p) (← keyTextOf k))
  return named ++ others.flatten ++ found

/-- The schemas that keys of the instance make apply. -/
def dependentIn (m es : Entries) : Except Defect (List Value) :=
  match Entries.find? m "dependentSchemas" with
  | none => .ok []
  | some v => do
    return Ordered.values ((← entriesOf v).filter fun d => Ordered.has es d.1)

/-- The keys that a schema looks at. -/
def coveredKeys (es : Entries) : (fuel : Nat) → Coverage Scalar
  | 0, _, _ => .error .endless
  | fuel + 1, e, schema => do
    match ← mappingOf? schema with
    | none => return []
    | some m =>
      let own ← keysCovered e m es
      let dependent ← (← dependentIn m es).mapM fun sub => coveredKeys es fuel e sub
      let branches ← coveredByBranches (coveredKeys es fuel) e m (.map es)
      return own ++ dependent.flatten ++ branches

/-- The keys of properties that are not covered and that a schema finds something wrong with, once
for each thing found. -/
def failingKeys (e : Evaluator) (sub : Value) (covered : List Scalar) (es : Entries) :
    Except Defect (List Scalar) := do
  let found ← es.mapM fun (k, x) => do
    if covered.contains k then return []
    return (← (e.descend sub x).all).map fun _ => k
  return found.flatten

def unevaluatedProperties : Keyword := fun e schema v subject =>
  match subject with
  | .map es =>
    let failing : Except Defect (List Scalar) := do
      let covered ← coveredKeys es coverageDepth e (.map schema)
      failingKeys e v covered es
    .withValue failing fun failing =>
      let shown := failing.map Value.scalar
      if failing.isEmpty then .clear
      else if v = .bool false then
        .report shown ("Unevaluated properties are not allowed (" ++
          listing (sortedByText failing) ++ " " ++ wasOrWere shown ++ " unexpected)")
      else
        .report shown ("Unevaluated properties are not valid under the given schema (" ++
          listing shown ++ " " ++ wasOrWere shown ++ " unexpected)")
  | _ => .clear

end ApiRouter.Schema.Keyword
