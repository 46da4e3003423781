import ApiRouter.Proofs.Evaluation
import ApiRouter.Proofs.RequiredBody

set_option autoImplicit false

/-! # The names that a link requires

A pass over the declarations binds each name once, as a property, but lists it as required with every
declaration that requires it. A name that is required in two locations is listed twice then, and when it
is missing, that is reported twice. -/

namespace ApiRouter

namespace Parameter

/-- The name of a declaration as it is written. -/
def writtenName : Value → Value
  | .map d => Entries.get d "name"
  | _ => .null

/-- The names of the required declarations of a kind, one for each declaration. -/
def namesRequired (p : Value → Bool) (ds : List Value) : List Value :=
  (ds.filter fun d => p d && Operation.isRequired d).map writtenName

theorem namesRequired_cons (p : Value → Bool) (d : Value) (ds : List Value) :
    namesRequired p (d :: ds)
      = (if p d && Operation.isRequired d then [writtenName d] else []) ++ namesRequired p ds := by
  rw [namesRequired, List.filter_cons]
  split
  · rfl
  · rfl

namespace Merged

variable {m m' : Merged} {ds : List Value} {add : Merged → Value → Except Failure Merged}
  {p : Value → Bool}

/-! ## One pass -/

/-- A pass lists the names of the required declarations of some kind. -/
def Lists (add : Merged → Value → Except Failure Merged) (p : Value → Bool) : Prop :=
  ∀ m d m', add m d = .ok m' →
    m'.required = m.required ++ if p d && Operation.isRequired d then [writtenName d] else []

theorem required_addProperty {d : Entries} (h : m.addProperty d = .ok m') :
    m'.required
      = m.required ++ if Operation.isRequired (.map d) then [Entries.get d "name"] else [] := by
  unfold addProperty at h
  obtain ⟨s, -, h⟩ := Outcome.bind_eq_ok.1 h
  obtain ⟨key, -, h⟩ := Outcome.bind_eq_ok.1 h
  cases h
  have htruthy : Operation.isRequired (.map d) = (Entries.get d "required").truthy := rfl
  rw [htruthy]
  cases (Entries.get d "required").truthy with
  | true => rfl
  | false => exact (List.append_nil _).symm

theorem lists_addToRequest : Lists addToRequest isProperty := by
  intro m d m' h
  cases d with
  | map e =>
      cases hl : locationOf e with
      | none =>
          simp only [addToRequest, hl] at h
          cases h
          simp [isProperty, Operation.isIn, hl]
      | some location =>
          simp only [addToRequest, hl] at h
          cases location with
          | path | query | form =>
              rw [required_addProperty h]
              simp [isProperty, Operation.isIn, hl, writtenName]
          | header | body =>
              cases h
              simp [isProperty, Operation.isIn, hl]
  | _ => cases h

theorem lists_addToHeaders : Lists addToHeaders (Operation.isIn .header) := by
  intro m d m' h
  cases d with
  | map e =>
      simp only [addToHeaders] at h
      by_cases hl : locationOf e = some .header
      · rw [if_pos hl] at h
        rw [required_addProperty h]
        simp [Operation.isIn, hl, writtenName]
      · rw [if_neg hl] at h
        cases h
        simp [Operation.isIn, hl]
  | _ => cases h

/-- After the pass the names are listed as often as declarations require them. -/
theorem Lists.required (hadd : Lists add p) (h : ds.foldlM add m = .ok m') :
    m'.required = m.required ++ namesRequired p ds := by
  induction ds generalizing m with
  | nil =>
      cases h
      exact (List.append_nil _).symm
  | cons d rest ih =>
      rw [List.foldlM_cons] at h
      obtain ⟨m₁, hstep, hrest⟩ := Outcome.bind_eq_ok.1 h
      rw [ih hrest, hadd m d m₁ hstep, namesRequired_cons, List.append_assoc]

/-- After the pass each declaration of the kind has a property under its name. -/
theorem Collects.bound (hadd : Collects add p) (h : ds.foldlM add m = .ok m') {d : Value}
    (hd : d ∈ ds) (hp : p d = true) :
    ∃ k, writtenName d = .scalar k ∧ ∃ l ∈ Ordered.keys m'.properties, l = k ∨ (l == k) = true := by
  induction ds generalizing m with
  | nil => cases hd
  | cons e rest ih =>
      rw [List.foldlM_cons] at h
      obtain ⟨m₁, hstep, hrest⟩ := Outcome.bind_eq_ok.1 h
      rcases List.mem_cons.1 hd with rfl | hd
      · obtain ⟨entries, k, data, rfl, hname, hput⟩ := (hadd m d m₁ hstep).1 hp
        have hkeep := hadd.keys_subset hrest
        rw [hput, Ordered.keys_insert] at hkeep
        refine ⟨k, hname, ?_⟩
        split at hkeep
        · next hhas =>
            obtain ⟨l, hl, hbeq⟩ := Ordered.has_eq_true.1 hhas
            exact ⟨l, hkeep hl, .inr hbeq⟩
        · exact ⟨k, hkeep (List.mem_append_right _ (List.mem_singleton_self k)), .inl rfl⟩
      · exact ih hrest hd

/-! ## What the schema reports -/

theorem find?_required_objectPayload (m : Merged) :
    Entries.find? m.objectPayload "required"
      = if m.required.isEmpty then none else some (.list m.required) := by
  unfold objectPayload
  split
  · rfl
  · rfl

end Merged

end Parameter

namespace Schema

/-- Whether a name is no key of an instance. -/
def lacks (es : Entries) (name : Value) : Bool :=
  match Keyword.hasKey es name with
  | .ok present => !present
  | .error _ => false

/-- The message about a missing parameter. -/
def missingMessage (name : Value) : String :=
  name.quoted ++ " is a required property"

/-- The violations at the place itself. -/
def atRoot (found : List Violation) : List Violation :=
  found.filter (·.path.isEmpty)

theorem atRoot_append (found more : List Violation) :
    atRoot (found ++ more) = atRoot found ++ atRoot more :=
  List.filter_append ..

/-- What is found under a name is not found at the place itself. -/
theorem atRoot_under (name : String) (f : Findings) : atRoot (f.under name).violations = [] := by
  simp [atRoot, Findings.under]

/-- Properties that are mappings find something under their names only. -/
theorem atRoot_properties (e : Evaluator) (schema : Entries) {es : Entries}
    {subs : List (Scalar × Entries)}
    (h : (Keyword.properties e schema (.map (subs.map fun p => (p.1, .map p.2))) (.map es)).stopped
      = none) :
    atRoot (Keyword.properties e schema (.map (subs.map fun p => (p.1, .map p.2)))
      (.map es)).violations = [] := by
  simp only [Keyword.properties, Keyword.entriesOf, Findings.withValue] at h ⊢
  rw [(Findings.forAll_of_not_stopped h).2, atRoot, List.filter_flatMap, List.flatMap_eq_nil_iff]
  intro p hp
  obtain ⟨q, -, rfl⟩ := List.mem_map.1 hp
  cases Ordered.find? es q.1 with
  | none => rfl
  | some x =>
      simp only [Evaluator.descendAt]
      rw [if_neg (by simp)]
      exact atRoot_under ..

/-- What is found about one required name. -/
def presence (es : Entries) (name : Value) : Findings :=
  .withValue (Keyword.hasKey es name) fun present => .require present [name] (missingMessage name)

theorem atRoot_presence {es : Entries} {name : Value} (h : (presence es name).stopped = none) :
    atRoot (presence es name).violations
      = if lacks es name then [⟨[], missingMessage name⟩] else [] := by
  cases hkey : Keyword.hasKey es name with
  | error cause =>
      rw [presence, hkey] at h
      cases h
  | ok present =>
      rw [lacks, hkey]
      cases present with
      | true =>
          rw [presence, hkey]
          rfl
      | false =>
          have hreport : presence es name = .report [name] (missingMessage name) := by
            rw [presence, hkey]
            rfl
          rw [hreport, Findings.report] at h ⊢
          split at h
          · next hshowable =>
              rw [if_pos hshowable]
              rfl
          · cases h

/-- Each required name that is missing is found once for every time that it is listed. -/
theorem atRoot_required (e : Evaluator) (schema : Entries) {es : Entries} {names : List Value}
    (h : (Keyword.required e schema (.list names) (.map es)).stopped = none) :
    atRoot (Keyword.required e schema (.list names) (.map es)).violations
      = (names.filter (lacks es)).map fun name => ⟨[], missingMessage name⟩ := by
  have hrequired : Keyword.required e schema (.list names) (.map es)
      = .forAll names (presence es) := rfl
  rw [hrequired] at h ⊢
  obtain ⟨hall, hviolations⟩ := Findings.forAll_of_not_stopped h
  rw [hviolations]
  clear h hviolations hrequired
  induction names with
  | nil => rfl
  | cons name rest ih =>
      obtain ⟨hname, hrest⟩ := List.forall_mem_cons.1 hall
      rw [List.flatMap_cons, atRoot_append, ih hrest, atRoot_presence hname, List.filter_cons]
      cases lacks es name with
      | true => rfl
      | false => rfl

/-- The payload of merged declarations finds what its entries do, one after the other. -/
theorem findings_objectPayload (m : Parameter.Merged) (definitions subject : Value) :
    ∃ scope schema, findings m.objectPayload definitions subject
      = .forAll m.objectPayload (findsAt stepLimit scope schema subject) := by
  have hhas {k : String} (hk : k ≠ "type" ∧ k ≠ "properties" ∧ k ≠ "required") :
      Entries.has m.objectPayload k = false := by
    rw [Entries.has_eq_isSome, m.find?_objectPayload_eq_none hk]
    rfl
  have hundeclared : isUndeclared m.objectPayload = true := by
    rw [isUndeclared, hhas (by decide), hhas (by decide), hhas (by decide)]
    rfl
  refine ⟨Scope.inDocument (withDefinitions m.objectPayload definitions), m.objectPayload, ?_⟩
  rw [findings_eq hundeclared, finds_eq, activeKeywords_eq (m.find?_objectPayload_eq_none (by decide))]

/-- What the schema of merged declarations finds wrong with a mapping itself are the required names
that it lacks. -/
theorem atRoot_objectPayload {m : Parameter.Merged} {definitions : Value} {es : Entries}
    (h : Evaluates m.objectPayload definitions (.map es)) :
    atRoot (findings m.objectPayload definitions (.map es)).violations
      = (m.required.filter (lacks es)).map fun name => ⟨[], missingMessage name⟩ := by
  obtain ⟨scope, schema, hfindings⟩ := findings_objectPayload m definitions (.map es)
  rw [Evaluates, hfindings] at h
  obtain ⟨hall, hviolations⟩ := Findings.forAll_of_not_stopped h
  rw [hfindings, hviolations]
  have htype : findsAt stepLimit scope schema (.map es) (.text "type", .texts ["object"]) = .clear :=
    rfl
  have hstopped := hall (.text "properties", .map (m.properties.map fun p => (p.1, .map p.2)))
    (List.mem_append_left _ (by simp))
  have hproperties : atRoot (findsAt stepLimit scope schema (.map es)
      (.text "properties", .map (m.properties.map fun p => (p.1, .map p.2)))).violations = [] :=
    atRoot_properties ⟨⟨Rules.forMessages, scope⟩, evaluate stepLimit⟩ schema hstopped
  rw [Parameter.Merged.objectPayload, List.flatMap_append, atRoot_append, List.flatMap_cons,
    List.flatMap_singleton, atRoot_append, htype, hproperties]
  split
  · next hempty =>
      rw [List.isEmpty_iff.1 hempty]
      rfl
  · next hlisted =>
      -- neither the type nor the properties find anything at the place itself
      have hstopped := hall (.text "required", .list m.required)
        (List.mem_append_right _ (by rw [if_neg hlisted]; exact List.mem_singleton_self _))
      rw [List.flatMap_singleton]
      exact atRoot_required ⟨⟨Rules.forMessages, scope⟩, evaluate stepLimit⟩ schema hstopped

/-- What a schema says about the names that it requires. They are listed unless there are none; each
of them is a property; and a mapping that lacks some is reported once for every time that a name which
it lacks is listed. -/
structure RequiresNames (names : List Value) (s : Schema) : Prop where
  listed : Entries.find? s.data "required" = if names.isEmpty then none else some (.list names)
  bound : ∃ properties, Entries.find? s.data "properties" = some (.map properties) ∧
    ∀ name ∈ names, ∃ k, name = .scalar k ∧ Ordered.has properties k = true
  reported : ∀ definitions es, Evaluates s.data definitions (.map es) →
    atRoot (findings s.data definitions (.map es)).violations
      = (names.filter (lacks es)).map fun name => ⟨[], missingMessage name⟩

end Schema

namespace Parameter

variable {ds : List Value} {p : Value → Bool}

/-- The schema that a pass leads to requires the names of the declarations that are required. -/
theorem Merged.objectSchema_requires {m : Merged} {s : Schema}
    {add : Merged → Value → Except Failure Merged} (hcollects : Merged.Collects add p)
    (hlists : Merged.Lists add p) (hm : ds.foldlM add .empty = .ok m) (h : m.objectSchema = .ok s) :
    s.RequiresNames (namesRequired p ds) := by
  have hdata := (Schema.mirrors_of_ofEntries h).verbatim m.hasTextKeys_objectPayload
  have hrequired : m.required = namesRequired p ds := hlists.required hm
  refine ⟨?_, ⟨_, by rw [hdata, m.find?_properties_objectPayload], fun name hname => ?_⟩, ?_⟩
  · rw [hdata, m.find?_required_objectPayload, hrequired]
  · obtain ⟨d, hd, rfl⟩ := List.mem_map.1 hname
    obtain ⟨hmem, hkind⟩ := List.mem_filter.1 hd
    obtain ⟨k, hk, l, hl, hsame⟩ := hcollects.bound hm hmem (Bool.and_eq_true_iff.1 hkind).1
    refine ⟨k, hk, Ordered.has_eq_true.2 ⟨l, by simpa [Ordered.keys] using hl, ?_⟩⟩
    rcases hsame with rfl | hbeq
    · exact ((Scalar.rigid_of_asText? ((objectSchema_names h).2 l hl)).beq_left l).2 rfl
    · exact hbeq
  · intro definitions es heval
    rw [hdata] at heval ⊢
    rw [Schema.atRoot_objectPayload heval, hrequired]

end Parameter

/-- The schemas of a link require the names of the declarations that are required. -/
theorem Operation.HasLink.requiresNames {document : Entries} {op : Operation} {declared : List Value}
    {link : Link} (h : HasLink document op declared link) :
    (∀ s, link.shape.schema? = some s →
        s.RequiresNames (Parameter.namesRequired Parameter.isProperty declared)) ∧
      ∀ s, link.headerSchema = some s →
        s.RequiresNames (Parameter.namesRequired (isIn .header) declared) := by
  have hget := op.get_declaring declared
  have hheader := h.headerSchema
  constructor
  · intro s hs
    obtain ⟨m, hm, hschema⟩ := Parameter.exists_merged_of_requestShape h.shape hget hs
    exact Parameter.Merged.objectSchema_requires Parameter.Merged.collects_addToRequest
      Parameter.Merged.lists_addToRequest hm hschema
  · intro s hs
    rw [hs] at hheader
    split at hheader
    · obtain ⟨s', hs', heq⟩ := Outcome.map_eq_ok.1 hheader
      cases heq
      obtain ⟨m, hm, hschema⟩ := Parameter.exists_merged_of_headerSchema hs' hget
      exact Parameter.Merged.objectSchema_requires Parameter.Merged.collects_addToHeaders
        Parameter.Merged.lists_addToHeaders hm hschema
    · cases hheader

/-- **What the schemas of a link require.** In the schema of the parameters and in that of the headers
the names of the required declarations are listed, each as often as declarations in these locations
require it, and every listed name is a property. A mapping that lacks listed names is reported for each
of them as often. -/
theorem Api.compile_required {document : Entries} {defaults : Defaults} {api : Api}
    (h : compile document defaults = .ok api) {method : String} {link : Link}
    (hlink : (method, link) ∈ api.links) :
    ∃ m ∈ Member.routed document, ∃ op declared, m.operation? = some op ∧ op.Declares declared ∧
      (∀ s, link.shape.schema? = some s →
        s.RequiresNames (Parameter.namesRequired Parameter.isProperty declared)) ∧
      ∀ s, link.headerSchema = some s →
        s.RequiresNames (Parameter.namesRequired (Operation.isIn .header) declared) := by
  obtain ⟨m, hm, op, declared, hop, hfields⟩ := exists_hasLink h hlink
  exact ⟨m, hm, op, declared, hop, hfields.declares, hfields.requiresNames⟩

/-- A document with an operation that requires one name in two locations. -/
def twiceRequiredDocument : Entries :=
  [(.text "swagger", .text "2.0"), (.text "definitions", .map []),
    (.text "paths", .object [("/pets", .object [("post", .object [("parameters", .list
      [.object [("name", .text "id"), ("in", .text "query"), ("required", .bool true)],
        .object [("name", .text "id"), ("in", .text "formData"), ("required", .bool true)]])])])])]

theorem exists_link_twiceRequired :
    ∃ api link s, Api.compile twiceRequiredDocument .standard = .ok api ∧
      ("POST", link) ∈ api.links ∧ link.shape.schema? = some s ∧
      Entries.find? s.data "required" = some (.texts ["id", "id"]) ∧
      (Schema.findings s.data (.map []) (.map [])).violations.map Schema.Violation.line
        = ["<root>: 'id' is a required property", "<root>: 'id' is a required property"] := by
  have hrow : ((Api.compile twiceRequiredDocument .standard).toOption.map fun api =>
      api.links.map fun e => (e.1, e.2.shape.schema?.map fun s =>
        (Entries.find? s.data "required",
          (Schema.findings s.data (.map []) (.map [])).violations.map Schema.Violation.line)))
      = some [("POST", some (some (.texts ["id", "id"]),
          ["<root>: 'id' is a required property", "<root>: 'id' is a required property"]))] := by
    decide +kernel
  obtain ⟨api, hapi, hlinks⟩ := Outcome.exists_of_toOption_map hrow
  obtain ⟨⟨method, link⟩, hlinks, hlink⟩ := List.map_eq_singleton_iff.1 hlinks
  obtain ⟨hmethod, hschema⟩ := Prod.mk.inj hlink
  obtain ⟨s, hs, hvalues⟩ := Option.map_eq_some_iff.1 hschema
  obtain ⟨hrequired, hlines⟩ := Prod.mk.inj hvalues
  exact ⟨api, link, s, hapi, by rw [hlinks, ← hmethod]; exact List.mem_singleton_self _, hs, hrequired,
    hlines⟩

theorem Api.compile_required_twice :
    ∃ api link s, compile twiceRequiredDocument .standard = .ok api ∧ ("POST", link) ∈ api.links ∧
      link.shape.schema? = some s ∧ s.RequiresNames [.text "id", .text "id"] := by
  obtain ⟨api, link, s, hapi, hlink, hs, hrequired, -⟩ := exists_link_twiceRequired
  obtain ⟨-, -, -, declared, -, -, hrequires, -⟩ := compile_required hapi hlink
  have hnames := hrequires s hs
  have hlisted := hnames.listed
  rw [hrequired] at hlisted
  split at hlisted
  · cases hlisted
  · rw [← Value.list.inj (Option.some.inj hlisted)] at hnames
    exact ⟨api, link, s, hapi, hlink, hs, hnames⟩

/-- The name is listed twice, and that it is missing is reported twice. -/
theorem Api.twiceRequired_repeats :
    ∃ api link s names, compile twiceRequiredDocument .standard = .ok api ∧
      ("POST", link) ∈ api.links ∧ link.shape.schema? = some s ∧
      Entries.find? s.data "required" = some (.list names) ∧ ¬ names.Nodup ∧
      (Schema.findings s.data (.map []) (.map [])).violations.map Schema.Violation.line
        = ["<root>: 'id' is a required property", "<root>: 'id' is a required property"] := by
  obtain ⟨api, link, s, hapi, hlink, hs, hrequired, hlines⟩ := exists_link_twiceRequired
  exact ⟨api, link, s, _, hapi, hlink, hs, hrequired, by decide, hlines⟩

end ApiRouter
