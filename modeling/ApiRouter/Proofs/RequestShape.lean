import ApiRouter.Proofs.Containment
import ApiRouter.Proofs.Rows

set_option autoImplicit false

/-! # What the declarations of an operation amount to

A list of declarations is refused when one of them has no name, when one cannot be translated, or when
a body stands beside parameters, and the reasons count in this order wherever they occur. What is left
is a body, or an object schema with a property for each name of a parameter. -/

namespace ApiRouter

namespace Parameter

/-! ## Kinds of declarations -/

/-- Whether a declaration is one of a path, a query or a form. -/
def isParameter (d : Entries) : Bool :=
  match locationOf d with
  | some .path | some .query | some .form => true
  | _ => false

/-- Whether a declaration is one of a body. -/
def isBody (d : Entries) : Bool :=
  locationOf d == some .body

/-- The name of a declaration that has a text for it. -/
def nameOf (d : Entries) : String :=
  match Entries.get d "name" with
  | .text name => name
  | _ => ""

/-- A declaration that becomes a property can be translated. -/
def IsTranslatable (d : Entries) : Prop :=
  isParameter d = true → ∃ s, schemaOf d = .ok s

/-! ## The payload of one declaration -/

/-- A payload that says what a declaration does: it has the keywords of the declaration that constrain
values, the type in a list of one, the parts of the enumeration in a list, and the others as they
are. -/
structure Translates (d p : Entries) : Prop where
  keys : Ordered.keys p = (keywords.filter (Entries.has d)).map .text
  type : Entries.find? p "type" = (Entries.find? d "type").map fun t => .list [t]
  enum : ∀ v, Entries.find? d "enum" = some v →
    ∃ parts, Schema.partsOf v = .ok parts ∧ Entries.find? p "enum" = some (.list parts)
  copied : ∀ k ∈ constraintKeywords, Entries.find? p k = Entries.find? d k

theorem translates_of_payload {d p : Entries} (h : payload d = .ok p) : Translates d p := by
  obtain ⟨enum, rfl, hsome, henum⟩ := payload_eq_rowsOf h
  have hfind {k : String} (hk : k ∈ keywords) :
      Entries.find? (Entries.rowsOf (translated d enum) keywords) k = translated d enum k := by
    rw [Entries.find?_rowsOf, if_pos hk]
  refine ⟨?_, ?_, fun v hv => ?_, fun k hk => ?_⟩
  · rw [Entries.keys_rowsOf]
    congr 1
    refine List.filter_congr fun k _ => ?_
    rw [translated]
    split
    · next htype => rw [htype, Option.isSome_map, Entries.has_eq_isSome]
    · split
      · next henum => rw [henum, hsome]
      · rw [Entries.has_eq_isSome]
  · rw [hfind (by decide), translated, if_pos rfl]
  · obtain ⟨parts, hparts, rfl⟩ := henum v hv
    exact ⟨parts, hparts, hfind (by decide)⟩
  · rw [hfind (List.mem_cons_of_mem _ (List.mem_cons_of_mem _ hk)), translated_of_mem hk]

/-! ## Merging -/

/-- The schemas of the parameters among declarations, with their names. -/
def parameterRows (ds : List Entries) : List (String × Schema) :=
  (ds.filter isParameter).filterMap fun d => (schemaOf d).toOption.map fun s => (nameOf d, s)

/-- The names of the required parameters, as often as they are declared. -/
def requiredNames (ds : List Entries) : List String :=
  ((ds.filter isParameter).filter fun d => (Entries.get d "required").truthy).map nameOf

theorem parameterRows_append (ds es : List Entries) :
    parameterRows (ds ++ es) = parameterRows ds ++ parameterRows es := by
  simp [parameterRows]

theorem requiredNames_append (ds es : List Entries) :
    requiredNames (ds ++ es) = requiredNames ds ++ requiredNames es := by
  simp [requiredNames]

/-- When all parameters can be translated, each has its row. -/
theorem keys_parameterRows {ds : List Entries} (h : ∀ d ∈ ds, IsTranslatable d) :
    Ordered.keys (parameterRows ds) = (ds.filter isParameter).map nameOf := by
  induction ds with
  | nil => rfl
  | cons d rest ih =>
      obtain ⟨hd, hrest⟩ := List.forall_mem_cons.1 h
      rw [← List.singleton_append, parameterRows_append, Ordered.keys, List.map_append,
        List.filter_append, List.map_append]
      rw [← ih hrest, Ordered.keys]
      congr 1
      by_cases hparameter : isParameter d = true
      · obtain ⟨s, hs⟩ := hd hparameter
        simp [parameterRows, hparameter, hs, Except.toOption]
      · simp [parameterRows, hparameter]

namespace Merged

variable {m : Merged} {d : Entries}

/-- A parameter is found in a path, in a query or in a form. -/
theorem addToRequest_of_isParameter (h : isParameter d = true) :
    m.addToRequest (.map d) = m.addProperty d ∧ isBody d = false := by
  cases hl : locationOf d with
  | none => simp [isParameter, hl] at h
  | some location =>
      cases location with
      | header => simp [isParameter, hl] at h
      | body => simp [isParameter, hl] at h
      | _ => exact ⟨by simp only [addToRequest, hl], by rw [isBody, hl]; rfl⟩

theorem addToRequest_of_isBody (h : isBody d = true) :
    m.addToRequest (.map d) = .ok { m with body := some (Entries.get d "schema") } := by
  rw [isBody, beq_iff_eq] at h
  simp only [addToRequest, h]

/-- Headers and unknown locations leave no trace. -/
theorem addToRequest_of_other (hparameter : isParameter d = false) (hbody : isBody d = false) :
    m.addToRequest (.map d) = .ok m := by
  cases hl : locationOf d with
  | none => simp only [addToRequest, hl]
  | some location =>
      cases location with
      | header => simp only [addToRequest, hl]
      | body => simp [isBody, hl] at hbody
      | _ => simp [isParameter, hl] at hparameter

/-- What declarations amount to when all parameters among them can be translated. -/
def ofDeclarations (ds : List Entries) : Merged where
  properties := (Ordered.ofList (parameterRows ds)).map fun r => (.text r.1, r.2.data)
  required := (requiredNames ds).map .text
  body := (ds.reverse.find? isBody).map fun d => Entries.get d "schema"

/-- One more declaration is merged into those before it. -/
theorem addToRequest_ofDeclarations (ds : List Entries)
    (hname : Entries.get d "name" = .text (nameOf d)) (hd : IsTranslatable d) :
    (ofDeclarations ds).addToRequest (.map d) = .ok (ofDeclarations (ds ++ [d])) := by
  have hreverse : (ds ++ [d]).reverse = d :: ds.reverse := by simp
  by_cases hparameter : isParameter d = true
  · obtain ⟨s, hs⟩ := hd hparameter
    have hrows : parameterRows [d] = [(nameOf d, s)] := by
      simp [parameterRows, hparameter, hs, Except.toOption]
    have hinsert : Ordered.ofList (parameterRows ds ++ [(nameOf d, s)])
        = Ordered.insert (Ordered.ofList (parameterRows ds)) (nameOf d) s := by
      simp [Ordered.ofList, Ordered.update]
    obtain ⟨hadd, hbody⟩ := addToRequest_of_isParameter (m := ofDeclarations ds) hparameter
    have hrequired : (if (Entries.get d "required").truthy
          then (requiredNames ds).map Value.text ++ [.text (nameOf d)]
          else (requiredNames ds).map Value.text)
        = (requiredNames ds ++ requiredNames [d]).map .text := by
      cases htruthy : (Entries.get d "required").truthy with
      | true => simp [requiredNames, hparameter, htruthy]
      | false => simp [requiredNames, hparameter, htruthy]
    rw [hadd, addProperty, hname, hs]
    simp only [Outcome.ok_bind, nameKey, ofDeclarations, hreverse, parameterRows_append, hrows, hinsert,
      requiredNames_append, Entries.insert_texts, List.find?_cons, hbody, hrequired]
  · have hrows : parameterRows [d] = [] := by simp [parameterRows, hparameter]
    have hnames : requiredNames [d] = [] := by simp [requiredNames, hparameter]
    cases hbody : isBody d with
    | true =>
        rw [addToRequest_of_isBody hbody]
        simp [ofDeclarations, hreverse, parameterRows_append, requiredNames_append, hrows, hnames, hbody]
    | false =>
        rw [addToRequest_of_other (Bool.eq_false_iff.2 hparameter) hbody]
        simp [ofDeclarations, hreverse, parameterRows_append, requiredNames_append, hrows, hnames, hbody]

theorem foldlM_eq_ok {ds : List Entries} (hnames : ∀ d ∈ ds, Entries.get d "name" = .text (nameOf d))
    (hds : ∀ d ∈ ds, IsTranslatable d) :
    (ds.map Value.map).foldlM addToRequest empty = .ok (ofDeclarations ds) := by
  induction ds using List.reverseRecOn with
  | nil => rfl
  | append_singleton ds d ih =>
      simp only [List.forall_mem_append, List.forall_mem_singleton] at hnames hds
      rw [List.map_append, List.foldlM_append, ih hnames.1 hds.1, Outcome.ok_bind, List.map_singleton,
        List.foldlM_cons, addToRequest_ofDeclarations ds hnames.2 hds.2]
      rfl

/-- The first parameter that cannot be translated ends the merging. -/
theorem foldlM_eq_error {before after : List Entries} {e : Failure}
    (hnames : ∀ b ∈ before, Entries.get b "name" = .text (nameOf b))
    (hbefore : ∀ b ∈ before, IsTranslatable b) (hparameter : isParameter d = true)
    (he : schemaOf d = .error e) :
    ((before ++ d :: after).map Value.map).foldlM addToRequest empty = .error e := by
  have hadd : (ofDeclarations before).addProperty d = .error e := by
    rw [addProperty, he]
    rfl
  rw [List.map_append, List.foldlM_append, foldlM_eq_ok hnames hbefore, Outcome.ok_bind, List.map_cons,
    List.foldlM_cons, (addToRequest_of_isParameter hparameter).1, hadd]
  rfl

end Merged

/-! ## The object schema of the parameters -/

theorem propertiesOf_texts {rows : List (String × Schema)}
    (h : ∀ r ∈ rows, Schema.ofEntries r.2.data = .ok r.2) :
    Schema.propertiesOf (rows.map fun r => (.text r.1, .map r.2.data))
      = .ok (rows.map fun r => (.text r.1, r.2)) := by
  induction rows with
  | nil => rw [List.map_nil, Schema.propertiesOf]; rfl
  | cons r rest ih =>
      obtain ⟨hr, hrest⟩ := List.forall_mem_cons.1 h
      rw [List.map_cons, Schema.propertiesOf, hr, Outcome.ok_bind, ih hrest]
      rfl

/-- The schema of a declaration is that of its payload when it is read again. -/
theorem ofEntries_data_schemaOf {d : Entries} {s : Schema} (h : schemaOf d = .ok s) :
    Schema.ofEntries s.data = .ok s := by
  obtain ⟨p, hp, hs⟩ := Outcome.bind_eq_ok.1 h
  rwa [(Schema.mirrors_of_ofEntries hs).verbatim (hasTextKeys_payload hp)]

theorem ofEntries_of_mem_parameterRows {ds : List Entries} {r : String × Schema}
    (h : r ∈ parameterRows ds) : Schema.ofEntries r.2.data = .ok r.2 := by
  obtain ⟨d, -, hd⟩ := List.mem_filterMap.1 h
  obtain ⟨s, hs, rfl⟩ := Option.map_eq_some_iff.1 hd
  cases hschema : schemaOf d with
  | error e =>
      rw [hschema] at hs
      cases hs
  | ok s' =>
      rw [hschema] at hs
      cases hs
      exact ofEntries_data_schemaOf hschema

/-- The merged declarations make an object schema, with the schemas of the parameters for
properties. -/
theorem exists_objectSchema (ds : List Entries) :
    ∃ s, (Merged.ofDeclarations ds).objectSchema = .ok s ∧
      s.data = (Merged.ofDeclarations ds).objectPayload ∧
      s.properties = Ordered.ofList (parameterRows ds) := by
  generalize hrows : Ordered.ofList (parameterRows ds) = rows
  generalize hm : Merged.ofDeclarations ds = m
  have hproperties : m.properties.map (fun p => (p.1, Value.map p.2))
      = rows.map fun r => (Scalar.text r.1, .map r.2.data) := by
    rw [← hm, ← hrows, Merged.ofDeclarations, List.map_map]
    rfl
  have hprepare : Schema.prepare m.objectPayload = .ok ⟨none, none⟩ := by
    rw [Schema.prepare, m.find?_objectPayload_eq_none (by decide), m.find?_objectPayload_eq_none (by decide)]
    rfl
  have hread : Schema.propertiesOf (rows.map fun r => (.text r.1, .map r.2.data))
      = .ok (rows.map fun r => (.text r.1, r.2)) := by
    refine propertiesOf_texts fun r hr => ?_
    rw [← hrows] at hr
    obtain ⟨r', hr', he⟩ := List.mem_map.1 (Ordered.mem_values_ofList (List.mem_map.2 ⟨r, hr, rfl⟩))
    rw [← he]
    exact ofEntries_of_mem_parameterRows hr'
  have hfind : Entries.find? m.objectPayload "properties"
      = some (.map (rows.map fun r => (.text r.1, .map r.2.data))) := by
    rw [m.find?_properties_objectPayload, hproperties]
  have hnames : ∀ e ∈ m.objectPayload, Schema.isName e.1 = true := by
    intro e he
    rcases Merged.mem_objectPayload he with rfl | rfl | rfl
    · rfl
    · rfl
    · rfl
  have hrequired : ∀ v ∈ m.required, (Field.text v).isOk = true := by
    rw [← hm]
    rintro v hv
    obtain ⟨name, -, rfl⟩ := List.mem_map.1 hv
    rfl
  have hfits {k : String} {v : Value} (h : Entries.find? m.objectPayload k = some v) :
      Schema.fits k v = true := by
    rcases Merged.mem_objectPayload (Ordered.mem_of_find? (Scalar.rigid_text k) h) with he | he | he
    · cases he
      rfl
    · cases he
      rfl
    · cases he
      exact Field.isOk_listOf hrequired
  have htexts : ∀ p ∈ rows.map fun r => (Scalar.text r.1, r.2), Schema.isName p.1 = true := by
    intro p hp
    obtain ⟨r, -, rfl⟩ := List.mem_map.1 hp
    rfl
  obtain ⟨s, hs⟩ := Schema.exists_assemble_of_fits hnames hfits ⟨none, none⟩ htexts
  have hobject : m.objectSchema = .ok s := by
    rw [Merged.objectSchema, Schema.ofEntries, hprepare, Outcome.ok_bind]
    simp only
    split
    · next subs hsubs =>
        rw [hfind] at hsubs
        cases hsubs
        rw [hread, Outcome.ok_bind]
        exact Checked.toExcept_eq_ok.2 hs
    · next hno => exact absurd hfind (hno _)
  refine ⟨s, hobject, (Schema.mirrors_of_ofEntries hobject).verbatim m.hasTextKeys_objectPayload, ?_⟩
  obtain ⟨-, -, rows', hrows', hsame⟩ := Schema.assemble_eq_ok hprepare hs
  have heq : rows = rows' := by
    rw [← List.forall₂_eq_eq_eq]
    refine (List.forall₂_map_left_iff.1 hsame).imp fun r r' h => ?_
    obtain ⟨hkey, hschema⟩ := h
    exact Prod.ext (Option.some.inj hkey) hschema
  rw [hrows', ← heq, ← hrows]
  exact Ordered.ofList_eq_self (Ordered.distinct_ofList _)

/-! ## The outcome for a list of declarations -/

/-- An object schema with a property for each name of a parameter, in the order of first use, which
has the schema of the last declaration of that name. The payload holds the payloads of the properties,
and the names of the required ones where there are any. -/
structure IsObjectOf (ds : List Entries) (s : Schema) : Prop where
  names : Ordered.keys s.properties = ((ds.filter isParameter).map nameOf).eraseDups
  bound : ∀ before d after, ds = before ++ d :: after → isParameter d = true →
    (∀ e ∈ after, isParameter e = true → nameOf e ≠ nameOf d) →
      ∃ p, schemaOf d = .ok p ∧ Ordered.find? s.properties (nameOf d) = some p ∧ Translates d p.data
  data : s.data = [(.text "type", .texts ["object"]),
      (.text "properties", .object (s.properties.map fun p => (p.1, .map p.2.data)))]
    ++ if (requiredNames ds).isEmpty then [] else [(.text "required", .texts (requiredNames ds))]

theorem isObjectOf {ds : List Entries} {s : Schema} (hds : ∀ d ∈ ds, IsTranslatable d)
    (hdata : s.data = (Merged.ofDeclarations ds).objectPayload)
    (hproperties : s.properties = Ordered.ofList (parameterRows ds)) : IsObjectOf ds s where
  names := by rw [hproperties, keys_ofList, keys_parameterRows hds]
  bound := by
    rintro before d after rfl hparameter hlast
    obtain ⟨p, hp⟩ := hds d (by simp) hparameter
    refine ⟨p, hp, ?_, translates_of_payload (schemaOf_eq_ok hp)⟩
    have hrow : parameterRows [d] = [(nameOf d, p)] := by
      simp [parameterRows, hparameter, hp, Except.toOption]
    rw [hproperties, ← List.singleton_append, parameterRows_append, parameterRows_append, hrow]
    refine Ordered.find?_ofList_of_last (Ordered.rigid_of_lawful _) fun hmem => ?_
    rw [List.append_eq, List.nil_append, keys_parameterRows fun e he => hds e (by simp [he])] at hmem
    obtain ⟨e, he, hname⟩ := List.mem_map.1 hmem
    obtain ⟨he, heparameter⟩ := List.mem_filter.1 he
    exact hlast e he heparameter hname
  data := by
    rw [hdata, hproperties, Merged.objectPayload, Merged.ofDeclarations, List.isEmpty_map]
    simp [Value.object, Value.texts]

theorem requireNames_maps {ds : List Entries} :
    requireNames (ds.map .map)
      = if ds.all (Entries.has · "name") then .ok ()
        else fail .missingParameterName "no name section in link data." := by
  induction ds with
  | nil => rfl
  | cons d rest ih =>
      rw [List.map_cons, requireNames, isNamed, Outcome.ok_bind, ih, List.all_cons]
      cases Entries.has d "name" with
      | true => rfl
      | false => rfl

/-- The declarations that an operation lists are all named, or it is refused. -/
theorem declarations_maps {op : Entries} {ds : List Entries}
    (hget : Entries.get op "parameters" = .list (ds.map .map)) :
    declarations (.map op) = requireNames (ds.map .map) >>= fun _ => .ok (ds.map .map) := by
  simp only [declarations, hget]
  cases ds with
  | nil => rfl
  | cons d rest => rfl

/-- A declaration without a name is refused. -/
theorem requestShape_of_nameless {op : Entries} {ds : List Entries}
    (hget : Entries.get op "parameters" = .list (ds.map .map))
    (h : ∃ d ∈ ds, Entries.has d "name" = false) :
    requestShape (.map op) = fail .missingParameterName "no name section in link data." := by
  obtain ⟨d, hd, hunnamed⟩ := h
  have hnot : ds.all (Entries.has · "name") = false := by
    rw [List.all_eq_false]
    exact ⟨d, hd, by simp [hunnamed]⟩
  rw [requestShape, declarations_maps hget, requireNames_maps, hnot]
  rfl

theorem declarations_of_named {op : Entries} {ds : List Entries}
    (hget : Entries.get op "parameters" = .list (ds.map .map))
    (hnamed : ∀ d ∈ ds, Entries.has d "name" = true) :
    declarations (.map op) = .ok (ds.map .map) := by
  rw [declarations_maps hget, requireNames_maps, List.all_eq_true.2 hnamed]
  rfl

theorem get_name {d : Entries} (hnamed : Entries.has d "name" = true)
    (htext : ∀ v, Entries.find? d "name" = some v → ∃ name, v = .text name) :
    Entries.get d "name" = .text (nameOf d) := by
  rw [Entries.has_eq_isSome] at hnamed
  obtain ⟨v, hv⟩ := Option.isSome_iff_exists.1 hnamed
  obtain ⟨name, rfl⟩ := htext v hv
  have hget : Entries.get d "name" = .text name := by rw [Entries.get, hv, Option.getD_some]
  rw [nameOf, hget]

theorem isEmpty_eraseDups {α : Type} [BEq α] (l : List α) : l.eraseDups.isEmpty = l.isEmpty := by
  cases l with
  | nil => rfl
  | cons a rest => rw [List.eraseDups_cons]; rfl

/-- Declarations that can all be translated amount to a body, unless there are parameters beside it, or
to an object schema. -/
theorem requestShape_of_translatable {op : Entries} {ds : List Entries}
    (hdeclared : declarations (.map op) = .ok (ds.map .map))
    (hnames : ∀ d ∈ ds, Entries.get d "name" = .text (nameOf d)) (hds : ∀ d ∈ ds, IsTranslatable d) :
    requestShape (.map op)
      = match ds.reverse.find? isBody with
        | some d =>
          if ds.any isParameter then
            fail .incompatibleLocations "can't mix body parameter with form parameters."
          else .ok (.body (Entries.get d "schema"))
        | none => .parameters <$> (Merged.ofDeclarations ds).objectSchema := by
  have hempty : (Merged.ofDeclarations ds).properties.isEmpty = !ds.any isParameter := by
    have hkeys : (Ordered.ofList (parameterRows ds)).isEmpty
        = ((ds.filter isParameter).map nameOf).eraseDups.isEmpty := by
      rw [← keys_parameterRows hds, ← keys_ofList, Ordered.keys, List.isEmpty_map]
    rw [Merged.ofDeclarations, List.isEmpty_map, hkeys, isEmpty_eraseDups, List.isEmpty_map,
      Bool.eq_iff_iff]
    simp [List.filter_eq_nil_iff]
  rw [requestShape, hdeclared, Outcome.ok_bind, Merged.foldlM_eq_ok hnames hds, Outcome.ok_bind, hempty]
  simp only [Merged.ofDeclarations]
  cases ds.reverse.find? isBody with
  | none => rfl
  | some d =>
      cases ds.any isParameter with
      | true => rfl
      | false => rfl

/-- **The cases of a list of declarations.** A declaration without a name is refused before anything
else. Then the first parameter that cannot be translated is, with its own error, and then a body beside
parameters. What remains is the schema of the last body declaration, or an object schema of the
parameters. -/
theorem requestShape_cases {op : Entries} {ds : List Entries}
    (hget : Entries.get op "parameters" = .list (ds.map .map))
    (htexts : ∀ d ∈ ds, ∀ v, Entries.find? d "name" = some v → ∃ name, v = .text name) :
    ((∃ d ∈ ds, Entries.has d "name" = false) →
        requestShape (.map op) = fail .missingParameterName "no name section in link data.") ∧
      ((∀ d ∈ ds, Entries.has d "name" = true) →
        (∀ before d after e, ds = before ++ d :: after → (∀ b ∈ before, IsTranslatable b) →
          isParameter d = true → schemaOf d = .error e → requestShape (.map op) = .error e) ∧
        ((∀ d ∈ ds, IsTranslatable d) →
          ((∃ d ∈ ds, isBody d = true) → (∃ d ∈ ds, isParameter d = true) →
            requestShape (.map op)
              = fail .incompatibleLocations "can't mix body parameter with form parameters.") ∧
          (∀ before d after, ds = before ++ d :: after → isBody d = true →
            (∀ b ∈ after, isBody b = false) → (∀ b ∈ ds, isParameter b = false) →
              requestShape (.map op) = .ok (.body (Entries.get d "schema"))) ∧
          ((∀ d ∈ ds, isBody d = false) →
            ∃ s, requestShape (.map op) = .ok (.parameters s) ∧ IsObjectOf ds s))) := by
  constructor
  · exact requestShape_of_nameless hget
  · intro hnamed
    have hdeclared := declarations_of_named hget hnamed
    have hnames : ∀ d ∈ ds, Entries.get d "name" = .text (nameOf d) :=
      fun d hd => get_name (hnamed d hd) (htexts d hd)
    constructor
    · rintro before d after e rfl hbefore hparameter he
      rw [requestShape, hdeclared, Outcome.ok_bind, Merged.foldlM_eq_error
        (fun b hb => hnames b (List.mem_append_left _ hb)) hbefore hparameter he]
      rfl
    · intro hds
      rw [requestShape_of_translatable hdeclared hnames hds]
      refine ⟨?_, ?_, ?_⟩
      · rintro ⟨b, hb, hbody⟩ ⟨d, hd, hparameter⟩
        have hsome : (ds.reverse.find? isBody).isSome = true :=
          List.find?_isSome.2 ⟨b, List.mem_reverse.2 hb, hbody⟩
        obtain ⟨last, hlast⟩ := Option.isSome_iff_exists.1 hsome
        rw [hlast, List.any_eq_true.2 ⟨d, hd, hparameter⟩]
        rfl
      · rintro before d after rfl hbody hlast hparameters
        have hafter : after.reverse.find? isBody = none := by
          rw [List.find?_eq_none]
          intro b hb
          simp [hlast b (List.mem_reverse.1 hb)]
        have hfind : (before ++ d :: after).reverse.find? isBody = some d := by
          rw [List.reverse_append, List.reverse_cons, List.append_assoc, List.find?_append, hafter,
            Option.none_or, List.singleton_append, List.find?_cons_of_pos hbody]
        have hnone : (before ++ d :: after).any isParameter = false :=
          List.any_eq_false.2 fun b hb => by simp [hparameters b hb]
        rw [hfind, hnone]
        rfl
      · intro hbodies
        have hnone : ds.reverse.find? isBody = none := by
          rw [List.find?_eq_none]
          intro d hd
          simp [hbodies d (List.mem_reverse.1 hd)]
        obtain ⟨s, hs, hdata, hproperties⟩ := exists_objectSchema ds
        rw [hnone, hs]
        exact ⟨s, rfl, isObjectOf hds hdata hproperties⟩

/-- Declarations of two parameters, one of which is declared twice. -/
def limitDeclarations : List Entries := [
  [(.text "name", .text "limit"), (.text "type", .text "integer"), (.text "required", .bool true)],
  [(.text "name", .text "sort"), (.text "in", .text "path"), (.text "enum", .texts ["up", "down"])],
  [(.text "name", .text "limit"), (.text "in", .text "formData"), (.text "type", .text "string")]]

def limitOperation : Entries :=
  [(.text "parameters", .list (limitDeclarations.map .map))]

theorem requestShape_limit :
    Entries.get limitOperation "parameters" = .list (limitDeclarations.map .map) ∧
      (∀ d ∈ limitDeclarations, ∀ v, Entries.find? d "name" = some v → ∃ name, v = .text name) ∧
      ∃ s, requestShape (.map limitOperation) = .ok (.parameters s) ∧
        Ordered.keys s.properties = ["limit", "sort"] ∧ requiredNames limitDeclarations = ["limit"] ∧
        ∃ p, Ordered.find? s.properties "limit" = some p ∧
          p.data = [(.text "type", .list [.text "string"])] := by
  have hget : Entries.get limitOperation "parameters" = .list (limitDeclarations.map .map) := rfl
  have htexts : ∀ d ∈ limitDeclarations, ∀ v, Entries.find? d "name" = some v →
      ∃ name, v = .text name := by
    have hnames : ∀ d ∈ limitDeclarations, Entries.find? d "name" = some (.text (nameOf d)) := by
      decide +kernel
    intro d hd v hv
    rw [hnames d hd] at hv
    exact ⟨_, (Option.some.inj hv).symm⟩
  have hds : ∀ d ∈ limitDeclarations, IsTranslatable d := by
    have hread : ∀ d ∈ limitDeclarations, (schemaOf d).toBool = true := by decide +kernel
    exact fun d hd _ => Outcome.exists_of_toBool (hread d hd)
  obtain ⟨-, hnamed⟩ := requestShape_cases hget htexts
  obtain ⟨-, -, hobject⟩ := (hnamed (by decide +kernel)).2 hds
  obtain ⟨s, hs, hobject⟩ := hobject (by decide +kernel)
  obtain ⟨p, hp, hfound, -⟩ := hobject.bound (limitDeclarations.take 2) (limitDeclarations[2]) [] rfl
    (by decide +kernel) (by simp)
  have hdata : payload limitDeclarations[2] = .ok [(.text "type", .list [.text "string"])] := rfl
  refine ⟨hget, htexts, s, hs, ?_, by decide +kernel, p, hfound, ?_⟩
  · rw [hobject.names]
    decide +kernel
  · exact Except.ok.inj ((schemaOf_eq_ok hp).symm.trans hdata)

end Parameter

end ApiRouter
