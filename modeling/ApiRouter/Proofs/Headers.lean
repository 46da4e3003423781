import ApiRouter.Proofs.Conversion
import ApiRouter.RequestCheck

set_option autoImplicit false

/-! # Headers of a request

Names of headers are compared without regard to capitals. Of the headers that a request gives, those
that the schema declares are checked, under their declared names, whatever the options say about
coercion. The others leave no trace, and neither do the capitals in which a name is given. -/

namespace ApiRouter.Validator

open Coercion

variable {given others : List (String × String)} {name value : String} {schema : Schema}
  {request : Request} {headers : List (String × Value)}

/-! ## What a request gives -/

/-- The names are the same in small letters. -/
def SameName (a b : String) : Prop := Text.lower a = Text.lower b

instance : DecidableRel SameName := fun a b =>
  inferInstanceAs (Decidable (Text.lower a = Text.lower b))

/-- A header of the name is given. -/
def HasHeader (given : List (String × String)) (name : String) : Prop :=
  ∃ h ∈ given, SameName h.1 name

instance : DecidableRel HasHeader := fun given name =>
  inferInstanceAs (Decidable (∃ h ∈ given, SameName h.1 name))

/-- The value of the last header of the name. -/
def lastValue? (given : List (String × String)) (name : String) : Option String :=
  ((given.filter fun h => SameName h.1 name).map Prod.snd).getLast?

theorem hasHeader_iff : HasHeader given name ↔ ∃ value, lastValue? given name = some value := by
  rw [← Option.isSome_iff_exists, lastValue?, List.getLast?_isSome]
  simp [HasHeader]

theorem find?_providedHeaders (request : Request) (name : String) :
    Ordered.find? (providedHeaders request) (Text.lower name)
      = lastValue? request.headers name := by
  rw [providedHeaders, Ordered.find?_ofList_eq_getLast?, List.filter_map, List.map_map]
  rfl

/-- Headers of other names do not count. -/
theorem lastValue?_filter {q : String × String → Bool}
    (hq : ∀ h : String × String, SameName h.1 name → q h = true) :
    lastValue? (given.filter q) name = lastValue? given name := by
  rw [lastValue?, List.filter_filter, lastValue?]
  congr 2
  refine List.filter_congr fun h _ => ?_
  by_cases hname : SameName h.1 name
  · simp [hname, hq h hname]
  · simp [hname]

/-! ## What is collected -/

/-- `Collected given schema headers`: of the headers given, those that the schema declares are
collected under their declared names and in their order, each with what its property makes of the
last value given. -/
structure Collected (given : List (String × String)) (schema : Schema)
    (headers : List (String × Value)) : Prop where
  keys : Ordered.keys headers =
    (Ordered.keys schema.properties).filter fun name => HasHeader given name
  values : ∀ e ∈ headers, ∃ value, lastValue? given e.1 = some value ∧
    EntryBecomes schema (.text e.1, .text value) (.text e.1, e.2)

/-- A declared header is given with a value that its property cannot convert. -/
def GivesOverlong (given : List (String × String)) (schema : Schema) : Prop :=
  ∃ name ∈ Ordered.keys schema.properties, ∃ value, lastValue? given name = some value ∧
    EntryOverlong schema (.text name, .text value)

/-- The entry for a declared header, if it is given. -/
def entryOf? (given : List (String × String)) (name : String) : Option (String × Value) :=
  (lastValue? given name).map fun value => (name, .text value)

theorem declaredHeaders_eq (request : Request) (schema : Schema) :
    declaredHeaders request schema
      = schema.properties.filterMap fun p => entryOf? request.headers p.1 := by
  unfold declaredHeaders entryOf?
  simp only [find?_providedHeaders]

theorem collectHeaders_eq_ok : collectHeaders request schema = .ok headers ↔
    List.Forall₂ (fun p e => p.1 = e.1 ∧ ∃ value, lastValue? request.headers e.1 = some value ∧
        EntryBecomes schema (.text e.1, .text value) (.text e.1, e.2))
      (schema.properties.filter fun p => HasHeader request.headers p.1) headers := by
  have hgiven (p : String × Schema) :
      HasHeader request.headers p.1 ↔ ∃ e, entryOf? request.headers p.1 = some e := by
    simp [hasHeader_iff, entryOf?]
  rw [collectHeaders, declaredHeaders_eq, coerceParams, Outcome.mapM_filterMap_eq_ok hgiven]
  refine iff_of_eq (congrArg (List.Forall₂ · _ _) ?_)
  funext p e
  obtain ⟨name, made⟩ := e
  simp only [entryOf?, Option.map_eq_some_iff, exists_exists_and_eq_and, Outcome.bind_eq_ok,
    coerceEntry_eq_ok, Except.ok.injEq, Prod.mk.injEq, eq_iff_iff]
  constructor
  · rintro ⟨value, hvalue, w, hw, rfl, rfl⟩
    exact ⟨rfl, value, hvalue, hw⟩
  · rintro ⟨rfl, value, hvalue, hw⟩
    exact ⟨value, hvalue, made, hw, rfl, rfl⟩

theorem collected_of_collectHeaders (h : collectHeaders request schema = .ok headers) :
    Collected request.headers schema headers := by
  rw [collectHeaders_eq_ok] at h
  constructor
  · have hkeys := Ordered.keys_eq_of_forall₂ (R := fun _ _ => True)
      (h.imp fun _ _ hpe => ⟨hpe.1, trivial⟩)
    rw [← hkeys, Ordered.keys, Ordered.keys, List.filter_map]
    rfl
  · intro e he
    obtain ⟨p, -, -, hvalue⟩ := exists_of_forall₂ h.flip he
    exact hvalue

theorem collectHeaders_eq_error {failure : Failure} :
    collectHeaders request schema = .error failure ↔
      GivesOverlong request.headers schema ∧ failure = .defect .badValue := by
  have hentry (e : String × Value) (failure : Failure) :
      (coerceEntry schema e.1 e.2 >>= fun w => .ok (e.1, w)) = .error failure ↔
        EntryOverlong schema (.text e.1, e.2) ∧ failure = .defect .badValue := by
    rw [Outcome.bind_eq_error, coerceEntry_eq_error]
    simp
  rw [collectHeaders, declaredHeaders_eq, coerceParams, Outcome.mapM_eq_error hentry]
  refine and_congr_left fun _ => ?_
  simp only [GivesOverlong, List.mem_filterMap, entryOf?, Option.map_eq_some_iff, Ordered.keys,
    List.mem_map]
  constructor
  · rintro ⟨_, ⟨p, hp, value, hvalue, rfl⟩, hlong⟩
    exact ⟨p.1, ⟨p, hp, rfl⟩, value, hvalue, hlong⟩
  · rintro ⟨_, ⟨p, hp, rfl⟩, value, hvalue, hlong⟩
    exact ⟨_, ⟨p, hp, value, hvalue, rfl⟩, hlong⟩

/-- The declared headers are collected, unless one of them has a value that cannot be converted. -/
theorem collectHeaders_cases (request : Request) (schema : Schema) :
    (∃ headers, collectHeaders request schema = .ok headers ∧
        Collected request.headers schema headers ∧ ¬ GivesOverlong request.headers schema) ∨
      collectHeaders request schema = defect .badValue ∧ GivesOverlong request.headers schema := by
  cases hcollect : collectHeaders request schema with
  | ok headers =>
      refine .inl ⟨headers, rfl, collected_of_collectHeaders hcollect, fun hlong => ?_⟩
      have hfails : collectHeaders request schema = .error (.defect .badValue) :=
        collectHeaders_eq_error.2 ⟨hlong, rfl⟩
      cases hcollect.symm.trans hfails
  | error failure =>
      obtain ⟨hlong, rfl⟩ := collectHeaders_eq_error.1 hcollect
      exact .inr ⟨rfl, hlong⟩

/-! ## What leaves no trace -/

/-- The schema declares a header of the name. -/
def IsDeclared (schema : Schema) (name : String) : Prop :=
  ∃ declared ∈ Ordered.keys schema.properties, SameName name declared

instance : DecidableRel IsDeclared := fun schema name =>
  inferInstanceAs (Decidable (∃ declared ∈ Ordered.keys schema.properties, SameName name declared))

/-- What is collected depends on the values of the declared names alone. -/
theorem collectHeaders_congr
    (h : ∀ name ∈ Ordered.keys schema.properties,
      lastValue? given name = lastValue? request.headers name) :
    collectHeaders { request with headers := given } schema = collectHeaders request schema := by
  rw [collectHeaders, collectHeaders, declaredHeaders_eq, declaredHeaders_eq]
  have hentries : (schema.properties.filterMap fun p => entryOf? given p.1)
      = schema.properties.filterMap fun p => entryOf? request.headers p.1 := by
    refine List.filterMap_congr fun p hp => ?_
    rw [entryOf?, entryOf?, h p.1 (List.mem_map_of_mem hp)]
  exact congrArg (coerceParams · schema) hentries

theorem collectHeaders_of_filter_eq
    (h : (given.filter fun h => IsDeclared schema h.1)
      = request.headers.filter fun h => IsDeclared schema h.1) :
    collectHeaders { request with headers := given } schema = collectHeaders request schema := by
  refine collectHeaders_congr fun name hname => ?_
  -- whatever bears on the value of a declared name passes the filter
  have hdeclared (h : String × String) (hsame : SameName h.1 name) :
      decide (IsDeclared schema h.1) = true :=
    decide_eq_true ⟨name, hname, hsame⟩
  rw [← lastValue?_filter hdeclared, h, lastValue?_filter hdeclared]

/-- The headers are the same but for the capitals of their names. -/
def Recased (given others : List (String × String)) : Prop :=
  List.Forall₂ (fun h h' => SameName h.1 h'.1 ∧ h.2 = h'.2) given others

theorem lastValue?_of_recased (h : Recased given others) (name : String) :
    lastValue? given name = lastValue? others name := by
  rw [lastValue?, lastValue?]
  congr 1
  induction h with
  | nil => rfl
  | @cons e e' rest rest' he _ ih =>
      -- the first header of both counts for the name, or that of neither does
      have hname : SameName e.1 name ↔ SameName e'.1 name := by rw [SameName, he.1, ← SameName]
      by_cases hsame : SameName e'.1 name
      · simp [hname, hsame, he.2, ih]
      · simp [hname, hsame, ih]

/-- The outcome depends on the headers only by those that are collected. -/
theorem checkRequest_congr {v : Validator}
    (h : ∀ f schema, v.found = some f → f.link.headerSchema = some schema →
      collectHeaders { request with headers := given } schema = collectHeaders request schema) :
    v.checkRequest { request with headers := given } = v.checkRequest request := by
  unfold checkRequest
  cases hfound : v.found with
  | none => rfl
  | some f =>
      have hheaders : v.checkHeaders f.link { request with headers := given }
          = v.checkHeaders f.link request := by
        unfold checkHeaders
        cases hschema : f.link.headerSchema with
        | none => rfl
        | some schema => simp only [h f schema hfound hschema]
      dsimp only
      rw [hheaders]
      rfl

/-! ## The check -/

/-- **Headers are taken by name, in any capitals.** What is checked against the schema for headers
    is collected from the headers that it declares, and the check breaks off before only where one
    of their values cannot be converted. Other headers, and the capitals in which names are given,
    are without influence on the outcome. -/
theorem checkRequest_by_headers (v : Validator) (request : Request) :
    (∀ link schema, link.headerSchema = some schema →
      (∃ headers, Collected request.headers schema headers ∧
          ¬ GivesOverlong request.headers schema ∧
          v.checkHeaders link request = Schema.require .invalidRequest "Invalid request headers"
            (.map schema.data) v.definitions (.object headers)) ∨
        GivesOverlong request.headers schema ∧ v.checkHeaders link request = defect .badValue) ∧
      (∀ router given,
        forRequest router { request with headers := given } = forRequest router request) ∧
      (∀ given, (∀ f schema, v.found = some f → f.link.headerSchema = some schema →
          (given.filter fun h => IsDeclared schema h.1)
            = request.headers.filter fun h => IsDeclared schema h.1) →
        v.checkRequest { request with headers := given } = v.checkRequest request) ∧
      ∀ given, Recased given request.headers →
        v.checkRequest { request with headers := given } = v.checkRequest request := by
  refine ⟨fun link schema hschema => ?_, fun router given => rfl, fun given h => ?_,
    fun given h => ?_⟩
  · unfold checkHeaders
    rcases collectHeaders_cases request schema with
      ⟨headers, hcollect, hcollected, hnot⟩ | ⟨hcollect, hlong⟩
    · exact .inl ⟨headers, hcollected, hnot, by simp only [hschema, hcollect, Outcome.ok_bind]⟩
    · exact .inr ⟨hlong, by rw [hschema]; exact congrArg (· >>= _) hcollect⟩
  · exact checkRequest_congr fun f schema hf hschema =>
      collectHeaders_of_filter_eq (h f schema hf hschema)
  · exact checkRequest_congr fun f schema _ _ =>
      collectHeaders_congr fun name _ => lastValue?_of_recased h name

/-- A request that gives one header twice, in different capitals, and another one. -/
def countedRequest : Request :=
  ⟨"GET", "/pets", "", [], [], [("X-Count", "5"), ("Other", "z"), ("x-count", "7")], .null, none⟩

/-- A link with nothing to check but headers. -/
def headerLink (schema : Schema) : Link where
  method := "GET"
  href := "/pets"
  encType := .null
  mediaType := .null
  successStatus := none
  shape := .body .null
  bodyRequired := false
  headerSchema := some schema
  targetSchema := none

/-- A validator for a link with this schema for headers. -/
def headerValidator (schema : Schema) : Validator :=
  ⟨⟨⟨.map [], "", .standard, []⟩, none, .standard⟩, some ⟨headerLink schema, []⟩⟩

/-- The count is the last one given; capitals do not matter, and neither does the other header. -/
theorem checkRequest_counted :
    ∃ schema, Schema.ofEntries [(.text "properties", .object [
        ("X-COUNT", .object [("type", .text "integer")]),
        ("X-Tag", .object [("type", .text "string")])])] = .ok schema ∧
      (headerValidator schema).checkHeaders (headerLink schema) countedRequest
        = Schema.require .invalidRequest "Invalid request headers" (.map schema.data) (.map [])
          (.object [("X-COUNT", .int 7)]) ∧
      (headerValidator schema).checkRequest
          { countedRequest with headers := [("X-Count", "5"), ("x-count", "7")] }
        = (headerValidator schema).checkRequest countedRequest ∧
      (headerValidator schema).checkRequest
          { countedRequest with headers := [("x-COUNT", "5"), ("OTHER", "z"), ("X-count", "7")] }
        = (headerValidator schema).checkRequest countedRequest := by
  have hread : (Schema.ofEntries [(.text "properties", .object [
      ("X-COUNT", .object [("type", .text "integer")]),
      ("X-Tag", .object [("type", .text "string")])])]).toOption.map
        (fun schema => (Ordered.keys schema.properties,
          (coerceEntry schema "X-COUNT" (.text "7")).toOption)) =
      some (["X-COUNT", "X-Tag"], some (.int 7)) := by
    decide +kernel
  obtain ⟨schema, hschema, hparts⟩ := Outcome.exists_of_toOption_map hread
  obtain ⟨hnames, hmade⟩ := Prod.mk.inj hparts
  have hcount : coerceEntry schema "X-COUNT" (.text "7") = .ok (.int 7) := by
    cases hentry : coerceEntry schema "X-COUNT" (.text "7") with
    | error failure => simp [hentry, Except.toOption] at hmade
    | ok w => simpa [hentry, Except.toOption] using hmade
  have hcounted : lastValue? countedRequest.headers "X-COUNT" = some "7" := by decide +kernel
  obtain ⟨hcheck, -, hother, hrecased⟩ :=
    checkRequest_by_headers (headerValidator schema) countedRequest
  refine ⟨schema, hschema, ?_, hother _ ?_, hrecased _ ?_⟩
  · rcases hcheck (headerLink schema) schema rfl with
      ⟨headers, hcollected, -, hrequire⟩ | ⟨⟨name, hname, value, hvalue, hlong⟩, -⟩
    · have hgiven : (["X-COUNT", "X-Tag"].filter fun name =>
          HasHeader countedRequest.headers name) = ["X-COUNT"] := by
        decide +kernel
      have hkeys := hcollected.keys
      rw [hnames, hgiven] at hkeys
      obtain ⟨⟨_, made⟩, rfl, rfl⟩ := List.map_eq_singleton_iff.1 hkeys
      obtain ⟨value, hvalue, hbecomes⟩ := hcollected.values _ (List.mem_singleton_self _)
      cases hcounted.symm.trans hvalue
      cases hcount.symm.trans (coerceEntry_eq_ok.2 hbecomes)
      exact hrequire
    · have hfails : coerceEntry schema name (.text value) = .error (.defect .badValue) :=
        coerceEntry_eq_error.2 ⟨hlong, rfl⟩
      rw [hnames] at hname
      rcases List.mem_pair.1 hname with rfl | rfl
      · cases hcounted.symm.trans hvalue
        cases hcount.symm.trans hfails
      · have hnone : lastValue? countedRequest.headers "X-Tag" = none := by decide +kernel
        cases hnone.symm.trans hvalue
  · rintro f schema' ⟨⟩ ⟨⟩
    have hdeclared (name : String) :
        decide (IsDeclared schema name) = decide (∃ n ∈ ["X-COUNT", "X-Tag"], SameName name n) := by
      rw [decide_eq_decide, IsDeclared, hnames]
    simp only [hdeclared]
    decide +kernel
  · exact .cons ⟨by decide +kernel, rfl⟩ (.cons ⟨by decide +kernel, rfl⟩
      (.cons ⟨by decide +kernel, rfl⟩ .nil))

end ApiRouter.Validator
