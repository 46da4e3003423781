import ApiRouter.Proofs.Ordered
import ApiRouter.Proofs.Outcome
import ApiRouter.Proofs.Rows
import ApiRouter.RequestCheck

set_option autoImplicit false

/-! # The parameters that a request carries

Parameters come from three sources. What is collected under a name is the value of the last source
that has the name, coerced when that source is to be coerced. The names stand in the order in which
the sources bring them up, and what is overridden counts for nothing. -/

namespace ApiRouter

namespace Validator

/-- Where parameters come from, in the order in which they are collected. -/
inductive Source where
  | query
  | form
  | path
  deriving DecidableEq, Repr

namespace Source

/-- The location of the declarations that a source is for. -/
def location : Source → Location
  | .query => .query
  | .form => .form
  | .path => .path

/-- The later sources, whose values override those of a source. -/
def overriding : Source → List Source
  | .query => [.form, .path]
  | .form => [.path]
  | .path => []

/-- The values of a source. -/
def values (v : Validator) (request : Request) : Source → List (String × Value)
  | .query => request.query
  | .form => request.form
  | .path => v.captures.map fun c => (c.1, .text c.2)

/-- Whether the values of a source are coerced. -/
def coerces (v : Validator) : Source → Bool
  | .query => v.router.options.coerceQuery.getD v.router.api.defaults.coerceQuery
  | .form => v.router.options.coerceForm.getD v.router.api.defaults.coerceForm
  | .path => v.router.options.coercePath.getD v.router.api.defaults.coercePath

/-- The value that a source holds under a name. -/
def value? (source : Source) (v : Validator) (request : Request) (name : String) : Option Value :=
  Ordered.find? (Ordered.ofList (source.values v request)) name

/-- A source holds a value that no later source overrides. -/
def Prevails (source : Source) (v : Validator) (request : Request) (name : String) (x : Value) :
    Prop :=
  source.value? v request name = some x ∧
    ∀ s ∈ source.overriding, s.value? v request name = none

/-- A value after the coercion that is configured for the source. -/
def coerced (source : Source) (v : Validator) (schema : Schema) (name : String) (x : Value) :
    Except Failure Value :=
  if source.coerces v then Coercion.coerceEntry schema name x else .ok x

/-- What a source contributes. -/
def contributes (source : Source) (v : Validator) (request : Request) (schema : Schema) :
    Except Failure (List (String × Value)) :=
  (source.values v request).mapM fun e => do
    .ok (e.1, ← source.coerced v schema e.1 e.2)

end Source

variable {v : Validator} {request : Request} {schema : Schema}

/-! ## One source -/

theorem mapM_ok_self {α ε : Type} (xs : List α) :
    xs.mapM (fun x => (.ok x : Except ε α)) = .ok xs :=
  Outcome.mapM_eq_ok.2 (List.forall₂_same.2 fun _ _ => rfl)

theorem Source.contributes_eq (source : Source) :
    source.contributes v request schema =
      if source.coerces v then Coercion.coerceParams (source.values v request) schema
      else .ok (source.values v request) := by
  unfold Source.contributes Source.coerced
  cases source.coerces v with
  | true => rfl
  | false => exact mapM_ok_self _

theorem sourceValues_eq (source : Source) (option : Option Bool) (default : Bool)
    (h : option.getD default = source.coerces v) :
    sourceValues (source.values v request) option default schema
      = source.contributes v request schema := by
  rw [sourceValues, h, Source.contributes_eq]

/-- A source contributes its names, each with its value after coercion. -/
theorem forall₂_contributes {source : Source} {collected : List (String × Value)}
    (h : source.contributes v request schema = .ok collected) :
    List.Forall₂ (fun e w => w.1 = e.1 ∧ source.coerced v schema e.1 e.2 = .ok w.2)
      (source.values v request) collected := by
  refine (Outcome.mapM_eq_ok.1 h).imp fun e w hw => ?_
  obtain ⟨y, hy, hw⟩ := Outcome.bind_eq_ok.1 hw
  cases hw
  exact ⟨rfl, hy⟩

/-- What a source contributes under a name is its value there, coerced. -/
theorem find?_contributes {source : Source} {collected : List (String × Value)}
    (h : source.contributes v request schema = .ok collected) (name : String) :
    (source.value? v request name = none → Ordered.find? collected.reverse name = none) ∧
      ∀ x, source.value? v request name = some x →
        ∃ y, source.coerced v schema name x = .ok y ∧
          Ordered.find? collected.reverse name = some y := by
  have hrigid := Ordered.rigid_of_lawful name
  have hrows := forall₂_contributes h
  rw [Source.value?, Ordered.find?_ofList hrigid]
  -- the last entry of a name counts, so both rows are read from their ends
  generalize hes : (source.values v request).reverse = es
  generalize hws : collected.reverse = ws
  have hrows' := List.rel_reverse hrows
  rw [hes, hws] at hrows'
  clear hes hws hrows h
  induction hrows' with
  | nil => simp [Ordered.find?]
  | @cons e w es ws hew _ ih =>
      obtain ⟨hkey, hvalue⟩ := hew
      simp only [Ordered.find?, hkey]
      split
      · next hname =>
          have hname : e.1 = name := by simpa using hname
          rw [hname] at hvalue
          refine ⟨fun hnone => ?_, fun x hx => ?_⟩
          · cases hnone
          · cases hx
            exact ⟨w.2, hvalue, rfl⟩
      · exact ih

/-! ## All sources -/

theorem collectParams_eq_ok {params : List (String × Value)}
    (h : collectParams v.router.options v.router.api.defaults v.captures request schema
      = .ok params) :
    ∃ query form path, Source.query.contributes v request schema = .ok query ∧
      Source.form.contributes v request schema = .ok form ∧
      Source.path.contributes v request schema = .ok path ∧
      params = Ordered.update (Ordered.update (Ordered.ofList query) form) path := by
  obtain ⟨query, hquery, h⟩ := Outcome.bind_eq_ok.1 h
  obtain ⟨form, hform, h⟩ := Outcome.bind_eq_ok.1 h
  obtain ⟨path, hpath, h⟩ := Outcome.bind_eq_ok.1 h
  cases h
  exact ⟨query, form, path, (sourceValues_eq .query _ _ rfl).symm.trans hquery,
    (sourceValues_eq .form _ _ rfl).symm.trans hform,
    (sourceValues_eq .path _ _ rfl).symm.trans hpath, rfl⟩

/-- The value of a source that no later one overrides is collected, coerced. -/
theorem find?_collectParams {params : List (String × Value)} {source : Source} {name : String}
    {x : Value}
    (h : collectParams v.router.options v.router.api.defaults v.captures request schema
      = .ok params)
    (hx : source.Prevails v request name x) :
    ∃ y, source.coerced v schema name x = .ok y ∧ Ordered.find? params name = some y := by
  have hrigid := Ordered.rigid_of_lawful name
  obtain ⟨query, form, path, hquery, hform, hpath, rfl⟩ := collectParams_eq_ok h
  rw [Ordered.find?_update hrigid, Ordered.find?_update hrigid, Ordered.find?_ofList hrigid]
  cases source with
  | query =>
      obtain ⟨y, hy, hfound⟩ := (find?_contributes hquery name).2 x hx.1
      have hnoform := (find?_contributes hform name).1 (hx.2 .form (by decide))
      have hnopath := (find?_contributes hpath name).1 (hx.2 .path (by decide))
      exact ⟨y, hy, by rw [hnopath, hnoform, hfound]; rfl⟩
  | form =>
      obtain ⟨y, hy, hfound⟩ := (find?_contributes hform name).2 x hx.1
      have hnopath := (find?_contributes hpath name).1 (hx.2 .path (by decide))
      exact ⟨y, hy, by rw [hnopath, hfound]; rfl⟩
  | path =>
      obtain ⟨y, hy, hfound⟩ := (find?_contributes hpath name).2 x hx.1
      exact ⟨y, hy, by rw [hfound]; rfl⟩

/-! ## Merging -/

/-- Whatever source is to be coerced can be coerced. -/
def IsCoercible (v : Validator) (request : Request) (schema : Schema) : Prop :=
  ∀ source : Source, source.coerces v = true →
    ∃ coerced, Coercion.coerceParams (source.values v request) schema = .ok coerced

theorem IsCoercible.exists_contributes (h : v.IsCoercible request schema) (source : Source) :
    ∃ collected, source.contributes v request schema = .ok collected := by
  rw [Source.contributes_eq]
  split
  · next hcoerces => exact h source hcoerces
  · exact ⟨_, rfl⟩

theorem keys_contributes {source : Source} {collected : List (String × Value)}
    (h : source.contributes v request schema = .ok collected) :
    Ordered.keys collected = Ordered.keys (source.values v request) :=
  (Ordered.keys_eq_of_forall₂ (R := fun x y => ∃ name, source.coerced v schema name x = .ok y)
    ((forall₂_contributes h).imp fun e _ hew => ⟨hew.1.symm, e.1, hew.2⟩)).symm

/-- The names that the sources bring up, in this order. -/
def namesOf (v : Validator) (request : Request) : List String :=
  (Ordered.keys request.query ++ Ordered.keys request.form ++ Ordered.keys v.captures).eraseDups

theorem keys_captures (v : Validator) (request : Request) :
    Ordered.keys (Source.path.values v request) = Ordered.keys v.captures := by
  simp [Source.values, Ordered.keys]

theorem keys_collectParams {params : List (String × Value)}
    (h : collectParams v.router.options v.router.api.defaults v.captures request schema
      = .ok params) : Ordered.keys params = v.namesOf request := by
  obtain ⟨query, form, path, hquery, hform, hpath, rfl⟩ := collectParams_eq_ok h
  have hnames : Ordered.keys (query ++ form ++ path)
      = Ordered.keys query ++ Ordered.keys form ++ Ordered.keys path := by
    simp [Ordered.keys]
  rw [Ordered.update_ofList, Ordered.update_ofList, keys_ofList, hnames, keys_contributes hquery,
    keys_contributes hform, keys_contributes hpath, keys_captures]
  rfl

theorem exists_collectParams (h : v.IsCoercible request schema) :
    ∃ params, collectParams v.router.options v.router.api.defaults v.captures request schema
      = .ok params := by
  obtain ⟨query, hquery⟩ := h.exists_contributes .query
  obtain ⟨form, hform⟩ := h.exists_contributes .form
  obtain ⟨path, hpath⟩ := h.exists_contributes .path
  exact ⟨_, Outcome.bind_eq_ok.2 ⟨query, (sourceValues_eq .query _ _ rfl).trans hquery,
    Outcome.bind_eq_ok.2 ⟨form, (sourceValues_eq .form _ _ rfl).trans hform,
      Outcome.bind_eq_ok.2 ⟨path, (sourceValues_eq .path _ _ rfl).trans hpath, rfl⟩⟩⟩⟩

theorem Source.value?_eq_none_iff {source : Source} {name : String} :
    source.value? v request name = none ↔ name ∉ Ordered.keys (source.values v request) := by
  rw [Source.value?, Ordered.find?_eq_none_iff, keys_ofList, List.mem_eraseDups]

theorem mem_namesOf {name : String} :
    name ∈ v.namesOf request ↔ ∃ source : Source, source.value? v request name ≠ none := by
  rw [namesOf, List.mem_eraseDups, ← keys_captures v request]
  simp only [List.mem_append, ne_eq, Source.value?_eq_none_iff, not_not]
  constructor
  · rintro ((hquery | hform) | hpath)
    · exact ⟨.query, hquery⟩
    · exact ⟨.form, hform⟩
    · exact ⟨.path, hpath⟩
  · rintro ⟨source, hsource⟩
    cases source with
    | query => exact .inl (.inl hsource)
    | form => exact .inl (.inr hsource)
    | path => exact .inr hsource

/-- Under every name that is brought up some source prevails. -/
theorem exists_prevails {name : String} (h : name ∈ v.namesOf request) :
    ∃ (source : Source) (x : Value), source.Prevails v request name x := by
  cases hpath : Source.path.value? v request name with
  | some x => exact ⟨.path, x, hpath, by simp [Source.overriding]⟩
  | none =>
      cases hform : Source.form.value? v request name with
      | some x => exact ⟨.form, x, hform, by simpa [Source.overriding] using hpath⟩
      | none =>
          cases hquery : Source.query.value? v request name with
          | some x => exact ⟨.query, x, hquery, by simpa [Source.overriding] using ⟨hform, hpath⟩⟩
          | none =>
              obtain ⟨source, hsource⟩ := mem_namesOf.1 h
              cases source with
              | query => exact absurd hquery hsource
              | form => exact absurd hform hsource
              | path => exact absurd hpath hsource

/-- Two rows of values that differ, if at all, in what they hold under captured names. -/
def AlikeBesideCaptures (v : Validator) (es es' : List (String × Value)) : Prop :=
  List.Forall₂ (fun e e' => e'.1 = e.1 ∧ (e.1 ∉ Ordered.keys v.captures → e'.2 = e.2)) es es'

theorem AlikeBesideCaptures.keys_eq {es es' : List (String × Value)}
    (h : v.AlikeBesideCaptures es es') : Ordered.keys es = Ordered.keys es' :=
  Ordered.keys_eq_of_forall₂ (R := fun _ _ => True) (h.imp fun _ _ he => ⟨he.1.symm, trivial⟩)

/-- What prevails is the same after a change of what the captured values override. -/
theorem Source.Prevails.of_alike {request' : Request} {source : Source} {name : String} {x : Value}
    (hquery : v.AlikeBesideCaptures request.query request'.query)
    (hform : v.AlikeBesideCaptures request.form request'.form)
    (h : source.Prevails v request name x) : source.Prevails v request' name x := by
  -- under a name that is not captured the two requests hold the same
  have halike {es es' : List (String × Value)} (hes : v.AlikeBesideCaptures es es')
      (hnot : Source.path.value? v request name = none) :
      Ordered.find? (Ordered.ofList es') name = Ordered.find? (Ordered.ofList es) name := by
    have hrigid := Ordered.rigid_of_lawful name
    rw [Source.value?_eq_none_iff, keys_captures] at hnot
    rw [Ordered.find?_ofList hrigid, Ordered.find?_ofList hrigid]
    refine (Ordered.find?_of_forall₂ ((List.rel_reverse hes).imp fun e e' he => ?_)).symm
    exact ⟨he.1, fun hkey => he.2 (beq_iff_eq.1 hkey ▸ hnot)⟩
  obtain ⟨hx, hlater⟩ := h
  cases source with
  | query =>
      have hpath := hlater .path (by decide)
      have hnoform := hlater .form (by decide)
      refine ⟨(halike hquery hpath).trans hx, fun s hs => ?_⟩
      cases s with
      | query => exact absurd hs (by decide)
      | form => exact (halike hform hpath).trans hnoform
      | path => exact hpath
  | form =>
      have hpath := hlater .path (by decide)
      refine ⟨(halike hform hpath).trans hx, fun s hs => ?_⟩
      rw [List.mem_singleton.1 hs]
      exact hpath
  | path => exact ⟨hx, fun s hs => absurd hs (by simp [Source.overriding])⟩

/-- What is collected does not depend on what the captured values override. -/
theorem collectParams_eq_of_alike {request' : Request} {params : List (String × Value)}
    (h : collectParams v.router.options v.router.api.defaults v.captures request schema
      = .ok params) (hquery : v.AlikeBesideCaptures request.query request'.query)
    (hform : v.AlikeBesideCaptures request.form request'.form)
    (hcoercible : v.IsCoercible request' schema) :
    collectParams v.router.options v.router.api.defaults v.captures request' schema
      = .ok params := by
  -- both have the same names, in the same order, and under each what prevails for both requests
  obtain ⟨params', h'⟩ := exists_collectParams hcoercible
  have hkeys : Ordered.keys params = Ordered.keys params' := by
    rw [keys_collectParams h, keys_collectParams h', namesOf, namesOf, hquery.keys_eq,
      hform.keys_eq]
  have hnodup : (Ordered.keys params).Nodup := by
    rw [keys_collectParams h, namesOf]
    exact nodup_eraseDups _
  rw [h', Ordered.eq_of_find?_eq hkeys hnodup fun name hname => ?_]
  rw [keys_collectParams h] at hname
  obtain ⟨source, x, hx⟩ := exists_prevails hname
  obtain ⟨y, hy, hfound⟩ := find?_collectParams h hx
  obtain ⟨y', hy', hfound'⟩ := find?_collectParams h' (hx.of_alike hquery hform)
  cases hy.symm.trans hy'
  rw [hfound, hfound']

/-- **Merging the sources.** The parameters have the names that the query, the form and the path
    bring up, each where it is first brought up. Under a name stands the value of the path, else of
    the form, else of the query, coerced exactly when that source is to be coerced. What is changed
    under a captured name in the query or the form changes nothing. -/
theorem collectParams_merges (h : v.IsCoercible request schema) :
    ∃ params,
      collectParams v.router.options v.router.api.defaults v.captures request schema
        = .ok params ∧
      Ordered.keys params = v.namesOf request ∧
      (∀ name ∈ Ordered.keys params, ∃ (source : Source) (x y : Value),
        source.Prevails v request name x ∧ Ordered.find? params name = some y ∧
          if source.coerces v then Coercion.coerceEntry schema name x = .ok y else y = x) ∧
      ∀ request' : Request, v.AlikeBesideCaptures request.query request'.query →
        v.AlikeBesideCaptures request.form request'.form → v.IsCoercible request' schema →
          collectParams v.router.options v.router.api.defaults v.captures request' schema
            = .ok params := by
  obtain ⟨params, hparams⟩ := exists_collectParams h
  have hkeys := keys_collectParams hparams
  refine ⟨params, hparams, hkeys, fun name hname => ?_, fun request' hquery hform h' =>
    collectParams_eq_of_alike hparams hquery hform h'⟩
  obtain ⟨source, x, hx⟩ := exists_prevails (hkeys ▸ hname)
  obtain ⟨y, hy, hfound⟩ := find?_collectParams hparams hx
  refine ⟨source, x, y, hx, hfound, ?_⟩
  unfold Source.coerced at hy
  split at hy
  · next hcoerces => rwa [if_pos hcoerces]
  · next hcoerces =>
      cases hy
      rw [if_neg hcoerces]

/-- A validator that leaves the form as it is and coerces the rest: the query because the option
    says so, the path because the defaults do. -/
def formKeeping (schema : Schema) : Validator where
  router :=
    ⟨⟨.map [], "", ⟨true, true, false⟩, []⟩, none, ⟨some false, none, some true, true, true⟩⟩
  found := some ⟨⟨"POST", "/pets/7", .null, .null, none, .parameters schema, false, none, none⟩,
    [("id", "7")]⟩

/-- A request that brings up `id` and `page` more than once. -/
def collidingRequest (id : String) : Request :=
  ⟨"POST", "/pets/7", "", [("id", .text id), ("page", .text "1"), ("size", .text "5")],
    [("page", .text "2"), ("id", .text "6")], [], .null, none⟩

/-- The path, the form and the query each prevail under one name, and another `id` in the query
    makes no difference. -/
theorem colliding_merged :
    ∃ schema params,
      Schema.ofEntries [(.text "properties", .object
        (["id", "page", "size"].map fun s => (s, .object [("type", .text "integer")])))]
          = .ok schema ∧
      (formKeeping schema).IsCoercible (collidingRequest "x") schema ∧
      params = [("id", .int 7), ("page", .text "2"), ("size", .int 5)] ∧
      Ordered.keys params = (formKeeping schema).namesOf (collidingRequest "x") ∧
      (∀ name ∈ Ordered.keys params, ∃ (source : Source) (x y : Value),
        source.Prevails (formKeeping schema) (collidingRequest "x") name x ∧
          Ordered.find? params name = some y ∧
          if source.coerces (formKeeping schema) then Coercion.coerceEntry schema name x = .ok y
          else y = x) ∧
      collectParams (formKeeping schema).router.options (formKeeping schema).router.api.defaults
        (formKeeping schema).captures (collidingRequest "y") schema = .ok params := by
  have hruns : (Schema.ofEntries [(.text "properties", .object
        (["id", "page", "size"].map fun s => (s, .object [("type", .text "integer")])))]
      ).toOption.map (fun schema => (["x", "y"].all fun id => [Source.query, .form, .path].all fun source =>
          (Coercion.coerceParams (source.values (formKeeping schema) (collidingRequest id))
            schema).toBool,
        (collectParams (formKeeping schema).router.options (formKeeping schema).router.api.defaults
          (formKeeping schema).captures (collidingRequest "x") schema).toOption))
      = some (true, some [("id", .int 7), ("page", .text "2"), ("size", .int 5)]) := by
    decide +kernel
  obtain ⟨schema, hschema, hruns⟩ := Outcome.exists_of_toOption_map hruns
  obtain ⟨hall, hcollected⟩ := Prod.mk.inj hruns
  have hcoercible (id : String) (hid : id ∈ ["x", "y"]) :
      (formKeeping schema).IsCoercible (collidingRequest id) schema := by
    intro source _
    have hsources := List.all_eq_true.1 (List.all_eq_true.1 hall id hid)
    refine Outcome.exists_of_toBool (hsources source ?_)
    cases source with
    | query | form | path => decide
  obtain ⟨params, hparams, hkeys, hvalues, halike⟩ :=
    collectParams_merges (hcoercible "x" (by decide))
  have hexplicit : params = [("id", .int 7), ("page", .text "2"), ("size", .int 5)] := by
    rw [hparams] at hcollected
    exact Option.some.inj hcollected
  refine ⟨schema, params, hschema, hcoercible "x" (by decide), hexplicit, hkeys, hvalues,
    halike _ ?_ ?_ (hcoercible "y" (by decide))⟩
  · -- only the value of the captured name differs
    exact .cons ⟨rfl, fun hnot => absurd (List.mem_singleton_self "id") hnot⟩
      (List.forall₂_same.2 fun _ _ => ⟨rfl, fun _ => rfl⟩)
  · exact List.forall₂_same.2 fun _ _ => ⟨rfl, fun _ => rfl⟩

end Validator

end ApiRouter
