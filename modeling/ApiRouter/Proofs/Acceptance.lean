import ApiRouter.Proofs.Declarations
import ApiRouter.Proofs.Findings

set_option autoImplicit false

/-! # Parts of what a schema accepts

When a schema accepts a mapping, the schemas of its properties accept the values under their names.
A part is evaluated within the whole, where its references start; a part that holds no schemas of its
own means the same by itself. -/

namespace ApiRouter.Schema

variable {definitions subject : Value}

/-- Within the payload `whole`, a part of it accepts a subject: evaluation of the part, with its
    references starting from the whole, ends and finds nothing. -/
def AcceptsPart (whole : Entries) (definitions part subject : Value) : Prop :=
  ∃ scope, Scope.ofDocument ⟨.draft4, .map (withDefinitions whole definitions)⟩ = .ok scope ∧
    evaluate stepLimit .part ⟨Rules.forMessages, scope⟩ part subject = .clear

/-! ## The keywords of an accepting schema -/

theorem find?_withDefinitions {payload : Entries} {k : String} (hk : k ≠ "definitions") :
    Entries.find? (withDefinitions payload definitions) k = Entries.find? payload k := by
  unfold withDefinitions Ordered.insertIfNew
  split
  · rfl
  · have hne : ¬ (Scalar.text "definitions" == Scalar.text k) = true := fun h =>
      hk (Scalar.text.inj ((Scalar.rigid_text k).beq_left _ |>.1 h)).symm
    rw [Entries.find?, Ordered.find?_append, Ordered.find?, if_neg hne, Ordered.find?, Option.or_none,
      Entries.find?]

theorem mem_withDefinitions {payload : Entries} {e : Scalar × Value} (he : e ∈ payload) :
    e ∈ withDefinitions payload definitions := by
  unfold withDefinitions Ordered.insertIfNew
  split
  · exact he
  · exact List.mem_append_left _ he

theorem of_mem_withDefinitions {payload : Entries} {e : Scalar × Value}
    (he : e ∈ withDefinitions payload definitions) :
    e ∈ payload ∨ e.1 = .text "definitions" := by
  unfold withDefinitions Ordered.insertIfNew at he
  split at he
  · exact .inl he
  · rcases List.mem_append.1 he with he | he
    · exact .inl he
    · rw [List.mem_singleton.1 he]
      exact .inr rfl

theorem activeKeywords_eq {d : Dialect} {payload : Entries}
    (h : Entries.find? payload "$ref" = none) : activeKeywords d payload = payload := by
  unfold activeKeywords Entries.get
  rw [h]
  cases d.hidesSiblings <;> rfl

/-- Without a reference all keywords of a schema count, and each of them is satisfied when nothing
    is found. -/
theorem applyKeywords_eq_clear {evaluate : Entry → Context → (schema subject : Value) → Findings}
    {d : Dialect} {c : Context} {payload : Entries} (h : Entries.find? payload "$ref" = none) :
    applyKeywords evaluate d c (.map payload) subject = .clear ↔
      ∀ e ∈ payload, ∀ keyword, Keyword.find? c.rules.dialect e.1 = some keyword →
        keyword ⟨c, evaluate⟩ payload e.2 subject = .clear := by
  simp only [applyKeywords, activeKeywords_eq h]
  rw [Findings.forAll_eq_clear]
  apply forall_congr'
  intro e
  apply forall_congr'
  intro _
  cases Keyword.find? c.rules.dialect e.1 with
  | none => simp
  | some keyword => simp

/-! ## Properties -/

/-- Whatever an accepted mapping has under the name of a property is accepted by that property. -/
theorem Accepts.property {payload es subs : Entries} (h : Accepts payload definitions (.map es))
    (href : Entries.find? payload "$ref" = none)
    (hsubs : Entries.find? payload "properties" = some (.map subs)) {k : Scalar} {sub x : Value}
    (hsub : (k, sub) ∈ subs) (hx : Ordered.find? es k = some x) :
    AcceptsPart payload definitions sub x := by
  have href' : Entries.find? (withDefinitions payload definitions) "$ref" = none := by
    rw [find?_withDefinitions (by decide), href]
  have hmem : (Scalar.text "properties", Value.map subs) ∈ withDefinitions payload definitions :=
    mem_withDefinitions (Ordered.mem_of_find? (Scalar.rigid_text _) hsubs)
  obtain ⟨scope, hscope, hclear⟩ := Findings.withValue_eq_clear.1 h
  refine ⟨scope, hscope, ?_⟩
  have hproperties := (applyKeywords_eq_clear href').1 hclear _ hmem Keyword.properties rfl
  simp only [Keyword.properties, Keyword.entriesOf, Findings.withValue] at hproperties
  have hpart := Findings.forAll_eq_clear.1 hproperties _ hsub
  simp only [hx, Evaluator.descendAt] at hpart
  split at hpart
  · exact hpart
  · exact Findings.under_eq_clear.1 hpart

/-! ## Parts without schemas of their own -/

/-- Keywords that look at an instance by themselves. -/
def demands : List String :=
  ["maximum", "minimum", "type", "enum", "maxItems", "maxLength", "maxProperties", "minItems",
    "minLength", "minProperties", "multipleOf", "pattern", "required", "uniqueItems"]

/-- Such keywords look at nothing else in their schema than whether a bound is exclusive. -/
theorem keyword_congr {k : String} (hk : k ∈ demands) {keyword : Keyword}
    (hfind : Keyword.find? .draft4 (.text k) = some keyword)
    {e e' : Evaluator} (hrules : e.context.rules = e'.context.rules) {m m' : Entries}
    (hmin : Entries.find? m "exclusiveMinimum" = Entries.find? m' "exclusiveMinimum")
    (hmax : Entries.find? m "exclusiveMaximum" = Entries.find? m' "exclusiveMaximum")
    (v x : Value) : keyword e m v x = keyword e' m' v x := by
  rcases List.mem_cons.1 hk with rfl | hk
  · cases hfind
    simp only [Keyword.maximumOrLess, Entries.get, hmax]
    rfl
  rcases List.mem_cons.1 hk with rfl | hk
  · cases hfind
    simp only [Keyword.minimumOrMore, Entries.get, hmin]
    rfl
  rcases List.mem_cons.1 hk with rfl | hk
  · cases hfind
    simp only [Keyword.types, hrules]
  -- the other keywords do not look at their schema at all
  simp only [List.mem_cons, List.not_mem_nil, or_false] at hk
  rcases hk with rfl | rfl | rfl | rfl | rfl | rfl | rfl | rfl | rfl | rfl | rfl
  all_goals
    cases hfind
    rfl

/-- The payload of a declaration that says nothing of items. -/
def IsPlain (payload : Entries) : Prop :=
  ∀ e ∈ payload, ∃ k ∈ Parameter.keywords, e.1 = .text k ∧ k ≠ "items"

/-- The keywords of a declaration that draft 4 knows, apart from `items`, hold no schemas. -/
theorem mem_demands {k : String} (hk : k ∈ Parameter.keywords) (hitems : k ≠ "items")
    {keyword : Keyword} (hfind : Keyword.find? .draft4 (.text k) = some keyword) : k ∈ demands :=
  have hknown : (Keyword.find? .draft4 (.text k)).isSome = true := by rw [hfind]; rfl
  (by decide : ∀ k ∈ Parameter.keywords, k ≠ "items" →
    (Keyword.find? .draft4 (.text k)).isSome = true → k ∈ demands) k hk hitems hknown

theorem IsPlain.find?_eq_none {payload : Entries} (h : IsPlain payload) {k : String}
    (hk : k ∉ Parameter.keywords) : Entries.find? payload k = none := by
  cases hfound : Entries.find? payload k with
  | none => rfl
  | some v =>
      obtain ⟨k', hk', he, -⟩ := h _ (Ordered.mem_of_find? (Scalar.rigid_text k) hfound)
      cases he
      exact absurd hk' hk

/-- A mapping without an `id` is no resource of its own. -/
theorem idOf_eq_none {m : Entries} (hid : Entries.find? m "id" = none) :
    Dialect.idOf .draft4 (.map m) = .ok none := by
  simp only [Dialect.idOf, hasMember, Dialect.identifierUnder, valueOf?, Entries.get, hid,
    Option.getD_none, Value.present?, Outcome.ok_bind]
  split
  · rfl
  · rfl

/-- Such a mapping is a document without a name. -/
theorem ofDocument_eq_ok {document : Entries} (hid : Entries.find? document "id" = none) :
    ∃ scope, Scope.ofDocument ⟨.draft4, .map document⟩ = .ok scope :=
  ⟨_, by simp only [Scope.ofDocument, idOf_eq_none hid, Outcome.ok_bind]; rfl⟩

/-- A plain part accepts by itself what it accepts within the whole. -/
theorem AcceptsPart.accepts {whole payload : Entries} (hplain : IsPlain payload)
    (h : AcceptsPart whole definitions (.map payload) subject) :
    Accepts payload definitions subject := by
  obtain ⟨scope, -, hpart⟩ := h
  have href := hplain.find?_eq_none (k := "$ref") (by decide)
  have hschema := hplain.find?_eq_none (k := "$schema") (by decide)
  -- the part is evaluated by the rules of the whole
  have hlevel : evaluate stepLimit .part ⟨Rules.forMessages, scope⟩ (.map payload) subject
      = .withValue (Context.enter ⟨Rules.forMessages, scope⟩ .part (.map payload)) fun inner =>
          applyKeywords (evaluate 982) .draft4 inner (.map payload) subject := rfl
  rw [hlevel] at hpart
  obtain ⟨inner, henter, hclear⟩ := Findings.withValue_eq_clear.1 hpart
  have hrules : inner.rules = Rules.forMessages := by
    obtain ⟨scope', -, henter⟩ := Outcome.bind_eq_ok.1 henter
    simp only [Rules.inside, hschema, Outcome.ok_bind] at henter
    cases henter
    rfl
  rw [applyKeywords_eq_clear href, hrules] at hclear
  have href' : Entries.find? (withDefinitions payload definitions) "$ref" = none := by
    rw [find?_withDefinitions (by decide), href]
  have hid' : Entries.find? (withDefinitions payload definitions) "id" = none := by
    rw [find?_withDefinitions (by decide), hplain.find?_eq_none (by decide)]
  obtain ⟨scope', hscope'⟩ := ofDocument_eq_ok hid'
  refine Findings.withValue_eq_clear.2 ⟨scope', hscope', (applyKeywords_eq_clear href').2 ?_⟩
  intro e he keyword hkeyword
  rcases of_mem_withDefinitions he with hpart | hdefs
  · obtain ⟨k, hk, hek, hitems⟩ := hplain e hpart
    rw [hek] at hkeyword
    rw [← hclear e hpart keyword (hek ▸ hkeyword)]
    exact keyword_congr (mem_demands hk hitems hkeyword) hkeyword (by rw [hrules])
      (find?_withDefinitions (by decide)) (find?_withDefinitions (by decide)) e.2 subject
  · rw [hdefs] at hkeyword
    cases hkeyword

end ApiRouter.Schema
