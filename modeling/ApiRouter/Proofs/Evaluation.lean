import ApiRouter.Proofs.KeywordAgreement
import ApiRouter.Proofs.Pointing

set_option autoImplicit false

/-! # Evaluation of plain schemas

A mapping that declares neither a dialect nor an identifier is evaluated by the rules of its
document and in the surroundings of its document, whichever way it is entered; entering it only
takes steps. What is no mapping finds the same in all surroundings. -/

namespace ApiRouter.Schema

variable {scope scope' : Scope} {m : Entries} {v : Value} {room : Nat}

/-! ## Entering a schema -/

/-- The steps that entering a schema takes. -/
def Entry.cost : Entry → Nat
  | .part | .reference => 2
  | .verdict => 3

/-- What the keywords of a schema of the document find. -/
def finds (room : Nat) (scope : Scope) (m : Entries) (subject : Value) : Findings :=
  applyKeywords (evaluate room) .draft4 ⟨Rules.forMessages, scope⟩ (.map m) subject

theorem evaluate_short {entry : Entry} (h : room < entry.cost) (c : Context) (v subject : Value) :
    evaluate room entry c v subject = .stop .endless := by
  cases entry with
  | part =>
      match room, h with
      | 0, _ => rfl
      | 1, _ => rfl
  | reference =>
      match room, h with
      | 0, _ => rfl
      | 1, _ => rfl
  | verdict =>
      match room, h with
      | 0, _ => rfl
      | 1, _ => rfl
      | 2, _ => rfl

theorem evaluate_eq_level (entry : Entry) (room : Nat) :
    evaluate (room + entry.cost) entry = level (evaluate room) entry := by
  cases entry with
  | part => cases room <;> rfl
  | reference => cases room <;> rfl
  | verdict => rfl

theorem idOf_of_isUndeclared (h : isUndeclared m = true) :
    Dialect.idOf .draft4 (.map m) = .ok none := by
  rw [isUndeclared, Bool.and_eq_true, Bool.or_eq_true] at h
  cases href : Entries.has m "$ref" with
  | true =>
      simp only [Dialect.idOf, hasMember, href, Outcome.ok_bind]
      rfl
  | false =>
      rw [href] at h
      rcases h.2 with h | h
      · cases h
      · exact idOf_eq_none (Entries.find?_eq_none_of_has (by rwa [Bool.not_eq_true'] at h))

theorem inside_of_isUndeclared (h : isUndeclared m = true) (rules : Rules) :
    rules.inside (.map m) = .ok rules := by
  rw [isUndeclared, Bool.and_eq_true, Bool.not_eq_true'] at h
  simp only [Rules.inside, Entries.find?_eq_none_of_has h.1]

/-- A schema that declares nothing is evaluated where it stands. -/
theorem evaluate_map (h : isUndeclared m = true) (entry : Entry) (room : Nat) (subject : Value) :
    evaluate (room + entry.cost) entry ⟨Rules.forMessages, scope⟩ (.map m) subject
      = finds room scope m subject := by
  -- no identifier moves the surroundings, and no dialect changes the rules
  have hwithin : scope.within ⟨.draft4, .map m⟩ = .ok scope := by
    simp only [Scope.within, Scope.within?, idOf_of_isUndeclared h, Outcome.ok_bind]
    rfl
  have henter : Context.enter ⟨Rules.forMessages, scope⟩ entry (.map m)
      = .ok ⟨Rules.forMessages, scope⟩ := by
    cases entry with
    | part =>
        have hscope : scope.within ⟨Rules.forMessages.dialect, .map m⟩ = .ok scope := hwithin
        simp only [Context.enter, hscope, inside_of_isUndeclared h, Outcome.ok_bind]
        rfl
    | reference =>
        simp only [Context.enter, inside_of_isUndeclared h, Outcome.ok_bind]
        rfl
    | verdict =>
        simp only [Context.enter, inside_of_isUndeclared h, Outcome.ok_bind]
        rfl
  rw [evaluate_eq_level]
  simp only [level, henter, Findings.withValue]
  cases entry with
  | part => rfl
  | reference => rfl
  | verdict => rfl

/-! ## What is no mapping -/

/-- What is no mapping has no identifier. -/
theorem idOf_of_not_map (hmap : v.isMap = false) {id : Option String}
    (h : Dialect.idOf .draft4 v = .ok id) : id = none := by
  simp only [Dialect.idOf] at h
  obtain ⟨isRef, -, h⟩ := Outcome.bind_eq_ok.1 h
  cases isRef with
  | true =>
      cases h
      rfl
  | false =>
      have hnone : Dialect.identifierUnder "id" v = .error .noMember := by
        cases v with
        | map m => cases hmap
        | _ => rfl
      rw [if_neg Bool.false_ne_true, hnone] at h
      cases h

theorem within_of_not_map (hmap : v.isMap = false) (scope : Scope) :
    scope.within ⟨.draft4, v⟩ = (fun _ => scope) <$> Dialect.idOf .draft4 v := by
  simp only [Scope.within, Scope.within?]
  cases h : Dialect.idOf .draft4 v with
  | error cause => rfl
  | ok id =>
      cases idOf_of_not_map hmap h
      rfl

theorem inside_of_not_map (hmap : v.isMap = false) {rules rules' : Rules}
    (h : rules.inside v = .ok rules') : rules' = rules := by
  unfold Rules.inside at h
  split at h
  · cases hmap
  · obtain ⟨declares, -, h⟩ := Outcome.bind_eq_ok.1 h
    cases declares with
    | true => cases h
    | false =>
        cases h
        rfl

/-- Entering what is no mapping fails in the same way in all surroundings, or leads nowhere
else. -/
theorem enter_of_not_map (hmap : v.isMap = false) (entry : Entry) :
    ∃ entered : Except Defect Unit, ∀ scope,
      Context.enter ⟨Rules.forMessages, scope⟩ entry v
        = (fun _ => ⟨Rules.forMessages, scope⟩) <$> entered := by
  have hinside : ∃ inside : Except Defect Unit,
      Rules.forMessages.inside v = (fun _ => Rules.forMessages) <$> inside := by
    cases h : Rules.forMessages.inside v with
    | error cause => exact ⟨.error cause, rfl⟩
    | ok rules => exact ⟨.ok (), by rw [inside_of_not_map hmap h]; rfl⟩
  obtain ⟨inside, hinside⟩ := hinside
  cases entry with
  | part =>
      refine ⟨Dialect.idOf .draft4 v >>= fun _ => inside, fun scope => ?_⟩
      have hwithin := within_of_not_map hmap scope
      simp only [Context.enter, hinside]
      rw [show scope.within ⟨Rules.forMessages.dialect, v⟩ = _ from hwithin]
      cases Dialect.idOf .draft4 v with
      | error cause => rfl
      | ok id => cases inside <;> rfl
  | reference =>
      refine ⟨inside, fun scope => ?_⟩
      simp only [Context.enter, hinside, Outcome.ok_bind]
      cases inside <;> rfl
  | verdict =>
      refine ⟨inside, fun scope => ?_⟩
      simp only [Context.enter, hinside, Outcome.ok_bind]
      cases inside <;> rfl

/-- What is no mapping finds the same in all surroundings. -/
theorem evaluate_of_not_map (hmap : v.isMap = false) (entry : Entry) (room room' : Nat)
    (subject : Value) :
    evaluate (room + entry.cost) entry ⟨Rules.forMessages, scope⟩ v subject
      = evaluate (room' + entry.cost) entry ⟨Rules.forMessages, scope'⟩ v subject := by
  rw [evaluate_eq_level, evaluate_eq_level]
  obtain ⟨entered, henter⟩ := enter_of_not_map hmap entry
  unfold level
  split
  · rfl
  · rfl
  · rfl
  · rw [henter, henter]
    cases entered with
    | error cause => rfl
    | ok _ =>
        cases v with
        | map m => cases hmap
        | _ => rfl

/-! ## Keywords that count -/

/-- What one entry of a schema finds. -/
def findsAt (room : Nat) (scope : Scope) (m : Entries) (subject : Value)
    (e : Scalar × Value) : Findings :=
  match Keyword.find? .draft4 e.1 with
  | some keyword => keyword ⟨⟨Rules.forMessages, scope⟩, evaluate room⟩ m e.2 subject
  | none => .clear

theorem finds_eq (room : Nat) (scope : Scope) (m : Entries) (subject : Value) :
    finds room scope m subject
      = .forAll (activeKeywords .draft4 m) (findsAt room scope m subject) := rfl

/-- A reference hides what stands beside it. -/
theorem finds_reference {r : String} (href : Entries.find? m "$ref" = some (.text r))
    (subject : Value) :
    finds room scope m subject = Evaluator.refer ⟨⟨Rules.forMessages, scope⟩, evaluate room⟩
      (scope.lookUp r) subject := by
  have hactive : activeKeywords .draft4 m = [(.text "$ref", .text r)] := by
    simp only [activeKeywords, Entries.get, href]
    rfl
  rw [finds_eq, hactive]
  exact Findings.andThen_clear _

theorem find?_definitions : Keyword.find? .draft4 (.text "definitions") = none := by decide

/-- The definitions beside the keywords of a schema find nothing. -/
theorem finds_withDefinitions (definitions subject : Value) :
    finds room scope (withDefinitions m definitions) subject = finds room scope m subject := by
  have hat : findsAt room scope (withDefinitions m definitions) subject
      = findsAt room scope m subject := by
    funext e
    unfold findsAt
    cases hfind : Keyword.find? .draft4 e.1 with
    | none => rfl
    | some keyword => exact keyword_withDefinitions hfind ..
  have hget : Entries.get (withDefinitions m definitions) "$ref" = Entries.get m "$ref" := by
    rw [Entries.get, Entries.get, find?_withDefinitions (by decide)]
  rw [finds_eq, finds_eq, hat, activeKeywords, activeKeywords, hget]
  split
  · rfl
  · unfold withDefinitions Ordered.insertIfNew
    split
    · rfl
    · refine Findings.forAll_append_clear ?_
      rw [findsAt, find?_definitions]

/-- The findings of a payload that declares nothing. -/
theorem findings_eq (h : isUndeclared m = true) (definitions subject : Value) :
    findings m definitions subject
      = finds stepLimit (Scope.inDocument (withDefinitions m definitions)) m subject := by
  have hhas {k : String} (hk : k ≠ "definitions") :
      Entries.has (withDefinitions m definitions) k = Entries.has m k := by
    rw [Entries.has_eq_isSome, Entries.has_eq_isSome, find?_withDefinitions hk]
  have hundeclared : isUndeclared (withDefinitions m definitions) = true := by
    rw [isUndeclared, hhas (by decide), hhas (by decide), hhas (by decide)]
    exact h
  have hscope : Scope.ofDocument ⟨.draft4, .map (withDefinitions m definitions)⟩
      = .ok (Scope.inDocument (withDefinitions m definitions)) := by
    simp only [Scope.ofDocument, idOf_of_isUndeclared hundeclared, Outcome.ok_bind]
    rfl
  rw [← finds_withDefinitions definitions subject]
  simp only [findings]
  rw [show Scope.ofDocument ⟨Rules.forMessages.dialect, .map (withDefinitions m definitions)⟩ = _
    from hscope]
  rfl

end ApiRouter.Schema
