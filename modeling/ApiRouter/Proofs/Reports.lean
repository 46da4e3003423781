import ApiRouter.CommandLine.Run
import ApiRouter.Proofs.Outcome

set_option autoImplicit false

/-! # What is reported, and how runs end

A report carries the exit code of a run, so what a run can end with follows from what its parts can
report. The parts that write and coerce report nothing; they fail by defects. Those that check
requests and responses report nothing but failed validations.

A run that is ended by a report ends with its code, provided that its message can be printed. A
message with a mark that fits nothing cannot; such a run crashes, and a crash has a code of its own.
Without colours every message can be printed, and with them every message without an opening
bracket. -/

namespace ApiRouter

/-- A computation that does not fail with a report of this code. -/
def Avoids {α : Type} (code : Int) (x : Except Failure α) : Prop :=
  ∀ r, x = .error (.reported r) → r.exitCode ≠ code

namespace Avoids

variable {code : Int} {α β : Type}

/-! ## Sequences -/

theorem ok (a : α) : Avoids code (.ok a) := by
  intro r h
  cases h

theorem defect (cause : Defect) : Avoids code (ApiRouter.defect cause : Except Failure α) := by
  intro r h
  cases h

theorem fail (kind : ErrorKind) (h : kind.exitCode ≠ code) (message : String) :
    Avoids code (ApiRouter.fail kind message : Except Failure α) := by
  intro r hr
  cases hr
  exact h

theorem bind {x : Except Failure α} {f : α → Except Failure β} (hx : Avoids code x)
    (hf : ∀ a, Avoids code (f a)) : Avoids code (x >>= f) := by
  intro r h
  rcases Outcome.bind_eq_error.1 h with h | ⟨a, -, h⟩
  · exact hx r h
  · exact hf a r h

theorem map {x : Except Failure α} (hx : Avoids code x) (f : α → β) : Avoids code (f <$> x) :=
  fun r h => hx r (Outcome.map_eq_error.1 h)

theorem mapM {f : α → Except Failure β} (hf : ∀ a, Avoids code (f a)) (items : List α) :
    Avoids code (items.mapM f) := by
  intro r h
  obtain ⟨a, -, ha⟩ := Outcome.exists_of_mapM_eq_error h
  exact hf a r ha

/-! ## Writing -/

theorem json (layout : Json.Layout) (v : Value) : Avoids code (Output.json layout v) := by
  unfold Output.json
  split
  · exact ok _
  · exact defect _

theorem plain (v : Value) : Avoids code (Output.plain v) := by
  unfold Output.plain
  split
  · exact ok _
  · exact defect _

theorem entryText (v : Value) : Avoids code (Output.entryText v) := by
  unfold Output.entryText
  split
  · exact json _ _
  · exact json _ _
  · exact plain _

theorem plainLines (v : Value) : Avoids code (Output.plainLines v) := by
  unfold Output.plainLines
  split
  · exact mapM (fun e => (plain _).bind fun _ => (entryText _).bind fun _ => ok _) _
  · exact mapM plain _
  · exact (plain _).bind fun _ => ok _

theorem response (o : Output) (v : Value) : Avoids code (o.response v) := by
  unfold Output.response
  split
  · exact (json _ _).map _
  · exact (plainLines _).bind fun _ => ok _

theorem message (o : Output) (kind : MessageKind) (text : String) :
    Avoids code (o.message kind text) := by
  unfold Output.message
  split
  · exact ok _
  · simp only
    split
    · exact ok _
    · split
      · exact ok _
      · exact defect _

/-! ## Coercing -/

theorem coerceTo (declared : Value) (s : String) : Avoids code (Coercion.coerceTo declared s) := by
  unfold Coercion.coerceTo
  split
  · exact ok _
  · split
    · split
      · exact ok _
      · exact defect _
    · exact ok _
  · split
    · split
      · exact ok _
      · exact defect _
    · exact ok _
  · split
    · exact ok _
    · split
      · exact ok _
      · exact ok _
  · exact ok _
  · exact ok _

theorem coerceText (types : List Value) (s : String) :
    Avoids code (Coercion.coerceText types s) := by
  induction types with
  | nil => exact ok _
  | cons t rest ih =>
      refine (coerceTo t s).bind fun coerced => ?_
      cases coerced with
      | none => exact ih
      | some v => exact ok v

theorem coerceItem (types : List Value) (v : Value) : Avoids code (Coercion.coerceItem types v) := by
  unfold Coercion.coerceItem
  split
  · exact coerceText _ _
  · exact ok _

theorem coerceEntry (schema : Schema) (name : String) (v : Value) :
    Avoids code (Coercion.coerceEntry schema name v) := by
  have hvalue (types : List String) (items : Value) :
      Avoids code (Coercion.coerceValue types items v) := by
    unfold Coercion.coerceValue
    split
    · split
      · exact (mapM (coerceItem _) _).map _
      · exact ok _
    · exact coerceItem _ _
  unfold Coercion.coerceEntry
  split
  · split
    · exact hvalue _ _
    · exact ok _
  · exact ok _

theorem coerceParams (params : List (String × Value)) (schema : Schema) :
    Avoids code (Coercion.coerceParams params schema) :=
  mapM (fun e => (coerceEntry schema e.1 e.2).bind fun _ => ok _) params

theorem collectParams (options : CheckOptions) (defaults : Defaults)
    (captures : List (String × String)) (request : Request) (schema : Schema) :
    Avoids code (Validator.collectParams options defaults captures request schema) := by
  have hsource (values : List (String × Value)) (option : Option Bool) (default : Bool) :
      Avoids code (Validator.sourceValues values option default schema) := by
    unfold Validator.sourceValues
    split
    · exact coerceParams _ _
    · exact ok _
  exact (hsource _ _ _).bind fun _ => (hsource _ _ _).bind fun _ => (hsource _ _ _).bind fun _ => ok _

/-! ## Checking -/

theorem require (kind : ErrorKind) (h : kind.exitCode ≠ code) (label : String)
    (payload definitions subject : Value) :
    Avoids code (Schema.require kind label payload definitions subject) := by
  have hviolations : Avoids code (Schema.violations payload definitions subject) := by
    unfold Schema.violations
    split
    · exact ok _
    · exact defect _
  refine hviolations.bind fun vs => ?_
  split
  · exact ok _
  · intro r hr
    cases hr
    exact h

variable (v : Validator) (link : Link) (request : Request)

theorem checkContentType (h : code ≠ 8) (encType : Value) :
    Avoids code (Validator.checkContentType encType request) := by
  unfold Validator.checkContentType
  split
  · exact ok _
  · exact ok _
  · split
    · exact ok _
    · simp only
      split
      · split
        · exact ok _
        · exact fail .invalidRequest h.symm _
      · exact fail .invalidRequest h.symm _
      · exact defect _

theorem checkParams (h : code ≠ 8) : Avoids code (v.checkParams link request) := by
  unfold Validator.checkParams
  split
  · exact ok _
  · exact (collectParams _ _ _ _ _).bind fun _ =>
      (require .invalidRequest h.symm _ _ _ _).bind fun _ => ok _

theorem checkBody (h : code ≠ 8) : Avoids code (v.checkBody link request) := by
  unfold Validator.checkBody
  split
  · exact ok _
  · split
    · exact fail .invalidRequest h.symm _
    · exact ok _
  · exact require .invalidRequest h.symm _ _ _ _

theorem checkHeaders (h : code ≠ 8) : Avoids code (v.checkHeaders link request) := by
  unfold Validator.checkHeaders
  split
  · exact ok _
  · exact (coerceParams _ _).bind fun _ => require .invalidRequest h.symm _ _ _ _

/-- Checking a request reports nothing but that it failed validation. -/
theorem checkRequest (h : code ≠ 8) : Avoids code (v.checkRequest request) := by
  have hrest (f : Found) : Avoids code (do
      let params ← v.checkParams f.link request
      v.checkBody f.link request
      if v.router.options.checkHeaders then v.checkHeaders f.link request
      .ok params) := by
    refine (checkParams v _ _ h).bind fun _ => (checkBody v _ _ h).bind fun _ => ?_
    split
    · exact (checkHeaders v _ _ h).bind fun _ => ok _
    · exact ok _
  unfold Validator.checkRequest
  split
  · exact ok _
  · dsimp only
    split
    · exact (checkContentType _ h _).bind fun _ => hrest _
    · exact hrest _

/-- Checking a response reports nothing but that it failed validation. -/
theorem checkResponse (h : code ≠ 8) (status body : Value) :
    Avoids code (v.checkResponse status body) := by
  unfold Validator.checkResponse
  split
  · exact ok _
  · split
    · split
      · exact require .invalidResponse h.symm _ _ _ _
      · exact ok _
    · exact ok _

theorem readJson (h : code ≠ 2) (option : String) (text : Option String) :
    Avoids code (CommandLine.readJson option text) := by
  unfold CommandLine.readJson
  split
  · exact ok _
  · split
    · exact ok _
    · exact defect _
    · exact defect _
    · exact fail .invalidUsage h.symm _

end Avoids

/-! ## Messages without marks -/

namespace Text.Markup

variable {marks : List OpenMark} {name : List Char} {style : String} {rest : List Piece}

theorem render_open {c : Char} {parameters : Option (List Char)} (hc : c ≠ '/')
    (hstyle : styleName (c :: name) = .ok style) :
    render marks (.mark (c :: name) parameters :: rest)
      = render (⟨style, parameters⟩ :: marks) rest := by
  rw [render, hstyle, Outcome.ok_bind]
  intro name' h
  exact hc (List.cons.inj h).1

theorem render_close {parameters : Option (List Char)} (hname : (trim name).isEmpty = false)
    (hstyle : styleName name = .ok style) :
    render (⟨style, none⟩ :: marks) (.mark ('/' :: name) parameters :: rest)
      = render marks rest := by
  simp only [render, hname, hstyle, close?, Outcome.ok_bind, OpenMark.isSound, beq_self_eq_true,
    if_true, Bool.false_eq_true, if_false]

/-- A text without an opening bracket is one piece. -/
theorem piecesFrom_of_bare {cs : List Char} (h : '[' ∉ cs) (found : List Char) (slashes : Nat) :
    ∃ reversed, piecesFrom found slashes 0 cs = textPiece reversed := by
  induction cs generalizing found slashes with
  | nil => exact ⟨_, rfl⟩
  | cons c rest ih =>
      have hc : (c == '[') = false := by
        rw [beq_eq_false_iff_ne]
        exact fun hc => h (by simp [hc])
      have hrest : '[' ∉ rest := fun hrest => h (List.mem_cons_of_mem _ hrest)
      rw [piecesFrom, hc]
      split
      · exact ih hrest _ _
      · exact ih hrest _ _

theorem render_textPiece (reversed : List Char) :
    ∃ cs, render marks (textPiece reversed) = .ok cs := by
  unfold textPiece
  split
  · exact ⟨[], by rw [render]⟩
  · exact ⟨_, by rw [render, render, Outcome.ok_bind]⟩

/-- What stands before the message of an error is an open mark, a word and the end of the mark. -/
theorem piecesFrom_error (cs : List Char) :
    piecesFrom [] 0 0 ("[bold red]Error:[/bold red] ".toList ++ cs)
      = .mark ('b' :: "old red".toList) none :: .text "Error:".toList
        :: .mark ('/' :: 'b' :: "old red".toList) none :: piecesFrom [' '] 0 0 cs :=
  rfl

theorem plain_error {text : String} (h : '[' ∉ text.toList) :
    ∃ printed, plain ("[bold red]Error:[/bold red] " ++ text) = .ok printed := by
  have hstyle : styleName ('b' :: "old red".toList) = .ok "bold red" := by decide +kernel
  have hname : (trim ('b' :: "old red".toList)).isEmpty = false := by decide +kernel
  have hmarked : ("[bold red]Error:[/bold red] " ++ text).toList.contains '[' = true := by
    rw [String.toList_append]
    simp
  obtain ⟨reversed, hpieces⟩ := piecesFrom_of_bare h [' '] 0
  obtain ⟨cs, hcs⟩ := @render_textPiece [] reversed
  have hrender : render [] (piecesFrom [] 0 0 ("[bold red]Error:[/bold red] " ++ text).toList)
      = .ok (Emoji.replace (withoutEscapes "Error:".toList) ++ cs) := by
    rw [String.toList_append, piecesFrom_error, render_open (by decide) hstyle, render,
      render_close hname hstyle, hpieces, hcs, Outcome.ok_bind]
  rw [plain, if_pos hmarked, hrender]
  exact ⟨_, rfl⟩

end Text.Markup

namespace CommandLine

/-- The run has an outcome with this exit code. -/
def EndsWith (run : Except Failure Outcome) (code : Int) : Prop :=
  ∃ outcome, run = .ok outcome ∧ outcome.exitCode = code

instance (run : Except Failure Outcome) (code : Int) : Decidable (EndsWith run code) :=
  match run with
  | .ok outcome => decidable_of_iff (outcome.exitCode = code) (by simp [EndsWith])
  | .error _ => .isFalse (by simp [EndsWith])

/-- The text can be printed as the message of an error. -/
def Shows (o : Output) (text : String) : Prop :=
  ∃ printed, o.message .error text = .ok printed

theorem shows_of_bare {o : Output} {text : String} (h : o.colours = false ∨ '[' ∉ text.toList) :
    Shows o text := by
  unfold Shows Output.message
  rw [if_neg (by simp)]
  cases hcolours : o.colours with
  | false => exact ⟨_, rfl⟩
  | true =>
      rw [hcolours] at h
      obtain ⟨printed, hprinted⟩ := Text.Markup.plain_error (h.resolve_left (by decide))
      have hdressed : o.dressed .error text = "[bold red]Error:[/bold red] " ++ text := by
        simp only [Output.dressed, hcolours]
      simp only [hdressed, hprinted, Bool.not_true, Bool.false_eq_true, if_false]
      exact ⟨_, rfl⟩

/-! ## Endings -/

variable {w : Workspace} {o : Output} {out err : String} {code : Int}

theorem endsWith_crashed (h : EndsWith (crashed w o out err) code) : code = 1 := by
  obtain ⟨outcome, hrun, rfl⟩ := h
  obtain ⟨w', -, hrun⟩ := Outcome.bind_eq_ok.1 hrun
  obtain ⟨directory, -, hrun⟩ := Outcome.bind_eq_ok.1 hrun
  obtain ⟨w'', -, hrun⟩ := Outcome.bind_eq_ok.1 hrun
  obtain ⟨message, -, hrun⟩ := Outcome.bind_eq_ok.1 hrun
  cases hrun
  rfl

/-- A failure ends a run with another code than that of a crash exactly when it is a report of this
    code whose message can be printed. -/
theorem endsWith_failed (hcode : code ≠ 1) {f : Failure} :
    EndsWith (failed w o out err f) code ↔
      ∃ r, f = .reported r ∧ r.exitCode = code ∧ Shows o r.message := by
  cases f with
  | reported r =>
      simp only [Failure.reported.injEq, exists_eq_left', Shows]
      cases hm : o.message .error r.message with
      | ok message => simp [failed, hm, EndsWith]
      | error f =>
          -- the message is what fails here, and the report is lost
          have hcrash : failed w o out err (.reported r) = crashed w o out err := by
            simp only [failed, hm]
          rw [hcrash]
          constructor
          · exact fun h => absurd (endsWith_crashed h) hcode
          · rintro ⟨-, printed, h⟩
            cases h
  | illTyped issues =>
      constructor
      · exact fun h => absurd (endsWith_crashed h) hcode
      · rintro ⟨r, h, -⟩
        cases h
  | defect cause =>
      constructor
      · exact fun h => absurd (endsWith_crashed h) hcode
      · rintro ⟨r, h, -⟩
        cases h

/-- Printing a result ends with a code of a report exactly when the report is the result. -/
theorem endsWith_printed (hok : code ≠ 0) (hcrash : code ≠ 1) {message : Option String}
    {result : Except Failure Value} :
    EndsWith (printed w o err message result) code ↔
      ∃ r, result = .error (.reported r) ∧ r.exitCode = code ∧ Shows o r.message := by
  -- a result or message that cannot be written fails by a defect, and that is a crash
  have hunprinted {f : Failure} (hf : ∀ r, f = .reported r → r.exitCode ≠ code) (out err : String) :
      ¬ EndsWith (failed w o out err f) code := by
    rw [endsWith_failed hcrash]
    rintro ⟨r, hr, hcode, -⟩
    exact hf r hr hcode
  cases result with
  | error f =>
      rw [printed, endsWith_failed hcrash]
      simp only [Except.error.injEq]
  | ok v =>
      have hnot : ¬ EndsWith (printed w o err message (.ok v)) code := by
        simp only [printed]
        split
        · rintro ⟨outcome, hrun, rfl⟩
          cases hrun
          exact hok rfl
        · next f hf =>
            exact hunprinted (fun r hr => Avoids.response o v r (hr ▸ hf)) _ _
        · next f hf =>
            have hmessage : Avoids code (message.mapM (o.message .success)) := by
              cases message with
              | none => exact Avoids.ok _
              | some text => exact (Avoids.message o .success text).map _
            exact hunprinted (fun r hr => hmessage r (hr ▸ hf)) _ _
      constructor
      · exact fun h => absurd h hnot
      · rintro ⟨r, h, -⟩
        cases h

end CommandLine

end ApiRouter
