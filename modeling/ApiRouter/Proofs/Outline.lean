import ApiRouter.Proofs.Routing

set_option autoImplicit false

/-! # What the text of a template says

A template spells an outline: a literal text, then names of captures, each with the literal text that
follows it. None of the literal texts holds a name between braces, so each text is spelled by one
outline only, and the tokens that scanning finds in it are those of that outline.

A text without an opening brace that stands before a template is no part of any capture: scanning
reads it as it is and then goes on as if it were not there, and so does matching. The longer template
matches that text followed by what the shorter one matches, with the same captures.

Scanning loses nothing of a text, and finds every place where a capture is written and no other, in
the order of the text and whatever braces stand around it: what is before a capture and what is after
it are scanned as if each stood alone. -/

namespace ApiRouter.Template

/-! ## A literal text before a template -/

namespace Token

/-- A text without an opening brace is read as itself, whatever comes after it. -/
theorem scan_append {start : List Char} (h : '\x7b' ∉ start) (rest : List Char) :
    scan none (start ++ rest) = start.map .literal ++ scan none rest := by
  induction start with
  | nil => rfl
  | cons c cs ih =>
      have hc : c ≠ '\x7b' := fun hc => h (by simp [hc])
      have hcs : '\x7b' ∉ cs := fun hcs => h (List.mem_cons_of_mem _ hcs)
      rw [List.cons_append, scan, if_neg hc, ih hcs, List.map_cons, List.cons_append]

/-- Literal tokens match the text that they spell, and the tokens after them match what is left. -/
theorem matchAll_append (start path : List Char) (tokens : List Token) :
    matchAll (start.map .literal ++ tokens) path
      = (Router.dropStart? start path).bind (matchAll tokens) := by
  induction start generalizing path with
  | nil => simp [Router.dropStart?]
  | cons c cs ih =>
      cases path with
      | nil => rfl
      | cons d ds =>
          rw [List.map_cons, List.cons_append, matchAll, Router.dropStart?, ih]
          split
          · rfl
          · rfl

theorem filterMap_name?_append (start : List Char) (tokens : List Token) :
    (start.map Token.literal ++ tokens).filterMap name? = tokens.filterMap name? := by
  induction start with
  | nil => rfl
  | cons c cs ih => rwa [List.map_cons, List.cons_append, List.filterMap_cons_none rfl]

end Token

/-- A literal text before a template takes itself off the path and leaves the rest to the template. -/
theorem captures?_append {start : String} (h : '\x7b' ∉ start.toList) (source path : String) :
    (ofString (start ++ source)).captures? path
      = (Router.below? start path).bind (ofString source).captures? := by
  have htokens : (ofString (start ++ source)).tokens
      = start.toList.map .literal ++ (ofString source).tokens := by
    rw [ofString, String.toList_append, Token.scan_append h, ofString]
  have hnames : (ofString (start ++ source)).names = (ofString source).names := by
    rw [names, htokens, Token.filterMap_name?_append]
    rfl
  unfold captures?
  rw [htokens, hnames, Token.matchAll_append, Router.below?]
  cases Router.dropStart? start.toList path.toList with
  | none => rfl
  | some rest => simp

/-- On the text that it starts with and a further path, the longer template has the captures of the
    shorter one on that path. -/
theorem captures?_append_append {start : String} (h : '\x7b' ∉ start.toList)
    (source path : String) :
    (ofString (start ++ source)).captures? (start ++ path) = (ofString source).captures? path := by
  rw [captures?_append h, Router.below?_eq_some.2 rfl, Option.bind_some]

/-- A path that does not start with that text is not matched. -/
theorem captures?_append_eq_none {start path : String} (h : '\x7b' ∉ start.toList)
    (hpath : ∀ rest, path ≠ start ++ rest) (source : String) :
    (ofString (start ++ source)).captures? path = none := by
  rw [captures?_append h, Option.bind_eq_none_iff]
  intro rest hrest
  exact absurd (Router.below?_eq_some.1 hrest) (hpath rest)

/-- The text before the template is not scanned for captures, and what looks like the end of one in
    it is literal. -/
example : (ofString ("/v\x7d1" ++ "/{id}")).captures? "/v\x7d1/7" = some [("id", "7")] := by
  decide +kernel

/-! ## Names and literal texts -/

/-- The characters of names. -/
def IsNameChar (c : Char) : Prop := c ≠ '\x7b' ∧ c ≠ '\x7d' ∧ c ≠ '/'

instance : DecidablePred IsNameChar :=
  fun c => inferInstanceAs (Decidable (c ≠ '\x7b' ∧ c ≠ '\x7d' ∧ c ≠ '/'))

/-- What may stand between the braces of a capture. -/
structure IsName (name : List Char) : Prop where
  nonempty : name ≠ []
  plain : ∀ c ∈ name, IsNameChar c

instance : DecidablePred IsName := fun name =>
  have : Decidable (∀ c ∈ name, IsNameChar c) := List.decidableBAll IsNameChar name
  decidable_of_iff (name ≠ [] ∧ ∀ c ∈ name, IsNameChar c)
    ⟨fun h => ⟨h.1, h.2⟩, fun h => ⟨h.1, h.2⟩⟩

/-- A capture as a template writes it. -/
def written (name : List Char) : List Char :=
  '\x7b' :: name ++ ['\x7d']

/-- Somewhere in the text a capture is written. -/
def HoldsCapture (cs : List Char) : Prop :=
  ∃ before name after, IsName name ∧ cs = before ++ written name ++ after

/-- A text without a capture. -/
def IsLiteral (cs : List Char) : Prop := ¬ HoldsCapture cs

/-- A text without an opening brace holds no capture. -/
theorem isLiteral_of_not_mem {cs : List Char} (h : '\x7b' ∉ cs) : IsLiteral cs := by
  rintro ⟨before, name, after, -, rfl⟩
  exact h (by simp [written])

/-- What a capture holds is still held when something is put before it. -/
theorem IsLiteral.of_append (before : List Char) {cs : List Char} (h : IsLiteral (before ++ cs)) :
    IsLiteral cs := by
  rintro ⟨start, name, after, hname, rfl⟩
  exact h ⟨before ++ start, name, after, hname, by simp⟩

/-- In a text that holds a capture there is a first one. -/
theorem exists_first_capture {cs : List Char} (h : HoldsCapture cs) :
    ∃ before name after, IsName name ∧ cs = before ++ written name ++ after ∧ IsLiteral before := by
  induction hn : cs.length using Nat.strongRecOn generalizing cs with
  | _ n ih =>
      obtain ⟨before, name, after, hname, rfl⟩ := h
      by_cases hbefore : HoldsCapture before
      · have hlength : before.length < n := by
          rw [← hn, written]
          simp
        obtain ⟨start, first, rest, hfirst, rfl, hliteral⟩ := ih _ hlength hbefore rfl
        exact ⟨start, first, rest ++ written name ++ after, hfirst, by simp, hliteral⟩
      · exact ⟨before, name, after, hname, rfl, hbefore⟩

/-! ## Outlines -/

/-- The name of a capture, and the literal text up to the next one. -/
structure Hole where
  name : List Char
  after : List Char
  deriving DecidableEq

/-- A literal text and the captures after it. -/
structure Outline where
  lead : List Char
  holes : List Hole
  deriving DecidableEq

namespace Outline

/-- The text of a template with this outline. -/
def source (l : Outline) : List Char :=
  l.lead ++ l.holes.flatMap fun h => written h.name ++ h.after

/-- The tokens of this outline. -/
def tokens (l : Outline) : List Token :=
  l.lead.map .literal ++ l.holes.flatMap fun h => .capture h.name :: h.after.map .literal

/-- The outline is that of the text: it spells the text, with names between the braces and no capture
left in what is literal. -/
structure Spells (l : Outline) (text : List Char) : Prop where
  source_eq : l.source = text
  named : ∀ h ∈ l.holes, IsName h.name
  lead : IsLiteral l.lead
  after : ∀ h ∈ l.holes, IsLiteral h.after

/-- Every text has an outline. -/
theorem exists_spells (text : List Char) : ∃ l : Outline, l.Spells text := by
  induction hn : text.length using Nat.strongRecOn generalizing text with
  | _ n ih =>
      by_cases h : HoldsCapture text
      · obtain ⟨before, name, after, hname, rfl, hbefore⟩ := exists_first_capture h
        have hlength : after.length < n := by
          rw [← hn, written]
          simp
          omega
        obtain ⟨l, hl⟩ := ih _ hlength after rfl
        refine ⟨⟨before, ⟨name, l.lead⟩ :: l.holes⟩, ?_, ?_, hbefore, ?_⟩
        · rw [← hl.source_eq]
          simp [source]
        · exact List.forall_mem_cons.2 ⟨hname, hl.named⟩
        · exact List.forall_mem_cons.2 ⟨hl.lead, hl.after⟩
      · exact ⟨⟨text, []⟩, by simp [source], by simp, h, by simp⟩

/-- The outline of a row of tokens. -/
def ofTokens : List Token → Outline
  | [] => ⟨[], []⟩
  | .literal c :: tokens => ⟨c :: (ofTokens tokens).lead, (ofTokens tokens).holes⟩
  | .capture name :: tokens => ⟨[], ⟨name, (ofTokens tokens).lead⟩ :: (ofTokens tokens).holes⟩

theorem ofTokens_append (start : List Char) (tokens : List Token) :
    ofTokens (start.map .literal ++ tokens)
      = ⟨start ++ (ofTokens tokens).lead, (ofTokens tokens).holes⟩ := by
  induction start with
  | nil => rfl
  | cons c cs ih => rw [List.map_cons, List.cons_append, ofTokens, ih, List.cons_append]

/-- An outline can be told from its tokens. -/
theorem ofTokens_tokens (l : Outline) : ofTokens l.tokens = l := by
  obtain ⟨lead, holes⟩ := l
  rw [tokens, ofTokens_append]
  induction holes generalizing lead with
  | nil => simp [ofTokens]
  | cons h rest ih =>
      have hrest := ih h.after
      simp only [Outline.mk.injEq] at hrest
      simp only [List.flatMap_cons, List.cons_append, ofTokens, ofTokens_append, hrest,
        List.append_nil]

/-! ## Scanning -/

/-- What was read since the brace that is open, with the brace. -/
def held : Option (List Char) → List Char
  | none => []
  | some name => '\x7b' :: name.reverse

theorem unclosed_eq (pending : Option (List Char)) :
    Token.unclosed pending = (held pending).map .literal := by
  cases pending with
  | none => rfl
  | some name => rfl

/-- A literal text is read as it is when a capture or nothing follows it. A brace that is open there is
literal, too. -/
theorem scan_literal {cs rest : List Char} (hrest : rest = [] ∨ ∃ more, rest = '\x7b' :: more)
    (pending : Option (List Char)) (hpending : ∀ name ∈ pending, ∀ c ∈ name, IsNameChar c)
    (h : IsLiteral (held pending ++ cs)) :
    Token.scan pending (cs ++ rest)
      = (held pending ++ cs).map .literal ++ Token.scan none rest := by
  induction cs generalizing pending with
  | nil =>
      rw [List.nil_append, List.append_nil, ← unclosed_eq]
      cases pending with
      | none => rfl
      | some name =>
          rcases hrest with rfl | ⟨more, rfl⟩
          · simp [Token.scan, Token.unclosed]
          · simp [Token.scan]
  | cons c cs ih =>
      have hnone : IsLiteral (held none ++ cs) :=
        IsLiteral.of_append (held pending ++ [c]) (by simpa [held] using h)
      cases pending with
      | none =>
          rw [List.cons_append, Token.scan]
          split
          · next hc =>
              rw [ih _ (by simp) (by simpa [held, hc] using h)]
              simp [held, hc]
          · rw [ih _ (by simp) hnone]
            simp [held]
      | some name =>
          have hname : ∀ c ∈ name, IsNameChar c := hpending name rfl
          rw [List.cons_append, Token.scan]
          split
          · next hc =>
              split
              · next hempty =>
                  rw [ih _ (by simp) hnone]
                  simp [held, hc, List.isEmpty_iff.1 hempty]
              · next hempty =>
                  -- the brace is closed by a name, so this is a capture
                  refine absurd ⟨[], name.reverse, cs, ⟨?_, ?_⟩, ?_⟩ h
                  · simpa using hempty
                  · simpa using hname
                  · simp [held, written, hc]
          · split
            · next hc =>
                have hopen : IsLiteral (held (some []) ++ cs) :=
                  IsLiteral.of_append (held (some name)) (by simpa [held, hc] using h)
                rw [ih _ (by simp) hopen, unclosed_eq]
                simp [held, hc]
            · split
              · next hc =>
                  rw [ih _ (by simp) hnone, unclosed_eq]
                  simp [held, hc]
              · next hclose hopen hslash =>
                  have hcons : ∀ d ∈ c :: name, IsNameChar d :=
                    List.forall_mem_cons.2 ⟨⟨hopen, hclose, hslash⟩, hname⟩
                  rw [ih _ (by simpa using hcons) (by simpa [held] using h)]
                  simp [held]

/-- A capture is read as a token of its own. -/
theorem scan_written {name : List Char} (h : IsName name) (rest : List Char) :
    Token.scan none (written name ++ rest) = .capture name :: Token.scan none rest := by
  have hopen (taken : List Char) (cs : List Char) (hcs : ∀ c ∈ cs, IsNameChar c)
      (hne : taken ++ cs ≠ []) :
      Token.scan (some taken.reverse) (cs ++ '\x7d' :: rest)
        = .capture (taken ++ cs) :: Token.scan none rest := by
    induction cs generalizing taken with
    | nil =>
        rw [List.append_nil] at hne
        simp [Token.scan, hne]
    | cons c cs ih =>
        obtain ⟨hopen, hclose, hslash⟩ := hcs c (List.mem_cons_self ..)
        have hrest := ih (taken ++ [c]) (fun d hd => hcs d (List.mem_cons_of_mem _ hd)) (by simp)
        rw [List.cons_append, Token.scan, if_neg hclose, if_neg hopen, if_neg hslash]
        simpa using hrest
  have hscan := hopen [] name h.plain h.nonempty
  simpa [written, Token.scan] using hscan

/-- The tokens that scanning a text finds are those of its outline. -/
theorem Spells.scan_eq {l : Outline} {text : List Char} (h : l.Spells text) :
    Token.scan none text = l.tokens := by
  obtain ⟨hsource, hnamed, hlead, hafter⟩ := h
  obtain ⟨lead, holes⟩ := l
  rw [← hsource, source, tokens]
  clear hsource
  dsimp only at hnamed hlead hafter ⊢
  induction holes generalizing lead with
  | nil =>
      have hscan := scan_literal (.inl rfl) none (by simp) hlead
      simpa [held, Token.scan, Token.unclosed] using hscan
  | cons hole rest ih =>
      rw [List.forall_mem_cons] at hnamed hafter
      have hscan (more : List Char) : Token.scan none (lead ++ (written hole.name ++ more))
          = lead.map .literal ++ Token.scan none (written hole.name ++ more) :=
        scan_literal (.inr ⟨_, rfl⟩) none (by simp) hlead
      have hrest := ih hole.after hnamed.2 hafter.1 hafter.2
      rw [List.flatMap_cons, List.flatMap_cons, List.append_assoc (written hole.name), hscan,
        scan_written hnamed.1, hrest]
      simp

/-- A text has one outline only. -/
theorem Spells.unique {l l' : Outline} {text : List Char} (h : l.Spells text)
    (h' : l'.Spells text) : l = l' := by
  rw [← ofTokens_tokens l, ← ofTokens_tokens l', ← h.scan_eq, ← h'.scan_eq]

end Outline

/-- The outline of a template. -/
def outline (t : Template) : Outline := .ofTokens t.tokens

theorem outline_ofString {l : Outline} {source : String} (h : l.Spells source.toList) :
    (ofString source).outline = l := by
  rw [outline, ofString, h.scan_eq, Outline.ofTokens_tokens]

/-- A template has the outline of its text. -/
theorem outline_spells (source : String) : (ofString source).outline.Spells source.toList := by
  obtain ⟨l, hl⟩ := Outline.exists_spells source.toList
  rwa [outline_ofString hl]

theorem tokens_ofString (source : String) :
    (ofString source).tokens = (ofString source).outline.tokens :=
  (outline_spells source).scan_eq

/-- The names of the captures of an outline. -/
def Outline.names (l : Outline) : List String :=
  l.holes.map fun h => String.ofList h.name

theorem names_ofString (source : String) :
    (ofString source).names = (ofString source).outline.names := by
  rw [names, tokens_ofString, Outline.tokens, Token.filterMap_name?_append, Outline.names]
  induction (ofString source).outline.holes with
  | nil => rfl
  | cons hole rest ih =>
      have hname : Token.name? (.capture hole.name) = some (String.ofList hole.name) := rfl
      rw [List.flatMap_cons, List.cons_append, List.filterMap_cons_some hname,
        Token.filterMap_name?_append, ih, List.map_cons]

/-! ## What tokens spell -/

namespace Token

theorem flatMap_source_literal (cs : List Char) :
    (cs.map Token.literal).flatMap source = cs := by
  induction cs with
  | nil => rfl
  | cons c cs ih => rw [List.map_cons, List.flatMap_cons, ih, source, List.singleton_append]

end Token

namespace Outline

/-- The tokens of an outline spell its text. -/
theorem flatMap_source_tokens (l : Outline) : l.tokens.flatMap Token.source = l.source := by
  have hholes : (l.holes.flatMap fun h => .capture h.name :: h.after.map .literal).flatMap
      Token.source = l.holes.flatMap fun h => written h.name ++ h.after := by
    induction l.holes with
    | nil => rfl
    | cons hole rest ih =>
        rw [List.flatMap_cons, List.flatMap_append, ih, List.flatMap_cons, List.flatMap_cons,
          Token.flatMap_source_literal]
        rfl
  rw [tokens, List.flatMap_append, hholes, Token.flatMap_source_literal, source]

/-- A token of an outline that is a capture has the name of a hole. -/
theorem exists_hole_of_mem_tokens {l : Outline} {name : List Char}
    (h : .capture name ∈ l.tokens) : ∃ hole ∈ l.holes, hole.name = name := by
  rw [tokens, List.mem_append, List.mem_flatMap] at h
  rcases h with h | ⟨hole, hhole, h⟩
  · simp at h
  · exact ⟨hole, hhole, by simpa [eq_comm] using h⟩

/-- Outlines of what is before a capture and of what is after it make an outline of the whole. -/
theorem Spells.around {l r : Outline} {before name after : List Char} (hl : l.Spells before)
    (hname : IsName name) (hr : r.Spells after) :
    Spells ⟨l.lead, l.holes ++ ⟨name, r.lead⟩ :: r.holes⟩ (before ++ written name ++ after) := by
  refine ⟨?_, ?_, hl.lead, ?_⟩
  · rw [← hl.source_eq, ← hr.source_eq]
    simp [source]
  · exact List.forall_mem_append.2 ⟨hl.named, List.forall_mem_cons.2 ⟨hname, hr.named⟩⟩
  · exact List.forall_mem_append.2 ⟨hl.after, List.forall_mem_cons.2 ⟨hr.lead, hr.after⟩⟩

theorem tokens_around (l r : Outline) (name : List Char) :
    tokens ⟨l.lead, l.holes ++ ⟨name, r.lead⟩ :: r.holes⟩
      = l.tokens ++ .capture name :: r.tokens := by
  simp [tokens]

end Outline

/-! ## What scanning finds -/

namespace Token

/-- Scanning loses nothing of a text. -/
theorem flatMap_source_scan (text : List Char) : (scan none text).flatMap source = text := by
  obtain ⟨l, hl⟩ := Outline.exists_spells text
  rw [hl.scan_eq, Outline.flatMap_source_tokens, hl.source_eq]

theorem isName_of_mem_scan {text name : List Char} (h : .capture name ∈ scan none text) :
    IsName name := by
  obtain ⟨l, hl⟩ := Outline.exists_spells text
  rw [hl.scan_eq] at h
  obtain ⟨hole, hhole, rfl⟩ := Outline.exists_hole_of_mem_tokens h
  exact hl.named hole hhole

/-- A capture that is written anywhere is found there, and the rest is scanned as if it were not
    there. -/
theorem scan_around {name : List Char} (h : IsName name) (before after : List Char) :
    scan none (before ++ written name ++ after)
      = scan none before ++ .capture name :: scan none after := by
  obtain ⟨l, hl⟩ := Outline.exists_spells before
  obtain ⟨r, hr⟩ := Outline.exists_spells after
  rw [(hl.around h hr).scan_eq, hl.scan_eq, hr.scan_eq, Outline.tokens_around]

end Token

/-! ## Sites -/

/-- A capture of a text: how many characters stand before it, and its name. -/
structure Site where
  place : Nat
  name : List Char
  deriving DecidableEq

/-- At this place of the text a capture of this name is written. -/
structure Site.IsIn (site : Site) (text : List Char) : Prop where
  named : IsName site.name
  written : ∃ before after, before.length = site.place ∧
    text = before ++ written site.name ++ after

/-- The capture that a token is, when so many characters stand before it. -/
def Token.site? (start : Nat) : Token → Option Site
  | .literal _ => none
  | .capture name => some ⟨start, name⟩

/-- The captures among tokens, when so many characters stand before the first token. -/
def Token.sitesFrom : (start : Nat) → List Token → List Site
  | _, [] => []
  | start, token :: tokens =>
    (token.site? start).toList ++ sitesFrom (start + token.source.length) tokens

/-- The captures of a template. -/
def sites (t : Template) : List Site := Token.sitesFrom 0 t.tokens

namespace Token

variable {start : Nat} {token : Token} {tokens : List Token} {site : Site}

theorem site?_eq_some :
    token.site? start = some site ↔ token = .capture site.name ∧ site.place = start := by
  obtain ⟨place, name⟩ := site
  cases token with
  | literal c => simp [site?]
  | capture name' => simp [site?, and_comm, eq_comm]

theorem length_source_pos (token : Token) : 0 < token.source.length := by
  cases token with
  | literal c => simp [source]
  | capture name => simp [source]

/-- A capture among tokens stands behind what the tokens before it spell. -/
theorem mem_sitesFrom : site ∈ sitesFrom start tokens ↔
    ∃ before after, tokens = before ++ .capture site.name :: after ∧
      site.place = start + (before.flatMap source).length := by
  induction tokens generalizing start with
  | nil => simp [sitesFrom]
  | cons token tokens ih =>
      rw [sitesFrom, List.mem_append, Option.mem_toList, site?_eq_some, ih]
      constructor
      · rintro (⟨rfl, hplace⟩ | ⟨before, after, rfl, hplace⟩)
        · exact ⟨[], tokens, rfl, by simpa using hplace⟩
        · refine ⟨token :: before, after, rfl, ?_⟩
          rw [hplace, List.flatMap_cons, List.length_append, Nat.add_assoc]
      · rintro ⟨before, after, htokens, hplace⟩
        cases before with
        | nil =>
            obtain ⟨rfl, rfl⟩ := List.cons.inj htokens
            exact .inl ⟨rfl, by simpa using hplace⟩
        | cons first before =>
            obtain ⟨rfl, rfl⟩ := List.cons.inj htokens
            refine .inr ⟨before, after, rfl, ?_⟩
            rw [hplace, List.flatMap_cons, List.length_append, Nat.add_assoc]

/-- The captures among tokens come in the order of their places. -/
theorem pairwise_sitesFrom (start : Nat) (tokens : List Token) :
    (sitesFrom start tokens).Pairwise fun a b => a.place < b.place := by
  induction tokens generalizing start with
  | nil => exact List.Pairwise.nil
  | cons token tokens ih =>
      refine List.pairwise_append.2 ⟨?_, ih _, fun a ha b hb => ?_⟩
      · cases token.site? start with
        | none => exact List.Pairwise.nil
        | some site => exact List.pairwise_singleton ..
      · obtain ⟨-, hstart⟩ := site?_eq_some.1 (Option.mem_toList.1 ha)
        obtain ⟨before, after, -, hplace⟩ := mem_sitesFrom.1 hb
        have hlength := length_source_pos token
        omega

theorem map_name_sitesFrom (start : Nat) (tokens : List Token) :
    (sitesFrom start tokens).map (fun site => String.ofList site.name)
      = tokens.filterMap name? := by
  induction tokens generalizing start with
  | nil => rfl
  | cons token tokens ih =>
      rw [sitesFrom, List.map_append, ih]
      cases token with
      | literal c => rfl
      | capture name => rfl

end Token

/-- The captures that scanning finds are those that are written in the text. -/
theorem mem_sites_ofString {site : Site} {text : String} :
    site ∈ (ofString text).sites ↔ site.IsIn text.toList := by
  rw [sites, ofString, Token.mem_sitesFrom]
  dsimp only
  constructor
  · rintro ⟨before, after, htokens, hplace⟩
    have htext := Token.flatMap_source_scan text.toList
    rw [htokens, List.flatMap_append, List.flatMap_cons] at htext
    have hmem : .capture site.name ∈ Token.scan none text.toList := by
      rw [htokens]
      exact List.mem_append_right _ (List.mem_cons_self ..)
    refine ⟨Token.isName_of_mem_scan hmem, before.flatMap Token.source,
      after.flatMap Token.source, ?_, ?_⟩
    · rw [hplace, Nat.zero_add]
    · rw [← htext, List.append_assoc]
      rfl
  · rintro ⟨hname, before, after, hplace, htext⟩
    refine ⟨Token.scan none before, Token.scan none after, ?_, ?_⟩
    · rw [htext]
      exact Token.scan_around hname before after
    · rw [Token.flatMap_source_scan, hplace, Nat.zero_add]

/-! ## What the expression is written from -/

/-- A literal text in an expression. -/
def escaped (cs : List Char) : String :=
  String.join (cs.map fun c => (Token.literal c).pattern)

/-- The expression for an outline: its literal texts with a group between any two. -/
def Outline.pattern (l : Outline) : String :=
  "\\A" ++ (escaped l.lead ++ String.join (l.holes.map fun h => "([^/\\n]+)" ++ escaped h.after))
    ++ "\\Z"

theorem pattern_ofString (text : String) :
    (ofString text).pattern = (ofString text).outline.pattern := by
  have hholes (holes : List Hole) :
      String.join ((holes.flatMap fun h => .capture h.name :: h.after.map .literal).map
        Token.pattern)
        = String.join (holes.map fun h => "([^/\\n]+)" ++ escaped h.after) := by
    induction holes with
    | nil => rfl
    | cons hole rest ih =>
        have hcapture : Token.pattern (.capture hole.name) = "([^/\\n]+)" := rfl
        rw [List.flatMap_cons, List.map_append, String.join_append, ih, List.map_cons,
          String.join_cons, List.map_map, List.map_cons, String.join_cons, hcapture]
        rfl
  rw [pattern, tokens_ofString, Outline.tokens, List.map_append, String.join_append, hholes,
    List.map_map, Outline.pattern]
  rfl

/-! ## Scanning -/

/-- **Scanning is lossless and finds every capture.** A template has an outline that spells its
    text: the literal texts with the names between braces put in between are the text, the names
    are names, and no literal text holds a capture. The template has the tokens, the names and the
    expression of that outline, which is the only one. Its captures are all that are written in the
    text, each at its place, in the order of the places. -/
theorem ofString_lossless (text : String) :
    (∀ l : Outline, l.Spells text.toList ↔ l = (ofString text).outline) ∧
      (ofString text).tokens = (ofString text).outline.tokens ∧
      (ofString text).names = (ofString text).outline.names ∧
      (ofString text).pattern = (ofString text).outline.pattern ∧
      (ofString text).names
        = (ofString text).sites.map (fun site => String.ofList site.name) ∧
      ((ofString text).sites.Pairwise fun a b => a.place < b.place) ∧
      ∀ site, site ∈ (ofString text).sites ↔ site.IsIn text.toList := by
  refine ⟨fun l => ⟨fun hl => (outline_ofString hl).symm, ?_⟩, tokens_ofString text,
    names_ofString text, pattern_ofString text, (Token.map_name_sitesFrom 0 _).symm,
    Token.pairwise_sitesFrom 0 _, fun site => mem_sites_ofString⟩
  rintro rfl
  exact outline_spells text

/-- Braces that are empty, nested, unclosed or around a slash are literal, and the captures among
    them are found. -/
example : (ofString "\x7b\x7b{a}\x7d/{}{b/c}{d}\x7b").sites = [⟨2, ['a']⟩, ⟨14, ['d']⟩] := by
  decide +kernel

end ApiRouter.Template
