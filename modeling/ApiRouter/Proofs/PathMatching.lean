import ApiRouter.Proofs.Outline

set_option autoImplicit false

/-! # The paths that a template matches

A path is cut by a template when it consists of the literal texts of the template with a segment for
each capture between them. Matching finds a cut whenever there is one; of several it takes the one
whose first segment is the longest, then the second, and so on. -/

namespace ApiRouter.Template

/-! ## Segments -/

/-- What a capture may hold. -/
structure IsSegment (value : List Char) : Prop where
  nonempty : value ≠ []
  plain : ∀ c ∈ value, c ≠ '/' ∧ c ≠ '\n'

instance : DecidablePred IsSegment := fun value =>
  have : Decidable (∀ c ∈ value, c ≠ '/' ∧ c ≠ '\n') := List.decidableBAll _ value
  decidable_of_iff (value ≠ [] ∧ ∀ c ∈ value, c ≠ '/' ∧ c ≠ '\n')
    ⟨fun h => ⟨h.1, h.2⟩, fun h => ⟨h.1, h.2⟩⟩

namespace Token

variable {next : List Char → Option (List (List Char))} {taken path : List Char}
  {captures : List (List Char)}

/-- The characters can all be captured. -/
def AreCaptured (cs : List Char) : Prop := ∀ c ∈ cs, isSegmentChar c = true

theorem isSegment_iff {value : List Char} :
    IsSegment value ↔ value ≠ [] ∧ AreCaptured value := by
  have hchar (c : Char) : isSegmentChar c = true ↔ c ≠ '/' ∧ c ≠ '\n' := by
    simp [isSegmentChar]
  constructor
  · intro h
    exact ⟨h.nonempty, fun c hc => (hchar c).2 (h.plain c hc)⟩
  · intro h
    exact ⟨h.1, fun c hc => (hchar c).1 (h.2 c hc)⟩

/-- A capture that cannot go on is followed by a text that `next` refuses, however far it goes. -/
theorem extend_eq_none :
    extend next taken path = none ↔
      ∀ more rest, AreCaptured more → path = more ++ rest → next rest = none := by
  induction path generalizing taken with
  | nil =>
      rw [extend, Option.map_eq_none_iff]
      constructor
      · intro h more rest _ hsplit
        rwa [(List.append_eq_nil_iff.1 hsplit.symm).2]
      · intro h
        exact h [] [] (by simp [AreCaptured]) rfl
  | cons c cs ih =>
      have hstay : (next (c :: cs)).map (taken.reverse :: ·) = none ↔ next (c :: cs) = none :=
        Option.map_eq_none_iff
      -- a longer way takes the character at hand first
      have hsplit : (∀ more rest, AreCaptured more → c :: cs = more ++ rest → next rest = none) ↔
          next (c :: cs) = none ∧ (isSegmentChar c = true →
            ∀ more rest, AreCaptured more → cs = more ++ rest → next rest = none) := by
        constructor
        · intro h
          refine ⟨h [] _ (by simp [AreCaptured]) rfl, fun hc more rest hmore hcs => ?_⟩
          exact h (c :: more) rest (List.forall_mem_cons.2 ⟨hc, hmore⟩) (by rw [hcs]; rfl)
        · rintro ⟨hnow, hlater⟩ more rest hmore hcs
          cases more with
          | nil => rwa [← List.nil_append rest, ← hcs]
          | cons d more =>
              obtain ⟨rfl, htail⟩ := List.cons_eq_cons.1 (hcs.trans (List.cons_append ..))
              obtain ⟨hc, hmore⟩ := List.forall_mem_cons.1 hmore
              exact hlater hc more rest hmore htail
      rw [hsplit, extend]
      by_cases hc : isSegmentChar c = true
      · rw [if_pos hc]
        cases hfurther : extend next (c :: taken) cs with
        | none =>
            have hlater := ih.1 hfurther
            rw [hstay]
            exact ⟨fun hnow => ⟨hnow, fun _ => hlater⟩, fun h => h.1⟩
        | some captures =>
            have hnot : ¬ ∀ more rest, AreCaptured more → cs = more ++ rest → next rest = none := by
              intro h
              rw [ih.2 h] at hfurther
              cases hfurther
            simp [hc, hnot]
      · rw [if_neg hc]
        simp [hstay, hc]

/-- A capture that goes on takes as much as lets `next` accept the rest. -/
theorem exists_of_extend (h : extend next taken path = some captures) :
    ∃ more rest values, AreCaptured more ∧ path = more ++ rest ∧ next rest = some values ∧
      captures = (taken.reverse ++ more) :: values ∧
      ∀ more' rest', AreCaptured more' → path = more' ++ rest' → more.length < more'.length →
        next rest' = none := by
  induction path generalizing taken with
  | nil =>
      obtain ⟨values, hvalues, rfl⟩ := Option.map_eq_some_iff.1 h
      refine ⟨[], [], values, by simp [AreCaptured], rfl, hvalues, by simp, ?_⟩
      intro more' rest' _ hsplit hlength
      rw [(List.append_eq_nil_iff.1 hsplit.symm).1] at hlength
      cases hlength
  | cons c cs ih =>
      rw [extend] at h
      split at h
      · next found hfound =>
          cases h
          split at hfound
          · next hc =>
              obtain ⟨more, rest, values, hmore, rfl, hvalues, rfl, hgreatest⟩ := ih hfound
              refine ⟨c :: more, rest, values, List.forall_mem_cons.2 ⟨hc, hmore⟩, rfl, hvalues,
                by simp, ?_⟩
              intro more' rest' hmore' hsplit hlength
              cases more' with
              | nil => cases hlength
              | cons d more' =>
                  obtain ⟨-, htail⟩ := List.cons_eq_cons.1 (hsplit.trans (List.cons_append ..))
                  exact hgreatest more' rest' (List.forall_mem_cons.1 hmore').2 htail
                    (Nat.lt_of_succ_lt_succ hlength)
          · cases hfound
      · next hstop =>
          obtain ⟨values, hvalues, rfl⟩ := Option.map_eq_some_iff.1 h
          refine ⟨[], c :: cs, values, by simp [AreCaptured], rfl, hvalues, by simp, ?_⟩
          intro more' rest' hmore' hsplit hlength
          cases more' with
          | nil => cases hlength
          | cons d more' =>
              obtain ⟨rfl, htail⟩ := List.cons_eq_cons.1 (hsplit.trans (List.cons_append ..))
              obtain ⟨hc, hmore'⟩ := List.forall_mem_cons.1 hmore'
              rw [if_pos hc] at hstop
              exact extend_eq_none.1 hstop more' rest' hmore' htail

variable {name : List Char} {tokens : List Token}

/-- A capture finds nothing when no segment is followed by what the tokens after it match. -/
theorem matchAll_capture_eq_none :
    matchAll (.capture name :: tokens) path = none ↔
      ∀ value rest, IsSegment value → path = value ++ rest → matchAll tokens rest = none := by
  cases path with
  | nil =>
      have hno (value rest : List Char) (hvalue : IsSegment value) : [] ≠ value ++ rest :=
        fun h => hvalue.nonempty (List.append_eq_nil_iff.1 h.symm).1
      rw [matchAll]
      exact iff_of_true rfl fun value rest hvalue hsplit => absurd hsplit (hno value rest hvalue)
  | cons c cs =>
      rw [matchAll]
      by_cases hc : isSegmentChar c = true
      · rw [if_pos hc, extend_eq_none]
        constructor
        · intro h value rest hvalue hsplit
          obtain ⟨hne, hplain⟩ := isSegment_iff.1 hvalue
          obtain ⟨d, more, rfl⟩ := List.exists_cons_of_ne_nil hne
          obtain ⟨-, hcs⟩ := List.cons.inj hsplit
          exact h more rest (List.forall_mem_cons.1 hplain).2 hcs
        · intro h more rest hmore hcs
          exact h (c :: more) rest
            (isSegment_iff.2 ⟨by simp, List.forall_mem_cons.2 ⟨hc, hmore⟩⟩) (by rw [hcs]; rfl)
      · rw [if_neg hc]
        refine iff_of_true rfl fun value rest hvalue hsplit => ?_
        obtain ⟨hne, hplain⟩ := isSegment_iff.1 hvalue
        obtain ⟨d, more, rfl⟩ := List.exists_cons_of_ne_nil hne
        obtain ⟨rfl, -⟩ := List.cons.inj hsplit
        exact absurd (List.forall_mem_cons.1 hplain).1 hc

/-- A capture takes the longest segment that is followed by what the tokens after it match. -/
theorem exists_of_matchAll_capture (h : matchAll (.capture name :: tokens) path = some captures) :
    ∃ value rest values, IsSegment value ∧ path = value ++ rest ∧
      matchAll tokens rest = some values ∧ captures = value :: values ∧
      ∀ value' rest', IsSegment value' → path = value' ++ rest' → value.length < value'.length →
        matchAll tokens rest' = none := by
  cases path with
  | nil => cases h
  | cons c cs =>
      rw [matchAll] at h
      split at h
      · next hc =>
          obtain ⟨more, rest, values, hmore, rfl, hvalues, rfl, hgreatest⟩ := exists_of_extend h
          refine ⟨c :: more, rest, values,
            isSegment_iff.2 ⟨by simp, List.forall_mem_cons.2 ⟨hc, hmore⟩⟩, rfl, hvalues, rfl, ?_⟩
          intro value' rest' hvalue' hsplit hlength
          obtain ⟨hne, hplain⟩ := isSegment_iff.1 hvalue'
          obtain ⟨d, more', rfl⟩ := List.exists_cons_of_ne_nil hne
          obtain ⟨-, hsplit⟩ := List.cons.inj hsplit
          exact hgreatest more' rest' (List.forall_mem_cons.1 hplain).2 hsplit
            (Nat.lt_of_succ_lt_succ hlength)
      · cases h

end Token

/-! ## Cuts -/

namespace Outline

/-- The path that has the values in place of the captures. -/
def path (l : Outline) (values : List (List Char)) : List Char :=
  l.lead ++ (l.holes.zip values).flatMap fun p => p.2 ++ p.1.after

/-- The path consists of the literal texts of the outline, with these segments between them. -/
structure Cuts (l : Outline) (path : List Char) (values : List (List Char)) : Prop where
  length_eq : values.length = l.holes.length
  segments : ∀ value ∈ values, IsSegment value
  path_eq : path = l.path values

variable {lead : List Char} {hole : Hole} {holes : List Hole} {cs : List Char}
  {values : List (List Char)}

/-- Without captures a path is the literal text. -/
theorem cuts_nil : Cuts ⟨lead, []⟩ cs values ↔ values = [] ∧ cs = lead := by
  constructor
  · rintro ⟨hlength, -, rfl⟩
    exact ⟨List.length_eq_zero_iff.1 hlength, by simp [path]⟩
  · rintro ⟨rfl, rfl⟩
    exact ⟨rfl, by simp, by simp [path]⟩

/-- A path begins with the literal text and the first segment, and goes on as the outline after it. -/
theorem cuts_cons :
    Cuts ⟨lead, hole :: holes⟩ cs values ↔
      ∃ value rest more, values = value :: more ∧ IsSegment value ∧ cs = lead ++ (value ++ rest) ∧
        Cuts ⟨hole.after, holes⟩ rest more := by
  constructor
  · rintro ⟨hlength, hsegments, rfl⟩
    obtain ⟨value, more, rfl⟩ := List.exists_cons_of_length_eq_add_one hlength
    obtain ⟨hvalue, hmore⟩ := List.forall_mem_cons.1 hsegments
    exact ⟨value, _, more, rfl, hvalue, by simp [path],
      ⟨Nat.succ.inj hlength, hmore, rfl⟩⟩
  · rintro ⟨value, rest, more, rfl, hvalue, rfl, hlength, hmore, rfl⟩
    exact ⟨congrArg Nat.succ hlength, List.forall_mem_cons.2 ⟨hvalue, hmore⟩, by simp [path]⟩

/-- The cut of a path whose segments are as long as possible, the first ones first. -/
structure LongestCut (l : Outline) (path : List Char) (values : List (List Char)) : Prop where
  cuts : l.Cuts path values
  greatest : ∀ other, l.Cuts path other → other ≠ values →
    other.map List.length < values.map List.length

/-- The tokens of an outline match a literal text, then a capture, then what comes after it. -/
theorem matchAll_tokens_cons (lead : List Char) (hole : Hole) (holes : List Hole)
    (cs : List Char) :
    Token.matchAll (tokens ⟨lead, hole :: holes⟩) cs
      = (Router.dropStart? lead cs).bind
          (Token.matchAll (.capture hole.name :: tokens ⟨hole.after, holes⟩)) := by
  rw [tokens, Token.matchAll_append, List.flatMap_cons, List.cons_append]
  rfl

/-- Matching fails only where there is no cut. -/
theorem not_cuts_of_matchAll {l : Outline} (h : Token.matchAll l.tokens cs = none) :
    ¬ l.Cuts cs values := by
  obtain ⟨lead, holes⟩ := l
  induction holes generalizing lead cs values with
  | nil =>
      rintro hcut
      obtain ⟨-, rfl⟩ := cuts_nil.1 hcut
      rw [tokens, Token.matchAll_append, Router.dropStart?_eq_some.2 (List.append_nil _).symm] at h
      cases h
  | cons hole holes ih =>
      rintro hcut
      obtain ⟨value, rest, more, rfl, hvalue, rfl, hrest⟩ := cuts_cons.1 hcut
      rw [matchAll_tokens_cons, Router.dropStart?_eq_some.2 rfl, Option.bind_some,
        Token.matchAll_capture_eq_none] at h
      exact ih hole.after (h value rest hvalue rfl) hrest

/-- What matching finds is the longest cut. -/
theorem longestCut_of_matchAll {l : Outline} (h : Token.matchAll l.tokens cs = some values) :
    l.LongestCut cs values := by
  obtain ⟨lead, holes⟩ := l
  induction holes generalizing lead cs values with
  | nil =>
      rw [tokens, Token.matchAll_append] at h
      obtain ⟨rest, hrest, hend⟩ := Option.bind_eq_some_iff.1 h
      obtain rfl := Router.dropStart?_eq_some.1 hrest
      cases rest with
      | nil =>
          cases hend
          refine ⟨cuts_nil.2 ⟨rfl, by simp⟩, fun other hother hne => ?_⟩
          exact absurd (cuts_nil.1 hother).1 hne
      | cons c rest => cases hend
  | cons hole holes ih =>
      rw [matchAll_tokens_cons] at h
      obtain ⟨start, hstart, hcapture⟩ := Option.bind_eq_some_iff.1 h
      obtain rfl := Router.dropStart?_eq_some.1 hstart
      obtain ⟨value, rest, more, hvalue, rfl, hmore, rfl, hgreatest⟩ :=
        Token.exists_of_matchAll_capture hcapture
      have hlongest := ih hole.after hmore
      refine ⟨cuts_cons.2 ⟨value, rest, more, rfl, hvalue, rfl, hlongest.cuts⟩, ?_⟩
      intro other hother hne
      obtain ⟨value', rest', more', rfl, hvalue', hsplit, hrest'⟩ := cuts_cons.1 hother
      have hsplit := List.append_cancel_left hsplit
      rw [List.map_cons, List.map_cons, List.cons_lt_cons_iff]
      rcases Nat.lt_trichotomy value'.length value.length with hshorter | hequal | hlonger
      · exact .inl hshorter
      · -- segments of one length are the same, so the rest decides
        obtain ⟨rfl, rfl⟩ := List.append_inj hsplit hequal.symm
        exact .inr ⟨rfl, hlongest.greatest more' hrest' fun he => hne (by rw [he])⟩
      · have hnone := hgreatest value' rest' hvalue' hsplit hlonger
        exact absurd hrest' (not_cuts_of_matchAll hnone)

/-- An outline cuts a path exactly when its tokens match it. -/
theorem isSome_matchAll_iff {l : Outline} :
    (Token.matchAll l.tokens cs).isSome ↔ ∃ values, l.Cuts cs values := by
  constructor
  · intro h
    obtain ⟨values, hvalues⟩ := Option.isSome_iff_exists.1 h
    exact ⟨values, (longestCut_of_matchAll hvalues).cuts⟩
  · rintro ⟨values, hcut⟩
    by_contra hnone
    exact not_cuts_of_matchAll (Option.not_isSome_iff_eq_none.1 hnone) hcut

theorem length_names (l : Outline) : l.names.length = l.holes.length := by
  rw [names, List.length_map]

/-- A cut has a segment for each name. -/
theorem Cuts.length_names {l : Outline} (h : l.Cuts cs values) :
    l.names.length = (values.map String.ofList).length := by
  rw [Outline.length_names, List.length_map, h.length_eq]

end Outline

/-! ## Captures -/

/-- The captures are the values of the longest cut, under the names of the template. -/
theorem exists_of_captures? {source path : String} {found : List (String × String)}
    (h : (ofString source).captures? path = some found) :
    ∃ values, (ofString source).outline.LongestCut path.toList values ∧
      found = Ordered.ofList ((ofString source).outline.names.zip (values.map String.ofList)) := by
  rw [captures?, tokens_ofString, names_ofString] at h
  obtain ⟨values, hvalues, rfl⟩ := Option.map_eq_some_iff.1 h
  exact ⟨values, Outline.longestCut_of_matchAll hvalues, rfl⟩

theorem isSome_captures?_iff (source path : String) :
    ((ofString source).captures? path).isSome ↔
      ∃ values, (ofString source).outline.Cuts path.toList values := by
  rw [captures?, Option.isSome_map, tokens_ofString, Outline.isSome_matchAll_iff]

end ApiRouter.Template
