import ApiRouter.Proofs.Outcome
import ApiRouter.Proofs.Trimming
import ApiRouter.RequestCheck

set_option autoImplicit false

/-! # Media types

A content type is a media type, perhaps with white space around it and with parameters behind a
semicolon. The content type of a request is read so, but the one that a link declares is compared as
it stands. A request with the declared media type is therefore let through exactly when the
declaration is the bare media type. -/

namespace ApiRouter

/-! ## Small letters -/

namespace Text

/-- Whether the small form of a character has two characters: a dotted capital i keeps its dot. -/
def isDottedCapital (c : Char) : Bool :=
  c.toNat == 304

theorem length_lowerChar (before : List Char) (c : Char) (after : List Char) :
    (lowerChar before c after).length = if isDottedCapital c then 2 else 1 := by
  unfold lowerChar isDottedCapital
  split
  · next hsigma =>
      rw [beq_iff_eq.1 hsigma]
      split
      · rfl
      · rfl
  · split
    · rfl
    · rfl

/-- The length of a small form does not depend on what stands around the text. -/
theorem length_lowerFrom (before cs : List Char) :
    (lowerFrom before cs).length = cs.length + cs.countP isDottedCapital := by
  induction cs generalizing before with
  | nil => rfl
  | cons c rest ih =>
      rw [lowerFrom, List.length_append, length_lowerChar, ih, List.length_cons, List.countP_cons]
      split
      · omega
      · omega

theorem length_lower (s : String) :
    (lower s).length = s.toList.length + s.toList.countP isDottedCapital := by
  rw [lower, String.length_ofList, length_lowerFrom]

end Text

namespace Validator

variable {text media declared given : String} {request : Request} {v : Validator} {f : Found}

/-! ## The media type in a content type -/

/-- A media type and nothing else: there are no parameters, and no white space at its ends. -/
structure IsBare (text : String) : Prop where
  trimmed : Text.IsTrimmed text.toList
  unmarked : ';' ∉ text.toList

/-- The media type in a content type is what stands before the first semicolon, without the white
    space around it. -/
structure HasMediaType (text media : String) : Prop where
  bare : IsBare media
  around : ∃ before after more, text.toList = before ++ media.toList ++ after ++ more ∧
    (∀ c ∈ before, Text.isBlank c = true) ∧ (∀ c ∈ after, Text.isBlank c = true) ∧
    ∀ c ∈ more.head?, c = ';'

theorem ne_semicolon_of_isBlank {c : Char} (h : Text.isBlank c = true) : c ≠ ';' := by
  rintro rfl
  exact absurd h (by decide)

theorem HasMediaType.mediaTypeOf_eq (h : HasMediaType text media) :
    mediaTypeOf text = Text.lower media := by
  obtain ⟨hbare, before, after, more, htext, hbefore, hafter, hmore⟩ := h
  have hfront : ∀ c ∈ before ++ media.toList ++ after, (c != ';') = true := by
    intro c hc
    rw [bne_iff_ne]
    rcases List.mem_append.1 hc with hc | hc
    · rcases List.mem_append.1 hc with hc | hc
      · exact ne_semicolon_of_isBlank (hbefore c hc)
      · rintro rfl
        exact hbare.unmarked hc
    · exact ne_semicolon_of_isBlank (hafter c hc)
  have hstop : ∀ c ∈ more.head?, (c != ';') = false := fun c hc => by simp [hmore c hc]
  rw [mediaTypeOf, htext, takeWhile_append_of_stop hfront hstop,
    Text.trim_between hbare.trimmed hbefore hafter, String.ofList_toList]

theorem exists_hasMediaType (text : String) : ∃ media, HasMediaType text media := by
  obtain ⟨before, after, hfront, hbefore, hafter, htrimmed⟩ :=
    Text.exists_trim (text.toList.takeWhile (· != ';'))
  have hbare : IsBare (String.ofList (Text.trim (text.toList.takeWhile (· != ';')))) := by
    constructor
    · rwa [String.toList_ofList]
    · rw [String.toList_ofList]
      exact fun hmark => absurd (List.mem_takeWhile_imp (Text.mem_of_mem_trim hmark)) (by decide)
  refine ⟨_, hbare, before, after, text.toList.dropWhile (· != ';'), ?_, hbefore, hafter,
    fun c hc => ?_⟩
  · rw [String.toList_ofList, ← hfront, List.takeWhile_append_dropWhile]
  · simpa using stop_dropWhile (· != ';') text.toList c hc

/-- A bare media type is its own. -/
theorem IsBare.hasMediaType (h : IsBare text) : HasMediaType text text :=
  ⟨h, [], [], [], by simp, by simp, by simp, by simp⟩

/-- What stands around a media type makes its small form longer. -/
theorem HasMediaType.isBare_iff (h : HasMediaType text media) :
    IsBare text ↔ Text.lower media = Text.lower text := by
  constructor
  · intro hbare
    rw [← h.mediaTypeOf_eq, hbare.hasMediaType.mediaTypeOf_eq]
  · intro hlower
    obtain ⟨hbare, before, after, more, htext, -⟩ := h
    -- whatever stands around the media type has a small form too, so nothing does
    have hlength := congrArg String.length hlower
    rw [Text.length_lower, Text.length_lower, htext] at hlength
    simp only [List.length_append, List.countP_append] at hlength
    have hbefore : before = [] := List.length_eq_zero_iff.1 (by omega)
    have hafter : after = [] := List.length_eq_zero_iff.1 (by omega)
    have hmore : more = [] := List.length_eq_zero_iff.1 (by omega)
    rw [hbefore, hafter, hmore, List.nil_append, List.append_nil, List.append_nil] at htext
    rwa [String.toList_inj.1 htext]

/-! ## Declared media types -/

/-- A content type differs from the declared one, if at all, in letter case, in the white space
    around the media type, and in what stands behind a semicolon. -/
def Alike (declared given : String) : Prop :=
  ∃ d g, HasMediaType declared d ∧ HasMediaType given g ∧ Text.lower g = Text.lower d

theorem alike_self (text : String) : Alike text text := by
  obtain ⟨media, hmedia⟩ := exists_hasMediaType text
  exact ⟨media, media, hmedia, hmedia, rfl⟩

theorem mediaTypeOf_eq_iff (h : Alike declared given) :
    mediaTypeOf given = Text.lower declared ↔ IsBare declared := by
  obtain ⟨d, g, hd, hg, hlower⟩ := h
  rw [hd.isBare_iff, hg.mediaTypeOf_eq, hlower]

/-- How a content type is refused. -/
def wrongContentType (declared given : String) : Failure :=
  .report .invalidRequest
    ("'Content-Type' should be " ++ declared ++ ", got " ++ mediaTypeOf given ++ ".")

/-- The content type of a body is compared when there is one and one is declared. -/
theorem checkContentType_text (declared : String) (hbody : request.body ≠ .null)
    (htype : request.contentType = some given) :
    checkContentType (.text declared) request =
      if given = "" ∨ declared = "" ∨ mediaTypeOf given = Text.lower declared then .ok ()
      else .error (wrongContentType declared given) := by
  unfold checkContentType
  rw [htype]
  split
  · next hnull => exact absurd hnull hbody
  · next hnone _ => cases hnone
  · next given' hgiven _ =>
      cases hgiven
      by_cases hempty : given = ""
      · simp [hempty]
      · by_cases hdeclared : declared = ""
        · simp [hdeclared, Value.truthy]
        · by_cases hsame : mediaTypeOf given = Text.lower declared
          · simp [hsame, Value.truthy]
          · simp [hempty, hdeclared, hsame, Value.truthy, wrongContentType, fail, Value.display,
              Scalar.display]

theorem isBare_of_eq_empty (h : declared = "") : IsBare declared := by
  subst h
  exact ⟨⟨by simp, by simp⟩, by simp⟩

theorem passes_iff_of_alike (h : Alike declared given) :
    (given = "" ∨ declared = "" ∨ mediaTypeOf given = Text.lower declared) ↔
      given = "" ∨ IsBare declared := by
  rw [mediaTypeOf_eq_iff h]
  exact or_congr_right ⟨fun hbare => hbare.elim isBare_of_eq_empty id, .inr⟩

/-- **The declared media type.** A body whose content type is the declared one, or is like it, is
    let through when the declaration is a bare media type, and when the content type is empty.
    Otherwise it is refused, and no further check is made. -/
theorem declared_content_type (hfound : v.found = some f)
    (henc : f.link.encType = .text declared) (hbody : request.body ≠ .null)
    (htype : request.contentType = some given) (halike : given = declared ∨ Alike declared given) :
    (given = "" ∨ IsBare declared → checkContentType f.link.encType request = .ok ()) ∧
      (¬ (given = "" ∨ IsBare declared) →
        checkContentType f.link.encType request = .error (wrongContentType declared given) ∧
          (v.router.options.checkContentType = true →
            v.checkRequest request = .error (wrongContentType declared given))) := by
  have halike' : Alike declared given := by
    rcases halike with rfl | halike
    · exact alike_self given
    · exact halike
  have hcheck := checkContentType_text declared hbody htype
  rw [← henc] at hcheck
  refine ⟨fun h => hcheck.trans (if_pos ((passes_iff_of_alike halike').2 h)), fun h => ?_⟩
  have hrefused := hcheck.trans (if_neg fun hpasses => h ((passes_iff_of_alike halike').1 hpasses))
  refine ⟨hrefused, fun hon => ?_⟩
  rw [checkRequest, hfound]
  simp only [hon, if_true, hrefused]
  rfl

/-- A document with one operation, whose bodies have the given content type. -/
def consuming (declared : String) : Entries :=
  [(.text "swagger", .text "2.0"), (.text "definitions", .map []),
    (.text "consumes", .list [.text declared]),
    (.text "paths", .object [("/notes", .object [("post", .map [])])])]

/-- A request to that operation, with an empty mapping as its body. -/
def noteOf (contentType : String) : Request :=
  ⟨"POST", "/notes", "", [], [], [], .map [], some contentType⟩

theorem body_noteOf_ne_null (contentType : String) : (noteOf contentType).body ≠ .null := by
  intro h
  cases h

/-- The document compiles, and the request is one to its operation. -/
theorem exists_found_noteOf (declared given : String)
    (h : (Api.compile (consuming declared) .standard).toOption.map
      (fun api => (forRequest (Router.ofApi api none .standard) (noteOf given)).found.map
        fun f => f.link.encType) = some (some (.text declared))) :
    ∃ api f, Api.compile (consuming declared) .standard = .ok api ∧
      (forRequest (Router.ofApi api none .standard) (noteOf given)).found = some f ∧
      f.link.encType = .text declared := by
  obtain ⟨api, hapi, h⟩ := Outcome.exists_of_toOption_map h
  obtain ⟨f, hf, henc⟩ := Option.map_eq_some_iff.1 h
  exact ⟨api, f, hapi, hf, henc⟩

/-- Capitals, white space and parameters make no difference beside a bare declaration. -/
theorem bare_content_type_passes :
    ∃ api f, Api.compile (consuming "Application/JSON") .standard = .ok api ∧
      (forRequest (Router.ofApi api none .standard)
        (noteOf " application/json ; charset=utf-8")).found = some f ∧
      Alike "Application/JSON" " application/json ; charset=utf-8" ∧
      IsBare "Application/JSON" ∧
      checkContentType f.link.encType (noteOf " application/json ; charset=utf-8") = .ok () := by
  obtain ⟨api, f, hapi, hfound, henc⟩ := exists_found_noteOf "Application/JSON"
    " application/json ; charset=utf-8" (by decide +kernel)
  have hbare : IsBare "Application/JSON" :=
    ⟨Text.isTrimmed_iff.2 (by decide +kernel), by decide +kernel⟩
  have halike : Alike "Application/JSON" " application/json ; charset=utf-8" :=
    ⟨"Application/JSON", "application/json", hbare.hasMediaType,
      ⟨⟨Text.isTrimmed_iff.2 (by decide +kernel), by decide +kernel⟩, [' '], [' '],
        ';' :: " charset=utf-8".toList, by decide +kernel,
        List.forall_mem_singleton.2 (by decide), List.forall_mem_singleton.2 (by decide), by simp⟩,
      by decide +kernel⟩
  have hpasses := (declared_content_type hfound henc (body_noteOf_ne_null _) rfl (.inr halike)).1
  exact ⟨api, f, hapi, hfound, halike, hbare, hpasses (.inr hbare)⟩

/-- The very content type that is declared is refused when it has a parameter. -/
theorem declared_parameter_refused :
    ∃ api f, Api.compile (consuming "application/json; charset=utf-8") .standard = .ok api ∧
      (forRequest (Router.ofApi api none .standard)
        (noteOf "application/json; charset=utf-8")).found = some f ∧
      f.link.encType = .text "application/json; charset=utf-8" ∧
      checkContentType f.link.encType (noteOf "application/json; charset=utf-8")
        = fail .invalidRequest
          "'Content-Type' should be application/json; charset=utf-8, got application/json." := by
  obtain ⟨api, f, hapi, hfound, henc⟩ := exists_found_noteOf
    "application/json; charset=utf-8" "application/json; charset=utf-8" (by decide +kernel)
  refine ⟨api, f, hapi, hfound, henc, ?_⟩
  rw [henc]
  decide +kernel

end Validator

end ApiRouter
