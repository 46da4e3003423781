import ApiRouter.Api
import ApiRouter.Proofs.Ordered
import ApiRouter.Proofs.Outcome

set_option autoImplicit false

/-! # What a compiled link says

Compiling an operation reads its parts one after the other. When all of them can be read, each field
of the link comes from one of them, and from nothing else. -/

namespace ApiRouter.Operation

/-- The declarations of an operation: the shared ones that it does not override, then its own. -/
def Declares (op : Operation) (declared : List Value) : Prop :=
  mergedParameters op.shared (orEmpty (Entries.get op.body "parameters")) = .ok declared

/-- The operation as the readers of declarations take it. -/
def declaring (op : Operation) (declared : List Value) : Entries :=
  Entries.insert op.body "parameters" (.list declared)

theorem get_declaring (op : Operation) (declared : List Value) :
    Entries.get (op.declaring declared) "parameters" = .list declared :=
  Entries.get_insert_self ..

/-- The fields of a link, each with what it comes from. -/
structure HasLink (document : Entries) (op : Operation) (declared : List Value) (link : Link) :
    Prop where
  declares : op.Declares declared
  method : link.method = op.method
  path : op.path = .text link.href
  encType : mediaType (Entries.get op.body "consumes") (Entries.get document "consumes")
    = .ok link.encType
  mediaType : mediaType (Entries.get op.body "produces") (Entries.get document "produces")
    = .ok link.mediaType
  shape : Parameter.requestShape (.map (op.declaring declared)) = .ok link.shape
  bodyRequired : link.bodyRequired = declared.any fun d => isIn .body d && isRequired d
  headerSchema : (if declared.any (isIn .header) then
      some <$> Parameter.headerSchema (.map (op.declaring declared))
    else .ok none) = .ok link.headerSchema
  response : Response.success (Entries.get op.body "responses")
    = .ok ⟨link.successStatus, link.targetSchema⟩

theorem pathText_eq_ok {op : Operation} {href : String} :
    op.pathText = .ok href ↔ op.path = .text href := by
  unfold pathText
  split
  · next s hs =>
      rw [hs]
      simp
  · next hnot =>
      constructor
      · intro h
        cases h
      · exact fun h => absurd h (hnot _)

theorem link_eq_ok {document : Entries} {op : Operation} {link : Link} :
    op.link document = .ok link ↔ ∃ declared, HasLink document op declared link := by
  constructor
  · intro h
    obtain ⟨merged, hmerged, h⟩ := Outcome.bind_eq_ok.1 h
    obtain ⟨declared, hdeclared, hput⟩ := Outcome.bind_eq_ok.1 hmerged
    cases hput
    have hget := get_declaring op declared
    unfold declaring at hget
    simp only [hget] at h
    obtain ⟨shape, hshape, h⟩ := Outcome.bind_eq_ok.1 h
    obtain ⟨response, hresponse, h⟩ := Outcome.bind_eq_ok.1 h
    rw [← Outcome.ite_bind] at h
    obtain ⟨headerSchema, hheader, h⟩ := Outcome.bind_eq_ok.1 h
    obtain ⟨encType, henc, h⟩ := Outcome.bind_eq_ok.1 h
    obtain ⟨mediaType, hmedia, h⟩ := Outcome.bind_eq_ok.1 h
    obtain ⟨href, hhref, h⟩ := Outcome.bind_eq_ok.1 h
    cases h
    exact ⟨declared, hdeclared, rfl, pathText_eq_ok.1 hhref, henc, hmedia, hshape, rfl, hheader,
      hresponse⟩
  · rintro ⟨declared, h⟩
    have hget := get_declaring op declared
    unfold declaring at hget
    have hmerged : op.withParameters = .ok (Entries.insert op.body "parameters" (.list declared)) :=
      Outcome.bind_eq_ok.2 ⟨declared, h.declares, rfl⟩
    refine Outcome.bind_eq_ok.2 ⟨_, hmerged, ?_⟩
    simp only [hget]
    refine Outcome.bind_eq_ok.2 ⟨_, h.shape, ?_⟩
    refine Outcome.bind_eq_ok.2 ⟨_, h.response, ?_⟩
    rw [← Outcome.ite_bind]
    refine Outcome.bind_eq_ok.2 ⟨_, h.headerSchema, ?_⟩
    refine Outcome.bind_eq_ok.2 ⟨_, h.encType, ?_⟩
    refine Outcome.bind_eq_ok.2 ⟨_, h.mediaType, ?_⟩
    refine Outcome.bind_eq_ok.2 ⟨_, pathText_eq_ok.2 h.path, ?_⟩
    rw [← h.method, ← h.bodyRequired]

/-- Of the document, an operation only takes the media types. -/
theorem link_of_mediaTypes {document other : Entries}
    (hconsumes : Entries.get other "consumes" = Entries.get document "consumes")
    (hproduces : Entries.get other "produces" = Entries.get document "produces")
    (op : Operation) : op.link other = op.link document := by
  simp only [link, hconsumes, hproduces]

end ApiRouter.Operation
