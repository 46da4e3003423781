import ApiRouter.Pointer

set_option autoImplicit false

/-! # Inlining references

A mapping with a `$ref` stands for the place that its pointer names; the other entries of that
mapping do not count. Inlining replaces every such mapping by its target, inlined in its turn. A
pointer that is met again while its own target is being inlined lies on a cycle and is left as it
stands.

Inlining goes from value to value, into the parts of collections and through references. Only a
limited number of steps may be under way at once. -/

namespace ApiRouter.Reference

/-- Inlines the references of a value when `room` more steps may be under way: a reference takes one
of them, a collection two. The pointers in `seen` are being inlined already. -/
def inlineWith (root : Value) : (room : Nat) → (seen : List String) → Value → Except Failure Value
  | 0, _, _ => defect .endless
  | _, _, .scalar s => .ok (.scalar s)
  | _, _, .pair a b => .ok (.pair a b)
  | _, _, .set members => .ok (.set members)
  | 1, _, _ => defect .endless
  | _, _, .endless => defect .endless
  | room + 2, seen, .list items => .list <$> items.mapM (inlineWith root room seen)
  | room + 2, seen, .map entries =>
    match Entries.find? entries "$ref" with
    | none => .map <$> entries.mapM fun (k, v) => (k, ·) <$> inlineWith root room seen v
    | some (.text r) =>
      if r ∈ seen then .ok (.map entries)
      else do inlineWith root (room + 1) (r :: seen) (← Pointer.follow root r)
    | some (.scalar (.bytes _)) => defect .wrongType
    | some (.scalar _) => defect .noMember
    | some .endless => defect .endless
    | some _ => defect .wrongType

/-- The number of steps that may be under way at once. -/
def stepLimit : Nat := 985

/-- The payload with its references to places in `root` inlined. -/
def inline (payload root : Value) : Except Failure Value :=
  inlineWith root stepLimit [] payload

end ApiRouter.Reference
