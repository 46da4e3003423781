import ApiRouter.Yaml.Composition
import ApiRouter.Yaml.Holding
import ApiRouter.Yaml.Scalar
import ApiRouter.Yaml.Token.Reader

set_option autoImplicit false

/-! # Reading YAML

The value that a YAML text denotes. The entries of a collection are read only when those of all
collections before it are, so of several things that are wrong the outermost one counts, and of
those in one collection the first. -/

namespace ApiRouter.Yaml

/-! ## Collections -/

/-- The collections of a graph as far as they are known. -/
structure Construction where
  graph : Graph
  /-- Which collections have been met. -/
  met : Array Bool
  /-- Those of them that are still to be filled, latest first. -/
  pending : List Nat
  holdings : Holdings

abbrev Constructing := StateT Construction (Except Error)

namespace Constructing

/-- Ends with an offence. -/
def offend {α : Type} (cause : Cause) : Constructing α :=
  fun _ => refuse cause

/-- Notes that a collection is to be filled. -/
def meet (n : Nat) : Constructing Unit :=
  modify fun c =>
    if c.met[n]?.getD false then c
    else { c with met := c.met.setIfInBounds n true, pending := n :: c.pending }

/-- What a node denotes under its tag. A timestamp must be a scalar itself. -/
def part (n : Nat) : Constructing Part := do
  let g := (← get).graph
  match g.tag n with
  | .list | .map | .orderedMap | .pairs | .set =>
    meet n
    return .collection n
  | .merge | .value | .unknown => offend .unknownTag
  | tag =>
    let text ← g.scalarText (g.size + 1) n
    match tag, g.content n with
    | .timestamp, .map _ => throw (.defect .wrongType)
    | tag, _ => return .scalar (← scalarValue tag text)

/-- The value of a key, which must be a scalar. -/
def key (n : Nat) : Constructing Scalar := do
  match ← part n with
  | .scalar s => return s
  | .collection _ => offend .compoundKey

/-- The entries of a mapping, those that it takes over first. -/
def entries (n : Nat) : Constructing (List (Scalar × Part)) := do
  match (← get).graph.content n with
  | .map _ =>
    let g ← Graph.flatten n (← get).graph
    modify fun c => { c with graph := g }
    (g.entries n).mapM fun (k, v) => return (← key k, ← part v)
  | .scalar _ | .list _ => offend .otherKind

/-- The only entry of a mapping. -/
def pair (n : Nat) : Constructing (Part × Part) := do
  match (← get).graph.content n with
  | .map [(k, v)] => return (← part k, ← part v)
  | .map _ | .scalar _ | .list _ => offend .badPair

/-- What a collection holds under its tag. -/
def holding (n : Nat) : Constructing Holding := do
  let g := (← get).graph
  match g.tag n, g.content n with
  | .list, .list items => .list <$> items.mapM part
  | .orderedMap, .list items | .pairs, .list items => .pairs <$> items.mapM pair
  | .map, _ => (fun es => .map (Ordered.ofList es)) <$> entries n
  | .set, _ => (fun es => .set (Ordered.keys (Ordered.ofList es))) <$> entries n
  | _, _ => offend .otherKind

/-- Fills a collection. -/
def fill (n : Nat) : Constructing Unit := do
  let found ← holding n
  modify fun c => { c with holdings := c.holdings.setIfInBounds n (some found) }

/-- Fills all collections that have been met, round by round. A round meets at least one collection
for the first time, unless it is the last one. -/
def fillAll : (fuel : Nat) → Constructing Unit
  | 0 => return
  | fuel + 1 => do
    let pending := (← get).pending
    if pending.isEmpty then return
    else
      modify fun c => { c with pending := [] }
      pending.reverse.forM fill
      fillAll fuel

end Constructing

/-! ## Values -/

/-- The value of a node of a graph. -/
def Graph.value (g : Graph) (n : Nat) : Except Error Value := do
  let start : Construction := ⟨g, Array.replicate g.size false, [], Array.replicate g.size none⟩
  let (root, c) ← (Constructing.part n).run start
  let (_, c) ← (Constructing.fillAll (g.size + 1)).run c
  return c.holdings.value root

/-- The value that a text denotes; a text without a document denotes null. -/
def read (text : String) : Except Error Value := do
  match ← Graph.ofTokens? (Tokens.ofText text) with
  | none => .ok .null
  | some (g, root) => g.value root

end ApiRouter.Yaml
