import ApiRouter.Yaml.Error
import ApiRouter.Yaml.Tag

set_option autoImplicit false

/-! # Nodes

What a text consists of. Nodes refer to their parts by number, because an alias may name a node a
second time, even within that node itself. -/

namespace ApiRouter.Yaml

/-- What a node consists of; its parts are given by their numbers. -/
inductive Content where
  | scalar (text : String)
  | list (items : List Nat)
  | map (entries : List (Nat × Nat))
  deriving DecidableEq, Repr

/-- A node. -/
structure Node where
  tag : Tag
  content : Content
  deriving DecidableEq, Repr

/-- Nodes by their numbers. -/
abbrev Graph := Array Node

namespace Graph

/-- The node with a number; beyond the last number there are empty ones. -/
def node (g : Graph) (n : Nat) : Node :=
  g[n]?.getD ⟨.null, .scalar ""⟩

/-- The tag of a node. -/
def tag (g : Graph) (n : Nat) : Tag :=
  (g.node n).tag

/-- The content of a node. -/
def content (g : Graph) (n : Nat) : Content :=
  (g.node n).content

/-- The entries of a mapping; other nodes have none. -/
def entries (g : Graph) (n : Nat) : List (Nat × Nat) :=
  match g.content n with
  | .map es => es
  | .scalar _ | .list _ => []

/-- Gives a node another content. -/
def setContent (g : Graph) (n : Nat) (content : Content) : Graph :=
  g.modify n fun node => { node with content }

/-- Gives a node another tag. -/
def setTag (g : Graph) (n : Nat) (tag : Tag) : Graph :=
  g.modify n fun node => { node with tag }

/-- The text of a scalar. A mapping has the text under its key for a default value. -/
def scalarText (g : Graph) : (fuel : Nat) → Nat → Except Error String
  | 0, _ => .error (.defect .endless)
  | fuel + 1, n =>
    match g.content n with
    | .scalar text => .ok text
    | .list _ => refuse .otherKind
    | .map entries =>
      match entries.find? fun e => g.tag e.1 == .value with
      | some e => scalarText g fuel e.2
      | none => refuse .otherKind

/-! ## Merging -/

/-- What the first merge key of a mapping names, and the other entries. -/
def splitMerge? (g : Graph) : List (Nat × Nat) → Option (Nat × List (Nat × Nat))
  | [] => none
  | (k, v) :: rest =>
    if g.tag k == .merge then some (v, rest)
    else (splitMerge? g rest).map fun (source, others) => (source, (k, v) :: others)

/-- The number of merge keys. -/
def mergeCount (g : Graph) : Nat :=
  let counts := g.toList.map fun node =>
    match node.content with
    | .map es => (es.filter fun e => g.tag e.1 == .merge).length
    | .scalar _ | .list _ => 0
  counts.foldl (· + ·) 0

/-- Makes the keys for default values texts. -/
def withTextKeys (g : Graph) (entries : List (Nat × Nat)) : Graph :=
  entries.foldl (fun g e => if g.tag e.1 == .value then g.setTag e.1 .text else g) g

/-- Replaces the merge keys of a mapping by the entries that it takes over, of which `taken` are
known. They come first; of several mappings in a list the last one does. Each step takes away a
merge key, so `fuel` may be the number of all of them. -/
def flattenWith (n : Nat) (taken : List (Nat × Nat)) : (fuel : Nat) → Graph → Except Error Graph
  | 0, g => .ok g
  | fuel + 1, g =>
    match g.splitMerge? (g.entries n) with
    | none =>
      let entries := taken ++ g.entries n
      .ok ((g.withTextKeys entries).setContent n (.map entries))
    | some (source, others) => do
      let g := g.setContent n (.map others)
      let (found, g) ←
        match g.content source with
        | .map _ => do
          let g ← flattenWith source [] fuel g
          Except.ok (g.entries source, g)
        | .list items =>
          items.foldlM (fun (found, g) item =>
            match g.content item with
            | .map _ => do
              let g ← flattenWith item [] fuel g
              Except.ok (g.entries item ++ found, g)
            | .scalar _ | .list _ => refuse .badMerge) (([] : List (Nat × Nat)), g)
        | .scalar _ => refuse .badMerge
      flattenWith n (taken ++ found) fuel g

/-- Replaces the merge keys of a mapping by the entries that it takes over. -/
def flatten (n : Nat) (g : Graph) : Except Error Graph :=
  flattenWith n [] (g.mergeCount + 1) g

end Graph

end ApiRouter.Yaml
