import ApiRouter.Yaml.Graph
import ApiRouter.Yaml.Token

set_option autoImplicit false

/-! # From tokens to nodes

The graph that tokens describe. A collection has its number before its parts are read, so that they
can name it. -/

namespace ApiRouter.Yaml

/-! ## State -/

/-- The tokens that are left, and what is known from those before. -/
structure Composition where
  tokens : List Token
  /-- What there is instead of a further token. -/
  stop : Error
  /-- The beginning of the addresses that each handle stands for. -/
  handles : List (String × String)
  /-- The nodes with anchors. -/
  anchors : List (String × Nat)
  /-- The nodes so far; the parts of a collection are missing until all of them are known. -/
  graph : Graph

abbrev Composing := StateT Composition (Except Error)

namespace Composing

/-- Ends with an offence. -/
def offend {α : Type} (cause : Cause) : Composing α :=
  fun _ => refuse cause

/-- The next token, which stays. -/
def next : Composing Token := fun s =>
  match s.tokens with
  | t :: _ => .ok (t, s)
  | [] => .error s.stop

/-- Moves past the next token. -/
def advance : Composing Unit :=
  modify fun s => { s with tokens := s.tokens.drop 1 }

/-! ## Properties -/

/-- The tag that a node is given. -/
inductive Given where
  | untagged
  /-- A tag that asks for the usual one. -/
  | usual
  | tagged (tag : Tag)

/-- The tag of a collection whose kind has a usual one. -/
def Given.orElse (g : Given) (usual : Tag) : Tag :=
  match g with
  | .tagged t => t
  | .untagged | .usual => usual

/-- The tag of a scalar. -/
def Given.ofScalar (g : Given) (plain : Bool) (text : String) : Tag :=
  match g with
  | .tagged t => t
  | .usual => Tag.ofPlain text
  | .untagged => if plain then Tag.ofPlain text else .text

/-- The tag that a written tag means under the handles of the document. -/
def given (t : TagText) : Composing Given := do
  let ofAddress (address : String) : Given :=
    if address == "!" then .usual else .tagged (Tag.ofAddress address)
  match t.handle with
  | none => return ofAddress t.address
  | some handle =>
    match (← get).handles.lookup handle with
    | some start => return ofAddress (start ++ t.address)
    | none => offend .undefinedHandle

/-- The anchor and the tag before the content of a node. -/
structure Properties where
  anchor : Option String
  tag : Option TagText

/-- The properties that are next, in either order. -/
def properties : Composing Properties := do
  match ← next with
  | .anchor a =>
    advance
    match ← next with
    | .tag t => advance; return ⟨some a, some t⟩
    | _ => return ⟨some a, none⟩
  | .tag t =>
    advance
    match ← next with
    | .anchor a => advance; return ⟨some a, some t⟩
    | _ => return ⟨none, some t⟩
  | _ => return ⟨none, none⟩

/-- Notes what an anchor names. -/
def define (anchor : Option String) (node : Nat) : Composing Unit :=
  match anchor with
  | none => return
  | some a => modify fun s => { s with anchors := (a, node) :: s.anchors }

/-- The node that an alias stands for. -/
def aliased (name : String) : Composing Nat := do
  match (← get).anchors.lookup name with
  | some node => return node
  | none => offend .undefinedAlias

/-! ## Nodes -/

/-- Adds a node and gives its number. -/
def add (tag : Tag) (content : Content) : Composing Nat := do
  let s ← get
  set { s with graph := s.graph.push ⟨tag, content⟩ }
  return s.graph.size

/-- Gives a node its content. -/
def complete (node : Nat) (content : Content) : Composing Unit :=
  modify fun s => { s with graph := s.graph.setContent node content }

/-- Adds a node that is absent. -/
def absent : Composing Nat :=
  add .null (.scalar "")

/-! ## Grammar -/

/-- Whether a token cannot start the content of an item of a block. -/
def endsBlockItem : Token → Bool
  | .blockEntry | .blockEnd => true
  | _ => false

/-- Whether a token cannot start a key or a value of a block. -/
def endsBlockPart : Token → Bool
  | .key | .value | .blockEnd => true
  | _ => false

/-- Whether a token cannot start a key or a value between flow brackets. -/
def endsFlowPart (closing : Token) (t : Token) : Bool :=
  t == .flowEntry || t == closing

/-- Whether there are no more items between flow brackets; if there are, moves to the next one. -/
def flowEnds (first : Bool) (closing : Token) : Composing Bool := do
  if (← next) == closing then advance; return true
  else if first then return false
  else if (← next) != .flowEntry then offend .unfinishedFlow
  else
    advance
    if (← next) == closing then advance; return true else return false

mutual

/-- A node; `depth` levels of nesting are left. Only within a block can its content be a block,
and only the value of a key can be a list that is not indented. -/
def node (block indentless : Bool) (depth : Nat) : (fuel : Nat) → Composing Nat
  | 0 => offend .missingContent
  | fuel + 1 => do
    match ← next with
    | .alias name => advance; aliased name
    | _ =>
      let p ← properties
      let g ← match p.tag with
        | none => pure Given.untagged
        | some t => given t
      let t ← next
      match p.anchor with
      | some a => if ((← get).anchors.lookup a).isSome then offend .repeatedAnchor
      | none => pure ()
      match t with
      | .scalar plain text =>
        advance
        let found ← add (g.ofScalar plain text) (.scalar text)
        define p.anchor found
        return found
      | _ => collection block indentless p g depth fuel t
termination_by structural fuel => fuel

/-- A list or a mapping that starts with the given token. -/
def collection (block indentless : Bool) (p : Properties) (g : Given) (depth : Nat) :
    (fuel : Nat) → Token → Composing Nat
  | 0, _ => offend .missingContent
  | fuel + 1, t => do
    let starts : Bool :=
      match t with
      | .flowSequenceStart | .flowMappingStart => true
      | .blockSequenceStart | .blockMappingStart => block
      | .blockEntry => indentless
      | _ => false
    if !starts then
      if p.anchor.isNone && p.tag.isNone then offend .missingContent
      else
        let found ← add (g.ofScalar true "") (.scalar "")
        define p.anchor found
        return found
    else
      match depth with
      | 0 => fun _ => .error (.defect .endless)
      | depth + 1 =>
        let isMap : Bool :=
          match t with
          | .flowMappingStart | .blockMappingStart => true
          | _ => false
        let found ← if isMap then add (g.orElse .map) (.map []) else add (g.orElse .list) (.list [])
        define p.anchor found
        let content ←
          match t with
          | .flowSequenceStart => do
            advance
            Content.list <$> flowItems true depth fuel
          | .flowMappingStart => do
            advance
            Content.map <$> flowEntries true depth fuel
          | .blockSequenceStart => do
            advance
            Content.list <$> blockItems depth fuel
          | .blockMappingStart => do
            advance
            Content.map <$> blockEntries depth fuel
          | _ => Content.list <$> indentlessItems depth fuel
        complete found content
        return found
termination_by structural fuel _ => fuel

/-- The items of a list in block form. -/
def blockItems (depth : Nat) : (fuel : Nat) → Composing (List Nat)
  | 0 => offend .unfinishedBlock
  | fuel + 1 => do
    match ← next with
    | .blockEntry =>
      advance
      let item ← if endsBlockItem (← next) then absent else node true false depth fuel
      return item :: (← blockItems depth fuel)
    | .blockEnd => advance; return []
    | _ => offend .unfinishedBlock
termination_by structural fuel => fuel

/-- The items of a list that is not indented. -/
def indentlessItems (depth : Nat) : (fuel : Nat) → Composing (List Nat)
  | 0 => offend .unfinishedBlock
  | fuel + 1 => do
    match ← next with
    | .blockEntry =>
      advance
      let t ← next
      let item ←
        if endsBlockItem t || endsBlockPart t then absent else node true false depth fuel
      return item :: (← indentlessItems depth fuel)
    | _ => return []
termination_by structural fuel => fuel

/-- The entries of a mapping in block form. -/
def blockEntries (depth : Nat) : (fuel : Nat) → Composing (List (Nat × Nat))
  | 0 => offend .unfinishedBlock
  | fuel + 1 => do
    match ← next with
    | .key =>
      advance
      let key ← if endsBlockPart (← next) then absent else node true true depth fuel
      let value ←
        if (← next) == .value then do
          advance
          if endsBlockPart (← next) then absent else node true true depth fuel
        else absent
      return (key, value) :: (← blockEntries depth fuel)
    | .blockEnd => advance; return []
    | _ => offend .unfinishedBlock
termination_by structural fuel => fuel

/-- A key after its mark and the value that may follow it, between flow brackets. -/
def flowPair (closing : Token) (depth : Nat) : (fuel : Nat) → Composing (Nat × Nat)
  | 0 => offend .unfinishedFlow
  | fuel + 1 => do
    let t ← next
    let key ←
      if t == .value || endsFlowPart closing t then absent else node false false depth fuel
    if (← next) == .value then
      advance
      let value ←
        if endsFlowPart closing (← next) then absent else node false false depth fuel
      return (key, value)
    else return (key, ← absent)
termination_by structural fuel => fuel

/-- The items of a list in flow form. An item may be a pair, which is a mapping of one entry. -/
def flowItems (first : Bool) (depth : Nat) : (fuel : Nat) → Composing (List Nat)
  | 0 => offend .unfinishedFlow
  | fuel + 1 => do
    if ← flowEnds first .flowSequenceEnd then return []
    else
      let item ←
        if (← next) == .key then do
          advance
          match depth with
          | 0 => fun _ => .error (.defect .endless)
          | depth + 1 => do
            let pair ← flowPair .flowSequenceEnd depth fuel
            add .map (.map [pair])
        else node false false depth fuel
      return item :: (← flowItems false depth fuel)
termination_by structural fuel => fuel

/-- The entries of a mapping in flow form. A node without a value is a key all the same. -/
def flowEntries (first : Bool) (depth : Nat) : (fuel : Nat) → Composing (List (Nat × Nat))
  | 0 => offend .unfinishedFlow
  | fuel + 1 => do
    if ← flowEnds first .flowMappingEnd then return []
    else
      let entry ←
        if (← next) == .key then do
          advance
          flowPair .flowMappingEnd depth fuel
        else do
          let key ← node false false depth fuel
          pure (key, ← absent)
      return entry :: (← flowEntries false depth fuel)
termination_by structural fuel => fuel

end

/-! ## Documents -/

/-- Lists and mappings may be nested this deep. -/
def nestingLimit : Nat := 485

/-- The handles that every document knows. -/
def commonHandles : List (String × String) :=
  [("!", "!"), ("!!", Tag.commonAddress)]

/-- The directives before a document, of which `version` tells whether one gave the version. -/
def directives (version : Bool) : (fuel : Nat) → Composing Unit
  | 0 => offend .missingDocumentStart
  | fuel + 1 => do
    match ← next with
    | .directive d =>
      advance
      match d with
      | .version major =>
        if version then offend .repeatedDirective
        else if major != 1 then offend .otherVersion
        else directives true fuel
      | .handle handle address =>
        if ((← get).handles.lookup handle).isSome then offend .repeatedDirective
        else
          modify fun s => { s with handles := s.handles ++ [(handle, address)] }
          directives version fuel
      | .other => directives version fuel
    | _ => return

/-- Moves past the marks at the end of a document. -/
def documentEnds : (fuel : Nat) → Composing Unit
  | 0 => return
  | fuel + 1 => do
    if (← next) == .documentEnd then
      advance
      documentEnds fuel

/-- The node of the only document, if there is one. -/
def document (fuel : Nat) : Composing (Option Nat) := do
  match ← next with
  | .streamEnd => return none
  | t =>
    let explicit : Bool :=
      match t with
      | .directive _ | .documentStart => true
      | _ => false
    let found ←
      if explicit then do
        directives false fuel
        modify fun s => { s with handles := s.handles ++ commonHandles }
        if (← next) != .documentStart then offend .missingDocumentStart
        else
          advance
          match ← next with
          | .directive _ | .documentStart | .documentEnd | .streamEnd => absent
          | _ => node true false nestingLimit fuel
      else do
        modify fun s => { s with handles := commonHandles }
        node true false nestingLimit fuel
    documentEnds fuel
    if (← next) == .streamEnd then return some found else offend .severalDocuments

end Composing

/-- The nodes of a text and the number of the one that all others belong to; a text may hold
none. -/
def Graph.ofTokens? (t : Tokens) : Except Error (Option (Graph × Nat)) :=
  let stop := t.stop.getD (.malformed .missingContent)
  let fuel := 4 * t.tokens.length + 4
  match (Composing.document fuel).run ⟨t.tokens, stop, [], [], #[]⟩ with
  | .ok (root, s) => .ok (root.map fun n => (s.graph, n))
  | .error e => .error e

end ApiRouter.Yaml
