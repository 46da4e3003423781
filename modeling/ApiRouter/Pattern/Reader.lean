import ApiRouter.Pattern.Reader.Group

set_option autoImplicit false

/-! # Reading regular expressions

The grammar of regular expressions, read from left to right in one pass. A text that breaks a rule
is refused with the first offence and its place. -/

namespace ApiRouter.Pattern

namespace Reader

/-! ## Expressions -/

/-- Whether a part of a pattern is a place, which cannot be repeated. -/
def isAnchor : Node → Bool
  | .anchor _ => true
  | _ => false

/-- Whether a part of a pattern is repeated already. -/
def isRepetition : Node → Bool
  | .repetition _ _ _ _ => true
  | _ => false

/-- A part of a sequence. Flags of its own keep it apart from what stands beside it. -/
structure Part where
  node : Node
  flagged : Bool
  deriving BEq

/-- The parts one after the other. -/
def sequenceOf (parts : List Part) : Node :=
  .sequence (parts.map Part.node)

/-- An item of a sequence: a part of its own, perhaps in parentheses so that it may be repeated
whatever it is, or the parts of a group that does nothing else than hold them together. -/
inductive Item where
  | single (part : Part) (grouped : Bool)
  | group (parts : List Part)

/-- The parts that an item adds to its sequence. -/
def Item.parts : Item → List Part
  | .single part _ => [part]
  | .group parts => parts

/-- The parts of a whole sequence, whose items are given in reverse. -/
def partsOf (taken : List Item) : List Part :=
  taken.reverse.flatMap Item.parts

/-- The mark after a repetition that says how the count is chosen. -/
def greedMark : Read Greed := do
  if ← accept '?' then return .reluctant
  if ← accept '+' then return .possessive
  return .greedy

/-- Adds a repetition of the last item. -/
def repeatLast (here : Nat) (bounds : Nat × Option Nat) (items : List Item) :
    Read (List Item) := do
  match items with
  | [] => refuseAt .nothingToRepeat (here - 1)
  | last :: before =>
    if let .single part false := last then
      if isAnchor part.node then refuseAt .nothingToRepeat (here - 1)
      if isRepetition part.node then refuseAt .multipleRepeat (here - 1)
    let greed ← greedMark
    let node := .repetition greed bounds.1 bounds.2 (sequenceOf last.parts)
    return .single ⟨node, false⟩ false :: before

/-! ## Alternatives -/

/-- Whether equal parts of this kind stand for each other in any place. -/
def isPlain : Part → Bool
  | ⟨.one _, false⟩ => true
  | ⟨.anchor _, false⟩ => true
  | ⟨.backReference _ _ _ _, false⟩ => true
  | _ => false

/-- The part that all alternatives start with. -/
def commonFirst? (branches : List (List Part)) : Option Part :=
  match branches with
  | (first :: _) :: _ =>
    if isPlain first && branches.all (fun b => b.head? == some first) then some first else none
  | _ => none

/-- Splits off what all alternatives have in common at their start; each part of it is met in the
first one, which has at most `fuel` parts. -/
def splitCommon : (fuel : Nat) → List (List Part) → List Part × List (List Part)
  | 0, branches => ([], branches)
  | fuel + 1, branches =>
    match commonFirst? branches with
    | none => ([], branches)
    | some first =>
      let (more, rest) := splitCommon fuel (branches.map List.tail)
      (first :: more, rest)

/-- The set that an alternative consists of, if it is one of members. -/
def setOf? : List Part → Option CharSet
  | [⟨.one set, false⟩] => if set.negated then none else some set
  | _ => none

/-- The alternatives as one set, if each is one. -/
def unionOf? (branches : List (List Part)) : Option Node := do
  let sets ← branches.mapM setOf?
  let first ← sets.head?
  return .one { first with items := (sets.flatMap CharSet.items).eraseDups }

/-- A choice between alternatives. -/
def choice : List (List Part) → Node
  | [] => .empty
  | [parts] => sequenceOf parts
  | parts :: rest => .alt (sequenceOf parts) (choice rest)

/-- The parts of an expression that consists of alternatives: the common start of all, and one
choice or set. -/
def joinBranches (branches : List (List Part)) : List Part :=
  match branches with
  | [parts] => parts
  | branches =>
    let (common, rest) := splitCommon ((branches.headD []).length) branches
    common ++ [⟨(unionOf? rest).getD (choice rest), false⟩]

/-! ## The grammar -/

/-- How deeply the parts of an expression may be nested; each group counts twice, once for its
alternatives and once for what they hold. -/
def depthLimit : Nat := 980

mutual

/-- Alternatives up to a closing parenthesis or the end, as parts of a sequence. -/
def alternatives : (fuel depth : Nat) → Flags → (outermost : Bool) → Read (List Part)
  | 0, _, _, _ => return []
  | fuel + 1, depth, flags, outermost => do
    if depth > depthLimit then throw .tooDeep
    let parts ← items fuel (depth + 1) flags outermost []
    return joinBranches (← branches fuel depth flags outermost [parts])

/-- The alternatives that follow those read, which are given in reverse. -/
def branches : (fuel depth : Nat) → Flags → (outermost : Bool) → (taken : List (List Part)) →
    Read (List (List Part))
  | 0, _, _, _, taken => return taken.reverse
  | fuel + 1, depth, flags, outermost, taken => do
    if ← accept '|' then
      let s ← get
      let flags := if outermost then s.scope else flags
      let parts ← items fuel (depth + 1) flags false []
      branches fuel depth flags outermost (parts :: taken)
    else return taken.reverse

/-- Items up to a bar, a closing parenthesis or the end; `taken` holds the ones read, reversed. -/
def items : (fuel depth : Nat) → Flags → (first : Bool) → (taken : List Item) → Read (List Part)
  | 0, _, _, _, taken => return partsOf taken
  | fuel + 1, depth, flags, first, taken => do
    if depth > depthLimit then throw .tooDeep
    let add (node : Node) := items fuel depth flags first (.single ⟨node, false⟩ false :: taken)
    match ← peek with
    | none => return partsOf taken
    | some (.plain '|') | some (.plain ')') => return partsOf taken
    | some (.escape c) =>
      discard next
      add (← escape flags c)
    | some (.plain c) =>
      discard next
      if flags.verbose && [' ', '\t', '\n', '\r', '\x0b', '\x0c'].contains c then
        items fuel depth flags first taken
      else if flags.verbose && c == '#' then
        skipLine ((← get).rest.length + 1)
        items fuel depth flags first taken
      else if c == '[' then add (← charSet flags)
      else if c == '?' || c == '*' || c == '+' || c == '\x7b' then
        let here ← place
        match ← repeatBounds c with
        | none => add (literal flags c.toNat)
        | some bounds =>
          let taken ← repeatLast here bounds taken
          items fuel depth flags first taken
      else if c == '.' then
        let left := if flags.dotAll then [] else [SetItem.code 10]
        add (.one ⟨true, left, false, false⟩)
      else if c == '^' then
        add (.anchor (if flags.multiline then .lineStart else .textStart))
      else if c == '$' then
        add (.anchor (if flags.multiline then .lineEnd else .finalLineEnd))
      else if c == '(' then
        let start := (← place) - 1
        match ← group fuel depth flags start with
        | .inl (some item) => items fuel depth flags first (item :: taken)
        | .inl none => items fuel depth flags first taken
        | .inr _ => do
          if !first || !taken.isEmpty then refuseAt .misplacedFlags start
          let s ← get
          items fuel depth s.scope first taken
      else add (literal flags c.toNat)

/-- A group after its opening parenthesis: an item, nothing for a comment, or flags for the
whole. -/
def group : (fuel depth : Nat) → Flags → (start : Nat) → Read (Option Item ⊕ Unit)
  | 0, _, _, _ => return .inl none
  | fuel + 1, depth, flags, start => do
    let one (node : Node) (grouped : Bool) : Read (Option Item ⊕ Unit) :=
      return .inl (some (.single ⟨node, false⟩ grouped))
    if !(← accept '?') then return ← one (← captured fuel depth flags start none) true
    match ← next with
    | none => refuse .endInGroupHead 0
    | some (.plain 'P') =>
      if ← accept '<' then
        let name ← groupName '>'
        if !Text.isIdentifier name then refuse (.badGroupName name) (name.length + 1)
        one (← captured fuel depth flags start (some name)) true
      else if ← accept '=' then
        let name ← groupName ')'
        if !Text.isIdentifier name then refuse (.badGroupName name) (name.length + 1)
        match (← get).names.lookup name with
        | none => refuse (.unknownGroupName name) (name.length + 1)
        | some g =>
          match ((← get).groups[g - 1]?).join with
          | none => refuse .openGroupReference (name.length + 1)
          | some width =>
            checkBehind g
            one (.backReference g flags.ignoreCase flags.ascii width) false
      else
        match ← next with
        | none => refuse .endInGroupHead 0
        | some t => refuse (.unknownExtension ("P" ++ t.text)) (t.size + 2)
    | some (.plain ':') => return .inl (some (.group (← inside fuel depth flags start)))
    | some (.plain '#') =>
      skipComment start ((← get).rest.length + 1)
      return .inl none
    | some (.plain '=') => one (.ahead false (sequenceOf (← inside fuel depth flags start))) false
    | some (.plain '!') => one (.ahead true (sequenceOf (← inside fuel depth flags start))) false
    | some (.plain '<') =>
      match ← next with
      | none => refuse .endInGroupHead 0
      | some t =>
        if t == .plain '=' || t == .plain '!' then
          let outer := (← get).behind
          if outer.isNone then modify fun s => { s with behind := some s.groups.size }
          let body ← alternatives fuel (depth + 1) flags false
          if outer.isNone then modify fun s => { s with behind := none }
          close start
          one (.behind (t == .plain '!') (sequenceOf body)) false
        else refuse (.unknownExtension ("<" ++ t.text)) (t.size + 2)
    | some (.plain '(') =>
      let g ← conditionGroup
      checkBehind g
      let whenSet ← items fuel (depth + 1) flags false []
      let otherwise ← if ← accept '|' then
          let parts ← items fuel (depth + 1) flags false []
          if (← peek) == some (.plain '|') then refuse .tooManyBranches 0
          pure parts
        else pure []
      close start
      one (.conditional g (sequenceOf whenSet) (sequenceOf otherwise)) false
    | some (.plain '>') => one (.atomic (sequenceOf (← inside fuel depth flags start))) false
    | some t =>
      let isFlag := match t with
        | .plain c => c == '-' || (Flags.ofLetter? c).isSome
        | .escape _ => false
      if isFlag then
        match ← groupFlags t with
        | none => return .inr ()
        | some (on, off) =>
          let body ← inside fuel depth (flags.within on off) start
          return .inl (some (.single ⟨sequenceOf body, true⟩ true))
      else refuse (.unknownExtension t.text) (t.size + 1)

/-- The body of a group that captures nothing, and its closing parenthesis. -/
def inside : (fuel depth : Nat) → Flags → (start : Nat) → Read (List Part)
  | 0, _, _, _ => return []
  | fuel + 1, depth, flags, start => do
    let body ← alternatives fuel (depth + 1) flags false
    close start
    return body

/-- The body of a group that captures, and its closing parenthesis. -/
def captured : (fuel depth : Nat) → Flags → (start : Nat) → (name : Option String) → Read Node
  | 0, _, _, _, _ => return .empty
  | fuel + 1, depth, flags, start, name => do
    let g ← openGroup name
    let body := sequenceOf (← alternatives fuel (depth + 1) flags false)
    close start
    closeGroup g body
    return .capture g body

end

/-! ## Rules for the whole expression -/

/-- The first offence in an expression that is otherwise well formed: a look-behind without a fixed
width, or a repetition in a template. -/
def offence? (template : Bool) : Node → Option Cause
  | .empty => none
  | .one _ => none
  | .anchor _ => none
  | .seq a b => (offence? template a).or (offence? template b)
  | .alt a b => (offence? template a).or (offence? template b)
  | .repetition greed _ _ body =>
    if template then some (.repeatedTemplate greed) else offence? template body
  | .capture _ body => offence? template body
  | .atomic body => offence? template body
  | .ahead _ body => offence? template body
  | .behind _ body =>
    if body.width.low == body.width.high then offence? template body else some .looseLookBehind
  | .backReference _ _ _ _ => none
  | .conditional _ a b => (offence? template a).or (offence? template b)

/-- A whole expression, and whether it keeps to ASCII. -/
def expression : Read (Node × Bool) := do
  let start ← get
  goTo start.rest
  let node := sequenceOf (← alternatives (4 * start.rest.length + 8) 1 start.scope true)
  let s ← get
  if s.flags.contradict then throw .contradictoryFlags
  if !s.rest.isEmpty then refuse .unbalancedParenthesis 0
  if let some (group, n) := s.conditions.find? fun c => c.1 > s.groups.size then
    refuseAt (.invalidGroupReference group) n
  if let some cause := offence? s.flags.template node then throw (.malformed cause none)
  return (node, s.scope.ascii)

end Reader

/-- The regular expression that characters denote, for texts or for bytes. -/
def readAs (ofBytes : Bool) (source : String) : Except Error Pattern :=
  match Reader.expression.run (.start ofBytes source.toList) with
  | .ok ((node, ascii), _) => .ok ⟨source, node, ascii⟩
  | .error e => .error e

/-- The regular expression that a text denotes. -/
def read (source : String) : Except Error Pattern :=
  readAs false source

/-- The regular expression that bytes denote, for other bytes: they are read as the characters with
these codes. -/
def readBytes (source : List UInt8) : Except Error Pattern :=
  readAs true (String.ofList (Text.charsOfBytes source))

end ApiRouter.Pattern
