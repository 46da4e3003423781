import ApiRouter.Value

set_option autoImplicit false

/-! # What collections hold

The collections of a text by their numbers, and the values put together from them. A collection may
hold itself, directly or through others. Its value is then written out level by level, as deep as
there is use for, unless it holds itself at so many places that the levels grow too wide. -/

namespace ApiRouter.Yaml

/-- What a node denotes: a scalar, or a collection that is given by its number. -/
inductive Part where
  | scalar (s : Scalar)
  | collection (n : Nat)

/-- The number of a part that is a collection. -/
def Part.number? : Part → Option Nat
  | .scalar _ => none
  | .collection n => some n

/-- What a collection holds. -/
inductive Holding where
  | list (items : List Part)
  | map (entries : List (Scalar × Part))
  | pairs (entries : List (Part × Part))
  | set (members : List Scalar)

/-- The collections among the parts of a collection. -/
def Holding.inner : Holding → List Nat
  | .list items => items.filterMap Part.number?
  | .map entries => entries.filterMap fun e => e.2.number?
  | .pairs entries => entries.flatMap fun e => e.1.number?.toList ++ e.2.number?.toList
  | .set _ => []

/-- What the collections hold, by number. -/
abbrev Holdings := Array (Option Holding)

/-- The values that are put together already, by the numbers of the collections. -/
abbrev Assembled := Array (Option Value)

/-- Putting values together; it fails when there is no end to them. -/
abbrev Assembling := StateT Assembled Option

/-! ## Putting values together -/

/-- The value of what a collection holds, given those of its parts. -/
def Holding.assemble (part : Part → Assembling Value) : Holding → Assembling Value
  | .list items => .list <$> items.mapM part
  | .map entries => .map <$> entries.mapM fun (k, v) => return (k, ← part v)
  | .pairs entries => .list <$> entries.mapM fun (k, v) => return .pair (← part k) (← part v)
  | .set members => return .set members

namespace Holdings

/-- The value of a part. No more than `fuel` collections can be inside each other. -/
def assemble (holdings : Holdings) : (fuel : Nat) → Part → Assembling Value
  | _, .scalar s => return .scalar s
  | 0, .collection _ => failure
  | fuel + 1, .collection n => do
    match (← get)[n]?.getD none with
    | some v => return v
    | none =>
      let v ← match holdings[n]?.getD none with
        | some holding => holding.assemble (assemble holdings fuel)
        | none => pure .null
      modify fun done => done.setIfInBounds n (some v)
      return v

/-- The value of a part, when those of some collections are known. -/
def assembleFrom (holdings : Holdings) (known : Assembled) (part : Part) : Option Value :=
  (holdings.assemble (holdings.size + 1) part).run' known

/-! ## Collections that hold themselves -/

/-- The collections among the parts of a collection that is given by its number. -/
def inner (holdings : Holdings) (n : Nat) : List Nat :=
  match holdings[n]?.getD none with
  | some holding => holding.inner
  | none => []

/-- Marks the collections in `waiting` and all that they hold, directly or through others. -/
def reach (holdings : Holdings) : (fuel : Nat) → (waiting : List Nat) → (met : Array Bool) →
    Array Bool
  | 0, _, met => met
  | _, [], met => met
  | fuel + 1, n :: waiting, met =>
    if met[n]?.getD true then reach holdings fuel waiting met
    else reach holdings fuel (holdings.inner n ++ waiting) (met.setIfInBounds n true)

/-- Whether a collection holds itself, directly or through others. Every part of a collection has to
be looked at once at most. -/
def holdsItself (holdings : Holdings) (n : Nat) : Bool :=
  let numbers := List.range holdings.size
  let parts := numbers.foldl (fun count n => count + (holdings.inner n).length) 0
  let start := holdings.inner n
  let met := holdings.reach (start.length + parts + 1) start (Array.replicate holdings.size false)
  met[n]?.getD false

/-- Writes out one level more of the collections `own`, which hold themselves. -/
def level (holdings : Holdings) (own : List Nat) (known : Assembled) : Assembled :=
  let whole (n : Nat) : Option Value :=
    match holdings[n]?.getD none with
    | some holding =>
      (holding.assemble (holdings.assemble (holdings.size + 1))).run' known
    | none => none
  own.foldl (fun next n => next.setIfInBounds n (whole n)) known

/-- At how many places at most written-out collections hold what is not written out. -/
def openEndLimit : Nat := 500

/-- Writes out levels of the collections `own` as long as they do not grow too wide. -/
def levels (holdings : Holdings) (own : List Nat) : (count : Nat) → Assembled → Assembled
  | 0, known => known
  | count + 1, known =>
    let next := holdings.level own known
    let ends := own.map fun n => ((next[n]?.getD none).map Value.openEnds).getD 0
    if ends.any (openEndLimit < ·) then known else levels holdings own count next

/-- The number of levels that are written out at most: nobody can go in further. -/
def levelLimit : Nat := 1000

/-- The value of a part. Nothing is known beforehand, but what holds itself must be. -/
def value (holdings : Holdings) (part : Part) : Value :=
  let unknown : Assembled := Array.replicate holdings.size none
  match holdings.assembleFrom unknown part with
  | some v => v
  | none =>
    let own := (List.range holdings.size).filter holdings.holdsItself
    let start := own.foldl (fun known n => known.setIfInBounds n (some .endless)) unknown
    (holdings.assembleFrom (holdings.levels own levelLimit start) part).getD .endless

end Holdings

end ApiRouter.Yaml
