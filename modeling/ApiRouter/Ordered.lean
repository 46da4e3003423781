set_option autoImplicit false

/-! # Insertion-ordered mappings

A mapping is a list of entries in the order in which their keys were first written. A repeated key
keeps its first position and takes the last value, so a well-formed mapping holds each key once. -/

namespace ApiRouter.Ordered

variable {κ α : Type} [BEq κ]

/-- The value bound to `k`. -/
def find? (m : List (κ × α)) (k : κ) : Option α :=
  match m with
  | [] => none
  | (k', v) :: rest => if k' == k then some v else find? rest k

/-- Whether `k` is bound. -/
def has (m : List (κ × α)) (k : κ) : Bool :=
  m.any fun e => e.1 == k

/-- Binds `k` to `v`: in place when `k` is bound already, at the end otherwise. -/
def insert (m : List (κ × α)) (k : κ) (v : α) : List (κ × α) :=
  match m with
  | [] => [(k, v)]
  | (k', v') :: rest => if k' == k then (k', v) :: rest else (k', v') :: insert rest k v

/-- All of `m`, overridden and extended by the entries of `n` in order. -/
def update (m n : List (κ × α)) : List (κ × α) :=
  n.foldl (fun acc e => insert acc e.1 e.2) m

/-- The mapping written as the entries `es`. -/
def ofList (es : List (κ × α)) : List (κ × α) :=
  update [] es

/-- The keys in order. -/
def keys (m : List (κ × α)) : List κ :=
  m.map Prod.fst

/-- The values in order. -/
def values (m : List (κ × α)) : List α :=
  m.map Prod.snd

/-- Binds `k` only when it is not bound yet. -/
def insertIfNew (m : List (κ × α)) (k : κ) (v : α) : List (κ × α) :=
  if has m k then m else m ++ [(k, v)]

end ApiRouter.Ordered
