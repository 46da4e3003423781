import ApiRouter.Proofs.Merging

set_option autoImplicit false

/-! # One mapping laid on another

A path of keys leads into a mapping. Where the mapping on top holds something at a path that is no
mapping, that is what the two together hold there, and what lies below it is hidden; where it holds a
mapping, the two together hold one; and where it neither holds nor hides anything, what lies below is
held. The keys of the mapping below keep their order and come first. Laying the same mapping on once
more changes nothing. -/

namespace ApiRouter

/-! ## Paths -/

namespace Value

/-- What a value holds at a path of keys: itself where the path ends, and otherwise what stands under
the first key at the rest of the path. Only mappings hold anything under keys. -/
def reach? (v : Value) : List Scalar → Option Value
  | [] => some v
  | k :: path =>
    match v with
    | .map m => (Ordered.find? m k).bind fun w => w.reach? path
    | _ => none

/-- On the way along the path the value holds something that is no mapping. -/
def Blocks (v : Value) (path : List Scalar) : Prop :=
  ∃ before k after w, path = before ++ k :: after ∧ v.reach? before = some w ∧ w.isMap = false

variable {v w new : Value} {old : Option Value} {path : List Scalar}

theorem reach?_map_cons (m : Entries) (k : Scalar) (path : List Scalar) :
    (Value.map m).reach? (k :: path) = (Ordered.find? m k).bind fun w => w.reach? path := rfl

theorem reach?_of_not_map (h : v.isMap = false) (k : Scalar) (path : List Scalar) :
    v.reach? (k :: path) = none := by
  cases v with
  | map m => cases h
  | _ => rfl

theorem reach?_append (v : Value) (before path : List Scalar) :
    v.reach? (before ++ path) = (v.reach? before).bind fun w => w.reach? path := by
  induction before generalizing v with
  | nil => rfl
  | cons k before ih =>
      cases v with
      | map m =>
          rw [List.cons_append, reach?_map_cons, reach?_map_cons, Option.bind_assoc]
          simp only [ih]
      | _ => rfl

theorem Blocks.reach?_eq_none (h : v.Blocks path) : v.reach? path = none := by
  obtain ⟨before, k, after, w, rfl, hw, hmap⟩ := h
  rw [reach?_append, hw, Option.bind_some, reach?_of_not_map hmap]

theorem blocks_cons {m : Entries} {k : Scalar} (hfind : Ordered.find? m k = some w) :
    (Value.map m).Blocks (k :: path) ↔ w.Blocks path := by
  constructor
  · rintro ⟨before, l, after, u, hpath, hu, hmap⟩
    cases before with
    | nil =>
        cases hu
        cases hmap
    | cons first before =>
        obtain ⟨rfl, rfl⟩ := List.cons.inj hpath
        rw [reach?_map_cons, hfind, Option.bind_some] at hu
        exact ⟨before, l, after, u, rfl, hu, hmap⟩
  · rintro ⟨before, l, after, u, rfl, hu, hmap⟩
    refine ⟨k :: before, l, after, u, rfl, ?_, hmap⟩
    rw [reach?_map_cons, hfind, Option.bind_some, hu]

theorem blocks_iff_take :
    v.Blocks path ↔ ∃ i < path.length, ((v.reach? (path.take i)).any fun w => !w.isMap) = true := by
  constructor
  · rintro ⟨before, k, after, w, rfl, hw, hmap⟩
    refine ⟨before.length, by simp, ?_⟩
    rw [List.take_left, hw, Option.any_some, hmap]
    rfl
  · rintro ⟨i, hi, hany⟩
    obtain ⟨w, hw, hmap⟩ := (Option.any_eq_true _ _).1 hany
    refine ⟨path.take i, path[i], path.drop (i + 1), w, ?_, hw, by simpa using hmap⟩
    rw [← List.drop_eq_getElem_cons hi, List.take_append_drop]

instance : Decidable (v.Blocks path) :=
  decidable_of_iff _ blocks_iff_take.symm

/-! ## Mappings inside of mappings -/

mutual

/-- The mappings in a value that are reached through mappings, the value among them if it is one. -/
def levels : Value → List Entries
  | .map m => m :: levelsOf m
  | .scalar _ | .list _ | .pair _ _ | .set _ | .endless => []

def levelsOf : Entries → List Entries
  | [] => []
  | (_, v) :: rest => levels v ++ levelsOf rest

end

/-- The mappings in the value are such as can be looked into: each key is found under itself, and no
two keys of a mapping are the same. -/
structure IsProper (v : Value) : Prop where
  distinct : ∀ level ∈ v.levels, Ordered.Distinct level
  found : ∀ level ∈ v.levels, ∀ k ∈ Ordered.keys level, (k == k) = true

theorem levelsOf_eq (m : Entries) : levelsOf m = m.flatMap fun e => e.2.levels := by
  induction m with
  | nil => rfl
  | cons e rest ih => rw [levelsOf, ih, List.flatMap_cons]

theorem isProper_map {m : Entries} :
    (Value.map m).IsProper ↔ (Ordered.Distinct m ∧ ∀ k ∈ Ordered.keys m, (k == k) = true) ∧
      ∀ e ∈ m, e.2.IsProper := by
  have hlevels : (Value.map m).levels = m :: m.flatMap fun e => e.2.levels := by
    rw [levels, levelsOf_eq]
  constructor
  · rintro ⟨hdistinct, hfound⟩
    rw [hlevels, List.forall_mem_cons] at hdistinct hfound
    exact ⟨⟨hdistinct.1, hfound.1⟩, fun e he =>
      ⟨fun level hlevel => hdistinct.2 level (List.mem_flatMap_of_mem he hlevel),
        fun level hlevel => hfound.2 level (List.mem_flatMap_of_mem he hlevel)⟩⟩
  · rintro ⟨⟨hdistinct, hfound⟩, hvalues⟩
    constructor
    · rw [hlevels, List.forall_mem_cons]
      refine ⟨hdistinct, fun level hlevel => ?_⟩
      obtain ⟨e, he, hlevel⟩ := List.mem_flatMap.1 hlevel
      exact (hvalues e he).distinct level hlevel
    · rw [hlevels, List.forall_mem_cons]
      refine ⟨hfound, fun level hlevel => ?_⟩
      obtain ⟨e, he, hlevel⟩ := List.mem_flatMap.1 hlevel
      exact (hvalues e he).found level hlevel

theorem isProper_of_not_map (h : v.isMap = false) : v.IsProper := by
  have hlevels : v.levels = [] := by
    cases v with
    | map m => cases h
    | _ => rfl
  constructor
  · rw [hlevels]
    exact List.forall_mem_nil _
  · rw [hlevels]
    exact List.forall_mem_nil _

theorem IsProper.of_mem {m : Entries} (h : (Value.map m).IsProper) {e : Scalar × Value}
    (he : e ∈ m) : e.2.IsProper :=
  (isProper_map.1 h).2 e he

theorem IsProper.of_find? {m : Entries} (h : (Value.map m).IsProper) {k : Scalar}
    (hfind : Ordered.find? m k = some w) : w.IsProper := by
  obtain ⟨l, hl⟩ := Ordered.exists_mem_of_find? hfind
  exact h.of_mem hl

theorem IsProper.distinct_map {m : Entries} (h : (Value.map m).IsProper) : Ordered.Distinct m :=
  (isProper_map.1 h).1.1

theorem IsProper.find?_of_mem {m : Entries} (h : (Value.map m).IsProper) {e : Scalar × Value}
    (he : e ∈ m) : Ordered.find? m e.1 = some e.2 :=
  h.distinct_map.find?_of_mem he ((isProper_map.1 h).1.2 e.1 (List.mem_map.2 ⟨e, he, rfl⟩))

/-! ## What is held at a path -/

/-- A mapping hides what is no mapping. -/
theorem mergeOnto_map_of_not_map (h : w.isMap = false) (t : Entries) :
    mergeOnto (some w) (.map t) = .map t := by
  rw [mergeOnto]
  rintro b ⟨⟩
  cases h

/-- A mapping that is laid on something has under each key what it has there itself, laid on what was
    there before if that was held by a mapping. -/
theorem reach?_mergeOnto_cons {t : Entries} (h : Ordered.Distinct t) (old : Option Value)
    (k : Scalar) (path : List Scalar) :
    (mergeOnto old (.map t)).reach? (k :: path)
      = (laid (Ordered.find? t k) (old.bind fun w => w.reach? [k])).bind
          fun w => w.reach? path := by
  cases old with
  | none =>
      rw [mergeOnto_none, Option.bind_none, laid_none_right]
      rfl
  | some w =>
      rw [Option.bind_some]
      cases hw : w.isMap with
      | true =>
          cases w with
          | map b =>
              have hone : (Value.map b).reach? [k] = Ordered.find? b k := Option.bind_fun_some _
              rw [mergeOnto, reach?_map_cons, Entries.find?_merge_key h, hone]
          | _ => cases hw
      | false =>
          rw [mergeOnto_map_of_not_map hw, reach?_of_not_map hw, laid_none_right]
          rfl

theorem reach?_bind_cons (old : Option Value) (k : Scalar) (path : List Scalar) :
    (old.bind fun w => w.reach? (k :: path))
      = (old.bind fun w => w.reach? [k]).bind fun w => w.reach? path := by
  rw [Option.bind_assoc]
  exact Option.bind_congr fun w _ => reach?_append w [k] path

/-- Where the value on top holds something, that is laid on what was held there before. -/
theorem reach?_mergeOnto_of_some (hnew : new.IsProper) (hpath : new.reach? path = some v) :
    (mergeOnto old new).reach? path = some (mergeOnto (old.bind fun w => w.reach? path) v) := by
  induction path generalizing new old with
  | nil =>
      cases hpath
      cases old with
      | none => rfl
      | some w => rfl
  | cons k path ih =>
      cases new with
      | map t =>
          obtain ⟨w, hfind, hw⟩ := Option.bind_eq_some_iff.1 hpath
          rw [reach?_mergeOnto_cons hnew.distinct_map, hfind, laid, Option.bind_some,
            ih (hnew.of_find? hfind) hw, reach?_bind_cons old k path]
      | _ => cases hpath

/-- Where the value on top holds something on the way that is no mapping, nothing is held. -/
theorem reach?_mergeOnto_of_blocks (hnew : new.IsProper) (h : new.Blocks path) :
    (mergeOnto old new).reach? path = none := by
  obtain ⟨before, k, after, w, rfl, hw, hmap⟩ := h
  have hbefore : (mergeOnto old new).reach? before = some w := by
    rw [reach?_mergeOnto_of_some hnew hw, mergeOnto_of_not_map hmap]
  exact Blocks.reach?_eq_none ⟨before, k, after, w, rfl, hbefore, hmap⟩

/-- Where the value on top neither holds nor hides anything, what was held before is held. -/
theorem reach?_mergeOnto_of_none (hnew : new.IsProper) (hpath : new.reach? path = none)
    (hblocks : ¬ new.Blocks path) :
    (mergeOnto old new).reach? path = old.bind fun w => w.reach? path := by
  induction path generalizing new old with
  | nil => cases hpath
  | cons k path ih =>
      cases hmap : new.isMap with
      | false => exact absurd ⟨[], k, path, new, rfl, rfl, hmap⟩ hblocks
      | true =>
          cases new with
          | map t =>
              rw [reach?_mergeOnto_cons hnew.distinct_map, reach?_bind_cons old k path]
              cases hfind : Ordered.find? t k with
              | none => rw [laid_none_left]
              | some w =>
                  rw [reach?_map_cons, hfind, Option.bind_some] at hpath
                  rw [blocks_cons hfind] at hblocks
                  rw [laid, Option.bind_some, ih (hnew.of_find? hfind) hpath hblocks]
          | _ => cases hmap

/-! ## Laying the same on once more -/

/-- Laying a mapping on one that has under each key what it would have then changes nothing. -/
theorem merge_eq_self {m t : Entries}
    (h : ∀ e ∈ t, ∃ w, Ordered.find? m e.1 = some w ∧ mergeOnto (some w) e.2 = w) :
    Entries.merge m t = m := by
  induction t with
  | nil => rw [Entries.merge]
  | cons e rest ih =>
      obtain ⟨k, v⟩ := e
      obtain ⟨⟨w, hfind, hw⟩, hrest⟩ := List.forall_mem_cons.1 h
      dsimp only at hfind hw
      rw [Entries.merge, hfind, hw, Ordered.insert_of_find? hfind, ih hrest]

/-- Laying a mapping on once more changes nothing when this is so of the values in it. -/
theorem merge_merge_of_again {t : Entries} (h : (Value.map t).IsProper)
    (hagain : ∀ e ∈ t, ∀ old, mergeOnto (some (mergeOnto old e.2)) e.2 = mergeOnto old e.2)
    (base : Entries) : Entries.merge (Entries.merge base t) t = Entries.merge base t := by
  refine merge_eq_self fun e he => ⟨_, ?_, hagain e he (Ordered.find? base e.1)⟩
  rw [Entries.find?_merge_key h.distinct_map, h.find?_of_mem he, laid]

/-- Laying a mapping on itself changes nothing when this is so of the values in it. -/
theorem merge_self_of_again {t : Entries} (h : (Value.map t).IsProper)
    (hagain : ∀ e ∈ t, ∀ old, mergeOnto (some (mergeOnto old e.2)) e.2 = mergeOnto old e.2) :
    Entries.merge t t = t := by
  refine merge_eq_self fun e he => ⟨e.2, h.find?_of_mem he, ?_⟩
  have hnone := hagain e he none
  rwa [mergeOnto_none] at hnone

mutual

/-- What a value is laid on once more it was laid on already. -/
theorem mergeOnto_again : ∀ {v : Value}, v.IsProper → ∀ old : Option Value,
    mergeOnto (some (mergeOnto old v)) v = mergeOnto old v
  | .map t, h, old => by
      have hagain := values_again fun e he => h.of_mem he
      have hself : mergeOnto (some (.map t)) (.map t) = .map t := by
        rw [mergeOnto, merge_self_of_again h hagain]
      cases old with
      | none => rw [mergeOnto_none, hself]
      | some w =>
          cases hw : w.isMap with
          | true =>
              cases w with
              | map b => rw [mergeOnto, mergeOnto, merge_merge_of_again h hagain]
              | _ => cases hw
          | false => rw [mergeOnto_map_of_not_map hw, hself]
  | .scalar s, _, old => mergeOnto_of_not_map rfl _
  | .list items, _, old => mergeOnto_of_not_map rfl _
  | .pair a b, _, old => mergeOnto_of_not_map rfl _
  | .set members, _, old => mergeOnto_of_not_map rfl _
  | .endless, _, old => mergeOnto_of_not_map rfl _

theorem values_again : ∀ {t : Entries}, (∀ e ∈ t, e.2.IsProper) → ∀ e ∈ t, ∀ old : Option Value,
    mergeOnto (some (mergeOnto old e.2)) e.2 = mergeOnto old e.2
  | [], _, _, he, _ => absurd he List.not_mem_nil
  | (k, v) :: rest, h, e, he, old => by
      rw [List.forall_mem_cons] at h
      rcases List.mem_cons.1 he with rfl | hrest
      · exact mergeOnto_again h.1 old
      · exact values_again h.2 e hrest old

end

end Value

namespace Entries

/-! ## The order of the keys -/

/-- The keys of the mapping below come first and keep their order; then come the other keys of the
    mapping on top. -/
theorem keys_merge {top : Entries} (h : Ordered.Distinct top) (base : Entries) :
    Ordered.keys (merge base top)
      = Ordered.keys base ++ (Ordered.keys top).filter fun k => !Ordered.has base k := by
  induction top generalizing base with
  | nil =>
      rw [merge]
      exact (List.append_nil _).symm
  | cons e rest ih =>
      obtain ⟨k, v⟩ := e
      have hothers : (Ordered.keys rest).filter (fun l => !Ordered.has
            (Ordered.insert base k (Value.mergeOnto (Ordered.find? base k) v)) l)
          = (Ordered.keys rest).filter fun l => !Ordered.has base l := by
        refine List.filter_congr fun l hl => ?_
        rw [Ordered.has_insert, (List.pairwise_cons.1 h).1 l hl, Bool.false_or]
      have hkeys : Ordered.keys ((k, v) :: rest) = k :: Ordered.keys rest := rfl
      rw [merge, ih h.tail, hothers, Ordered.keys_insert, hkeys]
      split
      · next hk => rw [List.filter_cons_of_neg (by simp [hk])]
      · next hk => rw [List.filter_cons_of_pos (by simpa using hk), List.append_assoc]; rfl

/-- Entries under other keys come behind those that are there. -/
theorem merge_of_new {base top : Entries} (h : Ordered.Distinct top)
    (hnew : ∀ k ∈ Ordered.keys top, Ordered.has base k = false) :
    merge base top = base ++ top := by
  induction top generalizing base with
  | nil => rw [merge, List.append_nil]
  | cons e rest ih =>
      obtain ⟨k, v⟩ := e
      obtain ⟨hk, hrest⟩ := List.forall_mem_cons.1 hnew
      have hinsert := Ordered.insert_of_has_eq_false hk v
      have hnone : Ordered.find? base k = none := by
        rw [← Option.not_isSome_iff_eq_none, ← Ordered.has_eq_isSome, hk]
        exact Bool.false_ne_true
      rw [merge, hnone, Value.mergeOnto_none, ih h.tail, hinsert, List.append_assoc]
      · rfl
      · intro l hl
        rw [Ordered.has_insert, (List.pairwise_cons.1 h).1 l hl, hrest l hl, Bool.false_or]

end Entries

/-! ## Layers that are read -/

namespace Json

theorem beq_self_of_text {k : Scalar} (h : ∃ s, k = .text s) : (k == k) = true := by
  obtain ⟨s, rfl⟩ := h
  rw [Scalar.text_beq, beq_self_eq_true]

mutual

/-- The mappings in a JSON text can be looked into: their keys are texts, and each is there once. -/
theorem IsRead.isProper : ∀ {v : Value}, IsRead v → v.IsProper
  | .map _, h => Value.isProper_map.2
      ⟨⟨h.map.1, fun k hk => beq_self_of_text (h.map.2.1 k hk)⟩,
        isProper_of_values fun e he => h.map.2.2 e.2 (List.mem_map.2 ⟨e, he, rfl⟩)⟩
  | .scalar _, _ | .list _, _ | .pair _ _, _ | .set _, _ | .endless, _ =>
      Value.isProper_of_not_map rfl

theorem isProper_of_values : ∀ {m : Entries}, (∀ e ∈ m, IsRead e.2) → ∀ e ∈ m, e.2.IsProper
  | [], _, _, he => absurd he List.not_mem_nil
  | (_, v) :: rest, h, e, he => by
      rw [List.forall_mem_cons] at h
      rcases List.mem_cons.1 he with rfl | hrest
      · exact IsRead.isProper h.1
      · exact isProper_of_values h.2 e hrest

end

end Json

namespace Entries

/-! ## The laws -/

/-- What two mappings hold together: at every path, in which order, and that laying the one on top
    again, or laying with the empty mapping, changes nothing. -/
theorem merge_at_paths {base top : Entries} (h : (Value.map top).IsProper) :
    (∀ path,
      (∀ v, (Value.map top).reach? path = some v → v.isMap = false →
        (Value.map (merge base top)).reach? path = some v) ∧
      ((Value.map top).Blocks path → (Value.map (merge base top)).reach? path = none) ∧
      ((Value.map top).reach? path = none → ¬ (Value.map top).Blocks path →
        (Value.map (merge base top)).reach? path = (Value.map base).reach? path) ∧
      ∀ t, (Value.map top).reach? path = some (.map t) →
        ∃ m, (Value.map (merge base top)).reach? path = some (.map m)) ∧
    Ordered.keys (merge base top)
      = Ordered.keys base ++ (Ordered.keys top).filter (fun k => !Ordered.has base k) ∧
    merge (merge base top) top = merge base top ∧
    merge base [] = base ∧ merge [] top = top := by
  have hmerge : Value.map (merge base top) = Value.mergeOnto (some (.map base)) (.map top) := by
    rw [Value.mergeOnto]
  refine ⟨fun path => ⟨fun v hv hmap => ?_, fun hblocks => ?_, fun hnone hblocks => ?_,
    fun t ht => ?_⟩, keys_merge h.distinct_map base, ?_, by rw [merge], ?_⟩
  · rw [hmerge, Value.reach?_mergeOnto_of_some h hv, Value.mergeOnto_of_not_map hmap]
  · rw [hmerge, Value.reach?_mergeOnto_of_blocks h hblocks]
  · rw [hmerge, Value.reach?_mergeOnto_of_none h hnone hblocks]
    rfl
  · obtain ⟨m, hm⟩ :=
      Value.exists_mergeOnto_map ((Value.map base).reach? path) t
    refine ⟨m, ?_⟩
    rw [hmerge, Value.reach?_mergeOnto_of_some h ht, ← hm]
    rfl
  · exact Value.merge_merge_of_again h (Value.values_again fun e he => h.of_mem he) base
  · exact merge_of_new h.distinct_map fun k _ => rfl

/-- A layer with a mapping in a mapping. -/
def lowerLayer : Entries :=
  [(.text "group", .object [("first", .int 1), ("inner", .object [("deep", .int 2)])]),
    (.text "count", .int 5)]

/-- A layer that holds a number where the other has a mapping, and the other way round. -/
def upperLayer : Entries :=
  [(.text "last", .null), (.text "group", .object [("inner", .int 3)]),
    (.text "count", .object [("of", .int 4)])]

/-- A number hides a mapping and a mapping a number, and what only the layer below has stays. -/
theorem merge_at_paths_nested :
    (Value.map upperLayer).IsProper ∧
      (Value.map (merge lowerLayer upperLayer)).reach? [.text "group", .text "inner"]
        = some (.int 3) ∧
      (Value.map (merge lowerLayer upperLayer)).reach? [.text "group", .text "inner", .text "deep"]
        = none ∧
      (Value.map (merge lowerLayer upperLayer)).reach? [.text "group", .text "first"]
        = some (.int 1) ∧
      (∃ m, (Value.map (merge lowerLayer upperLayer)).reach? [.text "count"] = some (.map m)) ∧
      Ordered.keys (merge lowerLayer upperLayer)
        = [.text "group", .text "count", .text "last"] ∧
      merge (merge lowerLayer upperLayer) upperLayer = merge lowerLayer upperLayer := by
  have hread : Json.read
      ("\x7b\"last\":null,\"group\":\x7b\"inner\":3\x7d," ++ "\"count\":\x7b\"of\":4\x7d\x7d")
        = .ok (.map upperLayer) := by
    decide +kernel
  have hproper : (Value.map upperLayer).IsProper := (Json.isRead_of_read hread).isProper
  obtain ⟨hpaths, hkeys, hagain, -⟩ := @merge_at_paths lowerLayer upperLayer hproper
  refine ⟨hproper, (hpaths _).1 _ rfl rfl, (hpaths _).2.1 (by decide +kernel), ?_,
    (hpaths _).2.2.2 _ rfl, hkeys.trans (by decide +kernel), hagain⟩
  rw [(hpaths _).2.2.1 (by decide +kernel) (by decide +kernel)]
  decide +kernel

end Entries

end ApiRouter
