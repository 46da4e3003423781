import ApiRouter.Coercion
import ApiRouter.Proofs.Ordered
import ApiRouter.Proofs.Outcome
import ApiRouter.Proofs.Rows

set_option autoImplicit false

/-! # What coercion makes of values

The types that a property declares decide what becomes of a text under its name: the first of them
that takes the text makes a value of it. What is no text stays as it is, the items of a list apart,
which have types of their own; and what no property is declared for stays as well. Coercion makes
nothing that it would change again, so it settles at once. -/

namespace ApiRouter.Coercion

variable {s : String} {t v w : Value} {types ts : List Value} {schema : Schema}

/-! ## One type -/

/-- The type takes the text. -/
inductive Takes (s : String) : Value → Prop where
  | string : Takes s (.text "string")
  | integer : isInteger s = true → Takes s (.text "integer")
  | number : isNumber s = true → Takes s (.text "number")
  | boolean : s = "true" ∨ s = "false" → Takes s (.text "boolean")
  | null : s = "" → Takes s (.text "null")

/-- `Makes s t v`: the type `t` takes the text and makes `v` of it. -/
inductive Makes (s : String) : Value → Value → Prop where
  | string : Makes s (.text "string") (.text s)
  | integer {n : Int} : isInteger s = true → Text.readInt? s = some n →
      Makes s (.text "integer") (.int n)
  | number {x : Binary64} : isNumber s = true → Text.readFloat? s = some x →
      Makes s (.text "number") (.float x)
  | true : s = "true" → Makes s (.text "boolean") (.bool true)
  | false : s = "false" → Makes s (.text "boolean") (.bool false)
  | null : s = "" → Makes s (.text "null") .null

theorem Makes.takes (h : Makes s t v) : Takes s t := by
  cases h with
  | string => exact .string
  | integer hs _ => exact .integer hs
  | number hs _ => exact .number hs
  | true hs => exact .boolean (.inl hs)
  | false hs => exact .boolean (.inr hs)
  | null hs => exact .null hs

/-- A text that a type makes a value of is kept, or becomes a number, a boolean or null. -/
theorem Makes.kind (h : Makes s t v) :
    v = .text s ∨ (∃ n, v = .int n) ∨ (∃ x, v = .float x) ∨ (∃ b, v = .bool b) ∨ v = .null := by
  cases h with
  | string => exact .inl rfl
  | integer => exact .inr (.inl ⟨_, rfl⟩)
  | number => exact .inr (.inr (.inl ⟨_, rfl⟩))
  | true => exact .inr (.inr (.inr (.inl ⟨_, rfl⟩)))
  | false => exact .inr (.inr (.inr (.inl ⟨_, rfl⟩)))
  | null => exact .inr (.inr (.inr (.inr rfl)))

theorem coerceTo_eq_some : coerceTo t s = .ok (some v) ↔ Makes s t v := by
  constructor
  · intro h
    unfold coerceTo at h
    split at h
    · cases h
      exact .string
    · split at h
      · next hs =>
          split at h
          · next hn =>
              cases h
              exact .integer hs hn
          · cases h
      · cases h
    · split at h
      · next hs =>
          split at h
          · next hx =>
              cases h
              exact .number hs hx
          · cases h
      · cases h
    · split at h
      · next hs =>
          cases h
          exact .true (by simpa using hs)
      · split at h
        · next hs =>
            cases h
            exact .false (by simpa using hs)
        · cases h
    · have hs := Except.ok.inj h
      split at hs
      · next hempty =>
          cases hs
          exact .null (by simpa using hempty)
      · cases hs
    · cases h
  · intro h
    cases h with
    | string => rfl
    | integer hs hn => simp [coerceTo, hs, hn]
    | number hs hx => simp [coerceTo, hs, hx]
    | true hs => simp [coerceTo, hs]
    | false hs => simp [coerceTo, hs]
    | null hs => simp [coerceTo, hs]

theorem coerceTo_eq_none (h : coerceTo t s = .ok none) : ¬ Takes s t := by
  intro htakes
  cases htakes with
  | string => cases h
  | integer hs =>
      simp only [coerceTo, hs, if_true] at h
      split at h
      · cases h
      · cases h
  | number hs =>
      simp only [coerceTo, hs, if_true] at h
      split at h
      · cases h
      · cases h
  | boolean hs =>
      rcases hs with rfl | rfl
      · simp [coerceTo] at h
      · simp [coerceTo] at h
  | null hs => simp [coerceTo, hs] at h

theorem coerceTo_of_not_takes (h : ¬ Takes s t) : coerceTo t s = .ok none := by
  unfold coerceTo
  split
  · exact absurd .string h
  · rw [if_neg fun hs => h (.integer hs)]
  · rw [if_neg fun hs => h (.number hs)]
  · rw [if_neg fun hs => h (.boolean (.inl (by simpa using hs))),
      if_neg fun hs => h (.boolean (.inr (by simpa using hs)))]
  · rw [if_neg fun hs => h (.null (by simpa using hs))]
  · rfl

/-! ## Types in a row -/

/-- `Becomes types s w`: the first of the types that takes the text makes `w` of it; a text that
none of them takes stays as it is. -/
inductive Becomes (types : List Value) (s : String) : Value → Prop where
  | made {t w : Value} : First (Takes s) types t → Makes s t w → Becomes types s w
  | kept : (∀ t ∈ types, ¬ Takes s t) → Becomes types s (.text s)

theorem coerceText_eq_ok : coerceText types s = .ok w ↔ Becomes types s w := by
  -- by induction on the types: the first takes the text, or it is passed over
  induction types with
  | nil =>
      constructor
      · intro h
        cases h
        exact .kept fun t ht => absurd ht List.not_mem_nil
      · intro h
        cases h with
        | made hfirst => cases hfirst
        | kept => rfl
  | cons t rest ih =>
      rw [coerceText, Outcome.bind_eq_ok]
      constructor
      · rintro ⟨made, ht, h⟩
        cases made with
        | some v =>
            cases h
            have hmakes := coerceTo_eq_some.1 ht
            exact .made (.here hmakes.takes) hmakes
        | none =>
            have hnot := coerceTo_eq_none ht
            cases ih.1 h with
            | made hfirst hmakes => exact .made (.later hnot hfirst) hmakes
            | kept hall => exact .kept (List.forall_mem_cons.2 ⟨hnot, hall⟩)
      · intro h
        cases h with
        | made hfirst hmakes =>
            cases hfirst with
            | here => exact ⟨_, coerceTo_eq_some.2 hmakes, rfl⟩
            | later hnot hfirst =>
                exact ⟨none, coerceTo_of_not_takes hnot, ih.2 (.made hfirst hmakes)⟩
        | kept hall =>
            rw [List.forall_mem_cons] at hall
            exact ⟨none, coerceTo_of_not_takes hall.1, ih.2 (.kept hall.2)⟩

/-- A text becomes a text only by staying as it is, so it becomes the same again. -/
theorem Becomes.eq_of_text {s' : String} (h : Becomes types s (.text s')) : s' = s := by
  cases h with
  | made _ hmakes =>
      cases hmakes with
      | string => rfl
  | kept => rfl

/-! ## One value -/

/-- What becomes of a value that is to have one of the types. -/
inductive ItemBecomes (types : List Value) : Value → Value → Prop where
  | text {s : String} {w : Value} : Becomes types s w → ItemBecomes types (.text s) w
  | other {v : Value} : (∀ s, v ≠ .text s) → ItemBecomes types v v

theorem coerceItem_eq_ok : coerceItem types v = .ok w ↔ ItemBecomes types v w := by
  unfold coerceItem
  split
  · next s =>
      rw [coerceText_eq_ok]
      constructor
      · exact .text
      · intro h
        cases h with
        | text hs => exact hs
        | other hnot => exact absurd rfl (hnot s)
  · next hnot =>
      constructor
      · intro h
        cases h
        exact .other fun s hs => hnot s hs
      · intro h
        cases h with
        | text => exact absurd rfl (hnot _)
        | other => rfl

theorem ItemBecomes.again (h : ItemBecomes types v w) : ItemBecomes types w w := by
  cases h with
  | text hs =>
      -- what comes out is the text that went in, or it is no text
      by_cases hw : ∃ s', w = .text s'
      · obtain ⟨s', rfl⟩ := hw
        have hsame := hs.eq_of_text
        subst hsame
        exact .text hs
      · exact .other fun s' hs' => hw ⟨s', hs'⟩
  | other hnot => exact .other hnot

/-- The types that a payload for items declares: one, or several in a list. -/
inductive ItemTypes : Value → List Value → Prop where
  | several {m : Entries} {ts : List Value} :
      Entries.find? m "type" = some (.list ts) → ItemTypes (.map m) ts
  | single {m : Entries} {t : Value} :
      Entries.find? m "type" = some t → t ≠ .null → (∀ ts, t ≠ .list ts) → ItemTypes (.map m) [t]

theorem itemTypes?_eq_some {items : Value} : itemTypes? items = some ts ↔ ItemTypes items ts := by
  cases items with
  | map m =>
      rw [itemTypes?, Entries.get]
      cases hfind : Entries.find? m "type" with
      | none =>
          constructor
          · intro h
            cases h
          · intro h
            cases h with
            | several h => cases hfind.symm.trans h
            | single h => cases hfind.symm.trans h
      | some t =>
          rw [Option.getD_some]
          constructor
          · intro h
            split at h
            · cases h
            · cases h
              exact .several hfind
            · next hnull hlist =>
                cases h
                exact .single hfind hnull hlist
          · intro h
            cases h with
            | several h =>
                cases hfind.symm.trans h
                rfl
            | single h hnull hlist =>
                cases hfind.symm.trans h
                split
                · exact absurd rfl hnull
                · exact absurd rfl (hlist _)
                · rfl
  | scalar a =>
      constructor
      · intro h
        cases h
      · intro h
        cases h
  | list vs | pair a b | set members | endless =>
      constructor
      · intro h
        cases h
      · intro h
        cases h

/-- What becomes of a value under a property of the given types, whose payload for items is given
    beside them. -/
inductive ValueBecomes (types : List String) (items : Value) : Value → Value → Prop where
  | itemwise {vs ws ts : List Value} : "array" ∈ types → ItemTypes items ts →
      List.Forall₂ (ItemBecomes ts) vs ws → ValueBecomes types items (.list vs) (.list ws)
  | list {vs : List Value} : ("array" ∈ types → ∀ ts, ¬ ItemTypes items ts) →
      ValueBecomes types items (.list vs) (.list vs)
  | single {v w : Value} : (∀ vs, v ≠ .list vs) → ItemBecomes (types.map .text) v w →
      ValueBecomes types items v w

theorem coerceItems_eq_ok {vs : List Value} :
    Value.list <$> vs.mapM (coerceItem ts) = .ok w ↔
      ∃ ws, List.Forall₂ (ItemBecomes ts) vs ws ∧ w = .list ws := by
  rw [Outcome.map_eq_ok]
  constructor
  · rintro ⟨ws, hws, rfl⟩
    exact ⟨ws, (Outcome.mapM_eq_ok.1 hws).imp fun _ _ => coerceItem_eq_ok.1, rfl⟩
  · rintro ⟨ws, hws, rfl⟩
    exact ⟨ws, Outcome.mapM_eq_ok.2 (hws.imp fun _ _ => coerceItem_eq_ok.2), rfl⟩

theorem coerceValue_eq_ok {types : List String} {items : Value} :
    coerceValue types items v = .ok w ↔ ValueBecomes types items v w := by
  unfold coerceValue
  split
  · next vs =>
      split
      · next ts harray hitems =>
          have harray : "array" ∈ types := by simpa using harray
          have hitems := itemTypes?_eq_some.1 hitems
          rw [coerceItems_eq_ok]
          constructor
          · rintro ⟨ws, hws, rfl⟩
            exact .itemwise harray hitems hws
          · intro h
            cases h with
            | itemwise _ hitems' hws =>
                cases (itemTypes?_eq_some.2 hitems).symm.trans (itemTypes?_eq_some.2 hitems')
                exact ⟨_, hws, rfl⟩
            | list hnone => exact absurd hitems (hnone harray ts)
            | single hlist => exact absurd rfl (hlist vs)
      · next hnone =>
          constructor
          · intro h
            cases h
            exact .list fun harray ts hitems =>
              hnone ts (by simpa using harray) (itemTypes?_eq_some.2 hitems)
          · intro h
            cases h with
            | itemwise harray hitems =>
                exact absurd (itemTypes?_eq_some.2 hitems) (hnone _ (by simpa using harray))
            | list => rfl
            | single hlist => exact absurd rfl (hlist vs)
  · next hlist =>
      rw [coerceItem_eq_ok]
      constructor
      · exact .single hlist
      · intro h
        cases h with
        | itemwise => exact absurd rfl (hlist _)
        | list => exact absurd rfl (hlist _)
        | single _ h => exact h

/-- Nothing but a list becomes a list. -/
theorem ItemBecomes.ne_list (h : ItemBecomes types v w) (hv : ∀ vs, v ≠ .list vs) :
    ∀ ws, w ≠ .list ws := by
  rintro ws rfl
  cases h with
  | text hs =>
      cases hs with
      | made _ hmakes => cases hmakes
  | other => exact hv ws rfl

theorem ValueBecomes.again {types : List String} {items : Value}
    (h : ValueBecomes types items v w) : ValueBecomes types items w w := by
  cases h with
  | itemwise harray hitems hws =>
      exact .itemwise harray hitems (forall₂_again hws fun _ _ => ItemBecomes.again)
  | list hnone => exact .list hnone
  | single hlist hw => exact .single (hw.ne_list hlist) hw.again

/-! ## A mapping -/

/-- The schema declares a property of the name, with types, and with a payload for items beside
    them. -/
def Declares (schema : Schema) (name : Scalar) (types : List String) (items : Value) : Prop :=
  ∃ s p, name = .text s ∧ Ordered.find? schema.properties s = some p ∧
    p.constraints.types = some types ∧ p.constraints.items = items

/-- What becomes of an entry: its key stays, and so does its value unless a property of that name is
    declared. -/
inductive EntryBecomes (schema : Schema) : Scalar × Value → Scalar × Value → Prop where
  | declared {k : Scalar} {types : List String} {items v w : Value} :
      Declares schema k types items → ValueBecomes types items v w →
      EntryBecomes schema (k, v) (k, w)
  | undeclared {e : Scalar × Value} : (∀ types items, ¬ Declares schema e.1 types items) →
      EntryBecomes schema e e

theorem EntryBecomes.key {e e' : Scalar × Value} (h : EntryBecomes schema e e') : e'.1 = e.1 := by
  cases h with
  | declared => rfl
  | undeclared => rfl

theorem EntryBecomes.again {e e' : Scalar × Value} (h : EntryBecomes schema e e') :
    EntryBecomes schema e' e' := by
  cases h with
  | declared hdeclared hw => exact .declared hdeclared hw.again
  | undeclared hnone => exact .undeclared hnone

/-- A name has one property, so what is declared for it is determined. -/
theorem Declares.unique {k : Scalar} {types others : List String} {items parts : Value}
    (h : Declares schema k types items) (h' : Declares schema k others parts) :
    types = others ∧ items = parts := by
  obtain ⟨s, p, rfl, hp, htypes, rfl⟩ := h
  obtain ⟨s', p', hs, hp', hothers, rfl⟩ := h'
  cases hs
  cases hp.symm.trans hp'
  cases htypes.symm.trans hothers
  exact ⟨rfl, rfl⟩

theorem entryBecomes_of_declares {k : Scalar} {types : List String} {items : Value}
    (h : Declares schema k types items) :
    EntryBecomes schema (k, v) (k, w) ↔ ValueBecomes types items v w := by
  constructor
  · intro hbecomes
    cases hbecomes with
    | declared h' hw =>
        obtain ⟨rfl, rfl⟩ := h.unique h'
        exact hw
    | undeclared hnone => exact absurd h (hnone _ _)
  · exact .declared h

theorem entryBecomes_of_not_declares {k : Scalar}
    (h : ∀ types items, ¬ Declares schema k types items) :
    EntryBecomes schema (k, v) (k, w) ↔ v = w := by
  constructor
  · intro hbecomes
    cases hbecomes with
    | declared h' => exact absurd h' (h _ _)
    | undeclared => rfl
  · rintro rfl
    exact .undeclared h

theorem coerceEntry_eq_ok {name : String} :
    coerceEntry schema name v = .ok w ↔ EntryBecomes schema (.text name, v) (.text name, w) := by
  unfold coerceEntry
  split
  · next p hp =>
      split
      · next types htypes =>
          have hdeclared : Declares schema (.text name) types p.constraints.items :=
            ⟨name, p, rfl, hp, htypes, rfl⟩
          rw [coerceValue_eq_ok, entryBecomes_of_declares hdeclared]
      · next htypes =>
          rw [Except.ok.injEq, entryBecomes_of_not_declares]
          rintro types items ⟨_, p', hs, hp', htypes', -⟩
          cases hs
          cases hp.symm.trans hp'
          cases htypes.symm.trans htypes'
  · next hp =>
      rw [Except.ok.injEq, entryBecomes_of_not_declares]
      rintro types items ⟨_, p', hs, hp', -, -⟩
      cases hs
      cases hp.symm.trans hp'

/-- Coercion takes the entries one by one, and only a mapping has entries. -/
theorem coerceMapping_eq_ok {params result : Value} :
    coerceMapping params schema = .ok result ↔
      ∃ entries coerced, params = .map entries ∧ result = .map coerced ∧
        List.Forall₂ (EntryBecomes schema) entries coerced := by
  unfold coerceMapping
  split
  · next entries =>
      rw [Outcome.map_eq_ok]
      constructor
      · rintro ⟨coerced, h, rfl⟩
        refine ⟨entries, coerced, rfl, rfl, (Outcome.mapM_eq_ok.1 h).imp ?_⟩
        rintro ⟨k, v⟩ e' he
        dsimp only at he
        split at he
        · obtain ⟨w, hw, rfl⟩ := Outcome.map_eq_ok.1 he
          exact coerceEntry_eq_ok.1 hw
        · -- a key that is no text is the name of no property
          next hname =>
            cases he
            exact .undeclared fun _ _ ⟨s, _, hs, _⟩ => hname s hs
      · rintro ⟨_, coerced, hentries, rfl, h⟩
        cases hentries
        refine ⟨coerced, Outcome.mapM_eq_ok.2 (h.imp ?_), rfl⟩
        rintro ⟨k, v⟩ ⟨k', w⟩ he
        cases he.key
        dsimp only
        split
        · exact Outcome.map_eq_ok.2 ⟨w, coerceEntry_eq_ok.2 he, rfl⟩
        · next hname =>
            cases he with
            | declared hdeclared =>
                obtain ⟨s, _, hs, _⟩ := hdeclared
                exact absurd hs (hname s)
            | undeclared => rfl
  · next hmap =>
      constructor
      · intro h
        split at h
        · cases h
        · cases h
      · rintro ⟨entries, coerced, rfl, -⟩
        exact absurd rfl (hmap entries)

/-- The validator coerces parameters by name, which is coercion of the mapping that they are. -/
theorem coerceMapping_object {params : List (String × Value)} :
    coerceMapping (.object params) schema = .object <$> coerceParams params schema := by
  unfold coerceMapping Value.object coerceParams
  dsimp only
  rw [Outcome.mapM_map fun e => ?_, Functor.map_map]
  dsimp only
  cases coerceEntry schema e.1 e.2 with
  | error failure => rfl
  | ok w => rfl

/-! ## What changes -/

/-- A text is made into something else: the first of the types that takes it makes a number, a
    boolean or null of it. -/
structure Remade (types : List Value) (s : String) (w : Value) : Prop where
  made : ∃ t, First (Takes s) types t ∧ Makes s t w
  kind : (∃ n, w = .int n) ∨ (∃ x, w = .float x) ∨ (∃ b, w = .bool b) ∨ w = .null

/-- How the value under a name changes where it does: a text is made into something else, or some
    of the texts in a list are. -/
inductive Changes (schema : Schema) (name : Scalar) : Value → Value → Prop where
  | text {types : List String} {items w : Value} {s : String} :
      Declares schema name types items → Remade (types.map .text) s w →
      Changes schema name (.text s) w
  | items {types : List String} {items : Value} {ts vs ws : List Value} :
      Declares schema name types items → "array" ∈ types → ItemTypes items ts →
      List.Forall₂ (fun v w => w ≠ v → ∃ s, v = .text s ∧ Remade ts s w) vs ws →
      Changes schema name (.list vs) (.list ws)

theorem Becomes.remade (h : Becomes types s w) (hne : w ≠ .text s) : Remade types s w := by
  cases h with
  | made hfirst hmakes => exact ⟨⟨_, hfirst, hmakes⟩, hmakes.kind.resolve_left hne⟩
  | kept => exact absurd rfl hne

theorem ItemBecomes.remade (h : ItemBecomes types v w) (hne : w ≠ v) :
    ∃ s, v = .text s ∧ Remade types s w := by
  cases h with
  | text hs => exact ⟨_, rfl, hs.remade hne⟩
  | other => exact absurd rfl hne

theorem EntryBecomes.changes {e e' : Scalar × Value} (h : EntryBecomes schema e e')
    (hne : e'.2 ≠ e.2) : Changes schema e.1 e.2 e'.2 := by
  cases h with
  | declared hdeclared hw =>
      cases hw with
      | itemwise harray hitems hws =>
          exact .items hdeclared harray hitems (hws.imp fun _ _ => ItemBecomes.remade)
      | list => exact absurd rfl hne
      | single _ hw =>
          obtain ⟨s, rfl, hremade⟩ := hw.remade hne
          exact .text hdeclared hremade
  | undeclared => exact absurd rfl hne

/-- Where coercion returns, it has kept the keys in their order, and each value has become what the
    property of its name makes of it: a value that has changed was a text under a declared property
    with types, or a list of which the property says what the items are, and there only texts have
    changed. Coercing what came out with the same schema changes nothing. -/
theorem coerceMapping_settles {params result : Value}
    (h : coerceMapping params schema = .ok result) :
    ∃ entries coerced, params = .map entries ∧ result = .map coerced ∧
      Ordered.keys coerced = Ordered.keys entries ∧
      List.Forall₂ (fun e e' => EntryBecomes schema e e' ∧
        (e'.2 ≠ e.2 → Changes schema e.1 e.2 e'.2)) entries coerced ∧
      coerceMapping result schema = .ok result := by
  obtain ⟨entries, coerced, rfl, rfl, hentries⟩ := coerceMapping_eq_ok.1 h
  refine ⟨entries, coerced, rfl, rfl, ?_, ?_, ?_⟩
  · have hkeys : List.Forall₂ Eq (Ordered.keys coerced) (Ordered.keys entries) := by
      rw [Ordered.keys, Ordered.keys, List.forall₂_map_left_iff, List.forall₂_map_right_iff]
      exact (hentries.imp fun _ _ => EntryBecomes.key).flip
    rwa [List.forall₂_eq_eq_eq] at hkeys
  · exact hentries.imp fun _ _ hbecomes => ⟨hbecomes, hbecomes.changes⟩
  · have hagain := forall₂_again hentries fun _ _ => EntryBecomes.again
    exact coerceMapping_eq_ok.2 ⟨coerced, coerced, rfl, rfl, hagain⟩

/-- Several types in their order, a list with items of several kinds, and a name that is not
    declared: the texts that a type takes are made into numbers, and nothing else is touched. -/
theorem coerceMapping_mixed_settles :
    ∃ schema entries coerced,
      Schema.ofEntries [(.text "properties", .object [
        ("limit", .object [("type", .text "integer")]),
        ("note", .object [("type", .texts ["string", "null"])]),
        ("ids", .object [("type", .text "array"),
          ("items", .object [("type", .text "integer")])])])] = .ok schema ∧
      Value.object [("limit", .text "10"), ("note", .text ""),
        ("ids", .list [.text "1", .bool true, .text "x"]), ("other", .text "5")] = .map entries ∧
      Value.object [("limit", .int 10), ("note", .text ""),
        ("ids", .list [.int 1, .bool true, .text "x"]), ("other", .text "5")] = .map coerced ∧
      Ordered.keys coerced = Ordered.keys entries ∧
      List.Forall₂ (fun e e' => EntryBecomes schema e e' ∧
        (e'.2 ≠ e.2 → Changes schema e.1 e.2 e'.2)) entries coerced ∧
      coerceMapping (.map coerced) schema = .ok (.map coerced) := by
  have hruns : (Schema.ofEntries [(.text "properties", .object [
        ("limit", .object [("type", .text "integer")]),
        ("note", .object [("type", .texts ["string", "null"])]),
        ("ids", .object [("type", .text "array"),
          ("items", .object [("type", .text "integer")])])])] >>=
      coerceMapping (.object [("limit", .text "10"), ("note", .text ""),
        ("ids", .list [.text "1", .bool true, .text "x"]), ("other", .text "5")])) =
      .ok (.object [("limit", .int 10), ("note", .text ""),
        ("ids", .list [.int 1, .bool true, .text "x"]), ("other", .text "5")]) := by
    decide +kernel
  obtain ⟨schema, hschema, hcoerced⟩ := Outcome.bind_eq_ok.1 hruns
  obtain ⟨entries, coerced, hentries, hresult, hkeys, hchanges, hagain⟩ :=
    coerceMapping_settles hcoerced
  rw [hresult] at hagain
  exact ⟨schema, entries, coerced, hschema, hentries, hresult, hkeys, hchanges, hagain⟩

end ApiRouter.Coercion
