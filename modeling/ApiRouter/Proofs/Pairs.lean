import ApiRouter.CommandLine.Options
import ApiRouter.Proofs.Outcome
import ApiRouter.Proofs.Rows
import Mathlib.Data.List.TakeWhile

set_option autoImplicit false

/-! # Pairs by key

A text with an equals sign gives a value for a key. The first text that gives none is reported,
and nothing comes of the others. Otherwise nothing is lost: a key that is given once has its value,
and one that is given several times has the list of its values, in order. Where a list makes no
sense the last value counts. -/

namespace ApiRouter.Pairs

variable {option pair key value : String} {pairs : List String} {entries : List (String × String)}

/-! ## One pair -/

/-- The text gives the key this value: they stand before and after its first equals sign. -/
structure Gives (pair key value : String) : Prop where
  text : pair = key ++ "=" ++ value
  first : '=' ∉ key.toList
  named : key ≠ ""

/-- The text has no equals sign, or nothing before its first one. -/
def IsNoPair (pair : String) : Prop :=
  '=' ∉ pair.toList ∨ ∃ value, pair = "=" ++ value

theorem Gives.toList (h : Gives pair key value) :
    pair.toList = key.toList ++ '=' :: value.toList := by
  rw [h.text]
  simp

theorem Gives.not_isNoPair (h : Gives pair key value) : ¬ IsNoPair pair := by
  rintro (hnone | ⟨rest, hrest⟩)
  · exact hnone (by simp [h.toList])
  · have hfirst : '=' :: rest.toList = key.toList ++ '=' :: value.toList := by
      rw [← h.toList, hrest]
      simp
    rcases List.cons_eq_append_iff.1 hfirst with ⟨hempty, -⟩ | ⟨more, hkey, -⟩
    · exact h.named (String.toList_eq_nil_iff.1 hempty)
    · exact h.first (by simp [hkey])

/-- Every other text gives a value for a key. -/
theorem exists_gives (h : ¬ IsNoPair pair) : ∃ key value, Gives pair key value := by
  rw [IsNoPair, not_or, not_not] at h
  obtain ⟨before, after, htext, hfirst⟩ := List.eq_append_cons_of_mem h.1
  refine ⟨.ofList before, .ofList after, ?_, by simpa using hfirst, fun hempty => ?_⟩
  · apply String.toList_injective
    simp [htext]
  · have hnil : before = [] := by simpa using hempty
    refine h.2 ⟨.ofList after, String.toList_injective ?_⟩
    simp [htext, hnil]

theorem split?_eq_some : split? pair = some (key, value) ↔ Gives pair key value := by
  constructor
  · intro h
    unfold split? at h
    dsimp only at h
    split at h
    · next c more rest hkey hrest =>
        have hparts : pair.toList.takeWhile (· != '=') ++ _ = pair.toList :=
          List.prefix_iff_eq_append.1 (List.takeWhile_prefix _)
        have hplain : '=' ∉ c :: more := by
          rw [← hkey]
          exact fun hmem => by simpa using List.mem_takeWhile_imp hmem
        rw [hrest, hkey] at hparts
        rw [hkey] at h
        cases h
        refine ⟨?_, by simpa using hplain, by simp⟩
        apply String.toList_injective
        simp [← hparts]
    · cases h
  · intro h
    have hplain : ∀ c ∈ key.toList, (c != '=') = true := by
      intro c hc
      simpa using fun heq : c = '=' => h.first (heq ▸ hc)
    have hkey : pair.toList.takeWhile (· != '=') = key.toList := by
      rw [h.toList, takeWhile_append_of_stop hplain (by simp)]
    obtain ⟨c, more, hcons⟩ := List.exists_cons_of_ne_nil (mt String.toList_eq_nil_iff.1 h.named)
    have hkey' : String.ofList (c :: more) = key := by rw [← hcons, String.ofList_toList]
    unfold split?
    dsimp only
    rw [hkey, h.toList, List.drop_left, hcons]
    simp [hkey']

/-- The report on a text that is no pair. -/
def refusal (option pair : String) : Failure :=
  .reported (.ofKind .invalidUsage (option ++ " expects KEY=VALUE, got '" ++ pair ++ "'"))

theorem read_eq_ok {e : String × String} : read option pair = .ok e ↔ Gives pair e.1 e.2 := by
  rw [← split?_eq_some, read]
  cases split? pair with
  | none => simp [fail]
  | some kv => simp

theorem read_eq_error {failure : Failure} :
    read option pair = .error failure ↔ IsNoPair pair ∧ failure = refusal option pair := by
  by_cases h : IsNoPair pair
  · have hnone : split? pair = none := by
      rw [Option.eq_none_iff_forall_ne_some]
      exact fun e he => (split?_eq_some.1 he).not_isNoPair h
    rw [read, hnone, and_iff_right h]
    exact ⟨fun he => by cases he; rfl, fun he => by rw [he]; rfl⟩
  · obtain ⟨key, value, hgives⟩ := exists_gives h
    rw [read, split?_eq_some.2 hgives]
    simp [h]

/-! ## Pairs in a row -/

/-- The first of the texts that is no pair is reported. -/
def Refuses (option : String) (pairs : List String) (failure : Failure) : Prop :=
  ∃ pair, First IsNoPair pairs pair ∧ failure = refusal option pair

/-- The values that are given for a key, in order. -/
def valuesOf (entries : List (String × String)) (key : String) : List String :=
  (entries.filter fun e => e.1 == key).map Prod.snd

/-- What is kept of the values of a key: the only one, or the list of all. -/
def gathered : List String → Value
  | [value] => .text value
  | values => .list (values.map .text)

theorem mapM_read_eq_ok :
    pairs.mapM (read option) = .ok entries ↔
      List.Forall₂ (fun pair e => Gives pair e.1 e.2) pairs entries := by
  rw [Outcome.mapM_eq_ok]
  simp only [read_eq_ok]

theorem mapM_read_eq_error {failure : Failure} :
    pairs.mapM (read option) = .error failure ↔ Refuses option pairs failure :=
  First.mapM_eq_error fun _ _ => read_eq_error

/-- Without a text that is no pair all texts are read. -/
theorem exists_entries (h : ∀ pair ∈ pairs, ¬ IsNoPair pair) :
    ∃ entries : List (String × String),
      List.Forall₂ (fun pair e => Gives pair e.1 e.2) pairs entries := by
  obtain ⟨entries, hentries⟩ := Outcome.exists_mapM_eq_ok fun pair hpair => by
    obtain ⟨key, value, hgives⟩ := exists_gives (h pair hpair)
    have hread : read "" pair = .ok (key, value) := read_eq_ok.2 hgives
    exact ⟨_, hread⟩
  exact ⟨entries, mapM_read_eq_ok.1 hentries⟩

/-! ## All values of every key -/

/-- One more value makes a list of what was kept, or a longer one. -/
theorem addValue_gathered {values : List String} (h : values ≠ []) (value : String) :
    addValue (some (gathered values)) value = gathered (values ++ [value]) := by
  match values with
  | [first] => rfl
  | first :: second :: rest => simp [gathered, addValue]

/-- What is kept of the entries with one key. -/
def gatheredFrom (group : List (String × String)) : Value :=
  gathered (group.map Prod.snd)

/-- The entries by key. -/
def kept (entries : List (String × String)) : List (String × Value) :=
  (ApiRouter.grouped Prod.fst entries).map fun g => (g.1, gatheredFrom g.2)

/-- Adding one more entry to what is kept is keeping one more entry. -/
theorem insert_kept (entries : List (String × String)) (e : String × String) :
    Ordered.insert (kept entries) e.1 (addValue (Ordered.find? (kept entries) e.1) e.2)
      = kept (entries ++ [e]) := by
  have hfound : Ordered.find? (kept entries) e.1
      = (Ordered.find? (ApiRouter.grouped Prod.fst entries) e.1).map gatheredFrom :=
    Ordered.find?_converted (g := id) (fun _ _ => rfl) gatheredFrom _ e.1
  have hvalue : addValue (Ordered.find? (kept entries) e.1) e.2
      = gatheredFrom ((Ordered.find? (ApiRouter.grouped Prod.fst entries) e.1).getD [] ++ [e]) := by
    rw [hfound]
    cases hgroup : Ordered.find? (ApiRouter.grouped Prod.fst entries) e.1 with
    | none => rfl
    | some group =>
        have hmem := Ordered.mem_of_find? (Ordered.rigid_of_lawful _) hgroup
        have hne : group.map Prod.snd ≠ [] := by simpa using (mem_grouped hmem).1
        rw [Option.map_some, gatheredFrom, addValue_gathered hne, Option.getD_some, gatheredFrom,
          List.map_append]
        rfl
  rw [hvalue, kept, kept, ← insert_grouped]
  exact (Ordered.insert_converted (g := id) (fun _ _ => rfl) gatheredFrom _ e.1 _).symm

theorem grouped_eq (option : String) (pairs : List String) :
    grouped option pairs = kept <$> pairs.mapM (read option) := by
  have hfold (entries : List (String × String)) :
      entries.foldl (fun found e =>
        Ordered.insert found e.1 (addValue (Ordered.find? found e.1) e.2)) [] = kept entries := by
    induction entries using List.reverseRecOn with
    | nil => rfl
    | append_singleton entries e ih =>
        rw [List.foldl_append, ih, List.foldl_cons, List.foldl_nil, insert_kept]
  rw [← funext hfold]
  exact Outcome.foldlM_read pairs []

theorem keys_kept (entries : List (String × String)) :
    Ordered.keys (kept entries) = (Ordered.keys entries).eraseDups := by
  simp [kept, ApiRouter.grouped, Ordered.keys, Function.comp_def]

theorem find?_kept (h : key ∈ Ordered.keys entries) :
    Ordered.find? (kept entries) key = some (gathered (valuesOf entries key)) := by
  have hkeyed : kept entries = (Ordered.keys entries).eraseDups.map fun k =>
      (k, gathered (valuesOf entries k)) := by
    simp [kept, ApiRouter.grouped, Ordered.keys, valuesOf, gatheredFrom]
  rw [hkeyed, Ordered.find?_keyed, if_pos (List.mem_eraseDups.2 h)]

/-! ## Grouping -/

/-- **Pairs by key.** Texts are refused exactly when there is one that is no pair, and the first of
    those is reported. Otherwise every text gives a value for a key, and what is kept has the keys
    in the order of their first use, each with its value or the list of its values, or, if only the
    last ones are wanted, with the last of them. -/
theorem grouped_last_by_key (option : String) (pairs : List String) :
    (∀ failure, grouped option pairs = .error failure ↔ Refuses option pairs failure) ∧
      (∀ failure, last option pairs = .error failure ↔ Refuses option pairs failure) ∧
      ((∀ pair ∈ pairs, ¬ IsNoPair pair) →
        ∃ (entries : List (String × String)) (found : List (String × Value))
            (lasts : List (String × String)),
          List.Forall₂ (fun pair e => Gives pair e.1 e.2) pairs entries ∧
          grouped option pairs = .ok found ∧ last option pairs = .ok lasts ∧
          Ordered.keys found = (Ordered.keys entries).eraseDups ∧
          Ordered.keys lasts = (Ordered.keys entries).eraseDups ∧
          ∀ key ∈ Ordered.keys entries,
            Ordered.find? found key = some (gathered (valuesOf entries key)) ∧
            Ordered.find? lasts key = (valuesOf entries key).getLast?) := by
  have hlast : last option pairs = Ordered.ofList <$> pairs.mapM (read option) := rfl
  rw [hlast, grouped_eq]
  refine ⟨fun failure => ?_, fun failure => ?_, fun h => ?_⟩
  · rw [Outcome.map_eq_error, mapM_read_eq_error]
  · rw [Outcome.map_eq_error, mapM_read_eq_error]
  · obtain ⟨entries, hentries⟩ := exists_entries h
    rw [mapM_read_eq_ok.2 hentries]
    exact ⟨entries, kept entries, Ordered.ofList entries, hentries, rfl, rfl, keys_kept entries,
      keys_ofList entries, fun key hkey =>
        ⟨find?_kept hkey, Ordered.find?_ofList_eq_getLast? entries key⟩⟩

/-- Two keys in turns, a value with an equals sign and an empty one. -/
theorem grouped_last_in_turns :
    (∀ pair ∈ ["a=1", "b=x=y", "a="], ¬ IsNoPair pair) ∧
      ∃ (found : List (String × Value)) (lasts : List (String × String)),
        grouped "--query" ["a=1", "b=x=y", "a="] = .ok found ∧
        last "--query" ["a=1", "b=x=y", "a="] = .ok lasts ∧
        Ordered.keys found = ["a", "b"] ∧ Ordered.keys lasts = ["a", "b"] ∧
        Ordered.find? found "a" = some (.list [.text "1", .text ""]) ∧
        Ordered.find? lasts "a" = some "" ∧
        Ordered.find? found "b" = some (.text "x=y") ∧ Ordered.find? lasts "b" = some "x=y" := by
  have hread : ["a=1", "b=x=y", "a="].mapM (read "--query")
      = .ok [("a", "1"), ("b", "x=y"), ("a", "")] := by
    decide +kernel
  have hpairs : ∀ pair ∈ ["a=1", "b=x=y", "a="], ¬ IsNoPair pair := by
    intro pair hpair
    obtain ⟨e, -, hgives⟩ := exists_of_forall₂ (mapM_read_eq_ok.1 hread) hpair
    exact hgives.not_isNoPair
  obtain ⟨entries, found, lasts, hentries, hfound, hlasts, hkeys, hkeys', hvalues⟩ :=
    (grouped_last_by_key "--query" ["a=1", "b=x=y", "a="]).2.2 hpairs
  have hsame := hread.symm.trans (mapM_read_eq_ok.2 hentries)
  cases hsame
  refine ⟨hpairs, found, lasts, hfound, hlasts, hkeys, hkeys', ?_⟩
  obtain ⟨ha, ha'⟩ := hvalues "a" (by decide)
  obtain ⟨hb, hb'⟩ := hvalues "b" (by decide)
  exact ⟨ha, ha', hb, hb'⟩

end ApiRouter.Pairs
