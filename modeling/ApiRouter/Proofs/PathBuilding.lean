import ApiRouter.Proofs.PathMatching

set_option autoImplicit false

/-! # Paths that are built from a template

Values put in place of the captures make a path. Matching takes a path apart into values that make it
again. The values come back as they were put in when a slash stands between any two captures, since
there the path is cut in one way only. -/

namespace ApiRouter.Template

/-! ## One way to cut -/

theorem IsSegment.slash_not_mem {value : List Char} (h : IsSegment value) : '/' ∉ value :=
  fun hmem => (h.plain _ hmem).1 rfl

namespace Outline

/-- A slash between any two captures. -/
def Separated (l : Outline) : Prop := ∀ hole ∈ l.holes.dropLast, '/' ∈ hole.after

instance (l : Outline) : Decidable l.Separated :=
  inferInstanceAs (Decidable (∀ hole ∈ l.holes.dropLast, '/' ∈ hole.after))

/-- What stands before the first slash can be told from the whole text. -/
theorem takeWhile_slash {before : List Char} (h : '/' ∉ before) (rest : List Char) :
    (before ++ '/' :: rest).takeWhile (· != '/') = before := by
  have hplain : ∀ c ∈ before, (c != '/') = true := fun c hc => bne_iff_ne.2 fun he => h (he ▸ hc)
  rw [takeWhile_append_of_stop hplain (by simp)]

/-- The first slash after a segment shows where the segment ends. -/
theorem segment_eq_of_slash {value value' after rest rest' : List Char} (hvalue : IsSegment value)
    (hvalue' : IsSegment value') (hslash : '/' ∈ after)
    (h : value ++ (after ++ rest) = value' ++ (after ++ rest')) : value = value' := by
  obtain ⟨before, more, rfl, hbefore⟩ := List.eq_append_cons_of_mem hslash
  have hplain {v : List Char} (hv : IsSegment v) : '/' ∉ v ++ before := by
    rw [List.mem_append, not_or]
    exact ⟨hv.slash_not_mem, hbefore⟩
  have hsplit : (value ++ before) ++ '/' :: (more ++ rest)
      = (value' ++ before) ++ '/' :: (more ++ rest') := by
    simpa using h
  have hbefore := congrArg (List.takeWhile (· != '/')) hsplit
  rw [takeWhile_slash (hplain hvalue), takeWhile_slash (hplain hvalue')] at hbefore
  exact List.append_cancel_right hbefore

/-- With a slash between any two captures a path is cut in one way only. -/
theorem Cuts.unique {l : Outline} {path : List Char} {values values' : List (List Char)}
    (hslash : l.Separated) (h : l.Cuts path values) (h' : l.Cuts path values') :
    values = values' := by
  obtain ⟨lead, holes⟩ := l
  induction holes generalizing lead path values values' with
  | nil => rw [(cuts_nil.1 h).1, (cuts_nil.1 h').1]
  | cons hole holes ih =>
      obtain ⟨value, rest, more, rfl, hvalue, rfl, hrest⟩ := cuts_cons.1 h
      obtain ⟨value', rest', more', rfl, hvalue', hsplit, hrest'⟩ := cuts_cons.1 h'
      have hsplit := List.append_cancel_left hsplit
      have hsame : value = value' := by
        cases holes with
        | nil =>
            rw [(cuts_nil.1 hrest).2, (cuts_nil.1 hrest').2] at hsplit
            exact List.append_cancel_right hsplit
        | cons next others =>
            have hbetween : '/' ∈ hole.after := hslash hole (by simp)
            rw [hrest.path_eq, hrest'.path_eq] at hsplit
            exact segment_eq_of_slash hvalue hvalue' hbetween hsplit
      subst hsame
      obtain rfl := List.append_cancel_left hsplit
      have hlater : Separated ⟨hole.after, holes⟩ := by
        intro next hnext
        cases holes with
        | nil => cases hnext
        | cons first others => exact hslash next (List.mem_cons_of_mem _ hnext)
      rw [ih hole.after hlater hrest hrest']

/-! ## Building -/

/-- The path that has the values of the parameters in place of the captures of their names. There is
none when a name has no value. -/
def build? (l : Outline) (params : List (String × String)) : Option String :=
  (l.names.mapM (Ordered.find? params)).map fun values =>
    String.ofList (l.path (values.map String.toList))

end Outline

/-- Of a template with different names the captures on a path are the names with the segments of a
cut. -/
theorem exists_of_captures?_of_nodup {source path : String} {l : Outline}
    {params : List (String × String)} (hl : l.Spells source.toList) (hnames : l.names.Nodup)
    (h : (ofString source).captures? path = some params) :
    ∃ values, l.Cuts path.toList values ∧ params = l.names.zip (values.map String.ofList) := by
  obtain ⟨values, hcut, rfl⟩ := exists_of_captures? h
  obtain rfl := outline_ofString hl
  have hlength := hcut.cuts.length_names
  refine ⟨values, hcut.cuts, Ordered.ofList_eq_self (Ordered.distinct_of_nodup ?_)⟩
  rwa [Ordered.keys, List.map_fst_zip hlength.le]

/-- When the names of a template are different, what it captures from a path builds that path again.
When a slash stands between any two captures besides, every assignment of segments to the names builds
a path, and that assignment is what the template captures from it, in the order of the template. -/
theorem captures?_build? {source : String} {l : Outline} (hl : l.Spells source.toList)
    (hnames : l.names.Nodup) :
    (∀ path params, (ofString source).captures? path = some params → l.build? params = some path) ∧
      (l.Separated → ∀ value : String → String,
        (∀ name ∈ l.names, IsSegment (value name).toList) →
          ∃ path, l.build? (l.names.map fun name => (name, value name)) = some path ∧
            (ofString source).captures? path = some (l.names.map fun name => (name, value name))) := by
  constructor
  · intro path params hcaptures
    obtain ⟨values, hcut, rfl⟩ := exists_of_captures?_of_nodup hl hnames hcaptures
    rw [Outline.build?, Ordered.mapM_find?_zip hnames hcut.length_names, Option.map_some]
    simp [← hcut.path_eq]
  · intro hslash value hvalue
    let values := (l.names.map value).map String.toList
    have hcut : l.Cuts (l.path values) values := by
      refine ⟨by simp [values, Outline.length_names], ?_, rfl⟩
      simpa [values] using hvalue
    have hsome : ((ofString source).captures? (String.ofList (l.path values))).isSome := by
      rw [isSome_captures?_iff, outline_ofString hl, String.toList_ofList]
      exact ⟨values, hcut⟩
    obtain ⟨params, hparams⟩ := Option.isSome_iff_exists.1 hsome
    obtain ⟨found, hfound, rfl⟩ := exists_of_captures?_of_nodup hl hnames hparams
    rw [String.toList_ofList] at hfound
    rw [List.map_prod_left_eq_zip]
    refine ⟨String.ofList (l.path values), ?_, ?_⟩
    · rw [Outline.build?, Ordered.mapM_find?_zip hnames (by simp), Option.map_some]
    · have hback : values.map String.ofList = l.names.map value := by
        simp [values, Function.comp_def]
      rw [hparams, hfound.unique hslash hcut, hback]

/-- The outline of the paths of a pet's toys. -/
def toyOutline : Outline :=
  ⟨"/pets/".toList, [⟨"id".toList, "/toys/".toList⟩, ⟨"toy".toList, []⟩]⟩

theorem toyOutline_spells : toyOutline.Spells "/pets/{id}/toys/{toy}".toList where
  source_eq := by decide +kernel
  named := by decide +kernel
  lead := isLiteral_of_not_mem (by decide +kernel)
  after := by
    have hbrace : ∀ hole ∈ toyOutline.holes, '\x7b' ∉ hole.after := by decide +kernel
    exact fun hole hhole => isLiteral_of_not_mem (hbrace hole hhole)

theorem captures?_build?_toys :
    toyOutline.Spells "/pets/{id}/toys/{toy}".toList ∧ toyOutline.names.Nodup ∧
      toyOutline.Separated ∧
      (∀ path params, (ofString "/pets/{id}/toys/{toy}").captures? path = some params →
        toyOutline.build? params = some path) ∧
      ∃ path, toyOutline.build? [("id", "7"), ("toy", "ball")] = some path ∧
        (ofString "/pets/{id}/toys/{toy}").captures? path = some [("id", "7"), ("toy", "ball")] := by
  have hnames : toyOutline.names.Nodup := by decide +kernel
  have hslash : toyOutline.Separated := by decide +kernel
  obtain ⟨hback, hforth⟩ := captures?_build? toyOutline_spells hnames
  refine ⟨toyOutline_spells, hnames, hslash, hback, ?_⟩
  have hvalue : ∀ name ∈ toyOutline.names,
      IsSegment (if name = "id" then "7" else "ball").toList := by
    decide +kernel
  obtain ⟨path, hbuild, hcaptures⟩ := hforth hslash _ hvalue
  have hassigned : (toyOutline.names.map fun name => (name, if name = "id" then "7" else "ball"))
      = [("id", "7"), ("toy", "ball")] := by
    decide +kernel
  rw [hassigned] at hbuild hcaptures
  exact ⟨path, hbuild, hcaptures⟩

end ApiRouter.Template
