import ApiRouter.Proofs.Rows
import ApiRouter.Text.Split

set_option autoImplicit false

/-! # Trimmed texts

Every text is white space, then its trimmed form, then white space again; and what stands so between
white space, without any at its own ends, is the trimmed form. -/

namespace ApiRouter.Text

variable {cs before core after : List Char}

/-- There is no white space at either end of a text. -/
structure IsTrimmed (cs : List Char) : Prop where
  first : ∀ c ∈ cs.head?, isBlank c = false
  last : ∀ c ∈ cs.getLast?, isBlank c = false

theorem isTrimmed_of_forall (h : ∀ c ∈ cs, isBlank c = false) : IsTrimmed cs :=
  ⟨fun c hc => h c (List.mem_of_mem_head? hc), fun c hc => h c (List.mem_of_mem_getLast? hc)⟩

/-! ## What trimming leaves -/

theorem trim_between (hcore : IsTrimmed core) (hbefore : ∀ c ∈ before, isBlank c = true)
    (hafter : ∀ c ∈ after, isBlank c = true) : trim (before ++ core ++ after) = core := by
  have hback : ∀ c ∈ after.reverse, isBlank c = true :=
    fun c hc => hafter c (List.mem_reverse.1 hc)
  cases core with
  | nil =>
      have hall : ∀ c ∈ before ++ [] ++ after, isBlank c = true := by
        rw [List.append_nil]
        exact List.forall_mem_append.2 ⟨hbefore, hafter⟩
      rw [trim, List.dropWhile_eq_nil_iff.2 hall]
      rfl
  | cons c rest =>
      have hfirst : ∀ d ∈ (c :: rest ++ after).head?, isBlank d = false := hcore.first
      have hlast : ∀ d ∈ (c :: rest).reverse.head?, isBlank d = false := by
        rw [List.head?_reverse]
        exact hcore.last
      rw [trim, List.append_assoc, dropWhile_append_of_stop hbefore hfirst, List.reverse_append,
        dropWhile_append_of_stop hback hlast, List.reverse_reverse]

theorem trim_eq_self (h : IsTrimmed cs) : trim cs = cs := by
  have hbetween : trim ([] ++ cs ++ []) = cs := trim_between h (by simp) (by simp)
  simpa using hbetween

/-! ## What trimming takes off -/

/-- What is dropped from the front of a text is white space, and none is left there. -/
theorem exists_dropWhile_isBlank (cs : List Char) :
    ∃ before, cs = before ++ cs.dropWhile isBlank ∧ (∀ c ∈ before, isBlank c = true) ∧
      ∀ c ∈ (cs.dropWhile isBlank).head?, isBlank c = false :=
  ⟨cs.takeWhile isBlank, List.takeWhile_append_dropWhile.symm, fun _ => List.mem_takeWhile_imp,
    stop_dropWhile isBlank cs⟩

theorem exists_trim (cs : List Char) :
    ∃ before after, cs = before ++ trim cs ++ after ∧ (∀ c ∈ before, isBlank c = true) ∧
      (∀ c ∈ after, isBlank c = true) ∧ IsTrimmed (trim cs) := by
  obtain ⟨before, hfront, hbefore, hfirst⟩ := exists_dropWhile_isBlank cs
  obtain ⟨after, hback, hafter, hlast⟩ :=
    exists_dropWhile_isBlank (cs.dropWhile isBlank).reverse
  have hmiddle : cs.dropWhile isBlank = trim cs ++ after.reverse := by
    rw [trim, ← List.reverse_append, ← hback, List.reverse_reverse]
  refine ⟨before, after.reverse, ?_, hbefore, fun c hc => hafter c (List.mem_reverse.1 hc),
    ?_, ?_⟩
  · rw [List.append_assoc, ← hmiddle, ← hfront]
  · -- what is first after trimming was first before the white space at the end was taken off
    intro c hc
    refine hfirst c ?_
    rw [hmiddle, List.head?_append, Option.mem_def.1 hc, Option.some_or]
    rfl
  · simpa [trim] using hlast

theorem isTrimmed_iff : IsTrimmed cs ↔ trim cs = cs := by
  obtain ⟨-, -, -, -, -, htrimmed⟩ := exists_trim cs
  exact ⟨trim_eq_self, fun h => h ▸ htrimmed⟩

theorem mem_of_mem_trim {c : Char} (h : c ∈ trim cs) : c ∈ cs := by
  obtain ⟨before, after, hcs, -⟩ := exists_trim cs
  rw [hcs]
  exact List.mem_append_left _ (List.mem_append_right _ h)

end ApiRouter.Text
