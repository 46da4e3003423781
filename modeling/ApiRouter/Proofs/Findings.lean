import ApiRouter.Schema.Check

set_option autoImplicit false

/-! # Subjects that a schema accepts

A schema accepts a subject when its evaluation comes to an end without having found anything. The
findings of a sequence are clear when those of every part are, and a check passes exactly what is
accepted; for the rest it lists all violations. -/

namespace ApiRouter

namespace Findings

/-! ## When nothing is found -/

theorem eq_clear_iff {f : Findings} : f = clear ↔ f.violations = [] ∧ f.stopped = none := by
  obtain ⟨violations, stopped⟩ := f
  simp [clear]

theorem andThen_eq_clear {f : Findings} {rest : Unit → Findings} :
    f.andThen rest = clear ↔ f = clear ∧ rest () = clear := by
  cases hstopped : f.stopped with
  | some cause =>
      simp only [andThen, hstopped, eq_clear_iff]
      simp
  | none =>
      simp only [andThen, hstopped, eq_clear_iff, List.append_eq_nil_iff, and_true]
      exact and_assoc

theorem forAll_eq_clear {α : Type} {items : List α} {check : α → Findings} :
    forAll items check = clear ↔ ∀ x ∈ items, check x = clear := by
  induction items with
  | nil => simp [forAll]
  | cons x rest ih => rw [forAll, andThen_eq_clear, ih, List.forall_mem_cons]

theorem andThen_clear (f : Findings) : (f.andThen fun _ => clear) = f := by
  obtain ⟨violations, stopped⟩ := f
  cases stopped with
  | some cause => rfl
  | none => simp [andThen, clear]

/-- A last item about which nothing is found does not count. -/
theorem forAll_append_clear {α : Type} {items : List α} {x : α} {check : α → Findings}
    (hx : check x = clear) : forAll (items ++ [x]) check = forAll items check := by
  induction items with
  | nil =>
      rw [List.nil_append, forAll, forAll, hx]
      rfl
  | cons y rest ih => rw [List.cons_append, forAll, forAll, ih]

theorem under_eq_clear {name : String} {f : Findings} : f.under name = clear ↔ f = clear := by
  obtain ⟨violations, stopped⟩ := f
  simp [under, clear]

theorem withValue_eq_clear {α : Type} {value : Except Defect α} {next : α → Findings} :
    withValue value next = clear ↔ ∃ a, value = .ok a ∧ next a = clear := by
  cases value with
  | ok a => simp [withValue]
  | error cause => simp [withValue, stop, clear]

/-! ## When evaluation comes to an end -/

theorem andThen_of_not_stopped {f : Findings} {rest : Unit → Findings}
    (h : (f.andThen rest).stopped = none) :
    f.stopped = none ∧ (rest ()).stopped = none ∧
      (f.andThen rest).violations = f.violations ++ (rest ()).violations := by
  cases hstopped : f.stopped with
  | some cause =>
      rw [andThen, hstopped, hstopped] at h
      cases h
  | none =>
      rw [andThen, hstopped] at h
      rw [andThen, hstopped]
      exact ⟨rfl, h, rfl⟩

/-- What is found for the items of a row is found for each of them, one after the other. -/
theorem forAll_of_not_stopped {α : Type} {items : List α} {check : α → Findings}
    (h : (forAll items check).stopped = none) :
    (∀ x ∈ items, (check x).stopped = none) ∧
      (forAll items check).violations = items.flatMap fun x => (check x).violations := by
  induction items with
  | nil => exact ⟨fun x hx => absurd hx List.not_mem_nil, rfl⟩
  | cons x rest ih =>
      rw [forAll] at h
      obtain ⟨hx, hrest, hviolations⟩ := andThen_of_not_stopped h
      obtain ⟨hall, hflat⟩ := ih hrest
      refine ⟨List.forall_mem_cons.2 ⟨hx, hall⟩, ?_⟩
      rw [forAll, hviolations, hflat, List.flatMap_cons]

end Findings

namespace Schema

/-! ## Accepting a subject -/

/-- Evaluation of the payload, with the definitions at hand, ends and finds nothing wrong with the
    subject. -/
def Accepts (payload : Entries) (definitions subject : Value) : Prop :=
  findings payload definitions subject = .clear

/-- Evaluation of the payload on the subject comes to an end. -/
def Evaluates (payload : Entries) (definitions subject : Value) : Prop :=
  (findings payload definitions subject).stopped = none

instance (payload : Entries) (definitions subject : Value) :
    Decidable (Accepts payload definitions subject) :=
  inferInstanceAs (Decidable (findings payload definitions subject = .clear))

instance (payload : Entries) (definitions subject : Value) :
    Decidable (Evaluates payload definitions subject) :=
  inferInstanceAs (Decidable ((findings payload definitions subject).stopped = none))

/-- The lines on the violations of a payload: by place, those of one place in the order found. -/
def lines (payload : Entries) (definitions subject : Value) : List String :=
  ((findings payload definitions subject).violations.mergeSort
    fun a b => placeLe a.path b.path).map Violation.line

/-- The report on a subject that is not accepted: every line, and the first in the message. -/
def reportOn (kind : ErrorKind) (label : String) (payload : Entries)
    (definitions subject : Value) : Report :=
  let found := lines payload definitions subject
  { Report.ofKind kind (label ++ ": " ++ found.headD "") with errors := found }

theorem accepts_iff {payload : Entries} {definitions subject : Value}
    (h : Evaluates payload definitions subject) :
    Accepts payload definitions subject ↔ lines payload definitions subject = [] := by
  have hlength : (lines payload definitions subject).length
      = (findings payload definitions subject).violations.length := by
    rw [lines, List.length_map, List.length_mergeSort]
  rw [← List.length_eq_zero_iff, hlength, List.length_eq_zero_iff]
  rw [Accepts, Findings.eq_clear_iff]
  exact and_iff_left h

theorem Accepts.evaluates {payload : Entries} {definitions subject : Value}
    (h : Accepts payload definitions subject) : Evaluates payload definitions subject := by
  unfold Accepts at h
  rw [Evaluates, h]
  rfl

/-- What a check does once evaluation has come to an end. -/
theorem require_eq {payload : Entries} {definitions subject : Value}
    (h : Evaluates payload definitions subject) (kind : ErrorKind) (label : String) :
    require kind label (.map payload) definitions subject
      = match lines payload definitions subject with
        | [] => .ok ()
        | first :: rest => .error (.reported
            { Report.ofKind kind (label ++ ": " ++ first) with errors := first :: rest }) := by
  unfold Evaluates at h
  have hviolations : violations (.map payload) definitions subject
      = .ok ((findings payload definitions subject).violations.mergeSort
          fun a b => placeLe a.path b.path) := by
    simp only [violations, Value.mapping, Except.bind, Findings.all, h]
  rw [require, hviolations]
  rfl

theorem require_of_accepts {payload : Entries} {definitions subject : Value}
    (h : Accepts payload definitions subject) (kind : ErrorKind) (label : String) :
    require kind label (.map payload) definitions subject = .ok () := by
  rw [require_eq h.evaluates, (accepts_iff h.evaluates).1 h]

theorem require_of_not_accepts {payload : Entries} {definitions subject : Value}
    (heval : Evaluates payload definitions subject) (h : ¬ Accepts payload definitions subject)
    (kind : ErrorKind) (label : String) :
    require kind label (.map payload) definitions subject
      = .error (.reported (reportOn kind label payload definitions subject)) := by
  rw [require_eq heval, reportOn]
  split
  · next hnil => exact absurd ((accepts_iff heval).2 hnil) h
  · next first rest hlines => rw [hlines, List.headD_cons]

/-- A check that passes has accepted its subject. -/
theorem accepts_of_require {payload : Entries} {definitions subject : Value} {kind : ErrorKind}
    {label : String} (h : require kind label (.map payload) definitions subject = .ok ()) :
    Accepts payload definitions subject := by
  by_cases heval : Evaluates payload definitions subject
  · by_cases hacc : Accepts payload definitions subject
    · exact hacc
    · rw [require_of_not_accepts heval hacc] at h
      cases h
  · exfalso
    unfold Evaluates at heval
    obtain ⟨cause, hcause⟩ := Option.ne_none_iff_exists'.1 heval
    have hviolations : violations (.map payload) definitions subject = defect cause := by
      simp only [violations, Value.mapping, Except.bind, Findings.all, hcause]
    rw [require, hviolations] at h
    cases h

end Schema

end ApiRouter
