import WarehouseAdmin.Catalog.Failure
import Mathlib.Data.List.Basic

/-!
# Failures and the laws of joining

A failure is a list of causes, so a failure that was put together cannot hold another one that was.
A `Report` is the freer notion: a report can be put together from any reports.  Joining opens only
the outermost level of what it joins, and looking for a kind goes into every level.

These differ for reports in general, but not for those that can be put together by joining.  From
single causes on, every join finds nothing below the level that it opens.  So the reports that can
be obtained are those of the failures (`obtainable_iff`), and joining, the causes and the kinds are
the same for both.  The laws of joining are proved for failures, where they are laws of lists, and
carried over.

## Main definitions

* `Report`, `Report.Obtainable` — reports, and those that joining leads to.
* `Failure.report` — a failure as a report.
* `IsJoining` — the laws of joining.

## Main statements

* `obtainable_iff` — the reports that can be obtained are those of the failures.
* `joining_is_lawful` — failures and obtainable reports are joined by the same laws.
-/

namespace WarehouseAdmin

/-! ## The kind of a failure

A failure is of a kind when it has a single cause of that kind.  So it is of one kind at most, a
failure that was put together from several is of none, and what is reported behind a failure can
take its kind away but cannot give it another one.
-/

namespace Failure

variable {failure : Failure} {further : List Failure} {k k' : Cause.Kind}

theorem is_iff : failure.is k = true ↔ failure.others = [] ∧ failure.first.kind = k := by
  rw [is, decide_eq_true_iff, kind?]
  cases others : failure.others with
  | nil => simp [isJoined, others]
  | cons cause causes => simp [isJoined, others]

theorem exists_single_of_is (h : failure.is k = true) :
    ∃ cause : Cause, failure = .single cause := by
  obtain ⟨first, others⟩ := failure
  obtain ⟨rfl, -⟩ := is_iff.mp h
  exact ⟨first, rfl⟩

theorem is_unique (h : failure.is k = true) (h' : failure.is k' = true) : k = k' :=
  (is_iff.mp h).2.symm.trans (is_iff.mp h').2

theorem isInterruption_iff :
    failure.isInterruption = true ↔ failure.is .cancelled = true ∨ failure.is .timedOut = true := by
  rw [isInterruption, Bool.or_eq_true]

@[simp] theorem isInterruption_cancelled : (single .cancelled).isInterruption = true :=
  rfl

@[simp] theorem isInterruption_timeout (millis : Nat) : (timeout millis).isInterruption = true :=
  rfl

theorem isJoined_eq_false_of_isInterruption (h : failure.isInterruption = true) :
    failure.isJoined = false := by
  rcases isInterruption_iff.mp h with is | is
  · simp [isJoined, (is_iff.mp is).1]
  · simp [isJoined, (is_iff.mp is).1]

/-- A failure of a kind that does not say that the operation was cut short. -/
theorem isInterruption_eq_false_of_is (h : failure.is k = true) (hc : k ≠ .cancelled)
    (ht : k ≠ .timedOut) : failure.isInterruption = false := by
  rw [← Bool.not_eq_true, isInterruption_iff]
  rintro (is | is)
  · exact hc (is_unique h is)
  · exact ht (is_unique h is)

/-! ### Failures with others behind them -/

@[simp] theorem join_nil (failure : Failure) : failure.join [] = failure := by
  simp [join]

theorem isJoined_join_cons (failure next : Failure) (others : List Failure) :
    (failure.join (next :: others)).isJoined = true := by
  simp [isJoined, join, causes]

theorem is_of_is_join (h : (failure.join further).is k = true) : failure.is k = true := by
  obtain ⟨others, kind⟩ := is_iff.mp h
  exact is_iff.mpr ⟨(List.append_eq_nil_iff.mp others).1, kind⟩

theorem isInterruption_join (h : failure.isInterruption = false) :
    (failure.join further).isInterruption = false := by
  rw [← Bool.not_eq_true, isInterruption_iff] at h ⊢
  exact mt (Or.imp is_of_is_join is_of_is_join) h

end Failure

/-- The outcome of a call is not an interruption. -/
def IsUninterrupted {α : Type} (outcome : Except Failure α) : Prop :=
  ∀ failure, outcome = .error failure → failure.isInterruption = false

/-! ## Reports -/

/-- What went wrong, as it is reported: a cause, or several reports together.  Nothing keeps a
joined report from holding joined ones. -/
inductive Report where
  | single (cause : Cause)
  | joined (parts : List Report)

namespace Report

/-- The reports that a report was put together from. -/
def parts : Report → List Report
  | single cause => [single cause]
  | joined parts => parts

/-- A report with further ones behind it.  Joined ones are opened, but not what they hold. -/
def join (report : Report) (further : List Report) : Report :=
  if further.isEmpty then report else joined ((report :: further).flatMap parts)

/-- Whether a report itself is of a kind. -/
def is : Report → Cause.Kind → Bool
  | single cause, k => cause.kind = k
  | joined _, _ => false

mutual

/-- Whether a cause at any level of a report is of a kind. -/
def contains : Report → Cause.Kind → Bool
  | single cause, k => cause.kind = k
  | joined parts, k => anyContains parts k

def anyContains : List Report → Cause.Kind → Bool
  | [], _ => false
  | part :: parts, k => part.contains k || anyContains parts k

end

/-- The reports that joining leads to, from single causes on. -/
inductive Obtainable : Report → Prop
  | single (cause : Cause) : Obtainable (single cause)
  | join {report : Report} {further : List Report} (first : Obtainable report)
      (others : ∀ other ∈ further, Obtainable other) : Obtainable (report.join further)

theorem anyContains_eq (parts : List Report) (k : Cause.Kind) :
    anyContains parts k = parts.any (·.contains k) := by
  induction parts with
  | nil => rfl
  | cons part parts ih => rw [anyContains, ih, List.any_cons]

theorem join_of_ne_nil {report : Report} {further : List Report} (h : further ≠ []) :
    report.join further = joined ((report :: further).flatMap parts) := by
  rw [join, if_neg (by simpa using h)]

end Report

namespace Failure

variable {failure : Failure} {further : List Failure} {k : Cause.Kind}

/-- A failure as a report. -/
def report (failure : Failure) : Report :=
  if failure.isJoined then .joined (failure.causes.map .single) else .single failure.first

theorem causes_injective : Function.Injective causes := by
  rintro ⟨first, others⟩ ⟨first', others'⟩ same
  obtain ⟨rfl, rfl⟩ := List.cons.inj same
  rfl

@[simp] theorem causes_single (cause : Cause) : (single cause).causes = [cause] :=
  rfl

@[simp] theorem causes_join (failure : Failure) (further : List Failure) :
    (failure.join further).causes = failure.causes ++ further.flatMap causes :=
  rfl

theorem contains_iff : failure.contains k = true ↔ ∃ cause ∈ failure.causes, cause.kind = k := by
  simp [contains, List.any_eq_true]

theorem parts_report (failure : Failure) : failure.report.parts = failure.causes.map .single := by
  obtain ⟨first, others⟩ := failure
  cases others with
  | nil => rfl
  | cons next others => rfl

theorem report_injective : Function.Injective report := by
  intro failure other same
  have parts : failure.causes.map Report.single = other.causes.map Report.single := by
    rw [← parts_report, same, parts_report]
  exact causes_injective (List.map_injective_iff.mpr (fun _ _ => Report.single.inj) parts)

/-- The report of a joined failure is joined from the reports. -/
theorem report_join (failure : Failure) (further : List Failure) :
    (failure.join further).report = failure.report.join (further.map report) := by
  cases further with
  | nil => simp [Report.join]
  | cons next others =>
      have parts : ((failure :: next :: others).map report).flatMap Report.parts =
          (failure.join (next :: others)).causes.map .single := by
        simp [List.flatMap_map, parts_report, List.map_flatMap]
      rw [report, if_pos (isJoined_join_cons failure next others), ← parts,
        Report.join_of_ne_nil (by simp), List.map_cons]

theorem is_report (failure : Failure) (k : Cause.Kind) : failure.report.is k = failure.is k := by
  obtain ⟨first, others⟩ := failure
  cases others with
  | nil => simp [report, isJoined, Report.is, is, kind?]
  | cons next others => simp [report, isJoined, Report.is, is, kind?]

theorem contains_report (failure : Failure) (k : Cause.Kind) :
    failure.report.contains k = failure.contains k := by
  obtain ⟨first, others⟩ := failure
  cases others with
  | nil => simp [report, isJoined, Report.contains, contains, causes]
  | cons next others =>
      simp [report, isJoined, Report.contains, Report.anyContains_eq, contains, causes,
        Function.comp_def]

end Failure

/-! ### Reports that can be obtained -/

namespace Report

variable {report : Report} {reports : List Report}

/-- Whatever a failure is, joining leads to its report. -/
theorem obtainable_report (failure : Failure) : failure.report.Obtainable := by
  obtain ⟨first, others⟩ := failure
  have split :
      Failure.mk first others = (Failure.single first).join (others.map Failure.single) := by
    simp [Failure.join, Failure.single, List.flatMap_map, Failure.causes]
  rw [split, Failure.report_join, List.map_map]
  refine .join (.single first) fun other mem => ?_
  obtain ⟨cause, -, rfl⟩ := List.mem_map.mp mem
  exact .single cause

/-- Reports of failures only. -/
theorem exists_map_report (h : ∀ report ∈ reports, ∃ failure : Failure, failure.report = report) :
    ∃ failures : List Failure, failures.map Failure.report = reports := by
  induction reports with
  | nil => exact ⟨[], rfl⟩
  | cons report reports ih =>
      obtain ⟨⟨failure, rfl⟩, others⟩ := List.forall_mem_cons.mp h
      obtain ⟨failures, rfl⟩ := ih others
      exact ⟨failure :: failures, rfl⟩

/-- **The reports that joining leads to are those of the failures.** -/
theorem obtainable_iff : report.Obtainable ↔ ∃ failure : Failure, failure.report = report := by
  constructor
  · intro obtainable
    induction obtainable with
    | single cause => exact ⟨.single cause, rfl⟩
    | join _ _ first others =>
        obtain ⟨failure, rfl⟩ := first
        obtain ⟨further, rfl⟩ := exists_map_report others
        exact ⟨failure.join further, Failure.report_join failure further⟩
  · rintro ⟨failure, rfl⟩
    exact obtainable_report failure

theorem exists_failures (h : ∀ report ∈ reports, report.Obtainable) :
    ∃ failures : List Failure, failures.map Failure.report = reports :=
  exists_map_report fun report mem => obtainable_iff.mp (h report mem)

/-- A report that can be obtained is a cause, or at least two causes together. -/
theorem Obtainable.flat (h : report.Obtainable) : (∃ cause, report = .single cause) ∨
    ∃ causes : List Cause, 2 ≤ causes.length ∧ report = .joined (causes.map .single) := by
  obtain ⟨⟨first, others⟩, rfl⟩ := obtainable_iff.mp h
  cases others with
  | nil => exact Or.inl ⟨first, rfl⟩
  | cons next others => exact Or.inr ⟨first :: next :: others, by simp, rfl⟩

end Report

/-! ### The laws of joining -/

/-- The laws of joining, for things that have causes of the same type. -/
structure IsJoining {F : Type} (Valid : F → Prop) (join : F → List F → F) (causes : F → List F)
    (is contains : F → Cause.Kind → Bool) : Prop where
  join_nil : ∀ p, Valid p → join p [] = p
  /-- Every cause is kept, in order. -/
  causes_join : ∀ p os, Valid p → (∀ o ∈ os, Valid o) →
    causes (join p os) = causes p ++ os.flatMap causes
  join_join : ∀ p os qs, Valid p → (∀ o ∈ os, Valid o) → (∀ q ∈ qs, Valid q) →
    join (join p os) qs = join p (os ++ qs)
  join_joined : ∀ p q qs, Valid p → Valid q → (∀ r ∈ qs, Valid r) →
    join p [join q qs] = join p (q :: qs)
  contains_iff : ∀ p k, Valid p → (contains p k = true ↔ ∃ cause ∈ causes p, is cause k = true)
  contains_join : ∀ p os k, Valid p → (∀ o ∈ os, Valid o) →
    (contains (join p os) k = true ↔ contains p k = true ∨ ∃ o ∈ os, contains o k = true)

namespace Failure

theorem isJoining :
    IsJoining (fun _ => True) join (fun failure => failure.causes.map single) is contains where
  join_nil p _ := p.join_nil
  causes_join p os _ _ := by simp [List.map_flatMap]
  join_join p os qs _ _ _ := causes_injective (by simp)
  join_joined p q qs _ _ _ := causes_injective (by simp)
  contains_iff p k _ := by simp [contains_iff, is_iff, single]
  contains_join p os k _ _ := by
    simp only [contains_iff, causes_join, List.mem_append, List.mem_flatMap]
    grind

end Failure

namespace Report

theorem isJoining : IsJoining Obtainable join parts is contains where
  join_nil p _ := by simp [join]
  causes_join := by
    intro p os hp hos
    obtain ⟨p, rfl⟩ := obtainable_iff.mp hp
    obtain ⟨os, rfl⟩ := exists_failures hos
    rw [← Failure.report_join, Failure.parts_report, Failure.causes_join, Failure.parts_report,
      List.map_append, List.map_flatMap, List.flatMap_map]
    simp only [Failure.parts_report]
  join_join := by
    intro p os qs hp hos hqs
    obtain ⟨p, rfl⟩ := obtainable_iff.mp hp
    obtain ⟨os, rfl⟩ := exists_failures hos
    obtain ⟨qs, rfl⟩ := exists_failures hqs
    rw [← Failure.report_join, ← Failure.report_join, ← List.map_append, ← Failure.report_join]
    exact congrArg Failure.report (Failure.isJoining.join_join p os qs trivial (by simp) (by simp))
  join_joined := by
    intro p q qs hp hq hqs
    obtain ⟨p, rfl⟩ := obtainable_iff.mp hp
    obtain ⟨q, rfl⟩ := obtainable_iff.mp hq
    obtain ⟨qs, rfl⟩ := exists_failures hqs
    have law := Failure.isJoining.join_joined p q qs trivial trivial (by simp)
    simpa [Failure.report_join] using congrArg Failure.report law
  contains_iff := by
    intro p k hp
    obtain ⟨p, rfl⟩ := obtainable_iff.mp hp
    rw [Failure.contains_report, Failure.contains_iff, Failure.parts_report]
    simp [is]
  contains_join := by
    intro p os k hp hos
    obtain ⟨p, rfl⟩ := obtainable_iff.mp hp
    obtain ⟨os, rfl⟩ := exists_failures hos
    rw [← Failure.report_join, Failure.contains_report, Failure.contains_report,
      Failure.isJoining.contains_join p os k trivial (by simp)]
    simp [Failure.contains_report]

end Report

/-- **Joining is lawful.**

1. Joined failures keep every cause in order, joins can be regrouped, and a failure contains a kind
   exactly when one of its causes is of it.
2. The same holds of the reports that can be obtained, where joining opens one level only, and where
   the kinds are looked for at every level.
3. Each of these is a cause, or at least two causes together, and none of them is joined itself.
4. They are the reports of the failures, and each is the report of one failure only.
5. A failure and its report are joined alike, have the same causes, and are and contain the same
   kinds. -/
theorem joining_is_lawful :
    IsJoining (fun _ => True) Failure.join (fun failure => failure.causes.map .single) Failure.is
      Failure.contains ∧
    IsJoining Report.Obtainable Report.join Report.parts Report.is Report.contains ∧
    (∀ report : Report, report.Obtainable → (∃ cause, report = .single cause) ∨
      ∃ causes : List Cause, 2 ≤ causes.length ∧ report = .joined (causes.map .single)) ∧
    (∀ report : Report, report.Obtainable ↔ ∃! failure : Failure, failure.report = report) ∧
    ∀ failure : Failure,
      (∀ further,
        (failure.join further).report = failure.report.join (further.map Failure.report)) ∧
      failure.report.parts = failure.causes.map .single ∧
      ∀ k, failure.report.is k = failure.is k ∧ failure.report.contains k = failure.contains k := by
  refine ⟨Failure.isJoining, Report.isJoining, fun report => Report.Obtainable.flat, ?_, ?_⟩
  · intro report
    rw [Report.obtainable_iff]
    constructor
    · rintro ⟨failure, rfl⟩
      exact ⟨failure, rfl, fun other same => Failure.report_injective same⟩
    · exact ExistsUnique.exists
  · intro failure
    exact ⟨failure.report_join, failure.parts_report,
      fun k => ⟨failure.is_report k, failure.contains_report k⟩⟩

/-- A joined report that joining does not lead to: what it contains is not seen in its parts. -/
example :
    let report : Report := .joined [.joined [.single .cancelled]]
    report.contains .cancelled = true ∧ report.parts.any (·.is .cancelled) = false :=
  ⟨rfl, rfl⟩

end WarehouseAdmin
