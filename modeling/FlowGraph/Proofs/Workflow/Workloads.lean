import FlowGraph.Proofs.Decimal.Bounds
import FlowGraph.Proofs.Decimal.Rounding
import FlowGraph.Proofs.Text.Trimming
import FlowGraph.Proofs.Workflow.Findings

/-!
# `FlowGraph.Proofs.Workflow.Workloads`: which workloads are reported

A workload is accepted if it is, between blanks, a numeral of a number from `- 2 ^ (-1075)` on and
below `2 ^ 1024 - 2 ^ 970`. The statements:

* `Binary64.RoundsTo.accepted_iff`: these are the numbers that are rounded to finite ones not below
  zero.
* `isWorkload_iff`: what the check of one workload decides.
* `Workflow.invalidWorkload_exact`: the findings of a workflow, for each activity in it. The names
  of infinities and of no number are no numerals, and so they are reported.
-/

set_option autoImplicit false

namespace FlowGraph

/-- A number is rounded to a finite one not below zero exactly between the two middles. -/
theorem Binary64.RoundsTo.accepted_iff {q x : ℚ} (h : RoundsTo q x) :
    0 ≤ x ∧ x < 2 ^ 1024 ↔ -2 ^ (-1075 : ℤ) ≤ q ∧ q < 2 ^ 1024 - 2 ^ 970 :=
  and_congr h.nonneg_iff h.lt_limit_iff

/-- Accepted are the numerals of the numbers between the two middles. -/
theorem isWorkload_iff {s : String} {t : List Char} (ht : Text.IsTrimmed s.toList t) :
    isWorkload s = true ↔
      ∃ q, Decimal.Denotes t q ∧ -2 ^ (-1075 : ℤ) ≤ q ∧ q < 2 ^ 1024 - 2 ^ 970 := by
  rw [isWorkload, Text.isTrimmed_iff.1 ht, Option.any_eq_true]
  constructor
  · rintro ⟨d, hread, hd⟩
    exact ⟨d.value, Decimal.denotes_iff.2 ⟨d, hread, rfl⟩, Decimal.isNonnegativeDouble_iff.1 hd⟩
  · rintro ⟨q, hq, hbounds⟩
    obtain ⟨d, hread, rfl⟩ := Decimal.denotes_iff.1 hq
    exact ⟨d, hread, Decimal.isNonnegativeDouble_iff.2 hbounds⟩

/-- A workload is reported under the tag of its activity, and exactly if it is none. -/
theorem Activity.invalidWorkload_mem_lint {a : Activity} {t workload : String} :
    .invalidWorkload t workload ∈ a.lint ↔
      a.tag = t ∧ a.workload = workload ∧ isWorkload workload = false := by
  rw [mem_lint]
  constructor
  · rintro (⟨d, h⟩ | ⟨-, -, h⟩ | ⟨hworkload, h⟩)
    · exact absurd rfl (ne_of_mem_lintRelations h t workload).2
    · cases h
    · cases h
      exact ⟨rfl, rfl, hworkload⟩
  · rintro ⟨rfl, rfl, hworkload⟩
    exact Or.inr (Or.inr ⟨hworkload, rfl⟩)

namespace Workflow

variable {w : Workflow} {a : Activity} {t : List Char}

/-- The workload of an activity is reported exactly if it is not accepted, whatever the other
activities are. -/
theorem invalidWorkload_mem_lint_iff (ha : a ∈ w.activities.values) :
    .invalidWorkload a.tag a.workload ∈ w.lint ↔ isWorkload a.workload = false := by
  rw [mem_lint]
  constructor
  · rintro (⟨-, h⟩ | ⟨b, -, h⟩)
    · cases h
    · exact (Activity.invalidWorkload_mem_lint.1 h).2.2
  · intro h
    exact Or.inr ⟨a, ha, Activity.invalidWorkload_mem_lint.2 ⟨rfl, rfl, h⟩⟩

/-- A workload is not reported exactly if it is, between blanks, a numeral of a number between the
two middles. Names of infinities and of no number are reported, and a numeral is exactly if its
number is rounded to an infinity or to a number below zero. -/
theorem invalidWorkload_exact (ha : a ∈ w.activities.values)
    (ht : Text.IsTrimmed a.workload.toList t) :
    (.invalidWorkload a.tag a.workload ∉ w.lint ↔
      ∃ q, Decimal.Denotes t q ∧ -2 ^ (-1075 : ℤ) ≤ q ∧ q < 2 ^ 1024 - 2 ^ 970) ∧
    (Decimal.IsName t → .invalidWorkload a.tag a.workload ∈ w.lint) ∧
    ∀ q x, Decimal.Denotes t q → Binary64.RoundsTo q x →
      (.invalidWorkload a.tag a.workload ∈ w.lint ↔ x < 0 ∨ 2 ^ 1024 ≤ x) := by
  have hiff : .invalidWorkload a.tag a.workload ∉ w.lint ↔
      ∃ q, Decimal.Denotes t q ∧ -2 ^ (-1075 : ℤ) ≤ q ∧ q < 2 ^ 1024 - 2 ^ 970 := by
    rw [invalidWorkload_mem_lint_iff ha, Bool.not_eq_false, isWorkload_iff ht]
  refine ⟨hiff, fun hname => ?_, fun q x hq hx => ?_⟩
  · by_contra hnot
    obtain ⟨q, hq, -⟩ := hiff.1 hnot
    exact hname.not_denotes hq
  · -- A text denotes one number at most, so the bounds are asked of `q`.
    have hvalue : (∃ r, Decimal.Denotes t r ∧ -2 ^ (-1075 : ℤ) ≤ r ∧ r < 2 ^ 1024 - 2 ^ 970) ↔
        0 ≤ x ∧ x < 2 ^ 1024 := by
      rw [hx.accepted_iff]
      constructor
      · rintro ⟨r, hr, hbounds⟩
        rwa [hr.unique hq] at hbounds
      · exact fun hbounds => ⟨q, hq, hbounds⟩
    rw [← not_iff_not, hiff, hvalue, not_or, not_lt, not_le]

/-- The workload is a negative number that is rounded to zero. -/
def negligible : Activity := { Activity.bare "a" .map with workload := "\t-2e-324 " }

/-- The workload is a name for no number. -/
def numberless : Activity := { Activity.bare "b" .map with workload := "+NaN" }

/-- A workflow of these two activities. -/
def weighted : Workflow :=
  { start "w" none with
    activities := (Table.empty.set "a" negligible).set "b" numberless }

/-- A number just below zero is rounded to zero and not reported; what is no number is. -/
theorem invalidWorkload_exact_weighted :
    .invalidWorkload "a" "\t-2e-324 " ∉ weighted.lint ∧
    .invalidWorkload "b" "+NaN" ∈ weighted.lint ∧
    ∃ x, Binary64.RoundsTo (-2 * 10 ^ (-324 : ℤ)) x ∧ ¬ (x < 0 ∨ 2 ^ 1024 ≤ x) := by
  have hvalue : Decimal.value ⟨true, 2, -324⟩ = -2 * 10 ^ (-324 : ℤ) := by simp [Decimal.value]
  have hdenotes : Decimal.Denotes "-2e-324".toList (-2 * 10 ^ (-324 : ℤ)) :=
    Decimal.denotes_iff.2 ⟨⟨true, 2, -324⟩, by decide +kernel, hvalue⟩
  have hbounds := Decimal.isNonnegativeDouble_iff.1
    (by decide +kernel : Decimal.isNonnegativeDouble ⟨true, 2, -324⟩ = true)
  rw [hvalue] at hbounds
  have hname : Decimal.IsName (Text.trimChars numberless.workload.toList) :=
    ⟨['+'], "NaN".toList, false, .plus, by decide, by decide⟩
  have hfirst : negligible ∈ weighted.activities.values := by decide +kernel
  have hsecond : numberless ∈ weighted.activities.values := by decide +kernel
  have htrimmed : Text.IsTrimmed negligible.workload.toList "-2e-324".toList :=
    Text.isTrimmed_iff.2 (by decide)
  obtain ⟨hkept, -, hrounded⟩ := invalidWorkload_exact hfirst htrimmed
  obtain ⟨-, hnames, -⟩ := invalidWorkload_exact hsecond (Text.isTrimmed_trimChars _)
  have hnot := hkept.2 ⟨_, hdenotes, hbounds⟩
  obtain ⟨x, hx⟩ := Binary64.exists_roundsTo (-2 * 10 ^ (-324 : ℤ))
  exact ⟨hnot, hnames hname, x, hx, fun h => hnot ((hrounded _ x hdenotes hx).2 h)⟩

end Workflow

end FlowGraph
