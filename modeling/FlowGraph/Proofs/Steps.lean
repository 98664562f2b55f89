import Mathlib.Data.List.Basic
import Mathlib.Data.List.Induction
import Mathlib.Order.Defs.Unbundled
import FlowGraph.Workflow.Registry

/-!
# `FlowGraph.Proofs.Steps`: steps that may fail, one after another

What two steps in a row do, told from what each of them does: for checks, which are plain
`Except` values, and for steps of compiling, which leave a compilation behind in either case.

A walk over a list succeeds as long as every item is acceptable behind those before it.
`AllBehind` says that all are, and `allBehind_or_first` finds the first that is not. The run
lemmas `run_foldlM_of_allBehind` and `run_foldlM_of_first` carry an invariant, which speaks
of the items walked over, from one step to a whole walk. `gatherBehind` puts together what is
said of each item behind those before it.

`CompileM.Leaves` is about a step that may end either way: a relation between what it finds and
what it leaves. A preorder carries over from primitive steps to steps in a row and to walks.
-/

set_option autoImplicit false

namespace FlowGraph

variable {ε σ α β : Type}

/-- What follows a value is given it. -/
@[simp] theorem except_ok_bind (a : α) (f : α → Except ε β) :
    (Except.ok a : Except ε α) >>= f = f a := rfl

/-- Nothing follows an error. -/
@[simp] theorem except_error_bind (e : ε) (f : α → Except ε β) :
    (Except.error e : Except ε α) >>= f = .error e := rfl

/-- Two checks in a row give a value when the first gives one from which the second gives it. -/
theorem except_bind_eq_ok_iff {x : Except ε α} {f : α → Except ε β} {b : β} :
    x >>= f = .ok b ↔ ∃ a, x = .ok a ∧ f a = .ok b := by
  cases x with
  | error e =>
      constructor
      · intro h
        cases h
      · rintro ⟨a, h, -⟩
        cases h
  | ok a =>
      constructor
      · intro h
        exact ⟨a, rfl, h⟩
      · rintro ⟨a', h, hf⟩
        cases h
        exact hf

/-- Forgetting the error loses no value. -/
theorem except_toOption_eq_some_iff {x : Except ε α} {a : α} :
    x.toOption = some a ↔ x = .ok a := by
  cases x with
  | error e => simp [Except.toOption]
  | ok b => simp [Except.toOption]

/-- A result that is there without its error was a value with it. -/
theorem exists_ok_of_isSome_toOption {x : Except ε α} (h : x.toOption.isSome = true) :
    ∃ a, x = .ok a := by
  obtain ⟨a, ha⟩ := Option.isSome_iff_exists.1 h
  exact ⟨a, except_toOption_eq_some_iff.1 ha⟩

/-! ### Items behind one another -/

/-- Every item of a list satisfies `P` behind the items before it. -/
def AllBehind (P : List α → α → Prop) (es : List α) : Prop :=
  ∀ before e after, es = before ++ e :: after → P before e

/-- There is nothing to ask of no items. -/
theorem allBehind_nil (P : List α → α → Prop) : AllBehind P [] := by
  intro before e after h
  simp at h

/-- What is asked of two lists in a row is asked of the first one alone. -/
theorem AllBehind.left {P : List α → α → Prop} {es fs : List α} (h : AllBehind P (es ++ fs)) :
    AllBehind P es := by
  rintro before e after rfl
  exact h before e (after ++ fs) (by simp)

/-- The item at a place, behind the items up to that place. -/
theorem AllBehind.of_getElem? {P : List α → α → Prop} {es : List α} {e : α} {i : Nat}
    (h : AllBehind P es) (he : es[i]? = some e) : P (es.take i) e := by
  obtain ⟨hi, rfl⟩ := List.getElem?_eq_some_iff.1 he
  exact h (es.take i) es[i] (es.drop (i + 1)) (by simp)

/-- One more item at the end is asked behind all others, and nothing changes for these. -/
theorem allBehind_concat {P : List α → α → Prop} {es : List α} {e : α} :
    AllBehind P (es ++ [e]) ↔ AllBehind P es ∧ P es e := by
  constructor
  · intro h
    exact ⟨h.left, h es e [] rfl⟩
  · rintro ⟨h, he⟩ before x after hsplit
    -- The item is the last one, or it stands among the others.
    rcases List.eq_nil_or_concat after with rfl | ⟨rest, y, rfl⟩
    · obtain ⟨rfl, hx⟩ := List.append_inj' hsplit rfl
      cases hx
      exact he
    · rw [List.concat_eq_append, ← List.cons_append, ← List.append_assoc] at hsplit
      obtain ⟨rfl, -⟩ := List.append_inj' hsplit rfl
      exact h before x rest rfl

/-- Of two lists in a row, the items of the second also have those of the first before them. -/
theorem allBehind_append {P : List α → α → Prop} {es fs : List α} :
    AllBehind P (es ++ fs) ↔
      AllBehind P es ∧ AllBehind (fun before e => P (es ++ before) e) fs := by
  induction fs using List.reverseRecOn with
  | nil => simp [allBehind_nil]
  | append_singleton fs f ih =>
      rw [← List.append_assoc, allBehind_concat, allBehind_concat, ih, and_assoc]

/-- Of the items that are kept, those before one are the kept ones before it. -/
theorem AllBehind.filter {P Q : List α → α → Prop} {es : List α} (h : AllBehind P es)
    (p : α → Bool) (hkeep : ∀ before e, p e = true → P before e → Q (before.filter p) e) :
    AllBehind Q (es.filter p) := by
  induction es using List.reverseRecOn with
  | nil => exact allBehind_nil Q
  | append_singleton es e ih =>
      obtain ⟨hes, he⟩ := allBehind_concat.1 h
      rw [List.filter_append]
      cases hp : p e with
      | false => simpa [hp] using ih hes
      | true => simpa [hp] using allBehind_concat.2 ⟨ih hes, hkeep es e hp he⟩

/-- What does not look at the items before is asked of every item alone. -/
theorem allBehind_const {P : α → Prop} {es : List α} :
    AllBehind (fun _ e => P e) es ↔ ∀ e ∈ es, P e := by
  constructor
  · intro h e he
    obtain ⟨before, after, hsplit⟩ := List.append_of_mem he
    exact h before e after hsplit
  · rintro h before e after rfl
    exact h e (by simp)

/-- Either all items satisfy `P` behind those before them, or there is a first that does
not. -/
theorem allBehind_or_first (P : List α → α → Prop) (es : List α) :
    AllBehind P es ∨ ∃ before e after, es = before ++ e :: after ∧ AllBehind P before ∧
      ¬ P before e := by
  -- From the end: what is wrong first in a list is wrong first in every longer one.
  induction es using List.reverseRecOn with
  | nil => exact Or.inl (allBehind_nil P)
  | append_singleton es e ih =>
      rcases ih with h | ⟨before, x, after, rfl, hbefore, hx⟩
      · by_cases he : P es e
        · exact Or.inl (allBehind_concat.2 ⟨h, he⟩)
        · exact Or.inr ⟨es, e, [], rfl, h, he⟩
      · exact Or.inr ⟨before, x, after ++ [e], by simp, hbefore, hx⟩

/-- What `f` says of each item of a list behind the items before it, put together. -/
def gatherBehind (f : List α → α → List β) (es : List α) : List β :=
  es.zipIdx.flatMap (fun p => f (es.take p.2) p.1)

/-- Nothing is said of no items. -/
@[simp] theorem gatherBehind_nil (f : List α → α → List β) : gatherBehind f [] = [] := rfl

/-- What is said of one more item at the end comes last. -/
@[simp] theorem gatherBehind_concat (f : List α → α → List β) (es : List α) (e : α) :
    gatherBehind f (es ++ [e]) = gatherBehind f es ++ f es e := by
  have hbefore : es.zipIdx.flatMap (fun p => f ((es ++ [e]).take p.2) p.1)
      = gatherBehind f es := by
    -- What stands before an item does not change when another comes behind it.
    refine List.flatMap_congr (fun p hp => ?_)
    have hlt : p.2 < es.length := by simpa using (List.mem_zipIdx hp).2.1
    rw [List.take_append_of_le_length (Nat.le_of_lt hlt)]
  rw [gatherBehind, List.zipIdx_append, List.flatMap_append, hbefore]
  simp

namespace CompileM

/-! ### Two steps -/

/-- A step after one that succeeds. -/
theorem run_bind_of_ok {x : CompileM α} {f : α → CompileM β} {c c' : Compilation} {a : α}
    (h : x.run c = (.ok a, c')) : (x >>= f).run c = (f a).run c' := by
  rw [run_bind, h]

/-- Nothing is done after a step that fails. -/
theorem run_bind_of_error {x : CompileM α} {f : α → CompileM β} {c c' : Compilation}
    {e : CompileError} (h : x.run c = (.error e, c')) : (x >>= f).run c = (.error e, c') := by
  rw [run_bind, h]

/-- A step after a check that passes. -/
theorem run_check_bind_of_ok {x : Except CompileError α} {f : α → CompileM β} {c : Compilation}
    {a : α} (h : x = .ok a) : (check x >>= f).run c = (f a).run c :=
  run_bind_of_ok (by rw [run_check, h])

/-- Nothing is done, and nothing changed, after a check that fails. -/
theorem run_check_bind_of_error {x : Except CompileError α} {f : α → CompileM β}
    {c : Compilation} {e : CompileError} (h : x = .error e) :
    (check x >>= f).run c = (.error e, c) :=
  run_bind_of_error (by rw [run_check, h])

/-! ### Walks -/

section Walk

variable {step : σ → α → CompileM σ} {P : List α → α → Prop}
  {I : List α → σ → Compilation → Prop} {s : σ} {c : Compilation} {es : List α}

/-- A walk over acceptable items succeeds, and keeps what every step keeps. -/
theorem run_foldlM_of_allBehind
    (hstep : ∀ before e s c, I before s c → P before e →
      ∃ s' c', (step s e).run c = (.ok s', c') ∧ I (before ++ [e]) s' c')
    (hstart : I [] s c) (h : AllBehind P es) :
    ∃ s' c', (es.foldlM step s).run c = (.ok s', c') ∧ I es s' c' := by
  -- From the end, because the invariant of a step speaks of the items before it.
  induction es using List.reverseRecOn with
  | nil => exact ⟨s, c, rfl, hstart⟩
  | append_singleton es e ih =>
      obtain ⟨hes, he⟩ := allBehind_concat.1 h
      obtain ⟨s', c', hrun, hI⟩ := ih hes
      obtain ⟨s'', c'', hrun', hI'⟩ := hstep es e s' c' hI he
      refine ⟨s'', c'', ?_, hI'⟩
      rw [List.foldlM_append, run_bind_of_ok hrun, List.foldlM_cons, run_bind_of_ok hrun']
      rfl

/-- A walk fails with the first item that fails. -/
theorem run_foldlM_of_first {before : List α} {e : α} {err : CompileError}
    {Q : Compilation → Prop} (after : List α)
    (hstep : ∀ before e s c, I before s c → P before e →
      ∃ s' c', (step s e).run c = (.ok s', c') ∧ I (before ++ [e]) s' c')
    (hstart : I [] s c) (h : AllBehind P before)
    (hfail : ∀ s c, I before s c → ∃ c', (step s e).run c = (.error err, c') ∧ Q c') :
    ∃ c', ((before ++ e :: after).foldlM step s).run c = (.error err, c') ∧ Q c' := by
  obtain ⟨s', c', hrun, hI⟩ := run_foldlM_of_allBehind hstep hstart h
  obtain ⟨c'', hrun', hQ⟩ := hfail s' c' hI
  refine ⟨c'', ?_, hQ⟩
  rw [List.foldlM_append, run_bind_of_ok hrun, List.foldlM_cons, run_bind_of_error hrun']

end Walk

/-- A walk without a state of its own. -/
theorem forM_eq_foldlM (f : α → CompileM Unit) (es : List α) :
    es.forM f = es.foldlM (fun _ e => f e) () := by
  induction es with
  | nil => rfl
  | cons e es ih =>
      show (f e >>= fun _ => es.forM f) = f e >>= fun _ => es.foldlM (fun _ e => f e) ()
      rw [ih]

/-! ### Either way -/

/-- Whether a step succeeds or fails, `R` relates what it finds to what it leaves. -/
def Leaves (R : Compilation → Compilation → Prop) (x : CompileM α) : Prop := ∀ c, R c (x.run c).2

namespace Leaves

variable {R : Compilation → Compilation → Prop} [IsPreorder Compilation R]

/-- A step that only gives a value leaves what it finds. -/
theorem pure (a : α) : Leaves R (Pure.pure a) := fun c => refl_of R c

/-- A step that fails at once leaves what it finds. -/
theorem throw (e : CompileError) : Leaves R (MonadExcept.throw e : CompileM α) :=
  fun c => refl_of R c

/-- A check, passed or failed, leaves what it finds. -/
theorem check (x : Except CompileError α) : Leaves R (CompileM.check x) := fun c => refl_of R c

/-- Looking at the workflow changes nothing. -/
theorem workflow : Leaves R CompileM.workflow := fun c => refl_of R c

/-- Two steps in a row leave what each of them may leave. Where the first fails, it alone has
run. -/
theorem bind {x : CompileM α} {f : α → CompileM β} (hx : Leaves R x)
    (hf : ∀ a, Leaves R (f a)) : Leaves R (x >>= f) := by
  intro c
  have hfirst := hx c
  rw [run_bind]
  rcases hrun : x.run c with ⟨result, c'⟩
  rw [hrun] at hfirst
  cases result with
  | error e => exact hfirst
  | ok a => exact trans_of R hfirst (hf a c')

/-- A walk leaves what its steps may leave, one after another, up to the item that fails. -/
theorem foldlM {step : σ → α → CompileM σ} (hstep : ∀ s a, Leaves R (step s a)) (es : List α)
    (s : σ) : Leaves R (es.foldlM step s) := by
  induction es generalizing s with
  | nil => exact .pure s
  | cons e es ih =>
      rw [List.foldlM_cons]
      exact (hstep s e).bind (fun s' => ih s')

/-- The same of a walk without a state of its own. -/
theorem forM {f : α → CompileM Unit} (hf : ∀ a, Leaves R (f a)) (es : List α) :
    Leaves R (es.forM f) := by
  rw [forM_eq_foldlM]
  exact .foldlM (fun _ a => hf a) es ()

end Leaves

end CompileM

end FlowGraph
