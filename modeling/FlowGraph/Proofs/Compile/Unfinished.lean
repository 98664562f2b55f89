import FlowGraph.Proofs.Compile.Declaration
import FlowGraph.Proofs.Table

/-!
# `FlowGraph.Proofs.Compile.Unfinished`: what a declaration leaves in the workflow

A step of compiling leaves a workflow behind also where it fails. A declaration that cannot be
inserted changes nothing. Any other appends one entry, and if compiling fails later this entry
is kept as it is then:

* `FailsAtChild`, `FailsAtOperand`: where compiling fails, told by the walks over the children
  and over the operands themselves.
* `FailsAtChild.run_compileActivity`: the entry is filled with the children before the one that
  fails, as if they were all (`Element.opening`).
* `FailsAtOperand.run_compileActivity`: all children are in it, and the operands up to the one
  that fails, because an operand is recorded before it is checked.
* `compileActivity_leaves` puts this together with what was there before, which no declaration
  touches.
-/

set_option autoImplicit false

namespace FlowGraph

/-- The declaration with no more than its first `n` children, and without operands. -/
def Element.opening (d : Element) (n : Nat) : Element :=
  { d with attributes := d.attributes.erase "operand", children := d.children.take n }

/-! ### Where compiling fails -/

/-- Compiling the declaration `d` comes as far as behind its first `n` children: its activity is
inserted, and the walk over these children ends well. -/
def WalkedTo (d : Element) (c : Compilation) (n : Nat) (r : Registry) (c' : Compilation) :
    Prop :=
  ∃ shell id w, Activity.ofElement d = .ok shell ∧ c.workflow.insert shell = .ok (id, w) ∧
    ((d.children.take n).foldlM compileChild (.start id)).run { c with workflow := w }
      = (.ok r, c')

/-- The child at position `n` is the one that fails. -/
def FailsAtChild (d : Element) (c : Compilation) (n : Nat) (err : CompileError) : Prop :=
  ∃ e r c₁ c₂, WalkedTo d c n r c₁ ∧ d.children[n]? = some e ∧
    (compileChild r e).run c₁ = (.error err, c₂)

/-- All children are well, and the operand at position `m` is the one that fails. -/
def FailsAtOperand (d : Element) (c : Compilation) (m : Nat) (err : CompileError) : Prop :=
  ∃ operand kind token r c₁ c₂ c₃, WalkedTo d c d.children.length r c₁ ∧
    d.attribute? "operand" = some operand ∧
    d.kind?.bind ActivityKind.operandKind? = some kind ∧
    (operandTokens operand)[m]? = some token ∧
    (((operandTokens operand).take m).forM (compileOperand r.activity kind)).run c₁
      = (.ok (), c₂) ∧
    (compileOperand r.activity kind token).run c₂ = (.error err, c₃)

/-- A list is what stands before a place, what stands there, and what stands behind. -/
theorem eq_take_append_cons_drop {α : Type} {l : List α} {n : Nat} {a : α}
    (h : l[n]? = some a) : l = l.take n ++ a :: l.drop (n + 1) := by
  obtain ⟨hn, rfl⟩ := List.getElem?_eq_some_iff.1 h
  simp

section Places

variable {d : Element} {c c' : Compilation} {n m : Nat} {r : Registry} {err : CompileError}
  {shell : Activity}

/-- Where compiling comes as far, the children so far are acceptable. -/
theorem WalkedTo.walk (h : WalkedTo d c n r c') : ∃ shell, Activity.ofElement d = .ok shell ∧
    shell.tag ∉ c.workflow.activities.keys ∧
    Walk c.workflow shell (d.children.take n) r c' := by
  obtain ⟨shell, id, w, hshell, hinsert, hrun⟩ := h
  obtain ⟨rfl, hext⟩ := Workflow.insert_eq_ok_iff.1 hinsert
  refine ⟨shell, hshell, hext.not_mem_keys, ?_⟩
  rcases allBehind_or_first ChildAcceptable (d.children.take n) with
    hes | ⟨before, e, after, hsplit, hbefore, he⟩
  · obtain ⟨r', c'', hrun', hwalk⟩ :=
      run_children_of_acceptable (c := { c with workflow := w }) hshell hext hes
    rw [hrun] at hrun'
    cases hrun'
    exact hwalk
  · -- A child that is not acceptable would have ended the walk.
    obtain ⟨fault, hfault⟩ := (childAcceptable_or_fault shell.tag before e).resolve_left he
    obtain ⟨c'', hrun', -⟩ :=
      run_children_of_first (c := { c with workflow := w }) hshell hext after hbefore hfault
    rw [← hsplit, hrun] at hrun'
    cases hrun'

/-- Over acceptable children the walk gets to the next one. -/
theorem exists_walkedTo (hshell : Activity.ofElement d = .ok shell)
    (hnew : shell.tag ∉ c.workflow.activities.keys)
    (hes : ChildrenAcceptable (d.children.take n)) :
    ∃ r c', WalkedTo d c n r c' ∧ Walk c.workflow shell (d.children.take n) r c' := by
  obtain ⟨w, hext⟩ := Workflow.exists_extends shell hnew
  obtain ⟨r, c', hrun, hwalk⟩ :=
    run_children_of_acceptable (c := { c with workflow := w }) hshell hext hes
  exact ⟨r, c', ⟨shell, _, w, hshell, Workflow.insert_eq_ok_iff.2 ⟨rfl, hext⟩, hrun⟩, hwalk⟩

/-- The child that fails is the first that is not acceptable. -/
theorem failsAtChild_iff (hshell : Activity.ofElement d = .ok shell)
    (hnew : shell.tag ∉ c.workflow.activities.keys) :
    FailsAtChild d c n err ↔ ∃ e, d.children[n]? = some e ∧
      ChildrenAcceptable (d.children.take n) ∧ ChildFault shell.tag (d.children.take n) e err := by
  constructor
  · rintro ⟨e, r, c₁, c₂, hwalked, he, hrun⟩
    obtain ⟨shell', hshell', -, hwalk⟩ := hwalked.walk
    rw [hshell] at hshell'
    cases hshell'
    refine ⟨e, he, hwalk.acceptable, ?_⟩
    -- The walk before the child is determined, so the child fails with the fault that it has.
    rcases childAcceptable_or_fault shell.tag (d.children.take n) e with hgood | ⟨fault, hfault⟩
    · obtain ⟨r', c', hrun', -⟩ := hwalk.step hgood
      rw [hrun] at hrun'
      cases hrun'
    · have hrun' := hwalk.run_compileChild_of_fault hfault
      rw [hrun] at hrun'
      cases hrun'
      exact hfault
  · rintro ⟨e, he, hes, hfault⟩
    obtain ⟨r, c₁, hwalked, hwalk⟩ := exists_walkedTo hshell hnew hes
    exact ⟨e, r, c₁, c₁, hwalked, he, hwalk.run_compileChild_of_fault hfault⟩

/-- What is wrong with the operand of a declaration at position `m`: it is to be aggregated on,
and is no field of an output, while all operands before it are. -/
structure OperandFault (d : Element) (tag : String) (m : Nat) (operand : String)
    (err : CompileError) : Prop where
  kind : d.kind? = some .reduce
  children : ChildrenAcceptable d.children
  operands : d.attribute? "operand" = some operand
  fault : ∃ token, (operandTokens operand)[m]? = some token ∧
    (∀ t ∈ (operandTokens operand).take m, NamesOutputField d.children t) ∧
    ¬ NamesOutputField d.children token ∧ err = .missingAggregationField tag token

/-- The operand that fails is the first that is no field of an output. -/
theorem failsAtOperand_iff (hshell : Activity.ofElement d = .ok shell)
    (hnew : shell.tag ∉ c.workflow.activities.keys) :
    FailsAtOperand d c m err ↔ ∃ operand, OperandFault d shell.tag m operand err := by
  have hkind : d.kind? = some shell.kind := (Activity.ofElement_eq_ok_iff.1 hshell).2.1
  constructor
  · rintro ⟨operand, kind, token, r, c₁, c₂, c₃, hwalked, hattribute, hoperandKind, htoken,
      hbefore, hrun⟩
    obtain ⟨shell', hshell', -, hwalk⟩ := hwalked.walk
    rw [hshell] at hshell'
    cases hshell'
    rw [List.take_length] at hwalk
    have hfield := hasOutputField_filled_iff hwalk.acceptable shell c.workflow.linkedTag
    rw [hwalk.activity] at hbefore hrun
    -- All operands before this one have passed, or one of them would have ended the walk.
    rcases allBehind_or_first (fun _ t =>
        OperandPasses (shell.filled c.workflow.linkedTag d.children) kind t)
        ((operandTokens operand).take m) with hall | ⟨before, t, after, hsplit, hpass, ht⟩
    · have hpassed := allBehind_const.1 hall
      obtain ⟨c₂', hbefore', hrecorded⟩ := run_operands_of_forall hwalk.workflow hpassed
      rw [hbefore] at hbefore'
      cases hbefore'
      by_cases hpasses :
          OperandPasses (shell.filled c.workflow.linkedTag d.children) kind token
      · obtain ⟨c₃', hrun', -⟩ := hrecorded.step hpasses
        rw [hrun] at hrun'
        cases hrun'
      · obtain ⟨hreduces, hno⟩ := Classical.not_imp.1 hpasses
        obtain ⟨c₃', hrun', -⟩ := hrecorded.run_compileOperand_of_not_passes hpasses
        rw [hrun] at hrun'
        cases hrun'
        subst hreduces
        rw [hkind, Option.bind_some,
          ActivityKind.operandKind?_eq_aggregationField_iff] at hoperandKind
        exact ⟨operand, hoperandKind ▸ hkind, hwalk.acceptable, hattribute, token, htoken,
          fun t ht => (hfield t).1 (hpassed t ht rfl), fun hnames => hno ((hfield _).2 hnames),
          rfl⟩
    · obtain ⟨c₂', hbefore', -⟩ := run_operands_of_first hwalk.workflow after
        (allBehind_const.1 hpass) ht
      rw [← hsplit, hbefore] at hbefore'
      cases hbefore'
  · rintro ⟨operand, hreduce, hchildren, hattribute, token, htoken, hbefore, hno, rfl⟩
    obtain ⟨r, c₁, hwalked, hwalk⟩ := exists_walkedTo (n := d.children.length) hshell hnew
      (by rwa [List.take_length])
    rw [List.take_length] at hwalk
    have hfield := hasOutputField_filled_iff hchildren shell c.workflow.linkedTag
    have hpasses : ∀ t ∈ (operandTokens operand).take m, OperandPasses
        (shell.filled c.workflow.linkedTag d.children) .aggregationField t :=
      fun t ht _ => (hfield t).2 (hbefore t ht)
    have hfails : ¬ OperandPasses (shell.filled c.workflow.linkedTag d.children)
        .aggregationField token := fun h => hno ((hfield token).1 (h rfl))
    obtain ⟨c₂, hrun, hrecorded⟩ := run_operands_of_forall hwalk.workflow hpasses
    obtain ⟨c₃, hfail, -⟩ := hrecorded.run_compileOperand_of_not_passes hfails
    refine ⟨operand, .aggregationField, token, r, c₁, c₂, c₃, hwalked, hattribute, ?_, htoken,
      ?_, ?_⟩
    · rw [hreduce]
      rfl
    · rw [hwalk.activity]
      exact hrun
    · rw [hwalk.activity]
      exact hfail

end Places

/-! ### What is left -/

section Left

variable {d : Element} {c : Compilation} {n m : Nat} {err : CompileError} {shell : Activity}

/-- A declaration that is cut off has all attributes of the whole but its operands. -/
theorem Element.attribute?_opening (d : Element) (n : Nat) (name : String) :
    (d.opening n).attribute? name = if name = "operand" then none else d.attribute? name :=
  Table.get?_erase ..

/-- Operands and children do not matter to what is read off a declaration alone. -/
theorem ofElement_opening (hshell : Activity.ofElement d = .ok shell) (n : Nat) :
    Activity.ofElement (d.opening n) = .ok shell := by
  obtain ⟨htag, hkind, heq⟩ := Activity.ofElement_eq_ok_iff.1 hshell
  refine Activity.ofElement_eq_ok_iff.2 ⟨?_, ?_, ?_⟩
  · rw [Element.attribute?_opening, if_neg (by decide), htag]
  · rw [Element.attribute?_opening, if_neg (by decide), hkind]
  · simpa [Element.attribute?_opening] using heq

/-- The declaration with its first children compiles if these are acceptable, into the activity
filled with them. -/
theorem run_compileActivity_opening (hshell : Activity.ofElement d = .ok shell)
    (hnew : shell.tag ∉ c.workflow.activities.keys)
    (hes : ChildrenAcceptable (d.children.take n)) :
    ∃ c', (compileActivity (d.opening n)).run c = (.ok ⟨c.workflow.size⟩, c') ∧
      c.workflow.Extends c'.workflow shell.tag
        (shell.filled c.workflow.linkedTag (d.children.take n)) := by
  have hread := ofElement_opening hshell n
  obtain ⟨htag, hkind, -⟩ := Activity.ofElement_eq_ok_iff.1 hread
  have hoperand : (d.opening n).attribute? "operand" = none := by
    rw [Element.attribute?_opening, if_pos rfl]
  -- Without operands nothing is asked of the declaration but its shell and the children.
  have hacceptable : DeclarationAcceptable c.workflow.activities.keys (d.opening n) := by
    refine ⟨⟨shell.tag, htag, hnew⟩, ⟨shell.kind, hkind⟩, hes, ?_⟩
    intro _ operand values hattribute
    rw [hoperand] at hattribute
    cases hattribute
  obtain ⟨shell', c', hshell', hrun, hext⟩ := run_compileActivity_of_acceptable hacceptable
  rw [hread] at hshell'
  cases hshell'
  refine ⟨c', hrun, ?_⟩
  rwa [Activity.completed, hoperand] at hext

/-- What a child that fails leaves is the activity filled with the children before it. -/
theorem FailsAtChild.run_compileActivity (hshell : Activity.ofElement d = .ok shell)
    (hnew : shell.tag ∉ c.workflow.activities.keys) (h : FailsAtChild d c n err) :
    ∃ c', (compileActivity d).run c = (.error err, c') ∧
      c.workflow.Extends c'.workflow shell.tag
        (shell.filled c.workflow.linkedTag (d.children.take n)) := by
  obtain ⟨e, he, hes, hfault⟩ := (failsAtChild_iff hshell hnew).1 h
  exact run_compileActivity_of_child hshell hnew (eq_take_append_cons_drop he) hes hfault

/-- What an operand that fails leaves is the filled activity with the operands up to it. -/
theorem FailsAtOperand.run_compileActivity (hshell : Activity.ofElement d = .ok shell)
    (hnew : shell.tag ∉ c.workflow.activities.keys) (h : FailsAtOperand d c m err) :
    ∃ operand c', d.attribute? "operand" = some operand ∧ ChildrenAcceptable d.children ∧
      (operandTokens operand).take (m + 1) ≠ [] ∧
      (compileActivity d).run c = (.error err, c') ∧
      c.workflow.Extends c'.workflow shell.tag ((shell.filled c.workflow.linkedTag
        d.children).addOperands .aggregationField ((operandTokens operand).take (m + 1))) := by
  obtain ⟨operand, hkind, hchildren, hattribute, token, htoken, hbefore, hno, rfl⟩ :=
    (failsAtOperand_iff hshell hnew).1 h
  have hreduce : shell.kind = .reduce :=
    Option.some.inj ((Activity.ofElement_eq_ok_iff.1 hshell).2.1.symm.trans hkind)
  obtain ⟨c', hrun, hext⟩ := run_compileActivity_of_operand hshell hnew hreduce hchildren
    hattribute (eq_take_append_cons_drop htoken) hbefore hno
  have htake : (operandTokens operand).take (m + 1)
      = (operandTokens operand).take m ++ [token] := by
    rw [List.take_add_one, htoken, Option.toList_some]
  exact ⟨operand, c', hattribute, hchildren, by simp [htake], hrun, htake ▸ hext⟩

/-- A declaration that can be inserted compiles, or fails at one of its children or operands. -/
theorem run_compileActivity_cases (hshell : Activity.ofElement d = .ok shell)
    (hnew : shell.tag ∉ c.workflow.activities.keys) :
    (∃ c' a, (compileActivity d).run c = (.ok ⟨c.workflow.size⟩, c') ∧ a.tag = shell.tag ∧
      c.workflow.Extends c'.workflow shell.tag a) ∨
    (∃ n err, FailsAtChild d c n err) ∨ ∃ m err, FailsAtOperand d c m err := by
  obtain ⟨htag, hkind, -⟩ := Activity.ofElement_eq_ok_iff.1 hshell
  rcases declarationAcceptable_or_fault c.workflow.activities.keys d with hd | ⟨err, hfault⟩
  · obtain ⟨shell', c', hshell', hrun, hext⟩ := run_compileActivity_of_acceptable hd
    rw [hshell] at hshell'
    cases hshell'
    exact Or.inl ⟨c', _, hrun, Activity.completed_tag .., hext⟩
  · -- The shell has been read and its tag is free, so the fault is none of the first four.
    cases hfault with
    | noTag hnone =>
        rw [htag] at hnone
        cases hnone
    | noType _ hnone =>
        rw [hnone] at hkind
        cases hkind
    | unknownType _ htype hnone =>
        rw [htype, Option.bind_some, ActivityKind.ofText?_eq_none_iff.2 hnone] at hkind
        cases hkind
    | repeatedTag htag' _ hmem =>
        rw [htag, Option.some.injEq] at htag'
        exact absurd (htag' ▸ hmem) hnew
    | @child tag kind before after e err htag' _ _ hsplit hbefore hchild =>
        rw [htag, Option.some.injEq] at htag'
        subst htag'
        refine Or.inr (Or.inl ⟨before.length, err, (failsAtChild_iff hshell hnew).2 ⟨e, ?_, ?_⟩⟩)
        · simp [hsplit]
        · rw [hsplit, List.take_left]
          exact ⟨hbefore, hchild⟩
    | @operand tag operand token before after htag' hreduce _ hchildren hattribute hlists hbefore
        hno =>
        have hsplit := listsOperands_iff.1 hlists
        rw [htag, Option.some.injEq] at htag'
        subst htag'
        refine Or.inr (Or.inr ⟨before.length, _, (failsAtOperand_iff hshell hnew).2
          ⟨operand, hreduce, hchildren, hattribute, token, ?_, ?_, hno, rfl⟩⟩)
        · simp [hsplit]
        · rw [hsplit, List.take_left]
          exact hbefore

end Left

/-! ### The whole call -/

/-- What compiling the declaration `d` leaves under its tag is the activity `a`. If compiling fails
at a child, `a` is what the declaration comes to with the children before it. If it fails at an
operand, `a` is what it comes to with all children, and the operands up to this one. -/
structure LeavesActivity (d : Element) (c : Compilation) (tag : String) (a : Activity) : Prop where
  named : a.tag = tag
  appended : c.workflow.Extends ((compileActivity d).run c).2.workflow tag a
  position : ∀ id, ((compileActivity d).run c).1 = .ok id → id = ⟨c.workflow.size⟩
  place : ∀ err, ((compileActivity d).run c).1 = .error err →
    (∃ n, FailsAtChild d c n err) ∨ ∃ m, FailsAtOperand d c m err
  child : ∀ n err, FailsAtChild d c n err → ((compileActivity d).run c).1 = .error err ∧
    ∃ c', (compileActivity (d.opening n)).run c = (.ok ⟨c.workflow.size⟩, c') ∧
      c.workflow.Extends c'.workflow tag a
  operand : ∀ m err, FailsAtOperand d c m err → ((compileActivity d).run c).1 = .error err ∧
    ∃ operand c' b, d.attribute? "operand" = some operand ∧
      (compileActivity (d.opening d.children.length)).run c = (.ok ⟨c.workflow.size⟩, c') ∧
      c.workflow.Extends c'.workflow tag b ∧ a = { b with operands := a.operands } ∧
      a.operands.entries = [(.aggregationField, (operandTokens operand).take (m + 1))]

/-- A declaration that can be inserted appends an activity, whichever way compiling ends. -/
theorem exists_appended {d : Element} {c : Compilation} {shell : Activity}
    (hshell : Activity.ofElement d = .ok shell)
    (hnew : shell.tag ∉ c.workflow.activities.keys) :
    ∃ a, a.tag = shell.tag ∧
      c.workflow.Extends ((compileActivity d).run c).2.workflow shell.tag a ∧
      (((compileActivity d).run c).1 = .ok ⟨c.workflow.size⟩ ∨
        ∃ err, ((compileActivity d).run c).1 = .error err ∧
          ((∃ n, FailsAtChild d c n err) ∨ ∃ m, FailsAtOperand d c m err)) := by
  rcases run_compileActivity_cases hshell hnew with
    ⟨c', a, hrun, htag, hext⟩ | ⟨n, err, h⟩ | ⟨m, err, h⟩
  · rw [hrun]
    exact ⟨a, htag, hext, Or.inl rfl⟩
  · obtain ⟨c', hrun, hext⟩ := h.run_compileActivity hshell hnew
    rw [hrun]
    exact ⟨_, by simp, hext, Or.inr ⟨err, rfl, Or.inl ⟨n, h⟩⟩⟩
  · obtain ⟨operand, c', -, -, -, hrun, hext⟩ := h.run_compileActivity hshell hnew
    rw [hrun]
    exact ⟨_, by simp, hext, Or.inr ⟨err, rfl, Or.inr ⟨m, h⟩⟩⟩

/-- Whatever becomes of a declaration whose shell is inserted, an activity is left of it. -/
theorem exists_leavesActivity {d : Element} {c : Compilation} {shell : Activity}
    (hshell : Activity.ofElement d = .ok shell)
    (hnew : shell.tag ∉ c.workflow.activities.keys) :
    ∃ a, LeavesActivity d c shell.tag a := by
  obtain ⟨a, htag, ha, hend⟩ := exists_appended hshell hnew
  refine ⟨a, htag, ha, ?_, ?_, ?_, ?_⟩
  · intro id hid
    rcases hend with hok | ⟨err, herr, -⟩
    · exact Except.ok.inj (hid.symm.trans hok)
    · rw [herr] at hid
      cases hid
  · intro err herr
    rcases hend with hok | ⟨err', herr', hplace⟩
    · rw [hok] at herr
      cases herr
    · cases herr'.symm.trans herr
      exact hplace
  · intro n err h
    obtain ⟨c', hrun, hext⟩ := h.run_compileActivity hshell hnew
    -- What is left is what the declaration cut off before the child compiles to.
    obtain ⟨e, -, hes, -⟩ := (failsAtChild_iff hshell hnew).1 h
    obtain ⟨c'', hopening, hext'⟩ := run_compileActivity_opening hshell hnew hes
    rw [hrun] at ha ⊢
    obtain rfl := ha.activity_unique hext
    exact ⟨rfl, c'', hopening, hext'⟩
  · intro m err h
    obtain ⟨operand, c', hattribute, hchildren, hne, hrun, hext⟩ :=
      h.run_compileActivity hshell hnew
    -- The children were all walked over, so nothing is cut off but the operands.
    obtain ⟨c'', hopening, hext'⟩ := run_compileActivity_opening (n := d.children.length) hshell
      hnew (by rwa [List.take_length])
    rw [List.take_length] at hext'
    rw [hrun] at ha ⊢
    obtain rfl := ha.activity_unique hext
    obtain ⟨operands, heq⟩ := (shell.filled c.workflow.linkedTag d.children).exists_addOperands_eq
      .aggregationField ((operandTokens operand).take (m + 1))
    have hempty : (shell.filled c.workflow.linkedTag d.children).operands = .empty := by
      rw [(Activity.ofElement_eq_ok_iff.1 hshell).2.2]
      rfl
    refine ⟨rfl, operand, c'', _, hattribute, hopening, hext', by rw [heq], ?_⟩
    rw [Activity.entries_addOperands hempty, if_neg hne]

/-- A declaration changes nothing, or it appends an activity under its own tag. -/
theorem compileActivity_unchanged_or_extends (d : Element) (c : Compilation) :
    (∃ err, (compileActivity d).run c = (.error err, c)) ∨
      ∃ a, c.workflow.Extends ((compileActivity d).run c).2.workflow a.tag a := by
  cases hread : Activity.ofElement d with
  | error err => exact Or.inl ⟨err, run_compileActivity_of_ofElement hread⟩
  | ok shell =>
      by_cases hmem : shell.tag ∈ c.workflow.activities.keys
      · exact Or.inl ⟨_, run_compileActivity_of_mem hread hmem⟩
      · obtain ⟨a, hleaves⟩ := exists_leavesActivity hread hmem
        exact Or.inr ⟨a, hleaves.named ▸ hleaves.appended⟩

/-- Whatever a declaration comes to, all entries that the workflow had before are as they were. If
it has no tag, no known type, or a tag that is taken, nothing else happens either. Otherwise one
entry is appended, under its tag, and `LeavesActivity` says what it holds. -/
theorem compileActivity_leaves (d : Element) (c : Compilation) :
    ((compileActivity d).run c).2.workflow.tag = c.workflow.tag ∧
    ((compileActivity d).run c).2.workflow.description = c.workflow.description ∧
    c.workflow.activities.entries <+: ((compileActivity d).run c).2.workflow.activities.entries ∧
    (d.attribute? "tag" = none ∨ d.kind? = none ∨
        (∃ tag ∈ c.workflow.activities.keys, d.attribute? "tag" = some tag) →
      ∃ err, (compileActivity d).run c = (.error err, c)) ∧
    ∀ tag kind, d.attribute? "tag" = some tag → d.kind? = some kind →
      tag ∉ c.workflow.activities.keys → ∃ a, LeavesActivity d c tag a := by
  have hrefused : d.attribute? "tag" = none ∨ d.kind? = none ∨
      (∃ tag ∈ c.workflow.activities.keys, d.attribute? "tag" = some tag) →
        ∃ err, (compileActivity d).run c = (.error err, c) := by
    intro hno
    cases hread : Activity.ofElement d with
    | error err => exact ⟨err, run_compileActivity_of_ofElement hread⟩
    | ok shell =>
        obtain ⟨htag, hkind, -⟩ := Activity.ofElement_eq_ok_iff.1 hread
        rcases hno with hnone | hnone | ⟨tag, hmem, htag'⟩
        · rw [htag] at hnone
          cases hnone
        · rw [Element.kind?, hkind] at hnone
          cases hnone
        · rw [htag, Option.some.injEq] at htag'
          exact ⟨_, run_compileActivity_of_mem hread (htag' ▸ hmem)⟩
  have hinserted : ∀ tag kind, d.attribute? "tag" = some tag → d.kind? = some kind →
      tag ∉ c.workflow.activities.keys → ∃ a, LeavesActivity d c tag a := by
    intro tag kind htag hkind hnew
    obtain ⟨shell, hshell, rfl, -⟩ := exists_ofElement htag hkind
    exact exists_leavesActivity hshell hnew
  -- The entries that were there stay in front in either case.
  rcases compileActivity_unchanged_or_extends d c with ⟨err, hrun⟩ | ⟨a, hext⟩
  · have hsame : ((compileActivity d).run c).2.workflow = c.workflow := by rw [hrun]
    refine ⟨congrArg Workflow.tag hsame, congrArg Workflow.description hsame, ⟨[], ?_⟩, hrefused,
      hinserted⟩
    rw [hsame, List.append_nil]
  · exact ⟨hext.tag, hext.description, hext.entries ▸ List.prefix_append _ _, hrefused, hinserted⟩

/-- A reducing activity with three operands, of which the second is no field of its output. -/
def halfReduced : Element :=
  ⟨"Activity", .ofList [("tag", "r"), ("type", "reduce"), ("operand", "x, y, z")], [
    ⟨"Relation", .ofList [("name", "o"), ("reltype", "output")], []⟩,
    ⟨"Field", .ofList [("name", "x"), ("type", "int"), ("output", "o")], []⟩]⟩

/-- The activity stays behind with its first two operands, of which the second is the fault. -/
theorem compileActivity_leaves_halfReduced :
    ((compileActivity halfReduced).run ⟨.start "w" none, []⟩).1
        = .error (.missingAggregationField "r" "y") ∧
      ∃ a, LeavesActivity halfReduced ⟨.start "w" none, []⟩ "r" a ∧
        a.operands.entries = [(.aggregationField, ["x", "y"])] := by
  have hinserted := (compileActivity_leaves halfReduced ⟨.start "w" none, []⟩).2.2.2.2
  obtain ⟨a, hleaves⟩ := hinserted "r" .reduce (by decide +kernel) (by decide +kernel) (by decide)
  have hoperands : (((compileActivity halfReduced).run
      ⟨.start "w" none, []⟩).2.workflow.activity? ⟨0⟩).map (fun a => a.operands.entries)
        = some [(.aggregationField, ["x", "y"])] := by decide +kernel
  have hlast := hleaves.appended.activity?_last
  refine ⟨by decide +kernel, a, hleaves, ?_⟩
  rw [show (Workflow.start "w" none).size = 0 from rfl] at hlast
  rw [hlast] at hoperands
  exact Option.some.inj hoperands

end FlowGraph
