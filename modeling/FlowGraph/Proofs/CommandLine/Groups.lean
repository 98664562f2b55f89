import FlowGraph.CommandLine.Arguments

/-!
# `FlowGraph.Proofs.CommandLine.Groups`: the groups that arguments make

`Group.Written` lists how each group is written, and `Grouped` cuts arguments into such groups from
left to right. Every list of arguments can be cut in one way (`groups_eq_iff`). An option that takes
a file can lack it at the end of the arguments and nowhere else (`Grouped.finished`).
-/

set_option autoImplicit false

namespace FlowGraph.CommandLine

/-- The argument is an option that takes a file. -/
def TakesFile (a : String) : Prop := a = "--emit" ∨ a = "--sites"

instance : DecidablePred TakesFile := fun a => inferInstanceAs (Decidable (a = _ ∨ a = _))

/-- All options. -/
def knownOptions : List String :=
  ["--help", "-h", "--version", "-V", "--verbose", "-v", "--emit", "--sites"]

/-- The arguments that a complete group is written with. The file of an option is any text, also one
that is an option elsewhere. -/
inductive Group.Written : List String → Group → Prop
  | emit (path : String) : Written ["--emit", path] (.emit path)
  | sites (path : String) : Written ["--sites", path] (.sites path)
  | help {a : String} (h : a = "--help" ∨ a = "-h") : Written [a] .help
  | version {a : String} (h : a = "--version" ∨ a = "-V") : Written [a] .version
  | verbose {a : String} (h : a = "--verbose" ∨ a = "-v") : Written [a] .verbose
  | unknown {a : String} (hdash : a.toList.head? = some '-') (h : a ∉ knownOptions) :
      Written [a] (.unknown a)
  | positional {a : String} (h : a.toList.head? ≠ some '-') : Written [a] (.positional a)

/-- The arguments, cut into groups from left to right. -/
inductive Grouped : List String → List Group → Prop
  | nil : Grouped [] []
  | unfinished {a : String} (h : TakesFile a) : Grouped [a] [.unfinished a]
  | cons {word args : List String} {g : Group} {gs : List Group} (hword : g.Written word)
      (h : Grouped args gs) : Grouped (word ++ args) (g :: gs)

/-! ### Single arguments -/

/-- Options begin with a hyphen. -/
theorem head?_of_mem_knownOptions {a : String} (h : a ∈ knownOptions) :
    a.toList.head? = some '-' := by
  revert a
  decide

/-- No option is left to an argument that is none of them. -/
theorem Group.ofArgument_of_not_mem {a : String} (h : a ∉ knownOptions) :
    ofArgument a = if a.toList.head? = some '-' then .unknown a else .positional a := by
  simp only [knownOptions, List.mem_cons, List.not_mem_nil, or_false, not_or] at h
  simp [ofArgument, h]

/-- An argument that takes no file is a group of its own. -/
theorem Group.written_ofArgument {a : String} (h : ¬ TakesFile a) : (ofArgument a).Written [a] := by
  by_cases hknown : a ∈ knownOptions
  · -- Six of the options are groups on their own.
    simp only [knownOptions, List.mem_cons, List.not_mem_nil, or_false] at hknown
    rcases hknown with rfl | rfl | rfl | rfl | rfl | rfl | rfl | rfl
    · exact .help (Or.inl rfl)
    · exact .help (Or.inr rfl)
    · exact .version (Or.inl rfl)
    · exact .version (Or.inr rfl)
    · exact .verbose (Or.inl rfl)
    · exact .verbose (Or.inr rfl)
    · exact absurd (Or.inl rfl) h
    · exact absurd (Or.inr rfl) h
  · rw [ofArgument_of_not_mem hknown]
    split
    · next hdash => exact .unknown hdash hknown
    · next hdash => exact .positional hdash

/-- A group written with one argument is the group of this argument. -/
theorem Group.ofArgument_of_written {a : String} {g : Group} (h : g.Written [a]) :
    ofArgument a = g := by
  cases h with
  | help h => rcases h with rfl | rfl <;> rfl
  | version h => rcases h with rfl | rfl <;> rfl
  | verbose h => rcases h with rfl | rfl <;> rfl
  | unknown hdash h => rw [ofArgument_of_not_mem h, if_pos hdash]
  | positional h =>
      rw [ofArgument_of_not_mem (fun hknown => h (head?_of_mem_knownOptions hknown)), if_neg h]

/-- An option that takes a file is no group on its own. -/
theorem Group.Written.not_takesFile {a : String} {g : Group} (h : g.Written [a]) :
    ¬ TakesFile a := by
  have hmem : TakesFile a → a ∈ knownOptions := by
    rintro (rfl | rfl) <;> decide
  cases h with
  | help h => rcases h with rfl | rfl <;> decide
  | version h => rcases h with rfl | rfl <;> decide
  | verbose h => rcases h with rfl | rfl <;> decide
  | unknown hdash h => exact fun htakes => h (hmem htakes)
  | positional h => exact fun htakes => h (head?_of_mem_knownOptions (hmem htakes))

/-! ### Lists of arguments -/

/-- An argument that takes no file is grouped alone, and the rest goes on after it. -/
theorem groups_cons_of_not_takesFile {a : String} (args : List String) (h : ¬ TakesFile a) :
    groups (a :: args) = .ofArgument a :: groups args := by
  simp only [TakesFile, not_or] at h
  cases args with
  | nil => simp [groups, h]
  | cons b rest => simp [groups, h]

/-- A complete group is taken off the front, whatever follows. -/
theorem groups_append {word : List String} {g : Group} (args : List String)
    (h : g.Written word) : groups (word ++ args) = g :: groups args := by
  -- A group of one argument takes no file, so the arguments behind it do not matter to it.
  have hsingle {a : String} {g : Group} (h : g.Written [a]) :
      groups ([a] ++ args) = g :: groups args := by
    rw [← Group.ofArgument_of_written h]
    exact groups_cons_of_not_takesFile args h.not_takesFile
  cases h with
  | emit path => rfl
  | sites path => rfl
  | help h => exact hsingle (.help h)
  | version h => exact hsingle (.version h)
  | verbose h => exact hsingle (.verbose h)
  | unknown hdash h => exact hsingle (.unknown hdash h)
  | positional h => exact hsingle (.positional h)

/-- Arguments can always be grouped: an option that takes a file goes with the argument behind
it. -/
theorem grouped_groups : (args : List String) → Grouped args (groups args)
  | [] => .nil
  | [a] => by
      rw [groups]
      split
      · next h => exact .unfinished h
      · next h => exact .cons (Group.written_ofArgument h) .nil
  -- Two arguments may be one group, so the recursion goes on behind both or behind the first.
  | a :: b :: rest => by
      rw [groups]
      split
      · next h =>
          subst h
          exact .cons (.emit b) (grouped_groups rest)
      · next hemit =>
          split
          · next h =>
              subst h
              exact .cons (.sites b) (grouped_groups rest)
          · next hsites =>
              exact .cons (Group.written_ofArgument (not_or.2 ⟨hemit, hsites⟩))
                (grouped_groups (b :: rest))

/-- Arguments make the groups into which they can be cut, and can be cut in one way. -/
theorem groups_eq_iff {args : List String} {gs : List Group} :
    groups args = gs ↔ Grouped args gs := by
  constructor
  · rintro rfl
    exact grouped_groups args
  · intro h
    induction h with
    | nil => rfl
    | unfinished h => exact if_pos h
    | cons hword h ih => rw [groups_append _ hword, ih]

/-! ### Complete groups -/

/-- Only the last group can lack its file. -/
theorem Grouped.finished {args : List String} {before after : List Group} {g : Group}
    (h : Grouped args (before ++ g :: after)) (a : String) : .unfinished a ∉ before := by
  generalize hgs : before ++ g :: after = gs at h
  induction h generalizing before with
  | nil => simp at hgs
  | unfinished h =>
      cases before with
      | nil => exact List.not_mem_nil
      | cons b before => simp at hgs
  | cons hword h ih =>
      cases before with
      | nil => exact List.not_mem_nil
      | cons b before =>
          obtain ⟨rfl, hrest⟩ := List.cons.inj hgs
          intro hmem
          rcases List.mem_cons.1 hmem with rfl | hmem
          -- What can be written is complete.
          · cases hword
          · exact ih hrest hmem

/-- Every group but one that lacks its file can be written. -/
theorem Grouped.exists_written {args : List String} {gs : List Group} (h : Grouped args gs)
    {g : Group} (hmem : g ∈ gs) (hfinished : ∀ a, g ≠ .unfinished a) :
    ∃ word, g.Written word := by
  induction h with
  | nil => cases hmem
  | unfinished h => exact absurd (List.mem_singleton.1 hmem) (hfinished _)
  | cons hword h ih =>
      rcases List.mem_cons.1 hmem with rfl | hmem
      · exact ⟨_, hword⟩
      · exact ih hmem

/-- Groups that can be written are those of some arguments. -/
theorem exists_groups_eq {gs : List Group} (h : ∀ g ∈ gs, ∃ word, g.Written word) :
    ∃ args, groups args = gs := by
  induction gs with
  | nil => exact ⟨[], rfl⟩
  | cons g gs ih =>
      rw [List.forall_mem_cons] at h
      obtain ⟨word, hword⟩ := h.1
      obtain ⟨args, rfl⟩ := ih h.2
      exact ⟨word ++ args, groups_append args hword⟩

end FlowGraph.CommandLine
