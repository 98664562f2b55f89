import FlowGraph.Proofs.Text.Trimming
import FlowGraph.Workflow.Kind

/-!
# `FlowGraph.Proofs.Workflow.Kinds`: which texts name a kind or a direction

A description names kinds of activities and directions in letters of either case, with blanks around
them. `Text.Spells` says so without a reader. No two names of a vocabulary are spelled alike, so
there is one answer for a text: `ActivityKind.ofText?_eq_some_iff` and
`Direction.ofText?_eq_some_iff` say exactly which texts are read, and as what.
-/

set_option autoImplicit false

namespace FlowGraph

namespace Text

/-- The text is the name, in letters of either case, with blanks around it or none. Only the
letters of ASCII have two cases. -/
def Spells (s name : String) : Prop :=
  ∃ cs, IsTrimmed s.toList cs ∧ cs.map Char.toLower = name.toList.map Char.toLower

/-- A text that is trimmed has the letters of a name exactly when it spells the name. -/
theorem sameLetters_trim_iff {s name : String} :
    sameLetters name (trim s) = true ↔ Spells s name := by
  rw [sameLetters_iff, trim, String.toList_ofList]
  constructor
  · intro h
    exact ⟨_, isTrimmed_trimChars s.toList, h.symm⟩
  · rintro ⟨cs, htrim, hletters⟩
    rw [isTrimmed_iff.1 htrim, hletters]

/-- In a vocabulary where no two names are spelled alike, a text names what it spells. -/
theorem find?_sameLetters_eq_some_iff {α : Type} {all : List α} {name : α → String}
    (hname : ∀ k l, sameLetters (name k) (name l) = true → k = l) {s : String} {k : α}
    (hk : k ∈ all) :
    all.find? (fun l => sameLetters (name l) (trim s)) = some k ↔ Spells s (name k) := by
  rw [← sameLetters_trim_iff]
  have hfound {l : α} (hl : all.find? (fun l => sameLetters (name l) (trim s)) = some l) :
      sameLetters (name l) (trim s) = true :=
    List.find?_some (p := fun l => sameLetters (name l) (trim s)) hl
  constructor
  · exact hfound
  · intro h
    have hsome : (all.find? (fun l => sameLetters (name l) (trim s))).isSome = true :=
      List.find?_isSome.2 ⟨k, hk, h⟩
    obtain ⟨l, hl⟩ := Option.isSome_iff_exists.1 hsome
    -- What is found is spelled like the text, and so like `k`.
    have hsame := hfound hl
    rw [sameLetters_iff] at h hsame
    rw [hl, hname l k ((sameLetters_iff _ _).2 (hsame.trans h.symm))]

end Text

/-- No two kinds are named alike up to case. -/
theorem ActivityKind.eq_of_sameLetters (k l : ActivityKind)
    (h : Text.sameLetters k.name l.name = true) : k = l := by
  cases k <;> cases l <;> first | rfl | exact absurd h (by decide)

/-- The two directions are not named alike up to case. -/
theorem Direction.eq_of_sameLetters (d d' : Direction)
    (h : Text.sameLetters d.name d'.name = true) : d = d' := by
  cases d <;> cases d' <;> first | rfl | exact absurd h (by decide)

/-- A text is read as the kind whose name it spells. -/
theorem ActivityKind.ofText?_eq_some_iff {s : String} {k : ActivityKind} :
    ofText? s = some k ↔ Text.Spells s k.name :=
  Text.find?_sameLetters_eq_some_iff eq_of_sameLetters (mem_all k)

/-- A text is read as the direction whose name it spells. -/
theorem Direction.ofText?_eq_some_iff {s : String} {d : Direction} :
    ofText? s = some d ↔ Text.Spells s d.name :=
  Text.find?_sameLetters_eq_some_iff eq_of_sameLetters (by cases d <;> decide)

/-- A text that spells the name of no kind is refused, and no other is. -/
theorem ActivityKind.ofText?_eq_none_iff {s : String} :
    ofText? s = none ↔ ∀ k : ActivityKind, ¬ Text.Spells s k.name := by
  simp only [Option.eq_none_iff_forall_ne_some, ne_eq, ofText?_eq_some_iff]

/-- A text that spells the name of no direction is refused, and no other is. -/
theorem Direction.ofText?_eq_none_iff {s : String} :
    ofText? s = none ↔ ∀ d : Direction, ¬ Text.Spells s d.name := by
  simp only [Option.eq_none_iff_forall_ne_some, ne_eq, ofText?_eq_some_iff]

example : ActivityKind.ofText? "\u2003Split_map\n" = some .splitMap := by decide

end FlowGraph
