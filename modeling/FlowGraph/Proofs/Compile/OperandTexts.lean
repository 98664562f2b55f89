import Mathlib.Data.List.Forall2
import FlowGraph.Proofs.Text.Trimming
import FlowGraph.Workflow.Compile

/-!
# `FlowGraph.Proofs.Compile.OperandTexts`: the operands that a text lists

A declaration lists its operands in one text. `ListsOperands` tells what the text lists without
computing it: the pieces are those that give the text back, and each is trimmed to what no blank
begins or ends. The tokens of a text are what it lists (`listsOperands_iff`), and operands that are
joined again are listed as they were (`operandTokens_intercalate`).
-/

set_option autoImplicit false

namespace FlowGraph

/-- What a text lists: it is cut at its commas, the pieces are trimmed, and those that are not
empty are kept, in order. -/
def ListsOperands (s : String) (values : List String) : Prop :=
  ∃ pieces trimmed : List (List Char),
    pieces ≠ [] ∧ (∀ p ∈ pieces, ',' ∉ p) ∧ Text.glue ',' pieces = s.toList ∧
    List.Forall₂ Text.IsTrimmed pieces trimmed ∧
    values = (trimmed.filter (fun t => !t.isEmpty)).map String.ofList

/-- What can be listed: a text without a comma, not empty, without blanks at its ends. -/
structure IsOperand (t : String) : Prop where
  nonempty : t.toList ≠ []
  unsplit : ',' ∉ t.toList
  trimmed : Text.trimChars t.toList = t.toList

/-- The tokens of a text, found among lists of characters and made texts at the end. -/
theorem operandTokens_eq (s : String) : operandTokens s
    = (((Text.pieces ',' s.toList).map Text.trimChars).filter (fun t => !t.isEmpty)).map
        String.ofList := by
  have hempty : (fun t : String => !t.isEmpty) ∘ String.ofList = fun t => !t.isEmpty := by
    funext t
    show (!(String.ofList t).isEmpty) = !t.isEmpty
    rw [Bool.eq_iff_iff, Bool.not_eq_true', Bool.not_eq_true', String.isEmpty_eq_false_iff,
      List.isEmpty_eq_false_iff, ne_eq, String.ofList_eq_empty_iff]
  rw [← hempty, ← List.filter_map, List.map_map]
  rfl

/-- The tokens of a text are what it lists. -/
theorem listsOperands_iff {s : String} {values : List String} :
    ListsOperands s values ↔ operandTokens s = values := by
  have htrimmed : ∀ ps ts, List.Forall₂ Text.IsTrimmed ps ts ↔ ps.map Text.trimChars = ts := by
    intro ps ts
    have heq : Text.IsTrimmed = fun p t => Text.trimChars p = t := by
      funext p t
      exact propext Text.isTrimmed_iff
    rw [heq, ← List.forall₂_map_left_iff, List.forall₂_eq_eq_eq]
  rw [operandTokens_eq]
  constructor
  · rintro ⟨ps, ts, hne, hmark, hglue, hts, rfl⟩
    rw [Text.pieces_eq_iff.2 ⟨hne, hmark, hglue⟩, (htrimmed ps ts).1 hts]
  · rintro rfl
    obtain ⟨hne, hmark, hglue⟩ := Text.pieces_eq_iff.1 (Eq.refl (Text.pieces ',' s.toList))
    exact ⟨_, _, hne, hmark, hglue, (htrimmed _ _).2 rfl, rfl⟩

/-- What is read as an operand is trimmed, not empty and without commas. -/
theorem isOperand_of_mem {s t : String} (h : t ∈ operandTokens s) : IsOperand t := by
  rw [operandTokens_eq, List.mem_map] at h
  obtain ⟨cs, hcs, rfl⟩ := h
  rw [List.mem_filter, List.mem_map] at hcs
  obtain ⟨⟨p, hp, rfl⟩, hne⟩ := hcs
  refine ⟨?_, ?_, ?_⟩
  · simpa using hne
  · rw [String.toList_ofList]
    exact fun hmem => Text.not_mem_of_mem_pieces hp (Text.mem_of_mem_trimChars hmem)
  · rw [String.toList_ofList, Text.trimChars_trimChars]

/-- Operands that are joined by commas are listed as they were. -/
theorem operandTokens_intercalate {values : List String} (h : ∀ t ∈ values, IsOperand t) :
    operandTokens (",".intercalate values) = values := by
  cases hvalues : values with
  | nil => decide
  | cons first rest =>
      rw [← hvalues]
      have hpieces : Text.pieces ',' (",".intercalate values).toList
          = values.map String.toList := by
        refine Text.pieces_eq_iff.2 ⟨by simp [hvalues], ?_, ?_⟩
        · intro p hp
          obtain ⟨t, ht, rfl⟩ := List.mem_map.1 hp
          exact (h t ht).unsplit
        · rw [String.toList_intercalate]
          rfl
      -- Every piece is an operand already, so nothing is trimmed and none is left out.
      have htrim : (values.map String.toList).map Text.trimChars = values.map String.toList := by
        rw [List.map_map]
        exact List.map_congr_left (fun t ht => (h t ht).trimmed)
      have hkeep : (values.map String.toList).filter (fun t => !t.isEmpty)
          = values.map String.toList := by
        rw [List.filter_eq_self]
        intro p hp
        obtain ⟨t, ht, rfl⟩ := List.mem_map.1 hp
        simpa using (h t ht).nonempty
      rw [operandTokens_eq, hpieces, htrim, hkeep, List.map_map]
      simp

/-- A text lists nothing exactly if there are only commas and blanks in it. -/
theorem operandTokens_eq_nil_iff {s : String} :
    operandTokens s = [] ↔ ∀ c ∈ s.toList, c = ',' ∨ Text.isBlank c = true := by
  have hpieces : operandTokens s = []
      ↔ ∀ p ∈ Text.pieces ',' s.toList, ∀ c ∈ p, Text.isBlank c = true := by
    rw [operandTokens_eq, List.map_eq_nil_iff, List.filter_eq_nil_iff, List.forall_mem_map]
    simp [Text.trimChars_eq_nil_iff]
  -- Every character but a comma is in some piece, and no comma is in any.
  rw [hpieces]
  constructor
  · intro h c hc
    by_cases hcomma : c = ','
    · exact Or.inl hcomma
    · obtain ⟨p, hp, hcp⟩ := (Text.mem_iff_mem_pieces hcomma).1 hc
      exact Or.inr (h p hp c hcp)
  · intro h p hp c hc
    have hcomma : c ≠ ',' := fun heq => Text.not_mem_of_mem_pieces hp (heq ▸ hc)
    exact (h c ((Text.mem_iff_mem_pieces hcomma).2 ⟨p, hp, hc⟩)).resolve_left hcomma

end FlowGraph
