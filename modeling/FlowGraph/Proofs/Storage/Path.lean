import FlowGraph.Proofs.Text.Trimming
import FlowGraph.Storage.Path

/-!
# `FlowGraph.Proofs.Storage.Path`: which paths name YAML files

The extension of a path is what stands behind the last dot of its name, if anything stands before
that dot (`extension?_eq_some_iff`). `isYaml_iff` tells from the name alone which files are kept as
YAML.
-/

set_option autoImplicit false

namespace FlowGraph

/-- A mark cuts a text in two, and the pieces are those of both. -/
theorem Text.pieces_append_mark (mark : Char) (front cs : List Char) :
    pieces mark (front ++ mark :: cs) = pieces mark front ++ pieces mark cs := by
  induction front with
  | nil => rw [List.nil_append, pieces_cons, if_pos rfl]; rfl
  | cons c front ih =>
      rw [List.cons_append, pieces_cons, pieces_cons, ih]
      split
      · rfl
      · cases hp : pieces mark front with
        | nil => exact absurd hp (pieces_ne_nil mark front)
        | cons p ps => rfl

/-- A text without the mark is a single piece. -/
theorem Text.pieces_of_not_mem {mark : Char} {cs : List Char} (h : mark ∉ cs) :
    pieces mark cs = [cs] :=
  pieces_eq_iff.2 ⟨by simp, by simpa using h, by simp [glue]⟩

/-- Only the empty text is one empty piece. -/
theorem Text.pieces_eq_singleton_nil_iff {mark : Char} {cs : List Char} :
    pieces mark cs = [[]] ↔ cs = [] := by
  constructor
  · intro h
    rw [← glue_pieces mark cs, h]
    rfl
  · rintro rfl
    rfl

namespace Path

/-- Every text with a dot has a last one. -/
theorem exists_last_dot {cs : List Char} (h : '.' ∈ cs) :
    ∃ front e, cs = front ++ '.' :: e ∧ '.' ∉ e := by
  obtain ⟨back, front, hsplit, hback⟩ := List.eq_append_cons_of_mem (List.mem_reverse.2 h)
  refine ⟨front.reverse, back.reverse, ?_, fun hmem => hback (List.mem_reverse.1 hmem)⟩
  rw [← List.reverse_reverse cs, hsplit]
  simp

section

variable {path name : String} (hname : fileName? path = some name)
include hname

/-- A name without a dot has no extension. -/
theorem extension?_of_no_dot (h : '.' ∉ name.toList) : extension? path = none := by
  rw [extension?, hname]
  simp only [Text.pieces_of_not_mem h, List.reverse_singleton]

/-- The last dot ends the extension, unless it begins the name. -/
theorem extension?_of_last_dot {front e : List Char} (hsplit : name.toList = front ++ '.' :: e)
    (h : '.' ∉ e) : extension? path = if front = [] then none else some (String.ofList e) := by
  have hpieces : (Text.pieces '.' name.toList).reverse = e :: (Text.pieces '.' front).reverse := by
    rw [hsplit, Text.pieces_append_mark, Text.pieces_of_not_mem h, List.reverse_append,
      List.reverse_singleton, List.singleton_append]
  rw [extension?, hname]
  simp only [hpieces]
  cases hrest : (Text.pieces '.' front).reverse with
  | nil => exact absurd (List.reverse_eq_nil_iff.1 hrest) (Text.pieces_ne_nil '.' front)
  | cons before others =>
      -- Of what stands before the dot nothing is left exactly if it has one piece, an empty one.
      have hfront : before = [] ∧ others = [] ↔ front = [] := by
        rw [← List.cons.injEq, ← hrest, List.reverse_eq_iff, List.reverse_singleton,
          Text.pieces_eq_singleton_nil_iff]
      simp only [hfront]

end

/-- The extension is what stands behind the last dot of the name, where that dot is not the first
character. -/
theorem extension?_eq_some_iff {path e : String} :
    extension? path = some e ↔ ∃ name front, fileName? path = some name ∧
      name.toList = front ++ '.' :: e.toList ∧ '.' ∉ e.toList ∧ front ≠ [] := by
  constructor
  · intro h
    cases hname : fileName? path with
    | none =>
        rw [extension?, hname] at h
        cases h
    | some name =>
        -- The last dot cuts the name, and cuts nothing off where it comes first.
        by_cases hdot : '.' ∈ name.toList
        · obtain ⟨front, cs, hsplit, hcs⟩ := exists_last_dot hdot
          rw [extension?_of_last_dot hname hsplit hcs] at h
          split at h
          · cases h
          · next hfront =>
              cases h
              exact ⟨name, front, rfl, by simpa using hsplit, by simpa using hcs, hfront⟩
        · rw [extension?_of_no_dot hname hdot] at h
          cases h
  · rintro ⟨name, front, hname, hsplit, he, hfront⟩
    rw [extension?_of_last_dot hname hsplit he, if_neg hfront, String.ofList_toList]

/-- The name that the path ends with is some text, a dot and one of the two extensions of YAML
files, in any case of the letters. -/
def NamesYaml (path : String) : Prop :=
  ∃ name front e, fileName? path = some name ∧ name.toList = front ++ '.' :: e ∧ front ≠ [] ∧
    String.ofList (e.map Char.toLower) ∈ ["yaml", "yml"]

/-- The paths that are written as YAML are those whose extension says so. -/
theorem isYaml_iff {path : String} : isYaml path = true ↔ NamesYaml path := by
  have hsmall (e : String) : (Text.sameLetters e "yaml" || Text.sameLetters e "yml") = true ↔
      String.ofList (e.toList.map Char.toLower) ∈ ["yaml", "yml"] := by
    simp only [Bool.or_eq_true, Text.sameLetters_iff, List.mem_cons, List.not_mem_nil, or_false,
      ← String.toList_inj, String.toList_ofList]
    rfl
  rw [isYaml, Option.any_eq_true]
  constructor
  · rintro ⟨e, he, hletters⟩
    obtain ⟨name, front, hname, hsplit, -, hfront⟩ := extension?_eq_some_iff.1 he
    exact ⟨name, front, e.toList, hname, hsplit, hfront, (hsmall e).1 hletters⟩
  · rintro ⟨name, front, e, hname, hsplit, hfront, hletters⟩
    -- Neither of the two extensions has a dot, so the dot before it is the last one.
    have hdot : '.' ∉ e := by
      intro hmem
      have hlower : '.' ∈ e.map Char.toLower := List.mem_map.2 ⟨'.', hmem, by decide⟩
      simp only [List.mem_cons, List.not_mem_nil, or_false, ← String.toList_inj,
        String.toList_ofList] at hletters
      rcases hletters with heq | heq
      · rw [heq] at hlower
        exact absurd hlower (by decide)
      · rw [heq] at hlower
        exact absurd hlower (by decide)
    refine ⟨String.ofList e, extension?_eq_some_iff.2 ⟨name, front, hname, ?_, ?_, hfront⟩, ?_⟩
    · rw [String.toList_ofList, hsplit]
    · rwa [String.toList_ofList]
    · rw [hsmall, String.toList_ofList]
      exact hletters

end Path

end FlowGraph
