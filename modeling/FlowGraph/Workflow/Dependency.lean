import FlowGraph.Log

/-!
# `FlowGraph.Workflow.Dependency`: which activities a relation may read from

A dependency names an activity by its key, and only activities before the current one are
visible, even where a later one is in the table already. The statements:

* `resolveDependency_eq_ok_iff`: a tag resolves exactly to an earlier activity under it.
* `resolveDependency_eq_unknown_iff`: it is unknown exactly when it is no key.
-/

set_option autoImplicit false

namespace FlowGraph

/-- Why a dependency does not resolve. -/
inductive Unresolved where
  /-- The tag is no key of the workflow so far. -/
  | unknown
  /-- The tag belongs to the current activity or to a later one. -/
  | notYetCompiled
deriving DecidableEq

namespace Workflow

/-- The activity that a dependency of `current` names. -/
def resolveDependency (w : Workflow) (current : ActivityId) (tag : String) :
    Except Unresolved ActivityId :=
  match w.idOf? tag with
  | some id => if id.index < current.index then .ok id else .error .notYetCompiled
  | none => .error .unknown

/-- The activity that a dependency of `current` names, if it may be read from, and the record
of how the look-up went. A dependency that does not resolve stays unset. -/
def linkDependency (w : Workflow) (current : ActivityId) (tag : String) :
    Option ActivityId × Event :=
  match w.resolveDependency current tag with
  | .ok id => (some id, .dependencyResolved tag id.index)
  | .error .unknown => (none, .unknownDependency (w.tagOf current) tag)
  | .error .notYetCompiled => (none, .lateDependency (w.tagOf current) tag)

/-- A dependency is resolved exactly to an activity that comes before. -/
theorem resolveDependency_eq_ok_iff {w : Workflow} {current id : ActivityId} {tag : String} :
    w.resolveDependency current tag = .ok id ↔
      w.idOf? tag = some id ∧ id.index < current.index := by
  unfold resolveDependency
  split
  · next found h =>
      constructor
      · intro hok
        split at hok
        · next hlt => cases hok; exact ⟨h, hlt⟩
        · cases hok
      · rintro ⟨hid, hlt⟩
        rw [h] at hid
        cases hid
        simp [hlt]
  · next h => simp [h]

/-- A dependency is unknown exactly if no activity has the tag. -/
theorem resolveDependency_eq_unknown_iff {w : Workflow} {current : ActivityId} {tag : String} :
    w.resolveDependency current tag = .error .unknown ↔ w.idOf? tag = none := by
  unfold resolveDependency
  split
  · next h => split <;> simp [h]
  · next h => simp [h]

end Workflow

end FlowGraph
