import FlowGraph.Proofs.Json.Fields
import FlowGraph.Proofs.Workflow.RoundTrip

/-!
# `FlowGraph.Proofs.Workflow.Members`: the activities that a text lists

A stored workflow lists its activities as the members of an object (`storedMembers`). They are
set into a table one after another before any rule is checked, so the check that refuses a
repeated tag never sees one: of members with one key the table has the last, in the place of the
first.

* `ofJson_members`: what has been read holds one activity for each key that is listed, and one
  for each member exactly if no key is listed twice.
* `ofJson_drops_member`: so a member can be lost, and a text that lists a key twice is accepted.
-/

set_option autoImplicit false

namespace FlowGraph

open Json

/-- The members that a text lists as activities. A text that lists none has no such members. -/
def storedMembers (s : String) : List (Tree × Tree) :=
  match StoredWorkflow.recordType.fieldOf? "activities" (Tree.read s.toList).1 with
  | some t => t.members
  | none => []

/-- The activities of a stored workflow are one of its fields. -/
theorem keepsField_activities :
    StoredWorkflow.recordType.KeepsField "activities" DraftWorkflow.activities
      (Decoder.table Except.ok Activity.recordType.decoder) where
  mem := by decide
  nodup := by decide
  put_self := by
    intro r v r' h
    obtain ⟨table, htable, h⟩ := except_bind_eq_ok_iff.1 h
    cases h
    exact htable
  put_of_ne := by
    intro r key v r' hne h
    -- The other keys put their own fields, and unknown keys put none.
    simp only [StoredWorkflow.recordType] at h
    split at h
    · obtain ⟨tag, -, h⟩ := except_bind_eq_ok_iff.1 h
      cases h
      rfl
    · obtain ⟨description, -, h⟩ := except_bind_eq_ok_iff.1 h
      cases h
      rfl
    · exact absurd rfl hne
    · cases h
      rfl

/-- The activities of a stored workflow that has been read are its members, set one after
another. -/
theorem activities_of_decoder {s : String} {stored : StoredWorkflow}
    (h : StoredWorkflow.recordType.decoder (Tree.read s.toList).1 = .ok stored) :
    ∃ entries, List.Forall₂ (fun m e => m.1 = .text (some e.1) ∧
        Activity.recordType.decoder m.2 = .ok e.2) (storedMembers s) entries ∧
      stored.activities = .ofList entries := by
  obtain ⟨r, hfinish, htakes⟩ := keepsField_activities.decoder h
  have hactivities : stored.activities = r.activities := by
    simp only [StoredWorkflow.recordType] at hfinish
    split at hfinish
    · cases hfinish
    · cases hfinish
      rfl
  rw [storedMembers, hactivities]
  cases hplace : StoredWorkflow.recordType.fieldOf? "activities" (Tree.read s.toList).1 with
  | none =>
      rw [hplace] at htakes
      exact ⟨[], .nil, htakes⟩
  | some t =>
      rw [hplace] at htakes
      obtain ⟨entries, hread, htable⟩ := table_eq_ok htakes
      refine ⟨entries, hread.imp ?_, htable⟩
      rintro m e ⟨key, hm, hkey, he⟩
      cases hkey
      exact ⟨hm, he⟩

/-- A workflow that has been read from a text holds an activity for each key among the members
that the text lists, in the order in which the keys come first, and this is what the last member
with the key reads as. It holds exactly one activity for each member, in their order, if and only
if no key is listed twice. -/
theorem ofJson_members {s : String} {w : Workflow} (h : Workflow.ofJson s = .ok w) :
    ∃ entries, List.Forall₂ (fun m e => m.1 = .text (some e.1) ∧
        Activity.recordType.decoder m.2 = .ok e.2) (storedMembers s) entries ∧
      w.activities.keys = (entries.map Prod.fst).eraseDups ∧
      (∀ k, w.get? k = ((entries.filter (fun e => decide (e.1 = k))).getLast?).map Prod.snd) ∧
      (w.activities.entries = entries ↔ (entries.map Prod.fst).Nodup) := by
  obtain ⟨stored, hstored, hrestore⟩ := exists_stored_of_ofJson h
  obtain ⟨-, rfl⟩ := restore_eq_ok_iff.1 hrestore
  obtain ⟨entries, hread, htable⟩ := activities_of_decoder hstored
  refine ⟨entries, hread, ?_, ?_, ?_⟩
  · exact htable ▸ Table.keys_ofList entries
  · intro k
    exact htable ▸ Table.get?_ofList entries k
  · exact htable ▸ Table.entries_ofList_eq_iff

/-- A text that lists two activities under one key. -/
def repeatedKey : String :=
  "\x7b\"tag\":\"w\",\"activities\":\x7b\"a\":\x7b\"tag\":\"a\",\"type\":\"MAP\"\x7d," ++
    "\"a\":\x7b\"tag\":\"a\",\"type\":\"LOAD\"\x7d\x7d\x7d"

/-- The text is read, with the key in its first place and the activity of the last member. -/
theorem ofJson_members_repeatedKey : ∃ w, Workflow.ofJson repeatedKey = .ok w ∧
    ∃ entries, List.Forall₂ (fun m e => m.1 = .text (some e.1) ∧
        Activity.recordType.decoder m.2 = .ok e.2) (storedMembers repeatedKey) entries ∧
      w.activities.keys = (entries.map Prod.fst).eraseDups ∧
      (∀ k, w.get? k = ((entries.filter (fun e => decide (e.1 = k))).getLast?).map Prod.snd) ∧
      (w.activities.entries = entries ↔ (entries.map Prod.fst).Nodup) := by
  have hok : (Workflow.ofJson repeatedKey).toOption.isSome = true := by decide +kernel
  obtain ⟨w, hw⟩ := exists_ok_of_isSome_toOption hok
  exact ⟨w, hw, ofJson_members hw⟩

/-- Reading loses a member: it is not so that every workflow has as many activities as its text
lists. -/
theorem ofJson_drops_member :
    ¬ ∀ s w, Workflow.ofJson s = .ok w → w.size = (storedMembers s).length := by
  intro hall
  have hsize : (Workflow.ofJson repeatedKey).toOption.map Workflow.size = some 1 := by
    decide +kernel
  have hmembers : (storedMembers repeatedKey).length = 2 := by decide +kernel
  obtain ⟨w, hw, hone⟩ := Option.map_eq_some_iff.1 hsize
  have htwo := hall repeatedKey w (except_toOption_eq_some_iff.1 hw)
  rw [hone, hmembers] at htwo
  cases htwo

end FlowGraph
