import Mathlib.Data.List.Forall2
import FlowGraph.Json.Decode
import FlowGraph.Proofs.Steps
import FlowGraph.Proofs.Table

/-!
# `FlowGraph.Proofs.Json.Fields`: what has been read, and where it was written

`FlowGraph.Proofs.Json.Records` reads data that was written before. Here the text is any text
that could be read, and the question is where in it a value comes from:

* `RecordType.fieldOf?`: the place of a field, in a record written as an object or as an array.
* `KeepsField.decoder`: a record that has been read holds in each field what is read in its place,
  or what it starts with if there is no such place.
* `table_eq_ok`: a table that has been read is made of the members of an object, in order.

That a field has one place rests on the reader, which refuses a member that repeats a field. A
table has no such rule, and sets its members one after another.
-/

set_option autoImplicit false

namespace FlowGraph.Json

variable {α β ρ ε : Type}

/-! ### Lists -/

/-- A list that has been read is read item by item. -/
theorem forall₂_of_mapM_eq_ok {f : α → Except ε β} {xs : List α} {ys : List β}
    (h : xs.mapM f = .ok ys) : List.Forall₂ (fun x y => f x = .ok y) xs ys := by
  induction xs generalizing ys with
  | nil =>
      rw [List.mapM_nil] at h
      cases h
      exact .nil
  | cons x xs ih =>
      rw [List.mapM_cons, except_bind_eq_ok_iff] at h
      obtain ⟨y, hy, h⟩ := h
      obtain ⟨zs, hzs, h⟩ := except_bind_eq_ok_iff.1 h
      cases h
      exact .cons hy (ih hzs)

/-! ### Tables -/

/-- The members of an object. -/
def Tree.members : Tree → List (Tree × Tree)
  | object members _ => members
  | _ => []

/-- A table that has been read from an object is made of its members, set one after another. -/
theorem table_eq_ok {κ : Type} [DecidableEq κ] {key : String → Except ReadError κ}
    {d : Decoder α} {t : Tree} {table : Table κ α} (h : Decoder.table key d t = .ok table) :
    ∃ entries, List.Forall₂
        (fun m e => ∃ s, m.1 = .text (some s) ∧ key s = .ok e.1 ∧ d m.2 = .ok e.2)
        t.members entries ∧ table = .ofList entries := by
  cases t with
  | object members complete =>
      rw [Decoder.table, except_bind_eq_ok_iff] at h
      obtain ⟨entries, hentries, h⟩ := h
      split at h
      · cases h
        refine ⟨entries, (forall₂_of_mapM_eq_ok hentries).imp ?_, rfl⟩
        rintro ⟨k, v⟩ ⟨key', a⟩ hread
        dsimp only at hread
        -- Only a string with a text can be a key.
        split at hread
        · next s =>
            obtain ⟨l, hl, hread⟩ := except_bind_eq_ok_iff.1 hread
            obtain ⟨b, hb, hread⟩ := except_bind_eq_ok_iff.1 hread
            cases hread
            exact ⟨s, rfl, hl, hb⟩
        · cases hread
      · cases h
  | broken => cases h
  | null => cases h
  | boolean b => cases h
  | number n => cases h
  | text s => cases h
  | array items complete => cases h

/-! ### Records -/

/-- Whether what stands in the place of a key is this key. -/
def Tree.isText (key : String) : Tree → Bool
  | text (some s) => s == key
  | _ => false

namespace RecordType

/-- What stands in the place of a field: the value of the member of its name, or the item at its
position. -/
def fieldOf? (R : RecordType ρ α) (k : String) : Tree → Option Tree
  | .object members _ => (members.find? (fun m => m.1.isText k)).map Prod.snd
  | .array items _ => ((R.fields.zip items).find? (fun p => p.1 == k)).map Prod.snd
  | _ => none

/-- The field `k` is read by `read` and kept in `get`, which no other field touches. -/
structure KeepsField (R : RecordType ρ α) (k : String) (get : ρ → β) (read : Decoder β) :
    Prop where
  mem : k ∈ R.fields
  nodup : R.fields.Nodup
  put_self : ∀ r v r', R.put r k v = .ok r' → read v = .ok (get r')
  put_of_ne : ∀ r key v r', key ≠ k → R.put r key v = .ok r' → get r' = get r

/-- What is kept is what is read in a place, or what was kept before if there is none. -/
def Takes (get : ρ → β) (read : Decoder β) (r : ρ) (place : Option Tree) (r' : ρ) : Prop :=
  match place with
  | none => get r' = get r
  | some v => read v = .ok (get r')

variable {R : RecordType ρ α} {k : String} {get : ρ → β} {read : Decoder β}

/-- A field is taken the same whatever the others of the record so far are. -/
theorem Takes.of_eq {r s r' : ρ} {place : Option Tree} (h : Takes get read s place r')
    (heq : get s = get r) : Takes get read r place r' := by
  cases place with
  | none => exact Eq.trans h heq
  | some v => exact h

/-- A member that has been taken up is a field that was not met before, or is none and is passed
over. -/
theorem putMembers_cons_eq_ok {m : Tree × Tree} {ms : List (Tree × Tree)} {seen : List String}
    {r r' : ρ} (h : R.putMembers seen r (m :: ms) = .ok r') :
    ∃ key, m.1 = .text (some key) ∧
      ((key ∉ seen ∧ ∃ s, R.put r key m.2 = .ok s ∧ R.putMembers (key :: seen) s ms = .ok r') ∨
        (key ∉ R.fields ∧ R.putMembers seen r ms = .ok r')) := by
  obtain ⟨t, v⟩ := m
  cases t with
  | text s =>
      cases s with
      | none => cases h
      | some key =>
          refine ⟨key, rfl, ?_⟩
          -- A known key must be new here; an unknown one is passed over.
          rw [RecordType.putMembers] at h
          split at h
          · split at h
            · cases h
            · next hnew =>
                obtain ⟨s, hs, hrest⟩ := except_bind_eq_ok_iff.1 h
                exact Or.inl ⟨hnew, s, hs, hrest⟩
          · next hunknown =>
              split at h
              · exact Or.inr ⟨hunknown, h⟩
              · cases h
  | broken => cases h
  | null => cases h
  | boolean b => cases h
  | number n => cases h
  | array items complete => cases h
  | object members complete => cases h

/-- The members of an object are taken up each into its field. A field that has been met is not
met again. -/
theorem KeepsField.putMembers (h : R.KeepsField k get read) {ms : List (Tree × Tree)}
    {seen : List String} {r r' : ρ} (hput : R.putMembers seen r ms = .ok r') :
    Takes get read r ((ms.find? (fun m => m.1.isText k)).map Prod.snd) r' ∧
      (k ∈ seen → ms.find? (fun m => m.1.isText k) = none) := by
  -- The record and the fields that have been met change with every member.
  induction ms generalizing seen r with
  | nil =>
      cases hput
      exact ⟨rfl, fun _ => rfl⟩
  | cons m ms ih =>
      obtain ⟨key, hm, hcases⟩ := putMembers_cons_eq_ok hput
      by_cases hkey : key = k
      · -- This is the field, and no later member has its name.
        subst hkey
        obtain ⟨hnew, s, hs, hrest⟩ := hcases.resolve_right (fun hskip => hskip.1 h.mem)
        obtain ⟨htakes, hnone⟩ := ih hrest
        rw [hnone (by simp)] at htakes
        have hget : get r' = get s := htakes
        have hread := h.put_self r m.2 s hs
        rw [← hget] at hread
        have hfind : (m :: ms).find? (fun m => m.1.isText key) = some m := by
          simp [hm, Tree.isText]
        rw [hfind]
        exact ⟨hread, fun hmem => absurd hmem hnew⟩
      · have hfind : (m :: ms).find? (fun m => m.1.isText k)
            = ms.find? (fun m => m.1.isText k) := by
          simp [hm, Tree.isText, hkey]
        rw [hfind]
        rcases hcases with ⟨-, s, hs, hrest⟩ | ⟨-, hrest⟩
        · obtain ⟨htakes, hnone⟩ := ih hrest
          exact ⟨htakes.of_eq (h.put_of_ne r key m.2 s hkey hs),
            fun hmem => hnone (List.mem_cons_of_mem _ hmem)⟩
        · exact ih hrest

/-- The items of an array are taken up each into the field at its position. -/
theorem KeepsField.putItems (h : R.KeepsField k get read) {fields : List String}
    {items : List Tree} {r r' : ρ} {all : Bool} (hnodup : fields.Nodup)
    (hput : R.putItems r fields items = .ok (r', all)) :
    Takes get read r (((fields.zip items).find? (fun p => p.1 == k)).map Prod.snd) r' := by
  induction fields generalizing items r with
  | nil =>
      cases items with
      | nil => cases hput; rfl
      | cons t ts => cases hput; rfl
  | cons field fields ih =>
      cases items with
      | nil => cases hput; rfl
      | cons t ts =>
          obtain ⟨hnew, hnodup⟩ := List.nodup_cons.1 hnodup
          rw [RecordType.putItems] at hput
          obtain ⟨s, hs, hrest⟩ := except_bind_eq_ok_iff.1 hput
          have htakes := ih hnodup hrest
          rw [List.zip_cons_cons]
          by_cases hkey : field = k
          · -- No other position is that of the field.
            subst hkey
            have hnone : (fields.zip ts).find? (fun p => p.1 == field) = none := by
              rw [List.find?_eq_none]
              intro p hp
              have hmem : p.1 ∈ fields := (List.of_mem_zip hp).1
              simpa using fun heq : p.1 = field => hnew (heq ▸ hmem)
            rw [hnone] at htakes
            have hget : get r' = get s := htakes
            have hread := h.put_self r t s hs
            rw [← hget] at hread
            simpa [Takes] using hread
          · simp only [List.find?_cons, beq_eq_false_iff_ne.2 hkey]
            exact htakes.of_eq (h.put_of_ne r field t s hkey hs)

/-- A record that has been read holds in a field what is read in the place of the field. -/
theorem KeepsField.decoder (h : R.KeepsField k get read) {t : Tree} {a : α}
    (hdecode : R.decoder t = .ok a) :
    ∃ r, R.finish r = .ok a ∧ Takes get read R.start (R.fieldOf? k t) r := by
  cases t with
  | object members complete =>
      rw [RecordType.decoder] at hdecode
      obtain ⟨r, hr, hfinish⟩ := except_bind_eq_ok_iff.1 hdecode
      -- The draft is finished and the text complete, or there would be no value.
      refine ⟨r, ?_, (h.putMembers hr).1⟩
      split at hfinish
      · split at hfinish
        · next a' ha' => cases hfinish; exact ha'
        · cases hfinish
      · cases hfinish
  | array items complete =>
      rw [RecordType.decoder] at hdecode
      obtain ⟨⟨r, all⟩, hr, hfinish⟩ := except_bind_eq_ok_iff.1 hdecode
      refine ⟨r, ?_, h.putItems h.nodup hr⟩
      dsimp only at hfinish
      split at hfinish
      · cases hfinish
      · split at hfinish
        · cases hfinish
        · next a' ha' =>
            split at hfinish
            · cases hfinish; exact ha'
            · cases hfinish
  | broken => cases hdecode
  | null => cases hdecode
  | boolean b => cases hdecode
  | number n => cases hdecode
  | text s => cases hdecode

end RecordType

end FlowGraph.Json
