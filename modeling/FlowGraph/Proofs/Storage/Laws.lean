import FlowGraph.Proofs.Steps
import FlowGraph.Proofs.Storage.Path
import FlowGraph.Proofs.Table
import FlowGraph.Storage.FileTree

/-!
# `FlowGraph.Proofs.Storage.Laws`: what a store of files keeps

A `LawfulStorage` tells files apart and says what is in each. Its laws are those of reading and
writing files anywhere: reading yields the content of a file and changes nothing, and writing under
a path changes no file but the one that the path leads to, which holds the text exactly if the write
succeeds. What a failed write leaves in that file is open.

A tree of files is such a store. Its files are told apart by the names that lead to them. For a path
that can be read, reading and writing follow the same names (`target_of_read`), although they treat
a slash at the end differently: such a path leads to no file (`entryAt_of_end_slash`).
-/

set_option autoImplicit false

namespace FlowGraph

section

variable {σ : Type} [Storage (StateM σ)]

/-- What reading the file under a path comes to. -/
def readAt (s : σ) (path : String) : Except FileFault ByteArray :=
  ((Storage.read path : StateM σ _).run s).1

/-- What writing a text under a path comes to, and the store behind it. -/
def writeAt (s : σ) (path text : String) : Except FileFault Unit × σ :=
  (Storage.write path text : StateM σ _).run s

end

/-- A store that tells files apart. -/
class LawfulStorage (σ : Type) [Storage (StateM σ)] where
  File : Type
  /-- The bytes of a file, if it is there. -/
  content : σ → File → Option ByteArray
  /-- The file that a text goes to which is written under a path. -/
  target? : σ → String → Option File
  /-- What is read under a path is the content of the file that the path leads to. -/
  content_of_read : ∀ s path bytes, readAt s path = .ok bytes →
    ∃ f, target? s path = some f ∧ content s f = some bytes
  /-- Reading changes nothing. -/
  read_snd : ∀ s path, ((Storage.read path : StateM σ _).run s).2 = s
  /-- Writing changes no file but the one that the path leads to. -/
  content_write_of_ne : ∀ s path text f, target? s path ≠ some f →
    content (writeAt s path text).2 f = content s f
  /-- A text that has been written is what the file holds. -/
  content_write_of_ok : ∀ s path text, (writeAt s path text).1 = .ok () →
    ∃ f, target? s path = some f ∧ content (writeAt s path text).2 f = some text.toUTF8

namespace LawfulStorage

variable {σ : Type} [Storage (StateM σ)] [LawfulStorage σ]

/-- A file holds a text: its bytes are those of the text, and no path that leads to the file
reads anything else. -/
structure Holds (s : σ) (f : File σ) (text : String) : Prop where
  content_eq : content s f = some text.toUTF8
  readAt_eq : ∀ path bytes, target? s path = some f → readAt s path = .ok bytes →
    bytes = text.toUTF8

/-- A file holds the text whose bytes it has. -/
theorem holds_of_content {s : σ} {f : File σ} {text : String}
    (h : content s f = some text.toUTF8) : Holds s f text := by
  refine ⟨h, fun path bytes hpath hread => ?_⟩
  obtain ⟨f', hpath', hf'⟩ := content_of_read s path bytes hread
  have hsame : f' = f := Option.some.inj (hpath'.symm.trans hpath)
  rw [hsame, h] at hf'
  exact (Option.some.inj hf').symm

end LawfulStorage

namespace FileTree

/-- A place has a file exactly when its names lead to one inside the root. -/
theorem entryAt_eq_file_iff {t : FileTree} {p : Place} {bytes : ByteArray} :
    t.entryAt p = .file bytes ↔ ∃ names, p = .inside names ∧ t.files.get? names = some bytes := by
  cases p with
  | above => simp only [entryAt, reduceCtorEq, false_and, exists_false]
  | inside names =>
      simp only [entryAt, Place.inside.injEq, exists_eq_left']
      cases t.files.get? names with
      | some bytes' => simp only [Entry.file.injEq, Option.some.injEq]
      | none =>
          -- Without bytes of its own, a place is a directory or nothing.
          simp only [reduceCtorEq, iff_false]
          split
          · simp only [reduceCtorEq, not_false_eq_true]
          · simp only [reduceCtorEq, not_false_eq_true]

/-- A path is read exactly when it leads to a file, and gives its bytes. -/
theorem read_eq_ok_iff {t : FileTree} {path : String} {bytes : ByteArray} :
    t.read path = .ok bytes ↔
      ∃ names, t.follow path = .ok (.inside names) ∧ t.files.get? names = some bytes := by
  rw [read, except_bind_eq_ok_iff]
  constructor
  · rintro ⟨p, hfollow, hentry⟩
    cases hp : t.entryAt p with
    | nothing => rw [hp] at hentry; cases hentry
    | directory => rw [hp] at hentry; cases hentry
    | file bytes' =>
        rw [hp] at hentry
        cases hentry
        obtain ⟨names, rfl, hget⟩ := entryAt_eq_file_iff.1 hp
        exact ⟨names, hfollow, hget⟩
  · rintro ⟨names, hfollow, hget⟩
    refine ⟨_, hfollow, ?_⟩
    rw [entryAt_eq_file_iff.2 ⟨names, rfl, hget⟩]

/-- A place is entered exactly when it is a directory. -/
theorem enter_eq_ok_iff {t : FileTree} {p : Place} :
    t.enter p = .ok () ↔ t.entryAt p = .directory := by
  rw [enter]
  cases t.entryAt p with
  | nothing => exact ⟨nofun, nofun⟩
  | file bytes => exact ⟨nofun, nofun⟩
  | directory => exact iff_of_true rfl rfl

/-- The empty part of a path stays in a directory. -/
theorem step_empty_eq_ok_iff {t : FileTree} {p q : Place} :
    t.step p "" = .ok q ↔ t.entryAt p = .directory ∧ p = q := by
  have hstep : t.step p "" = t.enter p >>= fun _ => .ok p := by
    unfold step
    simp only [true_or, if_true]
    rfl
  rw [hstep, except_bind_eq_ok_iff]
  constructor
  · rintro ⟨_, henter, hq⟩
    exact ⟨enter_eq_ok_iff.1 henter, Except.ok.inj hq⟩
  · rintro ⟨hentry, rfl⟩
    exact ⟨(), enter_eq_ok_iff.2 hentry, rfl⟩

/-- A path that ends with a slash leads to directories alone: its last part is empty, and only
directories are entered. -/
theorem entryAt_of_end_slash {t : FileTree} {path : String} {p : Place}
    (hslash : path.toList.getLast? = some '/') (h : t.follow path = .ok p) :
    t.entryAt p = .directory := by
  obtain ⟨front, hfront⟩ := List.getLast?_eq_some_iff.1 hslash
  have hparts : Path.parts path = (Text.pieces '/' front).map String.ofList ++ [""] := by
    rw [Path.parts, hfront, Text.pieces_append_mark, List.map_append]
    rfl
  rw [follow, except_bind_eq_ok_iff] at h
  obtain ⟨-, -, hway⟩ := h
  -- The way ends with the empty name behind the slash, and this is a step from a directory to
  -- itself.
  rw [hparts, List.foldlM_append, except_bind_eq_ok_iff] at hway
  obtain ⟨q, -, hlast⟩ := hway
  rw [List.foldlM_cons, except_bind_eq_ok_iff] at hlast
  obtain ⟨q', hstep, hend⟩ := hlast
  obtain ⟨hentry, rfl⟩ := step_empty_eq_ok_iff.1 hstep
  cases hend
  exact hentry

/-- A file that can be read can be written to. -/
theorem target_of_read {t : FileTree} {path : String} {names : List String} {bytes : ByteArray}
    (hfollow : t.follow path = .ok (.inside names)) (hget : t.files.get? names = some bytes) :
    t.target path = .ok names := by
  have hentry : t.entryAt (.inside names) = .file bytes :=
    entryAt_eq_file_iff.2 ⟨names, rfl, hget⟩
  -- What has been read is a file, so the path has no slash at its end.
  have hslash : path.toList.getLast? ≠ some '/' := by
    intro hslash
    have hdirectory := entryAt_of_end_slash hslash hfollow
    rw [hentry] at hdirectory
    cases hdirectory
  rw [target, if_neg hslash, hfollow, except_ok_bind]
  simp only [hentry]

/-- A tree changes exactly if the write succeeds. -/
theorem writeAt_eq (t : FileTree) (path text : String) :
    writeAt t path text
      = match t.write path text with
        | .ok t' => (.ok (), t')
        | .error fault => (.error fault, t) := by
  rw [writeAt]
  simp only [Storage.write, StateT.run_bind, StateT.run_get, pure_bind]
  cases t.write path text with
  | ok t' => rfl
  | error fault => rfl

/-- A text is written to the file that the path leads to. -/
theorem writeAt_of_target {t : FileTree} {path : String} {names : List String} (text : String)
    (h : t.target path = .ok names) :
    writeAt t path text = (.ok (), ⟨t.files.set names text.toUTF8⟩) := by
  rw [writeAt_eq, write, h]
  rfl

/-- A path that leads to no file that can be written changes nothing. -/
theorem writeAt_of_fault {t : FileTree} {path : String} {fault : FileFault} (text : String)
    (h : t.target path = .error fault) : writeAt t path text = (.error fault, t) := by
  rw [writeAt_eq, write, h]
  rfl

instance : LawfulStorage FileTree where
  File := List String
  content t names := t.files.get? names
  target? t path := (t.target path).toOption
  content_of_read t path bytes h := by
    obtain ⟨names, hfollow, hget⟩ := read_eq_ok_iff.1 h
    refine ⟨names, ?_, hget⟩
    rw [target_of_read hfollow hget]
    rfl
  read_snd _ _ := rfl
  content_write_of_ne t path text names h := by
    cases htarget : t.target path with
    | error fault => rw [writeAt_of_fault text htarget]
    | ok names' =>
        rw [writeAt_of_target text htarget]
        refine Table.get?_set_of_ne _ _ ?_
        rintro rfl
        exact h (by rw [htarget]; rfl)
  content_write_of_ok t path text h := by
    cases htarget : t.target path with
    | error fault =>
        rw [writeAt_of_fault text htarget] at h
        cases h
    | ok names =>
        rw [writeAt_of_target text htarget]
        exact ⟨names, rfl, Table.get?_set_self ..⟩

end FileTree

end FlowGraph
