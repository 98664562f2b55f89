import Mathlib.Data.List.Forall2
import FlowGraph.Proofs.Steps
import FlowGraph.Proofs.Text.Trimming
import FlowGraph.Replica

/-!
# `FlowGraph.Proofs.Replica.Selection`: which sites are collected

A site is a replica if its role, between blanks, is one of three words in any ASCII case
(`Element.IsReplica`). Collecting is told from the replicas among the sites alone:

* `collect_eq_ok_iff`: it succeeds with one replica for each of them, in order, that copies the role
  as it stands and the attributes of the first section for a database.
* `collect_eq_error_iff`: it fails with the first of them that has no such section.
* `ofDocument_selects`: both for documents. What the other sites hold makes no difference.
-/

set_option autoImplicit false

namespace FlowGraph

namespace Replica

/-- The role is a word for a replica, blanks around it and the case of its letters apart. -/
def Marks (role : String) : Prop :=
  ∃ cs, Text.IsTrimmed role.toList cs ∧
    String.ofList (cs.map Char.toLower) ∈ ["slave", "replica", "secondary"]

/-- A role is accepted exactly when it is a word for a replica. -/
theorem isRole_iff {role : String} : isRole role = true ↔ Marks role := by
  have hsmall : ∀ word ∈ roles, word.toList.map Char.toLower = word.toList := by decide
  have hword : ∀ word ∈ roles, (Text.sameLetters word (Text.trim role) = true ↔
      word = String.ofList ((Text.trimChars role.toList).map Char.toLower)) := by
    intro word hmem
    rw [Text.sameLetters_iff, hsmall word hmem, Text.trim, String.toList_ofList,
      ← String.toList_inj, String.toList_ofList]
  rw [isRole, List.any_eq_true]
  constructor
  · rintro ⟨word, hmem, hsame⟩
    refine ⟨_, Text.isTrimmed_trimChars _, ?_⟩
    rw [← (hword word hmem).1 hsame]
    exact hmem
  · rintro ⟨cs, htrimmed, hmem⟩
    rw [← Text.isTrimmed_iff.1 htrimmed] at hmem
    exact ⟨_, hmem, (hword _ hmem).2 rfl⟩

end Replica

/-- The element is a site that holds a copy. -/
def Element.IsReplica (s : Element) : Prop :=
  ∃ role, s.attribute? "role" = some role ∧ Replica.Marks role

namespace Replica

/-- The role of a replica is its attribute as it stands. -/
theorem roleOf?_eq_some_iff {s : Element} {role : String} :
    roleOf? s = some role ↔ s.attribute? "role" = some role ∧ Marks role := by
  rw [roleOf?, Option.filter_eq_some_iff, isRole_iff]

/-- Exactly the replicas have a role that counts. -/
theorem isSome_roleOf?_iff {s : Element} : (roleOf? s).isSome = true ↔ s.IsReplica := by
  rw [Option.isSome_iff_exists]
  exact exists_congr fun role => roleOf?_eq_some_iff

instance : DecidablePred Element.IsReplica := fun _ => decidable_of_iff _ isSome_roleOf?_iff

/-- The replicas among some sites, in order. -/
def among (sites : List Element) : List Element := sites.filter (fun s => decide s.IsReplica)

/-- The replica copies the role of a site as it stands, and all attributes of its first section for
a database, in order. -/
structure Copies (s : Element) (r : Replica) : Prop where
  role : s.attribute? "role" = some r.role
  database : ∃ d, s.firstChild? "database" = some d ∧
    r.database.attributes.entries = d.attributes.entries

/-- The first of the replicas that has no section for a database. -/
def unconnected? (sites : List Element) : Option Element :=
  (among sites).find? (fun s => (s.firstChild? "database").isNone)

/-! ### Collecting -/

section

variable {s : Element} {sites : List Element}

/-- A replica is among the replicas. -/
theorem among_cons_of_isReplica (h : s.IsReplica) : among (s :: sites) = s :: among sites := by
  simp [among, h]

/-- Another site is passed over. -/
theorem among_cons_of_not (h : ¬ s.IsReplica) : among (s :: sites) = among sites := by
  simp [among, h]

/-- A site that is no replica is passed over, whatever it holds. -/
theorem collect_cons_of_not (h : ¬ s.IsReplica) :
    (collect (s :: sites)).1 = (collect sites).1 := by
  have hnone : roleOf? s = none := by
    rw [← isSome_roleOf?_iff] at h
    simpa using h
  rw [collect, hnone]

/-- A replica without a section for a database is the end. -/
theorem collect_cons_of_none (h : s.IsReplica) (hnone : s.firstChild? "database" = none) :
    (collect (s :: sites)).1 = .error (.missingElement s.name "database") := by
  obtain ⟨role, hrole⟩ := Option.isSome_iff_exists.1 (isSome_roleOf?_iff.2 h)
  rw [collect, hrole]
  simp only [Element.requiredChild, Connection.elementName, hnone]

/-- A replica with a section for a database comes before those behind it. -/
theorem collect_cons_of_some {role : String} {d : Element} (hrole : s.attribute? "role" = some role)
    (hmarks : Marks role) (hd : s.firstChild? "database" = some d) :
    (collect (s :: sites)).1 = (collect sites).1.map (⟨role, .ofElement d⟩ :: ·) := by
  rw [collect, roleOf?_eq_some_iff.2 ⟨hrole, hmarks⟩]
  simp only [Element.requiredChild, Connection.elementName, hd]

/-- There is one replica that copies a site. -/
theorem copies_iff {role : String} {d : Element} {r : Replica}
    (hrole : s.attribute? "role" = some role) (hd : s.firstChild? "database" = some d) :
    Copies s r ↔ r = ⟨role, .ofElement d⟩ := by
  constructor
  · rintro ⟨hrole', d', hd', hentries⟩
    rw [hrole] at hrole'
    rw [hd] at hd'
    cases hrole'
    cases hd'
    obtain ⟨role, ⟨attributes⟩⟩ := r
    rw [Connection.ofElement, ← Table.ext_entries hentries]
  · rintro rfl
    exact ⟨hrole, d, hd, rfl⟩

end

/-- Collecting gives one copy for each replica, in order, exactly when there is one for each. -/
theorem collect_eq_ok_iff {sites : List Element} {rs : List Replica} :
    (collect sites).1 = .ok rs ↔ List.Forall₂ Copies (among sites) rs := by
  induction sites generalizing rs with
  | nil =>
      show Except.ok [] = Except.ok rs ↔ List.Forall₂ Copies [] rs
      rw [List.forall₂_nil_left_iff, Except.ok.injEq, eq_comm]
  | cons s sites ih =>
      -- A site is passed over, ends the collecting, or is copied before the rest.
      by_cases hs : s.IsReplica
      · rw [among_cons_of_isReplica hs]
        obtain ⟨role, hrole, hmarks⟩ := id hs
        cases hd : s.firstChild? "database" with
        | none =>
            rw [collect_cons_of_none hs hd]
            constructor
            · exact nofun
            · rintro (_ | ⟨⟨-, d, hd', -⟩, -⟩)
              rw [hd] at hd'
              cases hd'
        | some d =>
            rw [collect_cons_of_some hrole hmarks hd, List.forall₂_cons_left_iff]
            simp only [copies_iff hrole hd, ← ih]
            cases (collect sites).1 with
            | error e => simp [Except.map]
            | ok rs' => simp [Except.map, eq_comm]
      · rw [collect_cons_of_not hs, among_cons_of_not hs]
        exact ih

/-- Collecting fails exactly when a replica has no section for a database, with the first such. -/
theorem collect_eq_error_iff {sites : List Element} {e : CompileError} :
    (collect sites).1 = .error e ↔
      ∃ s, unconnected? sites = some s ∧ e = .missingElement s.name "database" := by
  induction sites with
  | nil =>
      rw [collect]
      simp [unconnected?, among]
  | cons s sites ih =>
      rw [unconnected?] at ih ⊢
      -- The first replica without a section decides; sites that are none are passed over.
      by_cases hs : s.IsReplica
      · rw [among_cons_of_isReplica hs]
        obtain ⟨role, hrole, hmarks⟩ := id hs
        cases hd : s.firstChild? "database" with
        | none =>
            rw [collect_cons_of_none hs hd]
            simp [hd, eq_comm]
        | some d =>
            rw [collect_cons_of_some hrole hmarks hd, List.find?_cons_of_neg (by simp [hd]), ← ih]
            cases (collect sites).1 with
            | error e => simp [Except.map]
            | ok rs' => simp [Except.map]
      · rw [collect_cons_of_not hs, among_cons_of_not hs]
        exact ih

/-- Sites that are no replicas make no difference. -/
theorem collect_congr {sites others : List Element} (h : among others = among sites) :
    (collect others).1 = (collect sites).1 := by
  cases hcollect : (collect sites).1 with
  | ok rs =>
      rw [collect_eq_ok_iff] at hcollect ⊢
      rwa [h]
  | error e =>
      rw [collect_eq_error_iff] at hcollect ⊢
      rwa [unconnected?, h]

/-- No replica is unconnected exactly if each site that is one has a section for a database. -/
theorem unconnected?_eq_none_iff {sites : List Element} :
    unconnected? sites = none ↔
      ∀ s ∈ sites, s.IsReplica → ∃ d, s.firstChild? "database" = some d := by
  simp [unconnected?, among, ← Option.ne_none_iff_exists']

/-! ### Documents -/

/-- Why the replicas of a document cannot be collected: it has no list of sites, or a replica on it
has no section for a database. -/
inductive ListFault (root : Element) : CompileError → Prop
  | noList (h : root.firstChild? "multisite" = none) :
      ListFault root (.missingElement root.name "multisite")
  | noDatabase {list s : Element} (hlist : root.firstChild? "multisite" = some list)
      (hfirst : unconnected? list.children = some s) :
      ListFault root (.missingElement s.name "database")

/-- A document without a list of sites is refused. -/
theorem ofDocument_of_none {root : Element} (h : root.firstChild? "multisite" = none) :
    (ofDocument root).1 = .error (.missingElement root.name "multisite") := by
  rw [ofDocument]
  simp only [Element.requiredChild, listElement, h]

/-- The list of sites decides what becomes of a document. -/
theorem ofDocument_of_some {root list : Element} (h : root.firstChild? "multisite" = some list) :
    (ofDocument root).1 = (collect list.children).1 := by
  rw [ofDocument]
  simp only [Element.requiredChild, listElement, h]
  rcases collect list.children with ⟨result, log⟩
  cases result with
  | error e => rfl
  | ok rs => rfl

/-- A document with a list of sites gives the replicas among them. -/
theorem ofDocument_eq_ok_iff {root : Element} {rs : List Replica} :
    (ofDocument root).1 = .ok rs ↔
      ∃ list, root.firstChild? "multisite" = some list ∧
        List.Forall₂ Copies (among list.children) rs := by
  cases hlist : root.firstChild? "multisite" with
  | none =>
      rw [ofDocument_of_none hlist]
      simp
  | some list =>
      rw [ofDocument_of_some hlist, collect_eq_ok_iff]
      simp

/-- A document is refused exactly for a fault of its list. -/
theorem ofDocument_eq_error_iff {root : Element} {e : CompileError} :
    (ofDocument root).1 = .error e ↔ ListFault root e := by
  cases hlist : root.firstChild? "multisite" with
  | none =>
      rw [ofDocument_of_none hlist]
      constructor
      · rintro ⟨⟩
        exact .noList hlist
      · rintro (- | ⟨hlist', -⟩)
        · rfl
        · rw [hlist] at hlist'
          cases hlist'
  | some list =>
      rw [ofDocument_of_some hlist, collect_eq_error_iff]
      constructor
      · rintro ⟨s, hfirst, rfl⟩
        exact .noDatabase hlist hfirst
      · rintro (hnone | ⟨hlist', hfirst⟩)
        · rw [hlist] at hnone
          cases hnone
        · rw [hlist] at hlist'
          cases hlist'
          exact ⟨_, hfirst, rfl⟩

/-- Collecting is possible exactly if each replica has a section for a database. -/
theorem exists_ofDocument_iff {root : Element} :
    (∃ rs, (ofDocument root).1 = .ok rs) ↔
      ∃ list, root.firstChild? "multisite" = some list ∧
        ∀ s ∈ list.children, s.IsReplica → ∃ d, s.firstChild? "database" = some d := by
  cases hlist : root.firstChild? "multisite" with
  | none =>
      rw [ofDocument_of_none hlist]
      simp
  | some list =>
      rw [ofDocument_of_some hlist]
      -- Nothing is collected exactly when there is a first site to blame.
      simp only [Option.some.injEq, exists_eq_left', ← unconnected?_eq_none_iff]
      constructor
      · rintro ⟨rs, hrs⟩
        rw [Option.eq_none_iff_forall_ne_some]
        intro s hs
        have herror := collect_eq_error_iff.2 ⟨s, hs, rfl⟩
        rw [hrs] at herror
        cases herror
      · intro hnone
        cases hcollect : (collect list.children).1 with
        | ok rs => exact ⟨rs, rfl⟩
        | error e =>
            obtain ⟨s, hs, -⟩ := collect_eq_error_iff.1 hcollect
            rw [hnone] at hs
            cases hs

/-- The replicas of a document are collected exactly if it has a list of sites and each replica on
it has a section for a database, and there is one for each of these sites, in order. Otherwise the
first fault is told. What the sites are that are no replicas makes no difference: documents with the
same replicas come to the same. -/
theorem ofDocument_selects (root : Element) :
    ((∃ rs, (ofDocument root).1 = .ok rs) ↔
      ∃ list, root.firstChild? "multisite" = some list ∧
        ∀ s ∈ list.children, s.IsReplica → ∃ d, s.firstChild? "database" = some d) ∧
    (∀ rs, (ofDocument root).1 = .ok rs ↔
      ∃ list, root.firstChild? "multisite" = some list ∧
        List.Forall₂ Copies (among list.children) rs) ∧
    (∀ e, (ofDocument root).1 = .error e ↔ ListFault root e) ∧
    ∀ other : Element, other.name = root.name →
      (other.firstChild? "multisite").map (fun list => among list.children)
        = (root.firstChild? "multisite").map (fun list => among list.children) →
      (ofDocument other).1 = (ofDocument root).1 := by
  refine ⟨exists_ofDocument_iff, fun _ => ofDocument_eq_ok_iff, fun _ => ofDocument_eq_error_iff,
    ?_⟩
  -- The sites that are no replicas do not matter: only `among` is looked at.
  intro other hname hsame
  cases hlist : root.firstChild? "multisite" with
  | none =>
      rw [hlist, Option.map_none, Option.map_eq_none_iff] at hsame
      rw [ofDocument_of_none hlist, ofDocument_of_none hsame, hname]
  | some list =>
      rw [hlist] at hsame
      obtain ⟨list', hlist', hamong⟩ := Option.map_eq_some_iff.1 hsame
      rw [ofDocument_of_some hlist, ofDocument_of_some hlist']
      exact collect_congr hamong

/-- Sites of all kinds: of the two replicas, one is spelled in capitals between blanks, and the
first has two sections for a database. -/
def mixedSites : Element :=
  ⟨"Setup", .empty, [⟨"multisite", .empty, [
    ⟨"site", .ofList [("role", "master")], []⟩,
    ⟨"peer", .ofList [("role", " SLAVE\t")], [
      ⟨"database", .ofList [("server", "a"), ("port", "1")], []⟩,
      ⟨"database", .ofList [("server", "b")], []⟩]⟩,
    ⟨"site", .empty, []⟩,
    ⟨"site", .ofList [("role", "Secondary")], [⟨"database", .empty, []⟩]⟩]⟩]⟩

/-- The replicas of `mixedSites` alone. -/
def replicaSites : Element :=
  ⟨"Setup", .empty, [⟨"multisite", .empty, [
    ⟨"peer", .ofList [("role", " SLAVE\t")], [
      ⟨"database", .ofList [("server", "a"), ("port", "1")], []⟩,
      ⟨"database", .ofList [("server", "b")], []⟩]⟩,
    ⟨"site", .ofList [("role", "Secondary")], [⟨"database", .empty, []⟩]⟩]⟩]⟩

/-- Both replicas are copied, each role as it stands; without the other sites the outcome is the
same. -/
theorem ofDocument_selects_mixedSites :
    (ofDocument replicaSites).1 = .ok [⟨" SLAVE\t", ⟨.ofList [("server", "a"), ("port", "1")]⟩⟩,
      ⟨"Secondary", .empty⟩] ∧ (ofDocument mixedSites).1 = (ofDocument replicaSites).1 := by
  refine ⟨rfl, (ofDocument_selects replicaSites).2.2.2 mixedSites rfl ?_⟩
  decide +kernel

end Replica

end FlowGraph
