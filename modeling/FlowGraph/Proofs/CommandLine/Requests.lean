import FlowGraph.CommandLine.Run
import FlowGraph.Proofs.CommandLine.Groups
import FlowGraph.Proofs.Steps

/-!
# `FlowGraph.Proofs.CommandLine.Requests`: what arguments ask for, told from their groups

The groups of the arguments are read from left to right, and each is taken in or ends the reading.
`Ends` says which groups end it, behind which others, and with what. Of groups that have been taken
in, no more is remembered than the last file of each option (`Options.ofGroups`).

* `request_eq_iff`: what groups come to is what the first of them says that ends the reading, or
  what all of them set together.
* `parseArguments_of_groups`: which arguments are accepted, and as what; that their order matters
  only among repeated options; and how far they are read when help or the version is asked for.
-/

set_option autoImplicit false

namespace FlowGraph.CommandLine

namespace Group

/-- The file of a workflow, if the group gives one. -/
def workflow? : Group → Option String
  | positional path => some path
  | _ => none

/-- The file that the workflow is to be written to, if the group gives one. -/
def emit? : Group → Option String
  | emit path => some path
  | _ => none

/-- The file whose replicas are to be listed, if the group gives one. -/
def sites? : Group → Option String
  | sites path => some path
  | _ => none

/-- The group asks for help or for the version. -/
def IsInquiry (g : Group) : Prop := g = .help ∨ g = .version

/-- The group says what is to be done with a workflow. -/
inductive Fits : Group → Prop
  | verbose : Fits .verbose
  | emit (path : String) : Fits (.emit path)
  | sites (path : String) : Fits (.sites path)
  | positional (path : String) : Fits (.positional path)

end Group

/-- The options that groups set. Of a repeated one, the last file counts. -/
def Options.ofGroups (gs : List Group) : Options where
  workflow := (gs.filterMap Group.workflow?).getLast?
  emit := (gs.filterMap Group.emit?).getLast?
  sites := (gs.filterMap Group.sites?).getLast?
  verbose := decide (.verbose ∈ gs)

/-- The group, behind the others, ends the reading, which comes to `r`. -/
inductive Ends (before : List Group) : Group → Except ArgumentError Request → Prop
  | help : Ends before .help (.ok .help)
  | version : Ends before .version (.ok .version)
  | missingFile (option : String) :
      Ends before (.unfinished option) (.error (.missingFile option))
  | unknownOption (option : String) :
      Ends before (.unknown option) (.error (.unknownOption option))
  | unexpectedArgument {first path : String} (h : .positional first ∈ before) :
      Ends before (.positional path) (.error (.unexpectedArgument path))

/-- The groups are taken in one after another. -/
def AllTaken (gs : List Group) : Prop := AllBehind (fun before g => ∀ r, ¬ Ends before g r) gs

/-! ### Groups behind one another -/

section

variable {gs before after : List Group} {g : Group} {r : Except ArgumentError Request}

/-- Of what the groups say, the last is said by the last group that says anything. -/
theorem getLast?_filterMap_concat (f : Group → Option String) (gs : List Group) (g : Group) :
    ((gs ++ [g]).filterMap f).getLast? = (f g).or (gs.filterMap f).getLast? := by
  rw [List.filterMap_append, List.getLast?_append]
  cases h : f g with
  | none => rw [List.filterMap_cons_none h]; rfl
  | some path => rw [List.filterMap_cons_some h]; rfl

/-- One more group takes the place of what it sets. -/
theorem Options.ofGroups_concat (gs : List Group) (g : Group) :
    ofGroups (gs ++ [g]) = {
      workflow := g.workflow?.or (ofGroups gs).workflow
      emit := g.emit?.or (ofGroups gs).emit
      sites := g.sites?.or (ofGroups gs).sites
      verbose := (ofGroups gs).verbose || decide (g = .verbose) } := by
  simp only [ofGroups, getLast?_filterMap_concat, List.mem_append, List.mem_singleton,
    Bool.decide_or, eq_comm]

/-- The paths of workflows are those given by position. -/
theorem Group.mem_filterMap_workflow? {path : String} :
    path ∈ gs.filterMap workflow? ↔ .positional path ∈ gs := by
  rw [List.mem_filterMap]
  constructor
  · rintro ⟨g, hg, hpath⟩
    cases g with
    | positional path' =>
        cases hpath
        exact hg
    | _ => cases hpath
  · intro h
    exact ⟨_, h, rfl⟩

/-- A file for the workflow is known behind exactly the groups that give one. -/
theorem Options.workflow_ofGroups_eq_none_iff :
    (ofGroups gs).workflow = none ↔ gs.filterMap Group.workflow? = [] := List.getLast?_eq_none_iff

/-- Which groups are taken in. -/
theorem not_ends_iff :
    (∀ r, ¬ Ends before g r) ↔
      g.Fits ∧ (g.workflow?.isSome = true → before.filterMap Group.workflow? = []) := by
  cases g with
  | help => exact ⟨fun h => absurd .help (h _), nofun⟩
  | version => exact ⟨fun h => absurd .version (h _), nofun⟩
  | unfinished option => exact ⟨fun h => absurd (.missingFile option) (h _), nofun⟩
  | unknown option => exact ⟨fun h => absurd (.unknownOption option) (h _), nofun⟩
  | verbose => exact ⟨fun _ => ⟨.verbose, nofun⟩, fun _ => nofun⟩
  | emit path => exact ⟨fun _ => ⟨.emit path, nofun⟩, fun _ => nofun⟩
  | sites path => exact ⟨fun _ => ⟨.sites path, nofun⟩, fun _ => nofun⟩
  | positional path =>
      constructor
      · intro h
        refine ⟨.positional path, fun _ => List.eq_nil_iff_forall_not_mem.2 fun first hfirst => ?_⟩
        exact h _ (.unexpectedArgument (Group.mem_filterMap_workflow?.1 hfirst))
      · rintro ⟨-, hnone⟩ r hends
        cases hends with
        | unexpectedArgument hfirst =>
            have hmem := Group.mem_filterMap_workflow?.2 hfirst
            rw [hnone rfl] at hmem
            cases hmem

/-- Groups are taken in if all of them fit and at most one gives a file for the workflow. -/
theorem allTaken_iff :
    AllTaken gs ↔ (∀ g ∈ gs, g.Fits) ∧ (gs.filterMap Group.workflow?).length ≤ 1 := by
  -- From the end, because each group is judged by those before it.
  induction gs using List.reverseRecOn with
  | nil => exact ⟨fun _ => ⟨nofun, Nat.zero_le 1⟩, fun _ => allBehind_nil _⟩
  | append_singleton gs g ih =>
      rw [AllTaken, allBehind_concat, ← AllTaken, ih, not_ends_iff, List.filterMap_append,
        List.length_append, List.forall_mem_append, List.forall_mem_singleton]
      cases hpath : g.workflow? with
      | none =>
          rw [List.filterMap_cons_none hpath]
          simp only [Option.isSome_none, Bool.false_eq_true, false_implies, and_true,
            List.filterMap_nil, List.length_nil, Nat.add_zero]
          tauto
      | some path =>
          rw [List.filterMap_cons_some hpath]
          simp only [Option.isSome_some, true_implies, List.filterMap_nil, List.length_singleton,
            ← List.length_eq_zero_iff]
          constructor
          · rintro ⟨⟨hfits, -⟩, hg, hzero⟩
            exact ⟨⟨hfits, hg⟩, by omega⟩
          · rintro ⟨⟨hfits, hg⟩, hle⟩
            exact ⟨⟨hfits, by omega⟩, hg, by omega⟩

/-! ### The reading -/

/-- A group that does not end the reading joins those before it. -/
theorem request_cons_of_not_ends (rest : List Group) (h : ∀ r, ¬ Ends before g r) :
    request (.ofGroups before) (g :: rest) = request (.ofGroups (before ++ [g])) rest := by
  obtain ⟨hfits, hnone⟩ := not_ends_iff.1 h
  rw [Options.ofGroups_concat]
  cases hfits with
  | verbose => simp [request, Group.workflow?, Group.emit?, Group.sites?]
  | emit path => simp [request, Group.workflow?, Group.emit?, Group.sites?]
  | sites path => simp [request, Group.workflow?, Group.emit?, Group.sites?]
  | positional path =>
      have hworkflow := Options.workflow_ofGroups_eq_none_iff.2 (hnone rfl)
      simp [request, hworkflow, Group.workflow?, Group.emit?, Group.sites?]

/-- Groups that are all taken in leave their options to what follows. -/
theorem request_append_of_allTaken (rest : List Group) (h : AllTaken gs) :
    request .start (gs ++ rest) = request (.ofGroups gs) rest := by
  induction gs using List.reverseRecOn generalizing rest with
  | nil => rfl
  | append_singleton gs g ih =>
      obtain ⟨hgs, hg⟩ := allBehind_concat.1 h
      rw [List.append_assoc, ih _ hgs, List.singleton_append, request_cons_of_not_ends rest hg]

/-- What follows the group that ends the reading is not looked at. -/
theorem request_cons_of_ends (rest : List Group) (h : Ends before g r) :
    request (.ofGroups before) (g :: rest) = r := by
  cases h with
  | help => rfl
  | version => rfl
  | missingFile option => rfl
  | unknownOption option => rfl
  | unexpectedArgument h =>
      have hsome : (Options.ofGroups before).workflow ≠ none := by
        rw [ne_eq, Options.workflow_ofGroups_eq_none_iff]
        exact List.ne_nil_of_mem (Group.mem_filterMap_workflow?.2 h)
      obtain ⟨first, hfirst⟩ := Option.ne_none_iff_exists'.1 hsome
      rw [request, hfirst]

/-- What groups come to: what the first of them says that ends the reading, or what all of them set
together. -/
inductive Outcome (gs : List Group) : Except ArgumentError Request → Prop
  | ended {before after : List Group} {g : Group} {r : Except ArgumentError Request}
      (hgs : gs = before ++ g :: after) (hbefore : AllTaken before) (h : Ends before g r) :
      Outcome gs r
  | noWorkflow (h : AllTaken gs) (hnone : gs.filterMap Group.workflow? = []) :
      Outcome gs (.error .noWorkflow)
  | compile {path : String} (h : AllTaken gs) (hone : gs.filterMap Group.workflow? = [path]) :
      Outcome gs (.ok (.compile path (.ofGroups gs)))

/-- Reading the groups gives what they come to. -/
theorem request_of_outcome (h : Outcome gs r) : request .start gs = r := by
  cases h with
  | ended hgs hbefore h =>
      rw [hgs, request_append_of_allTaken _ hbefore, request_cons_of_ends _ h]
  | noWorkflow h hnone =>
      rw [← List.append_nil gs, request_append_of_allTaken [] h, request,
        Options.workflow_ofGroups_eq_none_iff.2 hnone]
  | @compile path h hone =>
      have hworkflow : (Options.ofGroups gs).workflow = some path := by
        rw [Options.ofGroups, hone]
        rfl
      have hread := request_append_of_allTaken [] h
      rw [List.append_nil] at hread
      rw [hread, request, hworkflow]

/-- Groups always come to something: the first that stops, or all of them. -/
theorem exists_outcome (gs : List Group) : ∃ r, Outcome gs r := by
  rcases allBehind_or_first (fun before g => ∀ r, ¬ Ends before g r) gs with
    h | ⟨before, g, after, hgs, hbefore, hg⟩
  · -- Nothing ends the reading, and at most one file for the workflow is given.
    have hle := (allTaken_iff.1 h).2
    cases hpaths : gs.filterMap Group.workflow? with
    | nil => exact ⟨_, .noWorkflow h hpaths⟩
    | cons path paths =>
        rw [hpaths, List.length_cons] at hle
        have hnil : paths = [] := List.eq_nil_of_length_eq_zero (by omega)
        exact ⟨_, .compile h (hnil ▸ hpaths)⟩
  · push Not at hg
    obtain ⟨r, hr⟩ := hg
    exact ⟨r, .ended hgs hbefore hr⟩

/-- Groups come to one thing. -/
theorem request_eq_iff : request .start gs = r ↔ Outcome gs r := by
  refine ⟨?_, request_of_outcome⟩
  rintro rfl
  obtain ⟨r, hr⟩ := exists_outcome gs
  rwa [request_of_outcome hr]

end

/-! ### Arguments -/

section

variable {args : List String} {gs before after : List Group} {g : Group}

/-- An option that misses its argument does not fit. -/
theorem Group.Fits.ne_unfinished (h : g.Fits) (a : String) : g ≠ .unfinished a := by
  rintro rfl
  cases h

/-- Arguments ask for a compilation exactly if all of their groups fit and one of them gives the
file of the workflow. -/
theorem parseArguments_eq_compile_iff {path : String} {o : Options} :
    parseArguments args = .ok (.compile path o) ↔ (∀ g ∈ groups args, g.Fits) ∧
      (groups args).filterMap Group.workflow? = [path] ∧ o = .ofGroups (groups args) := by
  rw [parseArguments, request_eq_iff]
  constructor
  · intro h
    cases h with
    | ended hgs hbefore h => cases h
    | compile h hone => exact ⟨(allTaken_iff.1 h).1, hone, rfl⟩
  · rintro ⟨hfits, hone, rfl⟩
    exact .compile (allTaken_iff.2 ⟨hfits, by simp [hone]⟩) hone

/-- Groups in another order come to the same, as long as no option changes its last file. -/
theorem parseArguments_of_perm {args' : List String} {path : String} {o : Options}
    (h : parseArguments args = .ok (.compile path o)) (hperm : (groups args').Perm (groups args))
    (hemit : (groups args').filterMap Group.emit? = (groups args).filterMap Group.emit?)
    (hsites : (groups args').filterMap Group.sites? = (groups args).filterMap Group.sites?) :
    parseArguments args' = .ok (.compile path o) := by
  obtain ⟨hfits, hone, rfl⟩ := parseArguments_eq_compile_iff.1 h
  have hworkflow : (groups args').filterMap Group.workflow? = [path] := by
    have hpaths := hperm.filterMap Group.workflow?
    rwa [hone, List.perm_singleton] at hpaths
  refine parseArguments_eq_compile_iff.2 ⟨fun g hg => hfits g (hperm.mem_iff.1 hg), hworkflow, ?_⟩
  simp only [Options.ofGroups, hone, hworkflow, hemit, hsites, hperm.mem_iff]

/-- Of the groups before another, those that are no inquiries fit unless they are unknown. -/
theorem fits_of_not_inquiry (hgs : groups args = before ++ g :: after)
    (hinquiry : ∀ b ∈ before, ¬ b.IsInquiry) (hunknown : ∀ a, .unknown a ∉ before) :
    ∀ b ∈ before, b.Fits := by
  have hgrouped : Grouped args (before ++ g :: after) := groups_eq_iff.1 hgs
  intro b hb
  cases b with
  | help => exact absurd (Or.inl rfl) (hinquiry _ hb)
  | version => exact absurd (Or.inr rfl) (hinquiry _ hb)
  | unfinished option => exact absurd hb (hgrouped.finished option)
  | unknown option => exact absurd hb (hunknown option)
  | verbose => exact .verbose
  | emit path => exact .emit path
  | sites path => exact .sites path
  | positional path => exact .positional path

/-- An inquiry is answered without a look at any file. -/
theorem run_of_inquiry {m : Type → Type} [Monad m] [Storage m]
    {r : Except ArgumentError Request} (hparse : parseArguments args = r) (hg : g.IsInquiry)
    (h : Ends before g r) : ∃ text, (run args : m Report) = pure ⟨0, text, ""⟩ := by
  rcases hg with rfl | rfl
  · cases h
    exact ⟨usage, by rw [run, hparse]⟩
  · cases h
    exact ⟨_, by rw [run, hparse]⟩

/-- Refused arguments are reported, and no file is touched. -/
theorem run_of_refused {m : Type → Type} [Monad m] [Storage m] {err : ArgumentError}
    (hparse : parseArguments args = .error err) : (run args : m Report) = pure (refusal err) := by
  rw [run, hparse]

/-- Behind groups that are no inquiries, a first inquiry is reached unless one of them is unknown or
gives a second file for the workflow. -/
theorem reached_or_refused (hgs : groups args = before ++ g :: after) (hg : g.IsInquiry)
    (hbefore : ∀ b ∈ before, ¬ b.IsInquiry) :
    ((∀ a, .unknown a ∉ before) ∧ (before.filterMap Group.workflow?).length ≤ 1 ∧
      Ends before g (parseArguments args)) ∨
    (¬ ((∀ a, .unknown a ∉ before) ∧ (before.filterMap Group.workflow?).length ≤ 1) ∧
      ∃ front b back err, before = front ++ b :: back ∧ AllTaken front ∧
        Ends front b (.error err) ∧ parseArguments args = .error err) := by
  rcases allBehind_or_first (fun before g => ∀ r, ¬ Ends before g r) before with
    h | ⟨front, b, back, rfl, hfront, hb⟩
  · left
    obtain ⟨hfits, hle⟩ := allTaken_iff.1 h
    have hunknown : ∀ a, .unknown a ∉ before := by
      intro a ha
      cases hfits _ ha
    refine ⟨hunknown, hle, ?_⟩
    have hends : ∃ r, Ends before g r := by
      rcases hg with rfl | rfl
      · exact ⟨_, .help⟩
      · exact ⟨_, .version⟩
    obtain ⟨r, hr⟩ := hends
    rwa [parseArguments, request_of_outcome (.ended hgs h hr)]
  · -- The first group that ends the reading stands before the inquiry, which is not reached.
    right
    push Not at hb
    obtain ⟨r, hr⟩ := hb
    have hparse : parseArguments args = r :=
      request_of_outcome (.ended (hgs.trans (List.append_assoc ..)) hfront hr)
    constructor
    · rintro ⟨hunknown, hle⟩
      have hall : AllTaken (front ++ b :: back) :=
        allTaken_iff.2 ⟨fits_of_not_inquiry hgs hbefore hunknown, hle⟩
      exact hall front b back rfl r hr
    · have hb : ¬ b.IsInquiry := hbefore b (by simp)
      cases hr with
      | help => exact absurd (Or.inl rfl) hb
      | version => exact absurd (Or.inr rfl) hb
      -- All that is left to end the reading are refusals.
      | missingFile option => exact ⟨_, _, _, _, rfl, hfront, .missingFile option, hparse⟩
      | unknownOption option => exact ⟨_, _, _, _, rfl, hfront, .unknownOption option, hparse⟩
      | unexpectedArgument h => exact ⟨_, _, _, _, rfl, hfront, .unexpectedArgument h, hparse⟩

/-- Arguments are cut into groups in one way, and the groups decide what the arguments ask for.

A workflow is compiled exactly if all groups fit and one of them gives its file, with the last file
of each option. So the same is done in every other order of the groups that keeps the order of the
files of each option.

The first group that asks for help or for the version is answered and ends the run, unless a group
before it is unknown or gives a second file for the workflow; then the first of these is refused. -/
theorem parseArguments_of_groups (args : List String) :
    (∀ gs, groups args = gs ↔ Grouped args gs) ∧
    (∀ path o, parseArguments args = .ok (.compile path o) ↔
      (∀ g ∈ groups args, g.Fits) ∧ (groups args).filterMap Group.workflow? = [path] ∧
        o = ⟨some path, ((groups args).filterMap Group.emit?).getLast?,
          ((groups args).filterMap Group.sites?).getLast?, decide (.verbose ∈ groups args)⟩) ∧
    (∀ path o, parseArguments args = .ok (.compile path o) → ∀ gs, gs.Perm (groups args) →
      gs.filterMap Group.emit? = (groups args).filterMap Group.emit? →
      gs.filterMap Group.sites? = (groups args).filterMap Group.sites? →
      (∃ args', groups args' = gs) ∧
        ∀ args', groups args' = gs → parseArguments args' = .ok (.compile path o)) ∧
    (∀ before g after, groups args = before ++ g :: after → g.IsInquiry →
      (∀ b ∈ before, ¬ b.IsInquiry) →
      ((∀ a, .unknown a ∉ before) ∧ (before.filterMap Group.workflow?).length ≤ 1 →
        Ends before g (parseArguments args) ∧
        ∀ {m : Type → Type} [Monad m] [Storage m],
          ∃ text, (run args : m Report) = pure ⟨0, text, ""⟩) ∧
      (¬ ((∀ a, .unknown a ∉ before) ∧ (before.filterMap Group.workflow?).length ≤ 1) →
        ∃ front b back err, before = front ++ b :: back ∧ AllTaken front ∧
          Ends front b (.error err) ∧ parseArguments args = .error err ∧
          ∀ {m : Type → Type} [Monad m] [Storage m],
            (run args : m Report) = pure (refusal err))) := by
  refine ⟨fun gs => groups_eq_iff, ?_, ?_, ?_⟩
  · intro path o
    rw [parseArguments_eq_compile_iff]
    refine and_congr_right fun _ => and_congr_right fun hone => ?_
    rw [Options.ofGroups, hone]
    rfl
  · intro path o h gs hperm hemit hsites
    -- The reordered groups come from some arguments, because each fits and so was written.
    have hfits := (parseArguments_eq_compile_iff.1 h).1
    constructor
    · refine exists_groups_eq fun g hg => ?_
      exact (grouped_groups args).exists_written (hperm.mem_iff.1 hg)
        (hfits g (hperm.mem_iff.1 hg)).ne_unfinished
    · rintro args' rfl
      exact parseArguments_of_perm h hperm hemit hsites
  · intro before g after hgs hg hbefore
    -- Either the reading gets to the inquiry, or a group before it is refused; never both.
    rcases reached_or_refused hgs hg hbefore with
      ⟨hunknown, hle, hends⟩ | ⟨hnot, front, b, back, err, hsplit, hfront, hends, hparse⟩
    · exact ⟨fun _ => ⟨hends, run_of_inquiry rfl hg hends⟩, fun h => absurd ⟨hunknown, hle⟩ h⟩
    · exact ⟨fun h => absurd h hnot,
        fun _ => ⟨front, b, back, err, hsplit, hfront, hends, hparse, run_of_refused hparse⟩⟩

-- The file of an option is taken in whatever it looks like.
example : parseArguments ["--emit", "--help", "w.xml"]
    = .ok (.compile "w.xml" ⟨some "w.xml", some "--help", none, false⟩) := by decide

end

end FlowGraph.CommandLine
