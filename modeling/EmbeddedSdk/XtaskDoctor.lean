import EmbeddedSdk.RunnerCommand
import EmbeddedSdk.XtaskBuilds

/-!
# The development environment

`doctor` asks `rustup` for the installed targets and every runner for its version.
It keeps sets of what it has checked, so that boards may share a target or a
runner. It reports that the environment is ready exactly when it is, and otherwise
names something that is missing.
-/
namespace EmbeddedSdk.Xtask
open StoppingLoops Action Std

/-- The runner answers when it is asked for its version. -/
def Available (outcome : Process → Outcome) (tool : String) : Prop :=
  (outcome (versionProcess tool)).status tool = .ok ()

/-- What a board needs is there. -/
def BoardReady (outcome : Process → Outcome) (installed : String) (b : Board) : Prop :=
  b.metadata.target ∈ lines installed ∧
    ∃ tool, b.metadata.runner.head? = some tool ∧ Available outcome tool

/-- The error names something that a board needs and that is missing. -/
def Explains (outcome : Process → Outcome) (installed : String) (boards : List Board) :
    TaskError → Prop
  | .missingTarget target => ∃ b ∈ boards, b.metadata.target = target ∧ target ∉ lines installed
  | .runnerUnavailable tool =>
      ∃ b ∈ boards, b.metadata.runner.head? = some tool ∧ ¬ Available outcome tool
  | _ => False

theorem Explains.not_ready {outcome : Process → Outcome} {installed : String}
    {boards : List Board} {e : TaskError} (h : Explains outcome installed boards e) :
    ¬ ∀ b ∈ boards, BoardReady outcome installed b := by
  intro hready
  cases e with
  | missingTarget target =>
      obtain ⟨b, hb, rfl, hmissing⟩ := h
      exact hmissing (hready b hb).1
  | runnerUnavailable tool =>
      obtain ⟨b, hb, htool, hmissing⟩ := h
      obtain ⟨tool', htool', havailable⟩ := (hready b hb).2
      rw [htool] at htool'
      rw [← Option.some.inj htool'] at havailable
      exact hmissing havailable
  | metadata | registry | noFirmwareMatched | noBoards | noTargets | failedToStart
  | exitedWithStatus | nonUtf8 | emptyRunnerPanic => exact h

theorem Explains.ne_panic {outcome : Process → Outcome} {installed : String}
    {boards : List Board} {e : TaskError} (h : Explains outcome installed boards e) :
    e ≠ .emptyRunnerPanic := by
  rintro rfl
  exact h

/-- What the loop of `doctor` knows when some boards are done: the sets hold their
targets and tools, all of them are there, and every tool was asked once. -/
structure Checked (outcome : Process → Outcome) (installed : String) (before : List Process)
    (done : List Board) (checked : ExtTreeSet String × ExtTreeSet String) (s : Shell) : Prop where
  targets : ∀ t, t ∈ checked.1 ↔ ∃ b ∈ done, b.metadata.target = t
  tools : ∀ t, t ∈ checked.2 ↔ ∃ b ∈ done, b.metadata.runner.head? = some t
  ready : ∀ b ∈ done, BoardReady outcome installed b
  started : ∃ asked : List String, asked.Nodup ∧ (∀ t, t ∈ asked ↔ t ∈ checked.2) ∧
    s.started = before ++ asked.map versionProcess

theorem mem_insert_iff {names : ExtTreeSet String} {x name : String} :
    name ∈ names.insert x ↔ x = name ∨ name ∈ names := by
  rw [ExtTreeSet.mem_insert, Std.compare_eq_iff_eq]

/-- A tool that may have to be asked. -/
theorem Checked.ask {outcome : Process → Outcome} {installed : String} {before : List Process}
    {done : List Board} {checked : ExtTreeSet String × ExtTreeSet String} {s t : Shell}
    {tool : String} (h : Checked outcome installed before done checked s)
    (ht : t.started =
      if tool ∈ checked.2 then s.started else s.started ++ [versionProcess tool]) :
    ∃ asked : List String, asked.Nodup ∧ (∀ u, u ∈ asked ↔ u ∈ checked.2.insert tool) ∧
      t.started = before ++ asked.map versionProcess := by
  obtain ⟨asked, hnodup, hasked, hbefore⟩ := h.started
  by_cases hmem : tool ∈ checked.2
  · refine ⟨asked, hnodup, ?_, by rw [ht, if_pos hmem, hbefore]⟩
    intro u
    rw [mem_insert_iff, hasked]
    constructor
    · exact .inr
    · rintro (rfl | hu)
      · exact hmem
      · exact hu
  · have hnew : tool ∉ asked := fun hold => hmem ((hasked tool).mp hold)
    refine ⟨asked ++ [tool], ?_, ?_, ?_⟩
    · exact hnodup.append (List.nodup_singleton tool) (List.disjoint_singleton.mpr hnew)
    · intro u
      rw [mem_insert_iff, List.mem_append, hasked, List.mem_singleton, or_comm, eq_comm]
    · rw [ht, if_neg hmem, hbefore, List.map_append, List.append_assoc]
      rfl

/-- One more board is done. -/
theorem Checked.concat {outcome : Process → Outcome} {installed : String}
    {before : List Process} {done : List Board}
    {checked : ExtTreeSet String × ExtTreeSet String} {s t : Shell} {b : Board} {tool : String}
    (h : Checked outcome installed before done checked s)
    (htool : b.metadata.runner.head? = some tool)
    (htarget : b.metadata.target ∈ lines installed) (havailable : Available outcome tool)
    (ht : t.started =
      if tool ∈ checked.2 then s.started else s.started ++ [versionProcess tool]) :
    Checked outcome installed before (done ++ [b])
      (checked.1.insert b.metadata.target, checked.2.insert tool) t where
  targets target := by
    rw [mem_insert_iff, h.targets]
    simp only [List.mem_append, List.mem_singleton, or_and_right, exists_or, exists_eq_left]
    exact or_comm
  tools other := by
    rw [mem_insert_iff, h.tools]
    simp only [List.mem_append, List.mem_singleton, or_and_right, exists_or, exists_eq_left, htool,
      Option.some.injEq]
    exact or_comm
  ready := by
    intro b' hb'
    rcases List.mem_append.mp hb' with hdone | hlast
    · exact h.ready b' hdone
    · rw [List.mem_singleton.mp hlast]
      exact ⟨htarget, tool, htool, havailable⟩
  started := h.ask ht

namespace Registry

variable {outcome : Process → Outcome} {cargo : Option String} {installed : String}
  {before : List Process} {done : List Board} {b : Board}
  {checked : ExtTreeSet String × ExtTreeSet String} {s : Shell}

/-- Whether or not a tool was asked before, the answer says whether it is available. -/
theorem askVersion_ends (h : Checked outcome installed before done checked s) (tool : String)
    (P : Except TaskError Unit → Shell → Prop) (Q : TaskError → Shell → Prop)
    (hP : ∀ version t, (version.isOk = true ↔ Available outcome tool) →
      (t.started = if tool ∈ checked.2 then s.started else s.started ++ [versionProcess tool]) →
      P version t) :
    Ends (askVersion ⟨fun _ => outcome, cargo⟩ checked.2 tool) s P Q := by
  unfold askVersion
  by_cases hmem : tool ∈ checked.2
  · obtain ⟨b', hb', htool'⟩ := (h.tools tool).mp hmem
    obtain ⟨tool', hhead, havailable⟩ := (h.ready b' hb').2
    rw [htool', Option.some.injEq] at hhead
    rw [if_pos (by simpa using hmem), ends_pure]
    exact hP _ _ (iff_of_true rfl (hhead ▸ havailable)) (by rw [if_pos hmem])
  · rw [if_neg (by simpa using hmem), ends_attempt]
    refine hP _ _ ?_ (by rw [if_neg hmem]; rfl)
    simp only [command, start, Available, versionProcess]
    cases (outcome ⟨tool, ["--version"], []⟩).status tool with
    | ok a => simp [Except.isOk, Except.toBool]
    | error e => simp [Except.isOk, Except.toBool]

/-- The processes that were started are different. -/
def StartedOnce (before : List Process) (s : Shell) : Prop :=
  ∃ asked : List String, asked.Nodup ∧ s.started = before ++ asked.map versionProcess

theorem checkBoard_ends {selected rest : List Board} (hselected : selected = done ++ b :: rest)
    (hrunner : b.metadata.runner ≠ []) (h : Checked outcome installed before done checked s) :
    Ends (checkBoard ⟨fun _ => outcome, cargo⟩ installed checked b) s
      (fun checked' t => Checked outcome installed before (done ++ [b]) checked' t)
      (fun e t => Explains outcome installed selected e ∧ StartedOnce before t) := by
  obtain ⟨asked, hnodup, -, hstarted⟩ := h.started
  have hb : b ∈ selected := by
    rw [hselected]
    exact List.mem_append_right done List.mem_cons_self
  obtain ⟨tool, htool⟩ : ∃ tool, b.metadata.runner.head? = some tool :=
    Option.isSome_iff_exists.mp (by simpa using hrunner)
  unfold checkBoard
  by_cases htarget : b.metadata.target ∈ lines installed
  · rw [if_neg (by simp [htarget]), htool]
    simp only [ends_bind]
    refine askVersion_ends h tool _ _ ?_
    intro version t hversion ht
    by_cases havailable : Available outcome tool
    · rw [if_pos (hversion.mpr havailable)]
      exact h.concat htool htarget havailable ht
    · rw [if_neg (mt hversion.mp havailable), ends_fail]
      obtain ⟨asked, hnodup, -, hstarted⟩ := h.ask ht
      exact ⟨⟨b, hb, htool, havailable⟩, asked, hnodup, hstarted⟩
  · -- A target that was checked before belongs to a board that is done.
    have hnew : b.metadata.target ∉ checked.1 := by
      intro hmem
      obtain ⟨b', hb', hsame⟩ := (h.targets _).mp hmem
      rw [← hsame] at htarget
      exact htarget (h.ready b' hb').1
    have hcontains : checked.1.contains b.metadata.target = false := by
      rw [← Bool.not_eq_true, ExtTreeSet.contains_iff_mem]
      exact hnew
    rw [if_pos (by simp [htarget, hcontains]), ends_fail]
    exact ⟨⟨b, hb, rfl, htarget⟩, asked, hnodup, hstarted⟩

/-- The values of a map in the order of its keys. -/
theorem values_eq_map_snd {α β : Type} {cmp : α → α → Ordering} [TransCmp cmp]
    (m : ExtTreeMap α β cmp) : m.values = m.toList.map Prod.snd := by
  obtain ⟨inner⟩ := m
  induction inner using ExtDTreeMap.inductionOn with
  | _ t =>
      show t.inner.values = (DTreeMap.Internal.Impl.Const.toList t.inner).map Prod.snd
      rw [DTreeMap.Internal.Impl.values_eq_map_snd,
        DTreeMap.Internal.Impl.Const.toList_eq_toListModel_map, List.map_map]
      rfl

theorem mem_boards_values {r : Registry} {b : Board} :
    b ∈ r.boards.values ↔ ∃ id : String, r.boards[id]? = some b := by
  rw [values_eq_map_snd, List.mem_map]
  constructor
  · rintro ⟨⟨id, b'⟩, hmem, rfl⟩
    exact ⟨id, ExtTreeMap.mem_toList_iff_getElem?_eq_some.mp hmem⟩
  · rintro ⟨id, hid⟩
    exact ⟨(id, b), ExtTreeMap.mem_toList_iff_getElem?_eq_some.mpr hid, rfl⟩

/-- A lookup by id or by package name finds a registered board. -/
theorem mem_boards_of_board {r : Registry} {name : String} {b : Board}
    (h : r.board name = .ok b) : b ∈ r.boards.values := by
  unfold board at h
  split at h
  · next b' hfound =>
    obtain rfl := Except.ok.inj h
    rcases Option.or_eq_some_iff.mp hfound with hid | ⟨-, hpackage⟩
    · exact mem_boards_values.mpr ⟨name, hid⟩
    · exact List.mem_of_find?_eq_some hpackage
  · nomatch h

theorem runner_ne_nil_of_validate {package : Package} {metadata : BoardMetadata}
    (h : validateBoardMetadata package metadata = .ok ()) : metadata.runner ≠ [] := by
  intro hnil
  unfold validateBoardMetadata at h
  rw [hnil] at h
  split at h
  · nomatch h
  split at h
  · nomatch h
  · nomatch h

/-- Every board of an accepted workspace has a runner. -/
theorem runner_ne_nil {packages : List Package} {r : Registry}
    (h : fromPackages packages = .ok r) {b : Board} (hb : b ∈ r.boards.values) :
    b.metadata.runner ≠ [] := by
  obtain ⟨id, hid⟩ := mem_boards_values.mp hb
  obtain ⟨-, hdeclared⟩ := (fromPackages_isOk_iff packages).mp ⟨r, h⟩
  obtain ⟨p, hp, hpb⟩ := List.mem_filterMap.mp ((boards_getElem?_iff h id b).mp hid).1
  obtain ⟨m, hm, rfl⟩ := Option.map_eq_some_iff.mp hpb
  exact runner_ne_nil_of_validate (hdeclared.boards_valid p hp m hm)

theorem mem_values_of_selected {r : Registry} {boardFilter : Option String}
    {selected : List Board} (h : r.selectedBoards boardFilter = .ok selected) :
    ∀ b ∈ selected, b ∈ r.boards.values := by
  cases boardFilter with
  | none =>
      rw [← Except.ok.inj h]
      exact fun b hb => hb
  | some name =>
      cases hboard : r.board name with
      | error e =>
          rw [selectedBoards, hboard] at h
          nomatch h
      | ok b =>
          rw [selectedBoards, hboard] at h
          rw [← Except.ok.inj h]
          intro b' hb'
          rw [List.mem_singleton.mp hb']
          exact mem_boards_of_board hboard

/-- The environment has what the selected boards need. -/
def Ready (r : Registry) (outcome : Process → Outcome) (boardFilter : Option String) : Prop :=
  ∃ selected installed, r.selectedBoards boardFilter = .ok selected ∧ selected ≠ [] ∧
    (outcome rustupProcess).output rustupProcess.program = .ok installed ∧
    ∀ b ∈ selected, BoardReady outcome installed b

theorem startedOnce_nodup {s : Shell} (h : StartedOnce [rustupProcess] s) : s.started.Nodup := by
  obtain ⟨asked, hnodup, hstarted⟩ := h
  have hinjective : Function.Injective versionProcess := by
    intro tool tool' heq
    exact (Process.mk.inj heq).1
  rw [hstarted, List.singleton_append, List.nodup_cons]
  refine ⟨?_, hnodup.map hinjective⟩
  intro hmem
  obtain ⟨tool, -, htool⟩ := List.mem_map.mp hmem
  exact absurd (Process.mk.inj htool).2.1 (by decide)

theorem output_ne_panic {outcome : Outcome} {program : String} {e : TaskError}
    (h : outcome.output program = .error e) : e ≠ .emptyRunnerPanic := by
  rintro rfl
  unfold Outcome.output at h
  split at h
  · nomatch h
  · next stdout =>
    cases stdout with
    | ok text => nomatch h
    | error error => nomatch h
  · nomatch h

theorem checked_nil (outcome : Process → Outcome) (installed : String) (s : Shell) :
    Checked outcome installed s.started [] (∅, ∅) s where
  targets t := by simp
  tools t := by simp
  ready b hb := absurd hb List.not_mem_nil
  started := ⟨[], List.nodup_nil, by simp, by simp⟩

/-- The loop of `doctor`. -/
theorem checkBoards_end {packages : List Package} {r : Registry}
    (h : fromPackages packages = .ok r) (outcome : Process → Outcome) (cargo : Option String)
    {boardFilter : Option String} {selected : List Board}
    (hselected : r.selectedBoards boardFilter = .ok selected) (installed : String) (s : Shell) :
    Ends (selected.foldlM (checkBoard ⟨fun _ => outcome, cargo⟩ installed) (∅, ∅)) s
      (fun _ t => (∀ b ∈ selected, BoardReady outcome installed b) ∧ StartedOnce s.started t)
      (fun e t => Explains outcome installed selected e ∧ StartedOnce s.started t) := by
  have hloop : Ends (selected.foldlM (checkBoard ⟨fun _ => outcome, cargo⟩ installed) (∅, ∅)) s
      (fun checked t => Checked outcome installed s.started selected checked t)
      (fun e t => Explains outcome installed selected e ∧ StartedOnce s.started t) := by
    refine ends_foldlM (I := fun done checked t =>
      Checked outcome installed s.started done checked t) selected ?_
      (checked_nil outcome installed s)
    intro done b rest checked t hsplit hchecked
    have hb : b ∈ selected := by
      rw [hsplit]
      exact List.mem_append_right done List.mem_cons_self
    exact checkBoard_ends hsplit (runner_ne_nil h (mem_values_of_selected hselected b hb)) hchecked
  refine hloop.imp ?_ fun _ _ hQ => hQ
  intro checked t ht
  obtain ⟨asked, hnodup, -, hstarted⟩ := ht.started
  exact ⟨ht.ready, asked, hnodup, hstarted⟩

/-- Both ways in which `doctor` ends. -/
theorem doctor_ends {packages : List Package} {r : Registry}
    (h : fromPackages packages = .ok r) (outcome : Process → Outcome) (cargo : Option String)
    (boardFilter : Option String) :
    Ends (r.doctor ⟨fun _ => outcome, cargo⟩ boardFilter) {}
      (fun _ s => r.Ready outcome boardFilter ∧ s.started.Nodup)
      (fun e s => ¬ r.Ready outcome boardFilter ∧ s.started.Nodup ∧ e ≠ .emptyRunnerPanic ∧
        ∀ selected installed, r.selectedBoards boardFilter = .ok selected → selected ≠ [] →
          (outcome rustupProcess).output rustupProcess.program = .ok installed →
          Explains outcome installed selected e) := by
  unfold doctor
  rw [ends_bind, ends_lookup]
  constructor
  · intro selected hselected
    by_cases hempty : selected = []
    · rw [if_pos (List.isEmpty_iff.mpr hempty), ends_fail]
      refine ⟨?_, List.nodup_nil, by simp, ?_⟩
      · rintro ⟨selected', installed, hselected', hne, -⟩
        rw [hselected] at hselected'
        exact hne ((Except.ok.inj hselected').symm.trans hempty)
      · intro selected' installed hselected' hne
        rw [hselected] at hselected'
        exact absurd ((Except.ok.inj hselected').symm.trans hempty) hne
    · rw [if_neg fun hnil => hempty (List.isEmpty_iff.mp hnil), ends_bind, output, ends_start]
      constructor
      · intro installed hinstalled
        rw [ends_bind]
        refine (checkBoards_end h outcome cargo hselected installed _).imp ?_ ?_
        · rintro _ s ⟨hready, hstarted⟩
          exact ⟨⟨selected, installed, hselected, hempty, hinstalled, hready⟩,
            startedOnce_nodup hstarted⟩
        · rintro e s ⟨hexplains, hstarted⟩
          refine ⟨?_, startedOnce_nodup hstarted, hexplains.ne_panic, ?_⟩
          · rintro ⟨selected', installed', hselected', -, hinstalled', hready⟩
            obtain rfl := Except.ok.inj (hselected.symm.trans hselected')
            obtain rfl := Except.ok.inj (hinstalled.symm.trans hinstalled')
            exact hexplains.not_ready hready
          · intro selected' installed' hselected' _ hinstalled'
            obtain rfl := Except.ok.inj (hselected.symm.trans hselected')
            obtain rfl := Except.ok.inj (hinstalled.symm.trans hinstalled')
            exact hexplains
      · intro e he
        refine ⟨?_, List.nodup_singleton _, ?_, ?_⟩
        · rintro ⟨selected', installed, -, -, hinstalled, -⟩
          rw [he] at hinstalled
          nomatch hinstalled
        · exact output_ne_panic he
        · intro selected' installed _ _ hinstalled
          rw [he] at hinstalled
          nomatch hinstalled
  · intro e he
    refine ⟨?_, List.nodup_nil, by simp, ?_⟩
    · rintro ⟨selected, installed, hselected, -⟩
      rw [he] at hselected
      nomatch hselected
    · intro selected installed hselected
      rw [he] at hselected
      nomatch hselected

/-- For every accepted workspace and every environment, `doctor` succeeds exactly when
every selected board finds its target installed and its runner available; where it
fails after asking for the targets, it names what is missing. It never panics and
starts no process twice. -/
theorem doctor_reports_readiness {packages : List Package} {r : Registry}
    (h : fromPackages packages = .ok r) (outcome : Process → Outcome) (cargo : Option String)
    (boardFilter : Option String) :
    ((r.doctor ⟨fun _ => outcome, cargo⟩ boardFilter {}).1.isOk = true ↔
        r.Ready outcome boardFilter) ∧
      (r.doctor ⟨fun _ => outcome, cargo⟩ boardFilter {}).2.started.Nodup ∧
      ∀ e, (r.doctor ⟨fun _ => outcome, cargo⟩ boardFilter {}).1 = .error e →
        e ≠ .emptyRunnerPanic ∧
          ∀ selected installed, r.selectedBoards boardFilter = .ok selected → selected ≠ [] →
            (outcome rustupProcess).output rustupProcess.program = .ok installed →
            Explains outcome installed selected e := by
  have hends := doctor_ends h outcome cargo boardFilter
  refine ⟨isOk_iff_of_ends (hends.imp (fun _ _ hok => hok.1) fun _ _ herror => herror.1), ?_⟩
  unfold Ends at hends
  split at hends
  · next hrun =>
    rw [hrun]
    exact ⟨hends.2, fun e he => nomatch he⟩
  · next hrun =>
    rw [hrun]
    refine ⟨hends.2.1, ?_⟩
    intro e he
    rw [← Except.error.inj he]
    exact hends.2.2

/-- An environment with the target and the runner of the workspace. -/
def preparedOutcome (process : Process) : Outcome :=
  if process = rustupProcess then
    .exited true "exit status: 0" (.ok "riscv32imac-unknown-none-elf\n")
  else .exited true "exit status: 0" (.ok "")

theorem workspacePackages_doctor :
    ∃ r, fromPackages workspacePackages = .ok r ∧
      ((r.doctor ⟨fun _ => preparedOutcome, none⟩ (some "xiao-esp32c6") {}).1.isOk = true ↔
        r.Ready preparedOutcome (some "xiao-esp32c6")) := by
  obtain ⟨r, hr⟩ := workspacePackages_isOk
  exact ⟨r, hr, (doctor_reports_readiness hr preparedOutcome none (some "xiao-esp32c6")).1⟩

theorem forM_println_ends (printed : List String) :
    Ends (printed.forM println) {} (fun _ s => s.printed = printed) fun _ _ => False :=
  ends_forM (I := fun done (s : Shell) => s.printed = done) printed
    (fun _ line _ _ _ hdone => congrArg (· ++ [line]) hdone) rfl

theorem mem_targetSet {r : Registry} {target : String} :
    target ∈ r.targetSet ↔ ∃ b ∈ r.boards.values, b.metadata.target = target := by
  rw [targetSet, ExtTreeSet.mem_ofList, List.contains_iff_mem, List.mem_map]

/-- `targets` prints the targets of all boards in ascending order, or fails if there is
no board. -/
theorem targets_ends (r : Registry) :
    Ends r.targets {} (fun _ s => r.boards.values ≠ [] ∧ s.printed.Pairwise (· < ·) ∧
        ∀ target, target ∈ s.printed ↔ ∃ b ∈ r.boards.values, b.metadata.target = target)
      (fun e s => r.boards.values = [] ∧ s.printed = [] ∧ e = .noTargets) := by
  unfold targets
  by_cases hempty : r.targetSet.isEmpty = true
  · rw [if_pos hempty, ends_fail]
    refine ⟨?_, rfl, rfl⟩
    rw [List.eq_nil_iff_forall_not_mem]
    intro b hb
    have hmem : b.metadata.target ∈ r.targetSet := mem_targetSet.mpr ⟨b, hb, rfl⟩
    rw [ExtTreeSet.isEmpty_iff] at hempty
    rw [hempty] at hmem
    exact ExtTreeSet.not_mem_empty hmem
  · rw [if_neg hempty]
    refine (forM_println_ends _).imp ?_ fun _ _ hfalse => hfalse.elim
    intro _ s hs
    rw [hs]
    refine ⟨?_, ?_, ?_⟩
    · intro hnil
      refine hempty (ExtTreeSet.isEmpty_iff.mpr ?_)
      rw [targetSet, hnil]
      rfl
    · refine ExtTreeSet.ordered_toList.imp ?_
      intro target target' hlt
      exact compareOfLessAndEq_eq_lt.mp hlt
    · intro target
      rw [ExtTreeSet.mem_toList, mem_targetSet]

theorem mem_targets_printed {r : Registry} {target : String} :
    target ∈ (r.targets {}).2.printed ↔ ∃ b ∈ r.boards.values, b.metadata.target = target := by
  have hends := r.targets_ends
  unfold Ends at hends
  split at hends
  · next hrun =>
    rw [hrun]
    exact hends.2.2 target
  · next hrun =>
    rw [hrun, hends.2.1, hends.1]
    simp

theorem targets_isOk_iff (r : Registry) :
    (r.targets {}).1.isOk = true ↔ r.boards.values ≠ [] :=
  isOk_iff_of_ends (r.targets_ends.imp (fun _ _ hok => hok.1) fun _ _ herror => not_not.mpr herror.1)

/-- The targets that `targets` prints are all that builds and `doctor` need: for every
accepted workspace, every build of `build-all` is for a printed target, and `doctor`
passes without a filter exactly when there is a board, the printed targets are
installed and the runners are available. -/
theorem printed_targets_suffice {packages : List Package} {r : Registry}
    (h : fromPackages packages = .ok r) :
    (∀ world boardFilter plan, r.BuildsPlan packages world boardFilter plan →
      ∀ job ∈ plan, job.2.metadata.target ∈ (r.targets {}).2.printed) ∧
    ∀ outcome cargo, ((r.doctor ⟨fun _ => outcome, cargo⟩ none) {}).1.isOk = true ↔
      (r.targets {}).1.isOk = true ∧
        ∃ installed, (outcome rustupProcess).output rustupProcess.program = .ok installed ∧
          (∀ target ∈ (r.targets {}).2.printed, target ∈ lines installed) ∧
          ∀ b ∈ r.boards.values, ∃ tool, b.metadata.runner.head? = some tool ∧
            Available outcome tool := by
  constructor
  · intro world boardFilter plan hplan job hjob
    obtain ⟨-, -, hboard, hid⟩ := (hplan.selected job.1 job.2).mp hjob
    have hregistered := (boards_getElem?_iff h job.1.board job.2).mpr ⟨hboard, hid⟩
    exact mem_targets_printed.mpr ⟨job.2, mem_boards_values.mpr ⟨_, hregistered⟩, rfl⟩
  · intro outcome cargo
    have hready : ((r.doctor ⟨fun _ => outcome, cargo⟩ none) {}).1.isOk = true ↔
        r.Ready outcome none :=
      isOk_iff_of_ends ((doctor_ends h outcome cargo none).imp (fun _ _ hok => hok.1)
        fun _ _ herror => herror.1)
    rw [hready, targets_isOk_iff]
    constructor
    · rintro ⟨selected, installed, hselected, hne, hinstalled, hall⟩
      obtain rfl := Except.ok.inj hselected
      refine ⟨hne, installed, hinstalled, ?_, fun b hb => (hall b hb).2⟩
      intro target htarget
      obtain ⟨b, hb, rfl⟩ := mem_targets_printed.mp htarget
      exact (hall b hb).1
    · rintro ⟨hne, installed, hinstalled, htargets, hrunners⟩
      refine ⟨r.boards.values, installed, rfl, hne, hinstalled, ?_⟩
      intro b hb
      exact ⟨htargets _ (mem_targets_printed.mpr ⟨b, hb, rfl⟩), hrunners b hb⟩

theorem workspacePackages_targets_suffice :
    ∃ r, fromPackages workspacePackages = .ok r ∧
      ∀ world boardFilter plan, r.BuildsPlan workspacePackages world boardFilter plan →
        ∀ job ∈ plan, job.2.metadata.target ∈ (r.targets {}).2.printed := by
  obtain ⟨r, hr⟩ := workspacePackages_isOk
  exact ⟨r, hr, (printed_targets_suffice hr).1⟩

end Registry

end EmbeddedSdk.Xtask
