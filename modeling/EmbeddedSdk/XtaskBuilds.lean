import EmbeddedSdk.XtaskCommands

/-!
# Building and checking everything

`build-all` builds the firmware of one board or of all boards, and `check` runs
three calls of Cargo. Both go through a plan that the registry determines, in its
order, and stop at the first call that fails.
-/
namespace EmbeddedSdk.Xtask
open StoppingLoops Action Std

namespace Registry

/-- The firmware belongs to the board that the filter names, if there is one. -/
def Selects (r : Registry) (boardFilter : Option String) (f : Firmware) : Prop :=
  ∀ name ∈ boardFilter, ∃ b, r.board name = .ok b ∧ b.metadata.id = f.board

/-- Firmware with the boards that are registered for it. -/
def withBoards (r : Registry) (firmware : List Firmware) : List (Firmware × Board) :=
  firmware.filterMap fun f => r.boards[f.board]?.map fun b => (f, b)

/-- The call of Cargo that builds a firmware for its board. -/
def buildProcess (world : World) (job : Firmware × Board) : Process :=
  world.cargoProcess (buildFirmware job.1 job.2)

theorem withBoards_concat {r : Registry} {firmware : List Firmware} {f : Firmware} {b : Board}
    (hb : r.boards[f.board]? = some b) :
    r.withBoards (firmware ++ [f]) = r.withBoards firmware ++ [(f, b)] := by
  simp [withBoards, hb]

/-- The loop of `build-all` starts the builds of its plan and stops at the first that
fails. -/
theorem buildLoop_ends {r : Registry} {world : World} {selected : List Firmware}
    (hboards : ∀ f ∈ selected, ∃ b, r.boards[f.board]? = some b) :
    Ends (selected.forM fun firmware => do
        let board ← lookup (r.board firmware.board)
        println ("Building " ++ firmware.selector ++ " (" ++ firmware.package ++ ")")
        command world (world.cargoProcess (buildFirmware firmware board))) {}
      (fun _ => world.Completes ((r.withBoards selected).map (buildProcess world)))
      (world.Stops ((r.withBoards selected).map (buildProcess world))) := by
  refine ends_forM (I := fun done =>
    world.Completes ((r.withBoards done).map (buildProcess world))) selected ?_ ⟨rfl, .nil world⟩
  intro done f rest s hselected hdone
  obtain ⟨hstarted, hsucceeded⟩ := hdone
  have hf : f ∈ selected := by
    rw [hselected]
    exact List.mem_append_right done List.mem_cons_self
  obtain ⟨b, hb⟩ := hboards f hf
  rw [board_eq_ok hb]
  simp only [ends_bind, ends_lookup, ends_println, command, ends_start, hstarted]
  constructor
  · intro b' hb'
    obtain rfl := Except.ok.inj hb'
    constructor
    · intro _ hstatus
      rw [World.Completes, withBoards_concat hb, List.map_append]
      exact ⟨rfl, hsucceeded.concat hstatus⟩
    · intro e hstatus
      refine ⟨_, buildProcess world (f, b), (r.withBoards rest).map (buildProcess world), ?_, rfl,
        hsucceeded, hstatus⟩
      rw [hselected, withBoards, List.filterMap_append, List.filterMap_cons]
      simp only [hb, Option.map_some, List.map_append, List.map_cons]
      rfl
  · intro e he
    cases he

theorem mem_withBoards {packages : List Package} {r : Registry}
    (h : fromPackages packages = .ok r) {firmware : List Firmware} {f : Firmware} {b : Board} :
    (f, b) ∈ r.withBoards firmware ↔
      f ∈ firmware ∧ b ∈ declaredBoards packages ∧ b.metadata.id = f.board := by
  simp only [withBoards, List.mem_filterMap, Option.map_eq_some_iff, Prod.mk.injEq]
  constructor
  · rintro ⟨f', hf', b', hb', rfl, rfl⟩
    exact ⟨hf', (boards_getElem?_iff h _ _).mp hb'⟩
  · rintro ⟨hf, hb⟩
    exact ⟨f, hf, b, (boards_getElem?_iff h _ _).mpr hb, rfl, rfl⟩

theorem withBoards_eq_nil {r : Registry} {firmware : List Firmware}
    (hboards : ∀ f ∈ firmware, ∃ b, r.boards[f.board]? = some b)
    (h : r.withBoards firmware = []) : firmware = [] := by
  cases firmware with
  | nil => rfl
  | cons f rest =>
      obtain ⟨b, hb⟩ := hboards f List.mem_cons_self
      simp [withBoards, hb] at h

/-- What is built, in which order, and where it stops. -/
structure BuildsPlan (packages : List Package) (r : Registry) (world : World)
    (boardFilter : Option String) (plan : List (Firmware × Board)) : Prop where
  selected : ∀ f b, (f, b) ∈ plan ↔ f ∈ declaredFirmware packages ∧ r.Selects boardFilter f ∧
    b ∈ declaredBoards packages ∧ b.metadata.id = f.board
  sorted : plan.Pairwise fun job job' => job.1.selector < job'.1.selector
  ends : Ends (r.buildAll world boardFilter) {}
    (fun _ s => plan ≠ [] ∧ world.Completes (plan.map (buildProcess world)) s)
    (fun e s =>
      plan = [] ∧ s.started = [] ∧ (e = .noFirmwareMatched ∨
        ∃ name, boardFilter = some name ∧ e = .registry (.unknownBoard name)) ∨
      world.Stops (plan.map (buildProcess world)) e s)

theorem withBoards_pairwise {r : Registry} {firmware : List Firmware}
    (h : firmware.Pairwise fun f f' => f.selector < f'.selector) :
    (r.withBoards firmware).Pairwise fun job job' => job.1.selector < job'.1.selector := by
  rw [withBoards, List.pairwise_filterMap]
  refine h.imp ?_
  intro f f' hlt job hjob job' hjob'
  obtain ⟨b, -, rfl⟩ := Option.map_eq_some_iff.mp hjob
  obtain ⟨b', -, rfl⟩ := Option.map_eq_some_iff.mp hjob'
  exact hlt

theorem board_eq_error {r : Registry} {name : String} {e : RegistryError}
    (h : r.board name = .error e) : e = .unknownBoard name := by
  unfold board at h
  split at h
  · nomatch h
  · exact (Except.error.inj h).symm

/-- The builds behind the lookup of the board. -/
theorem buildSelected_plan {packages : List Package} {r : Registry}
    (h : fromPackages packages = .ok r) (world : World) {boardFilter : Option String}
    (name : Option String)
    (hselects : ∀ f : Firmware,
      (name.all fun board => f.board == board) = true ↔ r.Selects boardFilter f)
    (hends : ∀ P Q, Ends (r.buildSelected world name) {} P Q →
      Ends (r.buildAll world boardFilter) {} P Q) :
    ∃ plan, r.BuildsPlan packages world boardFilter plan := by
  have hfound := discovered h
  let selected := r.firmwareList.filter fun f => name.all fun board => f.board == board
  have hmem : ∀ f, f ∈ selected ↔ f ∈ declaredFirmware packages ∧ r.Selects boardFilter f := by
    intro f
    rw [List.mem_filter, hfound.declared, hselects]
  have hboards : ∀ f ∈ selected, ∃ b, r.boards[f.board]? = some b := by
    intro f hf
    obtain ⟨b, hb, -⟩ := hfound.boards f (List.mem_of_mem_filter hf)
    exact ⟨b, hb⟩
  refine ⟨r.withBoards selected, ?_, withBoards_pairwise (hfound.sorted.filter _), ?_⟩
  · intro f b
    rw [mem_withBoards h, hmem, and_assoc]
  · apply hends
    unfold buildSelected
    by_cases hempty : selected = []
    · rw [if_pos (List.isEmpty_iff.mpr hempty), ends_fail, hempty]
      exact .inl ⟨rfl, rfl, .inl rfl⟩
    · rw [if_neg fun hnil => hempty (List.isEmpty_iff.mp hnil)]
      refine (buildLoop_ends hboards).imp ?_ ?_
      · intro _ s hs
        exact ⟨fun hnil => hempty (withBoards_eq_nil hboards hnil), hs⟩
      · intro e s hs
        exact .inr hs

/-- For every accepted workspace, `build-all` builds exactly the firmware of the boards
that are selected, in the order of the selectors and each for the target that its
board declares, and stops at the first build that fails. -/
theorem buildAll_builds_selected {packages : List Package} {r : Registry}
    (h : fromPackages packages = .ok r) (world : World) (boardFilter : Option String) :
    ∃ plan, r.BuildsPlan packages world boardFilter plan := by
  cases boardFilter with
  | none =>
      refine buildSelected_plan h world none ?_ ?_
      · intro f
        simp [Selects]
      · intro P Q hends
        exact hends
  | some name =>
      cases hboard : r.board name with
      | error e =>
          refine ⟨[], ?_, List.Pairwise.nil, ?_⟩
          · intro f b
            simp [Selects, hboard]
          · rw [buildAll, hboard, ends_bind, ends_lookup]
            constructor
            · intro b hb
              nomatch hb
            · intro e' he'
              rw [← Except.error.inj he', board_eq_error hboard]
              exact .inl ⟨rfl, rfl, .inr ⟨name, rfl, rfl⟩⟩
      | ok b =>
          refine buildSelected_plan h world (some b.metadata.id) ?_ ?_
          · intro f
            simp only [Selects, Option.all_some, beq_iff_eq, Option.mem_def, Option.some.injEq,
              forall_eq', hboard, Except.ok.injEq, exists_eq_left']
            exact eq_comm
          · intro P Q hends
            rw [buildAll, hboard, ends_bind, ends_lookup]
            constructor
            · intro b' hb'
              rw [← Except.ok.inj hb']
              exact hends
            · intro e he
              nomatch he

/-- An environment in which every process succeeds and prints nothing. -/
def quietWorld : World := ⟨fun _ _ => .exited true "exit status: 0" (.ok ""), none⟩

theorem workspacePackages_build_selected :
    ∃ r plan, fromPackages workspacePackages = .ok r ∧
      r.BuildsPlan workspacePackages quietWorld (some "xiao-esp32c6") plan := by
  obtain ⟨r, hr⟩ := workspacePackages_isOk
  obtain ⟨plan, hplan⟩ := buildAll_builds_selected hr quietWorld (some "xiao-esp32c6")
  exact ⟨r, plan, hr, hplan⟩

/-- The calls of Cargo that `check` makes. -/
def checkPlan (world : World) (excluded : List String) : List Process :=
  [world.cargoProcess ⟨["fmt", "--all", "--check"], []⟩,
    world.cargoProcess ⟨["clippy", "--workspace"] ++
      excluded.flatMap (fun package => ["--exclude", package]) ++
      ["--all-targets", "--", "-D", "warnings"], []⟩,
    world.cargoProcess ⟨["test", "--workspace"] ++
      excluded.flatMap (fun package => ["--exclude", package]), []⟩]

/-- Processes that are started one after the other. -/
theorem forM_command_ends (world : World) (plan : List Process) :
    Ends (plan.forM (command world)) {} (fun _ => world.Completes plan) (world.Stops plan) := by
  refine ends_forM (I := fun done => world.Completes done) plan ?_ ⟨rfl, .nil world⟩
  intro done process rest s hplan hdone
  obtain ⟨hstarted, hsucceeded⟩ := hdone
  simp only [command, ends_start, hstarted]
  constructor
  · intro _ hstatus
    exact ⟨rfl, hsucceeded.concat hstatus⟩
  · intro e hstatus
    exact ⟨done, process, rest, hplan, rfl, hsucceeded, hstatus⟩

/-- For every accepted workspace, `check` formats, lints and tests in this order, up to
the first failure, and leaves out exactly the packages that declare firmware or
switch their host check off, each named once. -/
theorem check_leaves_out_excluded {packages : List Package} {r : Registry}
    (h : fromPackages packages = .ok r) (world : World) :
    ∃ excluded : List String, excluded.Pairwise (· < ·) ∧
      (∀ name, name ∈ excluded ↔ ∃ p ∈ packages, p.name = name ∧ p.ExcludedFromHost) ∧
      Ends (r.check world) {} (fun _ => world.Completes (checkPlan world excluded))
        (world.Stops (checkPlan world excluded)) := by
  refine ⟨r.hostExclusions.toList, ?_, ?_, ?_⟩
  · refine ExtTreeSet.ordered_toList.imp ?_
    intro name name' hlt
    exact compareOfLessAndEq_eq_lt.mp hlt
  · intro name
    rw [ExtTreeSet.mem_toList, mem_hostExclusions_iff h]
  · have hplan := forM_command_ends world (checkPlan world r.hostExclusions.toList)
    rw [List.forM_eq_forM, checkPlan] at hplan
    simp only [List.forM_cons, List.forM_nil, ends_bind, ends_pure] at hplan
    simp only [check, hostTests, cargo, exclusionArgs, ends_bind]
    exact hplan

theorem workspacePackages_check_excludes :
    ∃ r excluded, fromPackages workspacePackages = .ok r ∧ "xiao-esp32c6-beacon" ∈ excluded ∧
      Ends (r.check quietWorld) {} (fun _ => quietWorld.Completes (checkPlan quietWorld excluded))
        (quietWorld.Stops (checkPlan quietWorld excluded)) := by
  obtain ⟨r, hr⟩ := workspacePackages_isOk
  obtain ⟨excluded, -, hexcluded, hends⟩ := check_leaves_out_excluded hr quietWorld
  refine ⟨r, excluded, hr, (hexcluded _).mpr ?_, hends⟩
  exact ⟨_, List.mem_cons_of_mem _ (List.mem_cons_of_mem _ List.mem_cons_self), rfl, _, rfl,
    .inr rfl⟩

end Registry

end EmbeddedSdk.Xtask
