import EmbeddedSdk.LegacyCommands
import EmbeddedSdk.XtaskDoctor

/-!
# `xtask` as a whole

`main` rewrites deprecated commands, lets the command line be parsed and executes the
task, which begins by reading the workspace. Whatever the task and the environment, no
process is started behind one that failed, and a failure is never reported as a success.
-/
namespace EmbeddedSdk.Xtask
open StoppingLoops Action Std

/-- How `xtask` has ended: its exit code, its own lines of standard error and what the
task has done. -/
structure Exit where
  code : ℕ
  stderr : List String
  shell : Shell

/-- A panic ends a program with a code of its own. -/
def TaskError.exitCode : TaskError → ℕ
  | emptyRunnerPanic => 101
  | _ => 1

def TaskError.report (debug : String → String) : TaskError → String
  | emptyRunnerPanic => emptyRunnerPanic.message debug
  | e => "error: " ++ e.message debug

def deprecationWarning (command : String) : String :=
  "warning: `cargo xtask " ++ command ++ "` is deprecated; use the generic subcommand form"

/-- The parser of command lines answers with a task, or ends the program with a code. -/
def main (world : World) (debug : String → String) (metadata : MetadataCommand)
    (parseFrom : List OsString → Except ℕ Task) (args : List OsString) : Exit :=
  let (args, legacyCommand) := normalizeLegacyArgs args
  match parseFrom args with
  | .error code => ⟨code, [], {}⟩
  | .ok task =>
      let warnings := legacyCommand.toList.map deprecationWarning
      match execute world metadata task {} with
      | (.ok (), shell) => ⟨0, warnings, shell⟩
      | (.error e, shell) => ⟨e.exitCode, warnings ++ [e.report debug], shell⟩

/-- The query of the workspace reads packages, and they are accepted. -/
def Discovers (world : World) (metadata : MetadataCommand) (packages : List Package)
    (r : Registry) : Prop :=
  metadata.exec (world.outcome [] metadata.process) = .ok packages ∧
    Registry.fromPackages packages = .ok r

/-- The processes that a task may start in an accepted workspace: Cargo, `rustup`, and
the declared runners when they are asked for their version. -/
def Permitted (world : World) (metadata : MetadataCommand) (process : Process) : Prop :=
  ∃ packages r, Discovers world metadata packages r ∧
    (process.program = world.cargo.getD "cargo" ∨ process = rustupProcess ∨
      ∃ b ∈ declaredBoards packages, ∃ tool, b.metadata.runner.head? = some tool ∧
        process = versionProcess tool)

/-- The workspace is read first, and what is started behind that is permitted. -/
def Opens (world : World) (metadata : MetadataCommand) (plan : List Process) : Prop :=
  ∃ rest, plan = metadata.process :: rest ∧ ∀ process ∈ rest, Permitted world metadata process

/-- All processes so far were permitted and succeeded. -/
def Clean (world : World) (metadata : MetadataCommand) (s : Shell) : Prop :=
  world.Done s.started ∧ Opens world metadata s.started

/-- A task has failed without a panic, and at most its last process did not succeed. -/
def Halted (world : World) (metadata : MetadataCommand) (e : TaskError) (s : Shell) : Prop :=
  (world.Done s.started.dropLast ∧ Opens world metadata s.started) ∧ e ≠ .emptyRunnerPanic

/-- A part of a task that starts permitted processes only, and none behind a failure. -/
def Careful {α : Type} (world : World) (metadata : MetadataCommand) (x : Script α) : Prop :=
  Keeps (Clean world metadata) (Halted world metadata) x

theorem World.Done.dropLast {world : World} {plan : List Process} (h : world.Done plan) :
    world.Done plan.dropLast := by
  intro before process behind hsplit
  rcases List.eq_nil_or_concat' plan with rfl | ⟨init, last, rfl⟩
  · simp at hsplit
  · rw [List.dropLast_concat] at hsplit
    refine h before process (behind ++ [last]) ?_
    rw [hsplit, List.append_assoc, List.cons_append]

section Tasks
variable {world : World} {metadata : MetadataCommand}

theorem Opens.concat {plan : List Process} (h : Opens world metadata plan) {process : Process}
    (hprocess : Permitted world metadata process) : Opens world metadata (plan ++ [process]) := by
  obtain ⟨rest, rfl, hrest⟩ := h
  refine ⟨rest ++ [process], rfl, ?_⟩
  exact List.forall_mem_append.mpr ⟨hrest, List.forall_mem_singleton.mpr hprocess⟩

theorem Clean.halted {s : Shell} (h : Clean world metadata s) {e : TaskError}
    (he : e ≠ .emptyRunnerPanic) : Halted world metadata e s :=
  ⟨⟨h.1.dropLast, h.2⟩, he⟩

/-- The process that was started last has failed. -/
theorem Clean.halted_concat {s : Shell} (h : Clean world metadata s) {process : Process}
    (hprocess : Permitted world metadata process) {e : TaskError} (he : e ≠ .emptyRunnerPanic) :
    Halted world metadata e { s with started := s.started ++ [process] } := by
  refine ⟨⟨?_, h.2.concat hprocess⟩, he⟩
  rw [List.dropLast_concat]
  exact h.1

theorem Clean.concat {s : Shell} (h : Clean world metadata s) {process : Process}
    (hprocess : Permitted world metadata process) (hsucceeds : world.Succeeds s.started process) :
    Clean world metadata { s with started := s.started ++ [process] } :=
  ⟨h.1.concat hsucceeds, h.2.concat hprocess⟩

/-- A way of judging the end of a process that accepts only successes. -/
def Strict {α : Type} (judge : String → Outcome → Except TaskError α) : Prop :=
  ∀ program outcome,
    (∀ a, judge program outcome = .ok a → outcome.status program = .ok ()) ∧
      ∀ e, judge program outcome = .error e → e ≠ .emptyRunnerPanic

theorem strict_status : Strict Outcome.status := by
  intro program outcome
  refine ⟨fun a ha => ha, ?_⟩
  rintro e he rfl
  unfold Outcome.status at he
  split at he <;> cases he

theorem strict_output : Strict Outcome.output := by
  intro program outcome
  refine ⟨?_, fun e he => Registry.output_ne_panic he⟩
  intro a ha
  unfold Outcome.output at ha
  split at ha
  · cases ha
  · rfl
  · cases ha

theorem careful_start {α : Type} {judge : String → Outcome → Except TaskError α}
    (hjudge : Strict judge) {process : Process} (hprocess : Permitted world metadata process) :
    Careful world metadata (start world judge process) := by
  intro s hs
  rw [ends_start]
  constructor
  · intro a ha
    exact hs.concat hprocess ((hjudge _ _).1 a ha)
  · intro e he
    exact hs.halted_concat hprocess ((hjudge _ _).2 e he)

theorem careful_println (line : String) :
    Careful world metadata (println line) := fun _ hs => hs

theorem careful_fail {α : Type} {e : TaskError} (he : e ≠ .emptyRunnerPanic) :
    Careful world metadata (fail e : Script α) :=
  fun _ hs => hs.halted he

theorem careful_lookup_bind {α β : Type} {result : Except RegistryError α} {f : α → Script β}
    (hf : ∀ a, result = .ok a → Careful world metadata (f a)) :
    Careful world metadata (lookup result >>= f) := by
  intro s hs
  rw [ends_bind, ends_lookup]
  exact ⟨fun a ha => hf a ha s hs, fun e _ => hs.halted (by simp)⟩

/-- The body of the loop of `doctor`. A runner that does not answer is the last process. -/
theorem careful_checkBoard {installed : String} {b : Board} (hrunner : b.metadata.runner ≠ [])
    (hpermitted : ∀ tool, b.metadata.runner.head? = some tool →
      Permitted world metadata (versionProcess tool))
    (checked : ExtTreeSet String × ExtTreeSet String) :
    Careful world metadata (Registry.checkBoard world installed checked b) := by
  intro s hs
  unfold Registry.checkBoard
  split
  · exact hs.halted (by simp)
  · obtain ⟨tool, htool⟩ : ∃ tool, b.metadata.runner.head? = some tool :=
      Option.isSome_iff_exists.mp (by simpa using hrunner)
    simp only [htool, ends_bind]
    unfold Registry.askVersion
    split
    · exact hs
    · rw [ends_attempt]
      have hversion := careful_start strict_status (hpermitted tool htool) s hs
      unfold Ends at hversion
      rw [command]
      split at hversion
      · next hrun =>
        rw [hrun]
        exact hversion
      · next hrun =>
        rw [hrun]
        exact ⟨hversion.1, by simp⟩

end Tasks

section Execution
variable {world : World} {metadata : MetadataCommand} {packages : List Package} {r : Registry}

theorem careful_cargo (h : Discovers world metadata packages r) (cargoCommand : CargoCommand) :
    Careful world metadata (command world (world.cargoProcess cargoCommand)) :=
  careful_start strict_status ⟨packages, r, h, .inl rfl⟩

theorem careful_buildSelected (h : Discovers world metadata packages r)
    (boardFilter : Option String) :
    Careful world metadata (r.buildSelected world boardFilter) := by
  unfold Registry.buildSelected
  dsimp only
  split
  · exact careful_fail (by simp)
  · refine Keeps.forM ?_
    intro firmware _
    refine careful_lookup_bind ?_
    intro board _
    exact (careful_println _).bind fun _ => careful_cargo h _

theorem careful_doctor (h : Discovers world metadata packages r) (boardFilter : Option String) :
    Careful world metadata (r.doctor world boardFilter) := by
  refine careful_lookup_bind ?_
  intro selected hselected
  split
  · exact careful_fail (by simp)
  · refine (careful_start strict_output ⟨packages, r, h, .inr (.inl rfl)⟩).bind ?_
    intro installed
    refine (Keeps.foldlM ?_ _).bind fun _ => careful_println _
    intro b hb
    have hvalues := Registry.mem_values_of_selected hselected b hb
    obtain ⟨id, hid⟩ := Registry.mem_boards_values.mp hvalues
    have hdeclared := ((Registry.boards_getElem?_iff h.2 id b).mp hid).1
    refine careful_checkBoard (Registry.runner_ne_nil h.2 hvalues) ?_
    intro tool htool
    exact ⟨packages, r, h, .inr (.inr ⟨b, hdeclared, tool, htool, rfl⟩)⟩

/-- A task begins with the query of the workspace, and goes on with an accepted one. -/
theorem ends_discover_bind {f : Registry → Script Unit}
    (hf : ∀ packages r, Discovers world metadata packages r → Careful world metadata (f r)) :
    Ends (Registry.discover world metadata >>= f) {} (fun _ t => Clean world metadata t)
      (Halted world metadata) := by
  have hopens : Opens world metadata [metadata.process] :=
    ⟨[], rfl, fun _ hp => absurd hp List.not_mem_nil⟩
  have hjudge : metadata.judge metadata.process.program (world.outcome [] metadata.process) =
      (metadata.exec (world.outcome [] metadata.process)).mapError .metadata := rfl
  rw [Registry.discover, ends_bind, ends_bind, ends_start, hjudge]
  cases hexec : metadata.exec (world.outcome [] metadata.process) with
  | error text =>
      constructor
      · rintro packages ⟨⟩
      · rintro e ⟨⟩
        exact ⟨⟨.nil world, hopens⟩, by simp⟩
  | ok packages =>
      have hclean : Clean world metadata { started := [metadata.process] } :=
        ⟨World.Done.concat (.nil world) (metadata.success _ _ hexec), hopens⟩
      constructor
      · rintro _ ⟨⟩
        rw [ends_lookup]
        exact ⟨fun r hr => hf packages r ⟨hexec, hr⟩ _ hclean, fun e _ => hclean.halted (by simp)⟩
      · rintro e ⟨⟩

theorem ends_execute (world : World) (metadata : MetadataCommand) (task : Task) :
    Ends (execute world metadata task) {} (fun _ t => Clean world metadata t)
      (Halted world metadata) := by
  refine ends_discover_bind ?_
  intro packages r h
  cases task with
  | build firmware => exact careful_lookup_bind fun _ _ => careful_cargo h _
  | buildAll board =>
      cases board with
      | none => exact careful_buildSelected h none
      | some name => exact careful_lookup_bind fun _ _ => careful_buildSelected h _
  | check =>
      refine (careful_cargo h _).bind fun _ => ?_
      exact (careful_cargo h _).bind fun _ => careful_cargo h _
  | doctor board => exact careful_doctor h board
  | list =>
      dsimp only [Registry.list]
      split
      · exact careful_println _
      · refine (careful_println _).bind fun _ => ?_
        refine (Keeps.forM fun _ _ => careful_println _).bind fun _ => ?_
        refine (careful_println _).bind fun _ => (careful_println _).bind fun _ => ?_
        exact Keeps.forM fun _ _ => careful_println _
  | run firmware => exact careful_lookup_bind fun _ _ => careful_cargo h _
  | test => exact careful_cargo h _
  | targets =>
      dsimp only [Registry.targets]
      split
      · exact careful_fail (by simp)
      · exact Keeps.forM fun _ _ => careful_println _

end Execution

/-- What a caller of `xtask` may rely on, also when it fails. -/
structure Exit.Honest (world : World) (metadata : MetadataCommand) (exit : Exit) : Prop where
  stops : world.Done exit.shell.started.dropLast
  succeeded : exit.code = 0 → world.Done exit.shell.started
  permitted : exit.shell.started = [] ∨ Opens world metadata exit.shell.started

theorem TaskError.exitCode_eq_one {e : TaskError} (he : e ≠ .emptyRunnerPanic) :
    e.exitCode = 1 := by
  cases e with
  | emptyRunnerPanic => exact absurd rfl he
  | metadata | registry | noFirmwareMatched | noBoards | noTargets | failedToStart
  | exitedWithStatus | nonUtf8 | missingTarget | runnerUnavailable => rfl

/-- For every command line, every workspace and every environment, `xtask` starts no
process behind one that failed, exits with 0 only if all processes it started
succeeded, starts nothing before it has read the workspace, nothing behind that but
Cargo, `rustup` and the runners of an accepted workspace, and does not panic. Standard
output and standard error are taken to be writable. -/
theorem xtask_stops_at_failure (world : World) (debug : String → String)
    (metadata : MetadataCommand) (parseFrom : List OsString → Except ℕ Task)
    (args : List OsString) :
    (main world debug metadata parseFrom args).Honest world metadata ∧
      ∀ task, parseFrom (normalizeLegacyArgs args).1 = .ok task →
        (main world debug metadata parseFrom args).code ≤ 1 := by
  unfold main
  dsimp only
  cases hparse : parseFrom (normalizeLegacyArgs args).1 with
  | error code =>
      refine ⟨⟨.nil world, fun _ => .nil world, .inl rfl⟩, ?_⟩
      intro task htask
      cases htask
  | ok task =>
      have hends := ends_execute world metadata task
      unfold Ends at hends
      split at hends
      · next hrun =>
        simp only [hrun]
        exact ⟨⟨hends.1.dropLast, fun _ => hends.1, .inr hends.2⟩, fun _ _ => Nat.zero_le 1⟩
      · next e _ hrun =>
        have hcode := TaskError.exitCode_eq_one hends.2
        simp only [hrun]
        refine ⟨⟨hends.1.1, ?_, .inr hends.1.2⟩, fun _ _ => hcode.le⟩
        intro hzero
        rw [hcode] at hzero
        cases hzero

/-- A query that parses what its process has printed. -/
def MetadataCommand.parsed (process : Process) (parse : String → Except String (List Package)) :
    MetadataCommand where
  process := process
  exec
    | .exited true _ stdout => stdout.bind parse
    | .exited false status _ => .error status
    | .notStarted error => .error error
  success := by
    intro outcome packages h
    cases outcome with
    | notStarted error => cases h
    | exited success status stdout =>
        cases success with
        | true => rfl
        | false => cases h

/-- `cargo metadata` in a workspace like that of this repository. -/
def workspaceMetadata : MetadataCommand :=
  .parsed ⟨"cargo", ["metadata", "--format-version", "1", "--no-deps"], []⟩ fun _ =>
    .ok Registry.workspacePackages

theorem workspaceMetadata_tested :
    ∃ exit, exit = main Registry.quietWorld id workspaceMetadata (fun _ => .ok .test)
        [.text "xtask", .text "test"] ∧
      exit.code = 0 ∧ exit.shell.started.map Process.program = ["cargo", "cargo"] ∧
      exit.Honest Registry.quietWorld workspaceMetadata := by
  refine ⟨_, rfl, by decide +kernel, by decide +kernel, ?_⟩
  exact (xtask_stops_at_failure Registry.quietWorld id workspaceMetadata (fun _ => .ok .test)
    [.text "xtask", .text "test"]).1

/-- A deprecated command does what the command of today does, and warns. -/
theorem deprecated_spelling_runs_alike {args args' : List OsString} (h : Modernizes args args')
    (world : World) (debug : String → String) (metadata : MetadataCommand)
    {parseFrom : List OsString → Except ℕ Task} {task : Task} (htask : parseFrom args' = .ok task) :
    ∃ command, args[1]? = some (.text command) ∧
      main world debug metadata parseFrom args =
        { main world debug metadata parseFrom args' with
          stderr := deprecationWarning command ::
            (main world debug metadata parseFrom args').stderr } := by
  obtain ⟨modern, command, hmodern, hcommand, hnormal⟩ | ⟨hnone, -⟩ :=
    normalizeLegacyArgs_cases args
  · obtain ⟨modern', -, hmodern', -⟩ | ⟨-, hsame⟩ := normalizeLegacyArgs_cases args'
    · exact absurd hmodern' h.not_modernizes
    · refine ⟨command, hcommand, ?_⟩
      rw [hmodern.right_unique h] at hnormal
      unfold main
      simp only [hnormal, hsame, htask]
      rcases execute world metadata task {} with ⟨_ | _, shell⟩ <;> rfl
  · exact absurd h (hnone args')

end EmbeddedSdk.Xtask
