import EmbeddedSdk.FirmwareSelectors
import EmbeddedSdk.StoppingLoops

/-!
# The tasks of `xtask`

A task looks things up in the registry, prints lines and starts processes. How a
process ends is up to the environment, which may take the processes before it into
account. Every task stops at the first error. Standard output takes every line: the
panic of `println!` where it does not is left out.
-/
namespace EmbeddedSdk.Xtask
open StoppingLoops Action Std

structure Process where
  program : String
  args : List String
  environment : List (String × String) := []
  deriving DecidableEq

/-- How a process ends. The output is text, or refused with the text of an error. -/
inductive Outcome
  | notStarted (error : String)
  | exited (success : Bool) (status : String) (stdout : Except String String)

/-- Why a task fails. The last case is the panic of indexing an empty runner. -/
inductive TaskError
  | metadata (error : String)
  | registry (error : RegistryError)
  | noFirmwareMatched
  | noBoards
  | noTargets
  | failedToStart (program error : String)
  | exitedWithStatus (program status : String)
  | nonUtf8 (error : String)
  | missingTarget (target : String)
  | runnerUnavailable (tool : String)
  | emptyRunnerPanic
  deriving DecidableEq

def TaskError.message (debug : String → String) : TaskError → String
  | metadata error => "failed to read Cargo workspace metadata: " ++ error
  | registry error => error.message debug
  | noFirmwareMatched => "no registered firmware matched the requested board"
  | noBoards => "no boards are registered"
  | noTargets => "no board targets are registered"
  | failedToStart program error => "failed to start " ++ program ++ ": " ++ error
  | exitedWithStatus program status => program ++ " exited with status " ++ status
  | nonUtf8 error => "command returned non-UTF-8: " ++ error
  | missingTarget target =>
      "missing Rust target " ++ target ++ "; run `rustup target add " ++ target ++ "`"
  | runnerUnavailable tool => "runner " ++ tool ++ " is unavailable"
  | emptyRunnerPanic => "index out of bounds: the len is 0 but the index is 0"

/-- What a task has done: the processes that it has started and the lines that it
has printed. -/
structure Shell where
  started : List Process := []
  printed : List String := []

/-- The environment: how processes end and what the variable `CARGO` holds. -/
structure World where
  outcome : List Process → Process → Outcome
  cargo : Option String

abbrev Script (α : Type) : Type := Action Shell TaskError α

def println (line : String) : Script Unit :=
  modify fun s => { s with printed := s.printed ++ [line] }

/-- A lookup in the registry. -/
def lookup {α : Type} (result : Except RegistryError α) : Script α :=
  ofResult (result.mapError .registry)

/-- How `status` judges the end of a process. -/
def Outcome.status (program : String) : Outcome → Except TaskError Unit
  | .notStarted error => .error (.failedToStart program error)
  | .exited true _ _ => .ok ()
  | .exited false status _ => .error (.exitedWithStatus program status)

/-- What `output` reads from a process. -/
def Outcome.output (program : String) : Outcome → Except TaskError String
  | .notStarted error => .error (.failedToStart program error)
  | .exited true _ stdout => stdout.mapError .nonUtf8
  | .exited false status _ => .error (.exitedWithStatus program status)

/-- Starts a process and reads the result off its end. -/
def start {α : Type} (world : World) (judge : String → Outcome → Except TaskError α)
    (process : Process) : Script α := fun s =>
  (judge process.program (world.outcome s.started process),
    { s with started := s.started ++ [process] })

def command (world : World) (process : Process) : Script Unit := start world Outcome.status process

def output (world : World) (process : Process) : Script String := start world Outcome.output process

/-- The process behind a call of `cargo`. -/
def World.cargoProcess (world : World) (command : CargoCommand) : Process :=
  ⟨world.cargo.getD "cargo", command.args, command.environment⟩

def cargo (world : World) (args : List String) : Script Unit :=
  command world (world.cargoProcess ⟨args, []⟩)

namespace Registry

def buildScript (world : World) (r : Registry) (selector : String) : Script Unit := do
  let cargoCommand ← lookup (r.build selector)
  command world (world.cargoProcess cargoCommand)

def runScript (world : World) (r : Registry) (selector : String) : Script Unit := do
  let cargoCommand ← lookup (r.run selector)
  command world (world.cargoProcess cargoCommand)

/-- `build_all` behind the lookup of the board. -/
def buildSelected (world : World) (r : Registry) (boardFilter : Option String) :
    Script Unit :=
  let selected := r.firmwareList.filter fun firmware =>
    boardFilter.all fun board => firmware.board == board
  if selected.isEmpty then
    fail .noFirmwareMatched
  else
    selected.forM fun firmware => do
      let board ← lookup (r.board firmware.board)
      println ("Building " ++ firmware.selector ++ " (" ++ firmware.package ++ ")")
      command world (world.cargoProcess (buildFirmware firmware board))

def buildAll (world : World) (r : Registry) : Option String → Script Unit
  | none => r.buildSelected world none
  | some board => do
      let board ← lookup (r.board board)
      r.buildSelected world (some board.metadata.id)

/-- `add_exclusions`: two arguments for every package, in the order of the set. -/
def exclusionArgs (r : Registry) : List String :=
  r.hostExclusions.toList.flatMap fun package => ["--exclude", package]

def hostTests (world : World) (r : Registry) : Script Unit :=
  cargo world (["test", "--workspace"] ++ r.exclusionArgs)

def check (world : World) (r : Registry) : Script Unit := do
  cargo world ["fmt", "--all", "--check"]
  cargo world (["clippy", "--workspace"] ++ r.exclusionArgs ++
    ["--all-targets", "--", "-D", "warnings"])
  r.hostTests world

end Registry

/-- Drops the carriage return in front of a line feed. -/
def stripCarriageReturn (line : List Char) : List Char :=
  if line.getLast? = some '\r' then line.dropLast else line

/-- `str::lines`: the text is split behind its line feeds, and what is left behind the
last one counts only if it is not empty. -/
def lines (text : String) : List String :=
  let pieces := text.toList.splitOn '\n'
  (pieces.dropLast.map stripCarriageReturn ++
    pieces.getLast?.toList.filter fun rest => !rest.isEmpty).map String.ofList

def rustupProcess : Process := ⟨"rustup", ["target", "list", "--installed"], []⟩

def versionProcess (tool : String) : Process := ⟨tool, ["--version"], []⟩

namespace Registry

/-- The boards that `doctor` looks at. -/
def selectedBoards (r : Registry) : Option String → Except RegistryError (List Board)
  | some board => (r.board board).map fun board => [board]
  | none => .ok r.boards.values

/-- Asks a tool for its version unless it was asked before. -/
def askVersion (world : World) (tools : ExtTreeSet String) (tool : String) :
    Script (Except TaskError Unit) :=
  if tools.contains tool then pure (.ok ())
  else attempt (command world (versionProcess tool))

/-- The body of the loop of `doctor`, with the targets and tools checked so far. -/
def checkBoard (world : World) (installed : String)
    (checked : ExtTreeSet String × ExtTreeSet String) (board : Board) :
    Script (ExtTreeSet String × ExtTreeSet String) :=
  if !checked.1.contains board.metadata.target &&
      !(lines installed).contains board.metadata.target then
    fail (.missingTarget board.metadata.target)
  else
    match board.metadata.runner.head? with
    | none => fail .emptyRunnerPanic
    | some tool => do
        let version ← askVersion world checked.2 tool
        if version.isOk then
          println (board.metadata.id ++ ": target=" ++ board.metadata.target ++ ", runner=" ++
            " ".intercalate board.metadata.runner)
          pure (checked.1.insert board.metadata.target, checked.2.insert tool)
        else fail (.runnerUnavailable tool)

def doctor (world : World) (r : Registry) (boardFilter : Option String) : Script Unit := do
  let selected ← lookup (r.selectedBoards boardFilter)
  if selected.isEmpty then
    fail .noBoards
  else
    let installed ← output world rustupProcess
    let _ ← selected.foldlM (checkBoard world installed) (∅, ∅)
    println "Development environment is ready"

def targetSet (r : Registry) : ExtTreeSet String :=
  ExtTreeSet.ofList (r.boards.values.map fun board => board.metadata.target)

def targets (r : Registry) : Script Unit :=
  if r.targetSet.isEmpty then fail .noTargets
  else r.targetSet.toList.forM println

/-- A column of `list`. -/
def column (width : ℕ) (text : String) : String :=
  String.ofList (text.toList.rightpad width ' ')

def list (r : Registry) : Script Unit :=
  if r.boards.isEmpty then println "No boards are registered."
  else do
    println "Boards:"
    r.boards.values.forM fun board =>
      println ("  " ++ column 24 board.metadata.id ++ " " ++ column 32 board.metadata.target ++
        " " ++ board.package)
    println ""
    println "Firmware:"
    r.firmwareList.forM fun firmware =>
      println ("  " ++ column 32 firmware.selector ++ " " ++ column 20 firmware.variant ++
        " " ++ firmware.package)

end Registry

/-- The query of `MetadataCommand`: the process that it starts, and how `exec` reads the
packages of the workspace off the end of that process, or fails with a text. A process
that did not succeed is never read as packages. -/
structure MetadataCommand where
  process : Process
  exec : Outcome → Except String (List Package)
  success : ∀ outcome packages, exec outcome = .ok packages →
    outcome.status process.program = .ok ()

def MetadataCommand.judge (metadata : MetadataCommand) (_program : String) (outcome : Outcome) :
    Except TaskError (List Package) :=
  (metadata.exec outcome).mapError .metadata

def Registry.discover (world : World) (metadata : MetadataCommand) : Script Registry := do
  let packages ← start world metadata.judge metadata.process
  lookup (fromPackages packages)

/-- The subcommands. -/
inductive Task
  | build (firmware : String)
  | buildAll (board : Option String)
  | check
  | doctor (board : Option String)
  | list
  | run (firmware : String)
  | test
  | targets

def execute (world : World) (metadata : MetadataCommand) (task : Task) : Script Unit := do
  let registry ← Registry.discover world metadata
  match task with
  | .check => registry.check world
  | .test => registry.hostTests world
  | .list => registry.list
  | .build firmware => registry.buildScript world firmware
  | .buildAll board => registry.buildAll world board
  | .doctor board => registry.doctor world board
  | .run firmware => registry.runScript world firmware
  | .targets => registry.targets

@[simp] theorem ends_println {line : String} {s : Shell} {P : Unit → Shell → Prop}
    {Q : TaskError → Shell → Prop} :
    Ends (println line) s P Q ↔ P () { s with printed := s.printed ++ [line] } := Iff.rfl

theorem ends_lookup {α : Type} {result : Except RegistryError α} {s : Shell}
    {P : α → Shell → Prop} {Q : TaskError → Shell → Prop} :
    Ends (lookup result) s P Q ↔
      (∀ a, result = .ok a → P a s) ∧ ∀ e, result = .error e → Q (.registry e) s := by
  rw [lookup, ends_ofResult]
  cases result with
  | ok a => simp [Except.mapError]
  | error e => simp [Except.mapError]

theorem ends_start {α : Type} {world : World} {judge : String → Outcome → Except TaskError α}
    {process : Process} {s : Shell} {P : α → Shell → Prop} {Q : TaskError → Shell → Prop} :
    Ends (start world judge process) s P Q ↔
      (∀ a, judge process.program (world.outcome s.started process) = .ok a →
        P a { s with started := s.started ++ [process] }) ∧
      ∀ e, judge process.program (world.outcome s.started process) = .error e →
        Q e { s with started := s.started ++ [process] } := by
  unfold Ends start
  cases judge process.program (world.outcome s.started process) with
  | ok a => simp
  | error e => simp

/-- The process would succeed after the given ones. -/
def World.Succeeds (world : World) (before : List Process) (process : Process) : Prop :=
  (world.outcome before process).status process.program = .ok ()

/-- The processes succeed one after the other. -/
def World.Done (world : World) (plan : List Process) : Prop :=
  ∀ before process behind, plan = before ++ process :: behind → world.Succeeds before process

theorem World.Done.nil (world : World) : world.Done [] := by
  intro before process behind h
  simp at h

theorem World.Done.concat {world : World} {plan : List Process} (h : world.Done plan)
    {process : Process} (hlast : world.Succeeds plan process) :
    world.Done (plan ++ [process]) := by
  intro before q behind hsplit
  rcases List.eq_nil_or_concat' behind with rfl | ⟨init, last, rfl⟩
  · obtain ⟨hplan, hq⟩ := List.append_inj' hsplit rfl
    rw [← hplan, ← (List.cons.inj hq).1]
    exact hlast
  · rw [← List.cons_append, ← List.append_assoc] at hsplit
    exact h before q init (List.append_inj' hsplit rfl).1

/-- A task has started all processes of a plan, and all of them succeeded. -/
def World.Completes (world : World) (plan : List Process) (s : Shell) : Prop :=
  s.started = plan ∧ world.Done plan

/-- A task has started the processes of a plan up to the first that failed. -/
def World.Stops (world : World) (plan : List Process) (e : TaskError) (s : Shell) : Prop :=
  ∃ done process rest, plan = done ++ process :: rest ∧ s.started = done ++ [process] ∧
    world.Done done ∧ (world.outcome done process).status process.program = .error e

end EmbeddedSdk.Xtask
