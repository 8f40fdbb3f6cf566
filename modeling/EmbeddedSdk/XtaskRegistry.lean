import Mathlib.Data.List.Sort

/-!
# The board and firmware registry of `xtask`

Boards and firmware are declared in the metadata of Cargo packages. Discovery
reads all packages, then resolves every firmware against the boards and sorts
the firmware by selector. Deserialisation is third-party code, so a package
comes with its outcome.
-/
namespace EmbeddedSdk.Xtask
open Std

structure BoardMetadata where
  id : String
  target : String
  runner : List String
  deriving DecidableEq

structure FirmwareMetadata where
  board : String
  variant : String
  deriving DecidableEq

/-- The `embedded-sdk` table of a package. The board and firmware metadata are
either absent, or deserialised, or refused with the text of the error. -/
structure Namespace where
  hostCheck : Option Bool := none
  board : Option (Except String BoardMetadata) := none
  firmware : Option (Except String FirmwareMetadata) := none

structure Package where
  name : String
  metadata : Option Namespace := none

structure Board where
  package : String
  metadata : BoardMetadata
  deriving DecidableEq

structure Firmware where
  package : String
  board : String
  variant : String
  selector : String
  deriving DecidableEq

/-- Why the registry refuses its packages or a lookup. -/
inductive RegistryError
  | invalidMetadata (kind package error : String)
  | invalidBoardId (package id : String)
  | emptyTarget (package : String)
  | emptyRunner (package : String)
  | runnerWhitespace (package : String)
  | duplicateBoard (id existing package : String)
  | unknownBoardReference (package board : String)
  | invalidVariant (package variant : String)
  | duplicateSelector (selector existing package : String)
  | unknownBoard (idOrPackage : String)
  | unknownFirmware (selectorOrPackage : String)
  deriving DecidableEq

/-- The text of an error. `debug` is the quoted form that Rust's `?` format gives
to a string. -/
def RegistryError.message (debug : String → String) : RegistryError → String
  | invalidMetadata kind package error =>
      "invalid " ++ kind ++ " metadata in package " ++ package ++ ": " ++ error
  | invalidBoardId package id => "board package " ++ package ++ " has invalid id " ++ debug id
  | emptyTarget package => "board package " ++ package ++ " has an empty target"
  | emptyRunner package =>
      "board package " ++ package ++ " must declare a non-empty runner command"
  | runnerWhitespace package =>
      "board package " ++ package ++ " runner components cannot contain whitespace"
  | duplicateBoard id existing package =>
      "board id " ++ debug id ++ " is declared by both " ++ existing ++ " and " ++ package
  | unknownBoardReference package board =>
      "firmware package " ++ package ++ " references unknown board " ++ debug board
  | invalidVariant package variant =>
      "firmware package " ++ package ++ " has invalid variant " ++ debug variant
  | duplicateSelector selector existing package =>
      "firmware selector " ++ debug selector ++ " is declared by both " ++ existing ++ " and " ++
        package
  | unknownBoard idOrPackage =>
      "unknown board " ++ debug idOrPackage ++
        "; run `cargo xtask list` to see registered boards"
  | unknownFirmware selectorOrPackage =>
      "unknown firmware " ++ debug selectorOrPackage ++
        "; run `cargo xtask list` to see registered firmware"

/-- The Unicode property `White_Space`, as Rust tests it. -/
def isWhitespace (c : Char) : Bool :=
  let n := c.toNat
  (9 ≤ n && n ≤ 13) || n == 32 || n == 0x85 || n == 0xa0 || n == 0x1680 ||
    (0x2000 ≤ n && n ≤ 0x200a) || n == 0x2028 || n == 0x2029 || n == 0x202f || n == 0x205f ||
    n == 0x3000

def parseMetadata {α : Type} (package : Package) (kind : String) :
    Except String α → Except RegistryError α
  | .ok metadata => .ok metadata
  | .error error => .error (.invalidMetadata kind package.name error)

def validateBoardMetadata (package : Package) (metadata : BoardMetadata) :
    Except RegistryError Unit :=
  if metadata.id.isEmpty || metadata.id.toList.contains '/' then
    .error (.invalidBoardId package.name metadata.id)
  else if metadata.target.isEmpty then .error (.emptyTarget package.name)
  else if metadata.runner.isEmpty || metadata.runner.any String.isEmpty then
    .error (.emptyRunner package.name)
  else if metadata.runner.any fun component => component.toList.any isWhitespace then
    .error (.runnerWhitespace package.name)
  else .ok ()

def firmwareSelector (board variant : String) : String :=
  if variant = "default" then board else board ++ "/" ++ variant

/-- What the first loop of `from_packages` has collected. -/
structure Discovery where
  boards : ExtTreeMap String Board := ∅
  firmwareMetadata : List (String × FirmwareMetadata) := []
  hostExclusions : ExtTreeSet String := ∅

namespace Discovery

def excludeFromHost (d : Discovery) (package : Package) : Discovery :=
  { d with hostExclusions := d.hostExclusions.insert package.name }

def addBoard (d : Discovery) (package : Package) :
    Option (Except String BoardMetadata) → Except RegistryError Discovery
  | none => .ok d
  | some value =>
      match parseMetadata package "board" value with
      | .error error => .error error
      | .ok metadata =>
          match validateBoardMetadata package metadata with
          | .error error => .error error
          | .ok () =>
              match d.boards[metadata.id]? with
              | some existing =>
                  .error (.duplicateBoard metadata.id existing.package package.name)
              | none =>
                  .ok { d with boards := d.boards.insert metadata.id ⟨package.name, metadata⟩ }

def addFirmware (d : Discovery) (package : Package) :
    Option (Except String FirmwareMetadata) → Except RegistryError Discovery
  | none => .ok d
  | some value =>
      match parseMetadata package "firmware" value with
      | .error error => .error error
      | .ok metadata =>
          .ok { d.excludeFromHost package with
            firmwareMetadata := d.firmwareMetadata ++ [(package.name, metadata)] }

/-- The body of the first loop. -/
def add (d : Discovery) (package : Package) : Except RegistryError Discovery :=
  match package.metadata with
  | none => .ok d
  | some table =>
      let d := if table.hostCheck = some false then d.excludeFromHost package else d
      match d.addBoard package table.board with
      | .error error => .error error
      | .ok d => d.addFirmware package table.firmware

end Discovery

/-- What the second loop of `from_packages` has collected. -/
structure Registration where
  selectors : ExtTreeMap String String := ∅
  firmware : List Firmware := []

/-- The body of the second loop. -/
def Registration.add (boards : ExtTreeMap String Board) (g : Registration)
    (entry : String × FirmwareMetadata) : Except RegistryError Registration :=
  let (package, metadata) := entry
  if !boards.contains metadata.board then
    .error (.unknownBoardReference package metadata.board)
  else if metadata.variant.isEmpty || metadata.variant.toList.contains '/' then
    .error (.invalidVariant package metadata.variant)
  else
    let selector := firmwareSelector metadata.board metadata.variant
    match g.selectors[selector]? with
    | some existing => .error (.duplicateSelector selector existing package)
    | none =>
        .ok ⟨g.selectors.insert selector package,
          g.firmware ++ [⟨package, metadata.board, metadata.variant, selector⟩]⟩

structure Registry where
  boards : ExtTreeMap String Board
  firmwareList : List Firmware
  hostExclusions : ExtTreeSet String

/-- The command line and the environment that `cargo` is started with. -/
structure CargoCommand where
  args : List String
  environment : List (String × String) := []
  deriving DecidableEq

def cargoRunnerVariable (target : String) : String :=
  "CARGO_TARGET_" ++
    String.ofList (target.toList.map fun c => if c = '-' then '_' else c.toUpper) ++ "_RUNNER"

def buildFirmware (firmware : Firmware) (board : Board) : CargoCommand where
  args := ["build", "-p", firmware.package, "--target", board.metadata.target, "--release"]

def runFirmware (firmware : Firmware) (board : Board) : CargoCommand where
  args := ["run", "-p", firmware.package, "--target", board.metadata.target, "--release"]
  environment := [(cargoRunnerVariable board.metadata.target, " ".intercalate board.metadata.runner)]

namespace Registry

def fromPackages (packages : List Package) : Except RegistryError Registry :=
  match packages.foldlM Discovery.add {} with
  | .error error => .error error
  | .ok d =>
      match d.firmwareMetadata.foldlM (Registration.add d.boards) {} with
      | .error error => .error error
      | .ok g =>
          .ok {
            boards := d.boards
            firmwareList := g.firmware.insertionSort fun left right =>
              left.selector ≤ right.selector
            hostExclusions := d.hostExclusions }

def board (r : Registry) (idOrPackage : String) : Except RegistryError Board :=
  match r.boards[idOrPackage]?.or
      (r.boards.values.find? fun board => board.package = idOrPackage) with
  | some board => .ok board
  | none => .error (.unknownBoard idOrPackage)

def firmware (r : Registry) (selectorOrPackage : String) : Except RegistryError Firmware :=
  match r.firmwareList.find? fun firmware =>
      firmware.selector = selectorOrPackage || firmware.package = selectorOrPackage with
  | some firmware => .ok firmware
  | none => .error (.unknownFirmware selectorOrPackage)

/-- Looks up a firmware and its board and hands both to a command. -/
def withFirmware (r : Registry) (selector : String) (command : Firmware → Board → CargoCommand) :
    Except RegistryError CargoCommand :=
  match r.firmware selector with
  | .error error => .error error
  | .ok firmware =>
      match r.board firmware.board with
      | .error error => .error error
      | .ok board => .ok (command firmware board)

def build (r : Registry) (selector : String) : Except RegistryError CargoCommand :=
  r.withFirmware selector buildFirmware

def run (r : Registry) (selector : String) : Except RegistryError CargoCommand :=
  r.withFirmware selector runFirmware

end Registry

end EmbeddedSdk.Xtask
