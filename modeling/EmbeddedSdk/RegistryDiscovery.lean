import EmbeddedSdk.ErrorLoops
import EmbeddedSdk.XtaskRegistry

/-!
# Which packages make a registry

Boards and firmware are read in one loop and resolved in a second one, and each
loop stops at the first package that it refuses. Whether a package is refused
depends only on the names that the packages before it have taken, so acceptance is
a property of the packages as a whole.
-/
namespace EmbeddedSdk.Xtask
open Std ErrorLoops

/-- The firmware that a package declares. -/
def Package.declaredFirmware (p : Package) : Option FirmwareMetadata :=
  p.metadata.bind fun table => table.firmware.bind Except.toOption

/-- The board that a package declares. -/
def Package.declaredBoard (p : Package) : Option BoardMetadata :=
  p.metadata.bind fun table => table.board.bind Except.toOption

/-- The registered form of a declared firmware. -/
def Firmware.ofMetadata (package : String) (metadata : FirmwareMetadata) : Firmware where
  package := package
  board := metadata.board
  variant := metadata.variant
  selector := firmwareSelector metadata.board metadata.variant

/-- All boards that the packages declare. -/
def declaredBoards (packages : List Package) : List Board :=
  packages.filterMap fun p => p.declaredBoard.map (Board.mk p.name)

/-- All firmware that the packages declare. -/
def declaredFirmware (packages : List Package) : List Firmware :=
  packages.filterMap fun p => p.declaredFirmware.map (Firmware.ofMetadata p.name)

/-- Deserialisation refuses neither the board nor the firmware of the package. -/
def Package.Parses (p : Package) : Prop :=
  ∀ table, p.metadata = some table →
    (∀ e, table.board ≠ some (.error e)) ∧ ∀ e, table.firmware ≠ some (.error e)

/-- The package declares firmware or switches its host check off. -/
def Package.ExcludedFromHost (p : Package) : Prop :=
  ∃ table, p.metadata = some table ∧ (table.hostCheck = some false ∨ table.firmware.isSome)

/-- The id of the board that a package declares. -/
def Package.boardId (p : Package) : Option String := p.declaredBoard.map BoardMetadata.id

/-- The board and the variant of the firmware that a package declares. -/
def Package.firmwarePair (p : Package) : Option (String × String) :=
  p.declaredFirmware.map fun m => (m.board, m.variant)

/-- A name that can stand on either side of the slash of a selector. -/
def IsSelectorPart (s : String) : Prop := s ≠ "" ∧ '/' ∉ s.toList

theorem isSelectorPart_iff (s : String) :
    (s.isEmpty || s.toList.contains '/') = false ↔ IsSelectorPart s := by
  simp [IsSelectorPart]

theorem isSelectorPart_of_validate {p : Package} {m : BoardMetadata}
    (h : validateBoardMetadata p m = .ok ()) : IsSelectorPart m.id := by
  rw [← isSelectorPart_iff]
  unfold validateBoardMetadata at h
  split at h
  · simp at h
  · rename_i hid
    simpa using hid

/-- The slash of a selector separates the board from any variant but the default. -/
theorem splitOn_firmwareSelector {board variant : String} (hboard : IsSelectorPart board)
    (hvariant : IsSelectorPart variant) :
    (firmwareSelector board variant).toList.splitOn '/' =
      if variant = "default" then [board.toList] else [board.toList, variant.toList] := by
  unfold firmwareSelector
  split
  · exact List.splitOn_eq_singleton hboard.2
  · have hslash : (board ++ "/" ++ variant).toList = board.toList ++ '/' :: variant.toList := by
      simp
    rw [hslash, List.splitOn_append_cons_self_of_not_mem hboard.2,
      List.splitOn_eq_singleton hvariant.2]

/-- Different boards or variants never share a selector. -/
theorem firmwareSelector_inj {board variant board' variant' : String}
    (hboard : IsSelectorPart board) (hvariant : IsSelectorPart variant)
    (hboard' : IsSelectorPart board') (hvariant' : IsSelectorPart variant')
    (h : firmwareSelector board variant = firmwareSelector board' variant') :
    board = board' ∧ variant = variant' := by
  have hpieces := splitOn_firmwareSelector hboard hvariant
  rw [h, splitOn_firmwareSelector hboard' hvariant'] at hpieces
  by_cases hdefault : variant = "default"
  · by_cases hdefault' : variant' = "default"
    · rw [if_pos hdefault, if_pos hdefault', List.singleton_inj, String.toList_inj] at hpieces
      exact ⟨hpieces.symm, by rw [hdefault, hdefault']⟩
    · simp [hdefault, hdefault'] at hpieces
  · by_cases hdefault' : variant' = "default"
    · simp [hdefault, hdefault'] at hpieces
    · rw [if_neg hdefault, if_neg hdefault', List.cons.injEq, List.singleton_inj,
        String.toList_inj, String.toList_inj] at hpieces
      exact ⟨hpieces.1.symm, hpieces.2.symm⟩

namespace Discovery

/-- Adding a board either adds nothing or a new, valid board under its own id. -/
theorem addBoard_ok {d d' : Discovery} {p : Package} {value : Option (Except String BoardMetadata)}
    (h : d.addBoard p value = .ok d') :
    (value.bind Except.toOption = none ∧ d' = d) ∨
      ∃ m, value.bind Except.toOption = some m ∧ validateBoardMetadata p m = .ok () ∧
        d.boards[m.id]? = none ∧ d' = { d with boards := d.boards.insert m.id ⟨p.name, m⟩ } := by
  cases value with
  | none =>
      rw [addBoard, Except.ok.injEq] at h
      exact .inl ⟨rfl, h.symm⟩
  | some value =>
      cases value with
      | error e => simp [addBoard, parseMetadata] at h
      | ok m =>
          simp only [addBoard, parseMetadata] at h
          split at h
          · simp at h
          · rename_i hvalid
            split at h
            · simp at h
            · rename_i hnew
              rw [Except.ok.injEq] at h
              exact .inr ⟨m, rfl, hvalid, hnew, h.symm⟩

theorem addFirmware_ok {d d' : Discovery} {p : Package}
    {value : Option (Except String FirmwareMetadata)} (h : d.addFirmware p value = .ok d') :
    d'.boards = d.boards ∧ d'.firmwareMetadata =
      d.firmwareMetadata ++ ((value.bind Except.toOption).map (Prod.mk p.name)).toList ∧
      d'.hostExclusions =
        if value.isSome then d.hostExclusions.insert p.name else d.hostExclusions := by
  cases value with
  | none =>
      rw [addFirmware, Except.ok.injEq] at h
      simp [h]
  | some value =>
      cases value with
      | error e => simp [addFirmware, parseMetadata] at h
      | ok m =>
          simp only [addFirmware, parseMetadata, Except.ok.injEq] at h
          subst h
          exact ⟨rfl, rfl, rfl⟩

/-- The parts of one round of the first loop. -/
theorem add_eq_ok {d d' : Discovery} {p : Package} :
    d.add p = .ok d' ↔ (p.metadata = none ∧ d' = d) ∨
      ∃ table d₂, p.metadata = some table ∧
        (if table.hostCheck = some false then d.excludeFromHost p else d).addBoard p
          table.board = .ok d₂ ∧ d₂.addFirmware p table.firmware = .ok d' := by
  unfold add
  cases hp : p.metadata with
  | none => simp [eq_comm]
  | some table =>
      simp only [reduceCtorEq, false_and, false_or, Option.some.injEq, exists_and_left,
        exists_eq_left']
      cases hboard : (if table.hostCheck = some false then d.excludeFromHost p else d).addBoard p
          table.board with
      | error e => simp
      | ok d₂ => simp

theorem boards_hostCheck (d : Discovery) (p : Package) (hostCheck : Option Bool) :
    (if hostCheck = some false then d.excludeFromHost p else d).boards = d.boards := by
  split <;> rfl

theorem firmwareMetadata_hostCheck (d : Discovery) (p : Package) (hostCheck : Option Bool) :
    (if hostCheck = some false then d.excludeFromHost p else d).firmwareMetadata =
      d.firmwareMetadata := by
  split <;> rfl

/-- What an accepted package adds. -/
theorem add_ok {d d' : Discovery} {p : Package} (h : d.add p = .ok d') :
    d'.firmwareMetadata =
        d.firmwareMetadata ++ (p.declaredFirmware.map (Prod.mk p.name)).toList ∧
      ((p.declaredBoard = none ∧ d'.boards = d.boards) ∨
        ∃ m, p.declaredBoard = some m ∧ validateBoardMetadata p m = .ok () ∧
          d.boards[m.id]? = none ∧ d'.boards = d.boards.insert m.id ⟨p.name, m⟩) := by
  rcases add_eq_ok.mp h with ⟨hp, rfl⟩ | ⟨table, d₂, hp, hboard, hfirmware⟩
  · simp [Package.declaredFirmware, Package.declaredBoard, hp]
  · obtain ⟨hboards₂, hfirmware₂, -⟩ := addFirmware_ok hfirmware
    rw [hboards₂, hfirmware₂, Package.declaredFirmware, Package.declaredBoard, hp,
      Option.bind_some, Option.bind_some]
    rcases addBoard_ok hboard with ⟨hnone, rfl⟩ | ⟨m, hm, hvalid, hnew, rfl⟩
    · rw [firmwareMetadata_hostCheck, boards_hostCheck]
      exact ⟨rfl, .inl ⟨hnone, rfl⟩⟩
    · rw [boards_hostCheck] at hnew ⊢
      rw [firmwareMetadata_hostCheck]
      exact ⟨rfl, .inr ⟨m, hm, hvalid, hnew, rfl⟩⟩

/-- The declared boards are kept under their own ids. -/
theorem boards_spec {packages : List Package} {d : Discovery}
    (h : packages.foldlM add {} = .ok d) (id : String) (b : Board) :
    d.boards[id]? = some b ↔ b ∈ declaredBoards packages ∧ b.metadata.id = id := by
  refine foldlM_history (R := fun past d => ∀ (id : String) (b : Board), d.boards[id]? = some b ↔
    b ∈ declaredBoards past ∧ b.metadata.id = id) ?_ ?_ h id b
  · intro id b
    simp [declaredBoards]
  · intro past d p d' hd hadd id b
    rw [declaredBoards, List.filterMap_append, ← declaredBoards, List.mem_append]
    rcases (add_ok hadd).2 with ⟨hnone, hsame⟩ | ⟨m, hm, -, hnew, hinsert⟩
    · rw [hsame, hd]
      simp [hnone]
    · rw [hinsert, ExtTreeMap.getElem?_insert]
      simp only [hm, List.filterMap_cons, List.filterMap_nil, Option.map_some,
        List.mem_singleton]
      split
      · rename_i hid
        obtain rfl : m.id = id := Std.compare_eq_iff_eq.mp hid
        -- the id was new, so no earlier board has it
        have hother : ¬(b ∈ declaredBoards past ∧ b.metadata.id = m.id) := by
          rw [← hd, hnew]
          simp
        constructor
        · intro hb
          rw [Option.some.injEq] at hb
          rw [← hb]
          exact ⟨.inr rfl, rfl⟩
        · rintro ⟨hold | rfl, hbid⟩
          · exact absurd ⟨hold, hbid⟩ hother
          · rfl
      · rename_i hid
        rw [hd]
        constructor
        · rintro ⟨hold, hbid⟩
          exact ⟨.inl hold, hbid⟩
        · rintro ⟨hold | rfl, hbid⟩
          · exact ⟨hold, hbid⟩
          · exact absurd (Std.compare_eq_iff_eq.mpr hbid) hid

/-- The collected firmware is the declared firmware, in package order. -/
theorem firmwareMetadata_eq {packages : List Package} {d : Discovery}
    (h : packages.foldlM add {} = .ok d) :
    d.firmwareMetadata =
      packages.filterMap fun p => p.declaredFirmware.map (Prod.mk p.name) := by
  refine foldlM_history (R := fun past d => d.firmwareMetadata =
    past.filterMap fun p => p.declaredFirmware.map (Prod.mk p.name)) rfl ?_ h
  intro past d p d' hd hadd
  rw [(add_ok hadd).1, hd, List.filterMap_append]
  congr 1

theorem addBoard_isOk_iff (d : Discovery) (p : Package)
    (value : Option (Except String BoardMetadata)) :
    (∃ d', d.addBoard p value = .ok d') ↔ (∀ e, value ≠ some (.error e)) ∧
      ∀ m, value.bind Except.toOption = some m →
        validateBoardMetadata p m = .ok () ∧ m.id ∉ d.boards := by
  rcases value with _ | e | m
  · simp [addBoard]
  · simp [addBoard, parseMetadata]
  · simp only [addBoard, parseMetadata, Option.bind_some, Except.toOption]
    cases hvalid : validateBoardMetadata p m with
    | error e => simp [hvalid]
    | ok u =>
        have hmem : m.id ∈ d.boards ↔ d.boards[m.id]?.isSome :=
          ExtTreeMap.mem_iff_isSome_getElem?
        cases hboard : d.boards[m.id]? with
        | none => simp [hvalid, hmem, hboard]
        | some b => simp [hvalid, hmem, hboard]

theorem addFirmware_isOk_iff (d : Discovery) (p : Package)
    (value : Option (Except String FirmwareMetadata)) :
    (∃ d', d.addFirmware p value = .ok d') ↔ ∀ e, value ≠ some (.error e) := by
  rcases value with _ | e | m
  · simp [addFirmware]
  · simp [addFirmware, parseMetadata]
  · simp [addFirmware, parseMetadata]

/-- The first loop accepts a package if its metadata parses and the board in it is
valid and has a new id. -/
theorem add_isOk_iff (d : Discovery) (p : Package) :
    (∃ d', d.add p = .ok d') ↔ p.Parses ∧ ∀ m, p.declaredBoard = some m →
      validateBoardMetadata p m = .ok () ∧ m.id ∉ d.boards := by
  simp only [add_eq_ok]
  cases hp : p.metadata with
  | none => simp [Package.Parses, Package.declaredBoard, hp]
  | some table =>
      have hparses : p.Parses ↔
          (∀ e, table.board ≠ some (.error e)) ∧ ∀ e, table.firmware ≠ some (.error e) := by
        simp [Package.Parses, hp]
      have hdeclared : p.declaredBoard = table.board.bind Except.toOption := by
        rw [Package.declaredBoard, hp]
        rfl
      have hboard := addBoard_isOk_iff
        (if table.hostCheck = some false then d.excludeFromHost p else d) p table.board
      rw [boards_hostCheck, ← hdeclared] at hboard
      rw [hparses]
      constructor
      · rintro ⟨d', ⟨h, -⟩ | ⟨_, d₂, htable, hd₂, hd'⟩⟩
        · simp at h
        · cases htable
          obtain ⟨hparsed, hnew⟩ := hboard.mp ⟨d₂, hd₂⟩
          exact ⟨⟨hparsed, (addFirmware_isOk_iff d₂ p _).mp ⟨d', hd'⟩⟩, hnew⟩
      · rintro ⟨⟨hparsed, hfirmware⟩, hnew⟩
        obtain ⟨d₂, hd₂⟩ := hboard.mpr ⟨hparsed, hnew⟩
        obtain ⟨d', hd'⟩ := (addFirmware_isOk_iff d₂ p table.firmware).mpr hfirmware
        exact ⟨d', .inr ⟨table, d₂, rfl, hd₂, hd'⟩⟩

theorem mem_boards_iff {packages : List Package} {d : Discovery}
    (h : packages.foldlM add {} = .ok d) (id : String) :
    id ∈ d.boards ↔ id ∈ packages.filterMap Package.boardId := by
  rw [ExtTreeMap.mem_iff_isSome_getElem?, Option.isSome_iff_exists]
  simp only [boards_spec h, declaredBoards, Package.boardId, List.mem_filterMap,
    Option.map_eq_some_iff]
  constructor
  · rintro ⟨b, ⟨p, hp, m, hm, rfl⟩, hid⟩
    exact ⟨p, hp, m, hm, hid⟩
  · rintro ⟨p, hp, m, hm, hid⟩
    exact ⟨⟨p.name, m⟩, ⟨p, hp, m, hm, rfl⟩, hid⟩

/-- After the packages so far, acceptance depends on the ids that they have taken. -/
theorem add_isOk_iff_after {past : List Package} {d : Discovery} {p : Package}
    (h : past.foldlM add {} = .ok d) :
    (∃ d', d.add p = .ok d') ↔
      p.Parses ∧ (∀ m, p.declaredBoard = some m → validateBoardMetadata p m = .ok ()) ∧
        ∀ id, p.boardId = some id → id ∉ past.filterMap Package.boardId := by
  rw [add_isOk_iff]
  refine and_congr_right fun _ => ?_
  simp only [mem_boards_iff h, Package.boardId]
  cases p.declaredBoard with
  | none => simp
  | some m => simp

/-- The first loop comes to its end exactly when all metadata parses, all boards
are valid and no two boards share an id. -/
theorem foldlM_isOk_iff (packages : List Package) :
    (∃ d, packages.foldlM add {} = .ok d) ↔ (∀ p ∈ packages, p.Parses) ∧
      (∀ p ∈ packages, ∀ m, p.declaredBoard = some m → validateBoardMetadata p m = .ok ()) ∧
      (packages.filterMap Package.boardId).Nodup := by
  rw [foldlM_ok_iff fun past d p => add_isOk_iff_after, eachAfter_and, eachAfter_and,
    eachAfter_forall_mem, eachAfter_forall_mem, eachAfter_key]

/-- A known board has been validated, so its id can stand in a selector. -/
theorem isSelectorPart_of_mem_boards {packages : List Package} {d : Discovery}
    (h : packages.foldlM add {} = .ok d) {id : String} (hid : id ∈ d.boards) :
    IsSelectorPart id := by
  rw [mem_boards_iff h, List.mem_filterMap] at hid
  obtain ⟨p, hp, hpid⟩ := hid
  obtain ⟨m, hm, rfl⟩ := Option.map_eq_some_iff.mp hpid
  obtain ⟨-, hvalid, -⟩ := (foldlM_isOk_iff packages).mp ⟨d, h⟩
  exact isSelectorPart_of_validate (hvalid p hp m hm)

theorem forall_firmwareMetadata_iff {packages : List Package} {d : Discovery}
    (h : packages.foldlM add {} = .ok d) (P : FirmwareMetadata → Prop) :
    (∀ entry ∈ d.firmwareMetadata, P entry.2) ↔
      ∀ p ∈ packages, ∀ m, p.declaredFirmware = some m → P m := by
  simp only [firmwareMetadata_eq h, List.mem_filterMap, Option.map_eq_some_iff]
  constructor
  · intro hall p hp m hm
    exact hall (p.name, m) ⟨p, hp, m, hm, rfl⟩
  · rintro hall entry ⟨p, hp, m, hm, rfl⟩
    exact hall p hp m hm

theorem firmwarePairs_eq {packages : List Package} {d : Discovery}
    (h : packages.foldlM add {} = .ok d) :
    (d.firmwareMetadata.map fun entry => (entry.2.board, entry.2.variant)) =
      packages.filterMap Package.firmwarePair := by
  rw [firmwareMetadata_eq h, List.map_filterMap]
  congr 1
  funext p
  rw [Option.map_map]
  rfl

theorem mem_insert_if {names : ExtTreeSet String} {c : Prop} [Decidable c] (x name : String) :
    name ∈ (if c then names.insert x else names) ↔ name ∈ names ∨ x = name ∧ c := by
  split
  · rename_i hc
    rw [ExtTreeSet.mem_insert, Std.compare_eq_iff_eq, or_comm]
    simp [hc]
  · rename_i hc
    simp [hc]

/-- An accepted package adds its name if it is excluded, and no other name. -/
theorem mem_add_hostExclusions {d d' : Discovery} {p : Package} (h : d.add p = .ok d')
    (name : String) :
    name ∈ d'.hostExclusions ↔ name ∈ d.hostExclusions ∨ p.name = name ∧ p.ExcludedFromHost := by
  rcases add_eq_ok.mp h with ⟨hp, rfl⟩ | ⟨table, d₂, hp, hboard, hfirmware⟩
  · simp [Package.ExcludedFromHost, hp]
  · obtain ⟨-, -, hexclusions⟩ := addFirmware_ok hfirmware
    have hboard₂ : d₂.hostExclusions =
        if table.hostCheck = some false then d.hostExclusions.insert p.name
        else d.hostExclusions := by
      have hcheck : (if table.hostCheck = some false then d.excludeFromHost p
          else d).hostExclusions = if table.hostCheck = some false then
            d.hostExclusions.insert p.name else d.hostExclusions := by
        split <;> rfl
      rw [← hcheck]
      rcases addBoard_ok hboard with ⟨-, rfl⟩ | ⟨m, -, -, -, rfl⟩
      · rfl
      · rfl
    have hexcluded : p.ExcludedFromHost ↔
        table.hostCheck = some false ∨ table.firmware.isSome := by
      simp [Package.ExcludedFromHost, hp]
    rw [hexclusions, mem_insert_if, hboard₂, mem_insert_if, hexcluded, and_or_left, or_assoc]

/-- The host exclusions are the names of the excluded packages. -/
theorem mem_hostExclusions_iff {packages : List Package} {d : Discovery}
    (h : packages.foldlM add {} = .ok d) (name : String) :
    name ∈ d.hostExclusions ↔ ∃ p ∈ packages, p.name = name ∧ p.ExcludedFromHost := by
  refine foldlM_history (R := fun past d => ∀ name : String, name ∈ d.hostExclusions ↔
    ∃ p ∈ past, p.name = name ∧ p.ExcludedFromHost) ?_ ?_ h name
  · intro name
    simp
  · intro past d p d' hd hadd name
    rw [mem_add_hostExclusions hadd, hd]
    simp only [List.mem_append, List.mem_singleton, or_and_right, exists_or, exists_eq_left]

end Discovery

namespace Registration

variable {boards : ExtTreeMap String Board}

/-- What an accepted firmware adds. -/
theorem add_ok {g g' : Registration} {entry : String × FirmwareMetadata}
    (h : g.add boards entry = .ok g') :
    boards.contains entry.2.board = true ∧
      g.selectors[firmwareSelector entry.2.board entry.2.variant]? = none ∧
      g'.selectors = g.selectors.insert (firmwareSelector entry.2.board entry.2.variant) entry.1 ∧
      g'.firmware = g.firmware ++ [.ofMetadata entry.1 entry.2] := by
  obtain ⟨package, metadata⟩ := entry
  simp only [add] at h
  split at h
  · simp at h
  · rename_i hboard
    split at h
    · simp at h
    · split at h
      · simp at h
      · rename_i hnew
        rw [Except.ok.injEq] at h
        subst h
        exact ⟨by simpa using hboard, hnew, rfl, rfl⟩

/-- The second loop accepts firmware with a known board, a valid variant and a new
selector. -/
theorem add_isOk_iff (g : Registration) (entry : String × FirmwareMetadata) :
    (∃ g', g.add boards entry = .ok g') ↔ entry.2.board ∈ boards ∧
      IsSelectorPart entry.2.variant ∧
        firmwareSelector entry.2.board entry.2.variant ∉ g.selectors := by
  obtain ⟨package, metadata⟩ := entry
  rw [← ExtTreeMap.contains_iff_mem, ← isSelectorPart_iff]
  simp only [add]
  cases hboard : boards.contains metadata.board with
  | false => simp
  | true =>
      cases hvariant : metadata.variant.isEmpty || metadata.variant.toList.contains '/' with
      | true => simp
      | false =>
          have hmem : firmwareSelector metadata.board metadata.variant ∈ g.selectors ↔
              g.selectors[firmwareSelector metadata.board metadata.variant]?.isSome :=
            ExtTreeMap.mem_iff_isSome_getElem?
          cases hselector : g.selectors[firmwareSelector metadata.board metadata.variant]? with
          | none => simp [hmem, hselector]
          | some existing => simp [hmem, hselector]

theorem mem_selectors_iff {entries : List (String × FirmwareMetadata)} {g : Registration}
    (h : entries.foldlM (add boards) {} = .ok g) (selector : String) :
    selector ∈ g.selectors ↔
      selector ∈ entries.map fun entry => firmwareSelector entry.2.board entry.2.variant := by
  refine foldlM_history (R := fun past (g : Registration) => ∀ selector : String,
    selector ∈ g.selectors ↔ selector ∈ past.map fun entry =>
      firmwareSelector entry.2.board entry.2.variant) ?_ ?_ h selector
  · intro selector
    simp
  · intro past g entry g' hg hadd selector
    obtain ⟨-, -, hselectors, -⟩ := add_ok hadd
    rw [hselectors, ExtTreeMap.mem_insert, Std.compare_eq_iff_eq, hg, List.map_append,
      List.mem_append, List.map_singleton, List.mem_singleton, or_comm, eq_comm]

/-- The second loop comes to its end exactly when all boards are known, all
variants are valid and no two firmware share a selector. -/
theorem foldlM_isOk_iff (entries : List (String × FirmwareMetadata)) :
    (∃ g, entries.foldlM (add boards) {} = .ok g) ↔ (∀ entry ∈ entries, entry.2.board ∈ boards) ∧
      (∀ entry ∈ entries, IsSelectorPart entry.2.variant) ∧
      (entries.map fun entry => firmwareSelector entry.2.board entry.2.variant).Nodup := by
  rw [foldlM_ok_iff (A := fun past entry => entry.2.board ∈ boards ∧
    IsSelectorPart entry.2.variant ∧ firmwareSelector entry.2.board entry.2.variant ∉
      past.map fun entry => firmwareSelector entry.2.board entry.2.variant), eachAfter_and,
    eachAfter_and, eachAfter_forall_mem, eachAfter_forall_mem, eachAfter_map]
  intro past g entry hg
  rw [add_isOk_iff, mem_selectors_iff hg]

/-- On valid boards and variants, selectors are distinct if the pairs are. -/
theorem nodup_selectors_iff {entries : List (String × FirmwareMetadata)}
    (hboards : ∀ entry ∈ entries, IsSelectorPart entry.2.board)
    (hvariants : ∀ entry ∈ entries, IsSelectorPart entry.2.variant) :
    (entries.map fun entry => firmwareSelector entry.2.board entry.2.variant).Nodup ↔
      (entries.map fun entry => (entry.2.board, entry.2.variant)).Nodup := by
  have hsplit : (entries.map fun entry => firmwareSelector entry.2.board entry.2.variant) =
      (entries.map fun entry => (entry.2.board, entry.2.variant)).map
        fun pair => firmwareSelector pair.1 pair.2 := by
    rw [List.map_map]
    rfl
  rw [hsplit]
  constructor
  · exact List.Nodup.of_map _
  · intro hpairs
    refine hpairs.map_on ?_
    intro pair hpair pair' hpair' heq
    obtain ⟨entry, hentry, rfl⟩ := List.mem_map.mp hpair
    obtain ⟨entry', hentry', rfl⟩ := List.mem_map.mp hpair'
    obtain ⟨hboard, hvariant⟩ := firmwareSelector_inj (hboards entry hentry)
      (hvariants entry hentry) (hboards entry' hentry') (hvariants entry' hentry') heq
    exact Prod.ext hboard hvariant

/-- The registered firmware is the declared firmware. -/
theorem firmware_eq {entries : List (String × FirmwareMetadata)} {g : Registration}
    (h : entries.foldlM (add boards) {} = .ok g) :
    g.firmware = entries.map fun entry => .ofMetadata entry.1 entry.2 := by
  refine foldlM_history (R := fun past (g : Registration) =>
    g.firmware = past.map fun entry => .ofMetadata entry.1 entry.2) rfl ?_ h
  intro past g entry g' hg hadd
  obtain ⟨-, -, -, hfirmware⟩ := add_ok hadd
  rw [hfirmware, hg, List.map_append, List.map_singleton]

end Registration

/-- The conditions on boards and firmware under which packages make a registry. -/
structure WellDeclared (packages : List Package) : Prop where
  boards_valid : ∀ p ∈ packages, ∀ m, p.declaredBoard = some m →
    validateBoardMetadata p m = .ok ()
  ids_distinct : (packages.filterMap Package.boardId).Nodup
  boards_declared : ∀ p ∈ packages, ∀ m, p.declaredFirmware = some m →
    m.board ∈ packages.filterMap Package.boardId
  variants_valid : ∀ p ∈ packages, ∀ m, p.declaredFirmware = some m →
    m.variant ≠ "" ∧ '/' ∉ m.variant.toList
  pairs_distinct : (packages.filterMap Package.firmwarePair).Nodup

namespace Registry

theorem fromPackages_isOk_iff_loops (packages : List Package) :
    (∃ r, fromPackages packages = .ok r) ↔ ∃ d, packages.foldlM Discovery.add {} = .ok d ∧
      ∃ g, d.firmwareMetadata.foldlM (Registration.add d.boards) {} = .ok g := by
  unfold fromPackages
  cases packages.foldlM Discovery.add {} with
  | error e => simp
  | ok d =>
      cases hg : d.firmwareMetadata.foldlM (Registration.add d.boards) {} with
      | error e => simp [hg]
      | ok g => simp [hg]

/-- After the first loop, the second one comes to its end exactly when the firmware
is well declared. -/
theorem registration_isOk_iff {packages : List Package} {d : Discovery}
    (h : packages.foldlM Discovery.add {} = .ok d) :
    (∃ g, d.firmwareMetadata.foldlM (Registration.add d.boards) {} = .ok g) ↔
      WellDeclared packages := by
  obtain ⟨-, hvalid, hids⟩ := (Discovery.foldlM_isOk_iff packages).mp ⟨d, h⟩
  have hdeclares : (∀ entry ∈ d.firmwareMetadata, entry.2.board ∈ d.boards) ↔
      ∀ p ∈ packages, ∀ m, p.declaredFirmware = some m →
        m.board ∈ packages.filterMap Package.boardId := by
    simp only [Discovery.mem_boards_iff h]
    exact Discovery.forall_firmwareMetadata_iff h fun m =>
      m.board ∈ packages.filterMap Package.boardId
  have hvariant := Discovery.forall_firmwareMetadata_iff h fun m => IsSelectorPart m.variant
  have hselectors (hboards : ∀ entry ∈ d.firmwareMetadata, entry.2.board ∈ d.boards) :=
    Registration.nodup_selectors_iff fun entry hentry =>
      Discovery.isSelectorPart_of_mem_boards h (hboards entry hentry)
  rw [Registration.foldlM_isOk_iff]
  constructor
  · rintro ⟨hboards, hvariants, hnodup⟩
    refine ⟨hvalid, hids, hdeclares.mp hboards, hvariant.mp hvariants, ?_⟩
    rw [← Discovery.firmwarePairs_eq h, ← hselectors hboards hvariants]
    exact hnodup
  · intro hdeclared
    have hboards := hdeclares.mpr hdeclared.boards_declared
    have hvariants := hvariant.mpr hdeclared.variants_valid
    refine ⟨hboards, hvariants, ?_⟩
    rw [hselectors hboards hvariants, Discovery.firmwarePairs_eq h]
    exact hdeclared.pairs_distinct

/-- What `fromPackages` accepts. -/
theorem fromPackages_isOk_iff (packages : List Package) :
    (∃ r, fromPackages packages = .ok r) ↔
      (∀ p ∈ packages, p.Parses) ∧ WellDeclared packages := by
  rw [fromPackages_isOk_iff_loops]
  constructor
  · rintro ⟨d, hd, hg⟩
    exact ⟨((Discovery.foldlM_isOk_iff packages).mp ⟨d, hd⟩).1, (registration_isOk_iff hd).mp hg⟩
  · rintro ⟨hparses, hdeclared⟩
    obtain ⟨d, hd⟩ := (Discovery.foldlM_isOk_iff packages).mpr
      ⟨hparses, hdeclared.boards_valid, hdeclared.ids_distinct⟩
    exact ⟨d, hd, (registration_isOk_iff hd).mpr hdeclared⟩

/-- Packages whose metadata parses make a registry exactly when their boards and
firmware are well declared. Comparing selectors finds the conflicts between pairs
of board and variant and no others, because valid pairs never share a selector. -/
theorem conflicts_are_pair_conflicts {packages : List Package}
    (hparses : ∀ p ∈ packages, p.Parses) :
    ((∃ r, fromPackages packages = .ok r) ↔ WellDeclared packages) ∧
      ∀ board variant board' variant', IsSelectorPart board → IsSelectorPart variant →
        IsSelectorPart board' → IsSelectorPart variant' →
        firmwareSelector board variant = firmwareSelector board' variant' →
          board = board' ∧ variant = variant' := by
  refine ⟨?_, fun _ _ _ _ => firmwareSelector_inj⟩
  rw [fromPackages_isOk_iff]
  exact ⟨And.right, fun h => ⟨hparses, h⟩⟩

/-- The packages of this repository that declare a board or a firmware. -/
def workspacePackages : List Package :=
  [⟨"embedded-sdk-board-xiao-esp32c6", some { board := some (.ok ⟨"xiao-esp32c6",
      "riscv32imac-unknown-none-elf", ["espflash", "flash", "--monitor"]⟩) }⟩,
    ⟨"xiao-esp32c6-firmware", some { firmware := some (.ok ⟨"xiao-esp32c6", "default"⟩) }⟩,
    ⟨"xiao-esp32c6-beacon", some { firmware := some (.ok ⟨"xiao-esp32c6", "beacon"⟩) }⟩,
    ⟨"xiao-esp32c6-beacon-scanner",
      some { firmware := some (.ok ⟨"xiao-esp32c6", "beacon-scanner"⟩) }⟩]

theorem workspacePackages_isOk : ∃ r, fromPackages workspacePackages = .ok r := by
  have hok : (fromPackages workspacePackages).isOk = true := by decide +kernel
  cases hr : fromPackages workspacePackages with
  | error e =>
      rw [hr] at hok
      cases hok
  | ok r => exact ⟨r, rfl⟩

theorem workspacePackages_wellDeclared :
    (∀ p ∈ workspacePackages, p.Parses) ∧ WellDeclared workspacePackages := by
  have hparses : ∀ p ∈ workspacePackages, p.Parses := by
    simp [workspacePackages, Package.Parses]
  exact ⟨hparses, (conflicts_are_pair_conflicts hparses).1.mp workspacePackages_isOk⟩

end Registry

end EmbeddedSdk.Xtask
