import EmbeddedSdk.RegistryDiscovery

/-!
# What a registry contains

A registry is determined by the set of packages that it was read from: its boards
are kept under their ids, its firmware is in strict order of the selectors, and its
host exclusions are a set. The order of the packages does not matter.
-/
namespace EmbeddedSdk.Xtask
open Std

namespace Registry

theorem fromPackages_ok {packages : List Package} {r : Registry}
    (h : fromPackages packages = .ok r) :
    ∃ d g, packages.foldlM Discovery.add {} = .ok d ∧
      d.firmwareMetadata.foldlM (Registration.add d.boards) {} = .ok g ∧ r.boards = d.boards ∧
      r.hostExclusions = d.hostExclusions ∧
      r.firmwareList = g.firmware.insertionSort fun left right =>
        left.selector ≤ right.selector := by
  unfold fromPackages at h
  split at h
  · simp at h
  · rename_i d hd
    split at h
    · simp at h
    · rename_i g hg
      rw [Except.ok.injEq] at h
      subst h
      exact ⟨d, g, hd, hg, rfl, rfl, rfl⟩

/-- What a successful discovery has found. -/
structure Discovered (packages : List Package) (r : Registry) : Prop where
  declared : ∀ f, f ∈ r.firmwareList ↔ f ∈ declaredFirmware packages
  sorted : r.firmwareList.Pairwise fun f f' => f.selector < f'.selector
  boards : ∀ f ∈ r.firmwareList, ∃ b, r.boards[f.board]? = some b ∧ b.metadata.id = f.board

instance : Std.Total (fun left right : Firmware => left.selector ≤ right.selector) :=
  ⟨fun left right => String.le_total left.selector right.selector⟩

instance : IsTrans Firmware (fun left right => left.selector ≤ right.selector) :=
  ⟨fun _ _ _ h h' => String.le_trans h h'⟩

/-- Sorting firmware with distinct selectors puts it into strict order. -/
theorem insertionSort_strict {firmware : List Firmware}
    (h : firmware.Pairwise fun f f' => f.selector ≠ f'.selector) :
    (firmware.insertionSort fun left right => left.selector ≤ right.selector).Pairwise
      fun f f' => f.selector < f'.selector := by
  have hperm := firmware.perm_insertionSort fun left right => left.selector ≤ right.selector
  have hle := firmware.pairwise_insertionSort fun left right => left.selector ≤ right.selector
  have hne := (hperm.pairwise_iff fun hab => Ne.symm hab).mpr h
  exact hle.imp₂ (fun _ _ hab hab' => Std.lt_of_le_of_ne hab hab') hne

theorem registered_eq_declared {packages : List Package} {d : Discovery} {g : Registration}
    (hd : packages.foldlM Discovery.add {} = .ok d)
    (hg : d.firmwareMetadata.foldlM (Registration.add d.boards) {} = .ok g) :
    g.firmware = declaredFirmware packages := by
  rw [Registration.firmware_eq hg, Discovery.firmwareMetadata_eq hd, List.map_filterMap,
    declaredFirmware]
  congr 1
  funext p
  rw [Option.map_map]
  rfl

theorem discovered {packages : List Package} {r : Registry}
    (h : fromPackages packages = .ok r) : Discovered packages r := by
  obtain ⟨d, g, hd, hg, hboards, -, hlist⟩ := fromPackages_ok h
  obtain ⟨hknown, -, hnodup⟩ := (Registration.foldlM_isOk_iff _).mp ⟨g, hg⟩
  have hfirmware := Registration.firmware_eq hg
  have hmem : ∀ f, f ∈ r.firmwareList ↔ f ∈ g.firmware := by
    intro f
    rw [hlist]
    exact (List.perm_insertionSort _ _).mem_iff
  constructor
  · intro f
    rw [hmem, registered_eq_declared hd hg]
  · rw [hlist]
    apply insertionSort_strict
    rw [hfirmware, List.pairwise_map]
    exact List.pairwise_map.mp hnodup
  · intro f hf
    rw [hmem, hfirmware, List.mem_map] at hf
    obtain ⟨entry, hentry, rfl⟩ := hf
    have hboard := hknown entry hentry
    rw [ExtTreeMap.mem_iff_isSome_getElem?, Option.isSome_iff_exists] at hboard
    obtain ⟨b, hb⟩ := hboard
    rw [hboards]
    exact ⟨b, hb, ((Discovery.boards_spec hd _ _).mp hb).2⟩

end Registry

theorem WellDeclared.of_perm {packages packages' : List Package} (h : packages.Perm packages')
    (hdeclared : WellDeclared packages) : WellDeclared packages' := by
  have hids := h.filterMap Package.boardId
  constructor
  · intro p hp
    exact hdeclared.boards_valid p (h.mem_iff.mpr hp)
  · exact hids.nodup_iff.mp hdeclared.ids_distinct
  · intro p hp m hm
    rw [← hids.mem_iff]
    exact hdeclared.boards_declared p (h.mem_iff.mpr hp) m hm
  · intro p hp
    exact hdeclared.variants_valid p (h.mem_iff.mpr hp)
  · exact (h.filterMap Package.firmwarePair).nodup_iff.mp hdeclared.pairs_distinct

namespace Registry

theorem isOk_of_perm {packages packages' : List Package} (h : packages.Perm packages')
    (hok : ∃ r, fromPackages packages = .ok r) : ∃ r, fromPackages packages' = .ok r := by
  rw [fromPackages_isOk_iff] at hok ⊢
  obtain ⟨hparses, hdeclared⟩ := hok
  exact ⟨fun p hp => hparses p (h.mem_iff.mpr hp), hdeclared.of_perm h⟩

theorem boards_getElem?_iff {packages : List Package} {r : Registry}
    (h : fromPackages packages = .ok r) (id : String) (b : Board) :
    r.boards[id]? = some b ↔ b ∈ declaredBoards packages ∧ b.metadata.id = id := by
  obtain ⟨d, g, hd, -, hboards, -⟩ := fromPackages_ok h
  rw [hboards]
  exact Discovery.boards_spec hd id b

theorem mem_hostExclusions_iff {packages : List Package} {r : Registry}
    (h : fromPackages packages = .ok r) (name : String) :
    name ∈ r.hostExclusions ↔ ∃ p ∈ packages, p.name = name ∧ p.ExcludedFromHost := by
  obtain ⟨d, g, hd, -, -, hexclusions, -⟩ := fromPackages_ok h
  rw [hexclusions]
  exact Discovery.mem_hostExclusions_iff hd name

/-- A registry is determined by the set of packages that it was read from. -/
theorem eq_of_mem_iff {packages packages' : List Package} {r r' : Registry}
    (h : fromPackages packages = .ok r) (h' : fromPackages packages' = .ok r')
    (hmem : ∀ p, p ∈ packages ↔ p ∈ packages') : r = r' := by
  have hboards : r.boards = r'.boards := by
    apply ExtTreeMap.ext_getElem?
    intro id
    apply Option.ext
    intro b
    rw [boards_getElem?_iff h, boards_getElem?_iff h', declaredBoards, declaredBoards]
    simp only [List.mem_filterMap, hmem]
  have hfirmware : r.firmwareList = r'.firmwareList := by
    refine (discovered h).sorted.eq_of_mem_iff (discovered h').sorted ?_
    intro f
    rw [(discovered h).declared, (discovered h').declared, declaredFirmware, declaredFirmware]
    simp only [List.mem_filterMap, hmem]
  have hexclusions : r.hostExclusions = r'.hostExclusions := by
    apply ExtTreeSet.ext_mem
    intro name
    rw [mem_hostExclusions_iff h, mem_hostExclusions_iff h']
    simp only [hmem]
  cases r
  cases r'
  simp_all

/-- The order of the packages matters neither for acceptance nor for the registry.
The host exclusions are the packages that declare firmware or switch their host
check off. -/
theorem fromPackages_perm {packages packages' : List Package} (h : packages.Perm packages') :
    ((∃ r, fromPackages packages = .ok r) ↔ ∃ r, fromPackages packages' = .ok r) ∧
      ∀ r, fromPackages packages = .ok r →
        (∀ r', fromPackages packages' = .ok r' → r.boards = r'.boards ∧
          r.firmwareList = r'.firmwareList ∧ r.hostExclusions = r'.hostExclusions) ∧
        ∀ name, name ∈ r.hostExclusions ↔
          ∃ p ∈ packages, p.name = name ∧ p.ExcludedFromHost := by
  refine ⟨⟨isOk_of_perm h, isOk_of_perm h.symm⟩, ?_⟩
  intro r hr
  refine ⟨?_, mem_hostExclusions_iff hr⟩
  intro r' hr'
  have heq : r = r' := eq_of_mem_iff hr hr' fun p => h.mem_iff
  rw [heq]
  exact ⟨rfl, rfl, rfl⟩

theorem workspacePackages_reversed :
    workspacePackages.Perm workspacePackages.reverse ∧
      ∃ r r', fromPackages workspacePackages = .ok r ∧
        fromPackages workspacePackages.reverse = .ok r' ∧ r.firmwareList = r'.firmwareList ∧
        "xiao-esp32c6-beacon" ∈ r'.hostExclusions := by
  have hperm : workspacePackages.Perm workspacePackages.reverse :=
    workspacePackages.reverse_perm.symm
  obtain ⟨r, hr⟩ := workspacePackages_isOk
  obtain ⟨hok, hsame⟩ := fromPackages_perm hperm
  obtain ⟨r', hr'⟩ := hok.mp ⟨r, hr⟩
  obtain ⟨hequal, hexcluded⟩ := hsame r hr
  obtain ⟨-, hfirmware, hexclusions⟩ := hequal r' hr'
  refine ⟨hperm, r, r', hr, hr', hfirmware, ?_⟩
  rw [← hexclusions, hexcluded]
  exact ⟨_, List.mem_cons_of_mem _ (List.mem_cons_of_mem _ List.mem_cons_self), rfl, _, rfl,
    .inr rfl⟩

end Registry

end EmbeddedSdk.Xtask
