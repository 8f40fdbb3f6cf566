import EmbeddedSdk.RegistryContents

/-!
# Selectors and package names in one namespace

A firmware is looked up by selector or by package name, in one scan in the order
of the selectors. Boards are looked up by id first and by package name second.
The main theorem says exactly when a package name gets in the way of a selector.
-/
namespace EmbeddedSdk.Xtask

namespace Registry

/-- A scan in strict order of selectors finds the entry of a selector unless an
earlier entry has the selector as its package name. -/
theorem find?_selector {firmware : List Firmware}
    (hsorted : firmware.Pairwise fun f f' => f.selector < f'.selector) {f : Firmware}
    (hf : f ∈ firmware) :
    firmware.find? (fun g => g.selector = f.selector || g.package = f.selector) = some f ↔
      ∀ g ∈ firmware, g.selector < f.selector → g.package ≠ f.selector := by
  induction firmware with
  | nil => simp at hf
  | cons x xs ih =>
      rw [List.pairwise_cons] at hsorted
      obtain ⟨hx, hxs⟩ := hsorted
      rcases List.mem_cons.mp hf with rfl | hmem
      · have hfound : (f :: xs).find?
            (fun g => g.selector = f.selector || g.package = f.selector) = some f := by
          simp
        have hfirst : ∀ g ∈ f :: xs, g.selector < f.selector → g.package ≠ f.selector := by
          intro g hg hlt
          rcases List.mem_cons.mp hg with rfl | hg'
          · exact absurd hlt (String.lt_irrefl _)
          · exact absurd hlt (String.lt_asymm (hx g hg'))
        exact ⟨fun _ => hfirst, fun _ => hfound⟩
      · have hlt := hx f hmem
        have hne : x.selector ≠ f.selector := by
          intro heq
          rw [heq] at hlt
          exact String.lt_irrefl _ hlt
        by_cases hpackage : x.package = f.selector
        · have hfound : (x :: xs).find?
              (fun g => g.selector = f.selector || g.package = f.selector) = some x := by
            simp [hpackage]
          rw [hfound, Option.some.injEq]
          constructor
          · intro hxf
            exact absurd (congrArg Firmware.selector hxf) hne
          · intro hall
            exact absurd hpackage (hall x List.mem_cons_self hlt)
        · have hskip : (x :: xs).find?
              (fun g => g.selector = f.selector || g.package = f.selector) =
                xs.find? (fun g => g.selector = f.selector || g.package = f.selector) := by
            simp [hne, hpackage]
          rw [hskip, ih hxs hmem]
          simp [hpackage]

/-- The selector of a listed firmware leads to this firmware, its board to the
board with that id, and the commands use both. -/
def SelectsItself (r : Registry) (f : Firmware) : Prop :=
  r.firmware f.selector = .ok f ∧
    ∃ b, r.board f.board = .ok b ∧ b.metadata.id = f.board ∧
      r.build f.selector = .ok (buildFirmware f b) ∧ r.run f.selector = .ok (runFirmware f b)

/-- No firmware package is named like the selector of a firmware whose selector
comes after its own. -/
def Unshadowed (packages : List Package) : Prop :=
  ∀ f ∈ declaredFirmware packages, ∀ g ∈ declaredFirmware packages,
    g.selector < f.selector → g.package ≠ f.selector

instance (packages : List Package) : Decidable (Unshadowed packages) :=
  inferInstanceAs (Decidable (∀ f ∈ declaredFirmware packages, ∀ g ∈ declaredFirmware packages,
    g.selector < f.selector → g.package ≠ f.selector))

theorem firmware_eq_ok {r : Registry} {f : Firmware} {s : String} :
    r.firmware s = .ok f ↔ r.firmwareList.find?
      (fun g => g.selector = s || g.package = s) = some f := by
  unfold firmware
  cases r.firmwareList.find? (fun g => g.selector = s || g.package = s) with
  | none => simp
  | some g => simp

/-- Boards are looked up by id first, so a declared id leads to its board. -/
theorem board_eq_ok {r : Registry} {id : String} {b : Board} (h : r.boards[id]? = some b) :
    r.board id = .ok b := by
  unfold board
  rw [h, Option.some_or]

/-- Every listed selector builds its own firmware exactly when no package name
shadows a selector. The boards are right in any case. -/
theorem selectsItself_iff_unshadowed {packages : List Package} {r : Registry}
    (h : fromPackages packages = .ok r) :
    (∀ f ∈ r.firmwareList, r.SelectsItself f) ↔ Unshadowed packages := by
  have hfound := discovered h
  constructor
  · intro hall f hf g hg
    have hlisted := (hfound.declared f).mpr hf
    have hself := firmware_eq_ok.mp (hall f hlisted).1
    exact (find?_selector hfound.sorted hlisted).mp hself g ((hfound.declared g).mpr hg)
  · intro hunshadowed f hf
    have hself : r.firmware f.selector = .ok f := by
      rw [firmware_eq_ok, find?_selector hfound.sorted hf]
      intro g hg
      exact hunshadowed f ((hfound.declared f).mp hf) g ((hfound.declared g).mp hg)
    obtain ⟨b, hb, hid⟩ := hfound.boards f hf
    have hboard := board_eq_ok hb
    have hcommand : ∀ command, r.withFirmware f.selector command = .ok (command f b) := by
      intro command
      simp only [withFirmware, hself, hboard]
    exact ⟨hself, b, hboard, hid, hcommand buildFirmware, hcommand runFirmware⟩

theorem workspacePackages_select_themselves :
    ∃ r, fromPackages workspacePackages = .ok r ∧ r.firmwareList.length = 3 ∧
      ∀ f ∈ r.firmwareList, r.SelectsItself f := by
  have hlength : (fromPackages workspacePackages).toOption.map (fun r => r.firmwareList.length) =
      some 3 := by
    decide +kernel
  have hunshadowed : Unshadowed workspacePackages := by decide +kernel
  cases hr : fromPackages workspacePackages with
  | error e =>
      rw [hr] at hlength
      simp [Except.toOption] at hlength
  | ok r =>
      rw [hr] at hlength
      exact ⟨r, rfl, Option.some.inj hlength, (selectsItself_iff_unshadowed hr).mpr hunshadowed⟩

/-- Two boards with their default firmware, where the firmware of the first is
named like the second board. -/
def shadowingPackages : List Package :=
  [⟨"board-nrf", some { board := some (.ok ⟨"nrf", "thumbv7em-none-eabihf", ["probe-rs"]⟩) }⟩,
    ⟨"board-xiao", some { board := some (.ok ⟨"xiao", "riscv32imac-unknown-none-elf",
      ["espflash"]⟩) }⟩,
    ⟨"xiao", some { firmware := some (.ok ⟨"nrf", "default"⟩) }⟩,
    ⟨"xiao-firmware", some { firmware := some (.ok ⟨"xiao", "default"⟩) }⟩]

theorem shadowingPackages_select_another :
    (shadowingPackages.map Package.name).Nodup ∧
      ∃ r, fromPackages shadowingPackages = .ok r ∧
        ∃ f ∈ r.firmwareList, r.firmware f.selector ≠ .ok f := by
  have hnames : (shadowingPackages.map Package.name).Nodup := by decide +kernel
  have hselects : (fromPackages shadowingPackages).toOption.map (fun r =>
      ((r.firmwareList.map Firmware.package), (r.firmware "xiao").toOption.map Firmware.package)) =
        some (["xiao", "xiao-firmware"], some "xiao") := by
    decide +kernel
  cases hr : fromPackages shadowingPackages with
  | error e =>
      rw [hr] at hselects
      simp [Except.toOption] at hselects
  | ok r =>
      refine ⟨hnames, r, rfl, ?_⟩
      have hf : Firmware.ofMetadata "xiao-firmware" ⟨"xiao", "default"⟩ ∈ r.firmwareList := by
        rw [(discovered hr).declared]
        decide +kernel
      refine ⟨_, hf, ?_⟩
      intro hself
      have hselector : (Firmware.ofMetadata "xiao-firmware" ⟨"xiao", "default"⟩).selector =
          "xiao" := by decide
      rw [hselector] at hself
      rw [hr] at hselects
      simp [Except.toOption, hself, Firmware.ofMetadata] at hselects

end Registry

end EmbeddedSdk.Xtask
