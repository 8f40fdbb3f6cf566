import EmbeddedSdk.FirmwareSelectors
import EmbeddedSdk.SeparatedText

/-!
# The runner command in the environment of Cargo

`run` joins the runner of a board with spaces and hands it to Cargo in a variable.
Cargo splits it at whitespace again. The validation of board metadata accepts
exactly the runners that come through unchanged.
-/
namespace EmbeddedSdk.Xtask
open SeparatedText

/-- `str::split_whitespace`, by which Cargo reads the variable. -/
def splitWhitespace (value : String) : List String :=
  (words isWhitespace value.toList).map String.ofList

/-- A component that the runner checks let pass. -/
def IsComponent (component : String) : Prop := IsWord isWhitespace component.toList

theorem isComponent_iff (component : String) :
    IsComponent component ↔
      component.isEmpty = false ∧ component.toList.any isWhitespace = false := by
  rw [IsComponent, IsWord, List.any_eq_false, Bool.eq_false_iff]
  simp

/-- Components are joined and split into themselves. -/
theorem splitWhitespace_intercalate {runner : List String}
    (h : ∀ component ∈ runner, IsComponent component) :
    splitWhitespace (" ".intercalate runner) = runner := by
  have hspace : isWhitespace ' ' = true := by decide
  have hwords : ∀ piece ∈ runner.map String.toList, IsWord isWhitespace piece := by
    intro piece hpiece
    obtain ⟨component, hcomponent, rfl⟩ := List.mem_map.mp hpiece
    exact h component hcomponent
  have hjoined : (" ".intercalate runner).toList =
      [' '].intercalate (runner.map String.toList) := String.toList_intercalate
  rw [splitWhitespace, hjoined, words_intercalate hspace hwords]
  simp

/-- Splitting gives nothing but components. -/
theorem isComponent_of_mem_splitWhitespace {value component : String}
    (h : component ∈ splitWhitespace value) : IsComponent component := by
  obtain ⟨piece, hpiece, rfl⟩ := List.mem_map.mp h
  rw [IsComponent, String.toList_ofList]
  exact isWord_of_mem_words hpiece

/-- A runner comes through exactly when all its parts are components. -/
theorem splitWhitespace_intercalate_iff (runner : List String) :
    splitWhitespace (" ".intercalate runner) = runner ↔
      ∀ component ∈ runner, IsComponent component := by
  constructor
  · intro h component hcomponent
    rw [← h] at hcomponent
    exact isComponent_of_mem_splitWhitespace hcomponent
  · exact splitWhitespace_intercalate

theorem runner_of_validate {package : Package} {metadata : BoardMetadata}
    (h : validateBoardMetadata package metadata = .ok ()) :
    ∀ component ∈ metadata.runner, IsComponent component := by
  unfold validateBoardMetadata at h
  split at h
  · nomatch h
  split at h
  · nomatch h
  split at h
  · nomatch h
  split at h
  · nomatch h
  next hempty hspace =>
    intro component hcomponent
    simp only [Bool.or_eq_true, not_or, List.any_eq_true, not_exists, not_and] at hempty hspace
    rw [isComponent_iff]
    exact ⟨by simpa using hempty.2 component hcomponent,
      by simpa using hspace component hcomponent⟩

theorem runner_of_rejected {package : Package} {metadata : BoardMetadata}
    (h : validateBoardMetadata package metadata = .error (.emptyRunner package.name) ∨
      validateBoardMetadata package metadata = .error (.runnerWhitespace package.name)) :
    metadata.runner = [] ∨ ∃ component ∈ metadata.runner, ¬ IsComponent component := by
  unfold validateBoardMetadata at h
  split at h
  · simp at h
  split at h
  · simp at h
  split at h
  next hempty =>
    simp only [Bool.or_eq_true, List.isEmpty_iff, List.any_eq_true] at hempty
    obtain hnil | ⟨component, hcomponent, hblank⟩ := hempty
    · exact .inl hnil
    · refine .inr ⟨component, hcomponent, ?_⟩
      simp [isComponent_iff, hblank]
  split at h
  next hspace =>
    obtain ⟨component, hcomponent, hspace⟩ := List.any_eq_true.mp hspace
    refine .inr ⟨component, hcomponent, ?_⟩
    rw [isComponent_iff, hspace]
    simp
  · simp at h

/-- A validated runner is read back by Cargo as it was declared, and a runner that
the runner checks reject is empty or would be read back as another one. -/
theorem runner_survives_environment (package : Package) (metadata : BoardMetadata) :
    (validateBoardMetadata package metadata = .ok () →
      ∀ firmware boardPackage, ∃ value,
        (runFirmware firmware ⟨boardPackage, metadata⟩).environment =
            [(cargoRunnerVariable metadata.target, value)] ∧
          splitWhitespace value = metadata.runner) ∧
    (validateBoardMetadata package metadata = .error (.emptyRunner package.name) ∨
        validateBoardMetadata package metadata = .error (.runnerWhitespace package.name) →
      metadata.runner = [] ∨
        splitWhitespace (" ".intercalate metadata.runner) ≠ metadata.runner) := by
  constructor
  · intro h firmware boardPackage
    exact ⟨_, rfl, splitWhitespace_intercalate (runner_of_validate h)⟩
  · intro h
    obtain hnil | ⟨component, hcomponent, hnot⟩ := runner_of_rejected h
    · exact .inl hnil
    · right
      intro hsame
      exact hnot ((splitWhitespace_intercalate_iff _).mp hsame component hcomponent)

/-- Whatever `run` starts, Cargo reads the runner of the firmware's board as its
package declares it. -/
theorem Registry.run_passes_declared_runner {packages : List Package} {r : Registry}
    (h : Registry.fromPackages packages = .ok r) {selector : String} {command : CargoCommand}
    (hrun : r.run selector = .ok command) :
    ∃ b ∈ declaredBoards packages, ∃ value,
      command.environment = [(cargoRunnerVariable b.metadata.target, value)] ∧
        splitWhitespace value = b.metadata.runner := by
  obtain ⟨-, hdeclared⟩ := (Registry.fromPackages_isOk_iff packages).mp ⟨r, h⟩
  simp only [Registry.run, Registry.withFirmware] at hrun
  cases hfirmware : r.firmware selector with
  | error e =>
      simp only [hfirmware, reduceCtorEq] at hrun
  | ok f =>
      have hlisted : f ∈ r.firmwareList :=
        List.mem_of_find?_eq_some (Registry.firmware_eq_ok.mp hfirmware)
      obtain ⟨b, hb, -⟩ := (Registry.discovered h).boards f hlisted
      have hmem := ((Registry.boards_getElem?_iff h f.board b).mp hb).1
      simp only [hfirmware, Registry.board_eq_ok hb, Except.ok.injEq] at hrun
      obtain ⟨p, hp, hpb⟩ := List.mem_filterMap.mp hmem
      obtain ⟨m, hm, rfl⟩ := Option.map_eq_some_iff.mp hpb
      have hvalid := hdeclared.boards_valid p hp m hm
      have hsplit := splitWhitespace_intercalate (runner_of_validate hvalid)
      exact ⟨_, hmem, _, by rw [← hrun]; rfl, hsplit⟩

end EmbeddedSdk.Xtask
