import Mathlib.Data.List.Basic

/-!
# Deprecated spellings of `xtask` commands

Command lines such as `xtask build-<firmware>` are rewritten to `xtask build <firmware>`
before they are parsed. An argument need not be text. Rewriting keeps command lines
apart: two of them have the same normal form only if one is the old spelling of the
other.
-/
namespace EmbeddedSdk.Xtask

/-- An argument: text, or bytes that are not UTF-8. -/
inductive OsString
  | text (value : String)
  | bytes (value : List UInt8)
  deriving DecidableEq

def OsString.toStr : OsString → Option String
  | .text value => some value
  | .bytes _ => none

/-- `str::strip_prefix`. -/
def stripPrefix (head value : String) : Option String :=
  (value.toList.dropPrefix? head.toList).map .ofList

/-- The subcommand and the firmware that a deprecated command stands for. -/
def replacement (command : String) : Option (String × String) :=
  (if command ≠ "build-all" then
    (stripPrefix "build-" command).map fun firmware => ("build", firmware)
  else none).or
    ((stripPrefix "run-" command).map fun firmware => ("run", firmware))

def normalizeLegacyArgs (args : List OsString) : List OsString × Option String :=
  match (args[1]?).bind OsString.toStr with
  | none => (args, none)
  | some command =>
      match replacement command with
      | none => (args, none)
      | some (subcommand, firmware) =>
          ((args.set 1 (.text subcommand)).insertIdx 2 (.text firmware), some command)

/-- A command that names its firmware behind a hyphen. `build-all` is none. -/
def IsLegacy (command subcommand firmware : String) : Prop :=
  subcommand = "build" ∧ command = "build-" ++ firmware ∧ command ≠ "build-all" ∨
    subcommand = "run" ∧ command = "run-" ++ firmware

/-- The second command line is the first with its command spelled as it is today. -/
def Modernizes (args args' : List OsString) : Prop :=
  ∃ program command rest subcommand firmware, IsLegacy command subcommand firmware ∧
    args = program :: .text command :: rest ∧
    args' = program :: .text subcommand :: .text firmware :: rest

theorem stripPrefix_eq_some_iff {head value rest : String} :
    stripPrefix head value = some rest ↔ value = head ++ rest := by
  rw [stripPrefix, Option.map_eq_some_iff]
  constructor
  · rintro ⟨chars, hchars, rfl⟩
    obtain ⟨front, hvalue, hfront⟩ := List.dropPrefix?_eq_some_iff.mp hchars
    rw [eq_of_beq hfront] at hvalue
    apply String.toList_injective
    rw [hvalue, String.toList_append, String.toList_ofList]
  · rintro rfl
    refine ⟨rest.toList, List.dropPrefix?_eq_some_iff.mpr ⟨head.toList, ?_, beq_self_eq_true _⟩,
      String.ofList_toList⟩
    exact String.toList_append

/-- The two kinds of deprecated commands start with different letters. -/
theorem build_ne_run (firmware firmware' : String) :
    "build-" ++ firmware ≠ "run-" ++ firmware' := by
  intro h
  have hlist := congrArg String.toList h
  rw [String.toList_append, String.toList_append] at hlist
  cases hlist

theorem replacement_eq_some_iff {command subcommand firmware : String} :
    replacement command = some (subcommand, firmware) ↔ IsLegacy command subcommand firmware := by
  rw [replacement, IsLegacy]
  constructor
  · intro h
    rcases Option.or_eq_some_iff.mp h with hbuild | ⟨-, hrun⟩
    · split at hbuild
      next hother =>
        obtain ⟨rest, hrest, heq⟩ := Option.map_eq_some_iff.mp hbuild
        obtain ⟨rfl, rfl⟩ := Prod.mk.inj heq
        exact .inl ⟨rfl, stripPrefix_eq_some_iff.mp hrest, hother⟩
      next => cases hbuild
    · obtain ⟨rest, hrest, heq⟩ := Option.map_eq_some_iff.mp hrun
      obtain ⟨rfl, rfl⟩ := Prod.mk.inj heq
      exact .inr ⟨rfl, stripPrefix_eq_some_iff.mp hrest⟩
  · rintro (⟨rfl, hcommand, hother⟩ | ⟨rfl, hcommand⟩)
    · rw [if_pos hother, stripPrefix_eq_some_iff.mpr hcommand]
      rfl
    · have hnone : stripPrefix "build-" command = none := by
        rw [Option.eq_none_iff_forall_ne_some]
        intro rest hrest
        exact build_ne_run _ _ ((stripPrefix_eq_some_iff.mp hrest).symm.trans hcommand)
      rw [hnone, stripPrefix_eq_some_iff.mpr hcommand]
      split <;> rfl

theorem IsLegacy.command_eq {command subcommand firmware : String}
    (h : IsLegacy command subcommand firmware) : command = subcommand ++ "-" ++ firmware := by
  rcases h with ⟨rfl, hcommand, -⟩ | ⟨rfl, hcommand⟩ <;> exact hcommand

/-- The subcommands of today are no deprecated commands. -/
theorem IsLegacy.not_isLegacy {command subcommand firmware : String}
    (h : IsLegacy command subcommand firmware) (subcommand' firmware' : String) :
    ¬ IsLegacy subcommand subcommand' firmware' := by
  have hnotBuild : ∀ rest : String, subcommand ≠ "build-" ++ rest := by
    intro rest heq
    have hlist := congrArg String.toList heq
    rw [String.toList_append] at hlist
    rcases h with ⟨rfl, -⟩ | ⟨rfl, -⟩ <;> cases hlist
  have hnotRun : ∀ rest : String, subcommand ≠ "run-" ++ rest := by
    intro rest heq
    have hlist := congrArg String.toList heq
    rw [String.toList_append] at hlist
    rcases h with ⟨rfl, -⟩ | ⟨rfl, -⟩ <;> cases hlist
  rintro (⟨-, heq, -⟩ | ⟨-, heq⟩)
  · exact hnotBuild firmware' heq
  · exact hnotRun firmware' heq

theorem Modernizes.not_modernizes {args args' args'' : List OsString} (h : Modernizes args args') :
    ¬ Modernizes args' args'' := by
  obtain ⟨program, command, rest, subcommand, firmware, hlegacy, -, rfl⟩ := h
  rintro ⟨program', command', rest', subcommand', firmware', hlegacy', heq, -⟩
  simp only [List.cons.injEq, OsString.text.injEq] at heq
  rw [← heq.2.1] at hlegacy'
  exact hlegacy.not_isLegacy _ _ hlegacy'

/-- The old spelling can be told from the new one. -/
theorem Modernizes.left_unique {args args' modern : List OsString} (h : Modernizes args modern)
    (h' : Modernizes args' modern) : args = args' := by
  obtain ⟨program, command, rest, subcommand, firmware, hlegacy, rfl, rfl⟩ := h
  obtain ⟨program', command', rest', subcommand', firmware', hlegacy', rfl, heq⟩ := h'
  simp only [List.cons.injEq, OsString.text.injEq] at heq
  obtain ⟨rfl, rfl, rfl, rfl⟩ := heq
  rw [hlegacy.command_eq, hlegacy'.command_eq]

/-- A command line is rewritten exactly if it is in an old spelling. -/
theorem normalizeLegacyArgs_cases (args : List OsString) :
    (∃ args' command, Modernizes args args' ∧ args[1]? = some (.text command) ∧
        normalizeLegacyArgs args = (args', some command)) ∨
      (∀ args', ¬ Modernizes args args') ∧ normalizeLegacyArgs args = (args, none) := by
  have hnotText : (∀ command, args[1]? ≠ some (.text command)) →
      ∀ args', ¬ Modernizes args args' := by
    rintro h args' ⟨program, command, rest, -, -, -, rfl, -⟩
    exact h command rfl
  rcases args with _ | ⟨program, _ | ⟨command | bytes, rest⟩⟩
  · exact .inr ⟨hnotText (by simp), rfl⟩
  · exact .inr ⟨hnotText (by simp), rfl⟩
  · cases hreplacement : replacement command with
    | none =>
        refine .inr ⟨?_, ?_⟩
        · rintro args' ⟨program', command', rest', subcommand, firmware, hlegacy, heq, -⟩
          simp only [List.cons.injEq, OsString.text.injEq] at heq
          rw [← heq.2.1, ← replacement_eq_some_iff, hreplacement] at hlegacy
          cases hlegacy
        · simp only [normalizeLegacyArgs, List.getElem?_cons_succ, List.getElem?_cons_zero,
            Option.bind_some, OsString.toStr, hreplacement]
    | some new =>
        obtain ⟨subcommand, firmware⟩ := new
        refine .inl ⟨program :: .text subcommand :: .text firmware :: rest, command,
          ⟨program, command, rest, subcommand, firmware,
            replacement_eq_some_iff.mp hreplacement, rfl, rfl⟩, rfl, ?_⟩
        simp only [normalizeLegacyArgs, List.getElem?_cons_succ, List.getElem?_cons_zero,
          Option.bind_some, OsString.toStr, hreplacement]
        rfl
  · exact .inr ⟨hnotText (by simp), rfl⟩

theorem Modernizes.right_unique {args modern modern' : List OsString} (h : Modernizes args modern)
    (h' : Modernizes args modern') : modern = modern' := by
  obtain ⟨program, command, rest, subcommand, firmware, hlegacy, rfl, rfl⟩ := h
  obtain ⟨program', command', rest', subcommand', firmware', hlegacy', heq, rfl⟩ := h'
  simp only [List.cons.injEq, OsString.text.injEq] at heq
  obtain ⟨rfl, rfl, rfl⟩ := heq
  have hreplacement := replacement_eq_some_iff.mpr hlegacy
  rw [replacement_eq_some_iff.mpr hlegacy', Option.some.injEq, Prod.mk.injEq] at hreplacement
  rw [hreplacement.1, hreplacement.2]

/-- The normal form is the command line itself, or its spelling of today. -/
theorem normalForm_cases (args : List OsString) :
    (normalizeLegacyArgs args).1 = args ∧ (∀ args', ¬ Modernizes args args') ∨
      Modernizes args (normalizeLegacyArgs args).1 := by
  obtain ⟨modern, command, hmodern, -, hnormal⟩ | ⟨hnone, hnormal⟩ :=
    normalizeLegacyArgs_cases args
  · right
    rw [hnormal]
    exact hmodern
  · left
    rw [hnormal]
    exact ⟨rfl, hnone⟩

theorem Modernizes.normalForm_eq {args args' : List OsString} (h : Modernizes args args') :
    (normalizeLegacyArgs args).1 = args' ∧ (normalizeLegacyArgs args').1 = args' := by
  constructor
  · rcases normalForm_cases args with ⟨-, hnone⟩ | hmodern
    · exact absurd h (hnone args')
    · exact hmodern.right_unique h
  · rcases normalForm_cases args' with ⟨hsame, -⟩ | hmodern
    · exact hsame
    · exact absurd hmodern h.not_modernizes

theorem normalForm_eq_iff {args args' : List OsString} :
    (normalizeLegacyArgs args).1 = (normalizeLegacyArgs args').1 ↔
      args = args' ∨ Modernizes args args' ∨ Modernizes args' args := by
  constructor
  · intro heq
    rcases normalForm_cases args with ⟨hsame, -⟩ | hmodern
    · rcases normalForm_cases args' with ⟨hsame', -⟩ | hmodern'
      · exact .inl (hsame.symm.trans (heq.trans hsame'))
      · rw [← heq, hsame] at hmodern'
        exact .inr (.inr hmodern')
    · rcases normalForm_cases args' with ⟨hsame', -⟩ | hmodern'
      · rw [heq, hsame'] at hmodern
        exact .inr (.inl hmodern)
      · rw [← heq] at hmodern'
        exact .inl (hmodern.left_unique hmodern')
  · rintro (rfl | hmodern | hmodern)
    · rfl
    · rw [hmodern.normalForm_eq.1, hmodern.normalForm_eq.2]
    · rw [hmodern.normalForm_eq.1, hmodern.normalForm_eq.2]

/-- Rewriting is done after one pass. The result is the same for two command lines
exactly if they are equal or one is the old spelling of the other, and the command that
the warning shows is the one that was rewritten. -/
theorem legacy_spellings_normalized (args args' : List OsString) :
    normalizeLegacyArgs (normalizeLegacyArgs args).1 = ((normalizeLegacyArgs args).1, none) ∧
      ((normalizeLegacyArgs args).1 = (normalizeLegacyArgs args').1 ↔
        args = args' ∨ Modernizes args args' ∨ Modernizes args' args) ∧
      ∀ command, (normalizeLegacyArgs args).2 = some command ↔
        args[1]? = some (.text command) ∧ Modernizes args (normalizeLegacyArgs args).1 := by
  obtain ⟨modern, command, hmodern, hcommand, hnormal⟩ | ⟨hnone, hnormal⟩ :=
    normalizeLegacyArgs_cases args
  · refine ⟨?_, normalForm_eq_iff, ?_⟩
    · rw [hnormal]
      obtain ⟨modern', -, hmodern', -⟩ | ⟨-, hsame⟩ := normalizeLegacyArgs_cases modern
      · exact absurd hmodern' hmodern.not_modernizes
      · exact hsame
    · intro command'
      rw [hnormal, hcommand, Option.some.injEq, Option.some.injEq, OsString.text.injEq]
      exact ⟨fun h => ⟨h, hmodern⟩, fun h => h.1⟩
  · refine ⟨?_, normalForm_eq_iff, ?_⟩
    · rw [hnormal]
      exact hnormal
    · intro command
      rw [hnormal]
      constructor
      · intro h
        cases h
      · rintro ⟨-, hmodern⟩
        exact absurd hmodern (hnone args)

example : normalizeLegacyArgs [.text "xtask", .text "build-xiao-esp32c6-beacon"] =
    ([.text "xtask", .text "build", .text "xiao-esp32c6-beacon"],
      some "build-xiao-esp32c6-beacon") := by
  decide +kernel

end EmbeddedSdk.Xtask
