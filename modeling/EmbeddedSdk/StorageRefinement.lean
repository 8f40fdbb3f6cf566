import EmbeddedSdk.Runs
import EmbeddedSdk.SequentialStore

/-!
# The store refines a finite map

The abstract store is a map from keys to byte strings. A call may change it only
as `Applies` says, and a fetch that the engine completes must answer from it as
`Answers` says. Absence has two representations on flash, no record and a
tombstone, and one in the map.
-/
namespace EmbeddedSdk.Storage
open Runs SequentialStore

variable {B : Type} {E : Engine B} {scratch : ℕ}

/-- What a client believes to be stored. There are finitely many keys. -/
abbrev Contents := Key → Option (List UInt8)

/-- How a call may change the contents. A failed or interrupted mutation is
applied wholly or not at all, and one that the size check rejects is not applied.
Nothing is said about a `clear` that fails. -/
def Applies (scratch : ℕ) (M M' : Contents) : Call E → Reply B → Prop
  | .put key value _, .mutated result =>
      (M' = M ∨ M' = Function.update M key (some value)) ∧
        (result = some (.ok ()) → M' = Function.update M key (some value)) ∧
        (value.length > maxValueSize scratch → M' = M)
  | .delete key _, .mutated result =>
      (M' = M ∨ M' = Function.update M key none) ∧
        (result = some (.ok ()) → M' = Function.update M key none)
  | .clear _, .mutated result => result = some (.ok ()) → M' = fun _ => none
  | _, _ => M' = M

/-- What a completed fetch returns, and what it leaves in the caller's buffer. -/
structure Answers (M : Contents) (key : Key) (output : List UInt8)
    (result : Except (Error B) Fetch) (output' : List UInt8) : Prop where
  notFound : result = .ok .notFound ↔ M key = none
  found : ∀ len, result = .ok (.found len) ↔
    ∃ value, M key = some value ∧ value.length ≤ output.length ∧ len = value.length
  copied : ∀ len, result = .ok (.found len) →
    M key = some (output'.take len) ∧ output'.drop len = output.drop len
  bufferTooSmall : ∀ required, result = .error (.bufferTooSmall required) ↔
    ∃ value, M key = some value ∧ output.length < value.length ∧ required = value.length
  untouched : (∀ len, result ≠ .ok (.found len)) → output' = output
  no_other_error : ∀ error, result = .error error → ∃ required, error = .bufferTooSmall required

/-- The engine completes the fetch of a call. -/
def Call.FetchCompletes (s : SequentialStore E scratch) : Call E → Prop
  | .get key _ fault => ∃ result,
      (E.fetchItem fault s.flash scratch key.toRaw).2 = some result ∧ Completed result
  | _ => False

/-- A call that is not a failed `clear`. -/
def Call.ClearsFully (s : SequentialStore E scratch) : Call E → Prop
  | .clear fault => (s.clear fault).2 = some (.ok ())
  | _ => True

def StoredValue.live? : StoredValue → Option (List UInt8)
  | live value => some value
  | tombstone => none

namespace SequentialStore

/-- The contents that the records on flash stand for. -/
def contents (s : SequentialStore E scratch) : Contents := fun key =>
  match fetched (B := B) (E.records s.flash key.toRaw) with
  | .ok (some value) => value.live?
  | _ => none

/-- Every record on flash was written by the store. -/
def WellFormed (s : SequentialStore E scratch) : Prop :=
  ∀ raw record, E.records s.flash raw = some record →
    ∃ value : StoredValue, record = value.encoding

theorem contents_congr {s t : SequentialStore E scratch}
    (h : E.records t.flash = E.records s.flash) : t.contents = s.contents := by
  funext key
  simp only [contents, h]

theorem wellFormed_congr {s t : SequentialStore E scratch} (hs : s.WellFormed)
    (h : E.records t.flash = E.records s.flash) : t.WellFormed := by
  intro raw record hrecord
  rw [h] at hrecord
  exact hs raw record hrecord

/-- A new record changes the contents at its own key only. -/
theorem contents_update {s t : SequentialStore E scratch} {key : Key} {value : StoredValue}
    (h : E.records t.flash =
      Function.update (E.records s.flash) key.toRaw (some value.encoding)) :
    t.contents = Function.update s.contents key value.live? := by
  funext key'
  by_cases hkey : key' = key
  · subst hkey
    simp [contents, h, fetched]
  · have hraw : key'.toRaw ≠ key.toRaw := fun heq => hkey (Key.toRaw_injective heq)
    simp [contents, h, hkey, hraw]

theorem wellFormed_update {s t : SequentialStore E scratch} (hs : s.WellFormed) {raw : UInt32}
    {value : StoredValue}
    (h : E.records t.flash = Function.update (E.records s.flash) raw (some value.encoding)) :
    t.WellFormed := by
  intro raw' record hrecord
  rw [h] at hrecord
  by_cases hraw : raw' = raw
  · subst hraw
    rw [Function.update_self, Option.some.injEq] at hrecord
    exact ⟨value, hrecord.symm⟩
  · rw [Function.update_of_ne hraw] at hrecord
    exact hs raw' record hrecord

/-- A call that returns without an error comes from an engine call that does. -/
theorem answer_ok {α : Type} {s : SequentialStore E scratch}
    {outcome : E.Flash × Option (Except (EngineError B) α)} {value : α}
    (h : (s.answer outcome).2 = some (.ok value)) : outcome.2 = some (.ok value) := by
  obtain ⟨result, hresult, hmap⟩ := Option.map_eq_some_iff.mp h
  cases result with
  | error error => simp [Except.mapError] at hmap
  | ok returned =>
      rw [Except.mapError, Except.ok.injEq] at hmap
      rw [hresult, hmap]

/-- A mutation of one key, whatever becomes of it. -/
theorem answer_storeItem (hE : E.IsMap) {s t : SequentialStore E scratch} (hs : s.WellFormed)
    {key : Key} {value : StoredValue} {fault : E.Fault} {result : Option (Except (Error B) Unit)}
    (h : s.answer (E.storeItem fault s.flash scratch key.toRaw value) = (t, result)) :
    t.WellFormed ∧
      (t.contents = s.contents ∨ t.contents = Function.update s.contents key value.live?) ∧
      (result = some (.ok ()) → t.contents = Function.update s.contents key value.live?) := by
  have hflash : t.flash = (E.storeItem fault s.flash scratch key.toRaw value).1 :=
    congrArg (fun pair => pair.1.flash) h.symm
  have hresult : (s.answer (E.storeItem fault s.flash scratch key.toRaw value)).2 = result :=
    congrArg Prod.snd h
  have hatomic : t.WellFormed ∧
      (t.contents = s.contents ∨ t.contents = Function.update s.contents key value.live?) := by
    rcases hE.store_atomic fault s.flash scratch key.toRaw value with hsame | ⟨record, hser, hnew⟩
    · rw [← hflash] at hsame
      exact ⟨wellFormed_congr hs hsame, .inl (contents_congr hsame)⟩
    · rw [← hflash, hser.eq_encoding] at hnew
      exact ⟨wellFormed_update hs hnew, .inr (contents_update hnew)⟩
  refine ⟨hatomic.1, hatomic.2, ?_⟩
  intro hok
  rw [hok] at hresult
  obtain ⟨record, hser, hnew⟩ := hE.store_replaces fault s.flash scratch key.toRaw value
    (answer_ok hresult)
  rw [← hflash, hser.eq_encoding] at hnew
  exact contents_update hnew

theorem put_applies (hE : E.IsMap) {s : SequentialStore E scratch} (hs : s.WellFormed) (key : Key)
    (value : List UInt8) (fault : E.Fault) :
    (s.put key value fault).1.WellFormed ∧
      Applies scratch s.contents (s.put key value fault).1.contents (.put key value fault)
        (.mutated (s.put key value fault).2) := by
  unfold put
  by_cases hsize : value.length > maxValueSize scratch
  · rw [if_pos hsize]
    exact ⟨hs, .inl rfl, by simp, fun _ => rfl⟩
  · rw [if_neg hsize]
    obtain ⟨hwf, hatomic, hok⟩ := answer_storeItem hE hs rfl
    exact ⟨hwf, hatomic, hok, fun hlarge => absurd hlarge hsize⟩

theorem delete_applies (hE : E.IsMap) {s : SequentialStore E scratch} (hs : s.WellFormed)
    (key : Key) (fault : E.Fault) :
    (s.delete key fault).1.WellFormed ∧
      Applies scratch s.contents (s.delete key fault).1.contents (.delete key fault)
        (.mutated (s.delete key fault).2) :=
  answer_storeItem hE hs rfl

theorem clear_empties (hE : E.IsMap) {s : SequentialStore E scratch} {fault : E.Fault}
    (hok : (s.clear fault).2 = some (.ok ())) :
    (s.clear fault).1.WellFormed ∧ (s.clear fault).1.contents = fun _ => none := by
  have hempty : ∀ raw, E.records (s.clear fault).1.flash raw = none :=
    hE.erase_empties fault s.flash (answer_ok hok)
  constructor
  · intro raw record hrecord
    rw [hempty raw] at hrecord
    simp at hrecord
  · funext key
    simp [contents, hempty, fetched]

theorem get_flash (s : SequentialStore E scratch) (key : Key) (output : List UInt8)
    (fault : E.Fault) :
    (s.get key output fault).1.flash = (E.fetchItem fault s.flash scratch key.toRaw).1 := by
  simp only [get, answer]
  split <;> rename_i heq
  all_goals
    rw [Prod.mk.injEq] at heq
    obtain ⟨rfl, -⟩ := heq
    try split
    all_goals rfl

/-- On a well-formed flash, decoding never fails. -/
theorem fetched_wellFormed {s : SequentialStore E scratch} (hs : s.WellFormed) (key : Key) :
    (fetched (B := B) (E.records s.flash key.toRaw) = .ok none ∧ s.contents key = none) ∨
      ∃ value, fetched (B := B) (E.records s.flash key.toRaw) = .ok (some value) ∧
        s.contents key = value.live? := by
  cases hrecord : E.records s.flash key.toRaw with
  | none => exact .inl ⟨rfl, by simp [contents, hrecord, fetched]⟩
  | some record =>
      obtain ⟨value, rfl⟩ := hs key.toRaw record hrecord
      exact .inr ⟨value, by simp [fetched], by simp [contents, hrecord, fetched]⟩

theorem answers_notFound {M : Contents} {key : Key} (output : List UInt8) (h : M key = none) :
    Answers (B := B) M key output (.ok .notFound) output := by
  constructor <;> simp [h]

theorem answers_live {M : Contents} {key : Key} {value : List UInt8} (output : List UInt8)
    (h : M key = some value) (hfits : value.length ≤ output.length) :
    Answers (B := B) M key output (.ok (.found value.length))
      (value ++ output.drop value.length) := by
  constructor
  · simp [h]
  · intro len
    constructor
    · intro hlen
      cases hlen
      exact ⟨value, h, hfits, rfl⟩
    · rintro ⟨value', hvalue, -, rfl⟩
      rw [h, Option.some.injEq] at hvalue
      rw [hvalue]
  · intro len hlen
    cases hlen
    simp [h]
  · intro required
    constructor
    · simp
    · rintro ⟨value', hvalue, hlt, -⟩
      rw [h, Option.some.injEq] at hvalue
      subst hvalue
      omega
  · intro hnot
    exact absurd rfl (hnot value.length)
  · simp

theorem answers_tooSmall {M : Contents} {key : Key} {value : List UInt8} (output : List UInt8)
    (h : M key = some value) (hsmall : output.length < value.length) :
    Answers (B := B) M key output (.error (.bufferTooSmall value.length)) output := by
  constructor
  · simp [h]
  · intro len
    constructor
    · simp
    · rintro ⟨value', hvalue, hle, -⟩
      rw [h, Option.some.injEq] at hvalue
      subst hvalue
      omega
  · simp
  · intro required
    constructor
    · intro heq
      cases heq
      exact ⟨value, h, hsmall, rfl⟩
    · rintro ⟨value', hvalue, -, rfl⟩
      rw [h, Option.some.injEq] at hvalue
      rw [hvalue]
  · intro _
    rfl
  · intro error heq
    cases heq
    exact ⟨value.length, rfl⟩

/-- A completed fetch answers from the contents. -/
theorem get_answers (hE : E.IsMap) {s : SequentialStore E scratch} (hs : s.WellFormed) (key : Key)
    (output : List UInt8) (fault : E.Fault)
    {result : Except (EngineError B) (Option StoredValue)}
    (hresult : (E.fetchItem fault s.flash scratch key.toRaw).2 = some result)
    (hcompleted : Completed result) :
    ∃ reply, (s.get key output fault).2.1 = some reply ∧
      Answers s.contents key output reply (s.get key output fault).2.2 := by
  have hdecoded := hE.fetch_decodes fault s.flash scratch key.toRaw result hresult hcompleted
  rcases fetched_wellFormed hs key with ⟨hfetched, hcontents⟩ | ⟨value, hfetched, hcontents⟩
  · rw [hfetched] at hdecoded
    subst hdecoded
    simp only [get, answer, hresult, Option.map_some, Except.mapError]
    exact ⟨_, rfl, answers_notFound output hcontents⟩
  · rw [hfetched] at hdecoded
    subst hdecoded
    cases value with
    | tombstone =>
        simp only [get, answer, hresult, Option.map_some, Except.mapError]
        exact ⟨_, rfl, answers_notFound output hcontents⟩
    | live value =>
        simp only [get, answer, hresult, Option.map_some, Except.mapError]
        by_cases hsmall : output.length < value.length
        · rw [if_pos hsmall]
          exact ⟨_, rfl, answers_tooSmall output hcontents hsmall⟩
        · rw [if_neg hsmall]
          exact ⟨_, rfl, answers_live output hcontents (by omega)⟩

theorem new_flash {flash : E.Flash} {rangeStart rangeEnd : ℕ} {s : SequentialStore E scratch}
    (h : new E scratch flash rangeStart rangeEnd = .ok s) : s.flash = flash := by
  unfold new at h
  split at h
  · simp at h
  · split at h
    · simp at h
    · split at h
      · simp at h
      · rw [Except.ok.injEq] at h
        rw [← h]

/-- One call keeps the flash well-formed and does to the contents what it may. -/
theorem exec_refines (hE : E.IsMap) {s t : SequentialStore E scratch} (hs : s.WellFormed)
    {call : Call E} (hclear : call.ClearsFully s) {reply : Reply B}
    (h : s.exec call = some (t, reply)) :
    t.WellFormed ∧ Applies scratch s.contents t.contents call reply := by
  cases call with
  | get key output fault =>
      simp only [exec, Option.some.injEq, Prod.mk.injEq] at h
      obtain ⟨rfl, rfl⟩ := h
      have hrecords : E.records (s.get key output fault).1.flash = E.records s.flash := by
        rw [get_flash]
        exact hE.fetch_keeps fault s.flash scratch key.toRaw
      exact ⟨wellFormed_congr hs hrecords, contents_congr hrecords⟩
  | put key value fault =>
      simp only [exec, Option.some.injEq, Prod.mk.injEq] at h
      obtain ⟨rfl, rfl⟩ := h
      exact put_applies hE hs key value fault
  | delete key fault =>
      simp only [exec, Option.some.injEq, Prod.mk.injEq] at h
      obtain ⟨rfl, rfl⟩ := h
      exact delete_applies hE hs key fault
  | clear fault =>
      simp only [exec, Option.some.injEq, Prod.mk.injEq] at h
      obtain ⟨rfl, rfl⟩ := h
      obtain ⟨hwf, hcontents⟩ := clear_empties hE hclear
      exact ⟨hwf, fun _ => hcontents⟩
  | reopen =>
      simp only [exec] at h
      split at h
      · rename_i opened hopened
        rw [Option.some.injEq, Prod.mk.injEq] at h
        obtain ⟨rfl, rfl⟩ := h
        have hflash : opened.flash = s.flash := new_flash hopened
        have hrecords : E.records opened.flash = E.records s.flash := by rw [hflash]
        exact ⟨wellFormed_congr hs hrecords, contents_congr hrecords⟩
      · simp at h

theorem step_some {s t : SequentialStore E scratch} {call : Call E} (h : s.step call = some t) :
    ∃ reply, s.exec call = some (t, reply) := by
  obtain ⟨⟨t', reply⟩, hexec, rfl⟩ := Option.map_eq_some_iff.mp h
  exact ⟨reply, hexec⟩

/-- The contents after a run, or nothing after a run that was refused. -/
def contentsAfter (s₀ : SequentialStore E scratch) (calls : List (Call E)) : Contents :=
  match run step s₀ calls with
  | some s => s.contents
  | none => fun _ => none

theorem contentsAfter_of_run {s₀ s : SequentialStore E scratch} {calls : List (Call E)}
    (h : run step s₀ calls = some s) : contentsAfter s₀ calls = s.contents := by
  simp only [contentsAfter, h]

/-- The store refines a finite map. Starting on an erased flash, there is a map
for every point of the run, such that every call changes it only as it may and
every fetch that the engine completes answers from it. Calls may fail or be
interrupted and the store may be opened again at any point, only a `clear` must
not fail. -/
theorem store_refines_map (hE : E.IsMap) {flash : E.Flash} {rangeStart rangeEnd : ℕ}
    {s₀ : SequentialStore E scratch} (hnew : new E scratch flash rangeStart rangeEnd = .ok s₀)
    (herased : ∀ raw, E.records flash raw = none) (calls : List (Call E))
    (hclear : EachStep step s₀ calls fun _ s call => call.ClearsFully s) :
    ∃ M : List (Call E) → Contents, M [] = (fun _ => none) ∧
      EachStep step s₀ calls fun past s call => ∀ t reply, s.exec call = some (t, reply) →
        Applies scratch (M past) (M (past ++ [call])) call reply ∧
        ∀ key output fault, call = .get key output fault → call.FetchCompletes s →
          ∃ result output', reply = .fetched (some result) output' ∧
            Answers (M past) key output result output' := by
  have hflash := new_flash hnew
  have hstart : s₀.WellFormed := by
    intro raw record hrecord
    rw [hflash, herased raw] at hrecord
    simp at hrecord
  have hwell : ∀ past s, past <+: calls → run step s₀ past = some s → s.WellFormed := by
    intro past s hp hs
    refine EachStep.history (R := fun _ s => s.WellFormed) hstart ?_ (hclear.mono hp) hs
    intro _ r call t _ hr hcall ht
    obtain ⟨reply, hexec⟩ := step_some ht
    exact (exec_refines hE hr hcall hexec).1
  refine ⟨contentsAfter s₀, ?_, ?_⟩
  · rw [contentsAfter_of_run (run_nil step s₀)]
    funext key
    simp [contents, hflash, herased, fetched]
  · intro past call hp s hs t reply hexec
    have hpast : past <+: calls := (List.prefix_append past [call]).trans hp
    have hs' := hwell past s hpast hs
    have hnext : run step s₀ (past ++ [call]) = some t := by
      rw [run_concat, hs]
      simp [step, hexec]
    rw [contentsAfter_of_run hs, contentsAfter_of_run hnext]
    refine ⟨(exec_refines hE hs' (hclear past call hp s hs) hexec).2, ?_⟩
    rintro key output fault rfl ⟨result, hresult, hcompleted⟩
    obtain ⟨answer, hanswer, hanswers⟩ := get_answers hE hs' key output fault hresult hcompleted
    simp only [exec, Option.some.injEq, Prod.mk.injEq] at hexec
    refine ⟨answer, (s.get key output fault).2.2, ?_, hanswers⟩
    rw [← hexec.2, hanswer]

end SequentialStore

/-- How a call on the flash in memory ends. A mutation that does not return well
may have written its record or not. -/
inductive RamFault
  | none
  | failed (written : Bool)
  | powerLost (written : Bool)
  deriving DecidableEq

/-- A flash in memory that keeps one record for each key. -/
def ramEngine : Engine Unit where
  Flash := UInt32 → Option (List UInt8)
  Fault := RamFault
  capacity _ := 1024
  tryConfig _ _ := .ok ()
  records flash := flash
  fetchItem fault flash _ raw :=
    match fault with
    | .none => (flash, some (fetched (flash raw)))
    | .failed _ => (flash, some (.error (.storage ())))
    | .powerLost _ => (flash, Option.none)
  storeItem fault flash size raw value :=
    match value.serializeInto (List.replicate (size - keySize) 0) with
    | .error error => (flash, some (.error (.serializationError error)))
    | .ok (written, len) =>
        let stored := Function.update flash raw (some (written.take len))
        match fault with
        | .none => (stored, some (.ok ()))
        | .failed done => (if done then stored else flash, some (.error (.storage ())))
        | .powerLost done => (if done then stored else flash, Option.none)
  eraseAll fault flash :=
    match fault with
    | .none => (fun _ => Option.none, some (.ok ()))
    | .failed _ => (flash, some (.error (.storage ())))
    | .powerLost _ => (flash, Option.none)

theorem ramEngine_isMap : ramEngine.IsMap := by
  have hserializes : ∀ (value : StoredValue) size written len,
      value.serializeInto (List.replicate (size - keySize) 0) = .ok (written, len) →
        value.Serializes (size - keySize) (written.take len) := by
    intro value size written len h
    exact ⟨_, written, len, List.length_replicate, h, rfl⟩
  constructor
  · intro fault flash size raw
    cases fault <;> rfl
  · intro fault flash size raw result hresult hcompleted
    cases fault with
    | none => exact (Option.some.inj hresult).symm
    | failed written =>
        obtain rfl := Option.some.inj hresult
        exact hcompleted.elim
    | powerLost written => simp [ramEngine] at hresult
  · intro fault flash size raw value hok
    simp only [ramEngine] at hok ⊢
    cases h : value.serializeInto (List.replicate (size - keySize) 0) with
    | error error => simp [h] at hok
    | ok pair =>
        cases fault with
        | none => exact ⟨_, hserializes value size pair.1 pair.2 h, rfl⟩
        | failed written => simp [h] at hok
        | powerLost written => simp [h] at hok
  · intro fault flash size raw value
    simp only [ramEngine]
    cases h : value.serializeInto (List.replicate (size - keySize) 0) with
    | error error => exact .inl rfl
    | ok pair =>
        have hser := hserializes value size pair.1 pair.2 h
        cases fault with
        | none => exact .inr ⟨_, hser, rfl⟩
        | failed written =>
            cases written with
            | false => exact .inl rfl
            | true => exact .inr ⟨_, hser, rfl⟩
        | powerLost written =>
            cases written with
            | false => exact .inl rfl
            | true => exact .inr ⟨_, hser, rfl⟩
  · intro fault flash hok raw
    cases fault with
    | none => rfl
    | failed written => simp [ramEngine] at hok
    | powerLost written => simp [ramEngine] at hok

/-- An interrupted update and an interrupted deletion, with the store opened
again after each. -/
def ramCalls : List (Call ramEngine) :=
  [.put ⟨4, 2⟩ [1, 2, 3] .none, .put ⟨4, 2⟩ [9] (.powerLost false), .reopen,
    .get ⟨4, 2⟩ [0, 0, 0, 0] .none, .delete ⟨4, 2⟩ (.powerLost true), .reopen,
    .get ⟨4, 2⟩ [7] .none, .clear .none]

theorem ramCalls_refine_map :
    ∃ s₀ : SequentialStore ramEngine 64, SequentialStore.new ramEngine 64 (fun _ => none) 0 1024 =
        .ok s₀ ∧ (run step s₀ ramCalls).isSome ∧
      ∃ M : List (Call ramEngine) → Contents, M [] = (fun _ => none) ∧
        EachStep step s₀ ramCalls fun past s call => ∀ t reply, s.exec call = some (t, reply) →
          Applies 64 (M past) (M (past ++ [call])) call reply ∧
          ∀ key output fault, call = .get key output fault → call.FetchCompletes s →
            ∃ result output', reply = .fetched (some result) output' ∧
              Answers (M past) key output result output' := by
  have hnew : SequentialStore.new ramEngine 64 (fun _ => none) 0 1024 =
      .ok ⟨fun _ => none, 0, 1024⟩ := rfl
  refine ⟨_, hnew, rfl, ?_⟩
  refine store_refines_map ramEngine_isMap hnew (fun _ => rfl) ramCalls ?_
  intro past call hp s _
  have hmem : call ∈ ramCalls := hp.subset (by simp)
  simp only [ramCalls, List.mem_cons, List.not_mem_nil, or_false] at hmem
  rcases hmem with rfl | rfl | rfl | rfl | rfl | rfl | rfl | rfl
  all_goals first | exact trivial | rfl

end EmbeddedSdk.Storage
