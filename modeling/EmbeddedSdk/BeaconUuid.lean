import EmbeddedSdk.AsciiText
import Mathlib.Tactic.IntervalCases

/-!
# Beacon UUIDs as text

A UUID is parsed by a loop with two cursors: one over the bytes of the text, which
skips hyphens and reads two digits at a time, and one over the sixteen bytes of the
value. An index out of range would panic; a call that panics has no result. The
formatter places its hyphens by the index of the byte.
-/
namespace EmbeddedSdk.Bluetooth
open AsciiText

/-- Error returned while constructing a Bluetooth value. -/
inductive ConfigError
  | emptyDeviceName
  | deviceNameTooLong
  | invalidBeaconUuid
  | advertisingIntervalOutOfRange
  deriving DecidableEq, Repr

/-- A 128-bit beacon proximity UUID in network byte order. -/
structure BeaconUuid where
  bytes : Vector UInt8 16
  deriving DecidableEq

/-- The value of a hexadecimal digit. The bytes 48, 97 and 65 are `0`, `a` and `A`. -/
def decodeHex (value : UInt8) : Except ConfigError UInt8 :=
  if 48 ≤ value ∧ value ≤ 57 then .ok (value - 48)
  else if 97 ≤ value ∧ value ≤ 102 then .ok (value - 97 + 10)
  else if 65 ≤ value ∧ value ≤ 70 then .ok (value - 65 + 10)
  else .error .invalidBeaconUuid

/-- The offsets of the four hyphens in the text. -/
def hyphenOffsets : List ℕ := [8, 13, 18, 23]

/-- The bytes that a hyphen is written in front of. -/
def hyphenBytes : List ℕ := [4, 6, 8, 10]

/-- Reads whether a byte of the text is no hyphen. -/
def lacksHyphen (source : List UInt8) (offset : ℕ) : Option Bool := source[offset]?.map (· != 45)

namespace BeaconUuid

/-- The loop of `parse` from the present values of its variables. -/
def parseLoop (source : List UInt8) (bytes : Vector UInt8 16) (sourceIndex byteIndex : ℕ) :
    Option (Except ConfigError BeaconUuid) :=
  if sourceIndex < source.length then
    if sourceIndex ∈ hyphenOffsets then parseLoop source bytes (sourceIndex + 1) byteIndex
    else
      match source[sourceIndex]?.map decodeHex with
      | none => none
      | some (.error error) => some (.error error)
      | some (.ok high) =>
          match source[sourceIndex + 1]?.map decodeHex with
          | none => none
          | some (.error error) => some (.error error)
          | some (.ok low) =>
              if h : byteIndex < 16 then
                parseLoop source (bytes.set byteIndex ((high <<< 4) ||| low)) (sourceIndex + 2)
                  (byteIndex + 1)
              else none
  else some (.ok ⟨bytes⟩)
termination_by source.length - sourceIndex

/-- Parses a canonical UUID, unless the call panics. The hyphens are tested only
when the length is right, and one after the other. -/
def parse (value : String) : Option (Except ConfigError BeaconUuid) :=
  let source := value.toUTF8.data.toList
  if source.length ≠ 36 then some (.error .invalidBeaconUuid)
  else
    match hyphenOffsets.anyM (lacksHyphen source) with
    | none => none
    | some true => some (.error .invalidBeaconUuid)
    | some false => parseLoop source (.replicate 16 0) 0 0

/-- A byte as two lower-case digits. -/
def hexByte (byte : UInt8) : List Char :=
  [Nat.digitChar (byte.toNat / 16), Nat.digitChar (byte.toNat % 16)]

/-- The hyphen in front of a byte, if there is one. -/
def hyphen (index : ℕ) : List Char := if index ∈ hyphenBytes then ['-'] else []

/-- The text of the bytes from an index on. -/
def displayFrom (index : ℕ) : List UInt8 → List Char
  | [] => []
  | byte :: bytes => hyphen index ++ hexByte byte ++ displayFrom (index + 1) bytes

/-- The canonical text of a UUID. -/
def display (u : BeaconUuid) : String := .ofList (displayFrom 0 u.bytes.toList)

/-- Where the text of a byte starts, with its hyphen. -/
def resume : ℕ → ℕ
  | 0 => 0
  | index + 1 => resume index + (hyphen index).length + 2

/-- Where the digits of a byte start. -/
def offset (index : ℕ) : ℕ := resume index + (hyphen index).length

theorem resume_succ (index : ℕ) : resume (index + 1) = offset index + 2 := rfl

end BeaconUuid

def isHexDigit (byte : UInt8) : Bool :=
  (48 ≤ byte && byte ≤ 57) || (97 ≤ byte && byte ≤ 102) || (65 ≤ byte && byte ≤ 70)

/-- The text has 36 bytes: four hyphens in their places, and digits elsewhere. -/
def IsCanonical (value : String) : Prop :=
  value.toUTF8.size = 36 ∧ ∀ i byte, value.toUTF8.data.toList[i]? = some byte →
    if i ∈ hyphenOffsets then byte = 45 else isHexDigit byte = true

/-- Lowers the letters `A` to `F`. -/
def lowerHex (c : Char) : Char :=
  if 'A' ≤ c ∧ c ≤ 'F' then .ofNat (c.toNat + 32) else c

theorem decodeHex_isOk (byte : UInt8) :
    (∃ value, decodeHex byte = .ok value) ↔ isHexDigit byte = true := by
  simp only [decodeHex, isHexDigit, Bool.or_eq_true, Bool.and_eq_true, decide_eq_true_eq]
  split
  · rename_i h
    simp [h]
  · split
    · rename_i h
      simp [h]
    · split
      · rename_i h
        simp [h]
      · rename_i h₁ h₂ h₃
        simp [h₁, h₂, h₃]

theorem isHexDigit_lt (byte : UInt8) (h : isHexDigit byte = true) : byte.toNat < 128 := by
  simp only [isHexDigit, Bool.or_eq_true, Bool.and_eq_true, decide_eq_true_eq,
    UInt8.le_iff_toNat_le] at h
  rcases h with (⟨-, h⟩ | ⟨-, h⟩) | ⟨-, h⟩
  · exact Nat.lt_of_le_of_lt h (by decide)
  · exact Nat.lt_of_le_of_lt h (by decide)
  · exact Nat.lt_of_le_of_lt h (by decide)

/-- A digit is its value written in lower case. -/
theorem digitChar_of_decodeHex {c : Char} (hc : c.toNat < 128) {value : UInt8}
    (h : decodeHex (byteOf c) = .ok value) :
    value.toNat < 16 ∧ Nat.digitChar value.toNat = lowerHex c := by
  have hall : ∀ n < 128, ∀ value, decodeHex (byteOf (.ofNat n)) = .ok value →
      value.toNat < 16 ∧ Nat.digitChar value.toNat = lowerHex (.ofNat n) := by
    have hcheck : ∀ n < 128, (match decodeHex (byteOf (.ofNat n)) with
        | .ok value => decide (value.toNat < 16 ∧
            Nat.digitChar value.toNat = lowerHex (.ofNat n))
        | .error _ => true) = true := by
      decide +kernel
    intro n hn value hvalue
    have hn' := hcheck n hn
    rw [hvalue] at hn'
    exact of_decide_eq_true hn'
  have hn := hall c.toNat hc
  rw [Char.ofNat_toNat] at hn
  exact hn value h

theorem decodeHex_digitChar {n : ℕ} (h : n < 16) :
    decodeHex (byteOf (Nat.digitChar n)) = .ok (.ofNat n) := by
  have hall : ∀ n < 16, decodeHex (byteOf (Nat.digitChar n)) = .ok (.ofNat n) := by decide
  exact hall n h

theorem toNat_shiftLeft_or {high low : UInt8} (hhigh : high.toNat < 16) (hlow : low.toNat < 16) :
    ((high <<< 4) ||| low).toNat = 16 * high.toNat + low.toNat := by
  have hall : ∀ n < 16, ∀ m < 16,
      (((.ofNat n : UInt8) <<< 4) ||| .ofNat m).toNat = 16 * n + m := by
    decide +kernel
  have hn := hall high.toNat hhigh low.toNat hlow
  rwa [UInt8.ofNat_toNat, UInt8.ofNat_toNat] at hn

namespace BeaconUuid

/-- The byte that the two digits at an offset denote. -/
def readByte (source : List UInt8) (offset : ℕ) : Except ConfigError UInt8 :=
  match decodeHex (source.getD offset 0) with
  | .error error => .error error
  | .ok high =>
      match decodeHex (source.getD (offset + 1) 0) with
      | .error error => .error error
      | .ok low => .ok ((high <<< 4) ||| low)

theorem readByte_eq_ok {source : List UInt8} {i : ℕ} {value : UInt8} :
    readByte source i = .ok value ↔ ∃ high low, decodeHex (source.getD i 0) = .ok high ∧
      decodeHex (source.getD (i + 1) 0) = .ok low ∧ value = (high <<< 4) ||| low := by
  unfold readByte
  cases decodeHex (source.getD i 0) with
  | error e => simp
  | ok high =>
      cases decodeHex (source.getD (i + 1) 0) with
      | error e => simp
      | ok low => simp [eq_comm]

section Loop

variable {source : List UInt8} {bytes : Vector UInt8 16}

theorem getElem?_eq_some_getD {i : ℕ} (h : i < source.length) :
    source[i]? = some (source.getD i 0) := by
  rw [List.getD_eq_getElem?_getD, List.getElem?_eq_getElem h, Option.getD_some]

theorem parseLoop_hyphen {i k : ℕ} (hi : i < source.length) (h : i ∈ hyphenOffsets) :
    parseLoop source bytes i k = parseLoop source bytes (i + 1) k := by
  rw [parseLoop, if_pos hi, if_pos h]

/-- Two digits that are both inside the text become one byte. -/
theorem parseLoop_digits {i k : ℕ} (hi : i + 1 < source.length) (h : i ∉ hyphenOffsets)
    (hk : k < 16) :
    parseLoop source bytes i k =
      match readByte source i with
      | .error error => some (.error error)
      | .ok value => parseLoop source (bytes.set k value) (i + 2) (k + 1) := by
  have hfirst : i < source.length := by omega
  rw [parseLoop, if_pos hfirst, if_neg h, getElem?_eq_some_getD hfirst, getElem?_eq_some_getD hi,
    readByte]
  simp only [Option.map_some]
  cases decodeHex (source.getD i 0) with
  | error e => rfl
  | ok high =>
      cases decodeHex (source.getD (i + 1) 0) with
      | error e => rfl
      | ok low => simp only [dif_pos hk]

/-- Where the digits of a byte stand in the text. -/
theorem offset_spec {k : ℕ} (hk : k < 16) :
    offset k + 1 < 36 ∧ offset k ∉ hyphenOffsets ∧ offset k + 1 ∉ hyphenOffsets ∧
      (offset k = resume k ∨ offset k = resume k + 1 ∧ resume k ∈ hyphenOffsets) := by
  have hall : ∀ k < 16, offset k + 1 < 36 ∧ offset k ∉ hyphenOffsets ∧
      offset k + 1 ∉ hyphenOffsets ∧
      (offset k = resume k ∨ offset k = resume k + 1 ∧ resume k ∈ hyphenOffsets) := by
    decide
  exact hall k hk

/-- One byte of the loop: a hyphen is skipped, the digits never straddle one and
never leave the text. -/
theorem parseLoop_resume (hlength : source.length = 36) {k : ℕ} (hk : k < 16) :
    parseLoop source bytes (resume k) k =
      match readByte source (offset k) with
      | .error error => some (.error error)
      | .ok value => parseLoop source (bytes.set k value) (resume (k + 1)) (k + 1) := by
  obtain ⟨hlt, hdigit, -, hskip⟩ := offset_spec hk
  have hdigits : parseLoop source bytes (offset k) k =
      match readByte source (offset k) with
      | .error error => some (.error error)
      | .ok value => parseLoop source (bytes.set k value) (resume (k + 1)) (k + 1) := by
    rw [resume_succ]
    exact parseLoop_digits (by omega) hdigit hk
  rcases hskip with heq | ⟨heq, hhyphen⟩
  · rw [← heq]
    exact hdigits
  · rw [parseLoop_hyphen (by omega) hhyphen, ← heq]
    exact hdigits

/-- The UUID has the bytes read so far, and the others are those that the digits from
here on denote. -/
structure Completes (source : List UInt8) (k : ℕ) (bytes : Vector UInt8 16) (u : BeaconUuid) :
    Prop where
  done : ∀ j (hj : j < 16), j < k → u.bytes[j] = bytes[j]
  rest : ∀ j (hj : j < 16), k ≤ j → readByte source (offset j) = .ok u.bytes[j]

/-- At the end only the bytes themselves are left. -/
theorem completes_end {u : BeaconUuid} : Completes source 16 bytes u ↔ ⟨bytes⟩ = u := by
  constructor
  · intro h
    obtain ⟨ubytes⟩ := u
    congr 1
    ext j hj
    rw [← h.done j hj hj]
  · rintro rfl
    exact ⟨fun j hj _ => rfl, fun j hj hle => by omega⟩

/-- Storing the byte that was read leaves the same completions. -/
theorem completes_succ {k : ℕ} (hk : k < 16) {value : UInt8}
    (hread : readByte source (offset k) = .ok value) {u : BeaconUuid} :
    Completes source (k + 1) (bytes.set k value) u ↔ Completes source k bytes u := by
  constructor
  · intro h
    constructor
    · intro j hj hlt
      rw [h.done j hj (by omega), Vector.getElem_set_ne _ _ (by omega)]
    · intro j hj hle
      by_cases hjk : j = k
      · subst hjk
        rw [hread, h.done j hj (by omega), Vector.getElem_set_self]
      · exact h.rest j hj (by omega)
  · intro h
    constructor
    · intro j hj hlt
      by_cases hjk : j = k
      · subst hjk
        have hj' := h.rest j hj le_rfl
        rw [hread, Except.ok.injEq] at hj'
        rw [Vector.getElem_set_self, hj']
      · rw [Vector.getElem_set_ne _ _ (by omega)]
        exact h.done j hj (by omega)
    · intro j hj hle
      exact h.rest j hj (by omega)

/-- The loop ends, and it returns the bytes that all the digits denote. -/
theorem parseLoop_spec (hlength : source.length = 36) (n : ℕ) {k : ℕ} (hn : k + n = 16)
    (bytes : Vector UInt8 16) :
    ∃ r, parseLoop source bytes (resume k) k = some r ∧
      ∀ u, r = .ok u ↔ Completes source k bytes u := by
  induction n generalizing k bytes with
  | zero =>
      have hk : k = 16 := by omega
      subst hk
      have hend : parseLoop source bytes (resume 16) 16 = some (.ok ⟨bytes⟩) := by
        rw [parseLoop, if_neg]
        rw [hlength]
        decide
      refine ⟨_, hend, ?_⟩
      intro u
      rw [Except.ok.injEq, completes_end]
  | succ n ih =>
      have hk : k < 16 := by omega
      rw [parseLoop_resume hlength hk]
      cases hread : readByte source (offset k) with
      | error e =>
          refine ⟨_, rfl, ?_⟩
          intro u
          simp only [reduceCtorEq, false_iff]
          intro h
          have hk' := h.rest k hk le_rfl
          rw [hread] at hk'
          simp at hk'
      | ok value =>
          obtain ⟨r, hr, hspec⟩ := ih (k := k + 1) (by omega) (bytes.set k value)
          refine ⟨r, hr, ?_⟩
          intro u
          rw [hspec, completes_succ hk hread]

/-- With the right length no read of a hyphen leaves the text. -/
theorem anyM_lacksHyphen (hlength : source.length = 36) :
    hyphenOffsets.anyM (lacksHyphen source) =
      some (hyphenOffsets.any fun i => source.getD i 0 != 45) := by
  have hread : ∀ i < 36, lacksHyphen source i = some (source.getD i 0 != 45) := by
    intro i hi
    rw [lacksHyphen, getElem?_eq_some_getD (by omega), Option.map_some]
  simp only [hyphenOffsets, List.anyM, hread 8 (by omega), hread 13 (by omega),
    hread 18 (by omega), hread 23 (by omega), List.any]
  cases source.getD 8 0 != 45 <;> cases source.getD 13 0 != 45 <;>
    cases source.getD 18 0 != 45 <;> cases source.getD 23 0 != 45 <;> rfl

end Loop

/-- The text has the right length, its hyphens, and the digits of the UUID. -/
structure Spells (source : List UInt8) (u : BeaconUuid) : Prop where
  length : source.length = 36
  hyphens : ∀ i ∈ hyphenOffsets, source.getD i 0 = 45
  digits : ∀ j (hj : j < 16), readByte source (offset j) = .ok u.bytes[j]

/-- Parsing never panics, and it returns the UUID that the text spells. -/
theorem parse_spec (value : String) :
    ∃ r, parse value = some r ∧ ∀ u, r = .ok u ↔ Spells value.toUTF8.data.toList u := by
  unfold parse
  dsimp only
  generalize value.toUTF8.data.toList = source
  by_cases hlength : source.length = 36
  · rw [if_neg (not_not_intro hlength), anyM_lacksHyphen hlength]
    cases hany : hyphenOffsets.any fun i => source.getD i 0 != 45 with
    | true =>
        refine ⟨_, rfl, ?_⟩
        intro u
        simp only [reduceCtorEq, false_iff]
        intro hspells
        obtain ⟨i, hi, hne⟩ := List.any_eq_true.mp hany
        exact absurd (hspells.hyphens i hi) (by simpa using hne)
    | false =>
        obtain ⟨r, hr, hspec⟩ := parseLoop_spec hlength 16 (k := 0) rfl (.replicate 16 0)
        refine ⟨r, hr, ?_⟩
        intro u
        have hhyphens : ∀ i ∈ hyphenOffsets, source.getD i 0 = 45 := by
          intro i hi
          simpa using List.any_eq_false.mp hany i hi
        rw [hspec]
        constructor
        · intro h
          exact ⟨hlength, hhyphens, fun j hj => h.rest j hj (Nat.zero_le j)⟩
        · intro h
          exact ⟨fun j _ hlt => absurd hlt (Nat.not_lt_zero j), fun j hj _ => h.digits j hj⟩
  · rw [if_pos hlength]
    refine ⟨_, rfl, ?_⟩
    intro u
    simp only [reduceCtorEq, false_iff]
    intro hspells
    exact hlength hspells.length

/-- Every offset holds a hyphen or one of the digits of a byte. -/
theorem offset_cases {i : ℕ} (hi : i < 36) :
    i ∈ hyphenOffsets ∨ ∃ j < 16, i = offset j ∨ i = offset j + 1 := by
  have hall : ∀ i < 36, i ∈ hyphenOffsets ∨ ∃ j < 16, i = offset j ∨ i = offset j + 1 := by decide
  exact hall i hi

/-- The bytes of a canonical text. -/
def CanonicalBytes (source : List UInt8) : Prop :=
  source.length = 36 ∧ ∀ i byte, source[i]? = some byte →
    if i ∈ hyphenOffsets then byte = 45 else isHexDigit byte = true

section Canonical

variable {source : List UInt8}

theorem Spells.canonical {u : BeaconUuid} (h : Spells source u) : CanonicalBytes source := by
  refine ⟨h.length, ?_⟩
  intro i byte hbyte
  have hi : i < 36 := by
    have hlt := (List.getElem?_eq_some_iff.mp hbyte).1
    have hlength := h.length
    omega
  have hvalue : source.getD i 0 = byte := by
    rw [List.getD_eq_getElem?_getD, hbyte, Option.getD_some]
  rcases offset_cases hi with hhyphen | ⟨j, hj, hdigit⟩
  · rw [if_pos hhyphen, ← hvalue]
    exact h.hyphens i hhyphen
  · obtain ⟨high, low, hhigh, hlow, -⟩ := readByte_eq_ok.mp (h.digits j hj)
    obtain ⟨-, hfirst, hsecond, -⟩ := offset_spec hj
    rcases hdigit with rfl | rfl
    · rw [if_neg hfirst, ← decodeHex_isOk, ← hvalue]
      exact ⟨high, hhigh⟩
    · rw [if_neg hsecond, ← decodeHex_isOk, ← hvalue]
      exact ⟨low, hlow⟩

theorem CanonicalBytes.getD (h : CanonicalBytes source) {i : ℕ} (hi : i < 36) :
    if i ∈ hyphenOffsets then source.getD i 0 = 45 else isHexDigit (source.getD i 0) = true := by
  have hlength := h.1
  exact h.2 i _ (getElem?_eq_some_getD (by omega))

/-- The digits of a byte can be read. -/
theorem CanonicalBytes.readByte_ok (h : CanonicalBytes source) {j : ℕ} (hj : j < 16) :
    ∃ value, readByte source (offset j) = .ok value := by
  obtain ⟨hlt, hfirst, hsecond, -⟩ := offset_spec hj
  have hhigh := h.getD (i := offset j) (by omega)
  have hlow := h.getD hlt
  rw [if_neg hfirst, ← decodeHex_isOk] at hhigh
  rw [if_neg hsecond, ← decodeHex_isOk] at hlow
  obtain ⟨high, hhigh⟩ := hhigh
  obtain ⟨low, hlow⟩ := hlow
  exact ⟨_, readByte_eq_ok.mpr ⟨high, low, hhigh, hlow, rfl⟩⟩

theorem CanonicalBytes.exists_spells (h : CanonicalBytes source) : ∃ u, Spells source u := by
  have hread : ∀ j : Fin 16, ∃ value, readByte source (offset j) = .ok value :=
    fun j => h.readByte_ok j.isLt
  choose bytes hbytes using hread
  refine ⟨⟨.ofFn bytes⟩, h.1, ?_, ?_⟩
  · intro i hi
    have hlt : ∀ i ∈ hyphenOffsets, i < 36 := by decide
    have hhyphen := h.getD (hlt i hi)
    rwa [if_pos hi] at hhyphen
  · intro j hj
    rw [Vector.getElem_ofFn]
    exact hbytes ⟨j, hj⟩

end Canonical

/-- Text that spells a UUID is canonical text. -/
theorem exists_spells_iff (value : String) :
    (∃ u, Spells value.toUTF8.data.toList u) ↔ IsCanonical value := by
  constructor
  · rintro ⟨u, hspells⟩
    exact hspells.canonical
  · exact CanonicalBytes.exists_spells

section Display

variable {bytes : List UInt8}

theorem length_displayFrom (k : ℕ) (bytes : List UInt8) :
    resume k + (displayFrom k bytes).length = resume (k + bytes.length) := by
  induction bytes generalizing k with
  | nil => rfl
  | cons byte bytes ih =>
      have htail := ih (k + 1)
      have hindex : k + (bytes.length + 1) = k + 1 + bytes.length := by omega
      rw [List.length_cons, hindex, ← htail, displayFrom, resume]
      simp only [List.length_append, hexByte, List.length_cons, List.length_nil]
      omega

/-- The text of the later bytes starts where the earlier ones end. -/
theorem drop_displayFrom {k : ℕ} (hk : k ≤ bytes.length) :
    (displayFrom 0 bytes).drop (resume k) = displayFrom k (bytes.drop k) := by
  induction k with
  | zero => rfl
  | succ k ih =>
      have hlt : k < bytes.length := by omega
      have hlength : (hyphen k ++ hexByte bytes[k]).length = (hyphen k).length + 2 := by
        simp [hexByte]
      rw [resume, Nat.add_assoc, ← List.drop_drop, ih (by omega), List.drop_eq_getElem_cons hlt,
        displayFrom, ← hlength, List.drop_left]

theorem displayFrom_ascii {k : ℕ} {c : Char} (h : c ∈ displayFrom k bytes) : c.toNat < 128 := by
  induction bytes generalizing k with
  | nil => simp [displayFrom] at h
  | cons byte bytes ih =>
      rw [displayFrom, List.mem_append, List.mem_append] at h
      rcases h with (hhyphen | hdigit) | htail
      · unfold hyphen at hhyphen
        split at hhyphen
        · rw [List.mem_singleton.mp hhyphen]
          decide
        · simp at hhyphen
      · have hall : ∀ n < 16, (Nat.digitChar n).toNat < 128 := by decide
        have hbyte := byte.toNat_lt
        rw [hexByte, List.mem_cons, List.mem_singleton] at hdigit
        rcases hdigit with rfl | rfl
        · exact hall _ (by omega)
        · exact hall _ (by omega)
      · exact ih htail

/-- What stands at the place of a byte in the text. -/
theorem displayFrom_getElem? {k : ℕ} (hk : k < bytes.length) :
    (k ∈ hyphenBytes → (displayFrom 0 bytes)[resume k]? = some '-') ∧
      (displayFrom 0 bytes)[offset k]? = some (Nat.digitChar (bytes[k].toNat / 16)) ∧
      (displayFrom 0 bytes)[offset k + 1]? = some (Nat.digitChar (bytes[k].toNat % 16)) := by
  have hdrop : (displayFrom 0 bytes).drop (resume k) =
      hyphen k ++ (hexByte bytes[k] ++ displayFrom (k + 1) (bytes.drop (k + 1))) := by
    rw [drop_displayFrom (by omega), List.drop_eq_getElem_cons hk, displayFrom, List.append_assoc]
  refine ⟨?_, ?_, ?_⟩
  · intro hmem
    rw [← Nat.add_zero (resume k), ← List.getElem?_drop, hdrop, hyphen, if_pos hmem]
    rfl
  · rw [offset, ← List.getElem?_drop, hdrop, List.getElem?_append_right (Nat.le_refl _),
      Nat.sub_self]
    rfl
  · rw [offset, Nat.add_assoc, ← List.getElem?_drop, hdrop,
      List.getElem?_append_right (Nat.le_add_right _ _), Nat.add_sub_cancel_left]
    rfl

end Display

/-- The hyphens that the parser expects are those that the formatter writes. -/
theorem hyphenOffsets_eq {i : ℕ} (h : i ∈ hyphenOffsets) :
    ∃ k < 16, k ∈ hyphenBytes ∧ i = resume k := by
  have hall : ∀ i ∈ hyphenOffsets, ∃ k < 16, k ∈ hyphenBytes ∧ i = resume k := by decide
  exact hall i h

theorem length_display (u : BeaconUuid) : (displayFrom 0 u.bytes.toList).length = 36 := by
  have hlength := length_displayFrom 0 u.bytes.toList
  rw [Vector.length_toList] at hlength
  have hend : resume (0 + 16) = 36 := by decide
  have hstart : resume 0 = 0 := rfl
  omega

theorem display_toUTF8 (u : BeaconUuid) :
    u.display.toUTF8.data.toList = (displayFrom 0 u.bytes.toList).map byteOf := by
  rw [toUTF8_toList, display, String.toList_ofList]
  exact flatMap_utf8EncodeChar fun c hc => displayFrom_ascii hc

/-- The text that the formatter writes spells the UUID. -/
theorem display_spells (u : BeaconUuid) : Spells u.display.toUTF8.data.toList u := by
  have hget : ∀ i c, (displayFrom 0 u.bytes.toList)[i]? = some c →
      ((displayFrom 0 u.bytes.toList).map byteOf).getD i 0 = byteOf c := by
    intro i c h
    rw [List.getD_eq_getElem?_getD, List.getElem?_map, h, Option.map_some, Option.getD_some]
  have hcount : u.bytes.toList.length = 16 := u.bytes.length_toList
  rw [display_toUTF8]
  refine ⟨?_, ?_, ?_⟩
  · rw [List.length_map, length_display]
  · intro i hi
    obtain ⟨k, hk, hmem, rfl⟩ := hyphenOffsets_eq hi
    have hhyphen := (displayFrom_getElem? (by omega : k < u.bytes.toList.length)).1 hmem
    rw [hget _ _ hhyphen]
    rfl
  · intro j hj
    obtain ⟨-, hhigh, hlow⟩ := displayFrom_getElem? (by omega : j < u.bytes.toList.length)
    have hbyte := u.bytes[j].toNat_lt
    rw [Vector.getElem_toList] at hhigh hlow
    refine readByte_eq_ok.mpr ⟨.ofNat (u.bytes[j].toNat / 16), .ofNat (u.bytes[j].toNat % 16),
      ?_, ?_, ?_⟩
    · rw [hget _ _ hhigh, decodeHex_digitChar (by omega)]
    · rw [hget _ _ hlow, decodeHex_digitChar (by omega)]
    · apply UInt8.toNat_inj.mp
      have hdiv : (UInt8.ofNat (u.bytes[j].toNat / 16)).toNat = u.bytes[j].toNat / 16 := by
        rw [UInt8.toNat_ofNat']
        omega
      have hmod : (UInt8.ofNat (u.bytes[j].toNat % 16)).toNat = u.bytes[j].toNat % 16 := by
        rw [UInt8.toNat_ofNat']
        omega
      rw [toNat_shiftLeft_or (by omega) (by omega), hdiv, hmod]
      omega

/-- Text that spells a UUID is ASCII. -/
theorem Spells.ascii {value : String} {u : BeaconUuid} (h : Spells value.toUTF8.data.toList u) :
    value.toUTF8.data.toList = value.toList.map byteOf ∧ ∀ c ∈ value.toList, c.toNat < 128 := by
  have hcanonical := h.canonical
  have hall : value.toUTF8.data.toList.all (fun byte => decide (byte.toNat < 128)) = true := by
    rw [List.all_eq_true]
    intro byte hbyte
    obtain ⟨i, hi⟩ := List.mem_iff_getElem?.mp hbyte
    have hshape := hcanonical.2 i byte hi
    rw [decide_eq_true_eq]
    split at hshape
    · rw [hshape]
      decide
    · exact isHexDigit_lt byte hshape
  rw [toUTF8_toList, all_flatMap_utf8EncodeChar fun b hb => of_decide_eq_true hb] at hall
  have hascii : ∀ c ∈ value.toList, c.toNat < 128 := fun c hc => (hall c hc).1
  exact ⟨by rw [toUTF8_toList, flatMap_utf8EncodeChar hascii], hascii⟩

section Characters

variable {text : List Char} {u : BeaconUuid}

theorem getD_map_byteOf (hascii : ∀ c ∈ text, c.toNat < 128) (hlength : text.length = 36) {i : ℕ}
    (hi : i < 36) :
    ∃ c, text[i]? = some c ∧ c.toNat < 128 ∧ (text.map byteOf).getD i 0 = byteOf c := by
  have hget : text[i]? = some text[i] := List.getElem?_eq_getElem (by omega)
  refine ⟨_, hget, hascii _ (List.getElem_mem _), ?_⟩
  rw [List.getD_eq_getElem?_getD, List.getElem?_map, hget, Option.map_some, Option.getD_some]

theorem Spells.hyphen_char (h : Spells (text.map byteOf) u)
    (hascii : ∀ c ∈ text, c.toNat < 128) {i : ℕ} (hi : i ∈ hyphenOffsets) :
    text[i]? = some '-' := by
  have hlength : text.length = 36 := by rw [← h.length, List.length_map]
  have hlt : ∀ i ∈ hyphenOffsets, i < 36 := by decide
  obtain ⟨c, hc, hclt, hbyte⟩ := getD_map_byteOf hascii hlength (hlt i hi)
  have hvalue := h.hyphens i hi
  rw [hbyte] at hvalue
  have hall : ∀ n < 128, byteOf (.ofNat n) = 45 → Char.ofNat n = '-' := by decide
  have hdash := hall c.toNat hclt
  rw [Char.ofNat_toNat] at hdash
  rw [hc, hdash hvalue]

/-- The two digits of a byte in the text, in lower case. -/
theorem Spells.digit_chars (h : Spells (text.map byteOf) u)
    (hascii : ∀ c ∈ text, c.toNat < 128) {j : ℕ} (hj : j < 16) :
    ∃ high low, text[offset j]? = some high ∧ text[offset j + 1]? = some low ∧
      Nat.digitChar (u.bytes[j].toNat / 16) = lowerHex high ∧
      Nat.digitChar (u.bytes[j].toNat % 16) = lowerHex low := by
  have hlength : text.length = 36 := by rw [← h.length, List.length_map]
  obtain ⟨hoffset, -⟩ := offset_spec hj
  obtain ⟨c₁, hc₁, hlt₁, hbyte₁⟩ := getD_map_byteOf hascii hlength (by omega : offset j < 36)
  obtain ⟨c₂, hc₂, hlt₂, hbyte₂⟩ := getD_map_byteOf hascii hlength hoffset
  obtain ⟨high, low, hhigh, hlow, hvalue⟩ := readByte_eq_ok.mp (h.digits j hj)
  rw [hbyte₁] at hhigh
  rw [hbyte₂] at hlow
  obtain ⟨hhigh16, hhighChar⟩ := digitChar_of_decodeHex hlt₁ hhigh
  obtain ⟨hlow16, hlowChar⟩ := digitChar_of_decodeHex hlt₂ hlow
  have hsum := toNat_shiftLeft_or hhigh16 hlow16
  rw [← hvalue] at hsum
  have hdiv : u.bytes[j].toNat / 16 = high.toNat := by omega
  have hmod : u.bytes[j].toNat % 16 = low.toNat := by omega
  exact ⟨c₁, c₂, hc₁, hc₂, by rw [hdiv, hhighChar], by rw [hmod, hlowChar]⟩

/-- Text that spells a UUID is its formatted text but for the case of letters. -/
theorem Spells.displayFrom_eq (h : Spells (text.map byteOf) u)
    (hascii : ∀ c ∈ text, c.toNat < 128) :
    displayFrom 0 u.bytes.toList = text.map lowerHex := by
  have hlength : text.length = 36 := by rw [← h.length, List.length_map]
  have hcount : u.bytes.toList.length = 16 := u.bytes.length_toList
  apply List.ext_getElem?
  intro i
  rw [List.getElem?_map]
  by_cases hi : i < 36
  · rcases offset_cases hi with hhyphen | ⟨j, hj, hdigit⟩
    · obtain ⟨k, hk, hmem, rfl⟩ := hyphenOffsets_eq hhyphen
      have hshown := (displayFrom_getElem? (by omega : k < u.bytes.toList.length)).1 hmem
      rw [hshown, h.hyphen_char hascii hhyphen]
      rfl
    · obtain ⟨high, low, hhigh, hlow, hhighChar, hlowChar⟩ := h.digit_chars hascii hj
      obtain ⟨-, hfirst, hsecond⟩ := displayFrom_getElem? (by omega : j < u.bytes.toList.length)
      rw [Vector.getElem_toList] at hfirst hsecond
      rcases hdigit with rfl | rfl
      · rw [hfirst, hhigh, Option.map_some, hhighChar]
      · rw [hsecond, hlow, Option.map_some, hlowChar]
  · rw [List.getElem?_eq_none (by rw [length_display]; omega),
      List.getElem?_eq_none (by omega), Option.map_none]

end Characters

/-- Parsing never panics and accepts exactly the canonical texts; it reads back
whatever the formatter writes, and formatting what was parsed gives the text in
lower case. -/
theorem parse_display_inverse :
    (∀ s : String, ∃ r, parse s = some r ∧ ((∃ u, r = .ok u) ↔ IsCanonical s)) ∧
      (∀ u : BeaconUuid, parse u.display = some (.ok u)) ∧
      ∀ (s : String) (u : BeaconUuid), parse s = some (.ok u) →
        u.display = String.ofList (s.toList.map lowerHex) := by
  refine ⟨?_, ?_, ?_⟩
  · intro s
    obtain ⟨r, hr, hspec⟩ := parse_spec s
    refine ⟨r, hr, ?_⟩
    rw [← exists_spells_iff]
    exact exists_congr hspec
  · intro u
    obtain ⟨r, hr, hspec⟩ := parse_spec u.display
    rw [hr, (hspec u).mpr (display_spells u)]
  · intro s u hparse
    obtain ⟨r, hr, hspec⟩ := parse_spec s
    rw [hparse, Option.some.injEq] at hr
    have hspells := (hspec u).mp hr.symm
    obtain ⟨hbytes, hascii⟩ := hspells.ascii
    rw [hbytes] at hspells
    rw [display, hspells.displayFrom_eq hascii]

example : (parse "7A1E1000-4C2A-4F66-A1D4-3F55B55A1000").map (fun r => r.toOption.map display) =
    some (some "7a1e1000-4c2a-4f66-a1d4-3f55b55a1000") := by
  decide +kernel

end BeaconUuid

end EmbeddedSdk.Bluetooth
