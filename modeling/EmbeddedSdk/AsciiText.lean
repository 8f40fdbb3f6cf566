import Mathlib.Data.List.Basic

/-!
# ASCII text in UTF-8

ASCII characters are their own byte, and every byte of another character is 128
or more. A test of single bytes that lets only ASCII pass is therefore a test of
characters.
-/
namespace EmbeddedSdk.AsciiText

/-- The byte of an ASCII character. -/
def byteOf (c : Char) : UInt8 := .ofNat c.toNat

theorem utf8EncodeChar_ascii {c : Char} (h : c.toNat < 128) :
    String.utf8EncodeChar c = [byteOf c] := by
  have hle : c.val.toNat ≤ 127 := Nat.le_of_lt_succ h
  simp only [String.utf8EncodeChar, if_pos hle]
  rfl

theorem le_of_mem_utf8EncodeChar {c : Char} {b : UInt8} (h : 128 ≤ c.toNat)
    (hb : b ∈ String.utf8EncodeChar c) : 128 ≤ b.toNat := by
  have hgt : ¬ c.val.toNat ≤ 127 := Nat.not_le_of_lt h
  simp only [String.utf8EncodeChar, if_neg hgt] at hb
  split at hb
  · simp only [List.mem_cons, List.not_mem_nil, or_false] at hb
    rcases hb with rfl | rfl <;> rw [UInt8.toNat_ofNat'] <;> omega
  · split at hb
    · simp only [List.mem_cons, List.not_mem_nil, or_false] at hb
      rcases hb with rfl | rfl | rfl <;> rw [UInt8.toNat_ofNat'] <;> omega
    · simp only [List.mem_cons, List.not_mem_nil, or_false] at hb
      rcases hb with rfl | rfl | rfl | rfl <;> rw [UInt8.toNat_ofNat'] <;> omega

theorem toUTF8_toList (s : String) :
    s.toUTF8.data.toList = s.toList.flatMap String.utf8EncodeChar := by
  rw [String.toUTF8_eq_toByteArray, ← String.utf8Encode_toList, List.utf8Encode,
    List.toList_data_toByteArray]

/-- Without other characters there is one byte for each character. -/
theorem flatMap_utf8EncodeChar {text : List Char} (h : ∀ c ∈ text, c.toNat < 128) :
    text.flatMap String.utf8EncodeChar = text.map byteOf := by
  induction text with
  | nil => rfl
  | cons c text ih =>
      have hc := h c List.mem_cons_self
      have htail := ih fun d hd => h d (List.mem_cons_of_mem c hd)
      rw [List.flatMap_cons, utf8EncodeChar_ascii hc, htail, List.map_cons, List.singleton_append]

theorem toNat_ofNat_ascii {n : ℕ} (h : n < 128) : (Char.ofNat n).toNat = n := by
  have hvalid : n.isValidChar := .inl (by omega)
  rw [Char.toNat, Char.ofNat, dif_pos hvalid]
  rfl

/-- Bytes below 128 are text. -/
theorem exists_text_of_lt {bytes : List UInt8} (h : ∀ b ∈ bytes, b.toNat < 128) :
    ∃ text : String, text.toUTF8.data.toList = bytes := by
  have hbytes : ∀ b ∈ bytes, byteOf (.ofNat b.toNat) = b := by
    intro b hb
    rw [byteOf, toNat_ofNat_ascii (h b hb), UInt8.ofNat_toNat]
  refine ⟨String.ofList (bytes.map fun b => Char.ofNat b.toNat), ?_⟩
  rw [toUTF8_toList, String.toList_ofList, flatMap_utf8EncodeChar, List.map_map]
  · exact (List.map_congr_left hbytes).trans bytes.map_id
  · intro c hc
    obtain ⟨b, hb, rfl⟩ := List.mem_map.mp hc
    rw [toNat_ofNat_ascii (h b hb)]
    exact h b hb

/-- A test of bytes that lets only ASCII pass is a test of characters. -/
theorem all_utf8EncodeChar {p : UInt8 → Bool} (hp : ∀ b, p b = true → b.toNat < 128) (c : Char) :
    (∀ b ∈ String.utf8EncodeChar c, p b = true) ↔ c.toNat < 128 ∧ p (byteOf c) = true := by
  by_cases hc : c.toNat < 128
  · simp [utf8EncodeChar_ascii hc, hc]
  · constructor
    · intro hall
      obtain ⟨b, hb⟩ := List.exists_mem_of_ne_nil _ (String.utf8EncodeChar_ne_nil (c := c))
      have hlt := hp b (hall b hb)
      have hle := le_of_mem_utf8EncodeChar (Nat.le_of_not_lt hc) hb
      omega
    · intro h
      exact absurd h.1 hc

theorem all_flatMap_utf8EncodeChar {p : UInt8 → Bool} (hp : ∀ b, p b = true → b.toNat < 128)
    (text : List Char) :
    (text.flatMap String.utf8EncodeChar).all p = true ↔
      ∀ c ∈ text, c.toNat < 128 ∧ p (byteOf c) = true := by
  rw [List.all_eq_true]
  simp only [List.mem_flatMap]
  constructor
  · intro h c hc
    exact (all_utf8EncodeChar hp c).mp fun b hb => h b ⟨c, hc, hb⟩
  · rintro h b ⟨c, hc, hb⟩
    exact (all_utf8EncodeChar hp c).mpr (h c hc) b hb

end EmbeddedSdk.AsciiText
