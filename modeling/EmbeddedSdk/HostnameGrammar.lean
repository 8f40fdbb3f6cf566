import EmbeddedSdk.AsciiText
import EmbeddedSdk.MqttConfig
import EmbeddedSdk.Runs
import EmbeddedSdk.SeparatedText

/-!
# The grammar of broker hostnames

A hostname is a sequence of labels joined by dots. Validation splits the text and
tests the bytes of each piece. The same texts are accepted by a scan that reads
one character after the other and remembers only the length of the present label
and what the last character was.
-/
namespace EmbeddedSdk.Mqtt
open AsciiText Runs SeparatedText

def isLabelChar (c : Char) : Bool := c.isAlphanum || c == '-'

/-- A label of letters, digits and hyphens with no hyphen at either end. -/
structure IsLabel (label : List Char) : Prop where
  length : 1 ≤ label.length ∧ label.length ≤ 63
  chars : ∀ c ∈ label, isLabelChar c = true
  first : label.head? ≠ some '-'
  last : label.getLast? ≠ some '-'

/-- The hostnames of the grammar, up to the length that the SDK accepts. -/
structure IsHostname (s : String) : Prop where
  length : 1 ≤ s.utf8ByteSize ∧ s.utf8ByteSize ≤ 253
  labels : ∃ labels, labels ≠ [] ∧ s.toList = ['.'].intercalate labels ∧
    ∀ label ∈ labels, IsLabel label

theorem lt_of_isLabelByte (b : UInt8) (h : (isAsciiAlphanumeric b || b == 45) = true) :
    b.toNat < 128 := by
  simp only [isAsciiAlphanumeric, Bool.or_eq_true, Bool.and_eq_true, decide_eq_true_eq, beq_iff_eq,
    UInt8.le_iff_toNat_le] at h
  rcases h with ((⟨-, h⟩ | ⟨-, h⟩) | ⟨-, h⟩) | rfl
  · exact Nat.lt_of_le_of_lt h (by decide)
  · exact Nat.lt_of_le_of_lt h (by decide)
  · exact Nat.lt_of_le_of_lt h (by decide)
  · decide

theorem lt_of_isLabelChar {c : Char} (h : isLabelChar c = true) : c.toNat < 128 := by
  change (decide (c.val ≥ 'A'.val ∧ c.val ≤ 'Z'.val) ||
    decide (c.val ≥ 'a'.val) && decide (c.val ≤ 'z'.val) ||
    decide (c.val ≥ '0'.val) && decide (c.val ≤ '9'.val) || c == '-') = true at h
  simp only [Bool.or_eq_true, Bool.and_eq_true, decide_eq_true_eq, beq_iff_eq,
    UInt32.le_iff_toNat_le, ge_iff_le] at h
  rcases h with ((⟨-, h⟩ | ⟨-, h⟩) | ⟨-, h⟩) | rfl
  · exact Nat.lt_of_le_of_lt h (by decide)
  · exact Nat.lt_of_le_of_lt h (by decide)
  · exact Nat.lt_of_le_of_lt h (by decide)
  · decide

theorem isLabelByte_byteOf {c : Char} (h : c.toNat < 128) :
    (isAsciiAlphanumeric (byteOf c) || byteOf c == 45) = isLabelChar c := by
  have hall : ∀ n < 128, (isAsciiAlphanumeric (byteOf (.ofNat n)) || byteOf (.ofNat n) == 45) =
      isLabelChar (.ofNat n) := by
    decide
  have hc := hall c.toNat h
  rwa [Char.ofNat_toNat] at hc

/-- The bytes of a label are tested, which is as good as testing its characters. -/
theorem all_labelBytes (label : List Char) :
    ((utf8 label).all fun byte => isAsciiAlphanumeric byte || byte == 45) = true ↔
      ∀ c ∈ label, isLabelChar c = true := by
  rw [utf8, all_flatMap_utf8EncodeChar lt_of_isLabelByte]
  refine forall₂_congr fun c _ => ?_
  constructor
  · intro h
    rw [← isLabelByte_byteOf h.1]
    exact h.2
  · intro h
    have hlt := lt_of_isLabelChar h
    exact ⟨hlt, by rw [isLabelByte_byteOf hlt, h]⟩

theorem length_utf8_of_isLabelChar {label : List Char} (h : ∀ c ∈ label, isLabelChar c = true) :
    (utf8 label).length = label.length := by
  rw [utf8, flatMap_utf8EncodeChar fun c hc => lt_of_isLabelChar (h c hc), List.length_map]

theorem invalidLabel_eq_false {label : List Char} : invalidLabel label = false ↔ IsLabel label := by
  simp only [invalidLabel, Bool.or_eq_false_iff, Bool.not_eq_false', decide_eq_false_iff_not,
    beq_eq_false_iff_ne, List.isEmpty_eq_false_iff, all_labelBytes]
  constructor
  · intro h
    obtain ⟨⟨⟨⟨hne, hlength⟩, hfirst⟩, hlast⟩, hchars⟩ := h
    have hpos := List.length_pos_iff.mpr hne
    rw [length_utf8_of_isLabelChar hchars] at hlength
    exact ⟨by omega, hchars, hfirst, hlast⟩
  · intro h
    have hpos := h.length
    refine ⟨⟨⟨⟨List.length_pos_iff.mp (by omega), ?_⟩, h.first⟩, h.last⟩, h.chars⟩
    rw [length_utf8_of_isLabelChar h.chars]
    omega

/-- A dot at the end leaves an empty label, so the separate test for it adds
nothing. -/
theorem validateHostname_isOk (s : String) :
    (validateHostname s).isOk = true ↔ ∀ label ∈ s.toList.splitOn '.', IsLabel label := by
  have hdot : s.toList.getLast? = some '.' → [] ∈ s.toList.splitOn '.' := by
    intro hlast
    obtain ⟨init, hinit⟩ := List.getLast?_eq_some_iff.mp hlast
    rw [hinit, List.splitOn_append_cons_self]
    simp
  unfold validateHostname
  split
  · rename_i h
    simp only [Except.isOk, Except.toBool, Bool.false_eq_true, false_iff]
    intro hall
    rw [Bool.or_eq_true, beq_iff_eq, List.any_eq_true] at h
    rcases h with hlast | ⟨label, hlabel, hinvalid⟩
    · have hempty := (hall [] (hdot hlast)).length
      simp at hempty
    · have hvalid := invalidLabel_eq_false.mpr (hall label hlabel)
      rw [hinvalid] at hvalid
      simp at hvalid
  · rename_i h
    simp only [Except.isOk, Except.toBool, true_iff]
    rw [Bool.or_eq_true, not_or, List.any_eq_true] at h
    intro label hlabel
    by_contra hinvalid
    refine h.2 ⟨label, hlabel, ?_⟩
    by_contra hvalid
    exact hinvalid (invalidLabel_eq_false.mp (Bool.not_eq_true _ ▸ hvalid))

theorem dot_not_mem {label : List Char} (h : ∀ c ∈ label, isLabelChar c = true) :
    '.' ∉ label := by
  intro hmem
  exact absurd (h '.' hmem) (by decide)

/-- Joining labels and splitting the text are inverse to each other. -/
theorem splitOn_isLabel_iff (text : List Char) :
    (∀ label ∈ text.splitOn '.', IsLabel label) ↔
      ∃ labels, labels ≠ [] ∧ text = ['.'].intercalate labels ∧ ∀ label ∈ labels, IsLabel label := by
  constructor
  · intro h
    exact ⟨_, List.splitOn_ne_nil '.' text, (List.intercalate_splitOn '.').symm, h⟩
  · rintro ⟨labels, hne, rfl, hlabels⟩
    rwa [List.splitOn_intercalate '.' (fun label hl => dot_not_mem (hlabels label hl).chars) hne]

/-- What the last character was. The beginning of the text counts as a dot. -/
inductive Previous
  | dot
  | hyphen
  | alphanumeric
  deriving DecidableEq

/-- What the scan remembers. -/
structure Scan where
  labelLength : ℕ
  previous : Previous
  deriving DecidableEq

namespace Scan

def start : Scan := ⟨0, .dot⟩

/-- One character of the scan. -/
def step (s : Scan) (c : Char) : Option Scan :=
  if c = '.' then if s.previous = .alphanumeric then some start else none
  else if s.labelLength ≥ 63 then none
  else if c = '-' then if s.previous = .dot then none else some ⟨s.labelLength + 1, .hyphen⟩
  else if c.isAlphanum then some ⟨s.labelLength + 1, .alphanumeric⟩
  else none

/-- The scan comes to the end and the last label can end there. -/
def accepts (s : Scan) (text : List Char) : Bool :=
  (run step s text).any fun t => t.previous = .alphanumeric

/-- The scan within a label. -/
def ofLabel (label : List Char) : Scan where
  labelLength := label.length
  previous :=
    match label.getLast? with
    | none => .dot
    | some c => if c = '-' then .hyphen else .alphanumeric

end Scan

/-- The beginning of a label. -/
structure IsLabelStart (label : List Char) : Prop where
  length : label.length ≤ 63
  chars : ∀ c ∈ label, isLabelChar c = true
  first : label.head? ≠ some '-'

theorem isLabelStart_nil : IsLabelStart [] := ⟨by simp, by simp, by simp⟩

namespace Scan

/-- A label can end where its last character is no hyphen. -/
theorem ofLabel_alphanumeric {label : List Char} (h : IsLabelStart label) :
    (ofLabel label).previous = .alphanumeric ↔ IsLabel label := by
  have hlabel : IsLabel label ↔ label ≠ [] ∧ label.getLast? ≠ some '-' := by
    constructor
    · intro hl
      exact ⟨List.length_pos_iff.mp hl.length.1, hl.last⟩
    · rintro ⟨hne, hlast⟩
      exact ⟨⟨List.length_pos_iff.mpr hne, h.length⟩, h.chars, h.first, hlast⟩
  rw [hlabel]
  rcases List.eq_nil_or_concat' label with rfl | ⟨init, c, rfl⟩
  · simp [ofLabel]
  · by_cases hc : c = '-'
    · simp [ofLabel, hc]
    · simp [ofLabel, hc]

/-- At a dot the present label must be complete. -/
theorem step_dot {label : List Char} (h : IsLabelStart label) (t : Scan) :
    step (ofLabel label) '.' = some t ↔ IsLabel label ∧ t = ofLabel [] := by
  rw [← ofLabel_alphanumeric h, step, if_pos rfl]
  split
  · rename_i halpha
    rw [Option.some.injEq]
    exact ⟨fun ht => ⟨halpha, ht.symm⟩, fun ht => ht.2.symm⟩
  · rename_i halpha
    simp [halpha]

/-- A character continues a label that has room for it. -/
theorem isLabelStart_concat {label : List Char} (h : IsLabelStart label) (c : Char) :
    IsLabelStart (label ++ [c]) ↔
      label.length < 63 ∧ isLabelChar c = true ∧ (label = [] → c ≠ '-') := by
  constructor
  · intro hl
    have hlength := hl.length
    rw [List.length_append, List.length_singleton] at hlength
    refine ⟨by omega, hl.chars c (by simp), ?_⟩
    rintro rfl rfl
    exact hl.first rfl
  · rintro ⟨hlength, hchar, hfirst⟩
    refine ⟨?_, ?_, ?_⟩
    · rw [List.length_append, List.length_singleton]
      omega
    · intro d hd
      rcases List.mem_append.mp hd with hd | hd
      · exact h.chars d hd
      · rwa [List.mem_singleton.mp hd]
    · cases label with
      | nil => simpa using hfirst rfl
      | cons x xs => exact h.first

@[simp] theorem ofLabel_labelLength (label : List Char) :
    (ofLabel label).labelLength = label.length := rfl

theorem ofLabel_dot (label : List Char) : (ofLabel label).previous = .dot ↔ label = [] := by
  rcases List.eq_nil_or_concat' label with rfl | ⟨init, d, rfl⟩
  · simp [ofLabel]
  · by_cases hd : d = '-'
    · simp [ofLabel, hd]
    · simp [ofLabel, hd]

/-- Any other character must continue the present label. -/
theorem step_char {label : List Char} (h : IsLabelStart label) {c : Char} (hc : c ≠ '.')
    (t : Scan) :
    step (ofLabel label) c = some t ↔ IsLabelStart (label ++ [c]) ∧ t = ofLabel (label ++ [c]) := by
  rw [isLabelStart_concat h, step, if_neg hc, ofLabel_labelLength]
  by_cases hlength : label.length ≥ 63
  · rw [if_pos hlength]
    simp only [reduceCtorEq, false_iff]
    rintro ⟨⟨hlt, -⟩, -⟩
    omega
  · have hlt : label.length < 63 := by omega
    rw [if_neg hlength]
    by_cases hhyphen : c = '-'
    · subst hhyphen
      have hnext : ofLabel (label ++ ['-']) = ⟨label.length + 1, .hyphen⟩ := by simp [ofLabel]
      rw [if_pos rfl, hnext]
      by_cases hempty : label = []
      · rw [if_pos ((ofLabel_dot label).mpr hempty)]
        simp [hempty]
      · rw [if_neg (mt (ofLabel_dot label).mp hempty), Option.some.injEq]
        have hchar : isLabelChar '-' = true := rfl
        exact ⟨fun ht => ⟨⟨hlt, hchar, fun h0 => absurd h0 hempty⟩, ht.symm⟩, fun ht => ht.2.symm⟩
    · have hnext : ofLabel (label ++ [c]) = ⟨label.length + 1, .alphanumeric⟩ := by
        simp [ofLabel, hhyphen]
      have hchar : isLabelChar c = c.isAlphanum := by simp [isLabelChar, hhyphen]
      rw [if_neg hhyphen, hnext, hchar]
      split
      · rename_i halpha
        rw [Option.some.injEq]
        exact ⟨fun ht => ⟨⟨hlt, halpha, fun _ => hhyphen⟩, ht.symm⟩, fun ht => ht.2.symm⟩
      · rename_i halpha
        simp [halpha]

theorem accepts_cons (s : Scan) (c : Char) (text : List Char) :
    s.accepts (c :: text) = true ↔ ∃ t, step s c = some t ∧ t.accepts text = true := by
  rw [accepts, run_cons]
  cases step s c with
  | none => simp
  | some t => simp [accepts]

/-- The first piece of a text starts with the label read so far. -/
theorem isLabelStart_of_splitOn {label rest : List Char} {c : Char} (h : IsLabelStart label)
    (hc : c ≠ '.') (hall : ∀ piece ∈ (label ++ c :: rest).splitOn '.', IsLabel piece) :
    IsLabelStart (label ++ [c]) := by
  obtain ⟨more, pieces, hsplit⟩ := splitOn_eq_cons_of_ne (dot_not_mem h.chars) hc rest
  have hfirst := hall (label ++ c :: more) (by rw [hsplit]; exact List.mem_cons_self)
  refine ⟨?_, ?_, ?_⟩
  · have hlength := hfirst.length.2
    rw [List.length_append, List.length_cons] at hlength
    rw [List.length_append, List.length_singleton]
    omega
  · intro d hd
    refine hfirst.chars d ?_
    rw [List.mem_append, List.mem_singleton] at hd
    rw [List.mem_append, List.mem_cons]
    exact hd.imp_right Or.inl
  · have hhead := hfirst.first
    cases label with
    | nil => exact hhead
    | cons x xs => exact hhead

/-- From within a label, the scan accepts the rest exactly when all pieces are
labels. -/
theorem accepts_ofLabel {label : List Char} (h : IsLabelStart label) (rest : List Char) :
    (ofLabel label).accepts rest = true ↔
      ∀ piece ∈ (label ++ rest).splitOn '.', IsLabel piece := by
  induction rest generalizing label with
  | nil =>
      rw [List.append_nil, List.splitOn_eq_singleton (dot_not_mem h.chars), accepts, run_nil]
      simp [ofLabel_alphanumeric h]
  | cons c rest ih =>
      rw [accepts_cons]
      by_cases hc : c = '.'
      · subst hc
        have hrest := ih isLabelStart_nil
        rw [List.nil_append] at hrest
        rw [List.splitOn_append_cons_self_of_not_mem (dot_not_mem h.chars),
          List.forall_mem_cons, ← hrest]
        simp only [step_dot h]
        constructor
        · rintro ⟨t, ⟨hlabel, rfl⟩, haccepts⟩
          exact ⟨hlabel, haccepts⟩
        · rintro ⟨hlabel, haccepts⟩
          exact ⟨_, ⟨hlabel, rfl⟩, haccepts⟩
      · simp only [step_char h hc]
        have htext : label ++ c :: rest = label ++ [c] ++ rest := by simp
        constructor
        · rintro ⟨t, ⟨hstart, rfl⟩, haccepts⟩
          rw [htext]
          exact (ih hstart).mp haccepts
        · intro hall
          have hstart := isLabelStart_of_splitOn h hc hall
          rw [htext] at hall
          exact ⟨_, ⟨hstart, rfl⟩, (ih hstart).mpr hall⟩

end Scan

/-- Hostnames are accepted exactly when they are labels joined by dots. The same
texts pass a scan that remembers the length of the present label and the last
character. -/
theorem hostnames_follow_grammar (s : String) :
    ((BrokerHostname.new s).isOk = true ↔ IsHostname s) ∧
      ((BrokerHostname.new s).isOk = true ↔
        (1 ≤ s.utf8ByteSize ∧ s.utf8ByteSize ≤ 253) ∧ Scan.start.accepts s.toList = true) := by
  have hscan := Scan.accepts_ofLabel isLabelStart_nil s.toList
  rw [List.nil_append] at hscan
  rw [BrokerHostname.new, BoundedText.new_isOk, validateHostname_isOk]
  constructor
  · rw [splitOn_isLabel_iff]
    exact ⟨fun h => ⟨h.1, h.2⟩, fun h => ⟨h.length, h.labels⟩⟩
  · rw [← hscan]
    rfl

end EmbeddedSdk.Mqtt
