import EmbeddedSdk.SeparatedText
import Mathlib.Data.List.Forall2
import Mathlib.Tactic.IntervalCases

/-!
# Lines of text in columns

A line is a number of cells with a blank behind each and a last field. A cell shows
a word, with blanks on either side that align it. A reader that takes one word after
the other finds the words and the last field again, whatever the widths, and a text
of such lines comes apart at the ends of the lines. Numbers are words.
-/
namespace EmbeddedSdk.TextColumns
open SeparatedText

section Reader

variable {α : Type*} (isSpace : α → Bool)

/-- The cells with a blank behind each, and the last field. -/
def row (blank : α) (cells : List (List α)) (last : List α) : List α :=
  cells.flatMap (fun cell => cell ++ [blank]) ++ last

/-- The first word, and the text behind it. -/
def readWord (text : List α) : List α × List α :=
  ((text.dropWhile isSpace).takeWhile fun c => !isSpace c,
    (text.dropWhile isSpace).dropWhile fun c => !isSpace c)

/-- A number of words, and the text behind them from where it shows something. -/
def readWords : ℕ → List α → List (List α) × List α
  | 0, text => ([], text.dropWhile isSpace)
  | k + 1, text =>
      let (word, text) := readWord isSpace text
      let (words, last) := readWords k text
      (word :: words, last)

/-- The cell is the word between blanks. -/
def Shows (blank : α) (word cell : List α) : Prop :=
  IsWord isSpace word ∧
    ∃ i j, cell = List.replicate i blank ++ (word ++ List.replicate j blank)

/-- The field can be told from the blanks in front of it. -/
def StartsVisibly (last : List α) : Prop := ∀ c ∈ last.head?, isSpace c = false

variable {isSpace} {blank : α} {word cell last : List α}

theorem shows_self (h : IsWord isSpace word) : Shows isSpace blank word word :=
  ⟨h, 0, 0, by simp⟩

theorem forall₂_shows_self {words : List (List α)} (h : ∀ word ∈ words, IsWord isSpace word) :
    List.Forall₂ (Shows isSpace blank) words words :=
  List.forall₂_same.mpr fun word hword => shows_self (h word hword)

theorem shows_rightpad (h : IsWord isSpace word) (width : ℕ) :
    Shows isSpace blank word (word.rightpad width blank) :=
  ⟨h, 0, width - word.length, by simp [List.rightpad]⟩

theorem shows_leftpad (h : IsWord isSpace word) (width : ℕ) :
    Shows isSpace blank word (word.leftpad width blank) :=
  ⟨h, width - word.length, 0, by simp [List.leftpad]⟩

/-- Another blank behind a cell. -/
theorem Shows.concat (h : Shows isSpace blank word cell) :
    Shows isSpace blank word (cell ++ [blank]) := by
  obtain ⟨hword, i, j, rfl⟩ := h
  refine ⟨hword, i, j + 1, ?_⟩
  rw [List.append_assoc, List.append_assoc, ← List.replicate_succ']

theorem Shows.mem {c : α} (h : Shows isSpace blank word cell) (hc : c ∈ cell) :
    c = blank ∨ c ∈ word := by
  obtain ⟨-, i, j, rfl⟩ := h
  simp only [List.mem_append, List.mem_replicate] at hc
  tauto

theorem dropWhile_startsVisibly (h : StartsVisibly isSpace last) :
    last.dropWhile isSpace = last := by
  cases last with
  | nil => rfl
  | cons c rest => rw [List.dropWhile_cons_of_neg (by simp [h c rfl])]

theorem dropWhile_blanks (hblank : isSpace blank = true) (n : ℕ) (text : List α) :
    (List.replicate n blank ++ text).dropWhile isSpace = text.dropWhile isSpace := by
  refine List.dropWhile_append_of_pos ?_
  intro c hc
  rw [List.eq_of_mem_replicate hc, hblank]

/-- The reader finds the word of a cell that has a blank behind it. -/
theorem readWord_cell (hblank : isSpace blank = true) (h : Shows isSpace blank word cell)
    (text : List α) :
    ∃ j, readWord isSpace (cell ++ blank :: text) =
      (word, List.replicate j blank ++ text) := by
  obtain ⟨⟨hne, hword⟩, i, j, rfl⟩ := h
  refine ⟨j + 1, ?_⟩
  have hshape : List.replicate i blank ++ (word ++ List.replicate j blank) ++ blank :: text =
      List.replicate i blank ++ (word ++ (List.replicate (j + 1) blank ++ text)) := by
    simp [List.replicate_succ']
  have hvisible : StartsVisibly isSpace (word ++ (List.replicate (j + 1) blank ++ text)) := by
    intro c hc
    rw [List.head?_append_of_ne_nil _ hne] at hc
    exact hword c (List.mem_of_mem_head? hc)
  have hall : ∀ c ∈ word, (!isSpace c) = true := by
    intro c hc
    rw [hword c hc, Bool.not_false]
  rw [readWord, hshape, dropWhile_blanks hblank, dropWhile_startsVisibly hvisible,
    List.takeWhile_append_of_pos hall, List.dropWhile_append_of_pos hall]
  simp [List.replicate_succ, hblank]

/-- Blanks in front of a line change nothing for the reader. -/
theorem readWords_blanks (hblank : isSpace blank = true) (k n : ℕ) (text : List α) :
    readWords isSpace k (List.replicate n blank ++ text) = readWords isSpace k text := by
  cases k with
  | zero => rw [readWords, dropWhile_blanks hblank, readWords]
  | succ k => rw [readWords, readWord, dropWhile_blanks hblank, readWords, readWord]

/-- The reader finds the words of the cells and the last field. -/
theorem readWords_row (hblank : isSpace blank = true) {words cells : List (List α)}
    (h : List.Forall₂ (Shows isSpace blank) words cells) (hlast : StartsVisibly isSpace last) :
    readWords isSpace words.length (row blank cells last) = (words, last) := by
  induction h with
  | nil =>
      rw [row, List.flatMap_nil, List.nil_append, List.length_nil, readWords,
        dropWhile_startsVisibly hlast]
  | @cons word cell words cells hword _ ih =>
      obtain ⟨j, hj⟩ := readWord_cell hblank hword (row blank cells last)
      have hrow : row blank (cell :: cells) last = cell ++ blank :: row blank cells last := by
        simp [row]
      simp only [List.length_cons, readWords, hrow, hj, readWords_blanks hblank, ih]

/-- Lines that read the same have the same words and the same last field. -/
theorem row_inj (hblank : isSpace blank = true) {words words' cells cells' : List (List α)}
    {last' : List α} (h : List.Forall₂ (Shows isSpace blank) words cells)
    (h' : List.Forall₂ (Shows isSpace blank) words' cells')
    (hlength : words.length = words'.length)
    (hlast : StartsVisibly isSpace last) (hlast' : StartsVisibly isSpace last')
    (heq : row blank cells last = row blank cells' last') : words = words' ∧ last = last' := by
  have hread := readWords_row hblank h hlast
  rw [heq, hlength, readWords_row hblank h' hlast'] at hread
  exact ⟨(Prod.mk.inj hread).1.symm, (Prod.mk.inj hread).2.symm⟩

/-- The characters of a line. -/
theorem mem_row {words cells : List (List α)}
    (h : List.Forall₂ (Shows isSpace blank) words cells) {c : α} (hc : c ∈ row blank cells last) :
    c = blank ∨ isSpace c = false ∨ c ∈ last := by
  induction h with
  | nil => exact .inr (.inr (by simpa [row] using hc))
  | @cons word cell words cells hword _ ih =>
      have hrow : row blank (cell :: cells) last = cell ++ blank :: row blank cells last := by
        simp [row]
      rw [hrow, List.mem_append, List.mem_cons] at hc
      rcases hc with hcell | hblank | hrest
      · exact (hword.mem hcell).imp_right fun hmem => .inl (hword.1.2 c hmem)
      · exact .inl hblank
      · exact ih hrest

end Reader

section Lines

variable {α : Type*}

theorem mem_intercalate {sep : List α} {pieces : List (List α)} {c : α}
    (h : c ∈ sep.intercalate pieces) : c ∈ sep ∨ ∃ piece ∈ pieces, c ∈ piece := by
  induction pieces with
  | nil => simp at h
  | cons piece pieces ih =>
      cases pieces with
      | nil => exact .inr ⟨piece, List.mem_cons_self, by simpa using h⟩
      | cons next rest =>
          rw [List.intercalate_cons_cons, List.mem_append, List.mem_append] at h
          rcases h with (hpiece | hsep) | hrest
          · exact .inr ⟨piece, List.mem_cons_self, hpiece⟩
          · exact .inl hsep
          · exact (ih hrest).imp_right fun ⟨p, hp, hc⟩ => ⟨p, List.mem_cons_of_mem piece hp, hc⟩

/-- Every line with its end. -/
def unlines (newline : α) (lines : List (List α)) : List α :=
  lines.flatMap fun line => line ++ [newline]

theorem unlines_eq_intercalate (newline : α) (lines : List (List α)) :
    unlines newline lines = [newline].intercalate (lines ++ [[]]) := by
  induction lines with
  | nil => rfl
  | cons line lines ih =>
      have htail : lines ++ [[]] ≠ [] := by simp
      rw [unlines, List.flatMap_cons, ← unlines, ih, List.cons_append]
      cases hlines : lines ++ [[]] with
      | nil => exact absurd hlines htail
      | cons next rest =>
          rw [List.intercalate_cons_cons, List.append_assoc]

variable [DecidableEq α]

/-- A text comes apart into its lines. -/
theorem splitOn_unlines {newline : α} {lines : List (List α)}
    (h : ∀ line ∈ lines, newline ∉ line) :
    (unlines newline lines).splitOn newline = lines ++ [[]] := by
  rw [unlines_eq_intercalate]
  refine List.splitOn_intercalate newline ?_ (by simp)
  intro line hline
  rcases List.mem_append.mp hline with hmem | hmem
  · exact h line hmem
  · rw [List.mem_singleton.mp hmem]
    exact List.not_mem_nil

theorem unlines_inj {newline : α} {lines lines' : List (List α)}
    (h : ∀ line ∈ lines, newline ∉ line) (h' : ∀ line ∈ lines', newline ∉ line)
    (heq : unlines newline lines = unlines newline lines') : lines = lines' := by
  have hsplit := splitOn_unlines h
  rw [heq, splitOn_unlines h'] at hsplit
  exact (List.append_cancel_right hsplit).symm

/-- Lines that are written from rows row by row tell whatever a single line tells. -/
theorem map_eq_map_of_forall {Row Text Reading : Type*} {write : Row → Text}
    {read : Row → Reading} {rows rows' : List Row}
    (h : ∀ r ∈ rows, ∀ r' ∈ rows', write r = write r' → read r = read r')
    (heq : rows.map write = rows'.map write) : rows.map read = rows'.map read := by
  induction rows generalizing rows' with
  | nil =>
      have hnil : rows' = [] := by simpa using heq.symm
      rw [hnil]
  | cons r rows ih =>
      obtain ⟨r', rest, rfl, hr, hrest⟩ := List.map_eq_cons_iff.mp heq.symm
      have hhead := h r List.mem_cons_self r' List.mem_cons_self hr.symm
      have htail := ih
        (fun s hs s' hs' => h s (List.mem_cons_of_mem r hs) s' (List.mem_cons_of_mem r' hs'))
        hrest.symm
      rw [List.map_cons, List.map_cons, hhead, htail]

end Lines

section Numerals

/-- The value of a digit in a base up to sixteen. -/
def digitValue (c : Char) : ℕ :=
  if c.isDigit then c.toNat - 48 else c.toNat - 87

/-- The number that a row of digits stands for. -/
def readDigits (base : ℕ) (text : List Char) : ℕ :=
  text.foldl (fun n c => base * n + digitValue c) 0

theorem digitValue_digitChar {d : ℕ} (h : d < 16) : digitValue d.digitChar = d := by
  interval_cases d <;> rfl

theorem readDigits_concat (base : ℕ) (text : List Char) (c : Char) :
    readDigits base (text ++ [c]) = base * readDigits base text + digitValue c := by
  rw [readDigits, List.foldl_append, List.foldl_cons, List.foldl_nil, readDigits]

theorem readDigits_toDigits {base : ℕ} (hbase : 1 < base) (hle : base ≤ 16) (n : ℕ) :
    readDigits base (base.toDigits n) = n := by
  induction n using Nat.strong_induction_on with
  | h n ih =>
      by_cases hn : n < base
      · rw [Nat.toDigits_of_lt_base hn, ← List.nil_append [_], readDigits_concat,
          digitValue_digitChar (by omega)]
        simp [readDigits]
      · have hpos : 0 < n := by omega
        have hmod : n % base < 16 := lt_of_lt_of_le (Nat.mod_lt n (by omega)) hle
        rw [Nat.toDigits_of_base_le hbase (by omega), readDigits_concat,
          ih (n / base) (Nat.div_lt_self hpos hbase), digitValue_digitChar hmod,
          Nat.div_add_mod]

/-- Zeros in front of a number do not change it. -/
theorem readDigits_leftpad (base width : ℕ) (text : List Char) :
    readDigits base (text.leftpad width '0') = readDigits base text := by
  have hzeros : ∀ k, readDigits base (List.replicate k '0') = 0 := by
    intro k
    induction k with
    | zero => rfl
    | succ k ih =>
        rw [List.replicate_succ', readDigits_concat, ih]
        rfl
  rw [List.leftpad, readDigits, List.foldl_append, ← readDigits, hzeros, readDigits]

theorem mem_toDigits {base : ℕ} (hbase : 1 < base) {n : ℕ} {c : Char}
    (h : c ∈ base.toDigits n) : ∃ d < base, c = d.digitChar := by
  induction n using Nat.strong_induction_on with
  | h n ih =>
      by_cases hn : n < base
      · rw [Nat.toDigits_of_lt_base hn, List.mem_singleton] at h
        exact ⟨n, hn, h⟩
      · rw [Nat.toDigits_of_base_le hbase (by omega), List.mem_append, List.mem_singleton] at h
        rcases h with hinit | hlast
        · exact ih (n / base) (Nat.div_lt_self (by omega) hbase) hinit
        · exact ⟨n % base, Nat.mod_lt n (by omega), hlast⟩

def decimal (n : ℕ) : List Char := Nat.toDigits 10 n

/-- An integer with a sign only if it is negative. -/
def signed (n : ℤ) : List Char :=
  if n < 0 then '-' :: decimal n.natAbs else decimal n.natAbs

/-- An integer with a sign in any case. -/
def signedPlus (n : ℤ) : List Char := (if n < 0 then '-' else '+') :: decimal n.natAbs

theorem decimal_ne_nil (n : ℕ) : decimal n ≠ [] := Nat.toDigits_ne_nil

theorem mem_decimal {n : ℕ} {c : Char} (h : c ∈ decimal n) : ∃ d < 10, c = d.digitChar :=
  mem_toDigits (by omega) h

theorem decimal_inj {n m : ℕ} (h : decimal n = decimal m) : n = m := by
  have hread : readDigits 10 (decimal n) = readDigits 10 (decimal m) := by rw [h]
  rwa [decimal, decimal, readDigits_toDigits (by omega) (by omega),
    readDigits_toDigits (by omega) (by omega)] at hread

/-- A number in decimal does not start with a sign. -/
theorem decimal_ne_cons {n : ℕ} {c : Char} (hc : ∀ d < 10, c ≠ d.digitChar) (text : List Char) :
    decimal n ≠ c :: text := by
  intro h
  obtain ⟨d, hd, hcd⟩ := mem_decimal (n := n) (c := c) (by rw [h]; exact List.mem_cons_self)
  exact hc d hd hcd

theorem minus_ne_digitChar : ∀ d < 10, '-' ≠ Nat.digitChar d := by decide

theorem signed_inj {n m : ℤ} (h : signed n = signed m) : n = m := by
  unfold signed at h
  split at h <;> split at h
  · have habs := decimal_inj (List.cons.inj h).2
    omega
  · exact absurd h.symm (decimal_ne_cons minus_ne_digitChar _)
  · exact absurd h (decimal_ne_cons minus_ne_digitChar _)
  · have habs := decimal_inj h
    omega

theorem signedPlus_inj {n m : ℤ} (h : signedPlus n = signedPlus m) : n = m := by
  obtain ⟨hsign, hdigits⟩ := List.cons.inj h
  have habs := decimal_inj hdigits
  by_cases hn : n < 0 <;> by_cases hm : m < 0 <;> simp [hn, hm] at hsign <;> omega

/-- A number in hexadecimal with zeros up to a width. -/
def hexadecimal (width n : ℕ) : List Char := (Nat.toDigits 16 n).leftpad width '0'

theorem hexadecimal_inj {width n m : ℕ} (h : hexadecimal width n = hexadecimal width m) :
    n = m := by
  have hread : readDigits 16 (hexadecimal width n) = readDigits 16 (hexadecimal width m) := by
    rw [h]
  rwa [hexadecimal, hexadecimal, readDigits_leftpad, readDigits_leftpad,
    readDigits_toDigits (by omega) (by omega), readDigits_toDigits (by omega) (by omega)] at hread

theorem mem_hexadecimal {width n : ℕ} {c : Char} (h : c ∈ hexadecimal width n) :
    ∃ d < 16, c = d.digitChar := by
  rw [hexadecimal, List.leftpad, List.mem_append] at h
  rcases h with hzero | hdigit
  · exact ⟨0, by omega, List.eq_of_mem_replicate hzero⟩
  · exact mem_toDigits (by omega) hdigit

/-- The last digit of a padded number and the digits in front of it. -/
theorem hexadecimal_succ {width : ℕ} (hwidth : 0 < width) (n : ℕ) :
    hexadecimal (width + 1) n = hexadecimal width (n / 16) ++ [(n % 16).digitChar] := by
  by_cases hn : n < 16
  · obtain ⟨w, rfl⟩ := Nat.exists_eq_succ_of_ne_zero (Nat.pos_iff_ne_zero.mp hwidth)
    rw [hexadecimal, hexadecimal, Nat.toDigits_of_lt_base hn, Nat.div_eq_of_lt hn,
      Nat.mod_eq_of_lt hn, Nat.toDigits_zero]
    simp [List.leftpad, List.replicate_succ']
  · rw [hexadecimal, hexadecimal, Nat.toDigits_of_base_le (by omega) (by omega)]
    simp only [List.leftpad, List.length_append, List.length_singleton, Nat.add_sub_add_right,
      List.append_assoc]

theorem hexadecimal_one {n : ℕ} (h : n < 16) : hexadecimal 1 n = [n.digitChar] := by
  rw [hexadecimal, Nat.toDigits_of_lt_base h]
  rfl

end Numerals

end EmbeddedSdk.TextColumns
