import Mathlib.Data.List.Basic
import Mathlib.Data.List.Induction

/-!
# Pieces between separators

Splitting at a separator is described from the point of view of the whole text: a
piece is a stretch without separators that has a separator or an end of the text
on either side, and its number is the number of separators before it.
-/
namespace EmbeddedSdk.SeparatedText

variable {α : Type*} {sep : α}

/-- A piece can start behind this text. -/
def AtStart (sep : α) (before : List α) : Prop := before = [] ∨ before.getLast? = some sep

/-- A piece can end in front of this text. -/
def AtEnd (sep : α) (behind : List α) : Prop := behind = [] ∨ behind.head? = some sep

theorem atStart_iff {before : List α} :
    AtStart sep before ↔ before = [] ∨ ∃ init, before = init ++ [sep] := by
  rw [AtStart, List.getLast?_eq_some_iff]

theorem atEnd_iff {behind : List α} :
    AtEnd sep behind ↔ behind = [] ∨ ∃ tail, behind = sep :: tail := by
  rw [AtEnd, List.head?_eq_some_iff]

theorem AtStart.cons {before : List α} (h : AtStart sep before) (hne : before ≠ []) (x : α) :
    AtStart sep (x :: before) := by
  rcases atStart_iff.mp h with hnil | ⟨init, hinit⟩
  · exact absurd hnil hne
  · exact atStart_iff.mpr (.inr ⟨x :: init, by rw [hinit, List.cons_append]⟩)

/-- A start of a piece is not in the middle of one. -/
theorem AtStart.eq_nil_of_append {before piece : List α} (h : AtStart sep (before ++ piece))
    (hsep : sep ∉ piece) : piece = [] := by
  rcases List.eq_nil_or_concat' piece with hnil | ⟨init, x, rfl⟩
  · exact hnil
  · rcases h with hnil | hlast
    · simp at hnil
    · rw [← List.append_assoc, List.getLast?_concat, Option.some.injEq] at hlast
      exact absurd (by simp [hlast]) hsep

theorem AtEnd.eq_nil_of_append {piece behind : List α} (h : AtEnd sep (piece ++ behind))
    (hsep : sep ∉ piece) : piece = [] := by
  cases piece with
  | nil => rfl
  | cons x xs =>
      rcases h with hnil | hhead
      · simp at hnil
      · rw [List.cons_append, List.head?_cons, Option.some.injEq] at hhead
        exact absurd (by simp [hhead]) hsep

/-- Every text ends with the beginning of a piece. -/
theorem exists_atStart_append (sep : α) (text : List α) :
    ∃ before piece, text = before ++ piece ∧ sep ∉ piece ∧ AtStart sep before := by
  induction text using List.reverseRecOn with
  | nil => exact ⟨[], [], rfl, List.not_mem_nil, .inl rfl⟩
  | append_singleton text x ih =>
      by_cases hx : x = sep
      · exact ⟨text ++ [x], [], by simp, List.not_mem_nil, .inr (by simp [hx])⟩
      · obtain ⟨before, piece, rfl, hsep, hstart⟩ := ih
        refine ⟨before, piece ++ [x], by simp, ?_, hstart⟩
        simp [hsep, Ne.symm hx]

/-- Every text starts with the end of a piece. -/
theorem exists_append_atEnd (sep : α) (text : List α) :
    ∃ piece behind, text = piece ++ behind ∧ sep ∉ piece ∧ AtEnd sep behind := by
  induction text with
  | nil => exact ⟨[], [], rfl, List.not_mem_nil, .inl rfl⟩
  | cons x text ih =>
      by_cases hx : x = sep
      · exact ⟨[], x :: text, rfl, List.not_mem_nil, .inr (by simp [hx])⟩
      · obtain ⟨piece, behind, rfl, hsep, hend⟩ := ih
        refine ⟨x :: piece, behind, rfl, ?_, hend⟩
        simp [hsep, Ne.symm hx]

variable [DecidableEq α]

instance (before : List α) : Decidable (AtStart sep before) := inferInstanceAs (Decidable (_ ∨ _))

instance (behind : List α) : Decidable (AtEnd sep behind) := inferInstanceAs (Decidable (_ ∨ _))

theorem length_splitOn (sep : α) (text : List α) :
    (text.splitOn sep).length = text.count sep + 1 := by
  induction text with
  | nil => rfl
  | cons x text ih =>
      rw [List.splitOn_cons_eq_if_modifyHead, List.count_cons]
      split
      · rw [List.length_cons, ih]
      · rw [List.length_modifyHead, ih, Nat.add_zero]

/-- A stretch between two separators is one of the pieces. -/
theorem getElem?_splitOn_of_isPiece {before piece behind : List α} (hsep : sep ∉ piece)
    (hstart : AtStart sep before) (hend : AtEnd sep behind) :
    ((before ++ (piece ++ behind)).splitOn sep)[before.count sep]? = some piece := by
  have hfirst : ((piece ++ behind).splitOn sep)[0]? = some piece := by
    rcases atEnd_iff.mp hend with rfl | ⟨tail, rfl⟩
    · rw [List.append_nil, List.splitOn_eq_singleton hsep]
      rfl
    · rw [List.splitOn_append_cons_self_of_not_mem hsep]
      rfl
  rcases atStart_iff.mp hstart with rfl | ⟨init, rfl⟩
  · exact hfirst
  · have hcount : (init ++ [sep]).count sep = (init.splitOn sep).length := by
      rw [length_splitOn, List.count_append, List.count_singleton_self]
    rw [List.append_assoc, List.singleton_append, List.splitOn_append_cons_self, hcount,
      List.getElem?_append_right (Nat.le_refl _), Nat.sub_self, hfirst]

/-- Every piece is a stretch between two separators. -/
theorem isPiece_of_getElem?_splitOn {text piece : List α} {i : ℕ}
    (h : (text.splitOn sep)[i]? = some piece) :
    ∃ before behind, text = before ++ (piece ++ behind) ∧ sep ∉ piece ∧ AtStart sep before ∧
      AtEnd sep behind ∧ before.count sep = i := by
  induction text generalizing i piece with
  | nil =>
      rw [List.splitOn_nil] at h
      cases i with
      | zero =>
          cases h
          exact ⟨[], [], rfl, List.not_mem_nil, .inl rfl, .inl rfl, rfl⟩
      | succ i => simp at h
  | cons x text ih =>
      rw [List.splitOn_cons_eq_if_modifyHead] at h
      by_cases hx : x = sep
      · rw [if_pos (by simp [hx])] at h
        cases i with
        | zero =>
            cases h
            exact ⟨[], x :: text, rfl, List.not_mem_nil, .inl rfl, .inr (by simp [hx]), rfl⟩
        | succ i =>
            obtain ⟨before, behind, rfl, hsep, hstart, hend, hcount⟩ := ih h
            refine ⟨x :: before, behind, rfl, hsep, ?_, hend, ?_⟩
            · by_cases hnil : before = []
              · exact .inr (by simp [hnil, hx])
              · exact hstart.cons hnil x
            · rw [hx, List.count_cons_self, hcount]
      · rw [if_neg (by simp [hx])] at h
        obtain ⟨first, rest, hsplit⟩ := List.exists_cons_of_ne_nil (List.splitOn_ne_nil sep text)
        rw [hsplit, List.modifyHead_cons] at h
        cases i with
        | zero =>
            cases h
            have hfirst : (text.splitOn sep)[0]? = some first := by rw [hsplit]; rfl
            obtain ⟨before, behind, htext, hsep, hstart, hend, hcount⟩ := ih hfirst
            have hbefore : before = [] := by
              have hstart' : AtStart sep ([] ++ before) := hstart
              exact hstart'.eq_nil_of_append (List.count_eq_zero.mp hcount)
            rw [hbefore, List.nil_append] at htext
            refine ⟨[], behind, ?_, ?_, .inl rfl, hend, rfl⟩
            · rw [htext, List.nil_append, List.cons_append]
            · simp [hsep, Ne.symm hx]
        | succ i =>
            have hlater : (text.splitOn sep)[i + 1]? = some piece := by rw [hsplit]; exact h
            obtain ⟨before, behind, rfl, hsep, hstart, hend, hcount⟩ := ih hlater
            have hne : before ≠ [] := by
              intro hnil
              rw [hnil, List.count_nil] at hcount
              omega
            refine ⟨x :: before, behind, rfl, hsep, hstart.cons hne x, hend, ?_⟩
            rw [List.count_cons_of_ne hx, hcount]

/-- The first piece reaches at least to a character that is no separator. -/
theorem splitOn_eq_cons_of_ne {before : List α} (hsep : sep ∉ before) {x : α} (hx : x ≠ sep)
    (behind : List α) :
    ∃ rest pieces, (before ++ x :: behind).splitOn sep = (before ++ x :: rest) :: pieces := by
  obtain ⟨rest, behind', rfl, hrest, hend⟩ := exists_append_atEnd sep behind
  have hpiece : sep ∉ before ++ x :: rest := by simp [hsep, Ne.symm hx, hrest]
  have hstart : AtStart sep [] := .inl rfl
  have hfirst := getElem?_splitOn_of_isPiece hpiece hstart hend
  have htext : before ++ x :: (rest ++ behind') = [] ++ (before ++ x :: rest ++ behind') := by simp
  rw [htext]
  cases hsplit : ([] ++ (before ++ x :: rest ++ behind')).splitOn sep with
  | nil => exact absurd hsplit (List.splitOn_ne_nil _ _)
  | cons first pieces =>
      rw [hsplit] at hfirst
      cases hfirst
      exact ⟨rest, pieces, rfl⟩

section Words

variable {β : Type*} (isSpace : β → Bool)

/-- The pieces between spaces that are not empty. -/
def words (text : List β) : List (List β) :=
  (text.splitOnP isSpace).filter fun piece => !piece.isEmpty

variable {isSpace}

/-- What can stand between two spaces. -/
def IsWord (isSpace : β → Bool) (piece : List β) : Prop :=
  piece ≠ [] ∧ ∀ x ∈ piece, isSpace x = false

theorem not_space_of_mem_splitOnP {text piece : List β} (h : piece ∈ text.splitOnP isSpace) :
    ∀ x ∈ piece, isSpace x = false := by
  induction text generalizing piece with
  | nil =>
      rw [List.splitOnP_nil, List.mem_singleton] at h
      simp [h]
  | cons c text ih =>
      rw [List.splitOnP_cons_eq_if_modifyHead] at h
      by_cases hc : isSpace c = true
      · rw [if_pos hc, List.mem_cons] at h
        obtain rfl | h := h
        · simp
        · exact ih h
      · rw [if_neg hc] at h
        -- The first piece grows by a character that is no space.
        cases hpieces : text.splitOnP isSpace with
        | nil => exact absurd hpieces (List.splitOnP_ne_nil isSpace text)
        | cons first rest =>
            rw [hpieces] at ih h
            rw [List.modifyHead_cons, List.mem_cons] at h
            obtain rfl | h := h
            · intro x hx
              obtain rfl | hx := List.mem_cons.mp hx
              · simpa using hc
              · exact ih List.mem_cons_self x hx
            · exact ih (List.mem_cons_of_mem first h)

theorem isWord_of_mem_words {text piece : List β} (h : piece ∈ words isSpace text) :
    IsWord isSpace piece := by
  obtain ⟨hpiece, hne⟩ := List.mem_filter.mp h
  exact ⟨by simpa using hne, not_space_of_mem_splitOnP hpiece⟩

theorem words_of_isWord {piece : List β} (h : IsWord isSpace piece) :
    words isSpace piece = [piece] := by
  rw [words, List.splitOnP_eq_singleton h.2]
  simpa using h.1

theorem words_append_cons {piece : List β} (h : IsWord isSpace piece) {space : β}
    (hspace : isSpace space = true) (text : List β) :
    words isSpace (piece ++ space :: text) = piece :: words isSpace text := by
  rw [words, List.splitOnP_append_cons_of_forall_mem h.2 space hspace, List.filter_cons, if_pos,
    words]
  simpa using h.1

/-- Words that are joined by a space are split into the same words. -/
theorem words_intercalate {space : β} (hspace : isSpace space = true) {pieces : List (List β)}
    (h : ∀ piece ∈ pieces, IsWord isSpace piece) :
    words isSpace ([space].intercalate pieces) = pieces := by
  induction pieces with
  | nil => rfl
  | cons piece pieces ih =>
      have hpiece := h piece List.mem_cons_self
      have hpieces := ih fun p hp => h p (List.mem_cons_of_mem piece hp)
      cases pieces with
      | nil =>
          rw [List.intercalate_singleton]
          exact words_of_isWord hpiece
      | cons next rest =>
          rw [List.intercalate_cons_cons, List.append_assoc, List.singleton_append,
            words_append_cons hpiece hspace, hpieces]

end Words

end EmbeddedSdk.SeparatedText
