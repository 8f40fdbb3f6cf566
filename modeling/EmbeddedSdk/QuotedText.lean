import Mathlib.Algebra.Ring.Parity
import Mathlib.Data.List.Basic
import Mathlib.Data.List.TakeWhile

/-!
# Text between quotes

A writer puts an escape in front of every quote and every escape. A reader takes
the two characters behind the other way round: it skips whatever follows an escape
and stops at the first quote that it does not skip. Whatever stands behind the
closing quote, the reader stops there, and the text comes back when one escape is
dropped from each pair.
-/
namespace EmbeddedSdk.QuotedText

variable {α : Type*} [DecidableEq α] (quote escape : α)

/-- Puts an escape in front of quotes and escapes. -/
def escaped : List α → List α
  | [] => []
  | c :: text =>
      if c = quote ∨ c = escape then escape :: c :: escaped text else c :: escaped text

/-- Drops the first character of every escape. -/
def unescape : List α → List α
  | [] => []
  | [c] => [c]
  | c :: d :: text => if c = escape then d :: unescape text else c :: unescape (d :: text)

/-- The text in front of the first quote that is not escaped and the text behind it. -/
def splitAtQuote : List α → Option (List α × List α)
  | [] => none
  | [c] => if c = quote then some ([], []) else none
  | c :: d :: text =>
      if c = quote then some ([], d :: text)
      else if c = escape then (splitAtQuote text).map fun (body, rest) => (c :: d :: body, rest)
      else (splitAtQuote (d :: text)).map fun (body, rest) => (c :: body, rest)

/-- The number of escapes at the end of a text. -/
def trailing (text : List α) : ℕ := (text.reverse.takeWhile (· = escape)).length

variable {quote escape}

theorem unescape_cons {c : α} (h : c ≠ escape) (text : List α) :
    unescape escape (c :: text) = c :: unescape escape text := by
  cases text with
  | nil => rfl
  | cons d text => rw [unescape, if_neg h]

/-- The reader undoes the writer. -/
theorem unescape_escaped (text : List α) :
    unescape escape (escaped quote escape text) = text := by
  induction text with
  | nil => rfl
  | cons c text ih =>
      rw [escaped]
      split
      · rw [unescape, if_pos rfl, ih]
      · next h =>
        rw [unescape_cons (fun hc => h (.inr hc)), ih]

theorem splitAtQuote_cons {c : α} (hquote : c ≠ quote) (hescape : c ≠ escape) (text : List α) :
    splitAtQuote quote escape (c :: text) =
      (splitAtQuote quote escape text).map fun (body, rest) => (c :: body, rest) := by
  cases text with
  | nil => simp [splitAtQuote, hquote]
  | cons d text => rw [splitAtQuote, if_neg hquote, if_neg hescape]

/-- The closing quote is the first one that is not escaped. -/
theorem splitAtQuote_escaped (hne : quote ≠ escape) (text rest : List α) :
    splitAtQuote quote escape (escaped quote escape text ++ quote :: rest) =
      some (escaped quote escape text, rest) := by
  induction text with
  | nil =>
      cases rest with
      | nil => rw [escaped, List.nil_append, splitAtQuote, if_pos rfl]
      | cons d rest => rw [escaped, List.nil_append, splitAtQuote, if_pos rfl]
  | cons c text ih =>
      rw [escaped]
      split
      · rw [List.cons_append, List.cons_append, splitAtQuote, if_neg hne.symm, if_pos rfl, ih,
          Option.map_some]
      · next h =>
        rw [List.cons_append, splitAtQuote_cons (fun hc => h (.inl hc)) (fun hc => h (.inr hc)), ih,
          Option.map_some]

/-- In front of a text, only an escape before nothing but escapes adds to the run at
its end. -/
theorem trailing_cons (c : α) (text : List α) :
    trailing escape (c :: text) =
      if trailing escape text = text.length ∧ c = escape then text.length + 1
      else trailing escape text := by
  simp only [trailing, List.reverse_cons, List.takeWhile_append, List.length_reverse]
  by_cases hall : (text.reverse.takeWhile (· = escape)).length = text.length
  · by_cases hc : c = escape
    · simp [hall, hc]
    · simp [hall, hc]
  · simp [hall]

/-- A pair in front of a text leaves the parity of the run at its end. -/
theorem odd_trailing_pair (c : α) {text : List α} (h : Odd (trailing escape text)) :
    Odd (trailing escape (escape :: c :: text)) := by
  rw [trailing_cons, trailing_cons]
  by_cases hall : trailing escape text = text.length
  · rw [hall] at h ⊢
    by_cases hc : c = escape
    · simp only [hc, and_self, if_true, List.length_cons]
      exact h.add_even even_two
    · simpa [hc] using h
  · have hle : trailing escape text ≤ text.length := by
      have hprefix := (text.reverse.takeWhile_prefix (· = escape)).length_le
      simpa [trailing] using hprefix
    have hlength : trailing escape text ≠ text.length + 1 := by omega
    simpa [hall, hlength] using h

/-- An odd run of escapes stands in front of every quote that the writer lets through. -/
theorem odd_trailing_of_escaped (hne : quote ≠ escape) {text before behind : List α}
    (h : escaped quote escape text = before ++ quote :: behind) :
    Odd (trailing escape before) := by
  induction text generalizing before with
  | nil =>
      rw [escaped] at h
      simp at h
  | cons c text ih =>
      rw [escaped] at h
      split at h
      · match before, h with
        | [], h =>
            have hhead : escape = quote := (List.cons.inj h).1
            exact absurd hhead.symm hne
        | [d], h =>
            have hhead : escape = d := (List.cons.inj h).1
            rw [← hhead]
            simp [trailing]
        | d :: d' :: before, h =>
            have hhead : escape = d := (List.cons.inj h).1
            have htail : escaped quote escape text = before ++ quote :: behind :=
              (List.cons.inj (List.cons.inj h).2).2
            rw [← hhead]
            exact odd_trailing_pair d' (ih htail)
      · next hplain =>
        match before, h with
        | [], h =>
            have hhead : c = quote := (List.cons.inj h).1
            exact absurd (.inl hhead) hplain
        | d :: before, h =>
            have hhead : c = d := (List.cons.inj h).1
            have htail : escaped quote escape text = before ++ quote :: behind :=
              (List.cons.inj h).2
            rw [trailing_cons, if_neg]
            · exact ih htail
            · intro hrun
              exact hplain (.inr (hhead.trans hrun.2))

end EmbeddedSdk.QuotedText
