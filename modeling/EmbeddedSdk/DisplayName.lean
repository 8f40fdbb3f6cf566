import EmbeddedSdk.QuotedText
import EmbeddedSdk.ScannerAdvertisement

/-!
# Advertised names in the scanner's output

A name comes from the radio and is printed into a line of text between quotes. The
formatter escapes quotes and backslashes and shows control characters as dots, so
that the field ends where the formatter ended it and tells different names apart.
-/
namespace EmbeddedSdk.Scanner
open QuotedText

/-- `char::is_control`: the general category Cc of Unicode. -/
def isControl (character : Char) : Bool :=
  decide (character.toNat < 0x20) ||
    decide (0x7f ≤ character.toNat) && decide (character.toNat < 0xa0)

namespace DisplayName

/-- The body of the loop of `fmt`: what one character is written as. -/
def writeCharacter (character : Char) : List Char :=
  if character = '"' ∨ character = '\\' then ['\\', character]
  else if isControl character then ['.']
  else [character]

/-- What stands between the quotes. -/
def body (name : LocalName) : List Char := name.asStr.toList.flatMap writeCharacter

def fmt : Option LocalName → List Char
  | none => ['-']
  | some name => '"' :: (body name ++ ['"'])

/-- A character as a reader of the output sees it. -/
def shown (character : Char) : Char := if isControl character then '.' else character

theorem writeCharacter_eq (character : Char) (text : List Char) :
    writeCharacter character ++ escaped '"' '\\' text =
      escaped '"' '\\' (shown character :: text) := by
  rw [escaped, writeCharacter, shown]
  by_cases hquote : character = '"'
  · subst hquote
    rfl
  by_cases hescape : character = '\\'
  · subst hescape
    rfl
  by_cases hcontrol : isControl character = true
  · simp [hquote, hescape, hcontrol]
  · simp [hquote, hescape, hcontrol]

/-- The formatter is the writer of quoted text on the characters that it shows. -/
theorem body_eq (name : LocalName) :
    body name = escaped '"' '\\' (name.asStr.toList.map shown) := by
  unfold body
  induction name.asStr.toList with
  | nil => rfl
  | cons character text ih =>
      rw [List.flatMap_cons, ih, writeCharacter_eq, List.map_cons]

theorem isControl_of_mem_writeCharacter {character c : Char} (h : c ∈ writeCharacter character) :
    isControl c = false := by
  unfold writeCharacter at h
  split at h
  · next hspecial =>
    obtain rfl | rfl := hspecial
    · simp at h
      obtain rfl | rfl := h <;> rfl
    · simp at h
      rw [h]
      rfl
  · split at h
    · simp at h
      rw [h]
      rfl
    · next hcontrol =>
      simp at h
      rw [h]
      simpa using hcontrol

theorem map_shown {text : List Char} (h : ∀ c ∈ text, isControl c = false) :
    text.map shown = text := by
  induction text with
  | nil => rfl
  | cons c text ih =>
      have hc : shown c = c := by simp [shown, h c List.mem_cons_self]
      rw [List.map_cons, hc, ih fun d hd => h d (List.mem_cons_of_mem c hd)]

/-- What is read back between the quotes. -/
theorem unescape_body (name : LocalName) :
    unescape '\\' (body name) = name.asStr.toList.map shown := by
  rw [body_eq, unescape_escaped]

/-- Names without control characters that are printed alike are the same text. -/
theorem asStr_eq_of_fmt_eq {name other : LocalName}
    (hname : ∀ c ∈ name.asStr.toList, isControl c = false)
    (hother : ∀ c ∈ other.asStr.toList, isControl c = false)
    (h : fmt (some name) = fmt (some other)) : name.asStr = other.asStr := by
  have hbody : body name = body other := by simpa [fmt] using h
  have hread : name.asStr.toList.map shown = other.asStr.toList.map shown := by
    rw [← unescape_body, ← unescape_body, hbody]
  rw [map_shown hname, map_shown hother] at hread
  exact String.toList_inj.mp hread

/-- Every advertised name is printed between quotes that delimit it, without control
characters, and can be read back; names without control characters are told apart. -/
theorem names_cannot_forge_output :
    (∀ value name, LocalName.fromBytes value = some name →
      ∃ text, fmt (some name) = '"' :: (text ++ ['"']) ∧
        (∀ c ∈ text, isControl c = false) ∧
        (∀ before behind, text = before ++ '"' :: behind → Odd (trailing '\\' before)) ∧
        name.asStr.toUTF8.data.toList = value ∧
        unescape '\\' text = name.asStr.toList.map shown ∧
        ∀ rest, splitAtQuote '"' '\\' (text ++ '"' :: rest) = some (text, rest)) ∧
    ∀ value other name name', LocalName.fromBytes value = some name →
      LocalName.fromBytes other = some name' →
      (∀ c ∈ name.asStr.toList, isControl c = false) →
      (∀ c ∈ name'.asStr.toList, isControl c = false) →
      fmt (some name) = fmt (some name') → value = other ∧ name = name' := by
  have hne : '"' ≠ '\\' := by decide
  constructor
  · intro value name h
    refine ⟨body name, rfl, ?_, ?_, LocalName.toUTF8_asStr h, unescape_body name, ?_⟩
    · intro c hc
      obtain ⟨character, -, hcharacter⟩ := List.mem_flatMap.mp hc
      exact isControl_of_mem_writeCharacter hcharacter
    · intro before behind hbody
      rw [body_eq] at hbody
      exact odd_trailing_of_escaped hne hbody
    · intro rest
      rw [body_eq]
      exact splitAtQuote_escaped hne _ rest
  · intro value other name name' h h' hname hname' hfmt
    have htext := asStr_eq_of_fmt_eq hname hname' hfmt
    have hvalue : value = other := by
      rw [← LocalName.toUTF8_asStr h, htext, LocalName.toUTF8_asStr h']
    refine ⟨hvalue, ?_⟩
    rw [hvalue, h'] at h
    exact (Option.some.inj h).symm

end DisplayName

end EmbeddedSdk.Scanner
