import EmbeddedSdk.TextColumns
import Mathlib.Tactic.Ring

/-!
# Inputs that are checked one after the other

A number is read digit by digit, with a check after each digit. Where a check that
has failed stays failed, only the number as a whole matters. Several inputs are read
in a fixed order, and the first one that is not accepted decides the error.
-/
namespace EmbeddedSdk.CheckedInputs
open TextColumns

section GuardedFolds

variable {α β : Type*} {valid : α → Bool} {good : β → Prop} {next : β → α → β}

/-- A fold that gives up at an element or a value that it does not accept. -/
def guardedStep (valid : α → Bool) (good : β → Prop) [DecidablePred good] (next : β → α → β)
    (value : β) (a : α) : Option β :=
  if valid a then
    let value := next value a
    if good value then some value else none
  else none

/-- A value that is not good stays so. -/
theorem not_good_foldl (hback : ∀ b a, valid a = true → good (next b a) → good b) {l : List α}
    {b : β} (hb : ¬ good b) (h : ∀ a ∈ l, valid a = true) : ¬ good (l.foldl next b) := by
  induction l generalizing b with
  | nil => exact hb
  | cons a l ih =>
      rw [List.forall_mem_cons] at h
      exact ih (fun hgood => hb (hback b a h.1 hgood)) h.2

variable (good) in
/-- Where only good values lead to good ones, the last value decides. -/
theorem foldlM_guardedStep_eq_some_iff [DecidablePred good]
    (hback : ∀ b a, valid a = true → good (next b a) → good b) {l : List α} {b c : β}
    (hb : good b) :
    l.foldlM (guardedStep valid good next) b = some c ↔
      (∀ a ∈ l, valid a = true) ∧ good c ∧ c = l.foldl next b := by
  induction l generalizing b with
  | nil =>
      simp only [List.foldlM_nil, List.foldl_nil, List.not_mem_nil, false_implies, implies_true,
        true_and]
      constructor
      · intro h
        obtain rfl := Option.some.inj h
        exact ⟨hb, rfl⟩
      · rintro ⟨-, rfl⟩
        rfl
  | cons a l ih =>
      rw [List.foldlM_cons, List.foldl_cons, List.forall_mem_cons, guardedStep]
      by_cases ha : valid a = true
      · by_cases hgood : good (next b a)
        · simp only [ha, if_true, hgood, Option.bind_eq_bind, Option.bind_some, true_and]
          exact ih hgood
        · simp only [ha, if_true, hgood, if_false, Option.bind_eq_bind, Option.bind_none,
            true_and, false_iff, reduceCtorEq]
          rintro ⟨hall, hc, rfl⟩
          exact not_good_foldl hback hgood hall hc
      · simp [ha]

end GuardedFolds

section Numerals

/-- The text is an integer in decimal: digits behind a plus sign or no sign, or behind
a minus sign where that is allowed. -/
def Numeral (minus : Bool) (text : List Char) (n : ℤ) : Prop :=
  ∃ digits, digits ≠ [] ∧ (∀ c ∈ digits, c.isDigit = true) ∧
    ((text = digits ∨ text = '+' :: digits) ∧ n = readDigits 10 digits ∨
      minus = true ∧ text = '-' :: digits ∧ n = -readDigits 10 digits)

theorem numeral_plus {minus : Bool} {digits : List Char} {n : ℤ} :
    Numeral minus ('+' :: digits) n ↔
      digits ≠ [] ∧ (∀ c ∈ digits, c.isDigit = true) ∧ n = readDigits 10 digits := by
  constructor
  · rintro ⟨ds, hne, hall, ⟨htext | htext, hn⟩ | ⟨-, htext, -⟩⟩
    · have hplus : '+'.isDigit = true := hall '+' (by rw [← htext]; exact List.mem_cons_self)
      cases hplus
    · obtain rfl := (List.cons.inj htext).2
      exact ⟨hne, hall, hn⟩
    · cases htext
  · rintro ⟨hne, hall, hn⟩
    exact ⟨digits, hne, hall, .inl ⟨.inr rfl, hn⟩⟩

theorem numeral_minus {digits : List Char} {n : ℤ} :
    Numeral true ('-' :: digits) n ↔
      digits ≠ [] ∧ (∀ c ∈ digits, c.isDigit = true) ∧ n = -readDigits 10 digits := by
  constructor
  · rintro ⟨ds, hne, hall, ⟨htext | htext, -⟩ | ⟨-, htext, hn⟩⟩
    · have hminus : '-'.isDigit = true := hall '-' (by rw [← htext]; exact List.mem_cons_self)
      cases hminus
    · cases htext
    · obtain rfl := (List.cons.inj htext).2
      exact ⟨hne, hall, hn⟩
  · rintro ⟨hne, hall, hn⟩
    exact ⟨digits, hne, hall, .inr ⟨rfl, rfl, hn⟩⟩

/-- A text that does not start with one of the signs is a numeral as a whole. -/
theorem numeral_unsigned {minus : Bool} {text : List Char} {n : ℤ}
    (hplus : ∀ digits, text ≠ '+' :: digits)
    (hminus : minus = true → ∀ digits, text ≠ '-' :: digits) :
    Numeral minus text n ↔
      text ≠ [] ∧ (∀ c ∈ text, c.isDigit = true) ∧ n = readDigits 10 text := by
  constructor
  · rintro ⟨ds, hne, hall, ⟨rfl | htext, hn⟩ | ⟨hm, htext, -⟩⟩
    · exact ⟨hne, hall, hn⟩
    · exact absurd htext (hplus ds)
    · exact absurd htext (hminus hm ds)
  · rintro ⟨hne, hall, hn⟩
    exact ⟨text, hne, hall, .inl ⟨.inl rfl, hn⟩⟩

/-- Every digit adds its value, or takes it off. -/
theorem foldl_eq_mul_readDigits {R : Type*} [CommSemiring R] (sign : R) {next : R → Char → R}
    (hnext : ∀ value c, c.isDigit = true → next value c = value * 10 + sign * digitValue c)
    {digits : List Char} (h : ∀ c ∈ digits, c.isDigit = true) :
    digits.foldl next 0 = sign * readDigits 10 digits := by
  induction digits using List.reverseRecOn with
  | nil => simp [readDigits]
  | append_singleton digits c ih =>
      rw [List.forall_mem_append, List.forall_mem_singleton] at h
      rw [List.foldl_append, List.foldl_cons, List.foldl_nil, ih h.1, hnext _ c h.2,
        readDigits_concat]
      push_cast
      ring

end Numerals

section Checks

variable {ε α β : Type}

/-- Among checks in their order, the first one that fails has this error. -/
def FirstFailure (checks : List (ε × Prop)) (e : ε) : Prop :=
  ∃ before p after, checks = before ++ (e, p) :: after ∧ (∀ c ∈ before, c.2) ∧ ¬ p

/-- A computation that makes the checks in their order. It returns a value if all of
them hold, and otherwise fails with the error of the first that does not. -/
def Decides (checks : List (ε × Prop)) (Q : α → Prop) (x : ExceptT ε Option α) : Prop :=
  (∃ a, x = pure a ∧ Q a ∧ ∀ c ∈ checks, c.2) ∨ ∃ e, x = throw e ∧ FirstFailure checks e

theorem FirstFailure.exists_not {checks : List (ε × Prop)} {e : ε} (h : FirstFailure checks e) :
    ¬ ∀ c ∈ checks, c.2 := by
  obtain ⟨before, p, after, rfl, -, hp⟩ := h
  intro hall
  exact hp (hall (e, p) (List.mem_append_right before List.mem_cons_self))

theorem FirstFailure.eq {checks : List (ε × Prop)} {e e' : ε} (h : FirstFailure checks e)
    (h' : FirstFailure checks e') : e = e' := by
  obtain ⟨before, p, after, hchecks, hbefore, hp⟩ := h
  obtain ⟨before', p', after', hchecks', hbefore', hp'⟩ := h'
  rw [hchecks'] at hchecks
  obtain ⟨rest, hleft, hright⟩ | ⟨rest, hleft, hright⟩ :=
    List.append_eq_append_iff.mp hchecks
  · cases rest with
    | nil => exact (Prod.mk.inj (List.cons.inj hright).1).1.symm
    | cons c rest =>
        obtain ⟨hc, -⟩ := List.cons.inj hright
        have hmem : c ∈ before := by
          rw [hleft]
          exact List.mem_append_right before' List.mem_cons_self
        rw [← hc] at hmem
        exact absurd (hbefore _ hmem) hp'
  · cases rest with
    | nil => exact (Prod.mk.inj (List.cons.inj hright).1).1
    | cons c rest =>
        obtain ⟨hc, -⟩ := List.cons.inj hright
        have hmem : c ∈ before' := by
          rw [hleft]
          exact List.mem_append_right before List.mem_cons_self
        rw [← hc] at hmem
        exact absurd (hbefore' _ hmem) hp

theorem decides_pure {Q : α → Prop} {a : α} (h : Q a) :
    Decides ([] : List (ε × Prop)) Q (pure a) :=
  .inl ⟨a, rfl, h, by simp⟩

/-- One check that a value passes. -/
theorem decides_of_holds {Q : α → Prop} {x : ExceptT ε Option α} {a : α} (e : ε) {p : Prop}
    (hx : x = pure a) (hQ : Q a) (hp : p) : Decides [(e, p)] Q x :=
  .inl ⟨a, hx, hQ, by simpa using hp⟩

/-- One check that fails. -/
theorem decides_of_fails {Q : α → Prop} {x : ExceptT ε Option α} {e : ε} {p : Prop}
    (hx : x = throw e) (hp : ¬ p) : Decides [(e, p)] Q x :=
  .inr ⟨e, hx, [], p, [], rfl, by simp, hp⟩

/-- Checks behind other checks. -/
theorem Decides.bind {checks checks' : List (ε × Prop)} {P : α → Prop} {Q : β → Prop}
    {x : ExceptT ε Option α} {f : α → ExceptT ε Option β} (hx : Decides checks P x)
    (hf : ∀ a, P a → Decides checks' Q (f a)) : Decides (checks ++ checks') Q (x >>= f) := by
  obtain ⟨a, rfl, ha, hchecks⟩ | ⟨e, rfl, before, p, after, rfl, hbefore, hp⟩ := hx
  · rw [pure_bind]
    obtain ⟨b, hb, hQ, hchecks'⟩ | ⟨e, he, before, p, after, rfl, hbefore, hp⟩ := hf a ha
    · refine .inl ⟨b, hb, hQ, ?_⟩
      rw [List.forall_mem_append]
      exact ⟨hchecks, hchecks'⟩
    · refine .inr ⟨e, he, checks ++ before, p, after, by simp, ?_, hp⟩
      rw [List.forall_mem_append]
      exact ⟨hchecks, hbefore⟩
  · exact .inr ⟨e, rfl, before, p, after ++ checks', by simp, hbefore, hp⟩

variable {checks : List (ε × Prop)} {Q : α → Prop} {x : ExceptT ε Option α}

/-- The value exists exactly if all checks hold. -/
theorem Decides.exists_pure_iff (h : Decides checks Q x) :
    (∃ a, x = pure a) ↔ ∀ c ∈ checks, c.2 := by
  obtain ⟨a, hx, -, hchecks⟩ | ⟨e, hx, hfirst⟩ := h
  · exact ⟨fun _ => hchecks, fun _ => ⟨a, hx⟩⟩
  · constructor
    · rintro ⟨a, ha⟩
      rw [ha] at hx
      cases hx
    · exact fun hall => absurd hall hfirst.exists_not

theorem Decides.throw_iff (h : Decides checks Q x) (e : ε) :
    x = throw e ↔ FirstFailure checks e := by
  obtain ⟨a, hx, -, hchecks⟩ | ⟨e', hx, hfirst⟩ := h
  · constructor
    · intro he
      rw [he] at hx
      cases hx
    · exact fun hfirst => absurd hchecks hfirst.exists_not
  · constructor
    · intro he
      rw [he] at hx
      obtain rfl := Except.error.inj (Option.some.inj hx)
      exact hfirst
    · intro he
      rw [hx, hfirst.eq he]

theorem Decides.of_pure (h : Decides checks Q x) {a : α} (hx : x = pure a) : Q a := by
  obtain ⟨a', hx', hQ, -⟩ | ⟨e, hx', -⟩ := h
  · rw [hx] at hx'
    obtain rfl := Except.ok.inj (Option.some.inj hx')
    exact hQ
  · rw [hx] at hx'
    cases hx'

end Checks

end EmbeddedSdk.CheckedInputs
