import Mathlib.Computability.StateTransition

/-!
# Loops of awaits within one poll

A cooperative task that is polled goes from await to await until it finds one that
is not ready, and only then do other tasks run. `advance` is what lies behind an
await that is ready; an await that is not ready has none. Nothing else changes
during a poll, so a poll that does not come to an end blocks every other task.
-/
namespace EmbeddedSdk.PolledLoops
open StateTransition

variable {π : Type*} (advance : π → Option π)

/-- The await at which a poll ends, if it gets there by fewer than `fuel` steps. -/
def poll : ℕ → π → Option π
  | 0, _ => none
  | fuel + 1, p =>
      match advance p with
      | none => some p
      | some q => poll fuel q

/-- The poll comes to an end. -/
def Yields (p : π) : Prop := (eval advance p).Dom

variable {advance} {p q : π}

theorem poll_of_pending (h : advance p = none) (fuel : ℕ) : poll advance (fuel + 1) p = some p := by
  simp only [poll, h]

theorem poll_of_ready (h : advance p = some q) (fuel : ℕ) :
    poll advance (fuel + 1) p = poll advance fuel q := by
  simp only [poll, h]

/-- A poll with a bound ends where the poll ends. -/
theorem mem_eval_of_poll {fuel : ℕ} (h : poll advance fuel p = some q) : q ∈ eval advance p := by
  induction fuel generalizing p with
  | zero => cases h
  | succ fuel ih =>
      cases ha : advance p with
      | none =>
          rw [poll_of_pending ha, Option.some.injEq] at h
          subst h
          exact mem_eval.mpr ⟨.refl, ha⟩
      | some r =>
          rw [poll_of_ready ha] at h
          rw [reaches_eval (.single ha)]
          exact ih h

/-- More steps than needed do not change where a poll ends. -/
theorem poll_mono {m n : ℕ} (h : poll advance m p = some q) (hle : m ≤ n) :
    poll advance n p = some q := by
  induction m generalizing n p with
  | zero => cases h
  | succ m ih =>
      cases n with
      | zero => omega
      | succ n =>
          cases ha : advance p with
          | none =>
              rw [poll_of_pending ha] at h ⊢
              exact h
          | some r =>
              rw [poll_of_ready ha] at h ⊢
              exact ih h (by omega)

/-- A poll along which something decreases ends in time. -/
theorem exists_poll_of_rank {P : π → Prop} (rank : π → ℕ)
    (hstep : ∀ p q, P p → advance p = some q → P q ∧ rank q < rank p) (hp : P p) :
    ∃ q, poll advance (rank p + 1) p = some q := by
  induction hrank : rank p using Nat.strong_induction_on generalizing p with
  | _ n ih =>
      cases ha : advance p with
      | none => exact ⟨p, poll_of_pending ha n⟩
      | some r =>
          obtain ⟨hr, hlt⟩ := hstep p r hp ha
          obtain ⟨q, hq⟩ := ih (rank r) (by omega) hr rfl
          refine ⟨q, ?_⟩
          rw [poll_of_ready ha]
          exact poll_mono hq (by omega)

theorem yields_of_poll {fuel : ℕ} (h : poll advance fuel p = some q) : Yields advance p :=
  Part.dom_iff_mem.mpr ⟨q, mem_eval_of_poll h⟩

theorem reaches_invariant {P : π → Prop} (hstep : ∀ p q, P p → advance p = some q → P q) (hp : P p)
    (h : Reaches advance p q) : P q := by
  induction h with
  | refl => exact hp
  | tail _ hlast ih => exact hstep _ _ ih hlast

/-- Awaits that are all ready and lead to one another keep a poll from ending. -/
theorem not_yields_of_invariant {P : π → Prop} (h : ∀ p, P p → ∃ q, advance p = some q ∧ P q)
    (hp : P p) : ¬ Yields advance p := by
  intro hyields
  obtain ⟨q, hq⟩ := Part.dom_iff_mem.mp hyields
  obtain ⟨hreaches, hpending⟩ := mem_eval.mp hq
  have hPq : P q := by
    refine reaches_invariant ?_ hp hreaches
    intro r t hr ht
    obtain ⟨u, hu, hPu⟩ := h r hr
    rw [ht, Option.some.injEq] at hu
    rwa [hu]
  obtain ⟨r, hr, -⟩ := h q hPq
  rw [hpending] at hr
  cases hr

/-- What every step keeps holds where a poll ends, and the await there is not ready. -/
theorem poll_invariant {P : π → Prop} (hstep : ∀ p q, P p → advance p = some q → P q) {fuel : ℕ}
    (hp : P p) (h : poll advance fuel p = some q) : P q ∧ advance q = none := by
  obtain ⟨hreaches, hpending⟩ := mem_eval.mp (mem_eval_of_poll h)
  exact ⟨reaches_invariant hstep hp hreaches, hpending⟩

end EmbeddedSdk.PolledLoops
