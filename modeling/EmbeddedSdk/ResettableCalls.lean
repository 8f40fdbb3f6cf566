import EmbeddedSdk.Runs

/-!
# Resettable generators

A generator hands out one value for each `next` and starts over at each
`reset`. What it hands out depends on the number of values since the last reset,
so its invariants are indexed by that number.
-/
namespace EmbeddedSdk.ResettableCalls
open Runs

variable {σ ε : Type*}

/-- A call on a generator. -/
inductive Call (ε : Type*)
  | next (entropy : ε)
  | reset
  deriving DecidableEq

/-- The number of values handed out since the last reset, or since construction. -/
def sinceReset (calls : List (Call ε)) : ℕ :=
  calls.foldl (fun n call =>
    match call with
    | .next _ => n + 1
    | .reset => 0) 0

@[simp] theorem sinceReset_nil : sinceReset ([] : List (Call ε)) = 0 := rfl

@[simp] theorem sinceReset_concat_next (calls : List (Call ε)) (entropy : ε) :
    sinceReset (calls ++ [.next entropy]) = sinceReset calls + 1 := by
  simp only [sinceReset, List.foldl_append, List.foldl_cons, List.foldl_nil]

@[simp] theorem sinceReset_concat_reset (calls : List (Call ε)) :
    sinceReset (calls ++ [.reset]) = 0 := by
  simp only [sinceReset, List.foldl_append, List.foldl_cons, List.foldl_nil]

/-- Every number of values is reached by some calls. -/
theorem sinceReset_replicate (n : ℕ) (entropy : ε) :
    sinceReset (List.replicate n (Call.next entropy)) = n := by
  induction n with
  | zero => rfl
  | succ n ih => rw [List.replicate_succ', sinceReset_concat_next, ih]

variable (next : σ → ε → Option σ) (reset : σ → σ)

/-- One call. It is refused when the generator has no next value. -/
def call (s : σ) : Call ε → Option σ
  | .next entropy => next s entropy
  | .reset => some (reset s)

variable {next reset}

/-- If `next` succeeds in every state that is related to a number of values, then
no sequence of calls gets stuck, and the states it reaches stay related. -/
theorem run_call {R : ℕ → σ → Prop} {s₀ : σ} (hinit : R 0 s₀)
    (hnext : ∀ n s entropy, R n s → ∃ t, next s entropy = some t ∧ R (n + 1) t)
    (hreset : ∀ n s, R n s → R 0 (reset s)) (calls : List (Call ε)) :
    ∃ s, run (call next reset) s₀ calls = some s ∧ R (sinceReset calls) s := by
  induction calls using List.reverseRecOn with
  | nil => exact ⟨s₀, rfl, hinit⟩
  | append_singleton past c ih =>
      obtain ⟨s, hs, hrel⟩ := ih
      rw [run_concat, hs]
      cases c with
      | next entropy =>
          obtain ⟨t, ht, hrel'⟩ := hnext _ s entropy hrel
          refine ⟨t, ht, ?_⟩
          rw [sinceReset_concat_next]
          exact hrel'
      | reset =>
          refine ⟨reset s, rfl, ?_⟩
          rw [sinceReset_concat_reset]
          exact hreset _ s hrel

end EmbeddedSdk.ResettableCalls
