import Mathlib.Data.List.Induction
import Mathlib.Data.List.Nodup

/-!
# Loops that stop at the first error

A loop over a list carries a state and may leave early with an error. If it
comes to its end, then every element was accepted in the state that it found.
-/
namespace EmbeddedSdk.ErrorLoops

variable {σ α ε : Type*} {body : σ → α → Except ε σ}

theorem foldlM_concat_ok {s t : σ} {xs : List α} {x : α}
    (h : (xs ++ [x]).foldlM body s = .ok t) :
    ∃ m, xs.foldlM body s = .ok m ∧ body m x = .ok t := by
  rw [List.foldlM_append] at h
  cases hm : xs.foldlM body s with
  | error e =>
      rw [hm] at h
      cases h
  | ok m =>
      rw [hm] at h
      refine ⟨m, rfl, ?_⟩
      have hlast : [x].foldlM body m = .ok t := h
      rw [List.foldlM_cons] at hlast
      cases hx : body m x with
      | error e =>
          rw [hx] at hlast
          cases hlast
      | ok u =>
          rw [hx] at hlast
          exact hlast

/-- What the elements so far and the state have in common holds at the end of a
loop that every accepted element keeps it through. -/
theorem foldlM_history {R : List α → σ → Prop} {s₀ : σ} (hinit : R [] s₀)
    (hbody : ∀ past s x t, R past s → body s x = .ok t → R (past ++ [x]) t)
    {xs : List α} {t : σ} (h : xs.foldlM body s₀ = .ok t) : R xs t := by
  induction xs using List.reverseRecOn generalizing t with
  | nil =>
      cases h
      exact hinit
  | append_singleton past x ih =>
      obtain ⟨m, hm, hx⟩ := foldlM_concat_ok h
      exact hbody past m x t (ih hm) hx

/-- Every element satisfies `P` together with the elements before it. -/
def EachAfter (P : List α → α → Prop) (xs : List α) : Prop :=
  ∀ past x rest, xs = past ++ x :: rest → P past x

section EachAfter

variable {P Q : List α → α → Prop}

theorem eachAfter_nil : EachAfter P [] := by
  intro past x rest h
  simp at h

theorem eachAfter_concat (xs : List α) (x : α) :
    EachAfter P (xs ++ [x]) ↔ EachAfter P xs ∧ P xs x := by
  constructor
  · intro h
    refine ⟨?_, h xs x [] rfl⟩
    intro past y rest hxs
    exact h past y (rest ++ [x]) (by rw [hxs, List.append_assoc, List.cons_append])
  · rintro ⟨hxs, hx⟩ past y rest heq
    rcases List.eq_nil_or_concat' rest with rfl | ⟨init, z, rfl⟩
    · obtain ⟨rfl, hlast⟩ := List.append_inj' heq rfl
      rw [List.singleton_inj] at hlast
      exact hlast ▸ hx
    · rw [← List.cons_append, ← List.append_assoc] at heq
      obtain ⟨hinit, -⟩ := List.append_inj' heq rfl
      exact hxs past y init hinit

theorem eachAfter_and (xs : List α) :
    EachAfter (fun past x => P past x ∧ Q past x) xs ↔ EachAfter P xs ∧ EachAfter Q xs := by
  constructor
  · intro h
    exact ⟨fun past x rest heq => (h past x rest heq).1, fun past x rest heq =>
      (h past x rest heq).2⟩
  · intro h past x rest heq
    exact ⟨h.1 past x rest heq, h.2 past x rest heq⟩

theorem eachAfter_forall_mem {p : α → Prop} (xs : List α) :
    EachAfter (fun _ x => p x) xs ↔ ∀ x ∈ xs, p x := by
  constructor
  · intro h x hx
    obtain ⟨past, rest, heq⟩ := List.append_of_mem hx
    exact h past x rest heq
  · intro h past x rest heq
    exact h x (by simp [heq])

/-- No key occurs twice when every key is new at its place. -/
theorem eachAfter_key {κ : Type*} (key : α → Option κ) (xs : List α) :
    EachAfter (fun past x => ∀ k, key x = some k → k ∉ past.filterMap key) xs ↔
      (xs.filterMap key).Nodup := by
  induction xs using List.reverseRecOn with
  | nil => exact ⟨fun _ => List.nodup_nil, fun _ => eachAfter_nil⟩
  | append_singleton xs x ih =>
      rw [eachAfter_concat, ih, List.filterMap_append, List.nodup_append]
      cases hx : key x with
      | none => simp [hx]
      | some k =>
          simp only [hx, List.filterMap_cons, List.filterMap_nil, Option.some.injEq,
            forall_eq', List.nodup_singleton, List.mem_singleton, true_and]
          refine and_congr_right fun _ => ?_
          constructor
          · intro hnew a ha b hb hab
            exact hnew (by rwa [← hb, ← hab])
          · intro hne hmem
            exact hne k hmem k rfl rfl

theorem eachAfter_map {κ : Type*} {key : α → κ} (xs : List α) :
    EachAfter (fun past x => key x ∉ past.map key) xs ↔ (xs.map key).Nodup := by
  have hkey := eachAfter_key (fun x => some (key x)) xs
  simpa only [List.filterMap_eq_map', Option.some.injEq, forall_eq'] using hkey

end EachAfter

/-- A loop comes to its end exactly when every element is acceptable after those
before it. -/
theorem foldlM_ok_iff {A : List α → α → Prop} {s₀ : σ}
    (haccepts : ∀ past s x, past.foldlM body s₀ = .ok s → ((∃ t, body s x = .ok t) ↔ A past x))
    (xs : List α) : (∃ t, xs.foldlM body s₀ = .ok t) ↔ EachAfter A xs := by
  induction xs using List.reverseRecOn with
  | nil => exact ⟨fun _ => eachAfter_nil, fun _ => ⟨s₀, rfl⟩⟩
  | append_singleton xs x ih =>
      rw [eachAfter_concat, ← ih]
      constructor
      · rintro ⟨t, ht⟩
        obtain ⟨m, hm, hx⟩ := foldlM_concat_ok ht
        exact ⟨⟨m, hm⟩, (haccepts xs m x hm).mp ⟨t, hx⟩⟩
      · rintro ⟨⟨m, hm⟩, hA⟩
        obtain ⟨t, ht⟩ := (haccepts xs m x hm).mpr hA
        refine ⟨t, ?_⟩
        rw [List.foldlM_append, hm]
        show [x].foldlM body m = .ok t
        rw [List.foldlM_cons, ht]
        rfl

/-- A loop that may leave early comes to its end when its body always does. -/
theorem mapM_isOk_iff {β : Type*} (f : α → Except ε β) (xs : List α) :
    (xs.mapM f).isOk = true ↔ ∀ x ∈ xs, (f x).isOk = true := by
  induction xs with
  | nil => simp [pure, Except.pure, Except.isOk, Except.toBool]
  | cons x xs ih =>
      rw [List.mapM_cons, List.forall_mem_cons, ← ih]
      cases f x with
      | error e => simp [bind, Except.bind, Except.isOk, Except.toBool]
      | ok y =>
          cases xs.mapM f with
          | error e => simp [bind, Except.bind, Except.isOk, Except.toBool]
          | ok ys => simp [bind, Except.bind, pure, Except.pure, Except.isOk, Except.toBool]

end EmbeddedSdk.ErrorLoops
