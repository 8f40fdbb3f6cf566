import Mathlib.Data.List.Basic

/-!
# Loops that stop at the first error

An action works on a state and may fail, and what it did to the state before it
failed stays. A loop over a list goes on as long as its body succeeds. The rules
below say what holds when an action ends, one way for success and one for failure;
the rule for loops carries an invariant about the elements that are done.
-/
namespace EmbeddedSdk.StoppingLoops

variable {σ ε α β : Type}

/-- An action on a state that may fail. -/
def Action (σ ε α : Type) : Type := σ → Except ε α × σ

namespace Action

instance : Monad (Action σ ε) where
  pure a := fun s => (.ok a, s)
  bind x f := fun s =>
    match x s with
    | (.ok a, t) => f a t
    | (.error e, t) => (.error e, t)

def fail (e : ε) : Action σ ε α := fun s => (.error e, s)

def ofResult (result : Except ε α) : Action σ ε α := fun s => (result, s)

/-- Runs an action and goes on with its result, also when it failed. -/
def attempt (x : Action σ ε α) : Action σ ε (Except ε α) := fun s => (.ok (x s).1, (x s).2)

def modify (f : σ → σ) : Action σ ε Unit := fun s => (.ok (), f s)

/-- What holds when the action has ended: `P` of the value and the state if it
succeeded, `Q` of the error and the state if it failed. -/
def Ends (x : Action σ ε α) (s : σ) (P : α → σ → Prop) (Q : ε → σ → Prop) : Prop :=
  match x s with
  | (.ok a, t) => P a t
  | (.error e, t) => Q e t

variable {x : Action σ ε α} {f : α → Action σ ε β} {s : σ}

@[simp] theorem ends_pure {a : α} {P : α → σ → Prop} {Q : ε → σ → Prop} :
    Ends (pure a : Action σ ε α) s P Q ↔ P a s := Iff.rfl

@[simp] theorem ends_fail {e : ε} {P : α → σ → Prop} {Q : ε → σ → Prop} :
    Ends (fail e : Action σ ε α) s P Q ↔ Q e s := Iff.rfl

theorem ends_ofResult {result : Except ε α} {P : α → σ → Prop} {Q : ε → σ → Prop} :
    Ends (ofResult result : Action σ ε α) s P Q ↔
      (∀ a, result = .ok a → P a s) ∧ ∀ e, result = .error e → Q e s := by
  cases result with
  | ok a => simp [Ends, ofResult]
  | error e => simp [Ends, ofResult]

@[simp] theorem ends_bind {P : β → σ → Prop} {Q : ε → σ → Prop} :
    Ends (x >>= f) s P Q ↔ Ends x s (fun a t => Ends (f a) t P Q) Q := by
  simp only [Ends, bind]
  cases x s with
  | mk result t =>
      cases result with
      | ok a => rfl
      | error e => rfl

theorem Ends.imp {P P' : α → σ → Prop} {Q Q' : ε → σ → Prop} (h : Ends x s P Q)
    (hP : ∀ a t, P a t → P' a t) (hQ : ∀ e t, Q e t → Q' e t) : Ends x s P' Q' := by
  unfold Ends at h ⊢
  split at h
  · exact hP _ _ h
  · exact hQ _ _ h

@[simp] theorem ends_attempt {P : Except ε α → σ → Prop} {Q : ε → σ → Prop} :
    Ends (attempt x) s P Q ↔ P (x s).1 (x s).2 := Iff.rfl

/-- An action succeeds exactly when a condition holds that both ways of ending decide. -/
theorem isOk_iff_of_ends {C : Prop} (h : Ends x s (fun _ _ => C) fun _ _ => ¬ C) :
    (x s).1.isOk = true ↔ C := by
  unfold Ends at h
  split at h
  · next hx => simp [hx, Except.isOk, Except.toBool, h]
  · next hx => simp [hx, Except.isOk, Except.toBool, h]

/-- The rule for loops that carry a value from one element to the next. The invariant
speaks of the elements that are done; where the body fails, it says what it leaves
behind. -/
theorem ends_foldlM {body : β → α → Action σ ε β} {I : List α → β → σ → Prop}
    {Q : ε → σ → Prop} (xs : List α) {b : β}
    (hbody : ∀ done a rest b s, xs = done ++ a :: rest → I done b s →
      Ends (body b a) s (fun b' t => I (done ++ [a]) b' t) Q)
    (hs : I [] b s) : Ends (xs.foldlM body b) s (fun b' t => I xs b' t) Q := by
  have hfrom : ∀ done rest b s, xs = done ++ rest → I done b s →
      Ends (rest.foldlM body b) s (fun b' t => I xs b' t) Q := by
    intro done rest
    induction rest generalizing done with
    | nil =>
        intro b s hxs hdone
        rw [List.append_nil] at hxs
        rw [hxs]
        exact hdone
    | cons a rest ih =>
        intro b s hxs hdone
        rw [List.foldlM_cons, ends_bind]
        refine (hbody done a rest b s hxs hdone).imp ?_ fun _ _ hQ => hQ
        intro b' t ht
        exact ih (done ++ [a]) b' t (by rw [hxs, List.append_assoc, List.singleton_append]) ht
  exact hfrom [] xs b s rfl hs

theorem forM_eq_foldlM (body : α → Action σ ε PUnit) (xs : List α) :
    xs.forM body = xs.foldlM (fun _ a => body a) ⟨⟩ := by
  induction xs with
  | nil => rfl
  | cons a rest ih =>
      rw [List.forM_eq_forM] at ih ⊢
      rw [List.forM_cons, List.foldlM_cons, ih]

/-- The rule for loops. -/
theorem ends_forM {body : α → Action σ ε PUnit} {I : List α → σ → Prop}
    {Q : ε → σ → Prop} (xs : List α)
    (hbody : ∀ done a rest s, xs = done ++ a :: rest → I done s →
      Ends (body a) s (fun _ t => I (done ++ [a]) t) Q)
    (hs : I [] s) : Ends (xs.forM body) s (fun _ t => I xs t) Q := by
  rw [forM_eq_foldlM]
  exact ends_foldlM (I := fun done _ t => I done t) xs
    (fun done a rest _ s hxs hdone => hbody done a rest s hxs hdone) hs

/-- An action keeps an invariant while it succeeds. Where it fails, `Q` says what it
leaves behind. -/
def Keeps (I : σ → Prop) (Q : ε → σ → Prop) (x : Action σ ε α) : Prop :=
  ∀ s, I s → Ends x s (fun _ t => I t) Q

section Keeps
variable {I : σ → Prop} {Q : ε → σ → Prop}

theorem Keeps.bind (hx : Keeps I Q x) (hf : ∀ a, Keeps I Q (f a)) : Keeps I Q (x >>= f) := by
  intro s hs
  rw [ends_bind]
  exact (hx s hs).imp (fun a t ht => hf a t ht) fun _ _ ht => ht

theorem Keeps.foldlM {body : β → α → Action σ ε β} {xs : List α}
    (h : ∀ a ∈ xs, ∀ b, Keeps I Q (body b a)) (b : β) : Keeps I Q (xs.foldlM body b) := by
  intro s hs
  refine ends_foldlM (I := fun _ _ t => I t) xs ?_ hs
  intro done a rest b t hxs ht
  refine h a ?_ b t ht
  rw [hxs]
  exact List.mem_append_right done List.mem_cons_self

theorem Keeps.forM {body : α → Action σ ε PUnit} {xs : List α}
    (h : ∀ a ∈ xs, Keeps I Q (body a)) : Keeps I Q (xs.forM body) := by
  rw [forM_eq_foldlM]
  exact Keeps.foldlM (fun a ha _ => h a ha) _

end Keeps

end Action

end EmbeddedSdk.StoppingLoops
