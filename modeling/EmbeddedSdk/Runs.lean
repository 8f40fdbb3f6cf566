import Mathlib.Data.List.Basic
import Mathlib.Data.List.Infix

/-!
# Runs of a partial step function

A system is a state type and a function that takes one event of its environment,
or refuses it in the present state. A run is a list of accepted events. Besides
the state it reaches, a run has a past: the events accepted so far. The rules
below carry facts about both, from one step to every run.
-/
namespace EmbeddedSdk.Runs

variable {σ ε : Type*} (step : σ → ε → Option σ)

/-- The state after all events, or `none` as soon as one of them is refused. -/
def run (s : σ) (es : List ε) : Option σ := es.foldlM step s

@[simp] theorem run_nil (s : σ) : run step s [] = some s := rfl

theorem run_cons (s : σ) (e : ε) (es : List ε) :
    run step s (e :: es) = (step s e).bind fun t => run step t es := rfl

theorem run_append (s : σ) (es fs : List ε) :
    run step s (es ++ fs) = (run step s es).bind fun t => run step t fs := by
  simp only [run, List.foldlM_append]
  rfl

theorem run_concat (s : σ) (es : List ε) (e : ε) :
    run step s (es ++ [e]) = (run step s es).bind fun t => step t e := by
  rw [run_append]
  congr 1
  funext t
  simp [run_cons]

variable {step}

theorem run_concat_some {s t : σ} {es : List ε} {e : ε}
    (h : run step s (es ++ [e]) = some t) :
    ∃ m, run step s es = some m ∧ step m e = some t := by
  rw [run_concat] at h
  exact Option.bind_eq_some_iff.mp h

/-- A run that is accepted as a whole is accepted up to every point of it. -/
theorem run_prefix_some {s t : σ} {es pre : List ε} (h : run step s es = some t)
    (hp : pre <+: es) : ∃ m, run step s pre = some m := by
  obtain ⟨rest, rfl⟩ := hp
  rw [run_append] at h
  obtain ⟨m, hm, _⟩ := Option.bind_eq_some_iff.mp h
  exact ⟨m, hm⟩

/-- The past of a run and its present state stay related if every accepted
event keeps them related. -/
theorem run_history {R : List ε → σ → Prop} {s₀ : σ} (hinit : R [] s₀)
    (hstep : ∀ past s e t, run step s₀ past = some s → R past s → step s e = some t →
      R (past ++ [e]) t)
    {es : List ε} {s : σ} (h : run step s₀ es = some s) : R es s := by
  induction es using List.reverseRecOn generalizing s with
  | nil =>
      rw [run_nil] at h
      cases h
      exact hinit
  | append_singleton past e ih =>
      obtain ⟨m, hm, ht⟩ := run_concat_some h
      exact hstep past m e s hm (ih hm) ht

/-- An invariant of every step holds in every state that a run reaches. -/
theorem run_invariant {I : σ → Prop} {s₀ : σ} (hinit : I s₀)
    (hstep : ∀ s e t, I s → step s e = some t → I t)
    {es : List ε} {s : σ} (h : run step s₀ es = some s) : I s :=
  run_history (R := fun _ s => I s) hinit (fun _ s e t _ hs ht => hstep s e t hs ht) h

variable (step)

/-- Every state reached on the way satisfies `P`, which may look at the past. -/
def Always (s₀ : σ) (es : List ε) (P : List ε → σ → Prop) : Prop :=
  ∀ past, past <+: es → ∀ s, run step s₀ past = some s → P past s

/-- Every event of the run meets `C` in the state and the past it finds. -/
def EachStep (s₀ : σ) (es : List ε) (C : List ε → σ → ε → Prop) : Prop :=
  ∀ past e, past ++ [e] <+: es → ∀ s, run step s₀ past = some s → C past s e

variable {step}

theorem EachStep.mono {s₀ : σ} {es fs : List ε} {C : List ε → σ → ε → Prop}
    (h : EachStep step s₀ fs C) (hp : es <+: fs) : EachStep step s₀ es C :=
  fun past e he s hs => h past e (he.trans hp) s hs

theorem EachStep.of_forall {s₀ : σ} {es : List ε} {C : ε → Prop} (h : ∀ e ∈ es, C e) :
    EachStep step s₀ es fun _ _ e => C e :=
  fun past e hp _ _ => h e (hp.subset (by simp))

/-- `run_history` for a run whose events all meet a condition. -/
theorem EachStep.history {R : List ε → σ → Prop} {C : List ε → σ → ε → Prop} {s₀ : σ}
    (hinit : R [] s₀)
    (hstep : ∀ past s e t, run step s₀ past = some s → R past s → C past s e →
      step s e = some t → R (past ++ [e]) t)
    {es : List ε} {s : σ} (hc : EachStep step s₀ es C) (h : run step s₀ es = some s) :
    R es s := by
  induction es using List.reverseRecOn generalizing s with
  | nil =>
      rw [run_nil] at h
      cases h
      exact hinit
  | append_singleton past e ih =>
      obtain ⟨m, hm, ht⟩ := run_concat_some h
      exact hstep past m e s hm (ih (hc.mono ⟨[e], rfl⟩) hm) (hc past e List.prefix_rfl m hm) ht

/-- A condition on events is exact for a property of states when events that
meet it keep the property and an event that breaks it breaks the property at
once. -/
theorem always_iff_eachStep {P : List ε → σ → Prop} {C : List ε → σ → ε → Prop} {s₀ t : σ}
    {es : List ε} (h : run step s₀ es = some t)
    (hgood : ∀ past s, past <+: es → EachStep step s₀ past C → run step s₀ past = some s →
      P past s)
    (hbad : ∀ past s e u, past ++ [e] <+: es → run step s₀ past = some s → P past s →
      step s e = some u → ¬ C past s e → ¬ P (past ++ [e]) u) :
    Always step s₀ es P ↔ EachStep step s₀ es C := by
  constructor
  · intro halways past e hp s hs
    by_contra hc
    obtain ⟨u, hu⟩ := run_prefix_some h hp
    obtain ⟨m, hm, hmu⟩ := run_concat_some hu
    have hms : m = s := Option.some.inj (hm.symm.trans hs)
    subst hms
    have hpast : past <+: es := (List.prefix_append past [e]).trans hp
    exact hbad past m e u hp hm (halways past hpast m hm) hmu hc (halways _ hp u hu)
  · intro heach past hp s hs
    exact hgood past s hp (heach.mono hp) hs

end EmbeddedSdk.Runs
