import Mathlib.Data.List.Basic
import Mathlib.Order.Basic

/-!
# Runs of machines and loops

Two shapes of program share this module. A *machine* has a state and a step
function that takes an event; a run is a list of events (`exec`), and a
condition on steps is required of every step of the run (`Meets`). A *loop* has a
body that, given what the environment answers in this iteration, goes round again
or leaves with a result (`Outcome`); it is fed by a list of answers (`loop`) or
by a partner that computes each answer from the state of both (`interact`).

## What is proved

* `exec_inv` — the invariant rule: what every step meeting the condition
  preserves holds after every run whose steps all meet it.
* `meets_inv`, `meets_iff` — a condition that follows from another one, or agrees with it, under an
  invariant holds of the same runs.
* `meets_take`, `meets_of_always` — a condition on the steps of a run against what holds after every number of them.
* `exec_iff`, `loop_iff` — what one bad step loses for good is there at the end exactly when no step is bad.
* `loop_rule`, `interact_rule` — the same for loops, with a postcondition for the
  iteration that leaves.
* `loop_stream_iff` — when a loop that is fed by an infinite stream of answers has been left.
* `loop_total`, `interact_total` — a measure that decreases each time the loop goes round gives
  a number of iterations after which it has been left.
-/

namespace Runs

universe u v w x

variable {σ : Type u} {α : Type v} {ρ : Type w} {τ : Type x}

/-! ### Machines -/

/-- The state reached from `s` by the events `es`. -/
def exec (step : σ → α → σ) (s : σ) (es : List α) : σ := es.foldl step s

@[simp] theorem exec_nil (step : σ → α → σ) (s : σ) : exec step s [] = s := rfl

@[simp] theorem exec_cons (step : σ → α → σ) (s : σ) (e : α) (es : List α) :
    exec step s (e :: es) = exec step (step s e) es := rfl

theorem exec_append (step : σ → α → σ) (s : σ) (es fs : List α) :
    exec step s (es ++ fs) = exec step (exec step s es) fs := List.foldl_append

/-- Every step of the run of `es` from `s` is taken in a state that, with its event,
meets `P`. -/
def Meets (step : σ → α → σ) (P : σ → α → Prop) : σ → List α → Prop
  | _, [] => True
  | s, e :: es => P s e ∧ Meets step P (step s e) es

@[simp] theorem meets_nil (step : σ → α → σ) (P : σ → α → Prop) (s : σ) : Meets step P s [] := trivial

@[simp] theorem meets_cons (step : σ → α → σ) (P : σ → α → Prop) (s : σ) (e : α) (es : List α) :
    Meets step P s (e :: es) ↔ P s e ∧ Meets step P (step s e) es := Iff.rfl

theorem meets_true (step : σ → α → σ) : ∀ (es : List α) (s : σ), Meets step (fun _ _ => True) s es
  | [], _ => trivial
  | e :: es, s => ⟨trivial, meets_true step es (step s e)⟩

/-- What holds of every event holds in the run. -/
theorem meets_of_forall {step : σ → α → σ} {P : α → Prop} :
    ∀ (es : List α) (s : σ), (∀ e ∈ es, P e) → Meets step (fun _ e => P e) s es
  | [], _, _ => trivial
  | e :: es, s, h =>
    ⟨h e List.mem_cons_self, meets_of_forall es (step s e) fun e' he' => h e' (List.mem_cons_of_mem e he')⟩

theorem meets_and {step : σ → α → σ} {P Q : σ → α → Prop} {s : σ} {es : List α} :
    Meets step (fun s e => P s e ∧ Q s e) s es ↔ Meets step P s es ∧ Meets step Q s es := by
  induction es generalizing s with
  | nil => simp
  | cons e es ih => simp only [meets_cons, ih, and_and_and_comm]

theorem meets_append {step : σ → α → σ} {P : σ → α → Prop} {s : σ} {es fs : List α} :
    Meets step P s (es ++ fs) ↔ Meets step P s es ∧ Meets step P (exec step s es) fs := by
  induction es generalizing s with
  | nil => simp
  | cons e es ih => simp only [List.cons_append, meets_cons, exec_cons, ih, and_assoc]

theorem meets_take {step : σ → α → σ} {P : σ → α → Prop} {s : σ} {es : List α} (h : Meets step P s es) (k : ℕ) :
    Meets step P s (es.take k) := by
  have hsplit : Meets step P s (es.take k ++ es.drop k) := by
    rw [List.take_append_drop]
    exact h
  exact (meets_append.mp hsplit).1

instance decidableMeets (step : σ → α → σ) (P : σ → α → Prop) [∀ s e, Decidable (P s e)] :
    ∀ (s : σ) (es : List α), Decidable (Meets step P s es)
  | _, [] => isTrue trivial
  | s, e :: es =>
    have := decidableMeets step P (step s e) es
    inferInstanceAs (Decidable (P s e ∧ Meets step P (step s e) es))

/-- **The invariant rule**: what every step meeting `P` preserves holds after every
run whose steps all meet `P`. -/
theorem exec_inv {step : σ → α → σ} {P : σ → α → Prop} {I : σ → Prop}
    (hstep : ∀ s e, I s → P s e → I (step s e)) :
    ∀ (es : List α) (s : σ), I s → Meets step P s es → I (exec step s es) := by
  intro es
  induction es with
  | nil => intro s hI _; exact hI
  | cons e es ih =>
    intro s hI hm
    obtain ⟨hP, hrest⟩ := hm
    exact ih _ (hstep s e hI hP) hrest

/-- What each step meeting `P` from a state with the invariant meets too, every step of such a run meets. -/
theorem meets_inv {step : σ → α → σ} {P Q : σ → α → Prop} {I : σ → Prop}
    (hstep : ∀ s e, I s → P s e → I (step s e) ∧ Q s e) :
    ∀ (es : List α) (s : σ), I s → Meets step P s es → Meets step Q s es := by
  intro es
  induction es with
  | nil => intro _ _ _; trivial
  | cons e es ih =>
    intro s hI hm
    obtain ⟨hP, hrest⟩ := hm
    obtain ⟨hI', hQ⟩ := hstep s e hI hP
    exact ⟨hQ, ih _ hI' hrest⟩

/-- Two conditions that agree in every state reached by steps meeting `R`, hold of the same runs. -/
theorem meets_iff {step : σ → α → σ} {R P Q : σ → α → Prop} {I : σ → Prop}
    (hstep : ∀ s e, I s → R s e → I (step s e)) (h : ∀ s e, I s → R s e → (P s e ↔ Q s e)) :
    ∀ (es : List α) (s : σ), I s → Meets step R s es → (Meets step P s es ↔ Meets step Q s es) := by
  intro es
  induction es with
  | nil => intro s _ _; exact Iff.rfl
  | cons e es ih =>
    intro s hI hm
    obtain ⟨hR, hrest⟩ := hm
    exact and_congr (h s e hI hR) (ih _ (hstep s e hI hR) hrest)

/-- What is lost in a step that does not meet `P`, and never comes back, is there at the end exactly when every
step meets `P`. -/
theorem exec_iff {step : σ → α → σ} {R P : σ → α → Prop} {I K : σ → Prop}
    (hstep : ∀ s e, I s → R s e → I (step s e)) (h : ∀ s e, I s → R s e → (K (step s e) ↔ K s ∧ P s e)) :
    ∀ (es : List α) (s : σ), I s → Meets step R s es → (K (exec step s es) ↔ K s ∧ Meets step P s es) := by
  intro es
  induction es with
  | nil => intro s _ _; exact (and_iff_left trivial).symm
  | cons e es ih =>
    intro s hI hm
    obtain ⟨hR, hrest⟩ := hm
    rw [exec_cons, ih _ (hstep s e hI hR) hrest, h s e hI hR, meets_cons, and_assoc]

/-- A run in which `K` holds after every number of steps meets what a step between two such states meets. -/
theorem meets_of_always {step : σ → α → σ} {P : σ → α → Prop} {K : σ → Prop}
    (hstep : ∀ s e, K s → K (step s e) → P s e) :
    ∀ (es : List α) (s : σ), (∀ k, K (exec step s (es.take k))) → Meets step P s es := by
  intro es
  induction es with
  | nil => intro _ _; trivial
  | cons e es ih =>
    intro s hK
    have hnext : ∀ k, K (exec step (step s e) (es.take k)) := fun k => hK (k + 1)
    exact ⟨hstep s e (hK 0) (hnext 0), ih _ hnext⟩

/-! ### Loops -/

/-- What one iteration does: the loop goes round with a new state, or is left with
a result. -/
inductive Outcome (σ : Type u) (ρ : Type w) where
  /-- The loop goes round. -/
  | next (s : σ)
  /-- The loop is left. -/
  | leave (r : ρ) (s : σ)
  deriving DecidableEq

/-- The loop with the given body, fed by the list of the environment's answers. It
is still going round when the list is exhausted. -/
def loop (body : σ → α → Outcome σ ρ) : σ → List α → Outcome σ ρ
  | s, [] => .next s
  | s, a :: as =>
    match body s a with
    | .next s' => loop body s' as
    | .leave r s' => .leave r s'

/-- `P` holds at every iteration the loop executes. -/
def Along (body : σ → α → Outcome σ ρ) (P : σ → α → Prop) : σ → List α → Prop
  | _, [] => True
  | s, a :: as =>
    P s a ∧ match body s a with
      | .next s' => Along body P s' as
      | .leave _ _ => True

theorem along_true (body : σ → α → Outcome σ ρ) :
    ∀ (s : σ) (as : List α), Along body (fun _ _ => True) s as
  | _, [] => trivial
  | s, a :: as => by
    refine ⟨trivial, ?_⟩
    cases body s a with
    | next s' => exact along_true body s' as
    | leave _ _ => trivial

instance decidableAlong (body : σ → α → Outcome σ ρ) (P : σ → α → Prop) [∀ s a, Decidable (P s a)] :
    ∀ (s : σ) (as : List α), Decidable (Along body P s as)
  | _, [] => isTrue trivial
  | s, a :: as =>
    have : Decidable (match body s a with
      | .next s' => Along body P s' as
      | .leave _ _ => True) :=
      match body s a with
      | .next s' => decidableAlong body P s' as
      | .leave _ _ => isTrue trivial
    inferInstanceAs (Decidable (_ ∧ _))

/-- The state at the end. -/
def Outcome.state : Outcome σ ρ → σ
  | .next s => s
  | .leave _ s => s

/-- The outcome of a loop on states that are seen through `f`. -/
def Outcome.map (f : σ → τ) : Outcome σ ρ → Outcome τ ρ
  | .next s => .next (f s)
  | .leave r s => .leave r (f s)

theorem Outcome.map_state (f : σ → τ) (o : Outcome σ ρ) : (o.map f).state = f o.state := by cases o <;> rfl

/-- **Simulation**: a body that does through `f` what another one does. -/
theorem loop_map {body : σ → α → Outcome σ ρ} {body' : τ → α → Outcome τ ρ} {f : σ → τ}
    (hbody : ∀ s a, (body s a).map f = body' (f s) a) :
    ∀ (as : List α) (s : σ), (loop body s as).map f = loop body' (f s) as := by
  intro as
  induction as with
  | nil => intro s; rfl
  | cons a as ih =>
    intro s
    simp only [loop, ← hbody]
    cases body s a with
    | next s' => exact ih s'
    | leave r s' => rfl

/-- What is seen through `f` along the loop. -/
theorem along_map {body : σ → α → Outcome σ ρ} {body' : τ → α → Outcome τ ρ} {f : σ → τ} {P : τ → α → Prop}
    (hbody : ∀ s a, (body s a).map f = body' (f s) a) :
    ∀ (as : List α) (s : σ), Along body (fun s a => P (f s) a) s as ↔ Along body' P (f s) as := by
  intro as
  induction as with
  | nil => intro s; exact Iff.rfl
  | cons a as ih =>
    intro s
    simp only [Along, ← hbody]
    cases body s a with
    | next s' => exact and_congr_right fun _ => ih s'
    | leave r s' => exact Iff.rfl

/-- What is lost in an iteration that does not meet `P`, and never comes back, is there at the end exactly when
every iteration meets `P`. -/
theorem loop_iff {body : σ → α → Outcome σ ρ} {P : σ → α → Prop} {K : σ → Prop}
    (hbody : ∀ s a, K (body s a).state ↔ K s ∧ P s a) :
    ∀ (as : List α) (s : σ), K (loop body s as).state ↔ K s ∧ Along body P s as := by
  intro as
  induction as with
  | nil => intro s; exact (and_iff_left trivial).symm
  | cons a as ih =>
    intro s
    have h := hbody s a
    simp only [loop, Along]
    cases hb : body s a with
    | next s' =>
      rw [hb] at h
      rw [ih s', ← and_assoc, ← h]
      rfl
    | leave r s' =>
      rw [hb] at h
      rw [and_true]
      exact h

/-- What holds of every answer holds along the loop. -/
theorem along_of_forall {body : σ → α → Outcome σ ρ} {P : α → Prop} :
    ∀ (as : List α) (s : σ), (∀ a ∈ as, P a) → Along body (fun _ a => P a) s as := by
  intro as
  induction as with
  | nil => intro s _; trivial
  | cons a as ih =>
    intro s h
    refine ⟨h a List.mem_cons_self, ?_⟩
    cases body s a with
    | next s' => exact ih s' fun b hb => h b (List.mem_cons_of_mem a hb)
    | leave r s' => trivial

/-- An outcome meets `I` when the loop goes round and `Q` when it is left. -/
def Outcome.Sat (I : σ → Prop) (Q : ρ → σ → Prop) : Outcome σ ρ → Prop
  | .next s => I s
  | .leave r s => Q r s

/-- What holds of every iteration from a state with the invariant holds along the loop. -/
theorem along_inv {body : σ → α → Outcome σ ρ} {P : σ → α → Prop} {I : σ → Prop}
    (hbody : ∀ s a, I s → P s a ∧ (body s a).Sat I fun _ _ => True) :
    ∀ (as : List α) (s : σ), I s → Along body P s as := by
  intro as
  induction as with
  | nil => intro s _; trivial
  | cons a as ih =>
    intro s hI
    obtain ⟨hP, h⟩ := hbody s a hI
    refine ⟨hP, ?_⟩
    cases hb : body s a with
    | next s' =>
      rw [hb] at h
      exact ih s' h
    | leave r s' => trivial

/-- **The loop rule**: an invariant that every iteration preserves, and a
postcondition that every leaving iteration establishes from it. -/
theorem loop_rule {body : σ → α → Outcome σ ρ} {P : σ → α → Prop} {I : σ → Prop} {Q : ρ → σ → Prop}
    (hbody : ∀ s a, I s → P s a → (body s a).Sat I Q) :
    ∀ (as : List α) (s : σ), I s → Along body P s as → (loop body s as).Sat I Q := by
  intro as
  induction as with
  | nil => intro s hI _; exact hI
  | cons a as ih =>
    intro s hI hal
    obtain ⟨hP, hrest⟩ := hal
    have h := hbody s a hI hP
    simp only [loop]
    cases hb : body s a with
    | next s' =>
      rw [hb] at h hrest
      exact ih s' h hrest
    | leave r s' =>
      rw [hb] at h
      exact h

/-- **Termination**: with an invariant whose measure decreases whenever the loop goes
round, a list of answers longer than the measure sees the loop left. -/
theorem loop_total {body : σ → α → Outcome σ ρ} {I : σ → Prop} (m : σ → ℕ)
    (hbody : ∀ s a, I s → (body s a).Sat (fun s' => I s' ∧ m s' < m s) fun _ _ => True) :
    ∀ (as : List α) (s : σ), I s → m s < as.length → ∃ r s', loop body s as = .leave r s' := by
  intro as
  induction as with
  | nil => intro s _ hm; exact absurd hm (Nat.not_lt_zero _)
  | cons a as ih =>
    intro s hI hm
    have h := hbody s a hI
    simp only [loop]
    cases hb : body s a with
    | next s' =>
      rw [hb] at h
      exact ih s' h.1 (by have := h.2; simp only [List.length_cons] at hm; omega)
    | leave r s' => exact ⟨r, s', rfl⟩

theorem loop_concat (body : σ → α → Outcome σ ρ) (a : α) :
    ∀ (as : List α) (s : σ), loop body s (as ++ [a]) =
      match loop body s as with
      | .next s' => body s' a
      | .leave r s' => .leave r s' := by
  intro as
  induction as with
  | nil =>
    intro s
    simp only [List.nil_append, loop]
    cases body s a <;> rfl
  | cons b as ih =>
    intro s
    simp only [List.cons_append, loop]
    cases body s b with
    | next s' => exact ih s'
    | leave r s' => rfl

/-- **Endless answers**: a loop that goes round on the `k`-th answer when `G k`, and is left otherwise, has been
left after `n` answers exactly when one of them is not as `G` says. -/
theorem loop_stream_iff {body : σ → α → Outcome σ ρ} {as : ℕ → α} {I : ℕ → σ → Prop} {G : ℕ → Prop}
    (hbody : ∀ k s, I k s → (G k ∧ ∃ s', body s (as k) = .next s' ∧ I (k + 1) s') ∨
      (¬ G k ∧ ∃ r s', body s (as k) = .leave r s')) {s : σ} (h : I 0 s) (n : ℕ) :
    (∃ r s', loop body s ((List.range n).map as) = .leave r s') ↔ ∃ k < n, ¬ G k := by
  have hrun : ∀ n : ℕ, ((∀ k < n, G k) ∧ ∃ s', loop body s ((List.range n).map as) = .next s' ∧ I n s') ∨
      ((∃ k < n, ¬ G k) ∧ ∃ r s', loop body s ((List.range n).map as) = .leave r s') := by
    intro n
    induction n with
    | zero => exact .inl ⟨fun k hk => absurd hk (Nat.not_lt_zero k), s, rfl, h⟩
    | succ n ih =>
      rw [List.range_succ, List.map_append, List.map_singleton, loop_concat]
      rcases ih with ⟨hG, s', he, hI⟩ | ⟨⟨k, hk, hG⟩, r, s', he⟩
      · rw [he]
        rcases hbody n s' hI with ⟨hn, t, ht, hI'⟩ | ⟨hn, r, t, ht⟩
        · refine .inl ⟨fun k hk => ?_, t, ht, hI'⟩
          rcases Nat.lt_succ_iff_lt_or_eq.mp hk with hk | rfl
          · exact hG k hk
          · exact hn
        · exact .inr ⟨⟨n, Nat.lt_succ_self n, hn⟩, r, t, ht⟩
      · rw [he]
        exact .inr ⟨⟨k, Nat.lt_succ_of_lt hk, hG⟩, r, s', rfl⟩
  rcases hrun n with ⟨hG, s', he, -⟩ | ⟨hG, hleft⟩
  · constructor
    · rintro ⟨r, t, ht⟩
      cases he.symm.trans ht
    · rintro ⟨k, hk, hnot⟩
      exact absurd (hG k hk) hnot
  · exact iff_of_true hleft hG

/-- The loop with the given body against a partner in state `t`, which computes the
answer of each iteration and its own next state from both states; `fuel` bounds the
iterations. -/
def interact (body : σ → α → Outcome σ ρ) (serve : σ → τ → α × τ) : ℕ → σ → τ → Outcome (σ × τ) ρ
  | 0, s, t => .next (s, t)
  | fuel + 1, s, t =>
    match body s (serve s t).1 with
    | .next s' => interact body serve fuel s' (serve s t).2
    | .leave r s' => .leave r (s', (serve s t).2)

/-- The loop rule against a partner: the invariant speaks of both states. -/
theorem interact_rule {body : σ → α → Outcome σ ρ} (serve : σ → τ → α × τ) {I : σ → τ → Prop}
    {Q : ρ → σ → τ → Prop}
    (hbody : ∀ s t, I s t → (body s (serve s t).1).Sat (fun s' => I s' (serve s t).2)
      fun r s' => Q r s' (serve s t).2) :
    ∀ (k : ℕ) (s : σ) (t : τ), I s t →
      (interact body serve k s t).Sat (fun p => I p.1 p.2) fun r p => Q r p.1 p.2 := by
  intro k
  induction k with
  | zero => intro s t hI; exact hI
  | succ k ih =>
    intro s t hI
    have h := hbody s t hI
    simp only [interact]
    cases hb : body s (serve s t).1 with
    | next s' =>
      rw [hb] at h
      exact ih s' _ h
    | leave r s' =>
      rw [hb] at h
      exact h

/-- **Total correctness of an interaction**: with an invariant whose measure
decreases whenever the loop goes round, the loop is left, and as `Q` says. -/
theorem interact_total {body : σ → α → Outcome σ ρ} (serve : σ → τ → α × τ) {I : σ → τ → Prop}
    {Q : ρ → σ → τ → Prop} (m : σ → τ → ℕ)
    (hbody : ∀ s t, I s t → (body s (serve s t).1).Sat
      (fun s' => I s' (serve s t).2 ∧ m s' (serve s t).2 < m s t) fun r s' => Q r s' (serve s t).2) :
    ∀ (n : ℕ) (s : σ) (t : τ), I s t → m s t < n →
      ∃ k r s' t', interact body serve k s t = .leave r (s', t') ∧ Q r s' t' := by
  intro n
  induction n with
  | zero => intro s t _ h; exact absurd h (Nat.not_lt_zero _)
  | succ n ih =>
    intro s t hI hm
    have h := hbody s t hI
    cases hb : body s (serve s t).1 with
    | next s' =>
      rw [hb] at h
      obtain ⟨hI', hlt⟩ := h
      obtain ⟨k, r, s'', t'', hk, hQ⟩ := ih s' _ hI' (Nat.lt_of_lt_of_le hlt (Nat.le_of_lt_succ hm))
      exact ⟨k + 1, r, s'', t'', by simp only [interact, hb]; exact hk, hQ⟩
    | leave r s' =>
      rw [hb] at h
      exact ⟨1, r, s', _, by simp only [interact, hb], h⟩

end Runs
