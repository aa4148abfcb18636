import BofWebRpc.WebSocket.Results
import BofWebRpc.WebSocket.Synchronous

/-!
# Two users of one queue of results

A synchronous call collects every result it finds until its own appears. Another user who programs
operations of his own collects from the same queue.

## The model

`sharedCall` is `syncCall` with a record of who has collected what: the call, or the events that
happen before each of its accesses, among them the `collect` of the other user. What it adds to
`syncCall` is history only (`sharedCall_engine`).

## What is proved

* `share_conserved` — a result that has been there or is pushed is there, or has been collected by one of
  the two.
* `results_kept_iff` — the other user can still collect his results after the call exactly when none of
  them is the oldest one at an access of the call.
-/

namespace BofWebRpc.WebSocket

open Runs

variable {cfg : WebSocketParam}

/-! ### Who collects what -/

/-- The results the call has collected, and the ones the other user has. -/
structure Shares where
  call : List OperationResult
  other : List OperationResult

/-- The engine, with the transfers, and the shares. -/
abbrev Shared (cfg : WebSocketParam) := Metered cfg × Shares

/-- What an event collects. -/
def Event.collects (s : State cfg) : Event → List OperationResult
  | .collect => s.resultCollection.peek.toList
  | _ => []

/-- An event outside the call. -/
def share (p : Shared cfg) (e : Event) : Shared cfg :=
  (meter p.1 e, { p.2 with other := p.2.other ++ e.collects p.1.1 })

/-- An access of the call to the queue of results, after the events `es`. -/
def sharedRound (opTicket : ℕ) (p : Shared cfg) (es : List Event) : Outcome (Shared cfg) (Option OperationResult) :=
  let p := exec share p es
  (collectRound opTicket p.1 []).map fun q =>
    (q, { p.2 with call := p.2.call ++ p.1.1.resultCollection.peek.toList })

/-- A synchronous call, up to its return if it does, and who has collected what meanwhile. -/
def sharedCall (call : SyncCall) (timeOut tick : ℕ) (p : Metered cfg) (rounds : List (List Event)) : Shared cfg :=
  let program := Event.program timeOut tick call.opParam
  if program.pushes p.1 then (loop (sharedRound p.1.ticket) (meter p program, ⟨[], []⟩) rounds).state
  else (meter p program, ⟨[], []⟩)

theorem exec_share_call (es : List Event) (p : Shared cfg) : (exec share p es).2.call = p.2.call := by
  induction es generalizing p with
  | nil => rfl
  | cons e es ih => exact ih (share p e)

theorem exec_share_engine (es : List Event) (p : Shared cfg) : (exec share p es).1 = exec meter p.1 es := by
  induction es generalizing p with
  | nil => rfl
  | cons e es ih => exact ih (share p e)

theorem sharedRound_engine (opTicket : ℕ) (p : Shared cfg) (es : List Event) :
    (sharedRound opTicket p es).map Prod.fst = collectRound opTicket p.1 es := by
  simp only [sharedRound, collectRound, exec_nil, exec_share_engine]
  split
  · rfl
  · split_ifs <;> rfl

/-- The shares are history: the engine goes on as in `syncCall`. -/
theorem sharedCall_engine (call : SyncCall) (timeOut tick : ℕ) (p : Metered cfg) (rounds : List (List Event)) :
    (sharedCall call timeOut tick p rounds).1 = (syncCall call timeOut tick p rounds).1 := by
  have hloop := congrArg Outcome.state 
    (loop_map (sharedRound_engine p.1.ticket) rounds (meter p (.program timeOut tick call.opParam), ⟨[], []⟩))
  rw [Outcome.map_state] at hloop
  cases hpushes : (Event.program timeOut tick call.opParam).pushes p.1 with
  | false => simp only [sharedCall, syncCall, hpushes, Bool.false_eq_true, if_false]
  | true =>
    simp only [sharedCall, syncCall, hpushes, if_true]
    rw [hloop]
    cases loop (collectRound p.1.ticket) (meter p (.program timeOut tick call.opParam)) rounds with
    | next q => rfl
    | leave found q => cases found <;> rfl

/-! ### Conservation -/

/-- A call that throws away the results that are queued. -/
def Event.wipes : Event → Bool
  | .cancel _ | .reset => true
  | _ => false

/-- An iteration without a cancel only pushes. -/
theorem iterate_pushes {s : State cfg} (hcancel : s.cancel = false) (env : LoopEnv) :
    Pushes (fun _ => True) s (s.iterate env) := by
  cases hrun : s.loop.running with
  | false =>
    rw [iterate_of_stopped hrun]
    exact .of_eq rfl rfl
  | true =>
    have hbefore := (beforeCancel_sameSignals s env).cancel.trans hcancel
    rw [iterate_eq hrun]
    refine (beforeCancel_pushes (fun _ _ _ _ => trivial) env).trans ?_
    rcases endIteration_results (s.beforeCancel env) env with
      ⟨hset, -⟩ | ⟨-, -, hq, hpushed⟩ | ⟨-, -, time, hp⟩
    · exact absurd (hbefore.symm.trans hset) Bool.false_ne_true
    · exact .of_eq hq hpushed
    · exact .one trivial hp

/-- **One event** neither loses nor invents a result, unless it is a cancel. -/
theorem step_results {s : State cfg} (hcancel : s.cancel = false) {e : Event} (he : e.wipes = false) :
    (step s e).cancel = false ∧ ∃ new, (step s e).history.pushed = s.history.pushed ++ new ∧
      (s.resultCollection.elements ++ new).Perm ((step s e).resultCollection.elements ++ e.collects s) := by
  have hpushes : (step s e).cancel = s.cancel → Pushes (fun _ => True) s (step s e) → e.collects s = [] →
      (step s e).cancel = false ∧ ∃ new, (step s e).history.pushed = s.history.pushed ++ new ∧
        (s.resultCollection.elements ++ new).Perm ((step s e).resultCollection.elements ++ e.collects s) := by
    rintro hsame ⟨new, -, hq, hpushed⟩ hnone
    refine ⟨hsame.trans hcancel, new, hpushed, ?_⟩
    rw [hq, hnone, List.append_nil]
  cases e with
  | program timeOut tick opParam =>
    refine hpushes ?_ (.of_eq ?_ ?_) rfl <;> simp only [step, State.program] <;> split <;> rfl
  | collect =>
    simp only [step, State.collect, Event.collects]
    split
    · next r q hpop =>
      have hq := Fifo.pop_eq_some_iff.mp hpop
      have hpeek : s.resultCollection.peek = some r := by rw [Fifo.peek, hq, List.head?_cons]
      refine ⟨hcancel, [], (List.append_nil _).symm, ?_⟩
      rw [hq, hpeek, List.append_nil]
      exact (List.perm_append_singleton r _).symm
    · next hpop =>
      have hpeek : s.resultCollection.peek = none := Option.map_eq_none_iff.mp hpop
      refine ⟨hcancel, [], (List.append_nil _).symm, ?_⟩
      rw [hpeek]
      exact .refl _
  | cancel timeOut | reset => cases he
  | cancelled =>
    refine hpushes ?_ (.of_eq ?_ ?_) rfl <;> simp only [step, State.cancelled] <;> split_ifs <;> rfl
  | clear => exact ⟨rfl, [], (List.append_nil _).symm, .refl _⟩
  | callback cb =>
    refine hpushes ?_ ?_ rfl <;> simp only [step] <;> split_ifs
    · exact (lwsCallback_same cb s).cancel
    · rfl
    · exact lwsCallback_pushes (fun _ _ _ _ => trivial) cb
    · exact .of_eq rfl rfl
  | iterate env =>
    refine hpushes ?_ (iterate_pushes hcancel env) rfl
    rcases iterate_cases s env with ⟨-, he⟩ | ⟨-, hset, -⟩ | ⟨-, -, hsame⟩
    · simp only [step, he]
    · exact absurd (hcancel.symm.trans hset) Bool.false_ne_true
    · exact hsame.cancel

/-- What was in the queue and what has been pushed is in the queue or has been collected. -/
structure Conserved (s : State cfg) (p : Shared cfg) : Prop where
  cancel : p.1.1.cancel = false
  results : ∃ new, p.1.1.history.pushed = s.history.pushed ++ new ∧
    (s.resultCollection.elements ++ new).Perm (p.1.1.resultCollection.elements ++ (p.2.call ++ p.2.other))

theorem share_conserved {s : State cfg} (p : Shared cfg) (e : Event) (h : Conserved s p) (he : e.wipes = false) :
    Conserved s (share p e) := by
  obtain ⟨hcancel, new, hpushed, hperm⟩ := h
  obtain ⟨hcancel', new', hpushed', hperm'⟩ := step_results hcancel he
  refine ⟨hcancel', new ++ new', ?_, ?_⟩
  · rw [← List.append_assoc, ← hpushed]
    exact hpushed'
  · rw [List.perm_iff_count] at hperm hperm' ⊢
    intro r
    have h := hperm r
    have h' := hperm' r
    simp only [share, meter, List.count_append] at h h' ⊢
    omega

/-! ### What the call collects -/

/-- The call collects the oldest result, if there is one. -/
theorem sharedRound_conserved {s : State cfg} (opTicket : ℕ) (p : Shared cfg) (es : List Event) (h : Conserved s p)
    (he : ∀ e ∈ es, e.wipes = false) :
    (sharedRound opTicket p es).Sat (Conserved s) fun _ q => Conserved s q := by
  have hmeets : Meets share (fun _ e => e.wipes = false) p es := meets_of_forall es p he
  obtain ⟨hcancel, new, hpushed, hperm⟩ := exec_inv share_conserved es p h hmeets
  simp only [sharedRound, collectRound, exec_nil]
  generalize exec share p es = q at hcancel hpushed hperm ⊢
  cases hpeek : q.1.1.resultCollection.peek with
  | none =>
    refine ⟨hcancel, new, hpushed, ?_⟩
    rw [Option.toList_none, List.append_nil]
    exact hperm
  | some r =>
    have hcons := Fifo.peek_eq_some_iff.mp hpeek
    have hcollected : (q.1.1.collect).resultCollection.elements = q.1.1.resultCollection.skip.elements ∧
        (q.1.1.collect).history.pushed = q.1.1.history.pushed ∧ (q.1.1.collect).cancel = q.1.1.cancel := by
      simp only [State.collect, Fifo.pop, hpeek, Option.map_some, and_self]
    have hnext : Conserved s (meter q.1 .collect, { q.2 with call := q.2.call ++ [r] }) := by
      refine ⟨hcollected.2.2.trans hcancel, new, hcollected.2.1.trans hpushed, ?_⟩
      rw [List.perm_iff_count] at hperm ⊢
      intro r'
      have h := hperm r'
      rw [hcons] at h
      simp only [meter, step, hcollected.1, List.count_append, List.count_cons, List.count_nil] at h ⊢
      omega
    dsimp only
    split_ifs <;> exact hnext

theorem sharedCall_conserved (call : SyncCall) (timeOut tick : ℕ) {p : Metered cfg} (hcancel : p.1.cancel = false)
    {rounds : List (List Event)} (hrounds : ∀ es ∈ rounds, ∀ e ∈ es, e.wipes = false) :
    Conserved p.1 (sharedCall call timeOut tick p rounds) := by
  have hstart : Conserved p.1 ((p, ⟨[], []⟩) : Shared cfg) :=
    ⟨hcancel, [], (List.append_nil _).symm, by simp only [List.append_nil, List.Perm.refl]⟩
  have hprogram := share_conserved _ (.program timeOut tick call.opParam) hstart rfl
  have hloop := loop_rule (Q := fun _ q => Conserved p.1 q)
    (fun q es hq he => sharedRound_conserved p.1.ticket q es hq he) rounds _ hprogram
    (along_of_forall (P := fun es => ∀ e ∈ es, e.wipes = false) rounds _ hrounds)
  simp only [sharedCall]
  split_ifs
  · change Conserved p.1 (loop (sharedRound p.1.ticket) (share (p, ⟨[], []⟩) (.program timeOut tick call.opParam))
      rounds).state
    cases hout : loop (sharedRound p.1.ticket) (share (p, ⟨[], []⟩) (.program timeOut tick call.opParam)) rounds with
    | next q =>
      rw [hout] at hloop
      exact hloop
    | leave found q =>
      rw [hout] at hloop
      exact hloop
  · exact hprogram

/-! ### What the other user still gets -/

/-- The results with the tickets `T` that were in the queue in `s`, or have been pushed since, are still there or
have been collected by the other user. -/
def ResultsKept (T : ℕ → Bool) (s : State cfg) (p : Shared cfg) : Prop :=
  ∀ new, p.1.1.history.pushed = s.history.pushed ++ new →
    ((s.resultCollection.elements ++ new).filter fun r => T r.opTicket).Perm
      ((p.1.1.resultCollection.elements ++ p.2.other).filter fun r => T r.opTicket)

/-- Whenever the call accesses the queue, the oldest result has none of the tickets `T`. -/
def SyncCall.LeavesAlone (call : SyncCall) (T : ℕ → Bool) (timeOut tick : ℕ) (p : Metered cfg)
    (rounds : List (List Event)) : Prop :=
  (Event.program timeOut tick call.opParam).pushes p.1 = true →
    Along (collectRound p.1.ticket) (fun q es => ∀ r ∈ (exec meter q es).1.resultCollection.peek, T r.opTicket = false)
      (meter p (.program timeOut tick call.opParam)) rounds

instance (call : SyncCall) (T : ℕ → Bool) (timeOut tick : ℕ) (p : Metered cfg) (rounds : List (List Event)) :
    Decidable (call.LeavesAlone T timeOut tick p rounds) := inferInstanceAs (Decidable (_ → Along _ _ _ _))

/-- The call has collected nothing of the other user. -/
theorem resultsKept_iff {T : ℕ → Bool} {s : State cfg} {p : Shared cfg} (h : Conserved s p) :
    ResultsKept T s p ↔ p.2.call.filter (fun r => T r.opTicket) = [] := by
  obtain ⟨-, new, hpushed, hperm⟩ := h
  have hfilter := hperm.filter fun r => T r.opTicket
  simp only [List.filter_append] at hfilter
  constructor
  · intro hkept
    have hlength := ((hkept new hpushed).symm.trans (List.filter_append _ _ ▸ hfilter)).length_eq
    simp only [List.filter_append, List.length_append] at hlength
    exact List.eq_nil_of_length_eq_zero (by omega)
  · intro hnone new' hpushed'
    rw [List.append_cancel_left (hpushed'.symm.trans hpushed), List.filter_append, List.filter_append]
    rw [hnone, List.nil_append] at hfilter
    exact hfilter

/-- An access takes the oldest result. -/
theorem sharedRound_collects (T : ℕ → Bool) (opTicket : ℕ) (p : Shared cfg) (es : List Event) :
    ((sharedRound opTicket p es).state.2.call.filter fun r => T r.opTicket) = [] ↔
      p.2.call.filter (fun r => T r.opTicket) = [] ∧
        ∀ r ∈ (exec meter p.1 es).1.resultCollection.peek, T r.opTicket = false := by
  have hcall : (sharedRound opTicket p es).state.2.call =
      p.2.call ++ (exec meter p.1 es).1.resultCollection.peek.toList := by
    simp only [sharedRound, Outcome.map_state, exec_share_call, exec_share_engine]
  rw [hcall, List.filter_append, List.append_eq_nil_iff]
  refine and_congr_right fun _ => ?_
  cases (exec meter p.1 es).1.resultCollection.peek with
  | none => exact ⟨fun _ r hr => absurd hr (Option.not_mem_none r), fun _ => rfl⟩
  | some r => simp

/-- **The other user keeps his results**, whatever the queue of results holds when a synchronous call starts and
whatever the two users and the engine do while it runs, if and only if the call never finds one of them at
an access. -/
theorem results_kept_iff (T : ℕ → Bool) (call : SyncCall) (timeOut tick : ℕ) {p : Metered cfg}
    (hcancel : p.1.cancel = false) {rounds : List (List Event)}
    (hrounds : ∀ es ∈ rounds, ∀ e ∈ es, e.wipes = false) :
    ResultsKept T p.1 (sharedCall call timeOut tick p rounds) ↔ call.LeavesAlone T timeOut tick p rounds := by
  rw [resultsKept_iff (sharedCall_conserved call timeOut tick hcancel hrounds), SyncCall.LeavesAlone]
  cases hpushes : (Event.program timeOut tick call.opParam).pushes p.1 with
  | false =>
    simp only [sharedCall, hpushes, Bool.false_eq_true, if_false, false_implies, iff_true]
    rfl
  | true =>
    simp only [sharedCall, hpushes, if_true, forall_true_left]
    have hloop := loop_iff (K := fun q : Shared cfg => q.2.call.filter (fun r => T r.opTicket) = [])
      (P := fun q es => ∀ r ∈ (exec meter q.1 es).1.resultCollection.peek, T r.opTicket = false)
      (sharedRound_collects T p.1.ticket) rounds (meter p (.program timeOut tick call.opParam), ⟨[], []⟩)
    have halong := along_map (P := fun q es => ∀ r ∈ (exec meter q es).1.resultCollection.peek, T r.opTicket = false)
      (sharedRound_engine p.1.ticket) rounds (meter p (.program timeOut tick call.opParam), ⟨[], []⟩)
    exact hloop.trans ((and_iff_right rfl).trans halong)

/-- A client that is connected reads a byte; the DISCONNECT of the other user ends after the READ. -/
theorem results_kept_iff_after :
    ResultsKept (· = 3) (exec meter (Metered.start : Metered client) (connectAs 1 ++ [.collect])).1
      (sharedCall (.read 4 true) 1000 0 (exec meter (Metered.start : Metered client) (connectAs 1 ++ [.collect]))
        [[.iterate (.at 0 1), .callback (.receive .client 1 [65] true ⟨true, false, false⟩), .iterate (.at 0 1),
          .program 1000 0 .disconnect, .iterate (.at 0 1)]]) := by
  have hleaves : (SyncCall.read 4 true).LeavesAlone (· = 3) 1000 0
      (exec meter (Metered.start : Metered client) (connectAs 1 ++ [.collect]))
      [[.iterate (.at 0 1), .callback (.receive .client 1 [65] true ⟨true, false, false⟩), .iterate (.at 0 1),
        .program 1000 0 .disconnect, .iterate (.at 0 1)]] := by decide +kernel
  exact (results_kept_iff (· = 3) (.read 4 true) 1000 0 (by decide +kernel) (by decide +kernel)).mpr hleaves

/-- The result of the CONNECT of the other user is in the queue when a READ begins: the call collects it. -/
theorem not_results_kept :
    ¬ ∀ (cfg : WebSocketParam) (T : ℕ → Bool) (call : SyncCall) (timeOut tick : ℕ) (p : Metered cfg)
      (rounds : List (List Event)), p.1.cancel = false → (∀ es ∈ rounds, ∀ e ∈ es, e.wipes = false) →
      T p.1.ticket = false → ResultsKept T p.1 (sharedCall call timeOut tick p rounds) := by
  intro h
  have hkept := h client (· = 1) (.read 4 true) 1000 0 (exec meter (Metered.start : Metered client) (connectAs 1))
    readsByte (by decide +kernel) (by decide +kernel) (by decide +kernel)
  have hperm := hkept [readResult] (by decide +kernel)
  exact absurd hperm.length_eq (by decide +kernel)

end BofWebRpc.WebSocket
