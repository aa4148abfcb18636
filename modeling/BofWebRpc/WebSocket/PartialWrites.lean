import BofWebRpc.WebSocket.Counting
import BofWebRpc.WebSocket.WriteBuffer

/-!
# Partial writes

`lws_write` may take a part of what it is offered. The WRITEABLE callback works on a copy of the
oldest write, so that the next one offers the whole payload again; and each result counts the
whole payload.

## The model

`Delivery` follows the write at the head of the queue through a run of the engine: the positions in
its payload of the bytes that `lws_write` has taken, the results pushed by the callbacks that
serve it, and whether it is still queued.

## What is proved

`partial_writes_iff` — the bytes taken are a prefix of the payload, and the result counts them, exactly
in the runs in which `lws_write` never fails, no partial write is over time, and nothing is offered
again after a part was taken.
-/

namespace BofWebRpc.WebSocket

open Runs

variable {cfg : WebSocketParam}

/-! ### Following a write -/

/-- A run of the engine, and what is known of the write at the head of the queue. -/
structure Delivery (cfg : WebSocketParam) where
  /-- The engine. -/
  engine : State cfg
  /-- The write has not left the queue. -/
  queued : Bool
  /-- The positions in the payload of the bytes that `lws_write` has taken. -/
  accepted : List ℕ
  /-- The results that have been pushed for it. -/
  results : List OperationResult

/-- The write that a WRITEABLE callback hands to `lws_write`, and what the calls answer. -/
def State.serves (s : State cfg) : Event → Option (WriteOp × WriteEnv)
  | .callback (.writeable _ _ env) =>
    match s.lwsContext, s.writeOpCollection.peek with
    | true, some op => if op.buffer.remainToRead = 0 then none else some (op, env)
    | _, _ => none
  | _ => none

/-- The positions in the payload of what `lws_write` takes: it is offered everything from
`Offset_U64` on. -/
def WriteOp.takes (op : WriteOp) (env : WriteEnv) : List ℕ :=
  List.range' (op.buffer.offset - lwsPre) env.written.toNat

/-- One event. -/
def deliver (p : Delivery cfg) (e : Event) : Delivery cfg :=
  match p.queued, p.engine.serves e with
  | true, some (op, env) =>
    { engine := step p.engine e
      queued := decide ((step p.engine e).writeOpCollection.elements.length =
        p.engine.writeOpCollection.elements.length)
      accepted := p.accepted ++ op.takes env
      results := p.results ++ (step p.engine e).history.pushed.drop p.engine.history.pushed.length }
  | _, _ => { p with engine := step p.engine e }

/-- The write at the head of the queue of `s` is followed. -/
def Delivery.start (s : State cfg) : Delivery cfg := { engine := s, queued := true, accepted := [], results := [] }

/-- The bytes taken are a prefix of the payload; the write is answered when it leaves, by one result with
its ticket that counts these bytes, and without an error only if they are the whole payload. -/
structure Delivery.Right (payload : List UInt8) (ticket : ℕ) (p : Delivery cfg) : Prop where
  accepted : ∃ k, k ≤ payload.length ∧ p.accepted = List.range k
  waiting : p.queued = true → p.results = []
  answered : p.queued = false → ∃ r, p.results = [r] ∧ r.operation = .write ∧ r.opTicket = ticket ∧
    (r.sts = .noError → p.accepted.length = payload.length) ∧ r.size = p.accepted.length

/-- As long as the write is queued, `lws_write` fails with `-1` or takes what it is offered or a part of it,
no cancel empties the queue, and nothing becomes writable inside `lws_client_connect_via_info`. -/
def Delivery.Fair (p : Delivery cfg) (e : Event) : Prop :=
  p.queued = true →
    (∀ op env, p.engine.serves e = some (op, env) →
      env.written = -1 ∨ (0 ≤ env.written ∧ env.written ≤ op.buffer.remainToRead)) ∧
    ∀ env, e = .iterate env → p.engine.cancel = false ∧ NoWriteable env.connecting

/-- `lws_write` does not fail; it takes nothing after it has taken a part; the write is in time as long as
something is left, and its result has a place. -/
def Delivery.Whole (p : Delivery cfg) (e : Event) : Prop :=
  p.queued = true → ∀ op env, p.engine.serves e = some (op, env) →
    env.written ≠ -1 ∧ (p.accepted ≠ [] → env.written = 0) ∧
      (env.written ≠ op.buffer.remainToRead → elapsedMsTime env.tick op.timer ≤ op.timeOut) ∧
      (env.written = op.buffer.remainToRead →
        p.engine.resultCollection.elements.length < cfg.nbMaxOperationPending + 1)

/-! ### What else happens leaves the head of the queue alone -/

/-- An iteration that is not cancelled appends to the queue of writes. -/
theorem iterate_writes_isPrefix {s : State cfg} (hcancel : s.cancel = false) {env : LoopEnv}
    (hconnecting : NoWriteable env.connecting) :
    s.writeOpCollection.elements <+: (s.iterate env).writeOpCollection.elements := by
  cases hrun : s.loop.running with
  | false =>
    exact (iterate_of_stopped hrun env).symm ▸ List.prefix_refl _
  | true =>
    have hbefore := (beforeCancel_sameWrites s env).writeOpCollection
    rw [iterate_eq hrun, (endIteration_writes _ env).1, (beforeCancel_sameSignals s env).cancel, hcancel,
      if_neg Bool.false_ne_true, hbefore]
    rcases newCommand_cases s env with ⟨-, he⟩ | ⟨op, -, ⟨-, -, he⟩ | ⟨-, he⟩⟩
    · exact he.symm ▸ List.prefix_refl _
    · exact he.symm ▸ List.prefix_refl _
    · have hissued := command_issued ((s.popped op).beginCommand env) env hconnecting
      rw [he, takeCommand_eq]
      rcases hissued.writeOpCollection with hsame | ⟨nb, data, -, happend⟩
      · exact hsame ▸ List.prefix_refl _
      · exact happend ▸ List.prefix_append _ _

theorem Fifo.peek_of_prefix {α : Type} {n : ℕ} {q q' : Fifo α n} {a : α} (h : q.elements <+: q'.elements)
    (hq : q.peek = some a) : q'.peek = some a := by
  rw [Fifo.peek_eq_some_iff] at hq
  obtain ⟨l, hl⟩ := h
  rw [Fifo.peek, ← hl, hq]
  rfl

/-- **The head of the queue** stays as it is, unless a callback serves it. -/
theorem step_keeps_head {s : State cfg} {e : Event} {op : WriteOp} (hop : s.writeOpCollection.peek = some op)
    (hserves : s.serves e = none) (hquiet : ∀ env, e = .iterate env → s.cancel = false ∧
      NoWriteable env.connecting) :
    (step s e).writeOpCollection.peek = some op := by
  cases e using Event.byCause with
  | user e h =>
    rw [(step_sameEngine s h).writeOpCollection]
    exact hop
  | iterate env =>
    obtain ⟨hcancel, hconnecting⟩ := hquiet env rfl
    exact Fifo.peek_of_prefix (iterate_writes_isPrefix hcancel hconnecting) hop
  | callback cb =>
    simp only [step]
    split_ifs with hcontext
    · by_cases hw : ∃ side w env, cb = .writeable side w env
      · obtain ⟨side, w, env, rfl⟩ := hw
        have hzero : op.buffer.remainToRead = 0 := by
          by_contra hne
          simp [State.serves, hcontext, hop, hne] at hserves
        rcases onWriteable_cases s w env with ⟨he, -⟩ | ⟨op', hop', hne, -⟩
        · simp only [lwsCallback, he]
          exact hop
        · cases hop.symm.trans hop'
          exact absurd hzero hne
      · rw [(lwsCallback_sameWrites (fun side w env he => hw ⟨side, w, env, he⟩) s).writeOpCollection]
        exact hop
    · exact hop

/-! ### The positions that are taken -/

/-- What is taken from the beginning, after something was taken, is no longer in order. -/
theorem eq_nil_or_eq_zero_of_append_range' {l : List ℕ} {m k : ℕ} (h : l ++ List.range' 0 m = List.range k) :
    l = [] ∨ m = 0 := by
  cases l with
  | nil => exact .inl rfl
  | cons a l =>
    cases m with
    | zero => exact .inr rfl
    | succ m =>
      have hnodup : (a :: l ++ List.range' 0 (m + 1)).Nodup := h ▸ List.nodup_range
      cases k with
      | zero => simp at h
      | succ k =>
        rw [List.range_succ_eq_map, List.cons_append, List.cons.injEq] at h
        have hmem : (0 : ℕ) ∈ List.range' 0 (m + 1) := by simp [List.mem_range'_1]
        rw [List.cons_append, h.1, List.nodup_cons] at hnodup
        exact absurd (List.mem_append_right l hmem) hnodup.1

theorem eq_range_of_append {l l' : List ℕ} {k : ℕ} (h : l ++ l' = List.range k) :
    l = List.range l.length ∧ l.length ≤ k := by
  have hle : l.length ≤ k := by
    rw [← List.length_range (n := k), ← h, List.length_append]
    exact Nat.le_add_right _ _
  have htake := congrArg (List.take l.length) h
  rw [List.take_left, List.take_range, Nat.min_eq_left hle] at htake
  exact ⟨htake, hle⟩

/-- The write holds the payload, or nothing when its size has wrapped around. -/
structure WriteOp.Holds (op : WriteOp) (payload : List UInt8) : Prop where
  offset : op.buffer.offset = lwsPre
  remain : op.buffer.remainToRead ≠ 0 → op.buffer.remainToRead = payload.length
  size : op.buffer.remainToRead ≠ 0 → ∀ env sts, (op.finish env sts).size = payload.length

theorem holds_of_buffer {op : WriteOp} {payload : List UInt8} (hlen : payload.length < 2 ^ 32)
    (hbuffer : op.buffer = (Buffer.allocate payload.length).write payload.length payload) : op.Holds payload := by
  have hdata : op.buffer.data.length = lwsPre + min payload.length (toU32 (lwsPre + payload.length) - lwsPre) := by
    rw [hbuffer]
    simp [Buffer.write, Buffer.allocate, Nat.min_comm]
  have hoffset : op.buffer.offset = lwsPre := by rw [hbuffer]; rfl
  have hremain : op.buffer.remainToRead = min payload.length (toU32 (lwsPre + payload.length) - lwsPre) := by
    rw [Buffer.remainToRead, hdata, hoffset, Nat.add_sub_cancel_left]
  have hall : op.buffer.remainToRead ≠ 0 → op.buffer.remainToRead = payload.length := by
    rw [hremain]
    simp only [toU32, lwsPre]
    omega
  refine ⟨hoffset, hall, fun hne env sts => ?_⟩
  have hrest : op.buffer.data.length - lwsPre = payload.length := by
    rw [← hall hne, Buffer.remainToRead, hoffset]
  simp only [WriteOp.finish, hrest]
  exact Nat.mod_eq_of_lt hlen

/-! ### One callback -/

/-- What is known of a write that is still queued: it is at the head, nobody has answered it, and if what was
taken is in order, then it is not everything. -/
def Delivery.Waits (op : WriteOp) (payload : List UInt8) (p : Delivery cfg) : Prop :=
  p.queued = true → p.engine.writeOpCollection.peek = some op ∧ p.results = [] ∧
    ∀ k, p.accepted = List.range k → k < payload.length

theorem deliver_of_left {p : Delivery cfg} (h : p.queued = false) (e : Event) :
    deliver p e = { p with engine := step p.engine e } := by
  simp only [deliver, h]

theorem deliver_of_other {p : Delivery cfg} {e : Event} (h : p.engine.serves e = none) :
    deliver p e = { p with engine := step p.engine e } := by
  unfold deliver
  rw [h]
  cases p.queued <;> rfl

/-- The write that is served is the head of the queue. -/
theorem eq_of_serves {s : State cfg} {e : Event} {op : WriteOp} {env : WriteEnv} (h : s.serves e = some (op, env)) :
    ∃ side w, e = .callback (.writeable side w env) ∧ s.lwsContext = true ∧ s.writeOpCollection.peek = some op ∧
      op.buffer.remainToRead ≠ 0 := by
  unfold State.serves at h
  split at h
  · split at h
    · next hcontext hpeek =>
      split_ifs at h with hremain
      cases h
      exact ⟨_, _, rfl, hcontext, hpeek, hremain⟩
    · cases h
  · cases h

/-- **A callback that serves the write** keeps it, or removes it with one result, if that has a place. -/
theorem deliver_serves {p : Delivery cfg} {e : Event} {op : WriteOp} {env : WriteEnv} (hqueued : p.queued = true)
    (h : p.engine.serves e = some (op, env)) :
    (op.outcome env = none ∧ (step p.engine e).writeOpCollection.peek = some op ∧
      deliver p e = ⟨step p.engine e, true, p.accepted ++ op.takes env, p.results⟩) ∨
    ∃ sts, op.outcome env = some sts ∧
      deliver p e = ⟨step p.engine e, false, p.accepted ++ op.takes env, p.results ++
        if p.engine.resultCollection.elements.length < cfg.nbMaxOperationPending + 1 then [op.finish env sts]
        else []⟩ := by
  obtain ⟨side, w, rfl, hcontext, hpeek, hremain⟩ := eq_of_serves h
  have hstep : step p.engine (.callback (.writeable side w env)) = p.engine.onWriteable w env := by
    simp only [step, hcontext, if_true]
    rfl
  simp only [deliver, hqueued, h]
  rw [hstep]
  rcases onWriteable_cases p.engine w env with
    ⟨-, hzero⟩ | ⟨op', hpeek', -, ⟨hout, he⟩ | ⟨sts, q, pushed, notified, hout, hp, he⟩⟩
  · exact absurd (hzero op hpeek) hremain
  · cases hpeek.symm.trans hpeek'
    rw [callbackOnWritable_eq] at he
    refine .inl ⟨hout, by rw [he]; exact hpeek, ?_⟩
    rw [he]
    simp
  · cases hpeek.symm.trans hpeek'
    refine .inr ⟨sts, hout, ?_⟩
    have hhead := Fifo.peek_eq_some_iff.mp hpeek
    have hlength : p.engine.writeOpCollection.skip.elements.length ≠ p.engine.writeOpCollection.elements.length := by
      rw [hhead, List.length_cons]
      omega
    rw [he]
    rcases hp with ⟨hq, hpushed⟩ | ⟨-, hpushed, hfull⟩
    · have hroom := q.bounded
      rw [hq, List.length_append, List.length_singleton] at hroom
      rw [if_pos (Nat.lt_of_succ_le hroom)]
      simp only [hlength, decide_false, hpushed, List.drop_left]
    · rw [if_neg (Nat.not_lt.mpr hfull)]
      simp only [hlength, decide_false, hpushed, List.drop_length]

section Payload

variable {op : WriteOp} {payload : List UInt8} (hholds : op.Holds payload) (hwrite : op.result.operation = .write)
  (hpos : payload ≠ [])

theorem takes_eq (hholds : op.Holds payload) (env : WriteEnv) : op.takes env = List.range' 0 env.written.toNat := by
  rw [WriteOp.takes, hholds.offset, Nat.sub_self]

/-- A write that stays has been taken in part, in time. -/
theorem outcome_eq_none {env : WriteEnv} (h : op.outcome env = none) :
    0 ≤ env.written ∧ env.written < op.buffer.remainToRead ∧ elapsedMsTime env.tick op.timer ≤ op.timeOut := by
  simp only [WriteOp.outcome] at h
  split_ifs at h
  omega

/-- A write that leaves has failed, has been taken in one piece, or is over time. -/
theorem outcome_eq_some {env : WriteEnv} {sts : BofErr} (h : op.outcome env = some sts)
    (hfair : env.written = -1 ∨ (0 ≤ env.written ∧ env.written ≤ op.buffer.remainToRead)) :
    (env.written = -1 ∧ sts = .write) ∨ (env.written = op.buffer.remainToRead ∧ sts = .noError) ∨
      (0 ≤ env.written ∧ env.written < op.buffer.remainToRead ∧ op.timeOut < elapsedMsTime env.tick op.timer ∧
        sts = .etimedout) := by
  simp only [WriteOp.outcome] at h
  split_ifs at h with hfailed hall hlate
  · cases h
    exact .inl ⟨by omega, rfl⟩
  · cases h
    exact .inr (.inl ⟨hall, rfl⟩)
  · cases h
    exact .inr (.inr ⟨by omega, by omega, hlate, rfl⟩)

include hholds in
theorem deliver_waits (p : Delivery cfg) (e : Event) (h : p.Waits op payload) (hfair : p.Fair e) :
    (deliver p e).Waits op payload := by
  cases hqueued : p.queued with
  | false =>
    rw [deliver_of_left hqueued]
    exact fun hq => absurd (hqueued.symm.trans hq) Bool.false_ne_true
  | true =>
    obtain ⟨hpeek, hresults, htaken⟩ := h hqueued
    obtain ⟨-, hquiet⟩ := hfair hqueued
    cases hserves : p.engine.serves e with
    | none =>
      rw [deliver_of_other hserves]
      exact fun _ => ⟨step_keeps_head hpeek hserves hquiet, hresults, htaken⟩
    | some served =>
      obtain ⟨op', env⟩ := served
      obtain ⟨-, -, -, -, hpeek', hremain⟩ := eq_of_serves hserves
      cases hpeek.symm.trans hpeek'
      rcases deliver_serves hqueued hserves with ⟨hout, hhead, he⟩ | ⟨sts, -, he⟩
      · rw [he]
        refine fun _ => ⟨hhead, hresults, fun k hk => ?_⟩
        obtain ⟨hnonneg, hpart, -⟩ := outcome_eq_none hout
        have hall := hholds.remain hremain
        have hk : p.accepted ++ List.range' 0 env.written.toNat = List.range k := takes_eq hholds env ▸ hk
        rcases eq_nil_or_eq_zero_of_append_range' hk with hnil | hzero
        · rw [hnil, List.nil_append] at hk
          have hlength := congrArg List.length hk
          rw [List.length_range', List.length_range] at hlength
          omega
        · rw [hzero, List.range'_zero, List.append_nil] at hk
          exact htaken k hk
      · rw [he]
        exact fun hq => absurd hq Bool.false_ne_true

theorem right_of_queued {p : Delivery cfg} (hqueued : p.queued = true) (hresults : p.results = []) (ticket : ℕ) :
    p.Right payload ticket ↔ ∃ k, k ≤ payload.length ∧ p.accepted = List.range k :=
  ⟨fun h => h.accepted, fun h => ⟨h, fun _ => hresults, fun hq => absurd (hqueued.symm.trans hq) (by decide)⟩⟩

theorem right_of_engine (p : Delivery cfg) (s : State cfg) (ticket : ℕ) :
    ({ p with engine := s } : Delivery cfg).Right payload ticket ↔ p.Right payload ticket :=
  ⟨fun h => ⟨h.accepted, h.waiting, h.answered⟩, fun h => ⟨h.accepted, h.waiting, h.answered⟩⟩

include hholds in
/-- The write stays: what is taken is in order, as long as nothing is taken twice. -/
theorem right_of_stays {p : Delivery cfg} (s : State cfg) {env : WriteEnv} (hqueued : p.queued = true)
    (hresults : p.results = []) (hremain : op.buffer.remainToRead ≠ 0) (hout : op.outcome env = none) (ticket : ℕ) :
    (⟨s, true, p.accepted ++ op.takes env, p.results⟩ : Delivery cfg).Right payload ticket ↔
      p.Right payload ticket ∧ (p.accepted ≠ [] → env.written = 0) := by
  obtain ⟨hnonneg, hpart, -⟩ := outcome_eq_none hout
  have hall := hholds.remain hremain
  rw [right_of_queued hqueued hresults, right_of_queued (p := ⟨s, true, _, _⟩) rfl hresults, takes_eq hholds]
  constructor
  · rintro ⟨k, hk, htaken⟩
    obtain ⟨hrange, hle⟩ := eq_range_of_append htaken
    refine ⟨⟨_, Nat.le_trans hle hk, hrange⟩, fun hne => ?_⟩
    have hzero := (eq_nil_or_eq_zero_of_append_range' htaken).resolve_left hne
    omega
  · rintro ⟨⟨k, hk, htaken⟩, honce⟩
    by_cases hnil : p.accepted = []
    · refine ⟨env.written.toNat, by omega, ?_⟩
      simp only
      rw [hnil, List.nil_append, List.range_eq_range']
    · refine ⟨k, hk, ?_⟩
      simp only
      rw [honce hnil, Int.toNat_zero, List.range'_zero, List.append_nil, htaken]

include hholds hwrite hpos in
/-- The write leaves: it is answered as it should be when it was taken in one piece, and its result has a place. -/
theorem right_of_leaves {p : Delivery cfg} (s : State cfg) {env : WriteEnv} {sts : BofErr} {room : Prop}
    [Decidable room]
    (hqueued : p.queued = true) (hresults : p.results = []) (hremain : op.buffer.remainToRead ≠ 0)
    (htaken : ∀ k, p.accepted = List.range k → k < payload.length) (hout : op.outcome env = some sts)
    (hfair : env.written = -1 ∨ (0 ≤ env.written ∧ env.written ≤ op.buffer.remainToRead)) :
    (⟨s, false, p.accepted ++ op.takes env, p.results ++ if room then [op.finish env sts] else []⟩ :
        Delivery cfg).Right payload op.result.opTicket ↔
      p.Right payload op.result.opTicket ∧ p.accepted = [] ∧ env.written = op.buffer.remainToRead ∧ room := by
  have hall := hholds.remain hremain
  have hlength : 0 < payload.length := List.length_pos_iff.mpr hpos
  rw [right_of_queued hqueued hresults, takes_eq hholds, hresults, List.nil_append]
  constructor
  · rintro ⟨⟨k, hk, horder⟩, -, hanswered⟩
    obtain ⟨r, hr, -, -, -, hsize⟩ := hanswered rfl
    obtain ⟨hrange, hle⟩ := eq_range_of_append horder
    have hroom : room := by
      by_contra hfull
      rw [if_neg hfull] at hr
      cases hr
    rw [if_pos hroom, List.singleton_inj] at hr
    rw [← hr, hholds.size hremain, List.length_append, List.length_range'] at hsize
    have hshort := htaken _ hrange
    refine ⟨⟨_, Nat.le_trans hle hk, hrange⟩, ?_⟩
    rcases outcome_eq_some hout hfair with ⟨hminus, -⟩ | ⟨hwhole, -⟩ | ⟨hnonneg, hpart, -, -⟩
    · -- it has failed, but counts the whole payload
      omega
    · have hempty : p.accepted.length = 0 := by omega
      exact ⟨List.length_eq_zero_iff.mp hempty, hwhole, hroom⟩
    · -- it is over time: neither part of the payload is everything
      rcases eq_nil_or_eq_zero_of_append_range' horder with hnil | hzero
      · rw [hnil, List.length_nil] at hsize
        omega
      · omega
  · rintro ⟨-, hnil, hwhole, hroom⟩
    have hn : env.written.toNat = payload.length := by omega
    rw [hnil, List.nil_append, hn, if_pos hroom]
    have hcount : (List.range' 0 payload.length).length = payload.length := List.length_range'
    refine ⟨⟨payload.length, Nat.le_refl _, List.range_eq_range'.symm⟩, fun hq => absurd hq Bool.false_ne_true,
      fun _ => ?_⟩
    exact ⟨_, rfl, hwrite, rfl, fun _ => hcount, (hholds.size hremain env sts).trans hcount.symm⟩

include hholds hwrite hpos in
theorem deliver_right_iff (p : Delivery cfg) (e : Event) (h : p.Waits op payload) (hfair : p.Fair e) :
    (deliver p e).Right payload op.result.opTicket ↔ p.Right payload op.result.opTicket ∧ p.Whole e := by
  have hsame : (∀ op env, p.queued = true → p.engine.serves e ≠ some (op, env)) →
      (({ p with engine := step p.engine e } : Delivery cfg).Right payload op.result.opTicket ↔
        p.Right payload op.result.opTicket ∧ p.Whole e) := by
    intro hnot
    rw [right_of_engine]
    exact (and_iff_left fun hq op env hserves => absurd hserves (hnot op env hq)).symm
  cases hqueued : p.queued with
  | false =>
    rw [deliver_of_left hqueued]
    exact hsame fun _ _ hq => absurd (hqueued.symm.trans hq) (by decide)
  | true =>
    obtain ⟨hpeek, hresults, htaken⟩ := h hqueued
    cases hserves : p.engine.serves e with
    | none =>
      rw [deliver_of_other hserves]
      exact hsame fun _ _ _ hq => by rw [hserves] at hq; cases hq
    | some served =>
      obtain ⟨op', env⟩ := served
      obtain ⟨-, -, -, -, hpeek', hremain⟩ := eq_of_serves hserves
      cases hpeek.symm.trans hpeek'
      have hanswer := (hfair hqueued).1 op env hserves
      have hwhole : p.Whole e ↔ env.written ≠ -1 ∧ (p.accepted ≠ [] → env.written = 0) ∧
          (env.written ≠ op.buffer.remainToRead → elapsedMsTime env.tick op.timer ≤ op.timeOut) ∧
          (env.written = op.buffer.remainToRead →
            p.engine.resultCollection.elements.length < cfg.nbMaxOperationPending + 1) := by
        constructor
        · exact fun hw => hw hqueued op env hserves
        · rintro hw - op' env' hserves'
          cases hserves.symm.trans hserves'
          exact hw
      rcases deliver_serves hqueued hserves with ⟨hout, -, he⟩ | ⟨sts, hout, he⟩
      · obtain ⟨hnonneg, hpart, htime⟩ := outcome_eq_none hout
        rw [he, right_of_stays hholds _ hqueued hresults hremain hout, hwhole]
        refine and_congr_right fun _ => ⟨fun honce => ⟨by omega, honce, fun _ => htime, fun hw => ?_⟩, fun hw => hw.2.1⟩
        omega
      · rw [he, right_of_leaves hholds hwrite hpos _ hqueued hresults hremain htaken hout hanswer, hwhole]
        refine and_congr_right fun _ => ⟨?_, ?_⟩
        · rintro ⟨hnil, hw, hroom⟩
          exact ⟨by omega, fun hne => absurd hnil hne, fun hnw => absurd hw hnw, fun _ => hroom⟩
        · rintro ⟨hminus, honce, htime, hroom⟩
          have hw : env.written = op.buffer.remainToRead := by
            rcases outcome_eq_some hout hanswer with ⟨hw, -⟩ | ⟨hw, -⟩ | ⟨-, hpart, hlate, -⟩
            · exact absurd hw hminus
            · exact hw
            · have hintime := htime (by omega)
              omega
          refine ⟨?_, hw, hroom hw⟩
          by_contra hne
          have hzero := honce hne
          omega

end Payload

/-- **Partial writes.** The write of a payload, from the head of the queue on: what `lws_write` takes is a
prefix of the payload, no byte twice, and its one result counts it, exactly when `Whole` holds of the
whole run. -/
theorem partial_writes_iff {s : State cfg} {op : WriteOp} {payload : List UInt8} (hpos : payload ≠ [])
    (hlen : payload.length < 2 ^ 32)
    (hbuffer : op.buffer = (Buffer.allocate payload.length).write payload.length payload)
    (hwrite : op.result.operation = .write) (hhead : s.writeOpCollection.peek = some op) (es : List Event)
    (hfair : Meets deliver Delivery.Fair (.start s) es) :
    (exec deliver (.start s) es).Right payload op.result.opTicket ↔ Meets deliver Delivery.Whole (.start s) es := by
  have hholds := holds_of_buffer hlen hbuffer
  have hwaits : (Delivery.start s).Waits op payload := by
    refine fun _ => ⟨hhead, rfl, fun k hk => ?_⟩
    have hzero : k = 0 := by
      rw [← List.length_range (n := k), ← hk]
      rfl
    rw [hzero]
    exact List.length_pos_iff.mpr hpos
  have hright : (Delivery.start s).Right payload op.result.opTicket :=
    (right_of_queued rfl rfl _).mpr ⟨0, Nat.zero_le _, rfl⟩
  have hrun := exec_iff (K := fun p => p.Right payload op.result.opTicket) (P := Delivery.Whole)
    (deliver_waits hholds) (deliver_right_iff hholds hwrite hpos) es (.start s) hwaits hfair
  rw [hrun]
  exact and_iff_right hright

/-- A client has queued a WRITE of two bytes. -/
def twoBytesQueued : State client := exec step connected (Event.execute 0 1 (.write 2 (some [65, 66])))

/-- The write that it has queued. -/
def twoBytes : WriteOp :=
  { timeOut := 1000
    timer := 0
    buffer := (Buffer.allocate 2).write 2 [65, 66]
    result := { OperationResult.reset with operation := .write, opTicket := 2, sts := .noError }
    acceptedFor := some 1 }

/-- Its connection becomes writable, and `lws_write` returns `written`. -/
def bytesSent (written : ℤ) : Event :=
  .callback (.writeable .client 1 { written := written, tick := 0, granted := true })

theorem twoBytes_head : twoBytesQueued.writeOpCollection.peek = some twoBytes := by decide

theorem serves_bytesSent {s : State client} {written : ℤ} {op : WriteOp} {env : WriteEnv}
    (hhead : s.writeOpCollection.peek = some twoBytes) (h : s.serves (bytesSent written) = some (op, env)) :
    op = twoBytes ∧ env = { written := written, tick := 0, granted := true } := by
  obtain ⟨side, w, he, -, hpeek, -⟩ := eq_of_serves h
  cases he
  exact ⟨Option.some.inj (hpeek.symm.trans hhead), rfl⟩

theorem fair_bytesSent {p : Delivery client} {written : ℤ} (hhead : p.engine.writeOpCollection.peek = some twoBytes)
    (h : written = -1 ∨ (0 ≤ written ∧ written ≤ 2)) : p.Fair (bytesSent written) := by
  refine fun _ => ⟨fun op env hserves => ?_, fun env he => by cases he⟩
  obtain ⟨rfl, rfl⟩ := serves_bytesSent hhead hserves
  exact h

/-- Nothing is taken at first, and then both bytes. -/
theorem partial_writes_none_all :
    (exec deliver (.start twoBytesQueued) [bytesSent 0, bytesSent 2]).Right [65, 66] 2 := by
  have hhead : (deliver (.start twoBytesQueued) (bytesSent 0)).engine.writeOpCollection.peek = some twoBytes := by
    decide
  refine (partial_writes_iff (by decide) (by decide) rfl rfl twoBytes_head _ ?_).mpr ?_
  · exact ⟨fair_bytesSent twoBytes_head (by decide), fair_bytesSent hhead (by decide), trivial⟩
  · refine ⟨fun _ op env hserves => ?_, fun _ op env hserves => ?_, trivial⟩
    · obtain ⟨rfl, rfl⟩ := serves_bytesSent twoBytes_head hserves
      decide
    · obtain ⟨rfl, rfl⟩ := serves_bytesSent hhead hserves
      decide

/-- The first byte is taken, and then both: it is transmitted twice. -/
theorem partial_writes_twice :
    ¬ ∀ (s : State client) (op : WriteOp) (payload : List UInt8) (es : List Event), payload ≠ [] →
      payload.length < 2 ^ 32 → op.buffer = (Buffer.allocate payload.length).write payload.length payload →
      op.result.operation = .write → s.writeOpCollection.peek = some op →
      Meets deliver Delivery.Fair (.start s) es →
      (exec deliver (.start s) es).Right payload op.result.opTicket := by
  intro h
  have hhead : (deliver (.start twoBytesQueued) (bytesSent 1)).engine.writeOpCollection.peek = some twoBytes := by
    decide
  have hright := h twoBytesQueued twoBytes [65, 66] [bytesSent 1, bytesSent 2] (by decide) (by decide) rfl rfl
    twoBytes_head ⟨fair_bytesSent twoBytes_head (by decide), fair_bytesSent hhead (by decide), trivial⟩
  obtain ⟨k, hk, htaken⟩ := hright.accepted
  have hthree : (exec deliver (.start twoBytesQueued) [bytesSent 1, bytesSent 2]).accepted.length = 3 := by decide
  rw [htaken, List.length_range] at hthree
  exact absurd hk (by rw [hthree]; decide)

end BofWebRpc.WebSocket
