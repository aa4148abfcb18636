import BofWebRpc.WebSocket.Iteration

/-!
# The buffer of a write

A WRITE copies its payload behind `LWS_PRE` free bytes. `BOF_LWS_ALLOCATE_BUFFER` computes the
capacity as `LWS_PRE + Nb_U32`, on 32 bits; `BOF_LWS_WRITE_BUFFER` appends what fits, and asserts
that this was everything.

## What is proved

* `allocate_write_eq` — the buffer of a payload that leaves room for `LWS_PRE` in 32 bits.
* `commandWrite_exact_iff` — what a WRITE queues is exact if and only if `LWS_PRE` and the length of
  the payload have a sum below `2 ^ 32`.
-/

namespace BofWebRpc.WebSocket

variable {cfg : WebSocketParam}

/-- `nbwritten` of `BOF_LWS_WRITE_BUFFER`. -/
def Buffer.nbWritten (b : Buffer) (len : ℕ) (p : List UInt8) : ℕ :=
  ((p.take len).take (b.capacity - b.data.length)).length

/-- The queued write `op` is exact for the payload `data`. -/
structure WriteOp.Exact (op : WriteOp) (data : List UInt8) : Prop where
  /-- The capacity holds `LWS_PRE` bytes and the payload. -/
  capacity : lwsPre + data.length ≤ op.buffer.capacity
  /-- The sum was computed without a wrap-around. -/
  noWrap : toU32 (lwsPre + data.length) = lwsPre + data.length
  /-- `BOF_ASSERT(len == nbwritten)`. -/
  asserted : (Buffer.allocate data.length).nbWritten data.length data = data.length
  /-- The free bytes in front of the payload. -/
  preceded : (op.buffer.data.take op.buffer.offset).length = lwsPre
  /-- What is handed to `lws_write`. -/
  region : op.buffer.data.drop op.buffer.offset = data
  /-- `RemainToRead`. -/
  remain : op.buffer.remainToRead = data.length
  /-- `Size_U32` of each result of the write. -/
  size : ∀ env sts, (op.finish env sts).size = data.length

theorem toU32_eq_self_iff (n : ℕ) : toU32 n = n ↔ n < 2 ^ 32 := Nat.mod_eq_iff_lt (by decide)

/-- A payload that fits is behind the free bytes. -/
theorem allocate_write_eq {data : List UInt8} (h : lwsPre + data.length < 2 ^ 32) :
    (Buffer.allocate data.length).write data.length data =
      { capacity := lwsPre + data.length, data := List.replicate lwsPre 0 ++ data, offset := lwsPre } := by
  have hcapacity : toU32 (lwsPre + data.length) = lwsPre + data.length := (toU32_eq_self_iff _).mpr h
  simp [Buffer.write, Buffer.allocate, hcapacity]

theorem nbWritten_allocate {data : List UInt8} (h : lwsPre + data.length < 2 ^ 32) :
    (Buffer.allocate data.length).nbWritten data.length data = data.length := by
  have hcapacity : toU32 (lwsPre + data.length) = lwsPre + data.length := (toU32_eq_self_iff _).mpr h
  simp [Buffer.nbWritten, Buffer.allocate, hcapacity]

/-- The write of a payload is exact as long as the sum does not wrap. -/
theorem newWriteOp_exact_iff (s : State cfg) (data : List UInt8) :
    (s.newWriteOp data.length data).Exact data ↔ lwsPre + data.length < 2 ^ 32 := by
  constructor
  · intro h
    exact (toU32_eq_self_iff _).mp h.noWrap
  · intro h
    have hbuffer : (s.newWriteOp data.length data).buffer = _ := allocate_write_eq h
    have hsize : toU32 data.length = data.length := (toU32_eq_self_iff _).mpr (by omega)
    constructor
    · exact Nat.le_of_eq (congrArg Buffer.capacity hbuffer).symm
    · exact (toU32_eq_self_iff _).mpr h
    · exact nbWritten_allocate h
    · rw [hbuffer, List.take_left' List.length_replicate, List.length_replicate]
    · rw [hbuffer, List.drop_left' List.length_replicate]
    · rw [hbuffer]
      simp [Buffer.remainToRead]
    · intro env sts
      simp [WriteOp.finish, hbuffer, hsize]

/-- **The write buffer** of a WRITE that is accepted is exact if and only if the size expression
does not wrap. -/
theorem commandWrite_exact_iff (s : State cfg) (env : LoopEnv) {nb : ℕ} {data : List UInt8} (hlen : data.length = nb)
    (haccepts : s.acceptsWrite nb (some data) = true) :
    (∃ op, (s.commandWrite env nb (some data)).writeOpCollection.elements = s.writeOpCollection.elements ++ [op] ∧
      op.Exact data) ↔ lwsPre + nb < 2 ^ 32 := by
  subst hlen
  have hqueued : (s.commandWrite env data.length (some data)).writeOpCollection.elements =
      s.writeOpCollection.elements ++ [s.newWriteOp data.length data] := by
    obtain ⟨data', q, hdata, hq, he⟩ := commandWrite_of_accepts haccepts env
    cases hdata
    rw [he]
    exact (Fifo.push_eq_some_iff.mp hq).2
  rw [hqueued]
  constructor
  · rintro ⟨op, hop, hexact⟩
    obtain rfl : s.newWriteOp data.length data = op := by simpa using hop
    exact (newWriteOp_exact_iff s data).mp hexact
  · intro h
    exact ⟨_, rfl, (newWriteOp_exact_iff s data).mpr h⟩

/-- A client writes one byte. -/
theorem commandWrite_exact_one :
    ∃ op, (connected.commandWrite (.at 0 1) 1 (some [65])).writeOpCollection.elements =
      connected.writeOpCollection.elements ++ [op] ∧ op.Exact [65] := by
  have hlen : [(65 : UInt8)].length = 1 := rfl
  exact (commandWrite_exact_iff connected (.at 0 1) hlen (by decide)).mpr (by decide)

/-- There are payloads of every length. -/
theorem exists_payload (nb : ℕ) : ∃ data : List UInt8, data.length = nb := ⟨List.replicate nb 0, List.length_replicate⟩

/-- A payload of `2 ^ 32 - 16` bytes gets a buffer of no bytes. -/
theorem commandWrite_exact_wraps :
    ¬ ∀ (s : State client) (env : LoopEnv) (nb : ℕ) (data : List UInt8), data.length = nb → nb < 2 ^ 32 →
      s.acceptsWrite nb (some data) = true →
      ∃ op, (s.commandWrite env nb (some data)).writeOpCollection.elements =
        s.writeOpCollection.elements ++ [op] ∧ op.Exact data := by
  intro h
  obtain ⟨data, hlen⟩ := exists_payload (2 ^ 32 - 16)
  have haccepts : connected.acceptsWrite (2 ^ 32 - 16) (some data) = true := by
    have hidle : connected.writeOpCollection.elements.length < client.nbMaxOperationPending + 1 := by decide
    have hconnected : connected.isConnected = true := by decide
    simp [State.acceptsWrite, hconnected, hidle]
  have hexact := h connected (.at 0 1) _ _ hlen (by decide) haccepts
  rw [commandWrite_exact_iff connected (.at 0 1) hlen haccepts] at hexact
  exact absurd hexact (by decide)

end BofWebRpc.WebSocket
