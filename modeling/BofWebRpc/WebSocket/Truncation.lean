import Mathlib.Data.List.Flatten
import Mathlib.Data.List.TakeDrop
import BofWebRpc.WebSocket.Receiving

/-!
# Truncated messages

A fragment that finds no room in the receive buffer is not stored, and nothing looks at the
status: the next fragments are appended to what is there, and the final one commits the entry
and hands it to the callbacks.

## The model

`Reception` follows the fragments of one connection through a run of the engine: those of the
message that is being received, with the room that each of them found, and for each message
that is complete what was sent and what the final fragment handed over.

## What is proved

* `serves_leavesBuffer` — what else happens to a serving engine leaves the open entry alone, and READ
  delivers what was in the buffer, whole where it has room for it.
* `untruncated_iff` — each message is delivered as it was sent, or not at all, in exactly the runs in
  which each fragment with bytes finds room, or no fragment of a message does and `pRawBuffer_X` is not used,
  and each READ that answers has room for the message it finds.
-/

namespace BofWebRpc.WebSocket

open Runs Reassembly

variable {cfg : WebSocketParam} {asserts : Bool}

/-! ### Following a connection -/

/-- A message that is complete. -/
structure Completed where
  /-- The bytes of its fragments. -/
  sent : List UInt8
  /-- What its final fragment handed over. -/
  given : List (Wsi × Message)
  deriving DecidableEq

/-- A run of the engine, and the messages of the connection. -/
structure Reception (cfg : WebSocketParam) where
  /-- The engine. -/
  engine : State cfg
  /-- The fragments of the message that is being received; those for which there was room. -/
  fragments : List (List UInt8 × Bool)
  /-- The messages that are complete. -/
  completed : List Completed

/-- A fragment arrives. -/
def Reception.fragment (p : Reception cfg) (e : Event) (input : List UInt8) (final room : Bool) : Reception cfg :=
  let fragments := p.fragments ++ [(input, room)]
  if final then
    { engine := step p.engine e
      fragments := []
      completed := p.completed ++ [{
        sent := fragments.flatMap Prod.fst
        given := (step p.engine e).history.handed.drop p.engine.history.handed.length }] }
  else { p with engine := step p.engine e, fragments := fragments }

/-- One event. -/
def receiveFrom (p : Reception cfg) (e : Event) : Reception cfg :=
  match e with
  | .callback (.receive _ _ input final env) => p.fragment e input final env.room
  | _ => { p with engine := step p.engine e }

/-- Nothing has been received since `s`. -/
def Reception.start (s : State cfg) : Reception cfg := { engine := s, fragments := [], completed := [] }

/-- The fragments are those of the connection `w`. -/
def Event.FromWsi (w : Wsi) : Event → Prop
  | .callback (.receive _ w' _ _ _) => w' = w
  | _ => True

instance (w : Wsi) : (e : Event) → Decidable (e.FromWsi w)
  | .callback (.receive _ w' _ _ _) => inferInstanceAs (Decidable (w' = w))
  | .program _ _ _ | .collect | .cancelled | .clear | .reset | .cancel _ | .iterate _ => isTrue trivial
  | .callback (.clientConnectionError _ _) | .callback (.clientEstablished _ _)
  | .callback (.clientClosed _) | .callback (.httpBindProtocol _) | .callback (.addHeaders _ _)
  | .callback (.established _ _ _) | .callback (.writeable _ _ _) | .callback (.closed _)
  | .callback (.other _) => isTrue trivial

/-- After a final fragment `pRawBuffer_X` is used for the callbacks that are set, and by `BOF_ASSERT` where the
build keeps its assertions. -/
def usesRawBuffer (cfg : WebSocketParam) (asserts : Bool) : Bool := cfg.onMessage || cfg.onEvent || asserts

/-- What is handed over is the whole message. When there is nothing `pRawBuffer_X` is not set, and must not be used. -/
structure Completed.Whole (cfg : WebSocketParam) (asserts : Bool) (d : Completed) : Prop where
  given : ∀ x ∈ d.given, Message.payload x.2 = d.sent
  pointer : d.given = [] → usesRawBuffer cfg asserts = false

/-- The messages that READ has delivered something of, and those it finds in the buffer. -/
def State.forRead (s : State cfg) : List Message := s.delivered.map Prod.fst ++ s.rxBufferCollection.committed

/-- What READ has delivered since `s` are whole messages, as they were in the buffer. -/
def Reception.ReadWhole (s : State cfg) (p : Reception cfg) : Prop :=
  ∀ d ∈ p.engine.delivered.drop s.delivered.length, d.2 = Message.payload d.1

/-- Each message was handed over whole or not at all; what READ has delivered or will find was there
before, or is one of the messages; and READ delivers it whole. -/
structure Reception.Untruncated (s : State cfg) (asserts : Bool) (p : Reception cfg) : Prop where
  completed : ∀ d ∈ p.completed, d.Whole cfg asserts
  forRead : ∀ m ∈ p.engine.forRead, m ∈ s.forRead ∨ ∃ d ∈ p.completed, Message.payload m = d.sent
  read : p.ReadWhole s

/-- The fragments can make up a message: each one with bytes found room, and some one did; or none did, and
`pRawBuffer_X` is not used. -/
def Storable (cfg : WebSocketParam) (asserts : Bool) (fragments : List (List UInt8 × Bool)) : Prop :=
  ((∀ f ∈ fragments, f.1 ≠ [] → f.2 = true) ∧ ∃ f ∈ fragments, f.2 = true) ∨
    ((∀ f ∈ fragments, f.2 = false) ∧ usesRawBuffer cfg asserts = false)

instance (fragments : List (List UInt8 × Bool)) : Decidable (Storable cfg asserts fragments) :=
  inferInstanceAs (Decidable (_ ∧ (∃ f ∈ fragments, f.2 = true) ∨ _ ∧ _))

/-- A final fragment completes a message that could be stored; a READ that answers has room for the message
it finds. -/
def Reception.Stored (asserts : Bool) (p : Reception cfg) : Event → Prop
  | .callback (.receive _ _ input final env) =>
    final = true → Storable cfg asserts (p.fragments ++ [(input, env.room)])
  | .iterate env => ∀ op ∈ p.engine.readsNow env, p.engine.answersInTime env op → p.engine.fitsOldest op
  | _ => True

instance (p : Reception cfg) : (e : Event) → Decidable (p.Stored asserts e)
  | .callback (.receive _ _ _ _ _) => inferInstanceAs (Decidable (_ → Storable _ _ _))
  | .iterate _ => inferInstanceAs (Decidable (∀ _ ∈ _, _ → _))
  | .program _ _ _ | .collect | .cancelled | .clear | .reset | .cancel _ => isTrue trivial
  | .callback (.clientConnectionError _ _) | .callback (.clientEstablished _ _)
  | .callback (.clientClosed _) | .callback (.httpBindProtocol _) | .callback (.addHeaders _ _)
  | .callback (.established _ _ _) | .callback (.writeable _ _ _) | .callback (.closed _)
  | .callback (.other _) => isTrue trivial

/-! ### What is stored -/

/-- What is left out is empty if nothing is missing. -/
theorem flatMap_filter_eq_iff {α β : Type} (q : α → Bool) (f : α → List β) (l : List α) :
    (l.filter q).flatMap f = l.flatMap f ↔ ∀ x ∈ l, q x = false → f x = [] := by
  induction l with
  | nil => simp
  | cons x l ih =>
    rw [List.forall_mem_cons, ← ih]
    cases hx : q x with
    | true =>
      rw [List.filter_cons_of_pos hx, List.flatMap_cons, List.flatMap_cons, List.append_cancel_left_eq]
      exact (and_iff_right fun h => by cases h).symm
    | false =>
      rw [List.filter_cons_of_neg (by simp [hx]), List.flatMap_cons]
      constructor
      · intro h
        have hlength := congrArg List.length h
        rw [List.length_append] at hlength
        have hshort : List.Sublist ((l.filter q).flatMap f) (l.flatMap f) := List.filter_sublist.flatMap f
        have hle := hshort.length_le
        have hnil : f x = [] := List.eq_nil_of_length_eq_zero (by omega)
        rw [hnil, List.nil_append] at h
        exact ⟨fun _ => hnil, h⟩
      · rintro ⟨hnil, h⟩
        rw [hnil rfl, List.nil_append]
        exact h

/-- The entry that the fragments make. -/
def storedEntry (w : Wsi) (fragments : List (List UInt8 × Bool)) : Option Message :=
  match (fragments.filter Prod.snd).map fun f => (w, f.1) with
  | [] => none
  | f :: m => some (f :: m)

/-- The buffer extends it as the fragments come. -/
theorem extended_storedEntry {b : RawBuffer Fragment} {w : Wsi} {fragments : List (List UInt8 × Bool)}
    (h : b.opened = storedEntry w fragments) (input : List UInt8) (room : Bool) :
    b.extended room (w, input) = storedEntry w (fragments ++ [(input, room)]) := by
  have hget : (storedEntry w fragments).getD [] = (fragments.filter Prod.snd).map fun f => (w, f.1) := by
    unfold storedEntry
    split
    · next hnil => rw [hnil]; rfl
    · next hcons => rw [hcons]; rfl
  rw [RawBuffer.extended, h]
  cases room with
  | false => simp [storedEntry, List.filter_append]
  | true =>
    rw [hget]
    simp only [storedEntry, List.filter_append, List.map_append, if_true]
    split
    · next hnil => simp at hnil
    · next hcons => rw [← hcons]; rfl

/-- What is handed over when the fragments are complete. -/
def handedOver (w : Wsi) (fragments : List (List UInt8 × Bool)) : List (Wsi × Message) :=
  ((storedEntry w fragments).map fun m => (w, m)).toList

/-- It is the whole message exactly when that could be stored. -/
theorem storable_iff (w : Wsi) (fragments : List (List UInt8 × Bool)) :
    Completed.Whole cfg asserts { sent := fragments.flatMap Prod.fst, given := handedOver w fragments } ↔
      Storable cfg asserts fragments := by
  have hpayload : Message.payload ((fragments.filter Prod.snd).map fun f => (w, f.1)) =
      (fragments.filter Prod.snd).flatMap Prod.fst := by
    rw [Message.payload, List.flatMap_map]
  have hmissing := flatMap_filter_eq_iff Prod.snd Prod.fst fragments
  have hbytes : (∀ f ∈ fragments, f.1 ≠ [] → f.2 = true) ↔ ∀ f ∈ fragments, f.2 = false → f.1 = [] := by
    refine forall₂_congr fun f _ => ?_
    cases f.2 <;> simp
  unfold handedOver storedEntry
  cases hentry : (fragments.filter Prod.snd).map fun f => (w, f.1) with
  | nil =>
    have hnone : ∀ f ∈ fragments, f.2 = false := by
      have hfilter := List.map_eq_nil_iff.mp hentry
      simpa [List.filter_eq_nil_iff] using hfilter
    have hsome : ¬ ∃ f ∈ fragments, f.2 = true := by
      rintro ⟨f, hf, htrue⟩
      exact absurd ((hnone f hf).symm.trans htrue) Bool.false_ne_true
    constructor
    · exact fun h => .inr ⟨hnone, h.pointer rfl⟩
    · rintro (⟨-, h⟩ | ⟨-, h⟩)
      · exact absurd h hsome
      · exact ⟨by simp, fun _ => h⟩
  | cons g m =>
    rw [hentry] at hpayload
    obtain ⟨f, hf, htrue⟩ : ∃ f ∈ fragments, f.2 = true := by
      have hmem : g ∈ (fragments.filter Prod.snd).map fun f => (w, f.1) := hentry ▸ List.mem_cons_self
      obtain ⟨f, hf, -⟩ := List.mem_map.mp hmem
      exact ⟨f, List.mem_filter.mp hf⟩
    constructor
    · intro h
      have hwhole := h.given (w, g :: m) (by simp)
      rw [hpayload] at hwhole
      exact .inl ⟨hbytes.mpr (hmissing.mp hwhole), f, hf, htrue⟩
    · rintro (⟨h, -⟩ | ⟨h, -⟩)
      · refine ⟨fun x hx => ?_, fun hnil => by cases hnil⟩
        simp only [Option.map_some, Option.toList_some, List.mem_singleton] at hx
        rw [hx, hpayload]
        exact hmissing.mpr (hbytes.mp h)
      · exact absurd ((h f hf).symm.trans htrue) Bool.false_ne_true

/-! ### What READ delivers -/

/-- The open entry is the same, READ has delivered `new`, and what it delivers or will find was there. -/
structure LeavesBuffer (s t : State cfg) (new : List (Message × List UInt8)) : Prop where
  opened : t.rxBufferCollection.opened = s.rxBufferCollection.opened
  delivered : t.delivered = s.delivered ++ new
  forRead : ∀ m ∈ t.forRead, m ∈ s.forRead

theorem LeavesBuffer.same {s t : State cfg} (hrx : t.rxBufferCollection = s.rxBufferCollection)
    (hdelivered : t.delivered = s.delivered) : LeavesBuffer s t [] := by
  refine ⟨by rw [hrx], by rw [hdelivered, List.append_nil], fun m hm => ?_⟩
  rwa [State.forRead, hrx, hdelivered] at hm

/-- An iteration delivers nothing more, or what the READ has room for of the oldest message. -/
theorem iterate_leavesBuffer {s : State cfg} (h : Serving s) {env : LoopEnv} (hexit : env.mustExit = false) :
    ∃ new, LeavesBuffer s (s.iterate env) new ∧
      ((∀ d ∈ new, d.2 = Message.payload d.1) ↔ ∀ op ∈ s.readsNow env, s.answersInTime env op → s.fitsOldest op) := by
  obtain ⟨-, -, ⟨hrx, hdelivered, hwait⟩ | ⟨m, op, hpop, hnow, hdelivered⟩⟩ := iterate_received h hexit
  · refine ⟨[], .same hrx hdelivered, ⟨fun _ op hnow _ m hm => ?_, fun _ d hd => absurd hd List.not_mem_nil⟩⟩
    have hnone : s.rxBufferCollection.committed.head? = none := Option.map_eq_none_iff.mp (hwait op hnow)
    rw [hnone] at hm
    cases hm
  · obtain ⟨hcommitted, hopened⟩ := RawBuffer.popBuffer_eq_some hpop
    refine ⟨_, ⟨hopened, hdelivered, fun m' hm' => ?_⟩, ?_⟩
    · rw [State.forRead, hdelivered, List.map_append, List.append_assoc] at hm'
      rw [State.forRead, hcommitted]
      rcases List.mem_append.mp hm' with hold | hnew
      · exact List.mem_append_left _ hold
      · refine List.mem_append_right _ ?_
        split_ifs at hnew
        · exact hnew
        · exact List.mem_cons_of_mem _ hnew
    · have hfits : s.fitsOldest op ↔ (Message.payload m).length ≤ op.opParam.room := by
        simp [State.fitsOldest, hcommitted]
      simp only [hnow, Option.mem_some_iff, forall_eq', hfits]
      split_ifs with hin
      · simp only [List.forall_mem_singleton, List.take_eq_self_iff, imp_iff_right hin]
      · exact ⟨fun _ h => absurd h hin, fun _ _ hd => absurd hd List.not_mem_nil⟩

/-- What happens to a serving engine, but for its fragments. -/
theorem serves_leavesBuffer (asserts : Bool) {p : Reception cfg} (h : Serving p.engine) {e : Event} (hc : e.Serves)
    (hr : ∀ side w input final env, e ≠ .callback (.receive side w input final env)) :
    ∃ new, LeavesBuffer p.engine (step p.engine e) new ∧
      ((∀ d ∈ new, d.2 = Message.payload d.1) ↔ p.Stored asserts e) := by
  have hnil : ∀ d ∈ ([] : List (Message × List UInt8)), d.2 = Message.payload d.1 := fun _ hd =>
    absurd hd List.not_mem_nil
  cases e using Event.byCause with
  | user e hu =>
    have hsame := step_sameEngine p.engine hu
    refine ⟨[], .same hsame.rxBufferCollection (by rw [State.delivered, hsame.history]; rfl), ?_⟩
    refine ⟨fun _ => ?_, fun _ => hnil⟩
    cases e with
    | callback cb | iterate env => cases hu
    | program _ _ _ | collect | cancel _ | cancelled | clear | reset => exact trivial
  | callback cb =>
    have hsame := lwsCallback_sameReceived (fun side w input final env he => hr side w input final env (he ▸ rfl)) hc
      p.engine
    simp only [step, h.lwsContext, if_true]
    refine ⟨[], .same hsame.rxBufferCollection (lwsCallback_delivered h cb), fun _ => ?_, fun _ => hnil⟩
    cases cb with
    | receive side w input final env => exact absurd rfl (hr side w input final env)
    | httpBindProtocol _ | addHeaders _ _ | established _ _ _ | clientEstablished _ _ | writeable _ _ _
    | clientClosed _ | closed _ | clientConnectionError _ _ | other _ => exact trivial
  | iterate env => exact iterate_leavesBuffer h hc

/-! ### Fragments -/

/-- A fragment that is not the last one is stored at the end of the open entry, or not at all. -/
theorem onReceive_more (s : State cfg) (w : Wsi) (input : List UInt8) (env : ReceiveEnv) :
    (s.onReceive w input false env).rxBufferCollection.opened = s.rxBufferCollection.extended env.room (w, input) ∧
      (s.onReceive w input false env).rxBufferCollection.committed = s.rxBufferCollection.committed :=
  ⟨RawBuffer.receive_more_opened _ _ _, RawBuffer.receive_more_committed _ _ _⟩

/-- The last one hands the entry over, which stays for a READ if it is refused. -/
theorem onReceive_final (s : State cfg) (w : Wsi) (input : List UInt8) (env : ReceiveEnv) :
    (s.onReceive w input true env).rxBufferCollection.opened = none ∧
      (s.onReceive w input true env).history.handed = s.history.handed ++
        ((s.rxBufferCollection.extended env.room (w, input)).map fun m => (w, m)).toList ∧
      ∀ m ∈ (s.onReceive w input true env).rxBufferCollection.committed,
        m ∈ s.rxBufferCollection.committed ∨ s.rxBufferCollection.extended env.room (w, input) = some m := by
  obtain ⟨hentry, hopened⟩ := RawBuffer.receive_final_entry s.rxBufferCollection env.room (w, input)
  have hcommitted := RawBuffer.receive_final_committed s.rxBufferCollection env.room (w, input)
  rw [hentry] at hcommitted
  have hmem : ∀ m ∈ (s.rxBufferCollection.receive env.room true (w, input)).2.committed,
      m ∈ s.rxBufferCollection.committed ∨ s.rxBufferCollection.extended env.room (w, input) = some m := by
    intro m hm
    rw [hcommitted, List.mem_append, Option.mem_toList] at hm
    exact hm
  obtain ⟨t, rfl, ⟨he, hnone⟩ | ⟨m, -, hsome, he⟩⟩ := onReceive_cases s w input true env
  · have hnone := hnone rfl
    rw [hentry] at hnone
    rw [he]
    refine ⟨hopened, ?_, hmem⟩
    rw [hnone]
    exact (List.append_nil _).symm
  · rw [hentry] at hsome
    obtain ⟨hhanded, hrx⟩ := onMessageComplete_cases ({ s with rxBufferCollection :=
      (s.rxBufferCollection.receive env.room true (w, input)).2 } : State cfg) w m env
    rw [he, hhanded, hsome]
    rw [hsome] at hmem
    rcases hrx with ⟨-, -, hrx⟩ | ⟨-, -, hrx⟩
    · rw [hrx]
      exact ⟨hopened, rfl, fun m' hm' => hmem m' (List.mem_of_mem_tail hm')⟩
    · rw [hrx]
      exact ⟨hopened, rfl, hmem⟩

/-! ### Runs -/

/-- The open entry is what could be stored of the message that is being received, and what READ delivers has
been handed over, or was there before. -/
structure StoredSoFar (s : State cfg) (w : Wsi) (p : Reception cfg) : Prop where
  serving : Serving p.engine
  opened : p.engine.rxBufferCollection.opened = storedEntry w p.fragments
  delivered : s.delivered <+: p.engine.delivered
  forRead : ∀ m ∈ p.engine.forRead, m ∈ s.forRead ∨ ∃ d ∈ p.completed, (w, m) ∈ d.given

/-- The messages that are complete are whole, and READ delivers them whole. -/
def Reception.AllWhole (s : State cfg) (asserts : Bool) (p : Reception cfg) : Prop :=
  (∀ d ∈ p.completed, d.Whole cfg asserts) ∧ p.ReadWhole s

/-- READ has delivered `new` besides. -/
theorem readWhole_append {s : State cfg} {p q : Reception cfg} {new : List (Message × List UInt8)}
    (h : s.delivered <+: p.engine.delivered) (hnew : q.engine.delivered = p.engine.delivered ++ new) :
    s.delivered <+: q.engine.delivered ∧
      (q.ReadWhole s ↔ p.ReadWhole s ∧ ∀ d ∈ new, d.2 = Message.payload d.1) := by
  obtain ⟨old, hold⟩ := h
  rw [Reception.ReadWhole, Reception.ReadWhole, hnew, ← hold, List.append_assoc, List.drop_left, List.drop_left,
    List.forall_mem_append]
  exact ⟨List.prefix_append _ _, Iff.rfl⟩

/-- A fragment of the connection. -/
theorem fragment_stored {s : State cfg} {w : Wsi} {p : Reception cfg} (h : StoredSoFar s w p) (side : Side)
    (input : List UInt8) (final : Bool) (env : ReceiveEnv) :
    StoredSoFar s w (receiveFrom p (.callback (.receive side w input final env))) ∧
      ((receiveFrom p (.callback (.receive side w input final env))).AllWhole s asserts ↔
        p.AllWhole s asserts ∧ (final = true → Storable cfg asserts (p.fragments ++ [(input, env.room)]))) := by
  have hstep : step p.engine (.callback (.receive side w input final env)) = p.engine.onReceive w input final env := by
    simp only [step, h.serving.lwsContext, if_true]
    rfl
  have hserving := step_serving p.engine (.callback (.receive side w input final env)) h.serving trivial
  have hdelivered : (p.engine.onReceive w input final env).delivered = p.engine.delivered :=
    lwsCallback_delivered h.serving (.receive side w input final env)
  have hextended := extended_storedEntry h.opened input env.room
  have hprefix : s.delivered <+: (p.engine.onReceive w input final env).delivered := hdelivered ▸ h.delivered
  rw [hstep] at hserving
  simp only [receiveFrom, Reception.fragment, hstep]
  cases final with
  | false =>
    obtain ⟨hopened, hcommitted⟩ := onReceive_more p.engine w input env
    rw [if_neg Bool.false_ne_true]
    refine ⟨⟨hserving, hopened.trans hextended, hprefix, fun m hm => h.forRead m ?_⟩, ?_⟩
    · rwa [State.forRead, hdelivered, hcommitted] at hm
    · rw [Reception.AllWhole, Reception.ReadWhole, hdelivered]
      exact (and_iff_left fun hfinal => by cases hfinal).symm
  | true =>
    obtain ⟨hopened, hhanded, hcommitted⟩ := onReceive_final p.engine w input env
    rw [hextended] at hhanded hcommitted
    have hgiven : (p.engine.onReceive w input true env).history.handed.drop p.engine.history.handed.length =
        handedOver w (p.fragments ++ [(input, env.room)]) := by
      rw [hhanded, List.drop_left]
      rfl
    rw [if_pos rfl, hgiven]
    refine ⟨⟨hserving, hopened, hprefix, fun m hm => ?_⟩, ?_⟩
    · simp only [List.mem_append, or_and_right, exists_or, ← or_assoc]
      rcases List.mem_append.mp hm with hm | hm
      · rw [hdelivered] at hm
        exact .inl (h.forRead m (List.mem_append_left _ hm))
      · rcases hcommitted m hm with hm | hm
        · exact .inl (h.forRead m (List.mem_append_right _ hm))
        · exact .inr ⟨_, List.mem_singleton.mpr rfl, by simp [handedOver, hm]⟩
    · rw [← storable_iff w, Reception.AllWhole, Reception.AllWhole, Reception.ReadWhole, Reception.ReadWhole,
        hdelivered,
        List.forall_mem_append, List.forall_mem_singleton, and_right_comm]
      exact and_congr_right fun _ => imp_iff_right rfl |>.symm

/-- One event. -/
theorem receiveFrom_stored {s : State cfg} {w : Wsi} (p : Reception cfg) (e : Event) (h : StoredSoFar s w p)
    (hc : e.Serves ∧ e.FromWsi w) :
    StoredSoFar s w (receiveFrom p e) ∧
      ((receiveFrom p e).AllWhole s asserts ↔ p.AllWhole s asserts ∧ p.Stored asserts e) := by
  by_cases hr : ∃ side w' input final env, e = .callback (.receive side w' input final env)
  · obtain ⟨side, w', input, final, env, rfl⟩ := hr
    obtain rfl : w' = w := hc.2
    exact fragment_stored h side input final env
  · have hr : ∀ side w input final env, e ≠ .callback (.receive side w input final env) :=
      fun side w input final env he => hr ⟨side, w, input, final, env, he⟩
    obtain ⟨new, hleaves, hwhole⟩ := serves_leavesBuffer asserts h.serving hc.1 hr
    have hstep : receiveFrom p e = { p with engine := step p.engine e } := by
      unfold receiveFrom
      split
      · next side' w' input final env => exact absurd rfl (hr _ _ _ _ _)
      · rfl
    obtain ⟨hextends, hread⟩ :=
      readWhole_append (q := { p with engine := step p.engine e }) h.delivered hleaves.delivered
    rw [hstep, ← hwhole, Reception.AllWhole, Reception.AllWhole, hread, and_assoc]
    refine ⟨⟨step_serving p.engine e h.serving hc.1, hleaves.opened.trans h.opened, hextends, fun m hm => ?_⟩,
      Iff.rfl⟩
    exact h.forRead m (hleaves.forRead m hm)

/-- **What is delivered is whole** exactly in the runs in which each message that is complete could be stored, and
each READ that answers has room. -/
theorem untruncated_iff {s : State cfg} (hs : Serving s) (hopen : s.rxBufferCollection.opened = none) (asserts : Bool)
    (w : Wsi) (es : List Event) (h : Meets receiveFrom (fun _ e => e.Serves ∧ e.FromWsi w) (.start s) es) :
    (exec receiveFrom (.start s) es).Untruncated s asserts ↔
      Meets receiveFrom (Reception.Stored asserts) (.start s) es := by
  have hstart : StoredSoFar s w (.start s) := ⟨hs, hopen, List.prefix_rfl, fun m hm => .inl hm⟩
  have hstep : ∀ p e, StoredSoFar s w p → e.Serves ∧ e.FromWsi w → StoredSoFar s w (receiveFrom p e) ∧
      ((receiveFrom p e).AllWhole s asserts ↔ p.AllWhole s asserts ∧ p.Stored asserts e) := receiveFrom_stored
  have hrun := exec_inv (fun p e hp hc => (hstep p e hp hc).1) es _ hstart h
  have hwhole := exec_iff (fun p e hp hc => (hstep p e hp hc).1) (fun p e hp hc => (hstep p e hp hc).2) es _ hstart h
  have hnone : Reception.AllWhole s asserts (.start s) := by
    refine ⟨fun d hd => absurd hd List.not_mem_nil, fun d hd => ?_⟩
    rw [Reception.start, List.drop_length] at hd
    cases hd
  rw [← (hwhole.trans (and_iff_right hnone))]
  refine ⟨fun hu => ⟨hu.completed, hu.read⟩, fun hall => ⟨hall.1, fun m hm => ?_, hall.2⟩⟩
  rcases hrun.forRead m hm with hold | ⟨d, hd, hgiven⟩
  · exact .inl hold
  · exact .inr ⟨d, hd, (hall.1 d hd).given _ hgiven⟩

/-- A fragment of one byte from the client 1, which no callback accepts. -/
def refusedFragment (byte : UInt8) (final room : Bool) : Event :=
  .callback (.receive .server 1 [byte] final { room := room, onMessage := false, onEvent := false })

/-- Two fragments that find room, and the READ of their message. -/
theorem untruncated_two : (exec receiveFrom (.start listened) (clientConnects 1 ['a'] ++
    [refusedFragment 65 false true, refusedFragment 66 true true] ++ Event.execute 0 0 (.read 2 true))).Untruncated
      listened true := by
  have hserves : Meets receiveFrom (fun _ e => e.Serves ∧ e.FromWsi 1) (.start listened)
      (clientConnects 1 ['a'] ++ [refusedFragment 65 false true, refusedFragment 66 true true] ++
        Event.execute 0 0 (.read 2 true)) := by decide +kernel
  exact (untruncated_iff listened_listening.toServing rfl true 1 _ hserves).mpr (by decide +kernel)

/-- There is no room for the second fragment: the message is delivered without it. -/
theorem not_untruncated :
    ¬ ∀ (cfg : WebSocketParam) (s : State cfg) (w : Wsi) (es : List Event), Serving s →
      s.rxBufferCollection.opened = none →
      Meets receiveFrom (fun _ e => e.Serves ∧ e.FromWsi w) (.start s) es →
      (exec receiveFrom (.start s) es).Untruncated s false := by
  intro h
  have hrun := h server listened 1
    (clientConnects 1 ['a'] ++ [refusedFragment 65 false true, refusedFragment 66 true false])
    listened_listening.toServing rfl (by decide +kernel)
  have hmem : ⟨[65, 66], [(1, [(1, [65])])]⟩ ∈ (exec receiveFrom (.start listened)
      (clientConnects 1 ['a'] ++ [refusedFragment 65 false true, refusedFragment 66 true false])).completed := by
    decide +kernel
  have hgiven := (hrun.completed _ hmem).given (1, [(1, [65])]) (List.mem_singleton.mpr rfl)
  exact absurd hgiven (by decide)

end BofWebRpc.WebSocket
