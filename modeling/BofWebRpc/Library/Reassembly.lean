import Mathlib.Data.List.Basic
import Mathlib.Logic.Function.Basic

/-!
# Reassembly of fragments

Two ways to put the fragments of several sources together again. A `RawBuffer` is one
queue of entries in append mode: a fragment extends the open entry, whatever its
source, and leaving append mode commits the entry. An `Assembler` keeps the
unfinished message of each source apart.

An entry of the buffer is kept as the list of the fragments it was made of, each with
its source.

## What is proved

* `RawBuffer.receive_assembles` — as long as a fragment only ever extends an entry of
  its own source, the buffer does what the assembler does: what it commits is
  the message of that source.
-/

namespace Reassembly

universe u v

variable {ι : Type u} {β : Type v}

/-! ### The shared buffer -/

/-- A queue of entries, the last one perhaps still open. -/
structure RawBuffer (α : Type u) where
  /-- The committed entries, the oldest first. -/
  committed : List (List α)
  /-- The open entry. -/
  opened : Option (List α)
  /-- Append mode. -/
  append : Bool

/-- The empty buffer. -/
def RawBuffer.empty {α : Type u} : RawBuffer α := ⟨[], none, false⟩

/-- Append mode is entered, or left, which commits the open entry: the entry, and the
buffer. -/
def RawBuffer.setAppendMode {α : Type u} (b : RawBuffer α) (on : Bool) : Option (List α) × RawBuffer α :=
  match on, b.opened with
  | true, _ => (b.opened, { b with append := true })
  | false, none => (none, { b with append := false })
  | false, some e => (some e, ⟨b.committed ++ [e], none, false⟩)

@[simp] theorem RawBuffer.setAppendMode_true {α : Type u} (b : RawBuffer α) :
    b.setAppendMode true = (b.opened, { b with append := true }) := rfl

/-- A fragment is stored, if there is room: in append mode at the end of the open entry,
or in a new one. -/
def RawBuffer.pushBuffer {α : Type u} (b : RawBuffer α) (room : Bool) (a : α) : RawBuffer α :=
  match room, b.append with
  | false, _ => b
  | true, true => { b with opened := some (b.opened.getD [] ++ [a]) }
  | true, false => { b with committed := b.committed ++ [[a]] }

/-- The oldest committed entry is dropped. -/
def RawBuffer.skip {α : Type u} (b : RawBuffer α) : RawBuffer α := { b with committed := b.committed.tail }

/-- The oldest committed entry is taken out. -/
def RawBuffer.popBuffer {α : Type u} (b : RawBuffer α) : Option (List α × RawBuffer α) :=
  b.committed.head?.map fun e => (e, b.skip)

theorem RawBuffer.popBuffer_eq_some {α : Type u} {b b' : RawBuffer α} {e : List α} (h : b.popBuffer = some (e, b')) :
    b.committed = e :: b'.committed ∧ b'.opened = b.opened := by
  rw [popBuffer, Option.map_eq_some_iff] at h
  obtain ⟨e', he, hb⟩ := h
  cases hb
  cases hc : b.committed with
  | nil => simp [hc] at he
  | cons d l => simpa [hc, skip] using he

/-- A fragment is received: append mode is entered, the fragment stored, and append
mode left after the last fragment of a message. The entry that commits, and the
buffer. -/
def RawBuffer.receive {α : Type u} (b : RawBuffer α) (room final : Bool) (a : α) : Option (List α) × RawBuffer α :=
  (((b.setAppendMode true).2.pushBuffer room a).setAppendMode (!final))

/-- With room, a fragment that is not the last one extends the open entry. -/
theorem RawBuffer.receive_more {α : Type u} (b : RawBuffer α) (a : α) :
    (b.receive true false a).2 = ⟨b.committed, some (b.opened.getD [] ++ [a]), true⟩ := rfl

/-- With room, the last fragment completes the open entry, which is committed. -/
theorem RawBuffer.receive_final {α : Type u} (b : RawBuffer α) (a : α) :
    b.receive true true a = (some (b.opened.getD [] ++ [a]), ⟨b.committed ++ [b.opened.getD [] ++ [a]], none, false⟩) :=
  rfl

/-- A fragment that is not the last one commits nothing. -/
theorem RawBuffer.receive_more_committed {α : Type u} (b : RawBuffer α) (room : Bool) (a : α) :
    (b.receive room false a).2.committed = b.committed := by
  cases room <;> rfl

/-- The last fragment commits the open entry, if there is one. -/
theorem RawBuffer.receive_final_committed {α : Type u} (b : RawBuffer α) (room : Bool) (a : α) :
    (b.receive room true a).2.committed = b.committed ++ (b.receive room true a).1.toList := by
  cases room with
  | true => rfl
  | false =>
    obtain ⟨committed, opened, append⟩ := b
    cases opened with
    | none => exact (List.append_nil _).symm
    | some e => rfl

/-- The open entry once a fragment has come, stored or not. -/
def RawBuffer.extended {α : Type u} (b : RawBuffer α) (room : Bool) (a : α) : Option (List α) :=
  if room then some (b.opened.getD [] ++ [a]) else b.opened

/-- A fragment that is not the last one leaves its entry open. -/
theorem RawBuffer.receive_more_opened {α : Type u} (b : RawBuffer α) (room : Bool) (a : α) :
    (b.receive room false a).2.opened = b.extended room a := by
  cases room <;> rfl

/-- The last fragment commits the entry, and none is open any more. -/
theorem RawBuffer.receive_final_entry {α : Type u} (b : RawBuffer α) (room : Bool) (a : α) :
    (b.receive room true a).1 = b.extended room a ∧ (b.receive room true a).2.opened = none := by
  cases room with
  | true => exact ⟨rfl, rfl⟩
  | false =>
    obtain ⟨committed, opened, append⟩ := b
    cases opened <;> exact ⟨rfl, rfl⟩

/-! ### One message for each source -/

/-- The unfinished message of each source, the messages that are complete, and the
sources that are gone. -/
structure Assembler (ι : Type u) (β : Type v) where
  /-- The fragments of the message each source is sending. -/
  partials : ι → List β
  /-- The complete messages, with their sources. -/
  messages : List (ι × List β)
  /-- The sources that are gone. -/
  gone : List ι

/-- Nothing has been received. -/
def Assembler.empty : Assembler ι β := ⟨fun _ => [], [], []⟩

section Assembler

variable [DecidableEq ι]

/-- A fragment of the source `i`. -/
def Assembler.receive (m : Assembler ι β) (i : ι) (final : Bool) (x : β) : Assembler ι β :=
  if final then
    { m with
      partials := Function.update m.partials i []
      messages := m.messages ++ [(i, m.partials i ++ [x])] }
  else { m with partials := Function.update m.partials i (m.partials i ++ [x]) }

/-- The source `i` goes, and with it what it had begun. -/
def Assembler.close (m : Assembler ι β) (i : ι) : Assembler ι β :=
  { m with partials := Function.update m.partials i [], gone := i :: m.gone }

end Assembler

/-! ### The buffer as an assembler -/

/-- Every fragment of the entry is of the source `i`. -/
def OfSource (i : ι) (e : List (ι × β)) : Prop := ∀ f ∈ e, f.1 = i

instance [DecidableEq ι] (i : ι) (e : List (ι × β)) : Decidable (OfSource i e) :=
  inferInstanceAs (Decidable (∀ f ∈ e, f.1 = i))

/-- The open entry holds the unfinished message of one source, which may be gone by
now; no other source has begun a message. -/
structure Assembles (b : RawBuffer (ι × β)) (m : Assembler ι β) : Prop where
  idle : b.opened = none → ∀ i, m.partials i = []
  open_ : ∀ e, b.opened = some e → ∃ i, OfSource i e ∧ e ≠ [] ∧ (∀ j, j ≠ i → m.partials j = []) ∧
    (i ∈ m.gone ∨ m.partials i = e.map Prod.snd)

theorem assembles_empty : Assembles (RawBuffer.empty : RawBuffer (ι × β)) Assembler.empty :=
  ⟨fun _ _ => rfl, fun e h => by cases h⟩

/-- The fragment may be appended: no entry is open, or one of its own source. -/
def Contiguous (b : RawBuffer (ι × β)) (i : ι) : Prop := ∀ e, b.opened = some e → OfSource i e

instance [DecidableEq ι] (b : RawBuffer (ι × β)) (i : ι) : Decidable (Contiguous b i) :=
  inferInstanceAs (Decidable (∀ e ∈ b.opened, OfSource i e))

/-- What is open, when the next fragment is contiguous, is what its source has sent. -/
theorem Assembles.partials_eq {b : RawBuffer (ι × β)} {m : Assembler ι β} (h : Assembles b m) {i : ι}
    (hi : i ∉ m.gone) (hc : Contiguous b i) :
    OfSource i (b.opened.getD []) ∧ m.partials i = (b.opened.getD []).map Prod.snd ∧
      ∀ j, j ≠ i → m.partials j = [] := by
  cases ho : b.opened with
  | none =>
    have hidle := h.idle ho
    exact ⟨fun f hf => (List.not_mem_nil hf).elim, hidle i, fun j _ => hidle j⟩
  | some e =>
    obtain ⟨k, hk, hne, hothers, hk'⟩ := h.open_ e ho
    obtain ⟨f, hf⟩ := List.exists_mem_of_ne_nil e hne
    have hik : k = i := (hk f hf).symm.trans (hc e ho f hf)
    subst hik
    exact ⟨hk, hk'.resolve_left hi, hothers⟩

section Steps

variable [DecidableEq ι]

/-- **One fragment**: contiguous fragments of sources that are not gone keep the buffer an
assembler, and the entry that the last one commits is the message it completes. -/
theorem RawBuffer.receive_assembles {b : RawBuffer (ι × β)} {m : Assembler ι β} (h : Assembles b m) {i : ι}
    (hi : i ∉ m.gone) (hc : Contiguous b i) (final : Bool) (x : β) :
    Assembles (b.receive true final (i, x)).2 (m.receive i final x) ∧
      (final = true → ∃ e, (b.receive true final (i, x)).1 = some e ∧ OfSource i e ∧
        (m.receive i final x).messages = m.messages ++ [(i, e.map Prod.snd)]) := by
  obtain ⟨hsource, hpartial, hothers⟩ := h.partials_eq hi hc
  have hsource' : OfSource i (b.opened.getD [] ++ [(i, x)]) := by
    intro f hf
    rcases List.mem_append.mp hf with hf | hf
    · exact hsource f hf
    · rw [List.mem_singleton.mp hf]
  cases final with
  | false =>
    refine ⟨⟨fun ho => by simp [RawBuffer.receive_more] at ho, fun e he => ?_⟩, fun hf => by cases hf⟩
    simp only [RawBuffer.receive_more, Option.some.injEq] at he
    subst he
    refine ⟨i, hsource', by simp, fun j hj => ?_, .inr ?_⟩
    · simpa [Assembler.receive, Function.update_of_ne hj] using hothers j hj
    · simp [Assembler.receive, hpartial]
  | true =>
    refine ⟨⟨fun _ j => ?_, fun e he => by simp [RawBuffer.receive_final] at he⟩, fun _ => ?_⟩
    · by_cases hj : j = i
      · simp [Assembler.receive, hj]
      · simpa [Assembler.receive, Function.update_of_ne hj] using hothers j hj
    · refine ⟨_, rfl, hsource', ?_⟩
      simp [Assembler.receive, hpartial]

/-- A source that goes leaves its fragments in the buffer. -/
theorem Assembles.close {b : RawBuffer (ι × β)} {m : Assembler ι β} (h : Assembles b m) (i : ι) :
    Assembles b (m.close i) := by
  have hnil : ∀ j, m.partials j = [] → (m.close i).partials j = [] := by
    intro j hj
    by_cases hji : j = i
    · simp [Assembler.close, hji]
    · simpa [Assembler.close, Function.update_of_ne hji] using hj
  refine ⟨fun ho j => hnil j (h.idle ho j), fun e he => ?_⟩
  obtain ⟨k, hk, hne, hothers, hk'⟩ := h.open_ e he
  refine ⟨k, hk, hne, fun j hj => hnil j (hothers j hj), ?_⟩
  by_cases hki : k = i
  · exact .inl (by simp [Assembler.close, hki])
  · refine hk'.imp (List.mem_cons_of_mem i) fun hp => ?_
    simpa [Assembler.close, Function.update_of_ne hki] using hp

end Steps

end Reassembly
