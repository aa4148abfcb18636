import BofWebRpc.WebSocket.WriteBuffer
import BofWebRpc.Library.Runs

/-!
# The buffer of a reply

A user callback allocates the reply with `BOF_LWS_ALLOCATE_BUFFER` and appends to it with
`BOF_LWS_SPRINT_BUFFER` and `BOF_LWS_WRITE_BUFFER`. `LwsCallback` then hands to `lws_write` what lies
between `LWS_PRE` and `Size_U64`.

## The model

`LWS_PRE + size` is computed in the type of `size`, so that it wraps there. `BOF_BUFFER` is not part
of this repository: `BofBuffer` says what the macros rely on, and `bofBuffer` is the one that `Buffer`
behaves like. `snprintf` stores no more than its bound and returns the length of the whole text, or a
negative value. A size is a `UInt64`, so that the returned `int` is converted as `+=` converts it.

## What is proved

* `allocate_represents`, `write_represents` — these sizes are the ones of the buffer of a write.
* `sprint_stored` — the bytes that a print stores are within the storage.
* `use_inBounds`, `fits_of_use_inBounds` — what one use may do to a buffer that is in bounds.
* `reply_inBounds` — a reply is in bounds after each use if the allocation does not wrap and every
  print fits, and only if, for a storage that an object can have.
-/

namespace BofWebRpc.WebSocket

open Runs

/-! ### Sizes -/

/-- The `size` of `BOF_LWS_ALLOCATE_BUFFER`, by the type in which `LWS_PRE + size` is computed. An
`int` that is added without an overflow gives what its value gives as `uint32_t`. -/
inductive AllocationSize where
  | uint32 (n : UInt32)
  | uint64 (n : UInt64)
  deriving DecidableEq

/-- `LWS_PRE + size`, converted to `uint64_t`. -/
def AllocationSize.capacity : AllocationSize → UInt64
  | .uint32 n => (UInt32.ofNat lwsPre + n).toUInt64
  | .uint64 n => UInt64.ofNat lwsPre + n

/-- `LWS_PRE + size` is below the bound of its type. -/
def AllocationSize.NoWrap : AllocationSize → Prop
  | .uint32 n => lwsPre + n.toNat < 2 ^ 32
  | .uint64 n => lwsPre + n.toNat < 2 ^ 64

instance : ∀ n : AllocationSize, Decidable n.NoWrap
  | .uint32 n => inferInstanceAs (Decidable (lwsPre + n.toNat < 2 ^ 32))
  | .uint64 n => inferInstanceAs (Decidable (lwsPre + n.toNat < 2 ^ 64))

/-- `Reply_X`: how much of how large a storage. -/
structure Reply where
  /-- `Capacity_U64`. -/
  capacity : UInt64
  /-- `Size_U64`. -/
  size : UInt64
  deriving DecidableEq

/-- `BOF_LWS_ALLOCATE_BUFFER`. -/
def Reply.allocate (size : AllocationSize) : Reply := { capacity := size.capacity, size := UInt64.ofNat lwsPre }

/-! ### Uses -/

/-- What the macros rely on in `BOF_BUFFER`. -/
structure BofBuffer where
  /-- `RemainToWrite`. -/
  remainToWrite : Reply → ℕ
  /-- `nbwritten`, as `Write` sets it for a length and the bytes at the pointer. -/
  nbWritten : Reply → ℕ → List UInt8 → ℕ
  /-- `RemainToWrite` is not beyond the storage. -/
  remain_le : ∀ b, remainToWrite b ≤ b.capacity.toNat - b.size.toNat
  /-- `Write` appends only what fits. -/
  written_le : ∀ b len p, b.size.toNat ≤ b.capacity.toNat → nbWritten b len p ≤ b.capacity.toNat - b.size.toNat

/-- A `BOF_BUFFER` that appends as `Buffer.write` does. -/
def bofBuffer : BofBuffer where
  remainToWrite b := b.capacity.toNat - b.size.toNat
  nbWritten b len p := ((p.take len).take (b.capacity.toNat - b.size.toNat)).length
  remain_le _ := Nat.le_refl _
  written_le _ _ _ _ := List.length_take_le _ _

/-- What a format and its arguments make: a text whose length is an `int`, or a failure with the
value `-(n + 1)`. -/
inductive Formatted where
  | text (t : List UInt8) (h : t.length < 2 ^ 31)
  | failed (n : Fin (2 ^ 31))

/-- What a call of `snprintf` does. -/
structure Printed where
  /-- `len`, the returned value. -/
  returned : ℤ
  /-- The bytes stored at the pointer. -/
  stored : List UInt8

/-- `snprintf` with the bound `n`: the text is cut to leave room for a zero byte, its length is not. -/
def Formatted.snprintf (n : ℕ) : Formatted → Printed
  | .text t _ => ⟨t.length, if n = 0 then [] else t.take (n - 1) ++ [0]⟩
  | .failed k => ⟨-(k.val + 1), []⟩

/-- `BOF_LWS_SPRINT_BUFFER`: `buf.Size_U64 += len`. -/
def Reply.sprint (bof : BofBuffer) (b : Reply) (f : Formatted) : Reply :=
  { b with size := b.size + UInt64.ofInt (f.snprintf (bof.remainToWrite b)).returned }

/-- `BOF_LWS_WRITE_BUFFER`. -/
def Reply.write (bof : BofBuffer) (b : Reply) (len : ℕ) (p : List UInt8) : Reply :=
  { b with size := b.size + UInt64.ofNat (bof.nbWritten b len p) }

/-- A use of one of the two macros. -/
inductive ReplyUse where
  | sprint (f : Formatted)
  | write (len : ℕ) (p : List UInt8)

/-- One use. -/
def Reply.use (bof : BofBuffer) (b : Reply) : ReplyUse → Reply
  | .sprint f => b.sprint bof f
  | .write len p => b.write bof len p

/-- The range that `LwsCallback` hands to `lws_write` once `OnEvent` has returned no error: where it
starts, and its length. -/
def Reply.region (b : Reply) : Option (ℕ × ℕ) :=
  if b.size = 0 then none else some (lwsPre, (b.size - UInt64.ofNat lwsPre).toNat)

/-- The reply is in bounds. -/
structure Reply.InBounds (b : Reply) : Prop where
  /-- The free bytes in front are counted. -/
  preceded : lwsPre ≤ b.size.toNat
  /-- `Size_U64` is not beyond the storage. -/
  held : b.size.toNat ≤ b.capacity.toNat
  /-- What is handed to `lws_write` lies in the storage. -/
  region : ∀ r ∈ b.region, r.1 + r.2 ≤ b.capacity.toNat

/-- The use leaves a reply in bounds where it is: a text is not longer than what is free, and a
failure does not count more bytes back than there are behind `LWS_PRE`. -/
def Reply.Fits (b : Reply) : ReplyUse → Prop
  | .sprint (.text t _) => b.size.toNat + t.length ≤ b.capacity.toNat
  | .sprint (.failed n) => lwsPre + (n.val + 1) ≤ b.size.toNat
  | .write _ _ => True

instance (b : Reply) : ∀ u : ReplyUse, Decidable (b.Fits u)
  | .sprint (.text t _) => inferInstanceAs (Decidable (b.size.toNat + t.length ≤ b.capacity.toNat))
  | .sprint (.failed n) => inferInstanceAs (Decidable (lwsPre + (n.val + 1) ≤ b.size.toNat))
  | .write _ _ => inferInstanceAs (Decidable True)

/-! ### The buffer of a write -/

/-- On `uint32_t` the sum wraps as `BOF_LWS_ALLOCATE_BUFFER` computes it for a write. -/
theorem capacity_uint32 (n : UInt32) : (AllocationSize.uint32 n).capacity.toNat = toU32 (lwsPre + n.toNat) := by
  have h : (UInt32.ofNat lwsPre).toNat = lwsPre := by decide
  rw [AllocationSize.capacity, UInt32.toNat_toUInt64, UInt32.toNat_add, h, toU32]

theorem capacity_uint64 (n : UInt64) : (AllocationSize.uint64 n).capacity.toNat = (lwsPre + n.toNat) % 2 ^ 64 := by
  have h : (UInt64.ofNat lwsPre).toNat = lwsPre := by decide
  rw [AllocationSize.capacity, UInt64.toNat_add, h]

/-- The sizes are those of a buffer with its bytes. -/
structure Reply.Represents (b : Reply) (buffer : Buffer) : Prop where
  capacity : b.capacity.toNat = buffer.capacity
  size : b.size.toNat = buffer.data.length

theorem allocate_represents (n : UInt32) :
    (Reply.allocate (.uint32 n)).Represents (Buffer.allocate n.toNat) :=
  ⟨capacity_uint32 n, List.length_replicate.symm⟩

/-- What `Write` appends fits into 64 bits. -/
theorem write_size {bof : BofBuffer} {b : Reply} (hheld : b.size.toNat ≤ b.capacity.toNat) (len : ℕ) (p : List UInt8) :
    (b.write bof len p).size.toNat = b.size.toNat + bof.nbWritten b len p := by
  have hwritten := bof.written_le b len p hheld
  have hcapacity := b.capacity.toNat_lt
  have hnb : bof.nbWritten b len p < 2 ^ 64 := by omega
  rw [Reply.write, UInt64.toNat_add, UInt64.toNat_ofNat_of_lt' hnb, Nat.mod_eq_of_lt (by omega)]

theorem write_represents {b : Reply} {buffer : Buffer} (h : b.Represents buffer)
    (hheld : b.size.toNat ≤ b.capacity.toNat) (len : ℕ) (p : List UInt8) :
    (b.write bofBuffer len p).Represents (buffer.write len p) := by
  refine ⟨h.capacity, ?_⟩
  rw [write_size hheld, h.size, Buffer.write, List.length_append]
  simp only [bofBuffer, h.capacity, h.size]

/-! ### One use -/

/-- The range of a reply is in the storage when its size is. -/
theorem inBounds_iff {b : Reply} : b.InBounds ↔ lwsPre ≤ b.size.toNat ∧ b.size.toNat ≤ b.capacity.toNat := by
  constructor
  · intro h
    exact ⟨h.preceded, h.held⟩
  · rintro ⟨hpreceded, hheld⟩
    refine ⟨hpreceded, hheld, fun r hr => ?_⟩
    have hle : UInt64.ofNat lwsPre ≤ b.size := UInt64.le_iff_toNat_le.mpr hpreceded
    have hlength : (b.size - UInt64.ofNat lwsPre).toNat = b.size.toNat - lwsPre := UInt64.toNat_sub_of_le _ _ hle
    have hne : b.size ≠ 0 := by
      intro h
      rw [h] at hpreceded
      exact absurd hpreceded (by decide)
    rw [Reply.region, if_neg hne, Option.mem_def, Option.some.injEq, hlength] at hr
    subst hr
    show lwsPre + (b.size.toNat - lwsPre) ≤ b.capacity.toNat
    omega

/-- A buffer as it is allocated. -/
theorem allocate_inBounds_iff (n : AllocationSize) : (Reply.allocate n).InBounds ↔ n.NoWrap := by
  have hsize : (Reply.allocate n).size.toNat = lwsPre := rfl
  rw [inBounds_iff, hsize, Reply.allocate]
  cases n with
  | uint32 n =>
    have hn := n.toNat_lt
    rw [capacity_uint32]
    simp only [AllocationSize.NoWrap, toU32, lwsPre]
    omega
  | uint64 n =>
    have hn := n.toNat_lt
    rw [capacity_uint64]
    simp only [AllocationSize.NoWrap, lwsPre]
    omega

section Uses

variable (bof : BofBuffer) (b : Reply)

theorem use_capacity (u : ReplyUse) : (b.use bof u).capacity = b.capacity := by cases u <;> rfl

theorem exec_use_capacity (es : List ReplyUse) : (exec (Reply.use bof) b es).capacity = b.capacity := by
  have hstep : ∀ (s : Reply) (u : ReplyUse), s.capacity = b.capacity → True → (s.use bof u).capacity = b.capacity := by
    intro s u hs _
    rw [use_capacity, hs]
  exact exec_inv hstep es b rfl (meets_true _ es b)

/-- The length of the whole text is added, whatever has been stored. -/
theorem sprint_text_size (t : List UInt8) (h : t.length < 2 ^ 31) :
    (b.sprint bof (.text t h)).size.toNat = (b.size.toNat + t.length) % 2 ^ 64 := by
  simp only [Reply.sprint, UInt64.ofInt, Formatted.snprintf, UInt64.toNat_add, UInt64.toNat_ofNat']
  omega

/-- A failure counts bytes back, modulo `2 ^ 64`. -/
theorem sprint_failed_size (n : Fin (2 ^ 31)) :
    (b.sprint bof (.failed n)).size.toNat = (b.size.toNat + (2 ^ 64 - (n.val + 1))) % 2 ^ 64 := by
  simp only [Reply.sprint, UInt64.ofInt, Formatted.snprintf, UInt64.toNat_add, UInt64.toNat_ofNat']
  omega

/-- The bytes of a print are not the ones that are out of bounds. -/
theorem sprint_stored (hheld : b.size.toNat ≤ b.capacity.toNat) (f : Formatted) :
    b.size.toNat + (f.snprintf (bof.remainToWrite b)).stored.length ≤ b.capacity.toNat := by
  have hremain := bof.remain_le b
  cases f with
  | text t h =>
    by_cases hzero : bof.remainToWrite b = 0
    · simpa [Formatted.snprintf, hzero] using hheld
    · simp only [Formatted.snprintf, if_neg hzero, List.length_append, List.length_take, List.length_singleton]
      omega
  | failed n => simpa [Formatted.snprintf] using hheld

variable {bof b}

/-- A use that fits leaves the reply in bounds. -/
theorem use_inBounds {u : ReplyUse} (h : b.InBounds) (hfits : b.Fits u) : (b.use bof u).InBounds := by
  have hcapacity := b.capacity.toNat_lt
  obtain ⟨hpreceded, hheld⟩ := inBounds_iff.mp h
  rw [inBounds_iff, use_capacity]
  cases u with
  | sprint f =>
    cases f with
    | text t ht =>
      have hfree : b.size.toNat + t.length ≤ b.capacity.toNat := hfits
      rw [Reply.use, sprint_text_size, Nat.mod_eq_of_lt (by omega)]
      omega
    | failed n =>
      have hbehind : lwsPre + (n.val + 1) ≤ b.size.toNat := hfits
      rw [Reply.use, sprint_failed_size]
      omega
  | write len p =>
    have hwritten := bof.written_le b len p hheld
    rw [Reply.use, write_size hheld]
    omega

/-- An object has less than `2 ^ 63` bytes; in such a storage nothing that does not fit comes back into bounds. -/
theorem fits_of_use_inBounds {u : ReplyUse} (hstorage : b.capacity.toNat < 2 ^ 63) (h : b.InBounds)
    (huse : (b.use bof u).InBounds) : b.Fits u := by
  obtain ⟨hpreceded, hheld⟩ := inBounds_iff.mp h
  obtain ⟨hpreceded', hheld'⟩ := inBounds_iff.mp huse
  rw [use_capacity] at hheld'
  cases u with
  | sprint f =>
    cases f with
    | text t ht =>
      rw [Reply.use, sprint_text_size, Nat.mod_eq_of_lt (by omega)] at hheld'
      exact hheld'
    | failed n =>
      have hn := n.isLt
      rw [Reply.use, sprint_failed_size] at hpreceded' hheld'
      show lwsPre + (n.val + 1) ≤ b.size.toNat
      omega
  | write len p => trivial

end Uses

/-! ### A run -/

/-- **A reply** that is allocated without a wrap-around is in bounds after each use, if every print fits; in a
storage that an object can have, only then. -/
theorem reply_inBounds (bof : BofBuffer) (n : AllocationSize) (es : List ReplyUse) :
    (n.NoWrap ∧ Meets (Reply.use bof) Reply.Fits (.allocate n) es →
      ∀ k, (exec (Reply.use bof) (.allocate n) (es.take k)).InBounds) ∧
    (n.capacity.toNat < 2 ^ 63 → (∀ k, (exec (Reply.use bof) (.allocate n) (es.take k)).InBounds) →
      n.NoWrap ∧ Meets (Reply.use bof) Reply.Fits (.allocate n) es) := by
  constructor
  · rintro ⟨hwrap, hfits⟩ k
    have hstep : ∀ (b : Reply) (u : ReplyUse), b.InBounds → b.Fits u → (b.use bof u).InBounds :=
      fun _ _ => use_inBounds
    exact exec_inv hstep _ _ ((allocate_inBounds_iff n).mpr hwrap) (meets_take hfits k)
  · intro hstorage halways
    refine ⟨(allocate_inBounds_iff n).mp (halways 0), ?_⟩
    have hstep : ∀ (b : Reply) (u : ReplyUse), b.InBounds ∧ b.capacity = n.capacity →
        (b.use bof u).InBounds ∧ (b.use bof u).capacity = n.capacity → b.Fits u := by
      rintro b u ⟨h, hcapacity⟩ ⟨huse, -⟩
      refine fits_of_use_inBounds ?_ h huse
      rw [hcapacity]
      exact hstorage
    exact meets_of_always hstep es _ fun k => ⟨halways k, exec_use_capacity bof _ _⟩

/-- Two bytes are printed, a print fails, and three bytes are written, into eight. -/
theorem reply_inBounds_eight :
    ∀ k, (exec (Reply.use bofBuffer) (.allocate (.uint32 8))
      ([.sprint (.text [79, 75] (by decide)), .sprint (.failed 0), .write 3 [33, 33, 33]].take k)).InBounds :=
  (reply_inBounds bofBuffer (.uint32 8) _).1 ⟨by decide, by decide⟩

/-- A text of five bytes is printed into four. -/
theorem reply_inBounds_overruns :
    ¬ ∀ (bof : BofBuffer) (n : AllocationSize) (es : List ReplyUse) (k : ℕ),
      (exec (Reply.use bof) (.allocate n) (es.take k)).InBounds := by
  intro h
  have hheld := (h bofBuffer (.uint32 4) [.sprint (.text [72, 101, 108, 108, 111] (by decide))] 1).held
  exact absurd hheld (by decide)

end BofWebRpc.WebSocket
