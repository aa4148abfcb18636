import Mathlib.Data.List.TakeWhile

/-!
# The reason of a close

A close frame begins with a status of two bytes, the most significant one first, and the
text of the reason follows without a terminator. `BofWebSocket::GetCloseInfo` reads the
status as a `uint16_t` of the host, and copies the text with `strcpy`.

## The model

`ClosePayload` is the memory from the address that `lws_get_close_payload` returns, which
goes on behind the payload. `strcpy` stores the bytes up to the first NUL it meets, and has
no result when there is none in that memory. The host is little-endian.

## What is proved

`getCloseInfo_decodes_iff` — a close frame is decoded exactly when the two bytes of its status
are equal, its text is shorter than the destination and a NUL happens to follow it, or when its
text is longer than the destination, which is reported.
-/

namespace BofWebRpc.WebSocket

/-- The codes `GetCloseInfo` returns. -/
inductive CloseErr where
  | notAvailable
  | noError
  | tooSmall
  deriving DecidableEq

/-- What `lws_get_close_payload` and `lws_get_close_length` give. -/
structure ClosePayload where
  /-- The memory from the payload on. -/
  memory : List UInt8
  /-- The length of the payload. -/
  length : ℕ
  /-- The payload is in the memory. -/
  fits : length ≤ memory.length

/-- What `GetCloseInfo` returns and stores. -/
structure CloseInfo where
  /-- The code. -/
  sts : CloseErr
  /-- `_rCloseStatus_U16`. -/
  closeStatus : UInt16
  /-- `_rMaxSize_U32`. -/
  maxSize : UInt32
  /-- The bytes stored from `_pCloseInfo_c` on. -/
  stored : List UInt8
  deriving DecidableEq

/-- `*(uint16_t *)p` on a little-endian host. -/
def readU16 (b₀ b₁ : UInt8) : UInt16 := b₀.toUInt16 + 256 * b₁.toUInt16

/-- `strcpy`: the bytes it stores. -/
def strcpy (src : List UInt8) : Option (List UInt8) :=
  if 0 ∈ src then some (src.takeWhile (· ≠ 0) ++ [0]) else none

/-- `BofWebSocket::GetCloseInfo`; it has no result when `strcpy` runs out of the memory. -/
def getCloseInfo (payload : Option ClosePayload) (maxSize : UInt32) : Option CloseInfo :=
  match payload with
  | none => some ⟨.notAvailable, 0, maxSize, []⟩
  | some p =>
    if 2 ≤ p.length then
      let closeStatus := readU16 (p.memory.getD 0 0) (p.memory.getD 1 0)
      let closeInfoLen := p.length - 2
      if closeInfoLen ≤ maxSize.toNat then
        match strcpy (p.memory.drop 2) with
        | none => none
        | some stored => some ⟨.noError, closeStatus, UInt32.ofNat closeInfoLen, stored⟩
      else some ⟨.tooSmall, closeStatus, UInt32.ofNat closeInfoLen, []⟩
    else some ⟨.notAvailable, 0, maxSize, []⟩

/-! ### Close frames -/

/-- The most significant byte. -/
def highByte (s : UInt16) : UInt8 := (s >>> 8).toUInt8

/-- The least significant byte. -/
def lowByte (s : UInt16) : UInt8 := s.toUInt8

/-- The payload of a close frame with the status `s` and the reason `r`, as `lws_close_reason`
writes it, and the memory behind it. -/
def closeFrame (s : UInt16) (r rest : List UInt8) : ClosePayload where
  memory := highByte s :: lowByte s :: (r ++ rest)
  length := 2 + r.length
  fits := by
    simp only [List.length_cons, List.length_append]
    omega

/-- The result is the status `s` and the text `r`, when the destination of `maxSize` bytes
has room for it and its terminator; otherwise that it has none. -/
def Decodes (s : UInt16) (r : List UInt8) (maxSize : UInt32) (result : Option CloseInfo) : Prop :=
  ∃ info, result = some info ∧ info.stored.length ≤ maxSize.toNat ∧
    if r.length < maxSize.toNat then
      info.sts = .noError ∧ info.closeStatus = s ∧ info.stored = r ++ [0] ∧ info.maxSize.toNat = r.length
    else info.sts = .tooSmall ∧ info.stored = []

/-- The bytes are read in the wrong order. -/
theorem readU16_eq_iff (s : UInt16) : readU16 (highByte s) (lowByte s) = s ↔ highByte s = lowByte s := by
  have hs : s.toNat < 2 ^ 16 := s.toNat_lt
  have hhigh : (highByte s).toNat = s.toNat / 256 := by
    simp only [highByte, UInt16.toNat_toUInt8, UInt16.toNat_shiftRight]
    simp only [show (8 : UInt16).toNat % 16 = 8 from rfl, Nat.shiftRight_eq_div_pow]
    omega
  have hlow : (lowByte s).toNat = s.toNat % 256 := by
    rw [lowByte, UInt16.toNat_toUInt8]
  have hread : (readU16 (highByte s) (lowByte s)).toNat = s.toNat / 256 + 256 * (s.toNat % 256) := by
    simp only [readU16, UInt16.toNat_add, UInt16.toNat_mul, UInt8.toNat_toUInt16, hhigh, hlow]
    simp only [show (256 : UInt16).toNat = 256 from rfl]
    omega
  rw [← UInt16.toNat_inj, hread, ← UInt8.toNat_inj, hhigh, hlow]
  omega

theorem strcpy_text {r : List UInt8} (hr : 0 ∉ r) (rest : List UInt8) :
    strcpy (r ++ rest) = some (r ++ [0]) ↔ rest.head? = some 0 := by
  have hall : ∀ b ∈ r, decide (b ≠ 0) = true := fun b hb => decide_eq_true fun he => hr (he ▸ hb)
  have htake : (r ++ rest).takeWhile (· ≠ 0) = r ++ rest.takeWhile (· ≠ 0) := List.takeWhile_append_of_pos hall
  rw [strcpy, htake]
  cases rest with
  | nil => simp [hr]
  | cons b rest =>
    by_cases hb : b = 0
    · simp [hb]
    · rw [List.takeWhile_cons_of_pos (by simpa using hb)]
      simp [hb]

theorem getCloseInfo_closeFrame (s : UInt16) (r rest : List UInt8) (maxSize : UInt32) :
    getCloseInfo (some (closeFrame s r rest)) maxSize =
      if r.length ≤ maxSize.toNat then
        (strcpy (r ++ rest)).map fun stored =>
          ⟨.noError, readU16 (highByte s) (lowByte s), UInt32.ofNat r.length, stored⟩
      else some ⟨.tooSmall, readU16 (highByte s) (lowByte s), UInt32.ofNat r.length, []⟩ := by
  have hlen : (closeFrame s r rest).length = 2 + r.length := rfl
  have hmem : (closeFrame s r rest).memory = highByte s :: lowByte s :: (r ++ rest) := rfl
  simp only [getCloseInfo, hlen, hmem, Nat.le_add_right, if_true, Nat.add_sub_cancel_left]
  split_ifs
  · cases h : strcpy (r ++ rest) <;> simp [h]
  · simp

/-- **Which close frames are decoded.** -/
theorem getCloseInfo_decodes_iff (s : UInt16) {r : List UInt8} (hr : 0 ∉ r) (rest : List UInt8) (maxSize : UInt32) :
    Decodes s r maxSize (getCloseInfo (some (closeFrame s r rest)) maxSize) ↔
      (r.length < maxSize.toNat ∧ highByte s = lowByte s ∧ rest.head? = some 0) ∨ maxSize.toNat < r.length := by
  rw [getCloseInfo_closeFrame]
  rcases Nat.lt_trichotomy r.length maxSize.toNat with hlt | heq | hgt
  · have hsize : (UInt32.ofNat r.length).toNat = r.length :=
      UInt32.toNat_ofNat_of_lt' (Nat.lt_trans hlt maxSize.toNat_lt)
    rw [if_pos hlt.le, ← readU16_eq_iff, ← strcpy_text hr]
    constructor
    · rintro ⟨info, hinfo, -, h⟩
      rw [if_pos hlt] at h
      obtain ⟨stored, hstored, rfl⟩ := Option.map_eq_some_iff.mp hinfo
      obtain ⟨-, hstatus, htext, -⟩ := h
      exact .inl ⟨hlt, hstatus, htext ▸ hstored⟩
    · rintro (⟨-, hstatus, hstored⟩ | hgt)
      · rw [hstored]
        refine ⟨_, rfl, ?_, ?_⟩
        · rw [List.length_append]
          exact hlt
        · rw [if_pos hlt]
          exact ⟨rfl, hstatus, rfl, hsize⟩
      · omega
  · -- the comparison of the code leaves no room for the terminator
    rw [if_pos heq.le]
    constructor
    · rintro ⟨info, hinfo, -, h⟩
      rw [if_neg (by omega)] at h
      obtain ⟨stored, -, rfl⟩ := Option.map_eq_some_iff.mp hinfo
      cases h.1
    · rintro (⟨hlt, -⟩ | hgt) <;> omega
  · rw [if_neg (by omega)]
    refine ⟨fun _ => .inr hgt, fun _ => ⟨_, rfl, Nat.zero_le _, ?_⟩⟩
    rw [if_neg (by omega)]
    exact ⟨rfl, rfl⟩

/-- A frame whose status is the same read either way, in front of a NUL. -/
theorem getCloseInfo_decodes_palindrome :
    Decodes 0x0404 [0x61] 8 (getCloseInfo (some (closeFrame 0x0404 [0x61] [0])) 8) :=
  (getCloseInfo_decodes_iff 0x0404 (by decide) [0] 8).mpr (by decide)

/-- The frame the server sends to a client it rejects, 1008 with a text, in front of a NUL: its status
is read as 61443. -/
theorem getCloseInfo_policy_violation :
    ¬ ∀ (s : UInt16) (r rest : List UInt8) (maxSize : UInt32), 0 ∉ r →
      Decodes s r maxSize (getCloseInfo (some (closeFrame s r rest)) maxSize) := by
  intro h
  have hframe := h 1008 [0x61] [0] 8 (by decide)
  rw [getCloseInfo_decodes_iff 1008 (by decide)] at hframe
  revert hframe
  decide

example : getCloseInfo (some (closeFrame 1008 [0x61] [0])) 8 = some ⟨.noError, 61443, 1, [0x61, 0]⟩ := by
  decide

end BofWebRpc.WebSocket
