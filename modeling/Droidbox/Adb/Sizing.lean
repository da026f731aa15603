import Droidbox.Adb.Encoding
import Droidbox.Lib.Walk

/-!
# Droidbox — the size of an ADB request

`__handle_request` computes the sum of header and payload as a `uint32_t`, keeps it in an `int`,
and hands that to `malloc` as a `size_t` and to `__send_request` as a `uint32_t`. A sum of `2 ^ 31`
or more becomes an enormous size and comes back unharmed, but the loops that print the payload
before it is sent count up to it in an `int`; one from `2 ^ 32` on wraps to less than a header.

* **`printsPayload_iff`**: the lengths those loops get to the end of.
* **`AdbCall.sized_iff`**: a call that `malloc` serves has a block for header and payload and sends
  both exactly when the sum is an `int`.
-/

namespace Droidbox.Adb

open LittleEndian Scripted Walk

variable {dev : AdbDev} {env : Env} {out : Out} {c : AdbCall} {bus : Bus}

/-! ## The loops that print the payload -/

/-- `for (int i = HEADER_LEN; i < len; ++i)`: a round in front of the second send. `i` is compared
as a `uint32_t`, and `++i` is undefined where it is the largest `int`. -/
def printRound (len : UInt32) (i : Nat) : Round Nat (Option Unit) :=
  if i < len.toNat then
    if i = 2 ^ 31 - 1 then .leave none else .again (i + 1)
  else
    .leave (some ())

/-- The loop gets to its end. -/
def PrintsPayload (len : UInt32) : Prop :=
  ∃ i, Reaches (printRound len) headerLen i ∧ printRound len i = .leave (some ())

/-- **A payload is printed to its end** exactly when its length is an `int`. -/
theorem printsPayload_iff (len : UInt32) : PrintsPayload len ↔ len.toNat < 2 ^ 31 := by
  constructor
  · rintro ⟨i, hreach, hleave⟩
    -- `i` stays an `int`
    have hint : i < 2 ^ 31 := by
      refine hreach.invariant (I := (· < 2 ^ 31)) (fun i j hi hround => ?_) (by decide)
      unfold printRound at hround
      split at hround
      · split at hround <;> cases hround
        omega
      · cases hround
    unfold printRound at hleave
    split at hleave
    · split at hleave <;> cases hleave
    · omega
  · intro hlt
    have hcount : ∀ i, headerLen ≤ i → i ≤ len.toNat → Reaches (printRound len) headerLen i := by
      intro i hge
      induction i, hge using Nat.le_induction with
      | base => exact fun _ => .refl _ _
      | succ i _ ih =>
        intro hle
        have hround : printRound len i = .again (i + 1) := by
          rw [printRound, if_pos (by omega), if_neg (by omega)]
        exact (ih (Nat.le_of_succ_le hle)).tail hround
    rcases Nat.le_total len.toNat headerLen with hle | hge
    · exact ⟨headerLen, .refl _ _, if_neg (Nat.not_lt.mpr hle)⟩
    · exact ⟨len.toNat, hcount _ hge (Nat.le_refl _), if_neg (Nat.lt_irrefl _)⟩

/-! ## Sizes -/

/-- The length `__handle_request` computes. -/
def AdbCall.requestLen (c : AdbCall) : UInt32 := adbRequestLen c.message.header.data_length

/-- The request got a block for header and payload: it is filled with both, the length passed on
to `__send_request` is the sum of the two, and if the sends succeed all of it is sent, behind the
loops that print it. -/
structure AdbCall.InBlock (dev : AdbDev) (env : Env) (out : Out) (c : AdbCall) (bus : Bus) :
    Prop where
  served : env.malloc (mallocSize c.requestLen) = true
  block : 24 + c.message.size ≤ mallocSize c.requestLen
  length : c.requestLen.toNat = 24 + c.message.size
  filled : fillMstream c.message (mallocSize c.requestLen)
    = .ok (c.message.header.bytes ++ c.message.body)
  body : c.message.body.length = c.message.size
  printed : PrintsPayload c.requestLen
  sent : bus.SendsSucceed → (sentBuffers bus (finalBus (c.exec dev env out bus))).flatten
    = c.message.header.bytes ++ c.message.body

/-- A call returns `-1` with nothing copied and nothing sent, or its request is in its block. -/
def AdbCall.Sized (dev : AdbDev) (env : Env) (out : Out) (c : AdbCall) (bus : Bus) : Prop :=
  env.malloc (mallocSize c.requestLen) = false ∧ c.exec dev env out bus = .ok (-1, out) bus
    ∨ c.InBlock dev env out bus

theorem AdbCall.refused_or_lt (h : c.Sized dev env out bus) :
    env.malloc (mallocSize c.requestLen) = false ∨ 24 + c.message.size < 2 ^ 31 := by
  rcases h with ⟨hrefused, -⟩ | hblock
  · exact .inl hrefused
  · have hlt := (printsPayload_iff _).mp hblock.printed
    rw [hblock.length] at hlt
    exact .inr hlt

theorem AdbCall.sized_of_lt (hb : c.Buffered)
    (h : env.malloc (mallocSize c.requestLen) = false ∨ 24 + c.message.size < 2 ^ 31) :
    c.Sized dev env out bus := by
  have hbuf := AdbCall.message_buffered hb
  cases hm : env.malloc (mallocSize c.requestLen) with
  | false =>
    refine .inl ⟨hm, ?_⟩
    rw [AdbCall.exec_eq]
    exact handleRequest_refused dev out bus hm
  | true =>
    have hint : 24 + c.message.size < 2 ^ 31 := by
      rcases h with hrefused | hlt
      · rw [hm] at hrefused
        cases hrefused
      · exact hlt
    have hlt : 24 + c.message.size < 2 ^ 32 := hint.trans (by decide)
    have ha : c.message.Allocated env := ⟨hm, hlt⟩
    have hlength : c.requestLen.toNat = 24 + c.message.size := by
      rw [AdbCall.requestLen, adbRequestLen_toNat]
      exact Nat.mod_eq_of_lt hlt
    refine .inr
      { served := hm
        block := hlength ▸ le_mallocSize c.requestLen
        length := hlength
        filled := ha.fillMstream hbuf
        body := hbuf.body_length
        printed := (printsPayload_iff _).mpr (hlength ▸ hint)
        sent := fun hsends => ?_ }
    rw [AdbCall.sentBuffers_exec dev env out ha hb hsends, AdbMessage.buffers_flatten hbuf]

/-- **Which requests are sized right**, for any payload length and any allocator. -/
theorem AdbCall.sized_iff (dev : AdbDev) (env : Env) (out : Out) (c : AdbCall) (bus : Bus)
    (hb : c.Buffered) :
    c.Sized dev env out bus
      ↔ env.malloc (mallocSize c.requestLen) = false ∨ 24 + c.message.size < 2 ^ 31 :=
  ⟨AdbCall.refused_or_lt, AdbCall.sized_of_lt hb⟩

/-- `adb_auth` with 20 bytes. -/
theorem auth_sized :
    (AdbCall.auth 3 (some (List.replicate 20 7)) 20).Sized ⟨3, 0x81, 1⟩ .zero ⟨none, 0, ⟨0, 0⟩⟩
      (.answering []) :=
  (AdbCall.sized_iff ⟨3, 0x81, 1⟩ .zero ⟨none, 0, ⟨0, 0⟩⟩
    (.auth 3 (some (List.replicate 20 7)) 20) (.answering []) (show 20 ≤ 20 by decide)).mpr
    (.inr (show 24 + 20 < 2 ^ 31 by decide))

/-- `adb_auth` with so many bytes that the request would have `2 ^ 32`. -/
theorem auth_not_sized :
    (AdbCall.auth 3 (some (List.replicate 4294967272 0)) 4294967272).Buffered
      ∧ ¬ (AdbCall.auth 3 (some (List.replicate 4294967272 0)) 4294967272).Sized ⟨3, 0x81, 1⟩ .zero
        ⟨none, 0, ⟨0, 0⟩⟩ (.answering []) := by
  constructor
  · show 4294967272 ≤ (List.replicate 4294967272 0).length
    rw [List.length_replicate]
  · intro h
    rcases AdbCall.refused_or_lt h with hrefused | hlt
    · cases hrefused
    · exact absurd hlt (show ¬ 24 + 4294967272 < 2 ^ 31 by decide)

end Droidbox.Adb
