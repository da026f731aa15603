import Droidbox.Ptp.Calls
import Droidbox.Ptp.Collector

/-!
# Droidbox — the parameters of a PTP response

The response case of `__send_request` copies `RESPONSE_LENGTH_MASK(__rbuffer) - HEADER_LEN` bytes
into `*rparams`. The length comes from the device, as the bits of an `int`; nothing compares it
with the 12 bytes of `*rparams` or with what was received.

* **`receiver_rparams`**: up to the response nothing writes `*rparams`.
* **`Arrival.receiveRound_eq`**: the response case is that copy.
* **`Arrival.copiesReceived_iff`**: it copies the parameters that were received exactly when the
  length field is that of the transfer and there are at most three.
-/

namespace Droidbox.Ptp

open LittleEndian Scripted

/-! ## Before the response -/

theorem copyBlock_rparams {s s' : Receiver} {data_len : UInt32} {recv_bytes : Int}
    (h : copyBlock s data_len recv_bytes = .again s') : s'.rparams = s.rparams := by
  unfold copyBlock at h
  split at h
  · cases h
  · dsimp only at h
    split at h <;> cases h <;> rfl

theorem receiveRound_rparams {s s' : Receiver} {r : RecvResult}
    (h : receiveRound s r = .again s') : s'.rparams = s.rparams := by
  rcases receiveRound_cases s r with ⟨data_len, hcopy⟩ | ⟨-, hresponse⟩ | hagain
  · have hkept := copyBlock_rparams (hcopy.symm.trans h)
    exact hkept
  · obtain ⟨q, hq, -⟩ := responseBlock_leave { s with rbuffer := (usbBulkRecv r s.rbuffer).2 }
    rw [hresponse, hq] at h
    cases h
  · rw [hagain] at h
    cases h
    rfl

/-- **Up to the response** nothing writes `*rparams`. -/
theorem receiver_rparams {s s' : Receiver} {used : List RecvResult}
    (h : drive receiveRound s used = .starved s') : s'.rparams = s.rparams :=
  drive_invariant (I := fun t => t.rparams = s.rparams)
    (fun _ _ _ ht hround => (receiveRound_rparams hround).trans ht) rfl h

/-! ## The copy -/

/-- A response arrives in a call that wants its parameters: behind the receives `used` the outer
loop waits, and with `transfer` the receive buffer shows a response container. -/
structure Arrival where
  env : Env
  out : Out
  call : PtpCall
  old : PtpResParams
  used : List RecvResult
  receiver : Receiver
  transfer : Transfer
  takesParams : call.takesParams = true
  rparams : out.rparams = some old
  waits : drive receiveRound (call.start env out) used = .starved receiver
  loop : receiver.loop = .outer
  isResponse : responseTypeMask (usbBulkRecv (.got transfer) receiver.rbuffer).2.bytes
    = ptpContainerTypeResponseBlock

variable (a : Arrival)

/-- The receive buffer when the response is there. -/
def Arrival.view : List UInt8 := overlay a.transfer.bytes a.receiver.rbuffer.bytes

def Arrival.announced : UInt32 := responseLengthMask a.view

/-- The length of the `memcpy`. -/
def Arrival.count : Int := asInt a.announced - 12

/-- The parameters that were received. -/
def Arrival.params : List UInt8 := a.transfer.bytes.drop headerLen

/-- The copy into `*rparams` is one of the parameters that were received, stays inside `*rparams`,
and reads nothing behind the transfer. -/
structure Arrival.CopiesReceived : Prop where
  count : a.count = a.params.length
  fits : a.count ≤ 12
  inside : a.count = 0 ∨ 12 + a.count ≤ a.transfer.bytes.length
  stored : ∃ s h, receiveRound a.receiver (.got a.transfer) = .leave (.ok s)
    ∧ s.rparams = some (a.old.write 0 a.params h)

theorem Arrival.receiver_rparams : a.receiver.rparams = some a.old := by
  rw [Ptp.receiver_rparams a.waits]
  show (if a.call.takesParams then a.out.rparams else none) = some a.old
  rw [a.takesParams, if_pos rfl, a.rparams]

/-- **The response case is the copy** of `count` bytes, undefined where they do not fit. -/
theorem Arrival.receiveRound_eq :
    receiveRound a.receiver (.got a.transfer)
      = if h : 0 ≤ a.count ∧ a.count ≤ 12 then
          .leave (.ok { a.receiver with
            rbuffer := (usbBulkRecv (.got a.transfer) a.receiver.rbuffer).2
            res := a.receiver.res.map fun res => { res with code := responseCodeMask a.view }
            rparams := some (a.old.write 0 ((a.view.drop headerLen).take a.count.toNat)
              (by rw [List.length_take]; omega)) })
        else .leave (.error (.write .rparams 0 a.count)) := by
  have hview : (usbBulkRecv (.got a.transfer) a.receiver.rbuffer).2.bytes = a.view :=
    usbBulkRecv_got_snd _ _
  have hround : receiveRound a.receiver (.got a.transfer)
      = responseBlock { a.receiver with
          rbuffer := (usbBulkRecv (.got a.transfer) a.receiver.rbuffer).2 } := by
    unfold receiveRound
    simp only [a.loop, a.isResponse]
    rfl
  rw [hround]
  unfold responseBlock
  simp only [a.receiver_rparams, hview]
  rfl

/-- The bytes of the copy are those that were received, when it is as long as they are. -/
theorem Arrival.copied (h : a.count = a.params.length) :
    (a.view.drop headerLen).take a.count.toNat = a.params := by
  rw [h, Int.toNat_natCast, Arrival.view, overlay]
  by_cases hlong : headerLen ≤ a.transfer.bytes.length
  · rw [List.drop_append_of_le_length hlong]
    exact List.take_left
  · -- not even the header was received
    have hnone : a.params = [] := List.drop_eq_nil_of_le (Nat.le_of_not_le hlong)
    rw [hnone]
    rfl

/-! ## When the parameters fit -/

/-- The length field is that of the transfer, and of a header where less was received; and there
are at most three parameters. -/
structure Arrival.Announced : Prop where
  length : a.announced.toNat = max headerLen a.transfer.bytes.length
  atMostThree : a.transfer.bytes.length ≤ headerLen + 12

theorem Arrival.count_eq_iff :
    a.count = a.params.length ↔ a.announced.toNat = max headerLen a.transfer.bytes.length := by
  have hle := a.transfer.length_le
  have hmax : max 12 a.transfer.bytes.length < 2147483648 := by omega
  rw [← asInt_eq_iff hmax, Arrival.count, Arrival.params, List.length_drop]
  show _ = ((a.transfer.bytes.length - 12 : Nat) : Int) ↔ _
  omega

theorem Arrival.announced_of_copies (h : a.CopiesReceived) : a.Announced := by
  have hcount := h.count
  have hfits := h.fits
  refine ⟨a.count_eq_iff.mp hcount, ?_⟩
  rw [hcount, Arrival.params, List.length_drop] at hfits
  show a.transfer.bytes.length ≤ 12 + 12
  have hheader : headerLen = 12 := rfl
  omega

theorem Arrival.copies_of_announced (h : a.Announced) : a.CopiesReceived := by
  have hcount := a.count_eq_iff.mpr h.length
  have hthree := h.atMostThree
  have hlength : a.params.length = a.transfer.bytes.length - headerLen := List.length_drop
  have hheader : headerLen = 12 := rfl
  have hfits : 0 ≤ a.count ∧ a.count ≤ 12 := by omega
  refine ⟨hcount, hfits.2, by omega, ?_⟩
  have hround := a.receiveRound_eq
  rw [dif_pos hfits] at hround
  refine ⟨_, by omega, hround, ?_⟩
  simp only [a.copied hcount]

/-- **When the parameters of a response fit**, for any length field and any transfer. -/
theorem Arrival.copiesReceived_iff : a.CopiesReceived ↔ a.Announced :=
  ⟨a.announced_of_copies, a.copies_of_announced⟩

/-- `ptp_get_num_objects` answered by a response with five parameters. -/
def sampleFiveParams : Arrival where
  env := .zero
  out := ⟨none, 0, some ⟨0, 0⟩, some (.zero 12)⟩
  call := .getNumObjects 1 0 0
  old := .zero 12
  used := []
  receiver := (PtpCall.getNumObjects 1 0 0).start .zero ⟨none, 0, some ⟨0, 0⟩, some (.zero 12)⟩
  transfer := ⟨[32, 0, 0, 0, 3, 0, 1, 0x20, 1, 0, 0, 0] ++ le32 1 ++ le32 2 ++ le32 3 ++ le32 4
    ++ le32 5, by decide⟩
  takesParams := rfl
  rparams := rfl
  waits := rfl
  loop := rfl
  isResponse := by decide

theorem sampleFiveParams_not_copied : ¬ sampleFiveParams.CopiesReceived := by
  intro h
  exact absurd (sampleFiveParams.announced_of_copies h).atMostThree (by decide)

end Droidbox.Ptp
