import Droidbox.Adb.Request

/-!
# Droidbox — the common form of the ADB calls

Every `adb_*` operation fills one message and hands it to `__handle_request`, which allocates a
block, sends header and payload, and runs the receive loop. This module proves once what that
comes to:

* **`mallocSize_eq`**: the size of the block.
* **`handleRequest_unallocated`**, **`handleRequest_unbuffered`**: requests that send nothing.
* **`drive_single`**, **`drive_pair`**: the receive loop takes one transfer or two.
* **`handleRequest_undelivered`**, **`handleRequest_delivered`**: a failed send, and the bus
  behind sends that succeed.
-/

namespace Droidbox.Adb

open LittleEndian Scripted

/-! ## Messages of the calls -/

def AdbCall.message : AdbCall → AdbMessage
  | .connect version maxdata system_id =>
    setMessage adbCommandCnxn version maxdata (UInt32.ofNat (strlen system_id)) (some system_id)
  | .stls type version => setMessage adbCommandStls type version 0 (some [])
  | .auth type auth_data auth_len => setMessage adbCommandAuth type 0 auth_len auth_data
  | .openStream local_id destination =>
    setMessage adbCommandOpen local_id 0 (UInt32.ofNat (strlen destination)) (some destination)
  | .ready local_id remote_id => setMessage adbCommandOkay local_id remote_id 0 (some [])
  | .write local_id remote_id payload =>
    setMessage adbCommandWrte local_id remote_id (UInt32.ofNat (strlen payload)) (some payload)
  | .close local_id remote_id => setMessage adbCommandClse local_id remote_id 0 none

theorem AdbCall.exec_eq (dev : AdbDev) (env : Env) (out : Out) (c : AdbCall) :
    c.exec dev env out = handleRequest dev env c.message out := by
  cases c <;> rfl

def AdbMessage.size (msg : AdbMessage) : Nat := msg.header.data_length.toNat

/-- The payload of a message as it is copied into the block. -/
def AdbMessage.body (msg : AdbMessage) : List UInt8 := (msg.payload.getD []).take msg.size

/-- The payload pointer points to as many bytes as the message announces. -/
def AdbMessage.Buffered (msg : AdbMessage) : Prop := msg.size ≤ (msg.payload.getD []).length

/-- The caller of `adb_auth` owes a buffer of `auth_len` bytes. -/
def AdbCall.Buffered : AdbCall → Prop
  | .auth _ (some auth_data) auth_len => auth_len.toNat ≤ auth_data.length
  | _ => True

theorem strlen_le (s : List UInt8) : strlen s ≤ s.length :=
  (List.takeWhile_prefix _).length_le

theorem ofNat_toNat_le (n : Nat) : (UInt32.ofNat n).toNat ≤ n := by
  rw [UInt32.toNat_ofNat']
  exact Nat.mod_le _ _

theorem AdbCall.message_buffered {c : AdbCall} (h : c.Buffered) : c.message.Buffered := by
  have hstring : ∀ s : List UInt8, (UInt32.ofNat (strlen s)).toNat ≤ s.length :=
    fun s => Nat.le_trans (ofNat_toNat_le _) (strlen_le s)
  cases c with
  | connect version maxdata system_id => exact hstring system_id
  | openStream local_id destination => exact hstring destination
  | write local_id remote_id payload => exact hstring payload
  | auth type auth_data auth_len =>
    cases auth_data with
    | none => exact Nat.le_refl 0
    | some auth_data => exact h
  | stls type version => exact Nat.le_refl 0
  | ready local_id remote_id => exact Nat.le_refl 0
  | close local_id remote_id => exact Nat.le_refl 0

variable {dev : AdbDev} {env : Env} {msg : AdbMessage} {out : Out} {bus : Bus}

theorem AdbMessage.Buffered.body_length (h : msg.Buffered) : msg.body.length = msg.size := by
  rw [AdbMessage.body, List.length_take]
  exact Nat.min_eq_left h

/-! ## The block -/

/-- `malloc` serves the request, and the sum of header and payload does not wrap. -/
def AdbMessage.Allocated (env : Env) (msg : AdbMessage) : Prop :=
  env.malloc (mallocSize (adbRequestLen msg.header.data_length)) = true ∧ 24 + msg.size < 2 ^ 32

theorem adbRequestLen_toNat (dl : UInt32) :
    (adbRequestLen dl).toNat = (24 + dl.toNat) % 2 ^ 32 := by
  rw [adbRequestLen, UInt32.toNat_add]
  rfl

/-- **The size `malloc` is asked for**: that of the request below `2 ^ 31`. From there on the `int`
is negative and the size is enormous. -/
theorem mallocSize_eq (w : UInt32) :
    mallocSize w = if w.toNat < 2147483648 then w.toNat else w.toNat + (2 ^ 64 - 2 ^ 32) := by
  have hlt := w.toNat_lt
  rw [mallocSize, asInt_eq]
  split
  · omega
  · omega

theorem mallocSize_of_lt {w : UInt32} (h : w.toNat < 2147483648) : mallocSize w = w.toNat := by
  rw [mallocSize_eq, if_pos h]

theorem le_mallocSize (w : UInt32) : w.toNat ≤ mallocSize w := by
  rw [mallocSize_eq]
  split
  · exact Nat.le_refl _
  · exact Nat.le_add_right _ _

theorem fillMstream_fits {size : Nat} (hb : msg.Buffered) (h : 24 + msg.size ≤ size) :
    fillMstream msg size = .ok (msg.header.bytes ++ msg.body) := by
  have hlen : headerLen = 24 := rfl
  unfold fillMstream
  rw [if_neg (show ¬ size < headerLen from by omega)]
  have hsize : msg.size = msg.header.data_length.toNat := rfl
  by_cases hz : msg.header.data_length = 0
  · have hbody : msg.body = [] := by
      rw [AdbMessage.body, hsize, hz]
      rfl
    rw [if_pos hz, hbody, List.append_nil]
  · rw [if_neg hz]
    have hpos : 0 < msg.size := by
      rw [hsize]
      exact Nat.pos_of_ne_zero fun h0 => hz (UInt32.toNat_inj.mp h0)
    cases hp : msg.payload with
    | none =>
      rw [AdbMessage.Buffered, hp] at hb
      exact absurd hb (Nat.not_le.mpr hpos)
    | some p =>
      rw [AdbMessage.Buffered, hp, Option.getD_some] at hb
      dsimp only
      rw [if_neg (show ¬ size < headerLen + msg.header.data_length.toNat from by omega),
        if_neg (show ¬ p.length < msg.header.data_length.toNat from by omega), AdbMessage.body, hp]
      rfl

theorem AdbMessage.Allocated.fillMstream (h : msg.Allocated env) (hb : msg.Buffered) :
    fillMstream msg (mallocSize (adbRequestLen msg.header.data_length))
      = .ok (msg.header.bytes ++ msg.body) := by
  apply fillMstream_fits hb
  have hlt : 24 + msg.header.data_length.toNat < 2 ^ 32 := h.2
  have hle := le_mallocSize (adbRequestLen msg.header.data_length)
  rw [adbRequestLen_toNat, Nat.mod_eq_of_lt hlt] at hle
  exact hle

/-- Where the sum of header and payload wraps, the block is shorter than the header. -/
theorem fillMstream_wrapped (hwrap : 2 ^ 32 ≤ 24 + msg.size) :
    fillMstream msg (mallocSize (adbRequestLen msg.header.data_length))
      = .error (.write .mstream 0 headerLen) := by
  have hlt := msg.header.data_length.toNat_lt
  have hreq : (adbRequestLen msg.header.data_length).toNat = 24 + msg.size - 2 ^ 32 := by
    rw [adbRequestLen_toNat]
    unfold AdbMessage.size at hwrap ⊢
    omega
  have hsmall : mallocSize (adbRequestLen msg.header.data_length) < headerLen := by
    unfold AdbMessage.size at hreq
    rw [mallocSize_of_lt (by omega), hreq, show headerLen = 24 from rfl]
    omega
  rw [fillMstream, if_pos hsmall]

/-- A payload that is shorter than announced is read past its end. -/
theorem fillMstream_unbuffered (hlt : 24 + msg.size < 2 ^ 32) (hb : ¬ msg.Buffered) :
    ∃ f, fillMstream msg (mallocSize (adbRequestLen msg.header.data_length)) = .error f := by
  unfold AdbMessage.size at hlt
  have hle := le_mallocSize (adbRequestLen msg.header.data_length)
  rw [adbRequestLen_toNat, Nat.mod_eq_of_lt hlt] at hle
  have hshort : (msg.payload.getD []).length < msg.header.data_length.toNat := Nat.not_le.mp hb
  have hlen : headerLen = 24 := rfl
  unfold fillMstream
  rw [if_neg (by omega), if_neg (fun h => by rw [h] at hshort; exact absurd hshort (by simp))]
  cases hp : msg.payload with
  | none => exact ⟨_, rfl⟩
  | some p =>
    rw [hp, Option.getD_some] at hshort
    dsimp only
    rw [if_neg (by omega), if_pos hshort]
    exact ⟨_, rfl⟩

theorem handleRequest_refused (dev : AdbDev) (out : Out) (bus : Bus)
    (hm : env.malloc (mallocSize (adbRequestLen msg.header.data_length)) = false) :
    handleRequest dev env msg out bus = .ok (-1, out) bus := by
  unfold handleRequest
  simp only [hm, if_true]
  rfl

theorem handleRequest_unfilled (dev : AdbDev) (out : Out) (bus : Bus) {f : Fault}
    (hm : env.malloc (mallocSize (adbRequestLen msg.header.data_length)) = true)
    (hfill : fillMstream msg (mallocSize (adbRequestLen msg.header.data_length)) = .error f) :
    handleRequest dev env msg out bus = .error (.fault f) bus := by
  unfold handleRequest
  simp only [hm, hfill, Bool.true_eq_false, if_false]
  rfl

theorem handleRequest_unbuffered (dev : AdbDev) (out : Out) (bus : Bus) (ha : msg.Allocated env)
    (hb : ¬ msg.Buffered) :
    ∃ f, handleRequest dev env msg out bus = .error (.fault f) bus := by
  obtain ⟨f, hfill⟩ := fillMstream_unbuffered ha.2 hb
  exact ⟨f, handleRequest_unfilled dev out bus ha.1 hfill⟩

/-- A request without its block: `-1`, or a header copied past the end of a block that is too
small because the sum of header and payload wrapped. -/
theorem handleRequest_unallocated (dev : AdbDev) (out : Out) (bus : Bus)
    (h : ¬ msg.Allocated env) :
    handleRequest dev env msg out bus = .ok (-1, out) bus
    ∨ 2 ^ 32 ≤ 24 + msg.size
      ∧ handleRequest dev env msg out bus
        = .error (.fault (.write .mstream 0 headerLen)) bus := by
  cases hm : env.malloc (mallocSize (adbRequestLen msg.header.data_length)) with
  | false => exact .inl (handleRequest_refused dev out bus hm)
  | true =>
    -- `malloc` served a size, so it is the sum that is too large
    have hwrap : 2 ^ 32 ≤ 24 + msg.size := Nat.le_of_not_lt fun hlt => h ⟨hm, hlt⟩
    exact .inr ⟨hwrap, handleRequest_unfilled dev out bus hm (fillMstream_wrapped hwrap)⟩

/-! ## The sends -/

/-- The buffers handed to `usb_bulk_send`: no second one for an empty payload. -/
def AdbMessage.buffers (msg : AdbMessage) : List (List UInt8) :=
  if msg.size = 0 then [msg.header.bytes] else [msg.header.bytes, msg.body]

def AdbMessage.sent (dev : AdbDev) (msg : AdbMessage) (bus : Bus) : Bus :=
  msg.buffers.foldl (Bus.afterSend · dev.fd dev.out_endp) bus

def AdbMessage.Delivered (msg : AdbMessage) (bus : Bus) : Prop :=
  ∀ i < msg.buffers.length, bus.sends i ≠ .failed

theorem AdbMessage.sent_recvs (dev : AdbDev) (msg : AdbMessage) (bus : Bus) :
    (msg.sent dev bus).recvs = bus.recvs := by
  unfold AdbMessage.sent AdbMessage.buffers
  split <;> rfl

/-- The sends behind those of a message. -/
theorem AdbMessage.sent_sends (dev : AdbDev) (msg : AdbMessage) (bus : Bus) (i : Nat) :
    (msg.sent dev bus).sends i = bus.sends (i + msg.buffers.length) := by
  unfold AdbMessage.sent AdbMessage.buffers
  split <;> rfl

/-- What `__handle_request` does after the receive loop left. -/
def finish (out : Out) (ret : Int) (s : Receiver) : Except Fault (Int × Out) :=
  if ret < 0 then
    .ok (-1, out)
  else
    match out.data with
    | none => .ok (0, { out with res := s.res })
    | some data =>
      match copyOut s.data data out.len s.res.length with
      | .error f => .error f
      | .ok data => .ok (0, { out with data := some data, res := s.res })

/-- The same on the bus: a copy out of bounds ends the run. -/
def conclude (out : Out) (p : Int × Receiver) : Usb (Int × Out) :=
  match finish out p.1 p.2 with
  | .error f => undefined f
  | .ok reply => pure reply

theorem finalBus_conclude (out : Out) (p : Int × Receiver) (bus : Bus) :
    finalBus (conclude out p bus) = bus := by
  unfold conclude
  cases finish out p.1 p.2 <;> rfl

theorem AdbMessage.Allocated.len (h : msg.Allocated env) :
    (adbRequestLen msg.header.data_length > 0x18 ↔ msg.size ≠ 0)
    ∧ (adbRequestLen msg.header.data_length - 0x18).toNat = msg.size := by
  have hlt : 24 + msg.header.data_length.toNat < 2 ^ 32 := h.2
  have hreq := adbRequestLen_toNat msg.header.data_length
  rw [Nat.mod_eq_of_lt hlt] at hreq
  have h24 : (0x18 : UInt32).toNat = 24 := rfl
  constructor
  · rw [gt_iff_lt, UInt32.lt_iff_toNat_lt, hreq, h24, AdbMessage.size]
    omega
  · rw [UInt32.toNat_sub_of_le _ _ (by rw [UInt32.le_iff_toNat_le, hreq, h24]; omega), hreq, h24,
      AdbMessage.size]
    omega

/-! ### One request -/

/-- What `__send_request` is given: a header and a body, and a length that fits them. -/
structure Framed (msg : AdbMessage) (req : List UInt8) (len : UInt32) : Prop where
  header : req.take headerLen = msg.header.bytes
  body : (req.drop headerLen).take (len - 0x18).toNat = msg.body
  len : len > 0x18 ↔ msg.size ≠ 0

theorem AdbMessage.Allocated.framed (ha : msg.Allocated env) (hb : msg.Buffered) :
    Framed msg (msg.header.bytes ++ msg.body) (adbRequestLen msg.header.data_length) where
  header := List.take_left' msg.header.bytes_length
  body := by
    rw [List.drop_left' msg.header.bytes_length, ha.len.2, ← hb.body_length, List.take_length]
  len := ha.len.1

variable {req : List UInt8} {len : UInt32} {res : AdbRes}

theorem sendRequest_first_failed (hf : Framed msg req len) (h0 : bus.sends 0 = .failed) :
    sendRequest dev req len env res bus
      = .ok (-1, Receiver.start env, res) (bus.afterSend dev.fd dev.out_endp msg.header.bytes) := by
  unfold sendRequest
  rw [hf.header, usb_bind_ok (usbBulkSend_apply _ _ _ bus)]
  simp [h0, SendResult.value]

theorem sendRequest_second_failed (hf : Framed msg req len) (hsize : msg.size ≠ 0)
    (h0 : bus.sends 0 ≠ .failed) (h1 : bus.sends 1 = .failed) :
    sendRequest dev req len env res bus
      = .ok (-1, Receiver.start env, res)
        ((bus.afterSend dev.fd dev.out_endp msg.header.bytes).afterSend dev.fd dev.out_endp
          msg.body) := by
  have hv : ¬ (bus.sends 0).value < 0 := by rwa [SendResult.value_neg]
  unfold sendRequest
  rw [hf.header, usb_bind_ok (usbBulkSend_apply _ _ _ bus)]
  simp only [hv, if_false, hf.len.mpr hsize, if_true, hf.body]
  rw [usb_bind_ok (usbBulkSend_apply _ _ _ _)]
  simp [Bus.afterSend, h1, SendResult.value]

theorem sendRequest_delivered (dev : AdbDev) (env : Env) (res : AdbRes) (hf : Framed msg req len)
    (hd : msg.Delivered bus) :
    sendRequest dev req len env res bus
      = (recvLoop dev.fd dev.in_endp receiveRound (Receiver.start env)
          >>= fun p => pure (if p.1 < 0 then (-1, p.2, res) else (0, p.2, p.2.res)))
        (msg.sent dev bus) := by
  have hround : ∀ p : Int × Receiver, (if p.1 < 0 then pure (-1, p.2, res)
      else pure (0, p.2, p.2.res) : Usb (Int × Receiver × AdbRes))
        = pure (if p.1 < 0 then (-1, p.2, res) else (0, p.2, p.2.res)) := by
    intro p
    split <;> rfl
  unfold sendRequest
  rw [hf.header, usb_bind_ok (usbBulkSend_apply _ _ _ bus)]
  -- one send for an empty payload, two otherwise
  by_cases hsize : msg.size = 0
  · have hbuffers : msg.buffers = [msg.header.bytes] := by
      rw [AdbMessage.buffers, if_pos hsize]
    have hv : ¬ (bus.sends 0).value < 0 := by
      rw [SendResult.value_neg]
      exact hd 0 (by simp [hbuffers])
    have hlen : ¬ len > 0x18 := fun h => hf.len.mp h hsize
    simp only [hv, if_false, hlen, hround, AdbMessage.sent, hbuffers, List.foldl_cons,
      List.foldl_nil]
  · have hbuffers : msg.buffers = [msg.header.bytes, msg.body] := by
      rw [AdbMessage.buffers, if_neg hsize]
    have hv : ¬ (bus.sends 0).value < 0 := by
      rw [SendResult.value_neg]
      exact hd 0 (by simp [hbuffers])
    have hv' : ¬ ((bus.afterSend dev.fd dev.out_endp msg.header.bytes).sends 0).value < 0 := by
      rw [SendResult.value_neg]
      exact hd 1 (by simp [hbuffers])
    simp only [hv, if_false, hf.len.mpr hsize, if_true, hf.body]
    rw [usb_bind_ok (usbBulkSend_apply _ _ _ _)]
    simp only [hv', if_false, hround, AdbMessage.sent, hbuffers, List.foldl_cons, List.foldl_nil]

/-- A request that fails before the receive loop hands the caller's memory back. -/
theorem handleRequest_unsent {bus' : Bus} (ha : msg.Allocated env) (hb : msg.Buffered)
    (hsend : sendRequest dev (msg.header.bytes ++ msg.body) (adbRequestLen msg.header.data_length)
      env out.res bus = .ok (-1, Receiver.start env, out.res) bus') :
    handleRequest dev env msg out bus = .ok (-1, out) bus' := by
  unfold handleRequest
  simp only [ha.1, ha.fillMstream hb, Bool.true_eq_false, if_false]
  rw [usb_bind_ok hsend]
  obtain ⟨data, len, res⟩ := out
  cases data <;> rfl

/-- A message with a failed send: `-1` with the caller's memory untouched and nothing received. -/
theorem handleRequest_undelivered (dev : AdbDev) (hb : msg.Buffered)
    (hd : ¬ msg.Delivered bus) :
    ∃ bus', (∀ env out, msg.Allocated env →
        handleRequest dev env msg out bus = .ok (-1, out) bus')
      ∧ bus'.recvs = bus.recvs
      ∧ ∃ sent : List (List UInt8 × SendResult),
        bus'.trace = bus.trace ++ sent.map (fun p => .send dev.fd dev.out_endp p.1 p.2)
        ∧ ∃ p ∈ sent, p.2 = .failed := by
  by_cases h0 : bus.sends 0 = .failed
  · exact ⟨_, fun env out ha =>
        handleRequest_unsent ha hb (sendRequest_first_failed (ha.framed hb) h0),
      rfl, [(msg.header.bytes, bus.sends 0)], rfl, _, List.mem_singleton_self _, h0⟩
  · -- the header went out, so there is a payload and its send failed
    have hsize : msg.size ≠ 0 := by
      intro hsize
      refine hd fun i hi => ?_
      rw [AdbMessage.buffers, if_pos hsize, List.length_singleton] at hi
      rwa [show i = 0 from by omega]
    have h1 : bus.sends 1 = .failed := by
      by_contra h1
      refine hd fun i hi => ?_
      rw [AdbMessage.buffers, if_neg hsize] at hi
      obtain rfl | rfl : i = 0 ∨ i = 1 := by simp at hi; omega
      · exact h0
      · exact h1
    refine ⟨_, fun env out ha =>
        handleRequest_unsent ha hb (sendRequest_second_failed (ha.framed hb) hsize h0 h1),
      rfl,
      [(msg.header.bytes, bus.sends 0), (msg.body, bus.sends 1)], by simp [Bus.afterSend],
      (msg.body, bus.sends 1), by simp, h1⟩

/-- A message whose sends succeed: the receive loop, then the copy out. -/
theorem handleRequest_delivered (ha : msg.Allocated env) (hb : msg.Buffered)
    (hd : msg.Delivered bus) :
    handleRequest dev env msg out bus
      = (recvLoop dev.fd dev.in_endp receiveRound (Receiver.start env) >>= conclude out)
        (msg.sent dev bus) := by
  have hsend := sendRequest_delivered dev env out.res (ha.framed hb) hd
  unfold handleRequest
  simp only [ha.1, ha.fillMstream hb, Bool.true_eq_false, if_false]
  rw [usb_bind_congr hsend, bind_assoc]
  cases hl : recvLoop dev.fd dev.in_endp receiveRound (Receiver.start env) (msg.sent dev bus) with
  | error e b => rw [usb_bind_error hl, usb_bind_error hl]
  | ok p b =>
    rw [usb_bind_ok hl, usb_bind_ok hl, pure_bind, conclude, finish]
    obtain ⟨data, len, res⟩ := out
    by_cases hret : p.1 < 0
    · cases data <;> simp [hret]
    · cases data with
      | none => simp [hret]
      | some data =>
        cases hc : copyOut p.2.data data len p.2.res.length <;> simp [hret, hc]

/-! ## The receive loop

It leaves on a failed receive, on a first transfer that announces no payload, and on a second
transfer; so it consumes two receives at most. -/

/-- The receive buffer after the first transfer. -/
def Env.view (env : Env) (t : Transfer) : List UInt8 := overlay t.bytes env.rbuffer.bytes

/-- The variables of `__send_request` after the transfers `t :: ts`. -/
structure Holds (env : Env) (t : Transfer) (ts : List Transfer) (s : Receiver) : Prop where
  data : s.data.bytes = overlay (payload (t :: ts)) env.rstream.bytes
  length : s.res.length.toNat = (payload (t :: ts)).length
  code : s.res.code = adbCommandMask (env.view t)

theorem ofNat_transfer_length (t : Transfer) :
    (UInt32.ofNat t.bytes.length).toNat = t.bytes.length := by
  have hle := t.length_le
  exact UInt32.toNat_ofNat_of_lt' (by simp [UInt32.size]; omega)

theorem receiveRound_first (env : Env) (t : Transfer) :
    ∃ s, Holds env t [] s ∧ s.offset = t.bytes.length
      ∧ receiveRound (Receiver.start env) (.got t)
        = if adbDataLenMask (env.view t) ≠ 0 then .again { s with incoming_data := true }
          else .leave (.ok (0, s)) := by
  have hle := t.length_le
  have hview : (usbBulkRecv (.got t) env.rbuffer).2.bytes = env.view t := usbBulkRecv_got_snd _ _
  have htake : (usbBulkRecv (.got t) env.rbuffer).2.bytes.take t.bytes.length = t.bytes := by
    rw [hview, Env.view, take_overlay (Nat.le_refl _), List.take_length]
  have hempty : env.rstream.bytes = overlay [] env.rstream.bytes := rfl
  obtain ⟨data, hcopy, hdata⟩ := copyIn_received hempty htake
    (by simp only [List.length_nil]; omega)
  refine ⟨⟨(usbBulkRecv (.got t) env.rbuffer).2, data, t.bytes.length, false,
    ⟨UInt32.ofNat t.bytes.length, adbCommandMask (env.view t)⟩⟩, ⟨?_, ?_, rfl⟩, rfl, ?_⟩
  · simpa [payload] using hdata
  · simpa [payload] using ofNat_transfer_length t
  · simp only [List.length_nil] at hcopy
    have hpos : ¬ (t.bytes.length : Int) < 0 := by omega
    unfold receiveRound
    simp [Receiver.start, hcopy, hview, hpos]

/-- The second transfer, whatever it is. -/
theorem receiveRound_second {env : Env} {t : Transfer} {s : Receiver} (h : Holds env t [] s)
    (hoffset : s.offset = t.bytes.length) (u : Transfer) :
    ∃ s', Holds env t [u] s'
      ∧ receiveRound { s with incoming_data := true } (.got u) = .leave (.ok (0, s')) := by
  have hle := t.length_le
  have hle' := u.length_le
  have htake : (usbBulkRecv (.got u) s.rbuffer).2.bytes.take u.bytes.length = u.bytes := by
    rw [usbBulkRecv_got_snd, take_overlay (Nat.le_refl _), List.take_length]
  have hpay : payload [t] = t.bytes := by simp [payload]
  have hpair : payload [t, u] = t.bytes ++ u.bytes := by simp [payload]
  obtain ⟨data, hcopy, hdata⟩ := copyIn_received (hpay ▸ h.data) htake (by omega)
  -- two transfers are 1024 bytes at most: no wrap around
  have hlength : (s.res.length + UInt32.ofNat u.bytes.length).toNat
      = t.bytes.length + u.bytes.length := by
    have hfirst := h.length
    rw [hpay] at hfirst
    rw [UInt32.toNat_add, hfirst, ofNat_transfer_length, Nat.mod_eq_of_lt (by omega)]
  refine ⟨{ s with
    rbuffer := (usbBulkRecv (.got u) s.rbuffer).2
    data := data
    incoming_data := true
    res := ⟨s.res.length + UInt32.ofNat u.bytes.length, s.res.code⟩ },
    ⟨by rw [hpair]; exact hdata, by rw [hpair, List.length_append]; exact hlength, h.code⟩, ?_⟩
  have hpos : ¬ (u.bytes.length : Int) < 0 := by omega
  unfold receiveRound
  simp [hoffset, hcopy, hpos]

theorem drive_failed (env : Env) (rest : List RecvResult) :
    drive receiveRound (Receiver.start env) (.failed :: rest)
      = .left (.ok (-1, Receiver.start env)) rest :=
  drive_cons_leave rfl rest

theorem drive_single {env : Env} {t : Transfer} (h : adbDataLenMask (env.view t) = 0)
    (rest : List RecvResult) :
    ∃ s, Holds env t [] s
      ∧ drive receiveRound (Receiver.start env) (.got t :: rest) = .left (.ok (0, s)) rest := by
  obtain ⟨s, hs, -, hround⟩ := receiveRound_first env t
  rw [if_neg (not_not.mpr h)] at hround
  exact ⟨s, hs, drive_cons_leave hround rest⟩

theorem drive_second_failed {env : Env} {t : Transfer} (h : adbDataLenMask (env.view t) ≠ 0)
    (rest : List RecvResult) :
    ∃ s, drive receiveRound (Receiver.start env) (.got t :: .failed :: rest)
      = .left (.ok (-1, s)) rest := by
  obtain ⟨s, -, -, hround⟩ := receiveRound_first env t
  rw [if_pos h] at hround
  exact ⟨_, by rw [drive_cons_again hround, drive_cons_leave rfl]⟩

theorem drive_pair {env : Env} {t : Transfer} (h : adbDataLenMask (env.view t) ≠ 0)
    (u : Transfer) (rest : List RecvResult) :
    ∃ s, Holds env t [u] s
      ∧ drive receiveRound (Receiver.start env) (.got t :: .got u :: rest)
        = .left (.ok (0, s)) rest := by
  obtain ⟨s, hs, hoffset, hround⟩ := receiveRound_first env t
  rw [if_pos h] at hround
  obtain ⟨s', hs', hround'⟩ := receiveRound_second hs hoffset u
  exact ⟨s', hs', by rw [drive_cons_again hround, drive_cons_leave hround']⟩

end Droidbox.Adb
