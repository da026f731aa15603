import Mathlib.Data.List.TakeWhile
import Droidbox.Adb.Delivery

/-!
# Droidbox — what an ADB request says on the wire

The message of a call goes through a macro, a structure with a pointer, a block and two
transfers. Read back from the bytes handed to `usb_bulk_send` it is the call again:

* **`AdbCall.sentBuffers_exec`**: the buffers a call sends, whatever it receives behind them.
* **`AdbCall.decode_message`**: `decodeMessage` accepts header and payload and recovers the call.
* **`AdbCall.encoding_round_trip`**: both together, with the fields of the header.
-/

namespace Droidbox.Adb

open LittleEndian Scripted

/-! ## Requests and their messages -/

inductive AdbOp where
  | connect | stls | auth | openStream | ready | write | close
  deriving DecidableEq, Repr

def AdbOp.command : AdbOp → UInt32
  | .connect => adbCommandCnxn
  | .stls => adbCommandStls
  | .auth => adbCommandAuth
  | .openStream => adbCommandOpen
  | .ready => adbCommandOkay
  | .write => adbCommandWrte
  | .close => adbCommandClse

/-- What a message is about: the operation, its two arguments and its payload. -/
structure AdbRequest where
  op : AdbOp
  arg0 : UInt32
  arg1 : UInt32
  payload : List UInt8
  deriving DecidableEq, Repr

def AdbCall.request : AdbCall → AdbRequest
  | .connect version maxdata system_id => ⟨.connect, version, maxdata, system_id⟩
  | .stls type version => ⟨.stls, type, version, []⟩
  | .auth type auth_data auth_len => ⟨.auth, type, 0, (auth_data.getD []).take auth_len.toNat⟩
  | .openStream local_id destination => ⟨.openStream, local_id, 0, destination⟩
  | .ready local_id remote_id => ⟨.ready, local_id, remote_id, []⟩
  | .write local_id remote_id payload => ⟨.write, local_id, remote_id, payload⟩
  | .close local_id remote_id => ⟨.close, local_id, remote_id, []⟩

/-- The strings of a call hold no NUL, and its buffer is as long as it says. -/
def AdbCall.WellFormed : AdbCall → Prop
  | .connect _ _ s | .openStream _ s | .write _ _ s => ∀ b ∈ s, b ≠ 0
  | .auth _ (some auth_data) auth_len => auth_len.toNat ≤ auth_data.length
  | _ => True

def opOfCommand (command : UInt32) : Option AdbOp :=
  if command = adbCommandCnxn then some .connect
  else if command = adbCommandStls then some .stls
  else if command = adbCommandAuth then some .auth
  else if command = adbCommandOpen then some .openStream
  else if command = adbCommandOkay then some .ready
  else if command = adbCommandWrte then some .write
  else if command = adbCommandClse then some .close
  else none

/-- Read a header, take the payload it announces, check magic and checksum. -/
def decodeMessage (stream : List UInt8) : Option AdbRequest :=
  let data_length := adbDataLenMask stream
  let body := (stream.drop headerLen).take data_length.toNat
  if stream.length < headerLen + data_length.toNat then
    none
  else if word32 stream 20 ≠ adbMagic (adbCommandMask stream) then
    none
  else if word32 stream 16 ≠ checksum body data_length then
    none
  else
    (opOfCommand (adbCommandMask stream)).map fun op =>
      ⟨op, word32 stream 4, word32 stream 8, body⟩

theorem opOfCommand_command (op : AdbOp) : opOfCommand op.command = some op := by
  cases op <;> rfl

theorem AdbCall.WellFormed.buffered {c : AdbCall} (h : c.WellFormed) : c.Buffered := by
  cases c with
  | auth type auth_data auth_len =>
    cases auth_data with
    | none => trivial
    | some auth_data => exact h
  | _ => trivial

theorem strlen_of_forall_ne {s : List UInt8} (h : ∀ b ∈ s, b ≠ 0) : strlen s = s.length := by
  rw [strlen, List.takeWhile_eq_self_iff.mpr fun b hb => decide_eq_true (h b hb)]

/-- A string that is short enough is announced and copied whole. -/
theorem setMessage_string {s : List UInt8} (h : ∀ b ∈ s, b ≠ 0) (hlt : s.length < 2 ^ 31 - 24)
    (cmd arg0 arg1 : UInt32) :
    (setMessage cmd arg0 arg1 (UInt32.ofNat (strlen s)) (some s)).body = s := by
  have hsize : (UInt32.ofNat (strlen s)).toNat = s.length := by
    rw [strlen_of_forall_ne h, UInt32.toNat_ofNat', Nat.mod_eq_of_lt (by omega)]
  simp only [AdbMessage.body, AdbMessage.size, setMessage, Option.isSome_some, if_true,
    Option.getD_some, hsize, List.take_length]

/-- The checksum of a message is that of the bytes it sends. -/
theorem setMessage_crc32 (cmd arg0 arg1 data_len : UInt32) (payload : Option (List UInt8)) :
    (setMessage cmd arg0 arg1 data_len payload).header.data_crc32
      = checksum (setMessage cmd arg0 arg1 data_len payload).body
        (setMessage cmd arg0 arg1 data_len payload).header.data_length := by
  cases payload with
  | none => rfl
  | some p =>
    simp only [setMessage, AdbMessage.body, AdbMessage.size, checksum, Option.isSome_some, if_true,
      Option.getD_some, List.take_take, Nat.min_self]

theorem AdbCall.message_crc32 (c : AdbCall) :
    c.message.header.data_crc32 = checksum c.message.body c.message.header.data_length := by
  cases c <;> exact setMessage_crc32 _ _ _ _ _

theorem AdbCall.message_header (c : AdbCall) :
    c.message.header.command = c.request.op.command ∧ c.message.header.arg0 = c.request.arg0
      ∧ c.message.header.arg1 = c.request.arg1
      ∧ c.message.header.magic = adbMagic c.request.op.command := by
  cases c <;> exact ⟨rfl, rfl, rfl, rfl⟩

theorem AdbCall.message_body {c : AdbCall} (h : c.WellFormed)
    (hlt : c.request.payload.length < 2 ^ 31 - 24) : c.message.body = c.request.payload := by
  cases c with
  | connect version maxdata system_id => exact setMessage_string h hlt _ _ _
  | openStream local_id destination => exact setMessage_string h hlt _ _ _
  | write local_id remote_id payload => exact setMessage_string h hlt _ _ _
  | auth type auth_data auth_len =>
    cases auth_data with
    | none => exact List.take_nil.trans List.take_nil.symm
    | some auth_data => rfl
  | stls type version => rfl
  | ready local_id remote_id => rfl
  | close local_id remote_id => rfl

/-! ## The bytes that are sent -/

def sentData : Event → Option (List UInt8)
  | .send _ _ data _ => some data
  | .recv _ _ _ => none

/-- The buffers handed to `usb_bulk_send` between two states of the bus. -/
def sentBuffers (before after : Bus) : List (List UInt8) :=
  (after.trace.drop before.trace.length).filterMap sentData

theorem filterMap_sends (fd endpoint : Int) (sent : List (List UInt8 × SendResult)) :
    (sent.map fun p => Event.send fd endpoint p.1 p.2).filterMap sentData = sent.map Prod.fst := by
  induction sent with
  | nil => rfl
  | cons p sent ih => simp only [List.map_cons, List.filterMap_cons, sentData, ih]

theorem filterMap_recvs (fd endpoint : Int) (recvs : List RecvResult) :
    (recvs.map (Event.recv fd endpoint)).filterMap sentData = [] := by
  rw [List.filterMap_map]
  exact List.filterMap_eq_nil_iff.mpr fun _ _ => rfl

/-- A call whose block is there and whose sends succeed sends its buffers, whatever it receives. -/
theorem AdbCall.sentBuffers_exec (dev : AdbDev) (env : Env) (out : Out) {c : AdbCall} {bus : Bus}
    (ha : c.message.Allocated env) (hb : c.Buffered) (hsends : bus.SendsSucceed) :
    sentBuffers bus (finalBus (c.exec dev env out bus)) = c.message.buffers := by
  obtain ⟨sent, hbuffers, -, htrace⟩ := c.message.sent_trace dev bus
  -- behind the sends there are only receives, which hand over no buffer
  obtain ⟨rest, hfinal⟩ := finalBus_recvLoop dev.fd dev.in_endp receiveRound (Receiver.start env)
    (c.message.sent dev bus)
  rw [AdbCall.exec_eq, handleRequest_delivered ha (AdbCall.message_buffered hb)
    (fun i _ => hsends i), finalBus_bind (finalBus_conclude out), hfinal, sentBuffers,
    Bus.afterRecvs, htrace, List.append_assoc, List.drop_left, List.filterMap_append,
    filterMap_sends, filterMap_recvs, List.append_nil, hbuffers]

theorem AdbMessage.buffers_flatten {msg : AdbMessage} (hb : msg.Buffered) :
    msg.buffers.flatten = msg.header.bytes ++ msg.body := by
  unfold AdbMessage.buffers
  split
  · rename_i hsize
    have hbody : msg.body = [] := by
      rw [← List.length_eq_zero_iff, hb.body_length, hsize]
    simp [hbody]
  · simp

/-! ## Round trip -/

theorem adbMagic_eq (cmd : UInt32) : adbMagic cmd = ~~~ cmd := by
  rw [adbMagic, ← UInt32.toBitVec_inj, UInt32.toBitVec_xor, UInt32.toBitVec_not]
  exact BitVec.xor_allOnes

/-- **Decoding undoes encoding.** -/
theorem AdbCall.decode_message {c : AdbCall} (h : c.WellFormed)
    (hlt : c.request.payload.length < 2 ^ 31 - 24) :
    decodeMessage (c.message.header.bytes ++ c.message.body) = some c.request := by
  obtain ⟨hcommand, harg0, harg1, hmagic⟩ := c.message_header
  have hlen := (AdbCall.message_buffered h.buffered).body_length
  have hbody := AdbCall.message_body h hlt
  have harg0' := c.message.header.word32_bytes c.message.body (show 1 < 6 from by decide)
  have harg1' := c.message.header.word32_bytes c.message.body (show 2 < 6 from by decide)
  have hcrc' := c.message.header.word32_bytes c.message.body (show 4 < 6 from by decide)
  have hmagic' := c.message.header.word32_bytes c.message.body (show 5 < 6 from by decide)
  simp only [Message.words, List.getElem_cons_succ, List.getElem_cons_zero, Nat.reduceMul]
    at harg0' harg1' hcrc' hmagic'
  have htake : ((c.message.header.bytes ++ c.message.body).drop headerLen).take c.message.size
      = c.message.body := by
    rw [List.drop_left' c.message.header.bytes_length, ← hlen, List.take_length]
  -- the three checks of the decoder pass, in its order
  unfold decodeMessage
  simp only [adbCommandMask_header, adbDataLenMask_header, harg0', harg1', hcrc', hmagic']
  rw [AdbMessage.size] at htake hlen
  rw [htake, if_neg (by simp; omega), if_neg (by rw [hmagic, hcommand]; exact not_not.mpr rfl),
    if_neg (by rw [c.message_crc32]; exact not_not.mpr rfl), hcommand, opOfCommand_command, harg0,
    harg1, hbody]
  rfl

theorem AdbCall.message_size {c : AdbCall} (h : c.WellFormed)
    (hlt : c.request.payload.length < 2 ^ 31 - 24) :
    c.message.size = c.request.payload.length := by
  rw [← AdbCall.message_body h hlt, (AdbCall.message_buffered h.buffered).body_length]

/-- What is sent for `request`, read with the masks of the receive side and with `decodeMessage`. -/
structure Encodes (request : AdbRequest) (sent : List (List UInt8)) : Prop where
  count : sent.length = if request.payload.length = 0 then 1 else 2
  length : sent.flatten.length = 24 + request.payload.length
  command : adbCommandMask sent.flatten = request.op.command
  data_length : (adbDataLenMask sent.flatten).toNat = request.payload.length
  magic : word32 sent.flatten 20 = ~~~ request.op.command
  crc32 : (word32 sent.flatten 16).toNat = (request.payload.map UInt8.toNat).sum % 2 ^ 32
  decoded : decodeMessage sent.flatten = some request

theorem AdbCall.buffers_encode {c : AdbCall} (h : c.WellFormed)
    (hlt : c.request.payload.length < 2 ^ 31 - 24) : Encodes c.request c.message.buffers := by
  have hbuffered := AdbCall.message_buffered h.buffered
  have hsize := AdbCall.message_size h hlt
  have hbody := AdbCall.message_body h hlt
  obtain ⟨hcommand, -, -, hmagic⟩ := c.message_header
  have hstream := AdbMessage.buffers_flatten hbuffered
  constructor
  case count =>
    rw [AdbMessage.buffers, hsize]
    split <;> rfl
  case length =>
    rw [hstream, List.length_append, Message.bytes_length, hbody]
  case command =>
    rw [hstream, adbCommandMask_header, hcommand]
  case data_length =>
    rw [hstream, adbDataLenMask_header]
    exact hsize
  case magic =>
    rw [hstream, c.message.header.word32_bytes _ (show 5 < 6 from by decide)]
    exact hmagic.trans (adbMagic_eq _)
  case crc32 =>
    have hwhole : c.message.header.data_length.toNat = c.message.body.length := by
      rw [hbuffered.body_length, AdbMessage.size]
    rw [hstream, c.message.header.word32_bytes _ (show 4 < 6 from by decide)]
    change c.message.header.data_crc32.toNat = _
    rw [c.message_crc32, checksum_toNat, hwhole, List.take_length, hbody]
  case decoded =>
    rw [hstream, AdbCall.decode_message h hlt]

/-- **The encoding round trip.** With its block allocated and its sends succeeding, a call hands
`usb_bulk_send` the encoding of its own request, whatever the device answers. -/
theorem AdbCall.encoding_round_trip (dev : AdbDev) (env : Env) (out : Out) (c : AdbCall) (bus : Bus)
    (h : c.WellFormed) (hlt : c.request.payload.length < 2 ^ 31 - 24)
    (hmalloc : env.malloc (24 + c.request.payload.length) = true) (hsends : bus.SendsSucceed) :
    Encodes c.request (sentBuffers bus (finalBus (c.exec dev env out bus))) := by
  have hsize := AdbCall.message_size h hlt
  have ha : c.message.Allocated env := by
    rw [AdbMessage.allocated_of_lt (by rwa [hsize]), hsize]
    exact hmalloc
  rw [AdbCall.sentBuffers_exec dev env out ha h.buffered hsends]
  exact AdbCall.buffers_encode h hlt

/-- `adb_write` of two bytes, whose sends are read back though no answer comes. -/
theorem write_round_trip :
    Encodes ⟨.write, 1, 2, [0x68, 0x69]⟩
      (sentBuffers (.answering [])
        (finalBus ((AdbCall.write 1 2 [0x68, 0x69]).exec ⟨3, 0x81, 1⟩ .zero ⟨none, 0, ⟨0, 0⟩⟩
          (.answering [])))) :=
  AdbCall.encoding_round_trip ⟨3, 0x81, 1⟩ .zero ⟨none, 0, ⟨0, 0⟩⟩ (.write 1 2 [0x68, 0x69]) _
    (by simp [AdbCall.WellFormed]) (by decide) rfl (Bus.answering_sendsSucceed _)

end Droidbox.Adb
