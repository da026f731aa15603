import Droidbox.Ptp.Container
import Droidbox.Usb.Bulk

/-!
# Droidbox — the PTP request routine

`__send_request` and `__handle_request` of `lib/ptp/ptp.c`, the two functions every `ptp_*`
operation goes through.

The two nested loops of `__send_request` call `usb_bulk_recv` once per round, so they are one
state machine over the receives: `Loop` says which of the two loops the code is in, `Receiver`
holds the variables they share, and `receiveRound` is what the code does between one receive and
the next. Its branches are named after the source: `copyBlock` is the body of the inner
`while (1)`, `responseBlock` the `PTP_CONTAINER_TYPE_RESPONSE_BLOCK` case.
-/

namespace Droidbox.Ptp

open LittleEndian Scripted

/-! ## Data -/

/-- `struct ptp_dev` -/
structure PtpDev where
  fd : Int
  endp : Int

/-- `struct ptp_res` -/
structure PtpRes where
  length : UInt32
  code : UInt16
  deriving DecidableEq, Repr

/-- The memory of a `struct ptp_res_params`: three 32-bit words. -/
abbrev PtpResParams := Buffer 12

/-- `next_phase` -/
inductive NextPhase where
  | response
  | data
  | event
  deriving DecidableEq, Repr

/-- What a request finds on its stack: the uninitialised arrays `__rbuffer` and `__rstream`, and
the bytes that follow the container structure it was given. -/
structure Frame where
  rbuffer : Buffer 512
  rstream : Buffer 2048
  beyond : Nat → UInt8

def Frame.zero : Frame where
  rbuffer := .zero 512
  rstream := .zero 2048
  beyond := fun _ => 0

/-- The pointers a request is given, with what they point to; `none` is `NULL`. -/
structure Out where
  data : Option (List UInt8)
  len : UInt32
  res : Option PtpRes
  rparams : Option PtpResParams

/-! ## The receive loops -/

/-- Which loop waits for the next receive: `while (!res_block)`, or the `while (1)` of a data
container with `data_len` still to come (the 32 bits of the `int`). -/
inductive Loop where
  | outer
  | inner (data_len : UInt32)
  deriving DecidableEq, Repr

/-- The variables of `__send_request` and what its pointers point to. -/
structure Receiver where
  loop : Loop
  rbuffer : Buffer 512
  data : Buffer 2048
  offset : Nat
  res : Option PtpRes
  rparams : Option PtpResParams

/-- `memcpy(data + offset, __rbuffer, recv_bytes)` and the updates behind it. -/
def copyBlock (s : Receiver) (data_len : UInt32) (recv_bytes : Int) :
    Round Receiver (Except Fault Receiver) :=
  match copyIn s.data s.offset s.rbuffer recv_bytes with
  | .error f => .leave (.error f)
  | .ok data =>
    -- wraps around when the transfer is longer than the container
    let data_len := data_len - UInt32.ofNat recv_bytes.toNat
    let offset := s.offset + recv_bytes.toNat
    if data_len = 0 then
      .again { s with
        loop := .outer, data, offset
        res := s.res.map fun res => { res with length := responseLengthMask data.bytes } }
    else
      .again { s with loop := .inner data_len, data, offset }

/-- The response case: store the code, copy `RESPONSE_LENGTH_MASK(__rbuffer) - HEADER_LEN` bytes
of parameters into the 12 bytes of `*rparams`, set `res_block`. -/
def responseBlock (s : Receiver) : Round Receiver (Except Fault Receiver) :=
  let res := s.res.map fun res => { res with code := responseCodeMask s.rbuffer.bytes }
  match s.rparams with
  | none => .leave (.ok { s with res })
  | some rparams =>
    let count := asInt (responseLengthMask s.rbuffer.bytes) - 12
    if h : 0 ≤ count ∧ count ≤ 12 then
      let rparams := rparams.write 0 ((s.rbuffer.bytes.drop headerLen).take count.toNat)
        (by rw [List.length_take]; omega)
      .leave (.ok { s with res, rparams := some rparams })
    else
      .leave (.error (.write .rparams 0 count))

/-- From one `usb_bulk_recv` to the next. -/
def receiveRound (s : Receiver) (r : RecvResult) : Round Receiver (Except Fault Receiver) :=
  let (recv_bytes, rbuffer) := usbBulkRecv r s.rbuffer
  let s := { s with rbuffer }
  match s.loop with
  | .outer =>
    let data_len := responseLengthMask rbuffer.bytes
    -- the type is read whether or not the receive delivered anything
    if responseTypeMask rbuffer.bytes = ptpContainerTypeDataBlock then
      copyBlock s data_len recv_bytes
    else if responseTypeMask rbuffer.bytes = ptpContainerTypeResponseBlock then
      responseBlock s
    else
      -- an event container, say: wait for the next one
      .again s
  | .inner data_len => copyBlock s data_len recv_bytes

/-- What one round is: a copy, the response case, or nothing. -/
theorem receiveRound_cases (s : Receiver) (r : RecvResult) :
    (∃ data_len, receiveRound s r
      = copyBlock { s with rbuffer := (usbBulkRecv r s.rbuffer).2 } data_len
          (usbBulkRecv r s.rbuffer).1)
    ∨ (responseTypeMask (usbBulkRecv r s.rbuffer).2.bytes = ptpContainerTypeResponseBlock
      ∧ receiveRound s r = responseBlock { s with rbuffer := (usbBulkRecv r s.rbuffer).2 })
    ∨ receiveRound s r = .again { s with rbuffer := (usbBulkRecv r s.rbuffer).2 } := by
  unfold receiveRound
  dsimp only
  split
  · split
    · exact .inl ⟨_, rfl⟩
    · split
      · rename_i htype
        exact .inr (.inl ⟨htype, rfl⟩)
      · exact .inr (.inr rfl)
  · exact .inl ⟨_, rfl⟩

/-- The variables when the receive loop is entered. -/
def Receiver.start (frame : Frame) (res : Option PtpRes) (rparams : Option PtpResParams) :
    Receiver where
  loop := .outer
  rbuffer := frame.rbuffer
  data := frame.rstream
  offset := 0
  res := res
  rparams := rparams

/-! ## The two functions -/

/-- `__send_request`: the return value, and the variables its pointers reach afterwards. -/
def sendRequest (fd endpoint : Int) (req : List UInt8) (frame : Frame) (res : Option PtpRes)
    (rparams : Option PtpResParams) (next_phase : NextPhase) : Usb (Int × Receiver) := do
  let start := Receiver.start frame res rparams
  let sent_bytes ← usbBulkSend fd endpoint req
  if sent_bytes < 0 then
    return (-1, start)
  -- the command of a two-phase operation is not answered yet
  if next_phase ≠ .data then
    let s ← recvLoop fd endpoint receiveRound start
    return (0, s)
  return (0, start)

/-- `n` bytes read from the address of a structure: its own bytes, then what lies behind it. -/
def memoryAt (object : List UInt8) (beyond : Nat → UInt8) (n : Nat) : List UInt8 :=
  object.take n ++ (List.range (n - object.length)).map beyond

/-- The final copy of `__handle_request`, which reads `res->length` first. -/
def copyResponse (rstream : Buffer 2048) (data : List UInt8) (len : UInt32) :
    Option PtpRes → Except Fault (List UInt8)
  | none => .error .null
  | some res => copyOut rstream data len res.length

/-- `__handle_request` on a container structure made of `header` and the bytes `body`. -/
def handleRequest (fd endpoint : Int) (header : PtpHeader) (body : List UInt8) (frame : Frame)
    (out : Out) (next_phase : NextPhase) : Usb (Int × Out) := do
  let req := memoryAt (header.bytes ++ body) frame.beyond header.contaierLength.toNat
  let (ret, s) ← sendRequest fd endpoint req frame out.res out.rparams next_phase
  let out := { out with res := s.res, rparams := s.rparams }
  match out.data with
  | none => return (ret, out)
  | some data =>
    if ret = 0 then
      match copyResponse s.data data out.len s.res with
      | .error f => undefined f
      | .ok data => return (ret, { out with data := some data })
    else
      return (ret, out)

end Droidbox.Ptp
