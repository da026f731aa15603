import Droidbox.Adb.Message
import Droidbox.Usb.Bulk

/-!
# Droidbox — the ADB request routine

`__send_request` and `__handle_request` of `lib/adb/adb.c`, and the seven `adb_*` operations.

The receive loop calls `usb_bulk_recv` once per round and is a machine with two states, waiting
for a header and waiting for a payload; `receiveRound` is what it does between one receive and
the next. The message is assembled in a block from `malloc`, so the environment of a request says
which sizes `malloc` serves, and a copy past the end of the block is a `Fault`.
-/

namespace Droidbox.Adb

open LittleEndian Scripted

/-! ## Data -/

/-- `struct adb_dev` -/
structure AdbDev where
  fd : Int
  in_endp : Int
  out_endp : Int

/-- `struct adb_res` -/
structure AdbRes where
  length : UInt32
  code : UInt32
  deriving DecidableEq, Repr

/-- What a request finds in its environment: which sizes `malloc` serves, and the uninitialised
arrays `__rbuffer` and `__rstream`. -/
structure Env where
  malloc : Nat → Bool
  rbuffer : Buffer 512
  rstream : Buffer 2048

def Env.zero : Env where
  malloc := fun _ => true
  rbuffer := .zero 512
  rstream := .zero 2048

/-- The pointers a request is given, with what they point to; `data` may be `NULL`. -/
structure Out where
  data : Option (List UInt8)
  len : UInt32
  res : AdbRes

/-! ## The receive loop -/

/-- The variables of `__send_request`. -/
structure Receiver where
  rbuffer : Buffer 512
  data : Buffer 2048
  offset : Nat
  incoming_data : Bool
  res : AdbRes

def Receiver.start (env : Env) : Receiver where
  rbuffer := env.rbuffer
  data := env.rstream
  offset := 0
  incoming_data := false
  res := ⟨0, 0⟩

/-- From one `usb_bulk_recv` to the next: the loop leaves with the value `__send_request` will
return and its variables. -/
def receiveRound (s : Receiver) (r : RecvResult) : Round Receiver (Except Fault (Int × Receiver)) :=
  let (recv_bytes, rbuffer) := usbBulkRecv r s.rbuffer
  let s := { s with rbuffer }
  if recv_bytes < 0 then
    .leave (.ok (-1, s))
  else
    match copyIn s.data s.offset s.rbuffer recv_bytes with
    | .error f => .leave (.error f)
    | .ok data =>
      let length := s.res.length + UInt32.ofNat recv_bytes.toNat
      if s.incoming_data then
        -- the payload transfer: `break`, whatever its length
        .leave (.ok (0, { s with data, res := { s.res with length } }))
      else
        let s := { s with
          data
          offset := s.offset + recv_bytes.toNat
          res := { length, code := adbCommandMask rbuffer.bytes } }
        if adbDataLenMask rbuffer.bytes ≠ 0 then
          .again { s with incoming_data := true }
        else
          .leave (.ok (0, s))

/-! ## The two functions -/

/-- `__send_request`: the return value, the variables, and `*res` afterwards. -/
def sendRequest (dev : AdbDev) (req : List UInt8) (len : UInt32) (env : Env) (res : AdbRes) :
    Usb (Int × Receiver × AdbRes) := do
  let start := Receiver.start env
  let sent_bytes ← usbBulkSend dev.fd dev.out_endp (req.take headerLen)
  if sent_bytes < 0 then
    return (-1, start, res)
  if len > 0x18 then
    let sent_bytes ← usbBulkSend dev.fd dev.out_endp ((req.drop headerLen).take (len - 0x18).toNat)
    if sent_bytes < 0 then
      return (-1, start, res)
  let (ret, s) ← recvLoop dev.fd dev.in_endp receiveRound start
  if ret < 0 then
    return (-1, s, res)
  return (0, s, s.res)

/-- The size `malloc` is asked for: the `int` converted to `size_t`. -/
def mallocSize (bytes_len : UInt32) : Nat := (asInt bytes_len % 2 ^ 64).toNat

/-- The two copies into the block of `size` bytes: the header, then the payload if there is one. -/
def fillMstream (msg : AdbMessage) (size : Nat) : Except Fault (List UInt8) :=
  if size < headerLen then
    .error (.write .mstream 0 headerLen)
  else if msg.header.data_length = 0 then
    .ok msg.header.bytes
  else
    match msg.payload with
    | none => .error .null
    | some payload =>
      if size < headerLen + msg.header.data_length.toNat then
        .error (.write .mstream headerLen msg.header.data_length.toNat)
      else if payload.length < msg.header.data_length.toNat then
        .error (.read .payload 0 msg.header.data_length.toNat)
      else
        .ok (msg.header.bytes ++ payload.take msg.header.data_length.toNat)

/-- `__handle_request` -/
def handleRequest (dev : AdbDev) (env : Env) (msg : AdbMessage) (out : Out) : Usb (Int × Out) := do
  let bytes_len := adbRequestLen msg.header.data_length
  if env.malloc (mallocSize bytes_len) = false then
    return (-1, out)
  match fillMstream msg (mallocSize bytes_len) with
  | .error f => undefined f
  | .ok mstream =>
    let (ret, s, res) ← sendRequest dev mstream bytes_len env out.res
    let out := { out with res }
    match out.data with
    | none => return (ret, out)
    | some data =>
      if ret = 0 then
        match copyOut s.data data out.len res.length with
        | .error f => undefined f
        | .ok data => return (ret, { out with data := some data })
      else
        return (ret, out)

/-! ## The operations -/

section
variable (dev : AdbDev) (env : Env) (out : Out)

def adbConnect (version maxdata : UInt32) (system_id : List UInt8) : Usb (Int × Out) :=
  handleRequest dev env
    (setMessage adbCommandCnxn version maxdata (UInt32.ofNat (strlen system_id)) (some system_id))
    out

def adbStls (type version : UInt32) : Usb (Int × Out) :=
  handleRequest dev env (setMessage adbCommandStls type version 0 (some [])) out

def adbAuth (type : UInt32) (auth_data : Option (List UInt8)) (auth_len : UInt32) :
    Usb (Int × Out) :=
  handleRequest dev env (setMessage adbCommandAuth type 0 auth_len auth_data) out

def adbOpen (local_id : UInt32) (destination : List UInt8) : Usb (Int × Out) :=
  handleRequest dev env
    (setMessage adbCommandOpen local_id 0 (UInt32.ofNat (strlen destination)) (some destination))
    out

def adbReady (local_id remote_id : UInt32) : Usb (Int × Out) :=
  handleRequest dev env (setMessage adbCommandOkay local_id remote_id 0 (some [])) out

def adbWrite (local_id remote_id : UInt32) (payload : List UInt8) : Usb (Int × Out) :=
  handleRequest dev env
    (setMessage adbCommandWrte local_id remote_id (UInt32.ofNat (strlen payload)) (some payload))
    out

def adbClose (local_id remote_id : UInt32) : Usb (Int × Out) :=
  handleRequest dev env (setMessage adbCommandClse local_id remote_id 0 none) out

end

/-! ## Calls -/

/-- The operations with their arguments, the pointers to results apart. -/
inductive AdbCall where
  | connect (version maxdata : UInt32) (system_id : List UInt8)
  | stls (type version : UInt32)
  | auth (type : UInt32) (auth_data : Option (List UInt8)) (auth_len : UInt32)
  | openStream (local_id : UInt32) (destination : List UInt8)
  | ready (local_id remote_id : UInt32)
  | write (local_id remote_id : UInt32) (payload : List UInt8)
  | close (local_id remote_id : UInt32)

def AdbCall.exec (dev : AdbDev) (env : Env) (out : Out) : AdbCall → Usb (Int × Out)
  | .connect version maxdata system_id => adbConnect dev env out version maxdata system_id
  | .stls type version => adbStls dev env out type version
  | .auth type auth_data auth_len => adbAuth dev env out type auth_data auth_len
  | .openStream local_id destination => adbOpen dev env out local_id destination
  | .ready local_id remote_id => adbReady dev env out local_id remote_id
  | .write local_id remote_id payload => adbWrite dev env out local_id remote_id payload
  | .close local_id remote_id => adbClose dev env out local_id remote_id

end Droidbox.Adb
