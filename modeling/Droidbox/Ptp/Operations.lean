import Droidbox.Ptp.Request

/-!
# Droidbox — the PTP operations

The `ptp_*` functions of `lib/ptp/ptp.c`. They are near copies of each other: each fills a
command container and hands it to `__handle_request`. `headerRequest` is the shape of those that
use a bare `struct ptp_header`, `cmdRequest` of those that use a `struct ptp_cmd_container`;
every operation keeps its own definition, with its opcode, parameter count and parameter order.
The two operations with a second phase, `ptp_send_object_info` and `ptp_send_object`, have
bodies of their own.

`PtpCall` names the 27 operations that send a command, with their arguments, and `PtpCall.exec`
executes one on the caller's memory. `Ptp/Calls.lean` brings the calls to a common form.
-/

namespace Droidbox.Ptp

open LittleEndian

/-! ## Environment -/

/-- `RAND_MAX` -/
abbrev randMax : Nat := 2147483647

/-- `__get_transaction_id`, for the value `rand()` returned. -/
def getTransactionId (rand : Nat) : UInt32 := UInt32.ofNat (1 + rand % (randMax - 1))

/-- What an operation finds in its environment: the value of `rand()`, the stacks of its command
request and of its data request, and the address of its local `struct object_info2`. -/
structure Env where
  rand : Nat
  command : Frame
  data : Frame
  oi2 : UInt64

/-- An environment whose memory is zero. -/
def Env.zero : Env where
  rand := 0
  command := Frame.zero
  data := Frame.zero
  oi2 := 0

/-- `struct object_info`; a `char*` is the string it points to, without its NUL. -/
structure ObjectInfo where
  storageID : UInt32
  objectFormat : UInt16
  protectionStatus : UInt16
  objectCompressedSize : UInt32
  thumbFormat : UInt16
  thumbCompressedSize : UInt32
  thumbPixWidth : UInt32
  thumbPixHeight : UInt32
  imagePixWidth : UInt32
  imagePixHeight : UInt32
  imageBitDepth : UInt32
  parentObject : UInt32
  associationType : UInt16
  associationDesc : UInt32
  sequenceNumber : UInt32
  filename : List UInt8
  captureDate : List UInt8
  modificationDate : List UInt8
  keywords : List UInt8

/-- `sizeof(struct object_info2)` -/
abbrev sizeofObjectInfo2 : UInt32 := 64

/-! ## The two shapes of a single-phase operation -/

def headerRequest (dev : PtpDev) (env : Env) (code : UInt16) (out : Out) : Usb (Int × Out) :=
  handleRequest dev.fd dev.endp
    { contaierLength := ptpRequestLen 0
      containerType := ptpContainerTypeCommandBlock
      code
      transacionID := getTransactionId env.rand }
    [] env.command out .response

def cmdRequest (dev : PtpDev) (env : Env) (nparams : UInt32) (code : UInt16)
    (transacionID : UInt32) (payload : PtpCmdPayload) (out : Out) : Usb (Int × Out) :=
  handleRequest dev.fd dev.endp
    { contaierLength := ptpRequestLen nparams
      containerType := ptpContainerTypeCommandBlock
      code
      transacionID }
    payload.bytes env.command out .response

/-! ## The operations -/

section
variable (dev : PtpDev) (env : Env) (data : Option (List UInt8)) (len : UInt32)
  (res : Option PtpRes) (rparams : Option PtpResParams)

def ptpGetDeviceInfo : Usb (Int × Out) :=
  headerRequest dev env ptpRequestGetDeviceInfo ⟨data, len, res, none⟩

def ptpOpenSession (session_id : UInt32) : Usb (Int × Out) :=
  cmdRequest dev env 1 ptpRequestOpenSession 0x00000000 { parameter1 := session_id }
    ⟨none, 0, res, none⟩

def ptpCloseSession : Usb (Int × Out) :=
  headerRequest dev env ptpRequestCloseSession ⟨none, 0, res, none⟩

def ptpGetStorageId : Usb (Int × Out) :=
  headerRequest dev env ptpRequestGetStorageId ⟨data, len, res, none⟩

def ptpGetStorageInfo (storage_id : UInt32) : Usb (Int × Out) :=
  cmdRequest dev env 1 ptpRequestGetStorageInfo (getTransactionId env.rand)
    { parameter1 := storage_id } ⟨data, len, res, none⟩

def ptpGetNumObjects (storage_id object_format_code object_handle : UInt32) : Usb (Int × Out) :=
  cmdRequest dev env 3 ptpRequestGetNumObjects (getTransactionId env.rand)
    { parameter1 := storage_id, parameter2 := object_format_code, parameter3 := object_handle }
    ⟨none, 0, res, rparams⟩

def ptpGetObjectHandles (storage_id object_format_code object_handle : UInt32) :
    Usb (Int × Out) :=
  cmdRequest dev env 3 ptpRequestGetObjectHandles (getTransactionId env.rand)
    { parameter1 := storage_id, parameter2 := object_format_code, parameter3 := object_handle }
    ⟨data, len, res, none⟩

def ptpGetObjectInfo (object_handle : UInt32) : Usb (Int × Out) :=
  cmdRequest dev env 1 ptpRequestGetObjectInfo (getTransactionId env.rand)
    { parameter1 := object_handle } ⟨data, len, res, none⟩

def ptpGetObject (object_handle : UInt32) : Usb (Int × Out) :=
  cmdRequest dev env 1 ptpRequestGetObject (getTransactionId env.rand)
    { parameter1 := object_handle } ⟨data, len, res, none⟩

def ptpGetThumb (object_handle : UInt32) : Usb (Int × Out) :=
  cmdRequest dev env 1 ptpRequestGetThumb (getTransactionId env.rand)
    { parameter1 := object_handle } ⟨data, len, res, none⟩

def ptpDeleteObject (object_handle object_format_code : UInt32) : Usb (Int × Out) :=
  cmdRequest dev env 2 ptpRequestDeleteObject (getTransactionId env.rand)
    { parameter1 := object_handle, parameter2 := object_format_code } ⟨data, len, res, none⟩

/-- The data container announces `sizeof(struct object_info2)` bytes of payload and holds the
address of a zeroed local structure; `obj_info` and `len` are not read. -/
def ptpSendObjectInfo (storage_id object_handle : UInt32) (_obj_info : ObjectInfo)
    (_len : UInt32) : Usb (Int × Out) := do
  let transaction_id := getTransactionId env.rand
  let (ret, out) ← handleRequest dev.fd dev.endp
    { contaierLength := ptpRequestLen 2
      containerType := ptpContainerTypeCommandBlock
      code := ptpRequestSendObjectInfo
      transacionID := transaction_id }
    (PtpCmdPayload.bytes { parameter1 := storage_id, parameter2 := object_handle })
    env.command ⟨none, 0, none, rparams⟩ .data
  -- `res` was not given to the first request, so it is as it was
  if ret < 0 then
    return (-1, ⟨none, 0, res, out.rparams⟩)
  handleRequest dev.fd dev.endp
    { contaierLength := ptpDataRequestLen sizeofObjectInfo2
      containerType := ptpContainerTypeDataBlock
      code := ptpRequestSendObjectInfo
      transacionID := transaction_id }
    (le64 env.oi2) env.data ⟨none, 0, res, out.rparams⟩ .response

/-- The data container announces `len` bytes of payload and holds the address of a zeroed local
structure; `object` is not read. -/
def ptpSendObject (_object : List UInt8) (len : UInt32) : Usb (Int × Out) := do
  let transaction_id := getTransactionId env.rand
  let (ret, _) ← handleRequest dev.fd dev.endp
    { contaierLength := ptpRequestLen 0
      containerType := ptpContainerTypeCommandBlock
      code := ptpRequestSendObject
      transacionID := transaction_id }
    (PtpCmdPayload.bytes {}) env.command ⟨none, 0, none, none⟩ .data
  if ret ≠ 0 then
    return (-1, ⟨none, 0, res, none⟩)
  handleRequest dev.fd dev.endp
    { contaierLength := ptpDataRequestLen len
      containerType := ptpContainerTypeDataBlock
      code := ptpRequestSendObject
      transacionID := transaction_id }
    (le64 env.oi2) env.data ⟨none, 0, res, none⟩ .response

/-- A stub in the source: nothing is sent. -/
def ptpInitiateCapture (_storage_id _object_format_code : UInt32) : Usb (Int × Out) :=
  return (0, ⟨none, 0, res, none⟩)

/-- The opcode is the source's: `PTP_REQUEST_DELETE_OBJECT`. -/
def ptpFormatStore (storage_id fs_format : UInt32) : Usb (Int × Out) :=
  cmdRequest dev env 2 ptpRequestDeleteObject (getTransactionId env.rand)
    { parameter1 := storage_id, parameter2 := fs_format } ⟨none, 0, res, none⟩

def ptpResetDevice : Usb (Int × Out) :=
  headerRequest dev env ptpRequestResetDevice ⟨none, 0, res, none⟩

def ptpSelfTest (self_test_type : UInt32) : Usb (Int × Out) :=
  cmdRequest dev env 1 ptpRequestSelfTest (getTransactionId env.rand)
    { parameter1 := self_test_type } ⟨none, 0, res, none⟩

def ptpSetObjectProtection (object_handle protection_status : UInt32) : Usb (Int × Out) :=
  cmdRequest dev env 2 ptpRequestSetObjectProtection (getTransactionId env.rand)
    { parameter1 := object_handle, parameter2 := protection_status } ⟨none, 0, res, none⟩

def ptpPowerDown : Usb (Int × Out) :=
  headerRequest dev env ptpRequestPowerDown ⟨none, 0, res, none⟩

def ptpGetDevicePropDesc (device_prop_code : UInt32) : Usb (Int × Out) :=
  cmdRequest dev env 1 ptpRequestGetDevicePropDesc (getTransactionId env.rand)
    { parameter1 := device_prop_code } ⟨data, len, res, none⟩

def ptpGetDevicePropValue (device_prop_code : UInt32) : Usb (Int × Out) :=
  cmdRequest dev env 1 ptpRequestGetDevicePropValue (getTransactionId env.rand)
    { parameter1 := device_prop_code } ⟨data, len, res, none⟩

def ptpSetDevicePropValue (device_prop_code : UInt32) : Usb (Int × Out) :=
  cmdRequest dev env 1 ptpRequestSetDevicePropValue (getTransactionId env.rand)
    { parameter1 := device_prop_code } ⟨data, len, res, none⟩

def ptpResetDevicePropValue (device_prop_code : UInt32) : Usb (Int × Out) :=
  cmdRequest dev env 1 ptpRequestResetDevicePropValue (getTransactionId env.rand)
    { parameter1 := device_prop_code } ⟨none, 0, res, none⟩

def ptpTerminateOpenCapture (transaction_id : UInt32) : Usb (Int × Out) :=
  cmdRequest dev env 1 ptpRequestTerminateOpenCapture (getTransactionId env.rand)
    { parameter1 := transaction_id } ⟨none, 0, res, none⟩

def ptpMoveObject (storage_id object_handle object_handle_parent : UInt32) : Usb (Int × Out) :=
  cmdRequest dev env 3 ptpRequestMoveObject (getTransactionId env.rand)
    { parameter1 := object_handle, parameter2 := storage_id, parameter3 := object_handle_parent }
    ⟨none, 0, res, none⟩

def ptpCopyObject (storage_id object_handle object_handle_parent : UInt32) : Usb (Int × Out) :=
  cmdRequest dev env 3 ptpRequestCopyObject (getTransactionId env.rand)
    { parameter1 := object_handle, parameter2 := storage_id, parameter3 := object_handle_parent }
    ⟨none, 0, res, rparams⟩

def ptpGetPartialObject (object_handle offset max_bytes : UInt32) : Usb (Int × Out) :=
  cmdRequest dev env 3 ptpRequestGetPartialObject (getTransactionId env.rand)
    { parameter1 := object_handle, parameter2 := offset, parameter3 := max_bytes }
    ⟨data, len, res, rparams⟩

def ptpInitiateOpenCapture (storage_id object_format_code : UInt32) : Usb (Int × Out) :=
  cmdRequest dev env 2 ptpRequestInitialOpenCapture (getTransactionId env.rand)
    { parameter1 := storage_id, parameter2 := object_format_code } ⟨none, 0, res, none⟩

end

/-! ## Calls -/

/-- The operations that send a command, with the arguments that are not pointers to results. -/
inductive PtpCall where
  | getDeviceInfo
  | openSession (session_id : UInt32)
  | closeSession
  | getStorageId
  | getStorageInfo (storage_id : UInt32)
  | getNumObjects (storage_id object_format_code object_handle : UInt32)
  | getObjectHandles (storage_id object_format_code object_handle : UInt32)
  | getObjectInfo (object_handle : UInt32)
  | getObject (object_handle : UInt32)
  | getThumb (object_handle : UInt32)
  | deleteObject (object_handle object_format_code : UInt32)
  | sendObjectInfo (storage_id object_handle : UInt32) (obj_info : ObjectInfo) (len : UInt32)
  | sendObject (object : List UInt8) (len : UInt32)
  | formatStore (storage_id fs_format : UInt32)
  | resetDevice
  | selfTest (self_test_type : UInt32)
  | setObjectProtection (object_handle protection_status : UInt32)
  | powerDown
  | getDevicePropDesc (device_prop_code : UInt32)
  | getDevicePropValue (device_prop_code : UInt32)
  | setDevicePropValue (device_prop_code : UInt32)
  | resetDevicePropValue (device_prop_code : UInt32)
  | terminateOpenCapture (transaction_id : UInt32)
  | moveObject (storage_id object_handle object_handle_parent : UInt32)
  | copyObject (storage_id object_handle object_handle_parent : UInt32)
  | getPartialObject (object_handle offset max_bytes : UInt32)
  | initiateOpenCapture (storage_id object_format_code : UInt32)

/-- The caller's memory after an operation that was given some of its pointers. -/
def Out.merge (out : Out) (reply : Int × Out) : Int × Out :=
  (reply.1,
    { data := reply.2.data <|> out.data
      len := out.len
      res := reply.2.res
      rparams := reply.2.rparams <|> out.rparams })

/-- The operation a call names. -/
def PtpCall.run (dev : PtpDev) (env : Env) (out : Out) : PtpCall → Usb (Int × Out)
  | .getDeviceInfo => ptpGetDeviceInfo dev env out.data out.len out.res
  | .openSession session_id => ptpOpenSession dev env out.res session_id
  | .closeSession => ptpCloseSession dev env out.res
  | .getStorageId => ptpGetStorageId dev env out.data out.len out.res
  | .getStorageInfo storage_id => ptpGetStorageInfo dev env out.data out.len out.res storage_id
  | .getNumObjects storage_id object_format_code object_handle =>
    ptpGetNumObjects dev env out.res out.rparams storage_id object_format_code object_handle
  | .getObjectHandles storage_id object_format_code object_handle =>
    ptpGetObjectHandles dev env out.data out.len out.res storage_id object_format_code
      object_handle
  | .getObjectInfo object_handle =>
    ptpGetObjectInfo dev env out.data out.len out.res object_handle
  | .getObject object_handle => ptpGetObject dev env out.data out.len out.res object_handle
  | .getThumb object_handle => ptpGetThumb dev env out.data out.len out.res object_handle
  | .deleteObject object_handle object_format_code =>
    ptpDeleteObject dev env out.data out.len out.res object_handle object_format_code
  | .sendObjectInfo storage_id object_handle obj_info len =>
    ptpSendObjectInfo dev env out.res out.rparams storage_id object_handle obj_info len
  | .sendObject object len => ptpSendObject dev env out.res object len
  | .formatStore storage_id fs_format => ptpFormatStore dev env out.res storage_id fs_format
  | .resetDevice => ptpResetDevice dev env out.res
  | .selfTest self_test_type => ptpSelfTest dev env out.res self_test_type
  | .setObjectProtection object_handle protection_status =>
    ptpSetObjectProtection dev env out.res object_handle protection_status
  | .powerDown => ptpPowerDown dev env out.res
  | .getDevicePropDesc device_prop_code =>
    ptpGetDevicePropDesc dev env out.data out.len out.res device_prop_code
  | .getDevicePropValue device_prop_code =>
    ptpGetDevicePropValue dev env out.data out.len out.res device_prop_code
  | .setDevicePropValue device_prop_code =>
    ptpSetDevicePropValue dev env out.data out.len out.res device_prop_code
  | .resetDevicePropValue device_prop_code =>
    ptpResetDevicePropValue dev env out.res device_prop_code
  | .terminateOpenCapture transaction_id =>
    ptpTerminateOpenCapture dev env out.res transaction_id
  | .moveObject storage_id object_handle object_handle_parent =>
    ptpMoveObject dev env out.res storage_id object_handle object_handle_parent
  | .copyObject storage_id object_handle object_handle_parent =>
    ptpCopyObject dev env out.res out.rparams storage_id object_handle object_handle_parent
  | .getPartialObject object_handle offset max_bytes =>
    ptpGetPartialObject dev env out.data out.len out.res out.rparams object_handle offset
      max_bytes
  | .initiateOpenCapture storage_id object_format_code =>
    ptpInitiateOpenCapture dev env out.res storage_id object_format_code

/-- Execute a call with the pointers `out`: its return value and the caller's memory after it. -/
def PtpCall.exec (dev : PtpDev) (env : Env) (out : Out) (c : PtpCall) : Usb (Int × Out) := do
  let reply ← c.run dev env out
  return out.merge reply

end Droidbox.Ptp
