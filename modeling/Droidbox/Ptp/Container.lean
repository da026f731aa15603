import Droidbox.Lib.Bytes

/-!
# Droidbox — PTP containers

The constants and packed structures of `lib/ptp/ptp.c` and `lib/ptp/ptp.h`, as the bytes they
are in memory on a little-endian host with 64-bit pointers, and the masks that read fields back
out of a received container.

The field names keep the source's spelling.
-/

namespace Droidbox.Ptp

open LittleEndian

/-! ## Constants -/

/-- `HEADER_LEN` -/
abbrev headerLen : Nat := 12

/-- `RESPONSE_BUFFER_LEN` -/
abbrev responseBufferLen : Nat := 2048

/-- `PTP_REQUEST_LEN(nparams)` -/
def ptpRequestLen (nparams : UInt32) : UInt32 := 0x0C + nparams * 0x04

/-- `PTP_DATA_REQUEST_LEN(payload_len)` -/
def ptpDataRequestLen (payload_len : UInt32) : UInt32 := 0x0C + payload_len

abbrev ptpContainerTypeCommandBlock : UInt16 := 1
abbrev ptpContainerTypeDataBlock : UInt16 := 2
abbrev ptpContainerTypeResponseBlock : UInt16 := 3

abbrev ptpRequestGetDeviceInfo : UInt16 := 0x1001
abbrev ptpRequestOpenSession : UInt16 := 0x1002
abbrev ptpRequestCloseSession : UInt16 := 0x1003
abbrev ptpRequestGetStorageId : UInt16 := 0x1004
abbrev ptpRequestGetStorageInfo : UInt16 := 0x1005
abbrev ptpRequestGetNumObjects : UInt16 := 0x1006
abbrev ptpRequestGetObjectHandles : UInt16 := 0x1007
abbrev ptpRequestGetObjectInfo : UInt16 := 0x1008
abbrev ptpRequestGetObject : UInt16 := 0x1009
abbrev ptpRequestGetThumb : UInt16 := 0x100A
abbrev ptpRequestDeleteObject : UInt16 := 0x100B
abbrev ptpRequestSendObjectInfo : UInt16 := 0x100C
abbrev ptpRequestSendObject : UInt16 := 0x100D
abbrev ptpRequestFormatStore : UInt16 := 0x100F
abbrev ptpRequestResetDevice : UInt16 := 0x1010
abbrev ptpRequestSelfTest : UInt16 := 0x1011
abbrev ptpRequestSetObjectProtection : UInt16 := 0x1012
abbrev ptpRequestPowerDown : UInt16 := 0x1013
abbrev ptpRequestGetDevicePropDesc : UInt16 := 0x1014
abbrev ptpRequestGetDevicePropValue : UInt16 := 0x1015
abbrev ptpRequestSetDevicePropValue : UInt16 := 0x1016
abbrev ptpRequestResetDevicePropValue : UInt16 := 0x1017
abbrev ptpRequestTerminateOpenCapture : UInt16 := 0x1018
abbrev ptpRequestMoveObject : UInt16 := 0x1019
abbrev ptpRequestCopyObject : UInt16 := 0x101A
abbrev ptpRequestGetPartialObject : UInt16 := 0x101B
abbrev ptpRequestInitialOpenCapture : UInt16 := 0x101C

/-! ## Packed structures -/

/-- `struct ptp_header` -/
structure PtpHeader where
  contaierLength : UInt32
  containerType : UInt16
  code : UInt16
  transacionID : UInt32
  deriving DecidableEq, Repr

def PtpHeader.bytes (h : PtpHeader) : List UInt8 :=
  le32 h.contaierLength ++ le16 h.containerType ++ le16 h.code ++ le32 h.transacionID

/-- `struct ptp_cmd_payload`. A builder sets the parameters it uses, the others are zero. -/
structure PtpCmdPayload where
  parameter1 : UInt32 := 0
  parameter2 : UInt32 := 0
  parameter3 : UInt32 := 0
  parameter4 : UInt32 := 0
  parameter5 : UInt32 := 0
  deriving DecidableEq, Repr

def PtpCmdPayload.bytes (p : PtpCmdPayload) : List UInt8 :=
  le32 p.parameter1 ++ le32 p.parameter2 ++ le32 p.parameter3 ++ le32 p.parameter4
    ++ le32 p.parameter5

@[simp] theorem PtpHeader.bytes_length (h : PtpHeader) : h.bytes.length = 12 := by
  simp [PtpHeader.bytes]

@[simp] theorem PtpCmdPayload.bytes_length (p : PtpCmdPayload) : p.bytes.length = 20 := by
  simp [PtpCmdPayload.bytes]

/-! ## Masks -/

/-- `RESPONSE_TYPE_MASK(res)` -/
def responseTypeMask (res : List UInt8) : UInt16 := word16 res 4

/-- `RESPONSE_LENGTH_MASK(stream)`, as the 32 bits of the `int` it computes -/
def responseLengthMask (stream : List UInt8) : UInt32 := word32 stream 0

/-- `RESPONSE_CODE_MASK(stream)` -/
def responseCodeMask (stream : List UInt8) : UInt16 := word16 stream 6

/-- The `TransacionID` field of a container. The receive path never reads it. -/
def transactionIdField (stream : List UInt8) : UInt32 := word32 stream 8

/-! ### The masks read back a header -/

@[simp] theorem responseLengthMask_header (h : PtpHeader) (t : List UInt8) :
    responseLengthMask (h.bytes ++ t) = h.contaierLength := by
  simp only [responseLengthMask, PtpHeader.bytes, List.append_assoc]
  exact word32_le32 _ _

@[simp] theorem responseTypeMask_header (h : PtpHeader) (t : List UInt8) :
    responseTypeMask (h.bytes ++ t) = h.containerType := by
  rw [← word16_le16 h.containerType (le16 h.code ++ (le32 h.transacionID ++ t))]
  simp only [responseTypeMask, PtpHeader.bytes, List.append_assoc]
  rfl

@[simp] theorem responseCodeMask_header (h : PtpHeader) (t : List UInt8) :
    responseCodeMask (h.bytes ++ t) = h.code := by
  rw [← word16_le16 h.code (le32 h.transacionID ++ t)]
  simp only [responseCodeMask, PtpHeader.bytes, List.append_assoc]
  rfl

end Droidbox.Ptp
