import Droidbox.Lib.Bytes

/-!
# Droidbox — ADB messages

The constants, the packed `struct message` and the macros of `lib/adb/adb.c` and `lib/adb/adb.h`,
as the bytes they are in memory on a little-endian host. `ADB_SET_MESSAGE` is `setMessage`: the
payload pointer stays a pointer, and `NULL` switches length and checksum off.
-/

namespace Droidbox.Adb

open LittleEndian

/-! ## Constants -/

/-- `HEADER_LEN` -/
abbrev headerLen : Nat := 24

/-- `RESPONSE_BUFFER_LEN` -/
abbrev responseBufferLen : Nat := 2048

/-- `ADB_REQUEST_LEN(payload_len)` -/
def adbRequestLen (payload_len : UInt32) : UInt32 := 0x18 + payload_len

/-- `ADB_MAGIC(cmd)` -/
def adbMagic (cmd : UInt32) : UInt32 := cmd ^^^ 0xFFFFFFFF

abbrev adbCommandCnxn : UInt32 := 0x4e584e43
abbrev adbCommandAuth : UInt32 := 0x48545541
abbrev adbCommandOpen : UInt32 := 0x4e45504f
abbrev adbCommandOkay : UInt32 := 0x59414b4f
abbrev adbCommandClse : UInt32 := 0x45534c43
abbrev adbCommandWrte : UInt32 := 0x45545257
abbrev adbCommandStls : UInt32 := 0x534C5453

/-! ## Messages -/

/-- `struct message` -/
structure Message where
  command : UInt32
  arg0 : UInt32
  arg1 : UInt32
  data_length : UInt32
  data_crc32 : UInt32
  magic : UInt32
  deriving DecidableEq, Repr

def Message.bytes (m : Message) : List UInt8 :=
  le32 m.command ++ le32 m.arg0 ++ le32 m.arg1 ++ le32 m.data_length ++ le32 m.data_crc32
    ++ le32 m.magic

@[simp] theorem Message.bytes_length (m : Message) : m.bytes.length = 24 := by
  simp [Message.bytes]

/-- `struct adb_message`; the payload is what its pointer points to, `none` for `NULL`. -/
structure AdbMessage where
  header : Message
  payload : Option (List UInt8)

/-- `checksum`: the loop over the first `len` bytes. -/
def checksum (payload : List UInt8) (len : UInt32) : UInt32 :=
  (payload.take len.toNat).foldl (fun sum b => sum + b.toUInt32) 0

/-- `ADB_SET_MESSAGE`. -/
def setMessage (cmd arg0 arg1 data_len : UInt32) (payload : Option (List UInt8)) : AdbMessage where
  header :=
    { command := cmd
      arg0
      arg1
      data_length := if payload.isSome then data_len else 0
      data_crc32 :=
        match payload with
        | some payload => checksum payload data_len
        | none => 0
      magic := adbMagic cmd }
  payload := payload

/-- `strlen` of the string at an address. -/
def strlen (s : List UInt8) : Nat := (s.takeWhile (· ≠ 0)).length

/-! ## Masks -/

/-- `ADB_COMMAND_MASK(stream)` -/
def adbCommandMask (stream : List UInt8) : UInt32 := word32 stream 0

/-- `ADB_DATA_LEN_MASK(stream)` -/
def adbDataLenMask (stream : List UInt8) : UInt32 := word32 stream 12

/-! ### The fields of a header in front of a payload -/

/-- The words of a header, in order. -/
def Message.words (m : Message) : List UInt32 :=
  [m.command, m.arg0, m.arg1, m.data_length, m.data_crc32, m.magic]

theorem Message.bytes_eq (m : Message) : m.bytes = m.words.flatMap le32 := by
  simp [Message.bytes, Message.words]

theorem Message.word32_bytes (m : Message) (t : List UInt8) {k : Nat} (hk : k < m.words.length) :
    word32 (m.bytes ++ t) (4 * k) = m.words[k] := by
  rw [Message.bytes_eq, word32_flatMap_le32 t hk]

@[simp] theorem adbCommandMask_header (m : Message) (t : List UInt8) :
    adbCommandMask (m.bytes ++ t) = m.command :=
  m.word32_bytes t (show 0 < 6 from by decide)

@[simp] theorem adbDataLenMask_header (m : Message) (t : List UInt8) :
    adbDataLenMask (m.bytes ++ t) = m.data_length :=
  m.word32_bytes t (show 3 < 6 from by decide)

/-! ## The checksum -/

theorem checksum_foldl_toNat (bs : List UInt8) (sum : UInt32) :
    (bs.foldl (fun sum b => sum + b.toUInt32) sum).toNat
      = (sum.toNat + (bs.map UInt8.toNat).sum) % 2 ^ 32 := by
  induction bs generalizing sum with
  | nil => exact (Nat.mod_eq_of_lt sum.toNat_lt).symm
  | cons b bs ih =>
    rw [List.foldl_cons, ih, List.map_cons, List.sum_cons, UInt32.toNat_add, UInt8.toNat_toUInt32,
      Nat.mod_add_mod, Nat.add_assoc]

/-- The checksum is the sum of the bytes modulo `2 ^ 32`. -/
theorem checksum_toNat (payload : List UInt8) (len : UInt32) :
    (checksum payload len).toNat
      = ((payload.take len.toNat).map UInt8.toNat).sum % 2 ^ 32 := by
  rw [checksum, checksum_foldl_toNat]
  simp

end Droidbox.Adb
