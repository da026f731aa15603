import Droidbox.Lib.Bytes

/-!
# Droidbox — the layout of a configuration descriptor

A configuration comes as one stream: a header of 9 bytes with the total length, and descriptors of
any types behind it, each of which starts with its own length and its type. `lib/usb/usb.c` walks
such streams in memory, where nothing but the lengths says where a descriptor starts.

* `Layout m D past o`: in the memory `m`, a descriptor starts at `o` when those at `past` are
  walked through below the total length `D`.
* `SubDescriptor`, `stream`, `starts`: a stream put together of descriptors, and where they start.
* **`Holds.stream_cons`**: what such a stream looks like in memory.
-/

namespace Droidbox.Usb

open LittleEndian

/-! ## Constants -/

def usbDtDevice : UInt8 := 0x01

def usbDtConfig : UInt8 := 0x02

def usbDtInterface : UInt8 := 0x04

def usbDtEndpoint : UInt8 := 0x05

def usbDtInterfaceAssociation : UInt8 := 0x0B

def usbDtDeviceSize : Nat := 18

def usbDtConfigSize : Nat := 9

def usbDtInterfaceSize : Nat := 9

def usbDtEndpointSize : Nat := 7

def usbDtInterfaceAssociationSize : Nat := 8

/-! ## Memory -/

/-- The bytes at a pointer, from its address on. -/
abbrev Memory := Nat → UInt8

/-- `wTotalLength` of the configuration header at the pointer. -/
def wTotalLength (m : Memory) : UInt16 := (m 3).toUInt16 <<< 8 ||| (m 2).toUInt16

/-- The memory holds the bytes `s` from `o` on. -/
def Holds (m : Memory) (o : Nat) (s : List UInt8) : Prop := ∀ i < s.length, m (o + i) = byteAt s i

/-! ## Layouts -/

/-- Where the descriptors of a configuration start: the first one behind the header, each other one
where the length byte of the one before it says. -/
inductive Layout (m : Memory) (D : Nat) : List Nat → Nat → Prop
  | first : Layout m D [] usbDtConfigSize
  | next {past : List Nat} {o : Nat} (h : Layout m D past o) (ho : o < D) :
      Layout m D (past ++ [o]) (o + (m o).toNat)

/-! ## Streams of descriptors -/

/-- A descriptor that holds its length and its type. -/
structure SubDescriptor where
  bytes : List UInt8
  length_ge : 2 ≤ bytes.length
  bLength : (byteAt bytes 0).toNat = bytes.length

def SubDescriptor.type (d : SubDescriptor) : UInt8 := byteAt d.bytes 1

def stream (ds : List SubDescriptor) : List UInt8 := ds.flatMap SubDescriptor.bytes

/-- Offset and type of each descriptor of a stream that starts at `o`. -/
def starts : Nat → List SubDescriptor → List (Nat × UInt8)
  | _, [] => []
  | o, d :: ds => (o, d.type) :: starts (o + d.bytes.length) ds

/-- A configuration that is put together of a header and of descriptors. -/
structure Tiled where
  header : List UInt8
  subs : List SubDescriptor
  header_length : header.length = usbDtConfigSize
  total : (word16 header 2).toNat = usbDtConfigSize + (stream subs).length

def Tiled.bytes (c : Tiled) : List UInt8 := c.header ++ stream c.subs

theorem Tiled.bytes_length (c : Tiled) : c.bytes.length = (word16 c.header 2).toNat := by
  rw [c.total, bytes, List.length_append, c.header_length]

/-! ## Streams in memory -/

variable {m : Memory} {o : Nat}

theorem Holds.append {s t : List UInt8} (h : Holds m o (s ++ t)) :
    Holds m o s ∧ Holds m (o + s.length) t := by
  constructor
  · intro i hi
    rw [h i (by rw [List.length_append]; omega), byteAt_append_left hi]
  · intro i hi
    rw [Nat.add_assoc, h (s.length + i) (by rw [List.length_append]; omega), byteAt_append_right]

/-- The first descriptor of a stream, and the rest of it. -/
theorem Holds.stream_cons {d : SubDescriptor} {ds : List SubDescriptor}
    (h : Holds m o (stream (d :: ds))) :
    (m o).toNat = d.bytes.length ∧ m (o + 1) = d.type
      ∧ Holds m (o + d.bytes.length) (stream ds) := by
  have hlen := d.length_ge
  obtain ⟨hd, hds⟩ := Holds.append h
  have hzero : m o = byteAt d.bytes 0 := hd 0 (by omega)
  exact ⟨hzero ▸ d.bLength, hd 1 (by omega), hds⟩

theorem Holds.wTotalLength {header s : List UInt8} (h : Holds m 0 (header ++ s))
    (hlen : header.length = usbDtConfigSize) : wTotalLength m = word16 header 2 := by
  obtain ⟨hheader, -⟩ := h.append
  have h2 := hheader 2 (hlen ▸ by decide)
  have h3 := hheader 3 (hlen ▸ by decide)
  rw [Nat.zero_add] at h2 h3
  rw [Usb.wTotalLength, h2, h3]
  rfl

end Droidbox.Usb
