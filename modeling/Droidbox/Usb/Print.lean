import Droidbox.Lib.Buffer
import Droidbox.Lib.Printf
import Droidbox.Usb.Descriptor

/-!
# Droidbox — printing descriptors

The structures of `linux/usb/ch9.h` that `usb_dump_device` copies descriptors into, and the
functions of `lib/usb/usb.c` that print them, each with one `fprintf`. Every field is printed as a
number of its own width, next to the words for it.

* **`Print.text_inj`**: a printed text determines the structure and the strings it was made from,
  as long as these do not break the lines.
* **`endpoint_words_iff`**: which words for an endpoint are those of its fields.
-/

namespace Droidbox.Usb.Listing

open LittleEndian Printf

/-! ## Structures -/

structure UsbDeviceDescriptor where
  bLength : UInt8
  bDescriptorType : UInt8
  bcdUSB : UInt16
  bDeviceClass : UInt8
  bDeviceSubClass : UInt8
  bDeviceProtocol : UInt8
  bMaxPacketSize0 : UInt8
  idVendor : UInt16
  idProduct : UInt16
  bcdDevice : UInt16
  iManufacturer : UInt8
  iProduct : UInt8
  iSerialNumber : UInt8
  bNumConfigurations : UInt8
  deriving DecidableEq, Repr

structure UsbConfigDescriptor where
  bLength : UInt8
  bDescriptorType : UInt8
  wTotalLength : UInt16
  bNumInterfaces : UInt8
  bConfigurationValue : UInt8
  iConfiguration : UInt8
  bmAttributes : UInt8
  bMaxPower : UInt8
  deriving DecidableEq, Repr

structure UsbInterfaceDescriptor where
  bLength : UInt8
  bDescriptorType : UInt8
  bInterfaceNumber : UInt8
  bAlternateSetting : UInt8
  bNumEndpoints : UInt8
  bInterfaceClass : UInt8
  bInterfaceSubClass : UInt8
  bInterfaceProtocol : UInt8
  iInterface : UInt8
  deriving DecidableEq, Repr

/-- The fields of `struct usb_endpoint_descriptor` that its first 7 bytes fill. -/
structure UsbEndpointDescriptor where
  bLength : UInt8
  bDescriptorType : UInt8
  bEndpointAddress : UInt8
  bmAttributes : UInt8
  wMaxPacketSize : UInt16
  bInterval : UInt8
  deriving DecidableEq, Repr

structure UsbInterfaceAssocDescriptor where
  bLength : UInt8
  bDescriptorType : UInt8
  bFirstInterface : UInt8
  bInterfaceCount : UInt8
  bFunctionClass : UInt8
  bFunctionSubClass : UInt8
  bFunctionProtocol : UInt8
  iFunction : UInt8
  deriving DecidableEq, Repr

/-- `__parse_stream`: the bytes from an address on. -/
def parseStream (m : Memory) (o n : Nat) : Buffer n :=
  ⟨(List.range' o n).map m, by rw [List.length_map, List.length_range']⟩

def UsbDeviceDescriptor.ofBytes (s : Buffer usbDtDeviceSize) : UsbDeviceDescriptor where
  bLength := byteAt s.bytes 0
  bDescriptorType := byteAt s.bytes 1
  bcdUSB := word16 s.bytes 2
  bDeviceClass := byteAt s.bytes 4
  bDeviceSubClass := byteAt s.bytes 5
  bDeviceProtocol := byteAt s.bytes 6
  bMaxPacketSize0 := byteAt s.bytes 7
  idVendor := word16 s.bytes 8
  idProduct := word16 s.bytes 10
  bcdDevice := word16 s.bytes 12
  iManufacturer := byteAt s.bytes 14
  iProduct := byteAt s.bytes 15
  iSerialNumber := byteAt s.bytes 16
  bNumConfigurations := byteAt s.bytes 17

def UsbConfigDescriptor.ofBytes (s : Buffer usbDtConfigSize) : UsbConfigDescriptor where
  bLength := byteAt s.bytes 0
  bDescriptorType := byteAt s.bytes 1
  wTotalLength := word16 s.bytes 2
  bNumInterfaces := byteAt s.bytes 4
  bConfigurationValue := byteAt s.bytes 5
  iConfiguration := byteAt s.bytes 6
  bmAttributes := byteAt s.bytes 7
  bMaxPower := byteAt s.bytes 8

def UsbInterfaceDescriptor.ofBytes (s : Buffer usbDtInterfaceSize) : UsbInterfaceDescriptor where
  bLength := byteAt s.bytes 0
  bDescriptorType := byteAt s.bytes 1
  bInterfaceNumber := byteAt s.bytes 2
  bAlternateSetting := byteAt s.bytes 3
  bNumEndpoints := byteAt s.bytes 4
  bInterfaceClass := byteAt s.bytes 5
  bInterfaceSubClass := byteAt s.bytes 6
  bInterfaceProtocol := byteAt s.bytes 7
  iInterface := byteAt s.bytes 8

def UsbEndpointDescriptor.ofBytes (s : Buffer usbDtEndpointSize) : UsbEndpointDescriptor where
  bLength := byteAt s.bytes 0
  bDescriptorType := byteAt s.bytes 1
  bEndpointAddress := byteAt s.bytes 2
  bmAttributes := byteAt s.bytes 3
  wMaxPacketSize := word16 s.bytes 4
  bInterval := byteAt s.bytes 6

def UsbInterfaceAssocDescriptor.ofBytes (s : Buffer usbDtInterfaceAssociationSize) :
    UsbInterfaceAssocDescriptor where
  bLength := byteAt s.bytes 0
  bDescriptorType := byteAt s.bytes 1
  bFirstInterface := byteAt s.bytes 2
  bInterfaceCount := byteAt s.bytes 3
  bFunctionClass := byteAt s.bytes 4
  bFunctionSubClass := byteAt s.bytes 5
  bFunctionProtocol := byteAt s.bytes 6
  iFunction := byteAt s.bytes 7

/-! ## Their bytes -/

def UsbDeviceDescriptor.bytes (udd : UsbDeviceDescriptor) : List UInt8 :=
  [udd.bLength, udd.bDescriptorType] ++ le16 udd.bcdUSB
    ++ [udd.bDeviceClass, udd.bDeviceSubClass, udd.bDeviceProtocol, udd.bMaxPacketSize0]
    ++ le16 udd.idVendor ++ le16 udd.idProduct ++ le16 udd.bcdDevice
    ++ [udd.iManufacturer, udd.iProduct, udd.iSerialNumber, udd.bNumConfigurations]

def UsbConfigDescriptor.bytes (ucd : UsbConfigDescriptor) : List UInt8 :=
  [ucd.bLength, ucd.bDescriptorType] ++ le16 ucd.wTotalLength
    ++ [ucd.bNumInterfaces, ucd.bConfigurationValue, ucd.iConfiguration, ucd.bmAttributes,
      ucd.bMaxPower]

def UsbInterfaceDescriptor.bytes (uid : UsbInterfaceDescriptor) : List UInt8 :=
  [uid.bLength, uid.bDescriptorType, uid.bInterfaceNumber, uid.bAlternateSetting,
    uid.bNumEndpoints, uid.bInterfaceClass, uid.bInterfaceSubClass, uid.bInterfaceProtocol,
    uid.iInterface]

def UsbEndpointDescriptor.bytes (ued : UsbEndpointDescriptor) : List UInt8 :=
  [ued.bLength, ued.bDescriptorType, ued.bEndpointAddress, ued.bmAttributes]
    ++ le16 ued.wMaxPacketSize ++ [ued.bInterval]

def UsbInterfaceAssocDescriptor.bytes (uiad : UsbInterfaceAssocDescriptor) : List UInt8 :=
  [uiad.bLength, uiad.bDescriptorType, uiad.bFirstInterface, uiad.bInterfaceCount,
    uiad.bFunctionClass, uiad.bFunctionSubClass, uiad.bFunctionProtocol, uiad.iFunction]

theorem bytes_eq_map {n : Nat} (s : Buffer n) :
    s.bytes = (List.range' 0 n).map (byteAt s.bytes) := by
  have hmap := map_byteAt_range s.bytes 0
  rw [Nat.sub_zero, s.length_eq] at hmap
  exact hmap.symm

theorem UsbDeviceDescriptor.bytes_ofBytes (s : Buffer usbDtDeviceSize) :
    (ofBytes s).bytes = s.bytes := by
  rw [bytes_eq_map s, UsbDeviceDescriptor.bytes, ofBytes]
  simp only [le16_word16]
  rfl

theorem UsbConfigDescriptor.bytes_ofBytes (s : Buffer usbDtConfigSize) :
    (ofBytes s).bytes = s.bytes := by
  rw [bytes_eq_map s, UsbConfigDescriptor.bytes, ofBytes]
  simp only [le16_word16]
  rfl

theorem UsbInterfaceDescriptor.bytes_ofBytes (s : Buffer usbDtInterfaceSize) :
    (ofBytes s).bytes = s.bytes := by
  rw [bytes_eq_map s]
  rfl

theorem UsbEndpointDescriptor.bytes_ofBytes (s : Buffer usbDtEndpointSize) :
    (ofBytes s).bytes = s.bytes := by
  rw [bytes_eq_map s, UsbEndpointDescriptor.bytes, ofBytes]
  simp only [le16_word16]
  rfl

theorem UsbInterfaceAssocDescriptor.bytes_ofBytes (s : Buffer usbDtInterfaceAssociationSize) :
    (ofBytes s).bytes = s.bytes := by
  rw [bytes_eq_map s]
  rfl

/-! Structures that have the same bytes are the same. -/

theorem word16_le16_zero (w : UInt16) : word16 (le16 w) 0 = w := word16_le16 w []

theorem UsbDeviceDescriptor.bytes_inj {udd udd' : UsbDeviceDescriptor}
    (h : udd.bytes = udd'.bytes) : udd = udd' := by
  have hback : ∀ udd : UsbDeviceDescriptor, ofBytes ⟨udd.bytes, rfl⟩ = udd := by
    intro udd
    show { udd with
      bcdUSB := word16 (le16 udd.bcdUSB) 0, idVendor := word16 (le16 udd.idVendor) 0,
      idProduct := word16 (le16 udd.idProduct) 0, bcdDevice := word16 (le16 udd.bcdDevice) 0 } = udd
    simp only [word16_le16_zero]
  rw [← hback udd, ← hback udd']
  exact congrArg ofBytes (Buffer.ext h)

theorem UsbConfigDescriptor.bytes_inj {ucd ucd' : UsbConfigDescriptor}
    (h : ucd.bytes = ucd'.bytes) : ucd = ucd' := by
  have hback : ∀ ucd : UsbConfigDescriptor, ofBytes ⟨ucd.bytes, rfl⟩ = ucd := by
    intro ucd
    show { ucd with wTotalLength := word16 (le16 ucd.wTotalLength) 0 } = ucd
    simp only [word16_le16_zero]
  rw [← hback ucd, ← hback ucd']
  exact congrArg ofBytes (Buffer.ext h)

theorem UsbInterfaceDescriptor.bytes_inj {uid uid' : UsbInterfaceDescriptor}
    (h : uid.bytes = uid'.bytes) : uid = uid' := by
  have hback : ∀ uid : UsbInterfaceDescriptor, ofBytes ⟨uid.bytes, rfl⟩ = uid := fun _ => rfl
  rw [← hback uid, ← hback uid']
  exact congrArg ofBytes (Buffer.ext h)

theorem UsbEndpointDescriptor.bytes_inj {ued ued' : UsbEndpointDescriptor}
    (h : ued.bytes = ued'.bytes) : ued = ued' := by
  have hback : ∀ ued : UsbEndpointDescriptor, ofBytes ⟨ued.bytes, rfl⟩ = ued := by
    intro ued
    show { ued with wMaxPacketSize := word16 (le16 ued.wMaxPacketSize) 0 } = ued
    simp only [word16_le16_zero]
  rw [← hback ued, ← hback ued']
  exact congrArg ofBytes (Buffer.ext h)

theorem UsbInterfaceAssocDescriptor.bytes_inj {uiad uiad' : UsbInterfaceAssocDescriptor}
    (h : uiad.bytes = uiad'.bytes) : uiad = uiad' := by
  have hback : ∀ uiad : UsbInterfaceAssocDescriptor, ofBytes ⟨uiad.bytes, rfl⟩ = uiad :=
    fun _ => rfl
  rw [← hback uiad, ← hback uiad']
  exact congrArg ofBytes (Buffer.ext h)

/-! ## Words -/

/-- `switch` with the cases 0, 1 and 2 -/
def switch (n : Nat) (zero one two other : String) : String :=
  if n = 0 then zero else if n = 1 then one else if n = 2 then two else other

def endpointTransferType (eattr : UInt8) : String :=
  switch (eattr.toNat &&& 0x03) "Control" "Isochronous" "Bulk" "Interrupt"

def endpointSyncType (eattr : UInt8) : String :=
  switch (eattr.toNat &&& 0x0C) "No Synchronization" "Asynchronous" "Adaptive" "Synchronous"

def endpointUsageType (eattr : UInt8) : String :=
  switch (eattr.toNat &&& 0x30) "Data endpoint" "Feedback endpoint"
    "Implicit feedback Data endpoint" "Reserved"

def endpointTransacPerMf (epacksz : UInt16) : String :=
  switch (epacksz.toNat &&& 0x1800) "None (1 p/mf)" "1 additional (2 p/mf)"
    "1 additional (3 p/mf)" "Reserved"

def getClass (cattr : UInt8) : String :=
  if cattr = 0 then "Device"
  else if cattr = 1 then "Audio"
  else if cattr = 2 then "Communications Device Class (CDC)"
  else if cattr = 3 then "Human Interface Device (HID)"
  else if cattr = 5 then "Physical"
  else if cattr = 6 then "Still Image"
  else if cattr = 7 then "Printer"
  else if cattr = 8 then "Mass Storage (MSD)"
  else if cattr = 9 then "HUB"
  else if cattr = 0x0A then "CDC DATA"
  else if cattr = 0x0B then "Chip+ Smart Card"
  else if cattr = 0x0D then "Content Security"
  else if cattr = 0x0E then "Video"
  else if cattr = 0xE0 then "Wireless Controller"
  else if cattr = 0x0F then "Personal Healhcare"
  else if cattr = 0x10 then "Audio/Video"
  else if cattr = 0x11 then "Billboard"
  else if cattr = 0x12 then "USB Type C Bridge"
  else if cattr = 0xEF then "Miscellaneous"
  else if cattr = 0xFE then "Application Specific"
  else "Vendor Specific"

/-- A field of two bits, from bit `k` on. -/
def field (n k : Nat) : Nat := n >>> k &&& 3

theorem field_lt (n k : Nat) : field n k < 4 := Nat.and_lt_two_pow _ (show 3 < 2 ^ 2 by decide)

/-- A mask leaves a field where it is. -/
theorem and_mask (n k : Nat) : n &&& 3 <<< k = field n k <<< k := by
  apply Nat.eq_of_testBit_eq
  intro i
  rw [field, Nat.testBit_and, Nat.testBit_shiftLeft, Nat.testBit_shiftLeft, Nat.testBit_and,
    Nat.testBit_shiftRight]
  by_cases hi : k ≤ i
  · simp [hi]
  · simp [hi]

/-- **A `switch` on a field that was not shifted down** has a word for the fields 0 and 3 only: the
others are no case of it, and get the word for 3. -/
theorem switch_mask (n k : Nat) {mask : Nat} {zero one two other : String} (hmask : mask = 3 <<< k)
    (hk : 2 ≤ k) (hone : one ≠ other) (htwo : two ≠ other) :
    switch (n &&& mask) zero one two other = switch (field n k) zero one two other
      ↔ field n k = 0 ∨ field n k = 3 := by
  have hlt := field_lt n k
  have hpow : 4 ≤ 2 ^ k := Nat.pow_le_pow_right (show 0 < 2 by decide) hk
  rw [hmask, and_mask, Nat.shiftLeft_eq]
  match hfield : field n k, hlt with
  | 0, _ => simp
  | f + 1, hlt =>
    -- the value is at least 4, so it takes the default
    have hle : 4 ≤ (f + 1) * 2 ^ k := Nat.le_trans hpow (Nat.le_mul_of_pos_left _ (Nat.succ_pos f))
    have hother : switch ((f + 1) * 2 ^ k) zero one two other = other := by
      rw [switch, if_neg (by omega), if_neg (by omega), if_neg (by omega)]
    rw [hother]
    match f, hlt with
    | 0, _ => simpa [switch] using hone.symm
    | 1, _ => simpa [switch] using htwo.symm
    | 2, _ => simp [switch]

/-- **The words for an endpoint.** That for the transfers is the one of its field, each of the
others only where its field is 0 or 3. -/
theorem endpoint_words_iff (eattr : UInt8) (epacksz : UInt16) :
    endpointTransferType eattr
        = switch (field eattr.toNat 0) "Control" "Isochronous" "Bulk" "Interrupt"
      ∧ (endpointSyncType eattr = switch (field eattr.toNat 2) "No Synchronization" "Asynchronous"
          "Adaptive" "Synchronous" ↔ field eattr.toNat 2 = 0 ∨ field eattr.toNat 2 = 3)
      ∧ (endpointUsageType eattr = switch (field eattr.toNat 4) "Data endpoint" "Feedback endpoint"
          "Implicit feedback Data endpoint" "Reserved"
          ↔ field eattr.toNat 4 = 0 ∨ field eattr.toNat 4 = 3)
      ∧ (endpointTransacPerMf epacksz = switch (field epacksz.toNat 11) "None (1 p/mf)"
          "1 additional (2 p/mf)" "1 additional (3 p/mf)" "Reserved"
          ↔ field epacksz.toNat 11 = 0 ∨ field epacksz.toNat 11 = 3) :=
  ⟨rfl, switch_mask eattr.toNat 2 rfl (by decide) (by decide) (by decide),
    switch_mask eattr.toNat 4 rfl (by decide) (by decide) (by decide),
    switch_mask epacksz.toNat 11 rfl (by decide) (by decide) (by decide)⟩

/-! ## Texts -/

/-- The pieces of a format string that is written line by line. -/
def parseLines (lines : List String) : List Piece := parse (lines.flatMap String.toList)

def deviceFormat : List Piece := parseLines
  ["Length: %d\n",
   "Descriptor Type (%.2X): Device\n",
   "BCD USB: %.4X\n",
   "Device Class: %.2X\n",
   "Device Sub Class: %.2X\n",
   "Device Protocol: %.2X\n",
   "Max Packet Size: %.2X\n",
   "Vendor ID: %.4X\n",
   "Product ID: %.4X\n",
   "BCD Device: %.4X\n",
   "Manufacturer (%.2X): %s\n",
   "Product (%.2X): %s\n",
   "Serial Number (%.2X): %s\n",
   "Configurations Number: %.2X\n"]

def configFormat : List Piece := parseLines
  ["Length: %d\n",
   "Descriptor Type (%.2X): Config\n",
   "Total Data Length: %.4X\n",
   "Interfaces: %.2X\n",
   "Configuration Value: %.2X\n",
   "Configuration Description (%.2X): %s\n",
   "Configuration Characteristics: %.2X\n",
   "Maximum Power Consumption: %.2X\n"]

def interfaceFormat : List Piece := parseLines
  ["Length: %d\n",
   "Descriptor Type (%.2X): Interface\n",
   "Interface Number: %.2X\n",
   "Alternate Setting: %.2X\n",
   "Number of Endpoints (%.2X): %d\n",
   "Interface Class (%.2X): %s\n",
   "Interface SubClass (%.2X): %s\n",
   "Interface Protocol: %.2X\n",
   "Interface Description (%.2X): %s\n"]

def endpointFormat : List Piece := parseLines
  ["Length: %d\n",
   "Descriptor Type (%.2X): Endpoint\n",
   "Endpoint Address (%.2X): %.2X - %s\n",
   "Endpoint Attributes (%.2X): %s - %s - %s\n",
   "Maximum Packet Size (%.4X): %d - %s\n",
   "Polling Interval: %.2X\n"]

def interfaceAssociationFormat : List Piece := parseLines
  ["Length: %d\n",
   "Descriptor Type (%.2X): Interface Association\n",
   "First Interface: %.2X\n",
   "Interface Count: %.2X\n",
   "Function Class: %.2X\n",
   "Function SubClass: %.2X\n",
   "Function Protocol: %.2X\n",
   "iFunction: %.2X\n"]

/-- The functions that print. -/
inductive Kind where
  | device
  | config
  | interface
  | endpoint
  | interfaceAssociation
  deriving DecidableEq, Repr

def Kind.format : Kind → List Piece
  | .device => deviceFormat
  | .config => configFormat
  | .interface => interfaceFormat
  | .endpoint => endpointFormat
  | .interfaceAssociation => interfaceAssociationFormat

/-- A call of one of the functions that print, with the strings the device gave for it. -/
inductive Print where
  | device (udd : UsbDeviceDescriptor) (manufacturer product serial_number : List UInt8)
  | config (ucd : UsbConfigDescriptor) (description : List UInt8)
  | interface (uid : UsbInterfaceDescriptor) (description : List UInt8)
  | endpoint (ued : UsbEndpointDescriptor)
  | interfaceAssociation (uiad : UsbInterfaceAssocDescriptor)
  deriving DecidableEq, Repr

def Print.kind : Print → Kind
  | .device .. => .device
  | .config .. => .config
  | .interface .. => .interface
  | .endpoint _ => .endpoint
  | .interfaceAssociation _ => .interfaceAssociation

/-- `__ENDPOINT_DIRECTION` -/
def endpointDirection (ued : UsbEndpointDescriptor) : String :=
  if ued.bEndpointAddress &&& 0x80 ≠ 0 then "IN" else "OUT"

/-- What each of them has in common: the length and the type come first. -/
def Print.head : Print → List Arg
  | .device udd .. => [.num udd.bLength.toNat, .num udd.bDescriptorType.toNat]
  | .config ucd _ => [.num ucd.bLength.toNat, .num ucd.bDescriptorType.toNat]
  | .interface uid _ => [.num uid.bLength.toNat, .num uid.bDescriptorType.toNat]
  | .endpoint ued => [.num ued.bLength.toNat, .num ued.bDescriptorType.toNat]
  | .interfaceAssociation uiad => [.num uiad.bLength.toNat, .num uiad.bDescriptorType.toNat]

/-- The arguments behind these two. -/
def Print.rest : Print → List Arg
  | .device udd manufacturer product serial_number =>
    [.num udd.bcdUSB.toNat, .num udd.bDeviceClass.toNat, .num udd.bDeviceSubClass.toNat,
      .num udd.bDeviceProtocol.toNat, .num udd.bMaxPacketSize0.toNat, .num udd.idVendor.toNat,
      .num udd.idProduct.toNat, .num udd.bcdDevice.toNat, .num udd.iManufacturer.toNat,
      .str (chars manufacturer), .num udd.iProduct.toNat, .str (chars product),
      .num udd.iSerialNumber.toNat, .str (chars serial_number), .num udd.bNumConfigurations.toNat]
  | .config ucd description =>
    [.num ucd.wTotalLength.toNat, .num ucd.bNumInterfaces.toNat, .num ucd.bConfigurationValue.toNat,
      .num ucd.iConfiguration.toNat, .str (chars description), .num ucd.bmAttributes.toNat,
      .num ucd.bMaxPower.toNat]
  | .interface uid description =>
    [.num uid.bInterfaceNumber.toNat, .num uid.bAlternateSetting.toNat,
      .num uid.bNumEndpoints.toNat, .num uid.bNumEndpoints.toNat, .num uid.bInterfaceClass.toNat,
      .str (getClass uid.bInterfaceClass).toList, .num uid.bInterfaceSubClass.toNat,
      .str (getClass uid.bInterfaceSubClass).toList, .num uid.bInterfaceProtocol.toNat,
      .num uid.iInterface.toNat, .str (chars description)]
  | .endpoint ued =>
    [.num ued.bEndpointAddress.toNat, .num (ued.bEndpointAddress &&& 0x07).toNat,
      .str (endpointDirection ued).toList, .num ued.bmAttributes.toNat,
      .str (endpointTransferType ued.bmAttributes).toList,
      .str (endpointSyncType ued.bmAttributes).toList,
      .str (endpointUsageType ued.bmAttributes).toList, .num ued.wMaxPacketSize.toNat,
      .num (ued.wMaxPacketSize &&& 0x7FF).toNat,
      .str (endpointTransacPerMf ued.wMaxPacketSize).toList, .num ued.bInterval.toNat]
  | .interfaceAssociation uiad =>
    [.num uiad.bFirstInterface.toNat, .num uiad.bInterfaceCount.toNat,
      .num uiad.bFunctionClass.toNat, .num uiad.bFunctionSubClass.toNat,
      .num uiad.bFunctionProtocol.toNat, .num uiad.iFunction.toNat]

def Print.text (p : Print) : List Char := fprintf p.kind.format (p.head ++ p.rest)

/-! ## Reading a text -/

/-- The strings of a call. -/
def Print.strings : Print → List (List UInt8)
  | .device _ manufacturer product serial_number => [manufacturer, product, serial_number]
  | .config _ description => [description]
  | .interface _ description => [description]
  | .endpoint _ => []
  | .interfaceAssociation _ => []

/-- None of the strings breaks a line. -/
def Print.Unbroken (p : Print) : Prop := ∀ s ∈ p.strings, 10 ∉ s

instance (p : Print) : Decidable p.Unbroken := by
  unfold Print.Unbroken
  infer_instance

/-- What every text starts with. -/
def headFormat : List Piece := parseLines ["Length: %d\n", "Descriptor Type (%.2X): "]

def headConversions : List Conversion := [.dec, .hex 2]

/-- The pieces behind that. -/
def Kind.rest (k : Kind) : List Piece := k.format.drop headFormat.length

def Kind.conversions : Kind → List Conversion
  | .device =>
    [.hex 4, .hex 2, .hex 2, .hex 2, .hex 2, .hex 4, .hex 4, .hex 4, .hex 2, .str '\n', .hex 2,
      .str '\n', .hex 2, .str '\n', .hex 2]
  | .config => [.hex 4, .hex 2, .hex 2, .hex 2, .str '\n', .hex 2, .hex 2]
  | .interface =>
    [.hex 2, .hex 2, .hex 2, .dec, .hex 2, .str '\n', .hex 2, .str '\n', .hex 2, .hex 2, .str '\n']
  | .endpoint =>
    [.hex 2, .hex 2, .str '\n', .hex 2, .str ' ', .str ' ', .str '\n', .hex 4, .dec, .str '\n',
      .hex 2]
  | .interfaceAssociation => [.hex 2, .hex 2, .hex 2, .hex 2, .hex 2, .hex 2]

deriving instance DecidableEq for Piece

theorem conversions_head : conversions headFormat = some headConversions := by decide +kernel

/-- A character that tells the functions from each other: the tenth one behind the head. -/
def Kind.mark : Kind → Char
  | .device => 'D'
  | .config => 't'
  | .interface => '\n'
  | .endpoint => 'E'
  | .interfaceAssociation => ' '

theorem Kind.mark_inj {k l : Kind} (h : k.mark = l.mark) : k = l := by
  revert h
  cases k <;> cases l <;> decide

/-- What there is to know of a format. -/
theorem Kind.format_spec (k : Kind) : k.format.take headFormat.length = headFormat
    ∧ Printf.conversions k.rest = some k.conversions ∧ (leading k.rest)[9]? = some k.mark := by
  cases k <;> decide +kernel

theorem Kind.format_eq (k : Kind) : k.format = headFormat ++ k.rest := by
  rw [Kind.rest, ← List.take_append_drop headFormat.length k.format, k.format_spec.1]
  rw [List.drop_left]

theorem Print.text_eq (p : Print) :
    p.text = fprintf (headFormat ++ p.kind.rest) (p.head ++ p.rest) := by
  rw [Print.text, Kind.format_eq]

theorem Print.head_fits (p : Print) : Fits headFormat p.head := by
  cases p <;> exact rfl

theorem Print.head_distinct (p q : Print) : Distinct headConversions p.head q.head := by
  have hbyte : ∀ b : UInt8, b.toNat < 16 ^ 2 := UInt8.toNat_lt
  cases p <;> cases q <;>
    exact fun _ => ⟨⟨hbyte _, hbyte _⟩, fun _ => ⟨rfl, rfl⟩⟩

/-- Texts of different functions do not start alike. -/
theorem Print.kind_eq {p q : Print} {s t : List Char} (h : p.text ++ s = q.text ++ t) :
    p.kind = q.kind := by
  by_contra hne
  rw [p.text_eq, q.text_eq] at h
  exact fprintf_fork conversions_head (p.head_distinct q) p.head_fits q.head_fits
    p.kind.format_spec.2.2 q.kind.format_spec.2.2 (mt Kind.mark_inj hne) p.rest q.rest s t h


section
variable {convs : List Conversion} {args args' : List Arg}

theorem distinct_dec (a b : UInt8) (h : a = b → Distinct convs args args') :
    Distinct (.dec :: convs) (.num a.toNat :: args) (.num b.toNat :: args') :=
  fun hnum => h (UInt8.toNat_inj.mp hnum)

theorem distinct_byte (a b : UInt8) (h : a = b → Distinct convs args args') :
    Distinct (.hex 2 :: convs) (.num a.toNat :: args) (.num b.toNat :: args') :=
  ⟨⟨a.toNat_lt, b.toNat_lt⟩, fun hnum => h (UInt8.toNat_inj.mp hnum)⟩

theorem distinct_word (a b : UInt16) (h : a = b → Distinct convs args args') :
    Distinct (.hex 4 :: convs) (.num a.toNat :: args) (.num b.toNat :: args') :=
  ⟨⟨a.toNat_lt, b.toNat_lt⟩, fun hnum => h (UInt16.toNat_inj.mp hnum)⟩

theorem distinct_chars {x y : List UInt8} (hx : 10 ∉ x) (hy : 10 ∉ y)
    (h : Distinct convs args args') :
    Distinct (.str '\n' :: convs) (.str (chars x) :: args) (.str (chars y) :: args') :=
  ⟨.inr ⟨newline_not_mem_chars hx, newline_not_mem_chars hy⟩, fun _ => h⟩

/-- Words that the numbers in front of them decide. -/
theorem distinct_same {c : Char} {x y : String} (hxy : x = y) (h : Distinct convs args args') :
    Distinct (.str c :: convs) (.str x.toList :: args) (.str y.toList :: args') :=
  ⟨.inl (congrArg String.toList hxy), fun _ => h⟩

end

theorem Print.rest_distinct {p q : Print} (hkind : p.kind = q.kind) (hp : p.Unbroken)
    (hq : q.Unbroken) : Distinct q.kind.conversions p.rest q.rest := by
  cases p with
  | device udd manufacturer product serial_number =>
    cases q with
    | device udd' manufacturer' product' serial_number' =>
      simp only [Print.Unbroken, Print.strings, List.forall_mem_cons] at hp hq
      refine distinct_word _ _ fun _ => distinct_byte _ _ fun _ => distinct_byte _ _ fun _ => ?_
      refine distinct_byte _ _ fun _ => distinct_byte _ _ fun _ => distinct_word _ _ fun _ => ?_
      refine distinct_word _ _ fun _ => distinct_word _ _ fun _ => ?_
      refine distinct_byte _ _ fun _ => distinct_chars hp.1 hq.1 ?_
      refine distinct_byte _ _ fun _ => distinct_chars hp.2.1 hq.2.1 ?_
      refine distinct_byte _ _ fun _ => distinct_chars hp.2.2.1 hq.2.2.1 ?_
      exact distinct_byte _ _ fun _ => ⟨rfl, rfl⟩
    | _ => cases hkind
  | config ucd description =>
    cases q with
    | config ucd' description' =>
      simp only [Print.Unbroken, Print.strings, List.forall_mem_cons] at hp hq
      refine distinct_word _ _ fun _ => distinct_byte _ _ fun _ => distinct_byte _ _ fun _ => ?_
      refine distinct_byte _ _ fun _ => distinct_chars hp.1 hq.1 ?_
      exact distinct_byte _ _ fun _ => distinct_byte _ _ fun _ => ⟨rfl, rfl⟩
    | _ => cases hkind
  | interface uid description =>
    cases q with
    | interface uid' description' =>
      simp only [Print.Unbroken, Print.strings, List.forall_mem_cons] at hp hq
      refine distinct_byte _ _ fun _ => distinct_byte _ _ fun _ => distinct_byte _ _ fun _ => ?_
      refine distinct_dec _ _ fun _ => ?_
      refine distinct_byte _ _ fun hclass => distinct_same (congrArg getClass hclass) ?_
      refine distinct_byte _ _ fun hsub => distinct_same (congrArg getClass hsub) ?_
      refine distinct_byte _ _ fun _ => distinct_byte _ _ fun _ => ?_
      exact distinct_chars hp.1 hq.1 ⟨rfl, rfl⟩
    | _ => cases hkind
  | endpoint ued =>
    cases q with
    | endpoint ued' =>
      refine distinct_byte _ _ fun haddress => distinct_byte _ _ fun _ => ?_
      refine distinct_same (by rw [endpointDirection, endpointDirection, haddress]) ?_
      refine distinct_byte _ _ fun hattr => ?_
      refine distinct_same (congrArg endpointTransferType hattr) ?_
      refine distinct_same (congrArg endpointSyncType hattr) ?_
      refine distinct_same (congrArg endpointUsageType hattr) ?_
      refine distinct_word _ _ fun hsize _ => ?_
      refine distinct_same (congrArg endpointTransacPerMf hsize) ?_
      exact distinct_byte _ _ fun _ => ⟨rfl, rfl⟩
    | _ => cases hkind
  | interfaceAssociation uiad =>
    cases q with
    | interfaceAssociation uiad' =>
      refine distinct_byte _ _ fun _ => distinct_byte _ _ fun _ => distinct_byte _ _ fun _ => ?_
      exact distinct_byte _ _ fun _ => distinct_byte _ _ fun _ => distinct_byte _ _ fun _ =>
        ⟨rfl, rfl⟩
    | _ => cases hkind

/-- The arguments are all there is to a call. -/
theorem Print.eq_of_args {p q : Print} (hkind : p.kind = q.kind) (hhead : p.head = q.head)
    (hrest : p.rest = q.rest) : p = q := by
  cases p with
  | device udd manufacturer product serial_number =>
    cases q with
    | device udd' manufacturer' product' serial_number' =>
      cases udd
      cases udd'
      simp only [Print.head, Print.rest, List.cons.injEq, Arg.num.injEq, Arg.str.injEq,
        UInt8.toNat_inj, UInt16.toNat_inj, chars_inj] at hhead hrest
      simp [hhead, hrest]
    | _ => cases hkind
  | config ucd description =>
    cases q with
    | config ucd' description' =>
      cases ucd
      cases ucd'
      simp only [Print.head, Print.rest, List.cons.injEq, Arg.num.injEq, Arg.str.injEq,
        UInt8.toNat_inj, UInt16.toNat_inj, chars_inj] at hhead hrest
      simp [hhead, hrest]
    | _ => cases hkind
  | interface uid description =>
    cases q with
    | interface uid' description' =>
      cases uid
      cases uid'
      simp only [Print.head, Print.rest, List.cons.injEq, Arg.num.injEq, Arg.str.injEq,
        UInt8.toNat_inj, chars_inj] at hhead hrest
      simp [hhead, hrest]
    | _ => cases hkind
  | endpoint ued =>
    cases q with
    | endpoint ued' =>
      cases ued
      cases ued'
      simp only [Print.head, Print.rest, List.cons.injEq, Arg.num.injEq, UInt8.toNat_inj,
        UInt16.toNat_inj] at hhead hrest
      simp [hhead, hrest]
    | _ => cases hkind
  | interfaceAssociation uiad =>
    cases q with
    | interfaceAssociation uiad' =>
      cases uiad
      cases uiad'
      simp only [Print.head, Print.rest, List.cons.injEq, Arg.num.injEq, UInt8.toNat_inj]
        at hhead hrest
      simp [hhead, hrest]
    | _ => cases hkind

/-- **A printed text** determines the call and where it ends, when the strings do not break its
lines. -/
theorem Print.text_inj {p q : Print} {s t : List Char} (hp : p.Unbroken) (hq : q.Unbroken)
    (h : p.text ++ s = q.text ++ t) : p = q ∧ s = t := by
  have hkind := Print.kind_eq h
  rw [p.text_eq, q.text_eq, hkind, fprintf_append p.head_fits, fprintf_append q.head_fits,
    List.append_assoc, List.append_assoc] at h
  obtain ⟨hhead, hbehind⟩ := fprintf_inj conversions_head (p.head_distinct q) h
  obtain ⟨hrest, hst⟩ := fprintf_inj q.kind.format_spec.2.1 (Print.rest_distinct hkind hp hq)
    hbehind
  exact ⟨Print.eq_of_args hkind hhead hrest, hst⟩

theorem Print.text_ne_nil (p : Print) : p.text ≠ [] := by
  intro h
  have hleading : (leading headFormat)[0]? = some 'L' := by decide +kernel
  have hfirst := getElem?_fprintf hleading p.head (fprintf p.kind.rest p.rest)
  rw [← fprintf_append p.head_fits, ← p.text_eq, h] at hfirst
  cases hfirst

/-- **The lines of a list** of calls determine it. -/
theorem texts_inj {ps qs : List Print} (hps : ∀ p ∈ ps, p.Unbroken) (hqs : ∀ q ∈ qs, q.Unbroken)
    (h : ps.flatMap Print.text = qs.flatMap Print.text) : ps = qs :=
  flatMap_inj (fun _ _ _ _ hp hq => Print.text_inj hp hq) Print.text_ne_nil hps hqs h

end Droidbox.Usb.Listing
