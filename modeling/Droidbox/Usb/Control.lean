import Droidbox.Lib.Session
import Droidbox.Usb.Dump

/-!
# Droidbox — control requests

The functions of `lib/usb/usb.c` that hand the kernel one request each, from `usb_clear_feature` to
`usb_release_interface`; `usb_get_descriptor` hands it a second one for a configuration. They fill
in a `struct usbdevfs_ctrltransfer` on the stack, not always all of it.

* **`log_identifies`**: the requests the kernel was handed, with what came of them, tell which
  functions were called and what they returned.
* **`log_determined_iff`**: which functions hand the kernel what they never wrote.
* **`usbGetDescriptor_eq_dump`**: the requests of a dump are those of `usb_get_descriptor`.
-/

namespace Droidbox.Usb.Control

open LittleEndian Session

/-! ## Requests -/

/-- `usbct.data`, which some functions leave as it is. -/
inductive Data where
  | buff
  | unset
  deriving DecidableEq, Repr

/-- `struct usbdevfs_ctrltransfer`. `usb_get_descriptor` leaves `wLength` as it is for the types it
does not know. -/
structure CtrlTransfer where
  bRequestType : UInt8
  bRequest : UInt8
  wValue : UInt16
  wIndex : UInt16
  wLength : Option UInt16
  timeout : UInt32
  data : Data
  deriving DecidableEq, Repr

/-- What the kernel reads of it was written: the length, and where there is one the pointer. -/
def CtrlTransfer.Determined (t : CtrlTransfer) : Prop :=
  t.wLength = some 0 ∨ t.wLength.isSome ∧ t.data = .buff

/-- An `ioctl`, with what its argument points to. -/
inductive Ioctl where
  | control (t : CtrlTransfer)
  | setInterface (interface altsetting : UInt32)
  | disconnect (ifno : UInt32)
  | claimInterface (iface : UInt32)
  | releaseInterface (iface : UInt32)
  deriving DecidableEq, Repr

def Ioctl.Determined : Ioctl → Prop
  | .control t => t.Determined
  | _ => True

/-- An `ioctl` with its outcome: what the device sent, or nothing where it returned -1. -/
structure Issued where
  ioctl : Ioctl
  reply : Option (List UInt8)
  deriving DecidableEq, Repr

/-- What the `ioctl`s of a call come to, and what was on the stack where `wLength` lies. -/
structure Kernel where
  replies : Nat → Option (List UInt8)
  wLength : UInt16

/-- What a function did: its `ioctl`s, the buffer it left, `*wlen` if it was set, and its return
value. -/
structure Effect (n : Nat) where
  issued : List Issued
  buff : Buffer n
  wlen : Option Nat
  ret : Int

/-! ## Constants -/

def timeout : UInt32 := 1000

def usbDirOut : UInt8 := 0x00
def usbDirIn : UInt8 := 0x80
def usbTypeStandard : UInt8 := 0x00
def usbRecipDevice : UInt8 := 0x00
def usbRecipInterface : UInt8 := 0x01
def usbRecipEndpoint : UInt8 := 0x02

def usbReqGetStatus : UInt8 := 0x00
def usbReqClearFeature : UInt8 := 0x01
def usbReqSetAddress : UInt8 := 0x05
def usbReqGetDescriptor : UInt8 := 0x06
def usbReqSetDescriptor : UInt8 := 0x07
def usbReqGetConfiguration : UInt8 := 0x08
def usbReqSetConfiguration : UInt8 := 0x09
def usbReqGetInterface : UInt8 := 0x0A
def usbReqSynchFrame : UInt8 := 0x0C

def usbEndpointHalt : UInt16 := 0
def usbDeviceRemoteWakeup : UInt16 := 1
def usbDeviceTestMode : UInt16 := 2

/-- `(unsigned short)((type << 8) | index)` -/
def descriptorValue (type index : UInt8) : UInt16 := type.toUInt16 <<< 8 ||| index.toUInt16

/-- `usbct.wLength` of the request for a descriptor. -/
def descriptorLength (type : UInt8) : Option UInt16 :=
  if type = 0x01 then some 18       -- USB_DT_DEVICE
  else if type = 0x02 then some 9   -- USB_DT_CONFIG
  else if type = 0x03 then some 126 -- USB_DT_STRING
  else if type = 0x04 then some 9   -- USB_DT_INTERFACE
  else if type = 0x05 then some 7   -- USB_DT_ENDPOINT
  else if type = 0x06 then some 32  -- USB_DT_DEVICE_QUALIFIER
  else if type = 0x07 then some 32  -- USB_DT_OTHER_SPEED_CONFIG
  else none

/-! ## The functions

Each one beside the `struct usbdevfs_ctrltransfer` it fills in. -/

section
variable {n : Nat} (k : Kernel) (buff : Buffer n)

/-- One `ioctl` that transfers nothing to the buffer. -/
def send (i : Ioctl) : Effect n :=
  ⟨[⟨i, k.replies 0⟩], buff, none, if (k.replies 0).isSome then 0 else 1⟩

/-- One `ioctl` that fills the buffer. `*wlen` is `early` if it fails. -/
def receive (t : CtrlTransfer) (early late : Option Nat) : Effect n :=
  match k.replies 0 with
  | none => ⟨[⟨.control t, none⟩], buff, early, 1⟩
  | some reply =>
    ⟨[⟨.control t, some reply⟩], control (t.wLength.getD k.wLength) reply buff, late, 0⟩

def clearFeatureRequest (feature_selector w_index : UInt16) : CtrlTransfer :=
  let recipient :=
    if feature_selector = usbDeviceRemoteWakeup then usbRecipDevice
    else if feature_selector = usbEndpointHalt then usbRecipEndpoint
    else if feature_selector = usbDeviceTestMode then usbRecipDevice
    else 0
  { bRequestType := usbDirOut ||| usbTypeStandard ||| recipient
    bRequest := usbReqClearFeature
    wValue := feature_selector
    wIndex := w_index
    wLength := some 0
    timeout := timeout
    data := .unset }

def usbClearFeature (feature_selector w_index : UInt16) : Effect n :=
  send k buff (.control (clearFeatureRequest feature_selector w_index))

def getConfigurationRequest : CtrlTransfer where
  bRequestType := usbDirIn
  bRequest := usbReqGetConfiguration
  wValue := 0
  wIndex := 0
  wLength := some 1
  timeout := timeout
  data := .buff

def usbGetConfiguration : Effect n :=
  receive k buff getConfigurationRequest (some 1) (some 1)

/-- For a configuration the first one. -/
def getDescriptorRequest (type index : UInt8) (langid : UInt16) : CtrlTransfer where
  bRequestType := usbDirIn
  bRequest := usbReqGetDescriptor
  wValue := descriptorValue type index
  wIndex := langid
  wLength := descriptorLength type
  timeout := timeout
  data := .buff

/-- `usb_get_descriptor`, with a `wlen` that is not `NULL`. -/
def usbGetDescriptor (type index : UInt8) (langid : UInt16) : Effect n :=
  let usbct := getDescriptorRequest type index langid
  match k.replies 0 with
  | none => ⟨[⟨.control usbct, none⟩], buff, none, 1⟩
  | some reply =>
    let buff := control (usbct.wLength.getD k.wLength) reply buff
    if type = usbDtConfig then
      -- the complete configuration
      let wLength := word16 buff.bytes 2
      let again := { usbct with wLength := some wLength }
      match k.replies 1 with
      | none => ⟨[⟨.control usbct, some reply⟩, ⟨.control again, none⟩], buff, none, 1⟩
      | some rest =>
        let buff := control wLength rest buff
        ⟨[⟨.control usbct, some reply⟩, ⟨.control again, some rest⟩], buff,
          some (byteAt buff.bytes 0).toNat, 0⟩
    else
      ⟨[⟨.control usbct, some reply⟩], buff, some (byteAt buff.bytes 0).toNat, 0⟩

def getInterfaceRequest (interface : UInt16) : CtrlTransfer where
  bRequestType := usbDirIn ||| usbTypeStandard ||| usbRecipInterface
  bRequest := usbReqGetInterface
  wValue := 0
  wIndex := interface
  wLength := some 1
  timeout := timeout
  data := .buff

def usbGetInterface (interface : UInt16) : Effect n :=
  receive k buff (getInterfaceRequest interface) none (some 1)

def getStatusRequest (recipient w_index : UInt8) : CtrlTransfer where
  bRequestType := usbDirIn ||| usbTypeStandard ||| recipient
  bRequest := usbReqGetStatus
  wValue := 0
  wIndex := w_index.toUInt16
  wLength := some 2
  timeout := timeout
  data := .buff

def usbGetStatus (recipient w_index : UInt8) : Effect n :=
  receive k buff (getStatusRequest recipient w_index) (some 2) (some 2)

def setAddressRequest (address : UInt16) : CtrlTransfer where
  bRequestType := usbDirOut ||| usbTypeStandard ||| usbRecipDevice
  bRequest := usbReqSetAddress
  wValue := address
  wIndex := 0
  wLength := some 0
  timeout := timeout
  data := .unset

def usbSetAddress (address : UInt16) : Effect n :=
  send k buff (.control (setAddressRequest address))

def setConfigurationRequest (config : UInt16) : CtrlTransfer where
  bRequestType := usbDirOut
  bRequest := usbReqSetConfiguration
  wValue := config
  wIndex := 0
  wLength := some 0
  timeout := timeout
  data := .unset

def usbSetConfiguration (config : UInt16) : Effect n :=
  send k buff (.control (setConfigurationRequest config))

def setDescriptorRequest (type index : UInt8) (langid : UInt16) : CtrlTransfer where
  bRequestType := usbDirOut ||| usbTypeStandard
  bRequest := usbReqSetDescriptor
  wValue := descriptorValue type index
  wIndex := langid
  wLength := some 126
  timeout := timeout
  data := .unset

/-- `usb_set_descriptor`, which uses neither `buff` nor `wlen`. -/
def usbSetDescriptor (type index : UInt8) (langid : UInt16) : Effect n :=
  send k buff (.control (setDescriptorRequest type index langid))

def usbSetInterface (interface alternate_setting : UInt16) : Effect n :=
  send k buff (.setInterface interface.toUInt32 alternate_setting.toUInt32)

def synchFrameRequest (endpoint : UInt8) : CtrlTransfer where
  bRequestType := usbDirIn ||| usbTypeStandard ||| usbRecipEndpoint
  bRequest := usbReqSynchFrame
  wValue := 0
  wIndex := endpoint.toUInt16
  wLength := some 2
  timeout := timeout
  data := .buff

def usbSynchFrame (endpoint : UInt8) : Effect n :=
  receive k buff (synchFrameRequest endpoint) none none

def usbDetachInterface (interface : UInt16) : Effect n :=
  send k buff (.disconnect interface.toUInt32)

def usbClaimInterface (interface : UInt16) : Effect n :=
  send k buff (.claimInterface interface.toUInt32)

def usbReleaseInterface (interface : UInt16) : Effect n :=
  send k buff (.releaseInterface interface.toUInt32)

end

/-! ## Calls -/

inductive Call where
  | clearFeature (feature_selector w_index : UInt16)
  | getConfiguration
  | getDescriptor (type index : UInt8) (langid : UInt16)
  | getInterface (interface : UInt16)
  | getStatus (recipient w_index : UInt8)
  | setAddress (address : UInt16)
  | setConfiguration (config : UInt16)
  | setDescriptor (type index : UInt8) (langid : UInt16)
  | setInterface (interface alternate_setting : UInt16)
  | synchFrame (endpoint : UInt8)
  | detachInterface (interface : UInt16)
  | claimInterface (interface : UInt16)
  | releaseInterface (interface : UInt16)
  deriving DecidableEq, Repr

variable {n : Nat}

def Call.exec (c : Call) (k : Kernel) (buff : Buffer n) : Effect n :=
  match c with
  | .clearFeature feature_selector w_index => usbClearFeature k buff feature_selector w_index
  | .getConfiguration => usbGetConfiguration k buff
  | .getDescriptor type index langid => usbGetDescriptor k buff type index langid
  | .getInterface interface => usbGetInterface k buff interface
  | .getStatus recipient w_index => usbGetStatus k buff recipient w_index
  | .setAddress address => usbSetAddress k buff address
  | .setConfiguration config => usbSetConfiguration k buff config
  | .setDescriptor type index langid => usbSetDescriptor k buff type index langid
  | .setInterface interface alternate_setting => usbSetInterface k buff interface alternate_setting
  | .synchFrame endpoint => usbSynchFrame k buff endpoint
  | .detachInterface interface => usbDetachInterface k buff interface
  | .claimInterface interface => usbClaimInterface k buff interface
  | .releaseInterface interface => usbReleaseInterface k buff interface

/-- What the kernel is handed, first. -/
def Call.request : Call → Ioctl
  | .clearFeature feature_selector w_index =>
    .control (clearFeatureRequest feature_selector w_index)
  | .getConfiguration => .control getConfigurationRequest
  | .getDescriptor type index langid => .control (getDescriptorRequest type index langid)
  | .getInterface interface => .control (getInterfaceRequest interface)
  | .getStatus recipient w_index => .control (getStatusRequest recipient w_index)
  | .setAddress address => .control (setAddressRequest address)
  | .setConfiguration config => .control (setConfigurationRequest config)
  | .setDescriptor type index langid => .control (setDescriptorRequest type index langid)
  | .setInterface interface alternate_setting =>
    .setInterface interface.toUInt32 alternate_setting.toUInt32
  | .synchFrame endpoint => .control (synchFrameRequest endpoint)
  | .detachInterface interface => .disconnect interface.toUInt32
  | .claimInterface interface => .claimInterface interface.toUInt32
  | .releaseInterface interface => .releaseInterface interface.toUInt32

def returned (reply : Option (List UInt8)) : Int := if reply.isSome then 0 else 1

/-- The second request for a configuration. -/
def againRequest (index : UInt8) (langid wLength : UInt16) : CtrlTransfer :=
  { getDescriptorRequest usbDtConfig index langid with wLength := some wLength }

section
variable (k : Kernel) (buff : Buffer n)

theorem receive_issued (t : CtrlTransfer) (early late : Option Nat) :
    (receive k buff t early late).issued = [⟨.control t, k.replies 0⟩]
      ∧ (receive k buff t early late).ret = returned (k.replies 0) := by
  unfold receive returned
  cases k.replies 0 with
  | none => exact ⟨rfl, rfl⟩
  | some reply => exact ⟨rfl, rfl⟩

theorem usbGetDescriptor_refused {type index : UInt8} {langid : UInt16}
    (h : type = usbDtConfig → k.replies 0 = none) :
    (usbGetDescriptor k buff type index langid).issued
        = [⟨.control (getDescriptorRequest type index langid), k.replies 0⟩]
      ∧ (usbGetDescriptor k buff type index langid).ret = returned (k.replies 0) := by
  unfold usbGetDescriptor
  dsimp only
  cases hreply : k.replies 0 with
  | none => exact ⟨rfl, rfl⟩
  | some reply =>
    have htype : type ≠ usbDtConfig := fun heq => by simp [h heq] at hreply
    dsimp only
    rw [if_neg htype]
    exact ⟨rfl, rfl⟩

theorem usbGetDescriptor_config {index : UInt8} {langid : UInt16} {reply : List UInt8}
    (h : k.replies 0 = some reply) :
    ∃ wLength, (usbGetDescriptor k buff usbDtConfig index langid).issued
        = [⟨.control (getDescriptorRequest usbDtConfig index langid), some reply⟩,
          ⟨.control (againRequest index langid wLength), k.replies 1⟩]
      ∧ (usbGetDescriptor k buff usbDtConfig index langid).ret = returned (k.replies 1) := by
  refine ⟨word16 (control 9 reply buff).bytes 2, ?_⟩
  unfold usbGetDescriptor
  rw [h]
  dsimp only
  rw [if_pos rfl]
  cases k.replies 1 with
  | none => exact ⟨rfl, rfl⟩
  | some rest => exact ⟨rfl, rfl⟩

/-- A configuration that was answered is asked for again. -/
def Call.AsksAgain (c : Call) (reply : Option (List UInt8)) : Prop :=
  reply.isSome ∧ ∃ index langid, c = .getDescriptor usbDtConfig index langid

/-- **What a call does.** -/
theorem Call.exec_cases (c : Call) :
    ∃ rest, (c.exec k buff).issued = ⟨c.request, k.replies 0⟩ :: rest
      ∧ (¬ c.AsksAgain (k.replies 0) ∧ rest = [] ∧ (c.exec k buff).ret = returned (k.replies 0)
        ∨ c.AsksAgain (k.replies 0) ∧ (c.exec k buff).ret = returned (k.replies 1)
          ∧ ∃ index langid wLength,
              rest = [⟨.control (againRequest index langid wLength), k.replies 1⟩]) := by
  have honce : ∀ {e : Effect n} {i : Ioctl}, ¬ c.AsksAgain (k.replies 0) →
      e.issued = [⟨i, k.replies 0⟩] ∧ e.ret = returned (k.replies 0) →
      ∃ rest, e.issued = ⟨i, k.replies 0⟩ :: rest
        ∧ (¬ c.AsksAgain (k.replies 0) ∧ rest = [] ∧ e.ret = returned (k.replies 0)
          ∨ c.AsksAgain (k.replies 0) ∧ e.ret = returned (k.replies 1)
            ∧ ∃ index langid wLength,
                rest = [⟨.control (againRequest index langid wLength), k.replies 1⟩]) :=
    fun hnot h => ⟨[], h.1, .inl ⟨hnot, rfl, h.2⟩⟩
  cases c with
  | getDescriptor type index langid =>
    by_cases hagain : type = usbDtConfig ∧ (k.replies 0).isSome
    · obtain ⟨rfl, hsome⟩ := hagain
      obtain ⟨reply, hreply⟩ := Option.isSome_iff_exists.mp hsome
      obtain ⟨wLength, hissued, hret⟩ := usbGetDescriptor_config k buff hreply
      exact ⟨_, hreply ▸ hissued,
        .inr ⟨⟨hsome, index, langid, rfl⟩, hret, index, langid, wLength, rfl⟩⟩
    · have hrefused : type = usbDtConfig → k.replies 0 = none := by
        intro htype
        exact Option.not_isSome_iff_eq_none.mp fun hsome => hagain ⟨htype, hsome⟩
      refine honce ?_ (usbGetDescriptor_refused k buff hrefused)
      rintro ⟨hsome, index', langid', heq⟩
      exact hagain ⟨(Call.getDescriptor.inj heq).1, hsome⟩
  | getConfiguration => exact honce nofun (receive_issued k buff _ _ _)
  | getInterface interface => exact honce nofun (receive_issued k buff _ _ _)
  | getStatus recipient w_index => exact honce nofun (receive_issued k buff _ _ _)
  | synchFrame endpoint => exact honce nofun (receive_issued k buff _ _ _)
  | clearFeature | setAddress | setConfiguration | setDescriptor | setInterface | detachInterface
  | claimInterface | releaseInterface => exact honce nofun ⟨rfl, rfl⟩

end

/-! ## Reading a request -/

/-- A call as its requests show it: the direction is always part of the recipient. -/
def Call.shown : Call → Call
  | .getStatus recipient w_index => .getStatus (recipient &&& 0x7F) w_index
  | c => c

/-- The call that makes a request. -/
def decode : Ioctl → Option Call
  | .setInterface interface altsetting =>
    some (.setInterface interface.toUInt16 altsetting.toUInt16)
  | .disconnect ifno => some (.detachInterface ifno.toUInt16)
  | .claimInterface iface => some (.claimInterface iface.toUInt16)
  | .releaseInterface iface => some (.releaseInterface iface.toUInt16)
  | .control t =>
    let type := (t.wValue >>> 8).toUInt8
    let index := t.wValue.toUInt8
    if t.bRequest = usbReqGetStatus then
      some (.getStatus (t.bRequestType &&& 0x7F) t.wIndex.toUInt8)
    else if t.bRequest = usbReqClearFeature then some (.clearFeature t.wValue t.wIndex)
    else if t.bRequest = usbReqSetAddress then some (.setAddress t.wValue)
    else if t.bRequest = usbReqGetDescriptor then some (.getDescriptor type index t.wIndex)
    else if t.bRequest = usbReqSetDescriptor then some (.setDescriptor type index t.wIndex)
    else if t.bRequest = usbReqGetConfiguration then some .getConfiguration
    else if t.bRequest = usbReqSetConfiguration then some (.setConfiguration t.wValue)
    else if t.bRequest = usbReqGetInterface then some (.getInterface t.wIndex)
    else if t.bRequest = usbReqSynchFrame then some (.synchFrame t.wIndex.toUInt8)
    else none

theorem descriptorValue_bytes (type index : UInt8) :
    (descriptorValue type index).toUInt8 = index
      ∧ (descriptorValue type index >>> 8).toUInt8 = type := by
  have hbytes := le16_word16 [index, type] 0
  obtain ⟨hindex, htype⟩ := List.cons.inj hbytes
  exact ⟨hindex, (List.cons.inj htype).1⟩

theorem getStatus_recipient (recipient : UInt8) :
    (usbDirIn ||| usbTypeStandard ||| recipient) &&& 0x7F = recipient &&& 0x7F := by
  apply UInt8.toBitVec_inj.mp
  rw [UInt8.toBitVec_and, UInt8.toBitVec_or, BitVec.and_or_distrib_right, UInt8.toBitVec_and]
  exact BitVec.zero_or

/-- **Every request is read back.** -/
theorem decode_request (c : Call) : decode c.request = some c.shown := by
  cases c with
  | getStatus recipient w_index =>
    show some (Call.getStatus ((usbDirIn ||| usbTypeStandard ||| recipient) &&& 0x7F)
      w_index.toUInt16.toUInt8) = _
    rw [getStatus_recipient, UInt8.toUInt8_toUInt16]
    rfl
  | getDescriptor type index langid =>
    obtain ⟨hindex, htype⟩ := descriptorValue_bytes type index
    show some (Call.getDescriptor _ _ langid) = _
    rw [getDescriptorRequest, hindex, htype]
    rfl
  | setDescriptor type index langid =>
    obtain ⟨hindex, htype⟩ := descriptorValue_bytes type index
    show some (Call.setDescriptor _ _ langid) = _
    rw [setDescriptorRequest, hindex, htype]
    rfl
  | setInterface interface alternate_setting =>
    show some (Call.setInterface _ _) = _
    rw [UInt16.toUInt16_toUInt32, UInt16.toUInt16_toUInt32]
    rfl
  | synchFrame endpoint =>
    show some (Call.synchFrame endpoint.toUInt16.toUInt8) = _
    rw [UInt8.toUInt8_toUInt16]
    rfl
  | detachInterface interface =>
    show some (Call.detachInterface _) = _
    rw [UInt16.toUInt16_toUInt32]
    rfl
  | claimInterface interface =>
    show some (Call.claimInterface _) = _
    rw [UInt16.toUInt16_toUInt32]
    rfl
  | releaseInterface interface =>
    show some (Call.releaseInterface _) = _
    rw [UInt16.toUInt16_toUInt32]
    rfl
  | clearFeature | getConfiguration | getInterface | setAddress | setConfiguration => rfl

theorem shown_eq_of_request {c c' : Call} (h : c.request = c'.request) : c.shown = c'.shown := by
  have hdecode := congrArg decode h
  rw [decode_request, decode_request] at hdecode
  exact Option.some.inj hdecode

theorem eq_of_shown_getDescriptor {c : Call} {type index : UInt8} {langid : UInt16}
    (h : c.shown = .getDescriptor type index langid) : c = .getDescriptor type index langid := by
  cases c with
  | getStatus recipient w_index => cases h
  | _ => exact h

theorem asksAgain_congr {c c' : Call} {reply : Option (List UInt8)} (h : c.shown = c'.shown)
    (hagain : c.AsksAgain reply) : c'.AsksAgain reply := by
  obtain ⟨hsome, index, langid, rfl⟩ := hagain
  exact ⟨hsome, index, langid, eq_of_shown_getDescriptor h.symm⟩

theorem getStatusRequest_shown (recipient w_index : UInt8) :
    getStatusRequest (recipient &&& 0x7F) w_index = getStatusRequest recipient w_index := by
  have hor : usbDirIn ||| usbTypeStandard ||| (recipient &&& 0x7F)
      = usbDirIn ||| usbTypeStandard ||| recipient := by
    have hbits : ∀ r : BitVec 8,
        0x80#8 ||| 0x00#8 ||| (r &&& 0x7F#8) = 0x80#8 ||| 0x00#8 ||| r := by decide
    exact UInt8.toBitVec_inj.mp (hbits recipient.toBitVec)
  rw [getStatusRequest, getStatusRequest, hor]

/-- What is shown of a call is all that it does. -/
theorem exec_shown (c : Call) (k : Kernel) (buff : Buffer n) :
    c.shown.exec k buff = c.exec k buff := by
  cases c with
  | getStatus recipient w_index =>
    show usbGetStatus k buff (recipient &&& 0x7F) w_index = usbGetStatus k buff recipient w_index
    rw [usbGetStatus, usbGetStatus, getStatusRequest_shown]
  | _ => rfl

/-! ## Logs -/

/-- A call with what it returned. -/
structure Made where
  call : Call
  ret : Int
  deriving DecidableEq, Repr

def Made.shown (m : Made) : Made := ⟨m.call.shown, m.ret⟩

/-- What the kernel may log of it. -/
def Made.Logged (m : Made) (log : List Issued) : Prop :=
  ∃ (n : Nat) (k : Kernel) (buff : Buffer n),
    (m.call.exec k buff).issued = log ∧ (m.call.exec k buff).ret = m.ret

theorem Made.not_logged_nil (m : Made) : ¬ m.Logged [] := by
  rintro ⟨n, k, buff, hissued, -⟩
  obtain ⟨rest, h, -⟩ := m.call.exec_cases k buff
  rw [h] at hissued
  cases hissued

theorem Made.logged_shown {m : Made} {log : List Issued} : m.shown.Logged log ↔ m.Logged log := by
  unfold Made.Logged Made.shown
  simp only [exec_shown]

theorem Made.logged_congr {m m' : Made} {log : List Issued} (h : m.shown = m'.shown)
    (hlog : m.Logged log) : m'.Logged log :=
  logged_shown.mp (h ▸ logged_shown.mpr hlog)

/-- **A log ends where the call does.** The first request tells the call, and with its outcome
whether there is a second one. -/
theorem Made.logged_unique {m m' : Made} {u u' v v' : List Issued} (h : m.Logged u)
    (h' : m'.Logged u') (heq : u ++ v = u' ++ v') : m.shown = m'.shown ∧ u = u' := by
  obtain ⟨n, k, buff, rfl, hret⟩ := h
  obtain ⟨n', k', buff', rfl, hret'⟩ := h'
  obtain ⟨rest, hissued, hcases⟩ := m.call.exec_cases k buff
  obtain ⟨rest', hissued', hcases'⟩ := m'.call.exec_cases k' buff'
  rw [hissued, hissued'] at heq ⊢
  obtain ⟨hfirst, hrest⟩ := List.cons.inj heq
  obtain ⟨hrequest, hreply⟩ := Issued.mk.inj hfirst
  have hshown := shown_eq_of_request hrequest
  rw [Made.shown, Made.shown, hshown, hfirst, ← hret, ← hret']
  rcases hcases with ⟨hnot, rfl, hr⟩ | ⟨hagain, hr, index, langid, wLength, rfl⟩
  · rcases hcases' with ⟨-, rfl, hr'⟩ | ⟨hagain', -, -⟩
    · rw [hr, hr', hreply]
      exact ⟨rfl, rfl⟩
    · exact absurd (asksAgain_congr hshown.symm (hreply ▸ hagain')) hnot
  · rcases hcases' with ⟨hnot', -, -⟩ | ⟨-, hr', index', langid', wLength', rfl⟩
    · exact absurd (asksAgain_congr hshown (hreply ▸ hagain)) hnot'
    · obtain ⟨hsecond, -⟩ := List.cons.inj hrest
      obtain ⟨hagain, houtcome⟩ := Issued.mk.inj hsecond
      rw [hr, hr', houtcome, hagain]
      exact ⟨rfl, rfl⟩

/-- **Which calls a log is of.** -/
theorem log_identifies {ms ms' : List Made} {log : List Issued} (h : Spells Made.Logged ms log) :
    Spells Made.Logged ms' log ↔ ms.map Made.shown = ms'.map Made.shown := by
  have hsame : Spells Made.Logged ms' log
      ↔ List.Forall₂ (fun m m' => m.shown = m'.shown) ms ms' :=
    h.iff_same Made.not_logged_nil (fun _ _ _ _ _ _ => Made.logged_unique)
      (fun _ _ _ => Made.logged_congr)
  rw [hsame, ← List.forall₂_eq_eq_eq, List.forall₂_map_left_iff, List.forall₂_map_right_iff]

/-- A status that was refused, a configuration in two requests, and a string that was set. -/
def sampleLog : List Issued :=
  [⟨.control (getStatusRequest 0x00 0), none⟩]
  ++ ([⟨.control (getDescriptorRequest usbDtConfig 0 0), some [9, 2, 9, 0, 0, 1, 0, 0x80, 50]⟩,
      ⟨.control (againRequest 0 0 9), some [9, 2, 9, 0, 0, 1, 0, 0x80, 50]⟩]
    ++ ([⟨.control (setDescriptorRequest 0x03 1 0), some []⟩] ++ []))

theorem sampleLog_spells : Spells Made.Logged
    [⟨.getStatus 0x00 0, 1⟩, ⟨.getDescriptor usbDtConfig 0 0, 0⟩, ⟨.setDescriptor 0x03 1 0, 0⟩]
    sampleLog := by
  have hstatus : Made.Logged ⟨.getStatus 0x00 0, 1⟩ [⟨.control (getStatusRequest 0x00 0), none⟩] :=
    ⟨0, ⟨fun _ => none, 0⟩, .zero 0, rfl, rfl⟩
  have hconfig : Made.Logged ⟨.getDescriptor usbDtConfig 0 0, 0⟩
      [⟨.control (getDescriptorRequest usbDtConfig 0 0), some [9, 2, 9, 0, 0, 1, 0, 0x80, 50]⟩,
        ⟨.control (againRequest 0 0 9), some [9, 2, 9, 0, 0, 1, 0, 0x80, 50]⟩] :=
    ⟨16, ⟨fun _ => some [9, 2, 9, 0, 0, 1, 0, 0x80, 50], 0⟩, .zero 16, rfl, rfl⟩
  have hset : Made.Logged ⟨.setDescriptor 0x03 1 0, 0⟩
      [⟨.control (setDescriptorRequest 0x03 1 0), some []⟩] :=
    ⟨0, ⟨fun _ => some [], 0⟩, .zero 0, rfl, rfl⟩
  exact .cons hstatus (.cons hconfig (.cons hset .nil))

/-- No one could tell the recipient of the first from another one with the direction in it. -/
theorem log_identifies_status : Spells Made.Logged
    [⟨.getStatus 0x80 0, 1⟩, ⟨.getDescriptor usbDtConfig 0 0, 0⟩, ⟨.setDescriptor 0x03 1 0, 0⟩]
    sampleLog :=
  (log_identifies sampleLog_spells).mpr (by decide)

/-! ## What is on the stack -/

/-- `usb_set_descriptor` forgets the pointer, and `usb_get_descriptor` the length for a type it does
not know. -/
def Call.Initialises : Call → Prop
  | .setDescriptor _ _ _ => False
  | .getDescriptor type _ _ => 0x01 ≤ type ∧ type ≤ 0x07
  | _ => True

theorem descriptorLength_isSome_iff (type : UInt8) :
    (descriptorLength type).isSome ↔ 0x01 ≤ type ∧ type ≤ 0x07 := by
  have htable : ∀ t : BitVec 8, (descriptorLength (.ofBitVec t)).isSome
      ↔ 0x01 ≤ UInt8.ofBitVec t ∧ UInt8.ofBitVec t ≤ 0x07 := by decide
  exact htable type.toBitVec

theorem request_determined_iff (c : Call) : c.request.Determined ↔ c.Initialises := by
  cases c with
  | getDescriptor type index langid =>
    show descriptorLength type = some 0 ∨ (descriptorLength type).isSome ∧ Data.buff = .buff ↔ _
    rw [Call.Initialises, ← descriptorLength_isSome_iff, and_iff_left rfl]
    refine or_iff_right_of_imp fun h => ?_
    rw [h]
    rfl
  | setDescriptor type index langid =>
    refine iff_of_false ?_ id
    rintro (h | ⟨-, h⟩)
    · cases h
    · cases h
  | clearFeature | setAddress | setConfiguration => exact iff_of_true (.inl rfl) trivial
  | getConfiguration | getInterface | getStatus | synchFrame =>
    exact iff_of_true (.inr ⟨rfl, rfl⟩) trivial
  | setInterface | detachInterface | claimInterface | releaseInterface => exact Iff.rfl

theorem Made.determined_iff (m : Made) (u : List Issued) (h : m.Logged u) :
    ∀ i ∈ u, i.ioctl.Determined ↔ m.call.Initialises := by
  obtain ⟨n, k, buff, rfl, -⟩ := h
  obtain ⟨rest, hissued, hcases⟩ := m.call.exec_cases k buff
  rw [hissued, List.forall_mem_cons]
  refine ⟨request_determined_iff m.call, ?_⟩
  rcases hcases with ⟨-, rfl, -⟩ | ⟨⟨-, index', langid', hcall⟩, -, index, langid, wLength, rfl⟩
  · nofun
  · rw [List.forall_mem_singleton, hcall]
    exact iff_of_true (.inr ⟨rfl, rfl⟩) (show 0x01 ≤ usbDtConfig ∧ usbDtConfig ≤ 0x07 by decide)

/-- **What the kernel reads** of a log was written before, exactly when none of the calls is one of
these two. -/
theorem log_determined_iff {ms : List Made} {log : List Issued} (h : Spells Made.Logged ms log) :
    (∀ i ∈ log, i.ioctl.Determined) ↔ ∀ m ∈ ms, m.call.Initialises :=
  h.forall_mem Made.not_logged_nil Made.determined_iff

/-- The string is set from wherever `data` happens to point to. -/
theorem log_determined_descriptor : ¬ ∀ i ∈ sampleLog, i.ioctl.Determined := by
  intro h
  exact (log_determined_iff sampleLog_spells).mp h ⟨.setDescriptor 0x03 1 0, 0⟩ (by decide)

/-! ## Dumps -/

def typeCode : DescriptorType → UInt8
  | .device => usbDtDevice
  | .config => usbDtConfig
  | .string => 0x03

/-- The control transfer of a dump. -/
def Asks (i : Issued) (a : Access) : Prop :=
  ∃ t wLength, i.ioctl = .control t ∧ t.wLength = some wLength ∧ a = .transfer wLength

/-- **The requests of a dump** are those of `usb_get_descriptor`, and so is what comes of them. -/
theorem usbGetDescriptor_eq_dump (type : DescriptorType) (index : UInt8) (langid : UInt16)
    (k : Kernel) (buff : Buffer n) :
    List.Forall₂ Asks (usbGetDescriptor k buff (typeCode type) index langid).issued
        (Usb.usbGetDescriptor type (k.replies 0) (k.replies 1) buff).1
      ∧ (Usb.usbGetDescriptor type (k.replies 0) (k.replies 1) buff).2
        = if (usbGetDescriptor k buff (typeCode type) index langid).ret = 0
          then some (usbGetDescriptor k buff (typeCode type) index langid).buff else none := by
  have hasks : ∀ (r : Option (List UInt8)) (wLength : UInt16) (t : CtrlTransfer),
      t.wLength = some wLength → Asks ⟨.control t, r⟩ (.transfer wLength) :=
    fun r wLength t h => ⟨t, wLength, rfl, h, rfl⟩
  unfold usbGetDescriptor Usb.usbGetDescriptor
  cases type with
  | config =>
    cases k.replies 0 with
    | none => exact ⟨.cons (hasks _ _ _ rfl) .nil, rfl⟩
    | some reply =>
      cases k.replies 1 with
      | none => exact ⟨.cons (hasks _ _ _ rfl) (.cons (hasks _ _ _ rfl) .nil), rfl⟩
      | some rest => exact ⟨.cons (hasks _ _ _ rfl) (.cons (hasks _ _ _ rfl) .nil), rfl⟩
  | device | string =>
    cases k.replies 0 with
    | none => exact ⟨.cons (hasks _ _ _ rfl) .nil, rfl⟩
    | some reply => exact ⟨.cons (hasks _ _ _ rfl) .nil, rfl⟩

end Droidbox.Usb.Control
