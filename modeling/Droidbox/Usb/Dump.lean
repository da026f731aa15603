import Droidbox.Lib.Buffer
import Droidbox.Usb.Walks

/-!
# Droidbox — dumping a device

`usb_dump_device` of `lib/usb/usb.c` with `usb_get_descriptor`: it asks for the descriptors of a
device and walks over those of each configuration, all in one buffer of 4096 bytes. The length of
the second request for a configuration and the limit of the walk are both taken from the device.

A device is what it answers to the requests of one dump. Strings are only printed, from buffers of
their own, so their answers make no difference here.

* **`walkAccesses_inBounds_iff`**: what one round of the walk reads.
* **`dump_inBounds_iff`**: which devices are dumped inside the buffer.
-/

namespace Droidbox.Usb

open LittleEndian Scripted Walk

/-! ## Requests -/

def buffMaxSize : Nat := 4096

/-- The types of descriptors `usb_dump_device` asks for. -/
inductive DescriptorType where
  | device
  | config
  | string
  deriving DecidableEq, Repr

/-- `usbct.wLength` of the request for a descriptor; for a configuration that of the first one. -/
def DescriptorType.wLength : DescriptorType → UInt16
  | .device => 18
  | .config => 9
  | .string => 126

/-- What a dump does: a control transfer for `wLength` bytes, or a read of `count` bytes at
`index` of the buffer while it walks over a configuration of `data_size` bytes. -/
inductive Access where
  | transfer (wLength : UInt16)
  | read (index count : Nat) (data_size : UInt16)
  deriving DecidableEq, Repr

/-- A transfer asks for what the buffer holds, and a read stays inside the buffer and inside the
configuration. -/
def Access.InBounds : Access → Prop
  | .transfer wLength => wLength.toNat ≤ buffMaxSize
  | .read index count data_size =>
    index + count ≤ buffMaxSize ∧ index + count ≤ data_size.toNat

instance : (a : Access) → Decidable a.InBounds
  | .transfer _ | .read _ _ _ => by
    unfold Access.InBounds
    infer_instance

variable {n : Nat}

/-- The kernel stores at most `wLength` bytes of an answer. Those behind the buffer are lost. -/
def control (wLength : UInt16) (reply : List UInt8) (buff : Buffer n) : Buffer n :=
  buff.write 0 ((reply.take wLength.toNat).take n) (by rw [List.length_take]; omega)

/-- `usb_get_descriptor`, with the outcomes of its one or two `ioctl`s. For a configuration the
second request asks for `(buff[3] << 8) | buff[2]` bytes. Without a buffer it returned 1. -/
def usbGetDescriptor (type : DescriptorType) (first second : Option (List UInt8))
    (buff : Buffer n) : List Access × Option (Buffer n) :=
  match first with
  | none => ([.transfer type.wLength], none)
  | some reply =>
    let buff := control type.wLength reply buff
    match type with
    | .config =>
      let wLength := word16 buff.bytes 2
      ([.transfer type.wLength, .transfer wLength],
        second.map fun reply => control wLength reply buff)
    | _ => ([.transfer type.wLength], some buff)

/-- `usb_get_string`: one request into a buffer of its own. -/
def usbGetString : List Access := [.transfer DescriptorType.string.wLength]

/-- `__print_device_descriptor` asks for three strings. -/
def printDeviceDescriptor : List Access := usbGetString ++ usbGetString ++ usbGetString

def printConfigDescriptor : List Access := usbGetString

def printInterfaceDescriptor : List Access := usbGetString

/-! ## The walk -/

/-- The buffer, and what lies behind it. -/
def memoryOf (buff : Buffer 4096) (beyond : Memory) : Memory := fun o =>
  if o < buffMaxSize then byteAt buff.bytes o else beyond o

/-- The body of the loop at `offset`, and the length byte its step adds. -/
def walkAccesses (m : Memory) (data_size : UInt16) (offset : Nat) : List Access :=
  let dt := m (offset + 1)
  let copied :=
    if dt = usbDtInterface then
      .read offset usbDtInterfaceSize data_size :: printInterfaceDescriptor
    else if dt = usbDtEndpoint then
      [.read offset usbDtEndpointSize data_size]
    else if dt = usbDtInterfaceAssociation then
      [.read offset usbDtInterfaceAssociationSize data_size]
    else
      []
  .read (offset + 1) 1 data_size :: copied ++ [.read offset 1 data_size]

def bytesRead (dt : UInt8) : Nat :=
  if dt = usbDtInterface then usbDtInterfaceSize
  else if dt = usbDtEndpoint then usbDtEndpointSize
  else if dt = usbDtInterfaceAssociation then usbDtInterfaceAssociationSize
  else 2

/-- **One round.** Its reads stay inside when the bytes read of the descriptor do. -/
theorem walkAccesses_inBounds_iff (m : Memory) (D : UInt16) (o : Nat) :
    (∀ a ∈ walkAccesses m D o, a.InBounds) ↔
      o + bytesRead (m (o + 1)) ≤ buffMaxSize ∧ o + bytesRead (m (o + 1)) ≤ D.toNat := by
  unfold walkAccesses bytesRead
  dsimp only
  have hstring : DescriptorType.string.wLength.toNat ≤ buffMaxSize := by decide
  split
  · simp only [printInterfaceDescriptor, usbGetString, List.cons_append, List.nil_append,
      List.forall_mem_cons, List.not_mem_nil, false_imp_iff, implies_true, and_true,
      Access.InBounds, usbDtInterfaceSize]
    omega
  · split
    · simp only [List.cons_append, List.nil_append, List.forall_mem_cons, List.not_mem_nil,
        false_imp_iff, implies_true, and_true, Access.InBounds, usbDtEndpointSize]
      omega
    · split
      · simp only [List.cons_append, List.nil_append, List.forall_mem_cons, List.not_mem_nil,
          false_imp_iff, implies_true, and_true, Access.InBounds, usbDtInterfaceAssociationSize]
        omega
      · simp only [List.cons_append, List.nil_append, List.forall_mem_cons, List.not_mem_nil,
          false_imp_iff, implies_true, and_true, Access.InBounds]
        omega

/-! ## The dump -/

/-- What a device answers: to the request for the languages, for the device descriptor, and to the
two requests for each configuration; `none` is a failed `ioctl`. `beyond i` is what lies behind the
buffer while the configuration `i` is walked over. -/
structure Device where
  language : Option (List UInt8)
  device : Option (List UInt8)
  header : Nat → Option (List UInt8)
  configuration : Nat → Option (List UInt8)
  beyond : Nat → Memory

/-- Where the dump stands: in front of the first request, at the head of the loop over the
configurations, at the head of the walk, or at a `return`. -/
inductive Stage where
  | start
  | config (i : Nat)
  | walk (i : Nat) (offset : UInt16)
  | done
  deriving DecidableEq, Repr

/-- The variables of `usb_dump_device`, and all it did so far. -/
structure Dump where
  stage : Stage
  buff : Buffer 4096
  n_config : UInt8
  data_size : UInt16
  trace : List Access

def Dump.start : Dump := ⟨.start, .zero 4096, 0, 0, []⟩

/-- From one loop head to the next. -/
def dumpRound (dev : Device) (s : Dump) : Round Dump Dump :=
  match s.stage with
  | .start =>
    match usbGetDescriptor .string dev.language none s.buff with
    | (trace, none) => .again { s with stage := .done, trace := s.trace ++ trace }
    | (trace, some buff) =>
      match usbGetDescriptor .device dev.device none buff with
      | (trace', none) =>
        .again { s with stage := .done, buff := buff, trace := s.trace ++ trace ++ trace' }
      | (trace', some buff) =>
        .again { s with
          stage := .config 0
          buff := buff
          n_config := byteAt buff.bytes 17
          trace := s.trace ++ trace ++ trace' ++ printDeviceDescriptor }
  | .config i =>
    if i < s.n_config.toNat then
      -- behind a `memset` of the whole buffer
      match usbGetDescriptor .config (dev.header i) (dev.configuration i) (.zero 4096) with
      | (trace, none) => .again { s with stage := .done, trace := s.trace ++ trace }
      | (trace, some buff) =>
        .again { s with
          stage := .walk i 9
          buff := buff
          data_size := word16 buff.bytes 2
          trace := s.trace ++ trace ++ printConfigDescriptor }
    else
      .again { s with stage := .done }
  | .walk i offset =>
    match dumpWalk (memoryOf s.buff (dev.beyond i)) s.data_size offset with
    | .again next =>
      .again { s with
        stage := .walk i next
        trace := s.trace
          ++ walkAccesses (memoryOf s.buff (dev.beyond i)) s.data_size offset.toNat }
    | .leave _ => .again { s with stage := .config (i + 1) }
  | .done => .leave s

/-! ## What the device decides -/

/-- `bNumConfigurations`, when it is asked for. -/
def Device.numConfigurations (dev : Device) : Option UInt8 :=
  dev.language.bind fun language => dev.device.map fun device =>
    byteAt (control DescriptorType.device.wLength device
      (control DescriptorType.string.wLength language (Buffer.zero 4096))).bytes 17

/-- The buffer behind the first request for configuration `i`. -/
def Device.headerBuff (dev : Device) (i : Nat) : Option (Buffer 4096) :=
  (dev.header i).map fun reply => control DescriptorType.config.wLength reply (.zero 4096)

/-- The length of the second request for it. -/
def Device.announced (dev : Device) (i : Nat) : Option UInt16 :=
  (dev.headerBuff i).map fun buff => word16 buff.bytes 2

/-- The buffer in which it is walked over. -/
def Device.buff (dev : Device) (i : Nat) : Option (Buffer 4096) :=
  (dev.headerBuff i).bind fun buff =>
    (dev.configuration i).map fun reply => control (word16 buff.bytes 2) reply buff

def Device.Layout (dev : Device) (i : Nat) (buff : Buffer 4096) : List Nat → Nat → Prop :=
  Usb.Layout (memoryOf buff (dev.beyond i)) (word16 buff.bytes 2).toNat

/-- Configuration `i` was dumped up to its end. -/
def Device.Dumped (dev : Device) (i : Nat) : Prop :=
  ∃ buff, dev.buff i = some buff ∧ ∃ past o, dev.Layout i buff past o
    ∧ (word16 buff.bytes 2).toNat ≤ o

/-- Configuration `i` is at most as long as the buffer when it is asked for, and of each of its
descriptors all that is read lies in the buffer and in the configuration. -/
structure Device.Fits (dev : Device) (i : Nat) : Prop where
  announced : ∀ wLength ∈ dev.announced i, wLength.toNat ≤ buffMaxSize
  descriptors : ∀ buff ∈ dev.buff i, ∀ past o, dev.Layout i buff past o →
    o < (word16 buff.bytes 2).toNat →
    o + bytesRead (memoryOf buff (dev.beyond i) (o + 1)) ≤ buffMaxSize
      ∧ o + bytesRead (memoryOf buff (dev.beyond i) (o + 1)) ≤ (word16 buff.bytes 2).toNat

/-! ## Rounds -/

variable {dev : Device} {s : Dump}

def Dump.InBounds (s : Dump) : Prop := ∀ a ∈ s.trace, a.InBounds

/-- What a dump has come to where it stands. -/
def Device.At (dev : Device) (s : Dump) : Prop :=
  match s.stage with
  | .start => s = .start
  | .config i => dev.numConfigurations = some s.n_config ∧ ∀ j < i, dev.Dumped j
  | .walk i offset => dev.numConfigurations = some s.n_config ∧ i < s.n_config.toNat
      ∧ (∀ j < i, dev.Dumped j) ∧ dev.buff i = some s.buff
      ∧ s.data_size = word16 s.buff.bytes 2 ∧ ∃ past, dev.Layout i s.buff past offset.toNat
  | .done => True

theorem Dump.inBounds_append {t : Dump} {trace : List Access} (h : t.trace = s.trace ++ trace) :
    t.InBounds ↔ s.InBounds ∧ ∀ a ∈ trace, a.InBounds := by
  rw [Dump.InBounds, h, List.forall_mem_append]
  rfl

theorem usbGetDescriptor_fixed {type : DescriptorType} (htype : type ≠ .config)
    (first second : Option (List UInt8)) (buff : Buffer n) :
    usbGetDescriptor type first second buff
      = ([.transfer type.wLength], first.map fun reply => control type.wLength reply buff) := by
  cases first <;> cases type <;> first | rfl | exact absurd rfl htype

theorem start_round (dev : Device) : ∃ t, dumpRound dev .start = .again t ∧ t.InBounds ∧ dev.At t
    ∧ ∀ n, dev.numConfigurations = some n → t.stage = .config 0 ∧ t.n_config = n := by
  have hstring : (Access.transfer DescriptorType.string.wLength).InBounds := by decide
  have hdevice : (Access.transfer DescriptorType.device.wLength).InBounds := by decide
  have hnumber : dev.numConfigurations = dev.language.bind fun language =>
      dev.device.map fun device => byteAt (control DescriptorType.device.wLength device
        (control DescriptorType.string.wLength language (Buffer.zero 4096))).bytes 17 := rfl
  simp only [dumpRound, Dump.start,
    usbGetDescriptor_fixed (show DescriptorType.string ≠ _ by decide),
    usbGetDescriptor_fixed (show DescriptorType.device ≠ _ by decide)]
  cases hlanguage : dev.language with
  | none =>
    rw [hnumber, hlanguage]
    exact ⟨_, rfl, by simpa [Dump.InBounds] using hstring, trivial, fun n hn => by cases hn⟩
  | some language =>
    cases hanswer : dev.device with
    | none =>
      rw [hnumber, hlanguage, hanswer]
      refine ⟨_, rfl, ?_, trivial, fun n hn => by cases hn⟩
      simpa [Dump.InBounds] using ⟨hstring, hdevice⟩
    | some device =>
      rw [hlanguage, hanswer] at hnumber
      refine ⟨_, rfl, ?_, ⟨hnumber, fun j hj => absurd hj (Nat.not_lt_zero j)⟩, fun n hn => ?_⟩
      · simp [Dump.InBounds, printDeviceDescriptor, usbGetString, hstring, hdevice]
      · rw [hnumber] at hn
        cases hn
        exact ⟨rfl, rfl⟩

theorem usbGetDescriptor_config (dev : Device) (i : Nat) :
    ((∀ a ∈ (usbGetDescriptor .config (dev.header i) (dev.configuration i)
      (Buffer.zero 4096)).1, a.InBounds) ↔
        ∀ wLength ∈ dev.announced i, wLength.toNat ≤ buffMaxSize)
      ∧ (usbGetDescriptor .config (dev.header i) (dev.configuration i) (Buffer.zero 4096)).2
        = dev.buff i := by
  have hheader : DescriptorType.config.wLength.toNat ≤ buffMaxSize := by decide
  unfold usbGetDescriptor Device.announced Device.buff Device.headerBuff
  cases dev.header i with
  | none => simp [Access.InBounds, hheader]
  | some reply => simp [Access.InBounds, hheader]

theorem config_round (dev : Device) {i : Nat} (hstage : s.stage = .config i)
    (hlt : i < s.n_config.toNat) :
    ∃ t, dumpRound dev s = .again t
      ∧ (t.InBounds ↔ s.InBounds ∧ ∀ wLength ∈ dev.announced i, wLength.toNat ≤ buffMaxSize)
      ∧ t.n_config = s.n_config
      ∧ ((dev.buff i = none ∧ t.stage = .done)
        ∨ (dev.buff i = some t.buff ∧ t.stage = .walk i 9
          ∧ t.data_size = word16 t.buff.bytes 2)) := by
  have hstring : (Access.transfer DescriptorType.string.wLength).InBounds := by decide
  obtain ⟨hrequests, hbuff⟩ := usbGetDescriptor_config dev i
  rw [← hbuff, ← hrequests]
  simp only [dumpRound, hstage, if_pos hlt]
  cases hget : usbGetDescriptor .config (dev.header i) (dev.configuration i) (Buffer.zero 4096) with
  | mk trace result =>
    cases result with
    | none => exact ⟨_, rfl, Dump.inBounds_append rfl, rfl, .inl ⟨rfl, rfl⟩⟩
    | some buff =>
      refine ⟨_, rfl, ?_, rfl, .inr ⟨rfl, rfl, rfl⟩⟩
      refine (Dump.inBounds_append (List.append_assoc _ _ _)).trans ?_
      rw [List.forall_mem_append]
      simp [printConfigDescriptor, usbGetString, hstring]

theorem config_end (dev : Device) {i : Nat} (hstage : s.stage = .config i)
    (hge : ¬ i < s.n_config.toNat) :
    dumpRound dev s = .again { s with stage := .done } := by
  simp only [dumpRound, hstage, if_neg hge]

theorem walk_round (dev : Device) {i : Nat} {o : UInt16} (hstage : s.stage = .walk i o)
    (hlt : o.toNat < s.data_size.toNat) :
    ∃ t, dumpRound dev s = .again t
      ∧ (t.InBounds ↔ s.InBounds ∧
        o.toNat + bytesRead (memoryOf s.buff (dev.beyond i) (o.toNat + 1)) ≤ buffMaxSize
          ∧ o.toNat + bytesRead (memoryOf s.buff (dev.beyond i) (o.toNat + 1)) ≤ s.data_size.toNat)
      ∧ t.stage = .walk i (o + (memoryOf s.buff (dev.beyond i) o.toNat).toUInt16)
      ∧ t.buff = s.buff ∧ t.data_size = s.data_size ∧ t.n_config = s.n_config := by
  have hround := dumpWalk_again_iff (m := memoryOf s.buff (dev.beyond i)).mpr ⟨hlt, rfl⟩
  simp only [dumpRound, hstage, hround]
  refine ⟨_, rfl, ?_, rfl, rfl, rfl, rfl⟩
  rw [← walkAccesses_inBounds_iff]
  exact Dump.inBounds_append rfl

theorem walk_end (dev : Device) {i : Nat} {o : UInt16} (hstage : s.stage = .walk i o)
    (hge : ¬ o.toNat < s.data_size.toNat) :
    dumpRound dev s = .again { s with stage := .config (i + 1) } := by
  have hround : dumpWalk (memoryOf s.buff (dev.beyond i)) s.data_size o = .leave o :=
    if_neg (mt UInt16.lt_iff_toNat_lt.mp hge)
  simp only [dumpRound, hstage, hround]

/-- A descriptor that lies in the buffer has the next one below 65536. -/
theorem toNat_next {m : Memory} {o : UInt16}
    (h : o.toNat + bytesRead (m (o.toNat + 1)) ≤ buffMaxSize) :
    (o + (m o.toNat).toUInt16).toNat = o.toNat + (m o.toNat).toNat := by
  have hbyte := (m o.toNat).toNat_lt
  have hmax : buffMaxSize = 4096 := rfl
  rw [toNat_step, Nat.mod_eq_of_lt (by omega)]

/-! ## Whole dumps -/

/-- **A dump of configurations that fit stays in bounds**, round by round. -/
theorem round_inBounds {t : Dump}
    (hfits : ∀ i n, dev.numConfigurations = some n → i < n.toNat → (∀ j < i, dev.Dumped j) →
      dev.Fits i)
    (hin : s.InBounds) (hat : dev.At s) (hround : dumpRound dev s = .again t) :
    t.InBounds ∧ dev.At t := by
  unfold Device.At at hat
  cases hstage : s.stage with
  | start =>
    rw [hstage] at hat
    dsimp only at hat
    subst hat
    obtain ⟨t', ht', hin', hat', -⟩ := start_round dev
    rw [hround] at ht'
    cases ht'
    exact ⟨hin', hat'⟩
  | config i =>
    rw [hstage] at hat
    dsimp only at hat
    obtain ⟨hn, hdumped⟩ := hat
    by_cases hlt : i < s.n_config.toNat
    · obtain ⟨t', ht', hin', hn', hnext⟩ := config_round dev hstage hlt
      rw [hround] at ht'
      cases ht'
      refine ⟨hin'.mpr ⟨hin, (hfits i _ hn hlt hdumped).announced⟩, ?_⟩
      rcases hnext with ⟨-, hdone⟩ | ⟨hbuff, hwalk, hsize⟩
      · rw [Device.At, hdone]
        trivial
      · rw [Device.At, hwalk]
        exact ⟨hn' ▸ hn, hn' ▸ hlt, hdumped, hbuff, hsize, [], .first⟩
    · rw [config_end dev hstage hlt] at hround
      cases hround
      exact ⟨hin, trivial⟩
  | walk i o =>
    rw [hstage] at hat
    dsimp only at hat
    obtain ⟨hn, hlt, hdumped, hbuff, hsize, past, hlayout⟩ := hat
    by_cases hend : o.toNat < s.data_size.toNat
    · obtain ⟨t', ht', hin', hwalk, hbuff', hsize', hn'⟩ := walk_round dev hstage hend
      rw [hround] at ht'
      cases ht'
      rw [hsize] at hin' hend
      have hread := (hfits i _ hn hlt hdumped).descriptors s.buff hbuff past _ hlayout hend
      refine ⟨hin'.mpr ⟨hin, hread⟩, ?_⟩
      rw [Device.At, hwalk]
      dsimp only
      rw [hn', hbuff', hsize', toNat_next hread.1]
      exact ⟨hn, hlt, hdumped, hbuff, hsize, _, hlayout.next hend⟩
    · rw [walk_end dev hstage hend] at hround
      cases hround
      refine ⟨hin, hn, fun j hj => ?_⟩
      rcases Nat.lt_succ_iff_lt_or_eq.mp hj with hj | rfl
      · exact hdumped j hj
      · rw [hsize] at hend
        exact ⟨s.buff, hbuff, past, _, hlayout, Nat.not_lt.mp hend⟩
  | done =>
    simp only [dumpRound, hstage] at hround
    cases hround

/-- A dump that stays in bounds walks through the layout of a configuration it starts with. -/
theorem reaches_walk (hsafe : ∀ s, Reaches (dumpRound dev) .start s → s.InBounds) {i : Nat}
    {buff : Buffer 4096} (hs : Reaches (dumpRound dev) .start s) (hstage : s.stage = .walk i 9)
    (hbuff : s.buff = buff) (hsize : s.data_size = word16 buff.bytes 2) {past : List Nat} {o : Nat}
    (h : dev.Layout i buff past o) :
    ∃ t p, Reaches (dumpRound dev) .start t ∧ t.stage = .walk i p ∧ p.toNat = o
      ∧ t.buff = buff ∧ t.data_size = word16 buff.bytes 2 ∧ t.n_config = s.n_config := by
  induction h with
  | first => exact ⟨s, 9, hs, hstage, rfl, hbuff, hsize, rfl⟩
  | next _ hlt ih =>
    obtain ⟨t, p, ht, hwalk, rfl, rfl, htsize, htn⟩ := ih
    obtain ⟨u, hround, hin, hwalk', hbuff', hsize', hn'⟩ := walk_round dev hwalk
      (htsize ▸ hlt)
    have hu := ht.tail hround
    have hread := (hin.mp (hsafe u hu)).2.1
    exact ⟨u, _, hu, hwalk', toNat_next hread, hbuff', hsize'.trans htsize, hn'.trans htn⟩

theorem reaches_config (hsafe : ∀ s, Reaches (dumpRound dev) .start s → s.InBounds) {n : UInt8}
    (hn : dev.numConfigurations = some n) {i : Nat} (hle : i ≤ n.toNat)
    (hdumped : ∀ j < i, dev.Dumped j) :
    ∃ s, Reaches (dumpRound dev) .start s ∧ s.stage = .config i ∧ s.n_config = n := by
  induction i with
  | zero =>
    obtain ⟨t, hround, -, -, ht⟩ := start_round dev
    exact ⟨t, (Reaches.refl _ _).tail hround, ht n hn⟩
  | succ i ih =>
    obtain ⟨s, hs, hstage, rfl⟩ := ih (by omega) fun j hj => hdumped j (by omega)
    obtain ⟨t, hround, -, hn', hnext⟩ := config_round dev hstage (by omega)
    obtain ⟨buff, hbuff, past, o, hlayout, hend⟩ := hdumped i (by omega)
    rcases hnext with ⟨hnone, -⟩ | ⟨hsome, hwalk, hsize⟩
    · rw [hbuff] at hnone
      cases hnone
    · rw [hbuff] at hsome
      cases hsome
      obtain ⟨u, p, hu, hstage', rfl, -, hsize', hn''⟩ := reaches_walk hsafe (hs.tail hround)
        hwalk rfl hsize hlayout
      have hlast := walk_end dev hstage' (by rw [hsize']; omega)
      exact ⟨_, hu.tail hlast, rfl, hn''.trans hn'⟩

/-- **Which devices are dumped inside the buffer.** -/
theorem dump_inBounds_iff (dev : Device) :
    (∀ s, Reaches (dumpRound dev) .start s → s.InBounds) ↔
      ∀ i n, dev.numConfigurations = some n → i < n.toNat → (∀ j < i, dev.Dumped j) →
        dev.Fits i := by
  constructor
  · intro hsafe i n hn hlt hdumped
    obtain ⟨s, hs, hstage, rfl⟩ := reaches_config hsafe hn hlt.le hdumped
    obtain ⟨t, hround, hin, -, hnext⟩ := config_round dev hstage hlt
    have ht := hs.tail hround
    refine ⟨(hin.mp (hsafe t ht)).2, fun buff hbuff past o hlayout ho => ?_⟩
    rcases hnext with ⟨hnone, -⟩ | ⟨hsome, hwalk, hsize⟩
    · rw [hnone] at hbuff
      cases hbuff
    · rw [hsome] at hbuff
      cases hbuff
      obtain ⟨u, p, hu, hstage', rfl, hbuff', hsize', -⟩ := reaches_walk hsafe ht hwalk rfl hsize
        hlayout
      obtain ⟨v, hround', hin', -⟩ := walk_round dev hstage' (hsize' ▸ ho)
      have hread := (hin'.mp (hsafe v (hu.tail hround'))).2
      rwa [hbuff', hsize'] at hread
  · intro hfits s hs
    refine (hs.invariant (I := fun s => s.InBounds ∧ dev.At s) ?_ ⟨?_, rfl⟩).1
    · rintro s t ⟨hin, hat⟩ hround
      exact round_inBounds hfits hin hat hround
    · intro a ha
      cases ha

def sampleDevice (configuration : List UInt8) : Device where
  language := some [4, 3, 9, 4]
  device := some [18, 1, 0, 2, 0, 0, 0, 64, 0xD1, 0x18, 0xE1, 0x4E, 0, 1, 1, 2, 3, 1]
  header _ := some (configuration.take 9)
  configuration _ := some configuration
  beyond _ _ := 0

/-- Its configuration is longer than the buffer by one byte. -/
def sampleLong : Device := sampleDevice [9, 2, 0x01, 0x10, 1, 1, 0, 0x80, 50]

/-- Its configuration ends behind the type of an interface. -/
def sampleTruncated : Device := sampleDevice [9, 2, 11, 0, 1, 1, 0, 0x80, 50, 9, 4]

theorem dump_not_inBounds :
    (∃ s, Reaches (dumpRound sampleLong) .start s ∧ ¬ s.InBounds)
      ∧ ∃ s, Reaches (dumpRound sampleTruncated) .start s ∧ ¬ s.InBounds := by
  constructor
  · obtain ⟨s, hround, -, -, hs⟩ := start_round sampleLong
    obtain ⟨hstage, hn⟩ := hs 1 (by decide)
    obtain ⟨t, hround', hin, -⟩ := config_round sampleLong hstage (by rw [hn]; decide)
    refine ⟨t, ((Reaches.refl _ _).tail hround).tail hround', fun hsafe => ?_⟩
    have hlong := (hin.mp hsafe).2 0x1001 (by decide)
    exact absurd hlong (by decide)
  · obtain ⟨s, hround, -, -, hs⟩ := start_round sampleTruncated
    obtain ⟨hstage, hn⟩ := hs 1 (by decide)
    obtain ⟨t, hround', -, -, ⟨hnone, -⟩ | ⟨hbuff, hwalk, hsize⟩⟩ :=
      config_round sampleTruncated hstage (by rw [hn]; decide)
    · cases hnone
    · have hdata : t.data_size = 11 := by
        rw [hsize, ← Option.some.inj hbuff]
        decide
      obtain ⟨u, hround'', hin, -⟩ := walk_round sampleTruncated hwalk (by rw [hdata]; decide)
      refine ⟨u, (((Reaches.refl _ _).tail hround).tail hround').tail hround'', fun hsafe => ?_⟩
      have hread := (hin.mp hsafe).2.2
      have htype : memoryOf t.buff (sampleTruncated.beyond 0) ((9 : UInt16).toNat + 1) = 4 := by
        rw [← Option.some.inj hbuff]
        rfl
      rw [hdata, htype] at hread
      exact absurd hread (by decide)

end Droidbox.Usb
