import Droidbox.Usb.Bulk
import Droidbox.Usb.Control
import Droidbox.Usb.Print
import Droidbox.Usb.StringDescriptor

/-!
# Droidbox — what a dump prints

`usb_dump_device` prints the device descriptor, the header of each configuration, and the
interfaces, endpoints and interface associations it walks over; the strings among them it asks the
device for as it goes along. The loop is that of `Dump`, with its control transfers and the calls
that print beside it, up to the first access outside of an array.

* **`dumpPrint_adds`**: a round prints at most one descriptor, with the strings it asks for.
* **`dump_lists`**: a device that is well formed is listed descriptor by descriptor, up to its last
  configuration or to the first one it does not answer for.
-/

namespace Droidbox.Usb.Listing

open LittleEndian Scripted Walk StringDescriptor

/-! ## Strings -/

/-- The language of the strings that are asked for. -/
def langid : UInt16 := 0x0409

/-- An answer to the request for a string, with what the array of `usb_get_string` held before and
what lies behind it. -/
structure Answer where
  reply : Option Reply
  stack : Buffer 126
  beyond : Memory

/-- The answers to the requests for strings, by the number of the request, the index of the string
and its language. -/
abbrev Answers := Nat → UInt8 → UInt16 → Answer

namespace Answer
variable (a : Answer)

def sent : Option (List UInt8) := a.reply.map Reply.bytes

def call : StringCall := StringDescriptor.usbGetString a.sent a.stack a.beyond

/-- What `%s` prints of it. -/
def string : List UInt8 := a.call.written.takeWhile (· ≠ 0)

/-- The first byte that is read behind `__buff`. -/
def fault : Option Fault :=
  (a.call.reads.find? fun i => usbMaxStringLen ≤ i).map fun i => .read .stringBuff i 1

/-- It is read inside of what was transferred. -/
def Complete : Prop := ∀ r ∈ a.reply, r.Complete

end Answer

/-! ## The calls that print -/

/-- The control transfers, the indices of the strings asked for, and what was printed. -/
structure Output where
  issued : List Control.Issued
  asked : List UInt8
  prints : List Print

def Output.start : Output := ⟨[], [], []⟩

def Output.text (out : Output) : List Char := out.prints.flatMap Print.text

/-- `usb_get_descriptor`, with its one or two requests: those of `Control` and the buffer of `Dump`
are of one function, by `usbGetDescriptor_eq_dump`. -/
def Output.get {n : Nat} (type : DescriptorType) (index : UInt8) (langid : UInt16)
    (first second : Option (List UInt8)) (buff : Buffer n) (out : Output) :
    Output × Option (Buffer n) :=
  let k : Control.Kernel := ⟨fun i => if i = 0 then first else second, 0⟩
  let effect := Control.usbGetDescriptor k buff (Control.typeCode type) index langid
  ({ out with issued := out.issued ++ effect.issued }, (usbGetDescriptor type first second buff).2)

def Output.print (p : Print) (out : Output) : Output := { out with prints := out.prints ++ [p] }

section
variable (answers : Answers)

def Output.asking (index : UInt8) (out : Output) : Output :=
  let a := answers out.asked.length index langid
  { (out.get .string index langid a.sent none a.stack).1 with asked := out.asked ++ [index] }

/-- `usb_get_string`, with what is printed of the string. -/
def Output.getString (index : UInt8) (out : Output) : Except Fault (List UInt8 × Output) :=
  let a := answers out.asked.length index langid
  match a.fault with
  | some f => .error f
  | none => .ok (a.string, out.asking answers index)

/-- `__print_device_descriptor` of what `__parse_stream` copied. -/
def Output.device (m : Memory) (out : Output) : Except Fault Output := do
  let udd := UsbDeviceDescriptor.ofBytes (parseStream m 0 usbDtDeviceSize)
  let (manufacturer, out) ← out.getString answers udd.iManufacturer
  let (product, out) ← out.getString answers udd.iProduct
  let (serial_number, out) ← out.getString answers udd.iSerialNumber
  return out.print (.device udd manufacturer product serial_number)

def Output.config (m : Memory) (out : Output) : Except Fault Output := do
  let ucd := UsbConfigDescriptor.ofBytes (parseStream m 0 usbDtConfigSize)
  let (description, out) ← out.getString answers ucd.iConfiguration
  return out.print (.config ucd description)

/-- The `switch` in the walk. -/
def Output.descriptor (m : Memory) (offset : Nat) (out : Output) : Except Fault Output :=
  let dt := m (offset + 1)
  if dt = usbDtInterface then do
    let uid := UsbInterfaceDescriptor.ofBytes (parseStream m offset usbDtInterfaceSize)
    let (description, out) ← out.getString answers uid.iInterface
    return out.print (.interface uid description)
  else if dt = usbDtEndpoint then
    .ok (out.print (.endpoint (.ofBytes (parseStream m offset usbDtEndpointSize))))
  else if dt = usbDtInterfaceAssociation then
    .ok (out.print
      (.interfaceAssociation (.ofBytes (parseStream m offset usbDtInterfaceAssociationSize))))
  else
    .ok out

/-- A read of the walk that leaves the buffer. -/
def accessFault : Access → Option Fault
  | .transfer _ => none
  | .read index count _ =>
    if buffMaxSize < index + count then some (.read .buff index count) else none

/-- What the kernel stores of the second answer for a configuration. -/
def stored (dev : Device) (i : Nat) : List UInt8 :=
  match dev.announced i, dev.configuration i with
  | some wLength, some reply => reply.take wLength.toNat
  | _, _ => []

/-- What a round of the dump does beside its own variables. -/
def dumpPrint (dev : Device) (s : Dump) (out : Output) : Except Fault Output :=
  match s.stage with
  | .start =>
    match out.get .string 0x00 0x00 dev.language none s.buff with
    | (out, none) => .ok out
    | (out, some buff) =>
      match out.get .device 0x00 0x00 dev.device none buff with
      | (out, none) => .ok out
      | (out, some buff) => out.device answers (byteAt buff.bytes)
  | .config i =>
    if i < s.n_config.toNat then
      match out.get .config (.ofNat i) 0x00 (dev.header i) (dev.configuration i) (.zero 4096) with
      | (out, none) => .ok out
      | (out, some buff) =>
        if buffMaxSize < (stored dev i).length then
          .error (.write .buff 0 (stored dev i).length)
        else
          out.config answers (byteAt buff.bytes)
    else
      .ok out
  | .walk i offset =>
    if offset < s.data_size then
      let m := memoryOf s.buff (dev.beyond i)
      -- the string of an interface is asked for behind its last read that can leave the buffer
      match (walkAccesses m s.data_size offset.toNat).findSome? accessFault with
      | some f => .error f
      | none => out.descriptor answers m offset.toNat
    else
      .ok out
  | .done => .ok out

/-- The loop of the dump. It stops where the behaviour is undefined. -/
abbrev listRound (dev : Device) :
    Dump × Output → Round (Dump × Output) (Except Fault (Dump × Output)) :=
  recorded (dumpRound dev) (dumpPrint answers dev)

end

/-! ## What is to be listed -/

/-- The function that prints, and the bytes of the descriptor it is given. -/
def Print.shown (p : Print) : Kind × List UInt8 :=
  (p.kind, match p with
    | .device udd .. => udd.bytes
    | .config ucd _ => ucd.bytes
    | .interface uid _ => uid.bytes
    | .endpoint ued => ued.bytes
    | .interfaceAssociation uiad => uiad.bytes)

/-- The indices of the strings a function asks for. -/
def Print.asks : Print → List UInt8
  | .device udd .. => [udd.iManufacturer, udd.iProduct, udd.iSerialNumber]
  | .config ucd _ => [ucd.iConfiguration]
  | .interface uid _ => [uid.iInterface]
  | .endpoint _ | .interfaceAssociation _ => []

/-- What is shown of a descriptor in a configuration: nothing of those of other types. -/
def shownOf (d : SubDescriptor) : Option (Kind × List UInt8) :=
  if d.type = usbDtInterface then some (.interface, d.bytes.take usbDtInterfaceSize)
  else if d.type = usbDtEndpoint then some (.endpoint, d.bytes.take usbDtEndpointSize)
  else if d.type = usbDtInterfaceAssociation then
    some (.interfaceAssociation, d.bytes.take usbDtInterfaceAssociationSize)
  else none

def listed (c : Tiled) : List (Kind × List UInt8) :=
  (.config, c.header) :: c.subs.filterMap shownOf

/-- What a device is to be listed as: its descriptor, and the configurations up to the first one
it does not answer for. -/
structure Described (dev : Device) (descriptor : Buffer usbDtDeviceSize) (configs : List Tiled) :
    Prop where
  /-- It answers to the request for its languages, without which nothing is listed. -/
  language : dev.language.isSome
  device : dev.device = some descriptor.bytes
  length_le : configs.length ≤ (byteAt descriptor.bytes 17).toNat
  header : ∀ i c, configs[i]? = some c → dev.header i = some c.header
  configuration : ∀ i c, configs[i]? = some c → dev.configuration i = some c.bytes
  ends : configs.length < (byteAt descriptor.bytes 17).toNat → dev.buff configs.length = none
  fits : ∀ c ∈ configs, c.bytes.length ≤ buffMaxSize
  /-- Its descriptors are as long as what is read of them. -/
  complete : ∀ c ∈ configs, ∀ d ∈ c.subs, bytesRead d.type ≤ d.bytes.length

/-- The strings asked for are those the printed descriptors name, and those printed are the answers
to these requests, in order. -/
structure Output.InOrder (answers : Answers) (out : Output) : Prop where
  asked : out.asked = out.prints.flatMap Print.asks
  strings : out.prints.flatMap Print.strings
    = out.asked.mapIdx fun k index => (answers k index langid).string

/-! ## One call -/

variable {answers : Answers} {dev : Device} {m : Memory} {o : Nat} {out out' out'' : Output}

/-- What is added to the output by calls that print `ps`. -/
structure Output.Adds (answers : Answers) (out out' : Output) (ps : List Print) : Prop where
  issued : out.issued <+: out'.issued
  asked : out'.asked = out.asked ++ ps.flatMap Print.asks
  prints : out'.prints = out.prints ++ ps
  strings : ps.flatMap Print.strings = (ps.flatMap Print.asks).mapIdx fun k index =>
    (answers (k + out.asked.length) index langid).string

theorem Output.Adds.refl (answers : Answers) (out : Output) : out.Adds answers out [] :=
  ⟨List.prefix_refl _, (List.append_nil _).symm, (List.append_nil _).symm, rfl⟩

theorem Output.Adds.inOrder {ps : List Print} (h : out.Adds answers out' ps)
    (hout : out.InOrder answers) : out'.InOrder answers := by
  constructor
  · rw [h.asked, h.prints, List.flatMap_append, hout.asked]
  · rw [h.asked, h.prints, List.flatMap_append, hout.strings, h.strings, List.mapIdx_append]

/-- A request that is not for a string to be printed. -/
theorem Output.Adds.get {n : Nat} {ps : List Print} {type : DescriptorType} {index : UInt8}
    {langid : UInt16} {first second : Option (List UInt8)} {buff : Buffer n}
    {result : Option (Buffer n)}
    (hget : out.get type index langid first second buff = (out', result))
    (h : out'.Adds answers out'' ps) : out.Adds answers out'' ps := by
  cases hget
  exact ⟨(List.prefix_append _ _).trans h.issued, h.asked, h.prints, h.strings⟩

theorem getString_ok {index : UInt8} {s : List UInt8}
    (h : out.getString answers index = .ok (s, out')) :
    s = (answers out.asked.length index langid).string ∧ out' = out.asking answers index := by
  unfold Output.getString at h
  dsimp only at h
  split at h
  · cases h
  · cases h
    exact ⟨rfl, rfl⟩

theorem asking_issued (index : UInt8) : out.issued <+: (out.asking answers index).issued :=
  List.prefix_append _ _

theorem except_bind_ok {α β : Type} {x : Except Fault α} {f : α → Except Fault β} {b : β}
    (h : (x >>= f) = .ok b) : ∃ a, x = .ok a ∧ f a = .ok b := by
  cases x with
  | error e => cases h
  | ok a => exact ⟨a, rfl, h⟩

theorem device_adds (h : out.device answers m = .ok out') :
    ∃ p, out.Adds answers out' [p]
      ∧ p.shown = (.device, (parseStream m 0 usbDtDeviceSize).bytes) := by
  obtain ⟨⟨manufacturer, out₁⟩, hmanufacturer, h⟩ := except_bind_ok h
  obtain ⟨⟨product, out₂⟩, hproduct, h⟩ := except_bind_ok h
  obtain ⟨⟨serial_number, out₃⟩, hserial, h⟩ := except_bind_ok h
  obtain ⟨rfl, rfl⟩ := getString_ok hmanufacturer
  obtain ⟨rfl, rfl⟩ := getString_ok hproduct
  obtain ⟨rfl, rfl⟩ := getString_ok hserial
  cases h
  refine ⟨_, ⟨?_, ?_, rfl, ?_⟩,
    congrArg (Prod.mk Kind.device) (UsbDeviceDescriptor.bytes_ofBytes _)⟩
  · exact ((asking_issued _).trans (asking_issued _)).trans (asking_issued _)
  · simp [Output.print, Output.asking, Print.asks]
  · simp [Output.asking, Print.asks, Print.strings, Nat.add_comm]

theorem config_adds (h : out.config answers m = .ok out') :
    ∃ p, out.Adds answers out' [p]
      ∧ p.shown = (.config, (parseStream m 0 usbDtConfigSize).bytes) := by
  obtain ⟨⟨description, out₁⟩, hdescription, h⟩ := except_bind_ok h
  obtain ⟨rfl, rfl⟩ := getString_ok hdescription
  cases h
  refine ⟨_, ⟨asking_issued _, ?_, rfl, ?_⟩,
    congrArg (Prod.mk Kind.config) (UsbConfigDescriptor.bytes_ofBytes _)⟩
  · simp [Output.print, Output.asking, Print.asks]
  · simp [Print.asks, Print.strings]

/-- What is shown of the descriptor at an address. -/
def shownAt (m : Memory) (o : Nat) : Option (Kind × List UInt8) :=
  let dt := m (o + 1)
  if dt = usbDtInterface then some (.interface, (parseStream m o usbDtInterfaceSize).bytes)
  else if dt = usbDtEndpoint then some (.endpoint, (parseStream m o usbDtEndpointSize).bytes)
  else if dt = usbDtInterfaceAssociation then
    some (.interfaceAssociation, (parseStream m o usbDtInterfaceAssociationSize).bytes)
  else none

theorem descriptor_adds (h : out.descriptor answers m o = .ok out') :
    ∃ ps, out.Adds answers out' ps ∧ ps.map Print.shown = (shownAt m o).toList := by
  unfold Output.descriptor at h
  unfold shownAt
  dsimp only at h ⊢
  by_cases hiface : m (o + 1) = usbDtInterface
  · rw [if_pos hiface] at h ⊢
    obtain ⟨⟨description, out₁⟩, hdescription, h⟩ := except_bind_ok h
    obtain ⟨rfl, rfl⟩ := getString_ok hdescription
    cases h
    refine ⟨_, ⟨asking_issued _, ?_, rfl, ?_⟩,
      congrArg (fun s => [(Kind.interface, s)]) (UsbInterfaceDescriptor.bytes_ofBytes _)⟩
    · simp [Output.print, Output.asking, Print.asks]
    · simp [Print.asks, Print.strings]
  · rw [if_neg hiface] at h ⊢
    by_cases hendp : m (o + 1) = usbDtEndpoint
    · rw [if_pos hendp] at h ⊢
      cases h
      exact ⟨_, ⟨List.prefix_refl _, (List.append_nil _).symm, rfl, rfl⟩,
        congrArg (fun s => [(Kind.endpoint, s)]) (UsbEndpointDescriptor.bytes_ofBytes _)⟩
    · rw [if_neg hendp] at h ⊢
      by_cases hassoc : m (o + 1) = usbDtInterfaceAssociation
      · rw [if_pos hassoc] at h ⊢
        cases h
        exact ⟨_, ⟨List.prefix_refl _, (List.append_nil _).symm, rfl, rfl⟩,
          congrArg (fun s => [(Kind.interfaceAssociation, s)])
            (UsbInterfaceAssocDescriptor.bytes_ofBytes _)⟩
      · rw [if_neg hassoc] at h ⊢
        cases h
        exact ⟨[], .refl answers _, rfl⟩

/-- **A round** prints at most one descriptor, with the strings it asks for. -/
theorem dumpPrint_adds {s : Dump} (h : dumpPrint answers dev s out = .ok out') :
    ∃ ps, out.Adds answers out' ps := by
  unfold dumpPrint at h
  split at h
  · split at h
    · rename_i hget
      cases h
      exact ⟨[], .get hget (.refl answers _)⟩
    · rename_i hget
      split at h
      · rename_i hget'
        cases h
        exact ⟨[], .get hget (.get hget' (.refl answers _))⟩
      · rename_i hget'
        obtain ⟨p, hp, -⟩ := device_adds h
        exact ⟨[p], .get hget (.get hget' hp)⟩
  · split at h
    · split at h
      · rename_i hget
        cases h
        exact ⟨[], .get hget (.refl answers _)⟩
      · rename_i hget
        split at h
        · cases h
        · obtain ⟨p, hp, -⟩ := config_adds h
          exact ⟨[p], .get hget hp⟩
    · cases h
      exact ⟨[], .refl answers _⟩
  · split at h
    · dsimp only at h
      split at h
      · cases h
      · obtain ⟨ps, hps, -⟩ := descriptor_adds h
        exact ⟨ps, hps⟩
    · cases h
      exact ⟨[], .refl answers _⟩
  · cases h
    exact ⟨[], .refl answers _⟩

theorem inOrder_of_reaches {p : Dump × Output}
    (h : Reaches (listRound answers dev) (.start, .start) p) : p.2.InOrder answers := by
  refine h.invariant (I := fun p => p.2.InOrder answers) ?_ ⟨rfl, rfl⟩
  rintro s t hs hround
  obtain ⟨ps, hps⟩ := dumpPrint_adds (recorded_again_iff.mp hround).2
  exact hps.inOrder hs

/-! ## Complete answers -/

theorem Answer.Complete.fault {a : Answer} (h : a.Complete) : a.fault = none := by
  have hreads : ∀ i ∈ a.call.reads, i < usbMaxStringLen := by
    unfold Answer.call Answer.sent
    cases hreply : a.reply with
    | none => exact fun i hi => absurd hi List.not_mem_nil
    | some r =>
      have hbounded := Reply.bounded_of_complete (h r hreply) a.stack a.beyond
      exact fun i hi => Nat.lt_of_lt_of_le (hbounded.reads i hi) r.length_le
  have hnone : (a.call.reads.find? fun i => usbMaxStringLen ≤ i) = none :=
    List.find?_eq_none.mpr fun i hi => by simpa using hreads i hi
  rw [Answer.fault, hnone, Option.map_none]

theorem getString_complete (hcomplete : ∀ k index, (answers k index langid).Complete)
    (index : UInt8) (out : Output) :
    ∃ s, out.getString answers index = .ok (s, out.asking answers index) := by
  unfold Output.getString
  dsimp only
  rw [(hcomplete _ _).fault]
  exact ⟨_, rfl⟩

theorem except_bind_eq {α β : Type} {x : Except Fault α} {f : α → Except Fault β} {a : α}
    {r : Except Fault β} (hx : x = .ok a) (hf : f a = r) : (x >>= f) = r := by
  rw [hx]
  exact hf

theorem device_ok (hcomplete : ∀ k index, (answers k index langid).Complete) (m : Memory)
    (out : Output) : ∃ out', out.device answers m = .ok out' := by
  obtain ⟨s, hs⟩ := getString_complete hcomplete _ out
  obtain ⟨s', hs'⟩ := getString_complete hcomplete _ (out.asking answers _)
  obtain ⟨s'', hs''⟩ := getString_complete hcomplete _ ((out.asking answers _).asking answers _)
  exact ⟨_, except_bind_eq hs (except_bind_eq hs' (except_bind_eq hs'' rfl))⟩

theorem config_ok (hcomplete : ∀ k index, (answers k index langid).Complete) (m : Memory)
    (out : Output) : ∃ out', out.config answers m = .ok out' := by
  obtain ⟨s, hs⟩ := getString_complete hcomplete _ out
  exact ⟨_, except_bind_eq hs rfl⟩

theorem descriptor_ok (hcomplete : ∀ k index, (answers k index langid).Complete) (m : Memory)
    (o : Nat) (out : Output) : ∃ out', out.descriptor answers m o = .ok out' := by
  unfold Output.descriptor
  dsimp only
  split
  · obtain ⟨s, hs⟩ := getString_complete hcomplete _ out
    exact ⟨_, except_bind_eq hs rfl⟩
  · split
    · exact ⟨_, rfl⟩
    · split
      · exact ⟨_, rfl⟩
      · exact ⟨_, rfl⟩

/-! ## Descriptors -/

theorem parseStream_bytes {s : List UInt8} {n : Nat} (h : Holds m o s) (hn : n ≤ s.length) :
    (parseStream m o n).bytes = s.take n := by
  show (List.range' o n).map m = s.take n
  apply List.ext_getElem
  · rw [List.length_map, List.length_range', List.length_take, Nat.min_eq_left hn]
  · intro i hi hi'
    rw [List.length_map, List.length_range'] at hi
    rw [List.getElem_map, List.getElem_range', Nat.one_mul, h i (by omega), List.getElem_take,
      byteAt, List.getD_eq_getElem?_getD, List.getElem?_eq_getElem (by omega), Option.getD_some]

theorem holds_control {n : Nat} {wLength : UInt16} {reply : List UInt8} {buff : Buffer n}
    (hw : reply.length ≤ wLength.toNat) (hn : reply.length ≤ n) :
    Holds (byteAt (control wLength reply buff).bytes) 0 reply := by
  intro i hi
  rw [control, Buffer.write_zero_bytes, List.take_of_length_le hw, List.take_of_length_le hn,
    Nat.zero_add, byteAt_overlay_left hi]

/-- **One descriptor** is shown as it is to be. -/
theorem shownAt_eq {d : SubDescriptor} (hholds : Holds m o d.bytes)
    (hcomplete : bytesRead d.type ≤ d.bytes.length) : shownAt m o = shownOf d := by
  have hlen := d.length_ge
  have htype : m (o + 1) = d.type := hholds 1 (by omega)
  unfold shownAt shownOf bytesRead at *
  rw [htype]
  dsimp only
  by_cases hiface : d.type = usbDtInterface
  · rw [if_pos hiface] at hcomplete
    rw [if_pos hiface, if_pos hiface, parseStream_bytes hholds hcomplete]
  · rw [if_neg hiface] at hcomplete
    rw [if_neg hiface, if_neg hiface]
    by_cases hendp : d.type = usbDtEndpoint
    · rw [if_pos hendp] at hcomplete
      rw [if_pos hendp, if_pos hendp, parseStream_bytes hholds hcomplete]
    · rw [if_neg hendp] at hcomplete
      rw [if_neg hendp, if_neg hendp]
      by_cases hassoc : d.type = usbDtInterfaceAssociation
      · rw [if_pos hassoc] at hcomplete
        rw [if_pos hassoc, if_pos hassoc, parseStream_bytes hholds hcomplete]
      · rw [if_neg hassoc, if_neg hassoc]

theorem accessFault_none {as : List Access} (h : ∀ a ∈ as, a.InBounds) :
    as.findSome? accessFault = none := by
  refine List.findSome?_eq_none_iff.mpr fun a ha => ?_
  have hin := h a ha
  cases a with
  | transfer wLength => rfl
  | read index count data_size => exact if_neg (Nat.not_lt.mpr hin.1)

/-! ## Rounds -/

theorem listRound_again {s t : Dump} (h : dumpRound dev s = .again t)
    (hprint : dumpPrint answers dev s out = .ok out') :
    listRound answers dev (s, out) = .again (t, out') :=
  recorded_again_iff.mpr ⟨h, hprint⟩

/-- **The walk** over a stream of descriptors in the buffer. Induction on the stream. -/
theorem walk_prints (hcomplete : ∀ k index, (answers k index langid).Complete) (dev : Device)
    {ds : List SubDescriptor} {s : Dump} {i : Nat} {o : UInt16} (hstage : s.stage = .walk i o)
    (hholds : Holds (memoryOf s.buff (dev.beyond i)) o.toNat (stream ds))
    (hend : o.toNat + (stream ds).length = s.data_size.toNat)
    (hfits : s.data_size.toNat ≤ buffMaxSize)
    (hds : ∀ d ∈ ds, bytesRead d.type ≤ d.bytes.length) (out : Output) :
    ∃ t out', Reaches (listRound answers dev) (s, out) (t, out') ∧ t.stage = .config (i + 1)
      ∧ t.n_config = s.n_config
      ∧ out'.prints.map Print.shown = out.prints.map Print.shown ++ ds.filterMap shownOf := by
  induction ds generalizing s o out with
  | nil =>
    have hge : ¬ o.toNat < s.data_size.toNat := by
      rw [← hend]
      exact Nat.lt_irrefl _
    have hprint : dumpPrint answers dev s out = .ok out := by
      simp only [dumpPrint, hstage, if_neg (mt UInt16.lt_iff_toNat_lt.mp hge)]
    have hround := listRound_again (walk_end dev hstage hge) hprint
    exact ⟨_, _, (Reaches.refl _ _).tail hround, rfl, rfl, (List.append_nil _).symm⟩
  | cons d ds ih =>
    obtain ⟨hd, hds⟩ := List.forall_mem_cons.mp hds
    obtain ⟨hlength, htype, hrest⟩ := hholds.stream_cons
    have hfirst : Holds (memoryOf s.buff (dev.beyond i)) o.toNat d.bytes := hholds.append.1
    have hstream : (stream (d :: ds)).length = d.bytes.length + (stream ds).length := by
      rw [stream, List.flatMap_cons, List.length_append]
      rfl
    have hpos := d.length_ge
    have hlt : o.toNat < s.data_size.toNat := by omega
    obtain ⟨t, hround, -, hstage', hbuff, hsize, hn⟩ := walk_round dev hstage hlt
    have hnext : (o + (memoryOf s.buff (dev.beyond i) o.toNat).toUInt16).toNat
        = o.toNat + d.bytes.length := by
      rw [toNat_next, hlength]
      rw [htype]
      omega
    have hholds' : Holds (memoryOf t.buff (dev.beyond i))
        (o + (memoryOf s.buff (dev.beyond i) o.toNat).toUInt16).toNat (stream ds) := by
      rw [hbuff, hnext]
      exact hrest
    -- all that is read of the descriptor lies in the buffer
    have hinside : (walkAccesses (memoryOf s.buff (dev.beyond i)) s.data_size o.toNat).findSome?
        accessFault = none :=
      accessFault_none ((walkAccesses_inBounds_iff _ _ _).mpr (by rw [htype]; omega))
    obtain ⟨out₁, hout₁⟩ := descriptor_ok hcomplete (memoryOf s.buff (dev.beyond i)) o.toNat out
    have hprint : dumpPrint answers dev s out = .ok out₁ := by
      simp only [dumpPrint, hstage, if_pos (UInt16.lt_iff_toNat_lt.mpr hlt), hinside, hout₁]
    obtain ⟨ps, hps, hshown⟩ := descriptor_adds hout₁
    obtain ⟨u, out', hreaches, hu, hnu, hprints⟩ := ih hstage' hholds'
      (by rw [hnext, hsize]; omega) (hsize ▸ hfits) hds out₁
    refine ⟨u, out', .head (listRound_again hround hprint) hreaches, hu, hnu.trans hn, ?_⟩
    rw [hprints, hps.prints, List.map_append, hshown, shownAt_eq hfirst hd, List.append_assoc]
    cases hone : shownOf d with
    | none => rw [List.filterMap_cons_none hone]; rfl
    | some p => rw [List.filterMap_cons_some hone]; rfl

section
variable {descriptor : Buffer usbDtDeviceSize} {configs : List Tiled} {c : Tiled} {i : Nat}

/-- The first round prints the device descriptor. -/
theorem Described.start_round (h : Described dev descriptor configs)
    (hcomplete : ∀ k index, (answers k index langid).Complete) :
    ∃ t out, dumpRound dev .start = .again t ∧ t.stage = .config 0
      ∧ t.n_config = byteAt descriptor.bytes 17 ∧ dumpPrint answers dev .start .start = .ok out
      ∧ out.prints.map Print.shown = [(.device, descriptor.bytes)] := by
  obtain ⟨language, hlanguage⟩ := Option.isSome_iff_exists.mp h.language
  obtain ⟨t, hround, -, -, ht⟩ := Usb.start_round dev
  have hlen : descriptor.bytes.length = 18 := descriptor.length_eq
  have hholds : ∀ buff : Buffer 4096,
      Holds (byteAt (control DescriptorType.device.wLength descriptor.bytes buff).bytes) 0
        descriptor.bytes := by
    intro buff
    exact holds_control (by rw [hlen]; decide) (by rw [hlen]; decide)
  have hnumber : dev.numConfigurations = some (byteAt descriptor.bytes 17) := by
    rw [Device.numConfigurations, hlanguage, h.device]
    have hread := hholds (control DescriptorType.string.wLength language (Buffer.zero 4096)) 17
      (by rw [hlen]; decide)
    rw [Nat.zero_add] at hread
    rw [Option.bind_some, Option.map_some, hread]
  obtain ⟨hstage, hn⟩ := ht _ hnumber
  -- what is printed does not depend on the requests in front of it
  have hprint : ∃ out₀ : Output, out₀.prints = [] ∧ dumpPrint answers dev .start .start
      = out₀.device answers (byteAt (control DescriptorType.device.wLength descriptor.bytes
        (control DescriptorType.string.wLength language (Buffer.zero 4096))).bytes) := by
    simp only [dumpPrint, Dump.start, hlanguage, h.device, Output.get,
      usbGetDescriptor_fixed (show DescriptorType.string ≠ _ by decide),
      usbGetDescriptor_fixed (show DescriptorType.device ≠ _ by decide), Option.map_some]
    exact ⟨_, rfl, rfl⟩
  obtain ⟨out₀, hnil, hprint⟩ := hprint
  obtain ⟨out, hout⟩ := device_ok hcomplete _ out₀
  obtain ⟨p, hp, hshown⟩ := device_adds hout
  refine ⟨t, out, hround, hstage, hn, hprint.trans hout, ?_⟩
  rw [hp.prints, hnil, List.nil_append, List.map_singleton, hshown,
    parseStream_bytes (hholds _) descriptor.length_eq.ge,
    List.take_of_length_le descriptor.length_eq.le]

/-- The buffer in which a configuration is walked over holds it. -/
theorem Described.buff (h : Described dev descriptor configs) (hc : configs[i]? = some c) :
    ∃ buff, dev.buff i = some buff ∧ (word16 buff.bytes 2).toNat = c.bytes.length
      ∧ Holds (byteAt buff.bytes) 0 c.bytes := by
  have hfits := h.fits c (List.mem_of_getElem? hc)
  have htotal := c.bytes_length
  have hlen := c.header_length
  have hsize : usbDtConfigSize = 9 := rfl
  have hmax : buffMaxSize = 4096 := rfl
  -- behind the first request the buffer holds the header
  have hheader : Holds (byteAt (control DescriptorType.config.wLength c.header
      (Buffer.zero 4096)).bytes) 0 c.header :=
    holds_control (by rw [hlen]; decide) (by rw [hlen]; decide)
  have hannounced : word16 (control DescriptorType.config.wLength c.header
      (Buffer.zero 4096)).bytes 2 = word16 c.header 2 := by
    rw [word16, word16, ← hheader 2 (by omega), ← hheader 3 (by omega)]
  have hholds : Holds (byteAt (control (word16 c.header 2) c.bytes
      (control DescriptorType.config.wLength c.header (Buffer.zero 4096))).bytes) 0 c.bytes :=
    holds_control htotal.le (by omega)
  refine ⟨_, ?_, ?_, hholds⟩
  · rw [Device.buff, Device.headerBuff, h.header i c hc, h.configuration i c hc, Option.map_some,
      Option.bind_some, Option.map_some, hannounced]
  · have hword : word16 (control (word16 c.header 2) c.bytes
        (control DescriptorType.config.wLength c.header (Buffer.zero 4096))).bytes 2
        = word16 c.header 2 := by
      have hbytes : ∀ k < 9, byteAt c.bytes k = byteAt c.header k := by
        intro k hk
        rw [Tiled.bytes, byteAt_append_left (by omega)]
      have hlength : 9 ≤ c.bytes.length := by
        rw [Tiled.bytes, List.length_append]
        omega
      have h2 := hholds 2 (by omega)
      have h3 := hholds 3 (by omega)
      rw [Nat.zero_add] at h2 h3
      rw [word16, h2, h3, hbytes 2 (by decide), hbytes 3 (by decide), word16]
    rw [hword, htotal]

theorem Described.stored_length (h : Described dev descriptor configs) (hc : configs[i]? = some c) :
    (stored dev i).length ≤ buffMaxSize := by
  have hfits := h.fits c (List.mem_of_getElem? hc)
  unfold stored
  rw [h.configuration i c hc]
  split
  · rename_i hreply
    rw [List.length_take, ← Option.some.inj hreply]
    exact Nat.le_trans (Nat.min_le_right _ _) hfits
  · exact Nat.zero_le _

/-- The round in front of a walk prints the header of the configuration. -/
theorem Described.header_round (h : Described dev descriptor configs)
    (hcomplete : ∀ k index, (answers k index langid).Complete) (hc : configs[i]? = some c)
    {s : Dump} (hstage : s.stage = .config i) (hn : s.n_config = byteAt descriptor.bytes 17)
    (out : Output) :
    ∃ t out', dumpRound dev s = .again t ∧ dumpPrint answers dev s out = .ok out'
      ∧ t.stage = .walk i 9 ∧ t.n_config = s.n_config ∧ t.data_size.toNat = c.bytes.length
      ∧ Holds (byteAt t.buff.bytes) 0 c.bytes
      ∧ out'.prints.map Print.shown = out.prints.map Print.shown ++ [(.config, c.header)] := by
  obtain ⟨hi, -⟩ := List.getElem?_eq_some_iff.mp hc
  have hlt : i < s.n_config.toNat := by
    rw [hn]
    exact Nat.lt_of_lt_of_le hi h.length_le
  obtain ⟨buff, hbuff, hsize, hholds⟩ := h.buff hc
  obtain ⟨t, hround, -, hnt, ⟨hnone, -⟩ | ⟨hsome, hwalk, hdata⟩⟩ := config_round dev hstage hlt
  · rw [hbuff] at hnone
    cases hnone
  · rw [hbuff] at hsome
    cases hsome
    have hprint : ∃ out₀ : Output, out₀.prints = out.prints
        ∧ dumpPrint answers dev s out = out₀.config answers (byteAt t.buff.bytes) := by
      simp only [dumpPrint, hstage, if_pos hlt, Output.get, (usbGetDescriptor_config dev i).2,
        hbuff, if_neg (Nat.not_lt.mpr (h.stored_length hc))]
      refine ⟨_, ?_, rfl⟩
      rfl
    obtain ⟨out₀, hsame, hprint⟩ := hprint
    obtain ⟨out', hout⟩ := config_ok hcomplete (byteAt t.buff.bytes) out₀
    obtain ⟨p, hp, hshown⟩ := config_adds hout
    refine ⟨t, out', hround, hprint.trans hout, hwalk, hnt, by rw [hdata, hsize], hholds, ?_⟩
    rw [hp.prints, hsame, List.map_append, List.map_singleton, hshown,
      parseStream_bytes hholds.append.1 c.header_length.ge,
      List.take_of_length_le c.header_length.le]

/-- **A configuration** is listed with its header and what is shown of its descriptors. -/
theorem Described.config_prints (h : Described dev descriptor configs)
    (hcomplete : ∀ k index, (answers k index langid).Complete) (hc : configs[i]? = some c)
    {s : Dump} (hstage : s.stage = .config i) (hn : s.n_config = byteAt descriptor.bytes 17)
    (out : Output) :
    ∃ t out', Reaches (listRound answers dev) (s, out) (t, out') ∧ t.stage = .config (i + 1)
      ∧ t.n_config = byteAt descriptor.bytes 17
      ∧ out'.prints.map Print.shown = out.prints.map Print.shown ++ listed c := by
  have hmem := List.mem_of_getElem? hc
  have hfits := h.fits c hmem
  have hlength : 9 + (stream c.subs).length = c.bytes.length := by
    rw [Tiled.bytes, List.length_append, c.header_length]
    rfl
  obtain ⟨t, out₁, hround, hprint, hwalk, hnt, hdata, hholds, hshown⟩ :=
    h.header_round hcomplete hc hstage hn out
  have hmemory : Holds (memoryOf t.buff (dev.beyond i)) (9 : UInt16).toNat (stream c.subs) := by
    intro k hk
    have hread := hholds.append.2 k hk
    rw [c.header_length, Nat.zero_add] at hread
    have hsmall : (9 : UInt16).toNat + k < buffMaxSize := by
      rw [show (9 : UInt16).toNat = 9 from rfl]
      omega
    rw [memoryOf, if_pos hsmall]
    exact hread
  obtain ⟨u, out', hreaches, hu, hnu, hprints⟩ := walk_prints hcomplete dev hwalk hmemory
    (by rw [hdata]; exact hlength) (by rw [hdata]; exact hfits) (h.complete c hmem) out₁
  refine ⟨u, out', .head (listRound_again hround hprint) hreaches, hu, by rw [hnu, hnt, hn], ?_⟩
  rw [hprints, hshown, List.append_assoc]
  rfl

/-! ## Whole dumps -/

/-- The configurations one behind the other. Induction on how many there were. -/
theorem Described.configs_print (h : Described dev descriptor configs)
    (hcomplete : ∀ k index, (answers k index langid).Complete) (hi : i ≤ configs.length) :
    ∃ s out, Reaches (listRound answers dev) (.start, .start) (s, out) ∧ s.stage = .config i
      ∧ s.n_config = byteAt descriptor.bytes 17
      ∧ out.prints.map Print.shown
        = (.device, descriptor.bytes) :: (configs.take i).flatMap listed := by
  induction i with
  | zero =>
    obtain ⟨t, out, hround, hstage, hn, hprint, hshown⟩ := h.start_round hcomplete
    exact ⟨t, out, (Reaches.refl _ _).tail (listRound_again hround hprint), hstage, hn, hshown⟩
  | succ i ih =>
    obtain ⟨s, out, hs, hstage, hn, hprints⟩ := ih (by omega)
    have hc : configs[i]? = some configs[i] := List.getElem?_eq_getElem (by omega)
    obtain ⟨t, out', ht, hstage', hn', hprints'⟩ := h.config_prints hcomplete hc hstage hn out
    refine ⟨t, out', hs.trans ht, hstage', hn', ?_⟩
    rw [hprints', hprints, List.take_add_one, hc, List.flatMap_append]
    simp

theorem Described.dump_returns (h : Described dev descriptor configs)
    (hcomplete : ∀ k index, (answers k index langid).Complete) :
    ∃ s out, Returns (listRound answers dev) (.start, .start) (.ok (s, out))
      ∧ out.prints.map Print.shown = (.device, descriptor.bytes) :: configs.flatMap listed
      ∧ out.InOrder answers := by
  obtain ⟨s, out, hs, hstage, hn, hprints⟩ := h.configs_print hcomplete configs.length.le_refl
  rw [List.take_length] at hprints
  -- the last round of the outer loop prints nothing
  have hlast : ∃ t out', dumpRound dev s = .again t ∧ t.stage = .done
      ∧ dumpPrint answers dev s out = .ok out' ∧ out'.prints = out.prints := by
    by_cases hlt : configs.length < s.n_config.toNat
    · obtain ⟨t, hround, -, -, ⟨hnone, hdone⟩ | ⟨hsome, -⟩⟩ := config_round dev hstage hlt
      · have hprint : ∃ out' : Output, dumpPrint answers dev s out = .ok out'
            ∧ out'.prints = out.prints := by
          simp only [dumpPrint, hstage, if_pos hlt, Output.get, (usbGetDescriptor_config dev _).2,
            hnone]
          exact ⟨_, rfl, rfl⟩
        obtain ⟨out', hprint, hsame⟩ := hprint
        exact ⟨t, out', hround, hdone, hprint, hsame⟩
      · rw [h.ends (hn ▸ hlt)] at hsome
        cases hsome
    · refine ⟨_, out, config_end dev hstage hlt, rfl, ?_, rfl⟩
      simp only [dumpPrint, hstage, if_neg hlt]
  obtain ⟨t, out', hround, hdone, hprint, hsame⟩ := hlast
  have ht := hs.tail (listRound_again hround hprint)
  have hleave : listRound answers dev (t, out') = .leave (.ok (t, out')) :=
    recorded_leave_iff.mpr ⟨by simp only [dumpRound, hdone], rfl⟩
  exact ⟨t, out', exists_run_iff.mpr ⟨_, ht, hleave⟩, hsame ▸ hprints, inOrder_of_reaches ht⟩

/-- **What a dump prints.** The dump of a well-formed device, whose answers are complete, returns
without a fault, and then it has listed the device descriptor by descriptor, in the order of its
streams; the strings in the list are those the descriptors name. -/
theorem dump_lists (h : Described dev descriptor configs) (answers : Answers)
    (hcomplete : ∀ k index, (answers k index langid).Complete) :
    (∃ s out, Returns (listRound answers dev) (.start, .start) (.ok (s, out)))
      ∧ ∀ r, Returns (listRound answers dev) (.start, .start) r → ∃ s out, r = .ok (s, out)
        ∧ out.prints.map Print.shown = (.device, descriptor.bytes) :: configs.flatMap listed
        ∧ out.InOrder answers := by
  obtain ⟨s, out, hreturns, hlisted⟩ := h.dump_returns hcomplete
  exact ⟨⟨s, out, hreturns⟩, fun r hr => ⟨s, out, hr.unique hreturns, hlisted⟩⟩

end

/-- The answer with the descriptor of a text. -/
def answerOf (t : Text) : Answer where
  reply := some t.reply
  stack := .zero 126
  beyond _ := 0

theorem answerOf_complete (t : Text) : (answerOf t).Complete := by
  have hle := t.length_le
  have hunits := units_length t.chars
  rintro r ⟨⟩
  refine ⟨List.cons_ne_nil _ _, ?_⟩
  show (UInt8.ofNat (2 + 2 * t.chars.length)).toNat ≤ max 2 ((units t.chars).length + 1 + 1)
  rw [UInt8.toNat_ofNat', hunits]
  omega

/-- A device with one configuration. -/
def sampleDescriptor : Buffer usbDtDeviceSize :=
  ⟨[18, 1, 0, 2, 0, 0, 0, 64, 0xD1, 0x18, 0xE1, 0x4E, 0, 1, 1, 2, 3, 1], rfl⟩

theorem described_sample {c : Tiled} (hfits : c.bytes.length ≤ buffMaxSize)
    (hcomplete : ∀ d ∈ c.subs, bytesRead d.type ≤ d.bytes.length) :
    Described (sampleDevice c.bytes) sampleDescriptor [c] := by
  have honly : ∀ {i : Nat} {c' : Tiled}, [c][i]? = some c' → c' = c := by
    intro i c' hc
    exact List.mem_singleton.mp (List.mem_of_getElem? hc)
  constructor
  case language => rfl
  case device => rfl
  case length_le => exact show 1 ≤ (byteAt sampleDescriptor.bytes 17).toNat by decide
  case header =>
    intro i c' hc
    rw [honly hc]
    exact congrArg some (List.take_left' c.header_length)
  case configuration =>
    intro i c' hc
    rw [honly hc]
    rfl
  case ends =>
    intro hlt
    exact absurd hlt (show ¬ 1 < (byteAt sampleDescriptor.bytes 17).toNat by decide)
  case fits => exact List.forall_mem_singleton.mpr hfits
  case complete => exact List.forall_mem_singleton.mpr hcomplete

theorem sampleTiled_complete : ∀ d ∈ sampleTiled.subs, bytesRead d.type ≤ d.bytes.length :=
  List.forall_mem_cons.mpr ⟨by decide, List.forall_mem_singleton.mpr (by decide)⟩

/-- Its strings: a manufacturer, and the same text for all others. -/
def sampleAnswers : Answers := fun _ index _ =>
  if index = 1 then answerOf ⟨[97, 100, 98], by simp, by decide⟩
  else answerOf ⟨[100, 114, 111, 105, 100], by simp, by decide⟩

theorem sampleAnswers_complete (k : Nat) (index : UInt8) :
    (sampleAnswers k index langid).Complete := by
  unfold sampleAnswers
  split
  · exact answerOf_complete _
  · exact answerOf_complete _

theorem dump_lists_sample :
    (∃ s out, Returns (listRound sampleAnswers (sampleDevice sampleTiled.bytes)) (.start, .start)
      (.ok (s, out)))
    ∧ ∀ r, Returns (listRound sampleAnswers (sampleDevice sampleTiled.bytes)) (.start, .start) r →
      ∃ s out, r = .ok (s, out)
        ∧ out.prints.map Print.shown
          = [(.device, sampleDescriptor.bytes), (.config, [9, 2, 22, 0, 1, 1, 0, 0x80, 50]),
            (.interface, [9, 4, 0, 0, 0, 0xFF, 0, 0, 0])]
        ∧ out.InOrder sampleAnswers :=
  dump_lists (described_sample (by decide) sampleTiled_complete) sampleAnswers
    sampleAnswers_complete

end Droidbox.Usb.Listing
