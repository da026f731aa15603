import Droidbox.Lib.Block
import Droidbox.Usb.Walks

/-!
# Droidbox — the configuration parser and its memory

`parse_descriptor` of `lib/usb/usb.c` with `__parse_config_descriptor`, whose loop walks over the
descriptors of a stream and copies interfaces and endpoints into arrays it allocated from counts
in the stream. The offsets of these arrays grow by the sizes of the descriptors in bytes, but
they index elements. Allocations are taken to succeed.

* **`parseInterface_ok_iff`**, **`parseEndpoint_ok_iff`**: what the two descriptors that are
  stored do to the arrays.
* **`parseRound_walk`**: the loop follows `parseWalk`.
* **`parseDescriptor_config`**: the result is that of the state the loop leaves in.
-/

namespace Droidbox.Usb

open LittleEndian Scripted Walk

/-! ## Data -/

/-- `struct idescriptor` in allocated memory. What was not written yet is `none`; `ued` is the
array it points to. -/
structure Idescriptor where
  uid : Option (List UInt8)
  ued : Option Block
  deriving DecidableEq, Repr

/-- `struct usb_parsed_config_descriptor` -/
structure Upcd where
  ucd : List UInt8
  ifaced : List Idescriptor
  deriving DecidableEq, Repr

/-- What `parse_descriptor` returns a pointer to. -/
inductive Parsed where
  | device (udd : List UInt8)
  | config (upcd : Upcd)
  deriving DecidableEq, Repr

/-- An undefined access of the parser: bytes of the stream behind its end, a slot of `ifaced` that
does not exist or was never written, bytes of an endpoint array outside its block. -/
inductive ParseFault where
  | read (index count : Nat)
  | ifaced (slot : Nat)
  | ued (offset : Nat)
  deriving DecidableEq, Repr

/-- `sizeof(struct usb_endpoint_descriptor)`, with the two fields of audio endpoints. -/
def sizeofEndpointDescriptor : Nat := 9

/-- `sizeof(__ued_size)`, a `size_t`. -/
def sizeofUedSize : Nat := 8

/-- The variables of the loop of `__parse_config_descriptor`. -/
structure Parser where
  cursor : Cursor
  iface_offset : UInt16
  endp_offset : UInt16
  ifaced : List Idescriptor

/-- `__iface_offset = 0`, `__endp_offset = 0` and `bNumInterfaces` slots. -/
def Parser.start (ucd : List UInt8) : Parser where
  cursor := .start
  iface_offset := 0
  endp_offset := 0
  ifaced := List.replicate (byteAt ucd 4).toNat ⟨none, none⟩

/-! ## The loop -/

/-- `n` bytes of the stream from byte `i` on. -/
def readStream (src : List UInt8) (i n : Nat) : Except ParseFault (List UInt8) :=
  if i + n ≤ src.length then .ok ((src.drop i).take n) else .error (.read i n)

/-- `__upcd->ifaced->uid.bNumEndpoints`: the pointer is that of the first slot, in every round. -/
def bNumEndpoints (ifaced : List Idescriptor) : Except ParseFault UInt8 :=
  match ifaced.head?.bind Idescriptor.uid with
  | none => .error (.ifaced 0)
  | some uid => .ok (byteAt uid 4)

/-- `USB_DT_INTERFACE` -/
def parseInterface (src : List UInt8) (s : Parser) : Except ParseFault Parser := do
  let uid ← readStream src s.cursor.i usbDtInterfaceSize
  let slot := s.iface_offset.toNat
  if slot < s.ifaced.length then
    let ifaced := s.ifaced.modify slot fun d => { d with uid := some uid }
    let n_endp ← bNumEndpoints ifaced
    let ued := Block.malloc (n_endp.toNat * sizeofUedSize)
    return { s with
      ifaced := ifaced.modify slot fun d => { d with ued := some ued }
      iface_offset := s.iface_offset + 9
      endp_offset := 0 }
  else
    throw (.ifaced slot)

/-- `(__upcd->ifaced + (__iface_offset - __uid_size))->ued`. With no interface so far the
difference wraps around and the address lies in front of the array. -/
def Parser.current (s : Parser) : Option Block :=
  if s.iface_offset.toNat < 9 then none
  else s.ifaced[s.iface_offset.toNat - 9]?.bind Idescriptor.ued

/-- `USB_DT_ENDPOINT` -/
def parseEndpoint (src : List UInt8) (s : Parser) : Except ParseFault Parser := do
  let ued ← readStream src s.cursor.i usbDtEndpointSize
  match s.current with
  | none => throw (.ifaced s.iface_offset.toNat)
  | some uedp =>
    let offset := sizeofEndpointDescriptor * s.endp_offset.toNat
    match uedp.store offset ued with
    | none => throw (.ued offset)
    | some uedp =>
      return { s with
        ifaced := s.ifaced.modify (s.iface_offset.toNat - 9) fun d => { d with ued := some uedp }
        endp_offset := s.endp_offset + 7 }

/-- The `switch` on the type. -/
def parseBody (src : List UInt8) (s : Parser) : Except ParseFault Parser := do
  let _ ← readStream src (s.cursor.i + 1) 1
  let dt := byteAt src (s.cursor.i + 1)
  if dt = usbDtInterface then
    parseInterface src s
  else if dt = usbDtEndpoint then
    parseEndpoint src s
  else
    return s

/-- One round of the loop, with `offset = *(src + i)` and `i += offset` at its end. -/
def parseRound (src : List UInt8) (data_size : UInt16) (s : Parser) :
    Round Parser (Except ParseFault Parser) :=
  if s.cursor.i < data_size.toNat then
    match parseBody src s with
    | .error f => .leave (.error f)
    | .ok t => .again { t with cursor := s.cursor.advance (byteAt src) }
  else
    .leave (.ok s)

/-- `__parse_config_descriptor`, for at most `fuel` rounds of its loop. -/
def parseConfigDescriptor (fuel : Nat) (src : List UInt8) : Option (Except ParseFault Upcd) :=
  match readStream src 0 usbDtConfigSize with
  | .error f => some (.error f)
  | .ok ucd =>
    (run (parseRound src (word16 ucd 2)) fuel (.start ucd)).map fun r =>
      r.map fun s => ⟨ucd, s.ifaced⟩

/-- `parse_descriptor` -/
def parseDescriptor (fuel : Nat) (src : List UInt8) : Option (Except ParseFault (Option Parsed)) :=
  match readStream src 1 1 with
  | .error f => some (.error f)
  | .ok _ =>
    if byteAt src 1 = usbDtDevice then
      some ((readStream src 0 usbDtDeviceSize).map fun udd => some (.device udd))
    else if byteAt src 1 = usbDtConfig then
      (parseConfigDescriptor fuel src).map fun r => r.map fun u => some (.config u)
    else
      some (.ok none)

/-! ## The parts of a round -/

variable {src : List UInt8} {s : Parser}

theorem readStream_ok {i n : Nat} (h : i + n ≤ src.length) :
    readStream src i n = .ok ((src.drop i).take n) := if_pos h

theorem readStream_error {i n : Nat} (h : src.length < i + n) :
    readStream src i n = .error (.read i n) := if_neg (Nat.not_le.mpr h)

/-- **An interface descriptor** has to be all there, for a slot that exists. -/
theorem parseInterface_ok_iff {t : Parser} :
    parseInterface src s = .ok t ↔
      s.cursor.i + usbDtInterfaceSize ≤ src.length ∧ s.iface_offset.toNat < s.ifaced.length
        ∧ ∃ n_endp, bNumEndpoints (s.ifaced.modify s.iface_offset.toNat fun d =>
            { d with uid := some ((src.drop s.cursor.i).take usbDtInterfaceSize) }) = .ok n_endp
          ∧ t = { s with
            ifaced := s.ifaced.modify s.iface_offset.toNat fun _ =>
              ⟨some ((src.drop s.cursor.i).take usbDtInterfaceSize),
                some (Block.malloc (n_endp.toNat * sizeofUedSize))⟩
            iface_offset := s.iface_offset + 9
            endp_offset := 0 } := by
  unfold parseInterface
  by_cases hread : s.cursor.i + usbDtInterfaceSize ≤ src.length
  · by_cases hslot : s.iface_offset.toNat < s.ifaced.length
    · simp only [readStream_ok hread, bind, Except.bind, hslot, hread, if_true, true_and]
      cases bNumEndpoints (s.ifaced.modify s.iface_offset.toNat fun d =>
        { d with uid := some ((src.drop s.cursor.i).take usbDtInterfaceSize) }) with
      | error f => simp
      | ok n_endp =>
        simp only [List.modify_modify_eq, pure, Except.pure, Except.ok.injEq]
        constructor
        · rintro rfl
          exact ⟨n_endp, rfl, rfl⟩
        · rintro ⟨_, rfl, rfl⟩
          rfl
    · simp [readStream_ok hread, bind, Except.bind, hslot, throw, throwThe, MonadExceptOf.throw]
  · simp [readStream_error (Nat.not_le.mp hread), bind, Except.bind, hread]

/-- **An endpoint descriptor** has to be all there, with room for it in the current array. -/
theorem parseEndpoint_ok_iff {t : Parser} :
    parseEndpoint src s = .ok t ↔
      s.cursor.i + usbDtEndpointSize ≤ src.length
        ∧ ∃ uedp uedp', s.current = some uedp
          ∧ uedp.store (sizeofEndpointDescriptor * s.endp_offset.toNat)
              ((src.drop s.cursor.i).take usbDtEndpointSize) = some uedp'
          ∧ t = { s with
            ifaced := s.ifaced.modify (s.iface_offset.toNat - 9) fun d =>
              { d with ued := some uedp' }
            endp_offset := s.endp_offset + 7 } := by
  unfold parseEndpoint
  by_cases hread : s.cursor.i + usbDtEndpointSize ≤ src.length
  · simp only [readStream_ok hread, bind, Except.bind, hread, true_and]
    cases s.current with
    | none => simp [throw, throwThe, MonadExceptOf.throw]
    | some uedp =>
      cases hstore : uedp.store (sizeofEndpointDescriptor * s.endp_offset.toNat)
          ((src.drop s.cursor.i).take usbDtEndpointSize) with
      | none => simp [hstore, throw, throwThe, MonadExceptOf.throw]
      | some uedp' =>
        simp only [hstore, pure, Except.pure, Except.ok.injEq]
        constructor
        · rintro rfl
          exact ⟨uedp, uedp', rfl, hstore, rfl⟩
        · rintro ⟨_, _, huedp, hstore', rfl⟩
          cases huedp
          rw [hstore] at hstore'
          cases hstore'
          rfl
  · simp [readStream_error (Nat.not_le.mp hread), bind, Except.bind, hread]

theorem parseBody_short (h : src.length < s.cursor.i + 2) : ∃ f, parseBody src s = .error f := by
  have hread : readStream src (s.cursor.i + 1) 1 = .error _ := readStream_error h
  exact ⟨_, by simp only [parseBody, hread, bind, Except.bind]; rfl⟩

theorem parseBody_eq (h : s.cursor.i + 2 ≤ src.length) :
    parseBody src s
      = if byteAt src (s.cursor.i + 1) = usbDtInterface then parseInterface src s
        else if byteAt src (s.cursor.i + 1) = usbDtEndpoint then parseEndpoint src s
        else .ok s := by
  simp only [parseBody, readStream_ok (show s.cursor.i + 1 + 1 ≤ src.length by omega), bind,
    Except.bind]
  rfl

/-! ## Rounds -/

variable {D : UInt16}

theorem parseRound_again_iff {t : Parser} :
    parseRound src D s = .again t ↔ s.cursor.i < D.toNat
      ∧ ∃ u, parseBody src s = .ok u ∧ t = { u with cursor := s.cursor.advance (byteAt src) } := by
  unfold parseRound
  split
  · cases parseBody src s <;> simp_all [eq_comm]
  · simp_all

theorem parseRound_leave_iff {r : Except ParseFault Parser} :
    parseRound src D s = .leave r ↔ D.toNat ≤ s.cursor.i ∧ r = .ok s
      ∨ s.cursor.i < D.toNat ∧ ∃ f, parseBody src s = .error f ∧ r = .error f := by
  unfold parseRound
  split
  · cases parseBody src s <;> simp_all [eq_comm]
  · simp_all [eq_comm]

/-- **The loop is the walk of the parser**, as far as it keeps to its memory. -/
theorem parseRound_walk {t : Parser} (h : Reaches (parseRound src D) s t) :
    Reaches (parseWalk (byteAt src) D) s.cursor t.cursor := by
  induction h with
  | refl => exact .refl _ _
  | tail _ hround ih =>
    obtain ⟨hlt, u, -, rfl⟩ := parseRound_again_iff.mp hround
    exact ih.tail (parseWalk_again_iff.mpr ⟨hlt, rfl⟩)

/-! ## Results -/

/-- `wTotalLength` is in the bytes of the header. -/
theorem word16_header (src : List UInt8) :
    word16 (src.take usbDtConfigSize) 2 = word16 src 2 := by
  simp only [word16, byteAt_take (show 2 < usbDtConfigSize by decide),
    byteAt_take (show 2 + 1 < usbDtConfigSize by decide)]

/-- **What parsing a configuration comes to.** It is that of the state its loop leaves in. -/
theorem parseDescriptor_config (hmin : usbDtConfigSize ≤ src.length)
    (htype : byteAt src 1 = usbDtConfig) (q : Except ParseFault (Option Parsed)) :
    (∃ fuel, parseDescriptor fuel src = some q) ↔
      ∃ t r, Reaches (parseRound src (word16 src 2)) (.start (src.take usbDtConfigSize)) t
        ∧ parseRound src (word16 src 2) t = .leave r
        ∧ q = r.map fun t => some (.config ⟨src.take usbDtConfigSize, t.ifaced⟩) := by
  have hmin' : 9 ≤ src.length := hmin
  have hrun : ∀ fuel, parseDescriptor fuel src
      = (run (parseRound src (word16 src 2)) fuel (.start (src.take usbDtConfigSize))).map
          fun r => r.map fun t => some (.config ⟨src.take usbDtConfigSize, t.ifaced⟩) := by
    intro fuel
    simp only [parseDescriptor, readStream_ok (show 1 + 1 ≤ src.length by omega), htype,
      parseConfigDescriptor, readStream_ok (show 0 + usbDtConfigSize ≤ src.length by omega),
      List.drop_zero, word16_header, Option.map_map]
    rw [if_neg (by decide), if_true]
    congr 1
    funext r
    cases r <;> rfl
  simp only [hrun, Option.map_eq_some_iff]
  constructor
  · rintro ⟨fuel, r, hr, rfl⟩
    obtain ⟨t, ht, hleave⟩ := exists_run_iff.mp ⟨fuel, hr⟩
    exact ⟨t, r, ht, hleave, rfl⟩
  · rintro ⟨t, r, ht, hleave, rfl⟩
    obtain ⟨fuel, hr⟩ := exists_run_iff.mpr ⟨t, ht, hleave⟩
    exact ⟨fuel, r, hr, rfl⟩

end Droidbox.Usb
