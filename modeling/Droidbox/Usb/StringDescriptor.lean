import Droidbox.Usb.Dump

/-!
# Droidbox — reading a string descriptor

`usb_get_string` of `lib/usb/usb.c` asks for 126 bytes and then goes over as many as the length
byte in front of them says, copying those that are not zero into the caller's buffer.

* **`stringLoop_eq`**: what the loop reads and what it writes.
* **`Reply.bounded_iff`**: a reply is read inside of what was transferred exactly when it has a
  length byte, and that is not beyond the transfer.
* **`text_decodes`**: the descriptor of a text of up to 62 characters gives that text.
-/

namespace Droidbox.Usb.StringDescriptor

open LittleEndian

/-! ## The function -/

/-- `USB_MAX_STRING_LEN` -/
def usbMaxStringLen : Nat := 126

def stringMaxSize : Nat := 128

/-- What a call does: its return value, the indices of `__buff` it reads, and the bytes it writes
one behind the other from `buff` on. -/
structure StringCall where
  ret : Int
  reads : List Nat
  written : List UInt8
  deriving DecidableEq, Repr

/-- The array `__buff`, and what lies behind it. -/
def stackMemory (buff : Buffer 126) (beyond : Memory) : Memory := fun i =>
  if i < usbMaxStringLen then byteAt buff.bytes i else beyond i

/-- `if (__buff[i]) *__buffp++ = __buff[i]` for a number of rounds from `i` on, and the NUL. -/
def stringLoop (m : Memory) : Nat → Nat → List Nat × List UInt8
  | 0, _ => ([], [0])
  | rounds + 1, i =>
    let (reads, written) := stringLoop m rounds (i + 1)
    (i :: reads, if m i ≠ 0 then m i :: written else written)

/-- `usb_get_string`, for the outcome of the control transfer and the bytes its array holds. -/
def usbGetString (reply : Option (List UInt8)) (stack : Buffer 126) (beyond : Memory) :
    StringCall :=
  match (usbGetDescriptor .string reply none stack).2 with
  | none => ⟨1, [], [0]⟩
  | some buff =>
    -- `*wlen = buff[0]`, not the number of bytes transferred
    let rlen := (byteAt buff.bytes 0).toNat
    let (reads, written) := stringLoop (stackMemory buff beyond) (rlen - 2) 2
    ⟨0, 0 :: reads, written⟩

/-! ## The loop -/

/-- **The loop** reads a range and writes what is not zero in it. -/
theorem stringLoop_eq (m : Memory) (rounds i : Nat) :
    stringLoop m rounds i
      = (List.range' i rounds, ((List.range' i rounds).map m).filter (· ≠ 0) ++ [0]) := by
  induction rounds generalizing i with
  | zero => rfl
  | succ rounds ih =>
    rw [stringLoop, ih, List.range'_succ, List.map_cons]
    dsimp only
    by_cases hzero : m i = 0
    · rw [if_neg (not_not.mpr hzero), List.filter_cons_of_neg (by simpa using hzero)]
    · rw [if_pos hzero, List.filter_cons_of_pos (by simpa using hzero), List.cons_append]

/-! ## Replies -/

/-- A reply to the request for a string descriptor: the bytes that were transferred. -/
structure Reply where
  bytes : List UInt8
  length_le : bytes.length ≤ 126

variable (r : Reply) (stack : Buffer 126) (beyond : Memory)

/-- `__buff` behind the transfer. -/
def Reply.buff : Buffer 126 := control DescriptorType.string.wLength r.bytes stack

theorem Reply.buff_bytes : (r.buff stack).bytes = overlay r.bytes stack.bytes := by
  have hle := r.length_le
  have hw : DescriptorType.string.wLength.toNat = 126 := rfl
  rw [Reply.buff, control, Buffer.write_zero_bytes, hw, List.take_of_length_le hle,
    List.take_of_length_le hle]

theorem Reply.usbGetString_eq :
    usbGetString (some r.bytes) stack beyond
      = { ret := 0
          reads := 0 :: List.range' 2 ((byteAt (r.buff stack).bytes 0).toNat - 2)
          written := ((List.range' 2 ((byteAt (r.buff stack).bytes 0).toNat - 2)).map
            (stackMemory (r.buff stack) beyond)).filter (· ≠ 0) ++ [0] } := by
  rw [usbGetString, usbGetDescriptor_fixed (by decide)]
  dsimp only [Option.map_some]
  rw [stringLoop_eq]
  rfl

/-- The call reads only bytes that were transferred, and writes what the caller's buffer holds. -/
structure Reply.Bounded : Prop where
  reads : ∀ i ∈ (usbGetString (some r.bytes) stack beyond).reads, i < r.bytes.length
  written : (usbGetString (some r.bytes) stack beyond).written.length ≤ stringMaxSize

/-- There is a length byte, and the descriptor is no longer than the transfer. -/
structure Reply.Complete : Prop where
  nonempty : r.bytes ≠ []
  bLength : (byteAt r.bytes 0).toNat ≤ max 2 r.bytes.length

variable {r stack beyond}

theorem Reply.bLength_eq (h : r.bytes ≠ []) (stack : Buffer 126) :
    byteAt (r.buff stack).bytes 0 = byteAt r.bytes 0 := by
  rw [r.buff_bytes, byteAt_overlay_left (List.length_pos_of_ne_nil h)]

theorem Reply.complete_of_bounded (h : r.Bounded stack beyond) : r.Complete := by
  have hreads := h.reads
  rw [r.usbGetString_eq] at hreads
  have hfirst : 0 < r.bytes.length := hreads 0 List.mem_cons_self
  have hne : r.bytes ≠ [] := List.ne_nil_of_length_pos hfirst
  refine ⟨hne, ?_⟩
  rw [Reply.bLength_eq hne] at hreads
  by_contra hlong
  -- the last byte that is read lies behind the transfer
  have hlast := hreads ((byteAt r.bytes 0).toNat - 1)
    (List.mem_cons_of_mem _ (List.mem_range'_1.mpr (by omega)))
  omega

theorem Reply.bounded_of_complete (h : r.Complete) (stack : Buffer 126) (beyond : Memory) :
    r.Bounded stack beyond := by
  have hle := r.length_le
  have hpos := List.length_pos_of_ne_nil h.nonempty
  have hlen := h.bLength
  constructor
  · rw [r.usbGetString_eq, Reply.bLength_eq h.nonempty]
    intro i hi
    rcases List.mem_cons.mp hi with rfl | hi
    · exact hpos
    · have hrange := List.mem_range'_1.mp hi
      omega
  · rw [r.usbGetString_eq, Reply.bLength_eq h.nonempty]
    have hfilter := List.length_filter_le (fun b : UInt8 => decide (b ≠ 0))
      ((List.range' 2 ((byteAt r.bytes 0).toNat - 2)).map (stackMemory (r.buff stack) beyond))
    rw [List.length_map, List.length_range'] at hfilter
    rw [List.length_append, List.length_singleton, stringMaxSize]
    omega

/-- **Which replies are read inside of what was transferred.** -/
theorem Reply.bounded_iff (r : Reply) (stack : Buffer 126) (beyond : Memory) :
    r.Bounded stack beyond ↔ r.Complete :=
  ⟨Reply.complete_of_bounded, fun h => Reply.bounded_of_complete h stack beyond⟩

/-- A reply of four bytes that says it has 255. -/
theorem long_bLength_not_bounded :
    ¬ (Reply.mk [255, 3, 65, 0] (by decide)).Bounded (.zero 126) fun _ => 0 := by
  intro h
  exact absurd (Reply.complete_of_bounded h).bLength (by decide)

/-! ## Texts -/

/-- A text of characters below 256, none of them NUL, that fits the request. -/
structure Text where
  chars : List UInt8
  nonzero : ∀ b ∈ chars, b ≠ 0
  length_le : chars.length ≤ 62

@[ext] theorem Text.ext {t u : Text} (h : t.chars = u.chars) : t = u := by
  cases t; cases u; cases h; rfl

/-- The characters as 16-bit units. -/
def units (s : List UInt8) : List UInt8 := s.flatMap fun b => le16 b.toUInt16

/-- The string descriptor of a text. -/
def Text.descriptor (t : Text) : List UInt8 :=
  UInt8.ofNat (2 + 2 * t.chars.length) :: 3 :: units t.chars

theorem units_cons (b : UInt8) (s : List UInt8) : units (b :: s) = b :: 0 :: units s := by
  have hlow : b.toUInt16.toUInt8 = b := by simp
  have hhigh : (b.toUInt16 >>> 8).toUInt8 = 0 := by
    apply UInt8.toNat_inj.mp
    have hb := b.toNat_lt
    simp [Nat.shiftRight_eq_div_pow]
    omega
  rw [units, List.flatMap_cons, le16, hlow, hhigh]
  rfl

theorem units_length (s : List UInt8) : (units s).length = 2 * s.length := by
  induction s with
  | nil => rfl
  | cons b s ih =>
    rw [units_cons, List.length_cons, List.length_cons, ih, List.length_cons]
    omega

/-- **Dropping the zero bytes** drops the high byte of each unit and nothing else. -/
theorem filter_units {s : List UInt8} (h : ∀ b ∈ s, b ≠ 0) : (units s).filter (· ≠ 0) = s := by
  induction s with
  | nil => rfl
  | cons b s ih =>
    obtain ⟨hb, hs⟩ := List.forall_mem_cons.mp h
    rw [units_cons, List.filter_cons_of_pos (by simpa using hb),
      List.filter_cons_of_neg (by decide), ih hs]

/-- The bytes behind two others, read one by one. -/
theorem map_byteAt_range' (a b : UInt8) (s : List UInt8) :
    (List.range' 2 s.length).map (byteAt (a :: b :: s)) = s := by
  apply List.ext_getElem
  · rw [List.length_map, List.length_range']
  · intro i hi hi'
    rw [List.getElem_map, List.getElem_range', Nat.one_mul, show 2 + i = i + 1 + 1 by omega,
      byteAt_cons_succ, byteAt_cons_succ, byteAt, List.getD_eq_getElem?_getD,
      List.getElem?_eq_getElem hi', Option.getD_some]

def Text.reply (t : Text) : Reply where
  bytes := t.descriptor
  length_le := by
    have hle := t.length_le
    rw [Text.descriptor, List.length_cons, List.length_cons, units_length]
    omega

/-- **The descriptor of a text** gives its characters and a NUL. -/
theorem Text.usbGetString_descriptor (t : Text) (stack : Buffer 126) (beyond : Memory) :
    (usbGetString (some t.descriptor) stack beyond).ret = 0
      ∧ (usbGetString (some t.descriptor) stack beyond).written = t.chars ++ [0] := by
  have hle := t.length_le
  have hlength : t.descriptor.length = 2 + (units t.chars).length := by
    rw [Text.descriptor, List.length_cons, List.length_cons]
    omega
  have hunits := units_length t.chars
  have hbLength : (byteAt (t.reply.buff stack).bytes 0).toNat - 2 = (units t.chars).length := by
    rw [Reply.bLength_eq (List.cons_ne_nil _ _)]
    show (UInt8.ofNat (2 + 2 * t.chars.length)).toNat - 2 = _
    rw [UInt8.toNat_ofNat', hunits]
    omega
  have hread : ∀ i ∈ List.range' 2 (units t.chars).length,
      stackMemory (t.reply.buff stack) beyond i = byteAt t.descriptor i := by
    intro i hi
    have hrange := List.mem_range'_1.mp hi
    rw [stackMemory, usbMaxStringLen, if_pos (by omega), Reply.buff_bytes]
    exact byteAt_overlay_left (show i < t.descriptor.length by omega)
  have heq := t.reply.usbGetString_eq stack beyond
  rw [hbLength, List.map_congr_left hread, Text.descriptor, map_byteAt_range',
    filter_units t.nonzero] at heq
  rw [show t.descriptor = t.reply.bytes from rfl, heq]
  exact ⟨rfl, rfl⟩

/-- **Texts decode to themselves**, whatever the array held before; and distinct texts give
distinct results. -/
theorem text_decodes (stack : Text → Buffer 126) (beyond : Text → Memory) :
    (∀ t : Text, (usbGetString (some t.descriptor) (stack t) (beyond t)).ret = 0
      ∧ (usbGetString (some t.descriptor) (stack t) (beyond t)).written = t.chars ++ [0])
    ∧ Function.Injective
      fun t : Text => (usbGetString (some t.descriptor) (stack t) (beyond t)).written := by
  refine ⟨fun t => t.usbGetString_descriptor _ _, fun t u h => ?_⟩
  dsimp only at h
  rw [(t.usbGetString_descriptor _ _).2, (u.usbGetString_descriptor _ _).2] at h
  exact Text.ext (List.append_cancel_right h)

end Droidbox.Usb.StringDescriptor
