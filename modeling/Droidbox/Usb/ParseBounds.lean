import Droidbox.Usb.Parse

/-!
# Droidbox — which configurations are parsed inside their memory

The arrays of the parser are allocated from `bNumInterfaces` and from `bNumEndpoints` of the first
interface, while its stores follow the descriptors that are in the stream. `Tally` counts these
descriptors, and the offsets of the parser are multiples of the counts.

* **`parseBody_fits`**, **`fits_of_parseBody`**: whether one round keeps to its memory.
* **`inBounds_iff`**: a configuration is parsed without an access outside exactly when every
  descriptor of its layout fits what was counted so far.
-/

namespace Droidbox.Usb

open LittleEndian Scripted Walk

/-! ## Counting descriptors -/

/-- The interfaces so far, the endpoints behind the last one, and `bNumEndpoints` of the first. -/
structure Tally where
  interfaces : Nat
  endpoints : Nat
  announced : Nat
  deriving DecidableEq, Repr

def Tally.add (m : Memory) (t : Tally) (o : Nat) : Tally :=
  if m (o + 1) = usbDtInterface then
    { interfaces := t.interfaces + 1
      endpoints := 0
      announced := if t.interfaces = 0 then (m (o + 4)).toNat else t.announced }
  else if m (o + 1) = usbDtEndpoint then
    { t with endpoints := t.endpoints + 1 }
  else
    t

def tally (m : Memory) (past : List Nat) : Tally := past.foldl (Tally.add m) ⟨0, 0, 0⟩

theorem tally_snoc (m : Memory) (past : List Nat) (o : Nat) :
    tally m (past ++ [o]) = (tally m past).add m o := by
  simp [tally]

/-- The descriptor at `o`, behind those counted in `t`, is inside the `D` bytes of the stream, and
what is stored of it is inside the arrays: one slot in nine is used, one endpoint in seven, and
each array has eight bytes for an endpoint announced by the first interface. -/
def Fits (m : Memory) (D n : Nat) (t : Tally) (o : Nat) : Prop :=
  o + 2 ≤ D
    ∧ if m (o + 1) = usbDtInterface then
        9 * t.interfaces < n ∧ o + usbDtInterfaceSize ≤ D
      else if m (o + 1) = usbDtEndpoint then
        0 < t.interfaces ∧ 63 * t.endpoints + 7 ≤ 8 * t.announced ∧ o + usbDtEndpointSize ≤ D
      else
        True

instance (m : Memory) (D n : Nat) (t : Tally) (o : Nat) : Decidable (Fits m D n t o) := by
  unfold Fits
  infer_instance

/-! ## The offsets are counts -/

variable {src : List UInt8} {n : Nat} {t : Tally} {s : Parser}

/-- The variables of the parser behind the descriptors counted in `t`. -/
structure Accounts (n : Nat) (t : Tally) (s : Parser) : Prop where
  iface_offset : s.iface_offset.toNat = 9 * t.interfaces
  endp_offset : s.endp_offset.toNat = 7 * t.endpoints
  slots : s.ifaced.length = n
  /-- The counts are small: the slot of the last interface and the endpoint before were inside. -/
  interfaces_le : 9 * t.interfaces ≤ n + 8
  endpoints_le : 63 * t.endpoints ≤ 8 * t.announced + 56
  announced_lt : t.announced < 256
  first : 0 < t.interfaces → ∃ b, bNumEndpoints s.ifaced = .ok b ∧ b.toNat = t.announced
  current : 0 < t.interfaces → ∃ uedp, s.current = some uedp ∧ uedp.length = 8 * t.announced

theorem accounts_start (ucd : List UInt8) :
    Accounts (byteAt ucd 4).toNat ⟨0, 0, 0⟩ (.start ucd) where
  iface_offset := rfl
  endp_offset := rfl
  slots := List.length_replicate
  interfaces_le := Nat.zero_le _
  endpoints_le := Nat.zero_le _
  announced_lt := by decide
  first h := absurd h (Nat.lt_irrefl 0)
  current h := absurd h (Nat.lt_irrefl 0)

/-- A slot written behind the first one does not change what is read from the first. -/
theorem bNumEndpoints_modify {ifaced : List Idescriptor} {slot : Nat}
    {f : Idescriptor → Idescriptor} (h : slot ≠ 0 ∨ ∀ d, (f d).uid = d.uid) :
    bNumEndpoints (ifaced.modify slot f) = bNumEndpoints ifaced := by
  unfold bNumEndpoints
  cases ifaced with
  | nil => cases slot <;> rfl
  | cons d ifaced =>
    cases slot with
    | succ slot => rfl
    | zero =>
      have huid := h.resolve_left (by simp) d
      simp [huid]

theorem bNumEndpoints_first {ifaced : List Idescriptor} {f : Idescriptor → Idescriptor}
    {uid : List UInt8} (hlen : 0 < ifaced.length) (h : ∀ d, (f d).uid = some uid) :
    bNumEndpoints (ifaced.modify 0 f) = .ok (byteAt uid 4) := by
  unfold bNumEndpoints
  cases ifaced with
  | nil => cases hlen
  | cons d ifaced => simp [h d]

/-- `n_endp` of an interface descriptor is what the tally keeps as announced. -/
theorem Accounts.n_endp (h : Accounts n t s) (src : List UInt8) (hslot : 9 * t.interfaces < n)
    (hlen : 4 < usbDtInterfaceSize) :
    ∃ b, bNumEndpoints (s.ifaced.modify s.iface_offset.toNat fun d =>
        { d with uid := some ((src.drop s.cursor.i).take usbDtInterfaceSize) }) = .ok b
      ∧ b.toNat = if t.interfaces = 0 then (byteAt src (s.cursor.i + 4)).toNat
          else t.announced := by
  have hoffset := h.iface_offset
  have hslots := h.slots
  by_cases hzero : t.interfaces = 0
  · have hfirst : s.iface_offset.toNat = 0 := by omega
    rw [hfirst, bNumEndpoints_first (by omega) fun _ => rfl, if_pos hzero]
    exact ⟨_, rfl, by rw [byteAt_take hlen, byteAt_drop]⟩
  · obtain ⟨b, hb, hannounced⟩ := h.first (by omega)
    rw [bNumEndpoints_modify (.inl (by omega)), if_neg hzero]
    exact ⟨b, hb, hannounced⟩

theorem parseInterface_fits (hn : n < 256) (h : Accounts n t s) (hslot : 9 * t.interfaces < n)
    (hread : s.cursor.i + usbDtInterfaceSize ≤ src.length) :
    ∃ s', parseInterface src s = .ok s' ∧ Accounts n
      { interfaces := t.interfaces + 1
        endpoints := 0
        announced := if t.interfaces = 0 then (byteAt src (s.cursor.i + 4)).toNat
          else t.announced } s' := by
  have hoffset := h.iface_offset
  have hslots := h.slots
  obtain ⟨b, hb, hannounced⟩ := h.n_endp src hslot (by decide)
  refine ⟨_, parseInterface_ok_iff.mpr ⟨hread, by omega, b, hb, rfl⟩, ?_⟩
  have hadd : (s.iface_offset + 9).toNat = 9 * (t.interfaces + 1) := by
    rw [UInt16.toNat_add, hoffset]
    have : (9 : UInt16).toNat = 9 := rfl
    omega
  refine ⟨hadd, rfl, by rw [List.length_modify, hslots], by dsimp only; omega, Nat.zero_le _, ?_,
    fun _ => ?_, fun _ => ?_⟩
  · rw [← hannounced]
    exact b.toNat_lt
  · refine ⟨b, ?_, hannounced⟩
    rw [← hb]
    -- the first slot reads the same whether or not the array is stored with it
    by_cases hzero : s.iface_offset.toNat = 0
    · rw [hzero, bNumEndpoints_first (by omega) fun _ => rfl,
        bNumEndpoints_first (by omega) fun _ => rfl]
    · rw [bNumEndpoints_modify (.inl hzero), bNumEndpoints_modify (.inl hzero)]
  · refine ⟨Block.malloc (b.toNat * sizeofUedSize), ?_, ?_⟩
    · rw [Parser.current, hadd, if_neg (by omega),
        show 9 * (t.interfaces + 1) - 9 = s.iface_offset.toNat by omega]
      dsimp only
      rw [List.getElem?_modify_eq, List.getElem?_eq_getElem (by omega)]
      rfl
    · rw [Block.malloc_length, hannounced, sizeofUedSize, Nat.mul_comm]

theorem parseEndpoint_fits (h : Accounts n t s) (hiface : 0 < t.interfaces)
    (hroom : 63 * t.endpoints + 7 ≤ 8 * t.announced)
    (hread : s.cursor.i + usbDtEndpointSize ≤ src.length) :
    ∃ s', parseEndpoint src s = .ok s'
      ∧ Accounts n { t with endpoints := t.endpoints + 1 } s' := by
  have hoffset := h.iface_offset
  have hendp := h.endp_offset
  have hannounced := h.announced_lt
  obtain ⟨uedp, hcurrent, hlength⟩ := h.current hiface
  have hbytes : ((src.drop s.cursor.i).take usbDtEndpointSize).length = 7 := by
    rw [List.length_take, List.length_drop]
    have : usbDtEndpointSize = 7 := rfl
    omega
  obtain ⟨uedp', hstore⟩ : ∃ uedp', uedp.store (sizeofEndpointDescriptor * s.endp_offset.toNat)
      ((src.drop s.cursor.i).take usbDtEndpointSize) = some uedp' := by
    refine ⟨_, Block.store_eq_some ?_⟩
    rw [hbytes, hlength, hendp, sizeofEndpointDescriptor]
    omega
  refine ⟨_, parseEndpoint_ok_iff.mpr ⟨hread, uedp, uedp', hcurrent, hstore, rfl⟩, ?_⟩
  have hadd : (s.endp_offset + 7).toNat = 7 * (t.endpoints + 1) := by
    rw [UInt16.toNat_add, hendp]
    have : (7 : UInt16).toNat = 7 := rfl
    omega
  refine ⟨hoffset, hadd, by rw [List.length_modify, h.slots], h.interfaces_le,
    by dsimp only; omega, hannounced, fun _ => ?_, fun _ => ?_⟩
  · obtain ⟨b, hb, hnumber⟩ := h.first hiface
    refine ⟨b, Eq.trans (bNumEndpoints_modify ?_) hb, hnumber⟩
    exact .inr fun _ => rfl
  · -- the array stays where it was, with its length
    have hslot : ¬ s.iface_offset.toNat < 9 := by omega
    rw [Parser.current, if_neg hslot] at hcurrent
    obtain ⟨d, hd, -⟩ := Option.bind_eq_some_iff.mp hcurrent
    refine ⟨_, ?_, (Block.store_length hstore).trans hlength⟩
    rw [Parser.current, if_neg hslot]
    dsimp only
    rw [List.getElem?_modify_eq, hd]
    rfl

/-- **One round of a descriptor that fits.** -/
theorem parseBody_fits (hn : n < 256) (h : Accounts n t s)
    (hfits : Fits (byteAt src) src.length n t s.cursor.i) :
    ∃ s', parseBody src s = .ok s' ∧ Accounts n (t.add (byteAt src) s.cursor.i) s' := by
  obtain ⟨htype, hfits⟩ := hfits
  rw [parseBody_eq htype, Tally.add]
  by_cases hiface : byteAt src (s.cursor.i + 1) = usbDtInterface
  · rw [if_pos hiface] at hfits ⊢
    rw [if_pos hiface]
    exact parseInterface_fits hn h hfits.1 hfits.2
  · rw [if_neg hiface] at hfits ⊢
    rw [if_neg hiface]
    by_cases hendp : byteAt src (s.cursor.i + 1) = usbDtEndpoint
    · rw [if_pos hendp] at hfits ⊢
      rw [if_pos hendp]
      exact parseEndpoint_fits h hfits.1 hfits.2.1 hfits.2.2
    · rw [if_neg hendp, if_neg hendp]
      exact ⟨s, rfl, h⟩

/-- **A descriptor of a round that kept to its memory fits.** -/
theorem fits_of_parseBody {s' : Parser} (h : Accounts n t s) (hbody : parseBody src s = .ok s') :
    Fits (byteAt src) src.length n t s.cursor.i := by
  have hoffset := h.iface_offset
  have hendpoints := h.endp_offset
  have hslots := h.slots
  have htype : s.cursor.i + 2 ≤ src.length := by
    by_contra hshort
    obtain ⟨f, hf⟩ := parseBody_short (Nat.not_le.mp hshort)
    rw [hbody] at hf
    cases hf
  rw [parseBody_eq htype] at hbody
  refine ⟨htype, ?_⟩
  by_cases hiface : byteAt src (s.cursor.i + 1) = usbDtInterface
  · rw [if_pos hiface] at hbody ⊢
    obtain ⟨hread, hslot, -⟩ := parseInterface_ok_iff.mp hbody
    exact ⟨by omega, hread⟩
  · rw [if_neg hiface] at hbody ⊢
    by_cases hendp : byteAt src (s.cursor.i + 1) = usbDtEndpoint
    · rw [if_pos hendp] at hbody ⊢
      obtain ⟨hread, uedp, uedp', hcurrent, hstore, -⟩ := parseEndpoint_ok_iff.mp hbody
      -- there is an array, so there was an interface
      have hsome : 0 < t.interfaces := by
        by_contra hzero
        rw [Parser.current, if_pos (by omega)] at hcurrent
        cases hcurrent
      obtain ⟨_, hcurrent', hlength⟩ := h.current hsome
      rw [hcurrent] at hcurrent'
      cases hcurrent'
      have hinside := Block.store_inside hstore
      rw [hendpoints, sizeofEndpointDescriptor, hlength, List.length_take, List.length_drop,
        usbDtEndpointSize] at hinside
      rw [usbDtEndpointSize] at hread
      exact ⟨hsome, by omega, hread⟩
    · rw [if_neg hendp]
      trivial

/-! ## Whole runs -/

/-- No access of the parser is undefined, however long it runs. -/
def InBounds (src : List UInt8) : Prop :=
  ∀ fuel f, parseDescriptor fuel src ≠ some (.error f)

theorem parseRound_fits {D : UInt16} (hn : n < 256) (h : Accounts n t s)
    (hlt : s.cursor.i < D.toNat) (hfits : Fits (byteAt src) src.length n t s.cursor.i) :
    ∃ s', parseRound src D s = .again s' ∧ s'.cursor = s.cursor.advance (byteAt src)
      ∧ Accounts n (t.add (byteAt src) s.cursor.i) s' := by
  obtain ⟨s', hbody, haccounts⟩ := parseBody_fits hn h hfits
  exact ⟨_, parseRound_again_iff.mpr ⟨hlt, s', hbody, rfl⟩, rfl, { haccounts with }⟩

/-- As far as the parser gets, it has followed the layout and its offsets are counts. -/
theorem accounts_of_reaches {ucd : List UInt8} {D : UInt16}
    (h : Reaches (parseRound src D) (.start ucd) s) :
    ∃ past, Layout (byteAt src) D.toNat past s.cursor.i
      ∧ Accounts (byteAt ucd 4).toNat (tally (byteAt src) past) s := by
  refine h.invariant (I := fun s => ∃ past, Layout (byteAt src) D.toNat past s.cursor.i
    ∧ Accounts (byteAt ucd 4).toNat (tally (byteAt src) past) s) ?_
    ⟨[], .first, accounts_start ucd⟩
  rintro s s' ⟨past, hlayout, haccounts⟩ hround
  obtain ⟨hlt, u, hbody, -⟩ := parseRound_again_iff.mp hround
  obtain ⟨s'', hround', hcursor, haccounts'⟩ := parseRound_fits (byteAt ucd 4).toNat_lt haccounts
    hlt (fits_of_parseBody haccounts hbody)
  rw [hround] at hround'
  cases hround'
  rw [← tally_snoc] at haccounts'
  refine ⟨past ++ [s.cursor.i], ?_, haccounts'⟩
  rw [hcursor, Cursor.advance_i]
  exact hlayout.next hlt

/-- A loop whose descriptors all fit gets to each of the layout. Induction on the layout. -/
theorem reaches_layout {ucd : List UInt8} {D : UInt16}
    (hfits : ∀ (t : Tally) (s : Parser), Reaches (parseRound src D) (.start ucd) s →
      Accounts (byteAt ucd 4).toNat t s → s.cursor.i < D.toNat →
      Fits (byteAt src) src.length (byteAt ucd 4).toNat t s.cursor.i)
    {past : List Nat} {o : Nat} (hlayout : Layout (byteAt src) D.toNat past o) :
    ∃ s, Reaches (parseRound src D) (.start ucd) s ∧ s.cursor.i = o
      ∧ Accounts (byteAt ucd 4).toNat (tally (byteAt src) past) s := by
  induction hlayout with
  | first => exact ⟨_, .refl _ _, rfl, accounts_start ucd⟩
  | next _ hlt ih =>
    obtain ⟨s, hs, rfl, haccounts⟩ := ih
    obtain ⟨s', hround, hcursor, haccounts'⟩ := parseRound_fits (byteAt ucd 4).toNat_lt haccounts
      hlt (hfits _ _ hs haccounts hlt)
    rw [← tally_snoc] at haccounts'
    refine ⟨s', hs.tail hround, ?_, haccounts'⟩
    rw [hcursor, Cursor.advance_i]

/-- A fault is one of a round the loop reaches. -/
theorem inBounds_iff_rounds (htype : byteAt src 1 = usbDtConfig)
    (hmin : usbDtConfigSize ≤ src.length) :
    InBounds src ↔ ∀ s f,
      Reaches (parseRound src (word16 src 2)) (.start (src.take usbDtConfigSize)) s →
      parseRound src (word16 src 2) s ≠ .leave (.error f) := by
  constructor
  · intro hin s f hs hround
    obtain ⟨fuel, hfuel⟩ := (parseDescriptor_config hmin htype (.error f)).mpr
      ⟨s, .error f, hs, hround, rfl⟩
    exact hin fuel f hfuel
  · intro hno fuel f hfuel
    obtain ⟨s, r, hs, hround, hr⟩ := (parseDescriptor_config hmin htype (.error f)).mp
      ⟨fuel, hfuel⟩
    cases r with
    | error g => exact hno s g hs hround
    | ok s' => cases hr

/-- **Which configurations are parsed inside their memory.** -/
theorem inBounds_iff (src : List UInt8) (htype : byteAt src 1 = usbDtConfig)
    (hmin : usbDtConfigSize ≤ src.length) (htotal : (word16 src 2).toNat = src.length) :
    InBounds src ↔ ∀ past o, Layout (byteAt src) src.length past o → o < src.length →
      Fits (byteAt src) src.length (byteAt src 4).toNat (tally (byteAt src) past) o := by
  have hnumber : byteAt (src.take usbDtConfigSize) 4 = byteAt src 4 := byteAt_take (by decide)
  rw [inBounds_iff_rounds htype hmin, ← hnumber]
  constructor
  · intro hno past o hlayout hlt
    have hfits : ∀ (t : Tally) (s : Parser),
        Reaches (parseRound src (word16 src 2)) (.start (src.take usbDtConfigSize)) s →
        Accounts (byteAt (src.take usbDtConfigSize) 4).toNat t s →
        s.cursor.i < (word16 src 2).toNat →
        Fits (byteAt src) src.length (byteAt (src.take usbDtConfigSize) 4).toNat t s.cursor.i := by
      intro t s hs haccounts hlt
      cases hbody : parseBody src s with
      | error f => exact absurd (parseRound_leave_iff.mpr (.inr ⟨hlt, f, hbody, rfl⟩)) (hno s f hs)
      | ok s' => exact fits_of_parseBody haccounts hbody
    rw [← htotal] at hlayout hlt
    obtain ⟨s, hs, rfl, haccounts⟩ := reaches_layout hfits hlayout
    exact hfits _ s hs haccounts hlt
  · intro hfits s f hs hround
    obtain ⟨past, hlayout, haccounts⟩ := accounts_of_reaches hs
    rw [htotal] at hlayout
    rcases parseRound_leave_iff.mp hround with ⟨-, h⟩ | ⟨hlt, -, -, -⟩
    · cases h
    · obtain ⟨s', hround', -⟩ := parseRound_fits (UInt8.toNat_lt _) haccounts hlt
        (hfits past _ hlayout (htotal ▸ hlt))
      rw [hround] at hround'
      cases hround'

/-- One interface with one endpoint. -/
def sampleOneInterface : List UInt8 :=
  [9, 2, 25, 0, 1, 1, 0, 0x80, 50, 9, 4, 0, 0, 1, 0xFF, 0, 0, 0, 7, 5, 0x81, 2, 64, 0, 0]

theorem inBounds_of_one_interface : InBounds sampleOneInterface := by
  refine (inBounds_iff sampleOneInterface (by decide) (by decide) (by decide)).mpr ?_
  have hlayout : ∀ past o, Layout (byteAt sampleOneInterface) sampleOneInterface.length past o →
      past = [] ∧ o = 9 ∨ past = [9] ∧ o = 18 ∨ past = [9, 18] ∧ o = 25 := by
    intro past o h
    induction h with
    | first => exact .inl ⟨rfl, rfl⟩
    | next _ hlt ih =>
      rcases ih with ⟨rfl, rfl⟩ | ⟨rfl, rfl⟩ | ⟨rfl, rfl⟩
      · exact .inr (.inl ⟨rfl, rfl⟩)
      · exact .inr (.inr ⟨rfl, rfl⟩)
      · exact absurd hlt (by decide)
  intro past o h hlt
  rcases hlayout past o h with ⟨rfl, rfl⟩ | ⟨rfl, rfl⟩ | ⟨rfl, rfl⟩
  · decide
  · decide
  · exact absurd hlt (by decide)

/-- Two interfaces without endpoints: the second one is stored in slot 9 of 2. -/
def sampleTwoInterfaces : List UInt8 :=
  [9, 2, 27, 0, 2, 1, 0, 0x80, 50, 9, 4, 0, 0, 0, 0xFF, 0, 0, 0, 9, 4, 1, 0, 0, 0xFF, 0, 0, 0]

theorem not_inBounds_of_two_interfaces :
    byteAt sampleTwoInterfaces 1 = usbDtConfig ∧ usbDtConfigSize ≤ sampleTwoInterfaces.length
      ∧ (word16 sampleTwoInterfaces 2).toNat = sampleTwoInterfaces.length
      ∧ ¬ InBounds sampleTwoInterfaces := by
  refine ⟨by decide, by decide, by decide, fun h => ?_⟩
  exact h 2 (.ifaced 9) rfl

end Droidbox.Usb
