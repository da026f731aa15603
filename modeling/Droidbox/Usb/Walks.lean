import Droidbox.Lib.Walk
import Droidbox.Usb.Descriptor

/-!
# Droidbox — the two walks over a configuration

`usb_dump_device` and `__parse_config_descriptor` both go from descriptor to descriptor by the
length byte they find. The first keeps its position in an `unsigned short` and adds the length in
the step of its loop; the second keeps it in an `int` and carries the length in `offset`. Neither
looks at the length it adds, so:

* **`parseWalk_ends_iff`**: the walk of the parser ends exactly when it meets no length of zero.
* **`walks_end_iff`**: both end exactly when, besides, no descriptor ends past 65535, where the
  16-bit position starts again from the front.
* **`walks_agree`**: on a configuration put together of descriptors both visit each of them once.
-/

namespace Droidbox.Usb

open LittleEndian Scripted Walk

/-! ## The loops -/

/-- `for (offset = USB_DT_CONFIG_SIZE; offset < __data_size; offset += *(buff + offset))` -/
def dumpWalk (m : Memory) (data_size : UInt16) (offset : UInt16) : Round UInt16 UInt16 :=
  if offset < data_size then .again (offset + (m offset.toNat).toUInt16) else .leave offset

/-- `int i`, and the `unsigned short offset` it is increased by. -/
structure Cursor where
  i : Nat
  offset : UInt16
  deriving DecidableEq, Repr

/-- `i = offset`, with `offset = __ucd_size` -/
def Cursor.start : Cursor := ⟨usbDtConfigSize, 9⟩

/-- `offset = *(src + i)` at the end of the body, then `i += offset`. -/
def Cursor.advance (m : Memory) (c : Cursor) : Cursor :=
  let offset := (m c.i).toUInt16
  ⟨c.i + offset.toNat, offset⟩

/-- `for (i = offset; i < __data_size; i += offset)`. The `int` stays below 65535 + 255. -/
def parseWalk (m : Memory) (data_size : UInt16) (c : Cursor) : Round Cursor Cursor :=
  if c.i < data_size.toNat then .again (c.advance m) else .leave c

variable {m : Memory} {D : UInt16}

@[simp] theorem Cursor.advance_i (m : Memory) (c : Cursor) :
    (c.advance m).i = c.i + (m c.i).toNat := by
  simp [Cursor.advance]

theorem dumpWalk_again_iff {o p : UInt16} :
    dumpWalk m D o = .again p ↔ o.toNat < D.toNat ∧ p = o + (m o.toNat).toUInt16 := by
  unfold dumpWalk
  rw [← UInt16.lt_iff_toNat_lt]
  split <;> simp_all [eq_comm]

theorem parseWalk_again_iff {c c' : Cursor} :
    parseWalk m D c = .again c' ↔ c.i < D.toNat ∧ c' = c.advance m := by
  unfold parseWalk
  split <;> simp_all [eq_comm]

theorem toNat_step (o : UInt16) (b : UInt8) :
    (o + b.toUInt16).toNat = (o.toNat + b.toNat) % 65536 := by
  simp [UInt16.toNat_add]

/-! ## Progress -/

/-- A loop makes strictly increasing progress and stops. -/
structure Ends {σ ρ : Type} (round : σ → Round σ ρ) (position : σ → Nat) (s : σ) : Prop where
  progress : ∀ t u, Reaches round s t → round t = .again u → position t < position u
  stops : ∃ visited r, Leaves round s visited r

/-- The descriptors of a layout have a length, and the next one starts below 65536. -/
def Advances (m : Memory) (D : Nat) : Prop :=
  ∀ past o, Layout m D past o → o < D → m o ≠ 0 ∧ o + (m o).toNat < 65536

/-- A walk that goes on below `D`, to the end of the descriptor it stands at where that end is
`Exact` for its position. -/
structure FollowsLengths {σ ρ : Type} (m : Memory) (D : Nat) (Exact : Nat → Prop)
    (round : σ → Round σ ρ) (position : σ → Nat) : Prop where
  again : ∀ s, position s < D → ∃ t, round s = .again t
  leave : ∀ s, ¬ position s < D → ∃ r, round s = .leave r
  next : ∀ s t, round s = .again t → Exact (position s + (m (position s)).toNat) →
    position t = position s + (m (position s)).toNat

/-- The position of the dump is exact below 65536. -/
theorem dumpWalk_follows (m : Memory) (D : UInt16) :
    FollowsLengths m D.toNat (· < 65536) (dumpWalk m D) UInt16.toNat where
  again o h := ⟨_, dumpWalk_again_iff.mpr ⟨h, rfl⟩⟩
  leave o h := ⟨o, if_neg fun hlt => h (UInt16.lt_iff_toNat_lt.mp hlt)⟩
  next o p h hfits := by
    obtain ⟨-, rfl⟩ := dumpWalk_again_iff.mp h
    rw [toNat_step, Nat.mod_eq_of_lt hfits]

theorem parseWalk_follows (m : Memory) (D : UInt16) :
    FollowsLengths m D.toNat (fun _ => True) (parseWalk m D) Cursor.i where
  again c h := ⟨_, parseWalk_again_iff.mpr ⟨h, rfl⟩⟩
  leave c h := ⟨c, if_neg h⟩
  next c c' h _ := by
    obtain ⟨-, rfl⟩ := parseWalk_again_iff.mp h
    exact Cursor.advance_i m c

theorem toNat_pos {b : UInt8} : b ≠ 0 ↔ 0 < b.toNat := by
  rw [Nat.pos_iff_ne_zero, ne_eq, ne_eq, ← UInt8.toNat_inj]
  rfl

section
variable {σ ρ : Type} {L : Nat} {Exact : Nat → Prop} {round : σ → Round σ ρ} {position : σ → Nat}
  {s t u : σ}

theorem FollowsLengths.lt (h : FollowsLengths m L Exact round position)
    (hround : round s = .again t) : position s < L := by
  by_contra hge
  obtain ⟨r, hleave⟩ := h.leave s hge
  rw [hround] at hleave
  cases hleave

theorem FollowsLengths.layout (h : FollowsLengths m L Exact round position)
    (hexact : ∀ past o, Layout m L past o → o < L → Exact (o + (m o).toNat))
    (hstart : position s = usbDtConfigSize) (hreach : Reaches round s t) :
    ∃ past, Layout m L past (position t) := by
  refine hreach.invariant (I := fun t => ∃ past, Layout m L past (position t)) ?_
    ⟨[], hstart ▸ .first⟩
  rintro t u ⟨past, hlayout⟩ hround
  have hlt := h.lt hround
  rw [h.next t u hround (hexact past _ hlayout hlt)]
  exact ⟨_, hlayout.next hlt⟩

/-- **A walk over descriptors that have a length ends**: what is left of the stream decreases. -/
theorem FollowsLengths.ends (h : FollowsLengths m L Exact round position)
    (hlengths : ∀ past o, Layout m L past o → o < L → m o ≠ 0 ∧ Exact (o + (m o).toNat))
    (hstart : position s = usbDtConfigSize) : Ends round position s := by
  have hgrows : ∀ t u, Reaches round s t → round t = .again u →
      position t < position u ∧ position t < L := by
    intro t u ht hround
    obtain ⟨past, hlayout⟩ := h.layout (fun past o hl ho => (hlengths past o hl ho).2) hstart ht
    have hlt := h.lt hround
    obtain ⟨hne, hexact⟩ := hlengths past _ hlayout hlt
    have hpos := toNat_pos.mp hne
    rw [h.next t u hround hexact]
    omega
  refine ⟨fun t u ht hround => (hgrows t u ht hround).1, ?_⟩
  refine exists_leaves (I := Reaches round s) (fun t => L - position t) ?_ (.refl _ _)
  intro t u ht hround
  have hgrow := hgrows t u ht hround
  exact ⟨ht.tail hround, by omega⟩

/-- **The walk over a stream of descriptors** visits each of them. Induction on the stream. -/
theorem FollowsLengths.stream (h : FollowsLengths m L Exact round position)
    (hexact : ∀ o ≤ L, Exact o) {ds : List SubDescriptor} (hm : Holds m (position s) (stream ds))
    (hL : position s + (Usb.stream ds).length = L) :
    ∃ visited r, Leaves round s visited r
      ∧ visited.map (fun t => (position t, m (position t + 1))) = starts (position s) ds := by
  induction ds generalizing s with
  | nil =>
    obtain ⟨r, hleave⟩ := h.leave s (by simp [Usb.stream] at hL; omega)
    exact ⟨[], r, .leave hleave, rfl⟩
  | cons d ds ih =>
    obtain ⟨hlength, htype, hrest⟩ := hm.stream_cons
    have hcons : (Usb.stream (d :: ds)).length = d.bytes.length + (Usb.stream ds).length := by
      simp [Usb.stream]
    have hge := d.length_ge
    obtain ⟨t, hround⟩ := h.again s (by omega)
    have hnext : position t = position s + d.bytes.length := by
      rw [h.next s t hround (hexact _ (by omega)), hlength]
    obtain ⟨visited, r, hleaves, hvisited⟩ := ih (s := t) (hnext ▸ hrest) (by omega)
    refine ⟨s :: visited, r, .again hround hleaves, ?_⟩
    rw [List.map_cons, hvisited, hnext, htype]
    rfl

end

theorem layout_parseWalk {past : List Nat} {o : Nat} (h : Layout m D.toNat past o) :
    ∃ c, Reaches (parseWalk m D) .start c ∧ c.i = o := by
  induction h with
  | first => exact ⟨.start, .refl _ _, rfl⟩
  | next _ hlt ih =>
    obtain ⟨c, hc, rfl⟩ := ih
    exact ⟨_, hc.tail (parseWalk_again_iff.mpr ⟨hlt, rfl⟩), Cursor.advance_i m c⟩

/-- **The walk of the parser.** -/
theorem parseWalk_ends_iff (m : Memory) (D : UInt16) :
    Ends (parseWalk m D) Cursor.i .start ↔
      ∀ past o, Layout m D.toNat past o → o < D.toNat → m o ≠ 0 := by
  constructor
  · intro hends past o hlayout hlt
    obtain ⟨c, hc, rfl⟩ := layout_parseWalk hlayout
    have hprogress := hends.progress _ _ hc (parseWalk_again_iff.mpr ⟨hlt, rfl⟩)
    rw [Cursor.advance_i] at hprogress
    exact toNat_pos.mpr (by omega)
  · intro hlengths
    exact (parseWalk_follows m D).ends
      (fun past o hlayout hlt => ⟨hlengths past o hlayout hlt, trivial⟩) rfl

/-- A walk that only moves forward has not wrapped, so it has followed the layout. -/
theorem layout_dumpWalk (hends : Ends (dumpWalk m D) UInt16.toNat 9) {past : List Nat} {o : Nat}
    (h : Layout m D.toNat past o) : ∃ p, Reaches (dumpWalk m D) 9 p ∧ p.toNat = o := by
  induction h with
  | first => exact ⟨9, .refl _ _, rfl⟩
  | next _ hlt ih =>
    obtain ⟨p, hp, rfl⟩ := ih
    have hround : dumpWalk m D p = .again (p + (m p.toNat).toUInt16) :=
      dumpWalk_again_iff.mpr ⟨hlt, rfl⟩
    have hprogress := hends.progress _ _ hp hround
    have hbyte := (m p.toNat).toNat_lt
    refine ⟨_, hp.tail hround, ?_⟩
    rw [toNat_step] at hprogress ⊢
    omega

/-- **Both walks.** They make progress and stop exactly when each descriptor that the lengths lead
to, below the total length, has a length of its own and ends below 65536. -/
theorem walks_end_iff (m : Memory) :
    (Ends (dumpWalk m (wTotalLength m)) UInt16.toNat 9
      ∧ Ends (parseWalk m (wTotalLength m)) Cursor.i .start)
      ↔ Advances m (wTotalLength m).toNat := by
  constructor
  · rintro ⟨hdump, hparse⟩ past o hlayout hlt
    refine ⟨(parseWalk_ends_iff m _).mp hparse past o hlayout hlt, ?_⟩
    obtain ⟨p, -, hp⟩ := layout_dumpWalk hdump (hlayout.next hlt)
    rw [← hp]
    exact p.toNat_lt
  · intro hadvances
    exact ⟨(dumpWalk_follows m _).ends hadvances rfl, (parseWalk_ends_iff m _).mpr
      fun past o hlayout hlt => (hadvances past o hlayout hlt).1⟩

/-- A configuration of 11 bytes whose only descriptor has the length zero. -/
def sampleZero : Memory := byteAt [9, 2, 11, 0, 1, 1, 0, 0x80, 50, 0, 0x24]

theorem walks_do_not_end :
    ¬ Ends (dumpWalk sampleZero (wTotalLength sampleZero)) UInt16.toNat 9
      ∧ ¬ Ends (parseWalk sampleZero (wTotalLength sampleZero)) Cursor.i .start := by
  constructor
  · rintro ⟨-, visited, r, hleaves⟩
    have hfixed : dumpWalk sampleZero (wTotalLength sampleZero) 9 = .again 9 :=
      dumpWalk_again_iff.mpr (by decide)
    exact not_leaves_of_fixed hfixed visited r hleaves
  · rintro ⟨-, visited, r, hleaves⟩
    -- the carried step is 9 before the first round and zero behind it
    have hfirst : parseWalk sampleZero (wTotalLength sampleZero) .start = .again ⟨9, 0⟩ :=
      parseWalk_again_iff.mpr (by decide)
    have hfixed : parseWalk sampleZero (wTotalLength sampleZero) ⟨9, 0⟩ = .again ⟨9, 0⟩ :=
      parseWalk_again_iff.mpr (by decide)
    exact ((Reaches.refl _ _).tail hfirst).not_leaves hfixed visited r hleaves

/-! ## Agreement -/

/-- **The walks agree.** On a configuration that is all in memory both walks leave, and what they
visited is the list of its descriptors, whatever lies behind it. -/
theorem walks_agree (c : Tiled) (m m' : Memory) (hm : Holds m 0 c.bytes)
    (hm' : Holds m' 0 c.bytes) :
    ∃ visited r visited' r', Leaves (dumpWalk m (wTotalLength m)) 9 visited r
      ∧ Leaves (parseWalk m' (wTotalLength m')) .start visited' r'
      ∧ visited.map (fun p => (p.toNat, m (p.toNat + 1))) = starts usbDtConfigSize c.subs
      ∧ visited'.map (fun p => (p.i, m' (p.i + 1))) = starts usbDtConfigSize c.subs := by
  have htotal : ∀ m : Memory, Holds m 0 c.bytes →
      Holds m usbDtConfigSize (stream c.subs)
        ∧ usbDtConfigSize + (stream c.subs).length = (wTotalLength m).toNat := by
    intro m hm
    obtain ⟨-, hstream⟩ := hm.append
    rw [c.header_length, Nat.zero_add] at hstream
    rw [hm.wTotalLength c.header_length, c.total]
    exact ⟨hstream, rfl⟩
  obtain ⟨hstream, hD⟩ := htotal m hm
  obtain ⟨hstream', hD'⟩ := htotal m' hm'
  -- the stream ends below 65536, so the position of the dump does not wrap
  have hexact : ∀ o ≤ (wTotalLength m).toNat, o < 65536 := by
    intro o ho
    exact Nat.lt_of_le_of_lt ho (wTotalLength m).toNat_lt
  obtain ⟨visited, r, hleaves, hvisited⟩ :=
    (dumpWalk_follows m _).stream (s := 9) hexact hstream hD
  obtain ⟨visited', r', hleaves', hvisited'⟩ :=
    (parseWalk_follows m' _).stream (s := .start) (fun _ _ => trivial) hstream' hD'
  exact ⟨visited, r, visited', r', hleaves, hleaves', hvisited, hvisited'⟩

/-- An interface descriptor and a class-specific one behind a header. -/
def sampleTiled : Tiled where
  header := [9, 2, 22, 0, 1, 1, 0, 0x80, 50]
  subs :=
    [{ bytes := [9, 4, 0, 0, 0, 0xFF, 0, 0, 0], length_ge := by decide, bLength := by decide },
     { bytes := [4, 0x24, 1, 2], length_ge := by decide, bLength := by decide }]
  header_length := by decide
  total := by decide

theorem walks_agree_on_sample : ∃ visited r visited' r',
    Leaves (dumpWalk (byteAt sampleTiled.bytes) (wTotalLength (byteAt sampleTiled.bytes))) 9
      visited r
    ∧ Leaves (parseWalk (byteAt sampleTiled.bytes) (wTotalLength (byteAt sampleTiled.bytes)))
      .start visited' r'
    ∧ visited.map (fun p => (p.toNat, byteAt sampleTiled.bytes (p.toNat + 1)))
      = [(9, 4), (18, 0x24)]
    ∧ visited'.map (fun p => (p.i, byteAt sampleTiled.bytes (p.i + 1))) = [(9, 4), (18, 0x24)] :=
  walks_agree sampleTiled (byteAt sampleTiled.bytes) (byteAt sampleTiled.bytes)
    (fun i _ => by rw [Nat.zero_add]) (fun i _ => by rw [Nat.zero_add])

end Droidbox.Usb
