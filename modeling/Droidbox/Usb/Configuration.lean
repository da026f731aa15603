import Droidbox.Usb.ParseBounds

/-!
# Droidbox — parsing back a configuration

A well-formed configuration is a header, one descriptor for each interface with the descriptors of
its endpoints behind it, and descriptors of other types anywhere between them. The parser keeps
the interfaces nine slots apart and the endpoints seven elements, so:

* **`sparse_of_reaches`**: only every ninth slot is ever written, and no second endpoint.
* **`skip_others`**: the parser passes over descriptors of other types.
* **`parsesBack_iff`**: a configuration is parsed back exactly when it has at most one interface,
  and that one at most one endpoint.
-/

namespace Droidbox.Usb

open LittleEndian Scripted Walk

/-! ## Well-formed configurations -/

/-- An interface with one alternate setting. -/
structure Interface where
  desc : SubDescriptor
  endpoints : List SubDescriptor
  desc_length : desc.bytes.length = usbDtInterfaceSize
  desc_type : desc.type = usbDtInterface
  endpoint_length : ∀ e ∈ endpoints, e.bytes.length = usbDtEndpointSize
  endpoint_type : ∀ e ∈ endpoints, e.type = usbDtEndpoint
  numEndpoints : (byteAt desc.bytes 4).toNat = endpoints.length

def SubDescriptor.isStored (d : SubDescriptor) : Bool :=
  d.type = usbDtInterface || d.type = usbDtEndpoint

/-- A configuration whose stored descriptors are those of its interfaces, in order. -/
structure Configuration extends Tiled where
  interfaces : List Interface
  isConfig : byteAt header 1 = usbDtConfig
  numInterfaces : (byteAt header 4).toNat = interfaces.length
  order : subs.filter SubDescriptor.isStored = interfaces.flatMap fun i => i.desc :: i.endpoints

/-- The structure holds the header, and for each interface its descriptor and those of its
endpoints. -/
structure Configuration.ParsedAs (c : Configuration) (u : Upcd) : Prop where
  ucd : u.ucd = c.header
  uid : ∀ (k : Nat) (i : Interface), c.interfaces[k]? = some i →
    ∃ d : Idescriptor, u.ifaced[k]? = some d ∧ d.uid = some i.desc.bytes
  ued : ∀ (k : Nat) (i : Interface) (j : Nat) (e : SubDescriptor), c.interfaces[k]? = some i →
    i.endpoints[j]? = some e → ∃ (d : Idescriptor) (uedp : Block), u.ifaced[k]? = some d
      ∧ d.ued = some uedp
      ∧ uedp.cells (sizeofEndpointDescriptor * j) usbDtEndpointSize = e.bytes.map some

/-- `parse_descriptor` returns such a structure. -/
def Configuration.ParsesBack (c : Configuration) : Prop :=
  ∃ fuel u, parseDescriptor fuel c.bytes = some (.ok (some (.config u))) ∧ c.ParsedAs u

/-! ## What is never written -/

variable {src : List UInt8} {s : Parser}

/-- Only every ninth interface slot is written, and no element behind the first endpoint. -/
structure Sparse (ifaced : List Idescriptor) : Prop where
  uid : ∀ (k : Nat) (d : Idescriptor), ifaced[k]? = some d → d.uid ≠ none → 9 ∣ k
  ued : ∀ (k : Nat) (d : Idescriptor) (uedp : Block), ifaced[k]? = some d → d.ued = some uedp →
    ∀ x ∈ uedp.cells sizeofEndpointDescriptor usbDtEndpointSize, x = none

theorem sparse_start (ucd : List UInt8) : Sparse (Parser.start ucd).ifaced := by
  have hslot : ∀ (k : Nat) (d : Idescriptor), (Parser.start ucd).ifaced[k]? = some d →
      d = ⟨none, none⟩ := by
    intro k d hd
    exact List.eq_of_mem_replicate (List.mem_of_getElem? hd)
  constructor
  · intro k d hd huid
    exact absurd (by rw [hslot k d hd]) huid
  · intro k d uedp hd hued
    rw [hslot k d hd] at hued
    cases hued

theorem Sparse.modify {ifaced : List Idescriptor} (h : Sparse ifaced) {slot : Nat}
    {f : Idescriptor → Idescriptor}
    (huid : ∀ d : Idescriptor, ifaced[slot]? = some d → (f d).uid ≠ none → 9 ∣ slot)
    (hued : ∀ (d : Idescriptor) (uedp : Block), ifaced[slot]? = some d → (f d).ued = some uedp →
      ∀ x ∈ uedp.cells sizeofEndpointDescriptor usbDtEndpointSize, x = none) :
    Sparse (ifaced.modify slot f) := by
  constructor
  · intro k d hd hne
    rw [List.getElem?_modify] at hd
    obtain ⟨d', hd', rfl⟩ := Option.map_eq_some_iff.mp hd
    by_cases hk : slot = k
    · subst hk
      rw [if_pos rfl] at hne
      exact huid d' hd' hne
    · rw [if_neg hk] at hne
      exact h.uid k d' hd' hne
  · intro k d uedp hd hsome
    rw [List.getElem?_modify] at hd
    obtain ⟨d', hd', rfl⟩ := Option.map_eq_some_iff.mp hd
    by_cases hk : slot = k
    · subst hk
      rw [if_pos rfl] at hsome
      exact hued d' uedp hd' hsome
    · rw [if_neg hk] at hsome
      exact h.ued k d' uedp hd' hsome

/-- **What the parser writes.** Its offsets are nine times and seven times a count. -/
theorem sparse_of_reaches {ucd : List UInt8} {D : UInt16}
    (h : Reaches (parseRound src D) (.start ucd) s) : Sparse s.ifaced := by
  induction h with
  | refl => exact sparse_start ucd
  | tail hreach hround ih =>
    rename_i s s'
    obtain ⟨past, -, haccounts⟩ := accounts_of_reaches hreach
    obtain ⟨-, u, hbody, rfl⟩ := parseRound_again_iff.mp hround
    obtain ⟨htype, -⟩ := fits_of_parseBody haccounts hbody
    rw [parseBody_eq htype] at hbody
    split at hbody
    · obtain ⟨-, -, n_endp, -, rfl⟩ := parseInterface_ok_iff.mp hbody
      refine ih.modify (fun d _ _ => ?_) (fun d uedp _ hued => ?_)
      · rw [haccounts.iface_offset]
        exact Nat.dvd_mul_right 9 _
      · cases hued
        intro x hx
        exact List.eq_of_mem_replicate (List.mem_of_mem_drop (List.mem_of_mem_take hx))
    · split at hbody
      · obtain ⟨hread, uedp, uedp', hcurrent, hstore, rfl⟩ := parseEndpoint_ok_iff.mp hbody
        have hslot : ¬ s.iface_offset.toNat < 9 := by
          intro hlt
          rw [Parser.current, if_pos hlt] at hcurrent
          cases hcurrent
        rw [Parser.current, if_neg hslot] at hcurrent
        obtain ⟨d₀, hd₀, hued₀⟩ := Option.bind_eq_some_iff.mp hcurrent
        refine ih.modify (fun d hd hne => ih.uid _ d hd hne) (fun d b hd hb => ?_)
        cases hb
        -- the store starts at 63 times a count, so it leaves the second element alone
        have hbytes : ((src.drop s.cursor.i).take usbDtEndpointSize).length = 7 := by
          rw [List.length_take, List.length_drop]
          have : usbDtEndpointSize = 7 := rfl
          omega
        have hdisjoint := Block.cells_store_disjoint hstore (o := sizeofEndpointDescriptor)
          (n := usbDtEndpointSize) (by
            rw [hbytes, haccounts.endp_offset, sizeofEndpointDescriptor, usbDtEndpointSize]
            omega)
        rw [hdisjoint]
        exact ih.ued _ d₀ uedp hd₀ hued₀
      · cases hbody
        exact ih

/-! ## Through the descriptors -/

variable {D : UInt16}

/-- The descriptors still to come. -/
structure Ahead (src : List UInt8) (D : UInt16) (s : Parser) (ds : List SubDescriptor) : Prop where
  total : D.toNat = src.length
  rest : src.drop s.cursor.i = stream ds
  inside : s.cursor.i ≤ src.length

/-- What the parser finds at the next descriptor. -/
structure Ahead.Next (src : List UInt8) (D : UInt16) (s : Parser) (d : SubDescriptor)
    (ds : List SubDescriptor) : Prop where
  below : s.cursor.i < D.toNat
  fits : s.cursor.i + d.bytes.length ≤ src.length
  bytes : (src.drop s.cursor.i).take d.bytes.length = d.bytes
  type : byteAt src (s.cursor.i + 1) = d.type
  ahead : ∀ t : Parser, Ahead src D { t with cursor := s.cursor.advance (byteAt src) } ds

theorem Ahead.next {d : SubDescriptor} {ds : List SubDescriptor} (h : Ahead src D s (d :: ds)) :
    Ahead.Next src D s d ds := by
  have hrest : src.drop s.cursor.i = d.bytes ++ stream ds := h.rest
  have hlen := congrArg List.length hrest
  have hge := d.length_ge
  have htotal := h.total
  rw [List.length_drop, List.length_append] at hlen
  have hbLength : byteAt src s.cursor.i = byteAt d.bytes 0 := by
    rw [← Nat.add_zero s.cursor.i, ← byteAt_drop, hrest, byteAt_append_left (by omega)]
  have hadvance : (s.cursor.advance (byteAt src)).i = s.cursor.i + d.bytes.length := by
    rw [Cursor.advance_i, hbLength, d.bLength]
  refine ⟨by omega, by omega, ?_, ?_, fun t => ⟨htotal, ?_, ?_⟩⟩
  · rw [hrest, List.take_left]
  · rw [← byteAt_drop, hrest, byteAt_append_left (by omega)]
    rfl
  · rw [hadvance, ← List.drop_drop, hrest, List.drop_left]
  · rw [hadvance]
    omega

/-- **Descriptors of other types** only move the cursor. -/
theorem skip_others {ds es : List SubDescriptor} (h : Ahead src D s (ds ++ es))
    (hother : ∀ d ∈ ds, d.isStored = false) :
    ∃ c, Reaches (parseRound src D) s { s with cursor := c }
      ∧ Ahead src D { s with cursor := c } es := by
  induction ds generalizing s with
  | nil => exact ⟨s.cursor, .refl _ _, h⟩
  | cons d ds ih =>
    obtain ⟨hd, hds⟩ := List.forall_mem_cons.mp hother
    obtain ⟨hbelow, hfits, -, htype, hahead⟩ := h.next
    have hge := d.length_ge
    have hbody : parseBody src s = .ok s := by
      obtain ⟨hiface, hendp⟩ : d.type ≠ usbDtInterface ∧ d.type ≠ usbDtEndpoint := by
        simpa [SubDescriptor.isStored] using hd
      rw [parseBody_eq (by omega), htype, if_neg hiface, if_neg hendp]
    obtain ⟨c, hreach, hc⟩ := ih (hahead s) hds
    exact ⟨c, Relation.ReflTransGen.head (parseRound_again_iff.mpr ⟨hbelow, s, hbody, rfl⟩) hreach,
      hc⟩

theorem Ahead.leave (h : Ahead src D s []) : parseRound src D s = .leave (.ok s) := by
  have hdrop : src.drop s.cursor.i = [] := h.rest
  have hend := List.drop_eq_nil_iff.mp hdrop
  exact parseRound_leave_iff.mpr (.inl ⟨h.total ▸ hend, rfl⟩)

/-- The first interface, in the only slot. -/
theorem first_interface {i : Interface} {ds : List SubDescriptor} {d : Idescriptor}
    (h : Ahead src D s (i.desc :: ds)) (hoffset : s.iface_offset = 0) (hslots : s.ifaced = [d]) :
    ∃ t, parseRound src D s = .again t ∧ Ahead src D t ds ∧ t.iface_offset = 9
      ∧ t.endp_offset = 0
      ∧ t.ifaced = [⟨some i.desc.bytes,
          some (Block.malloc (i.endpoints.length * sizeofUedSize))⟩] := by
  obtain ⟨hbelow, hfits, hbytes, htype, hahead⟩ := h.next
  rw [i.desc_length] at hfits hbytes
  have hge : s.cursor.i + 2 ≤ src.length := by
    have : usbDtInterfaceSize = 9 := rfl
    omega
  have hzero : s.iface_offset.toNat = 0 := by rw [hoffset]; rfl
  have hslot : s.iface_offset.toNat < s.ifaced.length := by
    rw [hzero, hslots]
    exact Nat.one_pos
  have hn : bNumEndpoints (s.ifaced.modify s.iface_offset.toNat fun d =>
      { d with uid := some ((src.drop s.cursor.i).take usbDtInterfaceSize) })
        = .ok (byteAt i.desc.bytes 4) := by
    rw [hzero, hslots, hbytes]
    rfl
  have hbody := parseBody_eq hge
  rw [htype, i.desc_type, if_pos rfl, parseInterface_ok_iff.mpr ⟨hfits, hslot, _, hn, rfl⟩] at hbody
  refine ⟨_, parseRound_again_iff.mpr ⟨hbelow, _, hbody, rfl⟩, hahead _, ?_, rfl, ?_⟩
  · dsimp only
    rw [hoffset]
    rfl
  · dsimp only
    rw [hzero, hslots, hbytes, i.numEndpoints]
    rfl

theorem first_endpoint {e : SubDescriptor} {ds : List SubDescriptor} {uid : Option (List UInt8)}
    (h : Ahead src D s (e :: ds)) (hlength : e.bytes.length = usbDtEndpointSize)
    (htype : e.type = usbDtEndpoint) (hoffset : s.iface_offset = 9) (hendp : s.endp_offset = 0)
    (hslots : s.ifaced = [⟨uid, some (Block.malloc (1 * sizeofUedSize))⟩]) :
    ∃ t uedp, parseRound src D s = .again t ∧ Ahead src D t ds ∧ t.ifaced = [⟨uid, some uedp⟩]
      ∧ uedp.cells 0 usbDtEndpointSize = e.bytes.map some := by
  obtain ⟨hbelow, hfits, hbytes, htype', hahead⟩ := h.next
  have hge := e.length_ge
  rw [hlength] at hfits hbytes
  obtain ⟨uedp, hstore⟩ : ∃ uedp, (Block.malloc (1 * sizeofUedSize)).store 0 e.bytes
      = some uedp := ⟨_, Block.store_eq_some (by rw [hlength]; decide)⟩
  have hnine : s.iface_offset.toNat = 9 := by rw [hoffset]; rfl
  have hcurrent : s.current = some (Block.malloc (1 * sizeofUedSize)) := by
    rw [Parser.current, hnine, hslots]
    rfl
  have hstore' : (Block.malloc (1 * sizeofUedSize)).store
      (sizeofEndpointDescriptor * s.endp_offset.toNat)
      ((src.drop s.cursor.i).take usbDtEndpointSize) = some uedp := by
    rw [hbytes, hendp]
    exact hstore
  have hbody := parseBody_eq (show s.cursor.i + 2 ≤ src.length by omega)
  rw [htype', htype, if_neg (by decide), if_pos rfl,
    parseEndpoint_ok_iff.mpr ⟨hfits, _, uedp, hcurrent, hstore', rfl⟩] at hbody
  refine ⟨_, uedp, parseRound_again_iff.mpr ⟨hbelow, _, hbody, rfl⟩, hahead _, ?_, ?_⟩
  · dsimp only
    rw [hnine, hslots]
    rfl
  · rw [← hlength]
    exact Block.cells_store hstore

/-! ### To the end of the stream -/

/-- From `s` the parser gets to the end of the stream, with these interfaces. -/
def Finishes (src : List UInt8) (D : UInt16) (s : Parser) (ifaced : List Idescriptor) : Prop :=
  ∃ t, Reaches (parseRound src D) s t ∧ Ahead src D t [] ∧ t.ifaced = ifaced

theorem Finishes.of_reaches {t : Parser} {ifaced : List Idescriptor}
    (hreach : Reaches (parseRound src D) s t) (h : Finishes src D t ifaced) :
    Finishes src D s ifaced := by
  obtain ⟨u, hu, hahead, hifaced⟩ := h
  exact ⟨u, hreach.trans hu, hahead, hifaced⟩

theorem finishes_others {ds : List SubDescriptor} (h : Ahead src D s ds)
    (hother : ds.filter SubDescriptor.isStored = []) : Finishes src D s s.ifaced := by
  rw [← List.append_nil ds] at h
  rw [List.filter_eq_nil_iff] at hother
  obtain ⟨cursor, hreach, hahead⟩ := skip_others h fun d hd => by simpa using hother d hd
  exact ⟨_, hreach, hahead, rfl⟩

/-- Through the endpoints of the first interface, if there is at most one. -/
theorem finishes_endpoints {endpoints ds : List SubDescriptor} {uid : Option (List UInt8)}
    (h : Ahead src D s ds) (horder : ds.filter SubDescriptor.isStored = endpoints)
    (hone : endpoints.length ≤ 1) (hlength : ∀ e ∈ endpoints, e.bytes.length = usbDtEndpointSize)
    (htype : ∀ e ∈ endpoints, e.type = usbDtEndpoint) (hoffset : s.iface_offset = 9)
    (hendp : s.endp_offset = 0)
    (hslots : s.ifaced = [⟨uid, some (Block.malloc (endpoints.length * sizeofUedSize))⟩]) :
    ∃ uedp, Finishes src D s [⟨uid, some uedp⟩]
      ∧ ∀ (j : Nat) (e : SubDescriptor), endpoints[j]? = some e →
        uedp.cells (sizeofEndpointDescriptor * j) usbDtEndpointSize = e.bytes.map some := by
  cases endpoints with
  | nil => exact ⟨_, hslots ▸ finishes_others h horder, fun j e he => by cases he⟩
  | cons e es =>
    obtain rfl : es = [] := by
      rw [List.length_cons] at hone
      exact List.eq_nil_of_length_eq_zero (by omega)
    -- up to the endpoint, through it, and to the end
    obtain ⟨pre, post, rfl, hpre, -, hpost⟩ := List.filter_eq_cons_iff.mp horder
    obtain ⟨cursor, hreach, hahead⟩ := skip_others h fun d hd => by simpa using hpre d hd
    obtain ⟨t, uedp, hround, hahead', hifaced, hcells⟩ := first_endpoint hahead
      (hlength e List.mem_cons_self) (htype e List.mem_cons_self) hoffset hendp hslots
    have hend := finishes_others hahead' hpost
    rw [hifaced] at hend
    refine ⟨uedp, hend.of_reaches (hreach.tail hround), fun j e' he' => ?_⟩
    rw [List.getElem?_singleton] at he'
    split at he'
    · rename_i hzero
      subst hzero
      rw [← Option.some.inj he']
      exact hcells
    · cases he'

/-! ## Whole configurations -/

section
variable (c : Configuration)

theorem Configuration.bytes_take : c.bytes.take usbDtConfigSize = c.header := by
  rw [← c.header_length]
  exact List.take_left

theorem Configuration.word16_bytes : word16 c.bytes 2 = word16 c.header 2 := by
  have hlen := c.header_length
  exact word16_append_left (by rw [hlen]; decide)

theorem Configuration.ahead_start :
    Ahead c.bytes (word16 c.bytes 2) (.start c.header) c.subs := by
  have htotal := c.bytes_length
  refine ⟨by rw [c.word16_bytes, htotal], ?_, ?_⟩
  · show c.bytes.drop usbDtConfigSize = stream c.subs
    rw [← c.header_length]
    exact List.drop_left
  · show usbDtConfigSize ≤ c.bytes.length
    rw [htotal, c.total]
    omega

theorem Configuration.type : byteAt c.bytes 1 = usbDtConfig := by
  have hlen := c.header_length
  exact (byteAt_append_left (by rw [hlen]; decide)).trans c.isConfig

/-- The results of parsing it, read off the state its loop leaves in. -/
theorem Configuration.parse_iff (u : Upcd) :
    (∃ fuel, parseDescriptor fuel c.bytes = some (.ok (some (.config u)))) ↔
      ∃ t, Reaches (parseRound c.bytes (word16 c.bytes 2)) (.start c.header) t
        ∧ parseRound c.bytes (word16 c.bytes 2) t = .leave (.ok t)
        ∧ u = ⟨c.header, t.ifaced⟩ := by
  rw [parseDescriptor_config c.ahead_start.inside c.type, c.bytes_take]
  constructor
  · rintro ⟨t, r, hreach, hleave, hq⟩
    rcases parseRound_leave_iff.mp hleave with ⟨-, rfl⟩ | ⟨-, f, -, rfl⟩
    · cases hq
      exact ⟨t, hreach, hleave, rfl⟩
    · cases hq
  · rintro ⟨t, hreach, hleave, rfl⟩
    exact ⟨t, .ok t, hreach, hleave, rfl⟩

end

/-- A second interface or a second endpoint of an interface is not where it belongs. -/
theorem Configuration.ParsesBack.small {c : Configuration} (h : c.ParsesBack) :
    c.interfaces.length ≤ 1 ∧ ∀ i ∈ c.interfaces, i.endpoints.length ≤ 1 := by
  obtain ⟨fuel, u, hparse, hparsed⟩ := h
  obtain ⟨t, hreach, -, rfl⟩ := (c.parse_iff u).mp ⟨fuel, hparse⟩
  have hsparse := sparse_of_reaches hreach
  constructor
  · by_contra hmany
    obtain ⟨d, hd, huid⟩ := hparsed.uid 1 _ (List.getElem?_eq_getElem (by omega))
    have hnine := hsparse.uid 1 d hd (by rw [huid]; exact Option.some_ne_none _)
    omega
  · intro i hi
    by_contra hmany
    obtain ⟨k, hk⟩ := List.getElem?_of_mem hi
    obtain ⟨e, hsecond⟩ : ∃ e, i.endpoints[1]? = some e :=
      ⟨_, List.getElem?_eq_getElem (by omega)⟩
    obtain ⟨d, uedp, hd, hued, hcells⟩ := hparsed.ued k i 1 _ hk hsecond
    have hnone := hsparse.ued k d uedp hd hued
    rw [Nat.mul_one] at hcells
    rw [hcells] at hnone
    -- its first byte was never written
    have hlen := e.length_ge
    obtain ⟨b, hb⟩ := List.exists_mem_of_length_pos (Nat.lt_of_lt_of_le Nat.two_pos hlen)
    exact Option.some_ne_none b (hnone _ (List.mem_map_of_mem hb))

theorem Configuration.parsedAs_single {c : Configuration} {i : Interface} {uedp : Block}
    (hc : c.interfaces = [i])
    (hcells : ∀ (j : Nat) (e : SubDescriptor), i.endpoints[j]? = some e →
      uedp.cells (sizeofEndpointDescriptor * j) usbDtEndpointSize = e.bytes.map some) :
    c.ParsedAs ⟨c.header, [⟨some i.desc.bytes, some uedp⟩]⟩ := by
  have hone : ∀ (k : Nat) (i' : Interface), c.interfaces[k]? = some i' → k = 0 ∧ i' = i := by
    intro k i' hk
    rw [hc, List.getElem?_singleton] at hk
    split at hk
    · rename_i hzero
      exact ⟨hzero, (Option.some.inj hk).symm⟩
    · cases hk
  refine ⟨rfl, ?_, ?_⟩
  · intro k i' hk
    obtain ⟨rfl, rfl⟩ := hone k i' hk
    exact ⟨_, rfl, rfl⟩
  · intro k i' j e hk he
    obtain ⟨rfl, rfl⟩ := hone k i' hk
    exact ⟨_, uedp, rfl, rfl, hcells j e he⟩

theorem Configuration.parsesBack_of_finishes {c : Configuration} {ifaced : List Idescriptor}
    (h : Finishes c.bytes (word16 c.bytes 2) (.start c.header) ifaced)
    (hparsed : c.ParsedAs ⟨c.header, ifaced⟩) : c.ParsesBack := by
  obtain ⟨t, hreach, hahead, rfl⟩ := h
  obtain ⟨fuel, hparse⟩ := (c.parse_iff _).mpr ⟨t, hreach, hahead.leave, rfl⟩
  exact ⟨fuel, _, hparse, hparsed⟩

theorem Configuration.parsesBack_of_small {c : Configuration} (hone : c.interfaces.length ≤ 1)
    (hendp : ∀ i ∈ c.interfaces, i.endpoints.length ≤ 1) : c.ParsesBack := by
  have hstart := c.ahead_start
  have horder := c.order
  have hslots : (Parser.start c.header).ifaced
      = List.replicate c.interfaces.length ⟨none, none⟩ := by
    rw [← c.numInterfaces]
    rfl
  cases hc : c.interfaces with
  | nil =>
    rw [hc, List.flatMap_nil] at horder
    refine Configuration.parsesBack_of_finishes (finishes_others hstart horder) ⟨rfl, ?_, ?_⟩
    · intro k i hi
      rw [hc] at hi
      cases hi
    · intro k i j e hi
      rw [hc] at hi
      cases hi
  | cons i is =>
    obtain rfl : is = [] := by
      rw [hc, List.length_cons] at hone
      exact List.eq_nil_of_length_eq_zero (by omega)
    rw [hc, List.flatMap_cons, List.flatMap_nil, List.append_nil] at horder
    rw [hc, List.length_singleton, List.replicate_one] at hslots
    -- up to the interface, through it, and through its endpoints
    obtain ⟨pre, post, hsubs, hpre, -, hpost⟩ := List.filter_eq_cons_iff.mp horder
    rw [hsubs] at hstart
    obtain ⟨cursor, hreach, hahead⟩ := skip_others hstart fun d hd => by simpa using hpre d hd
    obtain ⟨t, hround, hahead', hoffset, hzero, hifaced⟩ := first_interface hahead rfl hslots
    obtain ⟨uedp, hend, hcells⟩ := finishes_endpoints hahead' hpost
      (hendp i (hc ▸ List.mem_singleton_self i)) i.endpoint_length i.endpoint_type hoffset hzero
      hifaced
    exact Configuration.parsesBack_of_finishes (hend.of_reaches (hreach.tail hround))
      (Configuration.parsedAs_single hc hcells)

/-- **Which configurations are parsed back.** -/
theorem Configuration.parsesBack_iff (c : Configuration) :
    c.ParsesBack ↔ c.interfaces.length ≤ 1 ∧ ∀ i ∈ c.interfaces, i.endpoints.length ≤ 1 :=
  ⟨Configuration.ParsesBack.small, fun h => Configuration.parsesBack_of_small h.1 h.2⟩

/-- An interface with two bulk endpoints. -/
def sampleInterface : Interface where
  desc := { bytes := [9, 4, 0, 0, 2, 0xFF, 0x42, 1, 0], length_ge := by decide, bLength := rfl }
  endpoints :=
    [{ bytes := [7, 5, 0x81, 2, 0, 2, 0], length_ge := by decide, bLength := rfl },
     { bytes := [7, 5, 0x01, 2, 0, 2, 0], length_ge := by decide, bLength := rfl }]
  desc_length := rfl
  desc_type := rfl
  endpoint_length := by decide
  endpoint_type := by decide
  numEndpoints := rfl

/-- The configuration of such a device. -/
def sampleConfiguration : Configuration where
  header := [9, 2, 32, 0, 1, 1, 0, 0x80, 50]
  subs := sampleInterface.desc :: sampleInterface.endpoints
  header_length := rfl
  total := rfl
  interfaces := [sampleInterface]
  isConfig := rfl
  numInterfaces := rfl
  order := rfl

theorem not_parsesBack_of_two_endpoints : ¬ sampleConfiguration.ParsesBack := by
  intro h
  have hone := h.small.2 sampleInterface (List.mem_singleton_self _)
  exact absurd hone (by decide)

end Droidbox.Usb
