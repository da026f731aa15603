import Droidbox.Usb.Listing

/-!
# Droidbox — reading a dump

The text of a dump against the descriptors it was made from. A text is cut into the calls that
printed it by `Print`, and the calls into configurations by their headers.

* **`Print.eq_of_shown`**: a call is what it shows and its strings.
* **`asks_eq`**: listings that show the same ask for the same strings.
* **`dump_text_eq_iff`**: when the texts of two devices are the same.
-/

namespace Droidbox.Usb.Listing

open LittleEndian Walk StringDescriptor

variable {answers : Answers} {out : Output}

/-! ## Calls -/

/-- A call is what it shows and its strings. -/
theorem Print.eq_of_shown {p q : Print} (hshown : p.shown = q.shown)
    (hstrings : p.strings = q.strings) : p = q := by
  obtain ⟨hkind, hbytes⟩ := Prod.ext_iff.mp hshown
  cases p with
  | device udd manufacturer product serial_number =>
    cases q with
    | device udd' manufacturer' product' serial_number' =>
      obtain rfl := UsbDeviceDescriptor.bytes_inj hbytes
      simpa [Print.strings] using hstrings
    | _ => cases hkind
  | config ucd description =>
    cases q with
    | config ucd' description' =>
      obtain rfl := UsbConfigDescriptor.bytes_inj hbytes
      simpa [Print.strings] using hstrings
    | _ => cases hkind
  | interface uid description =>
    cases q with
    | interface uid' description' =>
      obtain rfl := UsbInterfaceDescriptor.bytes_inj hbytes
      simpa [Print.strings] using hstrings
    | _ => cases hkind
  | endpoint ued =>
    cases q with
    | endpoint ued' => rw [UsbEndpointDescriptor.bytes_inj hbytes]
    | _ => cases hkind
  | interfaceAssociation uiad =>
    cases q with
    | interfaceAssociation uiad' => rw [UsbInterfaceAssocDescriptor.bytes_inj hbytes]
    | _ => cases hkind

/-- How many strings a function asks for. -/
def Kind.strings : Kind → Nat
  | .device => 3
  | .config | .interface => 1
  | .endpoint | .interfaceAssociation => 0

theorem Print.strings_length (p : Print) : p.strings.length = p.kind.strings := by
  cases p <;> rfl

/-- **A listing** is what it shows and its strings. -/
theorem prints_eq {ps qs : List Print} (hshown : ps.map Print.shown = qs.map Print.shown)
    (hstrings : ps.flatMap Print.strings = qs.flatMap Print.strings) : ps = qs := by
  induction ps generalizing qs with
  | nil =>
    cases qs with
    | nil => rfl
    | cons q qs => cases hshown
  | cons p ps ih =>
    cases qs with
    | nil => cases hshown
    | cons q qs =>
      obtain ⟨hfirst, hrest⟩ := List.cons.inj hshown
      rw [List.flatMap_cons, List.flatMap_cons] at hstrings
      have hkind : p.kind = q.kind := congrArg Prod.fst hfirst
      obtain ⟨hs, hss⟩ := List.append_inj hstrings
        (by rw [p.strings_length, q.strings_length, hkind])
      rw [Print.eq_of_shown hfirst hs, ih hrest hss]

theorem Output.InOrder.unbroken (h : out.InOrder answers)
    (hanswers : ∀ k index, 10 ∉ (answers k index langid).string) :
    ∀ p ∈ out.prints, p.Unbroken := by
  intro p hp s hs
  have hmem : s ∈ out.prints.flatMap Print.strings := List.mem_flatMap.mpr ⟨p, hp, hs⟩
  rw [h.strings] at hmem
  obtain ⟨k, hk, rfl⟩ := List.mem_mapIdx.mp hmem
  exact hanswers k _

/-! ## Listings -/

theorem shownOf_ne_config {d : SubDescriptor} {p : Kind × List UInt8} (h : shownOf d = some p) :
    p.1 ≠ .config := by
  unfold shownOf at h
  intro hp
  split at h
  · rw [← Option.some.inj h] at hp
    cases hp
  · split at h
    · rw [← Option.some.inj h] at hp
      cases hp
    · split at h
      · rw [← Option.some.inj h] at hp
        cases hp
      · cases h

/-- Configurations that are listed alike have the same headers, and the same is shown of each. -/
theorem listed_inj {configs configs' : List Tiled}
    (h : configs.flatMap listed = configs'.flatMap listed) :
    configs.map (fun c => (c.header, c.subs.filterMap shownOf))
      = configs'.map fun c => (c.header, c.subs.filterMap shownOf) := by
  have hbody : ∀ c : Tiled, ∀ p ∈ c.subs.filterMap shownOf, p.1 ≠ .config := by
    intro c p hp
    obtain ⟨d, -, hd⟩ := List.mem_filterMap.mp hp
    exact shownOf_ne_config hd
  have hblocks := Printf.blocks_inj (fun p => p.1 = .config)
    (fun c : Tiled => (Kind.config, c.header)) (fun c => c.subs.filterMap shownOf) (fun _ => rfl)
    hbody h
  have hmap := congrArg (List.map fun b => (b.1.2, b.2)) hblocks
  rwa [List.map_map, List.map_map] at hmap

/-- The indices a function asks for, from the bytes it is given. -/
def asksOf : Kind × List UInt8 → List UInt8
  | (.device, s) => [byteAt s 14, byteAt s 15, byteAt s 16]
  | (.config, s) => [byteAt s 6]
  | (.interface, s) => [byteAt s 8]
  | (.endpoint, _) | (.interfaceAssociation, _) => []

theorem Print.asks_eq (p : Print) : p.asks = asksOf p.shown := by
  cases p with
  | device => rfl
  | config => rfl
  | interface => rfl
  | endpoint => rfl
  | interfaceAssociation => rfl

/-- Listings that show the same ask for the same strings. -/
theorem asks_eq {ps qs : List Print} (h : ps.map Print.shown = qs.map Print.shown) :
    ps.flatMap Print.asks = qs.flatMap Print.asks := by
  have hshown : ∀ ps : List Print,
      ps.flatMap Print.asks = (ps.map Print.shown).flatMap asksOf := by
    intro ps
    rw [List.flatMap_map]
    exact congrArg (ps.flatMap ·) (funext Print.asks_eq)
  rw [hshown, hshown, h]

/-- **What the text of a dump tells.** When no string breaks a line, two well-formed devices are
listed with the same text exactly when they have the same device descriptor, the same is to be
shown of their configurations, and they gave the same strings. -/
theorem dump_text_eq_iff {dev dev' : Device} {descriptor descriptor' : Buffer usbDtDeviceSize}
    {configs configs' : List Tiled} (h : Described dev descriptor configs)
    (h' : Described dev' descriptor' configs') {answers answers' : Answers}
    (hcomplete : ∀ k index, (answers k index langid).Complete)
    (hcomplete' : ∀ k index, (answers' k index langid).Complete)
    (hanswers : ∀ k index, 10 ∉ (answers k index langid).string)
    (hanswers' : ∀ k index, 10 ∉ (answers' k index langid).string) {s s' : Dump} {out out' : Output}
    (hrun : Returns (listRound answers dev) (.start, .start) (.ok (s, out)))
    (hrun' : Returns (listRound answers' dev') (.start, .start) (.ok (s', out'))) :
    out.text = out'.text ↔
      descriptor = descriptor'
        ∧ configs.map (fun c => (c.header, c.subs.filterMap shownOf))
          = configs'.map (fun c => (c.header, c.subs.filterMap shownOf))
        ∧ ∀ k index, out.asked[k]? = some index →
          (answers k index langid).string = (answers' k index langid).string := by
  obtain ⟨t, u, hlists, hshown, horder⟩ := h.dump_returns hcomplete
  obtain ⟨t', u', hlists', hshown', horder'⟩ := h'.dump_returns hcomplete'
  cases hrun.unique hlists
  cases hrun'.unique hlists'
  -- the same descriptors name the same strings
  have hasked : out.prints.map Print.shown = out'.prints.map Print.shown →
      out.asked = out'.asked := by
    intro hsame
    rw [horder.asked, horder'.asked, asks_eq hsame]
  have hstrings : out.asked = out'.asked →
      (out.prints.flatMap Print.strings = out'.prints.flatMap Print.strings
        ↔ ∀ k index, out.asked[k]? = some index →
          (answers k index langid).string = (answers' k index langid).string) := by
    intro hsame
    rw [horder.strings, horder'.strings, ← hsame, List.ext_getElem?_iff]
    refine forall_congr' fun k => ?_
    rw [List.getElem?_mapIdx, List.getElem?_mapIdx]
    cases out.asked[k]? with
    | none => simp
    | some index => simp
  constructor
  · intro htext
    have hprints := texts_inj (horder.unbroken hanswers) (horder'.unbroken hanswers') htext
    have hsame := hasked (congrArg _ hprints)
    refine ⟨?_, ?_, (hstrings hsame).mp (congrArg _ hprints)⟩
    · rw [← hprints, hshown] at hshown'
      exact Buffer.ext (congrArg Prod.snd (List.cons.inj hshown').1)
    · rw [← hprints, hshown] at hshown'
      exact listed_inj (List.cons.inj hshown').2
  · rintro ⟨rfl, hconfigs, hsame⟩
    have hlisted : configs.flatMap listed = configs'.flatMap listed := by
      have hmap := congrArg (List.flatMap fun b => (Kind.config, b.1) :: b.2) hconfigs
      rwa [List.flatMap_map, List.flatMap_map] at hmap
    have hshows : out.prints.map Print.shown = out'.prints.map Print.shown := by
      rw [hshown, hshown', hlisted]
    rw [Output.text, Output.text, prints_eq hshows ((hstrings (hasked hshows)).mpr hsame)]

theorem answerOf_string (t : Text) : (answerOf t).string = t.chars := by
  have hnul : ∀ s : List UInt8, (∀ b ∈ s, b ≠ 0) → (s ++ [0]).takeWhile (· ≠ 0) = s := by
    intro s hs
    rw [List.takeWhile_append_of_pos fun b hb => decide_eq_true (hs b hb)]
    exact List.append_nil s
  show (StringDescriptor.usbGetString (some t.descriptor) _ _).written.takeWhile (· ≠ 0) = _
  rw [(t.usbGetString_descriptor _ _).2, hnul _ t.nonzero]

theorem sampleAnswers_unbroken (k : Nat) (index : UInt8) :
    10 ∉ (sampleAnswers k index langid).string := by
  unfold sampleAnswers
  split
  · rw [answerOf_string]
    decide
  · rw [answerOf_string]
    decide

/-- Another class-specific descriptor behind the same interface. -/
def sampleOther : Tiled where
  header := sampleTiled.header
  subs := sampleTiled.subs.take 1
    ++ [{ bytes := [4, 0x24, 6, 7], length_ge := by decide, bLength := by decide }]
  header_length := sampleTiled.header_length
  total := rfl

theorem dump_text_eq_sample : ∃ s s' out out',
    Returns (listRound sampleAnswers (sampleDevice sampleTiled.bytes)) (.start, .start)
      (.ok (s, out))
    ∧ Returns (listRound sampleAnswers (sampleDevice sampleOther.bytes)) (.start, .start)
      (.ok (s', out'))
    ∧ out.text = out'.text := by
  have hsample := described_sample (c := sampleTiled) (by decide) sampleTiled_complete
  have hother := described_sample (c := sampleOther) (by decide) (by decide)
  obtain ⟨s, out, hrun, -⟩ := hsample.dump_returns sampleAnswers_complete
  obtain ⟨s', out', hrun', -⟩ := hother.dump_returns sampleAnswers_complete
  exact ⟨s, s', out, out', hrun, hrun',
    (dump_text_eq_iff hsample hother sampleAnswers_complete sampleAnswers_complete
      sampleAnswers_unbroken sampleAnswers_unbroken hrun hrun').mpr
      ⟨rfl, by decide, fun _ _ _ => rfl⟩⟩

end Droidbox.Usb.Listing
