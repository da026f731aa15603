import Droidbox.Ptp.Reassembly

/-!
# Droidbox — cuttings of a data container

A device may cut a data container anywhere. The receive loops look for its length and its type in
`__rbuffer` behind the first transfer. They put the container together as soon as the buffer shows
these two fields, and they keep the last bytes received in it.

* **`Cut.drive_transfers`**: the collector on any cutting, with the receive buffer it leaves.
* **`collectRound_response`**: the response container behind it.
-/

namespace Droidbox.Ptp

open LittleEndian Scripted

/-! ## Cuttings -/

/-- A data container of 12 to 2048 bytes, cut into transfers in any way. -/
structure Cut where
  first : Transfer
  rest : List Transfer
  nonempty : ∀ t ∈ rest, t.bytes ≠ []
  isData : responseTypeMask (payload (first :: rest)) = ptpContainerTypeDataBlock
  declared : (responseLengthMask (payload (first :: rest))).toNat = (payload (first :: rest)).length
  length_ge : 12 ≤ (payload (first :: rest)).length
  length_le : (payload (first :: rest)).length ≤ 2048

def Cut.transfers (d : Cut) : List Transfer := d.first :: d.rest

def Cut.bytes (d : Cut) : List UInt8 := payload d.transfers

def Cut.length (d : Cut) : UInt32 := responseLengthMask d.bytes

theorem Cut.length_toNat (d : Cut) : d.length.toNat = d.bytes.length := d.declared

theorem Cut.bytes_eq (d : Cut) : d.bytes = d.first.bytes ++ payload d.rest := by
  simp [Cut.bytes, Cut.transfers, payload]

theorem Cut.length_overlay (d : Cut) (init : List UInt8) :
    responseLengthMask (overlay d.bytes init) = d.length := by
  have hlen : 12 ≤ d.bytes.length := d.length_ge
  rw [responseLengthMask, word32_overlay (by omega)]
  rfl

/-- The cutting of a data container that fits `__rstream`. -/
def DataContainer.cut (d : DataContainer) (hle : d.bytes.length ≤ 2048) : Cut where
  first := d.first
  rest := d.rest
  nonempty := d.nonempty
  isData := by
    have hlen := d.header_le
    rw [← d.isData, payload, List.flatMap_cons]
    exact word16_append_left (by omega)
  declared := by
    have hlen := d.header_le
    rw [← d.declared, payload, List.flatMap_cons]
    exact congrArg UInt32.toNat (word32_append_left (by omega))
  length_ge := by
    have hlen := d.header_le
    rw [payload, List.flatMap_cons, List.length_append]
    omega
  length_le := hle

/-! ## The receive buffer -/

/-- `__rbuffer` behind some transfers: each one lies over the bytes it is shorter than. -/
def received (rbuffer : Buffer 512) (ts : List Transfer) : Buffer 512 :=
  ts.foldl (fun b t => (usbBulkRecv (.got t) b).2) rbuffer

theorem collectRound_rbuffer {rstream : Buffer 2048} {c c' : Collector} {t : Transfer}
    (h : collectRound rstream c t = .again c') :
    c'.rbuffer = (usbBulkRecv (.got t) c.rbuffer).2 := by
  have hcollect : ∀ (d : Collector) data_len,
      (d.collect rstream data_len t).rbuffer = d.rbuffer := by
    intro d data_len
    unfold Collector.collect
    dsimp only
    split <;> rfl
  unfold collectRound at h
  dsimp only at h
  split at h
  · split at h
    · cases h
      exact hcollect _ _
    · split at h <;> cases h
      rfl
  · cases h
    exact hcollect _ _

theorem drive_rbuffer {rstream : Buffer 2048} {c c' : Collector} {ts : List Transfer}
    (h : drive (collectRound rstream) c ts = .starved c') :
    c'.rbuffer = received c.rbuffer ts := by
  induction ts generalizing c with
  | nil => cases h; rfl
  | cons t ts ih =>
    cases hround : collectRound rstream c t with
    | again d =>
      rw [drive_cons_again hround] at h
      rw [ih h, collectRound_rbuffer hround]
      rfl
    | leave d =>
      rw [drive_cons_leave hround] at h
      cases h

/-- `__rbuffer` shows type and length of the container behind its first transfer. A transfer of
fewer than six bytes leaves this to the uninitialised bytes of the buffer. -/
structure Cut.Shown (d : Cut) (rbuffer : Buffer 512) : Prop where
  type : responseTypeMask (received rbuffer [d.first]).bytes = ptpContainerTypeDataBlock
  length : responseLengthMask (received rbuffer [d.first]).bytes = d.length

instance (d : Cut) (rbuffer : Buffer 512) : Decidable (d.Shown rbuffer) :=
  decidable_of_iff (_ ∧ _) ⟨fun h => ⟨h.1, h.2⟩, fun h => ⟨h.type, h.length⟩⟩

theorem Cut.shown_of_le {d : Cut} (h : 6 ≤ d.first.bytes.length) (rbuffer : Buffer 512) :
    d.Shown rbuffer := by
  obtain ⟨htype, hlength⟩ := masks_received h rbuffer
  have hbytes := d.bytes_eq
  constructor
  · refine htype.trans (Eq.trans ?_ d.isData)
    rw [← Cut.transfers, ← Cut.bytes, hbytes]
    exact (word16_append_left (by omega)).symm
  · refine hlength.trans ?_
    rw [Cut.length, hbytes]
    exact (word32_append_left (by omega)).symm

theorem Cut.collectRound_first (d : Cut) (rstream : Buffer 2048) {c : Collector}
    (hloop : c.loop = .outer) (hshown : d.Shown c.rbuffer) :
    collectRound rstream c d.first
      = .again (Collector.collect rstream
        { c with rbuffer := (usbBulkRecv (.got d.first) c.rbuffer).2 } d.length d.first) :=
  collectRound_container rstream hloop hshown.type hshown.length

/-- **Any cutting.** -/
theorem Cut.drive_transfers (d : Cut) (rstream : Buffer 2048) {c : Collector}
    (hloop : c.loop = .outer) (hshown : d.Shown c.rbuffer) :
    ∃ c', drive (collectRound rstream) c d.transfers = .starved c'
      ∧ c'.Complete rstream (c.stream ++ d.bytes)
      ∧ c'.rbuffer = received c.rbuffer d.transfers := by
  have htotal : d.first.bytes.length + (payload d.rest).length = d.length.toNat := by
    rw [d.length_toNat, d.bytes_eq, List.length_append]
  obtain ⟨c', hdrive, hcomplete⟩ := drive_collect rstream
    (c := { c with rbuffer := (usbBulkRecv (.got d.first) c.rbuffer).2 }) htotal d.nonempty
  have hwhole : drive (collectRound rstream) c d.transfers = .starved c' := by
    rw [Cut.transfers, drive_cons_again (d.collectRound_first rstream hloop hshown), hdrive]
  refine ⟨c', hwhole, ?_, drive_rbuffer hwhole⟩
  rwa [d.bytes_eq, ← List.append_assoc]

/-- **A response container** ends the outer loop. -/
theorem collectRound_response (rstream : Buffer 2048) {c : Collector} (hloop : c.loop = .outer)
    {t : Transfer} (hshows : 6 ≤ t.bytes.length)
    (htype : responseTypeMask t.bytes = ptpContainerTypeResponseBlock) :
    collectRound rstream c t
      = .leave { c with rbuffer := (usbBulkRecv (.got t) c.rbuffer).2 } := by
  have hmask := (masks_received hshows c.rbuffer).1.trans htype
  simp only [collectRound, hloop, hmask]
  rfl

end Droidbox.Ptp
