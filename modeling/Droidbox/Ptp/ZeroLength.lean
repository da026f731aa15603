import Droidbox.Ptp.Cutting

/-!
# Droidbox — zero-length packets in a PTP exchange

A USB device ends a transfer whose length is a multiple of the packet size with a zero-length
packet. A receive of zero bytes leaves `__rbuffer` as it was, and the outer loop of
`__send_request` looks at `__rbuffer` all the same:

* **`drive_padded`**: inside a data container zero-length transfers make no difference.
* **`drive_zeros`**: behind it they make none as long as the bytes left in `__rbuffer` do not show
  a container of their own.
* **`drive_disturbed`**: if they do, the loops take the stale bytes for a container and never
  leave with the response.
* **`zero_length_transparent_iff`**: so it is decided by one transfer and one buffer.
-/

namespace Droidbox.Ptp

open LittleEndian Scripted

/-! ## Insertions -/

/-- `us` is `ts` with zero-length transfers inserted in front of any of its transfers. -/
inductive Padded : List Transfer → List Transfer → Prop
  | nil : Padded [] []
  | zero {t z : Transfer} {ts us : List Transfer} (hz : z.bytes = []) (h : Padded (t :: ts) us) :
    Padded (t :: ts) (z :: us)
  | keep {ts us : List Transfer} (t : Transfer) (h : Padded ts us) : Padded (t :: ts) (t :: us)

/-- The bytes left in `__rbuffer` show a container: a response, or data with a length. -/
def Disturbs (rbuffer : Buffer 512) : Prop :=
  responseTypeMask rbuffer.bytes = ptpContainerTypeResponseBlock
    ∨ responseTypeMask rbuffer.bytes = ptpContainerTypeDataBlock
      ∧ responseLengthMask rbuffer.bytes ≠ 0

instance (rbuffer : Buffer 512) : Decidable (Disturbs rbuffer) := by
  unfold Disturbs
  infer_instance

variable {rstream : Buffer 2048} {c : Collector}

/-! ## A zero-length receive -/

theorem usbBulkRecv_zero {z : Transfer} (hz : z.bytes = []) (rbuffer : Buffer 512) :
    (usbBulkRecv (.got z) rbuffer).2 = rbuffer := by
  apply Buffer.ext
  rw [usbBulkRecv_got_snd, hz]
  rfl

theorem ofNat_length_zero {z : Transfer} (hz : z.bytes = []) :
    UInt32.ofNat z.bytes.length = 0 := by
  rw [hz]
  rfl

/-- Nothing is collected, so the loop waits on for the bytes it waited for. -/
theorem Collector.collect_zero {z : Transfer} (hz : z.bytes = []) {data_len : UInt32}
    (hne : data_len ≠ 0) :
    c.collect rstream data_len z = { c with loop := .inner data_len } := by
  simp only [Collector.collect, ofNat_length_zero hz, UInt32.sub_zero, hne, if_false]
  rw [hz, List.append_nil]

theorem collectRound_zero_inner {z : Transfer} (hz : z.bytes = []) {data_len : UInt32}
    (hloop : c.loop = .inner data_len) (hne : data_len ≠ 0) :
    collectRound rstream c z = .again c := by
  simp only [collectRound, usbBulkRecv_zero hz, hloop, Collector.collect_zero hz hne]
  rw [← hloop]

/-- Behind a complete data container, when `__rbuffer` shows no container. -/
theorem collectRound_zero_outer {s : List UInt8} {z : Transfer} (hz : z.bytes = [])
    (hc : c.Complete rstream s) (hquiet : ¬ Disturbs c.rbuffer) :
    collectRound rstream c z = .again c := by
  obtain ⟨hloop, hstream, hlength⟩ := hc
  simp only [collectRound, usbBulkRecv_zero hz, hloop]
  split
  · rename_i htype
    -- a data container of length zero, which ends where it starts
    have hzero : responseLengthMask c.rbuffer.bytes = 0 := by
      by_contra hne
      exact hquiet (.inr ⟨htype, hne⟩)
    have hcollect : c.collect rstream 0 z = c := by
      simp only [Collector.collect, ofNat_length_zero hz, UInt32.sub_zero, if_true]
      rw [hz, List.append_nil, hstream, ← hlength, ← hloop, ← hstream]
    rw [hzero, ← hloop, hcollect]
  · rw [if_neg fun htype => hquiet (.inl htype), ← hloop]

theorem drive_zeros {s : List UInt8} (hc : c.Complete rstream s) (hquiet : ¬ Disturbs c.rbuffer)
    {zs : List Transfer} (hzs : ∀ z ∈ zs, z.bytes = []) :
    drive (collectRound rstream) c zs = .starved c := by
  induction zs with
  | nil => rfl
  | cons z zs ih =>
    obtain ⟨hz, hzs⟩ := List.forall_mem_cons.mp hzs
    rw [drive_cons_again (collectRound_zero_outer hz hc hquiet)]
    exact ih hzs

theorem drive_zeros_inner {data_len : UInt32} (hloop : c.loop = .inner data_len)
    (hne : data_len ≠ 0) {zs : List Transfer} (hzs : ∀ z ∈ zs, z.bytes = []) :
    drive (collectRound rstream) c zs = .starved c := by
  induction zs with
  | nil => rfl
  | cons z zs ih =>
    obtain ⟨hz, hzs⟩ := List.forall_mem_cons.mp hzs
    rw [drive_cons_again (collectRound_zero_inner hz hloop hne)]
    exact ih hzs

/-! ## Inside a data container -/

/-- With transfers of a data container to come, the inner loop waits for as many bytes. -/
def Collector.Awaits (c : Collector) (ts : List Transfer) : Prop :=
  ts ≠ [] → ∃ data_len, c.loop = .inner data_len ∧ data_len.toNat = (payload ts).length

theorem payload_cons_length (t : Transfer) (ts : List Transfer) :
    (payload (t :: ts)).length = t.bytes.length + (payload ts).length := by
  simp [payload]

theorem payload_ne_nil {ts : List Transfer} (hne : ∀ t ∈ ts, t.bytes ≠ []) (hts : ts ≠ []) :
    0 < (payload ts).length := by
  cases ts with
  | nil => exact absurd rfl hts
  | cons t ts =>
    have ht := List.length_pos_of_ne_nil (hne t List.mem_cons_self)
    rw [payload_cons_length]
    omega

/-- A transfer of the container takes its bytes off what is awaited. -/
theorem Collector.collect_awaits {data_len : UInt32} {t : Transfer} {ts : List Transfer}
    (hlen : data_len.toNat = (payload (t :: ts)).length) (hne : ∀ u ∈ ts, u.bytes ≠ []) :
    (c.collect rstream data_len t).Awaits ts := by
  intro hts
  have hpos := payload_ne_nil hne hts
  have hsub : (data_len - UInt32.ofNat t.bytes.length).toNat = (payload ts).length :=
    data_len_sub (by rw [hlen, payload_cons_length])
  have hmore : data_len - UInt32.ofNat t.bytes.length ≠ 0 := by
    intro h
    rw [h, show (0 : UInt32).toNat = 0 from rfl] at hsub
    omega
  refine ⟨_, ?_, hsub⟩
  simp only [Collector.collect, hmore, if_false]

/-- **Inside a data container.** Induction on the insertions; the loop stays in front of the
transfer it awaits. -/
theorem drive_padded {ts us : List Transfer} (h : Padded ts us) (hne : ∀ t ∈ ts, t.bytes ≠ [])
    (hc : c.Awaits ts) :
    drive (collectRound rstream) c us = drive (collectRound rstream) c ts := by
  induction h generalizing c with
  | nil => rfl
  | zero hz h ih =>
    obtain ⟨data_len, hloop, hlen⟩ := hc (List.cons_ne_nil _ _)
    have hpos := payload_ne_nil hne (List.cons_ne_nil _ _)
    have hnz : data_len ≠ 0 := by
      rintro rfl
      rw [show (0 : UInt32).toNat = 0 from rfl] at hlen
      omega
    rw [drive_cons_again (collectRound_zero_inner hz hloop hnz)]
    exact ih hne hc
  | keep t h ih =>
    obtain ⟨data_len, hloop, hlen⟩ := hc (List.cons_ne_nil _ _)
    obtain ⟨-, hne⟩ := List.forall_mem_cons.mp hne
    have hround : ∃ c', collectRound rstream c t = .again c'
        ∧ c' = Collector.collect rstream
          { c with rbuffer := (usbBulkRecv (.got t) c.rbuffer).2 } data_len t := by
      refine ⟨_, ?_, rfl⟩
      simp only [collectRound, hloop]
    obtain ⟨c', hround, rfl⟩ := hround
    rw [drive_cons_again hround, drive_cons_again hround]
    exact ih hne (Collector.collect_awaits hlen hne)

theorem Cut.drive_padded (d : Cut) (rstream : Buffer 2048) {c : Collector}
    (hloop : c.loop = .outer) (hshown : d.Shown c.rbuffer) {us : List Transfer}
    (h : Padded d.rest us) :
    drive (collectRound rstream) c (d.first :: us)
      = drive (collectRound rstream) c d.transfers := by
  have hround := d.collectRound_first rstream hloop hshown
  have htotal : d.length.toNat = (payload (d.first :: d.rest)).length := d.length_toNat
  rw [Cut.transfers, drive_cons_again hround, drive_cons_again hround]
  exact Ptp.drive_padded h d.nonempty (Collector.collect_awaits htotal d.nonempty)

/-! ## Behind a data container -/

/-- **Stale bytes that show a container.** A response ends the loops before the real one; a data
container makes them take the real response for data. -/
theorem drive_disturbed {s : List UInt8} (hc : c.Complete rstream s) (hd : Disturbs c.rbuffer)
    {z r : Transfer} {zs : List Transfer} (hz : z.bytes = []) (hzs : ∀ z ∈ zs, z.bytes = [])
    (c' : Collector) : drive (collectRound rstream) c (z :: zs ++ [r]) ≠ .left c' [] := by
  have hround : collectRound rstream c z
      = if responseTypeMask c.rbuffer.bytes = ptpContainerTypeDataBlock then
          .again (c.collect rstream (responseLengthMask c.rbuffer.bytes) z)
        else if responseTypeMask c.rbuffer.bytes = ptpContainerTypeResponseBlock then
          .leave c
        else
          .again c := by
    simp only [collectRound, usbBulkRecv_zero hz, hc.loop]
    rw [← hc.loop]
  intro h
  rw [List.cons_append] at h
  rcases hd with htype | ⟨htype, hlen⟩
  · rw [htype] at hround
    rw [drive_cons_leave hround] at h
    simp at h
  · rw [if_pos htype, Collector.collect_zero hz hlen] at hround
    rw [drive_cons_again hround, drive_append_starved (drive_zeros_inner rfl hlen hzs)] at h
    -- the inner loop takes whatever comes
    obtain ⟨e, hround⟩ : ∃ e, collectRound rstream
        { c with loop := .inner (responseLengthMask c.rbuffer.bytes) } r = .again e := ⟨_, rfl⟩
    rw [drive_cons_again hround] at h
    cases h

/-! ## Whole exchanges -/

/-- The transfers of an exchange with zero-length ones inserted: those among `vs` stand in front
of a transfer of the data container, those of `zs` behind the last one. -/
def Cut.exchange (d : Cut) (vs zs : List Transfer) (r : Transfer) : List Transfer :=
  d.first :: vs ++ zs ++ [r]

section
variable {frame : Frame} {d : Cut} {r : Transfer} {vs zs : List Transfer}

/-- The collector behind the last transfer of the container, zero lengths among them or not. -/
theorem Cut.drive_inserted (hshown : d.Shown frame.rbuffer) (hvs : Padded d.rest vs) :
    ∃ c, drive (collectRound frame.rstream) (Collector.start frame) d.transfers = .starved c
      ∧ drive (collectRound frame.rstream) (Collector.start frame) (d.first :: vs) = .starved c
      ∧ c.Complete frame.rstream d.bytes
      ∧ c.rbuffer = received frame.rbuffer d.transfers := by
  obtain ⟨c, hdrive, hcomplete, hrbuffer⟩ := d.drive_transfers frame.rstream
    (show (Collector.start frame).loop = .outer from rfl) hshown
  have hpadded := d.drive_padded frame.rstream
    (show (Collector.start frame).loop = .outer from rfl) hshown hvs
  exact ⟨c, hdrive, hpadded.trans hdrive, hcomplete, hrbuffer⟩

theorem Cut.drive_exchange (hshown : d.Shown frame.rbuffer) (hshows : 6 ≤ r.bytes.length)
    (htype : responseTypeMask r.bytes = ptpContainerTypeResponseBlock) :
    ∃ c, drive (collectRound frame.rstream) (Collector.start frame) (d.exchange d.rest [] r)
        = .left c [] ∧ c.stream = d.bytes := by
  obtain ⟨c, hdrive, hcomplete, -⟩ := d.drive_transfers frame.rstream
    (show (Collector.start frame).loop = .outer from rfl) hshown
  refine ⟨{ c with rbuffer := (usbBulkRecv (.got r) c.rbuffer).2 }, ?_, hcomplete.stream⟩
  rw [Cut.exchange, List.append_nil, ← Cut.transfers, drive_append_starved hdrive,
    drive_cons_leave (collectRound_response _ hcomplete.loop hshows htype)]

/-- Without zero lengths behind the container, or with harmless ones, the collector ends as if
nothing had been inserted. -/
theorem Cut.drive_exchange_quiet (hshown : d.Shown frame.rbuffer) (hvs : Padded d.rest vs)
    (hzs : ∀ z ∈ zs, z.bytes = [])
    (hquiet : zs = [] ∨ ¬ Disturbs (received frame.rbuffer d.transfers)) :
    drive (collectRound frame.rstream) (Collector.start frame) (d.exchange vs zs r)
      = drive (collectRound frame.rstream) (Collector.start frame) (d.exchange d.rest [] r) := by
  obtain ⟨c, hdrive, hpadded, hcomplete, hrbuffer⟩ := Cut.drive_inserted hshown hvs
  have hzeros : drive (collectRound frame.rstream) c zs = .starved c := by
    rcases hquiet with rfl | hquiet
    · rfl
    · exact drive_zeros hcomplete (hrbuffer ▸ hquiet) hzs
  rw [Cut.exchange, Cut.exchange, List.append_nil, List.append_assoc,
    drive_append_starved hpadded, drive_append_starved hzeros, ← Cut.transfers,
    drive_append_starved hdrive]

/-- With a disturbing one the receive loops do not leave on the response. -/
theorem Cut.exchange_disturbed (res : Option PtpRes) (rparams : Option PtpResParams)
    (hshown : d.Shown frame.rbuffer) (hvs : Padded d.rest vs) (hzs : ∀ z ∈ zs, z.bytes = [])
    (hne : zs ≠ []) (hd : Disturbs (received frame.rbuffer d.transfers))
    (tail : List RecvResult) (s : Receiver) :
    drive receiveRound (Receiver.start frame res rparams)
      ((d.exchange vs zs r).map .got ++ tail) ≠ .left (.ok s) tail := by
  obtain ⟨c, -, hpadded, hcomplete, hrbuffer⟩ := Cut.drive_inserted hshown hvs
  obtain ⟨z, zs, rfl⟩ := List.exists_cons_of_ne_nil hne
  obtain ⟨hz, hzs⟩ := List.forall_mem_cons.mp hzs
  have hnever : ∀ c', drive (collectRound frame.rstream) (Collector.start frame)
      (d.exchange vs (z :: zs) r) ≠ .left c' [] := by
    intro c'
    rw [Cut.exchange, List.append_assoc, drive_append_starved hpadded]
    exact drive_disturbed hcomplete (hrbuffer ▸ hd) hz hzs c'
  intro h
  rw [drive_append] at h
  cases receiver_follows frame res rparams (d.exchange vs (z :: zs) r) with
  | starved _ hs _ =>
    -- the loops still wait, so they leave further on in `tail`
    rw [hs] at h
    obtain ⟨used, i, s', htail, -⟩ := drive_left_iff.mp h
    have hlen := congrArg List.length htail
    simp only [List.length_append, List.length_cons] at hlen
    omega
  | left rest _ hs ht =>
    rw [hs] at h
    injection h with _ h
    have hlen := congrArg List.length h
    rw [List.length_append, List.length_map] at hlen
    obtain rfl : rest = [] := List.eq_nil_of_length_eq_zero (by omega)
    exact hnever _ ht
  | broke used rest hbroke _ hs _ _ =>
    -- a copy past the end of `__rstream`
    rw [hs] at h
    obtain ⟨offset, count, rfl⟩ := hbroke
    cases h

end

/-- So a call does not return from such an exchange with the receives behind it left. -/
theorem PtpCall.exec_disturbed (dev : PtpDev) (env : Env) (out : Out) {c : PtpCall} {bus : Bus}
    {d : Cut} {r : Transfer} {vs zs : List Transfer} {tail : List RecvResult}
    (hdelivered : c.Delivered bus) (hshown : d.Shown (c.frame env).rbuffer)
    (hvs : Padded d.rest vs) (hzs : ∀ z ∈ zs, z.bytes = []) (hne : zs ≠ [])
    (hd : Disturbs (received (c.frame env).rbuffer d.transfers))
    (hrecvs : bus.recvs = (d.exchange vs zs r).map .got ++ tail) :
    ¬ ∃ o bus', c.exec dev env out bus = .ok (0, o) bus' ∧ bus'.recvs = tail := by
  rintro ⟨o, bus', h, htail⟩
  obtain ⟨s, rest, -, hdrive, -, -, rfl⟩ := (PtpCall.exec_ok dev env out hdelivered).mp h
  obtain rfl : rest = tail := htail
  rw [hrecvs] at hdrive
  exact Cut.exchange_disturbed out.res (c.pointers out).rparams hshown hvs hzs hne hd rest s hdrive

/-- **Zero-length packets.** An exchange that completes is repeated with zero-length transfers
inserted behind the first transfer of its data container. The call returns the same, with the same
in the caller's memory, and leaves the same receives, exactly when none of them stands behind the
last transfer of the data container or the bytes left in `__rbuffer` show no container. -/
theorem PtpCall.zero_length_transparent_iff (dev : PtpDev) (env : Env) (out o : Out) (c : PtpCall)
    (bus bus' : Bus) (d : Cut) (r : Transfer) (vs zs : List Transfer) (tail : List RecvResult)
    (hshown : d.Shown (c.frame env).rbuffer) (hshows : 6 ≤ r.bytes.length)
    (htype : responseTypeMask r.bytes = ptpContainerTypeResponseBlock)
    (hrecvs : bus.recvs = (d.exchange d.rest [] r).map .got ++ tail)
    (hcompletes : c.exec dev env out bus = .ok (0, o) bus')
    (hvs : Padded d.rest vs) (hzs : ∀ z ∈ zs, z.bytes = []) :
    (∃ bus'', c.exec dev env out { bus with recvs := (d.exchange vs zs r).map .got ++ tail }
        = .ok (0, o) bus'' ∧ bus''.recvs = bus'.recvs)
      ↔ zs = [] ∨ ¬ Disturbs (received (c.frame env).rbuffer d.transfers) := by
  have hd : c.Delivered bus := by
    by_contra hd
    obtain ⟨b, hexec, -⟩ := PtpCall.exec_undelivered dev env out hd
    rw [hexec] at hcompletes
    cases hcompletes
  -- what the loops make of the exchange as it was
  obtain ⟨s, rest, o', hdrive, hfinish, hreply, rfl⟩ := (PtpCall.exec_ok dev env out hd).mp
    hcompletes
  obtain ⟨e, he, hstream⟩ := Cut.drive_exchange hshown hshows htype
  have hfits : e.stream.length ≤ 2048 := hstream ▸ d.length_le
  obtain ⟨q, hq, hresponds⟩ := receiver_responds (c.frame env) out.res (c.pointers out).rparams
    he hfits
  rw [hrecvs, PtpCall.start, drive_append, hq] at hdrive
  cases hdrive
  have hd' : c.Delivered { bus with recvs := (d.exchange vs zs r).map .got ++ tail } := hd
  constructor
  · rintro ⟨bus'', h, hsame⟩
    by_contra hno
    rw [not_or, not_not] at hno
    exact PtpCall.exec_disturbed dev env out hd' hshown hvs hzs hno.1 hno.2 rfl
      ⟨o, bus'', h, hsame⟩
  · intro hquiet
    rw [← Cut.drive_exchange_quiet hshown hvs hzs hquiet] at he
    obtain ⟨q', hq', hresponds'⟩ := receiver_responds (c.frame env) out.res
      (c.pointers out).rparams he hfits
    obtain rfl := hresponds.unique hresponds'
    refine ⟨_, (PtpCall.exec_ok dev env out hd').mpr
      ⟨s, tail, o', ?_, hfinish, hreply, rfl⟩, rfl⟩
    rw [PtpCall.start, drive_append, hq']
    rfl

/-! ### A data container in one transfer -/

/-- `ptp_get_device_info`, answered by a data container and an `OK`. -/
def sampleFetch (d : DataContainer) (hle : d.bytes.length ≤ 2048) : Exchange where
  call := .getDeviceInfo
  env := .zero
  out := ⟨none, 0, some ⟨0, 0⟩, none⟩
  answer :=
    { sampleAnswer with
      before := []
      data := some d
      between := []
      data_le := by
        rintro e ⟨⟩
        exact hle }

/-- A container of 18 bytes in two transfers; the second one lies over length and type. -/
def sampleTwo : DataContainer where
  first := ⟨[18, 0, 0, 0, 2, 0, 1, 0x10, 1, 0, 0, 0], by decide⟩
  rest := [⟨[0, 0, 0, 0, 0, 0], by decide⟩]
  header_le := by decide
  nonempty := by decide
  isData := by decide
  declared := by decide

def sampleFullBytes : List UInt8 :=
  [0, 2, 0, 0, 2, 0, 1, 0x10, 1, 0, 0, 0] ++ List.replicate 500 0

theorem sampleFullBytes_length : sampleFullBytes.length = 512 := by
  rw [sampleFullBytes, List.length_append, List.length_replicate]
  rfl

/-- A container of one full packet. -/
def sampleFull : DataContainer where
  first := ⟨sampleFullBytes, sampleFullBytes_length.le⟩
  rest := []
  header_le := by
    rw [sampleFullBytes_length]
    decide
  nonempty := nofun
  isData := (word16_append_left (by decide)).trans (by decide)
  declared := by
    rw [payload, List.flatMap_cons, List.flatMap_nil, List.append_nil]
    refine Eq.trans ?_ sampleFullBytes_length.symm
    exact (congrArg UInt32.toNat (word32_append_left (by decide))).trans (by decide)

def zeroLength : Transfer := ⟨[], by decide⟩

theorem sampleFetch_exec (d : DataContainer) (hle : d.bytes.length ≤ 2048) :
    ∃ bus', (sampleFetch d hle).exec ⟨3, 1⟩
        (.answering (((d.cut hle).exchange d.rest [] sampleResponse).map .got))
        (0, (sampleFetch d hle).reply) bus' ∧ bus'.recvs = [] := by
  have hproper : (sampleFetch d hle).Proper := by
    refine ⟨rfl, ?_⟩
    intro data hdata
    obtain ⟨-, hnone⟩ := PtpCall.pointers_data_iff.mp hdata
    cases hnone
  have hrecvs : ((d.cut hle).exchange d.rest [] sampleResponse).map RecvResult.got
      = (sampleFetch d hle).answer.transfers.map RecvResult.got ++ [] := by
    simp [Cut.exchange, Answer.transfers, Answer.dataTransfers, sampleFetch, sampleAnswer,
      DataContainer.cut, DataContainer.transfers]
  obtain ⟨bus', hexec, -, hrest⟩ := Exchange.exec_answered ⟨3, 1⟩ hproper
    (Bus.answering_sendsSucceed (((d.cut hle).exchange d.rest [] sampleResponse).map .got)) hrecvs
  exact ⟨bus', hexec, hrest⟩

theorem sampleTwo_length_le : sampleTwo.bytes.length ≤ 2048 := by
  decide

theorem sampleFull_bytes : sampleFull.bytes = sampleFullBytes := by
  rw [DataContainer.bytes, DataContainer.transfers, payload, sampleFull, List.flatMap_cons,
    List.flatMap_nil, List.append_nil]

theorem sampleFull_length_le : sampleFull.bytes.length ≤ 2048 := by
  rw [sampleFull_bytes, sampleFullBytes_length]
  decide

/-- Inside and behind a container whose last transfer covers the header in `__rbuffer`. -/
theorem zero_length_transparent_of_two : ∃ bus',
    (sampleFetch sampleTwo sampleTwo_length_le).exec ⟨3, 1⟩
        (.answering (((sampleTwo.cut sampleTwo_length_le).exchange (zeroLength :: sampleTwo.rest)
          [zeroLength] sampleResponse).map .got ++ []))
        (0, (sampleFetch sampleTwo sampleTwo_length_le).reply) bus' ∧ bus'.recvs = [] := by
  obtain ⟨bus, hexec, hrest⟩ := sampleFetch_exec sampleTwo sampleTwo_length_le
  have hzero : ∀ z ∈ [zeroLength], z.bytes = [] := by simp [zeroLength]
  -- the last transfer shows a type of its own
  have hquiet : ¬ Disturbs (received (PtpCall.getDeviceInfo.frame .zero).rbuffer
      sampleTwo.transfers) := by
    obtain ⟨htype, -⟩ := masks_received (t := ⟨[0, 0, 0, 0, 0, 0], by decide⟩) (by decide)
      (received (PtpCall.getDeviceInfo.frame .zero).rbuffer [sampleTwo.first])
    rintro (h | ⟨h, -⟩)
    · exact absurd (htype.symm.trans h) (by decide)
    · exact absurd (htype.symm.trans h) (by decide)
  obtain ⟨bus', hexec', hsame⟩ := (PtpCall.zero_length_transparent_iff ⟨3, 1⟩ .zero _ _
    .getDeviceInfo _ bus (sampleTwo.cut sampleTwo_length_le) sampleResponse
    (zeroLength :: sampleTwo.rest) [zeroLength] [] (Cut.shown_of_le (by decide) _) (by decide)
    (by decide) (List.append_nil _).symm hexec (.zero (z := zeroLength) rfl (.keep _ .nil))
    hzero).mpr (.inr hquiet)
  exact ⟨bus', hexec', hsame.trans hrest⟩

/-- The packet that ends a container of 512 bytes: the call takes the response for data. -/
theorem zero_length_packet_not_transparent :
    (∃ bus', (sampleFetch sampleFull sampleFull_length_le).exec ⟨3, 1⟩
        (.answering (((sampleFull.cut sampleFull_length_le).exchange [] []
          sampleResponse).map .got))
        (0, (sampleFetch sampleFull sampleFull_length_le).reply) bus' ∧ bus'.recvs = [])
    ∧ ¬ ∃ o bus', (sampleFetch sampleFull sampleFull_length_le).exec ⟨3, 1⟩
        (.answering (((sampleFull.cut sampleFull_length_le).exchange [] [zeroLength]
          sampleResponse).map .got))
        (0, o) bus' ∧ bus'.recvs = [] := by
  refine ⟨sampleFetch_exec sampleFull sampleFull_length_le, ?_⟩
  rintro ⟨o, bus', h⟩
  have hbytes : sampleFullBytes.length = 512 := sampleFullBytes_length
  refine PtpCall.exec_disturbed ⟨3, 1⟩ .zero _
    (.of_sendsSucceed (Bus.answering_sendsSucceed _) _)
    (Cut.shown_of_le (d := sampleFull.cut sampleFull_length_le) ?_ _) .nil
    ?_ (List.cons_ne_nil zeroLength []) ?_ (List.append_nil _).symm ⟨_, bus', h⟩
  · show 6 ≤ sampleFullBytes.length
    omega
  · simp [zeroLength]
  · -- the only transfer of the container still lies in the buffer
    obtain ⟨htype, hlength⟩ := masks_received (t := sampleFull.first)
      (show 6 ≤ sampleFullBytes.length by omega) (PtpCall.getDeviceInfo.frame .zero).rbuffer
    refine .inr ⟨htype.trans sampleFull.isData, fun h => ?_⟩
    have hzero : (responseLengthMask sampleFull.first.bytes).toNat = sampleFull.bytes.length :=
      sampleFull.declared
    rw [hlength.symm.trans h, sampleFull_bytes, hbytes] at hzero
    cases hzero

end Droidbox.Ptp
