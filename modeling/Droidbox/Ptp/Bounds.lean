import Droidbox.Ptp.Reassembly

/-!
# Droidbox — which PTP transactions stay inside the response buffer

`__send_request` appends every transfer of a data phase to `__rstream` without looking at its
2048 bytes, and `__handle_request` copies up to `res->length` bytes out of it. So whether a call
stays inside depends on the device:

* **`responseBlock_fits`**, **`responseBlock_not_fits`**: when the response case keeps to
  `*rparams`.
* **`finish_stream_fault_iff`**: when the final copy reads past `__rstream`.
* **`PtpCall.staysInStream_iff`**: a call stays inside `__rstream` exactly when the data phases
  it receives are at most 2048 bytes together and the length it copies out is as well.
-/

namespace Droidbox.Ptp

open LittleEndian Scripted

/-! ## Accesses outside `__rstream` -/

/-- An access outside `__rstream`. -/
def StreamFault (f : Fault) : Prop :=
  ∃ offset count, f = .write .rstream offset count ∨ f = .read .rstream offset count

/-- No copy into or out of `__rstream` leaves it. -/
def PtpCall.StaysInStream (dev : PtpDev) (env : Env) (out : Out) (c : PtpCall) (bus : Bus) : Prop :=
  ∀ f bus', c.exec dev env out bus = .error (.fault f) bus' → ¬ StreamFault f

/-- The parameters a response announces fit into `*rparams`, or are not wanted. -/
def ParamsFit (rparams : Option PtpResParams) (rbuffer : List UInt8) : Prop :=
  rparams = none ∨ (0 ≤ asInt (responseLengthMask rbuffer) - 12
    ∧ asInt (responseLengthMask rbuffer) - 12 ≤ 12)

/-- What is copied out when the response arrives is at most what `__rstream` holds: the length
announced by the last complete data container or, without one, the length `*res` held before. -/
def Collector.CopyFits (out : Out) (c : Collector) : Prop :=
  ParamsFit out.rparams c.rbuffer.bytes → ∀ res, out.res = some res → out.data ≠ none →
    min out.len.toNat (c.length.getD res.length).toNat ≤ 2048

/-! ## The response case -/

/-- The response case leaves with a result when the parameters fit; it does not touch what was
collected. -/
theorem responseBlock_fits {s : Receiver} (h : ParamsFit s.rparams s.rbuffer.bytes) :
    ∃ s', responseBlock s = .leave (.ok s')
      ∧ s'.res = s.res.map fun res => { res with code := responseCodeMask s.rbuffer.bytes } := by
  unfold responseBlock
  cases hr : s.rparams with
  | none => exact ⟨_, rfl, rfl⟩
  | some p =>
    have hcount := h.resolve_left (by rw [hr]; exact Option.some_ne_none p)
    dsimp only
    rw [dif_pos hcount]
    exact ⟨_, rfl, rfl⟩

theorem responseBlock_not_fits {s : Receiver} (h : ¬ ParamsFit s.rparams s.rbuffer.bytes) :
    ∃ count, responseBlock s = .leave (.error (.write .rparams 0 count)) := by
  unfold responseBlock
  cases hr : s.rparams with
  | none => exact absurd (.inl hr) h
  | some p =>
    dsimp only
    rw [dif_neg fun hcount => h (.inr hcount)]
    exact ⟨_, rfl⟩

/-! ## The final copy -/

theorem finish_stream_fault_iff (out : Out) (s : Receiver) :
    (∃ f, StreamFault f ∧ finish out s = .error f) ↔
      ∃ res, s.res = some res ∧ out.data ≠ none ∧ 2048 < min out.len.toNat res.length.toNat := by
  unfold finish
  cases out.data with
  | none => simp
  | some data =>
    cases s.res with
    | none => simp [copyResponse, StreamFault]
    | some res =>
      have hright : (∃ r, some res = some r ∧ some data ≠ none
          ∧ 2048 < min out.len.toNat r.length.toNat)
          ↔ 2048 < min out.len.toNat res.length.toNat := by
        constructor
        · rintro ⟨r, hr, -, hlong⟩
          cases hr
          exact hlong
        · intro hlong
          exact ⟨res, rfl, by simp, hlong⟩
      rw [hright]
      simp only [copyResponse, copyOut_eq]
      generalize min out.len.toNat res.length.toNat = count
      by_cases hlong : 2048 < count
      · simp [hlong, StreamFault]
      · by_cases hdata : data.length < count
        · simp [hlong, hdata, StreamFault]
        · simp [hlong, hdata]

/-! ## Whole calls -/

/-- **At a response** a call leaves `__rstream` exactly when the final copy is reached and too
long. -/
theorem Responds.stream_fault_iff (out : Out) {frame : Frame} {u : Collector}
    {r : Except Fault Receiver} (h : Responds frame out.res out.rparams r u) :
    (∃ f, StreamFault f ∧ (r = .error f ∨ ∃ s, r = .ok s ∧ finish out s = .error f))
      ↔ ¬ u.CopyFits out := by
  obtain ⟨s, htracks, hr⟩ := h
  have hbytes : s.rbuffer.bytes = u.rbuffer.bytes := by rw [htracks.rbuffer]
  -- the final copy is reached only if the parameters fit
  by_cases hfit : ParamsFit out.rparams u.rbuffer.bytes
  · obtain ⟨s', hr', hres⟩ := responseBlock_fits (s := s) (by rwa [htracks.rparams, hbytes])
    rw [hr] at hr'
    cases hr'
    rw [htracks.res, Option.map_map] at hres
    have hcopy := finish_stream_fault_iff out s'
    rw [hres] at hcopy
    constructor
    · rintro ⟨f, hf, he | ⟨s'', he, hfinish⟩⟩ hfits
      · cases he
      · cases he
        obtain ⟨res', hres', hdata, hlong⟩ := hcopy.mp ⟨f, hf, hfinish⟩
        obtain ⟨res, hout, rfl⟩ := Option.map_eq_some_iff.mp hres'
        exact absurd (hfits hfit res hout hdata) (Nat.not_le.mpr hlong)
    · intro hlong
      by_contra hno
      refine hlong fun _ res hout hdata => ?_
      by_contra hle
      obtain ⟨f, hf, hfinish⟩ := hcopy.mpr ⟨_, by rw [hout]; rfl, hdata, Nat.lt_of_not_le hle⟩
      exact hno ⟨f, hf, .inr ⟨s', rfl, hfinish⟩⟩
  · obtain ⟨count, hr'⟩ := responseBlock_not_fits (s := s) (by rwa [htracks.rparams, hbytes])
    rw [hr] at hr'
    cases hr'
    constructor
    · rintro ⟨f, ⟨offset, count', hf⟩, he | ⟨s', he, -⟩⟩
      · cases he
        rcases hf with hf | hf <;> cases hf
      · cases he
    · intro hlong
      exact absurd (fun hfit' => absurd hfit' hfit) hlong

/-- **Which calls stay inside the response buffer.** When every send and every receive succeeds,
a call keeps to `__rstream` exactly when the transfers of its data phases, up to the response if
there is one, are at most 2048 bytes together, and what it copies out at the response is at
most 2048 bytes as well. -/
theorem PtpCall.staysInStream_iff (dev : PtpDev) (env : Env) (out : Out) (c : PtpCall) (bus : Bus)
    (script : List Transfer) (hsends : bus.SendsSucceed) (hrecvs : bus.recvs = script.map .got) :
    c.StaysInStream dev env out bus ↔
      (collected (drive (collectRound (c.frame env).rstream) (Collector.start (c.frame env))
        script)).stream.length ≤ 2048
      ∧ ∀ t rest, drive (collectRound (c.frame env).rstream) (Collector.start (c.frame env)) script
          = .left t rest → t.CopyFits (c.pointers out) := by
  have hfault := fun f => PtpCall.exec_fault dev env out (f := f)
    (.of_sendsSucceed hsends c)
  have hstays : c.StaysInStream dev env out bus ↔
      ¬ ∃ f, StreamFault f ∧ ∃ bus', c.exec dev env out bus = .error (.fault f) bus' :=
    ⟨fun h ⟨f, hf, bus', hexec⟩ => h f bus' hexec hf, fun h f bus' hexec hf =>
      h ⟨f, hf, bus', hexec⟩⟩
  have hbroke := receiver_broke_iff (c.frame env) out.res (c.pointers out).rparams script
  rw [hstays]
  simp only [hfault, hrecvs, PtpCall.start]
  cases receiver_follows (c.frame env) out.res (c.pointers out).rparams script with
  | starved h hs ht =>
    -- no response: the call waits, and what was collected fits
    rw [hs, ht]
    simp [collected, h.fits]
  | broke used rest h hscript hs ht hbeyond =>
    have hlong := hbroke.mp ⟨_, _, h, hs⟩
    obtain ⟨offset, count, rfl⟩ := h
    rw [hs]
    constructor
    · intro hno
      exact absurd ⟨_, ⟨offset, count, .inl rfl⟩, .inl ⟨_, rfl⟩⟩ hno
    · rintro ⟨hle, -⟩
      exact absurd hlong (Nat.not_lt.mpr hle)
  | @left r u rest h hs ht =>
    rw [hs, ht]
    have hcopy := Responds.stream_fault_iff (c.pointers out) h
    constructor
    · intro hno
      obtain ⟨s, htracks, -⟩ := h
      refine ⟨htracks.fits, fun t rest' e => ?_⟩
      cases e
      by_contra hlong
      obtain ⟨f, hf, rfl | ⟨s', rfl, hfinish⟩⟩ := hcopy.mpr hlong
      · exact hno ⟨f, hf, .inl ⟨_, rfl⟩⟩
      · exact hno ⟨f, hf, .inr ⟨s', _, rfl, hfinish⟩⟩
    · rintro ⟨-, hfits⟩ ⟨f, hf, ⟨rest', e⟩ | ⟨s', rest', e, hfinish⟩⟩
      · cases e
        exact hcopy.mp ⟨f, hf, .inl rfl⟩ (hfits u rest rfl)
      · cases e
        exact hcopy.mp ⟨f, hf, .inr ⟨s', rfl, hfinish⟩⟩ (hfits u rest rfl)

/-- **An object larger than the buffer is written past it**: a data container of more than 2048
bytes makes every call that receives it leave `__rstream`, however it is cut. -/
theorem PtpCall.leaves_stream_of_long {dev : PtpDev} {env : Env} {out : Out} {c : PtpCall}
    {bus : Bus} {d : DataContainer} (tail : List RecvResult) (hlong : 2048 < d.bytes.length)
    (hsends : bus.SendsSucceed) (hrecvs : bus.recvs = d.transfers.map .got ++ tail) :
    ¬ c.StaysInStream dev env out bus := by
  obtain ⟨t, hdrive, hcomplete⟩ := drive_dataContainer (c.frame env).rstream
    (c := Collector.start (c.frame env)) rfl d
  have hstream : t.stream = d.bytes := hcomplete.stream
  obtain ⟨r, rest, ⟨offset, count, rfl⟩, hleft⟩ := (receiver_broke_iff (c.frame env) out.res
    (c.pointers out).rparams d.transfers).mpr (by rw [hdrive, collected, hstream]; exact hlong)
  obtain ⟨bus', hexec⟩ := (PtpCall.exec_fault dev env out
    (.of_sendsSucceed hsends c)).mpr (.inl ⟨rest ++ tail, by
      rw [hrecvs, PtpCall.start, drive_append, hleft]; rfl⟩)
  exact fun h => h _ bus' hexec ⟨offset, count, .inl rfl⟩

/-- `ptp_get_object` of one byte in one container, into a buffer of 16 bytes. -/
theorem getObject_stays_in_stream :
    (PtpCall.getObject 7).StaysInStream ⟨3, 1⟩ .zero
      ⟨some (List.replicate 16 0), 16, some ⟨0, 0⟩, none⟩
      (.answering ([⟨[13, 0, 0, 0, 2, 0, 9, 0x10, 1, 0, 0, 0, 0xAA], by decide⟩,
        ⟨[12, 0, 0, 0, 3, 0, 1, 0x20, 1, 0, 0, 0], by decide⟩].map .got)) :=
  (PtpCall.staysInStream_iff ⟨3, 1⟩ .zero ⟨some (List.replicate 16 0), 16, some ⟨0, 0⟩, none⟩
    (.getObject 7) _ _ (Bus.answering_sendsSucceed _) rfl).mpr
      -- no response is longer than the 16 bytes that are copied of it at most
      ⟨by decide, fun t rest _ _ res _ _ => Nat.le_trans (Nat.min_le_left _ _) (by decide)⟩

/-- A full packet of zeros. -/
def samplePacket : Transfer := ⟨List.replicate 512 0, Nat.le_of_eq List.length_replicate⟩

theorem samplePacket_length : samplePacket.bytes.length = 512 := List.length_replicate

/-- A data container of 2060 bytes: its header and four full packets. -/
def sampleLongContainer : DataContainer where
  first := ⟨[0x0C, 8, 0, 0, 2, 0, 9, 0x10, 1, 0, 0, 0], by decide⟩
  rest := [samplePacket, samplePacket, samplePacket, samplePacket]
  header_le := by decide
  nonempty := by
    intro t ht
    obtain rfl : t = samplePacket := by simpa using ht
    exact List.cons_ne_nil _ _
  isData := by decide
  declared := by
    simp only [payload, List.flatMap_cons, List.flatMap_nil, List.length_append,
      samplePacket_length]
    decide

theorem getObject_leaves_stream :
    ¬ (PtpCall.getObject 7).StaysInStream ⟨3, 1⟩ .zero ⟨none, 0, some ⟨0, 0⟩, none⟩
      (.answering (sampleLongContainer.transfers.map .got)) :=
  PtpCall.leaves_stream_of_long (d := sampleLongContainer) []
    (by rw [DataContainer.bytes, DataContainer.transfers, ← sampleLongContainer.declared]; decide)
    (Bus.answering_sendsSucceed _) (by simp [Bus.answering])

end Droidbox.Ptp
