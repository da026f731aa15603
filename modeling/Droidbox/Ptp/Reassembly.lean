import Droidbox.Lib.Session
import Droidbox.Ptp.Calls
import Droidbox.Ptp.Collector

/-!
# Droidbox — reassembly of PTP transactions over whole runs

A device that follows the protocol answers each request with an `Answer`: containers of other
types, a data container cut into transfers in any way, containers of other types again, and a
response container. The receive loops put the data container together whatever the cutting, and
each call consumes the transfers of its own answer and no others.

* **`drive_dataContainer`**: from any cutting of a data container the collector gathers its bytes
  and finds its length.
* **`receiver_answer`**: the receive loops on the transfers of one answer.
* **`Exchange.exec_answered`**: one call.
* **`reassembly_over_runs`**: any sequence of calls.
-/

namespace Droidbox.Ptp

open LittleEndian Scripted Session

/-! ## Well-formed answers -/

/-- A transfer of a container that is neither data nor response; it shows its type field. -/
structure OtherContainer where
  transfer : Transfer
  length_ge : 6 ≤ transfer.bytes.length
  notData : responseTypeMask transfer.bytes ≠ ptpContainerTypeDataBlock
  notResponse : responseTypeMask transfer.bytes ≠ ptpContainerTypeResponseBlock

/-- A data container cut into transfers: the first holds the header, none is empty, and together
they are as long as the header says. -/
structure DataContainer where
  first : Transfer
  rest : List Transfer
  header_le : 12 ≤ first.bytes.length
  nonempty : ∀ t ∈ rest, t.bytes ≠ []
  isData : responseTypeMask first.bytes = ptpContainerTypeDataBlock
  declared : (responseLengthMask first.bytes).toNat = (payload (first :: rest)).length

def DataContainer.transfers (d : DataContainer) : List Transfer := d.first :: d.rest

def DataContainer.bytes (d : DataContainer) : List UInt8 := payload d.transfers

def DataContainer.length (d : DataContainer) : UInt32 := responseLengthMask d.first.bytes

/-- A response container with at most three parameters, in one transfer. -/
structure ResponseContainer where
  transfer : Transfer
  nparams : Nat
  nparams_le : nparams ≤ 3
  length_eq : transfer.bytes.length = 12 + 4 * nparams
  declared : (responseLengthMask transfer.bytes).toNat = transfer.bytes.length
  isResponse : responseTypeMask transfer.bytes = ptpContainerTypeResponseBlock

/-- What a device answers to one request: its data container, if any, fits `__rstream`. -/
structure Answer where
  before : List OtherContainer
  data : Option DataContainer
  between : List OtherContainer
  response : ResponseContainer
  data_le : ∀ d ∈ data, d.bytes.length ≤ 2048

def Answer.dataTransfers (a : Answer) : List Transfer :=
  match a.data with
  | none => []
  | some d => d.transfers

def Answer.transfers (a : Answer) : List Transfer :=
  a.before.map OtherContainer.transfer ++ a.dataTransfers
    ++ a.between.map OtherContainer.transfer ++ [a.response.transfer]

/-! ## The collector on an answer -/

variable {rstream : Buffer 2048}

theorem drive_others (rstream : Buffer 2048) {c : Collector} (hloop : c.loop = .outer)
    (os : List OtherContainer) :
    ∃ rbuffer, drive (collectRound rstream) c (os.map OtherContainer.transfer)
      = .starved { c with rbuffer } := by
  induction os generalizing c with
  | nil => exact ⟨c.rbuffer, rfl⟩
  | cons o os ih =>
    -- the container shows its type field, so the old bytes of the buffer do not matter
    have htype : responseTypeMask (usbBulkRecv (.got o.transfer) c.rbuffer).2.bytes
        = responseTypeMask o.transfer.bytes := by
      rw [usbBulkRecv_got_snd]
      exact word16_overlay (Nat.lt_of_lt_of_le (by decide) o.length_ge)
    have hround : collectRound rstream c o.transfer
        = .again { c with rbuffer := (usbBulkRecv (.got o.transfer) c.rbuffer).2 } := by
      simp only [collectRound, hloop, htype, o.notData, o.notResponse, if_false]
    obtain ⟨rbuffer, h⟩ := ih (c := { c with
      rbuffer := (usbBulkRecv (.got o.transfer) c.rbuffer).2 }) hloop
    refine ⟨rbuffer, ?_⟩
    rw [List.map_cons, drive_cons_again hround, h]

/-- The collector after a data container whose bytes complete the stream `s`. -/
structure Collector.Complete (rstream : Buffer 2048) (s : List UInt8) (c : Collector) : Prop where
  loop : c.loop = .outer
  stream : c.stream = s
  length : c.length = some (responseLengthMask (overlay s rstream.bytes))

theorem data_len_sub {data_len : UInt32} {t : Transfer} {k : Nat}
    (h : t.bytes.length + k = data_len.toNat) :
    (data_len - UInt32.ofNat t.bytes.length).toNat = k := by
  have hlt := data_len.toNat_lt
  have hle := t.length_le
  have hof : (UInt32.ofNat t.bytes.length).toNat = t.bytes.length :=
    UInt32.toNat_ofNat_of_lt' (by simp [UInt32.size]; omega)
  rw [UInt32.toNat_sub_of_le _ _ (by rw [UInt32.le_iff_toNat_le, hof]; omega), hof]
  omega

/-- **The inner loop.** A transfer `t` and the transfers `ts` behind it that together are the
`data_len` bytes to come complete the container. Induction on `ts`; the remaining length is the
invariant. -/
theorem drive_collect (rstream : Buffer 2048) {c : Collector} {data_len : UInt32} {t : Transfer}
    {ts : List Transfer}
    (htotal : t.bytes.length + (payload ts).length = data_len.toNat)
    (hne : ∀ t ∈ ts, t.bytes ≠ []) :
    ∃ c', drive (collectRound rstream) (c.collect rstream data_len t) ts = .starved c'
      ∧ c'.Complete rstream (c.stream ++ t.bytes ++ payload ts) := by
  induction ts generalizing c data_len t with
  | nil =>
    have hzero : data_len - UInt32.ofNat t.bytes.length = 0 := by
      apply UInt32.toNat_inj.mp
      exact data_len_sub htotal
    refine ⟨_, rfl, ?_⟩
    unfold Collector.collect
    simp only [hzero, if_true, payload, List.flatMap_nil, List.append_nil]
    exact ⟨rfl, rfl, rfl⟩
  | cons u us ih =>
    have hsub := data_len_sub htotal
    have hu : 0 < u.bytes.length := List.length_pos_of_ne_nil (hne u List.mem_cons_self)
    have hpay : (payload (u :: us)).length = u.bytes.length + (payload us).length := by
      simp [payload]
    -- `u` is not empty, so the loop cannot end on `t`
    have hpos : data_len - UInt32.ofNat t.bytes.length ≠ 0 := by
      intro h
      rw [h] at hsub
      have : (0 : UInt32).toNat = 0 := rfl
      omega
    have hcollect : c.collect rstream data_len t = { c with
        loop := .inner (data_len - UInt32.ofNat t.bytes.length)
        stream := c.stream ++ t.bytes } := by
      simp only [Collector.collect, hpos, if_false]
    rw [hcollect, drive_cons_again (by rfl)]
    obtain ⟨c', hdrive, hcomplete⟩ := ih
      (c := { c with
        loop := .inner (data_len - UInt32.ofNat t.bytes.length)
        rbuffer := (usbBulkRecv (.got u) c.rbuffer).2
        stream := c.stream ++ t.bytes })
      (t := u) (hpay ▸ hsub.symm)
      fun v hv => hne v (List.mem_cons_of_mem _ hv)
    refine ⟨c', hdrive, ?_⟩
    rwa [payload, List.flatMap_cons, ← List.append_assoc]

/-- A transfer of six bytes shows its own type and length, whatever the buffer held. -/
theorem masks_received {t : Transfer} (hshows : 6 ≤ t.bytes.length) (rbuffer : Buffer 512) :
    responseTypeMask (usbBulkRecv (.got t) rbuffer).2.bytes = responseTypeMask t.bytes
      ∧ responseLengthMask (usbBulkRecv (.got t) rbuffer).2.bytes = responseLengthMask t.bytes := by
  rw [usbBulkRecv_got_snd]
  exact ⟨word16_overlay (by omega), word32_overlay (by omega)⟩

/-- The first transfer of a data container, once `__rbuffer` shows its length and its type. -/
theorem collectRound_container (rstream : Buffer 2048) {c : Collector} (hloop : c.loop = .outer)
    {first : Transfer} {data_len : UInt32}
    (htype : responseTypeMask (usbBulkRecv (.got first) c.rbuffer).2.bytes
      = ptpContainerTypeDataBlock)
    (hlength : responseLengthMask (usbBulkRecv (.got first) c.rbuffer).2.bytes = data_len) :
    collectRound rstream c first
      = .again (Collector.collect rstream
        { c with rbuffer := (usbBulkRecv (.got first) c.rbuffer).2 } data_len first) := by
  simp only [collectRound, hloop, htype, hlength, if_true]

/-- **A data container, however it is cut.** -/
theorem drive_dataContainer (rstream : Buffer 2048) {c : Collector} (hloop : c.loop = .outer)
    (d : DataContainer) :
    ∃ c', drive (collectRound rstream) c d.transfers = .starved c'
      ∧ c'.Complete rstream (c.stream ++ d.bytes) := by
  obtain ⟨htype, hlength⟩ := masks_received (t := d.first)
    (Nat.le_trans (by decide) d.header_le) c.rbuffer
  have hround := collectRound_container rstream hloop (htype.trans d.isData) hlength
  have htotal : d.first.bytes.length + (payload d.rest).length
      = (responseLengthMask d.first.bytes).toNat := by
    rw [d.declared]
    simp [payload]
  obtain ⟨c', hdrive, hcomplete⟩ := drive_collect rstream
    (c := { c with rbuffer := (usbBulkRecv (.got d.first) c.rbuffer).2 }) htotal d.nonempty
  refine ⟨c', ?_, ?_⟩
  · rw [DataContainer.transfers, drive_cons_again hround, hdrive]
  · rwa [List.append_assoc] at hcomplete

/-! ## The receive loops on an answer -/

def Answer.stream (a : Answer) : List UInt8 :=
  match a.data with
  | none => []
  | some d => d.bytes

theorem Answer.stream_length_le (a : Answer) : a.stream.length ≤ 2048 := by
  unfold Answer.stream
  split
  · exact Nat.zero_le _
  · rename_i d hd
    exact a.data_le d hd

def ResponseContainer.params (r : ResponseContainer) : List UInt8 := r.transfer.bytes.drop 12

theorem ResponseContainer.params_length (r : ResponseContainer) :
    r.params.length = 4 * r.nparams := by
  rw [params, List.length_drop, r.length_eq]
  omega

/-- `*rparams` after a response was stored in it. -/
def ResponseContainer.store (r : ResponseContainer) (p : PtpResParams) : PtpResParams :=
  p.write 0 r.params (by have := r.params_length; have := r.nparams_le; omega)

/-- The length at the front of a collected data container is the one it declares. -/
theorem DataContainer.length_overlay (d : DataContainer) (init : List UInt8) :
    responseLengthMask (overlay d.bytes init) = d.length := by
  have hlen := d.header_le
  have hpay : d.bytes = d.first.bytes ++ payload d.rest := by
    simp [DataContainer.bytes, DataContainer.transfers, payload]
  rw [hpay, responseLengthMask, word32_overlay (by simp; omega), word32_append_left (by omega)]
  rfl

/-- The collector on the transfers of an answer: it leaves on the response container, with the
data container collected. -/
theorem drive_answer (frame : Frame) (a : Answer) :
    ∃ c, drive (collectRound frame.rstream) (Collector.start frame) a.transfers = .left c []
      ∧ c.loop = .outer ∧ c.stream = a.stream ∧ c.length = a.data.map DataContainer.length
      ∧ ∃ old, c.rbuffer.bytes = overlay a.response.transfer.bytes old := by
  obtain ⟨rbuffer, hbefore⟩ := drive_others frame.rstream
    (c := Collector.start frame) rfl a.before
  have hdata : ∃ c, drive (collectRound frame.rstream) { Collector.start frame with rbuffer }
      a.dataTransfers = .starved c ∧ c.loop = .outer ∧ c.stream = a.stream
        ∧ c.length = a.data.map DataContainer.length := by
    unfold Answer.dataTransfers Answer.stream
    cases a.data with
    | none => exact ⟨_, rfl, rfl, rfl, rfl⟩
    | some d =>
      obtain ⟨c, hc, hloop, hstream, hlength⟩ := drive_dataContainer frame.rstream
        (c := { Collector.start frame with rbuffer }) rfl d
      exact ⟨c, hc, hloop, hstream, hlength.trans (congrArg some (d.length_overlay _))⟩
  obtain ⟨c, hc, hloop, hstream, hlength⟩ := hdata
  obtain ⟨rbuffer', hbetween⟩ := drive_others frame.rstream hloop a.between
  have hlen := a.response.length_eq
  have htype : responseTypeMask (usbBulkRecv (.got a.response.transfer) rbuffer').2.bytes
      = ptpContainerTypeResponseBlock := by
    rw [usbBulkRecv_got_snd, responseTypeMask, word16_overlay (by omega)]
    exact a.response.isResponse
  have hround : collectRound frame.rstream { c with rbuffer := rbuffer' } a.response.transfer
      = .leave { c with rbuffer := (usbBulkRecv (.got a.response.transfer) rbuffer').2 } := by
    simp only [collectRound, hloop, htype]
    rfl
  refine ⟨{ c with rbuffer := (usbBulkRecv (.got a.response.transfer) rbuffer').2 }, ?_, hloop,
    hstream, hlength, rbuffer'.bytes, usbBulkRecv_got_snd _ _⟩
  rw [Answer.transfers, List.append_assoc, List.append_assoc, drive_append_starved hbefore,
    drive_append_starved hc, drive_append_starved hbetween, drive_cons_leave hround]

/-- The response case on a response container: code and parameters are its own. -/
theorem responseBlock_container {s : Receiver} {r : ResponseContainer} {old : List UInt8}
    (h : s.rbuffer.bytes = overlay r.transfer.bytes old) :
    responseBlock s = .leave (.ok { s with
      res := s.res.map fun res => { res with code := responseCodeMask r.transfer.bytes }
      rparams := s.rparams.map r.store }) := by
  have hlen := r.length_eq
  have hk := r.nparams_le
  have hcode : responseCodeMask s.rbuffer.bytes = responseCodeMask r.transfer.bytes := by
    rw [h, responseCodeMask, word16_overlay (by omega)]
    rfl
  have hcount : asInt (responseLengthMask s.rbuffer.bytes) - 12 = (4 * r.nparams : Nat) := by
    have hmask : responseLengthMask s.rbuffer.bytes = responseLengthMask r.transfer.bytes := by
      rw [h, responseLengthMask, word32_overlay (by omega)]
      rfl
    have hdeclared := r.declared
    rw [hmask, asInt_of_lt (by omega), hdeclared, hlen]
    omega
  have hparams : (s.rbuffer.bytes.drop headerLen).take (4 * r.nparams) = r.params := by
    rw [h, List.take_drop, show headerLen + 4 * r.nparams = r.transfer.bytes.length from hlen.symm,
      take_overlay (Nat.le_refl _), List.take_length]
    rfl
  unfold responseBlock
  cases hr : s.rparams with
  | none => simp [hcode]
  | some p =>
    simp only [hcount, Int.toNat_natCast, hparams, hcode]
    rw [dif_pos (by omega)]
    rfl

/-- The variables of `__send_request` after it received an answer. -/
structure Answer.Received (a : Answer) (frame : Frame) (res : Option PtpRes)
    (rparams : Option PtpResParams) (s : Receiver) : Prop where
  data : s.data.bytes = overlay a.stream frame.rstream.bytes
  res : s.res = res.map fun res =>
    { length := (a.data.map DataContainer.length).getD res.length
      code := responseCodeMask a.response.transfer.bytes }
  rparams : s.rparams = rparams.map a.response.store

/-- **The receive loops on an answer** consume all its transfers and leave with its contents. -/
theorem receiver_answer (frame : Frame) (res : Option PtpRes) (rparams : Option PtpResParams)
    (a : Answer) :
    ∃ s, drive receiveRound (Receiver.start frame res rparams) (a.transfers.map .got)
      = .left (.ok s) [] ∧ a.Received frame res rparams s := by
  obtain ⟨c, hc, -, hstream, hlength, old, hrbuffer⟩ := drive_answer frame a
  obtain ⟨r, hs, s, htracks, hr⟩ := receiver_responds frame res rparams hc
    (by rw [hstream]; exact a.stream_length_le)
  rw [responseBlock_container (by rw [htracks.rbuffer, hrbuffer])] at hr
  cases hr
  refine ⟨_, hs, ?_, ?_, ?_⟩
  · rw [htracks.data, hstream]
  · rw [htracks.res, hlength, Option.map_map]
    rfl
  · rw [htracks.rparams]

/-! ## One call -/

/-- One call of a run, and the device's answer to it. -/
structure Exchange where
  call : PtpCall
  env : Env
  out : Out
  answer : Answer

/-- What the caller owes: a result structure, and a data buffer of `len` bytes only for a request
that is answered with data. -/
structure Exchange.Proper (x : Exchange) : Prop where
  res : x.out.res.isSome
  data : ∀ data ∈ (x.call.pointers x.out).data,
    x.answer.data.isSome ∧ x.out.len.toNat ≤ data.length

/-- The caller's memory after the call: the code is that of the response, the length and the
bytes copied out are those of the data container, and the parameters those of the response. -/
def Exchange.reply (x : Exchange) : Out where
  data := x.out.data.map fun data =>
    if x.call.takesData then
      overlay (x.answer.stream.take (min x.out.len.toNat x.answer.stream.length)) data
    else
      data
  len := x.out.len
  res := x.out.res.map fun res =>
    { length := (x.answer.data.map DataContainer.length).getD res.length
      code := responseCodeMask x.answer.response.transfer.bytes }
  rparams := x.out.rparams.map fun p =>
    if x.call.takesParams then x.answer.response.store p else p

def Exchange.exec (dev : PtpDev) (x : Exchange) (bus : Bus) (reply : Int × Out) (bus' : Bus) :
    Prop :=
  x.call.exec dev x.env x.out bus = .ok reply bus'

theorem Exchange.merge_rparams (x : Exchange) :
    ((x.call.pointers x.out).rparams.map x.answer.response.store <|> x.out.rparams)
      = x.reply.rparams := by
  unfold PtpCall.pointers Exchange.reply
  cases x.out.rparams <;> cases x.call.takesParams <;> rfl

theorem Exchange.reply_data_of_none {x : Exchange} (h : (x.call.pointers x.out).data = none) :
    x.reply.data = x.out.data := by
  unfold PtpCall.pointers at h
  unfold Exchange.reply
  cases hd : x.out.data <;> cases ht : x.call.takesData <;> simp_all

theorem Exchange.finish_answered {x : Exchange} (hx : x.Proper) {s : Receiver}
    (hs : x.answer.Received (x.call.frame x.env) x.out.res (x.call.pointers x.out).rparams s) :
    ∃ o, finish (x.call.pointers x.out) s = .ok o ∧ x.out.merge (0, o) = (0, x.reply) := by
  obtain ⟨res, hres⟩ := Option.isSome_iff_exists.mp hx.res
  have hparams := x.merge_rparams
  rw [← hs.rparams] at hparams
  cases hd : (x.call.pointers x.out).data with
  | none =>
    refine ⟨_, finish_none hd, ?_⟩
    simp only [Out.merge, hparams, hd, hs.res, ← x.reply_data_of_none hd]
    rfl
  | some data =>
    obtain ⟨hsome, hlen⟩ := hx.data data hd
    obtain ⟨d, had⟩ := Option.isSome_iff_exists.mp hsome
    obtain ⟨htakes, hout⟩ := PtpCall.pointers_data_iff.mp hd
    have hstream : x.answer.stream = d.bytes := by
      simp only [Answer.stream, had]
    have hcopy : copyResponse s.data data (x.call.pointers x.out).len s.res
        = .ok (overlay (d.bytes.take (min x.out.len.toNat d.bytes.length)) data) := by
      have hpl : (x.call.pointers x.out).len = x.out.len := by
        simp [PtpCall.pointers, htakes]
      rw [hpl, hs.res, hres, had]
      exact copyOut_stream (hstream ▸ hs.data) d.declared (x.answer.data_le d had) hlen
    refine ⟨_, finish_some hd hcopy, ?_⟩
    have hreply : (some (overlay (d.bytes.take (min x.out.len.toNat d.bytes.length)) data)
        <|> x.out.data) = x.reply.data := by
      simp [Exchange.reply, hout, htakes, hstream]
    simp only [Out.merge, hparams, hs.res, hreply]
    rfl

/-- **One call.** On a bus that starts with the transfers of its answer it returns `0`, leaves
the contents of the answer in the caller's memory, and leaves all further transfers. -/
theorem Exchange.exec_answered (dev : PtpDev) {x : Exchange} (hx : x.Proper) {bus : Bus}
    {rest : List RecvResult} (hsends : bus.SendsSucceed)
    (hrecvs : bus.recvs = x.answer.transfers.map .got ++ rest) :
    ∃ bus', x.exec dev bus (0, x.reply) bus' ∧ bus'.SendsSucceed ∧ bus'.recvs = rest := by
  obtain ⟨s, hdrive, hreceived⟩ := receiver_answer (x.call.frame x.env) x.out.res
    (x.call.pointers x.out).rparams x.answer
  obtain ⟨o, hfinish, hreply⟩ := x.finish_answered hx hreceived
  refine ⟨(x.call.sent dev x.env bus).afterRecvs dev.fd dev.endp rest, ?_, ?_, rfl⟩
  · refine (PtpCall.exec_ok _ _ _ (.of_sendsSucceed hsends x.call)).mpr
      ⟨s, rest, o, ?_, hfinish, hreply.symm, rfl⟩
    rw [hrecvs, PtpCall.start, drive_append, hdrive]
    rfl
  · exact PtpCall.sent_sendsSucceed hsends dev x.env x.call

/-! ## Whole runs -/

/-- **Reassembly over whole runs.** A device answers each call of a sequence in turn; the
transfers of the answers, and whatever comes behind them, are what the receives deliver. Then the
calls make a run, and in every run of theirs each call returns `0` with the contents of its own
answer in the caller's memory, consumes exactly the transfers of that answer, and the transfers
behind the answers are left. -/
theorem reassembly_over_runs (dev : PtpDev) (xs : List Exchange) (bus : Bus)
    (tail : List RecvResult) (hsends : bus.SendsSucceed) (hproper : ∀ x ∈ xs, x.Proper)
    (hrecvs : bus.recvs = xs.flatMap (fun x => x.answer.transfers.map .got) ++ tail) :
    (∃ log t, Runs (Exchange.exec dev) bus log t ∧ log.map Entry.call = xs)
    ∧ ∀ log t, Runs (Exchange.exec dev) bus log t → log.map Entry.call = xs →
        t.recvs = tail ∧ ∀ e ∈ log, e.result = (0, e.call.reply)
          ∧ e.before.recvs = e.call.answer.transfers.map .got ++ e.after.recvs := by
  obtain ⟨log, t, hruns, hcalls, hlog, -, htail, -⟩ := exists_runs
    (Exchange.exec dev)
    (fun xs (bus : Bus) => bus.SendsSucceed
      ∧ bus.recvs = xs.flatMap (fun x => x.answer.transfers.map .got) ++ tail
      ∧ ∀ x ∈ xs, x.Proper)
    (P := fun e => e.result = (0, e.call.reply)
      ∧ e.before.recvs = e.call.answer.transfers.map .got ++ e.after.recvs)
    (fun x xs bus ⟨hsends, hrecvs, hproper⟩ => by
      rw [List.flatMap_cons, List.append_assoc] at hrecvs
      obtain ⟨bus', hexec, hsends', hrest⟩ := x.exec_answered dev
        (hproper x List.mem_cons_self) hsends hrecvs
      exact ⟨_, bus', hexec, ⟨rfl, by rw [hrecvs, hrest]⟩, hsends', hrest,
        fun y hy => hproper y (List.mem_cons_of_mem _ hy)⟩)
    xs ⟨hsends, hrecvs, hproper⟩
  refine ⟨⟨log, t, hruns, hcalls⟩, fun log' t' hruns' hcalls' => ?_⟩
  -- the run that was found is the only one
  have hdet : ∀ (k : Exchange) s r s' q s'', k.exec dev s r s' → k.exec dev s q s'' →
      r = q ∧ s' = s'' := by
    intro k s r s' q s'' h h'
    rw [Exchange.exec, h] at h'
    cases h'
    exact ⟨rfl, rfl⟩
  obtain ⟨rfl, rfl⟩ := hruns.unique hdet hruns' (hcalls.trans hcalls'.symm)
  exact ⟨by simpa using htail, hlog⟩

/-! ### A run of two calls -/

def sampleDataHeader : Transfer := ⟨[16, 0, 0, 0, 2, 0, 9, 0x10, 1, 0, 0, 0], by decide⟩

/-- An `OK` response to the transaction with id 1. -/
def sampleResponse : Transfer := ⟨[12, 0, 0, 0, 3, 0, 1, 0x20, 1, 0, 0, 0], by decide⟩

def sampleEvent : OtherContainer :=
  ⟨⟨[12, 0, 0, 0, 4, 0, 2, 0x40, 1, 0, 0, 0], by decide⟩, by decide, by decide, by decide⟩

/-- A 16-byte data container in three transfers between two event containers, and an `OK`. -/
def sampleAnswer : Answer where
  before := [sampleEvent]
  data := some
    { first := sampleDataHeader
      rest := [⟨[0xAA], by decide⟩, ⟨[0xBB, 0xCC, 0xDD], by decide⟩]
      header_le := by decide
      nonempty := by decide
      isData := by decide
      declared := by decide }
  between := [sampleEvent]
  response :=
    { transfer := sampleResponse
      nparams := 0
      nparams_le := by decide
      length_eq := by decide
      declared := by decide
      isResponse := by decide }
  data_le := by rintro d ⟨⟩; decide

/-- `ptp_get_object` into fourteen bytes, answered by `sampleAnswer`. -/
def sampleExchange : Exchange where
  call := .getObject 7
  env := .zero
  out := ⟨some (List.replicate 14 0), 14, some ⟨0, 0⟩, none⟩
  answer := sampleAnswer

theorem reassembly_of_two_calls :
    ∃ log t, Runs (Exchange.exec ⟨3, 1⟩)
        (.answering ((sampleAnswer.transfers ++ sampleAnswer.transfers).map .got ++ [.failed]))
        log t
      ∧ log.map Entry.call = [sampleExchange, sampleExchange] := by
  refine (reassembly_over_runs ⟨3, 1⟩ [sampleExchange, sampleExchange] _ [.failed]
    (Bus.answering_sendsSucceed _) ?_ rfl).1
  intro x hx
  obtain rfl : x = sampleExchange := by simpa using hx
  refine ⟨rfl, ?_⟩
  rintro data hdata
  cases hdata
  exact ⟨rfl, by decide⟩

end Droidbox.Ptp
