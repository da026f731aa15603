import Droidbox.Ptp.Reassembly

/-!
# Droidbox — what the return value of a PTP call says

`__send_request` returns `-1` for a failed send and `0` in every other case: it does not look at
the result of `usb_bulk_recv`, and it does not look at the transaction id of a container.

* **`receiveRound_failed_data`**, **`receiveRound_failed_other`**: after a failed receive the
  loops act on what the receive buffer held before.
* **`PtpCall.failed_recv_not_reported`**: no failed receive makes a call return `-1`.
* **`PtpCall.exec_returned`**: what a call that returned `0` received last.
* **`success_over_runs`**: what success says in any run, whatever the device sends.
-/

namespace Droidbox.Ptp

open LittleEndian Scripted Session

variable {dev : PtpDev} {env : Env} {out : Out} {c : PtpCall}

/-! ## Failed receives -/

/-- A failed receive in the middle of a data container, or after a data container's header was
received last, is a copy of `-1` bytes. -/
theorem receiveRound_failed_data {s : Receiver}
    (h : s.loop ≠ .outer ∨ responseTypeMask s.rbuffer.bytes = ptpContainerTypeDataBlock) :
    receiveRound s .failed = .leave (.error (.write .rstream s.offset (-1))) := by
  have hcopy : ∀ data_len, copyBlock s data_len (-1)
      = .leave (.error (.write .rstream s.offset (-1))) := by
    intro data_len
    unfold copyBlock
    rw [copyIn_beyond (.inl (by omega))]
  obtain ⟨loop, rbuffer, data, offset, res, rparams⟩ := s
  cases loop with
  | inner data_len => exact hcopy data_len
  | outer =>
    -- the stale buffer still shows a data container
    rcases h with h | h
    · exact absurd rfl h
    · exact (if_pos h).trans (hcopy _)

/-- After any other container a failed receive changes nothing. -/
theorem receiveRound_failed_other {s : Receiver} (hloop : s.loop = .outer)
    (hdata : responseTypeMask s.rbuffer.bytes ≠ ptpContainerTypeDataBlock)
    (hresponse : responseTypeMask s.rbuffer.bytes ≠ ptpContainerTypeResponseBlock) :
    receiveRound s .failed = .again s := by
  simp only [receiveRound, usbBulkRecv_failed, hloop, hdata, hresponse, if_false]
  rw [← hloop]

theorem drive_failed_other {s : Receiver} (hloop : s.loop = .outer)
    (hdata : responseTypeMask s.rbuffer.bytes ≠ ptpContainerTypeDataBlock)
    (hresponse : responseTypeMask s.rbuffer.bytes ≠ ptpContainerTypeResponseBlock) (k : Nat) :
    drive receiveRound s (List.replicate k .failed) = .starved s := by
  induction k with
  | zero => rfl
  | succ k ih =>
    rw [List.replicate_succ, drive_cons_again (receiveRound_failed_other hloop hdata hresponse), ih]

/-- A call whose sends succeed never returns `-1`. -/
theorem PtpCall.delivered_return {bus bus' : Bus} {reply : Int × Out} (hd : c.Delivered bus)
    (h : c.exec dev env out bus = .ok reply bus') : reply.1 = 0 := by
  obtain ⟨s, rest, o, -, -, rfl, -⟩ := (PtpCall.exec_ok dev env out hd).mp h
  rfl

/-- The call returns `-1` and leaves the caller's data buffer as it was. -/
def PtpCall.ReportsFailure (dev : PtpDev) (env : Env) (out : Out) (c : PtpCall) (bus : Bus) :
    Prop :=
  ∃ out' bus', c.exec dev env out bus = .ok (-1, out') bus' ∧ out'.data = out.data

/-- **A failed receive is never reported.** The receives `pre` leave the loops waiting in state
`s`, and the next one fails. In the middle of a data container, or when a data container was
received last, `-1` is used as a copy length; after any other container but a response the
failure is passed over, and if every further receive fails as well the call never returns. -/
theorem PtpCall.failed_recv_not_reported (dev : PtpDev) (env : Env) (out : Out) (c : PtpCall)
    (bus : Bus) (pre post : List RecvResult) (s : Receiver) (hsends : bus.SendsSucceed)
    (hrecvs : bus.recvs = pre ++ .failed :: post)
    (hwaits : drive receiveRound (c.start env out) pre = .starved s) :
    ¬ c.ReportsFailure dev env out bus
    ∧ (s.loop ≠ .outer ∨ responseTypeMask s.rbuffer.bytes = ptpContainerTypeDataBlock →
        ∃ bus', c.exec dev env out bus = .error (.fault (.write .rstream s.offset (-1))) bus')
    ∧ (s.loop = .outer → responseTypeMask s.rbuffer.bytes ≠ ptpContainerTypeDataBlock →
        responseTypeMask s.rbuffer.bytes ≠ ptpContainerTypeResponseBlock →
        ∀ k, post = List.replicate k .failed →
          ∃ bus', c.exec dev env out bus = .error .blocked bus') := by
  have hd := PtpCall.Delivered.of_sendsSucceed hsends c
  refine ⟨?_, fun h => ?_, fun hloop hdata hresponse k hpost => ?_⟩
  · rintro ⟨out', bus', h, -⟩
    have hret := PtpCall.delivered_return hd h
    cases hret
  · refine (PtpCall.exec_fault dev env out hd).mpr (.inl ⟨post, ?_⟩)
    rw [hrecvs, drive_append_starved hwaits, drive_cons_leave (receiveRound_failed_data h)]
  · refine ⟨_, PtpCall.exec_blocked dev env out hd (s := s) ?_⟩
    rw [hrecvs, drive_append_starved hwaits, hpost]
    exact drive_failed_other hloop hdata hresponse (k + 1)

theorem getObject_waits_through_failures :
    ∃ bus', (PtpCall.getObject 7).exec ⟨3, 1⟩ .zero ⟨none, 0, some ⟨0, 0⟩, none⟩
      (.answering [.failed, .failed, .failed]) = .error .blocked bus' :=
  (PtpCall.failed_recv_not_reported ⟨3, 1⟩ .zero ⟨none, 0, some ⟨0, 0⟩, none⟩ (.getObject 7)
    _ [] [.failed, .failed] _ (Bus.answering_sendsSucceed _) rfl rfl).2.2 rfl (by decide)
    (by decide) 2 rfl

/-- A receive that fails behind the header of a data container: the call copies `-1` bytes to
offset 12 and reports nothing. -/
theorem getObject_copies_minus_one :
    (∃ bus', (PtpCall.getObject 7).exec ⟨3, 1⟩ .zero ⟨none, 0, some ⟨0, 0⟩, none⟩
      (.answering [.got sampleDataHeader, .failed])
        = .error (.fault (.write .rstream 12 (-1))) bus')
    ∧ ¬ (PtpCall.getObject 7).ReportsFailure ⟨3, 1⟩ .zero ⟨none, 0, some ⟨0, 0⟩, none⟩
      (.answering [.got sampleDataHeader, .failed]) := by
  have hd := PtpCall.Delivered.of_sendsSucceed
    (Bus.answering_sendsSucceed [.got sampleDataHeader, .failed]) (.getObject 7)
  constructor
  · exact (PtpCall.exec_fault _ _ _ hd).mpr (.inl ⟨[], rfl⟩)
  · rintro ⟨out', bus', h, -⟩
    have hret := PtpCall.delivered_return hd h
    cases hret

/-! ## Successful calls -/

theorem copyBlock_ne_left (s s' : Receiver) (data_len : UInt32) (recv_bytes : Int) :
    copyBlock s data_len recv_bytes ≠ .leave (.ok s') := by
  intro h
  unfold copyBlock at h
  split at h
  · cases h
  · dsimp only at h
    split at h <;> cases h

theorem copyBlock_res_isSome {s s' : Receiver} {data_len : UInt32} {recv_bytes : Int}
    (h : copyBlock s data_len recv_bytes = .again s') : s'.res.isSome = s.res.isSome := by
  unfold copyBlock at h
  split at h
  · cases h
  · dsimp only at h
    split at h
    · cases h
      exact Option.isSome_map
    · cases h; rfl

/-- The loops only leave on a response type in the receive buffer, and then with its code. -/
theorem receiveRound_left {s s' : Receiver} {r : RecvResult}
    (h : receiveRound s r = .leave (.ok s')) :
    responseTypeMask (usbBulkRecv r s.rbuffer).2.bytes = ptpContainerTypeResponseBlock
    ∧ s'.res = s.res.map fun res =>
        { res with code := responseCodeMask (usbBulkRecv r s.rbuffer).2.bytes } := by
  rcases receiveRound_cases s r with ⟨data_len, hr⟩ | ⟨htype, hr⟩ | hr
  · rw [hr] at h
    exact absurd h (copyBlock_ne_left _ _ _ _)
  · refine ⟨htype, ?_⟩
    rw [hr] at h
    unfold responseBlock at h
    dsimp only at h
    split at h
    · cases h; rfl
    · split at h <;> cases h
      rfl
  · rw [hr] at h
    cases h

theorem receiveRound_res_isSome {s s' : Receiver} {r : RecvResult}
    (h : receiveRound s r = .again s') : s'.res.isSome = s.res.isSome := by
  rcases receiveRound_cases s r with ⟨data_len, hr⟩ | ⟨-, hr⟩ | hr
  · rw [hr] at h
    have hcopy := copyBlock_res_isSome h
    exact hcopy
  · obtain ⟨q, hq, -⟩ := responseBlock_leave { s with rbuffer := (usbBulkRecv r s.rbuffer).2 }
    rw [hr, hq] at h
    cases h
  · rw [hr] at h
    cases h
    rfl

/-- **What a call that returned `0` received last.** The receive on which its loops left is its
own; if it delivered the first eight bytes of a container, that container is a response and
`res.code` is its code. -/
theorem PtpCall.exec_returned {bus bus' : Bus} {reply : Int × Out}
    (h : c.exec dev env out bus = .ok reply bus') (hret : reply.1 = 0) (hres : out.res.isSome) :
    ∃ used last, bus.recvs = used ++ last :: bus'.recvs
      ∧ ∀ t, last = .got t → 8 ≤ t.bytes.length →
          responseTypeMask t.bytes = ptpContainerTypeResponseBlock
          ∧ ∃ res, reply.2.res = some res ∧ res.code = responseCodeMask t.bytes := by
  by_cases hd : c.Delivered bus
  · obtain ⟨s, rest, o, hdrive, hfinish, rfl, rfl⟩ := (PtpCall.exec_ok dev env out hd).mp h
    obtain ⟨used, last, s', hscript, hused, hlast⟩ := drive_left_iff.mp hdrive
    refine ⟨used, last, hscript, ?_⟩
    rintro t rfl hlen
    obtain ⟨htype, hcode⟩ := receiveRound_left hlast
    rw [usbBulkRecv_got_snd] at htype hcode
    rw [responseTypeMask, word16_overlay (by omega)] at htype
    -- `res` is written in place all along, so it is still there to take the code
    have hsome : s'.res.isSome = out.res.isSome :=
      drive_invariant (I := fun s => s.res.isSome = out.res.isSome)
        (fun s r s' hs hr => (receiveRound_res_isSome hr).trans hs) rfl hused
    rw [hres] at hsome
    obtain ⟨res, hres'⟩ := Option.isSome_iff_exists.mp hsome
    refine ⟨htype, _, (finish_res hfinish).trans (by rw [hcode, hres']; rfl), ?_⟩
    rw [responseCodeMask, word16_overlay (by omega)]
    rfl
  · -- a call that was not delivered returns `-1`
    obtain ⟨b, hexec, -⟩ := PtpCall.exec_undelivered dev env out hd
    rw [hexec] at h
    cases h
    cases hret

/-! ## Success over runs -/

/-- One call of a run: the operation, its environment and its pointers. -/
structure Invocation where
  call : PtpCall
  env : Env
  out : Out

def Invocation.exec (dev : PtpDev) (x : Invocation) (bus : Bus) (reply : Int × Out) (bus' : Bus) :
    Prop :=
  x.call.exec dev x.env x.out bus = .ok reply bus'

/-- **What success says in any run.** Whatever the sends return and the device delivers, a call
with a result structure that returned `0` received something during that very call, and when the
last of it shows the first eight bytes of a container, that is a response and its code is the
one reported. Nothing is said of its transaction id, which the code never reads. -/
theorem success_over_runs (dev : PtpDev) {bus bus' : Bus}
    {log : List (Entry Invocation Bus (Int × Out))}
    (h : Runs (Invocation.exec dev) bus log bus') :
    ∀ e ∈ log, e.call.out.res.isSome → e.result.1 = 0 →
      ∃ used last, e.before.recvs = used ++ last :: e.after.recvs
        ∧ ∀ t, last = .got t → 8 ≤ t.bytes.length →
            responseTypeMask t.bytes = ptpContainerTypeResponseBlock
            ∧ ∃ res, e.result.2.res = some res ∧ res.code = responseCodeMask t.bytes :=
  h.forall_entry (I := fun _ => True)
    (fun _ _ _ _ _ hexec => ⟨fun hres hret => PtpCall.exec_returned hexec hret hres, trivial⟩)
    trivial

/-! ### A run with an aborted transaction -/

/-- A bus whose second send fails and that delivers the response to transaction 1. -/
def sampleBus : Bus where
  sends := fun i => if i = 1 then .failed else .sent 512
  recvs := [.got sampleResponse]
  trace := []

/-- Transaction 1, whose data container is not delivered. -/
def sampleAborted : Invocation := ⟨.sendObject [] 0, .zero, ⟨none, 0, some ⟨0, 0⟩, none⟩⟩

def sampleClose : Invocation :=
  ⟨.closeSession, { Env.zero with rand := 1 }, ⟨none, 0, some ⟨0, 0⟩, none⟩⟩

/-- Transaction 1 returns `-1`; transaction 2 then returns `0` on the response to transaction 1. -/
theorem sampleRun : ∃ b t,
    Runs (Invocation.exec ⟨3, 1⟩) sampleBus
      [⟨sampleAborted, sampleBus, (-1, sampleAborted.out), b⟩,
        ⟨sampleClose, b, (0, { sampleClose.out with res := some ⟨0, 0x2001⟩ }), t⟩] t
    ∧ b.recvs = [.got sampleResponse] := by
  have hfirst : ∃ b, sampleAborted.exec ⟨3, 1⟩ sampleBus (-1, sampleAborted.out) b
      ∧ b.recvs = [.got sampleResponse] ∧ b.SendsSucceed :=
    ⟨_, rfl, rfl, fun i h => by cases h⟩
  obtain ⟨b, hfirst, hrecvs, hsends⟩ := hfirst
  have hloop : ∃ s, drive receiveRound (sampleClose.call.start sampleClose.env sampleClose.out)
      [.got sampleResponse] = .left (.ok s) [] ∧ s.res = some ⟨0, 0x2001⟩ ∧ s.rparams = none :=
    ⟨_, rfl, rfl, rfl⟩
  obtain ⟨s, hdrive, hres, hrparams⟩ := hloop
  have hsecond := (PtpCall.exec_ok ⟨3, 1⟩ _ _ (.of_sendsSucceed hsends sampleClose.call)).mpr
    ⟨s, [], _, by rw [hrecvs]; exact hdrive, finish_none rfl, rfl, rfl⟩
  rw [hres, hrparams] at hsecond
  exact ⟨b, _, .cons hfirst (.cons hsecond (.nil _)), hrecvs⟩

theorem success_of_sampleClose : ∃ log t, Runs (Invocation.exec ⟨3, 1⟩) sampleBus log t
    ∧ log.map Entry.call = [sampleAborted, sampleClose]
    ∧ ∀ e ∈ log, e.call.out.res.isSome → e.result.1 = 0 →
      ∃ used last, e.before.recvs = used ++ last :: e.after.recvs
        ∧ ∀ t, last = .got t → 8 ≤ t.bytes.length →
            responseTypeMask t.bytes = ptpContainerTypeResponseBlock
            ∧ ∃ res, e.result.2.res = some res ∧ res.code = responseCodeMask t.bytes := by
  obtain ⟨b, t, hruns, -⟩ := sampleRun
  exact ⟨_, t, hruns, rfl, success_over_runs ⟨3, 1⟩ hruns⟩

/-- A call succeeds although no container with its transaction id was received. -/
theorem stale_response_accepted : ∃ log t, Runs (Invocation.exec ⟨3, 1⟩) sampleBus log t
    ∧ ∃ e ∈ log, e.call.out.res.isSome ∧ e.result.1 = 0
      ∧ ∀ u, RecvResult.got u ∈ e.before.recvs →
        transactionIdField u.bytes ≠ e.call.call.transactionId e.call.env := by
  obtain ⟨b, t, hruns, hrecvs⟩ := sampleRun
  have hid : transactionIdField sampleResponse.bytes
      ≠ sampleClose.call.transactionId sampleClose.env := by decide
  refine ⟨_, t, hruns, _, List.mem_cons_of_mem _ List.mem_cons_self, rfl, rfl, fun u hu => ?_⟩
  rw [hrecvs] at hu
  obtain rfl : u = sampleResponse := by simpa using hu
  exact hid

end Droidbox.Ptp
