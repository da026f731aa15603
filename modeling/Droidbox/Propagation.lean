import Droidbox.Adb.Delivery
import Droidbox.Ptp.Outcome
import Droidbox.Ptp.Phases
import Droidbox.Usb.Completion

/-!
# Droidbox — what becomes of transfer errors

An operation learns of a URB that went wrong through what `usb_bulk_send` and `usb_bulk_recv`
return. A negative value stops an `adb_*` operation, and a `ptp_*` operation when it is that of a
send; any other value counts as success, whatever it is.

* **`drive_reports`**: the ADB receive loop leaves with `-1` exactly on a failed receive.
* **`PtpCall.exec_reports`**, **`AdbCall.exec_reports`**: which bulk calls an operation answers
  with `-1`.
* **`Operation.propagates_iff`**: so errors propagate exactly when one of these fails, or when
  there are none.
-/

namespace Droidbox

open Scripted

/-! ## Operations -/

/-- An operation of either protocol, with all it is given. -/
inductive Operation where
  | ptp (dev : Ptp.PtpDev) (env : Ptp.Env) (out : Ptp.Out) (c : Ptp.PtpCall)
  | adb (dev : Adb.AdbDev) (env : Adb.Env) (out : Adb.Out) (c : Adb.AdbCall)

/-- The value that is returned, if the run comes to that. -/
def returned {α : Type} : EStateM.Result Halt Bus (Int × α) → Option Int
  | .ok reply _ => some reply.1
  | .error _ _ => none

def Operation.result (op : Operation) (k : Completions) : Option Int :=
  match op with
  | .ptp dev env out c => returned (c.exec dev env out k.bus)
  | .adb dev env out c => returned (c.exec dev env out k.bus)

/-- The bulk calls it made. -/
def Operation.trace (op : Operation) (k : Completions) : List Event :=
  match op with
  | .ptp dev env out c => (finalBus (c.exec dev env out k.bus)).trace
  | .adb dev env out c => (finalBus (c.exec dev env out k.bus)).trace

/-- The URBs it submitted. -/
def Operation.submitted (op : Operation) (k : Completions) : List Completed :=
  k.submitted (op.trace k)

/-- **Errors and short writes propagate**: success means that every URB went well, and a URB that
did not makes the operation return `-1`. -/
structure Operation.Propagates (op : Operation) (k : Completions) : Prop where
  success : op.result k = some 0 → ∀ u ∈ op.submitted k, u.Good
  failure : (∃ u ∈ op.submitted k, ¬ u.Good) → op.result k = some (-1)

/-! ## Reports -/

def Event.SendFailed : Event → Prop
  | .send _ _ _ r => r = .failed
  | .recv _ _ _ => False

def Event.Failed : Event → Prop
  | .send _ _ _ r => r = .failed
  | .recv _ _ r => r = .failed

/-- The failed bulk calls an operation answers with `-1`. -/
def Operation.Reported : Operation → Event → Prop
  | .ptp _ _ _ _ => Event.SendFailed
  | .adb _ _ _ _ => Event.Failed

/-- A run from `bus` that made bulk calls returns `-1` exactly when one of them is `reported`. -/
def Reports {α : Type} (reported : Event → Prop) (bus : Bus)
    (run : EStateM.Result Halt Bus (Int × α)) : Prop :=
  ∃ calls, (finalBus run).trace = bus.trace ++ calls
    ∧ (returned run = some (-1) ∧ calls ≠ [] ↔ ∃ e ∈ calls, reported e)

theorem Reports.of_failed {α : Type} {reported : Event → Prop} {bus : Bus}
    {run : EStateM.Result Halt Bus (Int × α)} {calls : List Event} {e : Event}
    (htrace : (finalBus run).trace = bus.trace ++ calls) (hrun : returned run = some (-1))
    (he : e ∈ calls) (hreported : reported e) : Reports reported bus run :=
  ⟨calls, htrace, fun _ => ⟨e, he, hreported⟩, fun _ => ⟨hrun, List.ne_nil_of_mem he⟩⟩

theorem Reports.of_succeeded {α : Type} {reported : Event → Prop} {bus : Bus}
    {run : EStateM.Result Halt Bus (Int × α)} {calls : List Event}
    (htrace : (finalBus run).trace = bus.trace ++ calls) (hrun : returned run ≠ some (-1))
    (hnone : ∀ e ∈ calls, ¬ reported e) : Reports reported bus run :=
  ⟨calls, htrace, fun h => absurd h.1 hrun, fun ⟨e, he, h⟩ => absurd h (hnone e he)⟩

theorem returned_ne_neg {α : Type} {run : EStateM.Result Halt Bus (Int × α)}
    (h : ∀ reply bus', run = .ok reply bus' → reply.1 = 0) : returned run ≠ some (-1) := by
  cases run with
  | error halt bus' => exact nofun
  | ok reply bus' =>
    intro hneg
    have hzero := h reply bus' rfl
    rw [show reply.1 = -1 from Option.some.inj hneg] at hzero
    cases hzero

/-! ## PTP: sends -/

namespace Ptp

/-- **What a PTP operation reports.** A failed send, and nothing else. -/
theorem PtpCall.exec_reports (dev : PtpDev) (env : Env) (out : Out) (c : PtpCall) (bus : Bus) :
    Reports Event.SendFailed bus (c.exec dev env out bus) := by
  by_cases hd : c.Delivered bus
  · obtain ⟨recvs, htrace⟩ := PtpCall.trace_delivered dev env out hd
    rw [PtpCall.sent_trace_allSends, List.append_assoc] at htrace
    refine .of_succeeded htrace ?_ ?_
    · exact returned_ne_neg fun reply bus' hrun => PtpCall.delivered_return hd hrun
    · intro e he
      simp only [usbCalls, List.map_nil, List.append_nil, List.mem_append, List.mem_map] at he
      rcases he with ⟨p, hp, rfl⟩ | ⟨r, -, rfl⟩
      · obtain ⟨i, hi, hr⟩ := PtpCall.mem_allSends hp
        exact fun h => hd i hi (hr.symm.trans h)
      · exact id
  · obtain ⟨bus', hexec, -, hcases⟩ := PtpCall.exec_undelivered dev env out hd
    rw [hexec]
    rcases hcases with ⟨h0, rfl⟩ | ⟨h0, h1, rfl⟩
    · exact .of_failed rfl rfl List.mem_cons_self h0
    · obtain ⟨h, hc⟩ := PtpCall.dataHeader_of_undelivered env hd h0
      exact .of_failed (PtpCall.sent_trace_two hc bus) rfl (List.mem_cons_of_mem _
        List.mem_cons_self) h1

end Ptp

/-! ## ADB: sends and receives -/

namespace Adb

variable {dev : AdbDev} {env : Env} {msg : AdbMessage} {out : Out} {bus : Bus} {s s' : Receiver}

/-- A transfer never makes the loop leave with `-1`. -/
theorem receiveRound_got {t : Transfer} {ret : Int}
    (h : receiveRound s (.got t) = .leave (.ok (ret, s'))) : ret = 0 := by
  unfold receiveRound at h
  dsimp only at h
  split at h
  · rename_i hneg
    rw [usbBulkRecv_got_fst] at hneg
    omega
  · split at h
    · cases h
    · split at h
      · cases h
        rfl
      · split at h
        · cases h
        · cases h
          rfl

/-- The loop waits only behind transfers. -/
theorem drive_starved_got {used : List RecvResult}
    (h : drive receiveRound s used = .starved s') : ∀ r ∈ used, r ≠ .failed := by
  induction used generalizing s with
  | nil => exact fun r hr => absurd hr List.not_mem_nil
  | cons r used ih =>
    cases r with
    | failed => cases h
    | got t =>
      cases hround : receiveRound s (.got t) with
      | leave result =>
        rw [drive_cons_leave hround] at h
        cases h
      | again u =>
        rw [drive_cons_again hround] at h
        exact List.forall_mem_cons.mpr ⟨nofun, ih h⟩

/-- **The receive loop leaves with `-1` exactly on a failed receive**, and with `0` otherwise. -/
theorem drive_reports {script rest : List RecvResult} {r : Except Fault (Int × Receiver)}
    (h : drive receiveRound s script = .left r rest) :
    ∃ used, script = used ++ rest
      ∧ ((∃ s', r = .ok (-1, s')) ∧ .failed ∈ used
        ∨ (∀ ret s', r = .ok (ret, s') → ret = 0) ∧ ∀ r ∈ used, r ≠ .failed) := by
  obtain ⟨used, i, s₁, rfl, hused, hlast⟩ := drive_left_iff.mp h
  refine ⟨used ++ [i], by simp, ?_⟩
  cases i with
  | failed =>
    cases hlast
    exact .inl ⟨⟨_, rfl⟩, by simp⟩
  | got t =>
    refine .inr ⟨?_, ?_⟩
    · rintro ret s' rfl
      exact receiveRound_got hlast
    · rw [List.forall_mem_append, List.forall_mem_singleton]
      exact ⟨drive_starved_got hused, nofun⟩

/-- Behind a loop that left with `0` a request returns `0`, if it returns. -/
theorem finish_zero {reply : Int × Out} (h : finish out 0 s = .ok reply) : reply.1 = 0 := by
  unfold finish at h
  rw [if_neg (by decide)] at h
  split at h
  · cases h
    rfl
  · split at h
    · cases h
    · cases h
      rfl

theorem returned_conclude_zero : returned (conclude out (0, s) bus) ≠ some (-1) := by
  refine returned_ne_neg fun reply bus' hrun => ?_
  unfold conclude at hrun
  cases hfinish : finish out 0 s with
  | error f =>
    rw [hfinish] at hrun
    cases hrun
  | ok reply' =>
    rw [hfinish] at hrun
    cases hrun
    exact finish_zero hfinish

/-- The receives of a message whose sends succeed. -/
theorem handleRequest_receives (dev : AdbDev) (out : Out) (ha : msg.Allocated env)
    (hb : msg.Buffered) (hd : msg.Delivered bus) :
    ∃ used : List RecvResult, (finalBus (handleRequest dev env msg out bus)).trace
        = (msg.sent dev bus).trace ++ used.map (Event.recv dev.fd dev.in_endp)
      ∧ (returned (handleRequest dev env msg out bus) = some (-1) ∧ .failed ∈ used
        ∨ returned (handleRequest dev env msg out bus) ≠ some (-1) ∧ ∀ r ∈ used, r ≠ .failed) := by
  rw [handleRequest_delivered ha hb hd, finalBus_bind (finalBus_conclude out)]
  cases hdrive : drive receiveRound (Receiver.start env) (msg.sent dev bus).recvs with
  | starved s =>
    rw [usb_bind_error (recvLoop_starved hdrive), recvLoop_starved hdrive]
    exact ⟨(msg.sent dev bus).recvs, afterRecvs_trace (List.append_nil _).symm _ _,
      .inr ⟨nofun, drive_starved_got hdrive⟩⟩
  | left r rest =>
    obtain ⟨used, hused, hreports⟩ := drive_reports hdrive
    cases r with
    | error f =>
      rw [usb_bind_error (recvLoop_fault hdrive), recvLoop_fault hdrive]
      refine ⟨used, afterRecvs_trace hused _ _, ?_⟩
      rcases hreports with ⟨⟨_, h⟩, -⟩ | ⟨-, hnone⟩
      · cases h
      · exact .inr ⟨nofun, hnone⟩
    | ok p =>
      have hloop : recvLoop dev.fd dev.in_endp receiveRound (Receiver.start env)
          (msg.sent dev bus) = .ok p ((msg.sent dev bus).afterRecvs dev.fd dev.in_endp rest) :=
        recvLoop_ok_iff.mpr ⟨rest, hdrive, rfl⟩
      rw [usb_bind_ok hloop, hloop]
      refine ⟨used, afterRecvs_trace hused _ _, ?_⟩
      obtain ⟨ret, s⟩ := p
      rcases hreports with ⟨⟨s', h⟩, hfailed⟩ | ⟨hret, hnone⟩
      · cases h
        exact .inl ⟨rfl, hfailed⟩
      · obtain rfl := hret ret s rfl
        exact .inr ⟨returned_conclude_zero, hnone⟩

/-- **What an ADB operation reports.** Every failed bulk call. -/
theorem AdbCall.exec_reports (dev : AdbDev) (env : Env) (out : Out) (c : AdbCall) (bus : Bus) :
    Reports Event.Failed bus (c.exec dev env out bus) := by
  rw [AdbCall.exec_eq]
  generalize c.message = msg
  by_cases ha : msg.Allocated env
  · by_cases hb : msg.Buffered
    · by_cases hd : msg.Delivered bus
      · obtain ⟨sent, -, hresults, hsent⟩ := msg.sent_trace dev bus
        obtain ⟨used, htrace, hcases⟩ := handleRequest_receives dev out ha hb hd
        rw [hsent, List.append_assoc] at htrace
        have hsends : ∀ p ∈ sent, p.2 ≠ .failed := by
          intro p hp
          obtain ⟨i, hi, hr⟩ := hresults p hp
          rw [hr]
          exact hd i hi
        rcases hcases with ⟨hrun, hfailed⟩ | ⟨hrun, hnone⟩
        · exact .of_failed htrace hrun
            (List.mem_append_right _ (List.mem_map_of_mem hfailed)) rfl
        · refine .of_succeeded htrace hrun fun e he => ?_
          rcases List.mem_append.mp he with he | he
          · obtain ⟨p, hp, rfl⟩ := List.mem_map.mp he
            exact hsends p hp
          · obtain ⟨r, hr, rfl⟩ := List.mem_map.mp he
            exact hnone r hr
      · obtain ⟨bus', hexec, -, sent, htrace, p, hp, hfailed⟩ :=
          handleRequest_undelivered dev hb hd
        rw [hexec env out ha]
        exact .of_failed htrace rfl (List.mem_map_of_mem hp) hfailed
    · obtain ⟨f, hexec⟩ := handleRequest_unbuffered dev out bus ha hb
      rw [hexec]
      exact .of_succeeded (List.append_nil _).symm nofun fun e he => absurd he List.not_mem_nil
  · -- nothing was submitted, whatever it returns
    have hbus : finalBus (handleRequest dev env msg out bus) = bus := by
      rcases handleRequest_unallocated dev out bus ha with hexec | ⟨-, hexec⟩ <;> rw [hexec] <;> rfl
    exact ⟨[], by rw [hbus, List.append_nil], by simp⟩

end Adb

/-! ## Both protocols -/

/-- **An operation that made bulk calls returns `-1` exactly when it reports one of them.** -/
theorem Operation.result_neg_iff (op : Operation) (k : Completions) :
    op.result k = some (-1) ∧ op.trace k ≠ [] ↔ ∃ e ∈ op.trace k, op.Reported e := by
  cases op with
  | ptp dev env out c =>
    obtain ⟨calls, htrace, h⟩ := Ptp.PtpCall.exec_reports dev env out c k.bus
    rw [show (Operation.ptp dev env out c).trace k = calls from htrace]
    exact h
  | adb dev env out c =>
    obtain ⟨calls, htrace, h⟩ := Adb.AdbCall.exec_reports dev env out c k.bus
    rw [show (Operation.adb dev env out c).trace k = calls from htrace]
    exact h

/-- **When errors propagate.** Exactly when a bulk call fails that the operation reports, or when
every URB it submits goes well. -/
theorem Operation.propagates_iff (op : Operation) (k : Completions) :
    op.Propagates k ↔ (∃ e ∈ op.trace k, op.Reported e) ∨ ∀ u ∈ op.submitted k, u.Good := by
  constructor
  · intro h
    by_cases hgood : ∀ u ∈ op.submitted k, u.Good
    · exact .inr hgood
    · push Not at hgood
      obtain ⟨u, hu, hbad⟩ := hgood
      refine .inl ((op.result_neg_iff k).mp ⟨h.failure ⟨u, hu, hbad⟩, fun hnil => ?_⟩)
      -- a run without calls submits nothing
      rw [Operation.submitted, hnil] at hu
      cases hu
  · rintro (hreported | hgood)
    · obtain ⟨hneg, -⟩ := (op.result_neg_iff k).mpr hreported
      exact ⟨fun hzero => absurd (hneg.symm.trans hzero) (by decide), fun _ => hneg⟩
    · exact ⟨fun _ => hgood, fun ⟨u, hu, hbad⟩ => absurd (hgood u hu) hbad⟩

/-- `ptp_open_session`, answered with success. -/
def sampleStalled : Operation :=
  .ptp ⟨3, 1⟩ .zero ⟨none, 0, some ⟨0, 0⟩, none⟩ (.openSession 1)

/-- `adb_ready`, answered with success. -/
def sampleShort : Operation := .adb ⟨3, 0x81, 1⟩ .zero ⟨none, 0, ⟨0, 0⟩⟩ (.ready 1 2)

/-- The command of the first stalls, and of the header of the second only 10 bytes are sent. -/
theorem errors_not_propagated :
    ¬ sampleStalled.Propagates ⟨fun _ => .reaped (-32) 0, [.reaped 0 Ptp.sampleResponse]⟩
      ∧ ¬ sampleShort.Propagates ⟨fun _ => .reaped 0 10, [.reaped 0 Adb.sampleOkay]⟩ := by
  constructor
  · intro h
    have hgood := h.success rfl (.sent 16 (-32) 0) (List.mem_of_elem_eq_true rfl)
    exact absurd hgood (by decide)
  · intro h
    have hgood := h.success rfl (.sent 24 0 10) (List.mem_of_elem_eq_true rfl)
    exact absurd hgood (by decide)

end Droidbox
