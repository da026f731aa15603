import Mathlib.Data.List.Forall2
import Droidbox.Ptp.Transaction

/-!
# Droidbox — what of a transfer makes a difference

The receive loops of `lib/ptp/ptp.c` look at the length of a transfer, at the length, type and code
at its front, and at the three words behind a header. The transaction id between them is received
and copied with the rest, but nothing is done because of it.

* **`receiveRound_similar`**: one round on two transfers that differ nowhere else.
* **`PtpCall.exec_similar`**: one call.
* **`runs_of_similar`**: devices that differ nowhere else are talked to in the same way.
-/

namespace Droidbox.Ptp

open LittleEndian Scripted Session

/-! ## Transfers -/

/-- A position in the length, type or code of a container, or in the parameters of a response. -/
def Shows (i : Nat) : Prop := i < 8 ∨ 12 ≤ i ∧ i < 24

/-- Transfers of one length that agree where it shows. -/
structure SimilarTransfer (t u : Transfer) : Prop where
  length : t.bytes.length = u.bytes.length
  shows : ∀ i, Shows i → byteAt t.bytes i = byteAt u.bytes i

inductive SimilarRecv : RecvResult → RecvResult → Prop
  | failed : SimilarRecv .failed .failed
  | got {t u : Transfer} (h : SimilarTransfer t u) : SimilarRecv (.got t) (.got u)

/-- Both fail in the same way, or both succeed with results that are related. -/
inductive SameExcept {ε α : Type} (Q : α → α → Prop) : Except ε α → Except ε α → Prop
  | error (e : ε) : SameExcept Q (.error e) (.error e)
  | ok {a b : α} (h : Q a b) : SameExcept Q (.ok a) (.ok b)

/-! ## The receive loops -/

/-- The same variables, but for what does not show. -/
structure Receiver.Similar (s s' : Receiver) : Prop where
  loop : s.loop = s'.loop
  offset : s.offset = s'.offset
  res : s.res = s'.res
  rparams : s.rparams = s'.rparams
  rbuffer : ∀ i, Shows i → byteAt s.rbuffer.bytes i = byteAt s'.rbuffer.bytes i
  data : ∀ i < 8, byteAt s.data.bytes i = byteAt s'.data.bytes i

theorem Receiver.Similar.refl (s : Receiver) : s.Similar s :=
  ⟨rfl, rfl, rfl, rfl, fun _ _ => rfl, fun _ _ => rfl⟩

section Masks

variable {s t : List UInt8}

theorem responseLengthMask_congr (h : ∀ i < 8, byteAt s i = byteAt t i) :
    responseLengthMask s = responseLengthMask t :=
  word32_congr fun k hk => h (0 + k) (by omega)

theorem responseTypeMask_congr (h : ∀ i < 8, byteAt s i = byteAt t i) :
    responseTypeMask s = responseTypeMask t :=
  word16_congr fun k hk => h (4 + k) (by omega)

theorem responseCodeMask_congr (h : ∀ i < 8, byteAt s i = byteAt t i) :
    responseCodeMask s = responseCodeMask t :=
  word16_congr fun k hk => h (6 + k) (by omega)

end Masks

section Buffers

variable {b b' : Buffer 512} {data data' : Buffer 2048}

theorem usbBulkRecv_similar {r q : RecvResult} (hr : SimilarRecv r q)
    (hb : ∀ i, Shows i → byteAt b.bytes i = byteAt b'.bytes i) :
    (usbBulkRecv r b).1 = (usbBulkRecv q b').1
      ∧ ∀ i, Shows i →
        byteAt (usbBulkRecv r b).2.bytes i = byteAt (usbBulkRecv q b').2.bytes i := by
  cases hr with
  | failed => exact ⟨rfl, hb⟩
  | @got t u h =>
    refine ⟨congrArg Int.ofNat h.length, fun i hi => ?_⟩
    rw [usbBulkRecv_got_snd, usbBulkRecv_got_snd]
    by_cases hlt : i < t.bytes.length
    · rw [byteAt_overlay_left hlt, byteAt_overlay_left (h.length ▸ hlt)]
      exact h.shows i hi
    · have hle := Nat.le_of_not_lt hlt
      rw [byteAt_overlay_right hle, byteAt_overlay_right (h.length ▸ hle)]
      exact hb i hi

/-- A copy goes behind what was copied before, so that only the front of the first transfer comes to
lie at the front. -/
theorem copyIn_similar (hb : ∀ i, Shows i → byteAt b.bytes i = byteAt b'.bytes i)
    (hdata : ∀ i < 8, byteAt data.bytes i = byteAt data'.bytes i) (offset : Nat)
    (recv_bytes : Int) :
    SameExcept (fun d d' : Buffer 2048 => ∀ i < 8, byteAt d.bytes i = byteAt d'.bytes i)
      (copyIn data offset b recv_bytes) (copyIn data' offset b' recv_bytes) := by
  unfold copyIn
  by_cases hfits : 0 ≤ recv_bytes ∧ offset + recv_bytes.toNat ≤ 2048
  · rw [dif_pos hfits, dif_pos hfits]
    refine .ok fun i hi => ?_
    have hlength : (b.bytes.take recv_bytes.toNat).length
        = (b'.bytes.take recv_bytes.toNat).length := by
      rw [List.length_take, List.length_take, b.length_eq, b'.length_eq]
    rw [Buffer.byteAt_write, Buffer.byteAt_write, ← hlength]
    split
    · rename_i hinside
      have hlt : i - offset < recv_bytes.toNat := by
        rw [List.length_take] at hinside
        omega
      rw [byteAt_take hlt, byteAt_take hlt]
      exact hb _ (.inl (by omega))
    · exact hdata i hi
  · rw [dif_neg hfits, dif_neg hfits]
    exact .error _

theorem params_similar (hb : ∀ i, Shows i → byteAt b.bytes i = byteAt b'.bytes i) {count : Nat}
    (hcount : count ≤ 12) :
    (b.bytes.drop headerLen).take count = (b'.bytes.drop headerLen).take count := by
  apply take_congr
  · rw [List.length_drop, List.length_drop, b.length_eq, b'.length_eq]
  · intro i hi
    rw [byteAt_drop, byteAt_drop]
    exact hb _ (.inr ⟨Nat.le_add_right 12 i, by rw [headerLen]; omega⟩)

end Buffers

variable {s s' : Receiver}

theorem copyBlock_similar (h : s.Similar s') (data_len : UInt32) (recv_bytes : Int) :
    (copyBlock s data_len recv_bytes).Related Receiver.Similar (SameExcept Receiver.Similar)
      (copyBlock s' data_len recv_bytes) := by
  have hcopy := copyIn_similar h.rbuffer h.data s.offset recv_bytes
  unfold copyBlock
  rw [← h.offset]
  generalize copyIn s.data s.offset s.rbuffer recv_bytes = x at hcopy
  generalize copyIn s'.data s.offset s'.rbuffer recv_bytes = y at hcopy
  cases hcopy with
  | error f => exact .leave (.error f)
  | ok hdata =>
    dsimp only
    split
    · refine .again ⟨rfl, rfl, ?_, h.rparams, h.rbuffer, hdata⟩
      rw [h.res, responseLengthMask_congr hdata]
    · exact .again ⟨rfl, rfl, h.res, h.rparams, h.rbuffer, hdata⟩

theorem responseBlock_similar (h : s.Similar s') :
    (responseBlock s).Related Receiver.Similar (SameExcept Receiver.Similar)
      (responseBlock s') := by
  have hfront : ∀ i < 8, byteAt s.rbuffer.bytes i = byteAt s'.rbuffer.bytes i :=
    fun i hi => h.rbuffer i (.inl hi)
  have hres : (s.res.map fun res => { res with code := responseCodeMask s.rbuffer.bytes })
      = s'.res.map fun res => { res with code := responseCodeMask s'.rbuffer.bytes } := by
    rw [h.res, responseCodeMask_congr hfront]
  unfold responseBlock
  simp only [h.rparams, responseLengthMask_congr hfront]
  cases hrparams : s'.rparams with
  | none => exact .leave (.ok ⟨h.loop, h.offset, hres, rfl, h.rbuffer, h.data⟩)
  | some rparams =>
    dsimp only
    by_cases hcount : 0 ≤ asInt (responseLengthMask s'.rbuffer.bytes) - 12
        ∧ asInt (responseLengthMask s'.rbuffer.bytes) - 12 ≤ 12
    · rw [dif_pos hcount, dif_pos hcount]
      refine .leave (.ok ⟨h.loop, h.offset, hres, ?_, h.rbuffer, h.data⟩)
      have hparams := params_similar h.rbuffer (Int.toNat_le.mpr hcount.2)
      apply congrArg some
      apply Buffer.ext
      rw [Buffer.write_zero_bytes, Buffer.write_zero_bytes, hparams]
    · rw [dif_neg hcount, dif_neg hcount]
      exact .leave (.error _)

/-- **One round** does the same on transfers that differ where it does not show. -/
theorem receiveRound_similar (h : s.Similar s') {r q : RecvResult} (hr : SimilarRecv r q) :
    (receiveRound s r).Related Receiver.Similar (SameExcept Receiver.Similar)
      (receiveRound s' q) := by
  obtain ⟨hcount, hbuffer⟩ := usbBulkRecv_similar hr h.rbuffer
  have hfront := fun i (hi : i < 8) => hbuffer i (.inl hi)
  have hs : Receiver.Similar { s with loop := s'.loop, rbuffer := (usbBulkRecv r s.rbuffer).2 }
      { s' with rbuffer := (usbBulkRecv q s'.rbuffer).2 } :=
    ⟨rfl, h.offset, h.res, h.rparams, hbuffer, h.data⟩
  unfold receiveRound
  dsimp only
  rw [h.loop, hcount, responseLengthMask_congr hfront, responseTypeMask_congr hfront]
  split
  · split
    · exact copyBlock_similar hs _ _
    · split
      · exact responseBlock_similar hs
      · exact .again hs
  · exact copyBlock_similar hs _ _

/-! ## One call -/

/-- The same memory of the caller, but for what `*data` holds behind the front of a container. -/
structure Out.Similar (o o' : Out) : Prop where
  len : o.len = o'.len
  res : o.res = o'.res
  rparams : o.rparams = o'.rparams
  length : o.data.map List.length = o'.data.map List.length
  front : ∀ i < 8, byteAt (o.data.getD []) i = byteAt (o'.data.getD []) i

theorem Out.Similar.refl (o : Out) : o.Similar o := ⟨rfl, rfl, rfl, rfl, fun _ _ => rfl⟩

/-- Buffers of one length with the same front. -/
structure SimilarData (d d' : List UInt8) : Prop where
  length : d.length = d'.length
  front : ∀ i < 8, byteAt d i = byteAt d' i

theorem copyOut_similar {rstream rstream' : Buffer 2048}
    (h : ∀ i < 8, byteAt rstream.bytes i = byteAt rstream'.bytes i) (data : List UInt8)
    (len length : UInt32) :
    SameExcept SimilarData (copyOut rstream data len length)
      (copyOut rstream' data len length) := by
  rw [copyOut_eq, copyOut_eq]
  split
  · exact .error _
  · split
    · exact .error _
    · generalize min len.toNat length.toNat = n
      have hlength : (rstream.bytes.take n).length = (rstream'.bytes.take n).length := by
        rw [List.length_take, List.length_take, rstream.length_eq, rstream'.length_eq]
      refine .ok ⟨?_, fun i hi => ?_⟩
      · rw [overlay, overlay, List.length_append, List.length_append, hlength]
      · by_cases hlt : i < (rstream.bytes.take n).length
        · have hn : i < n := Nat.lt_of_lt_of_le hlt (List.length_take_le n _)
          rw [byteAt_overlay_left hlt, byteAt_overlay_left (hlength ▸ hlt), byteAt_take hn,
            byteAt_take hn]
          exact h i hi
        · have hle := Nat.le_of_not_lt hlt
          rw [byteAt_overlay_right hle, byteAt_overlay_right (hlength ▸ hle)]

theorem finish_similar (h : s.Similar s') (out : Out) :
    SameExcept Out.Similar (finish out s) (finish out s') := by
  cases hd : out.data with
  | none =>
    rw [finish_none hd, finish_none hd]
    exact .ok ⟨rfl, h.res, h.rparams, rfl, fun _ _ => rfl⟩
  | some data =>
    have hcopy : SameExcept SimilarData (copyResponse s.data data out.len s.res)
        (copyResponse s'.data data out.len s'.res) := by
      rw [h.res]
      cases s'.res with
      | none => exact .error _
      | some res => exact copyOut_similar h.data data out.len res.length
    unfold finish
    rw [hd]
    dsimp only
    generalize copyResponse s.data data out.len s.res = x at hcopy
    generalize copyResponse s'.data data out.len s'.res = y at hcopy
    cases hcopy with
    | error f => exact .error f
    | ok hdata => exact .ok ⟨rfl, h.res, h.rparams, congrArg some hdata.length, hdata.front⟩

/-- The same return value, and the same memory but for what does not show. -/
structure SimilarReply (p q : Int × Out) : Prop where
  ret : p.1 = q.1
  out : p.2.Similar q.2

theorem Out.Similar.data {o o' : Out} (h : o.Similar o') :
    o.data = none ∧ o'.data = none
      ∨ ∃ d d', o.data = some d ∧ o'.data = some d' ∧ SimilarData d d' := by
  have hlength := h.length
  have hfront := h.front
  cases hd : o.data with
  | none =>
    rw [hd] at hlength
    exact .inl ⟨rfl, Option.map_eq_none_iff.mp hlength.symm⟩
  | some d =>
    rw [hd] at hlength hfront
    obtain ⟨d', hd', hlength'⟩ := Option.map_eq_some_iff.mp hlength.symm
    rw [hd'] at hfront
    exact .inr ⟨d, d', rfl, hd', hlength'.symm, hfront⟩

theorem merge_similar {o o' : Out} (h : o.Similar o') (out : Out) :
    SimilarReply (out.merge (0, o)) (out.merge (0, o')) := by
  have hrparams : (out.merge (0, o)).2.rparams = (out.merge (0, o')).2.rparams := by
    simp only [Out.merge, h.rparams]
  rcases h.data with ⟨hd, hd'⟩ | ⟨d, d', hd, hd', hdata⟩
  · refine ⟨rfl, rfl, h.res, hrparams, ?_, fun i _ => ?_⟩
    all_goals simp only [Out.merge, hd, hd']
  · refine ⟨rfl, rfl, h.res, hrparams, ?_, fun i hi => ?_⟩
    · simp only [Out.merge, hd, hd']
      exact congrArg some hdata.length
    · simp only [Out.merge, hd, hd']
      exact hdata.front i hi

/-! ### The bus -/

inductive SimilarEvent : Event → Event → Prop
  | send (fd endpoint : Int) (data : List UInt8) (r : SendResult) :
      SimilarEvent (.send fd endpoint data r) (.send fd endpoint data r)
  | recv (fd endpoint : Int) {r q : RecvResult} (h : SimilarRecv r q) :
      SimilarEvent (.recv fd endpoint r) (.recv fd endpoint q)

/-- The same sends, made and to come, and receives that show the same. -/
structure SimilarBus (a b : Bus) : Prop where
  sends : a.sends = b.sends
  recvs : List.Forall₂ SimilarRecv a.recvs b.recvs
  trace : List.Forall₂ SimilarEvent a.trace b.trace

variable {a b : Bus} {dev : PtpDev} {env : Env} {c : PtpCall}

theorem SimilarBus.afterSend (h : SimilarBus a b) (fd endpoint : Int) (data : List UInt8) :
    SimilarBus (a.afterSend fd endpoint data) (b.afterSend fd endpoint data) := by
  refine ⟨?_, h.recvs, List.rel_append h.trace ?_⟩
  · simp only [Bus.afterSend, h.sends]
  · rw [h.sends]
    exact .cons (.send _ _ _ _) .nil

theorem SimilarBus.sent (h : SimilarBus a b) (dev : PtpDev) (env : Env) (c : PtpCall) :
    SimilarBus (c.sent dev env a) (c.sent dev env b) := by
  unfold PtpCall.sent
  split
  · exact h.afterSend _ _ _
  · exact (h.afterSend _ _ _).afterSend _ _ _

theorem SimilarBus.afterRecvs (h : SimilarBus a b) (fd endpoint : Int) {is js : List RecvResult}
    (hrest : List.Forall₂ SimilarRecv is js) :
    SimilarBus (a.afterRecvs fd endpoint is) (b.afterRecvs fd endpoint js) := by
  refine ⟨h.sends, hrest, List.rel_append h.trace ?_⟩
  rw [h.recvs.length_eq, hrest.length_eq]
  exact List.rel_map (fun _ _ hr => .recv fd endpoint hr) (List.forall₂_take _ h.recvs)

/-- Both computations stop for one reason, or both return related values. -/
inductive SimilarResult {α : Type} (Q : α → α → Prop) :
    EStateM.Result Halt Bus α → EStateM.Result Halt Bus α → Prop
  | ok {x y : α} {a b : Bus} (h : Q x y) (hbus : SimilarBus a b) :
      SimilarResult Q (.ok x a) (.ok y b)
  | error (e : Halt) {a b : Bus} (hbus : SimilarBus a b) :
      SimilarResult Q (.error e a) (.error e b)

theorem SimilarResult.bind {α β : Type} {Q : α → α → Prop} {P : β → β → Prop} {x y : Usb α}
    {f g : α → Usb β} (hx : SimilarResult Q (x a) (y b))
    (hf : ∀ u v a b, Q u v → SimilarBus a b → SimilarResult P (f u a) (g v b)) :
    SimilarResult P ((x >>= f) a) ((y >>= g) b) := by
  generalize hp : x a = p at hx
  generalize hq : y b = q at hx
  cases hx with
  | ok h hbus =>
    rw [usb_bind_ok hp, usb_bind_ok hq]
    exact hf _ _ _ _ h hbus
  | error e hbus =>
    rw [usb_bind_error hp, usb_bind_error hq]
    exact .error e hbus

theorem recvLoop_similar (h : SimilarBus a b) (fd endpoint : Int) (hs : s.Similar s') :
    SimilarResult Receiver.Similar (recvLoop fd endpoint receiveRound s a)
      (recvLoop fd endpoint receiveRound s' b) := by
  have hdrive := drive_related (S := SimilarRecv)
    (fun _ _ _ _ (h : Receiver.Similar _ _) hr => receiveRound_similar h hr) hs h.recvs
  unfold recvLoop
  generalize drive receiveRound s a.recvs = x at hdrive
  generalize drive receiveRound s' b.recvs = y at hdrive
  cases hdrive with
  | starved _ => exact .error _ (h.afterRecvs _ _ .nil)
  | left hleft hrest =>
    cases hleft with
    | error f => exact .error _ (h.afterRecvs _ _ hrest)
    | ok hs' => exact .ok hs' (h.afterRecvs _ _ hrest)

/-- **One call** on two devices. -/
theorem PtpCall.exec_similar (h : SimilarBus a b) (dev : PtpDev) (env : Env) (out : Out)
    (c : PtpCall) : SimilarResult SimilarReply (c.exec dev env out a) (c.exec dev env out b) := by
  by_cases hd : c.Delivered a
  · rw [PtpCall.exec_delivered hd, PtpCall.exec_delivered fun i hi => h.sends ▸ hd i hi]
    refine .bind (recvLoop_similar (h.sent dev env c) _ _ (.refl _)) fun s s' a b hs hbus => ?_
    have hfinish := finish_similar hs (c.pointers out)
    generalize finish (c.pointers out) s = x at hfinish
    generalize finish (c.pointers out) s' = y at hfinish
    cases hfinish with
    | error f => exact .error _ hbus
    | ok ho => exact .ok (merge_similar ho out) hbus
  · -- nothing is received
    obtain ⟨a', ha, -, hfirst⟩ := PtpCall.exec_undelivered dev env out hd
    obtain ⟨b', hb, -, hfirst'⟩ := PtpCall.exec_undelivered dev env out
      fun hd' => hd fun i hi => h.sends ▸ hd' i hi
    rw [ha, hb]
    refine .ok ⟨rfl, .refl out⟩ ?_
    rw [h.sends] at hfirst
    rcases hfirst with ⟨hfailed, rfl⟩ | ⟨hsent, -, rfl⟩ <;>
      rcases hfirst' with ⟨hfailed', rfl⟩ | ⟨hsent', -, rfl⟩
    · exact h.afterSend _ _ _
    · exact absurd hfailed hsent'
    · exact absurd hfailed' hsent
    · exact h.sent dev env c

/-! ## Runs -/

theorem Invocation.performs_similar {x : Invocation} {r : Except Halt (Int × Out)} {a' : Bus}
    (h : SimilarBus a b) (hperforms : x.performs dev a r a') :
    ∃ q b', x.performs dev b q b' ∧ SameExcept SimilarReply r q ∧ SimilarBus a' b' := by
  have hexec := PtpCall.exec_similar h dev x.env x.out x.call
  unfold Invocation.performs at hperforms ⊢
  rw [hperforms] at hexec
  generalize x.call.exec dev x.env x.out b = y at hexec
  cases r with
  | ok reply =>
    cases hexec with
    | ok hreply hbus => exact ⟨.ok _, _, rfl, .ok hreply, hbus⟩
  | error e =>
    cases hexec with
    | error _ hbus => exact ⟨.error _, _, rfl, .error _, hbus⟩

/-- **What a device may send instead.** Two devices whose transfers show the same are talked to in
the same way: every run on one of them is made on the other one as well, with the same sends and
receives in the same order, and every call comes to the same end. -/
theorem runs_of_similar (dev : PtpDev) {bus bus' t : Bus} {log : List Performed}
    (hruns : Runs (Invocation.performs dev) bus log t) (h : SimilarBus bus bus') :
    ∃ log' t', Runs (Invocation.performs dev) bus' log' t'
      ∧ log'.map Entry.call = log.map Entry.call
      ∧ List.Forall₂ (SameExcept SimilarReply) (log.map Entry.result) (log'.map Entry.result)
      ∧ SimilarBus t t' := by
  refine Runs.related (fun x a b r a' h hperforms => ?_) h hruns
  exact Invocation.performs_similar h hperforms

/-- The `OK` of another transaction. -/
def sampleForeign : Transfer := ⟨[12, 0, 0, 0, 3, 0, 1, 0x20, 7, 7, 7, 7], by decide⟩

theorem sampleForeign_similar : SimilarTransfer sampleResponse sampleForeign := by
  refine ⟨rfl, fun i hi => ?_⟩
  rcases hi with hi | ⟨hge, -⟩
  · revert i
    decide
  · rw [byteAt, byteAt, List.getD_eq_getElem?_getD, List.getD_eq_getElem?_getD,
      List.getElem?_eq_none hge, List.getElem?_eq_none hge]

theorem foreign_response_accepted :
    ∃ (log log' : List Performed) (t t' : Bus),
      Runs (Invocation.performs ⟨3, 1⟩) (.answering [.got sampleForeign]) log' t'
      ∧ log'.map Entry.call = log.map Entry.call
      ∧ List.Forall₂ (SameExcept SimilarReply) (log.map Entry.result) (log'.map Entry.result)
      ∧ SimilarBus t t' ∧ log.map Entry.call = [sampleCall .getDeviceInfo 0] := by
  obtain ⟨t, hinfo, -⟩ := sampleOk_exec .getDeviceInfo 0
    (Bus.answering_sendsSucceed [.got sampleResponse]) rfl
  have hruns := Runs.cons hinfo (.nil t)
  obtain ⟨log', t', hruns', hcalls, hresults, hbus⟩ := runs_of_similar ⟨3, 1⟩ hruns
    (show SimilarBus _ (.answering [.got sampleForeign]) from
      ⟨rfl, .cons (.got sampleForeign_similar) .nil, .nil⟩)
  exact ⟨_, log', t, t', hruns', hcalls, hresults, hbus, rfl⟩

end Droidbox.Ptp
