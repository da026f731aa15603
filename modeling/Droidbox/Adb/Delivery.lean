import Droidbox.Adb.Calls
import Droidbox.Lib.Session

/-!
# Droidbox — what an ADB call delivers

The receive loop takes a header transfer and, if it announces a payload, one more transfer. So a
call always returns, with what it received or with the caller's memory untouched; and it reads a
whole message only when the payload comes in one transfer.

* **`AdbCall.outcome`**: the contract of one call, for any device and any allocator.
* **`Exchange.exec_delivered`**: a call whose answer has its payload in at most one transfer.
* **`delivery_over_runs`**: a run delivers all its messages exactly when every answer is of that
  kind and every request got its block.
-/

namespace Droidbox.Adb

open LittleEndian Scripted Session

variable {dev : AdbDev} {env : Env} {msg : AdbMessage} {out : Out} {bus : Bus}

/-! ## One request -/

/-- The caller's memory after a response: its length, the code, and the front of its bytes. -/
def Out.received (out : Out) (s : List UInt8) (code : UInt32) : Out where
  data := out.data.map fun data => overlay (s.take (min out.len.toNat s.length)) data
  len := out.len
  res := ⟨UInt32.ofNat s.length, code⟩

/-- The data buffer, if there is one, has `len` bytes. -/
def Out.Proper (out : Out) : Prop := ∀ data ∈ out.data, out.len.toNat ≤ data.length

theorem Out.Proper.received {out : Out} (h : out.Proper) (s : List UInt8) (code : UInt32) :
    (out.received s code).Proper := by
  intro data hdata
  obtain ⟨before, hbefore, rfl⟩ := Option.mem_map.mp hdata
  have hlen := h before hbefore
  show out.len.toNat ≤ _
  rw [overlay_length]
  · exact hlen
  · rw [List.length_take]
    omega

theorem payload_pair_length_le (t u : Transfer) : (payload [t, u]).length ≤ 1024 := by
  have ht := t.length_le
  have hu := u.length_le
  have hpay : payload [t, u] = t.bytes ++ u.bytes := by simp [payload]
  rw [hpay, List.length_append]
  omega

theorem payload_single_length_le (t : Transfer) : (payload [t]).length ≤ 1024 := by
  have ht := t.length_le
  have hpay : payload [t] = t.bytes := by simp [payload]
  rw [hpay]
  omega

theorem Holds.finish {t : Transfer} {ts : List Transfer} {s : Receiver} (h : Holds env t ts s)
    (hle : (payload (t :: ts)).length ≤ 1024) (hout : out.Proper) :
    finish out 0 s
      = .ok (0, out.received (payload (t :: ts)) (adbCommandMask (env.view t))) := by
  have hres : s.res = ⟨UInt32.ofNat (payload (t :: ts)).length, adbCommandMask (env.view t)⟩ := by
    rw [← h.length, ← h.code, UInt32.ofNat_toNat]
  obtain ⟨data, len, res⟩ := out
  unfold Adb.finish Out.received
  cases data with
  | none => simp [hres]
  | some data =>
    have hlen : len.toNat ≤ data.length := hout data rfl
    have hcopy := copyOut_stream h.data h.length (by omega) hlen
    rw [hres] at hcopy
    simp [hcopy, hres]

theorem AdbMessage.sent_trace (dev : AdbDev) (msg : AdbMessage) (bus : Bus) :
    ∃ sent : List (List UInt8 × SendResult), sent.map Prod.fst = msg.buffers
      ∧ (∀ p ∈ sent, ∃ i < msg.buffers.length, p.2 = bus.sends i)
      ∧ (msg.sent dev bus).trace
        = bus.trace ++ sent.map fun p => .send dev.fd dev.out_endp p.1 p.2 := by
  unfold AdbMessage.sent AdbMessage.buffers
  split
  · refine ⟨[(msg.header.bytes, bus.sends 0)], rfl, ?_, rfl⟩
    rw [List.forall_mem_singleton]
    exact ⟨0, Nat.one_pos, rfl⟩
  · refine ⟨[(msg.header.bytes, bus.sends 0), (msg.body, bus.sends 1)], rfl, ?_,
      by simp [Bus.afterSend]⟩
    rw [List.forall_mem_cons, List.forall_mem_singleton]
    exact ⟨⟨0, Nat.zero_lt_two, rfl⟩, ⟨1, Nat.one_lt_two, rfl⟩⟩

/-- A request whose receive loop leaves and whose copy out stays in bounds returns. -/
theorem handleRequest_left {ret : Int} {s : Receiver} {rest : List RecvResult} {reply : Int × Out}
    (ha : msg.Allocated env) (hb : msg.Buffered) (hd : msg.Delivered bus)
    (hdrive : drive receiveRound (Receiver.start env) bus.recvs = .left (.ok (ret, s)) rest)
    (hfinish : finish out ret s = .ok reply) :
    handleRequest dev env msg out bus
      = .ok reply ((msg.sent dev bus).afterRecvs dev.fd dev.in_endp rest) := by
  have hloop : recvLoop dev.fd dev.in_endp receiveRound (Receiver.start env) (msg.sent dev bus)
      = .ok (ret, s) ((msg.sent dev bus).afterRecvs dev.fd dev.in_endp rest) :=
    recvLoop_ok_iff.mpr ⟨rest, by rwa [msg.sent_recvs dev bus], rfl⟩
  rw [handleRequest_delivered ha hb hd, usb_bind_ok hloop, conclude, hfinish]
  rfl

/-! ## Outcomes

What the receive loop makes of the first two receives decides everything else. -/

/-- The first one or two receives, and what the call returns for them. -/
inductive Outcome (env : Env) (out : Out) : List RecvResult → Int × Out → Prop
  | first_failed : Outcome env out [.failed] (-1, out)
  | second_failed (t : Transfer) : Outcome env out [.got t, .failed] (-1, out)
  | single (t : Transfer) (h : adbDataLenMask (env.view t) = 0) :
      Outcome env out [.got t] (0, out.received (payload [t]) (adbCommandMask (env.view t)))
  | pair (t u : Transfer) (h : adbDataLenMask (env.view t) ≠ 0) :
      Outcome env out [.got t, .got u]
        (0, out.received (payload [t, u]) (adbCommandMask (env.view t)))

theorem Outcome.length_le {used : List RecvResult} {reply : Int × Out}
    (h : Outcome env out used reply) : used.length ≤ 2 := by
  cases h <;> simp

theorem Outcome.ret_iff {used : List RecvResult} {reply : Int × Out}
    (h : Outcome env out used reply) : reply.1 = -1 ↔ .failed ∈ used := by
  cases h <;> simp

theorem Outcome.result {used : List RecvResult} {reply : Int × Out}
    (h : Outcome env out used reply) :
    reply.1 = -1 ∧ reply.2 = out
    ∨ reply.1 = 0 ∧ ∃ t ts, used = (t :: ts).map .got
      ∧ reply.2 = out.received (payload (t :: ts)) (adbCommandMask (env.view t))
      ∧ reply.2.res.length.toNat = (payload (t :: ts)).length := by
  have hlength : ∀ s : List UInt8, s.length ≤ 1024 → (UInt32.ofNat s.length).toNat = s.length := by
    intro s hs
    exact UInt32.toNat_ofNat_of_lt' (by simp [UInt32.size]; omega)
  cases h with
  | first_failed => exact .inl ⟨rfl, rfl⟩
  | second_failed t => exact .inl ⟨rfl, rfl⟩
  | single t h =>
    exact .inr ⟨rfl, t, [], rfl, rfl, hlength _ (payload_single_length_le t)⟩
  | pair t u h =>
    exact .inr ⟨rfl, t, [u], rfl, rfl, hlength _ (payload_pair_length_le t u)⟩

theorem drive_outcome (env : Env) {out : Out} (hout : out.Proper) {script : List RecvResult}
    (h : 2 ≤ script.length) :
    ∃ used rest ret s reply, script = used ++ rest
      ∧ drive receiveRound (Receiver.start env) script = .left (.ok (ret, s)) rest
      ∧ Adb.finish out ret s = .ok reply ∧ Outcome env out used reply := by
  obtain ⟨r₁, r₂, rest, rfl⟩ : ∃ r₁ r₂ rest, script = r₁ :: r₂ :: rest := by
    match script, h with
    | r₁ :: r₂ :: rest, _ => exact ⟨r₁, r₂, rest, rfl⟩
  cases r₁ with
  | failed =>
    exact ⟨[.failed], r₂ :: rest, -1, _, _, rfl, drive_failed env _, rfl, .first_failed⟩
  | got t =>
    by_cases hmask : adbDataLenMask (env.view t) = 0
    · obtain ⟨s, hs, hdrive⟩ := drive_single hmask (r₂ :: rest)
      exact ⟨[.got t], r₂ :: rest, 0, s, _, rfl, hdrive,
        hs.finish (payload_single_length_le t) hout, .single t hmask⟩
    · -- a payload is announced, so the second receive decides
      cases r₂ with
      | failed =>
        obtain ⟨s, hdrive⟩ := drive_second_failed hmask rest
        exact ⟨[.got t, .failed], rest, -1, s, _, rfl, hdrive, rfl, .second_failed t⟩
      | got u =>
        obtain ⟨s, hs, hdrive⟩ := drive_pair hmask u rest
        exact ⟨[.got t, .got u], rest, 0, s, _, rfl, hdrive,
          hs.finish (payload_pair_length_le t u) hout, .pair t u hmask⟩

theorem AdbMessage.allocated_of_lt (hsize : msg.size < 2 ^ 31 - 24) :
    msg.Allocated env ↔ env.malloc (24 + msg.size) = true := by
  have hreq : mallocSize (adbRequestLen msg.header.data_length) = 24 + msg.size := by
    have hlt : 24 + msg.header.data_length.toNat < 2 ^ 31 := by
      unfold AdbMessage.size at hsize
      omega
    rw [mallocSize_of_lt] <;> rw [adbRequestLen_toNat, Nat.mod_eq_of_lt (by omega)]
    · rfl
    · exact hlt
  unfold AdbMessage.Allocated
  rw [hreq]
  constructor
  · rintro ⟨h, -⟩
    exact h
  · intro h
    exact ⟨h, by omega⟩

/-- **The contract of one call.** For any allocator, any results of its sends and any device, a
call returns after at most two receives, all behind its sends. It returns `-1` exactly when its
block was refused, or a send or a receive of it failed, and then the caller's memory is as before;
if it returns `0`, what it received is in `*res` and at the front of the caller's buffer, and the
rest of the buffer is as before. -/
theorem AdbCall.outcome (dev : AdbDev) (env : Env) (out : Out) (c : AdbCall) (bus : Bus)
    (hb : c.Buffered) (hout : out.Proper) (hsize : c.message.size < 2 ^ 31 - 24)
    (hrecvs : 2 ≤ bus.recvs.length) :
    ∃ ret out' bus', c.exec dev env out bus = .ok (ret, out') bus'
      ∧ ∃ (sent : List (List UInt8 × SendResult)) (used : List RecvResult),
        bus'.trace = bus.trace ++ sent.map (fun p => .send dev.fd dev.out_endp p.1 p.2)
          ++ used.map (Event.recv dev.fd dev.in_endp)
        ∧ bus.recvs = used ++ bus'.recvs ∧ used.length ≤ 2
        ∧ (ret = -1 ↔ env.malloc (mallocSize (adbRequestLen c.message.header.data_length)) = false
          ∨ ¬ c.message.Delivered bus ∨ .failed ∈ used)
        ∧ (env.malloc (mallocSize (adbRequestLen c.message.header.data_length)) = true →
          c.message.Delivered bus → Outcome env out used (ret, out'))
        ∧ (ret = -1 ∧ out' = out
          ∨ ret = 0 ∧ ∃ t ts, used = (t :: ts).map .got
            ∧ out' = out.received (payload (t :: ts)) (adbCommandMask (env.view t))
            ∧ out'.res.length.toNat = (payload (t :: ts)).length) := by
  rw [AdbCall.exec_eq]
  have hbuf := AdbCall.message_buffered hb
  cases hm : env.malloc (mallocSize (adbRequestLen c.message.header.data_length)) with
  | false =>
    exact ⟨-1, out, bus, handleRequest_refused dev out bus hm, [], [], by simp, rfl, by decide,
      by simp, (fun h => by cases h), .inl ⟨rfl, rfl⟩⟩
  | true =>
    -- a payload this short does not wrap
    have ha : c.message.Allocated env := ⟨hm, by omega⟩
    by_cases hd : c.message.Delivered bus
    · obtain ⟨used, rest, ret, s, reply, hscript, hdrive, hfinish, hused⟩ :=
        drive_outcome env hout hrecvs
      obtain ⟨sent, -, -, htrace⟩ := c.message.sent_trace dev bus
      refine ⟨reply.1, reply.2, _, handleRequest_left ha hbuf hd hdrive hfinish, sent, used, ?_,
        hscript, hused.length_le, ?_, fun _ _ => hused, hused.result⟩
      · rw [afterRecvs_trace ((c.message.sent_recvs dev bus).trans hscript), htrace]
      · rw [hused.ret_iff]
        simp [hd]
    · obtain ⟨bus', hexec, hkept, sent, htrace, -⟩ :=
        handleRequest_undelivered dev hbuf hd
      exact ⟨-1, out, bus', hexec env out ha, sent, [], by simpa using htrace, hkept.symm,
        by decide, by simp [hd], fun _ h => absurd h hd, .inl ⟨rfl, rfl⟩⟩

/-- The header of an empty `OKAY`. -/
def sampleOkay : Transfer :=
  ⟨le32 adbCommandOkay ++ le32 1 ++ le32 2 ++ le32 0 ++ le32 0 ++ le32 (adbMagic adbCommandOkay),
    by decide⟩

/-- The header of an `AUTH` message with a payload of two bytes. -/
def sampleAuth : Transfer :=
  ⟨le32 adbCommandAuth ++ le32 1 ++ le32 0 ++ le32 2 ++ le32 3 ++ le32 (adbMagic adbCommandAuth),
    by decide⟩

/-- A buffer of 32 bytes. -/
def sampleOut : Out := ⟨some (List.replicate 32 0xFF), 32, ⟨7, 7⟩⟩

/-- `adb_open` of a service, with a device that answers it by a header and a payload. -/
theorem open_outcome :
    ∃ out' bus', (AdbCall.openStream 1 [115, 104, 0]).exec ⟨3, 0x81, 1⟩ .zero sampleOut
        (.answering [.got sampleAuth, .got ⟨[1, 2], by decide⟩]) = .ok (0, out') bus'
      ∧ out'.res = ⟨26, adbCommandAuth⟩
      ∧ out'.data = some (sampleAuth.bytes ++ [1, 2] ++ List.replicate 6 0xFF)
      ∧ bus'.recvs = [] := by
  have hd : (AdbCall.openStream 1 [115, 104, 0]).message.Delivered
      (.answering [.got sampleAuth, .got ⟨[1, 2], by decide⟩]) := fun i _ h => by cases h
  obtain ⟨ret, out', bus', hexec, sent, used, -, hused, -, -, houtcome, -⟩ :=
    AdbCall.outcome ⟨3, 0x81, 1⟩ .zero sampleOut (.openStream 1 [115, 104, 0])
      (.answering [.got sampleAuth, .got ⟨[1, 2], by decide⟩]) trivial
      (fun data h => by cases h; decide) (by decide) (by decide)
  -- nothing failed, and the header announces a payload
  cases houtcome rfl hd with
  | first_failed => cases hused
  | second_failed t => cases hused
  | single t hmask =>
    cases (List.cons.inj hused).1
    exact absurd hmask (by decide)
  | pair t u _ =>
    obtain ⟨ht, hrest⟩ := List.cons.inj hused
    obtain ⟨hu, hbus⟩ := List.cons.inj hrest
    cases ht
    cases hu
    exact ⟨_, bus', hexec, by decide, by decide, hbus.symm⟩

/-! ## Whole messages over runs -/

/-- A device's answer: a header in one transfer and a payload in any number of transfers, as long
as the header says and no longer than the response buffer allows. -/
structure Answer where
  header : Transfer
  pieces : List Transfer
  header_length : header.bytes.length = 24
  nonempty : ∀ t ∈ pieces, t.bytes ≠ []
  declared : (adbDataLenMask header.bytes).toNat = (payload pieces).length
  capacity : (payload pieces).length ≤ 2048 - 24

def Answer.transfers (a : Answer) : List Transfer := a.header :: a.pieces

/-- One call of a run, and the device's answer to it. -/
structure Exchange where
  call : AdbCall
  env : Env
  out : Out
  answer : Answer

def Exchange.exec (dev : AdbDev) (x : Exchange) (bus : Bus) (reply : Int × Out) (bus' : Bus) :
    Prop :=
  x.call.exec dev x.env x.out bus = .ok reply bus'

/-- What the caller owes: the buffers it announces. -/
structure Exchange.Proper (x : Exchange) : Prop where
  buffered : x.call.Buffered
  out : x.out.Proper

/-- The caller's memory after the whole message was received. -/
def Exchange.reply (x : Exchange) : Out :=
  x.out.received (payload x.answer.transfers) (adbCommandMask x.answer.header.bytes)

/-- The request got its block, and its answer brings the payload in at most one transfer. -/
def Exchange.InOneTransfer (x : Exchange) : Prop :=
  x.call.message.Allocated x.env ∧ x.answer.pieces.length ≤ 1

/-- The call returned the whole message and left no byte of it to the next call. -/
def Delivered (e : Entry Exchange Bus (Int × Out)) : Prop :=
  e.result = (0, e.call.reply)
    ∧ e.before.recvs = e.call.answer.transfers.map .got ++ e.after.recvs

theorem Answer.view_masks (a : Answer) (env : Env) :
    adbCommandMask (env.view a.header) = adbCommandMask a.header.bytes
    ∧ adbDataLenMask (env.view a.header) = adbDataLenMask a.header.bytes := by
  have hlen := a.header_length
  exact ⟨word32_overlay (by omega), word32_overlay (by omega)⟩

/-- The receive loop on an answer whose payload comes in at most one transfer. -/
theorem drive_answer {x : Exchange} (hx : x.Proper) (hpieces : x.answer.pieces.length ≤ 1)
    (rest : List RecvResult) :
    ∃ s, drive receiveRound (Receiver.start x.env) (x.answer.transfers.map .got ++ rest)
        = .left (.ok (0, s)) rest
      ∧ Adb.finish x.out 0 s = .ok (0, x.reply) := by
  obtain ⟨hcode, hmask⟩ := x.answer.view_masks x.env
  have hdeclared := x.answer.declared
  have hnonempty := x.answer.nonempty
  unfold Exchange.reply Answer.transfers
  rw [← hcode]
  match hp : x.answer.pieces with
  | [] =>
    have hzero : adbDataLenMask (x.env.view x.answer.header) = 0 := by
      rw [hmask]
      apply UInt32.toNat_inj.mp
      rw [hdeclared, hp]
      rfl
    obtain ⟨s, hs, hdrive⟩ := drive_single hzero rest
    exact ⟨s, hdrive, hs.finish (payload_single_length_le _) hx.out⟩
  | [t] =>
    have hpos : adbDataLenMask (x.env.view x.answer.header) ≠ 0 := by
      intro hzero
      rw [hmask] at hzero
      rw [hzero, hp] at hdeclared
      have hmem : t ∈ x.answer.pieces := by
        rw [hp]
        exact List.mem_singleton_self t
      have ht := List.length_pos_of_ne_nil (hnonempty t hmem)
      have hpay : payload [t] = t.bytes := by simp [payload]
      rw [hpay] at hdeclared
      exact absurd hdeclared (Nat.ne_of_lt ht)
    obtain ⟨s, hs, hdrive⟩ := drive_pair hpos t rest
    exact ⟨s, hdrive, hs.finish (payload_pair_length_le _ _) hx.out⟩
  | _ :: _ :: _ => rw [hp] at hpieces; simp at hpieces

theorem AdbMessage.sent_sendsSucceed (dev : AdbDev) (msg : AdbMessage) (h : bus.SendsSucceed) :
    (msg.sent dev bus).SendsSucceed := by
  unfold AdbMessage.sent AdbMessage.buffers
  split
  · exact fun i => h (i + 1)
  · exact fun i => h (i + 2)

/-- **One call.** With its block, and an answer whose payload comes in at most one transfer, it
returns the whole message and leaves all further transfers. -/
theorem Exchange.exec_delivered (dev : AdbDev) {x : Exchange} (hx : x.Proper)
    (hone : x.InOneTransfer) {rest : List RecvResult} (hsends : bus.SendsSucceed)
    (hrecvs : bus.recvs = x.answer.transfers.map .got ++ rest) :
    ∃ bus', x.exec dev bus (0, x.reply) bus' ∧ bus'.SendsSucceed ∧ bus'.recvs = rest := by
  obtain ⟨s, hdrive, hfinish⟩ := drive_answer hx hone.2 rest
  rw [← hrecvs] at hdrive
  refine ⟨(x.call.message.sent dev bus).afterRecvs dev.fd dev.in_endp rest, ?_,
    x.call.message.sent_sendsSucceed dev hsends, rfl⟩
  rw [Exchange.exec, AdbCall.exec_eq]
  exact handleRequest_left hone.1 (AdbCall.message_buffered hx.buffered) (fun i _ => hsends i)
    hdrive hfinish

/-- Conversely, a call that returned `0` had its block, and one that consumed exactly its answer
found the payload in at most one transfer: it never consumes more than two. -/
theorem Exchange.inOneTransfer_of_delivered {dev : AdbDev} {x : Exchange} (hx : x.Proper)
    {reply : Out} {bus' : Bus} (hexec : x.exec dev bus (0, reply) bus')
    (hrecvs : bus.recvs = x.answer.transfers.map .got ++ bus'.recvs) : x.InOneTransfer := by
  rw [Exchange.exec, AdbCall.exec_eq] at hexec
  have hbuf := AdbCall.message_buffered hx.buffered
  have ha : x.call.message.Allocated x.env := by
    by_contra ha
    rcases handleRequest_unallocated dev x.out bus ha with h | ⟨-, h⟩
    · rw [h] at hexec
      cases hexec
    · rw [h] at hexec
      cases hexec
  refine ⟨ha, ?_⟩
  have hd : x.call.message.Delivered bus := by
    by_contra hd
    obtain ⟨b, h, -⟩ := handleRequest_undelivered dev hbuf hd
    rw [h x.env x.out ha] at hexec
    cases hexec
  by_contra hpieces
  have hlen := congrArg List.length hrecvs
  rw [List.length_append, List.length_map, Answer.transfers, List.length_cons] at hlen
  obtain ⟨used, rest, ret, s, reply', hscript, hdrive, hfinish, hused⟩ :=
    drive_outcome x.env hx.out (show 2 ≤ bus.recvs.length from by omega)
  rw [handleRequest_left ha hbuf hd hdrive hfinish] at hexec
  cases hexec
  -- three transfers at least were to be consumed, and a call consumes two at most
  have htwo := hused.length_le
  have hrest : ((x.call.message.sent dev bus).afterRecvs dev.fd dev.in_endp rest).recvs
      = rest := rfl
  rw [hrest, hscript, List.length_append] at hlen
  omega

/-- Every call of the sequence returns its whole message, and what the device sends behind the
messages is left. -/
def DeliversAll (dev : AdbDev) (xs : List Exchange) (bus : Bus) (tail : List RecvResult) : Prop :=
  ∃ log t, Runs (Exchange.exec dev) bus log t ∧ log.map Entry.call = xs ∧ t.recvs = tail
    ∧ ∀ e ∈ log, Delivered e

/-- **Whole messages over runs.** When every send and every receive succeeds and the device
answers each call of a sequence in turn, all messages are delivered exactly when every request
got its block and every payload comes in at most one transfer. -/
theorem delivery_over_runs (dev : AdbDev) (xs : List Exchange) (bus : Bus) (tail : List RecvResult)
    (hsends : bus.SendsSucceed) (hproper : ∀ x ∈ xs, x.Proper)
    (hrecvs : bus.recvs = xs.flatMap (fun x => x.answer.transfers.map .got) ++ tail) :
    DeliversAll dev xs bus tail ↔ ∀ x ∈ xs, x.InOneTransfer := by
  constructor
  · rintro ⟨log, t, hruns, hcalls, -, hlog⟩ x hx
    have hexec := hruns.forall_entry (I := fun _ => True)
      (P := fun e : Entry Exchange Bus (Int × Out) => e.call.exec dev e.before e.result e.after)
      (fun _ _ _ _ _ h => ⟨h, trivial⟩) trivial
    rw [← hcalls] at hx
    obtain ⟨e, he, rfl⟩ := List.mem_map.mp hx
    obtain ⟨hresult, hconsumed⟩ := hlog e he
    have hcall := hexec e he
    rw [hresult] at hcall
    exact Exchange.inOneTransfer_of_delivered
      (hproper e.call (hcalls ▸ List.mem_map_of_mem he)) hcall hconsumed
  · intro hone
    obtain ⟨log, t, hruns, hcalls, hlog, -, htail, -⟩ := exists_runs
      (Exchange.exec dev)
      (fun xs (bus : Bus) => bus.SendsSucceed
        ∧ bus.recvs = xs.flatMap (fun x => x.answer.transfers.map .got) ++ tail
        ∧ ∀ x ∈ xs, x.Proper ∧ x.InOneTransfer)
      (P := Delivered)
      (fun x xs bus ⟨hsends, hrecvs, hready⟩ => by
        rw [List.flatMap_cons, List.append_assoc] at hrecvs
        obtain ⟨hx, hxone⟩ := hready x List.mem_cons_self
        obtain ⟨bus', hexec, hsends', hrest⟩ := x.exec_delivered dev hx hxone hsends hrecvs
        exact ⟨_, bus', hexec, ⟨rfl, by rw [hrecvs, hrest]⟩, hsends', hrest,
          fun y hy => hready y (List.mem_cons_of_mem _ hy)⟩)
      xs ⟨hsends, hrecvs, fun x hx => ⟨hproper x hx, hone x hx⟩⟩
    exact ⟨log, t, hruns, hcalls, by simpa using htail, hlog⟩

/-! ### A message in three transfers -/

/-- `adb_ready` answered by an `AUTH` message whose payload comes in the transfers `pieces`. -/
def sampleExchange (pieces : List Transfer) (hne : ∀ t ∈ pieces, t.bytes ≠ [])
    (hlen : (payload pieces).length = 2) : Exchange where
  call := .ready 1 2
  env := .zero
  out := ⟨none, 0, ⟨0, 0⟩⟩
  answer :=
    { header := sampleAuth
      pieces
      header_length := by decide
      nonempty := hne
      declared := by rw [hlen]; decide
      capacity := by rw [hlen]; decide }

def sampleWhole : Exchange :=
  sampleExchange [⟨[1, 2], by decide⟩] (by simp) (by decide)

def sampleSplit : Exchange :=
  sampleExchange [⟨[1], by decide⟩, ⟨[2], by decide⟩] (by simp) (by decide)

/-- The same answer for a caller with a buffer. -/
def sampleOpened : Exchange := { sampleWhole with
  call := .openStream 1 [115, 104, 0]
  out := sampleOut }

/-- Both calls are answered in full. -/
theorem delivery_of_sampleWhole :
    DeliversAll ⟨3, 0x81, 1⟩ [sampleWhole, sampleOpened]
      (.answering ([sampleWhole, sampleOpened].flatMap fun x => x.answer.transfers.map .got)) [] :=
  (delivery_over_runs ⟨3, 0x81, 1⟩ [sampleWhole, sampleOpened] _ []
    (Bus.answering_sendsSucceed _)
    (List.forall_mem_cons.mpr ⟨⟨trivial, fun data h => by cases h⟩,
      List.forall_mem_singleton.mpr ⟨trivial, fun data h => by cases h; decide⟩⟩)
    (List.append_nil _).symm).mpr
      (List.forall_mem_cons.mpr ⟨⟨⟨rfl, by decide⟩, by decide⟩,
        List.forall_mem_singleton.mpr ⟨⟨rfl, by decide⟩, by decide⟩⟩)

/-- The call returns `0` with 25 of the 26 bytes and leaves the last byte to the next call. -/
theorem sampleSplit_not_delivered :
    (∃ bus', sampleSplit.exec ⟨3, 0x81, 1⟩ (.answering (sampleSplit.answer.transfers.map .got))
        (0, ⟨none, 0, ⟨25, adbCommandAuth⟩⟩) bus'
      ∧ bus'.recvs = [.got ⟨[2], by decide⟩])
    ∧ ¬ DeliversAll ⟨3, 0x81, 1⟩ [sampleSplit]
      (.answering (sampleSplit.answer.transfers.map .got)) [] := by
  constructor
  · exact ⟨_, rfl, rfl⟩
  · rintro ⟨log, t, hruns, hcalls, -, hlog⟩
    cases hruns with
    | nil _ => cases hcalls
    | cons head rest =>
      obtain ⟨hresult, hconsumed⟩ := hlog _ List.mem_cons_self
      obtain ⟨rfl, -⟩ := List.cons.inj hcalls
      dsimp only at hresult
      rw [hresult] at head
      have hone := Exchange.inOneTransfer_of_delivered (x := sampleSplit)
        ⟨trivial, fun data h => by cases h⟩ head hconsumed
      exact absurd hone.2 (by decide)

end Droidbox.Adb
