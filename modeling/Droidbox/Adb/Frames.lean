import Mathlib.Data.List.ReduceOption
import Droidbox.Adb.Delivery
import Droidbox.Adb.Independence

/-!
# Droidbox — the ADB client as a queue of frames

What a device sends is one sequence of receives. It falls into frames: a header transfer, and
behind a header that announces a payload one more receive. A call of which all sends succeed takes
the next frame, whatever it asked for; every other call takes nothing.

* **`drive_frames`**: the receive loop takes one frame.
* **`client_refines`**, **`client_runs_iff`**: calls on a bus, and whole runs of them, refine
  `Request.step`, which only knows the sends and the frames to come.
* **`runs_take_frames`**: a run takes its frames one behind the other.
* **`results_of_alike`**: what results depend on.
-/

namespace Droidbox.Adb

open LittleEndian Scripted Session

/-! ## Frames -/

/-- A header whose length field, as far as it was received, is not zero. -/
def Announces (t : Transfer) : Prop := adbDataLenMask t.bytes ≠ 0

instance (t : Transfer) : Decidable (Announces t) := inferInstanceAs (Decidable (_ ≠ _))

/-- What a call takes: a receive that fails, a header with a payload whose receive fails, a header
alone, or a header and the transfer behind it. -/
inductive Frame where
  | refused
  | broken (header : Transfer)
  | single (header : Transfer)
  | pair (header payload : Transfer)

def Frame.recvs : Frame → List RecvResult
  | .refused => [.failed]
  | .broken header => [.got header, .failed]
  | .single header => [.got header]
  | .pair header payload => [.got header, .got payload]

/-- What a call returns for a frame. -/
def Frame.reply (out : Out) : Frame → Int × Out
  | .refused | .broken _ => (-1, out)
  | .single header => (0, out.received (payload [header]) (adbCommandMask header.bytes))
  | .pair header second =>
    (0, out.received (payload [header, second]) (adbCommandMask header.bytes))

/-- The complete frames of a sequence of receives. -/
def frames : List RecvResult → List Frame
  | [] => []
  | .failed :: rest => .refused :: frames rest
  | .got t :: rest =>
    if Announces t then
      match rest with
      | [] => []
      | .failed :: rest => .broken t :: frames rest
      | .got u :: rest => .pair t u :: frames rest
    else
      .single t :: frames rest

/-- Each header that a call gets to see decides whether a payload follows. -/
def HeadersDecide : List RecvResult → Prop
  | [] => True
  | .failed :: rest => HeadersDecide rest
  | .got t :: rest =>
    Decides t ∧
      if Announces t then
        match rest with
        | [] => True
        | _ :: rest => HeadersDecide rest
      else
        HeadersDecide rest

variable {env : Env} {out : Out} {msg : AdbMessage} {bus : Bus} {t : Transfer}

/-! ## One frame -/

/-- What was not received of a length field reads as zero, in a stream as in a zeroed buffer. -/
theorem mask_zero_view (t : Transfer) :
    adbDataLenMask (Env.zero.view t) = 0 ↔ adbDataLenMask t.bytes = 0 := by
  have hbyte : ∀ i < 512, byteAt (Env.zero.view t) i = byteAt t.bytes i := by
    intro i hi
    rcases Nat.lt_or_ge i t.bytes.length with hlt | hge
    · exact byteAt_overlay_left hlt
    · rw [Env.view, byteAt_overlay_right hge]
      have hbeyond : byteAt t.bytes i = 0 := by
        rw [byteAt, List.getD_eq_getElem?_getD, List.getElem?_eq_none hge]
        rfl
      rw [hbeyond]
      exact byteAt_replicate 0 hi
  rw [adbDataLenMask, adbDataLenMask, word32_eq_zero_iff, word32_eq_zero_iff]
  constructor
  · intro h k hk
    rw [← hbyte _ (by omega)]
    exact h k hk
  · intro h k hk
    rw [hbyte _ (by omega)]
    exact h k hk

theorem Decides.announces_iff (h : Decides t) (env : Env) :
    adbDataLenMask (env.view t) ≠ 0 ↔ Announces t := by
  rw [Announces, ne_eq, ne_eq, not_iff_not, ← mask_zero_view]
  exact ⟨fun hzero => h.mask_zero hzero .zero, fun hzero => h.mask_zero hzero env⟩

theorem Decides.code_view (h : Decides t) (env : Env) :
    adbCommandMask (env.view t) = adbCommandMask t.bytes := by
  have hlong : 0 + 3 < t.bytes.length := by
    rcases h with h | ⟨i, hle, hlt, -⟩
    · omega
    · omega
  exact word32_overlay hlong

/-- What the receive loop makes of some receives: it waits within a frame, or it takes one. -/
inductive TakesFrame (env : Env) (out : Out) (recvs : List RecvResult) : Prop
  | waits {s : Receiver} (hframes : frames recvs = [])
      (hdrive : drive receiveRound (Receiver.start env) recvs = .starved s)
  | takes {f : Frame} {rest : List RecvResult} {ret : Int} {s : Receiver}
      (hframes : frames recvs = f :: frames rest) (hrecvs : recvs = f.recvs ++ rest)
      (hdecide : HeadersDecide rest)
      (hdrive : drive receiveRound (Receiver.start env) recvs = .left (.ok (ret, s)) rest)
      (hfinish : Adb.finish out ret s = .ok (f.reply out))

/-- **The receive loop takes one frame.** -/
theorem drive_frames (env : Env) (hout : out.Proper) {recvs : List RecvResult}
    (hdecide : HeadersDecide recvs) : TakesFrame env out recvs := by
  match recvs with
  | [] => exact .waits rfl rfl
  | .failed :: rest => exact .takes (f := .refused) rfl rfl hdecide (drive_failed env rest) rfl
  | .got t :: rest =>
    rw [HeadersDecide.eq_def] at hdecide
    obtain ⟨ht, hrest⟩ := hdecide
    have hcode := ht.code_view env
    by_cases hannounces : Announces t
    · have hmask := (ht.announces_iff env).mpr hannounces
      rw [if_pos hannounces] at hrest
      -- the next receive belongs to this frame, whatever it is
      match rest with
      | [] =>
        obtain ⟨s, hdrive⟩ := drive_pending hmask
        exact .waits (by rw [frames, if_pos hannounces]) hdrive
      | .failed :: rest =>
        obtain ⟨s, hdrive⟩ := drive_second_failed hmask rest
        exact .takes (f := .broken t) (by rw [frames, if_pos hannounces]) rfl hrest hdrive rfl
      | .got u :: rest =>
        obtain ⟨s, hs, hdrive⟩ := drive_pair hmask u rest
        refine .takes (f := .pair t u) (by rw [frames, if_pos hannounces]) rfl hrest hdrive ?_
        rw [hs.finish (payload_pair_length_le t u) hout, hcode]
        rfl
    · have hmask : adbDataLenMask (env.view t) = 0 :=
        not_not.mp fun hmask => hannounces ((ht.announces_iff env).mp hmask)
      rw [if_neg hannounces] at hrest
      obtain ⟨s, hs, hdrive⟩ := drive_single hmask rest
      refine .takes (f := .single t) ?_ rfl hrest hdrive ?_
      · rw [frames.eq_def]
        exact if_neg hannounces
      · rw [hs.finish (payload_single_length_le t) hout, hcode]
        rfl

/-! ## Sends -/

/-- A number of sends one behind the other, up to the first that fails: whether all succeeded, and
the results of the sends behind them. -/
def spend : Nat → (Nat → SendResult) → Bool × (Nat → SendResult)
  | 0, sends => (true, sends)
  | n + 1, sends =>
    match sends 0 with
    | .failed => (false, fun i => sends (i + 1))
    | .sent _ => spend n fun i => sends (i + 1)

theorem spend_failed {sends : Nat → SendResult} (h : sends 0 = .failed) (n : Nat) :
    spend (n + 1) sends = (false, fun i => sends (i + 1)) := by
  rw [spend, h]

theorem spend_sent {sends : Nat → SendResult} (h : sends 0 ≠ .failed) (n : Nat) :
    spend (n + 1) sends = spend n fun i => sends (i + 1) := by
  cases hs : sends 0 with
  | failed => exact absurd hs h
  | sent k => rw [spend, hs]

theorem spend_of_forall {n : Nat} {sends : Nat → SendResult} (h : ∀ i < n, sends i ≠ .failed) :
    spend n sends = (true, fun i => sends (i + n)) := by
  induction n generalizing sends with
  | zero => rfl
  | succ n ih =>
    rw [spend_sent (h 0 (Nat.succ_pos n)), ih fun i hi => h (i + 1) (Nat.succ_lt_succ hi)]
    rfl

/-- The buffers of a message that were handed to `usb_bulk_send`, with their results: all of them,
or those in front of the first that failed, and that one. -/
structure SentInOrder (dev : AdbDev) (msg : AdbMessage) (before after : Bus)
    (sent : List (List UInt8 × SendResult)) (used : List RecvResult) : Prop where
  buffers : sent.map Prod.fst <+: msg.buffers
  trace : after.trace = before.trace ++ sent.map (fun p => .send dev.fd dev.out_endp p.1 p.2)
    ++ used.map (Event.recv dev.fd dev.in_endp)

/-- A request whose sends do not all succeed: `-1`, with the caller's memory and the receives
untouched, and the sends used up to the first that failed. -/
theorem handleRequest_spent (dev : AdbDev) (out : Out) (ha : msg.Allocated env) (hb : msg.Buffered)
    {sends : Nat → SendResult} (h : spend msg.buffers.length bus.sends = (false, sends)) :
    ∃ bus', handleRequest dev env msg out bus = .ok (-1, out) bus'
      ∧ bus'.recvs = bus.recvs ∧ bus'.sends = sends
      ∧ ∃ sent, SentInOrder dev msg bus bus' sent [] := by
  have hframed := ha.framed hb
  by_cases h0 : bus.sends 0 = .failed
  · refine ⟨_, handleRequest_unsent ha hb (sendRequest_first_failed hframed h0), rfl, ?_,
      [(msg.header.bytes, bus.sends 0)], ?_, by simp [Bus.afterSend]⟩
    · have hlength : ∃ n, msg.buffers.length = n + 1 := by
        unfold AdbMessage.buffers
        split
        · exact ⟨0, rfl⟩
        · exact ⟨1, rfl⟩
      obtain ⟨n, hn⟩ := hlength
      rw [hn, spend_failed h0] at h
      exact congrArg Prod.snd h
    · unfold AdbMessage.buffers
      split
      · exact List.prefix_refl _
      · exact ⟨[msg.body], rfl⟩
  · by_cases hsize : msg.size = 0
    · -- the header is the only send
      rw [AdbMessage.buffers, if_pos hsize, List.length_singleton, spend_sent h0] at h
      cases h
    · rw [AdbMessage.buffers, if_neg hsize, List.length_cons, List.length_singleton,
        spend_sent h0] at h
      by_cases h1 : bus.sends 1 = .failed
      · refine ⟨_, handleRequest_unsent ha hb (sendRequest_second_failed hframed hsize h0 h1),
          rfl, ?_, [(msg.header.bytes, bus.sends 0), (msg.body, bus.sends 1)], ?_,
          by simp [Bus.afterSend]⟩
        · rw [spend_failed h1] at h
          exact congrArg Prod.snd h
        · rw [AdbMessage.buffers, if_neg hsize]
          exact List.prefix_refl _
      · rw [spend_sent h1] at h
        cases h

theorem forall_of_spend {n : Nat} {sends : Nat → SendResult} (h : (spend n sends).1 = true) :
    ∀ i < n, sends i ≠ .failed := by
  induction n generalizing sends with
  | zero => exact fun i hi => absurd hi (Nat.not_lt_zero i)
  | succ n ih =>
    have h0 : sends 0 ≠ .failed := by
      intro h0
      rw [spend_failed h0] at h
      cases h
    rw [spend_sent h0] at h
    intro i hi
    cases i with
    | zero => exact h0
    | succ i => exact ih h i (Nat.lt_of_succ_lt_succ hi)

/-! ## The client -/

/-- `malloc` serves the request. -/
def AdbCall.Served (env : Env) (c : AdbCall) : Prop :=
  env.malloc (mallocSize (adbRequestLen c.message.header.data_length)) = true

instance (env : Env) (c : AdbCall) : Decidable (c.Served env) := inferInstanceAs (Decidable (_ = _))

/-- Its block is there, and of its sends none fails. -/
def AdbCall.Sent (env : Env) (c : AdbCall) (sends : Nat → SendResult) : Prop :=
  c.Served env ∧ (spend c.message.buffers.length sends).1 = true

instance (env : Env) (c : AdbCall) (sends : Nat → SendResult) : Decidable (c.Sent env sends) :=
  inferInstanceAs (Decidable (_ ∧ _))

/-- The sends to come behind those of a call. -/
def AdbCall.spent (env : Env) (c : AdbCall) (sends : Nat → SendResult) : Nat → SendResult :=
  if c.Served env then (spend c.message.buffers.length sends).2 else sends

/-- What a client knows of a bus: the results of the sends to come, and the frames. -/
structure Channel where
  sends : Nat → SendResult
  frames : List Frame

def channel (bus : Bus) : Channel := ⟨bus.sends, frames bus.recvs⟩

/-- What a call takes off a channel: a frame when it is sent, and nothing otherwise. Without a
frame it waits. -/
def AdbCall.take (env : Env) (c : AdbCall) (ch : Channel) : Option (Option Frame × Channel) :=
  if c.Sent env ch.sends then
    match ch.frames with
    | [] => none
    | f :: fs => some (some f, ⟨c.spent env ch.sends, fs⟩)
  else
    some (none, ⟨c.spent env ch.sends, ch.frames⟩)

/-- What a call returns for what it took. -/
def reply (out : Out) : Option Frame → Int × Out
  | none => (-1, out)
  | some f => f.reply out

/-- What one call does on a bus. -/
inductive AdbCall.Does (dev : AdbDev) (env : Env) (out : Out) (c : AdbCall) (bus : Bus) : Prop
  | waits {bus' : Bus} (htake : c.take env (channel bus) = none)
      (hexec : c.exec dev env out bus = .error .blocked bus')
  | returns (taken : Option Frame) {bus' : Bus}
      (htake : c.take env (channel bus) = some (taken, channel bus'))
      (hexec : c.exec dev env out bus = .ok (reply out taken) bus')
      (hrecvs : bus.recvs = taken.toList.flatMap Frame.recvs ++ bus'.recvs)
      (hdecide : HeadersDecide bus'.recvs) {sent : List (List UInt8 × SendResult)}
      (hsent : SentInOrder dev c.message bus bus' sent (taken.toList.flatMap Frame.recvs))
      (hwhole : taken.isSome → sent.map Prod.fst = c.message.buffers)

theorem AdbCall.take_unsent {c : AdbCall} {ch : Channel} (h : ¬ c.Sent env ch.sends) :
    c.take env ch = some (none, ⟨c.spent env ch.sends, ch.frames⟩) := if_neg h

/-- **One call.** -/
theorem AdbCall.does (dev : AdbDev) (env : Env) (hout : out.Proper) {c : AdbCall}
    (hbuffered : c.Buffered) (hfits : 24 + c.message.size < 2 ^ 32)
    (hdecide : HeadersDecide bus.recvs) : c.Does dev env out bus := by
  have hb := AdbCall.message_buffered hbuffered
  by_cases hserved : c.Served env
  · have ha : c.message.Allocated env := ⟨hserved, hfits⟩
    match hspend : spend c.message.buffers.length bus.sends with
    | (false, sends) =>
      have hunsent : ¬ c.Sent env (channel bus).sends := by
        rintro ⟨-, hsent⟩
        rw [channel, hspend] at hsent
        cases hsent
      obtain ⟨bus', hexec, hrecvs, hsends, sent, hsent⟩ := handleRequest_spent dev out ha hb hspend
      refine .returns none ?_ (by rw [AdbCall.exec_eq, hexec]; rfl) hrecvs.symm (by rwa [hrecvs])
        hsent (fun h => by cases h)
      rw [AdbCall.take_unsent hunsent, channel, channel, spent, if_pos hserved, hspend, hrecvs,
        hsends]
    | (true, sends) =>
      have hsent : c.Sent env (channel bus).sends := ⟨hserved, congrArg Prod.fst hspend⟩
      have hd : c.message.Delivered bus := forall_of_spend hsent.2
      have hsends : (c.message.sent dev bus).sends = c.spent env (channel bus).sends := by
        rw [spent, if_pos hserved, channel, spend_of_forall hd]
        exact funext (c.message.sent_sends dev bus)
      cases drive_frames env hout hdecide with
      | waits hframes hdrive =>
        have hexec : handleRequest dev env c.message out bus = _ := handleRequest_delivered ha hb hd
        rw [loop_starved (by rwa [AdbMessage.sent_recvs]), ← AdbCall.exec_eq] at hexec
        refine .waits ?_ hexec
        rw [take, if_pos hsent, channel, hframes]
      | @takes f rest ret s hframes hrecvs hrest hdrive hfinish =>
        have hexec : handleRequest dev env c.message out bus = _ :=
          handleRequest_left ha hb hd hdrive hfinish
        rw [← AdbCall.exec_eq] at hexec
        have hused : bus.recvs = (some f).toList.flatMap Frame.recvs ++ rest := by
          rw [hrecvs, Option.toList_some, List.flatMap_singleton]
        obtain ⟨sent, hbuffers, -, htrace⟩ := c.message.sent_trace dev bus
        refine .returns (some f) ?_ hexec hused hrest ⟨hbuffers ▸ List.prefix_refl _, ?_⟩
          fun _ => hbuffers
        · rw [take, if_pos hsent, channel, hframes, channel]
          dsimp only
          rw [Bus.afterRecvs, hsends]
          rfl
        · rw [← htrace]
          exact afterRecvs_trace ((c.message.sent_recvs dev bus).trans hused) _ _
  · have hexec := handleRequest_refused dev out bus (Bool.eq_false_of_not_eq_true hserved)
    have htrace : SentInOrder dev c.message bus bus [] [] := ⟨List.nil_prefix, by simp⟩
    refine .returns none ?_ (by rw [AdbCall.exec_eq, hexec]; rfl) rfl hdecide htrace
      (fun h => by cases h)
    rw [AdbCall.take_unsent fun hsent => hserved hsent.1, spent, if_neg hserved]

/-! ## Requests -/

/-- A call with what it finds in its environment and the pointers it is given. -/
structure Request where
  call : AdbCall
  env : Env
  out : Out

def Request.exec (dev : AdbDev) (r : Request) (bus : Bus) (reply : Int × Out) (bus' : Bus) : Prop :=
  r.call.exec dev r.env r.out bus = .ok reply bus'

/-- What the caller owes, and a payload whose sum with the header does not wrap. -/
structure Request.Proper (r : Request) : Prop where
  buffered : r.call.Buffered
  out : r.out.Proper
  fits : 24 + r.call.message.size < 2 ^ 32

/-- One call, as far as results go. -/
def Request.step (r : Request) (ch : Channel) : Option ((Int × Out) × Channel) :=
  (r.call.take r.env ch).map fun p => (reply r.out p.1, p.2)

theorem Request.does (dev : AdbDev) {r : Request} (hr : r.Proper)
    (hdecide : HeadersDecide bus.recvs) : r.call.Does dev r.env r.out bus :=
  AdbCall.does dev r.env hr.out hr.buffered hr.fits hdecide

/-- **The client refines its machine.** -/
theorem client_refines (dev : AdbDev) :
    Refines (Request.exec dev) Request.step channel Request.Proper
      fun bus => HeadersDecide bus.recvs where
  sound r bus reply bus' hr hdecide hexec := by
    cases r.does dev hr hdecide with
    | waits htake hexec' =>
      rw [Request.exec, hexec'] at hexec
      cases hexec
    | returns taken htake hexec' _ hdecide' =>
      rw [Request.exec, hexec'] at hexec
      cases hexec
      refine ⟨?_, hdecide'⟩
      rw [Request.step, htake]
      rfl
  complete r bus reply ch hr hdecide hstep := by
    rw [Request.step] at hstep
    cases r.does dev hr hdecide with
    | waits htake hexec =>
      rw [htake] at hstep
      cases hstep
    | returns taken htake hexec _ hdecide' =>
      rw [htake] at hstep
      cases hstep
      exact ⟨_, hexec, rfl, hdecide'⟩

/-! ## Runs -/

/-- **Whole runs.** A sequence of calls returns some results and leaves a channel exactly when the
machine says so. -/
theorem client_runs_iff (dev : AdbDev) (rs : List Request) (bus : Bus) (hr : ∀ r ∈ rs, r.Proper)
    (hdecide : HeadersDecide bus.recvs) (replies : List (Int × Out)) (ch : Channel) :
    (∃ log t, Runs (Request.exec dev) bus log t ∧ log.map Entry.call = rs
        ∧ log.map Entry.result = replies ∧ channel t = ch)
      ↔ answers Request.step rs (channel bus) = some (replies, ch) :=
  (client_refines dev).runs_iff hdecide hr replies ch

/-- The frames a call takes are the front of those to come. -/
theorem AdbCall.take_frames {c : AdbCall} {ch ch' : Channel} {taken : Option Frame}
    (h : c.take env ch = some (taken, ch')) :
    ch.frames = taken.toList ++ ch'.frames ∧ (taken.isSome ↔ c.Sent env ch.sends) := by
  unfold AdbCall.take at h
  split at h
  · rename_i hsent
    split at h
    · cases h
    · rename_i f fs hframes
      cases h
      exact ⟨hframes, iff_of_true rfl hsent⟩
  · rename_i hunsent
    cases h
    exact ⟨rfl, iff_of_false Bool.false_ne_true hunsent⟩

/-- What a run takes of the receives, call by call. -/
structure TakesFrames (bus t : Bus) (log : List (Entry Request Bus (Int × Out)))
    (taken : List (Option Frame)) : Prop where
  recvs : bus.recvs = taken.reduceOption.flatMap Frame.recvs ++ t.recvs
  frames : frames bus.recvs = taken.reduceOption ++ frames t.recvs
  calls : List.Forall₂ (fun e f => e.result = reply e.call.out f
    ∧ (f.isSome ↔ e.call.call.Sent e.call.env e.before.sends)) log taken

/-- **A run takes its frames one behind the other.** Each call that was sent returns the next frame
and every other call returns `-1`; what the calls take is the front of what the device sends, no
receive left out and none given to two calls. Induction on the run. -/
theorem runs_take_frames (dev : AdbDev) {bus t : Bus} {log : List (Entry Request Bus (Int × Out))}
    (hruns : Runs (Request.exec dev) bus log t) (hr : ∀ e ∈ log, e.call.Proper)
    (hdecide : HeadersDecide bus.recvs) : ∃ taken, TakesFrames bus t log taken := by
  induction hruns with
  | nil s => exact ⟨[], rfl, rfl, .nil⟩
  | @cons r bus bus' t result log head _ ih =>
    cases r.does dev (hr _ List.mem_cons_self) hdecide with
    | waits htake hexec =>
      rw [Request.exec, hexec] at head
      cases head
    | @returns taken bus'' htake hexec hrecvs hdecide' =>
      rw [Request.exec, hexec] at head
      cases head
      obtain ⟨hframes, hsent⟩ := AdbCall.take_frames htake
      obtain ⟨rest, h⟩ := ih (fun e he => hr e (List.mem_cons_of_mem _ he)) hdecide'
      have hcons : (taken :: rest).reduceOption = taken.toList ++ rest.reduceOption := by
        cases taken <;> rfl
      refine ⟨taken :: rest, ⟨?_, ?_, .cons ⟨rfl, hsent⟩ h.calls⟩⟩
      · rw [hrecvs, h.recvs, hcons, List.flatMap_append, List.append_assoc]
      · rw [hcons, List.append_assoc, ← h.frames]
        exact hframes

/-! ## What makes no difference

The receive loop looks at a length, at the command and at whether a payload is announced. It does
not check magic or checksum, and it does not compare the arguments with those of its request. -/

/-- Headers of one length and one command. -/
structure SameHeader (t u : Transfer) : Prop where
  length : t.bytes.length = u.bytes.length
  command : adbCommandMask t.bytes = adbCommandMask u.bytes

/-- Frames of one kind, with headers that look the same and payloads of one length. -/
inductive Frame.Alike : Frame → Frame → Prop
  | refused : Alike .refused .refused
  | broken (t u : Transfer) : Alike (.broken t) (.broken u)
  | single {t u : Transfer} (h : SameHeader t u) : Alike (.single t) (.single u)
  | pair {t u v w : Transfer} (h : SameHeader t u) (hlength : v.bytes.length = w.bytes.length) :
      Alike (.pair t v) (.pair u w)

/-- Two replies with one return value and one `*res`. -/
structure SameReply (p q : Int × Out) : Prop where
  ret : p.1 = q.1
  res : p.2.res = q.2.res

/-- Channels with the same sends to come, and frames that are alike. -/
structure Channel.Alike (a b : Channel) : Prop where
  sends : a.sends = b.sends
  frames : List.Forall₂ Frame.Alike a.frames b.frames

theorem Frame.Alike.reply {f g : Frame} (h : f.Alike g) (out : Out) :
    SameReply (f.reply out) (g.reply out) := by
  cases h with
  | refused => exact ⟨rfl, rfl⟩
  | broken t u => exact ⟨rfl, rfl⟩
  | single h =>
    refine ⟨rfl, ?_⟩
    simp only [Frame.reply, Out.received, payload, List.flatMap_cons, List.flatMap_nil,
      List.append_nil, h.length, h.command]
  | pair h hlength =>
    refine ⟨rfl, ?_⟩
    simp only [Frame.reply, Out.received, payload, List.flatMap_cons, List.flatMap_nil,
      List.append_nil, List.length_append, h.length, h.command, hlength]

theorem take_alike {c : AdbCall} {a b a' : Channel} {taken : Option Frame} (h : a.Alike b)
    (htake : c.take env a = some (taken, a')) (out : Out) :
    ∃ taken' b', c.take env b = some (taken', b') ∧ SameReply (reply out taken) (reply out taken')
      ∧ a'.Alike b' := by
  obtain ⟨sends, fs⟩ := a
  obtain ⟨sends', gs⟩ := b
  obtain ⟨hsends, hframes⟩ := h
  dsimp only at hsends hframes
  subst hsends
  unfold AdbCall.take at htake ⊢
  dsimp only at htake ⊢
  by_cases hsent : c.Sent env sends
  · rw [if_pos hsent] at htake ⊢
    cases hframes with
    | nil => cases htake
    | cons hfirst hrest =>
      cases htake
      exact ⟨_, _, rfl, hfirst.reply out, rfl, hrest⟩
  · rw [if_neg hsent] at htake ⊢
    cases htake
    exact ⟨_, _, rfl, ⟨rfl, rfl⟩, rfl, hframes⟩

theorem step_alike {r : Request} {a b a' : Channel} {p : Int × Out} (h : a.Alike b)
    (hstep : r.step a = some (p, a')) :
    ∃ q b', r.step b = some (q, b') ∧ SameReply p q ∧ a'.Alike b' := by
  obtain ⟨⟨taken, a''⟩, htake, hmap⟩ := Option.map_eq_some_iff.mp hstep
  cases hmap
  obtain ⟨taken', b', htake', hreply, halike⟩ := take_alike h htake r.out
  exact ⟨_, b', by rw [Request.step, htake']; rfl, hreply, halike⟩

/-- **What results depend on.** Where one device has its calls return, another one whose frames are
alike does so as well, with the same return values and the same `*res` in every call. -/
theorem results_of_alike (dev : AdbDev) {bus bus' t : Bus}
    {log : List (Entry Request Bus (Int × Out))} (hruns : Runs (Request.exec dev) bus log t)
    (hr : ∀ e ∈ log, e.call.Proper) (hdecide : HeadersDecide bus.recvs)
    (hdecide' : HeadersDecide bus'.recvs) (halike : (channel bus).Alike (channel bus')) :
    ∃ log' t', Runs (Request.exec dev) bus' log' t' ∧ log'.map Entry.call = log.map Entry.call
      ∧ List.Forall₂ SameReply (log.map Entry.result) (log'.map Entry.result) := by
  have hrefines := client_refines dev
  have hanswers := (hrefines.answers_of_runs hdecide hruns hr).1
  obtain ⟨replies, ch, hanswers', hreplies, -⟩ := answers_related
    (fun (r : Request) a b reply a' (h : a.Alike b) (hstep : r.step a = some (reply, a')) =>
      step_alike h hstep) halike hanswers
  obtain ⟨log', t', hruns', hcalls, hresults, -⟩ :=
    hrefines.exists_runs hdecide' (fun r hr' => by
      obtain ⟨e, he, rfl⟩ := List.mem_map.mp hr'
      exact hr e he) hanswers'
  exact ⟨log', t', hruns', hcalls, by rwa [hresults]⟩

/-! ## A run of two calls -/

/-- `adb_ready` without a buffer for the response. -/
def sampleRequest : Request := ⟨.ready 1 2, .zero, ⟨none, 0, ⟨0, 0⟩⟩⟩

/-- The `AUTH` header of `sampleAuth` with other arguments, no checksum and no magic. -/
def sampleForged : Transfer :=
  ⟨le32 adbCommandAuth ++ le32 7 ++ le32 8 ++ le32 2 ++ le32 0 ++ le32 0, by decide⟩

/-- An empty `OKAY`, then a header with the payload it announces. -/
def sampleAnswers (header payload : Transfer) : Bus :=
  .answering [.got sampleOkay, .got header, .got payload]

theorem sampleRequest_proper : ∀ r ∈ [sampleRequest, sampleRequest], r.Proper := by
  have h : sampleRequest.Proper := ⟨trivial, fun data h => (by cases h), by decide⟩
  simpa using h

theorem sampleAnswers_decide (header payload : Transfer) (hlength : header.bytes.length = 24)
    (hannounces : Announces header) :
    HeadersDecide (sampleAnswers header payload).recvs := by
  have hfirst : ¬ Announces sampleOkay := by decide
  simp only [sampleAnswers, Bus.answering, HeadersDecide, if_neg hfirst, if_pos hannounces,
    and_true]
  exact ⟨.inl (by decide), .inl (by omega)⟩

theorem sampleRun : ∃ log t,
    Runs (Request.exec ⟨3, 0x81, 1⟩) (sampleAnswers sampleAuth ⟨[1, 2], by decide⟩) log t
      ∧ log.map Entry.call = [sampleRequest, sampleRequest] := by
  obtain ⟨log, t, hruns, hcalls, -⟩ := (client_refines ⟨3, 0x81, 1⟩).exists_runs
    (sampleAnswers_decide sampleAuth ⟨[1, 2], by decide⟩ rfl (by decide)) sampleRequest_proper
    (show _ = some ([(0, ⟨none, 0, ⟨24, adbCommandOkay⟩⟩), (0, ⟨none, 0, ⟨26, adbCommandAuth⟩⟩)],
      ⟨fun _ => .sent 512, []⟩) from rfl)
  exact ⟨log, t, hruns, hcalls⟩

theorem sampleRun_proper {log : List (Entry Request Bus (Int × Out))}
    (h : log.map Entry.call = [sampleRequest, sampleRequest]) : ∀ e ∈ log, e.call.Proper :=
  fun _ he => sampleRequest_proper _ (h ▸ List.mem_map_of_mem he)

theorem two_calls_answered :
    ∃ log t, Runs (Request.exec ⟨3, 0x81, 1⟩) (sampleAnswers sampleAuth ⟨[1, 2], by decide⟩) log t
      ∧ log.map Entry.call = [sampleRequest, sampleRequest]
      ∧ log.map Entry.result
        = [(0, ⟨none, 0, ⟨24, adbCommandOkay⟩⟩), (0, ⟨none, 0, ⟨26, adbCommandAuth⟩⟩)]
      ∧ channel t = ⟨fun _ => .sent 512, []⟩ :=
  (client_runs_iff ⟨3, 0x81, 1⟩ [sampleRequest, sampleRequest] _ sampleRequest_proper
    (sampleAnswers_decide sampleAuth ⟨[1, 2], by decide⟩ rfl (by decide)) _ _).mpr rfl

theorem two_calls_take_frames :
    ∃ (t : Bus) (log : List (Entry Request Bus (Int × Out))) (taken : List (Option Frame)),
      TakesFrames (sampleAnswers sampleAuth ⟨[1, 2], by decide⟩) t log taken
      ∧ log.map Entry.call = [sampleRequest, sampleRequest] := by
  obtain ⟨log, t, hruns, hcalls⟩ := sampleRun
  obtain ⟨taken, h⟩ := runs_take_frames ⟨3, 0x81, 1⟩ hruns (sampleRun_proper hcalls)
    (sampleAnswers_decide sampleAuth ⟨[1, 2], by decide⟩ rfl (by decide))
  exact ⟨t, log, taken, h, hcalls⟩

/-- Two devices, one of which sends neither the arguments nor the checksum of an `AUTH` message. -/
theorem forged_answer_accepted :
    ∃ (log log' : List (Entry Request Bus (Int × Out))) (t' : Bus),
      Runs (Request.exec ⟨3, 0x81, 1⟩) (sampleAnswers sampleForged ⟨[3, 4], by decide⟩)
        log' t' ∧ log'.map Entry.call = log.map Entry.call
      ∧ log.map Entry.call = [sampleRequest, sampleRequest]
      ∧ List.Forall₂ SameReply (log.map Entry.result) (log'.map Entry.result) := by
  obtain ⟨log, t, hruns, hcalls⟩ := sampleRun
  have hforged : Announces sampleForged := by decide
  obtain ⟨log', t', hruns', hcalls', hreplies⟩ := results_of_alike ⟨3, 0x81, 1⟩ hruns
    (sampleRun_proper hcalls) (sampleAnswers_decide sampleAuth ⟨[1, 2], by decide⟩ rfl (by decide))
    (sampleAnswers_decide sampleForged ⟨[3, 4], by decide⟩ rfl hforged)
    ⟨rfl, .cons (.single ⟨rfl, rfl⟩) (.cons (.pair ⟨rfl, rfl⟩ rfl) .nil)⟩
  exact ⟨log, log', t', hruns', hcalls', hcalls, hreplies⟩

end Droidbox.Adb
