import Droidbox.Adb.Calls

/-!
# Droidbox — ADB results and uninitialised memory

`__send_request` decodes the command and the length field of a header at fixed offsets of
`__rbuffer`, whatever the first transfer brought. What it did not bring is there from before the
call, so the call may depend on bytes that no device sent.

* **`handleRequest_congr`**: two executions can only differ in their receive loops.
* **`drive_decided`**: behind a transfer that decides whether a payload follows they do not.
* **`AdbCall.independent_iff`**: a call depends only on what it receives exactly when its first
  transfer decides that.
-/

namespace Droidbox.Adb

open LittleEndian Scripted

variable {dev : AdbDev} {env env' : Env} {msg : AdbMessage} {out : Out} {bus : Bus}

/-! ## Up to the receive loop -/

/-- **Two executions of one request** with the same allocator do the same up to the receive loop,
if they get there. -/
theorem handleRequest_congr (hm : env.malloc = env'.malloc)
    (hloop : msg.Allocated env → msg.Buffered → msg.Delivered bus →
      (recvLoop dev.fd dev.in_endp receiveRound (Receiver.start env) >>= conclude out)
          (msg.sent dev bus)
        = (recvLoop dev.fd dev.in_endp receiveRound (Receiver.start env') >>= conclude out)
          (msg.sent dev bus)) :
    handleRequest dev env msg out bus = handleRequest dev env' msg out bus := by
  cases hserved : env.malloc (mallocSize (adbRequestLen msg.header.data_length)) with
  | false =>
    rw [handleRequest_refused dev out bus hserved, handleRequest_refused dev out bus (hm ▸ hserved)]
  | true =>
    have hserved' : env'.malloc (mallocSize (adbRequestLen msg.header.data_length)) = true :=
      hm ▸ hserved
    by_cases hlt : 24 + msg.size < 2 ^ 32
    · by_cases hb : msg.Buffered
      · have ha : msg.Allocated env := ⟨hserved, hlt⟩
        have ha' : msg.Allocated env' := ⟨hserved', hlt⟩
        by_cases hd : msg.Delivered bus
        · rw [handleRequest_delivered ha hb hd, handleRequest_delivered ha' hb hd]
          exact hloop ha hb hd
        · obtain ⟨bus', hexec, -⟩ := handleRequest_undelivered dev hb hd
          rw [hexec env out ha, hexec env' out ha']
      · obtain ⟨f, hfill⟩ := fillMstream_unbuffered hlt hb
        rw [handleRequest_unfilled dev out bus hserved hfill,
          handleRequest_unfilled dev out bus hserved' hfill]
    · have hfill := fillMstream_wrapped (Nat.le_of_not_lt hlt)
      rw [handleRequest_unfilled dev out bus hserved hfill,
        handleRequest_unfilled dev out bus hserved' hfill]

/-! ## The length field -/

/-- The transfer decides whether a payload follows: it brings the whole length field, or a part of
it that is not zero. -/
def Decides (t : Transfer) : Prop :=
  16 ≤ t.bytes.length ∨ ∃ i, 12 ≤ i ∧ i < t.bytes.length ∧ byteAt t.bytes i ≠ 0

/-- Where a transfer decides that there is none, it brings the whole length field. -/
theorem Decides.long {t : Transfer} (h : Decides t) (hzero : adbDataLenMask (env.view t) = 0) :
    16 ≤ t.bytes.length := by
  rcases h with hlong | ⟨i, hle, hlt, hne⟩
  · exact hlong
  · by_contra hshort
    have hbyte := (word32_eq_zero_iff _ _).mp hzero (i - 12) (by omega)
    rw [show 12 + (i - 12) = i by omega, Env.view, byteAt_overlay_left hlt] at hbyte
    exact hne hbyte

theorem Decides.mask_zero {t : Transfer} (h : Decides t)
    (hzero : adbDataLenMask (env.view t) = 0) (env' : Env) :
    adbDataLenMask (env'.view t) = 0 := by
  have hlong := h.long hzero
  rw [adbDataLenMask, Env.view, word32_overlay (by omega)] at hzero ⊢
  exact hzero

theorem Decides.code_eq {t : Transfer} (h : Decides t) (env env' : Env) :
    adbCommandMask (env.view t) = adbCommandMask (env'.view t) := by
  have hlong : 0 + 3 < t.bytes.length := by
    rcases h with h | ⟨i, hle, hlt, -⟩
    · omega
    · omega
  rw [adbCommandMask, adbCommandMask, Env.view, Env.view, word32_overlay hlong,
    word32_overlay hlong]

/-! ## The receive loop -/

theorem drive_pending {t : Transfer} (h : adbDataLenMask (env.view t) ≠ 0) :
    ∃ s, drive receiveRound (Receiver.start env) [.got t] = .starved s := by
  obtain ⟨s, -, -, hround⟩ := receiveRound_first env t
  rw [if_pos h] at hround
  exact ⟨_, by rw [drive_cons_again hround]; rfl⟩

/-- What is copied out lies in front of the end of what was received, so what `__rstream` held
makes no difference. -/
theorem Holds.conclude_eq {t : Transfer} {ts : List Transfer} {s s' : Receiver}
    (h : Holds env t ts s) (h' : Holds env' t ts s')
    (hcode : adbCommandMask (env.view t) = adbCommandMask (env'.view t)) :
    conclude out (0, s) = conclude out (0, s') := by
  have hlength : s.res.length = s'.res.length :=
    UInt32.toNat_inj.mp (h.length.trans h'.length.symm)
  have hres : s.res = s'.res := by
    calc s.res = ⟨s.res.length, s.res.code⟩ := rfl
      _ = ⟨s'.res.length, s'.res.code⟩ := by rw [hlength, h.code, h'.code, hcode]
      _ = s'.res := rfl
  obtain ⟨data, len, res⟩ := out
  cases data with
  | none =>
    unfold conclude Adb.finish
    dsimp only
    rw [hres]
  | some data =>
    have hcopy : copyOut s.data data len s.res.length = copyOut s'.data data len s'.res.length := by
      have hle : min len.toNat s'.res.length.toNat ≤ (payload (t :: ts)).length := by
        rw [h'.length]
        exact Nat.min_le_right _ _
      rw [hres, copyOut_eq, copyOut_eq, h.data, h'.data, take_overlay hle, take_overlay hle]
    unfold conclude Adb.finish
    dsimp only
    rw [hcopy, hres]

/-- The receive loop on the bus behind the sends: what it made of the receives, then the copy
out. -/
theorem loop_left {p : Int × Receiver} {rest : List RecvResult}
    (h : drive receiveRound (Receiver.start env) bus.recvs = .left (.ok p) rest) :
    (recvLoop dev.fd dev.in_endp receiveRound (Receiver.start env) >>= conclude out) bus
      = conclude out p (bus.afterRecvs dev.fd dev.in_endp rest) :=
  usb_bind_ok (recvLoop_ok_iff.mpr ⟨rest, h, rfl⟩)

theorem loop_starved {s : Receiver}
    (h : drive receiveRound (Receiver.start env) bus.recvs = .starved s) :
    (recvLoop dev.fd dev.in_endp receiveRound (Receiver.start env) >>= conclude out) bus
      = .error .blocked (bus.afterRecvs dev.fd dev.in_endp []) :=
  usb_bind_error (recvLoop_starved h)

theorem conclude_ne_blocked (p : Int × Receiver) (bus' : Bus) :
    conclude out p bus ≠ .error .blocked bus' := by
  unfold conclude
  cases finish out p.1 p.2 with
  | error f =>
    intro h
    cases h
  | ok reply =>
    intro h
    cases h

/-- **The receive loop behind a first transfer that decides.** -/
theorem drive_decided (env env' : Env)
    (hdecides : ∀ t rest, bus.recvs = .got t :: rest → Decides t) :
    (recvLoop dev.fd dev.in_endp receiveRound (Receiver.start env) >>= conclude out) bus
      = (recvLoop dev.fd dev.in_endp receiveRound (Receiver.start env') >>= conclude out) bus := by
  match hrecvs : bus.recvs with
  | [] =>
    rw [loop_starved (s := Receiver.start env) (by rw [hrecvs]; rfl),
      loop_starved (s := Receiver.start env') (by rw [hrecvs]; rfl)]
  | .failed :: rest =>
    rw [loop_left (by rw [hrecvs]; exact drive_failed env rest),
      loop_left (by rw [hrecvs]; exact drive_failed env' rest)]
    rfl
  | .got t :: rest =>
    have ht := hdecides t rest hrecvs
    have hcode := ht.code_eq env env'
    by_cases hmask : adbDataLenMask (env.view t) = 0
    · obtain ⟨s, hs, hdrive⟩ := drive_single hmask rest
      obtain ⟨s', hs', hdrive'⟩ := drive_single (ht.mask_zero hmask env') rest
      rw [loop_left (by rw [hrecvs]; exact hdrive), loop_left (by rw [hrecvs]; exact hdrive'),
        hs.conclude_eq hs' hcode]
    · have hmask' : adbDataLenMask (env'.view t) ≠ 0 := fun h => hmask (ht.mask_zero h env)
      -- both wait for a payload
      match rest with
      | [] =>
        obtain ⟨s, hdrive⟩ := drive_pending hmask
        obtain ⟨s', hdrive'⟩ := drive_pending hmask'
        rw [loop_starved (by rw [hrecvs]; exact hdrive),
          loop_starved (by rw [hrecvs]; exact hdrive')]
      | .failed :: rest =>
        obtain ⟨s, hdrive⟩ := drive_second_failed hmask rest
        obtain ⟨s', hdrive'⟩ := drive_second_failed hmask' rest
        rw [loop_left (by rw [hrecvs]; exact hdrive), loop_left (by rw [hrecvs]; exact hdrive')]
        rfl
      | .got u :: rest =>
        obtain ⟨s, hs, hdrive⟩ := drive_pair hmask u rest
        obtain ⟨s', hs', hdrive'⟩ := drive_pair hmask' u rest
        rw [loop_left (by rw [hrecvs]; exact hdrive), loop_left (by rw [hrecvs]; exact hdrive'),
          hs.conclude_eq hs' hcode]

/-! ## Transfers that do not decide -/

/-- A buffer of bytes that are all set. -/
def ones (n : Nat) : Buffer n := ⟨List.replicate n 255, List.length_replicate⟩

theorem view_byte (env : Env) {t : Transfer} (h : ¬ Decides t) {i : Nat} (hi : 12 ≤ i) :
    byteAt (env.view t) i = 0 ∨ byteAt (env.view t) i = byteAt env.rbuffer.bytes i := by
  rcases Nat.lt_or_ge i t.bytes.length with hlt | hge
  · refine .inl ?_
    rw [Env.view, byteAt_overlay_left hlt]
    by_contra hne
    exact h (.inr ⟨i, hi, hlt, hne⟩)
  · exact .inr (byteAt_overlay_right hge)

theorem mask_of_zero {t : Transfer} (h : ¬ Decides t) (henv : env.rbuffer = .zero 512) :
    adbDataLenMask (env.view t) = 0 := by
  refine (word32_eq_zero_iff _ _).mpr fun k hk => ?_
  rcases view_byte env h (show 12 ≤ 12 + k by omega) with hz | hz
  · exact hz
  · rw [hz, henv]
    exact byteAt_replicate 0 (by omega)

theorem mask_of_ones {t : Transfer} (h : ¬ Decides t) (henv : env.rbuffer = ones 512) :
    adbDataLenMask (env.view t) ≠ 0 := by
  intro hzero
  -- the last byte of the length field was not received
  have hshort : t.bytes.length ≤ 15 := Nat.le_of_not_lt fun hlong => h (.inl hlong)
  have hlast := (word32_eq_zero_iff _ _).mp hzero 3 (by decide)
  rw [Env.view, byteAt_overlay_right hshort, henv] at hlast
  have hset : byteAt (ones 512).bytes 15 = 255 := byteAt_replicate 255 (by decide)
  exact absurd (hset.symm.trans hlast) (by decide)

/-! ## Whole calls -/

/-- Two executions of a call in which the uninitialised arrays hold different bytes do the same:
they make the same USB calls, return the same value, and leave the same in the caller's memory. -/
def AdbCall.Independent (dev : AdbDev) (env : Env) (out : Out) (c : AdbCall) (bus : Bus) : Prop :=
  ∀ rbuffer rstream rbuffer' rstream',
    c.exec dev { env with rbuffer := rbuffer, rstream := rstream } out bus
      = c.exec dev { env with rbuffer := rbuffer', rstream := rstream' } out bus

/-- The first transfer the call receives, if it gets to receive one, decides whether a payload
follows. -/
def AdbCall.HeaderDecides (env : Env) (c : AdbCall) (bus : Bus) : Prop :=
  c.message.Allocated env → c.message.Buffered → c.message.Delivered bus →
    ∀ t rest, bus.recvs = .got t :: rest → Decides t

theorem AdbCall.independent_of_decides {c : AdbCall} (h : c.HeaderDecides env bus) :
    c.Independent dev env out bus := by
  intro rbuffer rstream rbuffer' rstream'
  rw [AdbCall.exec_eq, AdbCall.exec_eq]
  refine handleRequest_congr rfl fun ha hb hd => drive_decided _ _ fun t rest hrecvs => ?_
  rw [AdbMessage.sent_recvs] at hrecvs
  exact h ha hb hd t rest hrecvs

/-- A first transfer that does not decide: on zeros the call is over, on other bytes it waits. -/
theorem AdbCall.decides_of_independent {c : AdbCall} (h : c.Independent dev env out bus) :
    c.HeaderDecides env bus := by
  intro ha hb hd t rest hrecvs
  by_contra hdecides
  have hrun := h (.zero 512) (.zero 2048) (ones 512) (.zero 2048)
  have hzeros : c.message.Allocated { env with rbuffer := .zero 512, rstream := .zero 2048 } := ha
  have hones : c.message.Allocated { env with rbuffer := ones 512, rstream := .zero 2048 } := ha
  rw [AdbCall.exec_eq, AdbCall.exec_eq, handleRequest_delivered hzeros hb hd,
    handleRequest_delivered hones hb hd] at hrun
  have hbus : (c.message.sent dev bus).recvs = .got t :: rest := by
    rw [AdbMessage.sent_recvs, hrecvs]
  have hzero : adbDataLenMask
      (Env.view { env with rbuffer := .zero 512, rstream := .zero 2048 } t) = 0 :=
    mask_of_zero hdecides rfl
  have hmask : adbDataLenMask
      (Env.view { env with rbuffer := ones 512, rstream := .zero 2048 } t) ≠ 0 :=
    mask_of_ones hdecides rfl
  obtain ⟨s, -, hsingle⟩ := drive_single hzero rest
  rw [loop_left (by rw [hbus]; exact hsingle)] at hrun
  match rest with
  | [] =>
    obtain ⟨s', hpending⟩ := drive_pending hmask
    rw [loop_starved (by rw [hbus]; exact hpending)] at hrun
    exact absurd hrun (conclude_ne_blocked _ _)
  | r :: rest =>
    -- one of the two calls consumed `r`
    have hrecvs' := congrArg (fun run => (finalBus run).recvs) hrun
    simp only [finalBus_conclude] at hrecvs'
    cases r with
    | failed =>
      obtain ⟨s', hdrive⟩ := drive_second_failed hmask rest
      rw [loop_left (by rw [hbus]; exact hdrive), finalBus_conclude] at hrecvs'
      exact absurd hrecvs' (List.cons_ne_self _ _)
    | got u =>
      obtain ⟨s', -, hdrive⟩ := drive_pair hmask u rest
      rw [loop_left (by rw [hbus]; exact hdrive), finalBus_conclude] at hrecvs'
      exact absurd hrecvs' (List.cons_ne_self _ _)

/-- **When a call depends only on what it receives.** -/
theorem AdbCall.independent_iff (dev : AdbDev) (env : Env) (out : Out) (c : AdbCall) (bus : Bus) :
    c.Independent dev env out bus ↔ c.HeaderDecides env bus :=
  ⟨AdbCall.decides_of_independent, AdbCall.independent_of_decides⟩

/-- `adb_ready` answered by a transfer without bytes. -/
theorem ready_not_independent :
    ¬ (AdbCall.ready 1 2).Independent ⟨3, 0x81, 1⟩ .zero ⟨none, 0, ⟨0, 0⟩⟩
      (.answering [.got ⟨[], by decide⟩]) := by
  intro h
  have hdecides := AdbCall.decides_of_independent h ⟨rfl, by decide⟩ (Nat.le_refl 0)
    (fun i _ => Bus.answering_sendsSucceed _ i) ⟨[], by decide⟩ [] rfl
  rcases hdecides with hlong | ⟨i, -, hlt, -⟩
  · exact absurd hlong (by decide)
  · exact absurd hlt (Nat.not_lt_zero i)

end Droidbox.Adb
