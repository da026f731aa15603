import Droidbox.Adb.Delivery
import Droidbox.Lib.Walk

/-!
# Droidbox — the stream pump of `main`

`main` connects, authenticates and opens a stream, and if the code in `adbres` is `OKAY` it calls
`adb_ready` until the code is `CLSE`. It looks at the code alone and never at what a call returned.
A call that fails leaves `adbres` as it was, so when the device is gone the code stays what it is.

Behind `adb_connect` it takes 20 bytes of the response for a string, and asks for its length whether
there is a NUL among them or not.

* **`pump_code`**: whenever `main` is about to call `adb_ready` the code is not `CLSE`.
* **`Stuck.round`**: without a device one more call changes nothing of that.
* **`gone_never_stops`**: so behind a device that is gone the loop has no end.
-/

namespace Droidbox.Adb.Pump

open LittleEndian Scripted Walk

/-! ## The end of `main` -/

/-- `ADB_PROTO_VERSION` -/
abbrev adbProtoVersion : UInt32 := 0x01000000

/-- `ADB_AUTH_TYPE_RSAPUBLICKEY` -/
abbrev adbAuthTypeRsapublickey : UInt32 := 3

/-- `"host::"` -/
def host : List UInt8 := [104, 111, 115, 116, 58, 58, 0]

/-- `"framebuffer: "` -/
def framebuffer : List UInt8 := [102, 114, 97, 109, 101, 98, 117, 102, 102, 101, 114, 58, 32, 0]

/-- The call `main` makes next, or the release of the interface. -/
inductive Stage where
  | connect
  | auth
  | openStream
  | ready
  | release
  deriving DecidableEq, Repr

/-- The device file, the array `rsakey_ex`, and what the `adb_*` calls find in their environment,
one behind the other. -/
structure Setup where
  fd : Int
  rsakey_ex : List UInt8
  envs : Nat → Env

def Setup.adbdev (m : Setup) : AdbDev where
  fd := m.fd
  in_endp := 0x05
  out_endp := 0x03

/-- `adb_res_buff` with its 2048 bytes and `adbres`, with the number of calls made so far. -/
structure Main where
  stage : Stage
  calls : Nat
  out : Out
  bus : Bus

def Main.start (adb_res_buff : Buffer 2048) (bus : Bus) : Main where
  stage := .connect
  calls := 0
  out := ⟨some adb_res_buff.bytes, 2048, ⟨0, 0⟩⟩
  bus := bus

/-- `token`: the 20 bytes behind `sizeof(struct message)` in `adb_res_buff`. -/
def token (out : Out) : List UInt8 := (List.range' 24 20).map (byteAt (out.data.getD []))

/-- `strlen(token)`. Without a NUL in the array it reads on behind it. -/
def tokenLen (out : Out) : Except Fault Nat :=
  if 0 ∈ token out then .ok (strlen (token out)) else .error (.read .token 20 1)

/-- One call, and what `main` makes of the memory it left. What the call returned only decides
whether its response is printed. -/
def Main.call (m : Setup) (s : Main) (c : AdbCall) (next : Out → Except Fault Stage) :
    Round Main (Except Halt Int) :=
  match c.exec m.adbdev (m.envs s.calls) s.out s.bus with
  | .error h _ => .leave (.error h)
  | .ok (_, out) bus =>
    match next out with
    | .error f => .leave (.error (.fault f))
    | .ok stage => .again ⟨stage, s.calls + 1, out, bus⟩

/-- `main` from the claim of the interface on, call by call. -/
def mainRound (m : Setup) (s : Main) : Round Main (Except Halt Int) :=
  match s.stage with
  | .connect =>
    s.call m (.connect adbProtoVersion 0x1000 host) fun out =>
      match tokenLen out with
      | .error f => .error f
      | .ok _ => .ok .auth
  | .auth =>
    s.call m (.auth adbAuthTypeRsapublickey (some m.rsakey_ex) 524) fun _ => .ok .openStream
  | .openStream =>
    s.call m (.openStream 4 framebuffer) fun out =>
      .ok (if out.res.code = adbCommandOkay then .ready else .release)
  | .ready =>
    s.call m (.ready 4 3) fun out =>
      .ok (if out.res.code ≠ adbCommandClse then .ready else .release)
  | .release => .leave (.ok 0)

variable {m : Setup} {s t : Main} {c : AdbCall} {next : Out → Except Fault Stage}

theorem call_stage (h : s.call m c next = .again t) : next t.out = .ok t.stage := by
  unfold Main.call at h
  split at h
  · cases h
  · split at h
    · cases h
    · rename_i hnext
      cases h
      exact hnext

theorem Main.call_ok {ret : Int} {out : Out} {bus : Bus} {stage : Stage}
    (hexec : c.exec m.adbdev (m.envs s.calls) s.out s.bus = .ok (ret, out) bus)
    (hnext : next out = .ok stage) : s.call m c next = .again ⟨stage, s.calls + 1, out, bus⟩ := by
  unfold Main.call
  rw [hexec]
  dsimp only
  rw [hnext]

/-- **The code in front of the next `adb_ready`** is not `CLSE`. -/
theorem pump_code (h : mainRound m s = .again t) (ht : t.stage = .ready) :
    t.out.res.code ≠ adbCommandClse := by
  unfold mainRound at h
  split at h
  · have hstage := call_stage h
    rw [ht] at hstage
    split at hstage <;> cases hstage
  · have hstage := call_stage h
    rw [ht] at hstage
    cases hstage
  · have hstage := Except.ok.inj (call_stage h)
    rw [ht] at hstage
    split at hstage
    · rename_i hokay
      rw [hokay]
      decide
    · cases hstage
  · have hstage := Except.ok.inj (call_stage h)
    rw [ht] at hstage
    split at hstage
    · assumption
    · cases hstage
  · cases h

/-! ## Without a device -/

/-- Every transfer from here on fails. -/
structure Gone (bus : Bus) : Prop where
  sends : ∀ i, bus.sends i = .failed
  recvs : ∀ r ∈ bus.recvs, r = .failed

/-- A request that finds no device: `-1` with the caller's memory untouched, and no device behind
it. -/
theorem Gone.exec {bus : Bus} (h : Gone bus) (dev : AdbDev) (env : Env) (out : Out)
    (local_id remote_id : UInt32) :
    ∃ bus', (AdbCall.ready local_id remote_id).exec dev env out bus = .ok (-1, out) bus'
      ∧ Gone bus' := by
  rw [AdbCall.exec_eq]
  by_cases ha : (AdbCall.ready local_id remote_id).message.Allocated env
  · have hb : (AdbCall.ready local_id remote_id).message.Buffered :=
      AdbCall.message_buffered trivial
    have hframed := ha.framed hb
    exact ⟨_, handleRequest_unsent ha hb (sendRequest_first_failed hframed (h.sends 0)),
      fun i => h.sends (i + 1), h.recvs⟩
  · rcases handleRequest_unallocated dev out bus ha with hexec | ⟨hwrap, -⟩
    · exact ⟨bus, hexec, h⟩
    · -- the message has no payload
      exact absurd (show 2 ^ 32 ≤ 24 + 0 from hwrap) (by decide)

/-- `main` is about to call `adb_ready`, and the device is gone. -/
structure Stuck (s : Main) : Prop where
  stage : s.stage = .ready
  code : s.out.res.code ≠ adbCommandClse
  bus : Gone s.bus

/-- **One more call** without a device: nothing changes but the number of calls. -/
theorem Stuck.round (h : Stuck s) (m : Setup) :
    ∃ t, mainRound m s = .again t ∧ Stuck t ∧ t.calls = s.calls + 1 := by
  obtain ⟨bus', hexec, hgone⟩ := h.bus.exec m.adbdev (m.envs s.calls) s.out 4 3
  refine ⟨⟨.ready, s.calls + 1, s.out, bus'⟩, ?_, ⟨rfl, h.code, hgone⟩, rfl⟩
  unfold mainRound
  rw [h.stage]
  exact Main.call_ok hexec (congrArg Except.ok (if_pos h.code))

theorem Stuck.reaches (h : Stuck s) (hreach : Reaches (mainRound m) s t) : Stuck t := by
  refine hreach.invariant (fun u v hu hround => ?_) h
  obtain ⟨w, hw, hstuck, -⟩ := hu.round m
  rw [hw] at hround
  cases hround
  exact hstuck

/-! ## The end of the loop -/

/-- From here on `main` makes a bounded number of calls. -/
def Main.Bounded (m : Setup) (s : Main) : Prop :=
  ∃ n, ∀ t, Reaches (mainRound m) s t → t.calls ≤ s.calls + n

/-- From here on `main` gets to the release of the interface. -/
def Main.Released (m : Setup) (s : Main) : Prop :=
  ∃ t, Reaches (mainRound m) s t ∧ t.stage = .release

/-- A state `main` gets to in which it is about to call `adb_ready`: behind `adb_open` the code was
`OKAY`, and it has not been `CLSE` since. -/
structure Pumping (m : Setup) (s : Main) : Prop where
  stage : s.stage = .ready
  reached : ∃ adb_res_buff bus, Reaches (mainRound m) (.start adb_res_buff bus) s

theorem Pumping.code (h : Pumping m s) : s.out.res.code ≠ adbCommandClse := by
  obtain ⟨adb_res_buff, bus, hreach⟩ := h.reached
  have hall : s.stage = .ready → s.out.res.code ≠ adbCommandClse := by
    refine hreach.invariant (I := fun s => s.stage = .ready → s.out.res.code ≠ adbCommandClse)
      (fun u v _ hround => pump_code hround) ?_
    intro hstart
    cases hstart
  exact hall h.stage

theorem Stuck.not_bounded (h : Stuck s) (m : Setup) : ¬ s.Bounded m := by
  rintro ⟨n, hn⟩
  obtain ⟨t, ht, -, hcalls⟩ :=
    exists_reaches_of_counts Main.calls (fun u (hu : Stuck u) => hu.round m) h (n + 1)
  have hle := hn t ht
  omega

theorem Stuck.not_released (h : Stuck s) (m : Setup) : ¬ s.Released m := by
  rintro ⟨t, ht, hrelease⟩
  rw [(h.reaches ht).stage] at hrelease
  cases hrelease

/-- **Behind a device that is gone the loop has no end**, whatever the device answered before: the
calls of `adb_ready` go on without a bound, and the interface is never released. -/
theorem gone_never_stops (h : Pumping m s) (hgone : Gone s.bus) :
    ¬ s.Bounded m ∧ ¬ s.Released m := by
  have hstuck : Stuck s := ⟨h.stage, h.code, hgone⟩
  exact ⟨hstuck.not_bounded m, hstuck.not_released m⟩

/-! ## A device that is unplugged -/

/-- A device that answers some more calls by an empty `OKAY`, and is gone after some more sends. -/
structure Plugged (sends answers : Nat) (s : Main) : Prop where
  out : s.out.Proper
  sends : ∀ i, s.bus.sends i = .failed ↔ sends ≤ i
  recvs : s.bus.recvs = List.replicate answers (.got sampleOkay)

theorem view_sampleOkay (env : Env) :
    adbCommandMask (env.view sampleOkay) = adbCommandOkay
    ∧ adbDataLenMask (env.view sampleOkay) = 0 := by
  constructor
  · rw [adbCommandMask, Env.view, word32_overlay (by decide)]
    decide
  · rw [adbDataLenMask, Env.view, word32_overlay (by decide)]
    decide

/-- A call that is answered. -/
theorem Plugged.call (next : Out → Except Fault Stage) (stage : Stage) (sends : Nat) {answers : Nat}
    (h : Plugged (c.message.buffers.length + sends) (answers + 1) s) (hb : c.message.Buffered)
    (ha : c.message.Allocated (m.envs s.calls))
    (hnext : next (s.out.received (payload [sampleOkay]) adbCommandOkay) = .ok stage) :
    ∃ t, s.call m c next = .again t ∧ t.stage = stage ∧ Plugged sends answers t := by
  obtain ⟨hcode, hmask⟩ := view_sampleOkay (m.envs s.calls)
  obtain ⟨r, hr, hdrive⟩ := drive_single hmask (List.replicate answers (.got sampleOkay))
  have hd : c.message.Delivered s.bus := by
    intro i hi hfailed
    have hle := (h.sends i).mp hfailed
    omega
  rw [← List.replicate_succ, ← h.recvs] at hdrive
  have hfinish := hr.finish (payload_single_length_le sampleOkay) h.out
  rw [hcode] at hfinish
  have hexec : handleRequest m.adbdev (m.envs s.calls) c.message s.out s.bus = _ :=
    handleRequest_left ha hb hd hdrive hfinish
  rw [← AdbCall.exec_eq] at hexec
  refine ⟨_, Main.call_ok hexec hnext, rfl, h.out.received _ _, fun i => ?_, rfl⟩
  show (c.message.sent m.adbdev s.bus).sends i = .failed ↔ _
  rw [AdbMessage.sent_sends, h.sends]
  omega

/-- The buffer of 2048 zero bytes with the empty `OKAY` in front of it has a NUL for `strlen`. -/
theorem tokenLen_sampleOkay (bus : Bus) : ∃ n, tokenLen ((Main.start (.zero 2048) bus).out.received
    (payload [sampleOkay]) adbCommandOkay) = .ok n := by
  have hzero : byteAt (overlay ((payload [sampleOkay]).take (min 2048 24))
      (Buffer.zero 2048).bytes) 24 = 0 :=
    (byteAt_overlay_right (by decide)).trans (byteAt_replicate 0 (by decide))
  have hmem : 0 ∈ token ((Main.start (.zero 2048) bus).out.received (payload [sampleOkay])
      adbCommandOkay) :=
    List.mem_map.mpr ⟨24, List.mem_range'_1.mpr ⟨Nat.le_refl 24, by decide⟩, hzero⟩
  exact ⟨_, if_pos hmem⟩

def sampleSetup : Setup where
  fd := 3
  rsakey_ex := List.replicate 524 0
  envs := fun _ => .zero

/-- A device that answers the three calls in front of the pump and is gone behind them. -/
def sampleBus : Bus where
  sends := fun i => if i < 6 then .sent 512 else .failed
  recvs := List.replicate 3 (.got sampleOkay)
  trace := []

/-- `main` gets to the pump with it. -/
theorem sampleBus_pumps : ∃ s, Pumping sampleSetup s ∧ Gone s.bus := by
  have hstart : Plugged 6 3 (.start (.zero 2048) sampleBus) := by
    refine ⟨?_, fun i => ?_, rfl⟩
    · rintro data hdata
      cases hdata
      exact Nat.le_of_eq List.length_replicate.symm
    · show (if i < 6 then SendResult.sent 512 else .failed) = .failed ↔ 6 ≤ i
      split <;> simp <;> omega
  have hserved : ∀ (k : Nat) (msg : AdbMessage), 24 + msg.size < 2 ^ 32 →
      msg.Allocated (sampleSetup.envs k) := fun k msg hlt => ⟨rfl, hlt⟩
  have hkey : (524 : UInt32).toNat ≤ sampleSetup.rsakey_ex.length := by
    rw [sampleSetup, List.length_replicate]
    decide
  obtain ⟨n, htoken⟩ := tokenLen_sampleOkay sampleBus
  -- each of the three calls sends a header and a payload
  obtain ⟨s₁, hround₁, hstage₁, h₁⟩ := Plugged.call (m := sampleSetup)
    (c := .connect adbProtoVersion 0x1000 host)
    (fun out => match tokenLen out with
      | .error f => .error f
      | .ok _ => .ok .auth)
    .auth 4 hstart (AdbCall.message_buffered trivial) (hserved _ _ (by decide)) (by rw [htoken])
  obtain ⟨s₂, hround₂, hstage₂, h₂⟩ := Plugged.call (m := sampleSetup)
    (c := .auth adbAuthTypeRsapublickey (some sampleSetup.rsakey_ex) 524)
    (fun _ => .ok .openStream) .openStream 2 h₁ (AdbCall.message_buffered hkey)
    (hserved _ _ (show 24 + 524 < 2 ^ 32 by decide)) rfl
  obtain ⟨s₃, hround₃, hstage₃, h₃⟩ := Plugged.call (m := sampleSetup)
    (c := .openStream 4 framebuffer)
    (fun out => .ok (if out.res.code = adbCommandOkay then .ready else .release)) .ready 0 h₂
    (AdbCall.message_buffered trivial) (hserved _ _ (by decide)) (congrArg Except.ok (if_pos rfl))
  have hconnect : mainRound sampleSetup (.start (.zero 2048) sampleBus) = .again s₁ := hround₁
  have hauth : mainRound sampleSetup s₁ = .again s₂ := by
    unfold mainRound
    rw [hstage₁]
    exact hround₂
  have hopen : mainRound sampleSetup s₂ = .again s₃ := by
    unfold mainRound
    rw [hstage₂]
    exact hround₃
  have hreach := (((Reaches.refl _ _).tail hconnect).tail hauth).tail hopen
  refine ⟨s₃, ⟨hstage₃, _, _, hreach⟩, fun i => (h₃.sends i).mpr (Nat.zero_le i), ?_⟩
  rw [h₃.recvs]
  exact fun r hr => absurd hr List.not_mem_nil

/-- Unplugged behind the answer to `adb_open`. -/
theorem gone_never_stops_unplugged :
    ∃ s, Pumping sampleSetup s ∧ Gone s.bus ∧ ¬ s.Bounded sampleSetup
      ∧ ¬ s.Released sampleSetup := by
  obtain ⟨s, hpumping, hgone⟩ := sampleBus_pumps
  exact ⟨s, hpumping, hgone, gone_never_stops hpumping hgone⟩

/-- So the loop does not stop whenever the device is gone. -/
theorem unplugged_not_stopped :
    ¬ ∀ m s, Pumping m s → Gone s.bus → s.Bounded m ∧ s.Released m := by
  intro h
  obtain ⟨s, hpumping, hgone⟩ := sampleBus_pumps
  have hstuck : Stuck s := ⟨hpumping.stage, hpumping.code, hgone⟩
  exact hstuck.not_released _ (h sampleSetup s hpumping hgone).2

end Droidbox.Adb.Pump
