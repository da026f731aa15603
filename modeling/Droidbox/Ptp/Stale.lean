import Droidbox.Lib.Session
import Droidbox.Ptp.Cutting

/-!
# Droidbox — stale data in a sequence of PTP calls

A caller keeps one `ptp_res_t` and one data buffer for all its calls. `__handle_request` reads
`res->length` after the receive loops to find out how much it has to copy, and only a data
container writes it. A call that is answered by a response alone therefore works with the length
of an earlier call, and copies bytes of `__rstream` that nobody wrote.

* **`Turn.Takes.effect`**: what one call makes of the shared `res` and of the shared buffer.
* **`announced_of_runs`**: behind a data container `res->length` is the length of the last one.
* **`fresh_over_runs`**: which runs never show stale data.
-/

namespace Droidbox.Ptp

open LittleEndian Scripted Session

/-! ## Calls that share their memory -/

/-- The bus, and the memory that all calls of the sequence are given. -/
structure Shared where
  bus : Bus
  res : PtpRes
  data : List UInt8

/-- One call and the device's answer to it: a data container or none, and a response. `given` says
whether the data buffer is passed or `NULL`. -/
structure Turn where
  call : PtpCall
  env : Env
  given : Bool
  len : UInt32
  rparams : Option PtpResParams
  container : Option Cut
  response : Transfer
  shows : 6 ≤ response.bytes.length
  isResponse : responseTypeMask response.bytes = ptpContainerTypeResponseBlock

def Turn.containerTransfers (k : Turn) : List Transfer :=
  match k.container with
  | none => []
  | some d => d.transfers

def Turn.transfers (k : Turn) : List Transfer := k.containerTransfers ++ [k.response]

def Turn.out (k : Turn) (s : Shared) : Out where
  data := if k.given then some s.data else none
  len := k.len
  res := some s.res
  rparams := k.rparams

/-- The call returned: its sends and its receives succeeded, and the device gave this answer. -/
structure Turn.Takes (dev : PtpDev) (k : Turn) (s : Shared) (reply : Int × Out) (s' : Shared) :
    Prop where
  delivered : k.call.Delivered s.bus
  answered : ∃ rest, s.bus.recvs = k.transfers.map .got ++ rest
  exec : k.call.exec dev k.env (k.out s) s.bus = .ok reply s'.bus
  res : reply.2.res = some s'.res
  data : reply.2.data.getD s.data = s'.data

/-- The container in `__rbuffer` when its first transfer was received. -/
def Turn.Shown (k : Turn) : Prop :=
  ∀ d ∈ k.container, d.Shown (k.call.frame k.env).rbuffer

/-- Whether the call copies into the caller's buffer. -/
def Turn.copies (k : Turn) : Bool := k.call.takesData && k.given

/-! ## One call -/

def Turn.stream (k : Turn) : List UInt8 :=
  match k.container with
  | none => []
  | some d => d.bytes

/-- What the final copy finds at the front of `__rstream`. -/
def Turn.rstream (k : Turn) : List UInt8 := overlay k.stream (k.call.frame k.env).rstream.bytes

theorem Turn.drive_transfers {k : Turn} (hshown : k.Shown) :
    ∃ c, drive (collectRound (k.call.frame k.env).rstream)
        (Collector.start (k.call.frame k.env)) k.transfers = .left c []
      ∧ c.stream = k.stream ∧ c.length = k.container.map Cut.length := by
  have hcontainer : ∃ c, drive (collectRound (k.call.frame k.env).rstream)
      (Collector.start (k.call.frame k.env)) k.containerTransfers = .starved c
        ∧ c.loop = .outer ∧ c.stream = k.stream ∧ c.length = k.container.map Cut.length := by
    unfold Turn.containerTransfers Turn.stream
    cases hk : k.container with
    | none => exact ⟨_, rfl, rfl, rfl, rfl⟩
    | some d =>
      obtain ⟨c, hc, hcomplete, -⟩ := d.drive_transfers (k.call.frame k.env).rstream
        (show (Collector.start (k.call.frame k.env)).loop = .outer from rfl) (hshown d hk)
      exact ⟨c, hc, hcomplete.loop, hcomplete.stream,
        hcomplete.length.trans (congrArg some (d.length_overlay _))⟩
  obtain ⟨c, hc, hloop, hstream, hlength⟩ := hcontainer
  refine ⟨{ c with rbuffer := (usbBulkRecv (.got k.response) c.rbuffer).2 }, ?_, hstream, hlength⟩
  rw [Turn.transfers, drive_append_starved hc,
    drive_cons_leave (collectRound_response _ hloop k.shows k.isResponse)]

/-- The receive loops on the answer: the response case on what the collector determines. -/
theorem Turn.drive_receiver {k : Turn} (s : Shared) (hshown : k.Shown) :
    ∃ q r c, drive receiveRound (k.call.start k.env (k.out s)) (k.transfers.map .got) = .left q []
      ∧ Tracks (k.call.frame k.env) (some s.res) (k.call.pointers (k.out s)).rparams r c
      ∧ responseBlock r = .leave q
      ∧ c.stream = k.stream ∧ c.length = k.container.map Cut.length := by
  obtain ⟨c, hc, hstream, hlength⟩ := Turn.drive_transfers hshown
  have hfits : c.stream.length ≤ 2048 := by
    rw [hstream, Turn.stream]
    split
    · exact Nat.zero_le _
    · rename_i d _
      exact d.length_le
  obtain ⟨q, hq, r, htracks, hr⟩ := receiver_responds (k.call.frame k.env) (some s.res)
    (k.call.pointers (k.out s)).rparams hc hfits
  exact ⟨q, r, c, hq, htracks, hr, hstream, hlength⟩

/-- A response that was stored changed neither `__rstream` nor the length. -/
theorem responseBlock_ok {s s' : Receiver} (h : responseBlock s = .leave (.ok s')) :
    s'.data = s.data
      ∧ s'.res = s.res.map fun res => { res with code := responseCodeMask s.rbuffer.bytes } := by
  unfold responseBlock at h
  dsimp only at h
  split at h
  · cases h
    exact ⟨rfl, rfl⟩
  · split at h
    · cases h
      exact ⟨rfl, rfl⟩
    · cases h

theorem finish_data {out o : Out} {s : Receiver} {res : PtpRes} (h : finish out s = .ok o)
    (hres : s.res = some res) :
    o.data = out.data.map (overlay (s.data.bytes.take (min out.len.toNat res.length.toNat)))
      ∧ ∀ data ∈ out.data, min out.len.toNat res.length.toNat ≤ min 2048 data.length := by
  cases hd : out.data with
  | none =>
    rw [finish_none hd] at h
    cases h
    exact ⟨hd, nofun⟩
  | some data =>
    simp only [finish, hd, hres, copyResponse, copyOut_eq] at h
    by_cases hread : 2048 < min out.len.toNat res.length.toNat
    · simp [hread] at h
    · by_cases hwrite : data.length < min out.len.toNat res.length.toNat
      · simp [hread, hwrite] at h
      · simp only [hread, hwrite, if_false, Except.ok.injEq] at h
        refine ⟨by rw [← h]; rfl, ?_⟩
        rintro _ ⟨⟩
        omega

/-- How many bytes a call copies when its result structure holds `length`. -/
def Turn.count (k : Turn) (length : UInt32) : Nat := min k.len.toNat length.toNat

theorem Turn.pointers_data_iff {k : Turn} {s : Shared} {data : List UInt8} :
    (k.call.pointers (k.out s)).data = some data ↔ k.copies = true ∧ s.data = data := by
  rw [PtpCall.pointers_data_iff, Turn.copies, Bool.and_eq_true, and_assoc]
  simp [Turn.out]

theorem Turn.pointers_len {k : Turn} (s : Shared) (h : k.copies = true) :
    (k.call.pointers (k.out s)).len = k.len := by
  obtain ⟨htakes, -⟩ := Bool.and_eq_true_iff.mp h
  simp [PtpCall.pointers, Turn.out, htakes]

/-- What a call makes of the shared memory. -/
structure Turn.Effect (k : Turn) (s s' : Shared) : Prop where
  length : s'.res.length = (k.container.map Cut.length).getD s.res.length
  data : s'.data
    = if k.copies then overlay (k.rstream.take (k.count s'.res.length)) s.data else s.data
  inside : k.copies = true → k.count s'.res.length ≤ min 2048 s.data.length

theorem Turn.Effect.data_length {k : Turn} {s s' : Shared} (h : k.Effect s s') :
    s'.data.length = s.data.length := by
  rw [h.data]
  split
  · rename_i hcopies
    have hinside := h.inside hcopies
    refine overlay_length ?_
    rw [List.length_take]
    omega
  · rfl

/-- **One call.** The length of its container, or the old one, and as many bytes of `__rstream`. -/
theorem Turn.Takes.effect {dev : PtpDev} {k : Turn} {s s' : Shared} {reply : Int × Out}
    (h : k.Takes dev s reply s') (hshown : k.Shown) : k.Effect s s' := by
  obtain ⟨rest, hrecvs⟩ := h.answered
  obtain ⟨q, r, c, hq, htracks, hr, hstream, hlength⟩ := Turn.drive_receiver s hshown
  -- so much for the loops; now the final copy
  obtain ⟨r', rest', o, hdrive, hfinish, rfl, -⟩ := (PtpCall.exec_ok dev k.env (k.out s)
    h.delivered).mp h.exec
  rw [hrecvs, drive_append, hq] at hdrive
  cases hdrive
  obtain ⟨hdata, hres⟩ := responseBlock_ok hr
  have hrstream : r'.data.bytes = k.rstream := by
    rw [hdata, htracks.data, hstream]
    rfl
  obtain ⟨hcopy, hinside⟩ := finish_data hfinish ((finish_res hfinish).symm.trans h.res)
  rw [hrstream] at hcopy
  have hreply := h.data
  simp only [Out.merge, hcopy] at hreply
  constructor
  · have hsome := (finish_res hfinish).symm.trans h.res
    rw [hres, htracks.res, hlength] at hsome
    rw [← Option.some.inj hsome]
  · rw [← hreply]
    unfold Turn.copies
    cases htakes : k.call.takesData <;> cases hgiven : k.given
    all_goals simp [PtpCall.pointers, Turn.out, Turn.count, htakes, hgiven]
  · intro hcopies
    have hle := hinside s.data (Turn.pointers_data_iff.mpr ⟨hcopies, rfl⟩)
    rwa [Turn.pointers_len s hcopies] at hle

/-- A call without parameters to pass back returns when its copy stays inside both buffers. -/
theorem Turn.returns (dev : PtpDev) {k : Turn} {s : Shared} {rest : List RecvResult}
    (hsends : s.bus.SendsSucceed) (hrecvs : s.bus.recvs = k.transfers.map .got ++ rest)
    (hshown : k.Shown) (hparams : k.rparams = none)
    (hinside : k.copies = true →
      k.count ((k.container.map Cut.length).getD s.res.length) ≤ min 2048 s.data.length) :
    ∃ reply s', k.Takes dev s reply s' ∧ s'.bus.SendsSucceed ∧ s'.bus.recvs = rest := by
  obtain ⟨q, r, c, hq, htracks, hr, -, hlength⟩ := Turn.drive_receiver s hshown
  have hnone : r.rparams = none := by
    rw [htracks.rparams]
    simp [PtpCall.pointers, Turn.out, hparams]
  obtain ⟨r', rfl⟩ : ∃ r', q = .ok r' := by
    simp only [responseBlock, hnone] at hr
    cases hr
    exact ⟨_, rfl⟩
  obtain ⟨-, hres⟩ := responseBlock_ok hr
  rw [htracks.res, hlength] at hres
  -- the final copy stays inside
  obtain ⟨o, hfinish⟩ : ∃ o, finish (k.call.pointers (k.out s)) r' = .ok o := by
    cases hd : (k.call.pointers (k.out s)).data with
    | none => exact ⟨_, finish_none hd⟩
    | some data =>
      obtain ⟨hcopies, rfl⟩ := Turn.pointers_data_iff.mp hd
      have hlen := Turn.pointers_len s hcopies
      have hle := hinside hcopies
      rw [Turn.count] at hle
      obtain ⟨data', hcopy⟩ : ∃ data', copyResponse r'.data s.data k.len r'.res = .ok data' := by
        rw [hres]
        simp only [Option.map_some, copyResponse, copyOut_eq]
        rw [if_neg (by omega), if_neg (by omega)]
        exact ⟨_, rfl⟩
      exact ⟨_, finish_some hd (hlen.symm ▸ hcopy)⟩
  have hdrive : drive receiveRound (k.call.start k.env (k.out s)) s.bus.recvs
      = .left (.ok r') rest := by
    rw [hrecvs, drive_append, hq]
    rfl
  have hexec := (PtpCall.exec_ok dev k.env (k.out s) (.of_sendsSucceed hsends k.call)).mpr
    ⟨r', rest, o, hdrive, hfinish, rfl, rfl⟩
  have hreply : ((k.out s).merge (0, o)).2.res = some _ := (finish_res hfinish).trans hres
  exact ⟨_, ⟨_, _, _⟩, ⟨.of_sendsSucceed hsends k.call, ⟨rest, hrecvs⟩, hexec, hreply, rfl⟩,
    PtpCall.sent_sendsSucceed hsends dev k.env k.call, rfl⟩

/-- **Any sequence of calls returns** when the buffer has room for what they copy. -/
theorem exists_turns (dev : PtpDev) (ks : List Turn) {s : Shared} (tail : List RecvResult)
    (hsends : s.bus.SendsSucceed)
    (hrecvs : s.bus.recvs = ks.flatMap (fun k => k.transfers.map .got) ++ tail)
    (hks : ∀ k ∈ ks, k.Shown ∧ k.rparams = none ∧ k.len.toNat ≤ min 2048 s.data.length) :
    ∃ log t, Runs (Turn.Takes dev) s log t ∧ log.map Entry.call = ks := by
  obtain ⟨log, t, hruns, hcalls, -, -⟩ := exists_runs (Turn.Takes dev)
    (fun ks (u : Shared) => u.bus.SendsSucceed
      ∧ u.bus.recvs = ks.flatMap (fun k => k.transfers.map .got) ++ tail
      ∧ u.data.length = s.data.length
      ∧ ∀ k ∈ ks, k.Shown ∧ k.rparams = none ∧ k.len.toNat ≤ min 2048 s.data.length)
    (P := fun _ => True)
    (fun k ks u ⟨hsends, hrecvs, hdata, hks⟩ => by
      obtain ⟨⟨hshown, hparams, hlen⟩, hrest⟩ := List.forall_mem_cons.mp hks
      rw [List.flatMap_cons, List.append_assoc] at hrecvs
      have hcount : ∀ length, k.count length ≤ min 2048 u.data.length := fun length =>
        Nat.le_trans (Nat.min_le_left _ _) (hdata ▸ hlen)
      obtain ⟨reply, u', htakes, hsends', hrecvs'⟩ := Turn.returns dev hsends hrecvs hshown
        hparams fun _ => hcount _
      exact ⟨reply, u', htakes, trivial, hsends', hrecvs',
        (htakes.effect hshown).data_length.trans hdata, hrest⟩)
    ks ⟨hsends, hrecvs, rfl, hks⟩
  exact ⟨log, t, hruns, hcalls⟩

/-! ## Stale data -/

/-- A returned call of a sequence. -/
abbrev Returned := Entry Turn Shared (Int × Out)

/-- What the caller may see after the call `e` of a sequence, `past` being the calls before it. -/
structure Fresh (past : List Returned) (e : Returned) : Prop where
  /-- Only bytes of the container it received are new. -/
  received : ∀ d ∈ e.call.container, ∃ n, n ≤ d.bytes.length ∧ n ≤ e.before.data.length
    ∧ e.after.data = overlay (d.bytes.take n) e.before.data
  unchanged : e.call.container = none → e.after.data = e.before.data
  /-- No length of an earlier call. -/
  announced : e.call.container = none → ∀ f ∈ past, ∀ d ∈ f.call.container,
    e.after.res.length ≠ d.length

/-- No container before a call that receives none, and what this call copies out of `__rstream` is
nothing, or by chance what the buffer holds already. -/
structure Unspoilt (past : List Returned) (e : Returned) : Prop where
  first : ∀ f ∈ past, f.call.container = none
  coincides : e.call.copies = true →
    (e.call.call.frame e.call.env).rstream.bytes.take (e.call.count e.before.res.length)
      = e.before.data.take (e.call.count e.before.res.length)

variable {dev : PtpDev} {e : Returned}

theorem Turn.Effect.received (h : e.call.Effect e.before e.after) {d : Cut}
    (hd : e.call.container = some d) :
    ∃ n, n ≤ d.bytes.length ∧ n ≤ e.before.data.length
      ∧ e.after.data = overlay (d.bytes.take n) e.before.data := by
  have hlength : e.after.res.length = d.length := by
    rw [h.length, hd]
    rfl
  have hdata := h.data
  by_cases hcopies : e.call.copies = true
  · have hinside := h.inside hcopies
    have hcount : e.call.count e.after.res.length ≤ d.bytes.length := by
      rw [hlength, Turn.count, d.length_toNat]
      exact Nat.min_le_right _ _
    refine ⟨e.call.count e.after.res.length, hcount, by omega, ?_⟩
    have hstream : e.call.stream = d.bytes := by
      simp only [Turn.stream, hd]
    rw [if_pos hcopies, Turn.rstream, hstream, take_overlay hcount] at hdata
    exact hdata
  · rw [if_neg hcopies] at hdata
    exact ⟨0, Nat.zero_le _, Nat.zero_le _, hdata⟩

theorem Turn.Effect.unchanged_iff (h : e.call.Effect e.before e.after)
    (hnone : e.call.container = none) :
    e.after.data = e.before.data ↔ (e.call.copies = true →
      (e.call.call.frame e.call.env).rstream.bytes.take (e.call.count e.before.res.length)
        = e.before.data.take (e.call.count e.before.res.length)) := by
  have hlength : e.after.res.length = e.before.res.length := by
    rw [h.length, hnone]
    rfl
  have hrstream : e.call.rstream = (e.call.call.frame e.call.env).rstream.bytes := by
    simp only [Turn.rstream, Turn.stream, hnone]
    rfl
  have hinside := h.inside
  rw [hlength] at hinside
  rw [h.data, hlength, hrstream]
  by_cases hcopies : e.call.copies = true
  · have htake : ((e.call.call.frame e.call.env).rstream.bytes.take
        (e.call.count e.before.res.length)).length = e.call.count e.before.res.length := by
      have hle := hinside hcopies
      rw [List.length_take, Buffer.length_eq]
      omega
    rw [if_pos hcopies, overlay_eq_self_iff, htake]
    exact ⟨fun h _ => h, fun h => h hcopies⟩
  · rw [if_neg hcopies]
    exact ⟨fun _ h => absurd h hcopies, fun _ => rfl⟩

/-- The first call of a sequence, when no length is announced yet. -/
theorem unspoilt_first (hlength : e.before.res.length = 0) : Unspoilt [] e := by
  refine ⟨fun f hf => absurd hf List.not_mem_nil, fun _ => ?_⟩
  have hcount : e.call.count e.before.res.length = 0 := by
    rw [hlength, Turn.count]
    exact Nat.min_zero _
  rw [hcount, List.take_zero, List.take_zero]

/-! ## Whole runs -/

/-- Behind a data container the length is that of the last one. -/
theorem announced_of_runs {s t : Shared} {log : List Returned}
    (h : Runs (Turn.Takes dev) s log t) (hshown : ∀ e ∈ log, e.call.Shown) :
    (∃ f ∈ log, f.call.container ≠ none) →
      ∃ f ∈ log, ∃ d ∈ f.call.container, t.res.length = d.length := by
  refine Runs.history (C := fun e => e.call.Shown)
    (I := fun log t => (∃ f ∈ log, f.call.container ≠ none) →
      ∃ f ∈ log, ∃ d ∈ f.call.container, t.res.length = d.length) ?_ ?_ h hshown
  · intro log k s r s' hI htakes hk hsome
    have hlength := (htakes.effect hk).length
    cases hcontainer : k.container with
    | some d =>
      rw [hcontainer] at hlength
      exact ⟨⟨k, s, r, s'⟩, by simp, d, hcontainer, hlength⟩
    | none =>
      rw [hcontainer] at hlength
      -- the container is one of an earlier call
      obtain ⟨f, hf, hne⟩ := hsome
      rcases List.mem_append.mp hf with hf | hf
      · obtain ⟨g, hg, d, hd, hgd⟩ := hI ⟨f, hf, hne⟩
        exact ⟨g, List.mem_append_left _ hg, d, hd, hlength.trans hgd⟩
      · obtain rfl := List.mem_singleton.mp hf
        exact absurd hcontainer hne
  · rintro ⟨f, hf, -⟩
    cases hf

/-- **Which sequences never show stale data.** In every run of calls that share their result
structure and their buffer, each call leaves only fresh data exactly when each call without a data
container stands before all calls with one and copies nothing new. -/
theorem fresh_over_runs (dev : PtpDev) {s t : Shared} {log : List Returned}
    (h : Runs (Turn.Takes dev) s log t) (hshown : ∀ e ∈ log, e.call.Shown) :
    (∀ past e rest, log = past ++ e :: rest → Fresh past e) ↔
      ∀ past e rest, log = past ++ e :: rest → e.call.container = none → Unspoilt past e := by
  have hentry : ∀ past e rest, log = past ++ e :: rest →
      Runs (Turn.Takes dev) s past e.before ∧ e.call.Effect e.before e.after
        ∧ ∀ f ∈ past, f.call.Shown := by
    intro past e rest hlog
    subst hlog
    obtain ⟨hpast, htakes⟩ := h.split
    exact ⟨hpast, htakes.effect (hshown e (by simp)), fun f hf => hshown f (by simp [hf])⟩
  constructor
  · intro hfresh past e rest hlog hnone
    obtain ⟨hpast, heffect, hpastShown⟩ := hentry past e rest hlog
    have hf := hfresh past e rest hlog
    refine ⟨?_, (heffect.unchanged_iff hnone).mp (hf.unchanged hnone)⟩
    by_contra hsome
    obtain ⟨f, hmem, d, hd, hlength⟩ := announced_of_runs hpast hpastShown (by simpa using hsome)
    refine hf.announced hnone f hmem d hd ?_
    rw [heffect.length, hnone]
    exact hlength
  · intro hclean past e rest hlog
    obtain ⟨-, heffect, -⟩ := hentry past e rest hlog
    refine ⟨fun d hd => heffect.received hd, fun hnone => ?_, fun hnone f hf d hd => ?_⟩
    · exact (heffect.unchanged_iff hnone).mpr (hclean past e rest hlog hnone).coincides
    · have hno := (hclean past e rest hlog hnone).first f hf
      rw [Option.mem_def, hno] at hd
      cases hd

/-! ### Two calls of a sequence -/

def sampleCut : Cut where
  first := sampleDataHeader
  rest := [⟨[0xAA, 0xBB, 0xCC, 0xDD], by decide⟩]
  nonempty := by decide
  isData := by decide
  declared := by decide
  length_ge := by decide
  length_le := by decide

/-- `ptp_get_object` into a buffer of 14 bytes, with an `OK` behind the container if any. -/
def sampleTurn (container : Option Cut) : Turn where
  call := .getObject 7
  env := .zero
  given := true
  len := 14
  rparams := none
  container := container
  response := sampleResponse
  shows := by decide
  isResponse := sampleAnswer.response.isResponse

def sampleShared (ks : List Turn) : Shared where
  bus := .answering (ks.flatMap fun k => k.transfers.map .got)
  res := ⟨0, 0⟩
  data := List.replicate 14 0xFF

theorem sampleTurn_shown {container : Option Cut} (h : ∀ d ∈ container, d = sampleCut) :
    (sampleTurn container).Shown := by
  intro d hd
  rw [h d hd]
  exact Cut.shown_of_le (by decide) _

theorem sampleTurns_take (a b : Turn) (h : ∀ k ∈ [a, b], k = sampleTurn none
    ∨ k = sampleTurn (some sampleCut)) :
    a.Shown ∧ b.Shown ∧ ∃ r s r' s', a.Takes ⟨3, 1⟩ (sampleShared [a, b]) r s
      ∧ b.Takes ⟨3, 1⟩ s r' s' := by
  have hshown : ∀ k ∈ [a, b], k.Shown := by
    intro k hk
    rcases h k hk with rfl | rfl
    · exact sampleTurn_shown nofun
    · exact sampleTurn_shown (by rintro d ⟨⟩; rfl)
  have hlen : (14 : UInt32).toNat ≤ min 2048 (List.replicate 14 (0xFF : UInt8)).length := by
    decide
  obtain ⟨log, t, hruns, hcalls⟩ := exists_turns ⟨3, 1⟩ [a, b] (s := sampleShared [a, b]) []
    (Bus.answering_sendsSucceed _) (List.append_nil _).symm (by
      intro k hk
      rcases h k hk with rfl | rfl
      · exact ⟨hshown _ hk, rfl, hlen⟩
      · exact ⟨hshown _ hk, rfl, hlen⟩)
  refine ⟨hshown a (by simp), hshown b (by simp), ?_⟩
  obtain ⟨r, u, rest, first, hrest, hcalls⟩ := hruns.of_map_cons hcalls
  obtain ⟨r', v, -, second, -, -⟩ := hrest.of_map_cons hcalls
  exact ⟨r, u, r', v, first, second⟩

/-- The error comes first, when no length was announced yet. -/
theorem fresh_of_error_first : ∃ log t,
    Runs (Turn.Takes ⟨3, 1⟩) (sampleShared [sampleTurn none, sampleTurn (some sampleCut)]) log t
      ∧ log.map Entry.call = [sampleTurn none, sampleTurn (some sampleCut)]
      ∧ ∀ past e rest, log = past ++ e :: rest → Fresh past e := by
  obtain ⟨ha, hb, r, s, r', s', first, second⟩ :=
    sampleTurns_take (sampleTurn none) (sampleTurn (some sampleCut)) (by simp)
  have hruns := Runs.cons first (.cons second (.nil s'))
  refine ⟨_, s', hruns, rfl, (fresh_over_runs ⟨3, 1⟩ hruns ?_).mpr ?_⟩
  · simp [ha, hb]
  · -- the only call without a container is the first one
    intro past e rest hlog hnone
    match past, hlog with
    | [], hlog =>
      obtain ⟨rfl, -⟩ := List.cons.inj hlog
      exact unspoilt_first rfl
    | [_], hlog =>
      obtain ⟨rfl, -⟩ := List.cons.inj (List.cons.inj hlog).2
      cases hnone
    | _ :: _ :: past, hlog =>
      have hlen := congrArg List.length hlog
      simp only [List.length_append, List.length_cons, List.length_nil] at hlen
      omega

/-- The error comes behind an object, whose length is announced again. -/
theorem stale_behind_object : ∃ log t,
    Runs (Turn.Takes ⟨3, 1⟩) (sampleShared [sampleTurn (some sampleCut), sampleTurn none]) log t
      ∧ log.map Entry.call = [sampleTurn (some sampleCut), sampleTurn none]
      ∧ ¬ ∀ past e rest, log = past ++ e :: rest → Fresh past e := by
  obtain ⟨ha, hb, r, s, r', s', first, second⟩ :=
    sampleTurns_take (sampleTurn (some sampleCut)) (sampleTurn none) (by simp)
  refine ⟨_, s', .cons first (.cons second (.nil s')), rfl, fun hfresh => ?_⟩
  have hobject := (first.effect ha).length
  have herror := (second.effect hb).length
  exact (hfresh [_] _ [] rfl).announced rfl _ (List.mem_singleton_self _) sampleCut rfl
    (herror.trans hobject)

end Droidbox.Ptp
