import Droidbox.Adb.Encoding
import Droidbox.Adb.Frames
import Droidbox.Adb.Pump

/-!
# Droidbox — the conversation of `main`

Which call `main` makes next does not depend on what the calls before it returned, only how long it
goes on does: it looks at the code in `adbres` behind `adb_open` and behind every `adb_ready`. So a
run of `main` is told by what its calls take off the channel, and by what `adb_res_buff` held when
the first of them took nothing or little.

* **`Talked.round`**: one call, beside what it takes.
* **`main_releases_iff`**: after how many calls `main` releases the interface.
* **`main_said`**: what it sends up to there.
-/

namespace Droidbox.Adb.Pump

open LittleEndian Scripted Walk Session

/-! ## The calls -/

/-- The calls of `main`, one behind the other. -/
def Setup.call (m : Setup) : Nat → AdbCall
  | 0 => .connect adbProtoVersion 0x1000 host
  | 1 => .auth adbAuthTypeRsapublickey (some m.rsakey_ex) 524
  | 2 => .openStream 4 framebuffer
  | _ + 3 => .ready 4 3

/-- What call `n` takes off a channel. -/
def Setup.take (m : Setup) (n : Nat) (ch : Channel) : Option (Option Frame × Channel) :=
  (m.call n).take (m.envs n) ch

/-- The array `rsakey_ex` holds the 524 bytes `main` sends of it. -/
def Setup.Proper (m : Setup) : Prop := 524 ≤ m.rsakey_ex.length

/-- The code a call writes to `adbres` for what it took. -/
def codeOf : Option Frame → Option UInt32
  | none | some .refused | some (.broken _) => none
  | some (.single header) | some (.pair header _) => some (adbCommandMask header.bytes)

/-- The code in `adbres` behind some calls, from the one in front of them. -/
def codeAfter (code : UInt32) (taken : List (Option Frame)) : UInt32 :=
  taken.foldl (fun code f => (codeOf f).getD code) code

/-- The bytes a call leaves at the front of `adb_res_buff` for what it took. -/
def bytesOf : Option Frame → List UInt8
  | none | some .refused | some (.broken _) => []
  | some (.single header) => payload [header]
  | some (.pair header second) => payload [header, second]

/-- `adb_res_buff` behind some calls. -/
def buffAfter (adb_res_buff : Buffer 2048) (taken : List (Option Frame)) : List UInt8 :=
  taken.foldl (fun bytes f => overlay (bytesOf f) bytes) adb_res_buff.bytes

/-- `token`, which is what the first of them left behind the header. -/
def tokenAfter (adb_res_buff : Buffer 2048) (taken : List (Option Frame)) : List UInt8 :=
  (List.range' 24 20).map (byteAt (buffAfter adb_res_buff (taken.take 1)))

/-- `main` leaves behind `adb_open`, or on the first `CLSE` of the pump. -/
inductive Closes : List (Option Frame) → Prop
  | refused {a b c : Option Frame} (h : codeAfter 0 [a, b, c] ≠ adbCommandOkay) : Closes [a, b, c]
  | closed {a b c f : Option Frame} {mid : List (Option Frame)}
      (h : codeAfter 0 [a, b, c] = adbCommandOkay)
      (hmid : ∀ g ∈ mid, codeOf g ≠ some adbCommandClse) (hlast : codeOf f = some adbCommandClse) :
      Closes (a :: b :: c :: (mid ++ [f]))

/-- Where `main` stands behind some calls. -/
inductive StageAfter : List (Option Frame) → Stage → Prop
  | connect : StageAfter [] .connect
  | auth (a : Option Frame) : StageAfter [a] .auth
  | openStream (a b : Option Frame) : StageAfter [a, b] .openStream
  | ready {a b c : Option Frame} {mid : List (Option Frame)}
      (h : codeAfter 0 [a, b, c] = adbCommandOkay)
      (hmid : ∀ g ∈ mid, codeOf g ≠ some adbCommandClse) : StageAfter (a :: b :: c :: mid) .ready
  | release {taken : List (Option Frame)} (h : Closes taken) : StageAfter taken .release

variable {m : Setup} {s t : Main} {bus : Bus} {taken : List (Option Frame)} {stage : Stage}
  {adb_res_buff : Buffer 2048}

theorem codeAfter_append (code : UInt32) (xs ys : List (Option Frame)) :
    codeAfter code (xs ++ ys) = codeAfter (codeAfter code xs) ys := List.foldl_append

theorem codeAfter_concat (code : UInt32) (xs : List (Option Frame)) (f : Option Frame) :
    codeAfter code (xs ++ [f]) = (codeOf f).getD (codeAfter code xs) :=
  codeAfter_append code xs [f]

theorem codeAfter_ne {code : UInt32} {mid : List (Option Frame)} (hcode : code ≠ adbCommandClse)
    (hmid : ∀ g ∈ mid, codeOf g ≠ some adbCommandClse) : codeAfter code mid ≠ adbCommandClse := by
  induction mid generalizing code with
  | nil => exact hcode
  | cons g mid ih =>
    obtain ⟨hg, hrest⟩ := List.forall_mem_cons.mp hmid
    refine ih ?_ hrest
    show (codeOf g).getD code ≠ adbCommandClse
    cases hcodeOf : codeOf g with
    | none => exact hcode
    | some c =>
      intro hc
      exact hg (hcodeOf.trans (congrArg some hc))

theorem Closes.ne_nil (h : Closes taken) : taken ≠ [] := by
  rintro rfl
  cases h

/-- The codes do not take `main` past the release. -/
theorem Closes.not_extends {xs ys : List (Option Frame)} (h : Closes xs) (hne : ys ≠ []) :
    ¬ Closes (xs ++ ys) := by
  intro h'
  cases h with
  | refused hcode =>
    cases h' with
    | refused _ => exact hne rfl
    | closed hcode' hmid hlast => exact hcode hcode'
  | @closed a b c f mid hcode hmid hlast =>
    generalize hlist : a :: b :: c :: (mid ++ [f]) ++ ys = zs at h'
    cases h' with
    | refused hcode' =>
      have hlen := congrArg List.length hlist
      simp at hlen
    | @closed a' b' c' f' mid' hcode' hmid' hlast' =>
      simp only [List.cons_append, List.cons.injEq] at hlist
      obtain ⟨-, -, -, hlist⟩ := hlist
      -- the first `CLSE` lies in front of the last frame of the longer list
      obtain ⟨zs, z, rfl⟩ := List.eq_nil_or_concat ys |>.resolve_left hne
      rw [List.concat_eq_append, ← List.append_assoc] at hlist
      obtain ⟨hmids, -⟩ := List.append_inj' hlist rfl
      exact hmid' f (by rw [← hmids]; simp) hlast

theorem Closes.not_closes_take (h : Closes taken) {k : Nat} (hk : k < taken.length) :
    ¬ Closes (taken.take k) := by
  intro hfront
  have hrest : taken.drop k ≠ [] := List.ne_nil_of_length_pos (by rw [List.length_drop]; omega)
  exact hfront.not_extends hrest (by rwa [List.take_append_drop])

/-! ## One call -/

/-- The number of the call made in a stage; that of `adb_ready` for all of its calls. -/
def Stage.index : Stage → Nat
  | .connect => 0
  | .auth => 1
  | .openStream => 2
  | .ready | .release => 3

/-- The stage behind a call that left this memory. -/
def Stage.next (out : Out) : Stage → Except Fault Stage
  | .connect =>
    match tokenLen out with
    | .error f => .error f
    | .ok _ => .ok .auth
  | .auth => .ok .openStream
  | .openStream => .ok (if out.res.code = adbCommandOkay then .ready else .release)
  | .ready => .ok (if out.res.code ≠ adbCommandClse then .ready else .release)
  | .release => .ok .release

theorem mainRound_eq (h : s.stage ≠ .release) :
    mainRound m s = s.call m (m.call s.stage.index) fun out => s.stage.next out := by
  unfold mainRound
  cases hstage : s.stage with
  | release => exact absurd hstage h
  | connect => rfl
  | auth => rfl
  | openStream => rfl
  | ready => rfl

/-- What `main` makes of the memory a call left. -/
theorem Stage.next_cases (stage : Stage) (out : Out) :
    (∃ stage', stage.next out = .ok stage' ∧ (stage = .connect → 0 ∈ token out))
      ∨ stage = .connect ∧ 0 ∉ token out ∧ stage.next out = .error (.read .token 20 1) := by
  cases stage with
  | connect =>
    by_cases hnul : 0 ∈ token out
    · exact .inl ⟨.auth, by simp only [Stage.next, tokenLen, if_pos hnul], fun _ => hnul⟩
    · exact .inr ⟨rfl, hnul, by simp only [Stage.next, tokenLen, if_neg hnul]⟩
  | auth => exact .inl ⟨_, rfl, fun h => by cases h⟩
  | openStream => exact .inl ⟨_, rfl, fun h => by cases h⟩
  | ready => exact .inl ⟨_, rfl, fun h => by cases h⟩
  | release => exact .inl ⟨_, rfl, fun h => by cases h⟩

theorem StageAfter.call_index (h : StageAfter taken stage) (hne : stage ≠ .release) (m : Setup) :
    m.call stage.index = m.call taken.length := by
  cases h with
  | release _ => exact absurd rfl hne
  | connect => rfl
  | auth a => rfl
  | openStream a b => rfl
  | ready hcode hmid => rfl

/-- `main` is in front of its first call as long as nothing was taken. -/
theorem StageAfter.eq_nil (h : StageAfter taken .connect) : taken = [] := by
  cases h with
  | connect => rfl

theorem StageAfter.eq_connect (h : StageAfter [] stage) : stage = .connect := by
  cases h with
  | connect => rfl
  | release h => cases h

/-- The stage behind one more call. -/
theorem StageAfter.concat (h : StageAfter taken stage) (hne : stage ≠ .release) {f : Option Frame}
    {out : Out} (hcode : out.res.code = codeAfter 0 (taken ++ [f])) {stage' : Stage}
    (hnext : stage.next out = .ok stage') : StageAfter (taken ++ [f]) stage' := by
  cases h with
  | release _ => exact absurd rfl hne
  | connect =>
    unfold Stage.next at hnext
    dsimp only at hnext
    split at hnext
    · cases hnext
    · cases hnext
      exact .auth f
  | auth a =>
    cases hnext
    exact .openStream a f
  | openStream a b =>
    have hstage := Except.ok.inj hnext
    rw [hcode] at hstage
    rw [← hstage]
    by_cases hokay : codeAfter 0 [a, b, f] = adbCommandOkay
    · rw [List.cons_append, List.cons_append, List.nil_append, if_pos hokay]
      exact .ready hokay fun g hg => absurd hg List.not_mem_nil
    · rw [List.cons_append, List.cons_append, List.nil_append, if_neg hokay]
      exact .release (.refused hokay)
  | @ready a b c mid hokay hmid =>
    have hfold : codeAfter 0 (a :: b :: c :: mid ++ [f])
        = (codeOf f).getD (codeAfter adbCommandOkay mid) := by
      rw [codeAfter_concat, ← hokay]
      rfl
    have hold := codeAfter_ne (show adbCommandOkay ≠ adbCommandClse by decide) hmid
    have hstage := Except.ok.inj hnext
    rw [hcode, hfold] at hstage
    rw [← hstage]
    by_cases hclse : codeOf f = some adbCommandClse
    · rw [hclse, Option.getD_some, if_neg (not_not.mpr rfl)]
      exact .release (.closed hokay hmid hclse)
    · have hnew : (codeOf f).getD (codeAfter adbCommandOkay mid) ≠ adbCommandClse := by
        cases hcodeOf : codeOf f with
        | none => exact hold
        | some c =>
          intro hc
          exact hclse (hcodeOf.trans (congrArg some hc))
      rw [if_pos hnew]
      refine .ready hokay fun g hg => ?_
      rcases List.mem_append.mp hg with hg | hg
      · exact hmid g hg
      · rw [List.mem_singleton.mp hg]
        exact hclse

/-- What call `n` said when it took this: a front part of its message, and the whole of it where it
took a frame. -/
structure Setup.Says (m : Setup) (n : Nat) (f : Option Frame)
    (sent : List (List UInt8 × SendResult)) : Prop where
  front : sent.map Prod.fst <+: (m.call n).message.buffers
  whole : f.isSome → sent.map Prod.fst = (m.call n).message.buffers

/-- The transfers of a call. -/
def Setup.events (m : Setup) (f : Option Frame) (sent : List (List UInt8 × SendResult)) :
    List Event :=
  sent.map (fun p => .send m.adbdev.fd m.adbdev.out_endp p.1 p.2)
    ++ (f.toList.flatMap Frame.recvs).map (Event.recv m.adbdev.fd m.adbdev.in_endp)

/-- The transfers of some calls. -/
inductive Spoke (m : Setup) : List (Option Frame) → List Event → Prop
  | nil : Spoke m [] []
  | concat {taken : List (Option Frame)} {events : List Event} {f : Option Frame}
      {sent : List (List UInt8 × SendResult)} (h : Spoke m taken events)
      (hsent : m.Says taken.length f sent) : Spoke m (taken ++ [f]) (events ++ m.events f sent)

/-- Of each call a front part of its message, and the whole of it where the call took a frame. -/
inductive Said (m : Setup) : List (Option Frame) → List (List UInt8) → Prop
  | nil : Said m [] []
  | concat {taken : List (Option Frame)} {buffers part : List (List UInt8)} {f : Option Frame}
      (h : Said m taken buffers) (hpart : part <+: (m.call taken.length).message.buffers)
      (hwhole : f.isSome → part = (m.call taken.length).message.buffers) :
      Said m (taken ++ [f]) (buffers ++ part)

theorem Spoke.said {events : List Event} (h : Spoke m taken events) :
    Said m taken (events.filterMap sentData) := by
  induction h with
  | nil => exact .nil
  | @concat taken events f sent h hsent ih =>
    rw [List.filterMap_append, Setup.events, List.filterMap_append, filterMap_sends,
      filterMap_recvs, List.append_nil]
    exact ih.concat hsent.front hsent.whole

/-- What `main` hands to each of its calls, and gets back: a buffer of 2048 bytes. -/
structure Buffered (bytes : List UInt8) (out : Out) : Prop where
  len : out.len = 2048
  length : out.res.length.toNat ≤ 1024
  size : bytes.length = 2048
  data : out.data = some bytes

variable {bytes : List UInt8}

theorem Buffered.received {out : Out} (h : Buffered bytes out) {s : List UInt8}
    (hle : s.length ≤ 1024) (code : UInt32) :
    Buffered (overlay s bytes) (out.received s code) := by
  have hwhole : s.take (min out.len.toNat s.length) = s := by
    rw [h.len, show (2048 : UInt32).toNat = 2048 from rfl, Nat.min_eq_right (by omega),
      List.take_length]
  refine ⟨h.len, Nat.le_trans (ofNat_toNat_le _) hle, ?_, ?_⟩
  · rw [overlay_length (by rw [h.size]; omega), h.size]
  · rw [Out.received, h.data, hwhole]
    rfl

theorem Buffered.of_reply {out : Out} (h : Buffered bytes out) (f : Option Frame) :
    Buffered (overlay (bytesOf f) bytes) (reply out f).2
      ∧ (reply out f).2.res.code = (codeOf f).getD out.res.code := by
  match f with
  | none => exact ⟨h, rfl⟩
  | some .refused => exact ⟨h, rfl⟩
  | some (.broken _) => exact ⟨h, rfl⟩
  | some (.single header) => exact ⟨h.received (payload_single_length_le header) _, rfl⟩
  | some (.pair header second) =>
    exact ⟨h.received (payload_pair_length_le header second) _, rfl⟩

theorem Buffered.proper {out : Out} (h : Buffered bytes out) : out.Proper := by
  intro data hmem
  rw [h.data] at hmem
  cases hmem
  rw [h.len, h.size]
  decide

theorem Buffered.token {out : Out} (h : Buffered bytes out) :
    token out = (List.range' 24 20).map (byteAt bytes) := by
  rw [Pump.token, h.data, Option.getD_some]

theorem buffAfter_concat (adb_res_buff : Buffer 2048) (taken : List (Option Frame))
    (f : Option Frame) :
    buffAfter adb_res_buff (taken ++ [f]) = overlay (bytesOf f) (buffAfter adb_res_buff taken) :=
  List.foldl_append

/-- The first call decides about `token`. -/
theorem tokenAfter_append (adb_res_buff : Buffer 2048) {taken : List (Option Frame)}
    (hne : taken ≠ []) (more : List (Option Frame)) :
    tokenAfter adb_res_buff (taken ++ more) = tokenAfter adb_res_buff taken := by
  obtain ⟨f, rest, rfl⟩ := List.exists_cons_of_ne_nil hne
  rfl

/-- What `main` has come to behind some calls. -/
structure Talked (m : Setup) (adb_res_buff : Buffer 2048) (bus : Bus) (s : Main)
    (taken : List (Option Frame)) : Prop where
  calls : s.calls = taken.length
  took : answers m.take (List.range taken.length) (channel bus) = some (taken, channel s.bus)
  stage : StageAfter taken s.stage
  code : s.out.res.code = codeAfter 0 taken
  out : Buffered (buffAfter adb_res_buff taken) s.out
  nul : taken ≠ [] → 0 ∈ tokenAfter adb_res_buff taken
  decide : HeadersDecide s.bus.recvs
  recvs : bus.recvs = taken.reduceOption.flatMap Frame.recvs ++ s.bus.recvs
  spoke : ∃ events, s.bus.trace = bus.trace ++ events ∧ Spoke m taken events

theorem talked_start (m : Setup) (adb_res_buff : Buffer 2048) (hdecide : HeadersDecide bus.recvs) :
    Talked m adb_res_buff bus (.start adb_res_buff bus) [] where
  calls := rfl
  took := rfl
  stage := .connect
  code := rfl
  out := ⟨rfl, Nat.zero_le _, adb_res_buff.length_eq, rfl⟩
  nul h := absurd rfl h
  decide := hdecide
  recvs := rfl
  spoke := ⟨[], (List.append_nil _).symm, .nil⟩

theorem Setup.call_proper (hm : m.Proper) (n : Nat) :
    (m.call n).Buffered ∧ 24 + (m.call n).message.size < 2 ^ 32 := by
  match n with
  | 0 =>
    exact ⟨trivial, show 24 + (AdbCall.connect adbProtoVersion 0x1000 host).message.size < 2 ^ 32 by
      decide⟩
  | 1 => exact ⟨hm, show 24 + 524 < 2 ^ 32 by decide⟩
  | 2 =>
    exact ⟨trivial, show 24 + (AdbCall.openStream 4 framebuffer).message.size < 2 ^ 32 by decide⟩
  | _ + 3 => exact ⟨trivial, show 24 + 0 < 2 ^ 32 by decide⟩

/-- What the next round of `main` does. -/
inductive Goes (m : Setup) (adb_res_buff : Buffer 2048) (bus : Bus) (s : Main)
    (taken : List (Option Frame)) : Prop
  | waits (htake : m.take taken.length (channel s.bus) = none)
      (hround : mainRound m s = .leave (.error .blocked))
  | overreads (f : Option Frame) {ch : Channel} (hfirst : taken = [])
      (htake : m.take 0 (channel s.bus) = some (f, ch))
      (hnul : 0 ∉ tokenAfter adb_res_buff [f])
      (hround : mainRound m s = .leave (.error (.fault (.read .token 20 1))))
  | returns (f : Option Frame) {t : Main} {sent : List (List UInt8 × SendResult)}
      (htake : m.take taken.length (channel s.bus) = some (f, channel t.bus))
      (hexec : (m.call s.stage.index).exec m.adbdev (m.envs s.calls) s.out s.bus
        = .ok (reply s.out f) t.bus)
      (hround : mainRound m s = .again t) (hsent : m.Says taken.length f sent)
      (htrace : t.bus.trace = s.bus.trace ++ m.events f sent)
      (htalked : Talked m adb_res_buff bus t (taken ++ [f]))

/-- **One call.** -/
theorem Talked.round (h : Talked m adb_res_buff bus s taken) (hm : m.Proper)
    (hne : s.stage ≠ .release) : Goes m adb_res_buff bus s taken := by
  obtain ⟨hbuffered, hfits⟩ := Setup.call_proper hm taken.length
  have hround := mainRound_eq (m := m) hne
  have hindex := h.stage.call_index hne m
  unfold Main.call at hround
  rw [hindex] at hround
  rw [← h.calls] at hbuffered hfits hround
  cases AdbCall.does m.adbdev (m.envs s.calls) h.out.proper hbuffered hfits h.decide with
  | waits htake hexec =>
    rw [hexec] at hround
    exact .waits (h.calls ▸ htake) hround
  | @returns f bus' htake hexec hrecvs hdecide sent hsent hwhole =>
    rw [hexec] at hround
    dsimp only at hround
    obtain ⟨hout, hcode⟩ := h.out.of_reply f
    rw [← buffAfter_concat] at hout
    have hcode' : (reply s.out f).2.res.code = codeAfter 0 (taken ++ [f]) := by
      rw [hcode, codeAfter_concat, h.code]
    have hfirst : s.stage = .connect →
        taken = [] ∧ token (reply s.out f).2 = tokenAfter adb_res_buff (taken ++ [f]) := by
      intro hconnect
      have hnil := (hconnect ▸ h.stage).eq_nil
      refine ⟨hnil, ?_⟩
      rw [hout.token, hnil]
      rfl
    rcases s.stage.next_cases (reply s.out f).2 with ⟨stage, hnext, hnul⟩ | ⟨hconnect, hnul, hnext⟩
    · rw [hnext] at hround
      have htrace : bus'.trace = s.bus.trace ++ m.events f sent := by
        rw [Setup.events, ← List.append_assoc]
        exact hsent.trace
      have hsays : m.Says taken.length f sent := ⟨h.calls ▸ hsent.buffers, h.calls ▸ hwhole⟩
      refine .returns f (h.calls ▸ htake) (by rw [hindex, ← h.calls]; exact hexec) hround hsays
        htrace ?_
      constructor
      case calls => rw [List.length_append, h.calls]; rfl
      case took =>
        rw [List.length_append, List.length_singleton, List.range_succ]
        refine answers_append_iff.mpr ⟨taken, channel s.bus, [f], h.took, ?_, rfl⟩
        exact answers_cons_iff.mpr ⟨f, _, [], h.calls ▸ htake, rfl, rfl⟩
      case stage => exact h.stage.concat hne hcode' hnext
      case code => exact hcode'
      case out => exact hout
      case nul =>
        intro _
        by_cases hconnect : s.stage = .connect
        · rw [← (hfirst hconnect).2]
          exact hnul hconnect
        · have htaken : taken ≠ [] := by
            rintro rfl
            exact hconnect h.stage.eq_connect
          rw [tokenAfter_append adb_res_buff htaken]
          exact h.nul htaken
      case decide => exact hdecide
      case recvs =>
        rw [h.recvs, hrecvs, List.reduceOption_append, List.flatMap_append, List.append_assoc]
        cases f <;> rfl
      case spoke =>
        obtain ⟨events, hevents, hspoke⟩ := h.spoke
        exact ⟨_, by rw [htrace, hevents, List.append_assoc], hspoke.concat hsays⟩
    · obtain ⟨hnil, htoken⟩ := hfirst hconnect
      subst hnil
      rw [hnext] at hround
      rw [htoken] at hnul
      exact .overreads f rfl (h.calls ▸ htake) hnul hround

/-! ## Whole runs -/

theorem ne_release_of_round (h : mainRound m s = .again t) : s.stage ≠ .release := by
  intro hstage
  unfold mainRound at h
  rw [hstage] at h
  cases h

theorem Talked.of_reaches (hm : m.Proper) (h : Talked m adb_res_buff bus s taken)
    (hreach : Reaches (mainRound m) s t) : ∃ taken, Talked m adb_res_buff bus t taken := by
  refine hreach.invariant (I := fun u => ∃ taken, Talked m adb_res_buff bus u taken) ?_ ⟨taken, h⟩
  rintro u v ⟨taken, hu⟩ hround
  cases hu.round hm (ne_release_of_round hround) with
  | waits _ hround' =>
    rw [hround'] at hround
    cases hround
  | overreads f _ _ _ hround' =>
    rw [hround'] at hround
    cases hround
  | returns f _ _ hround' _ _ htalked =>
    rw [hround'] at hround
    cases hround
    exact ⟨_, htalked⟩

theorem StageAfter.closes (h : StageAfter taken .release) : Closes taken := by
  cases h with
  | release h => exact h

theorem StageAfter.eq_release (h : StageAfter taken stage) (hcloses : Closes taken) :
    stage = .release := by
  cases h with
  | release _ => rfl
  | connect => cases hcloses
  | auth a => cases hcloses
  | openStream a b => cases hcloses
  | ready hcode hmid =>
    cases hcloses with
    | refused hcode' => exact absurd hcode hcode'
    | closed _ _ hlast => exact absurd hlast (hmid _ (by simp))

/-- What the first calls of some took. -/
theorem answers_take {n k : Nat} {a b : Channel} (hk : k ≤ n)
    (h : answers m.take (List.range n) a = some (taken, b)) :
    ∃ a', answers m.take (List.range k) a = some (taken.take k, a') := by
  obtain ⟨j, rfl⟩ := Nat.exists_eq_add_of_le hk
  rw [List.range_add] at h
  obtain ⟨front, a', back, hfront, -, rfl⟩ := answers_append_iff.mp h
  have hlength := answers_length hfront
  rw [List.length_range] at hlength
  exact ⟨a', by rw [hfront, List.take_left' hlength]⟩

theorem tokenAfter_take_one (adb_res_buff : Buffer 2048) (taken : List (Option Frame)) :
    tokenAfter adb_res_buff (taken.take 1) = tokenAfter adb_res_buff taken := by
  rw [tokenAfter, List.take_take]
  rfl

/-- `main` gets through calls that take something, up to the release. -/
theorem reaches_talked (hm : m.Proper) (hdecide : HeadersDecide bus.recvs) {n : Nat} {ch : Channel}
    (htook : answers m.take (List.range n) (channel bus) = some (taken, ch))
    (hnul : 0 ∈ tokenAfter adb_res_buff taken) (hcloses : ∀ k < n, ¬ Closes (taken.take k))
    {k : Nat} (hk : k ≤ n) :
    ∃ s, Reaches (mainRound m) (.start adb_res_buff bus) s
      ∧ Talked m adb_res_buff bus s (taken.take k) := by
  induction k with
  | zero => exact ⟨_, .refl _ _, talked_start m adb_res_buff hdecide⟩
  | succ k ih =>
    obtain ⟨s, hs, htalked⟩ := ih (by omega)
    have hne : s.stage ≠ .release := by
      intro hstage
      have hstageAfter := htalked.stage
      rw [hstage] at hstageAfter
      exact hcloses k hk hstageAfter.closes
    have hlength : (taken.take k).length = k := by
      have hall := answers_length htook
      rw [List.length_range] at hall
      rw [List.length_take, hall]
      omega
    -- the call number `k` takes what it takes from where the calls before it left the channel
    obtain ⟨ch', hnext⟩ := answers_take hk htook
    rw [List.range_succ] at hnext
    obtain ⟨front, a', back, hfront, hback, htake⟩ := answers_append_iff.mp hnext
    have htook' := htalked.took
    rw [hlength, hfront] at htook'
    cases htook'
    obtain ⟨f, a'', rest, hcall, hrest, rfl⟩ := answers_cons_iff.mp hback
    cases hrest
    cases htalked.round hm hne with
    | waits hnone _ =>
      rw [hlength, hcall] at hnone
      cases hnone
    | overreads g hfirst hsome hover _ =>
      obtain rfl : k = 0 := by rw [← hlength, hfirst, List.length_nil]
      rw [hcall] at hsome
      cases hsome
      rw [← tokenAfter_take_one, htake] at hnul
      exact absurd hnul hover
    | returns g hsome _ hround _ _ htalked' =>
      rw [hlength, hcall] at hsome
      cases hsome
      exact ⟨_, hs.tail hround, by rwa [htake]⟩

theorem closes_of_release {m : Setup} (hm : m.Proper) {adb_res_buff : Buffer 2048} {bus : Bus}
    (hdecide : HeadersDecide bus.recvs) {t : Main}
    (hreach : Reaches (mainRound m) (.start adb_res_buff bus) t) (hstage : t.stage = .release) :
    ∃ taken, answers m.take (List.range t.calls) (channel bus) = some (taken, channel t.bus)
      ∧ Closes taken ∧ 0 ∈ tokenAfter adb_res_buff taken := by
  obtain ⟨taken, ht⟩ := (talked_start m adb_res_buff hdecide).of_reaches hm hreach
  have hstageAfter := ht.stage
  rw [hstage] at hstageAfter
  exact ⟨taken, ht.calls ▸ ht.took, hstageAfter.closes, ht.nul hstageAfter.closes.ne_nil⟩

theorem release_of_closes {m : Setup} (hm : m.Proper) {adb_res_buff : Buffer 2048} {bus : Bus}
    (hdecide : HeadersDecide bus.recvs) {n : Nat} {taken : List (Option Frame)} {ch : Channel}
    (htook : answers m.take (List.range n) (channel bus) = some (taken, ch))
    (hcloses : Closes taken) (hnul : 0 ∈ tokenAfter adb_res_buff taken) :
    ∃ t, Reaches (mainRound m) (.start adb_res_buff bus) t ∧ t.stage = .release
      ∧ t.calls = n := by
  have hlength := answers_length htook
  rw [List.length_range] at hlength
  obtain ⟨t, hreach, ht⟩ := reaches_talked hm hdecide htook hnul
    (fun k hk => hcloses.not_closes_take (hlength ▸ hk)) (Nat.le_refl n)
  rw [← hlength, List.take_length] at ht
  exact ⟨t, hreach, ht.stage.eq_release hcloses, ht.calls.trans hlength⟩

/-- **When `main` releases the interface.** After `n` calls it does so exactly when they all
return, what they took closes the conversation, and the first of them left a NUL in `token`. It
closes the conversation when the code behind `adb_open` is not `OKAY`, or it is and the last of them
is the first `adb_ready` to be answered by `CLSE`. -/
theorem main_releases_iff (m : Setup) (hm : m.Proper) (adb_res_buff : Buffer 2048) (bus : Bus)
    (hdecide : HeadersDecide bus.recvs) (n : Nat) :
    (∃ t, Reaches (mainRound m) (.start adb_res_buff bus) t ∧ t.stage = .release ∧ t.calls = n)
      ↔ ∃ taken ch, answers m.take (List.range n) (channel bus) = some (taken, ch)
        ∧ Closes taken ∧ 0 ∈ tokenAfter adb_res_buff taken := by
  constructor
  · rintro ⟨t, hreach, hstage, rfl⟩
    obtain ⟨taken, htook, hcloses, hnul⟩ := closes_of_release hm hdecide hreach hstage
    exact ⟨taken, _, htook, hcloses, hnul⟩
  · rintro ⟨taken, ch, htook, hcloses, hnul⟩
    exact release_of_closes hm hdecide htook hcloses hnul

/-! ## What `main` sends -/

/-- What the calls say. -/
def Setup.request (m : Setup) : Nat → AdbRequest
  | 0 => ⟨.connect, adbProtoVersion, 0x1000, [104, 111, 115, 116, 58, 58]⟩
  | 1 => ⟨.auth, adbAuthTypeRsapublickey, 0, m.rsakey_ex.take 524⟩
  | 2 => ⟨.openStream, 4, 0, [102, 114, 97, 109, 101, 98, 117, 102, 102, 101, 114, 58, 32]⟩
  | _ + 3 => ⟨.ready, 4, 3, []⟩

theorem decode_call (hm : m.Proper) (n : Nat) :
    decodeMessage (m.call n).message.buffers.flatten = some (m.request n) := by
  match n with
  | 0 =>
    have hconnect : decodeMessage
        (AdbCall.connect adbProtoVersion 0x1000 host).message.buffers.flatten
          = some ⟨.connect, adbProtoVersion, 0x1000, [104, 111, 115, 116, 58, 58]⟩ := by decide
    exact hconnect
  | 2 =>
    have hopen : decodeMessage (AdbCall.openStream 4 framebuffer).message.buffers.flatten
        = some ⟨.openStream, 4, 0,
          [102, 114, 97, 109, 101, 98, 117, 102, 102, 101, 114, 58, 32]⟩ := by decide
    exact hopen
  | _ + 3 =>
    have hready : decodeMessage (AdbCall.ready 4 3).message.buffers.flatten
        = some ⟨.ready, 4, 3, []⟩ := by decide
    exact hready
  | 1 =>
    have hwell : (m.call 1).WellFormed := hm
    have hpayload : (m.call 1).request.payload.length = 524 := by
      show (m.rsakey_ex.take 524).length = 524
      rw [List.length_take]
      exact Nat.min_eq_left hm
    rw [AdbMessage.buffers_flatten (AdbCall.message_buffered hwell.buffered),
      AdbCall.decode_message hwell (by rw [hpayload]; decide)]
    rfl

/-- **What `main` sends**: one message for each call it made, in order, of which the device gets the
whole if the call took a frame; and each of them is what the call is meant to say. The frames are
those the calls took off the channel. -/
theorem main_said (m : Setup) (hm : m.Proper) (adb_res_buff : Buffer 2048) (bus : Bus)
    (hdecide : HeadersDecide bus.recvs) {t : Main}
    (hreach : Reaches (mainRound m) (.start adb_res_buff bus) t) :
    ∃ taken, answers m.take (List.range t.calls) (channel bus) = some (taken, channel t.bus)
      ∧ Said m taken (sentBuffers bus t.bus)
      ∧ ∀ n, decodeMessage (m.call n).message.buffers.flatten = some (m.request n) := by
  obtain ⟨taken, ht⟩ := (talked_start m adb_res_buff hdecide).of_reaches hm hreach
  obtain ⟨events, htrace, hspoke⟩ := ht.spoke
  refine ⟨taken, ht.calls ▸ ht.took, ?_, decode_call hm⟩
  rw [sentBuffers, htrace, List.drop_left]
  exact hspoke.said

/-! ## A device that closes the stream -/

def sampleClse : Transfer :=
  ⟨le32 adbCommandClse ++ le32 3 ++ le32 4 ++ le32 0 ++ le32 0 ++ le32 (adbMagic adbCommandClse),
    Nat.le_of_ble_eq_true rfl⟩

def sampleCnxn : Transfer :=
  ⟨le32 adbCommandCnxn ++ le32 adbProtoVersion ++ le32 0x1000 ++ le32 8 ++ le32 0x2E4
    ++ le32 (adbMagic adbCommandCnxn), Nat.le_of_ble_eq_true rfl⟩

/-- `"device::"` -/
def sampleBanner : Transfer := ⟨[100, 101, 118, 105, 99, 101, 58, 58], by decide⟩

/-- It connects, answers the next two calls by `OKAY`, and the first of the pump by `CLSE`. -/
def sampleClosing : Bus := .answering [.got sampleCnxn, .got sampleBanner, .got sampleOkay,
  .got sampleOkay, .got sampleClse]

theorem sampleSetup_proper : sampleSetup.Proper := Nat.le_of_eq List.length_replicate.symm

theorem sampleClosing_decide : HeadersDecide sampleClosing.recvs := by
  have hcnxn : Announces sampleCnxn := by decide
  have hokay : ¬ Announces sampleOkay := by decide
  have hclse : ¬ Announces sampleClse := by decide
  simp only [sampleClosing, Bus.answering, HeadersDecide, if_pos hcnxn, if_neg hokay, if_neg hclse,
    and_true]
  exact ⟨.inl (by decide), .inl (by decide), .inl (by decide), .inl (by decide)⟩

theorem sampleClosing_closes : ∃ taken ch,
    answers sampleSetup.take (List.range 4) (channel sampleClosing) = some (taken, ch)
      ∧ Closes taken ∧ 0 ∈ tokenAfter (.zero 2048) taken := by
  have hcloses : Closes (some (.pair sampleCnxn sampleBanner) :: some (.single sampleOkay)
      :: some (.single sampleOkay) :: ([] ++ [some (.single sampleClse)])) :=
    .closed (by decide) (fun g hg => absurd hg List.not_mem_nil) (by decide)
  -- the array was all zero behind the eight characters
  have hzero : byteAt (overlay (bytesOf (some (.pair sampleCnxn sampleBanner)))
      (Buffer.zero 2048).bytes) 32 = 0 :=
    (byteAt_overlay_right (by decide)).trans (byteAt_replicate 0 (by decide))
  exact ⟨_, ⟨fun _ => .sent 512, []⟩, rfl, hcloses,
    List.mem_map.mpr ⟨32, List.mem_range'_1.mpr ⟨by decide, by decide⟩, hzero⟩⟩

theorem sampleClosing_reaches :
    ∃ t, Reaches (mainRound sampleSetup) (.start (.zero 2048) sampleClosing) t ∧ t.calls = 4 := by
  obtain ⟨taken, ch, htook, hcloses, hnul⟩ := sampleClosing_closes
  obtain ⟨t, hreach, -, hcalls⟩ := release_of_closes sampleSetup_proper sampleClosing_decide htook
    hcloses hnul
  exact ⟨t, hreach, hcalls⟩

theorem main_releases_closing :
    ∃ t, Reaches (mainRound sampleSetup) (.start (.zero 2048) sampleClosing) t
      ∧ t.stage = .release ∧ t.calls = 4 :=
  (main_releases_iff sampleSetup sampleSetup_proper (.zero 2048) sampleClosing sampleClosing_decide
    4).mpr sampleClosing_closes

theorem main_said_closing :
    ∃ (t : Main) (taken : List (Option Frame)), t.calls = 4
      ∧ answers sampleSetup.take (List.range t.calls) (channel sampleClosing)
        = some (taken, channel t.bus)
      ∧ Said sampleSetup taken (sentBuffers sampleClosing t.bus)
      ∧ ∀ n, decodeMessage (sampleSetup.call n).message.buffers.flatten
        = some (sampleSetup.request n) := by
  obtain ⟨t, hreach, hcalls⟩ := sampleClosing_reaches
  obtain ⟨taken, h⟩ := main_said sampleSetup sampleSetup_proper (.zero 2048) sampleClosing
    sampleClosing_decide hreach
  exact ⟨t, taken, hcalls, h⟩

end Droidbox.Adb.Pump
