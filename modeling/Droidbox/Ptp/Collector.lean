import Droidbox.Ptp.Request

/-!
# Droidbox — a PTP transaction without limits

`Collector` is what the receive loops of `__send_request` are for: they gather the bytes of the
data containers of a transaction until a response container arrives. It has no buffer to fill,
so it goes on where the C code leaves `__rstream`.

* **`receiveRound_follows`**, **`receiver_follows`**: the receive loops follow the collector
  until it holds more than the 2048 bytes of `__rstream`, and run into an undefined copy there.
* **`receiver_broke_iff`**: they do so exactly when the bytes collected from the whole script are
  more than 2048.
* **`receiver_responds`**, **`Responds.unique`**: where the collector leaves with at most 2048
  bytes the receive loops do, with what the response case makes of the variables it determines.
-/

namespace Droidbox.Ptp

open LittleEndian Scripted

/-! ## The collector -/

/-- The loop a transaction is in, the last bytes received, the bytes of its data containers, and
the length field found at the end of the last complete one. -/
structure Collector where
  loop : Loop
  rbuffer : Buffer 512
  stream : List UInt8
  length : Option UInt32

def Collector.start (frame : Frame) : Collector where
  loop := .outer
  rbuffer := frame.rbuffer
  stream := []
  length := none

/-- A transfer of a data container with `data_len` bytes to come. The length field is read
from the front of the collected bytes, over what `__rstream` held before. -/
def Collector.collect (rstream : Buffer 2048) (c : Collector) (data_len : UInt32) (t : Transfer) :
    Collector :=
  let stream := c.stream ++ t.bytes
  let data_len := data_len - UInt32.ofNat t.bytes.length
  if data_len = 0 then
    { c with
      loop := .outer, stream
      length := some (responseLengthMask (overlay stream rstream.bytes)) }
  else
    { c with loop := .inner data_len, stream }

/-- The collector takes one transfer; a response container ends it. -/
def collectRound (rstream : Buffer 2048) (c : Collector) (t : Transfer) :
    Round Collector Collector :=
  let c := { c with rbuffer := (usbBulkRecv (.got t) c.rbuffer).2 }
  match c.loop with
  | .outer =>
    if responseTypeMask c.rbuffer.bytes = ptpContainerTypeDataBlock then
      .again (c.collect rstream (responseLengthMask c.rbuffer.bytes) t)
    else if responseTypeMask c.rbuffer.bytes = ptpContainerTypeResponseBlock then
      .leave c
    else
      .again c
  | .inner data_len => .again (c.collect rstream data_len t)

/-- The collector at the end of a script, whether it waits or has left. -/
def collected : Outcome Collector Transfer Collector → Collector
  | .starved c => c
  | .left c _ => c

variable {frame : Frame} {res : Option PtpRes} {rparams : Option PtpResParams}

theorem Collector.collect_stream (rstream : Buffer 2048) (c : Collector) (data_len : UInt32)
    (t : Transfer) : (c.collect rstream data_len t).stream = c.stream ++ t.bytes := by
  unfold Collector.collect
  dsimp only
  split <;> rfl

theorem collectRound_again_stream {rstream : Buffer 2048} {c c' : Collector} {t : Transfer}
    (h : collectRound rstream c t = .again c') : c.stream <+: c'.stream := by
  unfold collectRound at h
  dsimp only at h
  split at h
  · split at h
    · cases h
      rw [Collector.collect_stream]
      exact List.prefix_append _ _
    · split at h
      · cases h
      · cases h
        exact List.prefix_refl _
  · cases h
    rw [Collector.collect_stream]
    exact List.prefix_append _ _

theorem collectRound_leave_stream {rstream : Buffer 2048} {c c' : Collector} {t : Transfer}
    (h : collectRound rstream c t = .leave c') : c.stream = c'.stream := by
  unfold collectRound at h
  dsimp only at h
  split at h
  · split at h
    · cases h
    · split at h
      · cases h; rfl
      · cases h
  · cases h

/-- What was collected from the first part of a script is the front of what is collected from
all of it. -/
theorem collected_extends {rstream : Buffer 2048} {c c' : Collector} {used : List Transfer}
    (rest : List Transfer) (h : drive (collectRound rstream) c used = .starved c') :
    c'.stream <+: (collected (drive (collectRound rstream) c (used ++ rest))).stream := by
  rw [drive_append_starved h]
  have hagain : ∀ d t d', c'.stream <+: d.stream → collectRound rstream d t = .again d' →
      c'.stream <+: d'.stream := fun d t d' hd ht => hd.trans (collectRound_again_stream ht)
  cases hrest : drive (collectRound rstream) c' rest with
  | starved d => exact drive_invariant hagain (List.prefix_refl _) hrest
  | left d more =>
    refine drive_left_spec (Q := fun d => c'.stream <+: d.stream) hagain ?_
      (List.prefix_refl _) hrest
    intro d t d' hd ht
    rwa [← collectRound_leave_stream ht]

/-! ## The receive loops follow it -/

/-- The variables of `__send_request` hold what the collector holds, and it fits. -/
structure Tracks (frame : Frame) (res : Option PtpRes) (rparams : Option PtpResParams)
    (s : Receiver) (c : Collector) : Prop where
  loop : s.loop = c.loop
  rbuffer : s.rbuffer = c.rbuffer
  fits : c.stream.length ≤ 2048
  offset : s.offset = c.stream.length
  data : s.data.bytes = overlay c.stream frame.rstream.bytes
  res : s.res = res.map fun res => { res with length := c.length.getD res.length }
  rparams : s.rparams = rparams

theorem tracks_start (frame : Frame) (res : Option PtpRes) (rparams : Option PtpResParams) :
    Tracks frame res rparams (Receiver.start frame res rparams) (Collector.start frame) where
  loop := rfl
  rbuffer := rfl
  fits := Nat.zero_le _
  offset := rfl
  data := rfl
  res := by cases res <;> rfl
  rparams := rfl

def LeavesStream (r : Except Fault Receiver) : Prop :=
  ∃ offset count, r = .error (.write .rstream offset count)

/-- The loops left on a response container, having tracked the collector so far. -/
def Responds (frame : Frame) (res : Option PtpRes) (rparams : Option PtpResParams)
    (r : Except Fault Receiver) (c : Collector) : Prop :=
  ∃ s, Tracks frame res rparams s c ∧ responseBlock s = .leave r

def Collector.Beyond (c : Collector) : Prop := 2048 < c.stream.length

theorem received_take {t : Transfer} {rbuffer : Buffer 512} :
    (usbBulkRecv (.got t) rbuffer).2.bytes.take t.bytes.length = t.bytes := by
  rw [usbBulkRecv_got_snd, take_overlay (Nat.le_refl _), List.take_length]

/-- The response case always leaves, and copies nothing into `__rstream`. -/
theorem responseBlock_leave (s : Receiver) :
    ∃ r, responseBlock s = .leave r ∧ ¬ LeavesStream r := by
  unfold responseBlock
  dsimp only
  split
  · exact ⟨_, rfl, by rintro ⟨_, _, h⟩; cases h⟩
  · split
    · exact ⟨_, rfl, by rintro ⟨_, _, h⟩; cases h⟩
    · exact ⟨_, rfl, by rintro ⟨_, _, h⟩; cases h⟩

/-- The copy of one transfer: it tracks what the collector takes, or leaves `__rstream`. -/
theorem copyBlock_follows {s : Receiver} {c : Collector} (h : Tracks frame res rparams s c)
    {t : Transfer} (ht : s.rbuffer.bytes.take t.bytes.length = t.bytes) (data_len : UInt32) :
    (copyBlock s data_len t.bytes.length).Follows (Tracks frame res rparams)
      (Responds frame res rparams) LeavesStream Collector.Beyond
      (.again (c.collect frame.rstream data_len t)) := by
  obtain ⟨hloop, hrbuffer, hfits, hoffset, hdata, hres, hrparams⟩ := h
  unfold copyBlock
  rw [hoffset]
  -- the copy goes to the end of what was collected: the question is whether it fits there
  by_cases hroom : c.stream.length + t.bytes.length ≤ 2048
  · have hlength : (c.stream ++ t.bytes).length ≤ 2048 := by simpa using hroom
    obtain ⟨data', hcopy, hdata'⟩ := copyIn_received hdata ht hroom
    unfold Collector.collect
    simp only [hcopy, Int.toNat_natCast]
    split
    · refine .again ⟨rfl, hrbuffer, hlength, by simp, hdata', ?_, hrparams⟩
      simp only [hdata', hres, Option.map_map]
      rfl
    · exact .again ⟨rfl, hrbuffer, hlength, by simp, hdata', hres, hrparams⟩
  · rw [copyIn_beyond (.inr (by rw [Int.toNat_natCast]; omega))]
    refine .broke ⟨_, _, rfl⟩ ?_
    rw [Collector.Beyond, Collector.collect_stream, List.length_append]
    omega

/-- **One round.** -/
theorem receiveRound_follows {s : Receiver} {c : Collector} (t : Transfer)
    (h : Tracks frame res rparams s c) :
    (receiveRound s (.got t)).Follows (Tracks frame res rparams) (Responds frame res rparams)
      LeavesStream Collector.Beyond (collectRound frame.rstream c t) := by
  have hs : Tracks frame res rparams
      { s with rbuffer := (usbBulkRecv (.got t) s.rbuffer).2 }
      { c with rbuffer := (usbBulkRecv (.got t) c.rbuffer).2 } :=
    { h with rbuffer := by rw [h.rbuffer] }
  have hcopy := copyBlock_follows hs (t := t) received_take
  have hloop := h.loop
  have hrbuffer := h.rbuffer
  unfold receiveRound collectRound
  simp only [usbBulkRecv_got_fst, ← hrbuffer, ← hloop] at hcopy hs ⊢
  -- both sides branch on the same loop and on the same receive buffer
  generalize s.loop = loop at hcopy hs ⊢
  cases loop with
  | inner data_len => exact hcopy data_len
  | outer =>
    dsimp only
    split
    · exact hcopy _
    · split
      · obtain ⟨r, hr, -⟩ := responseBlock_leave
          { s with loop := .outer, rbuffer := (usbBulkRecv (.got t) s.rbuffer).2 }
        rw [hr]
        exact .leave ⟨_, hs, hr⟩
      · exact .again hs

/-- **A whole script.** -/
theorem receiver_follows (frame : Frame) (res : Option PtpRes) (rparams : Option PtpResParams)
    (script : List Transfer) :
    Follows (Tracks frame res rparams) (Responds frame res rparams) LeavesStream Collector.Beyond
      RecvResult.got receiveRound (collectRound frame.rstream)
      (Receiver.start frame res rparams) (Collector.start frame) script :=
  drive_follows (fun _ _ t h => receiveRound_follows t h) (tracks_start frame res rparams) script

/-- **The receive loops leave `__rstream` exactly when the script brings more than it holds.** -/
theorem receiver_broke_iff (frame : Frame) (res : Option PtpRes) (rparams : Option PtpResParams)
    (script : List Transfer) :
    (∃ r rest, LeavesStream r
        ∧ drive receiveRound (Receiver.start frame res rparams) (script.map .got) = .left r rest)
      ↔ 2048 < (collected (drive (collectRound frame.rstream) (Collector.start frame)
          script)).stream.length := by
  cases receiver_follows frame res rparams script with
  | starved h hs ht =>
    have hfits := h.fits
    rw [hs, ht]
    constructor
    · rintro ⟨r, rest, -, e⟩
      cases e
    · intro hlt
      exact absurd hfits (Nat.not_le.mpr hlt)
  | left rest h hs ht =>
    obtain ⟨s, h, hr⟩ := h
    have hfits := h.fits
    -- the response case never leaves `__rstream`, and what was collected fits
    obtain ⟨r', hr', hstay⟩ := responseBlock_leave s
    rw [hr] at hr'
    cases hr'
    rw [hs, ht]
    constructor
    · rintro ⟨r, rest, hleaves, e⟩
      cases e
      exact absurd hleaves hstay
    · intro hlt
      exact absurd hfits (Nat.not_le.mpr hlt)
  | broke used rest h hscript hs ht hbeyond =>
    -- the collector is beyond 2048 bytes here and loses none of them later
    have hprefix := (collected_extends rest ht).length_le
    rw [← hscript] at hprefix
    constructor
    · intro _
      exact Nat.lt_of_lt_of_le hbeyond hprefix
    · intro _
      exact ⟨_, _, h, hs⟩

/-! ## The variables are determined by the collector -/

theorem Tracks.unique {s s' : Receiver} {c : Collector} (h : Tracks frame res rparams s c)
    (h' : Tracks frame res rparams s' c) : s = s' := by
  obtain ⟨loop, rbuffer, data, offset, r, p⟩ := s
  obtain ⟨loop', rbuffer', data', offset', r', p'⟩ := s'
  have hdata : data = data' := Buffer.ext (h.data.trans h'.data.symm)
  have hloop : loop = loop' := h.loop.trans h'.loop.symm
  have hrbuffer : rbuffer = rbuffer' := h.rbuffer.trans h'.rbuffer.symm
  have hoffset : offset = offset' := h.offset.trans h'.offset.symm
  have hres : r = r' := h.res.trans h'.res.symm
  have hrparams : p = p' := h.rparams.trans h'.rparams.symm
  subst hdata hloop hrbuffer hoffset hres hrparams
  rfl

theorem Responds.unique {r r' : Except Fault Receiver} {c : Collector}
    (h : Responds frame res rparams r c) (h' : Responds frame res rparams r' c) : r = r' := by
  obtain ⟨s, hs, hr⟩ := h
  obtain ⟨s', hs', hr'⟩ := h'
  obtain rfl := hs.unique hs'
  rw [hr] at hr'
  cases hr'
  rfl

/-- **The receive loops on a script on which the collector leaves** with at most 2048 bytes. -/
theorem receiver_responds (frame : Frame) (res : Option PtpRes) (rparams : Option PtpResParams)
    {script rest : List Transfer} {c : Collector}
    (h : drive (collectRound frame.rstream) (Collector.start frame) script = .left c rest)
    (hfits : c.stream.length ≤ 2048) :
    ∃ r, drive receiveRound (Receiver.start frame res rparams) (script.map .got)
        = .left r (rest.map .got) ∧ Responds frame res rparams r c := by
  cases receiver_follows frame res rparams script with
  | starved h' hs ht =>
    rw [h] at ht
    cases ht
  | left rest' h' hs ht =>
    rw [h] at ht
    cases ht
    exact ⟨_, hs, h'⟩
  | broke used rest' h' hscript hs ht hbeyond =>
    -- the collector would have held more than 2048 bytes before it left
    have hprefix := (collected_extends rest' ht).length_le
    rw [← hscript, h] at hprefix
    exact absurd hbeyond (Nat.not_lt.mpr (Nat.le_trans hprefix hfits))

end Droidbox.Ptp
