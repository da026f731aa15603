import Mathlib.Data.List.Induction
import Droidbox.Ptp.Collector

/-!
# Droidbox — where a PTP data phase ends

The `while (1)` of a data container in `__send_request` subtracts the length of each transfer from
the length the container declared and ends when nothing is left of it. Subtraction wraps around,
so it does not end with a transfer that brings more than was left.

* **`copyBlock_again`**: what one transfer does to the offset and to what is left.
* **`DataPhase.drive_awaited`**: the loop as long as less than the declared length has arrived.
* **`DataPhase.ends_iff`**: a data phase ends with the first transfer at which the declared length
  has arrived exactly when no more than that arrives, and it fits into `__rstream`.
-/

namespace Droidbox.Ptp

open LittleEndian Scripted

/-! ## One transfer -/

/-- The loop that waits next, with `data_len` bytes left. -/
def Loop.awaiting (data_len : UInt32) : Loop :=
  if data_len = 0 then .outer else .inner data_len

variable {s s' : Receiver} {data_len : UInt32} {n : Nat}

theorem copyBlock_again (h : copyBlock s data_len n = .again s') :
    s.offset + n ≤ 2048 ∧ s'.offset = s.offset + n
      ∧ s'.loop = .awaiting (data_len - UInt32.ofNat n) := by
  have hfits : s.offset + n ≤ 2048 := by
    by_contra hlong
    rw [copyBlock, copyIn_beyond (.inr (by rw [Int.toNat_natCast]; omega))] at h
    cases h
  refine ⟨hfits, ?_⟩
  unfold copyBlock at h
  cases hcopy : copyIn s.data s.offset s.rbuffer n with
  | error f =>
    rw [hcopy] at h
    cases h
  | ok data =>
    rw [hcopy, Int.toNat_natCast] at h
    dsimp only at h
    unfold Loop.awaiting
    split at h <;> cases h
    · rename_i hzero
      exact ⟨rfl, by rw [if_pos hzero]⟩
    · rename_i hpos
      exact ⟨rfl, by rw [if_neg hpos]⟩

theorem copyBlock_fits (data_len : UInt32) (h : s.offset + n ≤ 2048) :
    ∃ s', copyBlock s data_len n = .again s' := by
  have hbound : 0 ≤ (n : Int) ∧ s.offset + (n : Int).toNat ≤ 2048 := by
    rw [Int.toNat_natCast]
    omega
  unfold copyBlock copyIn
  rw [dif_pos hbound]
  dsimp only
  split
  · exact ⟨_, rfl⟩
  · exact ⟨_, rfl⟩

/-! ## Data phases -/

/-- A data phase: the receive loops at the head of `while (!res_block)`, the transfer with which
the receive buffer shows a data container, and further transfers. -/
structure DataPhase where
  receiver : Receiver
  first : Transfer
  rest : List Transfer
  loop : receiver.loop = .outer
  isData : responseTypeMask (usbBulkRecv (.got first) receiver.rbuffer).2.bytes
    = ptpContainerTypeDataBlock
  nonempty : ∀ t ∈ first :: rest, t.bytes ≠ []

/-- The declared length, from the receive buffer behind the first transfer. -/
def DataPhase.declared (p : DataPhase) : UInt32 :=
  responseLengthMask (usbBulkRecv (.got p.first) p.receiver.rbuffer).2.bytes

/-- The number of bytes that arrived with the first transfer and with those of `ts`. -/
def DataPhase.arrived (p : DataPhase) (ts : List Transfer) : Nat := (payload (p.first :: ts)).length

/-- `ts` are the next transfers, and before the last one of them less than the declared length
has arrived. -/
structure DataPhase.Awaited (p : DataPhase) (ts : List Transfer) : Prop where
  next : ts <+: p.rest
  before : ∀ us, us <+: ts → us ≠ ts → p.arrived us < p.declared.toNat

/-- The data loop waits for the next transfer as long as less than the declared length, read as
unsigned, has arrived, and is left with the first one at which it has; up to there it copied all
that arrived. -/
def DataPhase.EndsWhenDeclared (p : DataPhase) : Prop :=
  ∀ ts, p.Awaited ts → ∃ s, drive receiveRound p.receiver ((p.first :: ts).map .got) = .starved s
    ∧ s.offset = p.receiver.offset + p.arrived ts
    ∧ (s.loop = .outer ↔ p.declared.toNat ≤ p.arrived ts)

/-- Up to the first transfer at which the declared length has arrived, no more than that arrives,
and what arrives fits behind what `__rstream` holds. -/
def DataPhase.HitsDeclared (p : DataPhase) : Prop :=
  ∀ ts, p.Awaited ts →
    p.arrived ts ≤ p.declared.toNat ∧ p.receiver.offset + p.arrived ts ≤ 2048

/-! ## The loop on awaited transfers -/

variable {p : DataPhase} {ts us : List Transfer} {t : Transfer}

theorem DataPhase.arrived_nil (p : DataPhase) : p.arrived [] = p.first.bytes.length := by
  simp [DataPhase.arrived, payload]

theorem DataPhase.arrived_snoc (p : DataPhase) (ts : List Transfer) (t : Transfer) :
    p.arrived (ts ++ [t]) = p.arrived ts + t.bytes.length := by
  simp [DataPhase.arrived, payload, Nat.add_assoc]

/-- The transfers in front of the last awaited one are awaited, and are not enough. -/
theorem DataPhase.Awaited.init (h : p.Awaited (ts ++ [t])) :
    p.Awaited ts ∧ p.arrived ts < p.declared.toNat := by
  have hts : ts <+: ts ++ [t] := List.prefix_append ts [t]
  refine ⟨⟨hts.trans h.next, fun us hus _ => h.before us (hus.trans hts) ?_⟩,
    h.before ts hts (by simp)⟩
  intro heq
  have hlen := hus.length_le
  rw [heq, List.length_append, List.length_singleton] at hlen
  omega

/-- One transfer is 512 bytes at most, so not many more than declared arrive. -/
theorem DataPhase.Awaited.arrived_le (h : p.Awaited ts) :
    p.arrived ts ≤ p.declared.toNat + 512 := by
  induction ts using List.reverseRecOn with
  | nil =>
    have hle := p.first.length_le
    rw [p.arrived_nil]
    omega
  | append_singleton ts t _ =>
    have hle := t.length_le
    have hlt := h.init.2
    rw [p.arrived_snoc]
    omega

/-- What is left of a length is nothing when just as much arrived, give or take a transfer. -/
theorem sub_ofNat_eq_zero_iff {L : UInt32} (h : n ≤ L.toNat + 512) :
    L - UInt32.ofNat n = 0 ↔ n = L.toNat := by
  have hlt := L.toNat_lt
  rw [UInt32.sub_eq_iff_eq_add, UInt32.zero_add, ← UInt32.toNat_inj, UInt32.toNat_ofNat']
  omega

theorem sub_sub_ofNat (L : UInt32) (n m : Nat) :
    L - UInt32.ofNat n - UInt32.ofNat m = L - UInt32.ofNat (n + m) := by
  rw [UInt32.sub_eq_iff_eq_add, UInt32.sub_eq_iff_eq_add, UInt32.ofNat_add, UInt32.add_assoc,
    UInt32.add_comm (UInt32.ofNat m), UInt32.sub_add_cancel]

theorem DataPhase.Awaited.loop_iff (h : p.Awaited ts) :
    Loop.awaiting (p.declared - UInt32.ofNat (p.arrived ts)) = .outer
      ↔ p.arrived ts = p.declared.toNat := by
  rw [← sub_ofNat_eq_zero_iff h.arrived_le, Loop.awaiting]
  split
  · rename_i hzero
    exact ⟨fun _ => hzero, fun _ => rfl⟩
  · rename_i hpos
    constructor
    · intro hloop
      cases hloop
    · intro hzero
      exact absurd hzero hpos

/-- In front of the last awaited transfer the data loop is still waiting. -/
theorem DataPhase.Awaited.waits (h : p.Awaited (ts ++ [t])) :
    Loop.awaiting (p.declared - UInt32.ofNat (p.arrived ts))
      = .inner (p.declared - UInt32.ofNat (p.arrived ts)) := by
  obtain ⟨hts, hlt⟩ := h.init
  refine if_neg ?_
  rw [sub_ofNat_eq_zero_iff hts.arrived_le]
  omega

/-- The first round of a data phase is the copy of its first transfer. -/
theorem DataPhase.receiveRound_first (p : DataPhase) :
    receiveRound p.receiver (.got p.first)
      = copyBlock { p.receiver with rbuffer := (usbBulkRecv (.got p.first) p.receiver.rbuffer).2 }
          p.declared p.first.bytes.length := by
  unfold receiveRound
  simp only [p.loop, p.isData, if_true, usbBulkRecv_got_fst]
  rfl

theorem receiveRound_inner (h : s.loop = .inner data_len) (t : Transfer) :
    receiveRound s (.got t)
      = copyBlock { s with rbuffer := (usbBulkRecv (.got t) s.rbuffer).2 } data_len
          t.bytes.length := by
  unfold receiveRound
  simp only [h, usbBulkRecv_got_fst]

/-- **The loop on awaited transfers**, when it gets through them: all of them were copied, and
what is left is the declared length less what arrived. Induction on the transfers. -/
theorem DataPhase.drive_awaited (h : p.Awaited ts)
    (hdrive : drive receiveRound p.receiver ((p.first :: ts).map .got) = .starved s) :
    p.receiver.offset + p.arrived ts ≤ 2048 ∧ s.offset = p.receiver.offset + p.arrived ts
      ∧ s.loop = .awaiting (p.declared - UInt32.ofNat (p.arrived ts)) := by
  induction ts using List.reverseRecOn generalizing s with
  | nil =>
    rw [p.arrived_nil]
    cases hround : receiveRound p.receiver (.got p.first) with
    | again s₁ =>
      rw [List.map_singleton, drive_cons_again hround] at hdrive
      cases hdrive
      rw [p.receiveRound_first] at hround
      obtain ⟨hfits, hoffset, hloop⟩ := copyBlock_again hround
      exact ⟨hfits, hoffset, hloop⟩
    | leave r =>
      rw [List.map_singleton, drive_cons_leave hround] at hdrive
      cases hdrive
  | append_singleton ts t ih =>
    rw [← List.cons_append, List.map_append, List.map_singleton, drive_append] at hdrive
    cases hinit : drive receiveRound p.receiver ((p.first :: ts).map .got) with
    | left r rest =>
      rw [hinit] at hdrive
      cases hdrive
    | starved s₁ =>
      obtain ⟨-, hoffset, hloop⟩ := ih h.init.1 hinit
      -- less than declared has arrived, so the loop is still waiting
      have hround := receiveRound_inner (hloop.trans h.waits) t
      rw [hinit, Outcome.resume] at hdrive
      cases hcopy : receiveRound s₁ (.got t) with
      | leave r =>
        rw [drive_cons_leave hcopy] at hdrive
        cases hdrive
      | again s₂ =>
        rw [drive_cons_again hcopy] at hdrive
        cases hdrive
        obtain ⟨hfits, hnext, hleft⟩ := copyBlock_again (hround.symm.trans hcopy)
        dsimp only at hfits hnext
        rw [sub_sub_ofNat] at hleft
        rw [p.arrived_snoc]
        exact ⟨by omega, by omega, hleft⟩

theorem DataPhase.drive_fits (h : p.Awaited ts)
    (hfits : p.receiver.offset + p.arrived ts ≤ 2048) :
    ∃ s, drive receiveRound p.receiver ((p.first :: ts).map .got) = .starved s := by
  induction ts using List.reverseRecOn with
  | nil =>
    rw [p.arrived_nil] at hfits
    obtain ⟨s, hcopy⟩ := copyBlock_fits (s := { p.receiver with
      rbuffer := (usbBulkRecv (.got p.first) p.receiver.rbuffer).2 }) p.declared hfits
    rw [← p.receiveRound_first] at hcopy
    exact ⟨s, by rw [List.map_singleton, drive_cons_again hcopy]; rfl⟩
  | append_singleton ts t ih =>
    have hts := h.init.1
    rw [p.arrived_snoc] at hfits
    obtain ⟨s₁, hinit⟩ := ih hts (by omega)
    obtain ⟨-, hoffset, hloop⟩ := DataPhase.drive_awaited hts hinit
    obtain ⟨s₂, hcopy⟩ := copyBlock_fits (n := t.bytes.length) (s := { s₁ with
      rbuffer := (usbBulkRecv (.got t) s₁.rbuffer).2 })
      (p.declared - UInt32.ofNat (p.arrived ts)) (by dsimp only; omega)
    rw [← receiveRound_inner (hloop.trans h.waits) t] at hcopy
    refine ⟨s₂, ?_⟩
    rw [← List.cons_append, List.map_append, List.map_singleton, drive_append_starved hinit,
      drive_cons_again hcopy]
    rfl

/-! ## Where a data phase ends -/

theorem DataPhase.hits_of_ends (h : p.EndsWhenDeclared) : p.HitsDeclared := by
  intro ts hts
  obtain ⟨s, hdrive, -, hends⟩ := h ts hts
  obtain ⟨hfits, -, hloop⟩ := DataPhase.drive_awaited hts hdrive
  refine ⟨Nat.le_of_not_lt fun hlong => ?_, hfits⟩
  -- more than declared has arrived, and the loop was left: something is left of the length
  have houter := hends.mpr (Nat.le_of_lt hlong)
  rw [hloop, hts.loop_iff] at houter
  omega

theorem DataPhase.ends_of_hits (h : p.HitsDeclared) : p.EndsWhenDeclared := by
  intro ts hts
  obtain ⟨hle, hfits⟩ := h ts hts
  obtain ⟨s, hdrive⟩ := DataPhase.drive_fits hts hfits
  obtain ⟨-, hoffset, hloop⟩ := DataPhase.drive_awaited hts hdrive
  refine ⟨s, hdrive, hoffset, ?_⟩
  rw [hloop, hts.loop_iff]
  omega

/-- **Where a data phase ends**, for any declared length and any cutting. -/
theorem DataPhase.ends_iff (p : DataPhase) : p.EndsWhenDeclared ↔ p.HitsDeclared :=
  ⟨DataPhase.hits_of_ends, DataPhase.ends_of_hits⟩

/-- A container that declares 12 bytes, in a transfer of 13. -/
def sampleLongTransfer : DataPhase where
  receiver := .start .zero none none
  first := ⟨[12, 0, 0, 0, 2, 0, 9, 0x10, 1, 0, 0, 0, 0xAA], by decide⟩
  rest := []
  loop := rfl
  isData := by decide
  nonempty := by simp

theorem sampleLongTransfer_does_not_end : ¬ sampleLongTransfer.EndsWhenDeclared := by
  intro h
  have hawaited : sampleLongTransfer.Awaited [] :=
    ⟨List.nil_prefix, fun us hus hne => absurd (List.prefix_nil.mp hus) hne⟩
  obtain ⟨hle, -⟩ := DataPhase.hits_of_ends h [] hawaited
  exact absurd hle (by decide)

end Droidbox.Ptp
