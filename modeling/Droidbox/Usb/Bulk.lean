import Droidbox.Lib.Buffer
import Droidbox.Lib.Scripted

/-!
# Droidbox — bulk transfers as the request routines see them

`lib/usb/usb.c` gives the protocol code two calls, `usb_bulk_send` and `usb_bulk_recv`. Both
return `-1` or the number of bytes transferred. This module models what a device and the kernel
can answer to them, and the effects of a call:

* `Transfer` is a completed bulk IN transfer. Both request routines receive into a
  `uint8_t __rbuffer[512]`, so the length bound is a field: a longer transfer cannot be built.
* `Bus` holds the results of the sends and receives still to come, and the trace of the calls
  made so far. The receives are a finite script: a loop that wants more than the script has is
  still waiting (`Halt.blocked`).
* `Fault` is what the C code does when it copies outside an array or dereferences `NULL`: the
  behaviour is undefined from there on, so the run stops and says which access it was.
-/

namespace Droidbox

open LittleEndian Scripted

/-! ## Results of the two calls -/

/-- A bulk IN transfer that completed: at most the 512 bytes of the receive buffer. -/
structure Transfer where
  bytes : List UInt8
  length_le : bytes.length ≤ 512

def payload (ts : List Transfer) : List UInt8 := ts.flatMap Transfer.bytes

inductive RecvResult where
  | failed
  | got (t : Transfer)

/-- The result of one `usb_bulk_send`: `-1`, or the URB's `actual_length`. -/
inductive SendResult where
  | failed
  | sent (actual_length : Nat)

/-- The value `usb_bulk_send` returns. -/
def SendResult.value : SendResult → Int
  | .failed => -1
  | .sent actual_length => actual_length

/-- `usb_bulk_recv` into a 512-byte buffer: its return value and the buffer afterwards. A failed
receive leaves the buffer as it was, a short one only replaces the bytes it delivered. -/
def usbBulkRecv (r : RecvResult) (data : Buffer 512) : Int × Buffer 512 :=
  match r with
  | .failed => (-1, data)
  | .got t =>
    -- what lies behind a short transfer is what was received before
    (t.bytes.length, data.write 0 t.bytes (by simpa using t.length_le))

@[simp] theorem usbBulkRecv_failed (data : Buffer 512) :
    usbBulkRecv .failed data = (-1, data) := rfl

@[simp] theorem usbBulkRecv_got_fst (t : Transfer) (data : Buffer 512) :
    (usbBulkRecv (.got t) data).1 = t.bytes.length := rfl

@[simp] theorem usbBulkRecv_got_snd (t : Transfer) (data : Buffer 512) :
    (usbBulkRecv (.got t) data).2.bytes = overlay t.bytes data.bytes := by
  simp [usbBulkRecv]

/-! ## The bus -/

/-- One USB call made by the code, with the result it got. -/
inductive Event where
  | send (fd endpoint : Int) (data : List UInt8) (r : SendResult)
  | recv (fd endpoint : Int) (r : RecvResult)

/-- The results still to come and the calls made so far. -/
structure Bus where
  sends : Nat → SendResult
  recvs : List RecvResult
  trace : List Event

/-- The arrays of the request routines, of `main`, and of the functions that ask for descriptors. -/
inductive Region where
  | rbuffer
  | rstream
  | rparams
  | data
  | mstream
  | payload
  | token
  | buff
  | stringBuff
  deriving DecidableEq, Repr

/-- An access outside an array (`count` is the `memcpy` length as the C code computes it, which
may be negative before its conversion to `size_t`), or through a null pointer. -/
inductive Fault where
  | write (region : Region) (offset : Nat) (count : Int)
  | read (region : Region) (offset : Nat) (count : Int)
  | null
  deriving DecidableEq, Repr

/-- Why a call did not return: it waits for a receive, or its behaviour is undefined. -/
inductive Halt where
  | blocked
  | fault (f : Fault)
  deriving DecidableEq, Repr

abbrev Usb := EStateM Halt Bus

def Bus.SendsSucceed (bus : Bus) : Prop := ∀ i, bus.sends i ≠ .failed

def Bus.answering (recvs : List RecvResult) : Bus where
  sends := fun _ => .sent 512
  recvs := recvs
  trace := []

theorem Bus.answering_sendsSucceed (recvs : List RecvResult) :
    (Bus.answering recvs).SendsSucceed := fun _ h => by cases h

def Bus.afterSend (bus : Bus) (fd endpoint : Int) (data : List UInt8) : Bus where
  sends := fun i => bus.sends (i + 1)
  recvs := bus.recvs
  trace := bus.trace ++ [.send fd endpoint data (bus.sends 0)]

/-- The bus after a loop consumed its receives up to `rest`. -/
def Bus.afterRecvs (bus : Bus) (fd endpoint : Int) (rest : List RecvResult) : Bus where
  sends := bus.sends
  recvs := rest
  trace := bus.trace
    ++ (bus.recvs.take (bus.recvs.length - rest.length)).map (Event.recv fd endpoint)

def usbBulkSend (fd endpoint : Int) (data : List UInt8) : Usb Int := fun bus =>
  .ok (bus.sends 0).value (bus.afterSend fd endpoint data)

/-- A loop that calls `usb_bulk_recv` once per round. -/
def recvLoop {σ ρ : Type} (fd endpoint : Int) (round : σ → RecvResult → Round σ (Except Fault ρ))
    (s : σ) : Usb ρ := fun bus =>
  match drive round s bus.recvs with
  | .starved _ => .error .blocked (bus.afterRecvs fd endpoint [])
  | .left (.ok r) rest => .ok r (bus.afterRecvs fd endpoint rest)
  | .left (.error f) rest => .error (.fault f) (bus.afterRecvs fd endpoint rest)

/-- An access outside its array ends the run. -/
def undefined {α : Type} (f : Fault) : Usb α := fun bus => .error (.fault f) bus

/-! ## Copies of the request routines -/

/-- `memcpy(data + offset, __rbuffer, recv_bytes)` into the response buffer. -/
def copyIn (data : Buffer 2048) (offset : Nat) (rbuffer : Buffer 512) (recv_bytes : Int) :
    Except Fault (Buffer 2048) :=
  if h : 0 ≤ recv_bytes ∧ offset + recv_bytes.toNat ≤ 2048 then
    .ok (data.write offset (rbuffer.bytes.take recv_bytes.toNat)
      (by rw [List.length_take]; omega))
  else
    .error (.write .rstream offset recv_bytes)

/-- The copy of a response of `length` bytes into the caller's buffer of `len` bytes. -/
def copyOut (rstream : Buffer 2048) (data : List UInt8) (len length : UInt32) :
    Except Fault (List UInt8) :=
  let bytes_to_copy := if length > len then len else length
  if 2048 < bytes_to_copy.toNat then
    .error (.read .rstream 0 bytes_to_copy.toNat)
  else if data.length < bytes_to_copy.toNat then
    .error (.write .data 0 bytes_to_copy.toNat)
  else
    .ok (overlay (rstream.bytes.take bytes_to_copy.toNat) data)

/-- Appending a transfer that was just received to the `stream` collected so far. -/
theorem copyIn_received {data : Buffer 2048} {rbuffer : Buffer 512} {stream init : List UInt8}
    {t : Transfer} (hdata : data.bytes = overlay stream init)
    (ht : rbuffer.bytes.take t.bytes.length = t.bytes)
    (hfits : stream.length + t.bytes.length ≤ 2048) :
    ∃ data', copyIn data stream.length rbuffer t.bytes.length = .ok data'
      ∧ data'.bytes = overlay (stream ++ t.bytes) init := by
  have hbound : 0 ≤ (t.bytes.length : Int)
      ∧ stream.length + (t.bytes.length : Int).toNat ≤ 2048 := by
    rw [Int.toNat_natCast]
    omega
  have hwrite : ∀ src h, src = t.bytes →
      (data.write stream.length src h).bytes = overlay (stream ++ t.bytes) init := by
    rintro src h rfl
    exact Buffer.write_overlay hdata _ h
  -- only the first `t.bytes.length` bytes of the receive buffer are copied, the fresh ones
  unfold copyIn
  rw [dif_pos hbound]
  exact ⟨_, rfl, hwrite _ _ (by rw [Int.toNat_natCast, ht])⟩

theorem copyIn_beyond {data : Buffer 2048} {offset : Nat} {rbuffer : Buffer 512} {recv_bytes : Int}
    (h : recv_bytes < 0 ∨ 2048 < offset + recv_bytes.toNat) :
    copyIn data offset rbuffer recv_bytes = .error (.write .rstream offset recv_bytes) := by
  unfold copyIn
  rw [dif_neg (by omega)]

theorem copyOut_eq (rstream : Buffer 2048) (data : List UInt8) (len length : UInt32) :
    copyOut rstream data len length
      = if 2048 < min len.toNat length.toNat then
          .error (.read .rstream 0 (min len.toNat length.toNat : Nat))
        else if data.length < min len.toNat length.toNat then
          .error (.write .data 0 (min len.toNat length.toNat : Nat))
        else
          .ok (overlay (rstream.bytes.take (min len.toNat length.toNat)) data) := by
  have hcount : (if length > len then len else length).toNat = min len.toNat length.toNat := by
    split
    · rename_i h
      have := UInt32.lt_iff_toNat_lt.mp h
      omega
    · rename_i h
      have : length.toNat ≤ len.toNat :=
        Nat.le_of_not_lt fun h' => h (UInt32.lt_iff_toNat_lt.mpr h')
      omega
  simp only [copyOut, hcount]

/-- The copy of a complete response `s` of declared length out of its buffer. -/
theorem copyOut_stream {rstream : Buffer 2048} {data s init : List UInt8} {len length : UInt32}
    (hr : rstream.bytes = overlay s init) (hlength : length.toNat = s.length)
    (hs : s.length ≤ 2048) (hlen : len.toNat ≤ data.length) :
    copyOut rstream data len length = .ok (overlay (s.take (min len.toNat s.length)) data) := by
  rw [copyOut_eq, hlength, if_neg (by omega), if_neg (by omega), hr,
    take_overlay (Nat.min_le_right _ _)]

/-! ## What a computation leaves -/

def finalBus {α : Type} : EStateM.Result Halt Bus α → Bus
  | .ok _ bus => bus
  | .error _ bus => bus

/-! ## Peeling a call apart -/

variable {α β : Type}

theorem usb_bind_ok {x : Usb α} {f : α → Usb β} {a : α} {s s' : Bus} (h : x s = .ok a s') :
    (x >>= f) s = f a s' := by
  simp [bind, EStateM.bind, h]

theorem usb_bind_error {x : Usb α} {f : α → Usb β} {e : Halt} {s s' : Bus}
    (h : x s = .error e s') : (x >>= f) s = .error e s' := by
  simp [bind, EStateM.bind, h]

/-- A bind only looks at its first computation through the result it has here. -/
theorem usb_bind_congr {x y : Usb α} {f : α → Usb β} {s t : Bus} (h : x s = y t) :
    (x >>= f) s = (y >>= f) t := by
  simp only [bind, EStateM.bind, h]

theorem usb_bind_ok_iff {x : Usb α} {f : α → Usb β} {b : β} {s s'' : Bus} :
    (x >>= f) s = .ok b s'' ↔ ∃ a s', x s = .ok a s' ∧ f a s' = .ok b s'' := by
  cases h : x s with
  | ok a s' => rw [usb_bind_ok h]; simp
  | error e s' => rw [usb_bind_error h]; simp

@[simp] theorem usb_pure (a : α) (s : Bus) : (pure a : Usb α) s = .ok a s := rfl

@[simp] theorem usbBulkSend_apply (fd endpoint : Int) (data : List UInt8) (bus : Bus) :
    usbBulkSend fd endpoint data bus
      = .ok (bus.sends 0).value (bus.afterSend fd endpoint data) := rfl

theorem SendResult.value_neg {r : SendResult} : r.value < 0 ↔ r = .failed := by
  cases r with
  | failed => simp [SendResult.value]
  | sent n => simp [SendResult.value]

variable {σ ρ : Type} {fd endpoint : Int} {round : σ → RecvResult → Round σ (Except Fault ρ)}

/-- A receive loop returns exactly when its rounds, run on the receives to come, leave with a
result. -/
theorem recvLoop_ok_iff {s : σ} {bus bus' : Bus} {r : ρ} :
    recvLoop fd endpoint round s bus = .ok r bus' ↔
      ∃ rest, drive round s bus.recvs = .left (.ok r) rest
        ∧ bus' = bus.afterRecvs fd endpoint rest := by
  unfold recvLoop
  split
  · rename_i h; simp [h]
  · rename_i q rest h
    rw [h]
    constructor
    · intro e; cases e; exact ⟨rest, rfl, rfl⟩
    · rintro ⟨rest', e, rfl⟩; cases e; rfl
  · rename_i h; simp [h]

theorem recvLoop_starved {s s' : σ} {bus : Bus} (h : drive round s bus.recvs = .starved s') :
    recvLoop fd endpoint round s bus = .error .blocked (bus.afterRecvs fd endpoint []) := by
  simp only [recvLoop, h]

theorem recvLoop_fault {s : σ} {bus : Bus} {f : Fault} {rest : List RecvResult}
    (h : drive round s bus.recvs = .left (.error f) rest) :
    recvLoop fd endpoint round s bus
      = .error (.fault f) (bus.afterRecvs fd endpoint rest) := by
  simp only [recvLoop, h]

/-- The calls of a receive loop that consumed `used`. -/
theorem afterRecvs_trace {bus : Bus} {used rest : List RecvResult} (h : bus.recvs = used ++ rest)
    (fd endpoint : Int) :
    (bus.afterRecvs fd endpoint rest).trace = bus.trace ++ used.map (Event.recv fd endpoint) := by
  rw [Bus.afterRecvs, h]
  simp

/-- However a receive loop ends, all it did to the bus was receiving. -/
theorem finalBus_recvLoop (fd endpoint : Int)
    (round : σ → RecvResult → Round σ (Except Fault ρ)) (s : σ) (bus : Bus) :
    ∃ rest, finalBus (recvLoop fd endpoint round s bus) = bus.afterRecvs fd endpoint rest := by
  unfold recvLoop
  split
  · exact ⟨[], rfl⟩
  · rename_i rest _; exact ⟨rest, rfl⟩
  · rename_i rest _; exact ⟨rest, rfl⟩

/-- A continuation that makes no USB call leaves the bus of its first computation. -/
theorem finalBus_bind {x : Usb α} {f : α → Usb β} (hf : ∀ a s, finalBus (f a s) = s) (s : Bus) :
    finalBus ((x >>= f) s) = finalBus (x s) := by
  cases h : x s with
  | ok a s' => rw [usb_bind_ok h, hf]; rfl
  | error e s' => rw [usb_bind_error h]; rfl

end Droidbox
