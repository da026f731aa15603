import Droidbox.Usb.Urb

/-!
# Droidbox — completions of URBs

The kernel reports how a URB went in its `status` and its `actual_length`. `usb_bulk_send` and
`usb_bulk_recv` set `status` to `-1` before they submit a URB and never read it again, so what
they return only depends on the `ioctl`s and on `actual_length`.

* **`UrbOutcome.sendResult_value`**, **`UrbOutcome.recvResult_value`**: the values they return.
* `Completions.submitted`: the URBs of a trace of calls, with how they completed.
-/

namespace Droidbox

/-! ## One URB -/

/-- What becomes of the URB of a bulk call: `SUBMITURB` fails, or it completes with a status and
what was transferred, and `REAPURB` fails or returns it. -/
inductive UrbOutcome (α : Type) where
  | unsubmitted
  | unreaped (status : Int) (transferred : α)
  | reaped (status : Int) (transferred : α)
  deriving Repr

/-- What `__usb_bulk_msg` returns. -/
def UrbOutcome.ret {α : Type} : UrbOutcome α → Int
  | .unsubmitted | .unreaped _ _ => 1
  | .reaped _ _ => 0

/-- The block of the call behind `__usb_bulk_msg`, where `size` bytes count as transferred. -/
def UrbOutcome.uurb {α : Type} (size : α → Nat) (op : Bulk) : UrbOutcome α → Urb
  | .unsubmitted => op.uurb
  | .unreaped status a | .reaped status a =>
    { op.uurb with status := status, actual_length := size a }

/-- `usb_bulk_send` with this outcome; `transferred` is the `actual_length`. -/
def UrbOutcome.sendResult : UrbOutcome Nat → SendResult
  | .unsubmitted | .unreaped _ _ => .failed
  | .reaped _ n => .sent n

/-- `usb_bulk_recv` with this outcome; `transferred` are the bytes received. -/
def UrbOutcome.recvResult : UrbOutcome Transfer → RecvResult
  | .unsubmitted | .unreaped _ _ => .failed
  | .reaped _ t => .got t

/-- Both `ioctl`s, behind their retries. -/
theorem UrbOutcome.ret_control {α : Type} (o : UrbOutcome α) :
    (match o with
      | .unsubmitted => submitUrb .error
      | .unreaped _ _ => reapUrb (.error : Ioctl Unit)
      | .reaped _ _ => reapUrb (.ok ())) = .left o.ret := by
  cases o <;> rfl

/-- **The status is not reported.** A send returns `-1` or the `actual_length` of its block. -/
theorem UrbOutcome.sendResult_value (o : UrbOutcome Nat) (op : Bulk) :
    o.sendResult.value = bulkResult o.ret (o.uurb id op) := by
  cases o <;> rfl

theorem UrbOutcome.recvResult_value (o : UrbOutcome Transfer) (op : Bulk) (data : Buffer 512) :
    (usbBulkRecv o.recvResult data).1
      = bulkResult o.ret (o.uurb (fun t => t.bytes.length) op) := by
  cases o <;> rfl

/-! ## The URBs of a run -/

/-- A URB that was submitted: how it completed, and for an OUT URB the length requested. -/
inductive Completed where
  | sent (requested : Nat) (status : Int) (actual_length : Nat)
  | received (status : Int)
  deriving DecidableEq, Repr

/-- It completed with status 0, an OUT URB with its full length. -/
def Completed.Good : Completed → Prop
  | .sent requested status actual_length => status = 0 ∧ requested ≤ actual_length
  | .received status => status = 0

instance : (u : Completed) → Decidable u.Good
  | .sent _ _ _ | .received _ => by
    unfold Completed.Good
    infer_instance

def UrbOutcome.sent (requested : Nat) : UrbOutcome Nat → List Completed
  | .unsubmitted => []
  | .unreaped status n | .reaped status n => [.sent requested status n]

def UrbOutcome.received : UrbOutcome Transfer → List Completed
  | .unsubmitted => []
  | .unreaped status _ | .reaped status _ => [.received status]

/-- The outcomes of the URBs to come, in the order of the calls. -/
structure Completions where
  sends : Nat → UrbOutcome Nat
  recvs : List (UrbOutcome Transfer)

/-- The results of the calls. -/
def Completions.bus (k : Completions) : Bus where
  sends i := (k.sends i).sendResult
  recvs := k.recvs.map UrbOutcome.recvResult
  trace := []

/-- The URBs that were submitted in a trace of calls. -/
def Completions.submitted : Completions → List Event → List Completed
  | _, [] => []
  | k, .send _ _ data _ :: es =>
    (k.sends 0).sent data.length
      ++ Completions.submitted { k with sends := fun i => k.sends (i + 1) } es
  | k, .recv _ _ _ :: es =>
    match k.recvs with
    | [] => Completions.submitted k es
    | o :: os => o.received ++ Completions.submitted { k with recvs := os } es

end Droidbox
