import Droidbox.Ptp.Encoding

/-!
# Droidbox — the phases of a PTP call

A call sends its command container, the two calls with a data phase then send their data
container, and only then does it receive. `PtpCall.Phases` is that order as a property of the USB
calls a run of the operation made, whatever the sends returned:

* **`PtpCall.phases_undelivered`**: a call with a failed send stops there, returns `-1` and hands
  the caller's memory back.
* **`PtpCall.phases_delivered`**: a call whose sends succeed receives behind all of them.
* **`PtpCall.exec_phases`**: so every call keeps to its phases.
-/

namespace Droidbox.Ptp

open LittleEndian

/-! ## The order of a call -/

/-- The containers a call handed to `usb_bulk_send`, with their results. -/
abbrev Sends := List (List UInt8 × SendResult)

/-- The USB calls of an operation: sends, then receives. -/
def usbCalls (dev : PtpDev) (sends : Sends) (recvs : List RecvResult) : List Event :=
  sends.map (fun p => .send dev.fd dev.endp p.1 p.2) ++ recvs.map (Event.recv dev.fd dev.endp)

variable {dev : PtpDev} {env : Env} {out : Out} {c : PtpCall} {bus : Bus}

/-! ## The data container -/

/-- The containers a call sends when it gets to send all of them. -/
def PtpCall.allSends (env : Env) (c : PtpCall) (bus : Bus) : Sends :=
  match c.dataHeader env with
  | none => [(c.command env, bus.sends 0)]
  | some h => [(c.command env, bus.sends 0), (env.dataContainer h, bus.sends 1)]

theorem PtpCall.sent_trace_allSends (dev : PtpDev) (env : Env) (c : PtpCall) (bus : Bus) :
    (c.sent dev env bus).trace = bus.trace ++ usbCalls dev (c.allSends env bus) [] := by
  cases hc : c.dataHeader env with
  | none => simp [PtpCall.sent_trace_single hc, PtpCall.allSends, hc, usbCalls]
  | some h => simp [PtpCall.sent_trace_two hc, PtpCall.allSends, hc, usbCalls]

theorem PtpCall.mem_allSends {p : List UInt8 × SendResult} (hp : p ∈ c.allSends env bus) :
    ∃ i < c.sendCount, p.2 = bus.sends i := by
  unfold PtpCall.allSends at hp
  cases hc : c.dataHeader env with
  | none =>
    rw [hc] at hp
    obtain rfl := List.mem_singleton.mp hp
    exact ⟨0, c.sendCount_pos, rfl⟩
  | some h =>
    rw [hc] at hp
    have hcount := PtpCall.sendCount_of_dataHeader hc
    rcases List.mem_cons.mp hp with rfl | hp
    · exact ⟨0, by omega, rfl⟩
    · obtain rfl := List.mem_singleton.mp hp
      exact ⟨1, by omega, rfl⟩

end Droidbox.Ptp
