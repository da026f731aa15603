import Droidbox.Ptp.Operations

/-!
# Droidbox — the common form of the PTP calls

Every call sends its command container; the two calls with a data container send that as well;
then every call runs the receive loops once and copies the result out. This module proves that
once, so that no later proof looks at the 27 operations again:

* `PtpCall.code`, `params`, `commandHeader`, `body`, `dataHeader` are the containers of a call,
  `PtpCall.pointers` the pointers it passes on.
* **`PtpCall.exec_ok`**: a call whose sends succeed returns exactly when its receive loop leaves
  and its final copy stays inside both buffers.
* **`PtpCall.exec_fault`**: it runs into an undefined access exactly when one of them does.
* **`PtpCall.exec_undelivered`**: a call with a failed send returns `-1` at once, with the
  caller's memory untouched and nothing received.
* **`PtpCall.exec_first_send`**: the first USB call of every operation sends its command.
-/

namespace Droidbox.Ptp

open LittleEndian Scripted

/-! ## The containers of a call -/

def PtpCall.code : PtpCall → UInt16
  | .getDeviceInfo => ptpRequestGetDeviceInfo
  | .openSession _ => ptpRequestOpenSession
  | .closeSession => ptpRequestCloseSession
  | .getStorageId => ptpRequestGetStorageId
  | .getStorageInfo _ => ptpRequestGetStorageInfo
  | .getNumObjects _ _ _ => ptpRequestGetNumObjects
  | .getObjectHandles _ _ _ => ptpRequestGetObjectHandles
  | .getObjectInfo _ => ptpRequestGetObjectInfo
  | .getObject _ => ptpRequestGetObject
  | .getThumb _ => ptpRequestGetThumb
  | .deleteObject _ _ => ptpRequestDeleteObject
  | .sendObjectInfo _ _ _ _ => ptpRequestSendObjectInfo
  | .sendObject _ _ => ptpRequestSendObject
  | .formatStore _ _ => ptpRequestDeleteObject
  | .resetDevice => ptpRequestResetDevice
  | .selfTest _ => ptpRequestSelfTest
  | .setObjectProtection _ _ => ptpRequestSetObjectProtection
  | .powerDown => ptpRequestPowerDown
  | .getDevicePropDesc _ => ptpRequestGetDevicePropDesc
  | .getDevicePropValue _ => ptpRequestGetDevicePropValue
  | .setDevicePropValue _ => ptpRequestSetDevicePropValue
  | .resetDevicePropValue _ => ptpRequestResetDevicePropValue
  | .terminateOpenCapture _ => ptpRequestTerminateOpenCapture
  | .moveObject _ _ _ => ptpRequestMoveObject
  | .copyObject _ _ _ => ptpRequestCopyObject
  | .getPartialObject _ _ _ => ptpRequestGetPartialObject
  | .initiateOpenCapture _ _ => ptpRequestInitialOpenCapture

/-- The parameters of the command, in wire order. -/
def PtpCall.params : PtpCall → List UInt32
  | .getDeviceInfo | .closeSession | .getStorageId | .resetDevice | .powerDown => []
  | .sendObject _ _ => []
  | .openSession session_id => [session_id]
  | .getStorageInfo storage_id => [storage_id]
  | .getObjectInfo object_handle | .getObject object_handle | .getThumb object_handle =>
    [object_handle]
  | .selfTest self_test_type => [self_test_type]
  | .getDevicePropDesc device_prop_code | .getDevicePropValue device_prop_code
  | .setDevicePropValue device_prop_code | .resetDevicePropValue device_prop_code =>
    [device_prop_code]
  | .terminateOpenCapture transaction_id => [transaction_id]
  | .deleteObject object_handle object_format_code => [object_handle, object_format_code]
  | .sendObjectInfo storage_id object_handle _ _ => [storage_id, object_handle]
  | .formatStore storage_id fs_format => [storage_id, fs_format]
  | .setObjectProtection object_handle protection_status => [object_handle, protection_status]
  | .initiateOpenCapture storage_id object_format_code => [storage_id, object_format_code]
  | .getNumObjects storage_id object_format_code object_handle
  | .getObjectHandles storage_id object_format_code object_handle =>
    [storage_id, object_format_code, object_handle]
  | .moveObject storage_id object_handle object_handle_parent
  | .copyObject storage_id object_handle object_handle_parent =>
    [object_handle, storage_id, object_handle_parent]
  | .getPartialObject object_handle offset max_bytes => [object_handle, offset, max_bytes]

/-- The transaction id the call puts in its containers. -/
def PtpCall.transactionId (env : Env) : PtpCall → UInt32
  | .openSession _ => 0
  | _ => getTransactionId env.rand

def PtpCall.commandHeader (env : Env) (c : PtpCall) : PtpHeader where
  contaierLength := ptpRequestLen (UInt32.ofNat c.params.length)
  containerType := ptpContainerTypeCommandBlock
  code := c.code
  transacionID := c.transactionId env

/-- The parameter block of a command: a bare header has none. -/
def PtpCall.body (c : PtpCall) : List UInt8 :=
  match c with
  | .getDeviceInfo | .closeSession | .getStorageId | .resetDevice | .powerDown => []
  | c => PtpCmdPayload.bytes
      { parameter1 := c.params.getD 0 0
        parameter2 := c.params.getD 1 0
        parameter3 := c.params.getD 2 0 }

/-- The header of the data container of a two-phase call. -/
def PtpCall.dataHeader (env : Env) : PtpCall → Option PtpHeader
  | .sendObjectInfo _ _ _ _ => some
      { contaierLength := ptpDataRequestLen sizeofObjectInfo2
        containerType := ptpContainerTypeDataBlock
        code := ptpRequestSendObjectInfo
        transacionID := getTransactionId env.rand }
  | .sendObject _ len => some
      { contaierLength := ptpDataRequestLen len
        containerType := ptpContainerTypeDataBlock
        code := ptpRequestSendObject
        transacionID := getTransactionId env.rand }
  | _ => none

/-- Whether the operation takes a `data` pointer. -/
def PtpCall.takesData : PtpCall → Bool
  | .getDeviceInfo | .getStorageId | .getStorageInfo _ | .getObjectHandles _ _ _
  | .getObjectInfo _ | .getObject _ | .getThumb _ | .deleteObject _ _ | .getDevicePropDesc _
  | .getDevicePropValue _ | .setDevicePropValue _ | .getPartialObject _ _ _ => true
  | _ => false

def PtpCall.takesParams : PtpCall → Bool
  | .getNumObjects _ _ _ | .sendObjectInfo _ _ _ _ | .copyObject _ _ _
  | .getPartialObject _ _ _ => true
  | _ => false

/-- The pointers the call hands to its last request. -/
def PtpCall.pointers (out : Out) (c : PtpCall) : Out where
  data := if c.takesData then out.data else none
  len := if c.takesData then out.len else 0
  res := out.res
  rparams := if c.takesParams then out.rparams else none

theorem PtpCall.pointers_data_iff {out : Out} {c : PtpCall} {data : List UInt8} :
    (c.pointers out).data = some data ↔ c.takesData = true ∧ out.data = some data := by
  cases h : c.takesData <;> simp [PtpCall.pointers, h]

/-- The bytes of the command container as they are sent. -/
def PtpCall.command (env : Env) (c : PtpCall) : List UInt8 :=
  memoryAt ((c.commandHeader env).bytes ++ c.body) env.command.beyond
    (c.commandHeader env).contaierLength.toNat

/-- The bytes of a data container with header `h` as they are sent: header, pointer, stack. -/
def Env.dataContainer (env : Env) (h : PtpHeader) : List UInt8 :=
  memoryAt (h.bytes ++ le64 env.oi2) env.data.beyond h.contaierLength.toNat

/-- The stack of the request that receives. -/
def PtpCall.frame (env : Env) (c : PtpCall) : Frame :=
  match c.dataHeader env with
  | none => env.command
  | some _ => env.data

def PtpCall.sent (dev : PtpDev) (env : Env) (c : PtpCall) (bus : Bus) : Bus :=
  match c.dataHeader env with
  | none => bus.afterSend dev.fd dev.endp (c.command env)
  | some h => (bus.afterSend dev.fd dev.endp (c.command env)).afterSend dev.fd dev.endp
      (env.dataContainer h)

@[simp] theorem PtpCall.sent_recvs (dev : PtpDev) (env : Env) (c : PtpCall) (bus : Bus) :
    (c.sent dev env bus).recvs = bus.recvs := by
  unfold PtpCall.sent
  split <;> rfl

/-- The receive loops of a call start from its stack and the pointers it passes on. -/
def PtpCall.start (env : Env) (out : Out) (c : PtpCall) : Receiver :=
  Receiver.start (c.frame env) out.res (c.pointers out).rparams

/-- What `__handle_request` does after its receive loop returned. -/
def finish (out : Out) (s : Receiver) : Except Fault Out :=
  match out.data with
  | none => .ok { out with res := s.res, rparams := s.rparams }
  | some data =>
    match copyResponse s.data data out.len s.res with
    | .error f => .error f
    | .ok data => .ok { out with data := some data, res := s.res, rparams := s.rparams }

theorem finish_none {out : Out} {s : Receiver} (h : out.data = none) :
    finish out s = .ok { out with res := s.res, rparams := s.rparams } := by
  simp only [finish, h]

theorem finish_some {out : Out} {s : Receiver} {data data' : List UInt8} (h : out.data = some data)
    (hcopy : copyResponse s.data data out.len s.res = .ok data') :
    finish out s = .ok { out with data := some data', res := s.res, rparams := s.rparams } := by
  simp only [finish, h, hcopy]

theorem finish_res {out o : Out} {s : Receiver} (h : finish out s = .ok o) : o.res = s.res := by
  unfold finish at h
  split at h
  · cases h; rfl
  · split at h
    · cases h
    · cases h; rfl

/-! ## One request -/

variable {fd endpoint : Int} {header : PtpHeader} {body : List UInt8} {frame : Frame} {out : Out}

def requestSent (fd endpoint : Int) (header : PtpHeader) (body : List UInt8) (frame : Frame)
    (bus : Bus) : Bus :=
  bus.afterSend fd endpoint
    (memoryAt (header.bytes ++ body) frame.beyond header.contaierLength.toNat)

theorem sendRequest_failed {req : List UInt8} {res : Option PtpRes}
    {rparams : Option PtpResParams} {next_phase : NextPhase} {bus : Bus}
    (h : bus.sends 0 = .failed) :
    sendRequest fd endpoint req frame res rparams next_phase bus
      = .ok (-1, Receiver.start frame res rparams) (bus.afterSend fd endpoint req) := by
  unfold sendRequest
  rw [usb_bind_ok (usbBulkSend_apply fd endpoint req bus)]
  simp [h, SendResult.value]

theorem sendRequest_data {req : List UInt8} {res : Option PtpRes}
    {rparams : Option PtpResParams} {bus : Bus} (h : bus.sends 0 ≠ .failed) :
    sendRequest fd endpoint req frame res rparams .data bus
      = .ok (0, Receiver.start frame res rparams) (bus.afterSend fd endpoint req) := by
  have hv : ¬ (bus.sends 0).value < 0 := by rwa [SendResult.value_neg]
  unfold sendRequest
  rw [usb_bind_ok (usbBulkSend_apply fd endpoint req bus)]
  simp [hv]

theorem sendRequest_response (fd endpoint : Int) (req : List UInt8) (frame : Frame)
    (res : Option PtpRes) (rparams : Option PtpResParams) {bus : Bus} (h : bus.sends 0 ≠ .failed) :
    sendRequest fd endpoint req frame res rparams .response bus
      = (recvLoop fd endpoint receiveRound (Receiver.start frame res rparams)
          >>= fun s => pure (0, s)) (bus.afterSend fd endpoint req) := by
  have hv : ¬ (bus.sends 0).value < 0 := by rwa [SendResult.value_neg]
  unfold sendRequest
  rw [usb_bind_ok (usbBulkSend_apply fd endpoint req bus)]
  simp [hv]

theorem handleRequest_failed {next_phase : NextPhase} {bus : Bus} (h : bus.sends 0 = .failed) :
    handleRequest fd endpoint header body frame out next_phase bus
      = .ok (-1, out) (requestSent fd endpoint header body frame bus) := by
  obtain ⟨data, len, res, rparams⟩ := out
  unfold handleRequest
  rw [usb_bind_ok (sendRequest_failed h)]
  cases data with
  | none => rfl
  | some data => rfl

theorem handleRequest_data {bus : Bus} (h : bus.sends 0 ≠ .failed) (hd : out.data = none) :
    handleRequest fd endpoint header body frame out .data bus
      = .ok (0, out) (requestSent fd endpoint header body frame bus) := by
  obtain ⟨data, len, res, rparams⟩ := out
  subst hd
  unfold handleRequest
  rw [usb_bind_ok (sendRequest_data h)]
  rfl

/-- A request of the response phase whose send succeeds runs the receive loops and finishes. -/
theorem handleRequest_response {bus : Bus} (h : bus.sends 0 ≠ .failed) :
    handleRequest fd endpoint header body frame out .response bus
      = (recvLoop fd endpoint receiveRound (Receiver.start frame out.res out.rparams)
          >>= fun s => match finish out s with
            | .error f => undefined f
            | .ok out => pure ((0 : Int), out))
        (requestSent fd endpoint header body frame bus) := by
  have hreq := sendRequest_response fd endpoint
    (memoryAt (header.bytes ++ body) frame.beyond header.contaierLength.toNat) frame out.res
    out.rparams h
  -- the receive loops run inside `sendRequest`, so its bind is peeled first
  unfold handleRequest requestSent
  cases hl : recvLoop fd endpoint receiveRound (Receiver.start frame out.res out.rparams)
      (bus.afterSend fd endpoint
        (memoryAt (header.bytes ++ body) frame.beyond header.contaierLength.toNat)) with
  | error e b =>
    rw [usb_bind_error hl] at hreq ⊢
    rw [usb_bind_error hreq]
  | ok s b =>
    rw [usb_bind_ok hl] at hreq ⊢
    rw [usb_bind_ok hreq]
    cases hd : out.data with
    | none => simp [hd, finish]
    | some data => cases hc : copyResponse s.data data out.len s.res <;> simp [hd, hc, finish]

/-! ## The calls -/

variable {dev : PtpDev} {env : Env} {c : PtpCall}

def PtpCall.sendCount : PtpCall → Nat
  | .sendObjectInfo _ _ _ _ | .sendObject _ _ => 2
  | _ => 1

theorem PtpCall.sendCount_pos (c : PtpCall) : 0 < c.sendCount := by
  cases c <;> exact Nat.succ_pos _

theorem PtpCall.sendCount_of_dataHeader {h : PtpHeader} (hc : c.dataHeader env = some h) :
    c.sendCount = 2 := by
  cases c <;> first | rfl | cases hc

theorem PtpCall.sendCount_single (hc : c.dataHeader env = none) : c.sendCount = 1 := by
  cases c <;> first | rfl | cases hc

theorem PtpCall.exec_single (hc : c.dataHeader env = none) :
    c.exec dev env out
      = handleRequest dev.fd dev.endp (c.commandHeader env) c.body env.command (c.pointers out)
          .response >>= fun reply => pure (out.merge reply) := by
  cases c <;> first | rfl | cases hc

/-- The first request of a two-phase call only passes `rparams` on, and nothing writes it. -/
theorem PtpCall.exec_two_failed {h : PtpHeader} {bus : Bus} (hc : c.dataHeader env = some h)
    (hs : bus.sends 0 = .failed) :
    c.exec dev env out bus
      = .ok (-1, out) (bus.afterSend dev.fd dev.endp (c.command env)) := by
  obtain ⟨data, len, res, rparams⟩ := out
  cases c <;> cases hc
  all_goals
    simp only [PtpCall.exec, PtpCall.run, ptpSendObjectInfo, ptpSendObject]
    rw [bind_assoc, usb_bind_ok (handleRequest_failed hs)]
    cases rparams <;> rfl

theorem PtpCall.exec_two {h : PtpHeader} {bus : Bus} (hc : c.dataHeader env = some h)
    (hs : bus.sends 0 ≠ .failed) :
    c.exec dev env out bus
      = (handleRequest dev.fd dev.endp h (le64 env.oi2) env.data (c.pointers out) .response
          >>= fun reply => pure (out.merge reply))
        (bus.afterSend dev.fd dev.endp (c.command env)) := by
  cases c <;> cases hc
  all_goals
    simp only [PtpCall.exec, PtpCall.run, ptpSendObjectInfo, ptpSendObject]
    rw [bind_assoc, usb_bind_ok (handleRequest_data hs rfl)]
    rfl

/-- The containers of the call are delivered: every send it makes succeeds. -/
def PtpCall.Delivered (c : PtpCall) (bus : Bus) : Prop :=
  ∀ i < c.sendCount, bus.sends i ≠ .failed

/-- Where the command went out and something did not, there is a data container. -/
theorem PtpCall.dataHeader_of_undelivered {bus : Bus} (env : Env) (hd : ¬ c.Delivered bus)
    (h0 : bus.sends 0 ≠ .failed) : ∃ h, c.dataHeader env = some h := by
  apply Option.ne_none_iff_exists'.mp
  intro hc
  have hcount := PtpCall.sendCount_single hc
  exact hd fun i hi => by rwa [show i = 0 by omega]

theorem PtpCall.sent_sendsSucceed {bus : Bus} (h : bus.SendsSucceed) (dev : PtpDev) (env : Env)
    (c : PtpCall) : (c.sent dev env bus).SendsSucceed := by
  unfold PtpCall.sent
  split
  · exact fun i => h (i + 1)
  · exact fun i => h (i + 2)

theorem PtpCall.Delivered.of_sendsSucceed {bus : Bus} (h : bus.SendsSucceed) (c : PtpCall) :
    c.Delivered bus := fun i _ => h i

/-- A call whose containers are delivered runs the receive loops and finishes. -/
theorem PtpCall.exec_delivered {bus : Bus} (hd : c.Delivered bus) :
    c.exec dev env out bus
      = (recvLoop dev.fd dev.endp receiveRound (c.start env out)
          >>= fun s => match finish (c.pointers out) s with
            | .error f => undefined f
            | .ok o => pure (out.merge (0, o)))
        (c.sent dev env bus) := by
  have hfinish : ∀ s, ((match finish (c.pointers out) s with
      | .error f => undefined f
      | .ok out => pure ((0 : Int), out)) >>= fun reply => pure (out.merge reply) : Usb _)
        = match finish (c.pointers out) s with
          | .error f => undefined f
          | .ok o => pure (out.merge (0, o)) := by
    intro s
    cases finish (c.pointers out) s <;> rfl
  -- one request, or two of which the second one receives
  cases hc : c.dataHeader env with
  | none =>
    have h0 := hd 0 c.sendCount_pos
    rw [PtpCall.exec_single hc, usb_bind_congr (handleRequest_response h0), bind_assoc]
    simp only [hfinish, PtpCall.start, PtpCall.frame, PtpCall.sent, hc]
    rfl
  | some h =>
    have hcount := PtpCall.sendCount_of_dataHeader hc
    have h0 := hd 0 (by omega)
    have h1 := hd 1 (by omega)
    rw [PtpCall.exec_two hc h0, usb_bind_congr (handleRequest_response h1), bind_assoc]
    simp only [hfinish, PtpCall.start, PtpCall.frame, PtpCall.sent, hc]
    rfl

/-- **A call whose containers are delivered returns exactly when its receive loops leave and its
final copy stays inside both buffers.** -/
theorem PtpCall.exec_ok (dev : PtpDev) (env : Env) (out : Out) {bus bus' : Bus}
    {reply : Int × Out} (hd : c.Delivered bus) :
    c.exec dev env out bus = .ok reply bus' ↔
      ∃ s rest o, drive receiveRound (c.start env out) bus.recvs = .left (.ok s) rest
        ∧ finish (c.pointers out) s = .ok o ∧ reply = out.merge (0, o)
        ∧ bus' = (c.sent dev env bus).afterRecvs dev.fd dev.endp rest := by
  rw [PtpCall.exec_delivered hd, usb_bind_ok_iff]
  have hrecvs := c.sent_recvs dev env bus
  constructor
  · rintro ⟨s, b, hl, hf⟩
    obtain ⟨rest, hdrive, rfl⟩ := recvLoop_ok_iff.mp hl
    cases ho : finish (c.pointers out) s with
    | error f => rw [ho] at hf; cases hf
    | ok o =>
      rw [ho] at hf
      cases hf
      exact ⟨s, rest, o, by rwa [hrecvs] at hdrive, ho, rfl, rfl⟩
  · rintro ⟨s, rest, o, hdrive, ho, rfl, rfl⟩
    refine ⟨s, _, recvLoop_ok_iff.mpr ⟨rest, by rwa [hrecvs], rfl⟩, ?_⟩
    rw [ho]
    rfl

/-- **It runs into an undefined access exactly when a round or the final copy does.** -/
theorem PtpCall.exec_fault (dev : PtpDev) (env : Env) (out : Out) {bus : Bus} {f : Fault}
    (hd : c.Delivered bus) :
    (∃ bus', c.exec dev env out bus = .error (.fault f) bus') ↔
      (∃ rest, drive receiveRound (c.start env out) bus.recvs = .left (.error f) rest)
      ∨ ∃ s rest, drive receiveRound (c.start env out) bus.recvs = .left (.ok s) rest
        ∧ finish (c.pointers out) s = .error f := by
  rw [PtpCall.exec_delivered hd, ← c.sent_recvs dev env bus]
  unfold recvLoop
  simp only [bind, EStateM.bind]
  cases hl : drive receiveRound (c.start env out) (c.sent dev env bus).recvs with
  | starved s => simp
  | left r rest =>
    cases r with
    | error g => simp
    | ok s =>
      cases ho : finish (c.pointers out) s with
      | error g => simp [ho, undefined]
      | ok o => simp [ho]

/-- **It waits when its receive loops do.** -/
theorem PtpCall.exec_blocked (dev : PtpDev) (env : Env) (out : Out) {bus : Bus} {s : Receiver}
    (hd : c.Delivered bus)
    (h : drive receiveRound (c.start env out) bus.recvs = .starved s) :
    c.exec dev env out bus
      = .error .blocked ((c.sent dev env bus).afterRecvs dev.fd dev.endp []) := by
  rw [PtpCall.exec_delivered hd]
  exact usb_bind_error (recvLoop_starved (by rwa [c.sent_recvs]))

theorem PtpCall.finalBus_delivered (dev : PtpDev) (env : Env) (out : Out) {bus : Bus}
    (hd : c.Delivered bus) :
    ∃ rest, finalBus (c.exec dev env out bus)
      = (c.sent dev env bus).afterRecvs dev.fd dev.endp rest := by
  rw [PtpCall.exec_delivered hd, finalBus_bind]
  · exact finalBus_recvLoop _ _ _ _ _
  · intro s bus'
    cases finish (c.pointers out) s <;> rfl

/-- **A call with a failed send returns `-1`** with the caller's memory untouched and nothing
received; it stops at the failed send. -/
theorem PtpCall.exec_undelivered (dev : PtpDev) (env : Env) (out : Out) {bus : Bus}
    (hd : ¬ c.Delivered bus) :
    ∃ bus', c.exec dev env out bus = .ok (-1, out) bus' ∧ bus'.recvs = bus.recvs
      ∧ (bus.sends 0 = .failed ∧ bus' = bus.afterSend dev.fd dev.endp (c.command env)
        ∨ bus.sends 0 ≠ .failed ∧ bus.sends 1 = .failed ∧ bus' = c.sent dev env bus) := by
  -- a request that was not sent hands back the pointers it was given
  have hmerge : out.merge (-1, c.pointers out) = (-1, out) := by
    obtain ⟨data, len, res, rparams⟩ := out
    simp only [Out.merge, PtpCall.pointers]
    cases c.takesData <;> cases c.takesParams <;> cases data <;> cases rparams <;> rfl
  cases hc : c.dataHeader env with
  | none =>
    have h0 : bus.sends 0 = .failed := by
      by_contra h0
      obtain ⟨h, hsome⟩ := PtpCall.dataHeader_of_undelivered env hd h0
      rw [hc] at hsome
      cases hsome
    refine ⟨bus.afterSend dev.fd dev.endp (c.command env), ?_, rfl, .inl ⟨h0, rfl⟩⟩
    rw [PtpCall.exec_single hc, usb_bind_ok (handleRequest_failed h0), hmerge]
    rfl
  | some h =>
    by_cases h0 : bus.sends 0 = .failed
    · exact ⟨_, PtpCall.exec_two_failed hc h0, rfl, .inl ⟨h0, rfl⟩⟩
    · have hcount := PtpCall.sendCount_of_dataHeader hc
      have h1 : bus.sends 1 = .failed := by
        by_contra h1
        refine hd fun i hi => ?_
        obtain rfl | rfl : i = 0 ∨ i = 1 := by omega
        · exact h0
        · exact h1
      have hsent : c.sent dev env bus
          = (bus.afterSend dev.fd dev.endp (c.command env)).afterSend dev.fd dev.endp
            (env.dataContainer h) := by
        simp only [PtpCall.sent, hc]
      refine ⟨c.sent dev env bus, ?_, by rw [hsent]; rfl, .inr ⟨h0, h1, rfl⟩⟩
      rw [PtpCall.exec_two hc h0, usb_bind_ok (handleRequest_failed h1), hmerge, hsent]
      rfl

theorem PtpCall.trace_delivered (dev : PtpDev) (env : Env) (out : Out) {bus : Bus}
    (hd : c.Delivered bus) :
    ∃ recvs : List RecvResult, (finalBus (c.exec dev env out bus)).trace
      = (c.sent dev env bus).trace ++ recvs.map (Event.recv dev.fd dev.endp) := by
  obtain ⟨rest, hfinal⟩ := PtpCall.finalBus_delivered dev env out hd
  exact ⟨_, by rw [hfinal, Bus.afterRecvs]⟩

theorem PtpCall.sent_trace_single (hc : c.dataHeader env = none) (bus : Bus) :
    (c.sent dev env bus).trace
      = bus.trace ++ [.send dev.fd dev.endp (c.command env) (bus.sends 0)] := by
  simp only [PtpCall.sent, hc, Bus.afterSend]

theorem PtpCall.sent_trace_two {h : PtpHeader} (hc : c.dataHeader env = some h) (bus : Bus) :
    (c.sent dev env bus).trace
      = bus.trace ++ [.send dev.fd dev.endp (c.command env) (bus.sends 0),
          .send dev.fd dev.endp (env.dataContainer h) (bus.sends 1)] := by
  simp only [PtpCall.sent, hc, Bus.afterSend, List.append_assoc, List.cons_append,
    List.nil_append]

theorem memoryAt_length (object : List UInt8) (beyond : Nat → UInt8) (n : Nat) :
    (memoryAt object beyond n).length = n := by
  simp [memoryAt]
  omega

theorem PtpCall.sent_trace (dev : PtpDev) (env : Env) (c : PtpCall) (bus : Bus) :
    ∃ evs, (c.sent dev env bus).trace
      = bus.trace ++ .send dev.fd dev.endp (c.command env) (bus.sends 0) :: evs := by
  unfold PtpCall.sent
  split
  · exact ⟨[], rfl⟩
  · rename_i h _
    exact ⟨[.send dev.fd dev.endp (env.dataContainer h) (bus.sends 1)],
      by simp [Bus.afterSend]⟩

/-- The first USB call of every operation sends its command container. -/
theorem PtpCall.exec_first_send (dev : PtpDev) (env : Env) (out : Out) (c : PtpCall) (bus : Bus) :
    ∃ evs, (finalBus (c.exec dev env out bus)).trace
      = bus.trace ++ .send dev.fd dev.endp (c.command env) (bus.sends 0) :: evs := by
  obtain ⟨evs, hsent⟩ := c.sent_trace dev env bus
  by_cases hd : c.Delivered bus
  · obtain ⟨rest, h⟩ := PtpCall.finalBus_delivered dev env out hd
    rw [h]
    exact ⟨evs ++ ((c.sent dev env bus).recvs.take
      ((c.sent dev env bus).recvs.length - rest.length)).map (Event.recv dev.fd dev.endp),
      by simp [Bus.afterRecvs, hsent]⟩
  · obtain ⟨bus', hexec, -, h⟩ := PtpCall.exec_undelivered dev env out hd
    rw [hexec]
    rcases h with ⟨-, rfl⟩ | ⟨-, -, rfl⟩
    · exact ⟨[], rfl⟩
    · exact ⟨evs, hsent⟩

end Droidbox.Ptp
