import Droidbox.Ptp.Calls

/-!
# Droidbox — what the data phases of the PTP operations carry

Three operations are documented to move data from the initiator to the responder. Two of them
send a data container behind their command, but `__handle_request` sends the container structure
itself, and that holds a pointer where the payload should be; the third sends no data container.

* **`PtpCall.carries_nil`**: a data container that follows its header with the same bytes on
  every stack follows it with none.
* **`PtpCall.carriesPayload_iff`**: of all calls with a payload, only the sending of an empty
  object carries it.
-/

namespace Droidbox.Ptp

open LittleEndian

/-! ## The payload of a call -/

/-- What an operation with data direction `I -> R` is given to send: the object, the dataset of
`*obj_info`, or the property value. -/
def PtpCall.payload (serialise : ObjectInfo → List UInt8) (out : Out) :
    PtpCall → Option (List UInt8)
  | .sendObject object len => some (object.take len.toNat)
  | .sendObjectInfo _ _ obj_info _ => some (serialise obj_info)
  | .setDevicePropValue _ => out.data.map (List.take out.len.toNat)
  | _ => none

/-- Whatever the stack holds, when its sends succeed the call sends its command, then one data
container with the payload `s` under the code and the transaction id of the command, and from
there on it only receives. -/
def CarriesPayload (c : PtpCall) (out : Out) (s : List UInt8) : Prop :=
  ∀ dev env (bus : Bus), bus.SendsSucceed →
    ∃ header : PtpHeader, header.contaierLength.toNat = 12 + s.length
      ∧ header.containerType = ptpContainerTypeDataBlock
      ∧ header.code = c.code
      ∧ header.transacionID = c.transactionId env
      ∧ ∃ recvs : List RecvResult, (finalBus (c.exec dev env out bus)).trace
        = bus.trace ++ .send dev.fd dev.endp (c.command env) (bus.sends 0)
          :: .send dev.fd dev.endp (header.bytes ++ s) (bus.sends 1)
          :: recvs.map (Event.recv dev.fd dev.endp)

/-! ## The data container a call sends -/

variable {dev : PtpDev} {env : Env} {out : Out} {c : PtpCall} {s : List UInt8}

/-- The byte behind the header of a data container is the lowest byte of the pointer. -/
theorem byteAt_dataContainer {h : PtpHeader} (hlen : 12 < h.contaierLength.toNat) :
    byteAt (env.dataContainer h) 12 = env.oi2.toUInt8 := by
  have hobject : (h.bytes ++ le64 env.oi2).length = 20 := by simp
  rw [Env.dataContainer, memoryAt, byteAt_append_left (by simp; omega), byteAt_take hlen]
  exact byteAt_append_right h.bytes (le64 env.oi2) 0

/-- The data container of a call that carries `s` is a header and `s`. -/
theorem PtpCall.carries_container {h : PtpHeader} (hcarries : CarriesPayload c out s)
    (hc : c.dataHeader env = some h) : ∃ header : PtpHeader,
      env.dataContainer h = header.bytes ++ s := by
  obtain ⟨header, -, -, -, -, recvs, htrace⟩ :=
    hcarries ⟨0, 0⟩ env _ (Bus.answering_sendsSucceed [])
  obtain ⟨recvs', htrace'⟩ := PtpCall.trace_delivered ⟨0, 0⟩ env out
    (.of_sendsSucceed (Bus.answering_sendsSucceed []) c)
  rw [htrace', PtpCall.sent_trace_two hc, List.append_assoc] at htrace
  have hevents := List.append_cancel_left htrace
  simp only [List.cons_append, List.cons.injEq, Event.send.injEq] at hevents
  exact ⟨header, hevents.2.1.2.2.1⟩

theorem PtpCall.carries_length (env : Env) {h : PtpHeader} (hcarries : CarriesPayload c out s)
    (hc : c.dataHeader env = some h) : h.contaierLength.toNat = 12 + s.length := by
  obtain ⟨header, hcontainer⟩ := PtpCall.carries_container hcarries hc
  have hlen := congrArg List.length hcontainer
  rwa [Env.dataContainer, memoryAt_length, List.length_append, PtpHeader.bytes_length] at hlen

/-- If the data container carries `s` on every stack, `s` is empty: the pointer behind its
header takes two values that differ in their lowest byte. -/
theorem PtpCall.carries_nil (hcarries : CarriesPayload c out s)
    (hc : ∀ env, c.dataHeader env ≠ none) : s = [] := by
  by_contra hs
  have hpos := List.length_pos_of_ne_nil hs
  have hbyte : ∀ env : Env, byteAt s 0 = env.oi2.toUInt8 := by
    intro env
    obtain ⟨h, hh⟩ := Option.ne_none_iff_exists'.mp (hc env)
    obtain ⟨header, hcontainer⟩ := PtpCall.carries_container hcarries hh
    have hlen := PtpCall.carries_length env hcarries hh
    rw [← byteAt_dataContainer (h := h) (by omega), hcontainer]
    exact (byteAt_append_right header.bytes s 0).symm
  -- the first byte of `s` would have to be the lowest byte of every address
  have h0 := hbyte { Env.zero with oi2 := 0 }
  have h1 := hbyte { Env.zero with oi2 := 1 }
  rw [h0] at h1
  exact absurd h1 (by decide)

/-! ## Which calls carry their payload -/

/-- An empty object is sent: the container is its header. -/
theorem carries_empty_object (object : List UInt8) (out : Out) :
    CarriesPayload (.sendObject object 0) out [] := by
  intro dev env bus hsends
  obtain ⟨recvs, htrace⟩ := PtpCall.trace_delivered dev env out
    (.of_sendsSucceed hsends (.sendObject object 0))
  refine ⟨⟨ptpDataRequestLen 0, ptpContainerTypeDataBlock, ptpRequestSendObject,
    getTransactionId env.rand⟩, rfl, rfl, rfl, rfl, recvs, ?_⟩
  rw [htrace, PtpCall.sent_trace_two rfl, List.append_assoc]
  rfl

/-- A call without a data container carries nothing. -/
theorem not_carriesPayload_of_single (hc : ∀ env, c.dataHeader env = none) :
    ¬ CarriesPayload c out s := by
  intro hcarries
  obtain ⟨header, -, -, -, -, recvs, htrace⟩ :=
    hcarries ⟨0, 0⟩ Env.zero _ (Bus.answering_sendsSucceed [])
  obtain ⟨recvs', htrace'⟩ := PtpCall.trace_delivered ⟨0, 0⟩ Env.zero out
    (.of_sendsSucceed (Bus.answering_sendsSucceed []) c)
  rw [htrace', PtpCall.sent_trace_single (hc _), List.append_assoc] at htrace
  have hevents := (List.cons.inj (List.append_cancel_left htrace)).2
  cases recvs' with
  | nil => cases hevents
  | cons r rs => cases hevents

/-- **Which data phases carry the caller's payload**: of the calls with a payload, those that
send an empty object. The dataset and the property value are never sent, and of an object with
bytes a pointer and the stack behind it are sent in its place. -/
theorem PtpCall.carriesPayload_iff (serialise : ObjectInfo → List UInt8) (c : PtpCall) (out : Out)
    (s : List UInt8) (hs : c.payload serialise out = some s) :
    CarriesPayload c out s ↔ ∃ object, c = .sendObject object 0 := by
  constructor
  · intro hcarries
    cases c with
    | sendObject object len =>
      have hnil := PtpCall.carries_nil hcarries fun env h => by cases h
      have hlen := PtpCall.carries_length Env.zero hcarries rfl
      rw [hnil] at hlen
      -- 12 + len wraps around, but only `len = 0` gives 12
      have hzero : len = 0 := by
        apply UInt32.toNat_inj.mp
        have := len.toNat_lt
        simp [ptpDataRequestLen, UInt32.toNat_add] at hlen ⊢
        omega
      exact ⟨object, by rw [hzero]⟩
    | sendObjectInfo storage_id object_handle obj_info len =>
      -- the container always announces 64 bytes
      have hnil := PtpCall.carries_nil hcarries fun env h => by cases h
      have hlen := PtpCall.carries_length Env.zero hcarries rfl
      rw [hnil] at hlen
      exact absurd hlen (by decide)
    | setDevicePropValue device_prop_code =>
      exact absurd hcarries (not_carriesPayload_of_single fun _ => rfl)
    | _ => cases hs
  · rintro ⟨object, rfl⟩
    cases hs
    exact carries_empty_object object out

theorem carriesPayload_of_empty_object :
    CarriesPayload (.sendObject [] 0) ⟨none, 0, some ⟨0, 0⟩, none⟩ [] :=
  (PtpCall.carriesPayload_iff (fun _ => []) (.sendObject [] 0) _ [] rfl).mpr ⟨[], rfl⟩

/-- One-byte objects are not sent, and two of them that differ are sent as the same bytes. -/
theorem sendObject_ignores_object :
    (PtpCall.sendObject [0x41] 1).payload (fun _ => []) ⟨none, 0, some ⟨0, 0⟩, none⟩ = some [0x41]
    ∧ ¬ CarriesPayload (.sendObject [0x41] 1) ⟨none, 0, some ⟨0, 0⟩, none⟩ [0x41]
    ∧ ∀ dev env out bus, (PtpCall.sendObject [0x41] 1).exec dev env out bus
        = (PtpCall.sendObject [0x42] 1).exec dev env out bus := by
  refine ⟨rfl, fun hcarries => ?_, fun dev env out bus => rfl⟩
  have hnil := PtpCall.carries_nil hcarries fun env h => by cases h
  cases hnil

end Droidbox.Ptp
