import Droidbox.Ptp.Calls

/-!
# Droidbox — what a PTP command says on the wire

The command containers of the 27 operations, read back by the receive-side masks. A command is
`12 + 4 * nparams` bytes of type `COMMAND`, and its code and parameters identify the operation
and its arguments, with one exception: `ptp_format_store` is sent under the opcode of
`ptp_delete_object`.

* **`PtpCall.command_eq`**: the bytes of a command are its header and its parameters.
* **`PtpCall.decode_wire`**: `decodeRequest` undoes the encoding of every operation that sends
  its own opcode.
* **`PtpCall.wire_determines_request`**: the whole law, with its exact exception.
-/

namespace Droidbox.Ptp

open LittleEndian

/-! ## Requests -/

/-- The operations that send a command. -/
inductive PtpOp where
  | getDeviceInfo | openSession | closeSession | getStorageId | getStorageInfo | getNumObjects
  | getObjectHandles | getObjectInfo | getObject | getThumb | deleteObject | sendObjectInfo
  | sendObject | formatStore | resetDevice | selfTest | setObjectProtection | powerDown
  | getDevicePropDesc | getDevicePropValue | setDevicePropValue | resetDevicePropValue
  | terminateOpenCapture | moveObject | copyObject | getPartialObject | initiateOpenCapture
  deriving DecidableEq, Repr

/-- The operation a call names and those of its arguments that become parameters, in the order
of the C prototype. -/
def PtpCall.request : PtpCall → PtpOp × List UInt32
  | .getDeviceInfo => (.getDeviceInfo, [])
  | .openSession session_id => (.openSession, [session_id])
  | .closeSession => (.closeSession, [])
  | .getStorageId => (.getStorageId, [])
  | .getStorageInfo storage_id => (.getStorageInfo, [storage_id])
  | .getNumObjects storage_id object_format_code object_handle =>
    (.getNumObjects, [storage_id, object_format_code, object_handle])
  | .getObjectHandles storage_id object_format_code object_handle =>
    (.getObjectHandles, [storage_id, object_format_code, object_handle])
  | .getObjectInfo object_handle => (.getObjectInfo, [object_handle])
  | .getObject object_handle => (.getObject, [object_handle])
  | .getThumb object_handle => (.getThumb, [object_handle])
  | .deleteObject object_handle object_format_code =>
    (.deleteObject, [object_handle, object_format_code])
  | .sendObjectInfo storage_id object_handle _ _ => (.sendObjectInfo, [storage_id, object_handle])
  | .sendObject _ _ => (.sendObject, [])
  | .formatStore storage_id fs_format => (.formatStore, [storage_id, fs_format])
  | .resetDevice => (.resetDevice, [])
  | .selfTest self_test_type => (.selfTest, [self_test_type])
  | .setObjectProtection object_handle protection_status =>
    (.setObjectProtection, [object_handle, protection_status])
  | .powerDown => (.powerDown, [])
  | .getDevicePropDesc device_prop_code => (.getDevicePropDesc, [device_prop_code])
  | .getDevicePropValue device_prop_code => (.getDevicePropValue, [device_prop_code])
  | .setDevicePropValue device_prop_code => (.setDevicePropValue, [device_prop_code])
  | .resetDevicePropValue device_prop_code => (.resetDevicePropValue, [device_prop_code])
  | .terminateOpenCapture transaction_id => (.terminateOpenCapture, [transaction_id])
  | .moveObject storage_id object_handle object_handle_parent =>
    (.moveObject, [storage_id, object_handle, object_handle_parent])
  | .copyObject storage_id object_handle object_handle_parent =>
    (.copyObject, [storage_id, object_handle, object_handle_parent])
  | .getPartialObject object_handle offset max_bytes =>
    (.getPartialObject, [object_handle, offset, max_bytes])
  | .initiateOpenCapture storage_id object_format_code =>
    (.initiateOpenCapture, [storage_id, object_format_code])

/-! ## Reading a command back -/

/-- The parameters of a command container: the words behind its header. -/
def wireParams (stream : List UInt8) : List UInt32 :=
  (List.range ((stream.length - 12) / 4)).map fun k => word32 stream (12 + 4 * k)

/-- What a command puts on the wire: its code and its parameters. -/
def PtpCall.wire (env : Env) (c : PtpCall) : UInt16 × List UInt32 :=
  (responseCodeMask (c.command env), wireParams (c.command env))

/-- The bytes handed to the first `usb_bulk_send` between two states of the bus. -/
def firstSend (before after : Bus) : Option (List UInt8) :=
  match after.trace.drop before.trace.length with
  | .send _ _ data _ :: _ => some data
  | _ => none

/-- The operation that owns an opcode. -/
def opOfCode (code : UInt16) : Option PtpOp :=
  if code = ptpRequestGetDeviceInfo then some .getDeviceInfo
  else if code = ptpRequestOpenSession then some .openSession
  else if code = ptpRequestCloseSession then some .closeSession
  else if code = ptpRequestGetStorageId then some .getStorageId
  else if code = ptpRequestGetStorageInfo then some .getStorageInfo
  else if code = ptpRequestGetNumObjects then some .getNumObjects
  else if code = ptpRequestGetObjectHandles then some .getObjectHandles
  else if code = ptpRequestGetObjectInfo then some .getObjectInfo
  else if code = ptpRequestGetObject then some .getObject
  else if code = ptpRequestGetThumb then some .getThumb
  else if code = ptpRequestDeleteObject then some .deleteObject
  else if code = ptpRequestSendObjectInfo then some .sendObjectInfo
  else if code = ptpRequestSendObject then some .sendObject
  else if code = ptpRequestFormatStore then some .formatStore
  else if code = ptpRequestResetDevice then some .resetDevice
  else if code = ptpRequestSelfTest then some .selfTest
  else if code = ptpRequestSetObjectProtection then some .setObjectProtection
  else if code = ptpRequestPowerDown then some .powerDown
  else if code = ptpRequestGetDevicePropDesc then some .getDevicePropDesc
  else if code = ptpRequestGetDevicePropValue then some .getDevicePropValue
  else if code = ptpRequestSetDevicePropValue then some .setDevicePropValue
  else if code = ptpRequestResetDevicePropValue then some .resetDevicePropValue
  else if code = ptpRequestTerminateOpenCapture then some .terminateOpenCapture
  else if code = ptpRequestMoveObject then some .moveObject
  else if code = ptpRequestCopyObject then some .copyObject
  else if code = ptpRequestGetPartialObject then some .getPartialObject
  else if code = ptpRequestInitialOpenCapture then some .initiateOpenCapture
  else none

/-- The arguments of an operation from its parameters: moves and copies put the object first. -/
def argsOfParams : PtpOp → List UInt32 → List UInt32
  | .moveObject, [object_handle, storage_id, object_handle_parent]
  | .copyObject, [object_handle, storage_id, object_handle_parent] =>
    [storage_id, object_handle, object_handle_parent]
  | _, params => params

def decodeRequest (wire : UInt16 × List UInt32) : Option (PtpOp × List UInt32) :=
  (opOfCode wire.1).map fun op => (op, argsOfParams op wire.2)

/-! ## The bytes of a command -/

theorem PtpCall.contaierLength_toNat (env : Env) (c : PtpCall) :
    (c.commandHeader env).contaierLength.toNat = 12 + 4 * c.params.length := by
  cases c <;> rfl

/-- The parameters come first in the parameter block, and all of them are in it. -/
theorem PtpCall.body_take (c : PtpCall) :
    c.body.take (4 * c.params.length) = c.params.flatMap le32
      ∧ 4 * c.params.length ≤ c.body.length := by
  cases c <;> exact ⟨rfl, Nat.le_of_ble_eq_true rfl⟩

/-- A command is its header and its parameters; nothing behind the container is sent. -/
theorem PtpCall.command_eq (env : Env) (c : PtpCall) :
    c.command env = (c.commandHeader env).bytes ++ c.params.flatMap le32 := by
  obtain ⟨hparams, hinside⟩ := c.body_take
  have hheader := (c.commandHeader env).bytes_length
  have hlength : 12 + 4 * c.params.length ≤ ((c.commandHeader env).bytes ++ c.body).length := by
    rw [List.length_append, hheader]
    omega
  rw [PtpCall.command, PtpCall.contaierLength_toNat, memoryAt, Nat.sub_eq_zero_of_le hlength,
    List.range_zero, List.map_nil, List.append_nil, ← hheader, List.take_length_add_append,
    hparams]

theorem PtpCall.command_length (env : Env) (c : PtpCall) :
    (c.command env).length = 12 + 4 * c.params.length := by
  rw [PtpCall.command_eq]
  cases c <;> rfl

theorem PtpCall.firstSend_exec (dev : PtpDev) (env : Env) (out : Out) (c : PtpCall) (bus : Bus) :
    firstSend bus (finalBus (c.exec dev env out bus)) = some (c.command env) := by
  obtain ⟨evs, h⟩ := PtpCall.exec_first_send dev env out c bus
  rw [firstSend, h, List.drop_left]

theorem PtpCall.responseLengthMask_command (env : Env) (c : PtpCall) :
    (responseLengthMask (c.command env)).toNat = 12 + 4 * c.params.length := by
  rw [PtpCall.command_eq, responseLengthMask_header, PtpCall.contaierLength_toNat]

theorem PtpCall.responseTypeMask_command (env : Env) (c : PtpCall) :
    responseTypeMask (c.command env) = ptpContainerTypeCommandBlock := by
  rw [PtpCall.command_eq, responseTypeMask_header]
  rfl

theorem PtpCall.wireParams_command (env : Env) (c : PtpCall) :
    wireParams (c.command env) = c.params := by
  have hlen := c.command_length env
  unfold wireParams
  apply List.ext_getElem
  · simp [hlen]
  · intro k hk hk'
    simp only [List.getElem_map, List.getElem_range]
    have hhead : 12 + 4 * k = (c.commandHeader env).bytes.length + 4 * k := by simp
    rw [PtpCall.command_eq, hhead, word32_append_right,
      ← List.append_nil (c.params.flatMap le32), word32_flatMap_le32 _ hk']

theorem PtpCall.wire_eq (env : Env) (c : PtpCall) : c.wire env = (c.code, c.params) := by
  unfold PtpCall.wire
  rw [PtpCall.wireParams_command]
  rw [PtpCall.command_eq, responseCodeMask_header]
  rfl

/-! ## Decoding -/

/-- The operation that owns the opcode of a call. -/
theorem PtpCall.opOfCode_code (c : PtpCall) :
    opOfCode c.code = some (if c.request.1 = .formatStore then .deleteObject else c.request.1) := by
  cases c <;> rfl

theorem PtpCall.argsOfParams_params (c : PtpCall) :
    argsOfParams c.request.1 c.params = c.request.2 := by
  cases c <;> rfl

theorem PtpCall.request_params_length (c : PtpCall) : c.request.2.length = c.params.length := by
  cases c <;> rfl

theorem PtpCall.params_formatStore {c : PtpCall} (h : c.request.1 = .formatStore) :
    ∃ a b, c.request = (.formatStore, [a, b]) ∧ c.params = [a, b] := by
  cases c with
  | formatStore a b => exact ⟨a, b, rfl, rfl⟩
  | _ => cases h

/-- **Decoding undoes encoding**, except for `ptp_format_store`. -/
theorem PtpCall.decode_wire (env : Env) (c : PtpCall) :
    decodeRequest (c.wire env) = some c.request ↔ c.request.1 ≠ .formatStore := by
  rw [PtpCall.wire_eq, decodeRequest, PtpCall.opOfCode_code]
  by_cases h : c.request.1 = .formatStore
  · obtain ⟨a, b, hreq, hparams⟩ := PtpCall.params_formatStore h
    simp [hreq]
  · simp [h, PtpCall.argsOfParams_params]

/-- What is decoded from a `ptp_format_store` is a `ptp_delete_object`. -/
theorem PtpCall.decode_wire_formatStore (env : Env) {c : PtpCall} {a b : UInt32}
    (h : c.request = (.formatStore, [a, b])) :
    decodeRequest (c.wire env) = some (.deleteObject, [a, b]) := by
  obtain ⟨a', b', hreq, hparams⟩ := PtpCall.params_formatStore (c := c) (by rw [h])
  rw [h] at hreq
  cases hreq
  rw [PtpCall.wire_eq, decodeRequest, PtpCall.opOfCode_code, h, hparams]
  rfl

/-- The two calls one wire message cannot tell apart. -/
def FormatClash (c₁ c₂ : PtpCall) : Prop :=
  ∃ a b, c₁.request = (.deleteObject, [a, b]) ∧ c₂.request = (.formatStore, [a, b])

/-- A command decoded as its own request, or as the deletion a formatting is sent as. -/
theorem PtpCall.decode_wire_cases (env : Env) (c : PtpCall) :
    c.request.1 ≠ .formatStore ∧ decodeRequest (c.wire env) = some c.request
    ∨ ∃ a b, c.request = (.formatStore, [a, b])
      ∧ decodeRequest (c.wire env) = some (.deleteObject, [a, b]) := by
  by_cases h : c.request.1 = .formatStore
  · obtain ⟨a, b, hreq, -⟩ := PtpCall.params_formatStore h
    exact .inr ⟨a, b, hreq, PtpCall.decode_wire_formatStore env hreq⟩
  · exact .inl ⟨h, (PtpCall.decode_wire env c).mpr h⟩

/-- Equal messages come from equal requests or from a clash. -/
theorem PtpCall.request_of_wire_eq {env₁ env₂ : Env} {c₁ c₂ : PtpCall}
    (h : c₁.wire env₁ = c₂.wire env₂) :
    c₁.request = c₂.request ∨ FormatClash c₁ c₂ ∨ FormatClash c₂ c₁ := by
  rcases c₁.decode_wire_cases env₁ with ⟨-, h₁⟩ | ⟨a, b, hr₁, h₁⟩ <;>
    rcases c₂.decode_wire_cases env₂ with ⟨-, h₂⟩ | ⟨a', b', hr₂, h₂⟩ <;>
    rw [h, h₂] at h₁ <;> injection h₁ with h₁
  -- two plain calls, a plain one beside a formatting in either order, two formattings
  · exact .inl h₁.symm
  · exact .inr (.inl ⟨a', b', h₁.symm, hr₂⟩)
  · exact .inr (.inr ⟨a, b, h₁, hr₁⟩)
  · cases h₁
    exact .inl (hr₁.trans hr₂.symm)

theorem FormatClash.wire_eq {c₁ c₂ : PtpCall} (h : FormatClash c₁ c₂) (env₁ env₂ : Env) :
    c₁.wire env₁ = c₂.wire env₂ := by
  obtain ⟨a, b, h₁, h₂⟩ := h
  rw [PtpCall.wire_eq, PtpCall.wire_eq]
  cases c₁ <;> cases h₁
  cases c₂ <;> cases h₂
  rfl

theorem FormatClash.request_ne {c₁ c₂ : PtpCall} (h : FormatClash c₁ c₂) :
    c₁.request ≠ c₂.request := by
  obtain ⟨a, b, h₁, h₂⟩ := h
  rw [h₁, h₂]
  intro hne
  cases hne

theorem PtpCall.wire_injective_iff (env₁ env₂ : Env) (c₁ c₂ : PtpCall) :
    (c₁.wire env₁ = c₂.wire env₂ → c₁.request = c₂.request) ↔
      ¬ (FormatClash c₁ c₂ ∨ FormatClash c₂ c₁) := by
  constructor
  · rintro h (hclash | hclash)
    · exact hclash.request_ne (h (hclash.wire_eq _ _))
    · exact hclash.request_ne (h (hclash.wire_eq _ _).symm).symm
  · intro hclash hw
    exact (PtpCall.request_of_wire_eq hw).resolve_right hclash

/-! ## Unique decodability -/

/-- One decoder recovers the request of every call of the set from its wire message. -/
def UniquelyDecodable (calls : Set PtpCall) : Prop :=
  ∃ decode : UInt16 × List UInt32 → Option (PtpOp × List UInt32),
    ∀ c ∈ calls, ∀ env, decode (c.wire env) = some c.request

/-- A decoder exists as soon as equal messages come from equal requests. -/
theorem uniquelyDecodable_iff (calls : Set PtpCall) :
    UniquelyDecodable calls ↔
      ∀ c₁ ∈ calls, ∀ c₂ ∈ calls, ∀ env₁ env₂, c₁.wire env₁ = c₂.wire env₂ →
        c₁.request = c₂.request := by
  constructor
  · rintro ⟨decode, hdecode⟩ c₁ h₁ c₂ h₂ env₁ env₂ hw
    have e := hdecode c₁ h₁ env₁
    rw [hw, hdecode c₂ h₂ env₂] at e
    injection e with e
    exact e.symm
  · intro h
    -- the request factors through the message, which is what a decoder is
    have hfactors : Function.FactorsThrough
        (fun p : {c // c ∈ calls} × Env => some p.1.val.request) fun p => p.1.val.wire p.2 :=
      fun p q hw => congrArg some (h _ p.1.2 _ q.1.2 _ _ hw)
    obtain ⟨decode, hdecode⟩ := (Function.factorsThrough_iff _).mp hfactors
    exact ⟨decode, fun c hc env => (congrFun hdecode (⟨c, hc⟩, env)).symm⟩

/-- **What the wire says about a call.** Whatever the environment, the first thing an operation
sends is a well-formed command container, and `decodeRequest` recovers the call from it unless
it is a `ptp_format_store`; two calls put different messages on the wire unless they are the
deletion and the formatting with the same arguments, and a set of calls has a decoder exactly
when it holds no such pair. -/
theorem PtpCall.wire_determines_request (dev : PtpDev) (env env' : Env) (out : Out) (bus : Bus)
    (c c' : PtpCall) (calls : Set PtpCall) :
    (∃ stream, firstSend bus (finalBus (c.exec dev env out bus)) = some stream
      ∧ stream.length = 12 + 4 * c.request.2.length
      ∧ (responseLengthMask stream).toNat = stream.length
      ∧ responseTypeMask stream = ptpContainerTypeCommandBlock
      ∧ (responseCodeMask stream, wireParams stream) = c.wire env
      ∧ (decodeRequest (c.wire env) = some c.request ↔ c.request.1 ≠ .formatStore))
    ∧ ((c.wire env = c'.wire env' → c.request = c'.request) ↔
        ¬ (FormatClash c c' ∨ FormatClash c' c))
    ∧ (UniquelyDecodable calls ↔ ∀ c₁ ∈ calls, ∀ c₂ ∈ calls, ¬ FormatClash c₁ c₂) := by
  refine ⟨?_, PtpCall.wire_injective_iff env env' c c', ?_⟩
  · refine ⟨c.command env, PtpCall.firstSend_exec dev env out c bus, ?_, ?_,
      PtpCall.responseTypeMask_command env c, rfl, PtpCall.decode_wire env c⟩
    · rw [PtpCall.command_length, PtpCall.request_params_length]
    · rw [PtpCall.responseLengthMask_command, PtpCall.command_length]
  · rw [uniquelyDecodable_iff]
    constructor
    · intro h c₁ h₁ c₂ h₂ hclash
      exact hclash.request_ne (h c₁ h₁ c₂ h₂ Env.zero Env.zero (hclash.wire_eq _ _))
    · intro h c₁ h₁ c₂ h₂ env₁ env₂
      refine (PtpCall.wire_injective_iff env₁ env₂ c₁ c₂).mpr ?_
      rintro (hclash | hclash)
      · exact h c₁ h₁ c₂ h₂ hclash
      · exact h c₂ h₂ c₁ h₁ hclash

/-- Formatting a store puts the same bytes on the wire as deleting the object whose handle is
the store's id, so no decoder recovers both. -/
theorem formatStore_sends_deleteObject :
    (∀ dev env out bus,
      firstSend bus (finalBus ((PtpCall.formatStore 0x10001 0).exec dev env out bus))
        = firstSend bus (finalBus ((PtpCall.deleteObject 0x10001 0).exec dev env out bus)))
    ∧ (PtpCall.formatStore 0x10001 0).request ≠ (PtpCall.deleteObject 0x10001 0).request
    ∧ ¬ UniquelyDecodable Set.univ := by
  have hclash : FormatClash (.deleteObject 0x10001 0) (.formatStore 0x10001 0) :=
    ⟨0x10001, 0, rfl, rfl⟩
  refine ⟨fun dev env out bus => ?_, hclash.request_ne.symm, fun h => ?_⟩
  · rw [PtpCall.firstSend_exec, PtpCall.firstSend_exec]
    rfl
  · exact hclash.request_ne ((uniquelyDecodable_iff _).mp h _ trivial _ trivial Env.zero Env.zero
      (hclash.wire_eq _ _))

end Droidbox.Ptp
