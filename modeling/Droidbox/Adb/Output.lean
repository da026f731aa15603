import Droidbox.Adb.Conversation
import Droidbox.Lib.Printf

/-!
# Droidbox — what is printed of the conversation

Everything goes to one stream: the messages of `usb.c` and `adb.c` about each transfer, and behind
each call what `main` makes of `adb_res_buff`. Behind `adb_connect` that is the header and `token`
as well, whatever the call returned; of the other calls it is the response, if there is one.

* **`Talked.print`**: one call, beside what it takes.
* **`main_prints`**: all that is printed.
-/

namespace Droidbox.Adb.Pump

open LittleEndian Scripted Walk Session

/-! ## Lines -/

/-- A line of the output. -/
inductive Line where
  | message (s : String)
  | number (label : String) (n : Int)
  | word (label : String) (w : UInt32)
  | hex (bytes : List UInt8)
  | charHex (bytes : List UInt8)
  | text (bytes : List UInt8)
  deriving DecidableEq, Repr

/-- `%.2X` of a `char`: the negative ones are printed with all 32 bits they are promoted to. -/
def hexOfChar (b : UInt8) : List Char :=
  Printf.hex 2 (if b.toNat < 128 then b.toNat else 2 ^ 32 - 256 + b.toNat)

def Line.print (l : Line) : List Char :=
  (match l with
    | .message s => s.toList
    | .number label n => label.toList ++ Printf.int n
    | .word label w => label.toList ++ Printf.hex 1 w.toNat
    | .hex bytes => bytes.flatMap fun b => Printf.hex 2 b.toNat
    | .charHex bytes => bytes.flatMap hexOfChar
    | .text bytes => Printf.chars bytes) ++ ['\n']

/-! ## The messages of the libraries -/

/-- `__usb_bulk_msg`: a transfer is reaped once it was submitted. -/
def bulkLines (submitted : Bool) : List Line :=
  .message "SUBMIT URB" :: if submitted then [.message "SUBMIT REAPURB"] else []

/-- `__send_request`, about number `i` of its transfers. One that failed may not even have been
submitted. -/
def transferLines (submitted : Bool) (i : Nat) : Event → List Line
  | .send _ _ data r =>
    (if i = 0 then [.message "SENDING HEADER", .hex data]
      else [.message "SENDING PAYLOAD", .hex data, .text data])
    ++ match r with
      | .failed => bulkLines submitted
      | .sent actual_length => bulkLines true ++ [.number "SENT BYTES: " actual_length]
  | .recv _ _ r =>
    match r with
    | .failed => bulkLines submitted
    | .got t =>
      bulkLines true ++ [.number "RECV BYTES: " t.bytes.length, .hex t.bytes, .text t.bytes]

/-- The messages about a call, in front of which there were `k` transfers. -/
def requestLines (submits : Nat → Bool) (k : Nat) (events : List Event) : List Line :=
  events.zipIdx.flatMap fun p => transferLines (submits (k + p.2)) p.2 p.1

/-! ## The lines of `main` -/

/-- The fields of `r`. -/
def headerLines (adb_res_buff : List UInt8) : List Line :=
  [.word "CMD: " (word32 adb_res_buff 0), .word "ARG0: " (word32 adb_res_buff 4),
    .word "ARG1: " (word32 adb_res_buff 8), .word "DLEN: " (word32 adb_res_buff 12),
    .word "DCRC: " (word32 adb_res_buff 16), .word "MAGI: " (word32 adb_res_buff 20)]

/-- The two loops from `sizeof(struct message)` to `adbres.length`. -/
def printResponse (out : Out) : List Line :=
  let bytes := (List.range' 24 (out.res.length.toNat - 24)).map (byteAt (out.data.getD []))
  [.hex bytes, .text bytes]

/-- What `main` prints behind a call. -/
def Stage.lines (ret : Int) (out : Out) : Stage → List Line
  | .connect =>
    .number "" ret :: headerLines (out.data.getD [])
      ++ (if ret = 0 then .charHex (token out) :: .text (token out) :: printResponse out else [])
      ++ [.number "" (strlen (token out))]
  | .auth =>
    -- the same lines twice
    (if ret = 0 then printResponse out else []) ++ if ret = 0 then printResponse out else []
  | .openStream | .ready => if ret = 0 then printResponse out else []
  | .release => []

/-- What is printed in a round of `main`. -/
def Main.print (m : Setup) (submits : Nat → Bool) (s : Main) (lines : List Line) : List Line :=
  match (m.call s.stage.index).exec m.adbdev (m.envs s.calls) s.out s.bus with
  | .error _ _ => lines
  | .ok (ret, out) bus =>
    lines ++ requestLines submits s.bus.trace.length (bus.trace.drop s.bus.trace.length)
      ++ s.stage.lines ret out

/-! ## What is to be printed -/

/-- What lies behind the header of a frame that was received. -/
def contentOf : Option Frame → Option (List UInt8)
  | none | some .refused | some (.broken _) => none
  | some (.single header) => some ((payload [header]).drop 24)
  | some (.pair header second) => some ((payload [header, second]).drop 24)

/-- The lines that show it. -/
def shownOf (f : Option Frame) : List Line :=
  match contentOf f with
  | none => []
  | some bytes => [.hex bytes, .text bytes]

/-- The lines of `main` behind call `n`, which took `f`. -/
def linesOf (adb_res_buff : Buffer 2048) (f : Option Frame) : Nat → List Line
  | 0 =>
    .number "" (if (contentOf f).isSome then 0 else -1) :: headerLines (buffAfter adb_res_buff [f])
      ++ (match contentOf f with
        | none => []
        | some bytes =>
          [.charHex (tokenAfter adb_res_buff [f]), .text (tokenAfter adb_res_buff [f]), .hex bytes,
            .text bytes])
      ++ [.number "" (strlen (tokenAfter adb_res_buff [f]))]
  | 1 => shownOf f ++ shownOf f
  | _ + 2 => shownOf f

/-- What is printed of some calls, in front of which there were `k` transfers: of each the messages
about its transfers, and behind them the lines of `main`. -/
inductive Printed (m : Setup) (submits : Nat → Bool) (adb_res_buff : Buffer 2048) (k : Nat) :
    List (Option Frame) → List Event → List Line → Prop
  | nil : Printed m submits adb_res_buff k [] [] []
  | concat {taken : List (Option Frame)} {events : List Event} {lines : List Line}
      {f : Option Frame} {sent : List (List UInt8 × SendResult)}
      (h : Printed m submits adb_res_buff k taken events lines)
      (hsent : m.Says taken.length f sent) :
      Printed m submits adb_res_buff k (taken ++ [f]) (events ++ m.events f sent)
        (lines ++ requestLines submits (k + events.length) (m.events f sent)
          ++ linesOf adb_res_buff f taken.length)

variable {m : Setup} {submits : Nat → Bool} {s t : Main} {bus : Bus} {taken : List (Option Frame)}
  {stage : Stage} {adb_res_buff : Buffer 2048} {bytes : List UInt8} {out : Out}

/-! ## One call -/

/-- The loops over a response that was received whole. -/
theorem printResponse_received (h : Buffered bytes out) {s : List UInt8} (hle : s.length ≤ 1024)
    (code : UInt32) :
    printResponse (out.received s code) = [.hex (s.drop 24), .text (s.drop 24)] := by
  have hlength : (UInt32.ofNat s.length).toNat = s.length :=
    UInt32.toNat_ofNat_of_lt' (by simp [UInt32.size]; omega)
  have hbytes : ∀ i ∈ List.range' 24 (s.length - 24),
      byteAt (overlay s bytes) i = byteAt s i := by
    intro i hi
    have hrange := List.mem_range'_1.mp hi
    exact byteAt_overlay_left (by omega)
  rw [printResponse, (h.received hle code).data]
  dsimp only [Out.received, Option.getD_some]
  rw [hlength, List.map_congr_left hbytes, map_byteAt_range]

theorem reply_fst (out : Out) (f : Option Frame) :
    (reply out f).1 = if (contentOf f).isSome then 0 else -1 := by
  match f with
  | none => rfl
  | some .refused => rfl
  | some (.broken _) => rfl
  | some (.single _) => rfl
  | some (.pair _ _) => rfl

/-- What is printed of a response. -/
theorem Buffered.printed_reply (h : Buffered bytes out) (f : Option Frame) :
    (if (reply out f).1 = 0 then printResponse (reply out f).2 else []) = shownOf f := by
  match f with
  | none => rfl
  | some .refused => rfl
  | some (.broken _) => rfl
  | some (.single header) =>
    exact printResponse_received h (payload_single_length_le header) (adbCommandMask header.bytes)
  | some (.pair header second) =>
    exact printResponse_received h (payload_pair_length_le header second)
      (adbCommandMask header.bytes)

/-- The lines of `main` behind a call show what it took. -/
theorem StageAfter.lines_eq (h : StageAfter taken stage) (hne : stage ≠ .release)
    (hout : Buffered (buffAfter adb_res_buff taken) out) (f : Option Frame) :
    stage.lines (reply out f).1 (reply out f).2 = linesOf adb_res_buff f taken.length := by
  have hprinted := hout.printed_reply f
  cases h with
  | release _ => exact absurd rfl hne
  | connect =>
    have hbehind := (hout.of_reply f).1
    have htoken : token (reply out f).2 = tokenAfter adb_res_buff [f] := hbehind.token
    rw [Stage.lines, hbehind.data, Option.getD_some, htoken]
    rw [reply_fst] at hprinted ⊢
    rw [List.length_nil, linesOf]
    cases hcontent : contentOf f with
    | none => rfl
    | some bytes =>
      rw [hcontent, shownOf, hcontent] at hprinted
      rw [show printResponse (reply out f).2 = _ from hprinted]
      rfl
  | auth a => rw [Stage.lines, hprinted]; rfl
  | openStream a b => rw [Stage.lines, hprinted]; rfl
  | ready hcode hmid => rw [Stage.lines, hprinted]; rfl

/-- **One call**, with what is printed of it. -/
theorem Talked.print (h : Talked m adb_res_buff bus s taken) (hne : s.stage ≠ .release)
    {f : Option Frame} {bus' : Bus} {new : List Event} (htrace : bus'.trace = s.bus.trace ++ new)
    (hexec : (m.call s.stage.index).exec m.adbdev (m.envs s.calls) s.out s.bus
      = .ok (reply s.out f) bus') (lines : List Line) :
    s.print m submits lines = lines ++ requestLines submits s.bus.trace.length new
      ++ linesOf adb_res_buff f taken.length := by
  unfold Main.print
  rw [hexec]
  dsimp only
  rw [htrace, List.drop_left, h.stage.lines_eq hne h.out]

/-! ## Whole runs -/

theorem printed_of_reaches {m : Setup} (hm : m.Proper) {submits : Nat → Bool}
    {adb_res_buff : Buffer 2048} {bus : Bus} (hdecide : HeadersDecide bus.recvs)
    {p : Main × List Line} (hreach : Reaches (noted (mainRound m) (Main.print m submits))
      (.start adb_res_buff bus, []) p) :
    ∃ taken events, Talked m adb_res_buff bus p.1 taken
      ∧ p.1.bus.trace = bus.trace ++ events
      ∧ Printed m submits adb_res_buff bus.trace.length taken events p.2 := by
  refine hreach.invariant (I := fun p => ∃ taken events, Talked m adb_res_buff bus p.1 taken
    ∧ p.1.bus.trace = bus.trace ++ events
    ∧ Printed m submits adb_res_buff bus.trace.length taken events p.2)
    ?_ ⟨[], [], talked_start m adb_res_buff hdecide, (List.append_nil _).symm, .nil⟩
  rintro ⟨s, before⟩ ⟨u, after⟩ ⟨taken, events, hs, hevents, hprinted⟩ hround
  obtain ⟨hmain, rfl⟩ := noted_again_iff.mp hround
  have hne := ne_release_of_round hmain
  cases hs.round hm hne with
  | waits _ hround' =>
    rw [hround'] at hmain
    cases hmain
  | overreads f _ _ _ hround' =>
    rw [hround'] at hmain
    cases hmain
  | returns f _ hexec hround' hsent htrace htalked =>
    rw [hround'] at hmain
    cases hmain
    refine ⟨_, _, htalked, by rw [htrace, hevents, List.append_assoc], ?_⟩
    dsimp only at hprinted ⊢
    rw [hs.print hne htrace hexec, hevents, List.length_append]
    exact hprinted.concat hsent

/-- **All that is printed.** Of each call `main` has made, in order: the messages about its
transfers, and the lines of `main`, which show what lies behind the header of the frame it took, no
byte left out and none from elsewhere. `main` never reads beyond `adb_res_buff`. -/
theorem main_prints (m : Setup) (hm : m.Proper) (submits : Nat → Bool) (adb_res_buff : Buffer 2048)
    (bus : Bus) (hdecide : HeadersDecide bus.recvs) {t : Main} {lines : List Line}
    (hreach : Reaches (noted (mainRound m) (Main.print m submits))
      (.start adb_res_buff bus, []) (t, lines)) :
    ∃ taken events, answers m.take (List.range t.calls) (channel bus) = some (taken, channel t.bus)
      ∧ t.bus.trace = bus.trace ++ events
      ∧ Printed m submits adb_res_buff bus.trace.length taken events lines
      ∧ t.out.res.length.toNat ≤ 2048 := by
  obtain ⟨taken, events, ht, hevents, hprinted⟩ := printed_of_reaches hm hdecide hreach
  exact ⟨taken, events, ht.calls ▸ ht.took, hevents, hprinted,
    Nat.le_trans ht.out.length (by decide)⟩

theorem main_prints_closing :
    ∃ (t : Main) (lines : List Line) (taken : List (Option Frame)) (events : List Event),
      t.calls = 4
      ∧ answers sampleSetup.take (List.range t.calls) (channel sampleClosing)
        = some (taken, channel t.bus)
      ∧ t.bus.trace = sampleClosing.trace ++ events
      ∧ Printed sampleSetup (fun _ => true) (.zero 2048) 0 taken events lines
      ∧ t.out.res.length.toNat ≤ 2048 := by
  obtain ⟨t, hreach, hcalls⟩ := sampleClosing_reaches
  obtain ⟨lines, hlines⟩ := hreach.noted (Main.print sampleSetup fun _ => true) []
  obtain ⟨taken, events, h⟩ := main_prints sampleSetup sampleSetup_proper (fun _ => true)
    (.zero 2048) sampleClosing sampleClosing_decide hlines
  exact ⟨t, lines, taken, events, hcalls, h⟩

end Droidbox.Adb.Pump
