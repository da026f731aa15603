import Droidbox.Adb.Output
import Droidbox.Propagation
import Droidbox.Usb.Listing

/-!
# Droidbox — the program

`main` of `main.c`, from the first call of `fopen` to its return value: it prints the device file
byte by byte, opens it again, dumps the device, gets hold of the interface, talks to `adbd` and lets
go of the interface. The dump is the loop of `Listing`, the talk that of `Pump` with its `Output`.

* **`program_exits_iff`**: when it returns `0` and when `1`, and what it has done until then.
* **`program_returns_iff`**: the same in terms of what a well-formed device answers.
* **`program_calls`**: its calls in order, also where it does not return.
-/

namespace Droidbox

open Adb Adb.Pump Printf Scripted Usb Usb.Listing Walk

/-! ## The machine it runs on -/

/-- A name as `USBDEVFS_GETDRIVER` stores it: a string in an array of 256 bytes. -/
structure DriverName where
  bytes : List UInt8
  nonzero : ∀ b ∈ bytes, b ≠ 0
  length_lt : bytes.length < 256

/-- What the calls of `main` find. Of `fopen` the bytes of the file, of `open` the descriptor, of
the bulk transfers whether they can be submitted and their results, of the others whether they
succeed; the arrays of `main` as they are before anything is stored. -/
structure Machine where
  file : Option (List UInt8)
  fd : Int
  dev : Device
  answers : Answers
  driver : Option DriverName
  disconnects : Nat → Bool
  claims : Bool
  releases : Bool
  dname : Buffer 256
  rsakey_ex : List UInt8
  envs : Nat → Adb.Env
  adb_res_buff : Buffer 2048
  submits : Nat → Bool
  sends : Nat → SendResult
  recvs : List RecvResult

def Machine.setup (k : Machine) : Setup := ⟨k.fd, k.rsakey_ex, k.envs⟩

/-- Nothing was transferred yet. -/
def Machine.bus (k : Machine) : Bus := ⟨k.sends, k.recvs, []⟩

/-- The calls that concern the device file and the interface, with their success where `main` looks
at it, and the transfers with their outcome. -/
inductive Syscall where
  | fopen (ok : Bool)
  | fclose
  | openFile (ok : Bool)
  | control (i : Control.Issued)
  | getDriver (ok : Bool)
  | disconnect (ok : Bool)
  | claim (ok : Bool)
  | transfer (e : Event)
  | release (ok : Bool)
  | close

/-! ## `main` -/

/-- `usb_get_driver`: `strlen(__ugd.driver) + 1` bytes, but not more than `len`. -/
def usbGetDriver (name : DriverName) (driver : Buffer 256) (len : Nat) (h : len ≤ 256) :
    Buffer 256 :=
  driver.write 0 ((name.bytes ++ [0]).take len) (by rw [List.length_take]; omega)

/-- `%s` of an array. -/
def cString (s : List UInt8) : List UInt8 := s.takeWhile (· ≠ 0)

inductive Phase where
  | fopen
  | getc (rest : List UInt8)
  | fclose
  | openFile
  | dump (s : Dump × Output)
  | getDriver
  | detachDriver
  | detach
  | claim
  | talk (t : Main × List Line)
  | release
  | close

/-- Where `main` is, the calls it has made, and what it printed. -/
structure Program where
  phase : Phase
  calls : List Syscall
  stdout : List Char

def Program.start : Program := ⟨.fopen, [], []⟩

def Program.goOn (p : Program) (phase : Phase) (calls : List Syscall) (text : List Char) :
    Program :=
  ⟨phase, p.calls ++ calls, p.stdout ++ text⟩

/-- What a list has more than one it begins with. -/
def added {α : Type} (old new : List α) : List α := new.drop old.length

/-- The loop of `Pump`, with what is printed in it. -/
abbrev talkRound (k : Machine) :
    Main × List Line → Round (Main × List Line) (Except Halt Int × List Line) :=
  noted (mainRound k.setup) (Main.print k.setup k.submits)

/-- `main`, with its return value. What `usb_detach_interface`, `usb_claim_interface` and
`usb_release_interface` return only decides about a message of `perror`. -/
def programRound (k : Machine) (p : Program) : Round Program (Except Halt Int × Program) :=
  match p.phase with
  | .fopen =>
    match k.file with
    | none => .leave (.ok 1, p.goOn .fopen [.fopen false] [])
    | some bytes => .again (p.goOn (.getc bytes) [.fopen true] [])
  | .getc [] => .again (p.goOn .fclose [] ['\n'])
  | .getc (c :: rest) =>
    .again (p.goOn (.getc rest) [] (fprintf (parse "%.2X ".toList) [.num c.toNat]))
  | .fclose => .again (p.goOn .openFile [.fclose] [])
  | .openFile =>
    if k.fd = -1 then
      .leave (.ok 1, p.goOn .openFile [.openFile false] [])
    else
      .again (p.goOn (.dump (.start, .start)) [.openFile true] [])
  | .dump s =>
    match listRound k.answers k.dev s with
    | .again t =>
      .again (p.goOn (.dump t) ((added s.2.issued t.2.issued).map .control)
        ((added s.2.prints t.2.prints).flatMap Print.text))
    | .leave (.error f) => .leave (.error (.fault f), p)
    | .leave (.ok _) => .again (p.goOn .getDriver [] [])
  | .getDriver =>
    match k.driver with
    | none => .again (p.goOn .detach [.getDriver false] [])
    | some name =>
      let dname := usbGetDriver name k.dname 256 (Nat.le_refl 256)
      .again (p.goOn .detachDriver [.getDriver true]
        (fprintf (parse "%s\n".toList) [.str (chars (cString dname.bytes))]))
  | .detachDriver => .again (p.goOn .detach [.disconnect (k.disconnects 0)] [])
  | .detach => .again (p.goOn .claim [.disconnect (k.disconnects 1)] [])
  | .claim => .again (p.goOn (.talk (.start k.adb_res_buff k.bus, [])) [.claim k.claims] [])
  | .talk t =>
    match talkRound k t with
    | .again u =>
      .again (p.goOn (.talk u) ((added t.1.bus.trace u.1.bus.trace).map .transfer)
        ((added t.2 u.2).flatMap Line.print))
    | .leave (.error h, _) => .leave (.error h, p)
    | .leave (.ok _, _) => .again (p.goOn .release [] [])
  | .release => .again (p.goOn .close [.release k.releases] [])
  | .close => .leave (.ok 0, p.goOn .close [.close] [])

/-! ## What it has done -/

/-- The device file in hexadecimal. -/
def hexText (bytes : List UInt8) : List Char :=
  bytes.flatMap fun c => fprintf (parse "%.2X ".toList) [.num c.toNat]

/-- The calls until the device is dumped. -/
def Machine.opened : List Syscall := [.fopen true, .fclose, .openFile true]

/-- The calls for the interface, until it is claimed. -/
def Machine.interface (k : Machine) : List Syscall :=
  (match k.driver with
    | none => [.getDriver false]
    | some _ => [.getDriver true, .disconnect (k.disconnects 0)])
  ++ [.disconnect (k.disconnects 1), .claim k.claims]

/-- The line with the name of the driver, if there is one. -/
def Machine.driverLine (k : Machine) : List Char :=
  match k.driver with
  | none => []
  | some name => fprintf (parse "%s\n".toList) [.str (chars name.bytes)]

/-- The program behind its last call: `out` was dumped, and `t` is where the talk ended. -/
def Machine.finished (k : Machine) (bytes : List UInt8) (out : Output) (t : Main × List Line) :
    Program where
  phase := .close
  calls := Machine.opened ++ out.issued.map .control ++ k.interface
    ++ t.1.bus.trace.map .transfer ++ [.release k.releases, .close]
  stdout := hexText bytes ++ ['\n'] ++ out.text ++ k.driverLine ++ t.2.flatMap Line.print

/-- The array the name is copied to shows the name. -/
theorem cString_usbGetDriver (name : DriverName) (driver : Buffer 256) :
    cString (usbGetDriver name driver 256 (Nat.le_refl 256)).bytes = name.bytes := by
  have hlength := name.length_lt
  have hall : (name.bytes ++ [0]).take 256 = name.bytes ++ [0] := by
    apply List.take_of_length_le
    rw [List.length_append]
    exact hlength
  have hnonzero : ∀ b ∈ name.bytes, decide (b ≠ 0) = true :=
    fun b hb => decide_eq_true (name.nonzero b hb)
  rw [cString, usbGetDriver, Buffer.write_zero_bytes, hall, LittleEndian.overlay,
    List.append_assoc, List.takeWhile_append_of_pos hnonzero]
  exact List.append_nil _

theorem append_added {α : Type} {old new : List α} (h : old <+: new) :
    old ++ added old new = new := by
  obtain ⟨more, rfl⟩ := h
  rw [added, List.drop_left]

/-! ## Its return value -/

variable {k : Machine} {p : Program}

theorem mainRound_leave_iff {m : Setup} {t : Main} {code : Int} :
    mainRound m t = .leave (.ok code) ↔ t.stage = .release ∧ code = 0 := by
  have hcall : ∀ c next, t.call m c next ≠ .leave (.ok code) := by
    intro c next h
    unfold Main.call at h
    split at h
    · cases h
    · split at h
      · cases h
      · cases h
  unfold mainRound
  cases t.stage with
  | release =>
    constructor
    · intro h
      cases h
      exact ⟨rfl, rfl⟩
    · rintro ⟨-, rfl⟩
      rfl
  | connect | auth | openStream | ready =>
    refine iff_of_false (hcall _ _) ?_
    rintro ⟨hstage, -⟩
    cases hstage

/-- A round of the dump only adds to what was done in it. -/
theorem listRound_adds {answers : Answers} {dev : Device} {s t : Dump × Output}
    (h : listRound answers dev s = .again t) :
    s.2.issued <+: t.2.issued ∧ s.2.prints <+: t.2.prints := by
  obtain ⟨ps, hps⟩ := dumpPrint_adds (recorded_again_iff.mp h).2
  exact ⟨hps.issued, hps.prints ▸ List.prefix_append _ _⟩

theorem mainRound_adds {m : Setup} {s t : Main} (h : mainRound m s = .again t) :
    s.bus.trace <+: t.bus.trace := by
  have hcall : ∀ c next, s.call m c next = .again t → s.bus.trace <+: t.bus.trace := by
    intro c next h
    obtain ⟨calls, htrace, -⟩ := c.exec_reports m.adbdev (m.envs s.calls) s.out s.bus
    unfold Main.call at h
    split at h
    · cases h
    · rename_i hexec
      rw [hexec] at htrace
      split at h
      · cases h
      · cases h
        exact ⟨calls, htrace.symm⟩
  unfold mainRound at h
  split at h
  · exact hcall _ _ h
  · exact hcall _ _ h
  · exact hcall _ _ h
  · exact hcall _ _ h
  · cases h

/-- So does a round of the talk. -/
theorem talkRound_adds {s t : Main × List Line} (h : talkRound k s = .again t) :
    s.1.bus.trace <+: t.1.bus.trace ∧ s.2 <+: t.2 := by
  obtain ⟨hround, hprint⟩ := noted_again_iff.mp h
  refine ⟨mainRound_adds hround, ?_⟩
  rw [hprint]
  unfold Main.print
  split
  · exact List.prefix_refl _
  · rw [List.append_assoc]
    exact List.prefix_append _ _

theorem Program.goOn_goOn (p : Program) (phase phase' : Phase) (c c' : List Syscall)
    (text text' : List Char) :
    (p.goOn phase c text).goOn phase' c' text' = p.goOn phase' (c ++ c') (text ++ text') := by
  simp only [Program.goOn, List.append_assoc]

variable {r : Except Halt Int × Program} {c : List Syscall} {text : List Char}

/-- One round from where `p` has gone on to. -/
theorem returns_goOn {phase phase' : Phase} {c' : List Syscall} {text' : List Char}
    (h : programRound k (p.goOn phase c text)
      = .again ((p.goOn phase c text).goOn phase' c' text')) :
    Returns (programRound k) (p.goOn phase c text) r
      ↔ Returns (programRound k) (p.goOn phase' (c ++ c') (text ++ text')) r := by
  rw [returns_again_iff h, Program.goOn_goOn]

/-- The file is printed to its end. Induction on what is left of it. -/
theorem returns_getc (bytes : List UInt8) :
    Returns (programRound k) (p.goOn (.getc bytes) c text) r
      ↔ Returns (programRound k) (p.goOn .fclose c (text ++ (hexText bytes ++ ['\n']))) r := by
  induction bytes generalizing text with
  | nil => rw [returns_goOn rfl, List.append_nil, hexText, List.flatMap_nil, List.nil_append]
  | cons b rest ih =>
    rw [returns_goOn rfl, List.append_nil, ih, hexText, hexText, List.flatMap_cons,
      List.append_assoc, List.append_assoc]

/-- The program in its dump, behind what was done in front of it. -/
def Program.dumping (p : Program) (c : List Syscall) (text : List Char) (s : Dump × Output) :
    Program :=
  p.goOn (.dump s) (c ++ s.2.issued.map .control) (text ++ s.2.text)

theorem Program.dumping_start (p : Program) (c : List Syscall) (text : List Char) :
    p.dumping c text (.start, .start) = p.goOn (.dump (.start, .start)) c text := by
  unfold Program.dumping Output.start Output.text
  dsimp only
  rw [List.map_nil, List.flatMap_nil, List.append_nil, List.append_nil]

theorem round_dumping {s t : Dump × Output} (h : listRound k.answers k.dev s = .again t) :
    programRound k (p.dumping c text s) = .again (p.dumping c text t) := by
  obtain ⟨hissued, hprints⟩ := listRound_adds h
  have hcalls : t.2.issued.map Syscall.control = s.2.issued.map .control
      ++ (added s.2.issued t.2.issued).map .control := by
    rw [← List.map_append, append_added hissued]
  have htext : t.2.text = s.2.text ++ (added s.2.prints t.2.prints).flatMap Print.text := by
    rw [Output.text, Output.text, ← List.flatMap_append, append_added hprints]
  simp only [programRound, Program.dumping, Program.goOn, h, hcalls, htext, List.append_assoc]

theorem returns_dump (s : Dump × Output) {code : Int} {q : Program} :
    Returns (programRound k) (p.dumping c text s) (.ok code, q)
      ↔ ∃ d, Returns (listRound k.answers k.dev) s (.ok d)
        ∧ Returns (programRound k) (p.goOn .getDriver (c ++ d.2.issued.map .control)
          (text ++ d.2.text)) (.ok code, q) := by
  have hleaves : ∀ t d, listRound k.answers k.dev t = .leave (.ok d) →
      (Returns (programRound k) (p.dumping c text t) (.ok code, q)
        ↔ Returns (programRound k) (p.goOn .getDriver (c ++ d.2.issued.map .control)
          (text ++ d.2.text)) (.ok code, q)) := by
    intro t d h
    obtain ⟨-, hsame⟩ := recorded_leave_iff.mp h
    have hround : programRound k (p.dumping c text t)
        = .again ((p.dumping c text t).goOn .getDriver [] []) := by
      simp only [programRound, Program.dumping, Program.goOn, h]
    rw [returns_again_iff hround, Program.dumping, Program.goOn_goOn, List.append_nil,
      List.append_nil, hsame]
  rw [returns_inner_iff (f := p.dumping c text) fun t u h => round_dumping h]
  constructor
  · rintro ⟨u, x, hu, hleave, hreturns⟩
    cases x with
    | error f =>
      have hround : programRound k (p.dumping c text u)
          = .leave (.error (.fault f), p.dumping c text u) := by
        simp only [programRound, Program.dumping, Program.goOn, hleave]
      cases (returns_leave_iff hround).mp hreturns
    | ok d => exact ⟨d, exists_run_iff.mpr ⟨u, hu, hleave⟩, (hleaves u d hleave).mp hreturns⟩
  · rintro ⟨d, hd, hreturns⟩
    obtain ⟨u, hu, hleave⟩ := exists_run_iff.mp hd
    exact ⟨u, .ok d, hu, hleave, (hleaves u d hleave).mpr hreturns⟩

/-- The program in its talk. -/
def Program.talking (p : Program) (c : List Syscall) (text : List Char) (t : Main × List Line) :
    Program :=
  p.goOn (.talk t) (c ++ t.1.bus.trace.map .transfer) (text ++ t.2.flatMap Line.print)

theorem Program.talking_start (k : Machine) (p : Program) (c : List Syscall) (text : List Char) :
    p.talking c text (.start k.adb_res_buff k.bus, [])
      = p.goOn (.talk (.start k.adb_res_buff k.bus, [])) c text := by
  unfold Program.talking
  dsimp only [Main.start, Machine.bus]
  rw [List.map_nil, List.flatMap_nil, List.append_nil, List.append_nil]

/-- Whether there is a driver and whatever the calls return, `main` comes to its talk. -/
theorem returns_interface :
    Returns (programRound k) (p.goOn .getDriver c text) r
      ↔ Returns (programRound k) (p.talking (c ++ k.interface)
          (text ++ k.driverLine) (.start k.adb_res_buff k.bus, [])) r := by
  have hdetach : ∀ c text, Returns (programRound k) (p.goOn .detach c text) r
      ↔ Returns (programRound k) (p.talking
          (c ++ [.disconnect (k.disconnects 1), .claim k.claims]) text
          (.start k.adb_res_buff k.bus, [])) r := by
    intro c text
    rw [returns_goOn rfl, returns_goOn rfl, List.append_nil, List.append_nil, List.append_assoc,
      List.cons_append, List.nil_append, Program.talking_start]
  cases hdriver : k.driver with
  | none =>
    have hround : programRound k (p.goOn .getDriver c text)
        = .again ((p.goOn .getDriver c text).goOn .detach [.getDriver false] []) := by
      simp only [programRound, Program.goOn, hdriver]
    rw [returns_goOn hround, hdetach, Machine.interface, Machine.driverLine, hdriver,
      List.append_assoc]
  | some name =>
    have hround : programRound k (p.goOn .getDriver c text)
        = .again ((p.goOn .getDriver c text).goOn .detachDriver [.getDriver true]
          (fprintf (parse "%s\n".toList) [.str (chars name.bytes)])) := by
      simp only [programRound, Program.goOn, hdriver, cString_usbGetDriver]
    rw [returns_goOn hround, returns_goOn rfl, hdetach, Machine.interface, Machine.driverLine,
      hdriver, List.append_nil, List.append_assoc, List.append_assoc]
    rfl

theorem round_talking {t u : Main × List Line} (h : talkRound k t = .again u) :
    programRound k (p.talking c text t) = .again (p.talking c text u) := by
  obtain ⟨htrace, hlines⟩ := talkRound_adds h
  have hcalls : u.1.bus.trace.map Syscall.transfer = t.1.bus.trace.map .transfer
      ++ (added t.1.bus.trace u.1.bus.trace).map .transfer := by
    rw [← List.map_append, append_added htrace]
  have htext : u.2.flatMap Line.print = t.2.flatMap Line.print
      ++ (added t.2 u.2).flatMap Line.print := by
    rw [← List.flatMap_append, append_added hlines]
  simp only [programRound, Program.talking, Program.goOn, h, hcalls, htext, List.append_assoc]

theorem returns_talk (t : Main × List Line) {code : Int} {q : Program} :
    Returns (programRound k) (p.talking c text t) (.ok code, q)
      ↔ ∃ u, Reaches (talkRound k) t u ∧ u.1.stage = .release ∧ code = 0
        ∧ q = p.goOn .close (c ++ (u.1.bus.trace.map .transfer ++ [.release k.releases, .close]))
          (text ++ u.2.flatMap Line.print) := by
  have hleaves : ∀ u : Main × List Line, u.1.stage = .release →
      (Returns (programRound k) (p.talking c text u) (.ok code, q)
        ↔ code = 0 ∧ q = p.goOn .close
          (c ++ (u.1.bus.trace.map .transfer ++ [.release k.releases, .close]))
          (text ++ u.2.flatMap Line.print)) := by
    intro u hstage
    have hleave : talkRound k u = .leave (.ok 0, u.2) :=
      noted_leave_iff.mpr ⟨mainRound_leave_iff.mpr ⟨hstage, rfl⟩, rfl⟩
    have hround : programRound k (p.talking c text u)
        = .again ((p.talking c text u).goOn .release [] []) := by
      simp only [programRound, Program.talking, Program.goOn, hleave]
    have hclose : ∀ c text, programRound k (p.goOn .close c text)
        = .leave (.ok 0, (p.goOn .close c text).goOn .close [.close] []) := fun _ _ => rfl
    rw [returns_again_iff hround, Program.talking, Program.goOn_goOn, returns_goOn rfl,
      returns_leave_iff (hclose _ _), Program.goOn_goOn, Prod.mk.injEq, Except.ok.injEq]
    simp only [List.append_nil, List.append_assoc, List.cons_append, List.nil_append]
  rw [returns_inner_iff (f := p.talking c text) fun t u h => round_talking h]
  constructor
  · rintro ⟨u, ⟨x, lines⟩, hu, hleave, hreturns⟩
    cases x with
    | error h =>
      have hround : programRound k (p.talking c text u)
          = .leave (.error h, p.talking c text u) := by
        simp only [programRound, Program.talking, Program.goOn, hleave]
      cases (returns_leave_iff hround).mp hreturns
    | ok _ =>
      obtain ⟨hstage, -⟩ := mainRound_leave_iff.mp (noted_leave_iff.mp hleave).1
      exact ⟨u, hu, hstage, (hleaves u hstage).mp hreturns⟩
  · rintro ⟨u, hu, hstage, hq⟩
    exact ⟨u, (.ok 0, u.2), hu, noted_leave_iff.mpr ⟨mainRound_leave_iff.mpr ⟨hstage, rfl⟩, rfl⟩,
      (hleaves u hstage).mpr hq⟩

theorem returns_file {bytes : List UInt8} (hfile : k.file = some bytes) :
    Returns (programRound k) .start r
      ↔ Returns (programRound k) (Program.start.goOn .openFile [.fopen true, .fclose]
          (hexText bytes ++ ['\n'])) r := by
  have hfopen : programRound k (Program.start.goOn .fopen [] [])
      = .again ((Program.start.goOn .fopen [] []).goOn (.getc bytes) [.fopen true] []) := by
    simp only [programRound, Program.goOn, hfile]
  rw [show Program.start = Program.start.goOn .fopen [] [] from rfl, returns_goOn hfopen,
    returns_getc, returns_goOn rfl]
  simp only [Program.goOn_goOn, List.nil_append, List.append_nil, List.cons_append]

theorem returns_not_opened (hfd : k.fd = -1) {q : Program} {code : Int} :
    Returns (programRound k) (p.goOn .openFile c text) (.ok code, q)
      ↔ code = 1 ∧ q = p.goOn .openFile (c ++ [.openFile false]) text := by
  have hround : programRound k (p.goOn .openFile c text)
      = .leave (.ok 1, (p.goOn .openFile c text).goOn .openFile [.openFile false] []) := by
    simp only [programRound, Program.goOn, if_pos hfd]
  rw [returns_leave_iff hround, Prod.mk.injEq, Except.ok.injEq, Program.goOn_goOn, List.append_nil]

/-- The dump and the talk come to their ends. -/
structure Machine.Through (k : Machine) (d : Dump × Output) (t : Main × List Line) : Prop where
  dump : Returns (listRound k.answers k.dev) (.start, .start) (.ok d)
  talk : Reaches (talkRound k) (.start k.adb_res_buff k.bus, []) t
  stage : t.1.stage = .release

theorem returns_opened (hfd : k.fd ≠ -1) {q : Program} {code : Int} :
    Returns (programRound k) (p.goOn .openFile c text) (.ok code, q)
      ↔ ∃ d t, k.Through d t ∧ code = 0
        ∧ q = p.goOn .close (c ++ ([.openFile true] ++ d.2.issued.map .control ++ k.interface
          ++ t.1.bus.trace.map .transfer ++ [.release k.releases, .close]))
          (text ++ (d.2.text ++ k.driverLine ++ t.2.flatMap Line.print)) := by
  have hround : programRound k (p.goOn .openFile c text) = .again ((p.goOn .openFile c text).goOn
      (.dump (.start, .start)) [.openFile true] []) := by
    simp only [programRound, Program.goOn, if_neg hfd]
  rw [returns_goOn hround, ← Program.dumping_start, returns_dump]
  simp only [returns_interface, returns_talk, List.append_nil, List.append_assoc]
  constructor
  · rintro ⟨d, hdump, t, htalk, hstage, hcode, hq⟩
    exact ⟨d, t, ⟨hdump, htalk, hstage⟩, hcode, hq⟩
  · rintro ⟨d, t, ⟨hdump, htalk, hstage⟩, hcode, hq⟩
    exact ⟨d, hdump, t, htalk, hstage, hcode, hq⟩

/-- How `main` may return: without the file, without a descriptor, or from its last line. -/
inductive Machine.Ends (k : Machine) : Int → Program → Prop
  | not_found (hfile : k.file = none) : Ends k 1 ⟨.fopen, [.fopen false], []⟩
  | not_opened {bytes : List UInt8} (hfile : k.file = some bytes) (hfd : k.fd = -1) :
      Ends k 1 ⟨.openFile, [.fopen true, .fclose, .openFile false], hexText bytes ++ ['\n']⟩
  | finished {bytes : List UInt8} {d : Dump × Output} {t : Main × List Line}
      (hfile : k.file = some bytes) (hfd : k.fd ≠ -1) (hthrough : k.Through d t) :
      Ends k 0 (k.finished bytes d.2 t)

theorem returns_not_found (hfile : k.file = none) {q : Program} {code : Int} :
    Returns (programRound k) .start (.ok code, q)
      ↔ code = 1 ∧ q = ⟨.fopen, [.fopen false], []⟩ := by
  have hround : programRound k .start = .leave (.ok 1, ⟨.fopen, [.fopen false], []⟩) := by
    simp only [programRound, Program.start, hfile]
    rfl
  rw [returns_leave_iff hround, Prod.mk.injEq, Except.ok.injEq]

theorem returns_finished {bytes : List UInt8} (hfile : k.file = some bytes) (hfd : k.fd ≠ -1)
    {q : Program} {code : Int} :
    Returns (programRound k) .start (.ok code, q)
      ↔ ∃ d t, k.Through d t ∧ code = 0 ∧ q = k.finished bytes d.2 t := by
  rw [returns_file hfile, returns_opened hfd]
  simp only [Program.goOn, Program.start, Machine.finished, Machine.opened, List.nil_append,
    List.cons_append, List.append_assoc]

/-- **The return value of `main`.** `1` without the file or without a descriptor for it. Otherwise
`0`, when the dump and the talk come to their ends, whatever the calls for the interface return. -/
theorem program_exits_iff (k : Machine) (code : Int) (q : Program) :
    Returns (programRound k) .start (.ok code, q) ↔ k.Ends code q := by
  cases hfile : k.file with
  | none =>
    rw [returns_not_found hfile]
    constructor
    · rintro ⟨rfl, rfl⟩
      exact .not_found hfile
    · intro h
      cases h with
      | not_found _ => exact ⟨rfl, rfl⟩
      | not_opened hfile' _ => cases hfile.symm.trans hfile'
      | finished hfile' _ _ => cases hfile.symm.trans hfile'
  | some bytes =>
    by_cases hfd : k.fd = -1
    · rw [returns_file hfile, returns_not_opened hfd]
      constructor
      · rintro ⟨rfl, rfl⟩
        exact .not_opened hfile hfd
      · intro h
        cases h with
        | not_found hfile' => cases hfile.symm.trans hfile'
        | not_opened hfile' _ =>
          cases hfile.symm.trans hfile'
          exact ⟨rfl, rfl⟩
        | finished _ hfd' _ => exact absurd hfd hfd'
    · rw [returns_finished hfile hfd]
      constructor
      · rintro ⟨d, t, hthrough, rfl, rfl⟩
        exact .finished hfile hfd hthrough
      · intro h
        cases h with
        | not_found hfile' => cases hfile.symm.trans hfile'
        | not_opened _ hfd' => exact absurd hfd' hfd
        | @finished _ d t hfile' _ hthrough =>
          cases hfile.symm.trans hfile'
          exact ⟨d, t, hthrough, rfl, rfl⟩

section
variable {descriptor : Buffer usbDtDeviceSize} {configs : List Tiled}

/-- A machine with the file and a descriptor for it. -/
theorem returns_zero_iff (hdescribed : Described k.dev descriptor configs)
    (hcomplete : ∀ i index, (k.answers i index langid).Complete) (hm : k.setup.Proper)
    (hdecide : HeadersDecide k.recvs) {bytes : List UInt8} (hfile : k.file = some bytes)
    (hfd : k.fd ≠ -1) :
    (∃ q, Returns (programRound k) .start (.ok 0, q))
      ↔ ∃ n taken ch, Session.answers k.setup.take (List.range n) (channel k.bus)
          = some (taken, ch) ∧ Closes taken ∧ 0 ∈ tokenAfter k.adb_res_buff taken := by
  simp only [returns_finished hfile hfd]
  constructor
  · rintro ⟨q, d, t, hthrough, -, -⟩
    obtain ⟨taken, htook, hcloses⟩ :=
      closes_of_release hm hdecide hthrough.talk.of_noted hthrough.stage
    exact ⟨t.1.calls, taken, _, htook, hcloses⟩
  · rintro ⟨n, taken, ch, htook, hcloses, hnul⟩
    obtain ⟨t, htalk, hstage, -⟩ := release_of_closes hm hdecide htook hcloses hnul
    obtain ⟨lines, hlines⟩ := htalk.noted (Main.print k.setup k.submits) []
    obtain ⟨s, out, hdump, -⟩ := hdescribed.dump_returns hcomplete
    exact ⟨_, (s, out), (t, lines), ⟨hdump, hlines, hstage⟩, trivial, rfl⟩

/-- What `main` has done when it returns `0`: it has printed the file, the list of the descriptors,
the name of the driver and the lines of the talk. -/
structure Machine.Did (k : Machine) (descriptor : Buffer usbDtDeviceSize) (configs : List Tiled)
    (taken : List (Option Frame)) (q : Program) (bytes : List UInt8) (out : Output)
    (events : List Event) (lines : List Line) : Prop where
  file : k.file = some bytes
  dump : ∃ s, Returns (listRound k.answers k.dev) (.start, .start) (.ok (s, out))
  shown : out.prints.map Print.shown = (.device, descriptor.bytes) :: configs.flatMap listed
  strings : out.InOrder k.answers
  took : ∃ ch, Session.answers k.setup.take (List.range taken.length) (channel k.bus)
    = some (taken, ch)
  printed : Printed k.setup k.submits k.adb_res_buff 0 taken events lines
  calls : q.calls = Machine.opened ++ out.issued.map .control ++ k.interface
    ++ events.map .transfer ++ [.release k.releases, .close]
  stdout : q.stdout
    = hexText bytes ++ ['\n'] ++ out.text ++ k.driverLine ++ lines.flatMap Line.print

/-- **When `main` succeeds.** On a machine with a well-formed device, whose answers are complete, it
returns `0` exactly when the file can be opened both times, the device closes the conversation, and
its first frame leaves a NUL in `token`; and then it has printed the file, the list of the
descriptors, the name of the driver and the conversation. -/
theorem program_returns_iff (k : Machine) (hdescribed : Described k.dev descriptor configs)
    (hcomplete : ∀ i index, (k.answers i index langid).Complete) (hm : k.setup.Proper)
    (hdecide : HeadersDecide k.recvs) :
    ((∃ q, Returns (programRound k) .start (.ok 0, q))
      ↔ k.file.isSome ∧ k.fd ≠ -1
        ∧ ∃ n taken ch, Session.answers k.setup.take (List.range n) (channel k.bus)
          = some (taken, ch) ∧ Closes taken ∧ 0 ∈ tokenAfter k.adb_res_buff taken)
    ∧ ∀ q, Returns (programRound k) .start (.ok 0, q) → ∃ taken, Closes taken
      ∧ ∃ bytes out events lines, k.Did descriptor configs taken q bytes out events lines := by
  cases hfile : k.file with
  | none =>
    simp only [returns_not_found hfile]
    refine ⟨iff_of_false ?_ ?_, ?_⟩
    · rintro ⟨q, hcode, -⟩
      cases hcode
    · rintro ⟨hsome, -⟩
      cases hsome
    · rintro q ⟨hcode, -⟩
      cases hcode
  | some bytes =>
    by_cases hfd : k.fd = -1
    · simp only [returns_file hfile, returns_not_opened hfd]
      refine ⟨iff_of_false ?_ ?_, ?_⟩
      · rintro ⟨q, hcode, -⟩
        cases hcode
      · rintro ⟨-, hne, -⟩
        exact hne hfd
      · rintro q ⟨hcode, -⟩
        cases hcode
    · refine ⟨?_, fun q hreturns => ?_⟩
      · rw [returns_zero_iff hdescribed hcomplete hm hdecide hfile hfd]
        exact ⟨fun h => ⟨rfl, hfd, h⟩, fun h => h.2.2⟩
      · obtain ⟨d, t, hthrough, -, rfl⟩ := (returns_finished hfile hfd).mp hreturns
        obtain ⟨s, out, hdump, hshown, horder⟩ := hdescribed.dump_returns hcomplete
        cases hthrough.dump.unique hdump
        obtain ⟨taken, events, htalked, hevents, hprinted⟩ :=
          printed_of_reaches hm hdecide hthrough.talk
        have hstage := htalked.stage
        rw [hthrough.stage] at hstage
        refine ⟨taken, hstage.closes, bytes, out, events, t.2, hfile, ⟨s, hdump⟩, hshown, horder,
          ⟨_, htalked.took⟩, hprinted, ?_, rfl⟩
        rw [Machine.finished, hevents]
        rfl

end

/-! ## The order of its calls -/

/-- The calls made until a phase. Those of the dump are the control transfers it has issued where it
is, those of the talk the transfers in the trace of its bus. -/
inductive Machine.Made (k : Machine) : Phase → List Syscall → Prop
  | fopen : Made k .fopen []
  | getc (rest : List UInt8) : Made k (.getc rest) [.fopen true]
  | fclose : Made k .fclose [.fopen true]
  | openFile : Made k .openFile [.fopen true, .fclose]
  | dump {s : Dump × Output} (h : Reaches (listRound k.answers k.dev) (.start, .start) s) :
      Made k (.dump s) (Machine.opened ++ s.2.issued.map .control)
  | getDriver {d : Dump × Output}
      (hdump : Returns (listRound k.answers k.dev) (.start, .start) (.ok d)) :
      Made k .getDriver (Machine.opened ++ d.2.issued.map .control)
  | detachDriver {d : Dump × Output} {name : DriverName}
      (hdump : Returns (listRound k.answers k.dev) (.start, .start) (.ok d))
      (hdriver : k.driver = some name) :
      Made k .detachDriver (Machine.opened ++ d.2.issued.map .control ++ [.getDriver true])
  | detach {d : Dump × Output} {made : List Syscall}
      (hdump : Returns (listRound k.answers k.dev) (.start, .start) (.ok d))
      (h : k.interface = made ++ [.disconnect (k.disconnects 1), .claim k.claims]) :
      Made k .detach (Machine.opened ++ d.2.issued.map .control ++ made)
  | claim {d : Dump × Output} {made : List Syscall}
      (hdump : Returns (listRound k.answers k.dev) (.start, .start) (.ok d))
      (h : k.interface = made ++ [.claim k.claims]) :
      Made k .claim (Machine.opened ++ d.2.issued.map .control ++ made)
  | talk {d : Dump × Output} {t : Main × List Line}
      (hdump : Returns (listRound k.answers k.dev) (.start, .start) (.ok d))
      (h : Reaches (talkRound k) (.start k.adb_res_buff k.bus, []) t) :
      Made k (.talk t) (Machine.opened ++ d.2.issued.map .control ++ k.interface
        ++ t.1.bus.trace.map .transfer)
  | release {d : Dump × Output} {t : Main × List Line} (h : k.Through d t) :
      Made k .release (Machine.opened ++ d.2.issued.map .control ++ k.interface
        ++ t.1.bus.trace.map .transfer)
  | close {d : Dump × Output} {t : Main × List Line} (h : k.Through d t) :
      Made k .close (Machine.opened ++ d.2.issued.map .control ++ k.interface
        ++ t.1.bus.trace.map .transfer ++ [.release k.releases])

theorem made_round {p q : Program} (h : k.Made p.phase p.calls)
    (hround : programRound k p = .again q) : k.Made q.phase q.calls := by
  obtain ⟨phase, calls, stdout⟩ := p
  unfold programRound at hround
  dsimp only at h hround
  cases h with
  | fopen =>
    cases hfile : k.file with
    | none => rw [hfile] at hround; cases hround
    | some bytes =>
      rw [hfile] at hround
      cases hround
      exact .getc bytes
  | getc rest =>
    cases rest with
    | nil => cases hround; exact .fclose
    | cons b rest => cases hround; exact .getc rest
  | fclose => cases hround; exact .openFile
  | openFile =>
    dsimp only at hround
    split at hround
    · cases hround
    · cases hround
      exact .dump (.refl _ _)
  | @dump s h =>
    dsimp only at hround
    split at hround
    · rename_i t hdump
      cases hround
      have hadded := append_added (listRound_adds hdump).1
      dsimp only [Program.goOn]
      rw [List.append_assoc, ← List.map_append, hadded]
      exact .dump (h.tail hdump)
    · cases hround
    · rename_i d hleave
      cases hround
      dsimp only [Program.goOn]
      rw [List.append_nil, ← (recorded_leave_iff.mp hleave).2]
      exact .getDriver (exists_run_iff.mpr ⟨s, h, hleave⟩)
  | getDriver hdump =>
    cases hdriver : k.driver with
    | none =>
      rw [hdriver] at hround
      cases hround
      exact .detach hdump (by rw [Machine.interface, hdriver])
    | some name =>
      rw [hdriver] at hround
      cases hround
      exact .detachDriver hdump hdriver
  | detachDriver hdump hdriver =>
    cases hround
    dsimp only [Program.goOn]
    rw [List.append_assoc]
    exact .detach hdump (by rw [Machine.interface, hdriver]; rfl)
  | detach hdump h =>
    cases hround
    dsimp only [Program.goOn]
    rw [List.append_assoc]
    exact .claim hdump (by rw [h, List.append_assoc]; rfl)
  | claim hdump h =>
    cases hround
    dsimp only [Program.goOn]
    rw [List.append_assoc, ← h, ← List.append_nil (Machine.opened ++ _ ++ k.interface)]
    exact .talk hdump (.refl _ _)
  | @talk d t hdump h =>
    dsimp only at hround
    split at hround
    · rename_i u htalk
      cases hround
      have hadded := append_added (talkRound_adds htalk).1
      dsimp only [Program.goOn]
      rw [List.append_assoc, ← List.map_append, hadded]
      exact .talk hdump (h.tail htalk)
    · cases hround
    · rename_i hleave
      cases hround
      dsimp only [Program.goOn]
      rw [List.append_nil]
      exact .release ⟨hdump, h, (mainRound_leave_iff.mp (noted_leave_iff.mp hleave).1).1⟩
  | release h =>
    cases hround
    exact .close h
  | close h => cases hround

/-- The calls up to the claim of the interface, and those behind it: there is no bulk transfer among
the first ones, and no control transfer among the others. -/
structure Machine.Parts (k : Machine) (calls front back : List Syscall) : Prop where
  eq : calls = front ++ back
  no_transfer : ∀ e, .transfer e ∉ front
  no_control : ∀ i, .control i ∉ back
  claimed : back ≠ [] → [.claim k.claims] <:+ front

theorem Machine.interface_claims (k : Machine) : [.claim k.claims] <:+ k.interface := by
  refine List.IsSuffix.trans ?_ (List.suffix_append _ _)
  exact ⟨[.disconnect (k.disconnects 1)], rfl⟩

theorem Machine.not_transfer (k : Machine) (issued : List Control.Issued) (e : Event) :
    .transfer e ∉ Machine.opened ++ issued.map .control ++ k.interface := by
  unfold Machine.opened Machine.interface
  cases k.driver with
  | none => simp
  | some name => simp

theorem Machine.Made.parts {phase : Phase} {calls : List Syscall} (h : k.Made phase calls) :
    ∃ front back, k.Parts calls front back := by
  -- up to the claim of the interface there are only calls of the first part
  have hearly : ∀ (issued : List Control.Issued) {calls : List Syscall},
      calls <+: Machine.opened ++ issued.map .control ++ k.interface →
      ∃ front back, k.Parts calls front back := by
    intro issued calls hfront
    refine ⟨calls, [], (List.append_nil _).symm, fun e he => ?_, fun _ => List.not_mem_nil,
      fun h => absurd rfl h⟩
    exact k.not_transfer issued e (hfront.subset he)
  have hmade : ∀ {issued : List Control.Issued} {made rest : List Syscall},
      k.interface = made ++ rest → Machine.opened ++ issued.map .control ++ made
        <+: Machine.opened ++ issued.map .control ++ k.interface :=
    fun h => (List.prefix_append_right_inj _).mpr ⟨_, h.symm⟩
  have hlate : ∀ {issued : List Control.Issued} {back : List Syscall},
      (∀ i, .control i ∉ back) → ∃ front back', k.Parts
        (Machine.opened ++ issued.map .control ++ k.interface ++ back) front back' :=
    fun hback => ⟨_, _, rfl, k.not_transfer _, hback,
      fun _ => k.interface_claims.trans (List.suffix_append _ _)⟩
  cases h with
  | fopen => exact hearly [] List.nil_prefix
  | getc | fclose => exact hearly [] ⟨[.fclose, .openFile true] ++ k.interface, rfl⟩
  | openFile => exact hearly [] ⟨.openFile true :: k.interface, rfl⟩
  | dump | getDriver => exact hearly _ (List.prefix_append _ _)
  | detachDriver _ hdriver => exact hearly _ (hmade (by rw [Machine.interface, hdriver]; rfl))
  | detach _ h => exact hearly _ (hmade h)
  | claim _ h => exact hearly _ (hmade h)
  | talk | release => exact hlate (by simp)
  | close h =>
    rw [List.append_assoc]
    exact hlate (by simp)

/-- **The calls in order**, wherever the program is: those for the file, the control transfers of
the dump, those for the interface, the transfers of the talk, the release. So there is no bulk
transfer before the interface is claimed, and no control transfer behind that. -/
theorem program_calls (k : Machine) {p : Program} (h : Reaches (programRound k) .start p) :
    k.Made p.phase p.calls ∧ ∃ front back, k.Parts p.calls front back := by
  have hmade : k.Made p.phase p.calls := h.invariant (I := fun p => k.Made p.phase p.calls)
    (fun _ _ hmade hround => made_round hmade hround) .fopen
  exact ⟨hmade, hmade.parts⟩

/-! ## A run -/

/-- Both files can be opened, there is no driver, and the interface cannot be claimed. -/
def sampleMachine : Machine where
  file := some [18, 1]
  fd := 3
  dev := sampleDevice sampleTiled.bytes
  answers := sampleAnswers
  driver := none
  disconnects := fun _ => false
  claims := false
  releases := false
  dname := .zero 256
  rsakey_ex := sampleSetup.rsakey_ex
  envs := sampleSetup.envs
  adb_res_buff := .zero 2048
  submits := fun _ => true
  sends := sampleClosing.sends
  recvs := sampleClosing.recvs

theorem sampleMachine_closes : ∃ n taken ch,
    Session.answers sampleMachine.setup.take (List.range n) (channel sampleMachine.bus)
      = some (taken, ch) ∧ Closes taken ∧ 0 ∈ tokenAfter sampleMachine.adb_res_buff taken := by
  obtain ⟨taken, ch, htook, hcloses⟩ := sampleClosing_closes
  exact ⟨4, taken, ch, htook, hcloses⟩

theorem sampleMachine_described :
    Described sampleMachine.dev sampleDescriptor [sampleTiled] :=
  described_sample (by decide) sampleTiled_complete

theorem program_returns_sample : ∃ q taken bytes out events lines,
    Returns (programRound sampleMachine) .start (.ok 0, q)
    ∧ sampleMachine.Did sampleDescriptor [sampleTiled] taken q bytes out events lines := by
  obtain ⟨hreturns, hdid⟩ := program_returns_iff sampleMachine sampleMachine_described
    sampleAnswers_complete sampleSetup_proper sampleClosing_decide
  obtain ⟨q, hq⟩ := hreturns.mpr ⟨rfl, by decide, sampleMachine_closes⟩
  obtain ⟨taken, -, bytes, out, events, lines, h⟩ := hdid q hq
  exact ⟨q, taken, bytes, out, events, lines, hq, h⟩

theorem program_calls_sample : ∃ p q front back, Reaches (programRound sampleMachine) .start p
    ∧ programRound sampleMachine p = .leave (.ok 0, q) ∧ sampleMachine.Made p.phase p.calls
    ∧ sampleMachine.Parts p.calls front back := by
  obtain ⟨q, hq⟩ := (returns_zero_iff sampleMachine_described sampleAnswers_complete
    sampleSetup_proper sampleClosing_decide rfl (by decide)).mpr sampleMachine_closes
  obtain ⟨p, hreach, hleave⟩ := exists_run_iff.mp hq
  obtain ⟨hmade, front, back, hparts⟩ := program_calls sampleMachine hreach
  exact ⟨p, q, front, back, hreach, hleave, hmade, hparts⟩

end Droidbox
