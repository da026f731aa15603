import Droidbox.Usb.Configuration

/-!
# Droidbox — releasing a parsed descriptor

`__parse_config_descriptor` obtains a block for the structure, one for the interfaces and, in its
loop, one for the endpoints of each interface. `release_descriptor` frees the endpoints of the
first interface, the interfaces and the structure. Both are modelled here with the log of their
allocations: the loop of the parser keeps it as a note.

* **`parseAllocated_parsed`**: apart from the log it is the parser.
* **`blocks_of_reaches`**: what the loop has obtained is counted by its interface descriptors.
* **`balanced_iff_one_interface`**: a stream that is parsed is released in balance exactly when it
  has one of them.
* **`Configuration.balanced_iff`**: which well-formed configurations are parsed and released in
  balance.
-/

namespace Droidbox.Usb

open LittleEndian Scripted Walk

/-! ## Allocation -/

/-- The pointer `ued` of each slot of `ifaced`, if it was written, and the log. -/
structure Blocks where
  ued : List (Option Nat)
  log : HeapLog

/-- What `parse_descriptor` returns a pointer to, with the block it is in. -/
inductive Allocated where
  | device (updd : Nat) (udd : List UInt8)
  | config (upcd : Nat) (value : Upcd) (ifaced : Nat) (ued : List (Option Nat))

def Allocated.parsed : Allocated → Parsed
  | .device _ udd => .device udd
  | .config _ value _ _ => .config value

/-- `__idtp->ued = malloc(...)`, in the rounds that find an interface descriptor. -/
def noteInterface (src : List UInt8) (s : Parser) (b : Blocks) : Blocks :=
  if byteAt src (s.cursor.i + 1) = usbDtInterface then
    let (ued, log) := b.log.malloc
    ⟨b.ued.set s.iface_offset.toNat (some ued), log⟩
  else
    b

/-- `__parse_device_descriptor` -/
def parseDeviceAllocated (src : List UInt8) :
    Except ParseFault (Option Allocated × HeapLog) :=
  let (updd, log) := HeapLog.empty.malloc
  (readStream src 0 usbDtDeviceSize).map fun udd => (some (.device updd udd), log)

/-- `__parse_config_descriptor`, for at most `fuel` rounds of its loop. -/
def parseConfigAllocated (fuel : Nat) (src : List UInt8) :
    Option (Except ParseFault (Option Allocated × HeapLog)) :=
  let (upcd, log) := HeapLog.empty.malloc
  match readStream src 0 usbDtConfigSize with
  | .error f => some (.error f)
  | .ok ucd =>
    let (ifaced, log) := log.malloc
    let start : Blocks := ⟨List.replicate (byteAt ucd 4).toNat none, log⟩
    (run (noted (parseRound src (word16 ucd 2)) (noteInterface src)) fuel (.start ucd, start)).map
      fun r => r.1.map fun s => (some (.config upcd ⟨ucd, s.ifaced⟩ ifaced r.2.ued), r.2.log)

/-- `parse_descriptor` -/
def parseAllocated (fuel : Nat) (src : List UInt8) :
    Option (Except ParseFault (Option Allocated × HeapLog)) :=
  match readStream src 1 1 with
  | .error f => some (.error f)
  | .ok _ =>
    if byteAt src 1 = usbDtDevice then
      some (parseDeviceAllocated src)
    else if byteAt src 1 = usbDtConfig then
      parseConfigAllocated fuel src
    else
      some (.ok (none, .empty))

/-! ## Release -/

/-- The byte behind the pointer: both structures start with a descriptor. -/
def Allocated.type : Allocated → UInt8
  | .device _ udd => byteAt udd 1
  | .config _ value _ _ => byteAt value.ucd 1

/-- `__release_device_descriptor`: whatever the block holds. -/
def releaseDeviceDescriptor (log : HeapLog) : Allocated → HeapLog
  | .device updd _ => log.free updd
  | .config upcd _ _ _ => log.free upcd

/-- `__release_config_descriptor`: `upcd->ifaced->ued` is read from the first slot. -/
def releaseConfigDescriptor (log : HeapLog) : Allocated → Except ParseFault HeapLog
  | .device _ _ => .error (.ifaced 0)
  | .config upcd _ ifaced ued =>
    match ued.head?.join with
    | none => .error (.ifaced 0)
    | some first => .ok (((log.free first).free ifaced).free upcd)

/-- `release_descriptor` -/
def releaseDescriptor (log : HeapLog) (d : Allocated) : Except ParseFault HeapLog :=
  if d.type = usbDtDevice then
    .ok (releaseDeviceDescriptor log d)
  else if d.type = usbDtConfig then
    releaseConfigDescriptor log d
  else
    .ok log

/-- The stream is parsed, and releasing what came of it leaves a balanced log. -/
def Balanced (src : List UInt8) : Prop :=
  ∃ fuel d log log', parseAllocated fuel src = some (.ok (some d, log))
    ∧ releaseDescriptor log d = .ok log' ∧ log'.Balanced

/-! ## The parser with its log -/

variable {src : List UInt8}

/-- **The log does not change what is parsed.** -/
theorem parseAllocated_parsed (fuel : Nat) (src : List UInt8) :
    (parseAllocated fuel src).map (fun r => r.map fun p => p.1.map Allocated.parsed)
      = parseDescriptor fuel src := by
  unfold parseAllocated parseDescriptor
  cases readStream src 1 1 with
  | error f => rfl
  | ok _ =>
    dsimp only
    split
    · unfold parseDeviceAllocated
      cases readStream src 0 usbDtDeviceSize <;> rfl
    · split
      · unfold parseConfigAllocated parseConfigDescriptor
        dsimp only
        cases readStream src 0 usbDtConfigSize with
        | error f => rfl
        | ok ucd =>
          dsimp only
          rw [← run_noted (noteInterface src) fuel (.start ucd)
            ⟨List.replicate (byteAt ucd 4).toNat none, HeapLog.empty.malloc.2.malloc.2⟩]
          simp only [Option.map_map]
          congr 1
          funext r
          cases r with
          | mk r b => cases r <;> rfl
      · rfl

/-- The blocks behind `k` interface descriptors, with `n` slots. -/
structure Blocks.Counts (n k : Nat) (b : Blocks) : Prop where
  slots : b.ued.length = n
  first : b.ued.head?.join = if k = 0 then none else some 2
  obtained : b.log.obtained = List.range (2 + k)
  freed : b.log.freed = []

theorem counts_start (n : Nat) :
    Blocks.Counts n 0 ⟨List.replicate n none, HeapLog.empty.malloc.2.malloc.2⟩ where
  slots := List.length_replicate
  first := by cases n <;> rfl
  obtained := rfl
  freed := rfl

/-- A slot written behind the first one does not change the first. -/
theorem head?_set {α : Type} (l : List α) {slot : Nat} (h : slot ≠ 0) (a : α) :
    (l.set slot a).head? = l.head? := by
  cases l with
  | nil => rfl
  | cons b l =>
    cases slot with
    | zero => exact absurd rfl h
    | succ slot => rfl

theorem Blocks.Counts.noteInterface {n : Nat} {t : Tally} {s : Parser} {b : Blocks}
    (h : b.Counts n t.interfaces) (haccounts : Accounts n t s)
    (hfits : Fits (byteAt src) src.length n t s.cursor.i) :
    (noteInterface src s b).Counts n (t.add (byteAt src) s.cursor.i).interfaces := by
  have hslot := haccounts.iface_offset
  have hslots := h.slots
  obtain ⟨-, hfits⟩ := hfits
  unfold Usb.noteInterface Tally.add
  by_cases hiface : byteAt src (s.cursor.i + 1) = usbDtInterface
  · rw [if_pos hiface] at hfits
    rw [if_pos hiface, if_pos hiface]
    obtain ⟨hblock, hobtained⟩ := HeapLog.malloc_obtained h.obtained
    refine ⟨List.length_set.trans hslots, ?_, hobtained, h.freed⟩
    dsimp only
    rw [hblock, if_neg (Nat.succ_ne_zero _)]
    by_cases hzero : t.interfaces = 0
    · -- the first slot is written with the third block
      rw [hslot, hzero]
      cases hued : b.ued with
      | nil =>
        rw [hued] at hslots
        have hnone : 0 = n := hslots
        omega
      | cons p ued => rfl
    · rw [head?_set _ (by omega), h.first, if_neg hzero]
  · rw [if_neg hiface, if_neg hiface]
    split
    · exact h
    · exact h

/-- **What the loop has obtained** by the time it gets to `s`. -/
theorem blocks_of_reaches {ucd : List UInt8} {D : UInt16} {b₀ : Blocks} {p : Parser × Blocks}
    (hstart : b₀.Counts (byteAt ucd 4).toNat 0)
    (h : Reaches (noted (parseRound src D) (noteInterface src)) (.start ucd, b₀) p) :
    ∃ past, Layout (byteAt src) D.toNat past p.1.cursor.i
      ∧ Accounts (byteAt ucd 4).toNat (tally (byteAt src) past) p.1
      ∧ p.2.Counts (byteAt ucd 4).toNat (tally (byteAt src) past).interfaces := by
  induction h with
  | refl => exact ⟨[], .first, accounts_start ucd, hstart⟩
  | tail _ hround ih =>
    rename_i p q _
    obtain ⟨past, hlayout, haccounts, hcounts⟩ := ih
    obtain ⟨hround, hnote⟩ := noted_again_iff.mp hround
    obtain ⟨hlt, u, hbody, -⟩ := parseRound_again_iff.mp hround
    have hfits := fits_of_parseBody haccounts hbody
    obtain ⟨s, hround', hcursor, haccounts'⟩ := parseRound_fits (byteAt ucd 4).toNat_lt haccounts
      hlt hfits
    rw [hround] at hround'
    have hnext : q.1 = s := Round.again.inj hround'
    have hcounts' := hcounts.noteInterface haccounts hfits
    rw [← tally_snoc] at haccounts' hcounts'
    refine ⟨past ++ [p.1.cursor.i], ?_, hnext ▸ haccounts', hnote ▸ hcounts'⟩
    rw [hnext, hcursor, Cursor.advance_i]
    exact hlayout.next hlt

/-! ## Balance -/

/-- The log of a release behind `k` interface descriptors. -/
theorem balanced_iff_of_counts {n k : Nat} {b : Blocks} (h : b.Counts n k) (u : Upcd)
    (htype : byteAt u.ucd 1 = usbDtConfig) :
    (∃ log, releaseDescriptor b.log (.config 0 u 1 b.ued) = .ok log ∧ log.Balanced) ↔ k = 1 := by
  have hrelease : releaseDescriptor b.log (.config 0 u 1 b.ued)
      = releaseConfigDescriptor b.log (.config 0 u 1 b.ued) := by
    rw [releaseDescriptor, Allocated.type, htype, if_neg (by decide), if_pos rfl]
  rw [hrelease, releaseConfigDescriptor, h.first]
  by_cases hzero : k = 0
  · -- there is no first slot, or it was never written
    rw [if_pos hzero, hzero]
    constructor
    · rintro ⟨log, hlog, -⟩
      cases hlog
    · intro hone
      cases hone
  · rw [if_neg hzero]
    have hfreed : (((b.log.free 2).free 1).free 0).freed = [2, 1, 0] := by
      show ((b.log.freed ++ [2]) ++ [1]) ++ [0] = _
      rw [h.freed]
      rfl
    have hobtained : (((b.log.free 2).free 1).free 0).obtained = List.range (2 + k) := h.obtained
    constructor
    · rintro ⟨log, hlog, hbalanced⟩
      cases hlog
      have hlength := hbalanced.length_eq
      rw [hfreed, hobtained, List.length_range] at hlength
      exact Nat.add_left_cancel (n := 2) hlength.symm
    · rintro rfl
      refine ⟨_, rfl, ?_, ?_⟩
      · rw [hfreed, hobtained]
        decide
      · rw [hfreed]
        decide

/-- The results of parsing a configuration with its log. -/
theorem parseAllocated_config (hmin : usbDtConfigSize ≤ src.length)
    (htype : byteAt src 1 = usbDtConfig) {d : Allocated} {log : HeapLog} :
    (∃ fuel, parseAllocated fuel src = some (.ok (some d, log))) ↔
      ∃ p : Parser × Blocks, Reaches (noted (parseRound src (word16 src 2)) (noteInterface src))
          (.start (src.take usbDtConfigSize), ⟨List.replicate (byteAt src 4).toNat none,
            HeapLog.empty.malloc.2.malloc.2⟩) p
        ∧ (word16 src 2).toNat ≤ p.1.cursor.i
        ∧ d = .config 0 ⟨src.take usbDtConfigSize, p.1.ifaced⟩ 1 p.2.ued ∧ log = p.2.log := by
  have hmin' : 9 ≤ src.length := hmin
  have hnumber : byteAt (src.take usbDtConfigSize) 4 = byteAt src 4 := byteAt_take (by decide)
  have hrun : ∀ fuel, parseAllocated fuel src
      = (run (noted (parseRound src (word16 src 2)) (noteInterface src)) fuel
          (.start (src.take usbDtConfigSize), ⟨List.replicate (byteAt src 4).toNat none,
            HeapLog.empty.malloc.2.malloc.2⟩)).map
          fun r => r.1.map fun s =>
            (some (.config 0 ⟨src.take usbDtConfigSize, s.ifaced⟩ 1 r.2.ued), r.2.log) := by
    intro fuel
    simp only [parseAllocated, readStream_ok (show 1 + 1 ≤ src.length by omega), htype,
      parseConfigAllocated, readStream_ok (show 0 + usbDtConfigSize ≤ src.length by omega),
      List.drop_zero, word16_header, hnumber]
    rw [if_neg (by decide), if_true]
    rfl
  simp only [hrun, Option.map_eq_some_iff]
  constructor
  · rintro ⟨fuel, ⟨r, b⟩, hr, hd⟩
    obtain ⟨p, hreach, hleave⟩ := exists_run_iff.mp ⟨fuel, hr⟩
    obtain ⟨hleave, hb⟩ := noted_leave_iff.mp hleave
    rcases parseRound_leave_iff.mp hleave with ⟨hend, hok⟩ | ⟨-, f, -, herror⟩
    · dsimp only at hb hok hd
      rw [hok, hb] at hd
      cases hd
      exact ⟨p, hreach, hend, rfl, rfl⟩
    · dsimp only at herror hd
      rw [herror] at hd
      cases hd
  · rintro ⟨p, hreach, hend, rfl, rfl⟩
    have hleave : noted (parseRound src (word16 src 2)) (noteInterface src) p
        = .leave (.ok p.1, p.2) :=
      noted_leave_iff.mpr ⟨parseRound_leave_iff.mpr (.inl ⟨hend, rfl⟩), rfl⟩
    obtain ⟨fuel, hr⟩ := exists_run_iff.mpr ⟨p, hreach, hleave⟩
    exact ⟨fuel, _, hr, rfl⟩

/-- **A stream is parsed and released in balance** exactly when the parser gets to its end behind
one interface descriptor. -/
theorem balanced_iff_one_interface (hmin : usbDtConfigSize ≤ src.length)
    (htype : byteAt src 1 = usbDtConfig) :
    Balanced src ↔ ∃ s, Reaches (parseRound src (word16 src 2))
        (.start (src.take usbDtConfigSize)) s
      ∧ (word16 src 2).toNat ≤ s.cursor.i ∧ s.iface_offset = 9 := by
  have hnumber : byteAt (src.take usbDtConfigSize) 4 = byteAt src 4 := byteAt_take (by decide)
  have htype' : byteAt (src.take usbDtConfigSize) 1 = usbDtConfig :=
    (byteAt_take (by decide)).trans htype
  have hstart := counts_start (byteAt (src.take usbDtConfigSize) 4).toNat
  constructor
  · rintro ⟨fuel, d, log, log', hparse, hrelease, hbalanced⟩
    obtain ⟨p, hreach, hend, rfl, rfl⟩ := (parseAllocated_config hmin htype).mp ⟨fuel, hparse⟩
    rw [← hnumber] at hreach
    obtain ⟨past, -, haccounts, hcounts⟩ := blocks_of_reaches hstart hreach
    have hone := (balanced_iff_of_counts hcounts ⟨_, p.1.ifaced⟩ htype').mp
      ⟨log', hrelease, hbalanced⟩
    refine ⟨p.1, hreach.of_noted, hend, UInt16.toNat_inj.mp ?_⟩
    rw [haccounts.iface_offset, hone]
    rfl
  · rintro ⟨s, hreach, hend, hoffset⟩
    obtain ⟨b, hnoted⟩ := hreach.noted (noteInterface src)
      ⟨List.replicate (byteAt (src.take usbDtConfigSize) 4).toNat none,
        HeapLog.empty.malloc.2.malloc.2⟩
    obtain ⟨past, -, haccounts, hcounts⟩ := blocks_of_reaches hstart hnoted
    have hone : (tally (byteAt src) past).interfaces = 1 := by
      have hnine := haccounts.iface_offset
      rw [hoffset] at hnine
      exact Nat.eq_of_mul_eq_mul_left (by decide) hnine.symm
    obtain ⟨log', hrelease, hbalanced⟩ :=
      (balanced_iff_of_counts hcounts ⟨_, s.ifaced⟩ htype').mpr hone
    rw [hnumber] at hnoted
    obtain ⟨fuel, hparse⟩ := (parseAllocated_config hmin htype).mpr
      ⟨(s, b), hnoted, hend, rfl, rfl⟩
    exact ⟨fuel, _, _, log', hparse, hrelease, hbalanced⟩

/-- Two interfaces without endpoints in an array of ten: the block of the second one is left. -/
example : ∃ d log, parseAllocated 3
      [9, 2, 27, 0, 10, 1, 0, 0x80, 50, 9, 4, 0, 0, 0, 0xFF, 0, 0, 0, 9, 4, 1, 0, 0, 0xFF, 0, 0, 0]
      = some (.ok (some d, log))
    ∧ releaseDescriptor log d = .ok ⟨[0, 1, 2, 3], [2, 1, 0]⟩ :=
  ⟨_, _, rfl, rfl⟩

/-! ## Well-formed configurations -/

/-- `Tally.add` on a descriptor. -/
def Tally.addSub (t : Tally) (d : SubDescriptor) : Tally :=
  if d.type = usbDtInterface then
    { interfaces := t.interfaces + 1
      endpoints := 0
      announced := if t.interfaces = 0 then (byteAt d.bytes 4).toNat else t.announced }
  else if d.type = usbDtEndpoint then
    { t with endpoints := t.endpoints + 1 }
  else
    t

theorem Tally.add_eq_addSub {m : Memory} {o : Nat} {d : SubDescriptor} (htype : m (o + 1) = d.type)
    (hfour : d.type = usbDtInterface → m (o + 4) = byteAt d.bytes 4) (t : Tally) :
    t.add m o = t.addSub d := by
  unfold Tally.add Tally.addSub
  rw [htype]
  by_cases hiface : d.type = usbDtInterface
  · rw [if_pos hiface, if_pos hiface, hfour hiface]
  · rw [if_neg hiface, if_neg hiface]

theorem foldl_stored (ds : List SubDescriptor) (t : Tally) :
    ds.foldl Tally.addSub t = (ds.filter SubDescriptor.isStored).foldl Tally.addSub t := by
  induction ds generalizing t with
  | nil => rfl
  | cons d ds ih =>
    cases hstored : d.isStored with
    | true => rw [List.filter_cons_of_pos hstored, List.foldl_cons, List.foldl_cons, ih]
    | false =>
      obtain ⟨hiface, hendp⟩ : d.type ≠ usbDtInterface ∧ d.type ≠ usbDtEndpoint := by
        simpa [SubDescriptor.isStored] using hstored
      rw [List.filter_cons_of_neg (by simp [hstored]), List.foldl_cons, Tally.addSub,
        if_neg hiface, if_neg hendp, ih]

theorem foldl_endpoints {es : List SubDescriptor} (h : ∀ e ∈ es, e.type = usbDtEndpoint)
    (t : Tally) : es.foldl Tally.addSub t = { t with endpoints := t.endpoints + es.length } := by
  induction es generalizing t with
  | nil => rfl
  | cons e es ih =>
    obtain ⟨he, hes⟩ := List.forall_mem_cons.mp h
    rw [List.foldl_cons, ih hes, Tally.addSub, he, if_neg (by decide), if_pos rfl, List.length_cons,
      Nat.add_assoc, Nat.add_comm 1]

theorem Interface.foldl (i : Interface) (t : Tally) :
    (i.desc :: i.endpoints).foldl Tally.addSub t
      = { interfaces := t.interfaces + 1
          endpoints := i.endpoints.length
          announced := if t.interfaces = 0 then i.endpoints.length else t.announced } := by
  rw [List.foldl_cons, foldl_endpoints i.endpoint_type, Tally.addSub, i.desc_type, if_pos rfl,
    i.numEndpoints, Nat.zero_add]

theorem foldl_interfaces (is : List Interface) (t : Tally) :
    ((is.flatMap fun i => i.desc :: i.endpoints).foldl Tally.addSub t).interfaces
      = t.interfaces + is.length := by
  induction is generalizing t with
  | nil => rfl
  | cons i is ih =>
    rw [List.flatMap_cons, List.foldl_append, ih, i.foldl, List.length_cons]
    dsimp only
    omega

section
variable (c : Configuration)

theorem Tiled.byteAt_sub (c : Tiled) {ds es : List SubDescriptor} {d : SubDescriptor}
    (h : c.subs = ds ++ d :: es) {j : Nat} (hj : j < d.bytes.length) :
    byteAt c.bytes (usbDtConfigSize + (stream ds).length + j) = byteAt d.bytes j := by
  have hstream : stream c.subs = stream ds ++ (d.bytes ++ stream es) := by
    rw [h, stream, stream, stream, List.flatMap_append, List.flatMap_cons]
  rw [Tiled.bytes, hstream, ← c.header_length, Nat.add_assoc, byteAt_append_right,
    byteAt_append_right, byteAt_append_left hj]

/-- An interface descriptor has a byte for the number of its endpoints. -/
theorem Configuration.long {ds es : List SubDescriptor} {d : SubDescriptor}
    (h : c.subs = ds ++ d :: es) (hiface : d.type = usbDtInterface) : 4 < d.bytes.length := by
  have hmem : d ∈ c.interfaces.flatMap fun i => i.desc :: i.endpoints := by
    rw [← c.order, List.mem_filter, h]
    exact ⟨List.mem_append_right _ List.mem_cons_self, by simp [SubDescriptor.isStored, hiface]⟩
  obtain ⟨i, -, hd⟩ := List.mem_flatMap.mp hmem
  rcases List.mem_cons.mp hd with rfl | hd
  · rw [i.desc_length]
    decide
  · rw [i.endpoint_type d hd] at hiface
    cases hiface

/-- **The layout of a configuration** goes through its descriptors. -/
theorem Configuration.layout {past : List Nat} {o : Nat}
    (h : Layout (byteAt c.bytes) c.bytes.length past o) :
    ∃ ds es, c.subs = ds ++ es ∧ o = usbDtConfigSize + (stream ds).length
      ∧ tally (byteAt c.bytes) past = ds.foldl Tally.addSub ⟨0, 0, 0⟩ := by
  induction h with
  | first => exact ⟨[], c.subs, rfl, rfl, rfl⟩
  | next _ hlt ih =>
    obtain ⟨ds, es, hsubs, rfl, htally⟩ := ih
    cases es with
    | nil =>
      -- behind the last one there is nothing below the total length
      rw [List.append_nil] at hsubs
      rw [c.bytes_length, c.total, hsubs] at hlt
      exact absurd hlt (Nat.lt_irrefl _)
    | cons d es =>
      have hge := d.length_ge
      have hlength := c.byteAt_sub hsubs (show 0 < d.bytes.length by omega)
      have htype := c.byteAt_sub hsubs (show 1 < d.bytes.length by omega)
      refine ⟨ds ++ [d], es, by rw [hsubs, List.append_assoc]; rfl, ?_, ?_⟩
      · rw [Nat.add_zero] at hlength
        rw [hlength, d.bLength, stream, stream, List.flatMap_append, List.length_append,
          List.flatMap_singleton, Nat.add_assoc]
      · rw [tally_snoc, htally, List.foldl_append]
        exact Tally.add_eq_addSub htype (fun hiface => c.byteAt_sub hsubs (c.long hsubs hiface)) _

/-- At the end of the layout all descriptors are counted. -/
theorem Configuration.tally_end {past : List Nat} {o : Nat}
    (h : Layout (byteAt c.bytes) c.bytes.length past o) (hend : c.bytes.length ≤ o) :
    tally (byteAt c.bytes) past
      = (c.interfaces.flatMap fun i => i.desc :: i.endpoints).foldl Tally.addSub ⟨0, 0, 0⟩ := by
  obtain ⟨ds, es, hsubs, rfl, htally⟩ := c.layout h
  have hnil : es = [] := by
    cases es with
    | nil => rfl
    | cons d es =>
      -- the bytes of `d` are still to come
      have hge := d.length_ge
      rw [c.bytes_length, c.total, hsubs, stream, stream, List.flatMap_append, List.flatMap_cons,
        List.length_append, List.length_append] at hend
      omega
  rw [hnil, List.append_nil] at hsubs
  rw [htally, ← hsubs, foldl_stored, c.order]

/-- What is counted when the parser gets to the end. -/
theorem Configuration.accounts_end {s : Parser}
    (hreach : Reaches (parseRound c.bytes (word16 c.bytes 2)) (.start c.header) s)
    (hend : (word16 c.bytes 2).toNat ≤ s.cursor.i) :
    Accounts (byteAt c.header 4).toNat
      ((c.interfaces.flatMap fun i => i.desc :: i.endpoints).foldl Tally.addSub ⟨0, 0, 0⟩) s := by
  obtain ⟨past, hlayout, haccounts⟩ := accounts_of_reaches hreach
  rw [c.ahead_start.total] at hlayout hend
  rw [← c.tally_end hlayout hend]
  exact haccounts

end

/-- A configuration that is released in balance has one interface, with one endpoint at most. -/
theorem Configuration.single_of_balanced {c : Configuration} (h : Balanced c.bytes) :
    c.interfaces.length = 1 ∧ ∀ i ∈ c.interfaces, i.endpoints.length ≤ 1 := by
  rw [balanced_iff_one_interface c.ahead_start.inside c.type, c.bytes_take] at h
  obtain ⟨s, hreach, hend, hoffset⟩ := h
  have haccounts := c.accounts_end hreach hend
  have hone : c.interfaces.length = 1 := by
    have hnine := haccounts.iface_offset
    rw [hoffset, foldl_interfaces, Nat.zero_add] at hnine
    exact Nat.eq_of_mul_eq_mul_left (by decide) hnine.symm
  obtain ⟨i, hi⟩ := List.length_eq_one_iff.mp hone
  refine ⟨hone, fun j hj => ?_⟩
  rw [hi] at hj
  rw [List.mem_singleton.mp hj]
  -- the endpoints are as many as announced, and the second one would not fit
  have hle := haccounts.endpoints_le
  rw [hi, List.flatMap_cons, List.flatMap_nil, List.append_nil, i.foldl] at hle
  dsimp only at hle
  rw [if_pos rfl] at hle
  omega

theorem Configuration.balanced_of_single {c : Configuration} (hone : c.interfaces.length = 1)
    (hendp : ∀ i ∈ c.interfaces, i.endpoints.length ≤ 1) : Balanced c.bytes := by
  rw [balanced_iff_one_interface c.ahead_start.inside c.type, c.bytes_take]
  obtain ⟨fuel, u, hparse, -⟩ := Configuration.parsesBack_of_small (Nat.le_of_eq hone) hendp
  obtain ⟨s, hreach, hleave, -⟩ := (c.parse_iff u).mp ⟨fuel, hparse⟩
  have hend : (word16 c.bytes 2).toNat ≤ s.cursor.i := by
    rcases parseRound_leave_iff.mp hleave with ⟨hend, -⟩ | ⟨-, f, -, herror⟩
    · exact hend
    · cases herror
  refine ⟨s, hreach, hend, UInt16.toNat_inj.mp ?_⟩
  rw [(c.accounts_end hreach hend).iface_offset, foldl_interfaces, hone]
  rfl

/-- **Which configurations are parsed and released in balance**: those with exactly one interface,
and at most one endpoint of it. -/
theorem Configuration.balanced_iff (c : Configuration) :
    Balanced c.bytes ↔ c.interfaces.length = 1 ∧ ∀ i ∈ c.interfaces, i.endpoints.length ≤ 1 :=
  ⟨Configuration.single_of_balanced, fun h => Configuration.balanced_of_single h.1 h.2⟩

/-- An interface without endpoints. -/
def sampleBare : Interface where
  desc := { bytes := [9, 4, 0, 0, 0, 0xFF, 0x42, 1, 0], length_ge := by decide, bLength := rfl }
  endpoints := []
  desc_length := rfl
  desc_type := rfl
  endpoint_length := List.forall_mem_nil _
  endpoint_type := List.forall_mem_nil _
  numEndpoints := rfl

/-- A configuration with two of them. -/
def sampleTwoBare : Configuration where
  header := [9, 2, 27, 0, 2, 1, 0, 0x80, 50]
  subs := [sampleBare.desc, sampleBare.desc]
  header_length := rfl
  total := rfl
  interfaces := [sampleBare, sampleBare]
  isConfig := rfl
  numInterfaces := rfl
  order := rfl

theorem not_balanced_of_two_interfaces : ¬ Balanced sampleTwoBare.bytes := by
  intro h
  have hone := (Configuration.single_of_balanced h).1
  exact absurd hone (by decide)

end Droidbox.Usb
