import Droidbox.Lib.Session
import Droidbox.Usb.Bulk

/-!
# Droidbox — bulk calls on a shared usbdevfs descriptor

`usb_bulk_send` and `usb_bulk_recv` of `lib/usb/usb.c` submit a URB with one `ioctl` and reap one
with another. Here any number of calls run on one descriptor, each step of each call and each
completion of the kernel being an action of its own:

* the kernel completes pending URBs in any order, and a reap returns any completed URB;
* a call leaves with the `actual_length` of its own block, whichever URB it reaped:
  `__usb_bulk_msg` stores the identity in `uurb_id` and never looks at it;
* **`Usbfs.Enabled.change`**: what a step can make of one call; the invariants read it off.
* **`reports_own_over_runs`**: without completions of other calls waiting at a reap, each call
  reports its own URB.
* **`reports_own_of_exclusive`**: so it is with one call at a time.
* **`recv_result`**, **`send_result`**: what calls return are the results of the bus.
-/

namespace Droidbox

open LittleEndian Session

/-! ## The calls -/

/-- The members of `struct usbdevfs_urb` that the kernel reads and writes. -/
structure Urb where
  endpoint : UInt8
  status : Int
  buffer_length : Int
  actual_length : Int
  deriving DecidableEq, Repr

def usbDirOut : UInt16 := 0

def usbDirIn : UInt16 := 0x80

/-- A call that was started: which one, on which endpoint, for how many bytes. -/
inductive Bulk where
  | send (endpoint : UInt16) (len : UInt32)
  | recv (endpoint : UInt16) (len : UInt32)
  deriving DecidableEq, Repr

def Bulk.len : Bulk → UInt32
  | .send _ len | .recv _ len => len

/-- The block on the stack of the call. -/
def Bulk.uurb : Bulk → Urb
  | .send endpoint len => ⟨(usbDirOut ||| endpoint).toUInt8, -1, asInt len, 0⟩
  | .recv endpoint len => ⟨(usbDirIn ||| endpoint).toUInt8, -1, asInt len, 0⟩

/-- The outcome of an `ioctl`: `EINTR`, another error, or success. -/
inductive Ioctl (α : Type) where
  | eintr
  | error
  | ok (a : α)
  deriving DecidableEq, Repr

/-- Where a call stands: in front of one of the two `ioctl`s of `__usb_bulk_msg`, behind
`__usb_bulk_msg` with the value it returned, or over. -/
inductive Control where
  | idle
  | submit
  | reap
  | left (ret : Int)
  | returned
  deriving DecidableEq, Repr

/-- `SUBMITURB` is tried again after `EINTR`. -/
def submitUrb : Ioctl Unit → Control
  | .eintr => .submit
  | .error => .left 1
  | .ok () => .reap

/-- `REAPURB` is tried again after `EINTR`; the URB it returned makes no difference. -/
def reapUrb {Call : Type} : Ioctl Call → Control
  | .eintr => .reap
  | .error => .left 1
  | .ok _ => .left 0

/-- What a call returns when `__usb_bulk_msg` returned `ret`. -/
def bulkResult (ret : Int) (uurb : Urb) : Int :=
  if ret ≠ 0 then -1 else uurb.actual_length

/-! ## The descriptor -/

/-- Where a URB is in the kernel. -/
inductive Stage where
  | unsubmitted
  | pending
  | completed
  | reaped
  deriving DecidableEq, Repr

structure CallState where
  control : Control
  stage : Stage
  uurb : Urb
  deriving DecidableEq, Repr

variable {Call : Type}

/-- One step of one call, or the completion of a URB by the kernel. A URB is named by the call
that submitted it. -/
inductive Action (Call : Type) where
  | start (c : Call) (op : Bulk)
  | submit (c : Call) (res : Ioctl Unit)
  | complete (u : Call) (status actual_length : Int)
  | reap (c : Call) (res : Ioctl Call)
  | ret (c : Call) (value : Int)
  deriving DecidableEq, Repr

abbrev Usbfs (Call : Type) := Call → CallState

def Usbfs.idle : Usbfs Call := fun _ => ⟨.idle, .unsubmitted, ⟨0, 0, 0, 0⟩⟩

def Usbfs.Enabled (s : Usbfs Call) : Action Call → Prop
  | .start c _ => (s c).control = .idle
  | .submit c _ => (s c).control = .submit
  | .complete u _ actual_length =>
    (s u).stage = .pending ∧ 0 ≤ actual_length ∧ actual_length ≤ (s u).uurb.buffer_length
  | .reap c (.ok u) => (s c).control = .reap ∧ (s u).stage = .completed
  | .reap c _ => (s c).control = .reap
  | .ret c value =>
    (s c).control = .left 0 ∧ value = bulkResult 0 (s c).uurb
      ∨ (s c).control = .left 1 ∧ value = bulkResult 1 (s c).uurb

instance (s : Usbfs Call) : (a : Action Call) → Decidable (s.Enabled a)
  | .start _ _ | .submit _ _ | .complete _ _ _ | .ret _ _ => by
    unfold Usbfs.Enabled; infer_instance
  | .reap _ .eintr | .reap _ .error | .reap _ (.ok _) => by
    unfold Usbfs.Enabled; infer_instance

/-- What an action makes of the call `d`. -/
def CallState.after [DecidableEq Call] (p : CallState) (d : Call) : Action Call → CallState
  | .start c op => if d = c then ⟨.submit, .unsubmitted, op.uurb⟩ else p
  | .submit c res =>
    if d = c then
      { p with control := submitUrb res, stage := if res = .ok () then .pending else p.stage }
    else p
  | .complete u status actual_length =>
    if d = u then { p with stage := .completed, uurb := { p.uurb with status, actual_length } }
    else p
  | .reap c res =>
    { p with
      control := if d = c then reapUrb res else p.control
      stage := if res = .ok d then .reaped else p.stage }
  | .ret c _ => if d = c then { p with control := .returned } else p

def Usbfs.after [DecidableEq Call] (s : Usbfs Call) (a : Action Call) : Usbfs Call :=
  fun d => (s d).after d a

def Usbfs.step [DecidableEq Call] (s : Usbfs Call) (a : Action Call) : Option (Usbfs Call) :=
  if s.Enabled a then some (s.after a) else none

theorem Usbfs.step_eq_some [DecidableEq Call] {s s' : Usbfs Call} {a : Action Call} :
    s.step a = some s' ↔ s.Enabled a ∧ s' = s.after a := by
  unfold Usbfs.step
  split
  · rename_i h
    simp only [h, Option.some.injEq, true_and]
    exact eq_comm
  · rename_i h
    simp [h]

/-- A step in a run: the kernel and the scheduler choose the action. -/
def Usbfs.exec [DecidableEq Call] (a : Action Call) (s : Usbfs Call) (_ : Unit)
    (s' : Usbfs Call) : Prop :=
  s.step a = some s'

/-- The actions of a schedule can be taken one after the other. -/
def Usbfs.CanRun [DecidableEq Call] (s : Usbfs Call) : List (Action Call) → Prop
  | [] => True
  | a :: as => s.Enabled a ∧ (s.after a).CanRun as

instance Usbfs.decidableCanRun [DecidableEq Call] :
    (s : Usbfs Call) → (as : List (Action Call)) → Decidable (s.CanRun as)
  | _, [] => .isTrue trivial
  | s, a :: as =>
    have := Usbfs.decidableCanRun (s.after a) as
    inferInstanceAs (Decidable (s.Enabled a ∧ (s.after a).CanRun as))

def Usbfs.log [DecidableEq Call] (s : Usbfs Call) :
    List (Action Call) → List (Entry (Action Call) (Usbfs Call) Unit)
  | [] => []
  | a :: as => ⟨a, s, (), s.after a⟩ :: (s.after a).log as

theorem Usbfs.log_calls [DecidableEq Call] (s : Usbfs Call) (as : List (Action Call)) :
    (s.log as).map Entry.call = as := by
  induction as generalizing s with
  | nil => rfl
  | cons a as ih => rw [Usbfs.log, List.map_cons, ih]

theorem Usbfs.runs_log [DecidableEq Call] {s : Usbfs Call} {as : List (Action Call)}
    (h : s.CanRun as) : Runs Usbfs.exec s (s.log as) (as.foldl Usbfs.after s) := by
  induction as generalizing s with
  | nil => exact .nil s
  | cons a as ih => exact .cons (r := ()) (Usbfs.step_eq_some.mpr ⟨h.1, rfl⟩) (ih h.2)

variable {s s' : Usbfs Call} {a : Action Call}

theorem Usbfs.Enabled.reaping {c : Call} {res : Ioctl Call} (h : s.Enabled (.reap c res)) :
    (s c).control = .reap := by
  cases res with
  | eintr => exact h
  | error => exact h
  | ok u => exact h.1

/-! ## What an action makes of one call -/

/-- Everything an action can do to the call `d`. -/
inductive CallState.Change (d : Call) (p : CallState) : Action Call → CallState → Prop
  | kept {a : Action Call} : Change d p a p
  | started (op : Bulk) (h : p.control = .idle) :
    Change d p (.start d op) ⟨.submit, .unsubmitted, op.uurb⟩
  | submit_failed (h : p.control = .submit) :
    Change d p (.submit d .error) { p with control := .left 1 }
  | submitted (h : p.control = .submit) :
    Change d p (.submit d (.ok ())) { p with control := .reap, stage := .pending }
  | completed (status n : Int) (h : p.stage = .pending) (hpos : 0 ≤ n)
      (hle : n ≤ p.uurb.buffer_length) :
    Change d p (.complete d status n)
      { p with stage := .completed, uurb := { p.uurb with status, actual_length := n } }
  | reap_failed (h : p.control = .reap) :
    Change d p (.reap d .error) { p with control := .left 1 }
  | reaped (h : p.control = .reap) (hc : p.stage = .completed) :
    Change d p (.reap d (.ok d)) { p with control := .left 0, stage := .reaped }
  | reaped_other (u : Call) (hne : u ≠ d) (h : p.control = .reap) :
    Change d p (.reap d (.ok u)) { p with control := .left 0 }
  | reaped_by (c : Call) (hne : c ≠ d) (hc : p.stage = .completed) :
    Change d p (.reap c (.ok d)) { p with stage := .reaped }
  | returned (value : Int) (h : p.control = .left 0 ∨ p.control = .left 1) :
    Change d p (.ret d value) { p with control := .returned }

theorem CallState.control_self {p : CallState} {k : Control} (h : p.control = k) :
    { p with control := k } = p := by
  subst h
  rfl

/-- **One step, seen from one call.** -/
theorem Usbfs.Enabled.change [DecidableEq Call] (h : s.Enabled a) (d : Call) :
    CallState.Change d (s d) a (s.after a d) := by
  unfold Usbfs.after
  cases a with
  | start c op =>
    by_cases hd : d = c
    · subst hd
      rw [CallState.after, if_pos rfl]
      exact .started op h
    · rw [CallState.after, if_neg hd]
      exact .kept
  | submit c res =>
    by_cases hd : d = c
    · subst hd
      rw [CallState.after, if_pos rfl]
      cases res with
      | eintr => exact (CallState.control_self h).symm ▸ .kept
      | error => exact .submit_failed h
      | ok _ => exact .submitted h
    · rw [CallState.after, if_neg hd]
      exact .kept
  | complete u status n =>
    by_cases hd : d = u
    · subst hd
      rw [CallState.after, if_pos rfl]
      exact .completed status n h.1 h.2.1 h.2.2
    · rw [CallState.after, if_neg hd]
      exact .kept
  | reap c res =>
    have hreap := h.reaping
    by_cases hd : d = c
    · subst hd
      simp only [CallState.after, if_true]
      cases res with
      | eintr => exact (CallState.control_self hreap).symm ▸ .kept
      | error => exact .reap_failed hreap
      | ok u =>
        by_cases hu : u = d
        · subst hu
          rw [if_pos rfl]
          exact .reaped hreap h.2
        · rw [if_neg fun e => hu (Ioctl.ok.inj e)]
          exact .reaped_other u hu hreap
    · simp only [CallState.after, if_neg hd]
      by_cases hres : res = .ok d
      · subst hres
        rw [if_pos rfl]
        exact .reaped_by c (Ne.symm hd) h.2
      · rw [if_neg hres]
        exact .kept
  | ret c value =>
    by_cases hd : d = c
    · subst hd
      rw [CallState.after, if_pos rfl]
      exact .returned value (h.imp And.left And.left)
    · rw [CallState.after, if_neg hd]
      exact .kept

/-! ## Reports -/

/-- Every call that returned a value from `0` on submitted its URB, had it completed with this
value and reaped it, in this order; and no call reaped the URB of another. -/
structure ReportsOwn (trace : List (Action Call)) : Prop where
  own : ∀ c value, 0 ≤ value → .ret c value ∈ trace → ∃ status : Int,
    [.submit c (.ok ()), .complete c status value, .reap c (.ok c), .ret c value].Sublist trace
  consumed : ∀ c u, .reap c (.ok u) ∈ trace → u = c

/-- When a call reaps a URB, no completion of another call is waiting. -/
def Usbfs.Undisturbed (s : Usbfs Call) : Action Call → Prop
  | .reap c (.ok _) => ∀ d, (s d).stage = .completed → d = c
  | _ => True

def CallState.past (p : CallState) (d : Call) : List (Action Call) :=
  match p.stage with
  | .unsubmitted => []
  | .pending => [.submit d (.ok ())]
  | .completed =>
    [.submit d (.ok ()), .complete d p.uurb.status p.uurb.actual_length]
  | .reaped =>
    [.submit d (.ok ()), .complete d p.uurb.status p.uurb.actual_length, .reap d (.ok d)]

variable {d : Call} {p p' : CallState}

theorem CallState.Change.past (h : CallState.Change d p a p')
    (hown : ∀ c u, a = .reap c (.ok u) → u = c) :
    (p'.past d).Sublist (p.past d ++ [a]) := by
  cases h with
  | kept => exact List.sublist_append_left _ _
  | started op h => exact List.nil_sublist _
  | submit_failed h => exact List.sublist_append_left _ _
  | submitted h => exact List.sublist_append_right _ _
  | completed status n h hpos hle => simp [CallState.past, h]
  | reap_failed h => exact List.sublist_append_left _ _
  | reaped h hc => simp [CallState.past, hc]
  | reaped_other u hne h => exact List.sublist_append_left _ _
  | reaped_by c hne hc => exact absurd (hown c d rfl).symm hne
  | returned value h => exact List.sublist_append_left _ _

/-- A call behind a successful `__usb_bulk_msg` had its own URB reaped. -/
theorem CallState.Change.left_reaped (h : CallState.Change d p a p')
    (hown : ∀ c u, a = .reap c (.ok u) → u = c)
    (hp : p.control = .left 0 → p.stage = .reaped) :
    p'.control = .left 0 → p'.stage = .reaped := by
  intro hleft
  cases h with
  | kept => exact hp hleft
  | completed status n h hpos hle =>
    -- a URB that was reaped cannot be completed again
    rw [hp hleft] at h
    cases h
  | reaped h hc => rfl
  | reaped_other u hne h => exact absurd (hown d u rfl) hne
  | reaped_by c hne hc => rfl
  | started op h => cases hleft
  | submit_failed h => cases hleft
  | submitted h => cases hleft
  | reap_failed h => cases hleft
  | returned value h => cases hleft

theorem Usbfs.Undisturbed.own (hu : s.Undisturbed a) (h : s.Enabled a) {c u : Call}
    (ha : a = .reap c (.ok u)) : u = c := by
  subst ha
  exact hu u h.2

/-- The trace accounts for the state of every call. -/
structure Accounted (trace : List (Action Call)) (s : Usbfs Call) : Prop where
  past : ∀ d, ((s d).past d).Sublist trace
  reaped : ∀ d, (s d).control = .left 0 → (s d).stage = .reaped
  reports : ReportsOwn trace

theorem accounted_idle : Accounted [] (Usbfs.idle : Usbfs Call) where
  past _ := List.Sublist.refl []
  reaped _ h := by cases h
  reports := ⟨fun _ _ _ h => (List.not_mem_nil h).elim, fun _ _ h => (List.not_mem_nil h).elim⟩

/-- The call that returns has its whole story behind it. -/
theorem Accounted.ret {trace : List (Action Call)} (hs : Accounted trace s) {c : Call} {value : Int}
    (h : s.Enabled (.ret c value)) (hvalue : 0 ≤ value) :
    ∃ status : Int,
      [.submit c (.ok ()), .complete c status value, .reap c (.ok c)].Sublist trace := by
  rcases h with ⟨hleft, rfl⟩ | ⟨-, rfl⟩
  · have hpast := hs.past c
    rw [CallState.past, hs.reaped c hleft] at hpast
    exact ⟨_, hpast⟩
  · -- `__usb_bulk_msg` returned 1, and the call `-1`
    exact absurd hvalue (by simp [bulkResult])

theorem Accounted.step [DecidableEq Call] {trace : List (Action Call)} (hs : Accounted trace s)
    (hstep : s.step a = some s') (hu : s.Undisturbed a) : Accounted (trace ++ [a]) s' := by
  obtain ⟨h, rfl⟩ := Usbfs.step_eq_some.mp hstep
  have hown : ∀ c u, a = .reap c (.ok u) → u = c := fun c u ha => hu.own h ha
  constructor
  case past =>
    intro d
    exact ((h.change d).past hown).trans ((hs.past d).append (List.Sublist.refl [a]))
  case reaped =>
    intro d
    exact (h.change d).left_reaped hown (hs.reaped d)
  case reports =>
    constructor
    case own =>
      intro c value hvalue hmem
      rcases List.mem_append.mp hmem with hmem | hmem
      · obtain ⟨status, hsub⟩ := hs.reports.own c value hvalue hmem
        exact ⟨status, hsub.trans (List.sublist_append_left _ _)⟩
      · obtain rfl := List.mem_singleton.mp hmem
        obtain ⟨status, hsub⟩ := hs.ret h hvalue
        exact ⟨status, hsub.append (List.Sublist.refl [_])⟩
    case consumed =>
      intro c u hmem
      rcases List.mem_append.mp hmem with hmem | hmem
      · exact hs.reports.consumed c u hmem
      · obtain rfl := List.mem_singleton.mp hmem
        exact hown c u rfl

/-- **Each call reports its own URB.** In every interleaving of any number of calls, with any
`EINTR` retries, failing `ioctl`s and completion order, in which no completion of another call
waits when a call reaps a URB. -/
theorem reports_own_over_runs [DecidableEq Call]
    {log : List (Entry (Action Call) (Usbfs Call) Unit)}
    {t : Usbfs Call} (h : Runs Usbfs.exec Usbfs.idle log t)
    (hu : ∀ e ∈ log, e.before.Undisturbed e.call) : ReportsOwn (log.map Entry.call) := by
  have hrun := Runs.history (I := fun log s => Accounted (log.map Entry.call) s)
    (fun log a s _ s' hs hexec hu => by
      rw [List.map_append]
      exact hs.step hexec hu)
    accounted_idle h hu
  exact hrun.reports

/-- A receive that is interrupted in front of both of its `ioctl`s, and a send beside it: both URBs
are pending, and each completes when the other one is not waiting to be reaped. -/
def interrupted : List (Action Nat) :=
  [.start 0 (.recv 1 512), .submit 0 .eintr, .start 1 (.send 1 24), .submit 0 (.ok ()),
    .submit 1 (.ok ()), .reap 0 .eintr, .complete 0 0 16, .reap 0 (.ok 0), .complete 1 0 24,
    .ret 0 16, .reap 1 (.ok 1), .ret 1 24]

theorem reports_own_of_interrupted :
    ReportsOwn ((Usbfs.idle.log interrupted).map Entry.call) :=
  reports_own_over_runs (Usbfs.runs_log (by decide)) (by
    simp only [interrupted, Usbfs.log, List.forall_mem_cons]
    refine ⟨trivial, trivial, trivial, trivial, trivial, trivial, trivial, ?_, trivial, trivial, ?_,
      trivial, by simp⟩
    · intro d hd
      by_contra hne
      by_cases h1 : d = 1
      · subst h1
        exact absurd hd (by decide)
      · simp [Usbfs.after, CallState.after, Usbfs.idle, hne, h1] at hd
    · intro d hd
      by_contra hne
      by_cases h0 : d = 0
      · subst h0
        exact absurd hd (by decide)
      · simp [Usbfs.after, CallState.after, Usbfs.idle, hne, h0, Ne.symm h0] at hd)

/-- Two callers: a send of 24 bytes and a receive. -/
def crossed : List (Action Nat) :=
  [.start 0 (.send 1 24), .start 1 (.recv 1 512), .submit 0 (.ok ()), .submit 1 (.ok ()),
    .complete 1 0 24, .reap 0 (.ok 1), .ret 0 0]

/-- The send reaps the URB of the receive and returns `0` while its own URB is pending; the
receive waits for a completion that is gone. -/
theorem crossed_not_reported : ∃ t, Runs Usbfs.exec Usbfs.idle (Usbfs.idle.log crossed) t
    ∧ (t 0).stage = .pending ∧ (t 1).control = .reap ∧ (t 1).stage = .reaped
    ∧ ¬ ReportsOwn ((Usbfs.idle.log crossed).map Entry.call) := by
  refine ⟨_, Usbfs.runs_log (by decide), by decide, by decide, by decide, fun h => ?_⟩
  rw [Usbfs.log_calls] at h
  exact absurd (h.consumed 0 1 (by decide)) (by decide)

/-- A call that reaps is sure to get its own URB only where no other completion waits. -/
theorem not_reports_own_of_disturbed [DecidableEq Call]
    {log : List (Entry (Action Call) (Usbfs Call) Unit)}
    {t : Usbfs Call} (h : Runs Usbfs.exec Usbfs.idle log t) {c u : Call}
    (hc : (t c).control = .reap) (hu : (t u).stage = .completed) (hne : u ≠ c) :
    ∃ log' t', Runs Usbfs.exec Usbfs.idle (log ++ log') t'
      ∧ ¬ ReportsOwn ((log ++ log').map Entry.call) := by
  have hstep : t.step (.reap c (.ok u)) = some (t.after (.reap c (.ok u))) :=
    Usbfs.step_eq_some.mpr ⟨⟨hc, hu⟩, rfl⟩
  refine ⟨[_], _, h.snoc (r := ()) hstep, fun hreports => hne ?_⟩
  exact hreports.consumed c u (by simp)

/-! ## One call at a time

Calls that follow each other, none of which failed to reap its URB, do not disturb each other. -/

def CallState.Outstanding (p : CallState) : Prop := p.stage = .pending ∨ p.stage = .completed

/-- A URB is only submitted when no other is outstanding. -/
def Usbfs.Exclusive (s : Usbfs Call) : Action Call → Prop
  | .submit _ (.ok ()) => ∀ d, ¬ (s d).Outstanding
  | _ => True

/-- At most one URB is outstanding, and a call that waits at `REAPURB` waits for it. -/
structure Usbfs.Single (s : Usbfs Call) : Prop where
  waits : ∀ c, (s c).control = .reap → (s c).Outstanding
  unique : ∀ c d, (s c).Outstanding → (s d).Outstanding → c = d

theorem single_idle : (Usbfs.idle : Usbfs Call).Single where
  waits _ h := by cases h
  unique _ _ h := by rcases h with h | h <;> cases h

theorem Usbfs.Single.undisturbed (hs : s.Single) (h : s.Enabled a) : s.Undisturbed a := by
  cases a with
  | reap c res =>
    cases res with
    | ok u =>
      intro d hd
      exact hs.unique d c (.inr hd) (hs.waits c h.1)
    | _ => trivial
  | _ => trivial

theorem CallState.Change.outstanding (h : CallState.Change d p a p') (ho : p'.Outstanding) :
    p.Outstanding ∨ a = .submit d (.ok ()) := by
  cases h with
  | submitted h => exact .inr rfl
  | completed status n h hpos hle => exact .inl (.inl h)
  | started op h => rcases ho with ho | ho <;> cases ho
  | reaped h hc => rcases ho with ho | ho <;> cases ho
  | reaped_by c hne hc => rcases ho with ho | ho <;> cases ho
  | kept => exact .inl ho
  | submit_failed h => exact .inl ho
  | reap_failed h => exact .inl ho
  | reaped_other u hne h => exact .inl ho
  | returned value h => exact .inl ho

theorem CallState.Change.waits (h : CallState.Change d p a p')
    (hown : ∀ c u, a = .reap c (.ok u) → u = c)
    (hp : p.control = .reap → p.Outstanding) : p'.control = .reap → p'.Outstanding := by
  intro hreap
  cases h with
  | kept => exact hp hreap
  | submitted h => exact .inl rfl
  | completed status n h hpos hle => exact .inr rfl
  | reaped_by c hne hc => exact absurd (hown c d rfl).symm hne
  | started op h => cases hreap
  | submit_failed h => cases hreap
  | reap_failed h => cases hreap
  | reaped h hc => cases hreap
  | reaped_other u hne h => cases hreap
  | returned value h => cases hreap

theorem Usbfs.Single.step [DecidableEq Call] (hs : s.Single) (h : s.step a = some s')
    (he : s.Exclusive a) : s'.Single := by
  obtain ⟨hen, rfl⟩ := Usbfs.step_eq_some.mp h
  constructor
  case waits =>
    intro c
    exact (hen.change c).waits (fun c u ha => (hs.undisturbed hen).own hen ha) (hs.waits c)
  case unique =>
    intro c d hc hd
    rcases (hen.change c).outstanding hc with hc' | rfl
    · rcases (hen.change d).outstanding hd with hd' | rfl
      · exact hs.unique c d hc' hd'
      · exact absurd hc' (he c)
    · rcases (hen.change d).outstanding hd with hd' | hd'
      · exact absurd hd' (he d)
      · cases hd'
        rfl

/-- Exclusive submissions keep all calls undisturbed, so each call reports its own URB. -/
theorem reports_own_of_exclusive [DecidableEq Call]
    {log : List (Entry (Action Call) (Usbfs Call) Unit)}
    {t : Usbfs Call} (h : Runs Usbfs.exec Usbfs.idle log t)
    (he : ∀ e ∈ log, e.before.Exclusive e.call) : ReportsOwn (log.map Entry.call) := by
  have hrun := Runs.history
    (I := fun log s => s.Single ∧ Accounted (log.map Entry.call) s)
    (fun log a s _ s' ⟨hsingle, hs⟩ hexec he => by
      have hu := hsingle.undisturbed (Usbfs.step_eq_some.mp hexec).1
      rw [List.map_append]
      exact ⟨hsingle.step hexec he, hs.step hexec hu⟩)
    ⟨single_idle, accounted_idle⟩ h he
  exact hrun.2.reports

/-! ## What the request routines see

Whatever the interleaving, a call returns `-1` or at most the bytes it asked for: the results of
the bus. -/

/-- The values that are returned, and the block of every call that was started. -/
structure Bounded (trace : List (Action Call)) (s : Usbfs Call) : Prop where
  started : ∀ c op, .start c op ∈ trace →
    (s c).control ≠ .idle ∧ (s c).uurb.buffer_length = asInt op.len
  length : ∀ c, 0 ≤ (s c).uurb.actual_length
    ∧ (s c).uurb.actual_length ≤ max 0 (s c).uurb.buffer_length
  returned : ∀ c value, .ret c value ∈ trace → (s c).control = .returned
    ∧ (value = -1 ∨ 0 ≤ value ∧ value ≤ max 0 (s c).uurb.buffer_length)

theorem bounded_idle : Bounded [] (Usbfs.idle : Usbfs Call) where
  started _ _ h := (List.not_mem_nil h).elim
  length _ := ⟨Int.le_refl 0, Int.le_refl 0⟩
  returned _ _ h := (List.not_mem_nil h).elim

theorem CallState.Change.block (h : CallState.Change d p a p') (hp : p.control ≠ .idle) :
    p'.control ≠ .idle ∧ p'.uurb.buffer_length = p.uurb.buffer_length := by
  cases h with
  | started op h => exact absurd h hp
  | submit_failed h => exact ⟨nofun, rfl⟩
  | submitted h => exact ⟨nofun, rfl⟩
  | reap_failed h => exact ⟨nofun, rfl⟩
  | reaped h hc => exact ⟨nofun, rfl⟩
  | reaped_other u hne h => exact ⟨nofun, rfl⟩
  | returned value h => exact ⟨nofun, rfl⟩
  | kept => exact ⟨hp, rfl⟩
  | completed status n h hpos hle => exact ⟨hp, rfl⟩
  | reaped_by c hne hc => exact ⟨hp, rfl⟩

theorem CallState.Change.returned_stays (h : CallState.Change d p a p')
    (hp : p.control = .returned) : p'.control = .returned := by
  cases h with
  | kept => exact hp
  | completed status n h hpos hle => exact hp
  | reaped_by c hne hc => exact hp
  | returned value h => rfl
  | started op h => rw [hp] at h; cases h
  | submit_failed h => rw [hp] at h; cases h
  | submitted h => rw [hp] at h; cases h
  | reap_failed h => rw [hp] at h; cases h
  | reaped h hc => rw [hp] at h; cases h
  | reaped_other u hne h => rw [hp] at h; cases h

/-- A block never holds more than it has room for. -/
theorem CallState.Change.length (h : CallState.Change d p a p')
    (hp : 0 ≤ p.uurb.actual_length ∧ p.uurb.actual_length ≤ max 0 p.uurb.buffer_length) :
    0 ≤ p'.uurb.actual_length ∧ p'.uurb.actual_length ≤ max 0 p'.uurb.buffer_length := by
  cases h with
  | started op h => cases op <;> exact ⟨Int.le_refl 0, Int.le_max_left 0 _⟩
  | completed status n h hpos hle => exact ⟨hpos, Int.le_trans hle (Int.le_max_right 0 _)⟩
  | _ => exact hp

theorem Bounded.step [DecidableEq Call] {trace : List (Action Call)} (hs : Bounded trace s)
    (hstep : s.step a = some s') : Bounded (trace ++ [a]) s' := by
  obtain ⟨h, rfl⟩ := Usbfs.step_eq_some.mp hstep
  constructor
  case started =>
    intro c op hmem
    rcases List.mem_append.mp hmem with hmem | hmem
    · obtain ⟨hcontrol, hlength⟩ := hs.started c op hmem
      obtain ⟨hcontrol', hlength'⟩ := (h.change c).block hcontrol
      exact ⟨hcontrol', hlength'.trans hlength⟩
    · obtain rfl := List.mem_singleton.mp hmem
      cases op <;> simp [Usbfs.after, CallState.after, Bulk.uurb, Bulk.len]
  case length =>
    intro c
    exact (h.change c).length (hs.length c)
  case returned =>
    intro c value hmem
    rcases List.mem_append.mp hmem with hmem | hmem
    · obtain ⟨hcontrol, hvalue⟩ := hs.returned c value hmem
      obtain ⟨-, hlength'⟩ := (h.change c).block (by rw [hcontrol]; decide)
      refine ⟨(h.change c).returned_stays hcontrol, ?_⟩
      rwa [hlength']
    · obtain rfl := List.mem_singleton.mp hmem
      refine ⟨by simp [Usbfs.after, CallState.after], ?_⟩
      simp only [Usbfs.after, CallState.after, if_true]
      rcases h with ⟨-, rfl⟩ | ⟨-, rfl⟩
      · exact .inr (hs.length c)
      · exact .inl rfl

theorem bounded_over_runs [DecidableEq Call] {log : List (Entry (Action Call) (Usbfs Call) Unit)}
    {t : Usbfs Call} (h : Runs Usbfs.exec Usbfs.idle log t) :
    Bounded (log.map Entry.call) t :=
  Runs.history (I := fun log s => Bounded (log.map Entry.call) s) (C := fun _ => True)
    (fun log a s _ s' hs hexec _ => by
      rw [List.map_append]
      exact hs.step hexec)
    bounded_idle h (fun _ _ => trivial)

/-- A receive of at most 512 bytes has a result of the bus. -/
theorem recv_result [DecidableEq Call]
    {log : List (Entry (Action Call) (Usbfs Call) Unit)} {t : Usbfs Call}
    (h : Runs Usbfs.exec Usbfs.idle log t) {c : Call} {op : Bulk} {value : Int}
    (hstart : .start c op ∈ log.map Entry.call) (hret : .ret c value ∈ log.map Entry.call)
    (hlen : op.len.toNat ≤ 512) : ∃ r : RecvResult, ∀ data, (usbBulkRecv r data).1 = value := by
  have hbounded := bounded_over_runs h
  obtain ⟨-, hlength⟩ := hbounded.started c op hstart
  obtain ⟨-, hvalue⟩ := hbounded.returned c value hret
  rw [hlength, asInt_of_lt (by omega)] at hvalue
  rcases hvalue with rfl | ⟨hpos, hle⟩
  · exact ⟨.failed, fun _ => rfl⟩
  · -- any bytes of that number will do
    refine ⟨.got ⟨List.replicate value.toNat 0, ?_⟩, fun data => ?_⟩
    · rw [List.length_replicate]
      omega
    · rw [usbBulkRecv_got_fst, List.length_replicate]
      omega

theorem send_result [DecidableEq Call]
    {log : List (Entry (Action Call) (Usbfs Call) Unit)} {t : Usbfs Call}
    (h : Runs Usbfs.exec Usbfs.idle log t) {c : Call} {value : Int}
    (hret : .ret c value ∈ log.map Entry.call) : ∃ r : SendResult, r.value = value := by
  obtain ⟨-, rfl | ⟨hpos, -⟩⟩ := (bounded_over_runs h).returned c value hret
  · exact ⟨.failed, rfl⟩
  · exact ⟨.sent value.toNat, Int.toNat_of_nonneg hpos⟩

end Droidbox
