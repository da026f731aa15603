import Droidbox.Usb.Urb

/-!
# Droidbox — URBs that outlive their calls

`struct usbdevfs_urb` and, behind a receive, the buffer are on the stack of the caller. The kernel
writes to them when it completes the URB, whether or not the call still waits for it.

* `Usbfs.Abandons`: the call leaves `__usb_bulk_msg` while its own URB is pending.
* **`late_iff_abandoned`**: in every run, a URB completes behind its call exactly when the call
  abandoned it.
* **`sequential_runs`**: a program without threads has one call at a time, until a `REAPURB` fails.
-/

namespace Droidbox

open Session

variable {Call : Type} {d : Call} {s s' : Usbfs Call} {p p' : CallState} {a : Action Call}

/-! ## Leaving -/

/-- The call is behind `__usb_bulk_msg`. -/
def CallState.Left (p : CallState) : Prop :=
  p.control = .left 0 ∨ p.control = .left 1 ∨ p.control = .returned

/-- `c` leaves with an error of `REAPURB`, or with the URB of another call, while its own URB is
pending. -/
def Usbfs.Abandons (s : Usbfs Call) (c : Call) : Action Call → Prop
  | .reap b .error => b = c ∧ (s c).stage = .pending
  | .reap b (.ok u) => b = c ∧ u ≠ c ∧ (s c).stage = .pending
  | _ => False

/-- A URB is completed whose call does not wait any more. -/
def Usbfs.Late (s : Usbfs Call) (u : Call) : Action Call → Prop
  | .complete v _ _ => v = u ∧ (s u).Left
  | _ => False

/-! ## One step, seen from one call -/

theorem CallState.Left.ne {k : Control} (h : p.Left) (hk : k = .idle ∨ k = .submit ∨ k = .reap) :
    p.control ≠ k := by
  rintro rfl
  rcases h with h | h | h
  · simp [h] at hk
  · simp [h] at hk
  · simp [h] at hk

theorem CallState.Change.left_stays (h : CallState.Change d p a p') (hp : p.Left) : p'.Left := by
  cases h with
  | started op h => exact absurd h (hp.ne (.inl rfl))
  | submit_failed h => exact .inr (.inl rfl)
  | submitted h => exact absurd h (hp.ne (.inr (.inl rfl)))
  | reap_failed h => exact .inr (.inl rfl)
  | reaped h hc => exact .inl rfl
  | reaped_other u hne' h => exact .inl rfl
  | returned value h => exact .inr (.inr rfl)
  | kept => exact hp
  | completed status n h hpos hle => exact hp
  | reaped_by c hne' hc => exact hp

/-- In front of `SUBMITURB` there is no URB. -/
theorem CallState.Change.unsubmitted (h : CallState.Change d p a p')
    (hp : p.control = .submit → p.stage = .unsubmitted) :
    p'.control = .submit → p'.stage = .unsubmitted := by
  intro hcontrol
  cases h with
  | kept => exact hp hcontrol
  | started op h => rfl
  | completed status n h hpos hle =>
    rw [hp hcontrol] at h
    cases h
  | reaped_by c hne hc =>
    rw [hp hcontrol] at hc
    cases hc
  | submit_failed h => cases hcontrol
  | submitted h => cases hcontrol
  | reap_failed h => cases hcontrol
  | reaped h hc => cases hcontrol
  | reaped_other u hne h => cases hcontrol
  | returned value h => cases hcontrol

/-- **Where a pending URB without its call comes from.** -/
theorem Usbfs.Enabled.abandoned [DecidableEq Call] (hen : s.Enabled a)
    (hunsubmitted : (s d).control = .submit → (s d).stage = .unsubmitted)
    (hstage : (s.after a d).stage = .pending) (hleft : (s.after a d).Left) :
    (s d).stage = .pending ∧ (s d).Left ∨ s.Abandons d a := by
  have hchange := hen.change d
  generalize hq : s.after a d = q at hchange hstage hleft
  generalize hp : s d = p at hchange hunsubmitted ⊢
  cases hchange with
  | kept => exact .inl ⟨hstage, hleft⟩
  | started op h => cases hstage
  | submit_failed h =>
    rw [show p.stage = .unsubmitted from hunsubmitted h] at hstage
    cases hstage
  | submitted h => exact absurd rfl (hleft.ne (.inr (.inr rfl)))
  | completed status n h hpos hle => cases hstage
  | reap_failed h => exact .inr ⟨rfl, hp ▸ hstage⟩
  | reaped h hc => cases hstage
  | reaped_other u hne h => exact .inr ⟨rfl, hne, hp ▸ hstage⟩
  | reaped_by c hne hc => cases hstage
  | returned value h => exact .inl ⟨hstage, h.imp id .inl⟩

theorem Usbfs.Abandons.left [DecidableEq Call] (h : s.Abandons d a) : (s.after a d).Left := by
  unfold Usbfs.Abandons at h
  split at h
  · obtain ⟨rfl, -⟩ := h
    exact .inr (.inl (if_pos rfl))
  · obtain ⟨rfl, -⟩ := h
    exact .inl (if_pos rfl)
  · cases h

/-! ## Runs -/

/-- The log accounts for the pending URBs. -/
structure Tracked (log : List (Entry (Action Call) (Usbfs Call) Unit)) (s : Usbfs Call) : Prop where
  unsubmitted : ∀ c, (s c).control = .submit → (s c).stage = .unsubmitted
  left : ∀ c, ∀ e ∈ log, e.before.Abandons c e.call → (s c).Left
  pending : ∀ c, (s c).stage = .pending → (s c).Left → ∃ e ∈ log, e.before.Abandons c e.call

theorem tracked_idle : Tracked [] (Usbfs.idle : Usbfs Call) where
  unsubmitted _ h := by cases h
  left _ _ h := absurd h List.not_mem_nil
  pending _ h := by cases h

theorem Tracked.late_iff {log : List (Entry (Action Call) (Usbfs Call) Unit)}
    (hs : Tracked log s) {u : Call} {status actual_length : Int}
    (h : s.Enabled (.complete u status actual_length)) :
    s.Late u (.complete u status actual_length) ↔ ∃ e ∈ log, e.before.Abandons u e.call := by
  constructor
  · intro hlate
    exact hs.pending u h.1 hlate.2
  · rintro ⟨e, he, habandons⟩
    exact ⟨rfl, hs.left u e he habandons⟩

section
variable [DecidableEq Call] {log : List (Entry (Action Call) (Usbfs Call) Unit)} {t : Usbfs Call}

theorem Tracked.step (hs : Tracked log s) (hstep : s.step a = some s') :
    Tracked (log ++ [⟨a, s, (), s'⟩]) s' := by
  obtain ⟨h, rfl⟩ := Usbfs.step_eq_some.mp hstep
  constructor
  case unsubmitted =>
    intro c
    exact (h.change c).unsubmitted (hs.unsubmitted c)
  case left =>
    intro c e he habandons
    rcases List.mem_append.mp he with he | he
    · exact (h.change c).left_stays (hs.left c e he habandons)
    · obtain rfl := List.mem_singleton.mp he
      exact habandons.left
  case pending =>
    intro c hstage hleft
    rcases h.abandoned (hs.unsubmitted c) hstage hleft with ⟨hp, hl⟩ | habandons
    · obtain ⟨e, he, habandons⟩ := hs.pending c hp hl
      exact ⟨e, List.mem_append_left _ he, habandons⟩
    · exact ⟨_, List.mem_append_right _ (List.mem_singleton_self _), habandons⟩

theorem tracked_over_runs (h : Runs Usbfs.exec Usbfs.idle log t) : Tracked log t :=
  Runs.history (I := Tracked) (C := fun _ => True)
    (fun _ _ _ _ _ hs hexec _ => hs.step hexec) tracked_idle h (fun _ _ => trivial)

variable {past rest : List (Entry (Action Call) (Usbfs Call) Unit)}
  {e : Entry (Action Call) (Usbfs Call) Unit} {u : Call} {status actual_length : Int}

/-- **Late completions.** In every interleaving of any number of calls a URB completes behind its
call exactly when that call abandoned it before. -/
theorem late_iff_abandoned (h : Runs Usbfs.exec Usbfs.idle (past ++ e :: rest) t)
    (he : e.call = .complete u status actual_length) :
    e.before.Late u e.call ↔ ∃ e' ∈ past, e'.before.Abandons u e'.call := by
  obtain ⟨hpast, hexec⟩ := h.split
  obtain ⟨hen, -⟩ := Usbfs.step_eq_some.mp hexec
  rw [he] at hen ⊢
  exact (tracked_over_runs hpast).late_iff hen

/-- A send that reaps the URB of a receive, and whose own one completes behind it. -/
def overtaken : List (Action Nat) :=
  [.start 0 (.send 1 24), .start 1 (.recv 1 512), .submit 0 (.ok ()), .submit 1 (.ok ()),
    .complete 1 0 24, .reap 0 (.ok 1), .ret 0 0]

theorem late_of_overtaken :
    (overtaken.foldl Usbfs.after Usbfs.idle).Late 0 (.complete 0 0 24) := by
  have hcan : Usbfs.idle.CanRun (overtaken ++ [.complete 0 0 24]) := by decide
  have hruns : ∃ t, Runs Usbfs.exec Usbfs.idle (Usbfs.idle.log overtaken
      ++ ⟨.complete 0 0 24, overtaken.foldl Usbfs.after Usbfs.idle, (), t⟩ :: []) t :=
    ⟨_, Usbfs.runs_log hcan⟩
  obtain ⟨t, hruns⟩ := hruns
  have hreap := List.mem_of_getElem? (show (Usbfs.idle.log overtaken)[5]? = some _ from rfl)
  exact (late_iff_abandoned hruns rfl).mpr ⟨_, hreap, rfl, by decide, rfl⟩

end

/-! ## One thread

A program without threads starts a call when the one before it has returned. As long as `REAPURB`
does not fail, that is all it has to do. -/

def CallState.Active (p : CallState) : Prop := p.control ≠ .idle ∧ p.control ≠ .returned

/-- A call is only started when no other one is under way. -/
def Usbfs.Sequential (s : Usbfs Call) : Action Call → Prop
  | .start _ _ => ∀ d, ¬ (s d).Active
  | _ => True

/-- A call is under way while its URB is outstanding, and only one is. -/
structure OneThread (s : Usbfs Call) : Prop where
  one : ∀ c d, (s c).Active → (s d).Active → c = d
  reap : ∀ c, (s c).control = .reap ↔ (s c).Outstanding

theorem oneThread_idle : OneThread (Usbfs.idle : Usbfs Call) where
  one _ _ h := absurd rfl h.1
  reap c := iff_of_false nofun (by rintro (h | h) <;> cases h)

theorem OneThread.single (hs : OneThread s) : s.Single where
  waits c := (hs.reap c).mp
  unique c d hc hd := by
    have hreap := (hs.reap c).mpr hc
    have hreap' := (hs.reap d).mpr hd
    exact hs.one c d ⟨by rw [hreap]; decide, by rw [hreap]; decide⟩
      ⟨by rw [hreap']; decide, by rw [hreap']; decide⟩

theorem OneThread.exclusive (hs : OneThread s) (h : s.Enabled a) : s.Exclusive a := by
  cases a with
  | submit c res =>
    cases res with
    | ok _ =>
      intro d hd
      have hreap := (hs.reap d).mpr hd
      have hcd := hs.one c d ⟨by rw [show (s c).control = .submit from h]; decide,
        by rw [show (s c).control = .submit from h]; decide⟩
        ⟨by rw [hreap]; decide, by rw [hreap]; decide⟩
      subst hcd
      cases hreap.symm.trans h
    | _ => trivial
  | _ => trivial

theorem OneThread.not_late (hs : OneThread s) (h : s.Enabled a) (u : Call) : ¬ s.Late u a := by
  cases a with
  | complete v status n =>
    rintro ⟨rfl, hleft⟩
    exact hleft.ne (.inr (.inr rfl)) ((hs.reap v).mpr (.inl h.1))
  | _ => exact id

theorem CallState.Change.active (h : CallState.Change d p a p') (hp' : p'.Active) :
    p.Active ∨ ∃ op, a = .start d op := by
  cases h with
  | started op h => exact .inr ⟨op, rfl⟩
  | kept => exact .inl hp'
  | completed status n h hpos hle => exact .inl hp'
  | reaped_by c hne hc => exact .inl hp'
  | submit_failed h => exact .inl ⟨by rw [h]; decide, by rw [h]; decide⟩
  | submitted h => exact .inl ⟨by rw [h]; decide, by rw [h]; decide⟩
  | reap_failed h => exact .inl ⟨by rw [h]; decide, by rw [h]; decide⟩
  | reaped h hc => exact .inl ⟨by rw [h]; decide, by rw [h]; decide⟩
  | reaped_other u hne h => exact .inl ⟨by rw [h]; decide, by rw [h]; decide⟩
  | returned value h => exact absurd rfl hp'.2

theorem CallState.Change.reap_iff (h : CallState.Change d p a p')
    (hown : ∀ c u, a = .reap c (.ok u) → u = c) (herror : a ≠ .reap d .error)
    (hp : p.control = .reap ↔ p.Outstanding) : p'.control = .reap ↔ p'.Outstanding := by
  cases h with
  | kept => exact hp
  | started op h => exact iff_of_false nofun (by rintro (h | h) <;> cases h)
  | submit_failed h =>
    have hnone : ¬ p.Outstanding := fun ho => by cases h.symm.trans (hp.mpr ho)
    exact iff_of_false nofun hnone
  | submitted h => exact iff_of_true rfl (.inl rfl)
  | completed status n h hpos hle => exact iff_of_true (hp.mpr (.inl h)) (.inr rfl)
  | reap_failed h => exact absurd rfl herror
  | reaped h hc => exact iff_of_false nofun (by rintro (h | h) <;> cases h)
  | reaped_other u hne h => exact absurd (hown d u rfl) hne
  | reaped_by c hne hc => exact absurd (hown c d rfl).symm hne
  | returned value h =>
    have hnone : ¬ p.Outstanding := by
      intro ho
      have hreap := hp.mpr ho
      rcases h with h | h
      · cases h.symm.trans hreap
      · cases h.symm.trans hreap
    exact iff_of_false nofun hnone

section
variable [DecidableEq Call] {log : List (Entry (Action Call) (Usbfs Call) Unit)} {t : Usbfs Call}

theorem OneThread.step (hs : OneThread s) (hstep : s.step a = some s') (hseq : s.Sequential a)
    (herror : ∀ c, a ≠ .reap c .error) : OneThread s' := by
  obtain ⟨hen, rfl⟩ := Usbfs.step_eq_some.mp hstep
  have hown : ∀ c u, a = .reap c (.ok u) → u = c :=
    fun c u ha => (hs.single.undisturbed hen).own hen ha
  constructor
  case one =>
    intro c d hc hd
    rcases (hen.change c).active hc with hc' | ⟨op, rfl⟩
    · rcases (hen.change d).active hd with hd' | ⟨op, rfl⟩
      · exact hs.one c d hc' hd'
      · exact absurd hc' (hseq c)
    · rcases (hen.change d).active hd with hd' | ⟨op', hd'⟩
      · exact absurd hd' (hseq d)
      · exact (Action.start.inj hd').1
  case reap =>
    intro c
    exact (hen.change c).reap_iff hown (herror c) (hs.reap c)

/-- **One thread is enough.** In every run of a program that starts its calls one after the other,
and in which no `REAPURB` fails, whatever the kernel does each call reports its own URB, and no URB
completes behind its call. -/
theorem sequential_runs (h : Runs Usbfs.exec Usbfs.idle log t)
    (hseq : ∀ e ∈ log, e.before.Sequential e.call)
    (herror : ∀ e ∈ log, ∀ c, e.call ≠ .reap c .error) :
    ReportsOwn (log.map Entry.call) ∧ ∀ e ∈ log, ∀ u, ¬ e.before.Late u e.call := by
  have hrun := Runs.history
    (I := fun log s => OneThread s
      ∧ ∀ e ∈ log, e.before.Exclusive e.call ∧ ∀ u, ¬ e.before.Late u e.call)
    (C := fun e => e.before.Sequential e.call ∧ ∀ c, e.call ≠ .reap c .error)
    (fun log a s _ s' ⟨hs, hlog⟩ hexec ⟨hseq, herror⟩ => by
      have hen := (Usbfs.step_eq_some.mp hexec).1
      refine ⟨hs.step hexec hseq herror, fun e he => ?_⟩
      rcases List.mem_append.mp he with he | he
      · exact hlog e he
      · obtain rfl := List.mem_singleton.mp he
        exact ⟨hs.exclusive hen, hs.not_late hen⟩)
    ⟨oneThread_idle, fun e he => absurd he List.not_mem_nil⟩ h
    (fun e he => ⟨hseq e he, herror e he⟩)
  exact ⟨reports_own_of_exclusive h fun e he => (hrun.2 e he).1, fun e he => (hrun.2 e he).2⟩

/-- A send and a receive behind it. -/
def inTurn : List (Action Nat) :=
  [.start 0 (.send 1 24), .submit 0 (.ok ()), .complete 0 0 24, .reap 0 .eintr, .reap 0 (.ok 0),
    .ret 0 24, .start 1 (.recv 1 512), .submit 1 (.ok ()), .complete 1 0 24, .reap 1 (.ok 1),
    .ret 1 24]

theorem sequential_runs_inTurn : ReportsOwn ((Usbfs.idle.log inTurn).map Entry.call) := by
  have hseq : ∀ e ∈ Usbfs.idle.log inTurn, e.before.Sequential e.call := by
    simp only [inTurn, Usbfs.log, List.forall_mem_cons]
    refine ⟨fun d h => h.1 rfl, trivial, trivial, trivial, trivial, trivial, fun d h => ?_, trivial,
      trivial, trivial, trivial, by simp⟩
    -- the first call has returned, and no other one was started
    by_cases hd : d = 0
    · subst hd
      exact h.2 rfl
    · simp [CallState.Active, Usbfs.after, CallState.after, Usbfs.idle, hd, Ne.symm hd] at h
  have herror : ∀ e ∈ Usbfs.idle.log inTurn, ∀ c, e.call ≠ .reap c .error := by
    intro e he c hc
    have hmem := List.mem_map_of_mem (f := Entry.call) he
    rw [Usbfs.log_calls, hc] at hmem
    simp [inTurn] at hmem
  exact (sequential_runs (Usbfs.runs_log (by decide)) hseq herror).1

end

end Droidbox
