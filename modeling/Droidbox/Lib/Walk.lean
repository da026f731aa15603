import Mathlib.Logic.Relation
import Droidbox.Lib.Scripted

/-!
# Loops that run on their own state

A loop without input is a state machine that each round either goes on in a new state or leaves
with a result. It may run forever, so its runs are relations: `Reaches round s t` for the states
it passes through, `Leaves round s visited r` for a run that ends, with the states in which a
round was executed.

* **`Reaches.invariant`**: what every round preserves holds of every state reached.
* **`exists_leaves`**: a loop with a decreasing measure leaves.
* **`not_leaves_of_invariant`**, **`exists_reaches_of_counts`**: a loop whose rounds all go on from
  an invariant does not leave, and counts without a bound.
* **`Reaches.not_leaves`**: nor does a loop that reaches a fixed point.
* **`exists_run_iff`**: the executable `run` finds the result of every loop that leaves.
* **`returns_inner_iff`**: a loop inside another one is left before that one goes on.
* **`run_noted`**: a loop may keep a note of what it does.
* **`recorded_again_iff`**: it may also do something beside its state that can go wrong.
-/

namespace Walk

open Scripted (Round)

variable {σ ρ : Type*} {round : σ → Round σ ρ}

/-- The loop goes from `s` to `t` in any number of rounds. -/
def Reaches (round : σ → Round σ ρ) : σ → σ → Prop :=
  Relation.ReflTransGen fun s t => round s = .again t

/-- From `s` the loop executes a round in each state of `visited` and leaves with `r`. -/
inductive Leaves (round : σ → Round σ ρ) : σ → List σ → ρ → Prop
  | leave {s : σ} {r : ρ} (h : round s = .leave r) : Leaves round s [] r
  | again {s t : σ} {visited : List σ} {r : ρ} (h : round s = .again t)
      (rest : Leaves round t visited r) : Leaves round s (s :: visited) r

theorem Reaches.refl (round : σ → Round σ ρ) (s : σ) : Reaches round s s :=
  Relation.ReflTransGen.refl

theorem Reaches.tail {s t u : σ} (h : Reaches round s t) (hstep : round t = .again u) :
    Reaches round s u :=
  Relation.ReflTransGen.tail h hstep

/-- **The invariant rule.** -/
theorem Reaches.invariant {I : σ → Prop} {s t : σ} (h : Reaches round s t)
    (hround : ∀ s t, I s → round s = .again t → I t) (hs : I s) : I t := by
  induction h with
  | refl => exact hs
  | tail _ hstep ih => exact hround _ _ ih hstep

/-! ## Leaving -/

/-- From each state it reaches, a loop leaves as it does from the first. -/
theorem Reaches.leaves {s t : σ} {visited : List σ} {r : ρ} (h : Reaches round s t)
    (hs : Leaves round s visited r) : ∃ visited', Leaves round t visited' r := by
  induction h with
  | refl => exact ⟨visited, hs⟩
  | tail _ hstep ih =>
    obtain ⟨visited', ht⟩ := ih
    cases ht with
    | leave hround =>
      rw [hstep] at hround
      cases hround
    | again hround rest =>
      rw [hstep] at hround
      cases hround
      exact ⟨_, rest⟩

/-- **No way out of an invariant** from which every round goes on. Induction on the run that would
leave. -/
theorem not_leaves_of_invariant {I : σ → Prop} (hround : ∀ s, I s → ∃ t, round s = .again t ∧ I t)
    {s : σ} (hs : I s) (visited : List σ) (r : ρ) : ¬ Leaves round s visited r := by
  intro h
  induction h with
  | leave hleave =>
    obtain ⟨t, hagain, -⟩ := hround _ hs
    rw [hleave] at hagain
    cases hagain
  | again hstep _ ih =>
    obtain ⟨t, hagain, ht⟩ := hround _ hs
    rw [hstep] at hagain
    cases hagain
    exact ih ht

/-- A fixed point is an invariant of its own. -/
theorem not_leaves_of_fixed {s : σ} (hfix : round s = .again s) (visited : List σ) (r : ρ) :
    ¬ Leaves round s visited r := by
  refine not_leaves_of_invariant (fun t (ht : t = s) => ?_) rfl visited r
  rw [ht]
  exact ⟨s, hfix, rfl⟩

/-- Where every round from an invariant adds one to a counter, the counter has no bound. -/
theorem exists_reaches_of_counts {I : σ → Prop} (count : σ → Nat)
    (hround : ∀ s, I s → ∃ t, round s = .again t ∧ I t ∧ count t = count s + 1) {s : σ} (hs : I s)
    (n : Nat) : ∃ t, Reaches round s t ∧ I t ∧ count t = count s + n := by
  induction n with
  | zero => exact ⟨s, .refl round s, hs, rfl⟩
  | succ n ih =>
    obtain ⟨t, ht, hI, hcount⟩ := ih
    obtain ⟨u, hu, hIu, hcountu⟩ := hround t hI
    exact ⟨u, ht.tail hu, hIu, by rw [hcountu, hcount, Nat.add_assoc]⟩

theorem Reaches.not_leaves {s t : σ} (h : Reaches round s t) (hfix : round t = .again t)
    (visited : List σ) (r : ρ) : ¬ Leaves round s visited r := by
  intro hs
  obtain ⟨visited', ht⟩ := h.leaves hs
  exact not_leaves_of_fixed hfix visited' r ht

/-- **A loop with a decreasing measure leaves.** Induction on the measure. -/
theorem exists_leaves {I : σ → Prop} (μ : σ → Nat)
    (hround : ∀ s t, I s → round s = .again t → I t ∧ μ t < μ s) {s : σ} (hs : I s) :
    ∃ visited r, Leaves round s visited r := by
  induction hμ : μ s using Nat.strongRecOn generalizing s with
  | ind n ih =>
    cases hr : round s with
    | leave r => exact ⟨[], r, .leave hr⟩
    | again t =>
      obtain ⟨ht, hlt⟩ := hround s t hs hr
      obtain ⟨visited, r, hrest⟩ := ih (μ t) (hμ ▸ hlt) ht rfl
      exact ⟨s :: visited, r, .again hr hrest⟩

/-! ## Running a loop -/

/-- At most `fuel` rounds of a loop: the result if it leaves within them. -/
def run (round : σ → Round σ ρ) : Nat → σ → Option ρ
  | 0, _ => none
  | fuel + 1, s =>
    match round s with
    | .again t => run round fuel t
    | .leave r => some r

theorem run_again {s t : σ} (h : round s = .again t) (fuel : Nat) :
    run round (fuel + 1) s = run round fuel t := by
  simp [run, h]

theorem run_leave {s : σ} {r : ρ} (h : round s = .leave r) (fuel : Nat) :
    run round (fuel + 1) s = some r := by
  simp [run, h]

/-- A loop has one result, however many rounds it is given. -/
theorem run_unique {n m : Nat} {s : σ} {r r' : ρ} (h : run round n s = some r)
    (h' : run round m s = some r') : r = r' := by
  induction n generalizing m s with
  | zero => cases h
  | succ n ih =>
    cases m with
    | zero => cases h'
    | succ m =>
      cases hround : round s with
      | again t =>
        rw [run_again hround] at h h'
        exact ih h h'
      | leave r'' =>
        rw [run_leave hround] at h h'
        exact Option.some.inj (h.symm.trans h')

/-- **A loop with enough rounds leaves in the state it reaches last.** -/
theorem exists_run_iff {s : σ} {r : ρ} :
    (∃ fuel, run round fuel s = some r) ↔ ∃ t, Reaches round s t ∧ round t = .leave r := by
  constructor
  · rintro ⟨fuel, h⟩
    induction fuel generalizing s with
    | zero => cases h
    | succ fuel ih =>
      cases hround : round s with
      | again t =>
        rw [run_again hround] at h
        obtain ⟨u, hu, hleave⟩ := ih h
        exact ⟨u, Relation.ReflTransGen.head hround hu, hleave⟩
      | leave r' =>
        rw [run_leave hround] at h
        cases h
        exact ⟨s, .refl _ s, hround⟩
  · rintro ⟨t, ht, hleave⟩
    -- the rounds in front of the last one, from the back
    induction ht using Relation.ReflTransGen.head_induction_on with
    | refl => exact ⟨1, run_leave hleave 0⟩
    | head hround _ ih =>
      obtain ⟨fuel, h⟩ := ih
      exact ⟨fuel + 1, (run_again hround fuel).trans h⟩

/-! ## Returning

What a program returns, from any of its states. A program whose rounds are those of a loop for some
time returns what it returns from where that loop leaves. -/

/-- From `s` the loop leaves with `r`, given enough rounds. -/
def Returns (round : σ → Round σ ρ) (s : σ) (r : ρ) : Prop := ∃ fuel, run round fuel s = some r

theorem Returns.unique {s : σ} {r r' : ρ} (h : Returns round s r) (h' : Returns round s r') :
    r = r' := by
  obtain ⟨n, hn⟩ := h
  obtain ⟨m, hm⟩ := h'
  exact run_unique hn hm

theorem returns_again_iff {s t : σ} {r : ρ} (h : round s = .again t) :
    Returns round s r ↔ Returns round t r := by
  constructor
  · rintro ⟨fuel, hrun⟩
    cases fuel with
    | zero => cases hrun
    | succ fuel => exact ⟨fuel, (run_again h fuel).symm.trans hrun⟩
  · rintro ⟨fuel, hrun⟩
    exact ⟨fuel + 1, (run_again h fuel).trans hrun⟩

theorem returns_leave_iff {s : σ} {r r' : ρ} (h : round s = .leave r) :
    Returns round s r' ↔ r' = r := by
  constructor
  · intro h'
    exact h'.unique ⟨1, run_leave h 0⟩
  · rintro rfl
    exact ⟨1, run_leave h 0⟩

theorem Reaches.returns_iff {s t : σ} {r : ρ} (h : Reaches round s t) :
    Returns round s r ↔ Returns round t r := by
  induction h with
  | refl => exact Iff.rfl
  | tail _ hround ih => exact ih.trans (returns_again_iff hround)

section
variable {τ υ : Type*} {inner : τ → Round τ υ} {f : τ → σ}

theorem Reaches.map {t u : τ} (hagain : ∀ t u, inner t = .again u → round (f t) = .again (f u))
    (h : Reaches inner t u) : Reaches round (f t) (f u) := by
  induction h with
  | refl => exact .refl _ _
  | tail _ hinner ih => exact ih.tail (hagain _ _ hinner)

/-- **A loop inside another one.** Induction on the rounds until the outer one leaves. -/
theorem returns_inner_iff (hagain : ∀ t u, inner t = .again u → round (f t) = .again (f u)) {t : τ}
    {r : ρ} :
    Returns round (f t) r
      ↔ ∃ u x, Reaches inner t u ∧ inner u = .leave x ∧ Returns round (f u) r := by
  constructor
  · rintro ⟨fuel, hrun⟩
    induction fuel generalizing t with
    | zero => cases hrun
    | succ fuel ih =>
      cases hinner : inner t with
      | again u =>
        rw [run_again (hagain t u hinner)] at hrun
        obtain ⟨v, x, hv, hleave, hreturns⟩ := ih hrun
        exact ⟨v, x, Relation.ReflTransGen.head hinner hv, hleave, hreturns⟩
      | leave x => exact ⟨t, x, .refl _ t, hinner, fuel + 1, hrun⟩
  · rintro ⟨u, x, hu, -, hreturns⟩
    exact (hu.map hagain).returns_iff.mpr hreturns

end

/-! ## Keeping notes

A loop that keeps a note of what its rounds do beside its state, without looking at it. -/

/-- The loop with a note, which is brought up to date in each round that goes on. -/
def noted {κ : Type*} (round : σ → Round σ ρ) (note : σ → κ → κ) (p : σ × κ) :
    Round (σ × κ) (ρ × κ) :=
  match round p.1 with
  | .again t => .again (t, note p.1 p.2)
  | .leave r => .leave (r, p.2)

section
variable {κ : Type*} {note : σ → κ → κ}

theorem noted_again_iff {p q : σ × κ} :
    noted round note p = .again q ↔ round p.1 = .again q.1 ∧ q.2 = note p.1 p.2 := by
  unfold noted
  cases round p.1 with
  | leave r => simp
  | again t =>
    rw [Round.again.injEq, Round.again.injEq, Prod.ext_iff]
    exact and_congr_right' eq_comm

theorem noted_leave_iff {p : σ × κ} {r : ρ × κ} :
    noted round note p = .leave r ↔ round p.1 = .leave r.1 ∧ r.2 = p.2 := by
  unfold noted
  cases round p.1 with
  | again t => simp
  | leave r' =>
    rw [Round.leave.injEq, Round.leave.injEq, Prod.ext_iff]
    exact and_congr_right' eq_comm

theorem Reaches.of_noted {p q : σ × κ} (h : Reaches (noted round note) p q) :
    Reaches round p.1 q.1 := by
  induction h with
  | refl => exact .refl _ _
  | tail _ hround ih => exact ih.tail (noted_again_iff.mp hround).1

theorem Reaches.noted {s t : σ} (h : Reaches round s t) (note : σ → κ → κ) (k : κ) :
    ∃ k', Reaches (noted round note) (s, k) (t, k') := by
  induction h with
  | refl => exact ⟨k, .refl _ _⟩
  | tail _ hround ih =>
    obtain ⟨k', hk'⟩ := ih
    exact ⟨_, hk'.tail (noted_again_iff.mpr ⟨hround, rfl⟩)⟩

/-- **Notes do not change a loop.** -/
theorem run_noted (note : σ → κ → κ) (fuel : Nat) (s : σ) (k : κ) :
    (run (noted round note) fuel (s, k)).map Prod.fst = run round fuel s := by
  induction fuel generalizing s k with
  | zero => rfl
  | succ fuel ih =>
    cases hround : round s with
    | again t =>
      have hnoted : noted round note (s, k) = .again (t, note s k) :=
        noted_again_iff.mpr ⟨hround, rfl⟩
      rw [run_again hnoted, run_again hround]
      exact ih t _
    | leave r =>
      have hnoted : noted round note (s, k) = .leave (r, k) := noted_leave_iff.mpr ⟨hround, rfl⟩
      rw [run_leave hnoted, run_leave hround]
      rfl

end

/-! ## Notes that may fail

A loop whose rounds do something beside its state that can go wrong. -/

/-- The loop with a note, which leaves with an error in the first round that cannot be noted. -/
def recorded {κ φ : Type*} (round : σ → Round σ ρ) (note : σ → κ → Except φ κ) (p : σ × κ) :
    Round (σ × κ) (Except φ (ρ × κ)) :=
  match round p.1 with
  | .again t =>
    match note p.1 p.2 with
    | .ok k => .again (t, k)
    | .error f => .leave (.error f)
  | .leave r => .leave (.ok (r, p.2))

section
variable {κ φ : Type*} {note : σ → κ → Except φ κ}

theorem recorded_again_iff {p q : σ × κ} :
    recorded round note p = .again q ↔ round p.1 = .again q.1 ∧ note p.1 p.2 = .ok q.2 := by
  unfold recorded
  cases round p.1 with
  | leave r => simp
  | again t =>
    cases note p.1 p.2 with
    | error f => simp
    | ok k =>
      rw [Round.again.injEq, Round.again.injEq, Except.ok.injEq]
      exact Prod.ext_iff

theorem recorded_leave_iff {p : σ × κ} {r : ρ × κ} :
    recorded round note p = .leave (.ok r) ↔ round p.1 = .leave r.1 ∧ r.2 = p.2 := by
  unfold recorded
  cases round p.1 with
  | again t => cases note p.1 p.2 <;> simp
  | leave r' =>
    rw [Round.leave.injEq, Round.leave.injEq, Except.ok.injEq, Prod.ext_iff]
    exact and_congr_right' eq_comm

end

end Walk
