import Mathlib.Data.List.Basic
import Mathlib.Data.List.Forall2

/-!
# Loops driven by a script of inputs

A loop that blocks for one input per round is a state machine over the sequence of inputs it is
given. `drive round s is` runs it on a finite script: either the loop leaves with a result and
the inputs it did not consume (`left`), or the script ends with the loop still waiting
(`starved`). The recursion is on the script, so the loop is total whatever its exit condition.

* **`drive_append`**: a script can be cut anywhere.
* **`drive_left_iff`**: a loop that leaves consumed a prefix of its script, went on after every
  input of it but the last, and left on the last.
* **`drive_invariant`** / **`drive_left_spec`**: the invariant rule, for loops still waiting and
  for loops that left.
* **`drive_related`**: two loops that do the same round by round do the same.
* **`drive_follows`**: a loop with limits follows the loop it implements until that one passes
  the limits.
-/

namespace Scripted

variable {σ τ ι κ ρ υ : Type*}

/-- What one round does with its input: go on in a new state, or leave with a result. -/
inductive Round (σ ρ : Type*) where
  | again (s : σ)
  | leave (r : ρ)

/-- What a script does to a loop: it runs out with the loop waiting in state `s`, or the loop
leaves with `r` and the inputs `rest` are not consumed. -/
inductive Outcome (σ ι ρ : Type*) where
  | starved (s : σ)
  | left (r : ρ) (rest : List ι)

def drive (round : σ → ι → Round σ ρ) : σ → List ι → Outcome σ ι ρ
  | s, [] => .starved s
  | s, i :: is =>
    match round s i with
    | .again s' => drive round s' is
    | .leave r => .left r is

variable {round : σ → ι → Round σ ρ}

theorem drive_cons_again {s s' : σ} {i : ι} (h : round s i = .again s') (is : List ι) :
    drive round s (i :: is) = drive round s' is := by
  simp [drive, h]

theorem drive_cons_leave {s : σ} {i : ι} {r : ρ} (h : round s i = .leave r) (is : List ι) :
    drive round s (i :: is) = .left r is := by
  simp [drive, h]

/-! ## Cutting a script -/

/-- The rest of a script, for a loop that may already have left. -/
def Outcome.resume (round : σ → ι → Round σ ρ) (is : List ι) : Outcome σ ι ρ → Outcome σ ι ρ
  | .starved s => drive round s is
  | .left r rest => .left r (rest ++ is)

/-- **A script can be cut anywhere.** Induction on the part before the cut. -/
theorem drive_append (s : σ) (is js : List ι) :
    drive round s (is ++ js) = (drive round s is).resume round js := by
  induction is generalizing s with
  | nil => rfl
  | cons i is ih =>
    cases h : round s i with
    | again s' =>
      rw [List.cons_append, drive_cons_again h, drive_cons_again h]
      exact ih s'
    | leave r =>
      rw [List.cons_append, drive_cons_leave h, drive_cons_leave h]
      rfl

theorem drive_append_starved {s s' : σ} {is : List ι} (h : drive round s is = .starved s')
    (js : List ι) : drive round s (is ++ js) = drive round s' js := by
  rw [drive_append, h]
  rfl

/-- **Where a loop leaves.** The inputs consumed are a prefix `used ++ [i]` of the script; the
loop goes on through `used` and leaves on `i`. -/
theorem drive_left_iff {s : σ} {script rest : List ι} {r : ρ} :
    drive round s script = .left r rest ↔
      ∃ used i s', script = used ++ i :: rest ∧ drive round s used = .starved s'
        ∧ round s' i = .leave r := by
  constructor
  · intro h
    induction script generalizing s with
    | nil => cases h
    | cons j js ih =>
      cases hj : round s j with
      | again s₁ =>
        -- `j` was consumed and the loop is still waiting: it leaves further on
        rw [drive_cons_again hj] at h
        obtain ⟨used, i, s', rfl, hused, hi⟩ := ih h
        exact ⟨j :: used, i, s', rfl, by rw [drive_cons_again hj, hused], hi⟩
      | leave q =>
        rw [drive_cons_leave hj] at h
        cases h
        exact ⟨[], j, s, rfl, rfl, hj⟩
  · rintro ⟨used, i, s', rfl, hused, hi⟩
    rw [drive_append_starved hused, drive_cons_leave hi]

/-! ## The invariant rule -/

/-- An invariant of every round that goes on holds as long as the loop waits. -/
theorem drive_invariant {I : σ → Prop}
    (hround : ∀ s i s', I s → round s i = .again s' → I s')
    {s s' : σ} {is : List ι} (hs : I s) (h : drive round s is = .starved s') : I s' := by
  induction is generalizing s with
  | nil => cases h; exact hs
  | cons i is ih =>
    cases hi : round s i with
    | again s₁ =>
      rw [drive_cons_again hi] at h
      exact ih (hround s i s₁ hs hi) h
    | leave r =>
      rw [drive_cons_leave hi] at h
      cases h

/-- What holds whenever a round leaves from a state of the invariant holds of the loop. -/
theorem drive_left_spec {I : σ → Prop} {Q : ρ → Prop}
    (hround : ∀ s i s', I s → round s i = .again s' → I s')
    (hleave : ∀ s i r, I s → round s i = .leave r → Q r)
    {s : σ} {is rest : List ι} {r : ρ} (hs : I s) (h : drive round s is = .left r rest) :
    Q r := by
  obtain ⟨used, i, s', -, hused, hi⟩ := drive_left_iff.mp h
  exact hleave s' i r (drive_invariant hround hs hused) hi

/-! ## Two loops beside each other -/

/-- Rounds that both go on, in related states, or both leave, with related results. -/
inductive Round.Related (R : σ → τ → Prop) (Q : ρ → υ → Prop) : Round σ ρ → Round τ υ → Prop
  | again {s : σ} {t : τ} (h : R s t) : Related R Q (.again s) (.again t)
  | leave {r : ρ} {u : υ} (h : Q r u) : Related R Q (.leave r) (.leave u)

/-- Loops that both wait, or both left with the inputs behind related as well. -/
inductive Outcome.Related (R : σ → τ → Prop) (Q : ρ → υ → Prop) (S : ι → κ → Prop) :
    Outcome σ ι ρ → Outcome τ κ υ → Prop
  | starved {s : σ} {t : τ} (h : R s t) : Related R Q S (.starved s) (.starved t)
  | left {r : ρ} {u : υ} {is : List ι} {js : List κ} (h : Q r u) (hrest : List.Forall₂ S is js) :
      Related R Q S (.left r is) (.left u js)

/-- **Two loops** whose rounds on related inputs are related do the same on related scripts. -/
theorem drive_related {R : σ → τ → Prop} {Q : ρ → υ → Prop} {S : ι → κ → Prop}
    {round : σ → ι → Round σ ρ} {round' : τ → κ → Round τ υ}
    (hround : ∀ s t i j, R s t → S i j → (round s i).Related R Q (round' t j))
    {s : σ} {t : τ} (h : R s t) {is : List ι} {js : List κ} (hscript : List.Forall₂ S is js) :
    (drive round s is).Related R Q S (drive round' t js) := by
  induction hscript generalizing s t with
  | nil => exact .starved h
  | @cons i j is js hij hrest ih =>
    have hi := hround s t i j h hij
    generalize hs : round s i = x at hi
    generalize ht : round' t j = y at hi
    cases hi with
    | again h' =>
      rw [drive_cons_again hs, drive_cons_again ht]
      exact ih h'
    | leave h' =>
      rw [drive_cons_leave hs, drive_cons_leave ht]
      exact .left h' hrest

/-! ## A loop with limits and the loop it implements -/

/-- One round of a limited loop beside one round of the loop it implements: both go on in
related states, both leave with related results, or the limited loop breaks off with a result
of `B` because the other one went on to a state beyond the limits. -/
inductive Round.Follows (R : σ → τ → Prop) (Q : ρ → υ → Prop) (B : ρ → Prop) (Beyond : τ → Prop) :
    Round σ ρ → Round τ υ → Prop
  | again {s : σ} {t : τ} (h : R s t) : Follows R Q B Beyond (.again s) (.again t)
  | leave {r : ρ} {u : υ} (h : Q r u) : Follows R Q B Beyond (.leave r) (.leave u)
  | broke {r : ρ} {t : τ} (h : B r) (ht : Beyond t) : Follows R Q B Beyond (.leave r) (.again t)

/-- What becomes of a limited loop on a script, beside the loop it implements. -/
inductive Follows (R : σ → τ → Prop) (Q : ρ → υ → Prop) (B : ρ → Prop) (Beyond : τ → Prop)
    (f : ι → κ) (round : σ → κ → Round σ ρ) (round' : τ → ι → Round τ υ) (s : σ) (t : τ)
    (script : List ι) : Prop
  | starved {s' : σ} {t' : τ} (h : R s' t') (hs : drive round s (script.map f) = .starved s')
      (ht : drive round' t script = .starved t')
  | left {r : ρ} {u : υ} (rest : List ι) (h : Q r u)
      (hs : drive round s (script.map f) = .left r (rest.map f))
      (ht : drive round' t script = .left u rest)
  | broke {r : ρ} {t' : τ} (used rest : List ι) (h : B r) (hscript : script = used ++ rest)
      (hs : drive round s (script.map f) = .left r (rest.map f))
      (ht : drive round' t used = .starved t') (hbeyond : Beyond t')

/-- **A limited loop follows the loop it implements** until that one passes the limits, if it
does so round by round. Induction on the script. -/
theorem drive_follows {R : σ → τ → Prop} {Q : ρ → υ → Prop} {B : ρ → Prop} {Beyond : τ → Prop}
    {f : ι → κ} {round : σ → κ → Round σ ρ} {round' : τ → ι → Round τ υ}
    (hround : ∀ s t i, R s t → (round s (f i)).Follows R Q B Beyond (round' t i))
    {s : σ} {t : τ} (h : R s t) (script : List ι) :
    Follows R Q B Beyond f round round' s t script := by
  induction script generalizing s t with
  | nil => exact .starved h rfl rfl
  | cons i is ih =>
    have hi := hround s t i h
    generalize hs : round s (f i) = x at hi
    generalize ht : round' t i = y at hi
    cases hi with
    | again h' =>
      -- both went on, so what becomes of them is decided on the rest of the script
      cases ih h' with
      | starved h hs' ht' =>
        refine .starved h ?_ ?_
        · rw [List.map_cons, drive_cons_again hs, hs']
        · rw [drive_cons_again ht, ht']
      | left rest h hs' ht' =>
        refine .left rest h ?_ ?_
        · rw [List.map_cons, drive_cons_again hs, hs']
        · rw [drive_cons_again ht, ht']
      | broke used rest h hscript hs' ht' hbeyond =>
        refine .broke (i :: used) rest h (by rw [hscript]; rfl) ?_ ?_ hbeyond
        · rw [List.map_cons, drive_cons_again hs, hs']
        · rw [drive_cons_again ht, ht']
    | leave h' =>
      refine .left is h' ?_ ?_
      · rw [List.map_cons, drive_cons_leave hs]
      · rw [drive_cons_leave ht]
    | broke h' hbeyond =>
      -- the limited loop stops here; the other one is beyond the limits after `i`
      refine .broke [i] is h' rfl ?_ ?_ hbeyond
      · rw [List.map_cons, drive_cons_leave hs]
      · rw [drive_cons_again ht]
        rfl

end Scripted
