import Mathlib.Data.List.Basic

/-!
# Runs of calls over a shared state

A session executes calls one after another on a state they share. `Runs exec s log t` says that
the calls logged in `log` take the state from `s` to `t`; every entry keeps the state before and
after its call, so a property of one call in its context is a property of its entry.

* **`Runs.forall_entry`**: what holds of every call made from a state of an invariant holds of
  every entry of every run.
* **`Runs.history`**: the same for an invariant that relates the state to the calls made so far.
* **`Runs.split`**: every entry of a run stands behind the run of the calls before it.
* **`exists_runs`**: if each planned call can be executed and leaves the state ready for the
  calls after it, the whole plan is a run.
* **`Runs.unique`**: deterministic calls make one run.
* **`Runs.related`**, **`answers_related`**: two runs from related states.
* **`Refines.runs_iff`**: calls that refine a machine make the runs of that machine.
* **`Spells.iff_same`**: what calls leave behind tells which calls they were, if no call leaves
  behind the beginning of what another one does.
-/

namespace Session

variable {κ σ τ ρ : Type*}

/-- One call of a run: the call, the state it found, its result, the state it left. -/
structure Entry (κ σ ρ : Type*) where
  call : κ
  before : σ
  result : ρ
  after : σ

/-- From `s`, the calls of `log` were executed in order and ended in `t`. -/
inductive Runs (exec : κ → σ → ρ → σ → Prop) : σ → List (Entry κ σ ρ) → σ → Prop
  | nil (s : σ) : Runs exec s [] s
  | cons {k : κ} {s s' t : σ} {r : ρ} {log : List (Entry κ σ ρ)}
      (head : exec k s r s') (rest : Runs exec s' log t) :
      Runs exec s (⟨k, s, r, s'⟩ :: log) t

variable {exec : κ → σ → ρ → σ → Prop}

theorem Runs.snoc {s t u : σ} {log : List (Entry κ σ ρ)} {k : κ} {r : ρ} (h : Runs exec s log t)
    (hlast : exec k t r u) : Runs exec s (log ++ [⟨k, t, r, u⟩]) u := by
  induction h with
  | nil s => exact .cons hlast (.nil u)
  | cons head rest ih => exact .cons head (ih hlast)

/-- **Safety over runs.** Induction on the run, with the invariant carried by its states. -/
theorem Runs.forall_entry {I : σ → Prop} {P : Entry κ σ ρ → Prop}
    (hstep : ∀ k s r s', I s → exec k s r s' → P ⟨k, s, r, s'⟩ ∧ I s')
    {s t : σ} {log : List (Entry κ σ ρ)} (hs : I s) (h : Runs exec s log t) :
    ∀ e ∈ log, P e := by
  induction h with
  | nil s => intro e he; cases he
  | cons head rest ih =>
    obtain ⟨hP, hI⟩ := hstep _ _ _ _ hs head
    intro e he
    rcases List.mem_cons.mp he with rfl | he
    · exact hP
    · exact ih hI e he

/-- **History over runs.** The invariant `I log s` relates a state to the log that led to it; a
step may use that its own entry meets the condition `C`. -/
theorem Runs.history {I : List (Entry κ σ ρ) → σ → Prop} {C : Entry κ σ ρ → Prop}
    (hstep : ∀ log k s r s', I log s → exec k s r s' → C ⟨k, s, r, s'⟩ →
      I (log ++ [⟨k, s, r, s'⟩]) s')
    {s t : σ} {log : List (Entry κ σ ρ)} (hs : I [] s) (h : Runs exec s log t)
    (hC : ∀ e ∈ log, C e) : I log t := by
  -- the run goes on behind a log that is already there
  suffices hfrom : ∀ past, I past s → I (past ++ log) t from hfrom [] hs
  clear hs
  induction h with
  | nil s =>
    intro past hpast
    rwa [List.append_nil]
  | cons head rest ih =>
    intro past hpast
    have hnext := hstep past _ _ _ _ hpast head (hC _ List.mem_cons_self)
    have hrest := ih (fun e he => hC e (List.mem_cons_of_mem _ he)) _ hnext
    rwa [List.append_assoc] at hrest

/-- A run up to one of its entries, and that entry. -/
theorem Runs.split {s t : σ} {past rest : List (Entry κ σ ρ)} {e : Entry κ σ ρ}
    (h : Runs exec s (past ++ e :: rest) t) :
    Runs exec s past e.before ∧ exec e.call e.before e.result e.after := by
  induction past generalizing s with
  | nil =>
    cases h with
    | cons head _ => exact ⟨.nil _, head⟩
  | cons f past ih =>
    cases h with
    | cons head hrest =>
      obtain ⟨hpast, he⟩ := ih hrest
      exact ⟨.cons head hpast, he⟩

/-- A run of a call and others behind it. -/
theorem Runs.of_map_cons {s t : σ} {log : List (Entry κ σ ρ)} {k : κ} {ks : List κ}
    (h : Runs exec s log t) (hcalls : log.map Entry.call = k :: ks) :
    ∃ r u rest, exec k s r u ∧ Runs exec u rest t ∧ rest.map Entry.call = ks := by
  cases h with
  | nil => cases hcalls
  | cons head hrest =>
    obtain ⟨rfl, hks⟩ := List.cons.inj hcalls
    exact ⟨_, _, _, head, hrest, hks⟩

/-- **Progress over runs.** `Ready ks s` says the calls `ks` still to come can start in `s`;
each call keeps its promise `P` and leaves the state ready for the others. -/
theorem exists_runs (exec : κ → σ → ρ → σ → Prop) (Ready : List κ → σ → Prop)
    {P : Entry κ σ ρ → Prop}
    (hstep : ∀ k ks s, Ready (k :: ks) s →
      ∃ r s', exec k s r s' ∧ P ⟨k, s, r, s'⟩ ∧ Ready ks s')
    (ks : List κ) {s : σ} (hs : Ready ks s) :
    ∃ log t, Runs exec s log t ∧ log.map Entry.call = ks ∧ (∀ e ∈ log, P e) ∧ Ready [] t := by
  induction ks generalizing s with
  | nil => exact ⟨[], s, .nil s, rfl, by simp, hs⟩
  | cons k ks ih =>
    obtain ⟨r, s', hexec, hP, hready⟩ := hstep k ks s hs
    obtain ⟨log, t, hruns, hcalls, hlog, ht⟩ := ih hready
    refine ⟨⟨k, s, r, s'⟩ :: log, t, .cons hexec hruns, by simp [hcalls], ?_, ht⟩
    intro e he
    rcases List.mem_cons.mp he with rfl | he
    · exact hP
    · exact hlog e he

/-- Deterministic calls make one run: the calls fix the log and the last state. -/
theorem Runs.unique (hdet : ∀ k s r s' q s'', exec k s r s' → exec k s q s'' → r = q ∧ s' = s'')
    {s t u : σ} {log log' : List (Entry κ σ ρ)} (h : Runs exec s log t)
    (h' : Runs exec s log' u) (hcalls : log.map Entry.call = log'.map Entry.call) :
    log = log' ∧ t = u := by
  induction h generalizing log' u with
  | nil s =>
    cases h' with
    | nil _ => exact ⟨rfl, rfl⟩
    | cons _ _ => simp at hcalls
  | cons head rest ih =>
    cases h' with
    | nil _ => simp at hcalls
    | cons head' rest' =>
      simp only [List.map_cons, List.cons.injEq] at hcalls
      obtain ⟨rfl, hcalls⟩ := hcalls
      -- the same call from the same state
      obtain ⟨rfl, rfl⟩ := hdet _ _ _ _ _ _ head head'
      obtain ⟨rfl, rfl⟩ := ih rest' hcalls
      exact ⟨rfl, rfl⟩

/-- **Two runs.** Where each call made in one of two related states can be made in the other one,
with related results, so can a whole run. -/
theorem Runs.related {ρ' : Type*} {exec' : κ → τ → ρ' → τ → Prop} {R : σ → τ → Prop}
    {Q : ρ → ρ' → Prop}
    (hstep : ∀ k s t r s', R s t → exec k s r s' → ∃ q t', exec' k t q t' ∧ Q r q ∧ R s' t')
    {s s' : σ} {t : τ} {log : List (Entry κ σ ρ)} (h : R s t) (hruns : Runs exec s log s') :
    ∃ log' t', Runs exec' t log' t' ∧ log'.map Entry.call = log.map Entry.call
      ∧ List.Forall₂ Q (log.map Entry.result) (log'.map Entry.result) ∧ R s' t' := by
  induction hruns generalizing t with
  | nil s => exact ⟨[], t, .nil t, rfl, .nil, h⟩
  | @cons k s s₁ s' r log head _ ih =>
    obtain ⟨q, t₁, hexec, hQ, hR⟩ := hstep k s t r s₁ h head
    obtain ⟨log', t', hruns', hcalls, hresults, hend⟩ := ih hR
    refine ⟨⟨k, t, q, t₁⟩ :: log', t', .cons hexec hruns', ?_, .cons hQ hresults, hend⟩
    rw [List.map_cons, hcalls, List.map_cons]

/-! ## Refinement -/

/-- A machine that is given calls one after another, and what it answers. On `none` it does not
return. -/
def answers (step : κ → τ → Option (ρ × τ)) : List κ → τ → Option (List ρ × τ)
  | [], a => some ([], a)
  | k :: ks, a =>
    (step k a).bind fun p => (answers step ks p.2).map fun q => (p.1 :: q.1, q.2)

theorem answers_cons_iff {step : κ → τ → Option (ρ × τ)} {k : κ} {ks : List κ} {a b : τ}
    {rs : List ρ} :
    answers step (k :: ks) a = some (rs, b) ↔
      ∃ r a' rs', step k a = some (r, a') ∧ answers step ks a' = some (rs', b)
        ∧ rs = r :: rs' := by
  rw [answers, Option.bind_eq_some_iff]
  constructor
  · rintro ⟨⟨r, a'⟩, hstep, hmap⟩
    obtain ⟨⟨rs', b'⟩, hrest, hpair⟩ := Option.map_eq_some_iff.mp hmap
    cases hpair
    exact ⟨r, a', rs', hstep, hrest, rfl⟩
  · rintro ⟨r, a', rs', hstep, hrest, rfl⟩
    refine ⟨(r, a'), hstep, ?_⟩
    rw [hrest]
    rfl

theorem answers_append_iff {step : κ → τ → Option (ρ × τ)} {ks js : List κ} {a b : τ}
    {rs : List ρ} :
    answers step (ks ++ js) a = some (rs, b) ↔
      ∃ front a' back, answers step ks a = some (front, a') ∧ answers step js a' = some (back, b)
        ∧ rs = front ++ back := by
  induction ks generalizing a rs with
  | nil =>
    constructor
    · intro h
      exact ⟨[], a, rs, rfl, h, rfl⟩
    · rintro ⟨front, a', back, hfront, hback, rfl⟩
      cases hfront
      exact hback
  | cons k ks ih =>
    rw [List.cons_append, answers_cons_iff]
    constructor
    · rintro ⟨r, a₁, rs', hstep, hrest, rfl⟩
      obtain ⟨front, a', back, hfront, hback, rfl⟩ := ih.mp hrest
      exact ⟨r :: front, a', back, answers_cons_iff.mpr ⟨r, a₁, front, hstep, hfront, rfl⟩, hback,
        rfl⟩
    · rintro ⟨front, a', back, hfront, hback, rfl⟩
      obtain ⟨r, a₁, rs', hstep, hrest, rfl⟩ := answers_cons_iff.mp hfront
      exact ⟨r, a₁, rs' ++ back, hstep, ih.mpr ⟨rs', a', back, hrest, hback, rfl⟩, rfl⟩

theorem answers_length {step : κ → τ → Option (ρ × τ)} {ks : List κ} {a b : τ} {rs : List ρ}
    (h : answers step ks a = some (rs, b)) : rs.length = ks.length := by
  induction ks generalizing a rs with
  | nil => cases h; rfl
  | cons k ks ih =>
    obtain ⟨r, a', rs', -, hrest, rfl⟩ := answers_cons_iff.mp h
    rw [List.length_cons, List.length_cons, ih hrest]

/-- **Two runs of a machine.** What one call preserves of two states, with what it makes of its
two results, all calls do. -/
theorem answers_related {step : κ → τ → Option (ρ × τ)} {R : τ → τ → Prop} {Q : ρ → ρ → Prop}
    (hstep : ∀ k a b r a', R a b → step k a = some (r, a') →
      ∃ q b', step k b = some (q, b') ∧ Q r q ∧ R a' b')
    {ks : List κ} {a b a' : τ} {rs : List ρ} (h : R a b)
    (hanswers : answers step ks a = some (rs, a')) :
    ∃ qs b', answers step ks b = some (qs, b') ∧ List.Forall₂ Q rs qs ∧ R a' b' := by
  induction ks generalizing a b rs with
  | nil =>
    cases hanswers
    exact ⟨[], b, rfl, .nil, h⟩
  | cons k ks ih =>
    obtain ⟨r, a₁, rs', hfirst, hrest, rfl⟩ := answers_cons_iff.mp hanswers
    obtain ⟨q, b₁, hfirst', hQ, hR⟩ := hstep k a b r a₁ h hfirst
    obtain ⟨qs, b', hrest', hQs, hR'⟩ := ih hR hrest
    exact ⟨q :: qs, b', answers_cons_iff.mpr ⟨q, b₁, qs, hfirst', hrest', rfl⟩, .cons hQ hQs, hR'⟩

/-- The calls that meet `P`, made in a state that meets `I`, do what a machine does that only
knows `abs` of the state. -/
structure Refines (exec : κ → σ → ρ → σ → Prop) (step : κ → τ → Option (ρ × τ)) (abs : σ → τ)
    (P : κ → Prop) (I : σ → Prop) : Prop where
  sound : ∀ k s r s', P k → I s → exec k s r s' → step k (abs s) = some (r, abs s') ∧ I s'
  complete : ∀ k s r a, P k → I s → step k (abs s) = some (r, a) →
    ∃ s', exec k s r s' ∧ abs s' = a ∧ I s'

variable {step : κ → τ → Option (ρ × τ)} {abs : σ → τ} {P : κ → Prop} {I : σ → Prop}

/-- A run is a run of the machine. -/
theorem Refines.answers_of_runs (h : Refines exec step abs P I) {s t : σ}
    {log : List (Entry κ σ ρ)} (hs : I s) (hruns : Runs exec s log t)
    (hP : ∀ e ∈ log, P e.call) :
    answers step (log.map Entry.call) (abs s) = some (log.map Entry.result, abs t) ∧ I t := by
  induction hruns with
  | nil s => exact ⟨rfl, hs⟩
  | cons head _ ih =>
    obtain ⟨hstep, hI⟩ := h.sound _ _ _ _ (hP _ List.mem_cons_self) hs head
    obtain ⟨hrest, ht⟩ := ih hI fun e he => hP e (List.mem_cons_of_mem _ he)
    exact ⟨answers_cons_iff.mpr ⟨_, _, _, hstep, hrest, rfl⟩, ht⟩

/-- Every run of the machine is that of a run. -/
theorem Refines.exists_runs (h : Refines exec step abs P I) {ks : List κ} {s : σ} {rs : List ρ}
    {a : τ} (hs : I s) (hP : ∀ k ∈ ks, P k) (hanswers : answers step ks (abs s) = some (rs, a)) :
    ∃ log t, Runs exec s log t ∧ log.map Entry.call = ks ∧ log.map Entry.result = rs
      ∧ abs t = a ∧ I t := by
  induction ks generalizing s rs with
  | nil =>
    cases hanswers
    exact ⟨[], s, .nil s, rfl, rfl, rfl, hs⟩
  | cons k ks ih =>
    obtain ⟨r, a', rs', hstep, hrest, rfl⟩ := answers_cons_iff.mp hanswers
    obtain ⟨s', hexec, rfl, hI⟩ := h.complete _ _ _ _ (hP k List.mem_cons_self) hs hstep
    obtain ⟨log, t, hruns, hcalls, hresults, habs, ht⟩ :=
      ih hI (fun k hk => hP k (List.mem_cons_of_mem _ hk)) hrest
    exact ⟨_, t, .cons hexec hruns, by rw [List.map_cons, hcalls], by rw [List.map_cons, hresults],
      habs, ht⟩

/-- **Refinement over runs.** A sequence of calls returns, with some results in some state of the
machine, exactly when the machine answers so. -/
theorem Refines.runs_iff (h : Refines exec step abs P I) {ks : List κ} {s : σ} (hs : I s)
    (hP : ∀ k ∈ ks, P k) (rs : List ρ) (a : τ) :
    (∃ log t, Runs exec s log t ∧ log.map Entry.call = ks ∧ log.map Entry.result = rs
      ∧ abs t = a) ↔ answers step ks (abs s) = some (rs, a) := by
  constructor
  · rintro ⟨log, t, hruns, rfl, rfl, rfl⟩
    exact (h.answers_of_runs hs hruns fun e he => hP _ (List.mem_map_of_mem he)).1
  · intro hanswers
    obtain ⟨log, t, hruns, hcalls, hresults, habs, -⟩ := h.exists_runs hs hP hanswers
    exact ⟨log, t, hruns, hcalls, hresults, habs⟩

/-! ## Traces

What a call leaves behind is a word over some letters. The words of a sequence of calls stand one
behind the other, with nothing between them. -/

section
variable {α : Type*} {word : κ → List α → Prop} {same : κ → κ → Prop}

/-- `s` is put together of a word of each call. -/
inductive Spells (word : κ → List α → Prop) : List κ → List α → Prop
  | nil : Spells word [] []
  | cons {k : κ} {ks : List κ} {u v : List α} (head : word k u) (rest : Spells word ks v) :
      Spells word (k :: ks) (u ++ v)

theorem Spells.forall_mem {P : α → Prop} {Q : κ → Prop} (hne : ∀ k, ¬ word k [])
    (hword : ∀ k u, word k u → ∀ a ∈ u, P a ↔ Q k) {ks : List κ} {s : List α}
    (h : Spells word ks s) : (∀ a ∈ s, P a) ↔ ∀ k ∈ ks, Q k := by
  induction h with
  | nil => simp
  | @cons k ks u v head _ ih =>
    rw [List.forall_mem_append, List.forall_mem_cons, ih]
    refine and_congr_left' ⟨fun h => ?_, fun h a ha => (hword k u head a ha).mpr h⟩
    have hnonempty : u ≠ [] := by
      rintro rfl
      exact hne k head
    obtain ⟨a, ha⟩ := List.exists_mem_of_ne_nil u hnonempty
    exact (hword k u head a ha).mp (h a ha)

/-- Calls of one and the same kind leave the same behind. -/
theorem Spells.congr (hsame : ∀ k k' u, same k k' → word k u → word k' u) {ks ks' : List κ}
    {s : List α} (hks : List.Forall₂ same ks ks') (h : Spells word ks s) : Spells word ks' s := by
  induction hks generalizing s with
  | nil => exact h
  | cons hk _ ih =>
    cases h with
    | cons head rest => exact .cons (hsame _ _ _ hk head) (ih rest)

/-- **Reading a trace.** Induction on the calls: the first words are the same since neither of them
goes on where the other one has ended. -/
theorem Spells.same_of_eq (hne : ∀ k, ¬ word k [])
    (hfree : ∀ k k' u u' v v', word k u → word k' u' → u ++ v = u' ++ v' → same k k' ∧ u = u')
    {ks ks' : List κ} {s : List α} (h : Spells word ks s) (h' : Spells word ks' s) :
    List.Forall₂ same ks ks' := by
  induction h generalizing ks' with
  | nil =>
    generalize ht : ([] : List α) = t at h'
    cases h' with
    | nil => exact .nil
    | cons head _ =>
      obtain ⟨rfl, -⟩ := List.append_eq_nil_iff.mp ht.symm
      exact absurd head (hne _)
  | @cons k ks u v head _ ih =>
    generalize ht : u ++ v = t at h'
    cases h' with
    | nil =>
      obtain ⟨rfl, -⟩ := List.append_eq_nil_iff.mp ht
      exact absurd head (hne _)
    | cons head' rest' =>
      obtain ⟨hsame, rfl⟩ := hfree _ _ _ _ _ _ head head' ht
      obtain rfl := List.append_cancel_left ht
      exact .cons hsame (ih rest')

/-- **What a trace tells.** -/
theorem Spells.iff_same (hne : ∀ k, ¬ word k [])
    (hfree : ∀ k k' u u' v v', word k u → word k' u' → u ++ v = u' ++ v' → same k k' ∧ u = u')
    (hsame : ∀ k k' u, same k k' → word k u → word k' u) {ks ks' : List κ} {s : List α}
    (h : Spells word ks s) : Spells word ks' s ↔ List.Forall₂ same ks ks' :=
  ⟨h.same_of_eq hne hfree, fun hks => h.congr hsame hks⟩

end

end Session
