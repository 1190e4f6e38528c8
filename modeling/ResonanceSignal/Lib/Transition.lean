import Mathlib.Data.List.Induction
import Mathlib.Tactic.SplitIfs
import Mathlib.Order.Basic
import Mathlib.Algebra.Order.Ring.Nat

/-!
# Labelled transition systems and their runs

A system relates a state, a label and a next state. A label carries whatever a step shows: an
input, an output, or both (`ofFn` makes a system of a step function, with the input and the output
as the label). `Run` is a finite run along the list of its labels, and `Run.history` is the
one induction over runs: an invariant of the labels so far and the state, which one step preserves,
holds at the end of every run. Ghost state is a function of the labels, so a property of "everything
that happened since" is such an invariant.

A step that stays or raises a version makes the version stand for the state along a run
(`Run.eq_of_version_eq`), which is what a check of a version against a stale reading rests on.

`Run.length_add_le` bounds the length of runs by a measure that every step lowers, and
`Run.length_add_le_credit` where a label may give back some of it. Where a state from which some
step lowers the measure is all that there is short of a goal, the goal is reached
(`exists_run_of_lt`).

`restrict` keeps the steps that satisfy a condition; a run of the restricted system is a run of the
system all of whose steps satisfy it. `trace` computes a run of a step function on given inputs, and
so does folding it where its input is the whole label (`run_of_foldlM`).
-/

/-- A labelled transition system on the states `σ` with the labels `ℓ`. -/
structure TransitionSystem (σ ℓ : Type*) where
  /-- A step from a state, with a label, to a state. -/
  step : σ → ℓ → σ → Prop

namespace TransitionSystem

variable {σ ℓ ι ο : Type*}

/-- The system of a partial step function, with its input and output as the label. -/
def ofFn (f : σ → ι → Option (ο × σ)) : TransitionSystem σ (ι × ο) where
  step s l s' := f s l.1 = some (l.2, s')

/-- The system of a partial step function, with its input as the label. -/
def ofStep (f : σ → ι → Option σ) : TransitionSystem σ ι where
  step s i s' := f s i = some s'

/-- The steps of a system that satisfy a condition on the state before the step and the label. -/
def restrict (S : TransitionSystem σ ℓ) (C : σ → ℓ → Prop) : TransitionSystem σ ℓ where
  step s l s' := S.step s l s' ∧ C s l

/-- A finite run from the first state to the last, with its labels in order. -/
def Run (S : TransitionSystem σ ℓ) : σ → List ℓ → σ → Prop
  | s, [], s' => s = s'
  | s, l :: ls, s' => ∃ t, S.step s l t ∧ Run S t ls s'

variable {S : TransitionSystem σ ℓ} {s₀ s s' : σ} {l : ℓ} {ls ls' : List ℓ}

/-- The empty run stays where it is. -/
@[simp]
theorem run_nil : S.Run s [] s' ↔ s = s' := Iff.rfl

/-- A nonempty run is its first step and the rest. -/
@[simp]
theorem run_cons : S.Run s (l :: ls) s' ↔ ∃ t, S.step s l t ∧ S.Run t ls s' := Iff.rfl

/-- Runs compose, and a run splits where its labels do. -/
theorem run_append : S.Run s (ls ++ ls') s' ↔ ∃ t, S.Run s ls t ∧ S.Run t ls' s' := by
  induction ls generalizing s with
  | nil => simp
  | cons l ls ih =>
    simp only [List.cons_append, run_cons, ih]
    constructor
    · rintro ⟨t, hs, m, h1, h2⟩
      exact ⟨m, ⟨t, hs, h1⟩, h2⟩
    · rintro ⟨m, ⟨t, hs, h1⟩, h2⟩
      exact ⟨t, hs, m, h1, h2⟩

/-- A run with one more label is a run and a last step. -/
theorem run_snoc : S.Run s (ls ++ [l]) s' ↔ ∃ t, S.Run s ls t ∧ S.step t l s' := by
  simp [run_append]

/-- An invariant of the labels so far and the state that one step preserves holds at the end of
every run. -/
theorem Run.history {I : List ℓ → σ → Prop} (init : I [] s₀)
    (step : ∀ ls s l s', S.Run s₀ ls s → I ls s → S.step s l s' → I (ls ++ [l]) s')
    (h : S.Run s₀ ls s) : I ls s := by
  induction ls using List.reverseRecOn generalizing s with
  | nil =>
    cases run_nil.mp h
    exact init
  | append_singleton ls l ih =>
    obtain ⟨t, hr, hs⟩ := run_snoc.mp h
    exact step ls t l s hr (ih hr) hs

/-- An invariant of the state alone that one step preserves holds at the end of every run. -/
theorem Run.invariant {I : σ → Prop} (init : I s₀)
    (step : ∀ s l s', I s → S.step s l s' → I s') (h : S.Run s₀ ls s) : I s :=
  Run.history (S := S) init (fun _ s l s' _ hi hs => step s l s' hi hs) h

/-- Where every step stays or raises a version, a run does. -/
theorem Run.eq_or_lt {ν : Type*} [Preorder ν] {version : σ → ν}
    (step : ∀ s l s', S.step s l s' → s' = s ∨ version s < version s') (h : S.Run s ls s') :
    s' = s ∨ version s < version s' := by
  apply Run.invariant (S := S) (.inl rfl) _ h
  intro t l t' ht hs
  rcases step t l t' hs with rfl | hlt
  · exact ht
  · rcases ht with rfl | hlt'
    · exact .inr hlt
    · exact .inr (hlt'.trans hlt)

/-- Where every step stays or raises a version, a run between states of one version stays: what was
seen of a state under its version still holds. -/
theorem Run.eq_of_version_eq {ν : Type*} [Preorder ν] {version : σ → ν}
    (step : ∀ s l s', S.step s l s' → s' = s ∨ version s < version s') (h : S.Run s ls s')
    (hv : version s = version s') : s' = s := by
  rcases h.eq_or_lt step with rfl | hlt
  · rfl
  · exact absurd (hv ▸ hlt) (lt_irrefl _)

/-- Where every step from an invariant keeps it and lowers a measure, the measure bounds the length
of the runs. -/
theorem Run.length_add_le {I : σ → Prop} {μ : σ → ℕ}
    (step : ∀ s l s', I s → S.step s l s' → I s' ∧ μ s' < μ s) (hs : I s) (h : S.Run s ls s') :
    ls.length + μ s' ≤ μ s := by
  induction ls generalizing s with
  | nil =>
    cases run_nil.mp h
    exact Nat.le_of_eq (Nat.zero_add _)
  | cons l ls ih =>
    obtain ⟨t, hstep, hrest⟩ := run_cons.mp h
    obtain ⟨ht, hlt⟩ := step s l t hs hstep
    have hle := ih ht hrest
    rw [List.length_cons]
    omega

/-- Where every step from an invariant keeps it and lowers a measure, up to a credit that its label
gives, the measure and the credits bound the length of the runs. -/
theorem Run.length_add_le_credit {I : σ → Prop} {μ : σ → ℕ} {credit : ℓ → ℕ}
    (step : ∀ s l s', I s → S.step s l s' → I s' ∧ μ s' < μ s + credit l) (hs : I s)
    (h : S.Run s ls s') : ls.length + μ s' ≤ μ s + (ls.map credit).sum := by
  induction ls generalizing s with
  | nil =>
    cases run_nil.mp h
    simp
  | cons l ls ih =>
    obtain ⟨t, hstep, hrest⟩ := run_cons.mp h
    obtain ⟨ht, hlt⟩ := step s l t hs hstep
    have hle := ih ht hrest
    rw [List.length_cons, List.map_cons, List.sum_cons]
    omega

/-- Where from every state of an invariant that is not yet at the goal some step of a kind keeps the
invariant and lowers a measure, a run of steps of that kind, no longer than the measure, reaches the
goal. -/
theorem exists_run_of_lt {I G : σ → Prop} {P : ℓ → Prop} {μ : σ → ℕ}
    (step : ∀ s, I s → G s ∨ ∃ l s', S.step s l s' ∧ P l ∧ I s' ∧ μ s' < μ s) (hs : I s) :
    ∃ ls s', S.Run s ls s' ∧ ls.length ≤ μ s ∧ (∀ l ∈ ls, P l) ∧ G s' := by
  induction h : μ s using Nat.strongRecOn generalizing s with
  | _ n ih =>
    subst h
    rcases step s hs with hgoal | ⟨l, t, hstep, hl, ht, hlt⟩
    · exact ⟨[], s, rfl, Nat.zero_le _, fun _ h => absurd h List.not_mem_nil, hgoal⟩
    · obtain ⟨ls, s', hrun, hlength, hls, hgoal⟩ := ih (μ t) hlt ht rfl
      refine ⟨l :: ls, s', ⟨t, hstep, hrun⟩, ?_, ?_, hgoal⟩
      · exact Nat.lt_of_le_of_lt hlength hlt
      · exact List.forall_mem_cons.mpr ⟨hl, hls⟩

/-- Where a label determines the next state, the labels of a run determine its last one. -/
theorem Run.unique (step : ∀ s l t t', S.step s l t → S.step s l t' → t = t') {s t t' : σ}
    (h : S.Run s ls t) (h' : S.Run s ls t') : t = t' := by
  induction ls generalizing s with
  | nil => exact (run_nil.mp h).symm.trans (run_nil.mp h')
  | cons l ls ih =>
    obtain ⟨u, hstep, hrest⟩ := run_cons.mp h
    obtain ⟨u', hstep', hrest'⟩ := run_cons.mp h'
    obtain rfl := step s l u u' hstep hstep'
    exact ih hrest hrest'

/-- A run of the restricted system is a run of the system. -/
theorem Run.of_restrict {C : σ → ℓ → Prop} (h : (S.restrict C).Run s ls s') : S.Run s ls s' := by
  induction ls generalizing s with
  | nil => exact h
  | cons l ls ih =>
    obtain ⟨t, hs, hr⟩ := h
    exact ⟨t, hs.1, ih hr⟩

/-- A weaker condition keeps the runs. -/
theorem Run.weaken {C C' : σ → ℓ → Prop} (hC : ∀ s l, C s l → C' s l)
    (h : (S.restrict C).Run s ls s') : (S.restrict C').Run s ls s' := by
  induction ls generalizing s with
  | nil => exact h
  | cons l ls ih =>
    obtain ⟨t, ⟨hstep, hcond⟩, hrest⟩ := h
    exact ⟨t, ⟨hstep, hC s l hcond⟩, ih hrest⟩

/-- The run of a partial step function on a list of inputs, as long as a condition holds along it:
its labels and its last state. -/
def trace (f : σ → ι → Option (ο × σ)) (C : σ → ι × ο → Bool) :
    σ → List ι → Option (List (ι × ο) × σ)
  | s, [] => some ([], s)
  | s, i :: is =>
    match f s i with
    | none => none
    | some (o, t) =>
      if C s (i, o) then (trace f C t is).map fun r => ((i, o) :: r.1, r.2) else none

/-- A trace is a run. -/
theorem run_of_trace {f : σ → ι → Option (ο × σ)} {C : σ → ι × ο → Bool} {is : List ι}
    {ls : List (ι × ο)} (h : trace f C s is = some (ls, s')) :
    ((ofFn f).restrict fun s l => C s l = true).Run s ls s' := by
  induction is generalizing s ls with
  | nil =>
    cases h
    rfl
  | cons i is ih =>
    rw [trace] at h
    split at h
    next => cases h
    next o t hstep =>
      split_ifs at h with hC
      obtain ⟨⟨ls', s''⟩, hrest, hls⟩ := Option.map_eq_some_iff.mp h
      cases hls
      exact ⟨t, ⟨hstep, hC⟩, ih hrest⟩

/-- A trace that exists is a run to its last state. -/
theorem run_of_trace_isSome {f : σ → ι → Option (ο × σ)} {C : σ → ι × ο → Bool} {is : List ι}
    (h : (trace f C s is).isSome = true) :
    (ofFn f).Run s ((trace f C s is).getD ([], s)).1 ((trace f C s is).getD ([], s)).2 := by
  obtain ⟨⟨ls, s'⟩, hs'⟩ := Option.isSome_iff_exists.mp h
  rw [hs', Option.getD_some]
  exact (run_of_trace hs').of_restrict

/-- A partial step function where a condition holds. -/
def guarded (f : σ → ι → Option σ) (C : σ → ι → Prop) [∀ s i, Decidable (C s i)] (s : σ) (i : ι) :
    Option σ :=
  if C s i then f s i else none

/-- Folding a step function under a condition is a run. -/
theorem run_of_foldlM {f : σ → ι → Option σ} {C : σ → ι → Prop} [∀ s i, Decidable (C s i)]
    {is : List ι} (h : is.foldlM (guarded f C) s = some s') :
    ((ofStep f).restrict C).Run s is s' := by
  induction is generalizing s with
  | nil =>
    cases h
    rfl
  | cons i is ih =>
    obtain ⟨t, hstep, hrest⟩ := Option.bind_eq_some_iff.mp h
    unfold guarded at hstep
    split_ifs at hstep with hC
    exact ⟨t, ⟨hstep, hC⟩, ih hrest⟩

/-- A fold that succeeds is a run to its last state. -/
theorem run_of_isSome {f : σ → ι → Option σ} {C : σ → ι → Prop} [∀ s i, Decidable (C s i)]
    {is : List ι} (h : (is.foldlM (guarded f C) s).isSome = true) :
    (ofStep f).Run s is ((is.foldlM (guarded f C) s).getD s) := by
  obtain ⟨s', hs'⟩ := Option.isSome_iff_exists.mp h
  rw [hs', Option.getD_some]
  exact (run_of_foldlM hs').of_restrict

end TransitionSystem
