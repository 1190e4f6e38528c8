import ResonanceSignal.Agent.RegistryRuns

/-!
# Failures of the registry

An operation of the registry changes the entries in memory before its steps that may fail: the
allocation of an identifier, and `persist`. What a batch has done when an allocation fails is what
the observations before did (`observeAll_error`). A run in which calls may fail (`attempts`) still
has the sequence cover the identifiers, and the evidence of one source each that is not retired.
-/

namespace ResonanceSignal

namespace IdentityRegistry

variable {A : Type} [SourceIdAllocator A] {before after : IdentityRegistry A}
  {observed : List ContinuityEvidence}

/-- An observation fails where it is of a new source, and no identifier is allocated. -/
theorem observe_error {observation : SourceObservation} {changed : Bool} {error : RegistryError}
    (h : before.observe observed changed observation = (.error error, after)) :
    ∃ displayName continuity, observation = ⟨displayName, .stable continuity⟩ ∧
      before.findLive continuity = none ∧
      (before.retireReused observed continuity).allocateSourceId = (.error error, after) := by
  obtain ⟨displayName, continuity⟩ := observation
  unfold observe at h
  cases continuity with
  | unknown => cases h
  | ambiguous candidates => cases h
  | stable continuity =>
    dsimp only at h
    cases hfound : before.findLive continuity with
    | some entry =>
      rw [hfound] at h
      cases h
    | none =>
      rw [hfound] at h
      dsimp only at h
      refine ⟨displayName, continuity, rfl, hfound, ?_⟩
      split at h
      next error' after' hallocate =>
        cases h
        exact hallocate
      next => cases h

/-- A batch fails at an observation of a new source, after the observations before it. -/
theorem observeAll_error {observations : List SourceObservation} {changed : Bool}
    {error : RegistryError}
    (h : observeAll observed observations changed before = (.error error, after)) :
    ∃ known displayName continuity rest changed' middle,
      observations = known ++ ⟨displayName, .stable continuity⟩ :: rest ∧
        observeAll observed known changed before = (.ok changed', middle) ∧
        middle.findLive continuity = none ∧
        (middle.retireReused observed continuity).allocateSourceId = (.error error, after) := by
  induction observations generalizing before changed with
  | nil => cases h
  | cons observation observations ih =>
    unfold observeAll at h
    cases hobserve : before.observe observed changed observation with
    | mk outcome middle =>
      rw [hobserve] at h
      cases outcome with
      | error error' =>
        cases h
        obtain ⟨displayName, continuity, rfl, hnone, hallocate⟩ := observe_error hobserve
        exact ⟨[], displayName, continuity, observations, changed, before, rfl, rfl, hnone,
          hallocate⟩
      | ok changed' =>
        obtain ⟨known, displayName, continuity, rest, changed'', last, rfl, hknown, hnone,
          hallocate⟩ := ih h
        refine ⟨observation :: known, displayName, continuity, rest, changed'', last, rfl, ?_, hnone,
          hallocate⟩
        unfold observeAll
        rw [hobserve]
        exact hknown

omit [SourceIdAllocator A] in
/-- The contents after a commit, also one that fails. -/
theorem commit_contents (before : IdentityRegistry A) (files : RegistryFiles)
    (fault : Option Interruption) :
    (before.commit files fault).2.1
      = { before with revision := Checked.saturatingAdd before.revision 1 } :=
  rfl

/-- A batch of observations keeps the revision, until it is committed. -/
theorem ObservesAll.revision {observations : List SourceObservation} {ids : List SourceId}
    {changes : Bool} (h : ObservesAll observed before observations ids changes after) :
    after.revision = before.revision := by
  induction h with
  | nil => rfl
  | cons h hs ih => exact ih.trans h.steps.revision

/-- The outcome of a batch of observations, before anything is committed. -/
theorem applyObservations_cases (before : IdentityRegistry A)
    (observations : List SourceObservation) (files : RegistryFiles) (fault : Option Interruption) :
    (∃ error failed, observeAll (observedContinuities observations) observations
        (before.entries.values.any (disappears (observedContinuities observations)))
        (before.markAllAbsent (observedContinuities observations)) = (.error error, failed) ∧
      before.applyObservations observations files fault = (.error error, failed, files)) ∨
    (∃ observedAfter, observeAll (observedContinuities observations) observations
        (before.entries.values.any (disappears (observedContinuities observations)))
        (before.markAllAbsent (observedContinuities observations)) = (.ok false, observedAfter) ∧
      before.applyObservations observations files fault
        = (.ok observedAfter.snapshot, observedAfter, files)) ∨
    (∃ observedAfter, observeAll (observedContinuities observations) observations
        (before.entries.values.any (disappears (observedContinuities observations)))
        (before.markAllAbsent (observedContinuities observations)) = (.ok true, observedAfter) ∧
      before.applyObservations observations files fault = observedAfter.commit files fault) := by
  unfold applyObservations
  dsimp only
  rcases hobserve : observeAll (observedContinuities observations) observations
    (before.entries.values.any (disappears (observedContinuities observations)))
    (before.markAllAbsent (observedContinuities observations)) with ⟨outcome, observedAfter⟩
  cases outcome with
  | error error => exact .inl ⟨error, observedAfter, rfl, rfl⟩
  | ok changed =>
    cases changed with
    | false => exact .inr (.inl ⟨observedAfter, rfl, rfl⟩)
    | true => exact .inr (.inr ⟨observedAfter, rfl, rfl⟩)

end IdentityRegistry

/-! ## Runs with failures -/

/-- What holds of the contents of every registry, whether its operations fail or not. -/
structure Wellformed (contents : RegistryContents) : Prop where
  /-- The sequence covers the identifiers. -/
  covers : Covers contents
  /-- Evidence is that of one source that is not retired. -/
  oneEach : OneEach contents.entries

namespace IdentityRegistry

variable {before after : IdentityRegistry CounterSourceIdAllocator}
  {observed : List ContinuityEvidence} {files : RegistryFiles} {fault : Option Interruption}

/-- What a batch of observations preserves that fails. -/
theorem observeAll_error_preserves {observations : List SourceObservation} {changed : Bool}
    {error : RegistryError} (hwellformed : Wellformed before.toRegistryContents)
    (h : observeAll observed observations changed before = (.error error, after)) :
    (∃ ids, Preserves before.toRegistryContents after.toRegistryContents ids) ∧
      Wellformed after.toRegistryContents ∧ after.revision = before.revision := by
  obtain ⟨known, displayName, continuity, rest, changed', middle, -, hobserve, -, hallocate⟩ :=
    observeAll_error h
  obtain ⟨changes, -, hknown⟩ := observeAll_ok hobserve
  obtain ⟨hpreserves, hcovers, hone⟩ := hknown.preserves hwellformed.covers hwellformed.oneEach
  obtain ⟨hkept, hnamespace, hrevision, hsequence⟩ :=
    retireReused_kept middle observed continuity
  have hallocates := allocateSourceId_spec (middle.retireReused observed continuity)
  rw [hallocate] at hallocates
  dsimp only at hallocates
  have hentries : Kept middle.entries after.entries := by
    rw [hallocates.entries]
    exact hkept
  have hle : middle.nextSourceSequence ≤ after.nextSourceSequence := by
    rw [← hsequence]
    rcases hallocates.sequence with hsame | hlt
    · exact UInt64.le_of_eq hsame.symm
    · exact UInt64.le_of_lt hlt
  have hfailed : Preserves middle.toRegistryContents after.toRegistryContents [] :=
    .of_kept (hallocates.namespace_eq.trans hnamespace) hle hentries
  refine ⟨⟨_, hpreserves.trans hfailed⟩,
    ⟨hcovers.of_kept hentries hle, hentries.oneEach hone⟩, ?_⟩
  calc after.revision
    _ = (middle.retireReused observed continuity).revision := hallocates.revision
    _ = middle.revision := hrevision
    _ = before.revision := hknown.revision

/-- The first loop of a batch keeps the registry well-formed. -/
theorem markAllAbsent_preserves (observed : List ContinuityEvidence)
    (h : Wellformed before.toRegistryContents) :
    Wellformed (before.markAllAbsent observed).toRegistryContents ∧
      Preserves before.toRegistryContents (before.markAllAbsent observed).toRegistryContents [] := by
  have hkept := kept_markAllAbsent before observed
  exact ⟨⟨h.covers.of_kept hkept (UInt64.le_refl _), hkept.oneEach h.oneEach⟩,
    .of_kept rfl (UInt64.le_refl _) hkept⟩

/-- What a batch of observations preserves, whether it fails or not. -/
theorem applyObservations_preserves (h : Wellformed before.toRegistryContents)
    (observations : List SourceObservation) (files : RegistryFiles)
    (fault : Option Interruption) :
    Wellformed (before.applyObservations observations files fault).2.1.toRegistryContents ∧
      ∃ ids, Preserves before.toRegistryContents
        (before.applyObservations observations files fault).2.1.toRegistryContents ids := by
  obtain ⟨hmarked, hfirst⟩ :=
    markAllAbsent_preserves (observedContinuities observations) h
  rcases applyObservations_cases before observations files fault with
    ⟨error, failed, hobserve, hoperation⟩ | ⟨observedAfter, hobserve, hoperation⟩ |
      ⟨observedAfter, hobserve, hoperation⟩
  · obtain ⟨⟨ids, hpreserves⟩, hwellformed, -⟩ := observeAll_error_preserves hmarked hobserve
    rw [hoperation]
    exact ⟨hwellformed, [] ++ ids, hfirst.trans hpreserves⟩
  · obtain ⟨changes, -, hall⟩ := observeAll_ok hobserve
    obtain ⟨hpreserves, hcovers, hone⟩ := hall.preserves hmarked.covers hmarked.oneEach
    rw [hoperation]
    exact ⟨⟨hcovers, hone⟩, _, hfirst.trans hpreserves⟩
  · obtain ⟨changes, -, hall⟩ := observeAll_ok hobserve
    obtain ⟨hpreserves, hcovers, hone⟩ := hall.preserves hmarked.covers hmarked.oneEach
    rw [hoperation, commit_contents]
    exact ⟨⟨hcovers, hone⟩, _, (hfirst.trans hpreserves).withRevision _⟩

/-- Every operation keeps a registry well-formed, whether it fails or not. -/
theorem run_wellformed (h : Wellformed before.toRegistryContents) (operation : RegistryOperation)
    (files : RegistryFiles) (fault : Option Interruption) :
    Wellformed (operation.run before files fault).2.1.toRegistryContents := by
  cases operation with
  | applyObservations observations =>
    exact (applyObservations_preserves h observations files fault).1
  | advanceRevision => exact ⟨h.covers, h.oneEach⟩
  | resetNamespace «namespace» =>
    exact ⟨fun _ hentry => absurd hentry List.not_mem_nil,
      fun _ hentry => absurd hentry List.not_mem_nil⟩

end IdentityRegistry

namespace RegistryMachine

variable {m m' : RegistryMachine} {files : RegistryFiles} {«namespace» : RegistryNamespace}
  {fault : Option Interruption}

/-- The registry after a call, whether it fails or not. Without a registry there is nothing after
an opening that fails. -/
def attempt (self : RegistryMachine) : RegistryCall → Option RegistryMachine
  | .operation operation fault =>
    let (_, registry, files) := operation.run self.registry self.files fault
    some ⟨registry, files⟩
  | .reopen «namespace» fault => new self.files «namespace» fault

/-- The registry after calls, whether they fail or not. -/
def attempts (self : RegistryMachine) (cs : List RegistryCall) : Option RegistryMachine :=
  cs.foldlM attempt self

/-- An opened registry is well-formed. -/
theorem new_wellformed (h : new files «namespace» fault = some m) :
    Wellformed m.registry.toRegistryContents :=
  ⟨(new_sound h).covers, (new_sound h).oneEach⟩

/-- A registry is well-formed after any calls. -/
theorem attempts_wellformed (h : Wellformed m.registry.toRegistryContents)
    {cs : List RegistryCall} (hattempts : m.attempts cs = some m') :
    Wellformed m'.registry.toRegistryContents := by
  induction cs generalizing m with
  | nil =>
    cases hattempts
    exact h
  | cons c cs ih =>
    obtain ⟨middle, hattempt, hrest⟩ := Option.bind_eq_some_iff.mp hattempts
    refine ih ?_ hrest
    cases c with
    | operation operation fault =>
      cases hattempt
      exact IdentityRegistry.run_wellformed h operation m.files fault
    | reopen «namespace» fault => exact new_wellformed hattempt

end RegistryMachine

end ResonanceSignal
