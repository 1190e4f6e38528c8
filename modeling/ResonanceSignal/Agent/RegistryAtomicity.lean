import ResonanceSignal.Agent.RegistryBudget
import ResonanceSignal.Agent.RegistryCrash
import ResonanceSignal.Agent.RegistryReopen
import ResonanceSignal.Agent.RegistrySettled
import Mathlib.Data.List.Induction

/-!
# Operations of the registry that fail

An operation changes the registry in memory, and then commits it. If it fails, what it has changed
stays in memory, and the next call that has nothing to commit shows it (`failed_revision_shown`).
Memory is what was committed only while no operation fails after it has changed something
(`memory_is_committed`): the revision is raised before `persist`, and a batch has changed its first
sources when it runs out of identifiers for the next one.
-/

namespace ResonanceSignal

/-- `persist` fails at one of its steps. -/
def interrupts (files : RegistryFiles) (fault : Option Interruption) : Bool :=
  fault.any fun interruption => decide (interruption.completed < (persistSteps files).length)

/-- The revision is at its limit, and stays there. -/
def RegistryContents.AtLimit (self : RegistryContents) : Prop := self.revision.toNat = 2^64 - 1

instance (contents : RegistryContents) : Decidable contents.AtLimit :=
  inferInstanceAs (Decidable (_ = _))

/-- An observation of a batch is the first one of a new source, no identifier is left for it, and
nothing is changed before it. -/
def RunsOut (contents : RegistryContents) (observations : List SourceObservation) : Prop :=
  identifiersLeft contents = 0 ∧
    ∃ known displayName continuity rest,
      observations = known ++ ⟨displayName, .stable continuity⟩ :: rest ∧
        isSettled contents.entries known = true ∧
        (∀ entry ∈ contents.entries.values, entry.state.isRetired = false →
          entry.continuity ≠ continuity) ∧
        (contents.entries.values.filter (IdentityRegistry.isReused
          (observedContinuities observations) continuity)).length ≠ 1

/-- An operation does not fail after it has changed something. -/
def RegistryOperation.FailsEarly (contents : RegistryContents) (files : RegistryFiles)
    (fault : Option Interruption) : RegistryOperation → Prop
  | applyObservations observations =>
    let stays := contents.entries.values.any
      (IdentityRegistry.disappears (observedContinuities observations)) = false
    if newSources (evidenceOf false contents.entries) observations ≤ identifiersLeft contents then
      interrupts files fault = false ∨
        (stays ∧ ∀ observation ∈ observations, isSettled contents.entries [observation] = true) ∨
        (contents.AtLimit ∧ stays ∧ isSettled contents.entries observations = true)
    else stays ∧ RunsOut contents observations
  | advanceRevision => interrupts files fault = false ∨ contents.AtLimit
  | resetNamespace «namespace» =>
    interrupts files fault = false ∨
      (contents.AtLimit ∧ contents = ⟨«namespace», contents.revision, 0, .empty⟩)

/-- An operation that fails leaves the registry in memory. -/
def RegistryOperation.KeepsOnError (self : IdentityRegistry CounterSourceIdAllocator)
    (files : RegistryFiles) (fault : Option Interruption) (operation : RegistryOperation) : Prop :=
  (operation.run self files fault).1.isOk = false →
    (operation.run self files fault).2.1.toRegistryContents = self.toRegistryContents

namespace IdentityRegistry

variable {before middle after : IdentityRegistry CounterSourceIdAllocator}
  {observed : List ContinuityEvidence} {observations : List SourceObservation}
  {files files' : RegistryFiles} {fault : Option Interruption}

/-! ## Batches that fail -/

/-- What the first loop leaves known, and what it leaves of the identifiers. -/
theorem markAllAbsent_budget (before : IdentityRegistry CounterSourceIdAllocator)
    (observed : List ContinuityEvidence) :
    Knows observed (before.markAllAbsent observed).entries (evidenceOf false before.entries) ∧
      identifiersLeft (before.markAllAbsent observed).toRegistryContents
        = identifiersLeft before.toRegistryContents := by
  refine ⟨?_, identifiersLeft_congr rfl rfl (kept_markAllAbsent before observed).contains⟩
  intro continuity _
  rw [mem_evidenceOf]
  constructor
  · rintro ⟨entry, hentry, hlive, hevidence⟩
    refine ⟨markAbsent observed entry, List.mem_map.mpr ⟨entry, hentry, rfl⟩,
      (isRetired_markAbsent observed entry).trans hlive, ?_⟩
    rw [(SourceRecord.evolves_markAbsent observed entry).continuity, hevidence]
  · rintro ⟨entry', hentry', hlive, hevidence⟩
    obtain ⟨entry, hentry, rfl⟩ : ∃ entry ∈ before.entries.values,
        markAbsent observed entry = entry' := List.mem_map.mp hentry'
    rw [isRetired_markAbsent] at hlive
    rw [(SourceRecord.evolves_markAbsent observed entry).continuity] at hevidence
    exact ⟨entry, hentry, hlive, hevidence⟩

/-- A batch continues after its first observations. -/
theorem observeAll_append {known : List SourceObservation} {changed changed' : Bool}
    (h : observeAll observed known changed before = (.ok changed', middle))
    (observations : List SourceObservation) :
    observeAll observed (known ++ observations) changed before
      = observeAll observed observations changed' middle := by
  induction known generalizing before changed with
  | nil =>
    cases h
    rfl
  | cons observation known ih =>
    rcases hobserve : before.observe observed changed observation with ⟨outcome, next⟩
    rw [observeAll, hobserve] at h
    rw [List.cons_append, observeAll, hobserve]
    cases outcome with
    | error error => cases h
    | ok changed'' => exact ih h

/-- Unless the key of one source is reused, none is retired. -/
theorem retireReused_eq_self {continuity : ContinuityEvidence}
    (h : (before.entries.values.filter (isReused observed continuity)).length ≠ 1) :
    before.retireReused observed continuity = before := by
  unfold retireReused
  split
  next entry hfilter =>
    rw [hfilter] at h
    exact absurd rfl h
  next => rfl

/-- The source whose key is reused does not come back. -/
theorem length_isReused_ne_one {continuity : ContinuityEvidence}
    (hback : Advances (before.retireReused observed continuity).entries before.entries) :
    (before.entries.values.filter (isReused observed continuity)).length ≠ 1 := by
  intro hlength
  obtain ⟨entry, hfilter⟩ := List.length_eq_one_iff.mp hlength
  have hmem : entry ∈ before.entries.values.filter (isReused observed continuity) := by
    rw [hfilter]
    exact List.mem_singleton_self entry
  obtain ⟨hentry, hreused⟩ := List.mem_filter.mp hmem
  have hlive : entry.state.isRetired = false := by
    unfold isReused at hreused
    simp only [Bool.and_eq_true, Bool.not_eq_true'] at hreused
    exact hreused.1.1.1
  have hretire : before.retireReused observed continuity
      = before.withEntries (before.entries.map
        (SourceRecord.retiredAs .nativeKeyReuse [entry.key])
        (SourceRecord.key_retiredAs .nativeKeyReuse [entry.key])) := by
    unfold retireReused
    rw [hfilter]
    exact retire_eq before .nativeKeyReuse entry.key
  rw [hretire] at hback
  obtain ⟨last, hlast, hkey, -, hrank⟩ := hback (entry.retiredAs .nativeKeyReuse [entry.key])
    (List.mem_map.mpr ⟨entry, hentry, rfl⟩)
  rw [SourceRecord.key_retiredAs] at hkey
  rw [KeyedMap.eq_of_key_eq hlast hentry hkey,
    SourceRecord.retiredAs_of_mem hlive (List.mem_singleton_self entry.key)] at hrank
  rw [(SourceState.isRetired_iff_rank entry.state).mpr hrank] at hlive
  cases hlive

/-- A batch that runs out of identifiers leaves the registry exactly where it has changed nothing
until then. -/
theorem observeAll_error_iff {changed : Bool} {error : RegistryError}
    {failed : IdentityRegistry CounterSourceIdAllocator}
    (h : Wellformed before.toRegistryContents)
    (hobserve : observeAll (observedContinuities observations) observations changed
      (before.markAllAbsent (observedContinuities observations)) = (.error error, failed)) :
    failed.toRegistryContents = before.toRegistryContents ↔
      before.entries.values.any (disappears (observedContinuities observations)) = false ∧
        RunsOut before.toRegistryContents observations := by
  set observed := observedContinuities observations with hobserved
  constructor
  · intro hsame
    obtain ⟨known, displayName, continuity, rest, changed', middle, hsplit, hknown, hnone,
      hallocate⟩ := observeAll_error hobserve
    have hevidence : ∀ continuity ∈ observedContinuities known, continuity ∈ observed := by
      intro continuity hmem
      rw [hobserved, hsplit]
      unfold observedContinuities
      rw [List.filterMap_append]
      exact List.mem_append_left _ hmem
    obtain ⟨hmarked, -⟩ := markAllAbsent_preserves observed h
    obtain ⟨changes, -, hall⟩ := observeAll_ok hknown
    obtain ⟨-, hcovers, -⟩ := hall.preserves hmarked.covers hmarked.oneEach
    obtain ⟨hkept, -, -, hsequence⟩ := retireReused_kept middle observed continuity
    have hcovers : Covers (middle.retireReused observed continuity).toRegistryContents :=
      hcovers.of_kept hkept (UInt64.le_of_eq hsequence.symm)
    -- The allocation changes nothing, so the registry is the one that it began with.
    obtain ⟨hzero, hfailed⟩ : identifiersLeft
        (middle.retireReused observed continuity).toRegistryContents = 0 ∧
          failed = middle.retireReused observed continuity := by
      rcases allocateSourceId_left hcovers with ⟨hzero, hexhausted⟩ | ⟨id, allocated, hok, -⟩
      · exact ⟨hzero, congrArg Prod.snd (hallocate.symm.trans hexhausted)⟩
      · rw [hallocate] at hok
        cases hok
    -- The entries are the old ones, so no source was marked absent and none was retired.
    have hentries : failed.entries = before.entries := congrArg RegistryContents.entries hsame
    have hunseen : Unseen observed before.entries := by
      have hmiddle := hall.unseen hevidence (unseen_markAllAbsent before observed)
      obtain ⟨ids, hids, -⟩ := retireReused_eq middle observed continuity
      rw [← hentries, hfailed, hids]
      exact hmiddle.of_retiredAs .nativeKeyReuse ids
    rw [markAllAbsent_eq_self hunseen.stays] at hknown hall
    have hback : Advances (middle.retireReused observed continuity).entries before.entries := by
      rw [← hentries, hfailed]
      exact .refl _
    have hlength := length_isReused_ne_one (hback.trans hall.advances)
    have hmiddle := retireReused_eq_self hlength
    rw [hmiddle] at hfailed hzero
    subst hfailed
    refine ⟨hunseen.stays, hsame ▸ hzero, known, displayName, continuity, rest, hsplit,
      (hall.entries_eq_iff h.oneEach hknown).mp hentries, ?_, ?_⟩
    · rw [← hsame]
      exact findLive_eq_none.mp hnone
    · rw [← hsame]
      exact hlength
  · rintro ⟨hstays, hzero, known, displayName, continuity, rest, hsplit, hsettled, hnone, hlength⟩
    rw [markAllAbsent_eq_self hstays] at hobserve
    -- The observations before the new one change nothing, and it fails for want of an identifier.
    obtain ⟨changed', hknown⟩ :=
      observeAll_settled observed h.oneEach hsettled changed
    have hfails : before.observe observed changed' ⟨displayName, .stable continuity⟩
        = (.error .sourceIdAllocationFailed, before) := by
      have hallocate : before.allocateSourceId = (.error .sourceIdAllocationFailed, before) := by
        rcases allocateSourceId_left h.covers with ⟨-, hexhausted⟩ | ⟨id, allocated, -, hone⟩
        · exact hexhausted
        · have hleft := hone continuity displayName
          omega
      unfold observe
      dsimp only
      rw [findLive_eq_none.mpr hnone, retireReused_eq_self hlength]
      dsimp only
      rw [hallocate]
    have hresult : observeAll observed observations changed before
        = (.error .sourceIdAllocationFailed, before) := by
      rw [hsplit, observeAll_append hknown]
      unfold observeAll
      rw [hfails]
    rw [hobserve] at hresult
    exact congrArg (fun outcome => outcome.2.toRegistryContents) hresult

/-! ## Operations that fail -/

/-- A commit fails exactly where `persist` is interrupted. -/
theorem commit_isOk (before : IdentityRegistry CounterSourceIdAllocator) (files : RegistryFiles)
    (fault : Option Interruption) :
    (before.commit files fault).1.isOk = !interrupts files fault := by
  unfold commit persist interrupts
  cases fault with
  | none => rfl
  | some interruption =>
    dsimp only [Option.any_some]
    by_cases h : interruption.completed < (persistSteps files).length
    · rw [if_pos h, decide_eq_true h]
      rfl
    · rw [if_neg h, decide_eq_false h]
      rfl

/-- A revision stays at its limit. -/
theorem atLimit_iff (contents : RegistryContents) :
    Checked.saturatingAdd contents.revision 1 = contents.revision ↔ contents.AtLimit := by
  have hone : (1 : UInt64).toNat = 1 := rfl
  have hvalue := Checked.saturatingAdd_toNat contents.revision 1
  have hbound := contents.revision.toNat_lt
  unfold RegistryContents.AtLimit
  rw [← UInt64.toNat_inj]
  omega

/-- A commit that fails leaves the revision only at its limit. -/
theorem commit_keeps_iff (before : IdentityRegistry CounterSourceIdAllocator)
    (files : RegistryFiles) (fault : Option Interruption) (contents : RegistryContents)
    (hrevision : before.revision = contents.revision) :
    (before.commit files fault).2.1.toRegistryContents = contents ↔
      contents.AtLimit ∧ before.toRegistryContents = contents := by
  rw [commit_contents, ← atLimit_iff]
  constructor
  · intro h
    have hlimit : Checked.saturatingAdd before.revision 1 = contents.revision :=
      congrArg RegistryContents.revision h
    rw [← hrevision] at hlimit ⊢
    refine ⟨hlimit, ?_⟩
    rw [hlimit] at h
    exact h
  · rintro ⟨hlimit, h⟩
    rw [← hrevision] at hlimit
    rw [hlimit]
    exact h

/-- A batch leaves the registry in memory where it fails, exactly where it does not fail after it
has changed something. -/
theorem applyObservations_keeps_iff (h : Wellformed before.toRegistryContents)
    (observations : List SourceObservation) (files : RegistryFiles) (fault : Option Interruption) :
    (RegistryOperation.applyObservations observations).KeepsOnError before files fault ↔
      (RegistryOperation.applyObservations observations).FailsEarly before.toRegistryContents files
        fault := by
  have hkeeps : (RegistryOperation.applyObservations observations).KeepsOnError before files fault ↔
      ((before.applyObservations observations files fault).1.isOk = false →
        (before.applyObservations observations files fault).2.1.toRegistryContents
          = before.toRegistryContents) := by
    unfold RegistryOperation.KeepsOnError RegistryOperation.run
    dsimp only
    rcases before.applyObservations observations files fault with ⟨outcome, after, files'⟩
    cases outcome <;> rfl
  obtain ⟨hknows, hleft⟩ := markAllAbsent_budget before (observedContinuities observations)
  obtain ⟨hmarked, -⟩ := markAllAbsent_preserves (observedContinuities observations) h
  have henough : (observeAll (observedContinuities observations) observations
      (before.entries.values.any (disappears (observedContinuities observations)))
      (before.markAllAbsent (observedContinuities observations))).1.isOk = true ↔ _ :=
    observeAll_isOk_iff hmarked hknows fun _ h => h
  rw [hleft] at henough
  rw [hkeeps]
  unfold RegistryOperation.FailsEarly
  dsimp only
  -- The operation fails on an observation, or has nothing to commit, or commits.
  rcases applyObservations_cases before observations files fault with
    ⟨error, failed, hobserve, hoperation⟩ | ⟨observedAfter, hobserve, hoperation⟩ |
      ⟨observedAfter, hobserve, hoperation⟩
  · rw [hobserve] at henough
    rw [hoperation, if_neg (mt henough.mpr Bool.false_ne_true), ← observeAll_error_iff h hobserve]
    exact ⟨fun hsame => hsame rfl, fun hsame _ => hsame⟩
  · rw [hobserve] at henough
    rw [hoperation, if_pos (henough.mp rfl)]
    obtain ⟨changes, hchanged, hall⟩ := observeAll_ok hobserve
    obtain ⟨hstays, rfl⟩ := Bool.or_eq_false_iff.mp hchanged.symm
    rw [markAllAbsent_eq_self hstays] at hall
    exact ⟨fun _ => .inr (.inl ⟨hstays, (hall.changes_iff h.oneEach).mp rfl⟩), fun _ => nofun⟩
  · rw [hobserve] at henough
    rw [hoperation, if_pos (henough.mp rfl), commit_isOk, Bool.not_eq_false']
    obtain ⟨changes, hchanged, hall⟩ := observeAll_ok hobserve
    rw [commit_keeps_iff observedAfter files fault before.toRegistryContents hall.revision]
    constructor
    · intro hsame
      cases hinterrupts : interrupts files fault with
      | false => exact .inl rfl
      | true =>
        -- The commit failed and the contents are the old ones, so the observations changed nothing.
        obtain ⟨hlimit, hsame⟩ := hsame hinterrupts
        have hentries : observedAfter.entries = before.entries :=
          congrArg RegistryContents.entries hsame
        have hunseen := hall.unseen (fun _ h => h) (unseen_markAllAbsent before _)
        rw [hentries] at hunseen
        rw [markAllAbsent_eq_self hunseen.stays] at hall hobserve
        exact .inr (.inr ⟨hlimit, hunseen.stays,
          (hall.entries_eq_iff h.oneEach hobserve).mp hentries⟩)
    · rintro (hcomplete | ⟨hstays, hsettled⟩ | ⟨hlimit, hstays, hsettled⟩) hinterrupts
      · rw [hcomplete] at hinterrupts
        cases hinterrupts
      · -- Nothing is changed, so nothing would be committed.
        rw [markAllAbsent_eq_self hstays] at hall
        rw [hstays, (hall.changes_iff h.oneEach).mpr hsettled] at hchanged
        cases hchanged
      · rw [markAllAbsent_eq_self hstays] at hobserve
        obtain ⟨changed', hsame⟩ :=
          observeAll_settled (observedContinuities observations) h.oneEach hsettled _
        rw [hobserve] at hsame
        exact ⟨hlimit, congrArg (fun outcome => outcome.2.toRegistryContents) hsame⟩

/-- An operation leaves the registry in memory where it fails, exactly where it does not fail after
it has changed something. -/
theorem keepsOnError_iff (h : Wellformed before.toRegistryContents)
    (operation : RegistryOperation) (files : RegistryFiles) (fault : Option Interruption) :
    operation.KeepsOnError before files fault ↔
      operation.FailsEarly before.toRegistryContents files fault := by
  have hcommit (self : IdentityRegistry CounterSourceIdAllocator) :
      (self.commit files fault).1.isOk = false ↔ interrupts files fault = true := by
    rw [commit_isOk, Bool.not_eq_false']
  cases operation with
  | applyObservations observations => exact applyObservations_keeps_iff h observations files fault
  | advanceRevision =>
    have hkeeps : RegistryOperation.advanceRevision.KeepsOnError before files fault ↔
        ((before.commit files fault).1.isOk = false →
          (before.commit files fault).2.1.toRegistryContents = before.toRegistryContents) := by
      unfold RegistryOperation.KeepsOnError RegistryOperation.run advanceRevision
      dsimp only
      rcases before.commit files fault with ⟨outcome, after, files'⟩
      cases outcome <;> rfl
    rw [hkeeps, hcommit, commit_keeps_iff before files fault before.toRegistryContents rfl]
    show _ ↔ interrupts files fault = false ∨ before.AtLimit
    cases interrupts files fault <;> simp
  | resetNamespace «namespace» =>
    set cleared : IdentityRegistry CounterSourceIdAllocator :=
      { before with «namespace», nextSourceSequence := 0, entries := .empty } with hcleared
    have hkeeps : (RegistryOperation.resetNamespace «namespace»).KeepsOnError before files fault ↔
        ((cleared.commit files fault).1.isOk = false →
          (cleared.commit files fault).2.1.toRegistryContents = before.toRegistryContents) := by
      unfold RegistryOperation.KeepsOnError RegistryOperation.run resetNamespace
      dsimp only
      rw [← hcleared]
      rcases cleared.commit files fault with ⟨outcome, after, files'⟩
      cases outcome <;> rfl
    rw [hkeeps, hcommit, commit_keeps_iff cleared files fault before.toRegistryContents rfl]
    show _ ↔ interrupts files fault = false ∨ (before.AtLimit ∧
      before.toRegistryContents = cleared.toRegistryContents)
    rw [eq_comm (a := cleared.toRegistryContents)]
    cases interrupts files fault <;> simp

end IdentityRegistry

/-! ## Runs -/

/-- The files hold a registry that was committed: they were written from it, or it was read from
them. -/
def Committed (files : RegistryFiles) (contents : RegistryContents) : Prop :=
  ∃ image, opened files = some image ∧
    (image = contents.image ∨ fromPersisted image = .ok contents)

namespace RegistryMachine

variable {m m' : RegistryMachine} {files : RegistryFiles} {«namespace» : RegistryNamespace}
  {fault : Option Interruption}

/-- What is opened was committed. -/
theorem new_committed (h : new files «namespace» fault = some m) :
    Committed m.files m.registry.toRegistryContents := by
  unfold new IdentityRegistry.withAllocator at h
  rcases hload : loadOrInit files «namespace» fault with ⟨outcome, loaded⟩
  rw [hload] at h
  cases outcome with
  | error error => cases h
  | ok contents =>
    cases h
    obtain ⟨image, hopened, hread⟩ := opened_of_loadOrInit hload
    exact ⟨image, hopened, .inr hread⟩

/-- An operation that succeeds has committed what is in memory, or changed nothing. -/
theorem run_committed {operation : RegistryOperation}
    {before after : IdentityRegistry CounterSourceIdAllocator} {files files' : RegistryFiles}
    (h : operation.run before files fault = (.ok (), after, files')) :
    Committed files' after.toRegistryContents ∨ (after = before ∧ files' = files) := by
  -- A commit writes the image to both files.
  have hwritten : ∀ contents : RegistryContents,
      Committed ⟨some contents.bytes, some contents.bytes, none⟩ contents :=
    fun contents => ⟨contents.image, opened_written contents, .inl rfl⟩
  cases RegistryOperation.Runs.of_run h with
  | unchanged observations changes all => exact .inr ⟨rfl, rfl⟩
  | observed observations changes observedAfter after all committed => exact .inl (hwritten _)
  | advanced after committed => exact .inl (hwritten _)
  | reset «namespace» after committed => exact .inl (hwritten _)

/-- Memory is what was committed. In every registry that is reached by calls that may fail, an
operation that fails leaves the namespace, the revision, the sequence and the sources exactly where
it does not fail after it has changed something. And in a run in which no operation does, what is in
memory was committed at one of the calls before, or when the registry was opened. -/
theorem memory_is_committed (hnew : new files «namespace» fault = some m) :
    (∀ cs m', m.attempts cs = some m' →
      ∀ (operation : RegistryOperation) (fault : Option Interruption),
      operation.KeepsOnError m'.registry m'.files fault ↔
        operation.FailsEarly m'.registry.toRegistryContents m'.files fault) ∧
    ∀ cs, (∀ done operation fault rest before, cs = done ++ .operation operation fault :: rest →
        m.attempts done = some before →
          operation.FailsEarly before.registry.toRegistryContents before.files fault) →
      ∀ m', m.attempts cs = some m' → ∃ done rest before, cs = done ++ rest ∧
        m.attempts done = some before ∧
        before.registry.toRegistryContents = m'.registry.toRegistryContents ∧
        Committed before.files m'.registry.toRegistryContents := by
  have hwellformed (cs : List RegistryCall) (m' : RegistryMachine)
      (hattempts : m.attempts cs = some m') : Wellformed m'.registry.toRegistryContents :=
    attempts_wellformed (new_wellformed hnew) hattempts
  refine ⟨fun cs m' hattempts operation fault =>
    IdentityRegistry.keepsOnError_iff (hwellformed cs m' hattempts) operation m'.files fault, ?_⟩
  intro cs
  induction cs using List.reverseRecOn with
  | nil =>
    intro _ m' hattempts
    cases hattempts
    exact ⟨[], [], m, rfl, rfl, rfl, new_committed hnew⟩
  | append_singleton cs c ih =>
    intro hearly m' hattempts
    have hall := hattempts
    unfold attempts at hattempts
    rw [List.foldlM_append] at hattempts
    obtain ⟨last, hlast, hattempt⟩ := Option.bind_eq_some_iff.mp hattempts
    obtain ⟨next, hattempt, hnext⟩ := Option.bind_eq_some_iff.mp hattempt
    cases hnext
    -- What was committed before the last call was so in the whole run.
    obtain ⟨done, rest, before, rfl, hdone, hsame, hcommitted⟩ := ih (by
      intro done operation fault rest before hsplit
      exact hearly done operation fault (rest ++ [c]) before (by rw [hsplit]; simp)) last hlast
    cases c with
    | reopen «namespace» fault =>
      exact ⟨_, [], m', (List.append_nil _).symm, hall, rfl, new_committed hattempt⟩
    | operation operation fault =>
      have hkeeps := (IdentityRegistry.keepsOnError_iff (hwellformed _ last hlast) operation
        last.files fault).mpr (hearly (done ++ rest) operation fault [] last rfl hlast)
      unfold RegistryOperation.KeepsOnError at hkeeps
      unfold attempt at hattempt
      dsimp only at hattempt
      rcases hrun : operation.run last.registry last.files fault with ⟨outcome, after, files'⟩
      rw [hrun] at hattempt hkeeps
      cases hattempt
      cases outcome with
      | error error =>
        have hunchanged := hkeeps rfl
        dsimp only at hunchanged
        refine ⟨done, rest ++ [.operation operation fault], before, List.append_assoc _ _ _, hdone,
          ?_, ?_⟩
        · rw [hsame, hunchanged]
        · rw [hunchanged]
          exact hcommitted
      | ok =>
        rcases run_committed hrun with hcommitted' | ⟨rfl, -⟩
        · exact ⟨_, [], ⟨after, files'⟩, (List.append_nil _).symm, hall, rfl, hcommitted'⟩
        · exact ⟨done, rest ++ [.operation operation fault], before, List.append_assoc _ _ _, hdone,
            hsame, hcommitted⟩

/-- A registry is read at the last revision. A revision fails then without an effect, and a batch of
no observations succeeds. -/
theorem memory_is_committed_example : ∃ m m' : RegistryMachine,
    new ⟨some (savedSpeakers 0xFFFFFFFFFFFFFFFF).bytes, none, none⟩ (generateNamespace 0 0) none = some m ∧
      m.attempts [.operation .advanceRevision (some ⟨0, none⟩),
        .operation (.applyObservations []) none] = some m' ∧
      ∃ done rest before, [.operation .advanceRevision (some ⟨0, none⟩),
          .operation (.applyObservations []) none] = done ++ rest ∧
        m.attempts done = some before ∧
        before.registry.toRegistryContents = m'.registry.toRegistryContents ∧
        Committed before.files m'.registry.toRegistryContents := by
  have hnew : new ⟨some (savedSpeakers 0xFFFFFFFFFFFFFFFF).bytes, none, none⟩ (generateNamespace 0 0) none
      = some ⟨⟨savedSpeakers 0xFFFFFFFFFFFFFFFF, CounterSourceIdAllocator.mk⟩,
        ⟨some (savedSpeakers 0xFFFFFFFFFFFFFFFF).bytes, none, none⟩⟩ := by
    unfold new IdentityRegistry.withAllocator
    rw [loadOrInit_savedSpeakers]
    rfl
  refine ⟨_, _, hnew, rfl, (memory_is_committed hnew).2 _ ?_ _ rfl⟩
  intro done operation fault rest before hsplit hdone
  rcases done with _ | ⟨c, _ | ⟨c', done⟩⟩
  · cases hsplit
    cases hdone
    exact .inr (by decide +kernel)
  · cases hsplit
    exact .inl rfl
  · have hlength := congrArg List.length hsplit
    simp at hlength

/-- The next revision of a new registry fails before anything is written. It is in memory, and the
next batch, which has nothing to commit, returns it, while the files hold the first one. -/
theorem failed_revision_shown : ∃ m failed : RegistryMachine,
    new .none (generateNamespace 1 2) none = some m ∧
      ¬RegistryOperation.advanceRevision.KeepsOnError m.registry m.files (some ⟨0, none⟩) ∧
      m.attempt (.operation .advanceRevision (some ⟨0, none⟩)) = some failed ∧
      (failed.registry.applyObservations [] failed.files none).1
        = .ok ⟨generateNamespace 1 2, 2⟩ ∧
      (opened failed.files).map PersistedRegistry.revision = some 1 := by
  refine ⟨_, _, rfl, ?_, rfl, ?_, ?_⟩
  · intro hkeeps
    have hdiffers : (1 : UInt64) = 2 := (congrArg RegistryContents.revision (hkeeps rfl)).symm
    cases hdiffers
  · decide +kernel
  · exact congrArg (Option.map PersistedRegistry.revision)
      (opened_written (blank (generateNamespace 1 2)))

end RegistryMachine

end ResonanceSignal
