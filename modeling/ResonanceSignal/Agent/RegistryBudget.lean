import ResonanceSignal.Agent.RegistryFaults

/-!
# The identifiers that a batch needs

`apply_observations` allocates an identifier for each source that is new to the registry, and fails
where none is left. Which sources are new is known from the observations and the evidence that the
registry has (`newSources`), and how many identifiers are left from its sequence
(`identifiersLeft`), so whether a batch fails there is known before it is applied
(`observeAll_isOk_iff`).
-/

namespace ResonanceSignal

/-- An observation is of a source that is not among the evidence that is known. -/
def SourceObservation.isNew (known : List ContinuityEvidence) (self : SourceObservation) : Bool :=
  match self.continuity with
  | .stable continuity => !known.contains continuity
  | _ => false

/-- The evidence that is known after an observation. -/
def SourceObservation.known (known : List ContinuityEvidence) (self : SourceObservation) :
    List ContinuityEvidence :=
  match self.continuity with
  | .stable continuity => continuity :: known
  | .ambiguous candidates => known.filter fun continuity => !candidates.contains continuity
  | .unknown => known

/-- The number of sources in a batch that are new, from the evidence that is known. -/
def newSources (known : List ContinuityEvidence) : List SourceObservation → ℕ
  | [] => 0
  | observation :: observations =>
    (if observation.isNew known then 1 else 0) + newSources (observation.known known) observations

/-- The identifiers that are left to a registry. At the end of its sequence the last one may be. -/
def identifiersLeft (contents : RegistryContents) : ℕ :=
  if contents.nextSourceSequence.toNat < 2^64 - 1 then
    2^64 - 1 - contents.nextSourceSequence.toNat
  else if contents.entries.contains
      (counterSourceId contents.namespace.asStr contents.nextSourceSequence) then 0
  else 1

/-- The evidence that is known, as far as it is observed, is that of the sources that are not
retired. -/
def Knows (observed : List ContinuityEvidence) (m : Sources) (known : List ContinuityEvidence) :
    Prop :=
  ∀ continuity ∈ observed, continuity ∈ known ↔
    ∃ entry ∈ m.values, entry.state.isRetired = false ∧ entry.continuity = continuity

namespace IdentityRegistry

variable {before after : IdentityRegistry CounterSourceIdAllocator}
  {observed known : List ContinuityEvidence}

/-! ## What is left -/

/-- An identifier of a larger sequence is not that of a source. -/
theorem contains_counterSourceId (h : Covers before.toRegistryContents) {sequence : UInt64}
    (hlt : before.nextSourceSequence < sequence) («namespace» : String) :
    before.entries.contains (counterSourceId «namespace» sequence) = false := by
  rw [KeyedMap.contains_eq_false]
  intro entry hentry hkey
  have hparsed : parseSequenceFromId entry.id.asStr = some sequence := by
    show parseSequenceFromId entry.key = _
    rw [hkey, parseSequenceFromId_counterSourceId]
  have hle := h entry hentry sequence hparsed
  exact absurd hlt (UInt64.not_lt.mpr hle)

/-- What is left depends on the namespace, the sequence, and the identifiers. -/
theorem identifiersLeft_congr {contents contents' : RegistryContents}
    (hnamespace : contents'.namespace = contents.namespace)
    (hsequence : contents'.nextSourceSequence = contents.nextSourceSequence)
    (hentries : ∀ id, contents'.entries.contains id = contents.entries.contains id) :
    identifiersLeft contents' = identifiersLeft contents := by
  unfold identifiersLeft
  rw [hnamespace, hsequence, hentries]

/-- The candidate of an attempt. -/
theorem nextCandidate_counter (before : IdentityRegistry CounterSourceIdAllocator) :
    before.nextCandidate = (counterSourceId before.namespace.asStr
        (Checked.saturatingAdd before.nextSourceSequence 1),
      { before with
        nextSourceSequence := Checked.saturatingAdd before.nextSourceSequence 1 }) :=
  rfl

/-- Attempts that do not advance the sequence fail, where the last identifier is taken. -/
theorem allocateWithin_exhausted (attempts : ℕ)
    (hsequence : Checked.saturatingAdd before.nextSourceSequence 1 = before.nextSourceSequence)
    (htaken : before.entries.contains
      (counterSourceId before.namespace.asStr before.nextSourceSequence) = true) :
    allocateWithin attempts before = (.error .sourceIdAllocationFailed, before) := by
  induction attempts with
  | zero => rfl
  | succ attempts ih =>
    have hcandidate : before.nextCandidate
        = (counterSourceId before.namespace.asStr before.nextSourceSequence, before) := by
      rw [nextCandidate_counter, hsequence]
    unfold allocateWithin
    rw [hcandidate]
    dsimp only
    rw [if_pos (.inr htaken)]
    exact ih

/-- The first attempt succeeds where its candidate is free. -/
theorem allocateSourceId_free
    (hfree : before.entries.contains (counterSourceId before.namespace.asStr
      (Checked.saturatingAdd before.nextSourceSequence 1)) = false) :
    ∃ id, id.asStr = counterSourceId before.namespace.asStr
        (Checked.saturatingAdd before.nextSourceSequence 1) ∧
      before.allocateSourceId = (.ok id, { before with
        nextSourceSequence := Checked.saturatingAdd before.nextSourceSequence 1 }) := by
  set candidate := counterSourceId before.namespace.asStr
    (Checked.saturatingAdd before.nextSourceSequence 1) with hcandidate
  have hblank : Text.isBlank candidate = false := isBlank_counterSourceId _ _
  have hempty : candidate ≠ "" := by
    intro h
    rw [h] at hblank
    cases hblank
  refine ⟨⟨candidate, hblank⟩, rfl, ?_⟩
  unfold allocateSourceId
  show allocateWithin (4095 + 1) before = _
  unfold allocateWithin
  rw [nextCandidate_counter]
  dsimp only
  rw [← hcandidate, if_neg (not_or.mpr ⟨hempty, Bool.eq_false_iff.mp hfree⟩)]
  have hnew : SourceId.new candidate = .ok ⟨candidate, hblank⟩ := SourceId.new_asStr ⟨candidate, hblank⟩
  rw [hnew]
  rfl

/-- An allocation fails where nothing is left, and changes nothing then. Otherwise the identifier is
one of those that are left. -/
theorem allocateSourceId_left (h : Covers before.toRegistryContents) :
    (identifiersLeft before.toRegistryContents = 0 ∧
      before.allocateSourceId = (.error .sourceIdAllocationFailed, before)) ∨
    ∃ id allocated, before.allocateSourceId = (.ok id, allocated) ∧
      ∀ continuity displayName,
        identifiersLeft (allocated.insert ⟨id, continuity, displayName, .live⟩).toRegistryContents + 1
          = identifiersLeft before.toRegistryContents := by
  have hone : (1 : UInt64).toNat = 1 := rfl
  have hvalue := Checked.saturatingAdd_toNat before.nextSourceSequence 1
  have hbound := before.nextSourceSequence.toNat_lt
  -- Below the last sequence the next one is free; at the last it stays, and is used once.
  by_cases hend : before.nextSourceSequence.toNat < 2^64 - 1
  · right
    have hnext : (Checked.saturatingAdd before.nextSourceSequence 1).toNat
        = before.nextSourceSequence.toNat + 1 := by omega
    have hlt : before.nextSourceSequence < Checked.saturatingAdd before.nextSourceSequence 1 := by
      rw [UInt64.lt_iff_toNat_lt, hnext]
      exact Nat.lt_succ_self _
    obtain ⟨id, hid, hallocate⟩ :=
      allocateSourceId_free (contains_counterSourceId h hlt before.namespace.asStr)
    refine ⟨id, _, hallocate, ?_⟩
    intro continuity displayName
    -- The new source takes the identifier of the next sequence.
    have htaken : (before.entries.insert ⟨id, continuity, displayName, .live⟩).contains
        (counterSourceId before.namespace.asStr
          (Checked.saturatingAdd before.nextSourceSequence 1)) = true := by
      rw [← hid]
      exact KeyedMap.contains_iff.mpr ⟨_, KeyedMap.mem_insert.mpr (.inl rfl), rfl⟩
    unfold identifiersLeft insert
    dsimp only
    rw [htaken, if_pos hend, hnext, if_pos rfl]
    split <;> omega
  · have hsame : Checked.saturatingAdd before.nextSourceSequence 1 = before.nextSourceSequence := by
      apply UInt64.toNat_inj.mp
      omega
    cases htaken : before.entries.contains
        (counterSourceId before.namespace.asStr before.nextSourceSequence) with
    | true =>
      left
      refine ⟨?_, allocateWithin_exhausted 4096 hsame htaken⟩
      unfold identifiersLeft
      rw [if_neg hend, if_pos htaken]
    | false =>
      right
      rw [← hsame] at htaken
      obtain ⟨id, hid, hallocate⟩ := allocateSourceId_free htaken
      refine ⟨id, _, hallocate, ?_⟩
      intro continuity displayName
      rw [hsame] at htaken hid
      have htaken' : (before.entries.insert ⟨id, continuity, displayName, .live⟩).contains
          (counterSourceId before.namespace.asStr before.nextSourceSequence) = true := by
        rw [← hid]
        exact KeyedMap.contains_iff.mpr ⟨_, KeyedMap.mem_insert.mpr (.inl rfl), rfl⟩
      unfold identifiersLeft insert
      dsimp only
      rw [hsame, htaken', htaken, if_neg hend, if_pos rfl, if_neg hend]
      rfl

/-! ## What is needed -/

/-- What is known after an observation is the evidence after it. -/
theorem Observes.knows {observation : SourceObservation} {id? : Option SourceId} {changes : Bool}
    (h : Observes observed before observation id? changes after)
    (hknows : Knows observed before.entries known) :
    Knows observed after.entries (observation.known known) := by
  intro continuity hobserved
  have hbefore := hknows continuity hobserved
  cases h with
  | unknown => exact hbefore
  | @ambiguous displayName candidates =>
    show continuity ∈ known.filter _ ↔ _
    rw [List.mem_filter, hbefore, Bool.not_eq_true', ← Bool.not_eq_true, List.contains_iff_mem]
    -- A source stays live exactly where its evidence is no candidate.
    constructor
    · rintro ⟨⟨entry, hentry, hlive, rfl⟩, hnot⟩
      have hkey : entry.key ∉ before.ambiguousIds candidates :=
        fun hmem => hnot ((mem_ambiguousIds hentry).mp hmem).2
      refine ⟨entry, List.mem_map.mpr ⟨entry, hentry, ?_⟩, hlive, rfl⟩
      exact SourceRecord.retiredAs_of_not_mem hkey
    · rintro ⟨entry', hentry', hlive, rfl⟩
      obtain ⟨entry, hentry, rfl⟩ : ∃ entry ∈ before.entries.values,
          entry.retiredAs .ambiguousReturn (before.ambiguousIds candidates) = entry' :=
        List.mem_map.mp hentry'
      have hevolves := SourceRecord.evolves_retiredAs .ambiguousReturn
        (before.ambiguousIds candidates) entry
      have hbeforeLive := hevolves.not_isRetired hlive
      rw [hevolves.continuity]
      refine ⟨⟨entry, hentry, hbeforeLive, rfl⟩, fun hmem => ?_⟩
      have hkey := (mem_ambiguousIds hentry).mpr ⟨hbeforeLive, hmem⟩
      rw [SourceRecord.retiredAs_of_mem hbeforeLive hkey] at hlive
      cases hlive
  | @found displayName found entry hfound =>
    obtain ⟨hentry, hlive, rfl⟩ := findLive_eq_some hfound
    obtain ⟨f, hf, heq, hevolves, hothers⟩ := insert_found_eq hfound displayName
    have hinserted : ({ entry with state := .live, displayName } : SourceRecord)
        ∈ (before.insert { entry with state := .live, displayName }).entries.values :=
      KeyedMap.mem_insert.mpr (.inl rfl)
    show continuity ∈ entry.continuity :: known ↔ _
    rw [List.mem_cons, hbefore]
    -- The source that is found was live before, under the same evidence.
    constructor
    · rintro (rfl | ⟨other, hother, hotherLive, rfl⟩)
      · exact ⟨_, hinserted, rfl, rfl⟩
      · by_cases hkey : other.key = entry.key
        · rw [KeyedMap.eq_of_key_eq hother hentry hkey]
          exact ⟨_, hinserted, rfl, rfl⟩
        · exact ⟨other, KeyedMap.mem_insert.mpr (.inr ⟨hother, hkey⟩), hotherLive, rfl⟩
    · rintro ⟨other, hother, hotherLive, rfl⟩
      rcases KeyedMap.mem_insert.mp hother with rfl | ⟨hother, -⟩
      · exact .inl rfl
      · exact .inr ⟨other, hother, hotherLive, rfl⟩
  | @discovered displayName new id allocated hnone hallocates =>
    obtain ⟨ids, hids, hreused⟩ := retireReused_eq before observed new
    have hentries : allocated.entries = before.entries.map
        (SourceRecord.retiredAs .nativeKeyReuse ids)
        (SourceRecord.key_retiredAs .nativeKeyReuse ids) := by
      rw [hallocates.entries, hids]
      rfl
    have hfresh := hallocates.fresh id rfl
    rw [← hallocates.entries] at hfresh
    show continuity ∈ new :: known ↔ _
    rw [List.mem_cons, hbefore]
    constructor
    · rintro (rfl | ⟨entry, hentry, hlive, rfl⟩)
      · exact ⟨_, KeyedMap.mem_insert.mpr (.inl rfl), rfl, rfl⟩
      · -- A source whose key is reused is not observed.
        have hkey : entry.key ∉ ids := by
          intro hmem
          obtain ⟨-, hunobserved⟩ := Bool.and_eq_true_iff.mp (hreused entry hentry hmem)
          rw [List.contains_iff_mem.mpr hobserved] at hunobserved
          cases hunobserved
        have hstays : entry ∈ allocated.entries.values := by
          rw [hentries]
          exact List.mem_map.mpr ⟨entry, hentry, SourceRecord.retiredAs_of_not_mem hkey⟩
        refine ⟨entry, KeyedMap.mem_insert.mpr (.inr ⟨hstays, ?_⟩), hlive, rfl⟩
        exact KeyedMap.contains_eq_false.mp hfresh entry hstays
    · rintro ⟨entry', hentry', hlive, rfl⟩
      rcases KeyedMap.mem_insert.mp hentry' with rfl | ⟨hentry', -⟩
      · exact .inl rfl
      · rw [hentries] at hentry'
        obtain ⟨entry, hentry, rfl⟩ : ∃ entry ∈ before.entries.values,
            entry.retiredAs .nativeKeyReuse ids = entry' := List.mem_map.mp hentry'
        have hevolves := SourceRecord.evolves_retiredAs .nativeKeyReuse ids entry
        exact .inr ⟨entry, hentry, hevolves.not_isRetired hlive, hevolves.continuity.symm⟩

/-- A source is new exactly where its evidence is not known. -/
theorem isNew_iff (hknows : Knows observed before.entries known) (displayName : String)
    {continuity : ContinuityEvidence} (hobserved : continuity ∈ observed) :
    (⟨displayName, .stable continuity⟩ : SourceObservation).isNew known = true ↔
      before.findLive continuity = none := by
  show (!known.contains continuity) = true ↔ _
  rw [Bool.not_eq_true', ← Bool.not_eq_true, List.contains_iff_mem, hknows continuity hobserved,
    findLive_eq_none]
  constructor
  · intro h entry hentry hlive heq
    exact h ⟨entry, hentry, hlive, heq⟩
  · rintro h ⟨entry, hentry, hlive, heq⟩
    exact h entry hentry hlive heq

/-- Retiring the source whose key is reused leaves what is left. -/
theorem identifiersLeft_retireReused (before : IdentityRegistry CounterSourceIdAllocator)
    (observed : List ContinuityEvidence) (continuity : ContinuityEvidence) :
    identifiersLeft (before.retireReused observed continuity).toRegistryContents
      = identifiersLeft before.toRegistryContents := by
  obtain ⟨hkept, hnamespace, -, hsequence⟩ := retireReused_kept before observed continuity
  exact identifiersLeft_congr hnamespace hsequence hkept.contains

/-- An observation of a new source takes one of the identifiers that are left, and fails if there is
none. Any other one takes none. -/
theorem observe_left (h : Covers before.toRegistryContents)
    (hknows : Knows observed before.entries known) (observation : SourceObservation)
    (hobserved : ∀ continuity, observation.continuity = .stable continuity →
      continuity ∈ observed) (changed : Bool) :
    (observation.isNew known = true ∧ identifiersLeft before.toRegistryContents = 0 ∧
      ∃ error failed, before.observe observed changed observation = (.error error, failed)) ∨
    ∃ changed' after, before.observe observed changed observation = (.ok changed', after) ∧
      identifiersLeft after.toRegistryContents + (if observation.isNew known then 1 else 0)
        = identifiersLeft before.toRegistryContents := by
  obtain ⟨displayName, continuity⟩ := observation
  unfold observe
  cases continuity with
  | unknown => exact .inr ⟨_, _, rfl, rfl⟩
  | ambiguous candidates =>
    refine .inr ⟨_, _, rfl, ?_⟩
    rw [foldl_retire_eq]
    exact identifiersLeft_congr rfl rfl (Kept.of_retiredAs before.entries _ _).contains
  | stable continuity =>
    -- An observation is new where no live source has its evidence.
    have hnew := isNew_iff hknows displayName (hobserved continuity rfl)
    dsimp only
    cases hfound : before.findLive continuity with
    | some entry =>
      have hknown : ¬(⟨displayName, .stable continuity⟩ : SourceObservation).isNew known = true := by
        rw [hnew, hfound]
        exact nofun
      refine .inr ⟨_, _, rfl, ?_⟩
      rw [if_neg hknown]
      obtain ⟨f, hf, heq, hevolves, -⟩ := insert_found_eq hfound displayName
      rw [heq]
      exact identifiersLeft_congr rfl rfl (Kept.of_map hf hevolves).contains
    | none =>
      -- Reused keys are retired first, which takes no identifier.
      obtain ⟨hkept, -, -, hsequence⟩ := retireReused_kept before observed continuity
      have hcovers : Covers (before.retireReused observed continuity).toRegistryContents :=
        h.of_kept hkept (UInt64.le_of_eq hsequence.symm)
      have hleft := identifiersLeft_retireReused before observed continuity
      rw [if_pos (hnew.mpr hfound), ← hleft]
      rcases allocateSourceId_left hcovers with
        ⟨hzero, hallocate⟩ | ⟨id, allocated, hallocate, hone⟩
      · refine .inl ⟨hnew.mpr hfound, hzero, .sourceIdAllocationFailed,
          before.retireReused observed continuity, ?_⟩
        rw [hallocate]
      · refine .inr ⟨true, allocated.insert ⟨id, continuity, displayName, .live⟩, ?_,
          hone continuity displayName⟩
        rw [hallocate]

/-- A batch of observations succeeds exactly where there is an identifier for each new source. -/
theorem observeAll_isOk_iff {observations : List SourceObservation} {changed : Bool}
    (h : Wellformed before.toRegistryContents) (hknows : Knows observed before.entries known)
    (hobserved : ∀ continuity ∈ observedContinuities observations, continuity ∈ observed) :
    (observeAll observed observations changed before).1.isOk = true ↔
      newSources known observations ≤ identifiersLeft before.toRegistryContents := by
  induction observations generalizing before known changed with
  | nil => exact ⟨fun _ => Nat.zero_le _, fun _ => rfl⟩
  | cons observation observations ih =>
    obtain ⟨hfirst, hrest⟩ := forall_observed_cons hobserved
    unfold observeAll newSources
    rcases observe_left h.covers hknows observation hfirst changed with
      ⟨hnew, hzero, error, failed, hobserve⟩ | ⟨changed', after, hobserve, hleft⟩
    · rw [hobserve, hzero, if_pos hnew]
      constructor
      · intro hok
        cases hok
      · intro hle
        omega
    · rw [hobserve]
      dsimp only
      obtain ⟨changes, -, hobserves⟩ := observe_ok hobserve
      obtain ⟨-, hcovers, hone⟩ := hobserves.steps.preserves h.covers h.oneEach
      rw [ih ⟨hcovers, hone⟩ (hobserves.knows hknows) hrest, ← hleft]
      omega

end IdentityRegistry

end ResonanceSignal
