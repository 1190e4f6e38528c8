import ResonanceSignal.Agent.DiscoveryCoherence
import ResonanceSignal.Agent.RegistrySettled

/-!
# Refreshes that repeat

A refresh is repeated with the same endpoints. What an observation of a batch makes of the sources
(`Reflects`) is kept by the others of the batch, unless one of them names its evidence as ambiguous,
or it does so itself (`Observes.keeps_reflects`). So after a batch whose observations agree each of
them finds what it made, and the batch changes nothing when it comes again; and a batch that comes
again and changes nothing has only observations that agree. For the endpoints of a refresh this says
that no evidence is reported as stable by one endpoint and as ambiguous by another
(`refresh_repeats_iff`).
-/

namespace ResonanceSignal

/-! ## What an observation makes of the sources -/

/-- Two observations of a batch do not speak of the same evidence, or both of it as ambiguous. -/
structure Agrees (observation other : SourceObservation) : Prop where
  /-- They do not have the same stable evidence. -/
  stable : ∀ continuity, observation.continuity = .stable continuity →
    other.continuity ≠ .stable continuity
  /-- The stable evidence of the first is not ambiguous to the second. -/
  unnamed : ∀ continuity candidates, observation.continuity = .stable continuity →
    other.continuity = .ambiguous candidates → continuity ∉ candidates
  /-- The stable evidence of the second is not ambiguous to the first. -/
  unnaming : ∀ continuity candidates, other.continuity = .stable continuity →
    observation.continuity = .ambiguous candidates → continuity ∉ candidates

/-- They agree the other way round. -/
theorem Agrees.symm {observation other : SourceObservation} (h : Agrees observation other) :
    Agrees other observation where
  stable continuity hother hobservation := h.stable continuity hobservation hother
  unnamed := h.unnaming
  unnaming := h.unnamed

/-- The sources are as an observation makes them: its source is live and has its name, or those that
it names are retired. -/
def Reflects (m : Sources) (observation : SourceObservation) : Prop :=
  match observation.continuity with
  | .stable continuity => ∃ entry ∈ m.values, entry.state = .live ∧
      entry.continuity = continuity ∧ entry.displayName = observation.displayName
  | .ambiguous candidates => ∀ entry ∈ m.values, entry.state.isRetired = false →
      entry.continuity ∉ candidates
  | .unknown => True

/-- A retirement that does not concern an observation keeps what it made. -/
theorem Reflects.retiredAs {m : Sources} {observation : SourceObservation}
    (h : Reflects m observation) (reason : RetiredReason) (ids : List String)
    (hstays : ∀ continuity, observation.continuity = .stable continuity →
      ∀ entry ∈ m.values, entry.state.isRetired = false → entry.continuity = continuity →
        entry.key ∉ ids) :
    Reflects (m.map (SourceRecord.retiredAs reason ids) (SourceRecord.key_retiredAs reason ids))
      observation := by
  obtain ⟨displayName, continuity⟩ := observation
  cases continuity with
  | unknown => trivial
  | ambiguous candidates =>
    intro entry' hentry' hlive
    obtain ⟨entry, hentry, rfl⟩ := KeyedMap.mem_map.mp hentry'
    -- A source that is live afterwards was not retired, and is the one from before.
    have hsame := SourceRecord.retiredAs_eq_self hlive
    rw [hsame] at hlive ⊢
    exact h entry hentry hlive
  | stable continuity =>
    obtain ⟨entry, hentry, hlive, hevidence, hname⟩ := h
    have hretired : entry.state.isRetired = false := by
      rw [hlive]
      rfl
    -- The source with the stable evidence is not among the retired ones.
    have hkey : entry.key ∉ ids := hstays continuity rfl entry hentry hretired hevidence
    have hsame : entry.retiredAs reason ids = entry := SourceRecord.retiredAs_of_not_mem hkey
    exact ⟨entry, KeyedMap.mem_map.mpr ⟨entry, hentry, hsame⟩, hlive, hevidence, hname⟩

/-- A source whose evidence does not concern an observation takes the place of a source of the same
evidence, or of none: what the observation made is kept. -/
theorem Reflects.insert {m : Sources} {observation : SourceObservation} {entry : SourceRecord}
    (h : Reflects m observation)
    (hplace : ∀ other ∈ m.values, other.key = entry.key → other.continuity = entry.continuity)
    (hstable : observation.continuity ≠ .stable entry.continuity)
    (hnamed : ∀ candidates, observation.continuity = .ambiguous candidates →
      entry.continuity ∉ candidates) :
    Reflects (m.insert entry) observation := by
  obtain ⟨displayName, continuity⟩ := observation
  cases continuity with
  | unknown => trivial
  | ambiguous candidates =>
    intro other hother hlive
    rcases KeyedMap.mem_insert.mp hother with rfl | ⟨hother, -⟩
    · exact hnamed candidates rfl
    · exact h other hother hlive
  | stable continuity =>
    obtain ⟨other, hother, hlive, hevidence, hname⟩ := h
    -- An entry in its place would bring the same evidence.
    have hkey : other.key ≠ entry.key := by
      intro hkey
      apply hstable
      rw [← hplace other hother hkey, hevidence]
    exact ⟨other, KeyedMap.mem_insert.mpr (.inr ⟨hother, hkey⟩), hlive, hevidence, hname⟩

namespace IdentityRegistry

variable {before middle after : IdentityRegistry CounterSourceIdAllocator}
  {observed : List ContinuityEvidence} {observations : List SourceObservation}

/-- The sources are as the observation makes them. -/
theorem Observes.reflects {observation : SourceObservation} {id? : Option SourceId}
    {changes : Bool} (h : Observes observed before observation id? changes after) :
    Reflects after.entries observation := by
  cases h with
  | unknown => trivial
  | @ambiguous displayName candidates =>
    intro entry' hentry' hlive hmem
    obtain ⟨entry, hentry, rfl⟩ : ∃ entry ∈ before.entries.values,
        entry.retiredAs .ambiguousReturn (before.ambiguousIds candidates) = entry' :=
      List.mem_map.mp hentry'
    have hsame := SourceRecord.retiredAs_eq_self hlive
    rw [hsame] at hlive hmem
    -- it would have been retired
    have hids := (mem_ambiguousIds hentry).mpr ⟨hlive, hmem⟩
    rw [SourceRecord.retiredAs_of_mem hlive hids] at hsame
    have hstate := congrArg SourceRecord.state hsame
    rw [← hstate] at hlive
    cases hlive
  | @found displayName continuity entry hfound =>
    obtain ⟨-, -, hevidence⟩ := findLive_eq_some hfound
    exact ⟨_, KeyedMap.mem_insert.mpr (.inl rfl), rfl, hevidence, rfl⟩
  | discovered hnone hallocates =>
    exact ⟨_, KeyedMap.mem_insert.mpr (.inl rfl), rfl, rfl, rfl⟩

/-- An observation keeps what another one made that agrees with it, and is of the same batch. -/
theorem Observes.keeps_reflects {observation other : SourceObservation} {id? : Option SourceId}
    {changes : Bool} (h : Observes observed before observation id? changes after)
    (hreflects : Reflects before.entries other) (hagrees : Agrees other observation)
    (hobserved : ∀ continuity, other.continuity = .stable continuity → continuity ∈ observed) :
    Reflects after.entries other := by
  cases h with
  | unknown => exact hreflects
  | @ambiguous displayName candidates =>
    refine hreflects.retiredAs _ _ fun continuity hother entry hentry _ hevidence hids => ?_
    obtain ⟨-, hmem⟩ := (mem_ambiguousIds hentry).mp hids
    exact hagrees.unnamed continuity candidates hother rfl (hevidence ▸ hmem)
  | @found displayName continuity entry hfound =>
    obtain ⟨hentry, -, rfl⟩ := findLive_eq_some hfound
    refine hreflects.insert ?_ ?_ ?_
    · intro same hsame hkey
      rw [KeyedMap.eq_of_key_eq hsame hentry hkey]
    · exact hagrees.symm.stable entry.continuity rfl
    · exact fun candidates hcandidates => hagrees.unnaming _ candidates rfl hcandidates
  | @discovered displayName continuity id allocated hnone hallocates =>
    obtain ⟨ids, hids, hreused⟩ := retireReused_eq before observed continuity
    have hkept : Reflects (before.retireReused observed continuity).entries other := by
      rw [hids]
      refine hreflects.retiredAs _ _ fun evidence hother entry hentry _ hevidence hkey => ?_
      -- a source whose key is reused is not observed in the batch
      have hentryReused := hreused entry hentry hkey
      unfold isReused at hentryReused
      simp only [Bool.and_eq_true, Bool.not_eq_true', List.contains_eq_mem,
        decide_eq_false_iff_not] at hentryReused
      exact hentryReused.2 (hevidence ▸ hobserved evidence hother)
    show Reflects (allocated.entries.insert _) other
    rw [hallocates.entries]
    refine hkept.insert ?_ ?_ ?_
    · intro same hsame hkey
      exact absurd hkey (KeyedMap.contains_eq_false.mp (hallocates.fresh id rfl) same hsame)
    · exact hagrees.symm.stable continuity rfl
    · exact fun candidates hcandidates => hagrees.unnaming _ candidates rfl hcandidates

/-- A batch keeps what an observation made before it that agrees with all of the batch. -/
theorem ObservesAll.keeps_reflects {other : SourceObservation} {ids : List SourceId}
    {changes : Bool} (h : ObservesAll observed before observations ids changes after)
    (hreflects : Reflects before.entries other)
    (hagrees : ∀ observation ∈ observations, Agrees other observation)
    (hobserved : ∀ continuity, other.continuity = .stable continuity → continuity ∈ observed) :
    Reflects after.entries other := by
  induction h with
  | nil => exact hreflects
  | cons h hs ih =>
    obtain ⟨hfirst, hrest⟩ := List.forall_mem_cons.mp hagrees
    exact ih (h.keeps_reflects hreflects hfirst hobserved) hrest

/-- After a batch whose observations agree, the sources are as each of them makes them. -/
theorem ObservesAll.reflects {ids : List SourceId} {changes : Bool}
    (h : ObservesAll observed before observations ids changes after)
    (hagrees : observations.Pairwise Agrees)
    (hobserved : ∀ continuity ∈ observedContinuities observations, continuity ∈ observed) :
    ∀ observation ∈ observations, Reflects after.entries observation := by
  induction h with
  | nil => exact nofun
  | cons h hs ih =>
    obtain ⟨hfirst, hrest⟩ := List.pairwise_cons.mp hagrees
    obtain ⟨hobservedFirst, hobservedRest⟩ := forall_observed_cons hobserved
    exact List.forall_mem_cons.mpr
      ⟨hs.keeps_reflects h.reflects hfirst hobservedFirst, ih hrest hobservedRest⟩

/-- An observation is settled where the sources are as it makes them. -/
theorem isSettled_of_reflects {m : Sources} (hone : OneEach m) {observation : SourceObservation}
    (h : Reflects m observation) : isSettled m [observation] = true := by
  obtain ⟨displayName, continuity⟩ := observation
  rw [isSettled_singleton]
  unfold isCalm
  cases continuity with
  | unknown => exact ⟨rfl, fun _ _ _ => nofun⟩
  | ambiguous candidates =>
    refine ⟨List.all_eq_true.mpr fun entry hentry => ?_, fun _ _ _ => nofun⟩
    rw [Bool.or_eq_true, Bool.not_eq_true', List.contains_eq_mem, decide_eq_false_iff_not]
    cases hretired : entry.state.isRetired with
    | true => exact .inl rfl
    | false => exact .inr (h entry hentry hretired)
  | stable continuity =>
    obtain ⟨entry, hentry, hlive, rfl, hname⟩ := h
    have hisLive : entry.state.isLive = true := by
      rw [hlive]
      rfl
    constructor
    · refine List.any_eq_true.mpr ⟨entry, hentry, ?_⟩
      rw [hisLive, decide_eq_true rfl]
      rfl
    · intro other hother hretired hevidence
      -- Only one source that is not retired has this evidence.
      have hsame : entry = other := hone entry hentry other hother
        (SourceRecord.isRetired_of_isLive hisLive) hretired
        (ObservedContinuity.stable.inj hevidence)
      rw [← hsame]
      exact hname

/-- A batch is settled where each of its observations is. -/
theorem isSettled_of_each {m : Sources}
    (h : ∀ observation ∈ observations, isSettled m [observation] = true) :
    isSettled m observations = true := by
  have hnames : ∀ entry ∈ m.values, renamed observations entry = entry := by
    intro entry hentry
    induction observations with
    | nil =>
      unfold renamed
      split <;> rfl
    | cons observation observations ih =>
      obtain ⟨hfirst, hrest⟩ := List.forall_mem_cons.mp h
      rw [← renamed_cons, (isSettled_iff.mp hfirst).2 entry hentry]
      exact ih hrest
  refine isSettled_iff.mpr ⟨fun observation hobservation => ?_, hnames⟩
  exact (isSettled_iff.mp (h observation hobservation)).1 observation List.mem_cons_self

variable {files files' : RegistryFiles} {fault : Option Interruption}
  {snapshot : DiscoverySnapshot}

/-- A batch changes nothing that finds the sources as its observations make them. -/
theorem applyObservations_reflected (hone : OneEach before.entries)
    (hunseen : Unseen (observedContinuities observations) before.entries)
    (hreflects : ∀ observation ∈ observations, Reflects before.entries observation)
    (files : RegistryFiles) (fault : Option Interruption) :
    before.applyObservations observations files fault = (.ok before.snapshot, before, files) := by
  have hstays := hunseen.stays
  have heach : ∀ observation ∈ observations, isSettled before.entries [observation] = true :=
    fun observation hobservation => isSettled_of_reflects hone (hreflects observation hobservation)
  obtain ⟨changed, hobserve⟩ := observeAll_settled (observedContinuities observations) hone
    (isSettled_of_each heach) false
  obtain ⟨changes, hchanged, hall⟩ := observeAll_ok hobserve
  have hnone : changed = false := by
    rw [hchanged, (hall.changes_iff hone).mpr heach]
    rfl
  unfold applyObservations
  dsimp only
  rw [hstays, markAllAbsent_eq_self hstays, hobserve, hnone]
  rfl

/-- A batch that succeeds leaves the sources only where it is settled. -/
theorem isSettled_of_applyObservations (hone : OneEach before.entries)
    (hunseen : Unseen (observedContinuities observations) before.entries)
    (h : before.applyObservations observations files fault = (.ok snapshot, after, files'))
    (hsame : after.entries = before.entries) : isSettled before.entries observations = true := by
  have hstays := hunseen.stays
  -- Whether or not the pass is committed, its entries are the old ones.
  have hsettled {changed : Bool} {observedAfter : IdentityRegistry CounterSourceIdAllocator}
      (hobserve : observeAll (observedContinuities observations) observations
        (before.entries.values.any (disappears (observedContinuities observations)))
        (before.markAllAbsent (observedContinuities observations)) = (.ok changed, observedAfter))
      (hentries : observedAfter.entries = before.entries) :
      isSettled before.entries observations = true := by
    rw [markAllAbsent_eq_self hstays] at hobserve
    obtain ⟨changes, -, hall⟩ := observeAll_ok hobserve
    exact (hall.entries_eq_iff hone hobserve).mp hentries
  rcases applyObservations_cases before observations files fault with
    ⟨raised, failed, -, hoperation⟩ | ⟨observedAfter, hobserve, hoperation⟩ |
      ⟨observedAfter, hobserve, hoperation⟩
  · rw [hoperation] at h
    cases h
  · rw [hoperation] at h
    cases h
    exact hsettled hobserve hsame
  · rw [hoperation] at h
    obtain ⟨rfl, -, -⟩ := commit_eq_ok h
    exact hsettled hobserve hsame

/-- Observations that leave the sources agree: the source of stable evidence is live, and those that
are named as ambiguous are retired. -/
theorem not_ambiguous_of_isSettled {m : Sources} (h : isSettled m observations = true)
    {displayName displayName' : String} {continuity : ContinuityEvidence}
    {candidates : List ContinuityEvidence}
    (hstable : ⟨displayName, .stable continuity⟩ ∈ observations)
    (hambiguous : ⟨displayName', .ambiguous candidates⟩ ∈ observations) :
    continuity ∉ candidates := by
  have hlive := (isSettled_iff.mp h).1 _ hstable
  have hretired := (isSettled_iff.mp h).1 _ hambiguous
  obtain ⟨entry, hentry, hfound⟩ := List.any_eq_true.mp hlive
  obtain ⟨hisLive, hevidence⟩ := Bool.and_eq_true_iff.mp hfound
  have hnamed := List.all_eq_true.mp hretired entry hentry
  rw [SourceRecord.isRetired_of_isLive hisLive, Bool.false_or, Bool.not_eq_true',
    List.contains_eq_mem, decide_eq_false_iff_not] at hnamed
  rwa [of_decide_eq_true hevidence] at hnamed

end IdentityRegistry

/-! ## Endpoints that do not contradict each other -/

/-- No evidence is that of one endpoint alone and ambiguous to another. -/
def Unambiguous (active : List PlaybackEndpointObservation) : Prop :=
  ∀ observation ∈ active, ∀ candidates, observation.continuity = .ambiguous candidates →
    ∀ continuity ∈ candidates, stableContinuityCount active continuity ≠ 1

/-- What the registry is told is what the endpoints report, except for the stable evidence that
several of them have. -/
theorem mem_gather {count : ContinuityEvidence → ℕ} {duplicates : List ContinuityEvidence}
    {active : List PlaybackEndpointObservation} {told : SourceObservation}
    (h : told ∈ (gather count duplicates active).1) :
    ∃ observation ∈ active,
      (told.continuity = observation.continuity ∧
        ∀ continuity, told.continuity = .stable continuity → count continuity = 1) ∨
      ∃ continuity, told.continuity = .ambiguous [continuity] ∧
        observation.continuity = .stable continuity ∧ count continuity ≠ 1 := by
  induction active generalizing duplicates with
  | nil => cases h
  | cons observation active ih =>
    have hlater {duplicates : List ContinuityEvidence}
        (h : told ∈ (gather count duplicates active).1) :
        ∃ other ∈ observation :: active,
          (told.continuity = other.continuity ∧
            ∀ continuity, told.continuity = .stable continuity → count continuity = 1) ∨
          ∃ continuity, told.continuity = .ambiguous [continuity] ∧
            other.continuity = .stable continuity ∧ count continuity ≠ 1 := by
      obtain ⟨other, hother, htold⟩ := ih h
      exact ⟨other, List.mem_cons_of_mem _ hother, htold⟩
    obtain ⟨displayName, state, continuity, isDefaultPlayback⟩ := observation
    unfold gather at h
    cases continuity with
    | unknown =>
      rcases List.mem_cons.mp h with rfl | h
      · exact ⟨_, List.mem_cons_self, .inl ⟨rfl, fun _ hstable => by cases hstable⟩⟩
      · exact hlater h
    | ambiguous candidates =>
      rcases List.mem_cons.mp h with rfl | h
      · exact ⟨_, List.mem_cons_self, .inl ⟨rfl, fun _ hstable => by cases hstable⟩⟩
      · exact hlater h
    | stable continuity =>
      dsimp only at h
      -- Evidence of several endpoints is told once, as ambiguous.
      by_cases hcount : count continuity = 1
      · rw [if_pos hcount] at h
        rcases List.mem_cons.mp h with rfl | h
        · refine ⟨_, List.mem_cons_self, .inl ⟨rfl, fun other hother => ?_⟩⟩
          rw [← ObservedContinuity.stable.inj hother]
          exact hcount
        · exact hlater h
      · rw [if_neg hcount] at h
        by_cases hknown : continuity ∈ duplicates
        · rw [if_pos hknown] at h
          exact hlater h
        · rw [if_neg hknown] at h
          rcases List.mem_cons.mp h with rfl | h
          · exact ⟨_, List.mem_cons_self, .inr ⟨continuity, rfl, rfl, hcount⟩⟩
          · exact hlater h

/-- The registry is told of every endpoint that is ambiguous. -/
theorem mem_gather_ambiguous {count : ContinuityEvidence → ℕ}
    {duplicates : List ContinuityEvidence} {active : List PlaybackEndpointObservation}
    {observation : PlaybackEndpointObservation} {candidates : List ContinuityEvidence}
    (h : observation ∈ active) (hambiguous : observation.continuity = .ambiguous candidates) :
    ⟨observation.displayName, .ambiguous candidates⟩ ∈ (gather count duplicates active).1 := by
  induction active generalizing duplicates with
  | nil => cases h
  | cons first active ih =>
    obtain ⟨displayName, state, continuity, isDefaultPlayback⟩ := first
    unfold gather
    rcases List.mem_cons.mp h with rfl | hrest
    · cases hambiguous
      exact List.mem_cons_self
    · cases continuity with
      | unknown => exact List.mem_cons_of_mem _ (ih hrest)
      | ambiguous candidates => exact List.mem_cons_of_mem _ (ih hrest)
      | stable continuity =>
        dsimp only
        split
        next => exact List.mem_cons_of_mem _ (ih hrest)
        next =>
          split
          next => exact ih hrest
          next => exact List.mem_cons_of_mem _ (ih hrest)

/-- The registry is told of the stable evidence that one endpoint has. -/
theorem mem_told_iff {active : List PlaybackEndpointObservation}
    {continuity : ContinuityEvidence} :
    continuity ∈ observedContinuities (gatherActive active).1 ↔
      stableContinuityCount active continuity = 1 := by
  have htold := (gather_spec (stableContinuityCount active) [] active).2
  unfold gatherActive
  rw [htold]
  constructor
  · intro h
    obtain ⟨observation, hobservation, hstable⟩ := List.mem_filterMap.mp h
    have hdescribes := (List.mem_filter.mp hobservation).2
    unfold describes at hdescribes
    rw [hstable] at hdescribes
    exact of_decide_eq_true hdescribes
  · intro hcount
    -- An endpoint that is counted is there.
    have hmem : continuity ∈ stableEvidence active := by
      rw [← List.count_pos_iff, count_stableEvidence, hcount]
      exact Nat.one_pos
    obtain ⟨observation, hobservation, hstable⟩ := List.mem_filterMap.mp hmem
    have hdescribes : describes (stableContinuityCount active) observation = true := by
      unfold describes
      rw [hstable]
      exact decide_eq_true hcount
    exact List.mem_filterMap.mpr
      ⟨observation, List.mem_filter.mpr ⟨hobservation, hdescribes⟩, hstable⟩

/-- Stable evidence of a batch is that of an observation of it. -/
theorem mem_observedContinuities {observations : List SourceObservation}
    {continuity : ContinuityEvidence} :
    continuity ∈ observedContinuities observations ↔
      ∃ displayName, ⟨displayName, .stable continuity⟩ ∈ observations := by
  unfold observedContinuities
  rw [List.mem_filterMap]
  constructor
  · rintro ⟨⟨displayName, evidence⟩, hobservation, hstable⟩
    cases evidence with
    | stable other =>
      cases hstable
      exact ⟨displayName, hobservation⟩
    | ambiguous candidates => cases hstable
    | unknown => cases hstable
  · rintro ⟨displayName, hobservation⟩
    exact ⟨_, hobservation, rfl⟩

/-- What the registry is told of endpoints agrees where they do not contradict each other. -/
theorem Unambiguous.agrees {active : List PlaybackEndpointObservation} (h : Unambiguous active) :
    (gatherActive active).1.Pairwise Agrees := by
  -- A candidate is never the evidence of exactly one endpoint.
  have hnamed : ∀ told ∈ (gatherActive active).1, ∀ candidates,
      told.continuity = .ambiguous candidates → ∀ continuity ∈ candidates,
        stableContinuityCount active continuity ≠ 1 := by
    intro told htold candidates hambiguous continuity hmem
    obtain ⟨observation, hobservation, hsame | hduplicate⟩ := mem_gather htold
    · exact h observation hobservation candidates (hsame.1.symm.trans hambiguous) continuity hmem
    · obtain ⟨duplicate, hduplicate, -, hcount⟩ := hduplicate
      cases hduplicate.symm.trans hambiguous
      cases List.mem_singleton.mp hmem
      exact hcount
  -- Evidence that is told as stable is the evidence of exactly one endpoint.
  have hunique : ∀ told ∈ (gatherActive active).1, ∀ continuity,
      told.continuity = .stable continuity → stableContinuityCount active continuity = 1 := by
    intro told htold continuity hstable
    obtain ⟨observation, hobservation, ⟨-, hcount⟩ | hduplicate⟩ := mem_gather htold
    · exact hcount continuity hstable
    · obtain ⟨duplicate, hduplicate, -, -⟩ := hduplicate
      cases hduplicate.symm.trans hstable
  have hnodup : (observedContinuities (gatherActive active).1).Nodup := by
    unfold gatherActive
    rw [(gather_spec (stableContinuityCount active) [] active).2]
    exact nodup_described active
  -- No two observations are stable under the same evidence.
  have hstable : (gatherActive active).1.Pairwise fun told other =>
      ∀ continuity, told.continuity = .stable continuity →
        other.continuity ≠ .stable continuity := by
    refine (List.pairwise_filterMap.mp hnodup).imp ?_
    intro told other hdiffers continuity htold hother
    refine hdiffers continuity ?_ continuity ?_ rfl
    · rw [htold]
      rfl
    · rw [hother]
      rfl
  refine hstable.imp_of_mem ?_
  intro told other htold hother hdiffers
  exact ⟨hdiffers,
    fun continuity candidates hevidence hambiguous hmem =>
      hnamed other hother candidates hambiguous continuity hmem
        (hunique told htold continuity hevidence),
    fun continuity candidates hevidence hambiguous hmem =>
      hnamed told htold candidates hambiguous continuity hmem
        (hunique other hother continuity hevidence)⟩

/-! ## Further refreshes -/

/-- What is described at another revision is what the registry is described as then. -/
theorem PlaybackDiscoverySnapshot.describe_withIdentity
    (registry : IdentityRegistry CounterSourceIdAllocator) (revision : UInt64)
    (identity identity' : DiscoverySnapshot) (describable : List PlaybackEndpointObservation) :
    (describe registry identity describable).withIdentity identity'
      = describe { registry with revision } identity' describable := by
  have hbindings : (describable.filterMap (bind? registry identity)).map
      ({ · with identity := identity' })
        = describable.filterMap (bind? { registry with revision } identity') := by
    rw [List.map_filterMap]
    congr 1
    funext observation
    obtain ⟨displayName, state, continuity, isDefaultPlayback⟩ := observation
    cases continuity with
    | unknown => rfl
    | ambiguous candidates => rfl
    | stable continuity => exact Option.map_map ..
  have hdefault : ((defaultSourceId registry describable).bind fun sourceId =>
      (describable.filterMap (bind? registry identity)).find? fun binding =>
        binding.sourceId = sourceId).map ({ · with identity := identity' })
        = (defaultSourceId registry describable).bind fun sourceId =>
          (describable.filterMap (bind? { registry with revision } identity')).find? fun binding =>
            binding.sourceId = sourceId := by
    rw [Option.map_bind]
    congr 1
    funext sourceId
    rw [← hbindings, List.find?_map]
    rfl
  unfold describe withIdentity
  dsimp only
  rw [hbindings, hdefault]
  rfl

namespace PlaybackDiscovery

/-- Further refreshes with the same endpoints, each with what interrupts it: each gives the snapshot
again, and leaves the sources and the sequence of the registry. -/
def Repeats (observations : List PlaybackEndpointObservation)
    (snapshot : PlaybackDiscoverySnapshot) :
    List (Option Interruption × Option Interruption) → PlaybackDiscovery → RegistryFiles → Prop
  | [], _, _ => True
  | (applyFault, advanceFault) :: faults, self, files =>
    let (outcome, after, files) := self.refresh (.ok observations) files applyFault advanceFault
    outcome = .ok snapshot ∧ after.registry.entries = self.registry.entries ∧
      after.registry.nextSourceSequence = self.registry.nextSourceSequence ∧
      Repeats observations snapshot faults after files

variable {self after : PlaybackDiscovery} {files files' : RegistryFiles}
  {observations : List PlaybackEndpointObservation} {applyFault advanceFault : Option Interruption}
  {snapshot : PlaybackDiscoverySnapshot}

/-- What is there after a refresh that succeeds: the snapshot that describes the registry, and the
sources that the endpoints left. -/
structure Settles (observations : List PlaybackEndpointObservation)
    (snapshot : PlaybackDiscoverySnapshot) (after : PlaybackDiscovery) : Prop where
  /-- One endpoint at most is the default. -/
  default : ¬1 < (activeEndpoints observations).countP PlaybackEndpointObservation.isDefaultPlayback
  /-- The snapshot describes the registry. -/
  describes : snapshot = .describe after.registry after.registry.snapshot
    (gatherActive (activeEndpoints observations)).2
  /-- It is the last one. -/
  last : after.lastSnapshot = some snapshot
  /-- Evidence is that of one source that is not retired. -/
  oneEach : OneEach after.registry.entries
  /-- No source is live that is not observed. -/
  unseen : IdentityRegistry.Unseen
    (observedContinuities (gatherActive (activeEndpoints observations)).1) after.registry.entries
  /-- The sources are as the observations make them, where these do not contradict each other. -/
  reflects : Unambiguous (activeEndpoints observations) →
    ∀ told ∈ (gatherActive (activeEndpoints observations)).1, Reflects after.registry.entries told

/-- What is there after a refresh that succeeds. -/
theorem settles_of_refresh (hone : OneEach self.registry.entries)
    (h : self.refresh (.ok observations) files applyFault advanceFault
      = (.ok snapshot, after, files')) : Settles observations snapshot after := by
  have hdefault : ¬1 < (activeEndpoints observations).countP
      PlaybackEndpointObservation.isDefaultPlayback := by
    intro hconflict
    unfold refresh at h
    dsimp only at h
    rw [if_pos hconflict] at h
    cases h
  obtain ⟨observations', identity, registry, applied, hsame, happly, hcases⟩ := refresh_eq_ok h
  cases hsame
  obtain ⟨changes, observedAfter, hall, hidentity, hafter⟩ :=
    IdentityRegistry.applyObservations_eq_ok happly
  -- Neither a commit nor its absence changes the entries of the pass.
  have hentries : registry.entries = observedAfter.entries := by
    rcases hafter with ⟨hregistry, hobserved, -⟩ | ⟨hregistry, -⟩
    · rw [hregistry, hobserved]
    · rw [hregistry]
  have hkept := IdentityRegistry.kept_markAllAbsent self.registry
    (observedContinuities (gatherActive (activeEndpoints observations)).1)
  have honeAfter : OneEach registry.entries := by
    rw [hentries]
    exact hall.oneEach (hkept.oneEach hone)
  have hunseen : IdentityRegistry.Unseen
      (observedContinuities (gatherActive (activeEndpoints observations)).1) registry.entries := by
    rw [hentries]
    exact hall.unseen (fun _ hmem => hmem) (IdentityRegistry.unseen_markAllAbsent self.registry _)
  have hreflects : Unambiguous (activeEndpoints observations) →
      ∀ told ∈ (gatherActive (activeEndpoints observations)).1,
        Reflects registry.entries told := by
    intro hunambiguous
    rw [hentries]
    exact hall.reflects hunambiguous.agrees fun _ hmem => hmem
  -- The revision advances only where the description differs from the last one.
  rcases hcases with ⟨-, rfl, rfl, -⟩ | ⟨-, identity', advanced, hadvance, rfl, rfl⟩
  · refine ⟨hdefault, ?_, rfl, honeAfter, hunseen, hreflects⟩
    rw [hidentity]
  · obtain ⟨rfl, -, rfl⟩ := IdentityRegistry.commit_eq_ok hadvance
    exact ⟨hdefault, PlaybackDiscoverySnapshot.describe_withIdentity .., rfl, honeAfter, hunseen,
      hreflects⟩

/-- Endpoints that do not contradict each other are refreshed again, and nothing changes. -/
theorem Settles.refresh_again (h : Settles observations snapshot after)
    (hunambiguous : Unambiguous (activeEndpoints observations)) (files : RegistryFiles)
    (applyFault advanceFault : Option Interruption) :
    after.refresh (.ok observations) files applyFault advanceFault
      = (.ok snapshot, after, files) := by
  have happly := IdentityRegistry.applyObservations_reflected h.oneEach h.unseen
    (h.reflects hunambiguous) files applyFault
  have hstays : advances after.lastSnapshot after.registry.revision snapshot = false := by
    rw [h.last]
    exact Bool.and_eq_false_iff.mpr (.inl (decide_eq_false (not_not.mpr rfl)))
  unfold refresh publish
  dsimp only
  rw [if_neg h.default, happly]
  dsimp only
  rw [← h.describes, hstays]
  show (Except.ok snapshot, PlaybackDiscovery.mk after.registry (some snapshot), files) = _
  rw [← h.last]

/-- Endpoints that are refreshed again, where the sources stay, do not contradict each other. -/
theorem Settles.unambiguous {snapshot' : PlaybackDiscoverySnapshot} {again : PlaybackDiscovery}
    (h : Settles observations snapshot after)
    (hagain : after.refresh (.ok observations) files applyFault advanceFault
      = (.ok snapshot', again, files'))
    (hsame : again.registry.entries = after.registry.entries) :
    Unambiguous (activeEndpoints observations) := by
  obtain ⟨observations', identity, registry, applied, hobservations, happly, hcases⟩ :=
    refresh_eq_ok hagain
  cases hobservations
  have hregistry : registry.entries = after.registry.entries := by
    rcases hcases with ⟨-, -, rfl, -⟩ | ⟨-, identity', advanced, hadvance, -, rfl⟩
    · exact hsame
    · obtain ⟨rfl, -, -⟩ := IdentityRegistry.commit_eq_ok hadvance
      exact hsame
  -- The entries stay, so the pass retired nothing and allocated nothing.
  have hsettled := IdentityRegistry.isSettled_of_applyObservations h.oneEach h.unseen happly
    hregistry
  intro observation hobservation candidates hambiguous continuity hmem hcount
  obtain ⟨displayName, hstable⟩ := mem_observedContinuities.mp (mem_told_iff.mpr hcount)
  have htold : ⟨observation.displayName, .ambiguous candidates⟩
      ∈ (gatherActive (activeEndpoints observations)).1 :=
    mem_gather_ambiguous hobservation hambiguous
  exact IdentityRegistry.not_ambiguous_of_isSettled hsettled hstable htold hmem

/-- A registry that was opened from any files, and on which any operations were tried, is refreshed
with any endpoints. If that succeeds, then further refreshes with them give the same snapshot and
leave the registry exactly where no evidence is that of one active endpoint alone and ambiguous to
another. -/
theorem refresh_repeats_iff {directory : RegistryFiles} {«namespace» : RegistryNamespace}
    {fault : Option Interruption} {start m : RegistryMachine} {cs : List RegistryCall}
    {lastSnapshot : Option PlaybackDiscoverySnapshot}
    {faults : List (Option Interruption × Option Interruption)}
    (hnew : RegistryMachine.new directory «namespace» fault = some start)
    (hattempts : start.attempts cs = some m)
    (hrefresh : refresh ⟨m.registry, lastSnapshot⟩ (.ok observations) m.files applyFault
      advanceFault = (.ok snapshot, after, files'))
    (hfurther : faults ≠ []) :
    Repeats observations snapshot faults after files' ↔
      Unambiguous (activeEndpoints observations) := by
  have hwellformed := RegistryMachine.attempts_wellformed
    (RegistryMachine.new_wellformed hnew) hattempts
  have hsettles := settles_of_refresh hwellformed.oneEach hrefresh
  constructor
  · intro hrepeats
    -- One further refresh that repeats is enough to rule out a contradiction.
    obtain ⟨⟨applyFault, advanceFault⟩, faults, rfl⟩ := List.exists_cons_of_ne_nil hfurther
    rcases hagain : after.refresh (.ok observations) files' applyFault advanceFault with
      ⟨outcome, again, files''⟩
    unfold Repeats at hrepeats
    rw [hagain] at hrepeats
    obtain ⟨rfl, hsame, -, -⟩ := hrepeats
    exact hsettles.unambiguous hagain hsame
  · intro hunambiguous
    -- Each refresh leaves the state that it found, so the next one repeats again.
    clear hfurther
    induction faults with
    | nil => trivial
    | cons fault faults ih =>
      unfold Repeats
      rw [hsettles.refresh_again hunambiguous]
      exact ⟨rfl, rfl, rfl, ih⟩

/-- Endpoints of which one is ambiguous, and does not name the evidence of the others. -/
def dockedEndpoints : List PlaybackEndpointObservation :=
  exampleEndpoints ++ [⟨"Dock", .active, .ambiguous [⟨"dock", "first"⟩], false⟩]

/-- The endpoints are refreshed again. -/
theorem refresh_repeats_iff_example : ∃ start m snapshot after files',
    RegistryMachine.new .none (generateNamespace 1 2) none = some start ∧
      start.attempts [.operation .advanceRevision (some ⟨0, none⟩)] = some m ∧
      refresh ⟨m.registry, none⟩ (.ok dockedEndpoints) m.files none none
        = (.ok snapshot, after, files') ∧
      [((none : Option Interruption), (none : Option Interruption))] ≠ [] ∧
      Repeats dockedEndpoints snapshot [(none, none)] after files' := by
  have hruns : (((RegistryMachine.new .none (generateNamespace 1 2) none).bind (·.attempts
      [.operation .advanceRevision (some ⟨0, none⟩)])).bind fun m =>
        (refresh ⟨m.registry, none⟩ (.ok dockedEndpoints) m.files none none).1.toOption
      ).isSome = true := by decide +kernel
  have hunambiguous : Unambiguous (activeEndpoints dockedEndpoints) := by
    intro observation hobservation candidates hambiguous continuity hmem
    have hdock : candidates = [⟨"dock", "first"⟩] := by
      simp [dockedEndpoints, exampleEndpoints, activeEndpoints] at hobservation
      rcases hobservation with rfl | rfl | rfl <;> cases hambiguous
      rfl
    rw [hdock] at hmem
    cases List.mem_singleton.mp hmem
    decide
  obtain ⟨snapshot, hsome⟩ := Option.isSome_iff_exists.mp hruns
  obtain ⟨m, hm, hok⟩ := Option.bind_eq_some_iff.mp hsome
  obtain ⟨start, hnew, hattempts⟩ := Option.bind_eq_some_iff.mp hm
  rcases hrefresh : refresh ⟨m.registry, none⟩ (.ok dockedEndpoints) m.files none none with
    ⟨outcome, after, files'⟩
  rw [hrefresh] at hok
  cases outcome with
  | error raised => cases hok
  | ok snapshot =>
    exact ⟨start, m, snapshot, after, files', hnew, hattempts, hrefresh, List.cons_ne_nil _ _,
      (refresh_repeats_iff hnew hattempts hrefresh (List.cons_ne_nil _ _)).mpr hunambiguous⟩

/-- Endpoints of which one is ambiguous, and names the evidence of the other one. -/
def contradictingEndpoints : List PlaybackEndpointObservation :=
  [⟨"Speakers", .active, .stable ⟨"key", "first"⟩, true⟩,
    ⟨"Dock", .active, .ambiguous [⟨"key", "first"⟩], false⟩]

/-- The outcomes of a first refresh of a new registry, and of a second one with the same endpoints.
-/
def refreshTwice (observations : List PlaybackEndpointObservation) :
    Option (Except DiscoveryError PlaybackDiscoverySnapshot ×
      Except DiscoveryError PlaybackDiscoverySnapshot) :=
  (RegistryMachine.new .none (generateNamespace 1 2) none).map fun m =>
    let (first, after, files) := refresh ⟨m.registry, none⟩ (.ok observations) m.files none none
    (first, (after.refresh (.ok observations) files none none).1)

/-- The source of the speakers is retired in each refresh, and in each it gets a new identifier: the
second one does not repeat the first. -/
theorem contradicting_endpoints_churn :
    ¬∀ (directory : RegistryFiles) («namespace» : RegistryNamespace) (start m : RegistryMachine)
      (cs : List RegistryCall) (observations : List PlaybackEndpointObservation)
      (snapshot : PlaybackDiscoverySnapshot) (after : PlaybackDiscovery) (files' : RegistryFiles)
      (faults : List (Option Interruption × Option Interruption)),
      RegistryMachine.new directory «namespace» none = some start → start.attempts cs = some m →
        refresh ⟨m.registry, none⟩ (.ok observations) m.files none none
          = (.ok snapshot, after, files') →
        Repeats observations snapshot faults after files' := by
  intro h
  have hruns : (refreshTwice contradictingEndpoints).any (fun outcomes =>
      outcomes.1.isOk && decide (outcomes.2 ≠ outcomes.1)) = true := by decide +kernel
  unfold refreshTwice at hruns
  rw [Option.any_map] at hruns
  cases hnew : RegistryMachine.new .none (generateNamespace 1 2) none with
  | none =>
    rw [hnew] at hruns
    cases hruns
  | some m =>
    rw [hnew] at hruns
    rcases hrefresh : refresh ⟨m.registry, none⟩ (.ok contradictingEndpoints) m.files none none with
      ⟨outcome, after, files'⟩
    obtain ⟨hok, hdiffers⟩ := Bool.and_eq_true_iff.mp hruns
    dsimp only at hok hdiffers
    rw [hrefresh] at hok hdiffers
    cases outcome with
    | error raised => cases hok
    | ok snapshot =>
      have hrepeats := h _ _ m m [] contradictingEndpoints snapshot after files' [(none, none)]
        hnew rfl hrefresh
      unfold Repeats at hrepeats
      exact of_decide_eq_true hdiffers hrepeats.1

end PlaybackDiscovery

end ResonanceSignal
