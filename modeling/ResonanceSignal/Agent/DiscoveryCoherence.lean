import ResonanceSignal.Agent.Discovery
import Mathlib.Data.List.Perm.Basic

/-!
# Coherent snapshots

What a refresh publishes is assembled from the endpoints, and from the registry that they were put
in. After a batch of observations a source is live exactly if its evidence was observed as stable in
the batch, and it was not retired since (`Marks`). So the sources that can be captured are the
available ones (`describe_coherent`), and this holds of every refresh that succeeds.
-/

namespace ResonanceSignal

/-! ## What is gathered -/

/-- The endpoint has stable evidence, which no other one has. -/
def describes (count : ContinuityEvidence → ℕ) (observation : PlaybackEndpointObservation) : Bool :=
  observation.continuity.stable?.any fun continuity => count continuity = 1

/-- The stable evidence of a list of endpoints. -/
def stableEvidence (observations : List PlaybackEndpointObservation) : List ContinuityEvidence :=
  observations.filterMap fun observation => observation.continuity.stable?

/-- The endpoints that can be described are those whose evidence no other one has, and theirs is the
stable evidence that the registry is told of. -/
theorem gather_spec (count : ContinuityEvidence → ℕ) (duplicates : List ContinuityEvidence)
    (observations : List PlaybackEndpointObservation) :
    (gather count duplicates observations).2 = observations.filter (describes count) ∧
      observedContinuities (gather count duplicates observations).1
        = stableEvidence (observations.filter (describes count)) := by
  induction observations generalizing duplicates with
  | nil => exact ⟨rfl, rfl⟩
  | cons observation observations ih =>
    obtain ⟨displayName, state, continuity, isDefaultPlayback⟩ := observation
    unfold gather
    cases continuity with
    | unknown =>
      obtain ⟨hdescribable, hobserved⟩ := ih duplicates
      exact ⟨hdescribable, hobserved⟩
    | ambiguous candidates =>
      obtain ⟨hdescribable, hobserved⟩ := ih duplicates
      exact ⟨hdescribable, hobserved⟩
    | stable continuity =>
      dsimp only
      by_cases hcount : count continuity = 1
      · obtain ⟨hdescribable, hobserved⟩ := ih duplicates
        have hdescribes : describes count
            ⟨displayName, state, .stable continuity, isDefaultPlayback⟩ = true :=
          decide_eq_true hcount
        rw [if_pos hcount, List.filter_cons_of_pos hdescribes]
        exact ⟨congrArg (List.cons _) hdescribable, congrArg (List.cons continuity) hobserved⟩
      · have hdescribes : ¬describes count
            ⟨displayName, state, .stable continuity, isDefaultPlayback⟩ = true :=
          fun h => hcount (of_decide_eq_true h)
        rw [if_neg hcount, List.filter_cons_of_neg hdescribes]
        split
        next => exact ih duplicates
        next =>
          obtain ⟨hdescribable, hobserved⟩ := ih (continuity :: duplicates)
          exact ⟨hdescribable, hobserved⟩

/-- How often some evidence is among the stable evidence of a list of endpoints. -/
theorem count_stableEvidence (observations : List PlaybackEndpointObservation)
    (continuity : ContinuityEvidence) :
    (stableEvidence observations).count continuity
      = stableContinuityCount observations continuity := by
  induction observations with
  | nil => rfl
  | cons observation observations ih =>
    obtain ⟨displayName, state, evidence, isDefaultPlayback⟩ := observation
    unfold stableContinuityCount at ih ⊢
    rw [List.countP_cons]
    cases evidence with
    | unknown => exact ih
    | ambiguous candidates => exact ih
    | stable other =>
      show (other :: stableEvidence observations).count continuity = _
      rw [List.count_cons, ih]
      simp [ObservedContinuity.stable?]

/-- No two endpoints that are described have the same evidence. -/
theorem nodup_described (active : List PlaybackEndpointObservation) :
    (stableEvidence (active.filter (describes (stableContinuityCount active)))).Nodup := by
  rw [List.nodup_iff_count_le_one]
  intro continuity
  by_cases hmem : continuity ∈
      stableEvidence (active.filter (describes (stableContinuityCount active)))
  · obtain ⟨observation, hobservation, hstable⟩ := List.mem_filterMap.mp hmem
    have hdescribes := (List.mem_filter.mp hobservation).2
    unfold describes at hdescribes
    rw [hstable] at hdescribes
    have hone : stableContinuityCount active continuity = 1 := of_decide_eq_true hdescribes
    have hsublist : (stableEvidence (active.filter (describes (stableContinuityCount active)))).Sublist
        (stableEvidence active) := List.filter_sublist.filterMap _
    calc (stableEvidence (active.filter (describes (stableContinuityCount active)))).count continuity
      _ ≤ (stableEvidence active).count continuity := hsublist.count_le continuity
      _ = stableContinuityCount active continuity := count_stableEvidence active continuity
      _ ≤ 1 := hone.le
  · rw [List.count_eq_zero_of_not_mem hmem]
    exact Nat.zero_le 1

/-! ## Live sources -/

/-- The live sources are observed, and those that are observed are live, or still to come. -/
structure Marks (observed remaining : List ContinuityEvidence) (m : Sources) : Prop where
  /-- A live source is observed. -/
  live : ∀ entry ∈ m.values, entry.state.isLive = true → entry.continuity ∈ observed
  /-- An observed source is live, or still to come. -/
  seen : ∀ entry ∈ m.values, entry.state.isRetired = false → entry.continuity ∈ observed →
    entry.state.isLive = true ∨ entry.continuity ∈ remaining

/-- Retirement leaves a source, or it retires it. -/
theorem SourceRecord.retiredAs_eq_self {entry : SourceRecord} {reason : RetiredReason}
    {ids : List String} (h : (entry.retiredAs reason ids).state.isRetired = false) :
    entry.retiredAs reason ids = entry := by
  unfold retiredAs at h ⊢
  split
  next hretired =>
    rw [if_pos hretired] at h
    cases h
  next => rfl

variable {observed remaining : List ContinuityEvidence} {m : Sources}

/-- Retirement keeps what is live, or to come. -/
theorem Marks.retiredAs (h : Marks observed remaining m) (reason : RetiredReason)
    (ids : List String) : Marks observed remaining
      (m.map (SourceRecord.retiredAs reason ids) (SourceRecord.key_retiredAs reason ids)) where
  live entry' hentry' hlive := by
    obtain ⟨entry, hentry, rfl⟩ := KeyedMap.mem_map.mp hentry'
    have hsame := SourceRecord.retiredAs_eq_self (SourceRecord.isRetired_of_isLive hlive)
    rw [hsame] at hlive ⊢
    exact h.live entry hentry hlive
  seen entry' hentry' hretired hobserved := by
    obtain ⟨entry, hentry, rfl⟩ := KeyedMap.mem_map.mp hentry'
    have hsame := SourceRecord.retiredAs_eq_self hretired
    rw [hsame] at hretired hobserved ⊢
    exact h.seen entry hentry hretired hobserved

/-- A source of some evidence that becomes live, where there is no other one of the evidence. -/
theorem Marks.insert {continuity : ContinuityEvidence} {entry : SourceRecord}
    (h : Marks observed (continuity :: remaining) m) (hobserved : continuity ∈ observed)
    (hcontinuity : entry.continuity = continuity) (hlive : entry.state.isLive = true)
    (hother : ∀ other ∈ m.values, other.key ≠ entry.key → other.state.isRetired = false →
      other.continuity ≠ continuity) : Marks observed remaining (m.insert entry) where
  live other hmem hother' := by
    rcases KeyedMap.mem_insert.mp hmem with rfl | ⟨hmem, -⟩
    · rw [hcontinuity]
      exact hobserved
    · exact h.live other hmem hother'
  seen other hmem hretired hseen := by
    rcases KeyedMap.mem_insert.mp hmem with rfl | ⟨hmem, hkey⟩
    · exact .inl hlive
    · rcases h.seen other hmem hretired hseen with hlive | hcome
      · exact .inl hlive
      · rcases List.mem_cons.mp hcome with hsame | hcome
        · exact absurd hsame (hother other hmem hkey hretired)
        · exact .inr hcome

namespace IdentityRegistry

variable {A : Type} [SourceIdAllocator A] {before after : IdentityRegistry A}

/-- An observation of the batch makes its source live. -/
theorem Observes.marks {observation : SourceObservation} {observations : List SourceObservation}
    {id? : Option SourceId} {changes : Bool}
    (h : Observes observed before observation id? changes after)
    (hobserved : ∀ continuity, observation.continuity = .stable continuity → continuity ∈ observed)
    (hone : OneEach before.entries)
    (hmarks : Marks observed (observedContinuities (observation :: observations)) before.entries) :
    Marks observed (observedContinuities observations) after.entries := by
  cases h with
  | unknown => exact hmarks
  | ambiguous => exact hmarks.retiredAs _ _
  | @found displayName continuity entry hfound =>
    obtain ⟨hentry, hretired, hcontinuity⟩ := findLive_eq_some hfound
    have hmarks : Marks observed (continuity :: observedContinuities observations)
      before.entries := hmarks
    refine hmarks.insert (hobserved continuity rfl) hcontinuity rfl ?_
    -- No other source that is not retired has this evidence.
    intro other hother hkey hlive hsame
    have hsource : other = entry :=
      hone other hother entry hentry hlive hretired (hsame.trans hcontinuity.symm)
    subst hsource
    exact hkey rfl
  | @discovered displayName continuity id allocated hnone hallocates =>
    obtain ⟨ids, hids, -⟩ := retireReused_eq before observed continuity
    have hentries : allocated.entries = before.entries.map
        (SourceRecord.retiredAs .nativeKeyReuse ids)
        (SourceRecord.key_retiredAs .nativeKeyReuse ids) := by
      rw [hallocates.entries, hids]
      rfl
    have hmarks : Marks observed (continuity :: observedContinuities observations)
      before.entries := hmarks
    have hretire := hmarks.retiredAs .nativeKeyReuse ids
    show Marks observed _ (allocated.entries.insert _)
    rw [hentries]
    refine hretire.insert (hobserved continuity rfl) rfl rfl ?_
    intro other' hother' _ hlive
    obtain ⟨other, hother, rfl⟩ := KeyedMap.mem_map.mp hother'
    have hsame := SourceRecord.retiredAs_eq_self hlive
    rw [hsame] at hlive ⊢
    exact findLive_eq_none.mp hnone other hother hlive

/-- After a batch, evidence is that of one source that is not retired, if it was. -/
theorem ObservesAll.oneEach {observations : List SourceObservation} {ids : List SourceId}
    {changes : Bool} (h : ObservesAll observed before observations ids changes after)
    (hone : OneEach before.entries) : OneEach after.entries := by
  induction h with
  | nil => exact hone
  | cons h hs ih => exact ih (h.steps.entries.oneEach hone)

/-- After a batch, the live sources are the observed ones that are not retired. -/
theorem ObservesAll.marks {observations : List SourceObservation} {ids : List SourceId}
    {changes : Bool} (h : ObservesAll observed before observations ids changes after)
    (hobserved : ∀ continuity ∈ observedContinuities observations, continuity ∈ observed)
    (hone : OneEach before.entries)
    (hmarks : Marks observed (observedContinuities observations) before.entries) :
    Marks observed [] after.entries := by
  induction h with
  | nil => exact hmarks
  | @cons before middle after observation observations id? ids changes changes' h hs ih =>
    have hfirst : ∀ continuity, observation.continuity = .stable continuity →
        continuity ∈ observed := by
      intro continuity hstable
      apply hobserved continuity
      unfold observedContinuities
      exact List.mem_filterMap.mpr ⟨observation, List.mem_cons_self, by rw [hstable]; rfl⟩
    have hrest : ∀ continuity ∈ observedContinuities observations, continuity ∈ observed := by
      intro continuity hmem
      apply hobserved continuity
      exact (List.sublist_cons_self observation observations).filterMap _ |>.mem hmem
    exact ih hrest (h.steps.entries.oneEach hone) (h.marks hfirst hone hmarks)

omit [SourceIdAllocator A] in
/-- Before a batch, only observed sources are live. -/
theorem marks_markAllAbsent (before : IdentityRegistry A) (observed : List ContinuityEvidence) :
    Marks observed observed (before.markAllAbsent observed).entries where
  live entry' hentry' hlive := by
    have hentry' : entry' ∈ before.entries.values.map (markAbsent observed) := hentry'
    obtain ⟨entry, hentry, rfl⟩ := List.mem_map.mp hentry'
    unfold markAbsent at hlive ⊢
    split at hlive
    next => cases hlive
    next hstays =>
      rw [if_neg hstays]
      unfold disappears at hstays
      rw [hlive, Bool.true_and, Bool.not_eq_true', Bool.not_eq_false] at hstays
      exact List.contains_iff_mem.mp hstays
  seen _ _ _ hobserved := .inr hobserved

end IdentityRegistry

/-- After a batch of observations that succeeds, the live sources are those that are observed. -/
theorem applyObservations_marks {before after : IdentityRegistry CounterSourceIdAllocator}
    {observations : List SourceObservation} {files files' : RegistryFiles}
    {fault : Option Interruption} {snapshot : DiscoverySnapshot} (hone : OneEach before.entries)
    (h : before.applyObservations observations files fault = (.ok snapshot, after, files')) :
    Marks (observedContinuities observations) [] after.entries := by
  obtain ⟨changes, observedAfter, hall, -, hcases⟩ :=
    IdentityRegistry.applyObservations_eq_ok h
  have hkept := IdentityRegistry.kept_markAllAbsent before (observedContinuities observations)
  have hmarks := hall.marks (fun _ h => h) (hkept.oneEach hone)
    (IdentityRegistry.marks_markAllAbsent before (observedContinuities observations))
  rcases hcases with ⟨hafter, hsame, -⟩ | ⟨hafter, -⟩
  · rw [hafter, ← hsame]
    exact hmarks
  · rw [hafter]
    exact hmarks

/-! ## Snapshots -/

/-- A snapshot agrees with the active endpoints, and with the sources of the registry. -/
structure Coherent (active : List PlaybackEndpointObservation) (m : Sources)
    (snapshot : PlaybackDiscoverySnapshot) : Prop where
  /-- No two sources have the same identifier. -/
  ids : (snapshot.sources.map SourceDescriptor.sourceId).Nodup
  /-- Each has its product once. -/
  products : ∀ source ∈ snapshot.sources, source.supportedProducts = [.waveform]
  /-- There is one default at most. -/
  default_unique : ∀ source ∈ snapshot.sources, ∀ other ∈ snapshot.sources,
    source.isDefaultPlayback = true → other.isDefaultPlayback = true → source = other
  /-- The default is available. -/
  default_available : ∀ source ∈ snapshot.sources, source.isDefaultPlayback = true →
    source.isAvailable = true
  /-- Each available source has one binding, and no other source has one. -/
  bindings : (snapshot.captureBindings.map PlaybackCaptureBinding.sourceId).Perm
    ((snapshot.sources.filter SourceDescriptor.isAvailable).map SourceDescriptor.sourceId)
  /-- A binding belongs to the snapshot. -/
  identities : ∀ binding ∈ snapshot.captureBindings, binding.identity = snapshot.identity
  /-- Its endpoint is that of its source's evidence, which one active endpoint has. -/
  endpoints : ∀ binding ∈ snapshot.captureBindings, ∃ entry ∈ m.values,
    entry.id = binding.sourceId ∧ entry.state.isLive = true ∧
      entry.continuity.backendKey = binding.endpointId ∧
      stableContinuityCount active entry.continuity = 1
  /-- The default binding is that of the default. -/
  default_source : ∀ sourceId,
    (∃ source ∈ snapshot.sources, source.sourceId = sourceId ∧ source.isDefaultPlayback = true) ↔
      ∃ binding, snapshot.defaultPlaybackBinding = some binding ∧ binding.sourceId = sourceId
  /-- It is a binding of the snapshot, and that of the endpoint that is the default. -/
  default_binding : ∀ binding, snapshot.defaultPlaybackBinding = some binding →
    binding ∈ snapshot.captureBindings ∧ ∃ observation ∈ active,
      observation.isDefaultPlayback = true ∧ ∃ entry ∈ m.values,
        entry.id = binding.sourceId ∧ observation.continuity = .stable entry.continuity

namespace PlaybackDiscoverySnapshot

variable {registry : IdentityRegistry CounterSourceIdAllocator}
  {active : List PlaybackEndpointObservation} {identity : DiscoverySnapshot}

/-- Where evidence is that of one source that is not retired, it is found. -/
theorem findLive_of_mem (hone : OneEach registry.entries) {entry : SourceRecord}
    (hentry : entry ∈ registry.entries.values) (hretired : entry.state.isRetired = false) :
    registry.findLive entry.continuity = some entry := by
  cases hfound : registry.findLive entry.continuity with
  | none =>
    exact absurd rfl (IdentityRegistry.findLive_eq_none.mp hfound entry hentry hretired)
  | some other =>
    obtain ⟨hother, hlive, hsame⟩ := IdentityRegistry.findLive_eq_some hfound
    rw [hone other hother entry hentry hlive hretired hsame]

/-- The binding of an endpoint. -/
theorem bind?_eq_some {observation : PlaybackEndpointObservation}
    {binding : PlaybackCaptureBinding} :
    bind? registry identity observation = some binding ↔
      ∃ continuity entry, observation.continuity = .stable continuity ∧
        registry.findLive continuity = some entry ∧
        binding = ⟨identity, entry.id, continuity.backendKey⟩ := by
  obtain ⟨displayName, state, evidence, isDefaultPlayback⟩ := observation
  cases evidence with
  | unknown => simp [bind?]
  | ambiguous candidates => simp [bind?]
  | stable continuity =>
    show ((registry.findLive continuity).map SourceRecord.id).map _ = _ ↔ _
    cases hfound : registry.findLive continuity with
    | none => simp [hfound]
    | some entry => simp [hfound, eq_comm]

/-- The endpoints that can be described. -/
def described (active : List PlaybackEndpointObservation) : List PlaybackEndpointObservation :=
  active.filter (describes (stableContinuityCount active))

/-- An endpoint that can be described has evidence that no other one has. -/
theorem mem_described {observation : PlaybackEndpointObservation} {continuity : ContinuityEvidence}
    (h : observation ∈ described active) (hstable : observation.continuity = .stable continuity) :
    observation ∈ active ∧ continuity ∈ stableEvidence (described active) ∧
      stableContinuityCount active continuity = 1 := by
  obtain ⟨hactive, hdescribes⟩ := List.mem_filter.mp h
  unfold describes at hdescribes
  rw [hstable] at hdescribes
  refine ⟨hactive, ?_, of_decide_eq_true hdescribes⟩
  exact List.mem_filterMap.mpr ⟨observation, h, by rw [hstable]; rfl⟩

/-- An endpoint that can be described has stable evidence. -/
theorem exists_stable {observation : PlaybackEndpointObservation}
    (h : observation ∈ described active) :
    ∃ continuity, observation.continuity = .stable continuity := by
  obtain ⟨-, hdescribes⟩ := List.mem_filter.mp h
  unfold describes at hdescribes
  cases hcontinuity : observation.continuity with
  | stable continuity => exact ⟨continuity, rfl⟩
  | ambiguous candidates =>
    rw [hcontinuity] at hdescribes
    cases hdescribes
  | unknown =>
    rw [hcontinuity] at hdescribes
    cases hdescribes

section

variable (hone : OneEach registry.entries)
  (hmarks : Marks (stableEvidence (described active)) [] registry.entries)

include hmarks in
/-- The source of an endpoint that can be described is live. -/
theorem isLive_of_described {continuity : ContinuityEvidence} {entry : SourceRecord}
    (hobserved : continuity ∈ stableEvidence (described active))
    (hfound : registry.findLive continuity = some entry) : entry.state.isLive = true := by
  obtain ⟨hentry, hretired, rfl⟩ := IdentityRegistry.findLive_eq_some hfound
  rcases hmarks.seen entry hentry hretired hobserved with hlive | hcome
  · exact hlive
  · exact absurd hcome List.not_mem_nil

include hone hmarks in
/-- The sources that are bound are the live ones. -/
theorem mem_bound_iff (identity : DiscoverySnapshot) {sourceId : SourceId} :
    sourceId ∈ ((described active).filterMap (bind? registry identity)).map
        PlaybackCaptureBinding.sourceId ↔
      ∃ entry ∈ registry.entries.values, entry.id = sourceId ∧ entry.state.isLive = true := by
  constructor
  · intro hmem
    obtain ⟨binding, hbinding, rfl⟩ := List.mem_map.mp hmem
    obtain ⟨observation, hobservation, hbind⟩ := List.mem_filterMap.mp hbinding
    obtain ⟨continuity, entry, hstable, hfound, rfl⟩ := bind?_eq_some.mp hbind
    obtain ⟨-, hobserved, -⟩ := mem_described hobservation hstable
    obtain ⟨hentry, -, -⟩ := IdentityRegistry.findLive_eq_some hfound
    exact ⟨entry, hentry, rfl, isLive_of_described hmarks hobserved hfound⟩
  · rintro ⟨entry, hentry, rfl, hlive⟩
    obtain ⟨observation, hobservation, hstable⟩ :=
      List.mem_filterMap.mp (hmarks.live entry hentry hlive)
    have hevidence : observation.continuity = .stable entry.continuity := by
      obtain ⟨continuity, hcontinuity⟩ := exists_stable hobservation
      rw [hcontinuity] at hstable ⊢
      cases hstable
      rfl
    have hfound := findLive_of_mem hone hentry (SourceRecord.isRetired_of_isLive hlive)
    refine List.mem_map.mpr ⟨⟨identity, entry.id, entry.continuity.backendKey⟩, ?_, rfl⟩
    refine List.mem_filterMap.mpr ⟨observation, hobservation, ?_⟩
    exact bind?_eq_some.mpr ⟨entry.continuity, entry, hevidence, hfound, rfl⟩

/-- No two bindings are of the same source. -/
theorem nodup_bound : (((described active).filterMap (bind? registry identity)).map
    PlaybackCaptureBinding.sourceId).Nodup := by
  have hids : ((described active).filterMap (bind? registry identity)).map
      PlaybackCaptureBinding.sourceId
        = (stableEvidence (described active)).filterMap registry.findLiveSourceId := by
    unfold stableEvidence
    rw [List.map_filterMap, List.filterMap_filterMap]
    congr 1
    funext observation
    obtain ⟨displayName, state, evidence, isDefaultPlayback⟩ := observation
    cases evidence with
    | unknown => rfl
    | ambiguous candidates => rfl
    | stable continuity =>
      show ((registry.findLiveSourceId continuity).map _).map _ = registry.findLiveSourceId continuity
      rw [Option.map_map]
      exact Option.map_id'
  rw [hids]
  refine List.Nodup.filterMap ?_ (nodup_described active)
  intro continuity other sourceId hfirst hsecond
  obtain ⟨entry, hentry, rfl⟩ := Option.map_eq_some_iff.mp hfirst
  obtain ⟨entry', hentry', hsame⟩ := Option.map_eq_some_iff.mp hsecond
  obtain ⟨hmem, -, rfl⟩ := IdentityRegistry.findLive_eq_some hentry
  obtain ⟨hmem', -, rfl⟩ := IdentityRegistry.findLive_eq_some hentry'
  rw [KeyedMap.eq_of_key_eq hmem hmem' (congrArg SourceId.asStr hsame.symm)]

end

/-- What a descriptor says. -/
theorem mem_describeSources {default? : Option SourceId} {source : SourceDescriptor} :
    source ∈ describeSources registry default? ↔
      ∃ entry ∈ registry.entries.values, entry.state.isRetired = false ∧
        source = ⟨entry.id, entry.displayName, .playback, entry.state.isLive,
          decide (default? = some entry.id), [.waveform]⟩ := by
  unfold describeSources IdentityRegistry.knownSources
  simp only [List.map_map, List.mem_map, List.mem_filter, Bool.not_eq_true', Function.comp_apply,
    and_assoc, eq_comm (a := source)]

/-- The source that is the default is live, and that of the endpoint that is the default. -/
theorem defaultSourceId_eq_some
    (hmarks : Marks (stableEvidence (described active)) [] registry.entries) {sourceId : SourceId}
    (h : defaultSourceId registry (described active) = some sourceId) :
    ∃ observation ∈ active, observation.isDefaultPlayback = true ∧
      ∃ entry ∈ registry.entries.values, entry.id = sourceId ∧ entry.state.isLive = true ∧
        observation.continuity = .stable entry.continuity := by
  obtain ⟨observation, hfind, hid⟩ := Option.bind_eq_some_iff.mp h
  have hdescribed := List.mem_of_find?_eq_some hfind
  obtain ⟨continuity, hstable⟩ := exists_stable hdescribed
  rw [hstable] at hid
  obtain ⟨entry, hfound, rfl⟩ := Option.map_eq_some_iff.mp hid
  obtain ⟨hactive, hobserved, -⟩ := mem_described hdescribed hstable
  have hlive := isLive_of_described hmarks hobserved hfound
  obtain ⟨hentry, -, rfl⟩ := IdentityRegistry.findLive_eq_some hfound
  exact ⟨observation, hactive, List.find?_some hfind, entry, hentry, rfl, hlive, hstable⟩

/-- The binding of a source is of that source. -/
theorem sourceId_of_find? {bindings : List PlaybackCaptureBinding} {sourceId : SourceId}
    {binding : PlaybackCaptureBinding}
    (h : (bindings.find? fun binding => binding.sourceId = sourceId) = some binding) :
    binding.sourceId = sourceId := by
  have hfound := List.find?_some h
  exact of_decide_eq_true hfound

/-- The sources that are available are the live ones. -/
theorem mem_available_iff {default? : Option SourceId} {sourceId : SourceId} :
    sourceId ∈ ((describeSources registry default?).filter SourceDescriptor.isAvailable).map
        SourceDescriptor.sourceId ↔
      ∃ entry ∈ registry.entries.values, entry.id = sourceId ∧ entry.state.isLive = true := by
  constructor
  · intro hmem
    obtain ⟨source, hsource, rfl⟩ := List.mem_map.mp hmem
    obtain ⟨hsource, havailable⟩ := List.mem_filter.mp hsource
    obtain ⟨entry, hentry, -, rfl⟩ := mem_describeSources.mp hsource
    exact ⟨entry, hentry, rfl, havailable⟩
  · rintro ⟨entry, hentry, rfl, hlive⟩
    refine List.mem_map.mpr ⟨_, List.mem_filter.mpr ⟨mem_describeSources.mpr
      ⟨entry, hentry, SourceRecord.isRetired_of_isLive hlive, rfl⟩, hlive⟩, rfl⟩

/-- No two descriptors are of the same source. -/
theorem nodup_describeSources (default? : Option SourceId) :
    ((describeSources registry default?).map SourceDescriptor.sourceId).Nodup := by
  have hkeys : (registry.entries.values.map SourceRecord.key).Nodup :=
    List.pairwise_map.mpr (registry.entries.sorted.imp ne_of_lt)
  have hids : (registry.entries.values.map SourceRecord.id).Nodup := by
    have hmap : registry.entries.values.map SourceRecord.key
        = (registry.entries.values.map SourceRecord.id).map SourceId.asStr := by
      rw [List.map_map]
      rfl
    rw [hmap] at hkeys
    exact hkeys.of_map _
  have hsame : (describeSources registry default?).map SourceDescriptor.sourceId
      = (registry.entries.values.filter fun entry => !entry.state.isRetired).map
        SourceRecord.id := by
    unfold describeSources IdentityRegistry.knownSources
    rw [List.map_map, List.map_map]
    rfl
  rw [hsame]
  exact hids.sublist (List.filter_sublist.map _)

/-- What is described of a registry that the endpoints were put in is coherent. -/
theorem describe_coherent (identity : DiscoverySnapshot) (hone : OneEach registry.entries)
    (hmarks : Marks (stableEvidence (described active)) [] registry.entries) :
    Coherent active registry.entries (describe registry identity (described active)) where
  ids := nodup_describeSources _
  products := by
    intro source hsource
    obtain ⟨entry, -, -, rfl⟩ := mem_describeSources.mp hsource
    rfl
  default_unique := by
    intro source hsource other hother hdefault hdefault'
    obtain ⟨entry, hentry, -, rfl⟩ := mem_describeSources.mp hsource
    obtain ⟨entry', hentry', -, rfl⟩ := mem_describeSources.mp hother
    have hid : some entry.id = some entry'.id :=
      (of_decide_eq_true hdefault).symm.trans (of_decide_eq_true hdefault')
    -- Identifiers are the keys of the entries, so the two are one.
    have hsame : entry = entry' :=
      KeyedMap.eq_of_key_eq hentry hentry' (congrArg SourceId.asStr (Option.some.inj hid))
    rw [hsame]
  default_available := by
    intro source hsource hdefault
    obtain ⟨entry, hentry, -, rfl⟩ := mem_describeSources.mp hsource
    obtain ⟨-, -, -, entry', hentry', hid, hlive, -⟩ :=
      defaultSourceId_eq_some hmarks (of_decide_eq_true hdefault)
    rw [KeyedMap.eq_of_key_eq hentry' hentry (congrArg SourceId.asStr hid)] at hlive
    exact hlive
  bindings := by
    -- Both lists hold an identifier once, so it is enough that they hold the same ones.
    refine (List.perm_ext_iff_of_nodup nodup_bound ?_).mpr ?_
    · exact (nodup_describeSources _).sublist (List.filter_sublist.map _)
    · intro sourceId
      exact (mem_bound_iff hone hmarks identity).trans mem_available_iff.symm
  identities := by
    intro binding hbinding
    obtain ⟨observation, -, hbind⟩ := List.mem_filterMap.mp hbinding
    obtain ⟨continuity, entry, -, -, rfl⟩ := bind?_eq_some.mp hbind
    rfl
  endpoints := by
    intro binding hbinding
    obtain ⟨observation, hobservation, hbind⟩ := List.mem_filterMap.mp hbinding
    obtain ⟨continuity, entry, hstable, hfound, rfl⟩ := bind?_eq_some.mp hbind
    obtain ⟨-, hobserved, hcount⟩ := mem_described hobservation hstable
    have hlive := isLive_of_described hmarks hobserved hfound
    obtain ⟨hentry, -, rfl⟩ := IdentityRegistry.findLive_eq_some hfound
    exact ⟨entry, hentry, rfl, hlive, rfl, hcount⟩
  default_source := by
    intro sourceId
    constructor
    · rintro ⟨source, hsource, rfl, hdefault⟩
      obtain ⟨entry, hentry, -, rfl⟩ := mem_describeSources.mp hsource
      have hdefault := of_decide_eq_true hdefault
      obtain ⟨-, -, -, entry', hentry', hid, hlive, -⟩ := defaultSourceId_eq_some hmarks hdefault
      -- The default source is available, so it is bound, and the search for it succeeds.
      obtain ⟨binding, hbinding, hbound⟩ := List.mem_map.mp
        ((mem_bound_iff hone hmarks identity).mpr ⟨entry', hentry', hid, hlive⟩)
      have hsome : (((described active).filterMap (bind? registry identity)).find?
          fun binding => binding.sourceId = entry.id).isSome := by
        rw [List.find?_isSome]
        exact ⟨binding, hbinding, decide_eq_true hbound⟩
      obtain ⟨found, hfound⟩ := Option.isSome_iff_exists.mp hsome
      refine ⟨found, Option.bind_eq_some_iff.mpr ⟨entry.id, hdefault, hfound⟩, ?_⟩
      exact sourceId_of_find? hfound
    · rintro ⟨binding, hbinding, rfl⟩
      obtain ⟨sourceId, hdefault, hfound⟩ := Option.bind_eq_some_iff.mp hbinding
      obtain ⟨-, -, -, entry, hentry, rfl, hlive, -⟩ := defaultSourceId_eq_some hmarks hdefault
      have hid : binding.sourceId = entry.id := sourceId_of_find? hfound
      refine ⟨_, mem_describeSources.mpr
        ⟨entry, hentry, SourceRecord.isRetired_of_isLive hlive, rfl⟩, hid.symm, ?_⟩
      exact decide_eq_true hdefault
  default_binding := by
    intro binding hbinding
    obtain ⟨sourceId, hdefault, hfound⟩ := Option.bind_eq_some_iff.mp hbinding
    obtain ⟨observation, hactive, hflag, entry, hentry, rfl, -, hstable⟩ :=
      defaultSourceId_eq_some hmarks hdefault
    have hid : binding.sourceId = entry.id := sourceId_of_find? hfound
    exact ⟨List.mem_of_find?_eq_some hfound, observation, hactive, hflag, entry, hentry,
      hid.symm, hstable⟩

/-- A snapshot at another revision is as coherent. -/
theorem withIdentity_coherent {m : Sources} {snapshot : PlaybackDiscoverySnapshot}
    (h : Coherent active m snapshot) (identity : DiscoverySnapshot) :
    Coherent active m (snapshot.withIdentity identity) where
  ids := h.ids
  products := h.products
  default_unique := h.default_unique
  default_available := h.default_available
  bindings := by
    unfold withIdentity
    rw [List.map_map]
    exact h.bindings
  identities := by
    intro binding hbinding
    obtain ⟨binding, -, rfl⟩ := List.mem_map.mp hbinding
    rfl
  endpoints := by
    intro binding hbinding
    obtain ⟨issued, hissued, rfl⟩ := List.mem_map.mp hbinding
    exact h.endpoints issued hissued
  default_source := by
    intro sourceId
    refine (h.default_source sourceId).trans ?_
    constructor
    · rintro ⟨binding, hbinding, hid⟩
      exact ⟨{ binding with identity }, Option.map_eq_some_iff.mpr ⟨binding, hbinding, rfl⟩, hid⟩
    · rintro ⟨binding, hbinding, hid⟩
      obtain ⟨issued, hissued, rfl⟩ := Option.map_eq_some_iff.mp hbinding
      exact ⟨issued, hissued, hid⟩
  default_binding := by
    intro binding hbinding
    obtain ⟨issued, hissued, rfl⟩ := Option.map_eq_some_iff.mp hbinding
    obtain ⟨hmem, hobservation⟩ := h.default_binding issued hissued
    exact ⟨List.mem_map.mpr ⟨issued, hmem, rfl⟩, hobservation⟩

/-- The name and the roles of a portable descriptor are always right. -/
theorem portableSource_eq_ok {source : SourceDescriptor}
    (hproducts : source.supportedProducts.Nodup) :
    ∃ portable, portableSource source = .ok portable ∧ portable.sourceId = source.sourceId := by
  have hname : Option.any Text.isBlank
      (if Text.isBlank source.displayName then none else some source.displayName) = false := by
    split
    next => rfl
    next hname => exact Bool.eq_false_iff.mpr hname
  have hroles : (if source.isDefaultPlayback then [DefaultSource.playback] else []).Nodup := by
    split
    next => exact List.nodup_singleton _
    next => exact List.nodup_nil
  exact ⟨_, PortableSourceDescriptor.new_eq_ok hname hproducts hroles, rfl⟩

/-- The portable descriptors of sources. -/
theorem mapM_portableSource {sources : List SourceDescriptor}
    (hproducts : ∀ source ∈ sources, source.supportedProducts.Nodup) :
    ∃ portable, sources.mapM portableSource = .ok portable ∧
      portable.map PortableSourceDescriptor.sourceId = sources.map SourceDescriptor.sourceId := by
  induction sources with
  | nil => exact ⟨[], rfl, rfl⟩
  | cons source sources ih =>
    obtain ⟨hfirst, hrest⟩ := List.forall_mem_cons.mp hproducts
    obtain ⟨first, hfirst, hid⟩ := portableSource_eq_ok hfirst
    obtain ⟨rest, hrest, hids⟩ := ih hrest
    refine ⟨first :: rest, ?_, ?_⟩
    · rw [List.mapM_cons, hfirst]
      show (sources.mapM portableSource >>= _) = _
      rw [hrest]
      rfl
    · rw [List.map_cons, List.map_cons, hid, hids]

/-- A coherent snapshot is portable. -/
theorem toPortable_eq_ok {m : Sources} {snapshot : PlaybackDiscoverySnapshot}
    (h : Coherent active m snapshot) : ∃ portable, snapshot.toPortable = .ok portable := by
  have hproducts : ∀ source ∈ snapshot.sources, source.supportedProducts.Nodup := by
    intro source hsource
    rw [h.products source hsource]
    exact List.nodup_singleton _
  obtain ⟨sources, hsources, hids⟩ := mapM_portableSource hproducts
  have hnodup : (sources.map PortableSourceDescriptor.sourceId).Nodup := by
    rw [hids]
    exact h.ids
  refine ⟨⟨portableRevision snapshot.identity, sources, hnodup⟩, ?_⟩
  exact Result.bind_eq_ok.mpr ⟨sources, hsources, PortableDiscoverySnapshot.new_eq_ok hnodup⟩

end PlaybackDiscoverySnapshot

/-! ## Refreshes -/

namespace PlaybackDiscovery

variable {self after : PlaybackDiscovery} {files files' : RegistryFiles}
  {enumerated : Except String (List PlaybackEndpointObservation)}
  {applyFault advanceFault : Option Interruption} {snapshot : PlaybackDiscoverySnapshot}

/-- What a refresh that succeeds has done. -/
theorem refresh_eq_ok
    (h : self.refresh enumerated files applyFault advanceFault = (.ok snapshot, after, files')) :
    ∃ observations identity registry applied, enumerated = .ok observations ∧
      self.registry.applyObservations (gatherActive (activeEndpoints observations)).1 files
        applyFault = (.ok identity, registry, applied) ∧
      ((advances self.lastSnapshot self.registry.revision (.describe registry identity
          (gatherActive (activeEndpoints observations)).2) = false ∧
        snapshot = .describe registry identity (gatherActive (activeEndpoints observations)).2 ∧
        after = ⟨registry, some snapshot⟩ ∧ files' = applied) ∨
      (advances self.lastSnapshot self.registry.revision (.describe registry identity
          (gatherActive (activeEndpoints observations)).2) = true ∧
        ∃ identity' advanced, registry.advanceRevision applied advanceFault
            = (.ok identity', advanced, files') ∧
          snapshot = (PlaybackDiscoverySnapshot.describe registry identity
            (gatherActive (activeEndpoints observations)).2).withIdentity identity' ∧
          after = ⟨advanced, some snapshot⟩)) := by
  unfold refresh at h
  split at h
  next => cases h
  next observations =>
    dsimp only at h
    split at h
    next => cases h
    next =>
      split at h
      next => cases h
      next identity registry applied happly =>
        refine ⟨observations, identity, registry, applied, rfl, happly, ?_⟩
        -- The pass is committed; whether the revision advances again is up to the description.
        unfold publish at h
        split at h
        next hadvances =>
          right
          split at h
          next => cases h
          next identity' advanced written hadvance =>
            cases h
            exact ⟨hadvances, identity', advanced, hadvance, rfl, rfl⟩
        next hadvances =>
          cases h
          exact .inl ⟨Bool.eq_false_iff.mpr hadvances, rfl, rfl, rfl⟩

/-- A refresh of a registry in which evidence is that of one source is coherent. -/
theorem refresh_coherent (hone : OneEach self.registry.entries)
    (h : self.refresh enumerated files applyFault advanceFault = (.ok snapshot, after, files')) :
    ∃ observations, enumerated = .ok observations ∧
      Coherent (activeEndpoints observations) after.registry.entries snapshot ∧
      snapshot.identity = after.registry.snapshot := by
  obtain ⟨observations, identity, registry, applied, henumerated, happly, hcases⟩ :=
    refresh_eq_ok h
  refine ⟨observations, henumerated, ?_⟩
  obtain ⟨hdescribable, hobserved⟩ := gather_spec
    (stableContinuityCount (activeEndpoints observations)) [] (activeEndpoints observations)
  have hdescribable : (gatherActive (activeEndpoints observations)).2
      = PlaybackDiscoverySnapshot.described (activeEndpoints observations) := hdescribable
  have hmarks := applyObservations_marks hone happly
  have hmarks : Marks (stableEvidence (PlaybackDiscoverySnapshot.described
      (activeEndpoints observations))) [] registry.entries := hobserved ▸ hmarks
  obtain ⟨changes, observedAfter, hall, hidentity, hafter⟩ :=
    IdentityRegistry.applyObservations_eq_ok happly
  have hone : OneEach registry.entries := by
    have hkept := IdentityRegistry.kept_markAllAbsent self.registry
      (observedContinuities (gatherActive (activeEndpoints observations)).1)
    have hobservedOne := hall.oneEach (hkept.oneEach hone)
    rcases hafter with ⟨hsame, -, -⟩ | ⟨hsame, -⟩
    · rw [hsame]
      exact hone
    · rw [hsame]
      exact hobservedOne
  have hcoherent := PlaybackDiscoverySnapshot.describe_coherent identity hone hmarks
  rw [hdescribable] at hcases
  rcases hcases with ⟨-, rfl, rfl, rfl⟩ | ⟨-, identity', advanced, hadvance, rfl, rfl⟩
  · exact ⟨hcoherent, hidentity⟩
  · obtain ⟨rfl, -, hidentity'⟩ := IdentityRegistry.commit_eq_ok hadvance
    exact ⟨PlaybackDiscoverySnapshot.withIdentity_coherent hcoherent identity', hidentity'⟩

/-- A source that is resolved is the requested one. -/
theorem resolveExplicit_eq_ok {sourceId resolved : SourceId}
    (h : self.resolveExplicit sourceId snapshot = some (.ok resolved)) : resolved = sourceId := by
  unfold resolveExplicit at h
  split at h
  next => cases h
  next live hresolve =>
    cases h
    obtain ⟨-, -, hresolve⟩ := Result.bind_eq_ok.mp hresolve
    split at hresolve
    next => cases hresolve
    next entry hentry =>
      split at hresolve
      next =>
        cases hresolve
        have hkey : entry.id.asStr = sourceId.asStr := (KeyedMap.get?_eq_some.mp hentry).2
        cases hid : entry.id
        cases sourceId
        rw [hid] at hkey
        cases hkey
        rfl
      next => cases hresolve
      next => cases hresolve
  next => cases h

/-- A binding that is resolved is the requested source's, and one of the snapshot's. -/
theorem resolveExplicitPlaybackCapture_eq_ok {sourceId : SourceId}
    {binding : PlaybackCaptureBinding}
    (h : self.resolveExplicitPlaybackCapture sourceId snapshot = some (.ok binding)) :
    binding.sourceId = sourceId ∧ binding ∈ snapshot.captureBindings := by
  obtain ⟨outcome, hresolve, hbinding⟩ := Option.map_eq_some_iff.mp h
  obtain ⟨resolved, rfl, hfind⟩ := Result.bind_eq_ok.mp hbinding
  have hfind := okOr_eq_ok.mp hfind
  have hid := PlaybackDiscoverySnapshot.sourceId_of_find? hfind
  exact ⟨hid.trans (resolveExplicit_eq_ok hresolve), List.mem_of_find?_eq_some hfind⟩

/-- A registry that was opened from any files, and on which any operations were tried, is refreshed
with any endpoints. If that succeeds, then the snapshot agrees with the active endpoints and with
the registry, a source that is resolved in it is the requested one, and it is portable. -/
theorem snapshots_coherent {directory : RegistryFiles} {«namespace» : RegistryNamespace}
    {fault : Option Interruption} {start m : RegistryMachine} {cs : List RegistryCall}
    {lastSnapshot : Option PlaybackDiscoverySnapshot}
    (hnew : RegistryMachine.new directory «namespace» fault = some start)
    (hattempts : start.attempts cs = some m)
    (hrefresh : refresh ⟨m.registry, lastSnapshot⟩ enumerated m.files applyFault advanceFault
      = (.ok snapshot, after, files')) :
    ∃ observations, enumerated = .ok observations ∧
      Coherent (activeEndpoints observations) after.registry.entries snapshot ∧
      (∀ sourceId binding,
        after.resolveExplicitPlaybackCapture sourceId snapshot = some (.ok binding) →
          binding.sourceId = sourceId ∧ binding ∈ snapshot.captureBindings) ∧
      ∃ portable, snapshot.toPortable = .ok portable := by
  have hwellformed := RegistryMachine.attempts_wellformed
    (RegistryMachine.new_wellformed hnew) hattempts
  obtain ⟨observations, henumerated, hcoherent, -⟩ :=
    refresh_coherent hwellformed.oneEach hrefresh
  exact ⟨observations, henumerated, hcoherent,
    fun sourceId binding => resolveExplicitPlaybackCapture_eq_ok,
    PlaybackDiscoverySnapshot.toPortable_eq_ok hcoherent⟩

/-- Endpoints: the default, two with the same evidence, and one that is not active. -/
def exampleEndpoints : List PlaybackEndpointObservation :=
  [⟨"Speakers", .active, .stable ⟨"key", "first"⟩, true⟩,
    ⟨"Headphones", .active, .stable ⟨"other", "first"⟩, false⟩,
    ⟨"Headphones", .active, .stable ⟨"other", "first"⟩, false⟩,
    ⟨"Display", .disabled, .stable ⟨"display", "first"⟩, false⟩]

/-- A refresh of endpoints after the headphones were known. -/
theorem snapshots_coherent_example : ∃ start m snapshot after files',
    RegistryMachine.new .none (generateNamespace 1 2) none = some start ∧
      start.attempts [.operation (.applyObservations
        [⟨"Headphones", .stable ⟨"other", "first"⟩⟩]) none] = some m ∧
      refresh ⟨m.registry, none⟩ (.ok exampleEndpoints) m.files none none
        = (.ok snapshot, after, files') ∧
      ∃ observations, (Except.ok exampleEndpoints : Except String _) = .ok observations ∧
        Coherent (activeEndpoints observations) after.registry.entries snapshot ∧
        (∀ sourceId binding,
          after.resolveExplicitPlaybackCapture sourceId snapshot = some (.ok binding) →
            binding.sourceId = sourceId ∧ binding ∈ snapshot.captureBindings) ∧
        ∃ portable, snapshot.toPortable = .ok portable := by
  have hruns : (((RegistryMachine.new .none (generateNamespace 1 2) none).bind (·.attempts
      [.operation (.applyObservations [⟨"Headphones", .stable ⟨"other", "first"⟩⟩]) none])).bind
        fun m => (refresh ⟨m.registry, none⟩ (.ok exampleEndpoints) m.files none none).1.toOption
      ).isSome = true := by decide +kernel
  obtain ⟨snapshot, hsome⟩ := Option.isSome_iff_exists.mp hruns
  obtain ⟨m, hm, hok⟩ := Option.bind_eq_some_iff.mp hsome
  obtain ⟨start, hnew, hattempts⟩ := Option.bind_eq_some_iff.mp hm
  rcases hrefresh : refresh ⟨m.registry, none⟩ (.ok exampleEndpoints) m.files none none with
    ⟨outcome, after, files'⟩
  rw [hrefresh] at hok
  cases outcome with
  | error error => cases hok
  | ok snapshot =>
    exact ⟨start, m, snapshot, after, files', hnew, hattempts, hrefresh,
      snapshots_coherent hnew hattempts hrefresh⟩

end PlaybackDiscovery

end ResonanceSignal
