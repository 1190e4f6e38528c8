import ResonanceSignal.Agent.RegistryRuns

/-!
# Opening what was committed

A retired source keeps its evidence, and evidence that comes back after its retirement is that of a
new source, with a new identifier. The registry writes both, and does not read them:
`from_persisted` expects that no two sources have the same evidence, retired or not. So a registry
that was created in an empty directory can be opened again exactly until an observation brings back
the evidence of a retired source (`reopens_iff`).
-/

namespace ResonanceSignal

/-- An observation of a batch is stable evidence of a retired source. Of the evidence that is known,
the ambiguous part is that of sources that are retired in the batch. -/
def bringsBack (known retired : List ContinuityEvidence) : List SourceObservation → Bool
  | [] => false
  | ⟨_, .stable continuity⟩ :: observations =>
    retired.contains continuity || bringsBack (continuity :: known) retired observations
  | ⟨_, .ambiguous candidates⟩ :: observations =>
    bringsBack known (candidates.filter known.contains ++ retired) observations
  | ⟨_, .unknown⟩ :: observations => bringsBack known retired observations

/-- The evidence of the sources that are retired, or of those that are not. -/
def evidenceOf (isRetired : Bool) (entries : Sources) : List ContinuityEvidence :=
  (entries.values.filter fun entry => entry.state.isRetired == isRetired).map
    SourceRecord.continuity

/-- An operation brings back the evidence of a retired source. -/
def RegistryOperation.bringsBack (contents : RegistryContents) : RegistryOperation → Bool
  | applyObservations observations =>
    ResonanceSignal.bringsBack (evidenceOf false contents.entries) (evidenceOf true contents.entries)
      observations
  | _ => false

/-- The stable evidence of an operation is not empty. -/
def RegistryOperation.Valid : RegistryOperation → Prop
  | applyObservations observations =>
    ∀ continuity ∈ observedContinuities observations, continuity.Valid
  | _ => True

/-! ## Distinct evidence -/

/-- No two sources have the same evidence. -/
def Distinct (m : Sources) : Prop :=
  ∀ entry ∈ m.values, ∀ other ∈ m.values, entry.continuity = other.continuity → entry = other

variable {m m' : Sources}

/-- The values of a map are distinct. -/
theorem nodup_values (m : Sources) : m.values.Nodup :=
  m.sorted.imp fun hlt heq => absurd (congrArg SourceRecord.key heq) (ne_of_lt hlt)

/-- Distinct evidence is a list without duplicates. -/
theorem distinct_iff_nodup : Distinct m ↔ (m.values.map SourceRecord.continuity).Nodup := by
  constructor
  · intro h
    exact List.Nodup.map_on (fun entry hentry other hother => h entry hentry other hother)
      (nodup_values m)
  · intro h entry hentry other hother hsame
    exact List.inj_on_of_nodup_map h hentry hother hsame

/-- Entries that are kept have distinct evidence exactly where they had. -/
theorem Kept.distinct_iff (h : Kept m m') : Distinct m' ↔ Distinct m := by
  constructor
  · intro hdistinct entry hentry other hother hsame
    obtain ⟨entry', hentry', hevolves⟩ := h.forward entry hentry
    obtain ⟨other', hother', hevolves'⟩ := h.forward other hother
    have hsame' : entry' = other' := by
      apply hdistinct entry' hentry' other' hother'
      rw [hevolves.continuity, hevolves'.continuity, hsame]
    apply KeyedMap.eq_of_key_eq hentry hother
    rw [← hevolves.key, ← hevolves'.key, hsame']
  · intro hdistinct entry' hentry' other' hother' hsame
    obtain ⟨entry, hentry, hevolves⟩ := h.backward entry' hentry'
    obtain ⟨other, hother, hevolves'⟩ := h.backward other' hother'
    have hsame' : entry = other := by
      apply hdistinct entry hentry other hother
      rw [← hevolves.continuity, ← hevolves'.continuity, hsame]
    apply KeyedMap.eq_of_key_eq hentry' hother'
    rw [hevolves.key, hevolves'.key, hsame']

/-- Where evidence is that of two sources, it stays so. -/
theorem Grows.not_distinct {id? : Option SourceId} (h : Grows m id? m')
    (hdistinct : ¬Distinct m) : ¬Distinct m' := by
  intro hdistinct'
  apply hdistinct
  intro entry hentry other hother hsame
  obtain ⟨entry', hentry', hevolves⟩ := h.forward entry hentry
  obtain ⟨other', hother', hevolves'⟩ := h.forward other hother
  have hsame' : entry' = other' := by
    apply hdistinct' entry' hentry' other' hother'
    rw [hevolves.continuity, hevolves'.continuity, hsame]
  apply KeyedMap.eq_of_key_eq hentry hother
  rw [← hevolves.key, ← hevolves'.key, hsame']

/-- The evidence that is followed through a batch: that of sources that are not retired, and that of
the retired ones, as far as it is observed. -/
structure Tracks (observed : List ContinuityEvidence) (m : Sources)
    (known retired : List ContinuityEvidence) : Prop where
  /-- The evidence of sources that are not retired is known. -/
  live : ∀ entry ∈ m.values, entry.state.isRetired = false → entry.continuity ∈ known
  /-- Evidence of retired sources that is observed is followed. -/
  gone : ∀ entry ∈ m.values, entry.state.isRetired = true → entry.continuity ∈ observed →
    entry.continuity ∈ retired
  /-- What is known and observed is the evidence of a source. -/
  known : ∀ continuity ∈ known, continuity ∈ observed →
    ∃ entry ∈ m.values, entry.continuity = continuity
  /-- What is followed and observed is the evidence of a retired source. -/
  retired : ∀ continuity ∈ retired, continuity ∈ observed →
    ∃ entry ∈ m.values, entry.state.isRetired = true ∧ entry.continuity = continuity

namespace IdentityRegistry

variable {A : Type} {before after : IdentityRegistry A}
  {observed known retired : List ContinuityEvidence}

/-- Ambiguous evidence keeps the track of the batch. -/
theorem tracks_ambiguous (candidates : List ContinuityEvidence)
    (h : Tracks observed before.entries known retired) :
    Tracks observed (before.entries.map
      (SourceRecord.retiredAs .ambiguousReturn (before.ambiguousIds candidates))
      (SourceRecord.key_retiredAs .ambiguousReturn (before.ambiguousIds candidates)))
      known (candidates.filter known.contains ++ retired) := by
  have hkept := Kept.of_retiredAs before.entries .ambiguousReturn (before.ambiguousIds candidates)
  refine ⟨?_, ?_, ?_, ?_⟩
  · intro entry' hentry' hlive
    obtain ⟨entry, hentry, hevolves⟩ := hkept.backward entry' hentry'
    rw [hevolves.continuity]
    exact h.live entry hentry (hevolves.not_isRetired hlive)
  · intro entry' hentry' hretired hobserved
    obtain ⟨entry, hentry, rfl⟩ := KeyedMap.mem_map.mp hentry'
    have hcontinuity := (SourceRecord.evolves_retiredAs .ambiguousReturn
      (before.ambiguousIds candidates) entry).continuity
    rw [hcontinuity] at hobserved ⊢
    cases hbefore : entry.state.isRetired with
    | true => exact List.mem_append_right _ (h.gone entry hentry hbefore hobserved)
    | false =>
      -- A source that this pass retires is a live one among the candidates.
      have hmem : entry.key ∈ before.ambiguousIds candidates := by
        by_contra hmem
        rw [SourceRecord.retiredAs_of_not_mem hmem, hbefore] at hretired
        cases hretired
      apply List.mem_append_left
      rw [List.mem_filter, List.contains_iff_mem]
      exact ⟨((mem_ambiguousIds hentry).mp hmem).2, h.live entry hentry hbefore⟩
  · intro continuity hcontinuity hobserved
    obtain ⟨entry, hentry, rfl⟩ := h.known continuity hcontinuity hobserved
    obtain ⟨entry', hentry', hevolves⟩ := hkept.forward entry hentry
    exact ⟨entry', hentry', hevolves.continuity⟩
  · intro continuity hcontinuity hobserved
    rcases List.mem_append.mp hcontinuity with hcontinuity | hcontinuity
    · rw [List.mem_filter, List.contains_iff_mem] at hcontinuity
      -- A candidate that was live is retired now, and stays in its place.
      obtain ⟨hcandidate, hknown⟩ := hcontinuity
      obtain ⟨entry, hentry, rfl⟩ := h.known continuity hknown hobserved
      refine ⟨_, KeyedMap.mem_map.mpr ⟨entry, hentry, rfl⟩, ?_,
        (SourceRecord.evolves_retiredAs .ambiguousReturn _ entry).continuity⟩
      cases hbefore : entry.state.isRetired with
      | true => exact (SourceRecord.evolves_retiredAs .ambiguousReturn _ entry).isRetired hbefore
      | false =>
        rw [SourceRecord.retiredAs_of_mem hbefore
          ((mem_ambiguousIds hentry).mpr ⟨hbefore, hcandidate⟩)]
        rfl
    · obtain ⟨entry, hentry, hretired, rfl⟩ := h.retired continuity hcontinuity hobserved
      obtain ⟨entry', hentry', hevolves⟩ := hkept.forward entry hentry
      exact ⟨entry', hentry', hevolves.isRetired hretired, hevolves.continuity⟩

/-- A source that is found keeps the track of the batch. -/
theorem tracks_found {continuity : ContinuityEvidence} {entry : SourceRecord}
    (hfound : before.findLive continuity = some entry) (displayName : String)
    (h : Tracks observed before.entries known retired) :
    Tracks observed (before.entries.insert { entry with state := .live, displayName })
      (continuity :: known) retired := by
  obtain ⟨hentry, hlive, rfl⟩ := findLive_eq_some hfound
  set found : SourceRecord := { entry with state := .live, displayName } with hfound'
  have hkey : found.key = entry.key := rfl
  -- An entry other than the one that is found stays as it is.
  have hstays : ∀ other ∈ before.entries.values, other ≠ entry →
      other ∈ (before.entries.insert found).values := by
    intro other hother hne
    refine KeyedMap.mem_insert.mpr (.inr ⟨hother, fun heq => hne ?_⟩)
    exact KeyedMap.eq_of_key_eq hother hentry (heq.trans hkey)
  have hmem : found ∈ (before.entries.insert found).values := KeyedMap.mem_insert.mpr (.inl rfl)
  refine ⟨?_, ?_, ?_, ?_⟩
  · intro other hother hotherLive
    rcases KeyedMap.mem_insert.mp hother with rfl | ⟨hother, -⟩
    · exact List.mem_cons_self
    · exact List.mem_cons_of_mem _ (h.live other hother hotherLive)
  · intro other hother hretired hobserved
    rcases KeyedMap.mem_insert.mp hother with rfl | ⟨hother, -⟩
    · cases hretired
    · exact h.gone other hother hretired hobserved
  · intro other hother hobserved
    rcases List.mem_cons.mp hother with rfl | hother
    · exact ⟨found, hmem, rfl⟩
    · obtain ⟨source, hsource, rfl⟩ := h.known other hother hobserved
      by_cases hsame : source = entry
      · exact ⟨found, hmem, by rw [hsame]⟩
      · exact ⟨source, hstays source hsource hsame, rfl⟩
  · intro other hother hobserved
    obtain ⟨source, hsource, hretired, rfl⟩ := h.retired other hother hobserved
    refine ⟨source, hstays source hsource ?_, hretired, rfl⟩
    rintro rfl
    rw [hlive] at hretired
    cases hretired

/-- A source that is new keeps the track of the batch, where its evidence is not that of a retired
one. -/
theorem tracks_discovered {continuity : ContinuityEvidence} (entry : SourceRecord)
    (hkey : (before.retireReused observed continuity).entries.contains entry.key = false)
    (hevidence : entry.continuity = continuity) (hlive : entry.state.isRetired = false)
    (h : Tracks observed before.entries known retired) :
    Tracks observed ((before.retireReused observed continuity).entries.insert entry)
      (continuity :: known) retired := by
  obtain ⟨ids, hids, hreused⟩ := retireReused_eq before observed continuity
  rw [hids] at hkey ⊢
  have hkept := Kept.of_retiredAs before.entries .nativeKeyReuse ids
  have hforward : ∀ source ∈ before.entries.values,
      ∃ source' ∈ ((before.entries.map (SourceRecord.retiredAs .nativeKeyReuse ids)
        (SourceRecord.key_retiredAs .nativeKeyReuse ids)).insert entry).values,
        source.Evolves source' := by
    intro source hsource
    obtain ⟨source', hsource', hevolves⟩ := hkept.forward source hsource
    refine ⟨source', KeyedMap.mem_insert.mpr (.inr ⟨hsource', ?_⟩), hevolves⟩
    exact KeyedMap.contains_eq_false.mp hkey source' hsource'
  refine ⟨?_, ?_, ?_, ?_⟩
  · intro other hother hotherLive
    rcases KeyedMap.mem_insert.mp hother with rfl | ⟨hother, -⟩
    · exact hevidence ▸ List.mem_cons_self
    · obtain ⟨source, hsource, hevolves⟩ := hkept.backward other hother
      rw [hevolves.continuity]
      exact List.mem_cons_of_mem _ (h.live source hsource (hevolves.not_isRetired hotherLive))
  · intro other hother hretired hobserved
    rcases KeyedMap.mem_insert.mp hother with rfl | ⟨hother, -⟩
    · rw [hlive] at hretired
      cases hretired
    · obtain ⟨source, hsource, rfl⟩ : ∃ source ∈ before.entries.values,
          source.retiredAs .nativeKeyReuse ids = other := List.mem_map.mp hother
      have hcontinuity := (SourceRecord.evolves_retiredAs .nativeKeyReuse ids source).continuity
      rw [hcontinuity] at hobserved ⊢
      cases hbefore : source.state.isRetired with
      | true => exact h.gone source hsource hbefore hobserved
      | false =>
        -- A source whose key is reused is not observed.
        have hmem : source.key ∈ ids := by
          by_contra hmem
          rw [SourceRecord.retiredAs_of_not_mem hmem, hbefore] at hretired
          cases hretired
        obtain ⟨-, hunobserved⟩ := Bool.and_eq_true_iff.mp (hreused source hsource hmem)
        rw [List.contains_iff_mem.mpr hobserved] at hunobserved
        cases hunobserved
  · intro other hother hobserved
    rcases List.mem_cons.mp hother with rfl | hother
    · exact ⟨entry, KeyedMap.mem_insert.mpr (.inl rfl), hevidence⟩
    · obtain ⟨source, hsource, rfl⟩ := h.known other hother hobserved
      obtain ⟨source', hsource', hevolves⟩ := hforward source hsource
      exact ⟨source', hsource', hevolves.continuity⟩
  · intro other hother hobserved
    obtain ⟨source, hsource, hretired, rfl⟩ := h.retired other hother hobserved
    obtain ⟨source', hsource', hevolves⟩ := hforward source hsource
    exact ⟨source', hsource', hevolves.isRetired hretired, hevolves.continuity⟩

variable [SourceIdAllocator A]

/-- What an observation makes of the track of a batch, and of the evidence. -/
theorem Observes.distinct {observation : SourceObservation} {id? : Option SourceId}
    {changes : Bool} (h : Observes observed before observation id? changes after)
    (hobserved : ∀ continuity, observation.continuity = .stable continuity →
      continuity ∈ observed)
    (hdistinct : Distinct before.entries)
    (htracks : Tracks observed before.entries known retired)
    (observations : List SourceObservation) :
    (bringsBack known retired (observation :: observations) = true ∧ ¬Distinct after.entries) ∨
      ∃ known' retired', bringsBack known retired (observation :: observations)
          = bringsBack known' retired' observations ∧
        Distinct after.entries ∧ Tracks observed after.entries known' retired' := by
  cases h with
  | unknown => exact .inr ⟨known, retired, rfl, hdistinct, htracks⟩
  | @ambiguous displayName candidates =>
    have hkept := Kept.of_retiredAs before.entries .ambiguousReturn
      (before.ambiguousIds candidates)
    exact .inr ⟨known, _, rfl, hkept.distinct_iff.mpr hdistinct,
      tracks_ambiguous candidates htracks⟩
  | @found displayName continuity entry hfound =>
    have hobserved := hobserved continuity rfl
    obtain ⟨hentry, hlive, hevidence⟩ := findLive_eq_some hfound
    have hnew : retired.contains continuity = false := by
      rw [Bool.eq_false_iff, ne_eq, List.contains_iff_mem]
      intro hretired
      -- The source that was retired would be the one that is found.
      obtain ⟨other, hother, hotherRetired, hsame⟩ :=
        htracks.retired continuity hretired hobserved
      cases hdistinct other hother entry hentry (hsame.trans hevidence.symm)
      rw [hlive] at hotherRetired
      cases hotherRetired
    right
    refine ⟨continuity :: known, retired, ?_, ?_, tracks_found hfound displayName htracks⟩
    · show (retired.contains continuity || _) = _
      rw [hnew]
      rfl
    · obtain ⟨f, hf, heq, hevolves, -⟩ := insert_found_eq hfound displayName
      rw [heq]
      exact (Kept.of_map hf hevolves).distinct_iff.mpr hdistinct
  | @discovered displayName continuity id allocated hnone hallocates =>
    -- The new source is apart from the others unless its evidence was retired.
    have hobserved := hobserved continuity rfl
    obtain ⟨hkept, -⟩ := retireReused_kept before observed continuity
    have hkey := hallocates.fresh id rfl
    have hentries : (allocated.insert ⟨id, continuity, displayName, .live⟩).entries
        = (before.retireReused observed continuity).entries.insert
          ⟨id, continuity, displayName, .live⟩ := by
      show allocated.entries.insert _ = _
      rw [hallocates.entries]
    have htracks' := tracks_discovered ⟨id, continuity, displayName, .live⟩ hkey rfl rfl
      htracks
    rw [← hentries] at htracks'
    have hmem : (⟨id, continuity, displayName, .live⟩ : SourceRecord)
        ∈ (allocated.insert ⟨id, continuity, displayName, .live⟩).entries.values :=
      KeyedMap.mem_insert.mpr (.inl rfl)
    show (retired.contains continuity || _) = true ∧ _ ∨ ∃ known' retired',
      (retired.contains continuity || _) = _ ∧ _
    cases hretired : retired.contains continuity with
    | true =>
      -- The retired source stays, with the evidence of the new one.
      left
      refine ⟨rfl, fun hdistinct' => ?_⟩
      obtain ⟨other, hother, hotherRetired, hsame⟩ :=
        htracks'.retired continuity (List.contains_iff_mem.mp hretired) hobserved
      rw [hdistinct' other hother _ hmem hsame] at hotherRetired
      cases hotherRetired
    | false =>
      right
      refine ⟨continuity :: known, retired, rfl, ?_, htracks'⟩
      rw [Bool.eq_false_iff, ne_eq, List.contains_iff_mem] at hretired
      have hother : ∀ other ∈ (before.retireReused observed continuity).entries.values,
          other.continuity ≠ continuity := by
        intro other hother hsame
        obtain ⟨source, hsource, hevolves⟩ := hkept.backward other hother
        -- A retired source with this evidence would be tracked, and a live one would be found.
        have hevidence : source.continuity = continuity := hevolves.continuity.symm.trans hsame
        cases hsourceRetired : source.state.isRetired with
        | true =>
          exact hretired (hevidence ▸ htracks.gone source hsource hsourceRetired
            (hevidence ▸ hobserved))
        | false => exact findLive_eq_none.mp hnone source hsource hsourceRetired hevidence
      rw [hentries]
      intro entry hentry entry' hentry' hsame
      rcases KeyedMap.mem_insert.mp hentry with rfl | ⟨hentry, -⟩
      · rcases KeyedMap.mem_insert.mp hentry' with rfl | ⟨hentry', -⟩
        · rfl
        · exact absurd hsame.symm (hother entry' hentry')
      · rcases KeyedMap.mem_insert.mp hentry' with rfl | ⟨hentry', -⟩
        · exact absurd hsame (hother entry hentry)
        · exact hkept.distinct_iff.mpr hdistinct entry hentry entry' hentry' hsame

/-- Where evidence is that of two sources, it stays so in a batch. -/
theorem ObservesAll.not_distinct {observations : List SourceObservation} {ids : List SourceId}
    {changes : Bool} (h : ObservesAll observed before observations ids changes after)
    (hdistinct : ¬Distinct before.entries) : ¬Distinct after.entries := by
  induction h with
  | nil => exact hdistinct
  | cons h hs ih => exact ih (h.steps.entries.not_distinct hdistinct)

/-- A batch keeps the evidence distinct exactly where it does not bring back that of a retired
source. -/
theorem ObservesAll.distinct_iff {observations : List SourceObservation} {ids : List SourceId}
    {changes : Bool} (h : ObservesAll observed before observations ids changes after)
    (hobserved : ∀ continuity ∈ observedContinuities observations, continuity ∈ observed)
    (hdistinct : Distinct before.entries)
    (htracks : Tracks observed before.entries known retired) :
    Distinct after.entries ↔ bringsBack known retired observations = false := by
  induction h generalizing known retired with
  | nil => exact ⟨fun _ => rfl, fun _ => hdistinct⟩
  | @cons before middle after observation observations id? ids changes changes' h hs ih =>
    obtain ⟨hfirst, hrest⟩ := forall_observed_cons hobserved
    rcases h.distinct hfirst hdistinct htracks observations with
      ⟨hback, hmiddle⟩ | ⟨known', retired', hsame, hmiddle, htracks'⟩
    · rw [hback]
      exact ⟨fun hafter => absurd hafter (hs.not_distinct hmiddle), nofun⟩
    · rw [hsame]
      exact ih hrest hmiddle htracks'

/-- The evidence stays valid. -/
theorem Observes.valid {observation : SourceObservation} {id? : Option SourceId} {changes : Bool}
    (h : Observes observed before observation id? changes after)
    (hvalid : ∀ entry ∈ before.entries.values, entry.continuity.Valid)
    (hobservation : ∀ continuity, observation.continuity = .stable continuity →
      continuity.Valid) : ∀ entry ∈ after.entries.values, entry.continuity.Valid := by
  have hkept : ∀ m : Sources, Kept before.entries m →
      ∀ entry ∈ m.values, entry.continuity.Valid := by
    intro m hkept entry' hentry'
    obtain ⟨entry, hentry, hevolves⟩ := hkept.backward entry' hentry'
    rw [hevolves.continuity]
    exact hvalid entry hentry
  cases h with
  | unknown => exact hvalid
  | ambiguous => exact hkept _ (.of_retiredAs before.entries _ _)
  | found hfound =>
    obtain ⟨f, hf, heq, hevolves, -⟩ := insert_found_eq hfound _
    rw [heq]
    exact hkept _ (.of_map hf hevolves)
  | @discovered displayName continuity id allocated hnone hallocates =>
    intro entry hentry
    rcases KeyedMap.mem_insert.mp hentry with rfl | ⟨hentry, -⟩
    · exact hobservation continuity rfl
    · rw [hallocates.entries] at hentry
      exact hkept _ (retireReused_kept before observed continuity).1 entry hentry

/-- The evidence stays valid in a batch. -/
theorem ObservesAll.valid {observations : List SourceObservation} {ids : List SourceId}
    {changes : Bool} (h : ObservesAll observed before observations ids changes after)
    (hvalid : ∀ entry ∈ before.entries.values, entry.continuity.Valid)
    (hobservations : ∀ continuity ∈ observedContinuities observations, continuity.Valid) :
    ∀ entry ∈ after.entries.values, entry.continuity.Valid := by
  induction h with
  | nil => exact hvalid
  | @cons before middle after observation observations id? ids changes changes' h hs ih =>
    obtain ⟨hfirst, hrest⟩ := forall_observed_cons hobservations
    exact ih (h.valid hvalid hfirst) hrest

end IdentityRegistry

/-! ## Batches and runs -/

/-- An entry that becomes absent was not retired. -/
theorem isRetired_markAbsent (observed : List ContinuityEvidence) (entry : SourceRecord) :
    (IdentityRegistry.markAbsent observed entry).state.isRetired = entry.state.isRetired := by
  unfold IdentityRegistry.markAbsent
  split
  next h =>
    obtain ⟨hlive, -⟩ := Bool.and_eq_true_iff.mp h
    exact (SourceRecord.isRetired_of_isLive hlive).symm
  next => rfl

/-- Evidence of the sources that are retired, or of those that are not. -/
theorem mem_evidenceOf {isRetired : Bool} {continuity : ContinuityEvidence} :
    continuity ∈ evidenceOf isRetired m ↔
      ∃ entry ∈ m.values, entry.state.isRetired = isRetired ∧ entry.continuity = continuity := by
  unfold evidenceOf
  simp [and_assoc]

/-- The track of a batch begins with the evidence of the registry. -/
theorem tracks_markAllAbsent {A : Type} (self : IdentityRegistry A)
    (observed : List ContinuityEvidence) :
    Tracks observed (self.markAllAbsent observed).entries (evidenceOf false self.entries)
      (evidenceOf true self.entries) := by
  have hmem : ∀ entry', entry' ∈ (self.markAllAbsent observed).entries.values ↔
      ∃ entry ∈ self.entries.values, IdentityRegistry.markAbsent observed entry = entry' :=
    fun entry' => List.mem_map
  have hcontinuity : ∀ entry, (IdentityRegistry.markAbsent observed entry).continuity
      = entry.continuity := fun entry => (SourceRecord.evolves_markAbsent observed entry).continuity
  refine ⟨?_, ?_, ?_, ?_⟩
  · intro entry' hentry' hlive
    obtain ⟨entry, hentry, rfl⟩ := (hmem entry').mp hentry'
    rw [isRetired_markAbsent] at hlive
    exact mem_evidenceOf.mpr ⟨entry, hentry, hlive, (hcontinuity entry).symm⟩
  · intro entry' hentry' hretired _
    obtain ⟨entry, hentry, rfl⟩ := (hmem entry').mp hentry'
    rw [isRetired_markAbsent] at hretired
    exact mem_evidenceOf.mpr ⟨entry, hentry, hretired, (hcontinuity entry).symm⟩
  · intro continuity hknown _
    obtain ⟨entry, hentry, -, rfl⟩ := mem_evidenceOf.mp hknown
    exact ⟨_, (hmem _).mpr ⟨entry, hentry, rfl⟩, hcontinuity entry⟩
  · intro continuity hretired _
    obtain ⟨entry, hentry, hstate, rfl⟩ := mem_evidenceOf.mp hretired
    exact ⟨_, (hmem _).mpr ⟨entry, hentry, rfl⟩,
      (isRetired_markAbsent observed entry).trans hstate, hcontinuity entry⟩

namespace RegistryMachine

/-- The registry after an operation that succeeds, as all its file operations do. -/
def operate (self : RegistryMachine) (operation : RegistryOperation) : Option RegistryMachine :=
  self.call (.operation operation none)

/-- Something holds of a registry, and of each one that it becomes through a list of operations. -/
def Throughout (P : RegistryMachine → Prop) (self : RegistryMachine) :
    List RegistryOperation → Prop
  | [] => P self
  | operation :: operations =>
    P self ∧ ∀ m, self.operate operation = some m → m.Throughout P operations

/-- Something holds of each operation of a list that succeeds, and of the registry before it. -/
def EachStep (Q : RegistryMachine → RegistryOperation → Prop) (self : RegistryMachine) :
    List RegistryOperation → Prop
  | [] => True
  | operation :: operations =>
    ∀ m, self.operate operation = some m → Q self operation ∧ m.EachStep Q operations

/-- Opening the files of a registry again gives the registry. -/
def Reopens (self : RegistryMachine) : Prop :=
  ∀ «namespace» fault, ∃ m, new self.files «namespace» fault = some m ∧
    m.registry.toRegistryContents = self.registry.toRegistryContents

/-- The invariant of a registry that was created and changed without a fault. -/
structure Written (m : RegistryMachine) : Prop where
  /-- The sequence covers the identifiers. -/
  covers : Covers m.registry.toRegistryContents
  /-- Evidence is that of one source that is not retired. -/
  oneEach : OneEach m.registry.entries
  /-- The files hold the registry. -/
  opened : opened m.files = some m.registry.image
  /-- The evidence is valid. -/
  valid : ∀ entry ∈ m.registry.entries.values, entry.continuity.Valid

variable {m m' : RegistryMachine} {«namespace» : RegistryNamespace}

/-- A registry can be opened again exactly where its evidence is distinct. -/
theorem Written.reopens_iff_distinct (h : m.Written) : m.Reopens ↔ Distinct m.registry.entries := by
  have hnew : ∀ «namespace» fault, new m.files «namespace» fault
      = match fromPersisted m.registry.image with
        | .ok contents => some ⟨⟨contents, CounterSourceIdAllocator.mk⟩, m.files⟩
        | .error _ => none := by
    intro «namespace» fault
    unfold new IdentityRegistry.withAllocator
    rw [loadOrInit_of_opened h.opened]
    cases fromPersisted m.registry.image <;> rfl
  rcases fromPersisted_image h.covers with ⟨hreopenable, hopen⟩ | ⟨hreopenable, hopen⟩
  · refine ⟨fun _ => distinct_iff_nodup.mpr hreopenable.distinct, ?_⟩
    intro _ «namespace» fault
    rw [hnew, hopen]
    exact ⟨_, rfl, rfl⟩
  · constructor
    · intro hreopens
      obtain ⟨m', hm', -⟩ := hreopens m.registry.namespace none
      rw [hnew, hopen] at hm'
      cases hm'
    · intro hdistinct
      exact absurd ⟨h.valid, distinct_iff_nodup.mp hdistinct⟩ hreopenable

/-- A registry that is created in an empty directory. -/
theorem new_written (h : new .none «namespace» none = some m) :
    m.Written ∧ Distinct m.registry.entries := by
  have hnone : opened .none = none := rfl
  unfold new IdentityRegistry.withAllocator at h
  rw [loadOrInit_of_not_opened hnone] at h
  unfold persist at h
  rw [persisted_eq] at h
  cases h
  exact ⟨⟨covers_blank, fun _ h => absurd h List.not_mem_nil, opened_written _,
    fun _ h => absurd h List.not_mem_nil⟩, fun _ h => absurd h List.not_mem_nil⟩

/-- A pass keeps the evidence distinct exactly where it brings back none. -/
theorem distinct_iff_of_pass {before after : IdentityRegistry CounterSourceIdAllocator}
    {observations : List SourceObservation} {ids : List SourceId} {changes : Bool}
    (h : IdentityRegistry.ObservesAll (observedContinuities observations)
      (before.markAllAbsent (observedContinuities observations)) observations ids changes after)
    (hdistinct : Distinct before.entries) :
    Distinct after.entries ↔
      (RegistryOperation.applyObservations observations).bringsBack before.toRegistryContents
        = false := by
  have hkept := IdentityRegistry.kept_markAllAbsent before (observedContinuities observations)
  exact h.distinct_iff (fun _ h => h) (hkept.distinct_iff.mpr hdistinct)
    (tracks_markAllAbsent before _)

/-- An operation that succeeds is written, and keeps the evidence distinct exactly where it brings
back none. -/
theorem Written.operate (h : m.Written) {operation : RegistryOperation} (hvalid : operation.Valid)
    (hoperate : m.operate operation = some m') :
    m'.Written ∧ (Distinct m.registry.entries → (Distinct m'.registry.entries ↔
      operation.bringsBack m.registry.toRegistryContents = false)) := by
  unfold RegistryMachine.operate call at hoperate
  dsimp only at hoperate
  split at hoperate
  next registry files hrun =>
    cases hoperate
    cases RegistryOperation.Runs.of_run hrun with
    | reset «namespace» after committed =>
      -- A blank namespace has no sources, and nothing comes back into it.
      subst committed
      exact ⟨⟨fun _ h => absurd h List.not_mem_nil, fun _ h => absurd h List.not_mem_nil,
        opened_written _, fun _ h => absurd h List.not_mem_nil⟩,
        fun _ => ⟨fun _ => rfl, fun _ _ h => absurd h List.not_mem_nil⟩⟩
    | advanced after committed =>
      subst committed
      exact ⟨⟨h.covers, h.oneEach, opened_written _, h.valid⟩,
        fun hdistinct => ⟨fun _ => rfl, fun _ => hdistinct⟩⟩
    | unchanged observations changes all =>
      exact ⟨h, distinct_iff_of_pass all⟩
    | observed observations changes observedAfter after all committed =>
      obtain ⟨-, hcovers, hone⟩ := all.preserves_marked h.covers h.oneEach
      have hkept := IdentityRegistry.kept_markAllAbsent m.registry
        (observedContinuities observations)
      -- A mark leaves the evidence of a source as it is.
      have hevidence : ∀ entry ∈ (m.registry.markAllAbsent
          (observedContinuities observations)).entries.values, entry.continuity.Valid := by
        intro entry' hentry'
        obtain ⟨entry, hentry, hevolves⟩ := hkept.backward entry' hentry'
        rw [hevolves.continuity]
        exact h.valid entry hentry
      have hdistinct := distinct_iff_of_pass all
      subst committed
      exact ⟨⟨hcovers, hone, opened_written _, all.valid hevidence hvalid⟩, hdistinct⟩
  next => cases hoperate

/-- What is written stays so through operations that succeed. -/
theorem Written.calls (h : m.Written) {operations : List RegistryOperation}
    (hvalid : ∀ operation ∈ operations, operation.Valid)
    (hcalls : m.calls (operations.map fun operation => .operation operation none) = some m') :
    m'.Written := by
  induction operations generalizing m with
  | nil =>
    cases hcalls
    exact h
  | cons operation operations ih =>
    obtain ⟨hoperation, hvalid⟩ := List.forall_mem_cons.mp hvalid
    obtain ⟨middle, hoperate, hrest⟩ := Option.bind_eq_some_iff.mp hcalls
    exact ih (h.operate hoperation hoperate).1 hvalid hrest

/-- A registry that can be opened again can be opened after each operation exactly where none brings
back the evidence of a retired source. -/
theorem Written.throughout_iff (h : m.Written) (hdistinct : Distinct m.registry.entries)
    {operations : List RegistryOperation} (hvalid : ∀ operation ∈ operations, operation.Valid) :
    m.Throughout Reopens operations ↔ m.EachStep (fun m operation =>
      operation.bringsBack m.registry.toRegistryContents = false) operations := by
  induction operations generalizing m with
  | nil => exact ⟨fun _ => trivial, fun _ => h.reopens_iff_distinct.mpr hdistinct⟩
  | cons operation operations ih =>
    obtain ⟨hoperation, hvalid⟩ := List.forall_mem_cons.mp hvalid
    constructor
    · rintro ⟨-, hrest⟩ m' hoperate
      obtain ⟨hwritten, hiff⟩ := h.operate hoperation hoperate
      have hrest := hrest m' hoperate
      have hreopens : m'.Reopens := by
        cases operations with
        | nil => exact hrest
        | cons => exact hrest.1
      have hdistinct' := hwritten.reopens_iff_distinct.mp hreopens
      exact ⟨(hiff hdistinct).mp hdistinct', (ih hwritten hdistinct' hvalid).mp hrest⟩
    · intro hsteps
      refine ⟨h.reopens_iff_distinct.mpr hdistinct, ?_⟩
      intro m' hoperate
      obtain ⟨hback, hrest⟩ := hsteps m' hoperate
      obtain ⟨hwritten, hiff⟩ := h.operate hoperation hoperate
      exact (ih hwritten ((hiff hdistinct).mpr hback) hvalid).mpr hrest

/-- A registry that was created in an empty directory can be opened again after each of its
operations exactly where no operation brings back the evidence of a retired source. -/
theorem reopens_iff (hnew : new .none «namespace» none = some m)
    {operations : List RegistryOperation} (hvalid : ∀ operation ∈ operations, operation.Valid) :
    m.Throughout Reopens operations ↔ m.EachStep (fun m operation =>
      operation.bringsBack m.registry.toRegistryContents = false) operations := by
  obtain ⟨hwritten, hdistinct⟩ := new_written hnew
  exact hwritten.throughout_iff hdistinct hvalid

/-- A source is discovered, and the revision advances. -/
theorem reopens_iff_example : ∃ m : RegistryMachine,
    new .none (generateNamespace 1 2) none = some m ∧
      (m.Throughout Reopens
        [.applyObservations [⟨"Speakers", .stable ⟨"key", "first"⟩⟩], .advanceRevision] ↔
      m.EachStep (fun m operation =>
        operation.bringsBack m.registry.toRegistryContents = false)
        [.applyObservations [⟨"Speakers", .stable ⟨"key", "first"⟩⟩], .advanceRevision]) := by
  obtain ⟨m, hnew⟩ : ∃ m, new .none (generateNamespace 1 2) none = some m :=
    Option.isSome_iff_exists.mp (by decide +kernel)
  refine ⟨m, hnew, reopens_iff hnew ?_⟩
  intro operation hoperation
  simp only [List.mem_cons, List.not_mem_nil, or_false] at hoperation
  rcases hoperation with rfl | rfl
  · show ∀ continuity ∈ [⟨"key", "first"⟩], ContinuityEvidence.Valid continuity
    decide
  · trivial

/-- A source whose key is reused, and that comes back, leaves a registry that cannot be opened. -/
theorem registry_cannot_reopen : ∃ m₀ m : RegistryMachine,
    new .none (generateNamespace 1 2) none = some m₀ ∧
      m₀.calls [.operation (.applyObservations [⟨"Speakers", .stable ⟨"key", "first"⟩⟩]) none,
        .operation (.applyObservations [⟨"Speakers", .stable ⟨"key", "second"⟩⟩]) none,
        .operation (.applyObservations [⟨"Speakers", .stable ⟨"key", "first"⟩⟩]) none] = some m ∧
      (loadOrInit m.files (generateNamespace 1 3) none).1 = .error .corruptRegistry := by
  have hruns : (((new .none (generateNamespace 1 2) none).bind (·.calls
      [.operation (.applyObservations [⟨"Speakers", .stable ⟨"key", "first"⟩⟩]) none,
        .operation (.applyObservations [⟨"Speakers", .stable ⟨"key", "second"⟩⟩]) none,
        .operation (.applyObservations [⟨"Speakers", .stable ⟨"key", "first"⟩⟩]) none])).map
      fun m => fromPersisted m.registry.image) = some (.error .corruptRegistry) := by
    decide +kernel
  obtain ⟨m, hcalls, himage⟩ := Option.map_eq_some_iff.mp hruns
  obtain ⟨m₀, hnew, hcalls⟩ := Option.bind_eq_some_iff.mp hcalls
  have hvalid : ∀ operation ∈ [
      RegistryOperation.applyObservations [⟨"Speakers", .stable ⟨"key", "first"⟩⟩],
      .applyObservations [⟨"Speakers", .stable ⟨"key", "second"⟩⟩],
      .applyObservations [⟨"Speakers", .stable ⟨"key", "first"⟩⟩]], operation.Valid := by
    intro operation hoperation
    simp only [List.mem_cons, List.not_mem_nil, or_false] at hoperation
    rcases hoperation with rfl | rfl | rfl <;>
      exact List.forall_mem_singleton.mpr (by decide)
  -- What the files hold is the registry in memory.
  have hwritten : m.Written := (new_written hnew).1.calls hvalid hcalls
  refine ⟨m₀, m, hnew, hcalls, ?_⟩
  rw [loadOrInit_of_opened hwritten.opened]
  exact himage

end RegistryMachine

end ResonanceSignal
