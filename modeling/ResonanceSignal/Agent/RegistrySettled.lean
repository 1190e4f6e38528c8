import ResonanceSignal.Agent.RegistryFaults

/-!
# Batches that change nothing

What a batch of observations does to a source is not undone within the batch, except for its name:
a source that has come back does not disappear, a retired one stays retired, and a new one stays. So
a batch leaves the sources as they were exactly where each observation is of a live source, or of no
source, and the last names are those that were there (`ObservesAll.entries_eq_iff`).
-/

namespace ResonanceSignal

/-- The name of a source after a batch of observations. -/
def lastName (continuity : ContinuityEvidence) (displayName : String) :
    List SourceObservation → String
  | [] => displayName
  | observation :: observations =>
    lastName continuity
      (if observation.continuity = .stable continuity then observation.displayName
        else displayName) observations

/-- A source with its name after a batch of observations. -/
def renamed (observations : List SourceObservation) (entry : SourceRecord) : SourceRecord :=
  if entry.state.isRetired then entry
  else { entry with displayName := lastName entry.continuity entry.displayName observations }

/-- An observation is of a source that is live, and retires none: at most, the name is new. -/
def isCalm (m : Sources) (observation : SourceObservation) : Bool :=
  match observation.continuity with
  | .stable continuity =>
    m.values.any fun entry => entry.state.isLive && decide (entry.continuity = continuity)
  | .ambiguous candidates =>
    m.values.all fun entry => entry.state.isRetired || !candidates.contains entry.continuity
  | .unknown => true

/-- A batch of observations leaves the sources as they are. -/
def isSettled (m : Sources) (observations : List SourceObservation) : Bool :=
  observations.all (isCalm m) && m.values.all fun entry => decide (renamed observations entry = entry)

/-! ## Names -/

variable {m m' m'' : Sources} {observations : List SourceObservation}

/-- A new name is not a new source. -/
theorem key_renamed (observations : List SourceObservation) (entry : SourceRecord) :
    (renamed observations entry).key = entry.key := by
  unfold renamed
  split <;> rfl

/-- A new name is not a new state, nor new evidence. -/
theorem renamed_same (observations : List SourceObservation) (entry : SourceRecord) :
    (renamed observations entry).state = entry.state ∧
      (renamed observations entry).continuity = entry.continuity := by
  unfold renamed
  split <;> exact ⟨rfl, rfl⟩

/-- The names after the first observation, and then after the rest. -/
theorem renamed_cons (observation : SourceObservation) (observations : List SourceObservation)
    (entry : SourceRecord) :
    renamed observations (renamed [observation] entry)
      = renamed (observation :: observations) entry := by
  cases hretired : entry.state.isRetired with
  | true =>
    have hsame : ∀ observations, renamed observations entry = entry :=
      fun _ => if_pos hretired
    rw [hsame, hsame, hsame]
  | false =>
    have hrenamed : ∀ other : SourceRecord, other.state = entry.state → ∀ observations,
        renamed observations other
          = { other with
              displayName := lastName other.continuity other.displayName observations } := by
      intro other hstate observations
      apply if_neg
      rw [hstate, hretired]
      exact Bool.false_ne_true
    rw [hrenamed _ (renamed_same [observation] entry).1, hrenamed entry rfl, hrenamed entry rfl]
    rfl

/-- Whether an observation is calm does not depend on the names. -/
theorem isCalm_renamed (m : Sources) (observations : List SourceObservation)
    (observation : SourceObservation) :
    isCalm (m.map (renamed observations) (key_renamed observations)) observation
      = isCalm m observation := by
  have hstate : ∀ entry, (renamed observations entry).state = entry.state :=
    fun entry => (renamed_same observations entry).1
  have hevidence : ∀ entry, (renamed observations entry).continuity = entry.continuity :=
    fun entry => (renamed_same observations entry).2
  unfold isCalm KeyedMap.map
  cases observation.continuity with
  | unknown => rfl
  | stable continuity =>
    simp only [List.any_map, Function.comp_def, hstate, hevidence]
  | ambiguous candidates =>
    simp only [List.all_map, Function.comp_def, hstate, hevidence]

/-- A settled batch is calm, and changes no name. -/
theorem isSettled_iff : isSettled m observations = true ↔
    (∀ observation ∈ observations, isCalm m observation = true) ∧
      ∀ entry ∈ m.values, renamed observations entry = entry := by
  unfold isSettled
  rw [Bool.and_eq_true, List.all_eq_true, List.all_eq_true]
  simp only [decide_eq_true_eq]

/-! ## What is not undone -/

/-- A state that is not undone within a batch: a source does not become absent, and stays retired.
-/
def SourceState.rank : SourceState → ℕ
  | .absent => 0
  | .live => 1
  | .retired _ => 2

/-- A retired state has the highest rank. -/
theorem SourceState.isRetired_iff_rank (state : SourceState) :
    state.isRetired = true ↔ 2 ≤ state.rank := by
  cases state <;> simp [SourceState.isRetired, SourceState.rank]

/-- A state that is live or retired is not absent. -/
theorem SourceState.isLive_iff_rank (state : SourceState) : state.isLive = true ↔ state.rank = 1 := by
  cases state <;> simp [SourceState.isLive, SourceState.rank]

/-- Each source stays, with its evidence, and with no lower rank. -/
def Advances (m m' : Sources) : Prop :=
  ∀ entry ∈ m.values, ∃ entry' ∈ m'.values, entry'.key = entry.key ∧
    entry'.continuity = entry.continuity ∧ entry.state.rank ≤ entry'.state.rank

/-- Sources advance to themselves. -/
theorem Advances.refl (m : Sources) : Advances m m :=
  fun entry hentry => ⟨entry, hentry, rfl, rfl, Nat.le_refl _⟩

/-- Sources advance twice. -/
theorem Advances.trans (h : Advances m m') (h' : Advances m' m'') : Advances m m'' := by
  intro entry hentry
  obtain ⟨entry', hentry', hkey, hevidence, hrank⟩ := h entry hentry
  obtain ⟨entry'', hentry'', hkey', hevidence', hrank'⟩ := h' entry' hentry'
  exact ⟨entry'', hentry'', hkey'.trans hkey, hevidence'.trans hevidence, hrank.trans hrank'⟩

/-- Retiring sources advances them. -/
theorem Advances.of_retiredAs (m : Sources) (reason : RetiredReason) (ids : List String) :
    Advances m (m.map (SourceRecord.retiredAs reason ids)
      (SourceRecord.key_retiredAs reason ids)) := by
  intro entry hentry
  have hevolves := SourceRecord.evolves_retiredAs reason ids entry
  refine ⟨entry.retiredAs reason ids, List.mem_map.mpr ⟨entry, hentry, rfl⟩, hevolves.key,
    hevolves.continuity, ?_⟩
  unfold SourceRecord.retiredAs
  split
  next hretired =>
    show entry.state.rank ≤ 2
    cases entry.state <;> simp [SourceState.rank]
  next => exact Nat.le_refl _

/-- A new source advances the others. -/
theorem Advances.of_insert {entry : SourceRecord} (h : m.contains entry.key = false) :
    Advances m (m.insert entry) := by
  intro other hother
  have hkey := KeyedMap.contains_eq_false.mp h other hother
  exact ⟨other, KeyedMap.mem_insert.mpr (.inr ⟨hother, hkey⟩), rfl, rfl, Nat.le_refl _⟩

/-- Where sources advance and come back, an observation is calm before if it is after. -/
theorem Advances.isCalm (h : Advances m m') (hback : Advances m' m)
    {observation : SourceObservation} (hcalm : isCalm m' observation = true) :
    isCalm m observation = true := by
  -- The states before and after have the same rank.
  have hsame : ∀ entry ∈ m.values, ∀ entry' ∈ m'.values, entry'.key = entry.key →
      entry'.state.rank = entry.state.rank := by
    intro entry hentry entry' hentry' hkey
    obtain ⟨next, hnext, hnextKey, -, hle⟩ := h entry hentry
    obtain ⟨last, hlast, hlastKey, -, hle'⟩ := hback entry' hentry'
    have hnext : next = entry' := KeyedMap.eq_of_key_eq hnext hentry' (hnextKey.trans hkey.symm)
    have hlast : last = entry := KeyedMap.eq_of_key_eq hlast hentry (hlastKey.trans hkey)
    rw [hnext] at hle
    rw [hlast] at hle'
    omega
  unfold ResonanceSignal.isCalm at hcalm ⊢
  cases hevidence : observation.continuity with
  | unknown => rfl
  | stable continuity =>
    rw [hevidence] at hcalm
    dsimp only at hcalm ⊢
    obtain ⟨entry', hentry', hlive⟩ := List.any_eq_true.mp hcalm
    rw [Bool.and_eq_true, decide_eq_true_eq] at hlive
    obtain ⟨hlive, rfl⟩ := hlive
    obtain ⟨entry, hentry, hkey, hcontinuity, -⟩ := hback entry' hentry'
    refine List.any_eq_true.mpr ⟨entry, hentry, ?_⟩
    rw [SourceState.isLive_iff_rank, hsame entry hentry entry' hentry' hkey.symm] at hlive
    rw [Bool.and_eq_true, decide_eq_true_eq, SourceState.isLive_iff_rank]
    exact ⟨hlive, hcontinuity⟩
  | ambiguous candidates =>
    rw [hevidence] at hcalm
    dsimp only at hcalm ⊢
    rw [List.all_eq_true]
    intro entry hentry
    obtain ⟨entry', hentry', hkey, hcontinuity, -⟩ := h entry hentry
    have hquiet := List.all_eq_true.mp hcalm entry' hentry'
    rw [Bool.or_eq_true, SourceState.isRetired_iff_rank, hsame entry hentry entry' hentry' hkey,
      hcontinuity] at hquiet
    rw [Bool.or_eq_true, SourceState.isRetired_iff_rank]
    exact hquiet

namespace IdentityRegistry

variable {before middle after : IdentityRegistry CounterSourceIdAllocator}
  {observed : List ContinuityEvidence}

/-- The reuse of a key advances the sources. -/
theorem advances_retireReused (before : IdentityRegistry CounterSourceIdAllocator)
    (continuity : ContinuityEvidence) :
    Advances before.entries (before.retireReused observed continuity).entries := by
  obtain ⟨ids, hids, -⟩ := retireReused_eq before observed continuity
  rw [hids]
  exact .of_retiredAs before.entries .nativeKeyReuse ids

/-- An observation advances the sources. -/
theorem Observes.advances {observation : SourceObservation} {id? : Option SourceId}
    {changes : Bool} (h : Observes observed before observation id? changes after) :
    Advances before.entries after.entries := by
  cases h with
  | unknown => exact .refl _
  | ambiguous => exact .of_retiredAs before.entries _ _
  | @found displayName continuity entry hfound =>
    obtain ⟨hentry, hlive, -⟩ := findLive_eq_some hfound
    intro other hother
    by_cases hkey : other.key = entry.key
    · refine ⟨{ entry with state := .live, displayName }, KeyedMap.mem_insert.mpr (.inl rfl), ?_⟩
      rw [KeyedMap.eq_of_key_eq hother hentry hkey]
      refine ⟨rfl, rfl, ?_⟩
      show entry.state.rank ≤ 1
      have hrank := mt (SourceState.isRetired_iff_rank entry.state).mpr (Bool.eq_false_iff.mp hlive)
      omega
    · exact ⟨other, KeyedMap.mem_insert.mpr (.inr ⟨hother, hkey⟩), rfl, rfl, Nat.le_refl _⟩
  | @discovered displayName continuity id allocated hnone hallocates =>
    have hfresh := hallocates.fresh id rfl
    show Advances before.entries (allocated.entries.insert _)
    rw [hallocates.entries]
    exact (advances_retireReused before continuity).trans (.of_insert hfresh)

/-- A batch of observations advances the sources. -/
theorem ObservesAll.advances {ids : List SourceId} {changes : Bool}
    (h : ObservesAll observed before observations ids changes after) :
    Advances before.entries after.entries := by
  induction h with
  | nil => exact .refl _
  | cons h hs ih => exact h.advances.trans ih

/-- An observation after which the sources can come back is calm. -/
theorem Observes.isCalm {observation : SourceObservation} {id? : Option SourceId}
    {changes : Bool} (h : Observes observed before observation id? changes after)
    (hback : Advances after.entries before.entries) :
    ResonanceSignal.isCalm before.entries observation = true := by
  unfold ResonanceSignal.isCalm
  cases h with
  | unknown => rfl
  | @ambiguous displayName candidates =>
    dsimp only
    rw [List.all_eq_true]
    intro entry hentry
    by_contra hnot
    rw [Bool.or_eq_true, not_or, Bool.not_eq_true, Bool.not_eq_true', Bool.not_eq_false,
      List.contains_iff_mem] at hnot
    obtain ⟨hlive, hcandidate⟩ := hnot
    have hkey := (mem_ambiguousIds hentry).mpr ⟨hlive, hcandidate⟩
    obtain ⟨last, hlast, hlastKey, -, hrank⟩ :=
      hback (entry.retiredAs .ambiguousReturn (before.ambiguousIds candidates))
        (List.mem_map.mpr ⟨entry, hentry, rfl⟩)
    rw [SourceRecord.key_retiredAs] at hlastKey
    rw [SourceRecord.retiredAs_of_mem hlive hkey,
      KeyedMap.eq_of_key_eq hlast hentry hlastKey] at hrank
    rw [(SourceState.isRetired_iff_rank entry.state).mpr hrank] at hlive
    cases hlive
  | @found displayName continuity entry hfound =>
    obtain ⟨hentry, hlive, rfl⟩ := findLive_eq_some hfound
    obtain ⟨last, hlast, hkey, -, hrank⟩ :=
      hback { entry with state := .live, displayName } (KeyedMap.mem_insert.mpr (.inl rfl))
    rw [KeyedMap.eq_of_key_eq hlast hentry hkey] at hrank
    have hnot := mt (SourceState.isRetired_iff_rank entry.state).mpr (Bool.eq_false_iff.mp hlive)
    have hrank : 1 ≤ entry.state.rank := hrank
    refine List.any_eq_true.mpr ⟨entry, hentry, ?_⟩
    rw [Bool.and_eq_true, decide_eq_true_eq, SourceState.isLive_iff_rank]
    exact ⟨by omega, rfl⟩
  | @discovered displayName continuity id allocated hnone hallocates =>
    obtain ⟨hkept, -⟩ := retireReused_kept before observed continuity
    obtain ⟨last, hlast, hkey, -⟩ :=
      hback ⟨id, continuity, displayName, .live⟩ (KeyedMap.mem_insert.mpr (.inl rfl))
    have hfresh : before.entries.contains id.asStr = false :=
      (hkept.contains id.asStr).symm.trans (hallocates.fresh id rfl)
    exact absurd hkey (KeyedMap.contains_eq_false.mp hfresh last hlast)

/-- A batch after which the sources can come back is calm. -/
theorem ObservesAll.isCalm {ids : List SourceId} {changes : Bool}
    (h : ObservesAll observed before observations ids changes after)
    (hback : Advances after.entries before.entries) :
    ∀ observation ∈ observations, ResonanceSignal.isCalm before.entries observation = true := by
  induction h with
  | nil => exact nofun
  | cons h hs ih =>
    have hfirst := h.advances
    have hback' := hs.advances.trans hback
    refine List.forall_mem_cons.mpr ⟨h.isCalm hback', ?_⟩
    intro observation hobservation
    exact hfirst.isCalm hback' (ih (hback.trans hfirst) observation hobservation)

/-! ## Calm batches -/

/-- The registry with the names that a batch shows. -/
def withNames (self : IdentityRegistry CounterSourceIdAllocator)
    (observations : List SourceObservation) : IdentityRegistry CounterSourceIdAllocator :=
  self.withEntries (self.entries.map (renamed observations) (key_renamed observations))

/-- A registry that shows the names already is the same. -/
theorem withNames_eq_self (h : ∀ entry ∈ before.entries.values, renamed observations entry = entry) :
    before.withNames observations = before := by
  unfold withNames
  rw [KeyedMap.map_eq_self h]
  rfl

/-- A calm observation of ambiguous evidence retires no source. -/
theorem ambiguousIds_of_calm {displayName : String} {candidates : List ContinuityEvidence}
    (hcalm : ResonanceSignal.isCalm before.entries ⟨displayName, .ambiguous candidates⟩ = true) :
    before.ambiguousIds candidates = [] := by
  rw [List.eq_nil_iff_forall_not_mem]
  intro id hid
  have hmem := hid
  unfold ambiguousIds at hmem
  rw [List.mem_dedup, List.mem_insertionSort, List.mem_flatMap] at hmem
  obtain ⟨candidate, -, hmem⟩ := hmem
  obtain ⟨entry, hentry, rfl⟩ := List.mem_map.mp hmem
  have hentry := (List.mem_filter.mp hentry).1
  obtain ⟨hlive, hcandidate⟩ := (mem_ambiguousIds hentry).mp hid
  have hquiet := List.all_eq_true.mp hcalm entry hentry
  rw [hlive, List.contains_iff_mem.mpr hcandidate] at hquiet
  cases hquiet

/-- A calm observation changes a name, at most. -/
theorem observe_calm (observed : List ContinuityEvidence) (hone : OneEach before.entries)
    {observation : SourceObservation}
    (hcalm : isCalm before.entries observation = true) (changed : Bool) :
    ∃ changed', before.observe observed changed observation
      = (.ok changed', before.withNames [observation]) := by
  obtain ⟨displayName, continuity⟩ := observation
  unfold observe
  -- The observation names only a source that is stable under its evidence.
  have hothers : ∀ entry : SourceRecord, ⟨displayName, continuity⟩ ≠
      (⟨displayName, .stable entry.continuity⟩ : SourceObservation) →
      renamed [⟨displayName, continuity⟩] entry = entry := by
    intro entry hne
    have hname : continuity ≠ .stable entry.continuity := by
      rintro rfl
      exact hne rfl
    unfold renamed lastName lastName
    rw [if_neg hname]
    split <;> rfl
  cases continuity with
  | unknown =>
    refine ⟨changed, ?_⟩
    rw [withNames_eq_self fun entry _ => hothers entry nofun]
  | ambiguous candidates =>
    refine ⟨changed || decide (([] : List String) ≠ []), ?_⟩
    dsimp only
    rw [withNames_eq_self fun entry _ => hothers entry nofun, ambiguousIds_of_calm hcalm]
    rfl
  | stable continuity =>
    obtain ⟨entry, hentry, hlive⟩ := List.any_eq_true.mp hcalm
    rw [Bool.and_eq_true, decide_eq_true_eq] at hlive
    obtain ⟨hlive, rfl⟩ := hlive
    have hretired := SourceRecord.isRetired_of_isLive hlive
    -- The source is found live, so only its name can change.
    have hstate : entry.state = .live := by
      cases hstate : entry.state with
      | live => rfl
      | _ => rw [hstate] at hlive; cases hlive
    have hfound : before.findLive entry.continuity = some entry := by
      cases hfound : before.findLive entry.continuity with
      | none => exact absurd rfl (findLive_eq_none.mp hfound entry hentry hretired)
      | some found =>
        obtain ⟨hmem, hfoundLive, hsame⟩ := findLive_eq_some hfound
        rw [hone found hmem entry hentry hfoundLive hretired hsame]
    -- To insert it again is to rename it in place.
    have hreplace : ∀ other ∈ before.entries.values,
        KeyedMap.replace SourceRecord.key { entry with state := .live, displayName } other
          = renamed [⟨displayName, .stable entry.continuity⟩] other := by
      intro other hother
      unfold KeyedMap.replace
      show (if other.key = entry.key then _ else other) = _
      by_cases hkey : other.key = entry.key
      · rw [KeyedMap.eq_of_key_eq hother hentry hkey, if_pos rfl, ← hstate]
        unfold renamed lastName lastName
        rw [hretired, if_neg Bool.false_ne_true, if_pos rfl]
      · rw [if_neg hkey]
        cases hotherRetired : other.state.isRetired with
        | true => exact (if_pos hotherRetired).symm
        | false =>
          refine (hothers other fun heq => hkey ?_).symm
          have hsame : entry.continuity = other.continuity :=
            ObservedContinuity.stable.inj (congrArg SourceObservation.continuity heq)
          rw [hone other hother entry hentry hotherRetired hretired hsame.symm]
    have hkey : SourceRecord.key { entry with state := .live, displayName } = entry.key := rfl
    have hinsert : before.entries.insert { entry with state := .live, displayName }
        = before.entries.map (renamed [⟨displayName, .stable entry.continuity⟩])
          (key_renamed [⟨displayName, .stable entry.continuity⟩]) :=
      (KeyedMap.insert_eq_map hentry hkey).trans (KeyedMap.map_congr hreplace)
    dsimp only
    rw [hfound]
    exact ⟨_, congrArg (Prod.mk _) (congrArg before.withEntries hinsert)⟩

/-- New names keep the evidence of one source each. -/
theorem oneEach_withNames (observations : List SourceObservation)
    (hone : OneEach before.entries) : OneEach (before.withNames observations).entries := by
  refine Kept.oneEach (.of_map (key_renamed observations) ?_) hone
  intro entry _
  unfold renamed
  split
  next => exact .refl entry
  next hlive => exact .of_state (Bool.eq_false_iff.mpr hlive)

/-- A calm batch changes names, at most. -/
theorem observeAll_calm (observed : List ContinuityEvidence) (hone : OneEach before.entries)
    (hcalm : ∀ observation ∈ observations, isCalm before.entries observation = true)
    (changed : Bool) : ∃ changed', observeAll observed observations changed before
      = (.ok changed', before.withNames observations) := by
  induction observations generalizing before changed with
  | nil =>
    refine ⟨changed, ?_⟩
    rw [withNames_eq_self]
    · rfl
    · intro entry _
      unfold renamed
      split <;> rfl
  | cons observation observations ih =>
    obtain ⟨hfirst, hrest⟩ := List.forall_mem_cons.mp hcalm
    obtain ⟨changed', hobserve⟩ := observe_calm observed hone hfirst changed
    -- To rename for one observation and then for the others is to rename for all.
    have hnames : (before.withNames [observation]).withNames observations
        = before.withNames (observation :: observations) := by
      have hboth : ∀ entry ∈ before.entries.values,
          (renamed observations ∘ renamed [observation]) entry
            = renamed (observation :: observations) entry :=
        fun entry _ => renamed_cons observation observations entry
      unfold withNames withEntries
      dsimp only
      rw [KeyedMap.map_map, KeyedMap.map_congr hboth]
    have hcalm' : ∀ other ∈ observations,
        isCalm (before.withNames [observation]).entries other = true := by
      intro other hother
      exact (isCalm_renamed before.entries [observation] other).trans (hrest other hother)
    obtain ⟨changed'', hobserveAll⟩ := ih (oneEach_withNames [observation] hone) hcalm' changed'
    refine ⟨changed'', ?_⟩
    unfold observeAll
    rw [hobserve]
    dsimp only
    rw [hobserveAll, hnames]

/-- A batch leaves the sources exactly where it is settled. -/
theorem ObservesAll.entries_eq_iff {ids : List SourceId} {changed changed' changes : Bool}
    (hone : OneEach before.entries)
    (hobserve : observeAll observed observations changed before = (.ok changed', after))
    (h : ObservesAll observed before observations ids changes after) :
    after.entries = before.entries ↔
      isSettled before.entries observations = true := by
  have hcalm (hcalm : ∀ observation ∈ observations,
      ResonanceSignal.isCalm before.entries observation = true) :
      after = before.withNames observations := by
    obtain ⟨changed'', hnames⟩ := observeAll_calm observed hone hcalm changed
    exact congrArg Prod.snd (hobserve.symm.trans hnames)
  rw [isSettled_iff]
  constructor
  · intro hsame
    have hback : Advances after.entries before.entries := by
      rw [hsame]
      exact .refl _
    have hcalm' := h.isCalm hback
    refine ⟨hcalm', ?_⟩
    rw [hcalm hcalm'] at hsame
    have hvalues : before.entries.values.map (renamed observations) = before.entries.values :=
      congrArg KeyedMap.values hsame
    intro entry hentry
    have hmem : renamed observations entry ∈ before.entries.values := by
      rw [← hvalues]
      exact List.mem_map_of_mem hentry
    exact KeyedMap.eq_of_key_eq hmem hentry (key_renamed observations entry)
  · rintro ⟨hcalm', hnames⟩
    rw [hcalm hcalm', withNames_eq_self hnames]

/-- A settled batch leaves the registry. -/
theorem observeAll_settled (observed : List ContinuityEvidence) (hone : OneEach before.entries)
    (hsettled : isSettled before.entries observations = true) (changed : Bool) :
    ∃ changed', observeAll observed observations changed before = (.ok changed', before) := by
  obtain ⟨hcalm, hnames⟩ := isSettled_iff.mp hsettled
  obtain ⟨changed', hobserve⟩ := observeAll_calm observed hone hcalm changed
  rw [withNames_eq_self hnames] at hobserve
  exact ⟨changed', hobserve⟩

/-- An observation is settled where it is calm, and of a source that has its name. -/
theorem isSettled_singleton {observation : SourceObservation} :
    isSettled m [observation] = true ↔ ResonanceSignal.isCalm m observation = true ∧
      ∀ entry ∈ m.values, entry.state.isRetired = false →
        observation.continuity = .stable entry.continuity →
          entry.displayName = observation.displayName := by
  rw [isSettled_iff, List.forall_mem_singleton]
  refine and_congr_right fun _ => forall₂_congr fun entry _ => ?_
  unfold renamed lastName lastName
  constructor
  · intro h hlive hevidence
    rw [hlive, if_neg Bool.false_ne_true, if_pos hevidence] at h
    exact (congrArg SourceRecord.displayName h).symm
  · intro h
    split
    next => rfl
    next hlive =>
      split
      next hevidence => rw [← h (Bool.eq_false_iff.mpr hlive) hevidence]
      next => rfl

/-- An observation changes nothing exactly where it is settled. -/
theorem Observes.changes_iff {observation : SourceObservation} {id? : Option SourceId}
    {changes : Bool} (hone : OneEach before.entries)
    (h : Observes observed before observation id? changes after) :
    changes = false ↔ isSettled before.entries [observation] = true := by
  -- Without a change the entries are the old ones, so the observation was calm.
  have hback (hchanges : changes = false) : Advances after.entries before.entries := by
    subst hchanges
    rw [h.unchanged]
    exact .refl _
  have hcalm (hchanges : changes = false) := h.isCalm (hback hchanges)
  rw [isSettled_singleton]
  cases h with
  | unknown => exact ⟨fun h => ⟨hcalm h, fun _ _ _ => nofun⟩, fun _ => rfl⟩
  | @ambiguous displayName candidates =>
    constructor
    · exact fun h => ⟨hcalm h, fun _ _ _ => nofun⟩
    · rintro ⟨hquiet, -⟩
      rw [ambiguousIds_of_calm hquiet]
      rfl
  | @found displayName continuity entry hfound =>
    obtain ⟨hentry, hlive, rfl⟩ := findLive_eq_some hfound
    constructor
    · intro hchanges
      refine ⟨hcalm hchanges, ?_⟩
      intro other hother hotherLive hevidence
      have hsame : entry.continuity = other.continuity := ObservedContinuity.stable.inj hevidence
      rw [hone other hother entry hentry hotherLive hlive hsame.symm]
      exact not_not.mp (of_decide_eq_false (Bool.or_eq_false_iff.mp hchanges).2)
    · rintro ⟨hquiet, hnames⟩
      obtain ⟨other, hother, hotherLive⟩ := List.any_eq_true.mp hquiet
      rw [Bool.and_eq_true, decide_eq_true_eq] at hotherLive
      obtain ⟨hotherLive, hsame⟩ := hotherLive
      have heq : other = entry :=
        hone other hother entry hentry (SourceRecord.isRetired_of_isLive hotherLive) hlive hsame
      rw [← heq, hotherLive, heq, hnames entry hentry hlive rfl]
      simp
  | @discovered displayName continuity id allocated hnone hallocates =>
    constructor
    · exact nofun
    · -- A settled observation has its source, but none was found.
      rintro ⟨hquiet, -⟩
      obtain ⟨other, hother, hotherLive⟩ := List.any_eq_true.mp hquiet
      rw [Bool.and_eq_true, decide_eq_true_eq] at hotherLive
      obtain ⟨hotherLive, hsame⟩ := hotherLive
      exact absurd hsame (findLive_eq_none.mp hnone other hother
        (SourceRecord.isRetired_of_isLive hotherLive))

/-- A batch changes nothing exactly where each of its observations is settled. -/
theorem ObservesAll.changes_iff {ids : List SourceId} {changes : Bool}
    (hone : OneEach before.entries)
    (h : ObservesAll observed before observations ids changes after) :
    changes = false ↔
      ∀ observation ∈ observations, isSettled before.entries [observation] = true := by
  induction h with
  | nil => exact ⟨fun _ => nofun, fun _ => rfl⟩
  | @cons before middle after observation observations id? ids changes changes' h hs ih =>
    rw [Bool.or_eq_false_iff, List.forall_mem_cons, h.changes_iff hone]
    refine and_congr_right fun hsettled => ?_
    -- The first one changes nothing, so the rest is from the same registry.
    have hchanges := (h.changes_iff hone).mpr hsettled
    subst hchanges
    have hsame := h.unchanged
    subst hsame
    exact ih hone

/-! ## Sources that disappear -/

/-- No source is live that is not observed. -/
def Unseen (observed : List ContinuityEvidence) (m : Sources) : Prop :=
  ∀ entry ∈ m.values, entry.state.isLive = true → entry.continuity ∈ observed

/-- After the first loop, no source is live that is not observed. -/
theorem unseen_markAllAbsent (before : IdentityRegistry CounterSourceIdAllocator)
    (observed : List ContinuityEvidence) :
    Unseen observed (before.markAllAbsent observed).entries := by
  intro entry' hentry' hlive
  obtain ⟨entry, hentry, rfl⟩ : ∃ entry ∈ before.entries.values,
      markAbsent observed entry = entry' := List.mem_map.mp hentry'
  unfold markAbsent at hlive ⊢
  split at hlive
  next => cases hlive
  next hstays =>
    rw [if_neg hstays]
    unfold disappears at hstays
    rw [hlive, Bool.true_and, Bool.not_eq_true', Bool.not_eq_false, List.contains_iff_mem] at hstays
    exact hstays

/-- Retiring sources makes none live. -/
theorem Unseen.of_retiredAs (h : Unseen observed m) (reason : RetiredReason) (ids : List String) :
    Unseen observed (m.map (SourceRecord.retiredAs reason ids)
      (SourceRecord.key_retiredAs reason ids)) := by
  intro entry' hentry' hlive
  obtain ⟨entry, hentry, rfl⟩ : ∃ entry ∈ m.values,
      entry.retiredAs reason ids = entry' := List.mem_map.mp hentry'
  have hevolves := SourceRecord.evolves_retiredAs reason ids entry
  rw [hevolves.continuity]
  refine h entry hentry ?_
  unfold SourceRecord.retiredAs at hlive
  split at hlive
  next => cases hlive
  next => exact hlive

/-- An observation makes no source live that is not observed. -/
theorem Observes.unseen {observation : SourceObservation} {id? : Option SourceId} {changes : Bool}
    (h : Observes observed before observation id? changes after)
    (hobserved : ∀ continuity, observation.continuity = .stable continuity →
      continuity ∈ observed)
    (hunseen : Unseen observed before.entries) : Unseen observed after.entries := by
  cases h with
  | unknown => exact hunseen
  | ambiguous => exact hunseen.of_retiredAs _ _
  | @found displayName continuity entry hfound =>
    obtain ⟨hentry, -, rfl⟩ := findLive_eq_some hfound
    intro other hother hlive
    rcases KeyedMap.mem_insert.mp hother with rfl | ⟨hother, -⟩
    · exact hobserved entry.continuity rfl
    · exact hunseen other hother hlive
  | @discovered displayName continuity id allocated hnone hallocates =>
    obtain ⟨ids, hids, -⟩ := retireReused_eq before observed continuity
    intro other hother hlive
    rcases KeyedMap.mem_insert.mp hother with rfl | ⟨hother, -⟩
    · exact hobserved continuity rfl
    · rw [hallocates.entries, hids] at hother
      exact hunseen.of_retiredAs .nativeKeyReuse ids other hother hlive

/-- A batch makes no source live that is not observed. -/
theorem ObservesAll.unseen {ids : List SourceId} {changes : Bool}
    (h : ObservesAll observed before observations ids changes after)
    (hobserved : ∀ continuity ∈ observedContinuities observations, continuity ∈ observed)
    (hunseen : Unseen observed before.entries) : Unseen observed after.entries := by
  induction h with
  | nil => exact hunseen
  | @cons before middle after observation observations id? ids changes changes' h hs ih =>
    obtain ⟨hfirst, hrest⟩ := forall_observed_cons hobserved
    exact ih hrest (h.unseen hfirst hunseen)

/-- Where no source is live that is not observed, none disappears. -/
theorem Unseen.stays (h : Unseen observed m) : m.values.any (disappears observed) = false := by
  rw [List.any_eq_false]
  intro entry hentry hdisappears
  obtain ⟨hlive, hnot⟩ := Bool.and_eq_true_iff.mp hdisappears
  rw [List.contains_iff_mem.mpr (h entry hentry hlive)] at hnot
  cases hnot

end IdentityRegistry

end ResonanceSignal
