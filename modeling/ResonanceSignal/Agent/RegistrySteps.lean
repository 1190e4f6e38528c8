import ResonanceSignal.Agent.Registry

/-!
# Steps of the registry

What one observation makes of a registry. Apart from a new source, an operation only changes the
states and the names of entries (`Kept`), and what it makes of an entry is what `Evolves` says: its
identifier and its evidence stay, and so does its retirement. A new source is allocated an
identifier that no entry has (`Allocates`). `Observes` has one case for each thing that an
observation can be to the registry, and everything about a batch of observations is derived from it.
-/

namespace ResonanceSignal

/-- The entries of a registry. -/
abbrev Sources := KeyedMap SourceRecord.key

/-! ## Entries -/

namespace SourceRecord

/-- What stays of a source. -/
structure Evolves (entry entry' : SourceRecord) : Prop where
  /-- Its identifier. -/
  id : entry'.id = entry.id
  /-- Its evidence. -/
  continuity : entry'.continuity = entry.continuity
  /-- Its retirement. -/
  retired : ∀ reason, entry.state = .retired reason → entry'.state = .retired reason

variable {entry entry' entry'' : SourceRecord}

/-- A source stays the same. -/
theorem Evolves.refl (entry : SourceRecord) : entry.Evolves entry := ⟨rfl, rfl, fun _ h => h⟩

/-- What stays, stays. -/
theorem Evolves.trans (h : entry.Evolves entry') (h' : entry'.Evolves entry'') :
    entry.Evolves entry'' where
  id := h'.id.trans h.id
  continuity := h'.continuity.trans h.continuity
  retired reason hstate := h'.retired reason (h.retired reason hstate)

/-- A source keeps its key. -/
theorem Evolves.key (h : entry.Evolves entry') : entry'.key = entry.key :=
  congrArg SourceId.asStr h.id

/-- A retired source has a reason. -/
theorem isRetired_iff : entry.state.isRetired = true ↔ ∃ reason, entry.state = .retired reason := by
  cases h : entry.state <;> simp [SourceState.isRetired]

/-- A live source is not retired. -/
theorem isRetired_of_isLive (h : entry.state.isLive = true) : entry.state.isRetired = false := by
  cases hstate : entry.state with
  | live => rfl
  | absent => rfl
  | retired reason =>
    rw [hstate] at h
    cases h

/-- A retired source stays retired. -/
theorem Evolves.isRetired (h : entry.Evolves entry') (hretired : entry.state.isRetired = true) :
    entry'.state.isRetired = true := by
  obtain ⟨reason, hreason⟩ := isRetired_iff.mp hretired
  exact isRetired_iff.mpr ⟨reason, h.retired reason hreason⟩

/-- A source that is not retired was not. -/
theorem Evolves.not_isRetired (h : entry.Evolves entry')
    (hretired : entry'.state.isRetired = false) : entry.state.isRetired = false := by
  cases hentry : entry.state.isRetired with
  | false => rfl
  | true => rw [h.isRetired hentry] at hretired; cases hretired

/-- The sources of some identifiers, retired if they are not. -/
def retiredAs (reason : RetiredReason) (ids : List String) (entry : SourceRecord) : SourceRecord :=
  if entry.state.isRetired = false ∧ entry.key ∈ ids then { entry with state := .retired reason }
  else entry

variable {reason : RetiredReason} {ids : List String}

/-- A retired source is not retired again. -/
theorem retiredAs_of_retired (h : entry.state.isRetired = true) :
    entry.retiredAs reason ids = entry :=
  if_neg fun hlive => by rw [h] at hlive; cases hlive.1

/-- Another source is not retired. -/
theorem retiredAs_of_not_mem (h : entry.key ∉ ids) : entry.retiredAs reason ids = entry :=
  if_neg fun hmem => h hmem.2

/-- A source is retired. -/
theorem retiredAs_of_mem (h : entry.state.isRetired = false) (hmem : entry.key ∈ ids) :
    entry.retiredAs reason ids = { entry with state := .retired reason } :=
  if_pos ⟨h, hmem⟩

/-- A change of the state of a source that is not retired. -/
theorem Evolves.of_state {displayName : String} {state : SourceState}
    (h : entry.state.isRetired = false) : entry.Evolves { entry with displayName, state } where
  id := rfl
  continuity := rfl
  retired reason hstate := by
    rw [hstate] at h
    cases h

/-- A source is retired once. -/
theorem evolves_retiredAs (reason : RetiredReason) (ids : List String) (entry : SourceRecord) :
    entry.Evolves (entry.retiredAs reason ids) := by
  unfold retiredAs
  split
  next h => exact .of_state h.1
  next => exact .refl entry

/-- Retirement changes no key. -/
theorem key_retiredAs (reason : RetiredReason) (ids : List String) (entry : SourceRecord) :
    (entry.retiredAs reason ids).key = entry.key :=
  (evolves_retiredAs reason ids entry).key

/-- A source that is not observed becomes absent. -/
theorem evolves_markAbsent (observed : List ContinuityEvidence) (entry : SourceRecord) :
    entry.Evolves (IdentityRegistry.markAbsent observed entry) := by
  unfold IdentityRegistry.markAbsent IdentityRegistry.disappears
  split
  next h =>
    rw [Bool.and_eq_true] at h
    exact .of_state (isRetired_of_isLive h.1)
  next => exact .refl entry

end SourceRecord

/-! ## Kept entries -/

/-- The entries are the same ones, with other states and names. -/
structure Kept (m m' : Sources) : Prop where
  /-- Each entry stays. -/
  forward : ∀ entry ∈ m.values, ∃ entry' ∈ m'.values, entry.Evolves entry'
  /-- There are no others. -/
  backward : ∀ entry' ∈ m'.values, ∃ entry ∈ m.values, entry.Evolves entry'

namespace Kept

variable {m m' m'' : Sources}

/-- Entries stay the same. -/
theorem refl (m : Sources) : Kept m m where
  forward entry h := ⟨entry, h, .refl entry⟩
  backward entry h := ⟨entry, h, .refl entry⟩

/-- A change of each entry keeps them. -/
theorem of_map {f : SourceRecord → SourceRecord} (hf : ∀ entry, (f entry).key = entry.key)
    (h : ∀ entry ∈ m.values, entry.Evolves (f entry)) : Kept m (m.map f hf) where
  forward entry hentry := ⟨f entry, KeyedMap.mem_map.mpr ⟨entry, hentry, rfl⟩, h entry hentry⟩
  backward entry' hentry' := by
    obtain ⟨entry, hentry, rfl⟩ := KeyedMap.mem_map.mp hentry'
    exact ⟨entry, hentry, h entry hentry⟩

/-- Retirement keeps the entries. -/
theorem of_retiredAs (m : Sources) (reason : RetiredReason) (ids : List String) :
    Kept m (m.map (SourceRecord.retiredAs reason ids) (SourceRecord.key_retiredAs reason ids)) :=
  .of_map _ fun entry _ => SourceRecord.evolves_retiredAs reason ids entry

/-- The identifiers stay. -/
theorem contains (h : Kept m m') (id : String) : m'.contains id = m.contains id := by
  rw [Bool.eq_iff_iff, KeyedMap.contains_iff, KeyedMap.contains_iff]
  constructor
  · rintro ⟨entry', hentry', rfl⟩
    obtain ⟨entry, hentry, hevolves⟩ := h.backward entry' hentry'
    exact ⟨entry, hentry, hevolves.key.symm⟩
  · rintro ⟨entry, hentry, rfl⟩
    obtain ⟨entry', hentry', hevolves⟩ := h.forward entry hentry
    exact ⟨entry', hentry', hevolves.key⟩

end Kept

namespace IdentityRegistry

variable {A : Type} {self self' : IdentityRegistry A}
  {observed : List ContinuityEvidence} {continuity : ContinuityEvidence} {entry : SourceRecord}

/-- The registry with other entries. -/
def withEntries (self : IdentityRegistry A) (entries : Sources) : IdentityRegistry A :=
  { self with entries }

/-! ## Finding and retiring -/

/-- The entry that is found. -/
theorem findLive_eq_some (h : self.findLive continuity = some entry) :
    entry ∈ self.entries.values ∧ entry.state.isRetired = false ∧
      entry.continuity = continuity := by
  unfold findLive at h
  have hfound := List.find?_some h
  simp only [Bool.and_eq_true, Bool.not_eq_true', decide_eq_true_eq] at hfound
  exact ⟨List.mem_of_find?_eq_some h, hfound⟩

/-- No entry is found. -/
theorem findLive_eq_none : self.findLive continuity = none ↔
    ∀ entry ∈ self.entries.values, entry.state.isRetired = false →
      entry.continuity ≠ continuity := by
  unfold findLive
  simp

/-- What a retirement makes of the entries. -/
theorem retire_eq (self : IdentityRegistry A) (reason : RetiredReason) (id : String) :
    self.retire reason id = self.withEntries (self.entries.map (SourceRecord.retiredAs reason [id])
      (SourceRecord.key_retiredAs reason [id])) := by
  unfold retire
  split
  next hnone =>
    have hsame : ∀ entry ∈ self.entries.values, entry.retiredAs reason [id] = entry := by
      intro entry hentry
      have hkey : entry.key ∉ [id] := by
        simpa using KeyedMap.get?_eq_none.mp hnone entry hentry
      exact SourceRecord.retiredAs_of_not_mem hkey
    rw [KeyedMap.map_eq_self hsame]
    rfl
  next entry hsome =>
    obtain ⟨hentry, rfl⟩ := KeyedMap.get?_eq_some.mp hsome
    split
    next hretired =>
      have hsame : ∀ other ∈ self.entries.values, other.retiredAs reason [entry.key] = other := by
        intro other hother
        by_cases hkey : other.key = entry.key
        · rw [KeyedMap.eq_of_key_eq hother hentry hkey]
          exact SourceRecord.retiredAs_of_retired hretired
        · exact SourceRecord.retiredAs_of_not_mem fun h => hkey (List.mem_singleton.mp h)
      rw [KeyedMap.map_eq_self hsame]
      rfl
    next hlive =>
      -- The entry with this key is replaced, and the others stay as they are.
      have hreplace : ∀ other ∈ self.entries.values,
          KeyedMap.replace SourceRecord.key { entry with state := .retired reason } other
            = other.retiredAs reason [entry.key] := by
        intro other hother
        unfold KeyedMap.replace
        show (if other.key = entry.key then _ else other) = _
        by_cases hkey : other.key = entry.key
        · have hsame : other = entry := KeyedMap.eq_of_key_eq hother hentry hkey
          subst hsame
          rw [if_pos rfl, SourceRecord.retiredAs_of_mem (Bool.eq_false_iff.mpr hlive)
            (List.mem_singleton.mpr rfl)]
        · rw [if_neg hkey,
            SourceRecord.retiredAs_of_not_mem fun h => hkey (List.mem_singleton.mp h)]
      have hkey : SourceRecord.key { entry with state := .retired reason } = entry.key := rfl
      have hinsert : self.entries.insert { entry with state := .retired reason }
          = self.entries.map (SourceRecord.retiredAs reason [entry.key])
            (SourceRecord.key_retiredAs reason [entry.key]) :=
        (KeyedMap.insert_eq_map hentry hkey).trans (KeyedMap.map_congr hreplace)
      exact congrArg self.withEntries hinsert

/-- What the retirement of a list of sources makes of the entries. -/
theorem foldl_retire_eq (self : IdentityRegistry A) (reason : RetiredReason) (ids : List String) :
    ids.foldl (retire · reason) self = self.withEntries (self.entries.map
      (SourceRecord.retiredAs reason ids) (SourceRecord.key_retiredAs reason ids)) := by
  induction ids generalizing self with
  | nil =>
    have hsame : ∀ entry ∈ self.entries.values, entry.retiredAs reason [] = entry :=
      fun entry _ => SourceRecord.retiredAs_of_not_mem List.not_mem_nil
    rw [KeyedMap.map_eq_self hsame]
    rfl
  | cons id ids ih =>
    have hboth : ∀ entry ∈ self.entries.values,
        (SourceRecord.retiredAs reason ids ∘ SourceRecord.retiredAs reason [id]) entry
          = entry.retiredAs reason (id :: ids) := by
      intro entry _
      show (entry.retiredAs reason [id]).retiredAs reason ids = _
      cases hretired : entry.state.isRetired with
      | true =>
        rw [SourceRecord.retiredAs_of_retired hretired, SourceRecord.retiredAs_of_retired hretired,
          SourceRecord.retiredAs_of_retired hretired]
      | false =>
        by_cases hkey : entry.key = id
        · rw [SourceRecord.retiredAs_of_mem hretired (List.mem_singleton.mpr hkey),
            SourceRecord.retiredAs_of_mem hretired (hkey ▸ List.mem_cons_self)]
          exact SourceRecord.retiredAs_of_retired rfl
        · rw [SourceRecord.retiredAs_of_not_mem fun h => hkey (List.mem_singleton.mp h)]
          unfold SourceRecord.retiredAs
          simp [hkey]
    rw [List.foldl_cons, ih, retire_eq]
    unfold withEntries
    dsimp only
    rw [KeyedMap.map_map, KeyedMap.map_congr hboth]

/-- The identifiers that are retired on an ambiguous return. -/
theorem mem_ambiguousIds {candidates : List ContinuityEvidence} {entry : SourceRecord}
    (hentry : entry ∈ self.entries.values) :
    entry.key ∈ self.ambiguousIds candidates ↔
      entry.state.isRetired = false ∧ entry.continuity ∈ candidates := by
  unfold ambiguousIds
  rw [List.mem_dedup, List.mem_insertionSort, List.mem_flatMap]
  unfold liveIds
  constructor
  · rintro ⟨candidate, hcandidate, hkey⟩
    obtain ⟨other, hother, hkey⟩ := List.mem_map.mp hkey
    obtain ⟨hother, hlive⟩ := List.mem_filter.mp hother
    rw [Bool.and_eq_true, Bool.not_eq_true', decide_eq_true_eq] at hlive
    cases KeyedMap.eq_of_key_eq hother hentry hkey
    exact ⟨hlive.1, hlive.2 ▸ hcandidate⟩
  · rintro ⟨hlive, hcandidate⟩
    refine ⟨entry.continuity, hcandidate, List.mem_map.mpr ⟨entry, ?_, rfl⟩⟩
    rw [List.mem_filter, hlive]
    simpa using hentry

/-- What the reuse of a key makes of the entries. -/
theorem retireReused_eq (self : IdentityRegistry A) (observed : List ContinuityEvidence)
    (continuity : ContinuityEvidence) :
    ∃ ids, self.retireReused observed continuity = self.withEntries (self.entries.map
        (SourceRecord.retiredAs .nativeKeyReuse ids)
        (SourceRecord.key_retiredAs .nativeKeyReuse ids)) ∧
      ∀ entry ∈ self.entries.values, entry.key ∈ ids → isReused observed continuity entry := by
  unfold retireReused
  split
  next entry hfilter =>
    refine ⟨[entry.key], retire_eq self .nativeKeyReuse entry.key, ?_⟩
    intro other hother hkey
    have hentry : entry ∈ self.entries.values.filter (isReused observed continuity) := by
      rw [hfilter]
      exact List.mem_singleton_self entry
    obtain ⟨hentry, hreused⟩ := List.mem_filter.mp hentry
    rw [KeyedMap.eq_of_key_eq hother hentry (List.mem_singleton.mp hkey)]
    exact hreused
  next =>
    refine ⟨[], ?_, fun _ _ h => absurd h List.not_mem_nil⟩
    exact foldl_retire_eq self .nativeKeyReuse []

/-- What an observation of a source that is not retired makes of the entries. -/
theorem insert_found_eq (h : self.findLive continuity = some entry) (displayName : String) :
    ∃ f hf, self.insert { entry with state := .live, displayName }
        = self.withEntries (self.entries.map f hf) ∧
      (∀ other ∈ self.entries.values, other.Evolves (f other)) ∧
      (∀ other ∈ self.entries.values, other.key ≠ entry.key → f other = other) := by
  obtain ⟨hentry, hlive, -⟩ := findLive_eq_some h
  refine ⟨KeyedMap.replace SourceRecord.key { entry with state := .live, displayName },
    KeyedMap.key_replace _, ?_, ?_, ?_⟩
  · have hkey : SourceRecord.key { entry with state := .live, displayName } = entry.key := rfl
    exact congrArg self.withEntries (KeyedMap.insert_eq_map hentry hkey)
  · intro other hother
    unfold KeyedMap.replace
    split
    next hkey =>
      rw [KeyedMap.eq_of_key_eq hother hentry hkey]
      exact .of_state hlive
    next => exact .refl other
  · intro other _ hkey
    exact if_neg hkey

/-! ## Allocating -/

variable [SourceIdAllocator A] {before after : IdentityRegistry A}

/-- What an allocation changes. -/
structure Allocates (before : IdentityRegistry A) (outcome : Except RegistryError SourceId)
    (after : IdentityRegistry A) : Prop where
  /-- The namespace stays. -/
  namespace_eq : after.namespace = before.namespace
  /-- The revision stays. -/
  revision : after.revision = before.revision
  /-- The entries stay. -/
  entries : after.entries = before.entries
  /-- The sequence grows, up to its bound. -/
  sequence : after.nextSourceSequence = before.nextSourceSequence ∨
    before.nextSourceSequence.toNat < after.nextSourceSequence.toNat
  /-- No entry has an identifier that is allocated. -/
  fresh : ∀ id, outcome = .ok id → before.entries.contains id.asStr = false
  /-- An identifier is the allocator's, for the sequence that is reached. -/
  allocated : ∀ id, outcome = .ok id → ∃ allocator : A,
    (SourceIdAllocator.nextSourceId allocator before.namespace.asStr after.nextSourceSequence).1
      = id.asStr
  /-- There is one error. -/
  failed : ∀ error, outcome = .error error → error = .sourceIdAllocationFailed

/-- A sequence grows by one, up to its bound. -/
theorem saturatingAdd_one (n : UInt64) :
    Checked.saturatingAdd n 1 = n ∨ n.toNat < (Checked.saturatingAdd n 1).toNat := by
  have hone : (1 : UInt64).toNat = 1 := rfl
  have hvalue := Checked.saturatingAdd_toNat n 1
  have hbound := n.toNat_lt
  by_cases h : n.toNat + 1 < 2^64
  · right
    omega
  · left
    apply UInt64.toNat_inj.mp
    omega

/-- The sequence after an attempt. -/
theorem nextCandidate_sequence (before : IdentityRegistry A) :
    before.nextCandidate.2.nextSourceSequence
      = Checked.saturatingAdd before.nextSourceSequence 1 :=
  rfl

/-- An identifier keeps its text. -/
theorem new_eq_ok {value : String} {id : SourceId} (h : SourceId.new value = .ok id) :
    id.asStr = value := by
  unfold SourceId.new at h
  split at h
  next => cases h; rfl
  next => cases h

/-- What the attempts of an allocation change. -/
theorem allocateWithin_spec (attempts : ℕ) (before : IdentityRegistry A) :
    Allocates before (allocateWithin attempts before).1 (allocateWithin attempts before).2 := by
  induction attempts generalizing before with
  | zero => exact ⟨rfl, rfl, rfl, .inl rfl, nofun, nofun, fun _ h => (Except.error.inj h).symm⟩
  | succ attempts ih =>
    have hsequence := saturatingAdd_one before.nextSourceSequence
    rw [← nextCandidate_sequence] at hsequence
    unfold allocateWithin
    dsimp only
    split
    next =>
      have hrest := ih before.nextCandidate.2
      refine ⟨hrest.namespace_eq, hrest.revision, hrest.entries, ?_, hrest.fresh,
        hrest.allocated, hrest.failed⟩
      rcases hsequence, hrest.sequence with ⟨hfirst | hfirst, hsecond | hsecond⟩
      · exact .inl (hsecond.trans hfirst)
      · exact .inr (hfirst ▸ hsecond)
      · exact .inr (hsecond ▸ hfirst)
      · exact .inr (hfirst.trans hsecond)
    next htaken =>
      obtain ⟨-, hfree⟩ := not_or.mp htaken
      refine ⟨rfl, rfl, rfl, hsequence, ?_, ?_, ?_⟩
      · intro id hid
        rw [new_eq_ok (Result.mapError_eq_ok.mp hid)]
        exact Bool.eq_false_iff.mpr hfree
      · intro id hid
        exact ⟨before.allocator, (new_eq_ok (Result.mapError_eq_ok.mp hid)).symm⟩
      · intro error herror
        obtain ⟨-, -, rfl⟩ := Result.mapError_eq_error.mp herror
        rfl

/-- What an allocation changes. -/
theorem allocateSourceId_spec (before : IdentityRegistry A) :
    Allocates before before.allocateSourceId.1 before.allocateSourceId.2 :=
  allocateWithin_spec 4096 before

/-! ## Observations -/

/-- What holds of the stable evidence of a batch holds of that of its first observation, and of that
of the others. -/
theorem forall_observed_cons {P : ContinuityEvidence → Prop} {observation : SourceObservation}
    {observations : List SourceObservation}
    (h : ∀ continuity ∈ observedContinuities (observation :: observations), P continuity) :
    (∀ continuity, observation.continuity = .stable continuity → P continuity) ∧
      ∀ continuity ∈ observedContinuities observations, P continuity := by
  constructor
  · intro continuity heq
    apply h
    refine List.mem_filterMap.mpr ⟨observation, List.mem_cons_self, ?_⟩
    rw [heq]
    rfl
  · intro continuity hmem
    obtain ⟨other, hother, heq⟩ := List.mem_filterMap.mp hmem
    exact h continuity (List.mem_filterMap.mpr ⟨other, List.mem_cons_of_mem _ hother, heq⟩)

/-- The identifier that an observation is allocated. -/
def issues (observed : List ContinuityEvidence) (self : IdentityRegistry A)
    (observation : SourceObservation) : Option SourceId :=
  match observation.continuity with
  | .stable continuity =>
    match self.findLive continuity with
    | some _ => none
    | none => (self.retireReused observed continuity).allocateSourceId.1.toOption
  | _ => none

/-- What an observation is to a registry, and what the registry is after it: with the identifier
that was allocated, and whether something changed. -/
inductive Observes (observed : List ContinuityEvidence) (before : IdentityRegistry A) :
    SourceObservation → Option SourceId → Bool → IdentityRegistry A → Prop
  /-- There is no evidence. -/
  | unknown {displayName : String} : Observes observed before ⟨displayName, .unknown⟩ none false before
  /-- The evidence is ambiguous, and its sources are retired. -/
  | ambiguous {displayName : String} {candidates : List ContinuityEvidence} :
    Observes observed before ⟨displayName, .ambiguous candidates⟩ none
      (decide (before.ambiguousIds candidates ≠ []))
      (before.withEntries (before.entries.map
        (SourceRecord.retiredAs .ambiguousReturn (before.ambiguousIds candidates))
        (SourceRecord.key_retiredAs .ambiguousReturn (before.ambiguousIds candidates))))
  /-- The source is known. -/
  | found {displayName : String} {continuity : ContinuityEvidence} {entry : SourceRecord}
    (h : before.findLive continuity = some entry) :
    Observes observed before ⟨displayName, .stable continuity⟩ none
      (!entry.state.isLive || decide (entry.displayName ≠ displayName))
      (before.insert { entry with state := .live, displayName })
  /-- The source is new. -/
  | discovered {displayName : String} {continuity : ContinuityEvidence} {id : SourceId}
    {allocated : IdentityRegistry A} (h : before.findLive continuity = none)
    (hallocates : Allocates (before.retireReused observed continuity) (.ok id) allocated) :
    Observes observed before ⟨displayName, .stable continuity⟩ (some id) true
      (allocated.insert ⟨id, continuity, displayName, .live⟩)

/-- What an observation is to a registry. -/
theorem observe_ok {observation : SourceObservation} {changed changed' : Bool}
    (h : before.observe observed changed observation = (.ok changed', after)) :
    ∃ changes, changed' = (changed || changes) ∧
      Observes observed before observation (before.issues observed observation) changes after := by
  obtain ⟨displayName, continuity⟩ := observation
  unfold observe at h
  unfold issues
  cases continuity with
  | unknown =>
    cases h
    exact ⟨false, (Bool.or_false _).symm, .unknown⟩
  | ambiguous candidates =>
    dsimp only at h
    rw [foldl_retire_eq] at h
    cases h
    exact ⟨_, rfl, .ambiguous⟩
  | stable continuity =>
    dsimp only at h ⊢
    cases hfound : before.findLive continuity with
    | some entry =>
      rw [hfound] at h
      cases h
      exact ⟨_, Bool.or_assoc .., .found hfound⟩
    | none =>
      rw [hfound] at h
      have hspec := allocateSourceId_spec (before.retireReused observed continuity)
      revert h hspec
      generalize (before.retireReused observed continuity).allocateSourceId = outcome
      intro h hspec
      obtain ⟨outcome, allocated⟩ := outcome
      cases outcome with
      | error error => cases h
      | ok id =>
        cases h
        exact ⟨true, (Bool.or_true _).symm, .discovered hfound hspec⟩

end IdentityRegistry

end ResonanceSignal
