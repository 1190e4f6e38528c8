import ResonanceSignal.Agent.RegistrySteps

/-!
# Runs of the registry

A registry is opened, changed by operations, and opened again. What an opened registry holds is what
its files hold (`fromPersisted_image` and `Holds`), and what a batch of observations does to the
entries is composed from its observations (`Grows`). From both follows that a source is permanent
within its namespace (`sources_permanent`).
-/

namespace ResonanceSignal

/-! ## Opening -/

/-- Evidence that a file may hold. -/
def ContinuityEvidence.Valid (self : ContinuityEvidence) : Prop :=
  self.backendKey ≠ "" ∧ self.continuityToken ≠ ""

instance (evidence : ContinuityEvidence) : Decidable evidence.Valid :=
  inferInstanceAs (Decidable (_ ∧ _))

/-- Entries that can be opened: their evidence is valid, and no two have the same. -/
structure Reopenable (entries : Sources) : Prop where
  /-- The evidence is valid. -/
  valid : ∀ entry ∈ entries.values, entry.continuity.Valid
  /-- No two entries have the same evidence. -/
  distinct : (entries.values.map SourceRecord.continuity).Nodup

/-- No identifier has a larger sequence than the registry. -/
def Covers (contents : RegistryContents) : Prop :=
  ∀ entry ∈ contents.entries.values, ∀ parsed, parseSequenceFromId entry.id.asStr = some parsed →
    parsed ≤ contents.nextSourceSequence

/-- An identifier is rebuilt from its text. -/
theorem SourceId.new_asStr (id : SourceId) : SourceId.new id.asStr = .ok id :=
  dif_pos id.not_blank

/-- The state of a source is rebuilt from the file. -/
theorem SourceRecord.sourceState_persisted (entry : SourceRecord) :
    entry.persisted.sourceState = .ok entry.state := by
  obtain ⟨id, continuity, displayName, state⟩ := entry
  cases state <;> rfl

/-- A source of a file is inserted exactly where its identifier and its evidence are new. -/
theorem insertPersisted_persisted (loaded : LoadedEntries) (entry : SourceRecord) :
    insertPersisted loaded entry.persisted =
      if loaded.1.contains entry.key = false ∧ entry.continuity.Valid ∧
        entry.continuity ∉ loaded.2
      then .ok (loaded.1.insert entry, entry.continuity :: loaded.2)
      else .error .corruptRegistry := by
  have hid : (SourceId.new entry.id.asStr).mapError (fun _ => RegistryError.corruptRegistry)
      = .ok entry.id := Result.mapError_eq_ok.mpr entry.id.new_asStr
  -- The identifier and the state of a registry's own entry are always read back.
  have hsequence : insertPersisted loaded entry.persisted = (do
      failIf (loaded.1.contains entry.key = true) RegistryError.corruptRegistry
      failIf (entry.continuity.backendKey = "" ∨ entry.continuity.continuityToken = "")
        RegistryError.corruptRegistry
      failIf (entry.continuity ∈ loaded.2) RegistryError.corruptRegistry
      return (loaded.1.insert entry, entry.continuity :: loaded.2)) := by
    unfold insertPersisted
    rw [entry.sourceState_persisted]
    show (((SourceId.new entry.id.asStr).mapError fun _ => RegistryError.corruptRegistry) >>= _) = _
    rw [hid]
    rfl
  rw [hsequence]
  unfold failIf
  by_cases hnew : loaded.1.contains entry.key = false ∧ entry.continuity.Valid ∧
      entry.continuity ∉ loaded.2
  · rw [if_pos hnew, if_neg (Bool.eq_false_iff.mp hnew.1), if_neg (not_or.mpr hnew.2.1),
      if_neg hnew.2.2]
    rfl
  · rw [if_neg hnew]
    by_cases hcontains : loaded.1.contains entry.key = true
    · rw [if_pos hcontains]
      rfl
    rw [if_neg hcontains]
    by_cases hevidence : entry.continuity.backendKey = "" ∨ entry.continuity.continuityToken = ""
    · rw [if_pos hevidence]
      rfl
    rw [if_neg hevidence]
    by_cases hindex : entry.continuity ∈ loaded.2
    · rw [if_pos hindex]
      rfl
    · exact absurd ⟨Bool.eq_false_iff.mpr hcontains, not_or.mp hevidence, hindex⟩ hnew

/-- The sources of a file are inserted where their evidence is valid and new. -/
theorem foldlM_insertPersisted {entries : List SourceRecord} {m : Sources}
    {index : List ContinuityEvidence}
    (hsorted : (m.values ++ entries).Pairwise fun a b => a.key < b.key)
    (hvalid : ∀ entry ∈ entries, entry.continuity.Valid)
    (hdistinct : (entries.map SourceRecord.continuity).Nodup)
    (hnew : ∀ entry ∈ entries, entry.continuity ∉ index) :
    ∃ index', (entries.map SourceRecord.persisted).foldlM insertPersisted (m, index)
      = .ok (entries.foldl KeyedMap.insert m, index') := by
  induction entries generalizing m index with
  | nil => exact ⟨index, rfl⟩
  | cons entry entries ih =>
    obtain ⟨hentry, hvalid⟩ := List.forall_mem_cons.mp hvalid
    obtain ⟨hfirst, hdistinct⟩ := List.nodup_cons.mp hdistinct
    obtain ⟨hindex, hnew⟩ := List.forall_mem_cons.mp hnew
    have hlast : ∀ other ∈ m.values, other.key < entry.key := fun other hother =>
      (List.pairwise_append.mp hsorted).2.2 other hother entry List.mem_cons_self
    have hcontains : m.contains entry.key = false :=
      KeyedMap.contains_eq_false.mpr fun other hother => ne_of_lt (hlast other hother)
    have hinsert : (m.insert entry).values = m.values ++ [entry] := KeyedMap.insertInto_last hlast
    have hsorted : ((m.insert entry).values ++ entries).Pairwise fun a b => a.key < b.key := by
      rw [hinsert, List.append_assoc]
      exact hsorted
    have hnew : ∀ other ∈ entries, other.continuity ∉ entry.continuity :: index := by
      intro other hother hmem
      rcases List.mem_cons.mp hmem with hsame | hmem
      · exact hfirst (hsame ▸ List.mem_map_of_mem hother)
      · exact hnew other hother hmem
    obtain ⟨index', hrest⟩ := ih hsorted hvalid hdistinct hnew
    refine ⟨index', ?_⟩
    rw [List.map_cons, List.foldlM_cons, insertPersisted_persisted,
      if_pos ⟨hcontains, hentry, hindex⟩]
    exact hrest

/-- Sources of a file that are inserted have valid and new evidence. -/
theorem of_foldlM_insertPersisted {entries : List SourceRecord} {m : Sources}
    {index : List ContinuityEvidence} {loaded : LoadedEntries}
    (h : (entries.map SourceRecord.persisted).foldlM insertPersisted (m, index) = .ok loaded) :
    loaded.1 = entries.foldl KeyedMap.insert m ∧ (∀ entry ∈ entries, entry.continuity.Valid) ∧
      (entries.map SourceRecord.continuity).Nodup ∧
      ∀ entry ∈ entries, entry.continuity ∉ index := by
  induction entries generalizing m index with
  | nil =>
    cases h
    exact ⟨rfl, nofun, .nil, nofun⟩
  | cons entry entries ih =>
    rw [List.map_cons, List.foldlM_cons] at h
    obtain ⟨middle, hfirst, hrest⟩ := Result.bind_eq_ok.mp h
    rw [insertPersisted_persisted] at hfirst
    split at hfirst
    next hnew =>
      cases hfirst
      obtain ⟨hloaded, hvalid, hdistinct, hindex⟩ := ih hrest
      refine ⟨hloaded, List.forall_mem_cons.mpr ⟨hnew.2.1, hvalid⟩,
        List.nodup_cons.mpr ⟨?_, hdistinct⟩, List.forall_mem_cons.mpr ⟨hnew.2.2, ?_⟩⟩
      · intro hmem
        obtain ⟨other, hother, hsame⟩ := List.mem_map.mp hmem
        exact hindex other hother (hsame ▸ List.mem_cons_self)
      · exact fun other hother hmem => hindex other hother (List.mem_cons_of_mem _ hmem)
    next => cases hfirst

/-- The only error of inserting the sources of a file says that it is corrupt. -/
theorem foldlM_insertPersisted_eq_error {entries : List SourceRecord} {loaded : LoadedEntries}
    {error : RegistryError}
    (h : (entries.map SourceRecord.persisted).foldlM insertPersisted loaded = .error error) :
    error = .corruptRegistry := by
  induction entries generalizing loaded with
  | nil => cases h
  | cons entry entries ih =>
    rw [List.map_cons, List.foldlM_cons] at h
    rcases Result.bind_eq_error.mp h with h | ⟨middle, -, h⟩
    · rw [insertPersisted_persisted] at h
      split at h
      next => cases h
      next => exact (Except.error.inj h).symm
    · exact ih h

/-- A registry whose sequence covers its identifiers keeps it when it is opened. -/
theorem foldl_raiseSequence {entries : List SourceRecord} {sequence : UInt64}
    (h : ∀ entry ∈ entries, ∀ parsed, parseSequenceFromId entry.id.asStr = some parsed →
      parsed ≤ sequence) : entries.foldl raiseSequence sequence = sequence := by
  induction entries with
  | nil => rfl
  | cons entry entries ih =>
    obtain ⟨hentry, hrest⟩ := List.forall_mem_cons.mp h
    have hsame : raiseSequence sequence entry = sequence := by
      unfold raiseSequence
      split
      next parsed hparsed => exact if_neg (UInt64.not_lt.mpr (hentry parsed hparsed))
      next => rfl
    rw [List.foldl_cons, hsame, ih hrest]

/-- What a registry holds is what opening it gives, exactly where its entries can be opened. -/
theorem fromPersisted_image {contents : RegistryContents} (hcovers : Covers contents) :
    (Reopenable contents.entries ∧ fromPersisted contents.image = .ok contents) ∨
    (¬Reopenable contents.entries ∧
      fromPersisted contents.image = .error .corruptRegistry) := by
  have hschema : contents.image.intoCurrentSchema = .ok contents.image := rfl
  have hsequence : contents.entries.values.foldl raiseSequence contents.nextSourceSequence
      = contents.nextSourceSequence := foldl_raiseSequence hcovers
  unfold fromPersisted
  rw [hschema]
  show (Reopenable contents.entries ∧ ((contents.entries.values.map
      SourceRecord.persisted).foldlM insertPersisted (KeyedMap.empty, []) >>= _) = _) ∨
    (¬Reopenable contents.entries ∧ ((contents.entries.values.map
      SourceRecord.persisted).foldlM insertPersisted (KeyedMap.empty, []) >>= _) = _)
  by_cases hreopenable : Reopenable contents.entries
  · left
    obtain ⟨index, hfold⟩ := @foldlM_insertPersisted _ KeyedMap.empty []
      contents.entries.sorted hreopenable.valid hreopenable.distinct
      fun _ _ => List.not_mem_nil
    refine ⟨hreopenable, Result.bind_eq_ok.mpr ⟨_, hfold, ?_⟩⟩
    -- The entries are sorted by their keys, so the map is built as it was.
    have hrebuilt : contents.entries.values.foldl KeyedMap.insert KeyedMap.empty
        = contents.entries := KeyedMap.ofList_values contents.entries
    rw [hrebuilt]
    show Except.ok (⟨contents.namespace, contents.revision,
      contents.entries.values.foldl raiseSequence contents.nextSourceSequence,
      contents.entries⟩ : RegistryContents) = _
    rw [hsequence]
  · right
    refine ⟨hreopenable, ?_⟩
    rcases Result.ok_or_error ((contents.entries.values.map SourceRecord.persisted).foldlM
      insertPersisted ((KeyedMap.empty, []) : LoadedEntries)) with ⟨loaded, hfold⟩ | ⟨error, hfold⟩
    · obtain ⟨-, hvalid, hdistinct, -⟩ := of_foldlM_insertPersisted hfold
      exact absurd ⟨hvalid, hdistinct⟩ hreopenable
    · cases foldlM_insertPersisted_eq_error hfold
      exact Result.bind_eq_error.mpr (.inl hfold)

/-- What is among the entries that are read. -/
structure Indexed (loaded : LoadedEntries) : Prop where
  /-- The evidence is valid. -/
  valid : ∀ entry ∈ loaded.1.values, entry.continuity.Valid
  /-- The evidence of each entry is known. -/
  known : ∀ entry ∈ loaded.1.values, entry.continuity ∈ loaded.2
  /-- It is that of one entry. -/
  distinct : ∀ entry ∈ loaded.1.values, ∀ other ∈ loaded.1.values,
    entry.continuity = other.continuity → entry = other

/-- Inserting a source of a file keeps the evidence known. -/
theorem Indexed.insertPersisted {loaded loaded' : LoadedEntries} {source : PersistedSourceRecord}
    (h : Indexed loaded) (hinsert : insertPersisted loaded source = .ok loaded') :
    Indexed loaded' := by
  obtain ⟨id, -, hinsert⟩ := Result.bind_eq_ok.mp hinsert
  obtain ⟨_, _, hinsert⟩ := Result.bind_eq_ok.mp hinsert
  obtain ⟨_, hvalid, hinsert⟩ := Result.bind_eq_ok.mp hinsert
  obtain ⟨_, hindex, hinsert⟩ := Result.bind_eq_ok.mp hinsert
  obtain ⟨state, -, hinsert⟩ := Result.bind_eq_ok.mp hinsert
  have hvalid := not_or.mp (failIf_eq_ok.mp hvalid)
  have hindex := failIf_eq_ok.mp hindex
  cases hinsert
  refine ⟨?_, ?_, ?_⟩
  · intro entry hentry
    rcases KeyedMap.mem_insert.mp hentry with rfl | ⟨hentry, -⟩
    · exact hvalid
    · exact h.valid entry hentry
  · intro entry hentry
    rcases KeyedMap.mem_insert.mp hentry with rfl | ⟨hentry, -⟩
    · exact List.mem_cons_self
    · exact List.mem_cons_of_mem _ (h.known entry hentry)
  · intro entry hentry other hother hsame
    rcases KeyedMap.mem_insert.mp hentry with rfl | ⟨hentry, -⟩
    · rcases KeyedMap.mem_insert.mp hother with rfl | ⟨hother, -⟩
      · rfl
      · have hknown := h.known other hother
        rw [← hsame] at hknown
        exact absurd hknown hindex
    · rcases KeyedMap.mem_insert.mp hother with rfl | ⟨hother, -⟩
      · have hknown := h.known entry hentry
        rw [hsame] at hknown
        exact absurd hknown hindex
      · exact h.distinct entry hentry other hother hsame

/-- An opened registry has valid evidence, each that of one source. -/
theorem indexed_of_fromPersisted {image : PersistedRegistry} {contents : RegistryContents}
    (h : fromPersisted image = .ok contents) :
    ∃ index, Indexed (contents.entries, index) := by
  obtain ⟨current, -, h⟩ := Result.bind_eq_ok.mp h
  obtain ⟨loaded, hloaded, h⟩ := Result.bind_eq_ok.mp h
  cases h
  have hfold : ∀ (sources : List PersistedSourceRecord) (loaded loaded' : LoadedEntries),
      Indexed loaded → sources.foldlM ResonanceSignal.insertPersisted loaded = .ok loaded' →
      Indexed loaded' := by
    intro sources
    induction sources with
    | nil =>
      intro loaded loaded' hindexed hsources
      cases hsources
      exact hindexed
    | cons source sources ih =>
      intro loaded loaded' hindexed hsources
      rw [List.foldlM_cons] at hsources
      obtain ⟨middle, hfirst, hrest⟩ := Result.bind_eq_ok.mp hsources
      exact ih middle loaded' (hindexed.insertPersisted hfirst) hrest
  exact ⟨loaded.2, hfold current.entries (KeyedMap.empty, []) loaded
    ⟨nofun, nofun, nofun⟩ hloaded⟩

/-- The image that opening reads. -/
def opened (files : RegistryFiles) : Option PersistedRegistry :=
  match loadRegistry files.current with
  | .ok image => some image
  | .error _ => (loadRegistry files.backup).toOption

variable {files files' : RegistryFiles} {contents contents' : RegistryContents}
  {«namespace» : RegistryNamespace} {fault : Option Interruption}

/-- Opening reads the image that is there. -/
theorem loadOrInit_of_opened {image : PersistedRegistry} (h : opened files = some image) :
    loadOrInit files «namespace» fault = (fromPersisted image, files) := by
  unfold opened at h
  unfold loadOrInit
  cases hcurrent : loadRegistry files.current with
  | ok image =>
    rw [hcurrent] at h
    cases h
    rfl
  | error error =>
    rw [hcurrent] at h
    cases hbackup : loadRegistry files.backup with
    | error error =>
      rw [hbackup] at h
      cases h
    | ok image =>
      rw [hbackup] at h
      cases h
      rfl

/-- Without an image a blank registry is written. -/
theorem loadOrInit_of_not_opened (h : opened files = none) :
    loadOrInit files «namespace» fault
      = ((persist (blank «namespace») files fault).1.map fun () => blank «namespace»,
        (persist (blank «namespace») files fault).2) := by
  unfold opened at h
  unfold loadOrInit
  cases hcurrent : loadRegistry files.current with
  | ok image =>
    rw [hcurrent] at h
    cases h
  | error error =>
    rw [hcurrent] at h
    cases hbackup : loadRegistry files.backup with
    | error error => rfl
    | ok image =>
      rw [hbackup] at h
      cases h

/-- After all its steps, `persist` leaves the bytes in two files. -/
theorem persisted_eq (bytes : List UInt8) (files : RegistryFiles) :
    persisted bytes files = ⟨some bytes, some bytes, none⟩ := by
  obtain ⟨current, backup, candidate⟩ := files
  cases current <;> cases backup <;> rfl

/-- A `persist` that succeeds has done all its steps. -/
theorem persist_eq_ok (h : persist contents files fault = (.ok (), files')) :
    files' = ⟨some contents.bytes, some contents.bytes, none⟩ := by
  unfold persist at h
  rw [persisted_eq] at h
  split at h
  next => cases h; rfl
  next =>
    split at h
    next => cases h
    next => cases h; rfl

/-- The files hold a registry: it is what opening them gives, if they can be opened. -/
def Holds (files : RegistryFiles) (contents : RegistryContents) : Prop :=
  ∃ image, opened files = some image ∧
    ∀ contents', fromPersisted image = .ok contents' → contents' = contents

/-- What was written is what opening reads. -/
theorem opened_written (contents : RegistryContents) {backup candidate : Option (List UInt8)} :
    opened ⟨some contents.bytes, backup, candidate⟩ = some contents.image := by
  unfold opened
  rw [loadRegistry_bytes]

/-- The files hold what was written. -/
theorem holds_written (h : Covers contents) :
    Holds ⟨some contents.bytes, some contents.bytes, none⟩ contents := by
  refine ⟨contents.image, opened_written contents, ?_⟩
  intro contents' hopen
  rcases fromPersisted_image h with ⟨-, hsame⟩ | ⟨-, herror⟩
  · exact Except.ok.inj (hopen.symm.trans hsame)
  · rw [herror] at hopen
    cases hopen

/-- A blank registry covers its identifiers. -/
theorem covers_blank : Covers (blank «namespace») := fun _ h => absurd h List.not_mem_nil

/-- The larger sequence. -/
theorem le_foldl_raiseSequence {entries : List SourceRecord} {sequence : UInt64} :
    sequence ≤ entries.foldl raiseSequence sequence ∧
      ∀ entry ∈ entries, ∀ parsed, parseSequenceFromId entry.id.asStr = some parsed →
        parsed ≤ entries.foldl raiseSequence sequence := by
  have hraise : ∀ (sequence : UInt64) entry, sequence ≤ raiseSequence sequence entry ∧
      ∀ parsed, parseSequenceFromId entry.id.asStr = some parsed →
        parsed ≤ raiseSequence sequence entry := by
    intro sequence entry
    unfold raiseSequence
    split
    next parsed hparsed =>
      rw [hparsed]
      split
      next hlt =>
        refine ⟨UInt64.le_of_lt hlt, ?_⟩
        rintro _ ⟨⟩
        exact UInt64.le_refl parsed
      next hle =>
        refine ⟨UInt64.le_refl sequence, ?_⟩
        rintro _ ⟨⟩
        exact UInt64.not_lt.mp hle
    next hnone =>
      rw [hnone]
      exact ⟨UInt64.le_refl sequence, nofun⟩
  induction entries generalizing sequence with
  | nil => exact ⟨UInt64.le_refl sequence, nofun⟩
  | cons entry entries ih =>
    obtain ⟨hfirst, hentry⟩ := hraise sequence entry
    obtain ⟨hrest, hentries⟩ := @ih (raiseSequence sequence entry)
    refine ⟨UInt64.le_trans hfirst hrest, List.forall_mem_cons.mpr ⟨?_, hentries⟩⟩
    exact fun parsed hparsed => UInt64.le_trans (hentry parsed hparsed) hrest

/-- A registry that is opened covers its identifiers. -/
theorem covers_of_fromPersisted {image : PersistedRegistry}
    (h : fromPersisted image = .ok contents) : Covers contents := by
  obtain ⟨current, -, h⟩ := Result.bind_eq_ok.mp h
  obtain ⟨loaded, -, h⟩ := Result.bind_eq_ok.mp h
  cases h
  exact le_foldl_raiseSequence.2

/-! ## Batches -/

/-- What an observation makes of the entries: it keeps them, and may add a new one. -/
inductive Grows (m : Sources) : Option SourceId → Sources → Prop
  /-- There is no new one. -/
  | kept {m' : Sources} (h : Kept m m') : Grows m none m'
  /-- There is a new one. -/
  | new {m' : Sources} {id : SourceId} {continuity : ContinuityEvidence} {displayName : String}
    (h : Kept m m') (hfresh : m'.contains id.asStr = false)
    (hnone : ∀ entry ∈ m'.values, entry.state.isRetired = false → entry.continuity ≠ continuity) :
    Grows m (some id) (m'.insert ⟨id, continuity, displayName, .live⟩)

/-- No two sources that are not retired have the same evidence. -/
def OneEach (m : Sources) : Prop :=
  ∀ entry ∈ m.values, ∀ other ∈ m.values, entry.state.isRetired = false →
    other.state.isRetired = false → entry.continuity = other.continuity → entry = other

/-- Entries that are kept have their evidence once, if they had. -/
theorem Kept.oneEach {m m' : Sources} (h : Kept m m') (hone : OneEach m) : OneEach m' := by
  intro entry' hentry' other' hother' hlive hlive' hsame
  obtain ⟨entry, hentry, hevolves⟩ := h.backward entry' hentry'
  obtain ⟨other, hother, hevolves'⟩ := h.backward other' hother'
  have hsource : entry = other := by
    apply hone entry hentry other hother (hevolves.not_isRetired hlive)
      (hevolves'.not_isRetired hlive')
    rw [← hevolves.continuity, ← hevolves'.continuity, hsame]
  apply KeyedMap.eq_of_key_eq hentry' hother'
  rw [hevolves.key, hevolves'.key, hsource]

namespace Grows

variable {m m' : Sources} {id? : Option SourceId}

/-- Each entry stays. -/
theorem forward (h : Grows m id? m') :
    ∀ entry ∈ m.values, ∃ entry' ∈ m'.values, entry.Evolves entry' := by
  intro entry hentry
  cases h with
  | kept h => exact h.forward entry hentry
  | new h hfresh hnone =>
    obtain ⟨entry', hentry', hevolves⟩ := h.forward entry hentry
    refine ⟨entry', KeyedMap.mem_insert.mpr (.inr ⟨hentry', ?_⟩), hevolves⟩
    exact KeyedMap.contains_eq_false.mp hfresh entry' hentry'

/-- Each entry was there, or is the new one. -/
theorem backward (h : Grows m id? m') : ∀ entry' ∈ m'.values,
    (∃ entry ∈ m.values, entry.Evolves entry') ∨ id? = some entry'.id := by
  intro entry' hentry'
  cases h with
  | kept h => exact .inl (h.backward entry' hentry')
  | new h hfresh hnone =>
    rcases KeyedMap.mem_insert.mp hentry' with rfl | ⟨hentry', -⟩
    · exact .inr rfl
    · exact .inl (h.backward entry' hentry')

/-- A new identifier is new. -/
theorem issued {id : SourceId} (h : Grows m (some id) m') :
    m.contains id.asStr = false ∧ m'.contains id.asStr = true := by
  cases h with
  | new h hfresh hnone =>
    exact ⟨(h.contains id.asStr).symm.trans hfresh,
      KeyedMap.contains_iff.mpr ⟨_, KeyedMap.mem_insert.mpr (.inl rfl), rfl⟩⟩

/-- Entries have their evidence once, if they had. -/
theorem oneEach (h : Grows m id? m') (hone : OneEach m) : OneEach m' := by
  cases h with
  | kept h => exact h.oneEach hone
  | new h hfresh hnone =>
    intro entry hentry other hother hlive hlive' hsame
    rcases KeyedMap.mem_insert.mp hentry with rfl | ⟨hentry, -⟩
    · rcases KeyedMap.mem_insert.mp hother with rfl | ⟨hother, -⟩
      · rfl
      · exact absurd hsame.symm (hnone other hother hlive')
    · rcases KeyedMap.mem_insert.mp hother with rfl | ⟨hother, -⟩
      · exact absurd hsame (hnone entry hentry hlive)
      · exact h.oneEach hone entry hentry other hother hlive hlive' hsame

end Grows

namespace IdentityRegistry

variable {A : Type} [SourceIdAllocator A] {before after : IdentityRegistry A}
  {observed : List ContinuityEvidence}

omit [SourceIdAllocator A] in
/-- The reuse of a key keeps the entries, and changes nothing else. -/
theorem retireReused_kept (before : IdentityRegistry A) (observed : List ContinuityEvidence)
    (continuity : ContinuityEvidence) :
    Kept before.entries (before.retireReused observed continuity).entries ∧
      (before.retireReused observed continuity).namespace = before.namespace ∧
      (before.retireReused observed continuity).revision = before.revision ∧
      (before.retireReused observed continuity).nextSourceSequence
        = before.nextSourceSequence := by
  obtain ⟨ids, hids, -⟩ := retireReused_eq before observed continuity
  rw [hids]
  exact ⟨.of_retiredAs before.entries .nativeKeyReuse ids, rfl, rfl, rfl⟩

/-- What an observation makes of a registry. -/
structure Steps (before : IdentityRegistry A) (id? : Option SourceId)
    (after : IdentityRegistry A) : Prop where
  /-- The namespace stays. -/
  namespace_eq : after.namespace = before.namespace
  /-- The revision stays. -/
  revision : after.revision = before.revision
  /-- The sequence does not fall. -/
  sequence : before.nextSourceSequence ≤ after.nextSourceSequence
  /-- The entries grow. -/
  entries : Grows before.entries id? after.entries
  /-- An identifier is the allocator's, for the sequence that is reached. -/
  allocated : ∀ id, id? = some id → ∃ allocator : A,
    (SourceIdAllocator.nextSourceId allocator before.namespace.asStr after.nextSourceSequence).1
      = id.asStr

/-- What an observation makes of a registry. -/
theorem Observes.steps {observation : SourceObservation} {id? : Option SourceId} {changes : Bool}
    (h : Observes observed before observation id? changes after) : Steps before id? after := by
  cases h with
  | unknown => exact ⟨rfl, rfl, UInt64.le_refl _, .kept (.refl _), nofun⟩
  | ambiguous =>
    exact ⟨rfl, rfl, UInt64.le_refl _, .kept (.of_retiredAs before.entries _ _), nofun⟩
  | found hfound =>
    obtain ⟨f, hf, heq, hevolves, -⟩ := insert_found_eq hfound _
    rw [heq]
    exact ⟨rfl, rfl, UInt64.le_refl _, .kept (.of_map hf hevolves), nofun⟩
  | @discovered displayName continuity id allocated hnone hallocates =>
    obtain ⟨hkept, hnamespace, hrevision, hsequence⟩ :=
      retireReused_kept before observed continuity
    refine ⟨hallocates.namespace_eq.trans hnamespace, hallocates.revision.trans hrevision,
      ?_, ?_, ?_⟩
    · rw [← hsequence]
      rcases hallocates.sequence with h | h
      · exact UInt64.le_of_eq h.symm
      · exact UInt64.le_of_lt h
    · have hfresh := hallocates.fresh id rfl
      show Grows _ _ (allocated.entries.insert _)
      rw [hallocates.entries]
      refine .new hkept hfresh ?_
      intro entry' hentry' hlive
      obtain ⟨entry, hentry, hevolves⟩ := hkept.backward entry' hentry'
      rw [hevolves.continuity]
      exact findLive_eq_none.mp hnone entry hentry (hevolves.not_isRetired hlive)
    · intro id' hid'
      cases hid'
      rw [← hnamespace]
      exact hallocates.allocated id rfl

/-- What an observation that changes nothing makes of a registry. -/
theorem Observes.unchanged {observation : SourceObservation} {id? : Option SourceId}
    (h : Observes observed before observation id? false after) : after = before := by
  generalize hchanges : false = changes at h
  cases h with
  | unknown => rfl
  | @ambiguous displayName candidates =>
    have hnone : before.ambiguousIds candidates = [] :=
      not_not.mp (of_decide_eq_false hchanges.symm)
    rw [hnone]
    exact (foldl_retire_eq before .ambiguousReturn []).symm
  | @found displayName continuity entry hfound =>
    obtain ⟨hentry, -, -⟩ := findLive_eq_some hfound
    rw [eq_comm, Bool.or_eq_false_iff, Bool.not_eq_false', decide_eq_false_iff_not,
      not_not] at hchanges
    obtain ⟨hlive, hname⟩ := hchanges
    have hstate : entry.state = .live := by
      cases hstate : entry.state with
      | live => rfl
      | _ => rw [hstate] at hlive; cases hlive
    have hsame : ({ entry with state := .live, displayName } : SourceRecord) = entry := by
      rw [← hstate, ← hname]
    have hreplace : ∀ other ∈ before.entries.values,
        KeyedMap.replace SourceRecord.key entry other = other := by
      intro other hother
      unfold KeyedMap.replace
      split
      next hkey => exact (KeyedMap.eq_of_key_eq hother hentry hkey).symm
      next => rfl
    have hinsert : before.entries.insert entry = before.entries :=
      (KeyedMap.insert_eq_map hentry rfl).trans (KeyedMap.map_eq_self hreplace)
    rw [hsame]
    exact congrArg before.withEntries hinsert
  | discovered hnone hallocates => cases hchanges

/-- What a batch of observations is to a registry, with the identifiers that are allocated. -/
inductive ObservesAll (observed : List ContinuityEvidence) :
    IdentityRegistry A → List SourceObservation → List SourceId → Bool → IdentityRegistry A → Prop
  /-- There are no observations. -/
  | nil {before : IdentityRegistry A} : ObservesAll observed before [] [] false before
  /-- There is a first one. -/
  | cons {before middle after : IdentityRegistry A} {observation : SourceObservation}
    {observations : List SourceObservation} {id? : Option SourceId} {ids : List SourceId}
    {changes changes' : Bool} (h : Observes observed before observation id? changes middle)
    (hs : ObservesAll observed middle observations ids changes' after) :
    ObservesAll observed before (observation :: observations) (id?.toList ++ ids)
      (changes || changes') after

/-- The identifiers that a batch of observations is allocated. -/
def issuesAll (observed : List ContinuityEvidence) :
    List SourceObservation → IdentityRegistry A → List SourceId
  | [], _ => []
  | observation :: observations, self =>
    (self.issues observed observation).toList ++
      issuesAll observed observations (self.observe observed false observation).2

/-- Whether something changed before does not matter to an observation. -/
theorem observe_snd (before : IdentityRegistry A) (observed : List ContinuityEvidence)
    (changed : Bool)
    (observation : SourceObservation) :
    (before.observe observed changed observation).2
      = (before.observe observed false observation).2 := by
  unfold observe
  cases observation.continuity with
  | unknown => rfl
  | ambiguous => rfl
  | stable continuity =>
    dsimp only
    cases before.findLive continuity with
    | some entry => rfl
    | none => rfl

/-- What a batch of observations is to a registry. -/
theorem observeAll_ok {observations : List SourceObservation} {changed changed' : Bool}
    (h : observeAll observed observations changed before = (.ok changed', after)) :
    ∃ changes, changed' = (changed || changes) ∧
      ObservesAll observed before observations (issuesAll observed observations before) changes
        after := by
  induction observations generalizing before changed with
  | nil =>
    cases h
    exact ⟨false, (Bool.or_false _).symm, .nil⟩
  | cons observation observations ih =>
    unfold observeAll at h
    have hsnd := observe_snd before observed changed observation
    cases hobserve : before.observe observed changed observation with
    | mk outcome middle =>
      rw [hobserve] at h hsnd
      cases outcome with
      | error error => cases h
      | ok changed₁ =>
        obtain ⟨changes, rfl, hfirst⟩ := observe_ok hobserve
        obtain ⟨changes', hchanged, hrest⟩ := ih h
        refine ⟨changes || changes', by rw [hchanged, Bool.or_assoc], ?_⟩
        unfold issuesAll
        rw [← hsnd]
        exact .cons hfirst hrest

/-- A batch of observations that changes nothing leaves the registry. -/
theorem ObservesAll.unchanged {observations : List SourceObservation} {ids : List SourceId}
    (h : ObservesAll observed before observations ids false after) : after = before := by
  generalize hchanges : false = changes at h
  induction h with
  | nil => rfl
  | cons h hs ih =>
    obtain ⟨rfl, rfl⟩ := Bool.or_eq_false_iff.mp hchanges.symm
    exact (ih rfl).trans h.unchanged

omit [SourceIdAllocator A] in
/-- The first loop changes states only. -/
theorem kept_markAllAbsent (before : IdentityRegistry A) (observed : List ContinuityEvidence) :
    Kept before.entries (before.markAllAbsent observed).entries :=
  .of_map (key_markAbsent observed) fun entry _ => SourceRecord.evolves_markAbsent observed entry

omit [SourceIdAllocator A] in
/-- Where no source disappears, none becomes absent. -/
theorem markAllAbsent_eq_self (h : before.entries.values.any (disappears observed) = false) :
    before.markAllAbsent observed = before := by
  have hsame : ∀ entry ∈ before.entries.values, markAbsent observed entry = entry := by
    intro entry hentry
    apply if_neg
    simpa using List.any_eq_false.mp h entry hentry
  unfold markAllAbsent
  rw [KeyedMap.map_eq_self hsame]

omit [SourceIdAllocator A] in
/-- A commit that succeeds. -/
theorem commit_eq_ok {snapshot : DiscoverySnapshot}
    (h : before.commit files fault = (.ok snapshot, after, files')) :
    after = { before with revision := Checked.saturatingAdd before.revision 1 } ∧
      files' = ⟨some after.bytes, some after.bytes, none⟩ ∧ snapshot = after.snapshot := by
  unfold commit at h
  dsimp only at h
  rcases hpersist : persist (RegistryContents.mk before.namespace
    (Checked.saturatingAdd before.revision 1) before.nextSourceSequence before.entries) files fault
    with ⟨outcome, written⟩
  rw [hpersist] at h
  cases outcome with
  | error error => cases h
  | ok =>
    cases h
    exact ⟨rfl, persist_eq_ok hpersist, rfl⟩

/-- A batch of observations that succeeds: it changes nothing, or what it changes is committed. -/
theorem applyObservations_eq_ok {observations : List SourceObservation}
    {snapshot : DiscoverySnapshot}
    (h : before.applyObservations observations files fault = (.ok snapshot, after, files')) :
    ∃ changes observedAfter, ObservesAll (observedContinuities observations)
        (before.markAllAbsent (observedContinuities observations)) observations
        (issuesAll (observedContinuities observations) observations
          (before.markAllAbsent (observedContinuities observations))) changes observedAfter ∧
      snapshot = after.snapshot ∧
      ((after = before ∧ observedAfter = before ∧ files' = files) ∨
        (after = { observedAfter with
            revision := Checked.saturatingAdd observedAfter.revision 1 } ∧
          files' = ⟨some after.bytes, some after.bytes, none⟩)) := by
  unfold applyObservations at h
  dsimp only at h
  split at h
  next => cases h
  next changed observedAfter hobserve =>
    obtain ⟨changes, rfl, hall⟩ := observeAll_ok hobserve
    refine ⟨changes, observedAfter, hall, ?_⟩
    split at h
    next hchanged =>
      obtain ⟨hafter, hfiles, hsnapshot⟩ := commit_eq_ok h
      exact ⟨hsnapshot, .inr ⟨hafter, hfiles⟩⟩
    next hchanged =>
      obtain ⟨hdisappears, rfl⟩ := Bool.or_eq_false_iff.mp (Bool.eq_false_iff.mpr hchanged)
      have hsame := hall.unchanged.trans (markAllAbsent_eq_self hdisappears)
      cases h
      exact ⟨rfl, .inl ⟨hsame, hsame, rfl⟩⟩

end IdentityRegistry

/-! ## What is preserved -/

/-- What operations within one namespace preserve, with the identifiers that they allocate. -/
structure Preserves (before after : RegistryContents) (ids : List SourceId) : Prop where
  /-- The namespace stays. -/
  namespace_eq : after.namespace = before.namespace
  /-- The sequence does not fall. -/
  sequence : before.nextSourceSequence ≤ after.nextSourceSequence
  /-- Each source stays. -/
  kept : ∀ entry ∈ before.entries.values, ∃ entry' ∈ after.entries.values, entry.Evolves entry'
  /-- No source had an identifier that is allocated. -/
  fresh : ∀ id ∈ ids, before.entries.contains id.asStr = false
  /-- A source has it then. -/
  added : ∀ id ∈ ids, after.entries.contains id.asStr = true
  /-- No two are the same. -/
  nodup : (ids.map SourceId.asStr).Nodup

namespace Preserves

variable {before middle after : RegistryContents} {ids ids' : List SourceId}

/-- An identifier stays. -/
theorem contains (h : Preserves before after ids) {key : String}
    (hkey : before.entries.contains key = true) : after.entries.contains key = true := by
  obtain ⟨entry, hentry, rfl⟩ := KeyedMap.contains_iff.mp hkey
  obtain ⟨entry', hentry', hevolves⟩ := h.kept entry hentry
  exact KeyedMap.contains_iff.mpr ⟨entry', hentry', hevolves.key⟩

/-- What is kept is preserved. -/
theorem of_kept (hnamespace : after.namespace = before.namespace)
    (hsequence : before.nextSourceSequence ≤ after.nextSourceSequence)
    (h : Kept before.entries after.entries) : Preserves before after [] where
  namespace_eq := hnamespace
  sequence := hsequence
  kept := h.forward
  fresh := nofun
  added := nofun
  nodup := .nil

/-- Nothing changes. -/
theorem refl (contents : RegistryContents) : Preserves contents contents [] :=
  of_kept rfl (UInt64.le_refl _) (.refl _)

/-- The revision does not matter. -/
theorem withRevision (h : Preserves before after ids) (revision : UInt64) :
    Preserves before { after with revision } ids :=
  ⟨h.namespace_eq, h.sequence, h.kept, h.fresh, h.added, h.nodup⟩

/-- What is preserved twice is preserved. -/
theorem trans (h : Preserves before middle ids) (h' : Preserves middle after ids') :
    Preserves before after (ids ++ ids') where
  namespace_eq := h'.namespace_eq.trans h.namespace_eq
  sequence := UInt64.le_trans h.sequence h'.sequence
  kept entry hentry := by
    obtain ⟨entry', hentry', hfirst⟩ := h.kept entry hentry
    obtain ⟨entry'', hentry'', hsecond⟩ := h'.kept entry' hentry'
    exact ⟨entry'', hentry'', hfirst.trans hsecond⟩
  fresh id hid := by
    rcases List.mem_append.mp hid with hid | hid
    · exact h.fresh id hid
    · cases hbefore : before.entries.contains id.asStr with
      | false => rfl
      | true =>
        have hmiddle := h.contains hbefore
        rw [h'.fresh id hid] at hmiddle
        cases hmiddle
  added id hid := by
    rcases List.mem_append.mp hid with hid | hid
    · exact h'.contains (h.added id hid)
    · exact h'.added id hid
  nodup := by
    rw [List.map_append]
    refine List.nodup_append.mpr ⟨h.nodup, h'.nodup, ?_⟩
    intro a ha b hb heq
    obtain ⟨id, hid, rfl⟩ := List.mem_map.mp ha
    obtain ⟨id', hid', rfl⟩ := List.mem_map.mp hb
    -- The first one is in the middle already, and the second one is not.
    have hmiddle := h.added id hid
    rw [heq, h'.fresh id' hid'] at hmiddle
    cases hmiddle

end Preserves

/-! ## Sequences -/

/-- The sequence of an identifier of the allocator that counts. -/
theorem parseSequenceFromId_counterSourceId («namespace» : String) (sequence : UInt64) :
    parseSequenceFromId (counterSourceId «namespace» sequence) = some sequence := by
  have hdigits : '-' ∉ Text.decimal sequence.toNat := Text.not_mem_decimal rfl
  unfold parseSequenceFromId counterSourceId
  rw [String.toList_ofList, Text.rsplitOnce_append hdigits]
  show (Text.parseDecimal (Text.decimal sequence.toNat)).bind Checked.ofNat = _
  rw [Text.parseDecimal_decimal]
  exact Checked.ofNat_eq_some.mpr rfl

/-- An identifier of the allocator that counts is not blank. -/
theorem isBlank_counterSourceId («namespace» : String) (sequence : UInt64) :
    Text.isBlank (counterSourceId «namespace» sequence) = false := by
  unfold Text.isBlank counterSourceId
  rw [String.toList_ofList]
  rfl

/-- Kept entries are covered by a sequence that does not fall. -/
theorem Covers.of_kept {before after : RegistryContents} (h : Covers before)
    (hkept : Kept before.entries after.entries)
    (hsequence : before.nextSourceSequence ≤ after.nextSourceSequence) : Covers after := by
  intro entry' hentry' parsed hparsed
  obtain ⟨entry, hentry, hevolves⟩ := hkept.backward entry' hentry'
  rw [hevolves.id] at hparsed
  exact UInt64.le_trans (h entry hentry parsed hparsed) hsequence

namespace IdentityRegistry

variable {before after : IdentityRegistry CounterSourceIdAllocator}
  {observed : List ContinuityEvidence}

/-- What an observation preserves. -/
theorem Steps.preserves {id? : Option SourceId} (h : Steps before id? after)
    (hcovers : Covers before.toRegistryContents) (hone : OneEach before.entries) :
    Preserves before.toRegistryContents after.toRegistryContents id?.toList ∧
      Covers after.toRegistryContents ∧ OneEach after.entries := by
  refine ⟨⟨h.namespace_eq, h.sequence, h.entries.forward, ?_, ?_, ?_⟩, ?_,
    h.entries.oneEach hone⟩
  · intro id hid
    rw [Option.mem_toList] at hid
    subst hid
    exact h.entries.issued.1
  · intro id hid
    rw [Option.mem_toList] at hid
    subst hid
    exact h.entries.issued.2
  · cases id? <;> simp
  · intro entry' hentry' parsed hparsed
    rcases h.entries.backward entry' hentry' with ⟨entry, hentry, hevolves⟩ | hid
    · rw [hevolves.id] at hparsed
      exact UInt64.le_trans (hcovers entry hentry parsed hparsed) h.sequence
    · obtain ⟨allocator, hallocated⟩ := h.allocated entry'.id hid
      rw [← hallocated] at hparsed
      cases (parseSequenceFromId_counterSourceId _ _).symm.trans hparsed
      exact UInt64.le_refl _

/-- What a batch of observations preserves. -/
theorem ObservesAll.preserves {observations : List SourceObservation} {ids : List SourceId}
    {changes : Bool} (h : ObservesAll observed before observations ids changes after)
    (hcovers : Covers before.toRegistryContents) (hone : OneEach before.entries) :
    Preserves before.toRegistryContents after.toRegistryContents ids ∧
      Covers after.toRegistryContents ∧ OneEach after.entries := by
  induction h with
  | nil => exact ⟨.refl _, hcovers, hone⟩
  | cons h hs ih =>
    obtain ⟨hfirst, hcovers, hone⟩ := h.steps.preserves hcovers hone
    obtain ⟨hrest, hcovers, hone⟩ := ih hcovers hone
    exact ⟨hfirst.trans hrest, hcovers, hone⟩

/-- What a pass preserves, which marks absent sources first, and then observes. -/
theorem ObservesAll.preserves_marked {observations : List SourceObservation}
    {ids : List SourceId} {changes : Bool}
    (h : ObservesAll observed (before.markAllAbsent observed) observations ids changes after)
    (hcovers : Covers before.toRegistryContents) (hone : OneEach before.entries) :
    Preserves before.toRegistryContents after.toRegistryContents ids ∧
      Covers after.toRegistryContents ∧ OneEach after.entries := by
  have hkept := kept_markAllAbsent before observed
  have hcovers : Covers (before.markAllAbsent observed).toRegistryContents :=
    hcovers.of_kept hkept (UInt64.le_refl _)
  have hmarked : Preserves before.toRegistryContents
      (before.markAllAbsent observed).toRegistryContents [] :=
    .of_kept rfl (UInt64.le_refl _) hkept
  obtain ⟨hpreserves, hcovers, hone⟩ := h.preserves hcovers (hkept.oneEach hone)
  exact ⟨hmarked.trans hpreserves, hcovers, hone⟩

end IdentityRegistry

/-! ## Operations and runs -/

/-- The operations that change a registry. -/
inductive RegistryOperation
  | applyObservations (observations : List SourceObservation)
  | advanceRevision
  | resetNamespace («namespace» : RegistryNamespace)
deriving DecidableEq

/-- An operation on a registry and its files. -/
def RegistryOperation.run {A : Type} [SourceIdAllocator A] (self : IdentityRegistry A)
    (files : RegistryFiles) (fault : Option Interruption) :
    RegistryOperation → Except RegistryError Unit × IdentityRegistry A × RegistryFiles
  | applyObservations observations =>
    let (outcome, self, files) := self.applyObservations observations files fault
    (outcome.map fun _ => (), self, files)
  | advanceRevision =>
    let (outcome, self, files) := self.advanceRevision files fault
    (outcome.map fun _ => (), self, files)
  | resetNamespace «namespace» => self.resetNamespace «namespace» files fault

/-- An operation that succeeds, with the registry and the files that it leaves. -/
inductive RegistryOperation.Runs (before : IdentityRegistry CounterSourceIdAllocator)
    (files : RegistryFiles) : RegistryOperation → IdentityRegistry CounterSourceIdAllocator →
      RegistryFiles → Prop
  /-- The observations change nothing, and nothing is written. -/
  | unchanged (observations : List SourceObservation) (changes : Bool)
      (all : IdentityRegistry.ObservesAll (observedContinuities observations)
        (before.markAllAbsent (observedContinuities observations)) observations
        (IdentityRegistry.issuesAll (observedContinuities observations) observations
          (before.markAllAbsent (observedContinuities observations))) changes before) :
      Runs before files (.applyObservations observations) before files
  /-- The observations are committed. -/
  | observed (observations : List SourceObservation) (changes : Bool)
      (observedAfter after : IdentityRegistry CounterSourceIdAllocator)
      (all : IdentityRegistry.ObservesAll (observedContinuities observations)
        (before.markAllAbsent (observedContinuities observations)) observations
        (IdentityRegistry.issuesAll (observedContinuities observations) observations
          (before.markAllAbsent (observedContinuities observations))) changes observedAfter)
      (committed : after = { observedAfter with
        revision := Checked.saturatingAdd observedAfter.revision 1 }) :
      Runs before files (.applyObservations observations) after
        ⟨some after.bytes, some after.bytes, none⟩
  /-- Only the revision advances. -/
  | advanced (after : IdentityRegistry CounterSourceIdAllocator)
      (committed : after = { before with
        revision := Checked.saturatingAdd before.revision 1 }) :
      Runs before files .advanceRevision after ⟨some after.bytes, some after.bytes, none⟩
  /-- The namespace is a blank one. -/
  | reset («namespace» : RegistryNamespace)
      (after : IdentityRegistry CounterSourceIdAllocator)
      (committed : after = { before with
        «namespace»
        revision := Checked.saturatingAdd before.revision 1
        nextSourceSequence := 0
        entries := .empty }) :
      Runs before files (.resetNamespace «namespace») after
        ⟨some after.bytes, some after.bytes, none⟩

/-- What an operation that succeeds does. -/
theorem RegistryOperation.Runs.of_run {operation : RegistryOperation}
    {before after : IdentityRegistry CounterSourceIdAllocator} {files files' : RegistryFiles}
    {fault : Option Interruption}
    (h : operation.run before files fault = (.ok (), after, files')) :
    operation.Runs before files after files' := by
  cases operation with
  | applyObservations observations =>
    unfold RegistryOperation.run at h
    dsimp only at h
    rcases happly : before.applyObservations observations files fault with
      ⟨outcome, result, written⟩
    rw [happly] at h
    cases outcome with
    | error error => cases h
    | ok snapshot =>
      cases h
      obtain ⟨changes, observedAfter, hall, -, ⟨rfl, rfl, rfl⟩ | ⟨hafter, rfl⟩⟩ :=
        IdentityRegistry.applyObservations_eq_ok happly
      · exact .unchanged observations changes hall
      · exact .observed observations changes observedAfter _ hall hafter
  | advanceRevision =>
    unfold RegistryOperation.run IdentityRegistry.advanceRevision at h
    dsimp only at h
    rcases hcommit : before.commit files fault with ⟨outcome, result, written⟩
    rw [hcommit] at h
    cases outcome with
    | error error => cases h
    | ok snapshot =>
      cases h
      obtain ⟨hafter, rfl, -⟩ := IdentityRegistry.commit_eq_ok hcommit
      exact .advanced _ hafter
  | resetNamespace «namespace» =>
    unfold RegistryOperation.run IdentityRegistry.resetNamespace at h
    dsimp only at h
    rcases hcommit : (IdentityRegistry.mk ⟨«namespace», before.revision, 0, .empty⟩
      before.allocator).commit files fault with ⟨outcome, result, written⟩
    rw [hcommit] at h
    cases outcome with
    | error error => cases h
    | ok snapshot =>
      cases h
      obtain ⟨hafter, rfl, -⟩ := IdentityRegistry.commit_eq_ok hcommit
      exact .reset «namespace» _ hafter

/-- A registry in memory, and its files. -/
structure RegistryMachine where
  /-- The registry. -/
  registry : IdentityRegistry CounterSourceIdAllocator
  /-- Its files. -/
  files : RegistryFiles

/-- What happens to a registry: its operations, and that it is dropped and opened again. -/
inductive RegistryCall
  | operation (operation : RegistryOperation) (fault : Option Interruption)
  | reopen («namespace» : RegistryNamespace) (fault : Option Interruption)

/-- A call keeps the namespace. -/
def RegistryCall.KeepsNamespace : RegistryCall → Prop
  | operation (.resetNamespace _) _ => False
  | _ => True

namespace RegistryMachine

/-- `new` on the files of a directory, where it succeeds. -/
def new (files : RegistryFiles) («namespace» : RegistryNamespace)
    (fault : Option Interruption) : Option RegistryMachine :=
  match IdentityRegistry.withAllocator files «namespace» fault CounterSourceIdAllocator.mk with
  | (.ok registry, files) => some ⟨registry, files⟩
  | (.error _, _) => none

/-- The registry after a call that succeeds. -/
def call (self : RegistryMachine) : RegistryCall → Option RegistryMachine
  | .operation operation fault =>
    match operation.run self.registry self.files fault with
    | (.ok (), registry, files) => some ⟨registry, files⟩
    | (.error _, _, _) => none
  | .reopen «namespace» fault => new self.files «namespace» fault

/-- The registry after calls that succeed. -/
def calls (self : RegistryMachine) (cs : List RegistryCall) : Option RegistryMachine :=
  cs.foldlM call self

/-- The identifiers that a call allocates. -/
def issues (self : RegistryMachine) : RegistryCall → List SourceId
  | .operation (.applyObservations observations) _ =>
    let observed := observedContinuities observations
    IdentityRegistry.issuesAll observed observations (self.registry.markAllAbsent observed)
  | _ => []

/-- The identifiers that a list of calls allocates. -/
def issuesAll (self : RegistryMachine) : List RegistryCall → List SourceId
  | [] => []
  | c :: cs =>
    self.issues c ++
      match self.call c with
      | some m => m.issuesAll cs
      | none => []

/-- The invariant of a registry and its files. -/
structure Sound (m : RegistryMachine) : Prop where
  /-- The sequence covers the identifiers. -/
  covers : Covers m.registry.toRegistryContents
  /-- Evidence is that of one source that is not retired. -/
  oneEach : OneEach m.registry.entries
  /-- The files hold the registry. -/
  holds : Holds m.files m.registry.toRegistryContents

variable {m m' : RegistryMachine}

/-- An opened registry is sound. -/
theorem new_sound (h : new files «namespace» fault = some m) : m.Sound := by
  unfold new IdentityRegistry.withAllocator at h
  cases hopened : opened files with
  | some image =>
    rw [loadOrInit_of_opened hopened] at h
    rcases Result.ok_or_error (fromPersisted image) with ⟨contents, hcontents⟩ | ⟨error, herror⟩
    · rw [hcontents] at h
      cases h
      refine ⟨covers_of_fromPersisted hcontents, ?_, image, hopened, ?_⟩
      · obtain ⟨index, hindexed⟩ := indexed_of_fromPersisted hcontents
        exact fun entry hentry other hother _ _ => hindexed.distinct entry hentry other hother
      · intro contents' hcontents'
        exact Except.ok.inj (hcontents'.symm.trans hcontents)
    · rw [herror] at h
      cases h
  | none =>
    rw [loadOrInit_of_not_opened hopened] at h
    rcases hpersist : persist (blank «namespace») files fault with ⟨outcome, written⟩
    rw [hpersist] at h
    cases outcome with
    | error error => cases h
    | ok =>
      cases h
      cases persist_eq_ok hpersist
      exact ⟨covers_blank, fun _ h => absurd h List.not_mem_nil, holds_written covers_blank⟩

/-- A registry that is opened again is the same. -/
theorem new_of_holds (h : m.Sound) (hnew : new m.files «namespace» fault = some m') : m' = m := by
  obtain ⟨image, hopened, hsame⟩ := h.holds
  unfold new IdentityRegistry.withAllocator at hnew
  rw [loadOrInit_of_opened hopened] at hnew
  rcases Result.ok_or_error (fromPersisted image) with ⟨contents, hcontents⟩ | ⟨error, herror⟩
  · rw [hcontents] at hnew
    cases hnew
    cases hsame contents hcontents
    rfl
  · rw [herror] at hnew
    cases hnew

/-- An operation within the namespace preserves it. -/
theorem call_sound (h : m.Sound) {c : RegistryCall} (hkeeps : c.KeepsNamespace)
    (hcall : m.call c = some m') :
    m'.Sound ∧ Preserves m.registry.toRegistryContents m'.registry.toRegistryContents
      (m.issues c) := by
  cases c with
  | reopen «namespace» fault =>
    -- The files hold the registry, so it is read back as it is.
    cases new_of_holds h hcall
    exact ⟨h, .refl _⟩
  | operation operation fault =>
    unfold call at hcall
    dsimp only at hcall
    split at hcall
    next registry files hrun =>
      cases hcall
      cases RegistryOperation.Runs.of_run hrun with
      | reset «namespace» after committed => cases hkeeps
      | advanced after committed =>
        subst committed
        exact ⟨⟨h.covers, h.oneEach, holds_written h.covers⟩,
          .of_kept rfl (UInt64.le_refl _) (.refl _)⟩
      | unchanged observations changes all =>
        exact ⟨h, (all.preserves_marked h.covers h.oneEach).1⟩
      | observed observations changes observedAfter after all committed =>
        subst committed
        obtain ⟨hpreserves, hcovers, hone⟩ := all.preserves_marked h.covers h.oneEach
        exact ⟨⟨hcovers, hone, holds_written hcovers⟩, hpreserves.withRevision _⟩
    next => cases hcall

/-- Calls within the namespace preserve it. -/
theorem calls_sound (h : m.Sound) {cs : List RegistryCall}
    (hkeeps : ∀ c ∈ cs, c.KeepsNamespace) (hcalls : m.calls cs = some m') :
    m'.Sound ∧ Preserves m.registry.toRegistryContents m'.registry.toRegistryContents
      (m.issuesAll cs) := by
  induction cs generalizing m with
  | nil =>
    cases hcalls
    exact ⟨h, .refl _⟩
  | cons c cs ih =>
    obtain ⟨hc, hcs⟩ := List.forall_mem_cons.mp hkeeps
    obtain ⟨middle, hcall, hrest⟩ := Option.bind_eq_some_iff.mp hcalls
    obtain ⟨hsound, hfirst⟩ := call_sound h hc hcall
    obtain ⟨hsound, hrest⟩ := ih hsound hcs hrest
    unfold issuesAll
    rw [hcall]
    exact ⟨hsound, hfirst.trans hrest⟩

/-- A source is permanent within its namespace. After any calls on a registry that was opened from
any files, and any further ones, all of which succeed and none of which resets the namespace: each
source is still there with its evidence, and with its reason if it was retired; so is each
identifier that was allocated, and no identifier was allocated twice or was there before; and no two
sources that are not retired have the same evidence. -/
theorem sources_permanent {m₀ m₁ m₂ : RegistryMachine} {before after : List RegistryCall}
    (hnew : new files «namespace» fault = some m₀)
    (hkeeps : ∀ c ∈ before ++ after, c.KeepsNamespace)
    (hbefore : m₀.calls before = some m₁) (hafter : m₁.calls after = some m₂) :
    (∀ entry ∈ m₁.registry.entries.values, ∃ entry' ∈ m₂.registry.entries.values,
      entry'.id = entry.id ∧ entry'.continuity = entry.continuity ∧
        ∀ reason, entry.state = .retired reason → entry'.state = .retired reason) ∧
      (∀ id ∈ m₀.issuesAll before ++ m₁.issuesAll after,
        m₂.registry.entries.contains id.asStr = true) ∧
      (m₀.registry.entries.values.map SourceRecord.key ++
        (m₀.issuesAll before ++ m₁.issuesAll after).map SourceId.asStr).Nodup ∧
      OneEach m₂.registry.entries := by
  obtain ⟨hsound, hfirst⟩ := calls_sound (new_sound hnew)
    (fun c hc => hkeeps c (List.mem_append_left after hc)) hbefore
  obtain ⟨hsound, hsecond⟩ := calls_sound hsound
    (fun c hc => hkeeps c (List.mem_append_right before hc)) hafter
  have hboth := hfirst.trans hsecond
  refine ⟨?_, hboth.added, ?_, hsound.oneEach⟩
  · intro entry hentry
    obtain ⟨entry', hentry', hevolves⟩ := hsecond.kept entry hentry
    exact ⟨entry', hentry', hevolves.id, hevolves.continuity, hevolves.retired⟩
  · have hkeys : (m₀.registry.entries.values.map SourceRecord.key).Nodup :=
      List.pairwise_map.mpr (m₀.registry.entries.sorted.imp ne_of_lt)
    refine List.nodup_append.mpr ⟨hkeys, hboth.nodup, ?_⟩
    intro a ha b hb heq
    obtain ⟨entry, hentry, rfl⟩ := List.mem_map.mp ha
    obtain ⟨id, hid, rfl⟩ := List.mem_map.mp hb
    exact KeyedMap.contains_eq_false.mp (hboth.fresh id hid) entry hentry heq

/-- A source is discovered, the registry is opened again, and the source's key is reused. -/
theorem sources_permanent_example : ∃ m₀ m₁ m₂ : RegistryMachine,
    new .none (generateNamespace 1 2) none = some m₀ ∧
      m₀.calls [.operation (.applyObservations [⟨"Speakers", .stable ⟨"key", "first"⟩⟩]) none,
        .reopen (generateNamespace 1 3) none] = some m₁ ∧
      m₁.calls [.operation (.applyObservations [⟨"Speakers", .stable ⟨"key", "second"⟩⟩]) none,
        .operation .advanceRevision none] = some m₂ ∧
      OneEach m₂.registry.entries := by
  have hruns : (((new .none (generateNamespace 1 2) none).bind (·.calls
      [.operation (.applyObservations [⟨"Speakers", .stable ⟨"key", "first"⟩⟩]) none,
        .reopen (generateNamespace 1 3) none])).bind (·.calls
      [.operation (.applyObservations [⟨"Speakers", .stable ⟨"key", "second"⟩⟩]) none,
        .operation .advanceRevision none])).isSome = true := by decide +kernel
  obtain ⟨m₂, hafter⟩ := Option.isSome_iff_exists.mp hruns
  obtain ⟨m₁, hbefore, hafter⟩ := Option.bind_eq_some_iff.mp hafter
  obtain ⟨m₀, hnew, hbefore⟩ := Option.bind_eq_some_iff.mp hbefore
  refine ⟨m₀, m₁, m₂, hnew, hbefore, hafter,
    (sources_permanent hnew ?_ hbefore hafter).2.2.2⟩
  intro c hc
  simp only [List.cons_append, List.nil_append, List.mem_cons, List.not_mem_nil, or_false] at hc
  rcases hc with rfl | rfl | rfl | rfl <;> trivial

end RegistryMachine

end ResonanceSignal
