import ResonanceSignal.Agent.RegistryCrash

/-!
# Falling back to the backup

`load_or_init` decides by `load_registry` which of its two files to read, and `from_persisted` then
rejects an image that `load_registry` accepts. What `from_persisted` accepts is said of the image
alone (`ValidImage`), and with it where the registry is the one of the first file that passes both
(`fallsBack_iff`): where the file that `load_or_init` picks has a valid image, or no file is read.
-/

namespace ResonanceSignal

/-! ## The images that are accepted -/

/-- A source of a file that `from_persisted` accepts by itself. -/
structure PersistedSourceRecord.Valid (self : PersistedSourceRecord) : Prop where
  /-- Its identifier is not blank. -/
  named : Text.isBlank self.sourceId = false
  /-- Its evidence has a key and a token. -/
  evident : self.continuity.Valid
  /-- A reason is known for a retired source. -/
  explained : self.state = .retired → self.retiredReason ≠ none

/-- An image that `from_persisted` accepts. -/
structure ValidImage (image : PersistedRegistry) : Prop where
  /-- The version of the format is one that is read. -/
  schema : image.schemaVersion ≠ 0 ∧ image.schemaVersion ≤ currentSchemaVersion
  /-- The version of the evidence is one that is read. -/
  evidenceSchema : image.evidenceSchemaVersion ≠ 0 ∧
    image.evidenceSchemaVersion ≤ currentEvidenceSchemaVersion
  /-- Each source is accepted. -/
  valid : ∀ source ∈ image.entries, source.Valid
  /-- No two have the same identifier. -/
  identified : (image.entries.map PersistedSourceRecord.sourceId).Nodup
  /-- No two have the same evidence. -/
  distinct : (image.entries.map PersistedSourceRecord.continuity).Nodup

/-- The versions of an image decide whether it is read at all. -/
theorem PersistedRegistry.intoCurrentSchema_eq_ok {image current : PersistedRegistry} :
    image.intoCurrentSchema = .ok current ↔
      (image.schemaVersion ≠ 0 ∧ image.schemaVersion ≤ currentSchemaVersion) ∧
      (image.evidenceSchemaVersion ≠ 0 ∧
        image.evidenceSchemaVersion ≤ currentEvidenceSchemaVersion) ∧
      current = { image with
        schemaVersion := currentSchemaVersion
        evidenceSchemaVersion := currentEvidenceSchemaVersion } := by
  unfold intoCurrentSchema
  -- The checks in their order: a version of zero, a newer schema, newer evidence.
  by_cases hzero : image.schemaVersion = 0 ∨ image.evidenceSchemaVersion = 0
  · rw [if_pos hzero]
    constructor
    · nofun
    · rintro ⟨⟨hschema, -⟩, ⟨hevidence, -⟩, -⟩
      exact absurd hzero (not_or.mpr ⟨hschema, hevidence⟩)
  rw [if_neg hzero]
  obtain ⟨hschema, hevidence⟩ := not_or.mp hzero
  by_cases hnewer : image.schemaVersion > currentSchemaVersion
  · rw [if_pos hnewer]
    constructor
    · nofun
    · rintro ⟨⟨-, hle⟩, -, -⟩
      exact absurd hnewer (UInt32.not_lt.mpr hle)
  rw [if_neg hnewer]
  by_cases hnewerEvidence : image.evidenceSchemaVersion > currentEvidenceSchemaVersion
  · rw [if_pos hnewerEvidence]
    constructor
    · nofun
    · rintro ⟨-, ⟨-, hle⟩, -⟩
      exact absurd hnewerEvidence (UInt32.not_lt.mpr hle)
  rw [if_neg hnewerEvidence]
  constructor
  · intro h
    exact ⟨⟨hschema, UInt32.not_lt.mp hnewer⟩, ⟨hevidence, UInt32.not_lt.mp hnewerEvidence⟩,
      (Except.ok.inj h).symm⟩
  · rintro ⟨-, -, rfl⟩
    rfl

/-- The state of a source is known unless it was retired for no known reason. -/
theorem PersistedSourceRecord.sourceState_isOk {source : PersistedSourceRecord} :
    (∃ state, source.sourceState = .ok state) ↔
      (source.state = .retired → source.retiredReason ≠ none) := by
  obtain ⟨sourceId, continuity, displayName, state, retiredReason⟩ := source
  cases state with
  | live => exact ⟨fun _ => nofun, fun _ => ⟨.live, rfl⟩⟩
  | absent => exact ⟨fun _ => nofun, fun _ => ⟨.absent, rfl⟩⟩
  | retired =>
    cases retiredReason with
    | none =>
      constructor
      · rintro ⟨state, hstate⟩
        cases hstate
      · intro h
        exact absurd rfl (h rfl)
    | some reason => exact ⟨fun _ _ => by simp, fun _ => ⟨.retired reason, rfl⟩⟩

/-- A source of a file is inserted where it is accepted, and its identifier and evidence are new. -/
theorem insertPersisted_eq_ok {loaded loaded' : LoadedEntries} {source : PersistedSourceRecord} :
    insertPersisted loaded source = .ok loaded' ↔
      ∃ hnamed : Text.isBlank source.sourceId = false, loaded.1.contains source.sourceId = false ∧
        source.continuity.Valid ∧ source.continuity ∉ loaded.2 ∧
        ∃ state, source.sourceState = .ok state ∧
          loaded' = (loaded.1.insert ⟨⟨source.sourceId, hnamed⟩, source.continuity,
            source.displayName, state⟩, source.continuity :: loaded.2) := by
  constructor
  · intro h
    obtain ⟨sourceId, hid, h⟩ := Result.bind_eq_ok.mp h
    obtain ⟨_, hcontains, h⟩ := Result.bind_eq_ok.mp h
    obtain ⟨_, hvalid, h⟩ := Result.bind_eq_ok.mp h
    obtain ⟨_, hindex, h⟩ := Result.bind_eq_ok.mp h
    obtain ⟨state, hstate, h⟩ := Result.bind_eq_ok.mp h
    have hid := Result.mapError_eq_ok.mp hid
    unfold SourceId.new at hid
    -- Only a blank identifier fails to become a `SourceId`.
    by_cases hnamed : Text.isBlank source.sourceId = false
    · rw [dif_pos hnamed] at hid
      cases hid
      exact ⟨hnamed, Bool.eq_false_iff.mpr (failIf_eq_ok.mp hcontains),
        not_or.mp (failIf_eq_ok.mp hvalid), failIf_eq_ok.mp hindex, state, hstate,
        (Except.ok.inj h).symm⟩
    · rw [dif_neg hnamed] at hid
      cases hid
  · rintro ⟨hnamed, hcontains, hvalid, hindex, state, hstate, rfl⟩
    have hid : SourceId.new source.sourceId = .ok ⟨source.sourceId, hnamed⟩ := dif_pos hnamed
    exact Result.bind_eq_ok.mpr ⟨_, Result.mapError_eq_ok.mpr hid,
      Result.bind_eq_ok.mpr ⟨(), failIf_eq_ok.mpr (Bool.eq_false_iff.mp hcontains),
      Result.bind_eq_ok.mpr ⟨(), failIf_eq_ok.mpr (not_or.mpr hvalid),
      Result.bind_eq_ok.mpr ⟨(), failIf_eq_ok.mpr hindex,
      Result.bind_eq_ok.mpr ⟨state, hstate, rfl⟩⟩⟩⟩⟩

/-- Sources that are inserted one after another into the entries that are there. -/
structure Insertable (loaded : LoadedEntries) (sources : List PersistedSourceRecord) : Prop where
  /-- Each source is accepted. -/
  valid : ∀ source ∈ sources, source.Valid
  /-- No two have the same identifier. -/
  identified : (sources.map PersistedSourceRecord.sourceId).Nodup
  /-- None has the identifier of an entry. -/
  newIdentifier : ∀ source ∈ sources, loaded.1.contains source.sourceId = false
  /-- No two have the same evidence. -/
  distinct : (sources.map PersistedSourceRecord.continuity).Nodup
  /-- None has evidence that is known. -/
  newEvidence : ∀ source ∈ sources, source.continuity ∉ loaded.2

/-- The first of the sources is inserted, and the others after it. -/
theorem insertable_cons {loaded : LoadedEntries} {source : PersistedSourceRecord}
    {sources : List PersistedSourceRecord} :
    Insertable loaded (source :: sources) ↔
      ∃ loaded', insertPersisted loaded source = .ok loaded' ∧ Insertable loaded' sources := by
  constructor
  · rintro ⟨hvalid, hidentified, hidentifier, hdistinct, hevidence⟩
    obtain ⟨⟨hnamed, hevident, hexplained⟩, hvalid⟩ := List.forall_mem_cons.mp hvalid
    obtain ⟨hfirstId, hidentified⟩ := List.nodup_cons.mp hidentified
    obtain ⟨hnewId, hidentifier⟩ := List.forall_mem_cons.mp hidentifier
    obtain ⟨hfirstEvidence, hdistinct⟩ := List.nodup_cons.mp hdistinct
    obtain ⟨hnewEvidence, hevidence⟩ := List.forall_mem_cons.mp hevidence
    obtain ⟨state, hstate⟩ := PersistedSourceRecord.sourceState_isOk.mpr hexplained
    refine ⟨_, insertPersisted_eq_ok.mpr
      ⟨hnamed, hnewId, hevident, hnewEvidence, state, hstate, rfl⟩,
      hvalid, hidentified, ?_, hdistinct, ?_⟩
    · intro other hother
      refine KeyedMap.contains_eq_false.mpr fun entry hentry hsame => ?_
      rcases KeyedMap.mem_insert.mp hentry with rfl | ⟨hentry, -⟩
      -- the entry that was inserted has the identifier of the first source
      · have hsame : source.sourceId = other.sourceId := hsame
        exact hfirstId (hsame ▸ List.mem_map_of_mem hother)
      · exact KeyedMap.contains_eq_false.mp (hidentifier other hother) entry hentry hsame
    · intro other hother hmem
      rcases List.mem_cons.mp hmem with hsame | hmem
      · exact hfirstEvidence (hsame ▸ List.mem_map_of_mem hother)
      · exact hevidence other hother hmem
  · rintro ⟨loaded', hinsert, hvalid, hidentified, hidentifier, hdistinct, hevidence⟩
    obtain ⟨hnamed, hnewId, hevident, hnewEvidence, state, hstate, rfl⟩ :=
      insertPersisted_eq_ok.mp hinsert
    have hexplained := PersistedSourceRecord.sourceState_isOk.mp ⟨state, hstate⟩
    have hothers : ∀ other ∈ sources, source.sourceId ≠ other.sourceId ∧
        loaded.1.contains other.sourceId = false := by
      intro other hother
      have hcontains := KeyedMap.contains_eq_false.mp (hidentifier other hother)
      have hfirst : source.sourceId ≠ other.sourceId :=
        hcontains _ (KeyedMap.mem_insert.mpr (.inl rfl))
      refine ⟨hfirst, KeyedMap.contains_eq_false.mpr fun entry hentry hsame => ?_⟩
      -- an entry stays unless it has the identifier of the first source
      refine hcontains entry (KeyedMap.mem_insert.mpr (.inr ⟨hentry, fun hkey => ?_⟩)) hsame
      exact hfirst (hkey.symm.trans hsame)
    refine ⟨List.forall_mem_cons.mpr ⟨⟨hnamed, hevident, hexplained⟩, hvalid⟩,
      List.nodup_cons.mpr ⟨?_, hidentified⟩,
      List.forall_mem_cons.mpr ⟨hnewId, fun other hother => (hothers other hother).2⟩,
      List.nodup_cons.mpr ⟨?_, hdistinct⟩,
      List.forall_mem_cons.mpr ⟨hnewEvidence, fun other hother hmem =>
        hevidence other hother (List.mem_cons_of_mem _ hmem)⟩⟩
    · intro hmem
      obtain ⟨other, hother, hsame⟩ := List.mem_map.mp hmem
      exact (hothers other hother).1 hsame.symm
    · intro hmem
      obtain ⟨other, hother, hsame⟩ := List.mem_map.mp hmem
      exact hevidence other hother (hsame ▸ List.mem_cons_self)

/-- The loop of `from_persisted` comes to its end exactly where the sources are insertable. -/
theorem foldlM_insertPersisted_isOk {sources : List PersistedSourceRecord}
    {loaded : LoadedEntries} :
    (∃ loaded', sources.foldlM insertPersisted loaded = .ok loaded') ↔
      Insertable loaded sources := by
  induction sources generalizing loaded with
  | nil => exact ⟨fun _ => ⟨nofun, .nil, nofun, .nil, nofun⟩, fun _ => ⟨loaded, rfl⟩⟩
  | cons source sources ih =>
    rw [insertable_cons, List.foldlM_cons]
    constructor
    · rintro ⟨last, h⟩
      obtain ⟨loaded', hfirst, hrest⟩ := Result.bind_eq_ok.mp h
      exact ⟨loaded', hfirst, ih.mp ⟨last, hrest⟩⟩
    · rintro ⟨loaded', hfirst, hrest⟩
      obtain ⟨last, hlast⟩ := ih.mpr hrest
      exact ⟨last, Result.bind_eq_ok.mpr ⟨loaded', hfirst, hlast⟩⟩

/-- `from_persisted` accepts the valid images, and no other. -/
theorem fromPersisted_isOk {image : PersistedRegistry} :
    (∃ contents, fromPersisted image = .ok contents) ↔ ValidImage image := by
  constructor
  · rintro ⟨contents, h⟩
    obtain ⟨current, hcurrent, h⟩ := Result.bind_eq_ok.mp h
    obtain ⟨loaded, hloaded, -⟩ := Result.bind_eq_ok.mp h
    obtain ⟨hschema, hevidence, rfl⟩ := PersistedRegistry.intoCurrentSchema_eq_ok.mp hcurrent
    have hsources := foldlM_insertPersisted_isOk.mp ⟨loaded, hloaded⟩
    exact ⟨hschema, hevidence, hsources.valid, hsources.identified, hsources.distinct⟩
  · rintro ⟨hschema, hevidence, hvalid, hidentified, hdistinct⟩
    have hcurrent := PersistedRegistry.intoCurrentSchema_eq_ok.mpr ⟨hschema, hevidence, rfl⟩
    obtain ⟨loaded, hloaded⟩ := foldlM_insertPersisted_isOk.mpr
      (⟨hvalid, hidentified, fun _ _ => rfl, hdistinct, fun _ _ => List.not_mem_nil⟩ :
        Insertable (KeyedMap.empty, []) image.entries)
    exact ⟨_, Result.bind_eq_ok.mpr ⟨_, hcurrent, Result.bind_eq_ok.mpr ⟨loaded, hloaded, rfl⟩⟩⟩

/-! ## The file that is opened -/

/-- The registry of a file that passes both `load_registry` and `from_persisted`. -/
def accepted (file : Option (List UInt8)) : Option RegistryContents :=
  (loadRegistry file >>= fromPersisted).toOption

variable {files : RegistryFiles} {«namespace» : RegistryNamespace}

/-- The registry is the one of the current file where that passes, otherwise that of the backup, and
otherwise a blank one. -/
def FallsBack (files : RegistryFiles) («namespace» : RegistryNamespace) : Prop :=
  (loadOrInit files «namespace» none).1
    = .ok (((accepted files.current).or (accepted files.backup)).getD (blank «namespace»))

instance (files : RegistryFiles) («namespace» : RegistryNamespace) :
    Decidable (FallsBack files «namespace») :=
  inferInstanceAs (Decidable (_ = _))

/-- A file that `load_registry` reads. -/
def Readable (file : Option (List UInt8)) : Prop := ∃ image, loadRegistry file = .ok image

/-- A file holds no image that `load_registry` reads and `from_persisted` rejects. -/
def Sound (file : Option (List UInt8)) : Prop :=
  ∀ image, loadRegistry file = .ok image → ValidImage image

/-- A file with an image that is read is sound where the image is valid. -/
theorem sound_of_ok {file : Option (List UInt8)} {image : PersistedRegistry}
    (h : loadRegistry file = .ok image) : Sound file ↔ ValidImage image := by
  unfold Sound
  rw [h]
  exact ⟨fun hall => hall image rfl, fun hvalid other hsame => Except.ok.inj hsame ▸ hvalid⟩

/-- A file of which no image is read is sound. -/
theorem sound_of_error {file : Option (List UInt8)} {raised : RegistryError}
    (h : loadRegistry file = .error raised) : Sound file := by
  intro image himage
  cases h.symm.trans himage

/-- What is accepted of a file that is read is what opening its image gives. -/
theorem accepted_of_ok {file : Option (List UInt8)} {image : PersistedRegistry}
    (h : loadRegistry file = .ok image) : accepted file = (fromPersisted image).toOption := by
  unfold accepted
  rw [h]
  rfl

/-- Nothing is accepted of a file that is not read. -/
theorem accepted_of_error {file : Option (List UInt8)} {raised : RegistryError}
    (h : loadRegistry file = .error raised) : accepted file = none := by
  unfold accepted
  rw [h]
  rfl

/-- Opening an image gives the registry that is accepted of it exactly where it is valid: nothing
else takes the place of an image that is rejected. -/
theorem fromPersisted_eq_getD {image : PersistedRegistry} {other : RegistryContents} :
    fromPersisted image = .ok ((fromPersisted image).toOption.getD other) ↔ ValidImage image := by
  rw [← fromPersisted_isOk]
  constructor
  · exact fun h => ⟨_, h⟩
  · rintro ⟨contents, h⟩
    rw [h]
    rfl

/-- The registry is that of the first file that passes exactly where the file that `load_or_init`
picks is sound: the current one, and the backup where the current one is not readable. -/
theorem fallsBack_iff : FallsBack files «namespace» ↔
    Sound files.current ∧ (¬Readable files.current → Sound files.backup) := by
  unfold FallsBack loadOrInit
  cases hcurrent : loadRegistry files.current with
  | ok image =>
    -- the backup is not looked at, whatever `from_persisted` says of the current file
    have hreadable : Readable files.current := ⟨image, hcurrent⟩
    show fromPersisted image = _ ↔ _
    rw [accepted_of_ok hcurrent, Option.getD_or, fromPersisted_eq_getD, sound_of_ok hcurrent]
    exact ⟨fun h => ⟨h, fun hnot => absurd hreadable hnot⟩, And.left⟩
  | error raised =>
    have hunreadable : ¬Readable files.current := by
      rintro ⟨image, himage⟩
      cases hcurrent.symm.trans himage
    have hcurrentSound : Sound files.current := sound_of_error hcurrent
    rw [accepted_of_error hcurrent, Option.none_or]
    cases hbackup : loadRegistry files.backup with
    | ok image =>
      show fromPersisted image = _ ↔ _
      rw [accepted_of_ok hbackup, fromPersisted_eq_getD, sound_of_ok hbackup]
      exact ⟨fun h => ⟨hcurrentSound, fun _ => h⟩, fun h => h.2 hunreadable⟩
    | error other =>
      rw [accepted_of_error hbackup]
      exact ⟨fun _ => ⟨hcurrentSound, fun _ => sound_of_error hbackup⟩, fun _ => rfl⟩

/-- A file does not declare a version that is newer than what is read. -/
def NotNewer (file : Option (List UInt8)) : Prop :=
  ∀ image, loadRegistry file = .ok image → image.schemaVersion ≤ currentSchemaVersion ∧
    image.evidenceSchemaVersion ≤ currentEvidenceSchemaVersion

/-- The bytes of a text. -/
def textBytes (text : String) : Option (List UInt8) := some (Text.bytes text)

/-- An image with a source that has no token. -/
def tokenless : String :=
  "version|1\nevidence|1\nnamespace|ns\nrevision|2\nnext_sequence|1\nentries|1\n" ++
    "source|live|id-1|key||Speakers|\n"

/-- The image of the text. -/
def tokenlessImage : PersistedRegistry where
  schemaVersion := 1
  evidenceSchemaVersion := 1
  «namespace» := ⟨"ns", by decide⟩
  revision := 2
  nextSourceSequence := 1
  entries := [⟨"id-1", ⟨"key", ""⟩, "Speakers", .live, none⟩]

/-- The current file holds an image with a source that has no token, and the backup a registry. The
registry does not open. -/
theorem invalid_current_hides_backup :
    ¬∀ (files : RegistryFiles) («namespace» : RegistryNamespace), NotNewer files.current →
      NotNewer files.backup → FallsBack files «namespace» := by
  intro h
  let files : RegistryFiles := ⟨textBytes tokenless, some (savedSpeakers 2).bytes, none⟩
  have hread : loadRegistry files.current = .ok tokenlessImage := by decide +kernel
  have hcurrent : NotNewer files.current := by
    intro image himage
    cases hread.symm.trans himage
    exact ⟨by decide, by decide⟩
  have hbackup : NotNewer files.backup := by
    intro image himage
    cases (loadRegistry_bytes (savedSpeakers 2)).symm.trans himage
    exact ⟨by decide, by decide⟩
  have hresult : (loadOrInit files (generateNamespace 5 6) none).1 = .error .corruptRegistry := by
    decide +kernel
  have hfalls := h files (generateNamespace 5 6) hcurrent hbackup
  cases hresult.symm.trans hfalls

end ResonanceSignal
