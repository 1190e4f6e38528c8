import ResonanceSignal.Agent.RegistryImage
import Mathlib.Data.List.Dedup
import Mathlib.Data.List.Sort

/-!
# The identity registry

`IdentityRegistry` of `identity.rs`: the operations on the sources that it knows, with an allocator
of identifiers that is generic as in the source, and the files it is kept in.

The file system is the three files of the registry's directory. `persist` is a sequence of steps on
them (`persistSteps`), which is cut short by an error of the system or by a crash (`Interruption`);
what is written then is a prefix. Other files, the directory, and its synchronisation, whose errors
the source ignores, are left out. The namespace that the source takes from the process and the clock
is an argument.
-/

namespace ResonanceSignal

/-! ## Files -/

/-- The files of a registry, and their bytes. -/
structure RegistryFiles where
  /-- `source-identity-registry.json` -/
  current : Option (List UInt8)
  /-- The backup. -/
  backup : Option (List UInt8)
  /-- The candidate. -/
  candidate : Option (List UInt8)
deriving DecidableEq, Repr

/-- No files. -/
def RegistryFiles.none : RegistryFiles := ⟨.none, .none, .none⟩

/-- The steps of `persist` on the files. -/
inductive FileStep
  | createCandidate
  | writeCandidate
  | syncCandidate
  | removeBackup
  | copyBackup
  | removeCurrent
  | renameCandidate
  | syncCurrent
deriving DecidableEq, Repr

/-- What a step makes of the files, where it writes the bytes. -/
def FileStep.run (bytes : List UInt8) (files : RegistryFiles) : FileStep → RegistryFiles
  | createCandidate => { files with candidate := some [] }
  | writeCandidate => { files with candidate := some bytes }
  | syncCandidate => files
  | removeBackup => { files with backup := none }
  | copyBackup => { files with backup := files.candidate }
  | removeCurrent => { files with current := none }
  | renameCandidate => { files with current := files.candidate, candidate := none }
  | syncCurrent => files

/-- What a step leaves that stops when it has written so many bytes. -/
def FileStep.tear (bytes : List UInt8) (written : ℕ) (files : RegistryFiles) :
    FileStep → RegistryFiles
  | writeCandidate => { files with candidate := some (bytes.take written) }
  | copyBackup => { files with backup := files.candidate.map (List.take written) }
  | _ => files

/-- The steps of `persist`, from the files that are there. -/
def persistSteps (files : RegistryFiles) : List FileStep :=
  [.createCandidate, .writeCandidate, .syncCandidate] ++
    (if files.backup.isSome then [.removeBackup] else []) ++ [.copyBackup] ++
    (if files.current.isSome then [.removeCurrent] else []) ++ [.renameCandidate, .syncCurrent]

/-- Where a sequence of steps is cut short: after so many steps, or within the next one. -/
structure Interruption where
  /-- The steps that are done. -/
  completed : ℕ
  /-- How much the next one has written, if it was begun. -/
  written : Option ℕ
deriving DecidableEq, Repr

/-- What all steps of `persist` make of the files. -/
def persisted (bytes : List UInt8) (files : RegistryFiles) : RegistryFiles :=
  (persistSteps files).foldl (FileStep.run bytes) files

/-- What an interrupted `persist` leaves. -/
def interrupted (bytes : List UInt8) (files : RegistryFiles) (interruption : Interruption) :
    RegistryFiles :=
  let done := ((persistSteps files).take interruption.completed).foldl (FileStep.run bytes) files
  match (persistSteps files)[interruption.completed]?, interruption.written with
  | some step, some written => step.tear bytes written done
  | _, _ => done

/-- `persist`, with the error of a step. -/
def persist (contents : RegistryContents) (files : RegistryFiles) (fault : Option Interruption) :
    Except RegistryError Unit × RegistryFiles :=
  match fault with
  | none => (.ok (), persisted contents.bytes files)
  | some interruption =>
    if interruption.completed < (persistSteps files).length then
      (.error .io, interrupted contents.bytes files interruption)
    else (.ok (), persisted contents.bytes files)

/-! ## Identifiers -/

/-- An allocator of identifiers. -/
class SourceIdAllocator (A : Type) where
  /-- `next_source_id` -/
  nextSourceId : A → String → UInt64 → String × A

/-- The allocator that counts. -/
structure CounterSourceIdAllocator
deriving DecidableEq, Repr

/-- The identifier of the allocator that counts. -/
def counterSourceId («namespace» : String) (sequence : UInt64) : String :=
  String.ofList ("id-".toList ++ «namespace».toList ++ '-' :: Text.decimal sequence.toNat)

instance : SourceIdAllocator CounterSourceIdAllocator where
  nextSourceId self «namespace» sequence := (counterSourceId «namespace» sequence, self)

/-- `parse_sequence_from_id` -/
def parseSequenceFromId (id : String) : Option UInt64 := do
  let (_, sequence) ← Text.rsplitOnce '-' id.toList
  (Text.parseDecimal sequence).bind Checked.ofNat

/-- The text of `generate_namespace`. -/
def namespaceText (processId : UInt32) (nanos : ℕ) : String :=
  String.ofList ("ns-".toList ++ Text.decimal processId.toNat ++ '-' :: Text.decimal nanos)

/-- A generated namespace is not empty. -/
theorem namespaceText_ne_empty (processId : UInt32) (nanos : ℕ) :
    namespaceText processId nanos ≠ "" := by
  intro h
  have hlist := congrArg String.toList h
  unfold namespaceText at hlist
  rw [String.toList_ofList] at hlist
  simp at hlist

/-- `generate_namespace`, from the process and the time since the epoch. -/
def generateNamespace (processId : UInt32) (nanos : ℕ) : RegistryNamespace :=
  ⟨namespaceText processId nanos, namespaceText_ne_empty processId nanos⟩

/-! ## Observations -/

/-- The evidence of an observation. -/
inductive ObservedContinuity
  | stable (continuity : ContinuityEvidence)
  | ambiguous (candidates : List ContinuityEvidence)
  | unknown
deriving DecidableEq, Repr

/-- The evidence of a stable observation. -/
def ObservedContinuity.stable? : ObservedContinuity → Option ContinuityEvidence
  | stable continuity => some continuity
  | _ => none

/-- A source that the backend sees. -/
structure SourceObservation where
  /-- The name that is shown. -/
  displayName : String
  /-- The evidence. -/
  continuity : ObservedContinuity
deriving DecidableEq, Repr

/-- The stable evidence of a list of observations. -/
def observedContinuities (observations : List SourceObservation) : List ContinuityEvidence :=
  observations.filterMap fun observation => observation.continuity.stable?

/-- A source as the registry tells of it. -/
structure KnownSource where
  /-- Its identifier. -/
  sourceId : SourceId
  /-- The name that is shown. -/
  displayName : String
  /-- Whether it is there. -/
  isAvailable : Bool
deriving DecidableEq, Repr

/-- What became of a source. -/
inductive SourceResolution
  | live (sourceId : SourceId)
  | absent
  | retired
  | unknown
deriving DecidableEq, Repr

/-- The revision of a registry. -/
structure DiscoverySnapshot where
  /-- The namespace. -/
  «namespace» : RegistryNamespace
  /-- The revision. -/
  revision : UInt64
deriving DecidableEq, Repr

/-! ## The registry -/

/-- A registry, with its allocator. Its directory is an argument of the operations. -/
structure IdentityRegistry (A : Type) extends RegistryContents where
  /-- The allocator. -/
  allocator : A
deriving DecidableEq

/-- `into_current_schema` -/
def PersistedRegistry.intoCurrentSchema (self : PersistedRegistry) :
    Except RegistryError PersistedRegistry :=
  if self.schemaVersion = 0 ∨ self.evidenceSchemaVersion = 0 then .error .migrationFailed
  else if self.schemaVersion > currentSchemaVersion then
    .error (.unsupportedSchema currentSchemaVersion self.schemaVersion)
  else if self.evidenceSchemaVersion > currentEvidenceSchemaVersion then
    .error (.unsupportedSchema currentEvidenceSchemaVersion self.evidenceSchemaVersion)
  else
    .ok { self with
      schemaVersion := currentSchemaVersion
      evidenceSchemaVersion := currentEvidenceSchemaVersion }

/-- The state of a source of the file. -/
def PersistedSourceRecord.sourceState (self : PersistedSourceRecord) :
    Except RegistryError SourceState :=
  match self.state with
  | .live => .ok .live
  | .absent => .ok .absent
  | .retired => (okOr .corruptRegistry self.retiredReason).map .retired

/-- The entries and the evidence among them, while they are read. -/
abbrev LoadedEntries := KeyedMap SourceRecord.key × List ContinuityEvidence

/-- The loop of `from_persisted`, on one source. -/
def insertPersisted (loaded : LoadedEntries) (source : PersistedSourceRecord) :
    Except RegistryError LoadedEntries := do
  let (entries, continuityIndex) := loaded
  let sourceId ← (SourceId.new source.sourceId).mapError fun _ => .corruptRegistry
  failIf (entries.contains sourceId.asStr = true) .corruptRegistry
  failIf (source.continuity.backendKey = "" ∨ source.continuity.continuityToken = "")
    .corruptRegistry
  failIf (source.continuity ∈ continuityIndex) .corruptRegistry
  let state ← source.sourceState
  return (entries.insert ⟨sourceId, source.continuity, source.displayName, state⟩,
    source.continuity :: continuityIndex)

/-- The larger one of a sequence and the one of an identifier. -/
def raiseSequence (sequence : UInt64) (entry : SourceRecord) : UInt64 :=
  match parseSequenceFromId entry.id.asStr with
  | some parsed => if parsed > sequence then parsed else sequence
  | none => sequence

/-- `from_persisted`, without the allocator. -/
def fromPersisted (image : PersistedRegistry) : Except RegistryError RegistryContents := do
  let image ← image.intoCurrentSchema
  let (entries, _) ← image.entries.foldlM insertPersisted (KeyedMap.empty, [])
  return {
    «namespace» := image.namespace
    revision := image.revision
    nextSourceSequence := entries.values.foldl raiseSequence image.nextSourceSequence
    entries }

/-- The contents of `new_blank`. -/
def blank («namespace» : RegistryNamespace) : RegistryContents := ⟨«namespace», 1, 0, .empty⟩

/-- `load_or_init`, without the allocator. -/
def loadOrInit (files : RegistryFiles) («namespace» : RegistryNamespace)
    (fault : Option Interruption) : Except RegistryError RegistryContents × RegistryFiles :=
  match loadRegistry files.current with
  | .ok image => (fromPersisted image, files)
  | .error _ =>
    match loadRegistry files.backup with
    | .ok image => (fromPersisted image, files)
    | .error _ =>
      let (outcome, files) := persist (blank «namespace») files fault
      (outcome.map fun () => blank «namespace», files)

namespace IdentityRegistry

variable {A : Type} [SourceIdAllocator A]

/-- `with_allocator` -/
def withAllocator (files : RegistryFiles) («namespace» : RegistryNamespace)
    (fault : Option Interruption) (allocator : A) :
    Except RegistryError (IdentityRegistry A) × RegistryFiles :=
  let (outcome, files) := loadOrInit files «namespace» fault
  (outcome.map (⟨·, allocator⟩), files)

/-- `snapshot` -/
def snapshot (self : IdentityRegistry A) : DiscoverySnapshot := ⟨self.namespace, self.revision⟩

/-- `validate_snapshot` -/
def validateSnapshot (self : IdentityRegistry A) (snapshot : DiscoverySnapshot) :
    Except RegistryError Unit :=
  failIf (snapshot.namespace ≠ self.namespace ∨ snapshot.revision ≠ self.revision)
    (.snapshotStale self.revision snapshot.revision)

/-- The entry of some evidence that is not retired. -/
def findLive (self : IdentityRegistry A) (continuity : ContinuityEvidence) : Option SourceRecord :=
  self.entries.values.find? fun entry =>
    !entry.state.isRetired && decide (entry.continuity = continuity)

/-- `find_live_source_id`, and `source_id_for_continuity` -/
def findLiveSourceId (self : IdentityRegistry A) (continuity : ContinuityEvidence) :
    Option SourceId :=
  (self.findLive continuity).map SourceRecord.id

/-- `source_id_for_observation` -/
def sourceIdForObservation (self : IdentityRegistry A) :
    ObservedContinuity → Option SourceId
  | .stable continuity => self.findLiveSourceId continuity
  | _ => none

/-- `known_sources` -/
def knownSources (self : IdentityRegistry A) : List KnownSource :=
  (self.entries.values.filter fun entry => !entry.state.isRetired).map fun entry =>
    ⟨entry.id, entry.displayName, entry.state.isLive⟩

/-- `resolve` -/
def resolve (self : IdentityRegistry A) (sourceId : SourceId) (snapshot : DiscoverySnapshot) :
    Except RegistryError SourceResolution := do
  self.validateSnapshot snapshot
  match self.entries.get? sourceId.asStr with
  | none => .error .unknownSource
  | some entry =>
    match entry.state with
    | .live => .ok (.live entry.id)
    | .absent => .error .sourceUnavailable
    | .retired _ => .error .sourceRetired

/-- The registry with an entry. -/
def insert (self : IdentityRegistry A) (entry : SourceRecord) : IdentityRegistry A :=
  { self with entries := self.entries.insert entry }

/-- `retire` -/
def retire (self : IdentityRegistry A) (reason : RetiredReason) (sourceId : String) :
    IdentityRegistry A :=
  match self.entries.get? sourceId with
  | none => self
  | some entry =>
    if entry.state.isRetired then self else self.insert { entry with state := .retired reason }

/-- The candidate of an attempt of `allocate_source_id`. -/
def nextCandidate (self : IdentityRegistry A) : String × IdentityRegistry A :=
  let nextSourceSequence := Checked.saturatingAdd self.nextSourceSequence 1
  let (candidate, allocator) :=
    SourceIdAllocator.nextSourceId self.allocator self.namespace.asStr nextSourceSequence
  (candidate, { self with nextSourceSequence, allocator })

/-- The loop of `allocate_source_id`, with the attempts that are left. -/
def allocateWithin : ℕ → IdentityRegistry A → Except RegistryError SourceId × IdentityRegistry A
  | 0, self => (.error .sourceIdAllocationFailed, self)
  | attempts + 1, self =>
    let (candidate, self) := self.nextCandidate
    if candidate = "" ∨ self.entries.contains candidate = true then allocateWithin attempts self
    else ((SourceId.new candidate).mapError fun _ => .sourceIdAllocationFailed, self)

/-- `allocate_source_id` -/
def allocateSourceId (self : IdentityRegistry A) :
    Except RegistryError SourceId × IdentityRegistry A :=
  allocateWithin 4096 self

/-- An entry that is live, and not observed. -/
def disappears (observed : List ContinuityEvidence) (entry : SourceRecord) : Bool :=
  entry.state.isLive && !observed.contains entry.continuity

/-- An entry after the first loop of `apply_observations`. -/
def markAbsent (observed : List ContinuityEvidence) (entry : SourceRecord) : SourceRecord :=
  if disappears observed entry then { entry with state := .absent } else entry

/-- The first loop of `apply_observations` changes no identifier. -/
theorem key_markAbsent (observed : List ContinuityEvidence) (entry : SourceRecord) :
    (markAbsent observed entry).key = entry.key := by
  unfold markAbsent
  split <;> rfl

/-- The first loop of `apply_observations`. -/
def markAllAbsent (self : IdentityRegistry A) (observed : List ContinuityEvidence) :
    IdentityRegistry A :=
  { self with entries := self.entries.map (markAbsent observed) (key_markAbsent observed) }

/-- An entry with the backend's key of the evidence that may be replaced by it. -/
def isReused (observed : List ContinuityEvidence) (continuity : ContinuityEvidence)
    (entry : SourceRecord) : Bool :=
  !entry.state.isRetired && decide (entry.continuity ≠ continuity) &&
    decide (entry.continuity.backendKey = continuity.backendKey) &&
    !observed.contains entry.continuity

/-- The entries whose key is reused, if there is just one of them, retired. -/
def retireReused (self : IdentityRegistry A) (observed : List ContinuityEvidence)
    (continuity : ContinuityEvidence) : IdentityRegistry A :=
  match self.entries.values.filter (isReused observed continuity) with
  | [entry] => self.retire .nativeKeyReuse entry.key
  | _ => self

/-- The identifiers of the entries of some evidence that are not retired. -/
def liveIds (self : IdentityRegistry A) (candidate : ContinuityEvidence) : List String :=
  (self.entries.values.filter fun entry =>
    !entry.state.isRetired && decide (entry.continuity = candidate)).map SourceRecord.key

/-- The identifiers of the entries that are retired on an ambiguous return. -/
def ambiguousIds (self : IdentityRegistry A) (candidates : List ContinuityEvidence) :
    List String :=
  let toRetire := candidates.flatMap self.liveIds
  (toRetire.insertionSort (· ≤ ·)).dedup

/-- The second loop of `apply_observations`, on one observation: whether something changed, and the
registry after it. -/
def observe (observed : List ContinuityEvidence) (changed : Bool) (self : IdentityRegistry A)
    (observation : SourceObservation) : Except RegistryError Bool × IdentityRegistry A :=
  match observation.continuity with
  | .stable continuity =>
    match self.findLive continuity with
    | some entry =>
      (.ok (changed || !entry.state.isLive || decide (entry.displayName ≠ observation.displayName)),
        self.insert { entry with state := .live, displayName := observation.displayName })
    | none =>
      match (self.retireReused observed continuity).allocateSourceId with
      | (.error error, self) => (.error error, self)
      | (.ok sourceId, self) =>
        (.ok true, self.insert ⟨sourceId, continuity, observation.displayName, .live⟩)
  | .ambiguous candidates =>
    let toRetire := self.ambiguousIds candidates
    (.ok (changed || decide (toRetire ≠ [])), toRetire.foldl (retire · .ambiguousReturn) self)
  | .unknown => (.ok changed, self)

/-- The second loop of `apply_observations`. -/
def observeAll (observed : List ContinuityEvidence) :
    List SourceObservation → Bool → IdentityRegistry A →
    Except RegistryError Bool × IdentityRegistry A
  | [], changed, self => (.ok changed, self)
  | observation :: observations, changed, self =>
    match self.observe observed changed observation with
    | (.error error, self) => (.error error, self)
    | (.ok changed, self) => observeAll observed observations changed self

/-- What the operations have in common: the next revision, and `persist`. -/
def commit (self : IdentityRegistry A) (files : RegistryFiles) (fault : Option Interruption) :
    Except RegistryError DiscoverySnapshot × IdentityRegistry A × RegistryFiles :=
  let self := { self with revision := Checked.saturatingAdd self.revision 1 }
  let (outcome, files) := persist self.toRegistryContents files fault
  (outcome.map fun () => self.snapshot, self, files)

/-- `apply_observations` -/
def applyObservations (self : IdentityRegistry A) (observations : List SourceObservation)
    (files : RegistryFiles) (fault : Option Interruption) :
    Except RegistryError DiscoverySnapshot × IdentityRegistry A × RegistryFiles :=
  let observed := observedContinuities observations
  let changed := self.entries.values.any (disappears observed)
  match observeAll observed observations changed (self.markAllAbsent observed) with
  | (.error error, self) => (.error error, self, files)
  | (.ok changed, self) =>
    if changed then self.commit files fault else (.ok self.snapshot, self, files)

/-- `advance_revision` -/
def advanceRevision (self : IdentityRegistry A) (files : RegistryFiles)
    (fault : Option Interruption) :
    Except RegistryError DiscoverySnapshot × IdentityRegistry A × RegistryFiles :=
  self.commit files fault

/-- `reset_namespace`, with the namespace that is generated. -/
def resetNamespace (self : IdentityRegistry A) («namespace» : RegistryNamespace)
    (files : RegistryFiles) (fault : Option Interruption) :
    Except RegistryError Unit × IdentityRegistry A × RegistryFiles :=
  let self := { self with «namespace», nextSourceSequence := 0, entries := .empty }
  let (outcome, self, files) := self.commit files fault
  (outcome.map fun _ => (), self, files)

end IdentityRegistry

end ResonanceSignal
