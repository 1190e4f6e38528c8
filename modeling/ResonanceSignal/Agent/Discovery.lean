import ResonanceSignal.Agent.RegistryFaults
import ResonanceSignal.Api.Discovery

/-!
# Playback discovery

`PlaybackDiscovery` of `discovery.rs`: a refresh puts the endpoints that the platform lists into the
registry, and describes the sources that the registry knows then. What the platform lists is an
argument of a refresh, with the files of the registry and where their writing is interrupted. An
`unreachable!` that is reached has no outcome.
-/

namespace ResonanceSignal

/-- The state of an endpoint. -/
inductive PlaybackEndpointState
  | active
  | disabled
  | notPresent
  | unplugged
deriving DecidableEq, Repr

/-- An endpoint that the platform lists. -/
structure PlaybackEndpointObservation where
  /-- The name that is shown. -/
  displayName : String
  /-- Its state. -/
  state : PlaybackEndpointState
  /-- The evidence. -/
  continuity : ObservedContinuity
  /-- Whether it is the default for playback. -/
  isDefaultPlayback : Bool
deriving DecidableEq, Repr

/-- A source, as a snapshot describes it. -/
structure SourceDescriptor where
  /-- Its identifier. -/
  sourceId : SourceId
  /-- The name that is shown. -/
  displayName : String
  /-- Its kind. -/
  sourceKind : SourceKind
  /-- Whether it is there. -/
  isAvailable : Bool
  /-- Whether it is the default for playback. -/
  isDefaultPlayback : Bool
  /-- Its products. -/
  supportedProducts : List SignalProduct
deriving DecidableEq, Repr

/-- Where a source can be captured. -/
structure PlaybackCaptureBinding where
  /-- The snapshot it belongs to. -/
  identity : DiscoverySnapshot
  /-- The source. -/
  sourceId : SourceId
  /-- The endpoint. -/
  endpointId : String
deriving DecidableEq, Repr

/-- The result of a refresh. -/
structure PlaybackDiscoverySnapshot where
  /-- The registry's namespace and revision. -/
  identity : DiscoverySnapshot
  /-- The sources. -/
  sources : List SourceDescriptor
  /-- Where they can be captured. -/
  captureBindings : List PlaybackCaptureBinding
  /-- Where the default can be captured. -/
  defaultPlaybackBinding : Option PlaybackCaptureBinding
deriving DecidableEq, Repr

/-- Why an operation of discovery failed. -/
inductive DiscoveryError
  | endpointEnumeration (message : String)
  | conflictingDefaultPlaybackEndpoints
  | defaultPlaybackUnavailable
  | explicitSourceUnavailable
  | captureBindingStale
  | portableSnapshotStale
  | registry (error : RegistryError)
deriving DecidableEq, Repr

/-! ## Tokens -/

/-- The text of `portable_revision`. -/
def portableRevisionText (identity : DiscoverySnapshot) : String :=
  String.ofList (Text.decimal identity.namespace.asStr.utf8ByteSize ++ '|' ::
    (identity.namespace.asStr.toList ++ '|' :: Text.decimal identity.revision.toNat))

/-- A token is not blank: the last of its parts is a number. -/
theorem isBlank_portableRevisionText (identity : DiscoverySnapshot) :
    Text.isBlank (portableRevisionText identity) = false := by
  have hseparator : Text.isWhiteSpace '|' = false := by decide
  unfold Text.isBlank portableRevisionText
  rw [String.toList_ofList]
  simp [hseparator]

/-- `portable_revision` -/
def portableRevision (identity : DiscoverySnapshot) : DiscoveryRevision :=
  ⟨portableRevisionText identity, isBlank_portableRevisionText identity⟩

/-! ## Refresh -/

/-- How many of the endpoints have some stable evidence: an entry of `stable_continuity_counts`. -/
def stableContinuityCount (observations : List PlaybackEndpointObservation)
    (continuity : ContinuityEvidence) : ℕ :=
  observations.countP fun observation => observation.continuity.stable? = some continuity

/-- The loop of `refresh`: what the registry is told of the endpoints, and those that can be
described. Of the evidence that several endpoints have, the registry is told once. -/
def gather (count : ContinuityEvidence → ℕ) :
    List ContinuityEvidence → List PlaybackEndpointObservation →
    List SourceObservation × List PlaybackEndpointObservation
  | _, [] => ([], [])
  | ambiguousDuplicates, observation :: observations =>
    match observation.continuity with
    | .stable continuity =>
      if count continuity = 1 then
        let (registryObservations, describable) := gather count ambiguousDuplicates observations
        (⟨observation.displayName, .stable continuity⟩ :: registryObservations,
          observation :: describable)
      else if continuity ∈ ambiguousDuplicates then gather count ambiguousDuplicates observations
      else
        let (registryObservations, describable) :=
          gather count (continuity :: ambiguousDuplicates) observations
        (⟨observation.displayName, .ambiguous [continuity]⟩ :: registryObservations, describable)
    | continuity =>
      let (registryObservations, describable) := gather count ambiguousDuplicates observations
      (⟨observation.displayName, continuity⟩ :: registryObservations, describable)

/-- The endpoints that are active. -/
def activeEndpoints (observations : List PlaybackEndpointObservation) :
    List PlaybackEndpointObservation :=
  observations.filter fun observation => observation.state = .active

/-- What the registry is told of the active endpoints, and those that can be described. -/
def gatherActive (active : List PlaybackEndpointObservation) :
    List SourceObservation × List PlaybackEndpointObservation :=
  gather (stableContinuityCount active) [] active

namespace PlaybackDiscoverySnapshot

/-- The source of the endpoint that is the default. -/
def defaultSourceId (registry : IdentityRegistry CounterSourceIdAllocator)
    (describable : List PlaybackEndpointObservation) : Option SourceId :=
  (describable.find? PlaybackEndpointObservation.isDefaultPlayback).bind fun observation =>
    registry.sourceIdForObservation observation.continuity

/-- The descriptors of the sources that the registry knows. -/
def describeSources (registry : IdentityRegistry CounterSourceIdAllocator)
    (default? : Option SourceId) : List SourceDescriptor :=
  registry.knownSources.map fun known =>
    ⟨known.sourceId, known.displayName, .playback, known.isAvailable,
      decide (default? = some known.sourceId), [.waveform]⟩

/-- The binding of an endpoint. -/
def bind? (registry : IdentityRegistry CounterSourceIdAllocator) (identity : DiscoverySnapshot)
    (observation : PlaybackEndpointObservation) : Option PlaybackCaptureBinding :=
  match observation.continuity with
  | .stable continuity =>
    (registry.sourceIdForObservation (.stable continuity)).map fun sourceId =>
      ⟨identity, sourceId, continuity.backendKey⟩
  | _ => none

/-- The snapshot of a refresh, from the registry after it. -/
def describe (registry : IdentityRegistry CounterSourceIdAllocator) (identity : DiscoverySnapshot)
    (describable : List PlaybackEndpointObservation) : PlaybackDiscoverySnapshot :=
  let default? := defaultSourceId registry describable
  let captureBindings := describable.filterMap (bind? registry identity)
  { identity
    sources := describeSources registry default?
    captureBindings
    defaultPlaybackBinding := default?.bind fun sourceId =>
      captureBindings.find? fun binding => binding.sourceId = sourceId }

/-- The snapshot at another revision. -/
def withIdentity (self : PlaybackDiscoverySnapshot) (identity : DiscoverySnapshot) :
    PlaybackDiscoverySnapshot :=
  { self with
    identity
    captureBindings := self.captureBindings.map ({ · with identity })
    defaultPlaybackBinding := self.defaultPlaybackBinding.map ({ · with identity }) }

/-- The portable descriptor of a source. -/
def portableSource (source : SourceDescriptor) :
    Except DiscoveryContractError PortableSourceDescriptor :=
  PortableSourceDescriptor.new source.sourceId
    (if Text.isBlank source.displayName then none else some source.displayName)
    source.sourceKind (if source.isAvailable then .available else .unavailable)
    source.supportedProducts (if source.isDefaultPlayback then [.playback] else [])

/-- `to_portable` -/
def toPortable (self : PlaybackDiscoverySnapshot) :
    Except DiscoveryContractError PortableDiscoverySnapshot := do
  let sources ← self.sources.mapM portableSource
  PortableDiscoverySnapshot.new (portableRevision self.identity) sources

end PlaybackDiscoverySnapshot

/-- `PlaybackDiscovery`, without the source of its endpoints. -/
structure PlaybackDiscovery where
  /-- The registry. -/
  registry : IdentityRegistry CounterSourceIdAllocator
  /-- The snapshot of the last refresh. -/
  lastSnapshot : Option PlaybackDiscoverySnapshot

namespace PlaybackDiscovery

/-- The revision is advanced though the registry did not change: on the first refresh, and where the
description is not that of the last one. -/
def advances (lastSnapshot : Option PlaybackDiscoverySnapshot) (revisionBeforeRefresh : UInt64)
    (snapshot : PlaybackDiscoverySnapshot) : Bool :=
  match lastSnapshot with
  | none => decide (snapshot.identity.revision = revisionBeforeRefresh)
  | some previous =>
    decide (previous.sources ≠ snapshot.sources) &&
      decide (previous.identity.revision = snapshot.identity.revision)

/-- `PlaybackDiscovery::new` -/
def new (files : RegistryFiles) («namespace» : RegistryNamespace) (fault : Option Interruption) :
    Except DiscoveryError PlaybackDiscovery × RegistryFiles :=
  let (outcome, files) :=
    IdentityRegistry.withAllocator files «namespace» fault CounterSourceIdAllocator.mk
  ((outcome.mapError .registry).map (⟨·, none⟩), files)

/-- The end of `refresh`, from the registry that the endpoints were put in. -/
def publish (self : PlaybackDiscovery) (registry : IdentityRegistry CounterSourceIdAllocator)
    (snapshot : PlaybackDiscoverySnapshot) (files : RegistryFiles) (fault : Option Interruption) :
    Except DiscoveryError PlaybackDiscoverySnapshot × PlaybackDiscovery × RegistryFiles :=
  if advances self.lastSnapshot self.registry.revision snapshot then
    match registry.advanceRevision files fault with
    | (.error error, registry, files) => (.error (.registry error), { self with registry }, files)
    | (.ok identity, registry, files) =>
      let snapshot := snapshot.withIdentity identity
      (.ok snapshot, ⟨registry, some snapshot⟩, files)
  else (.ok snapshot, ⟨registry, some snapshot⟩, files)

/-- `refresh`, with what the platform lists, and where the two commits are interrupted. -/
def refresh (self : PlaybackDiscovery)
    (enumerated : Except String (List PlaybackEndpointObservation)) (files : RegistryFiles)
    (applyFault advanceFault : Option Interruption) :
    Except DiscoveryError PlaybackDiscoverySnapshot × PlaybackDiscovery × RegistryFiles :=
  match enumerated with
  | .error message => (.error (.endpointEnumeration message), self, files)
  | .ok observations =>
    let active := activeEndpoints observations
    if 1 < active.countP PlaybackEndpointObservation.isDefaultPlayback then
      (.error .conflictingDefaultPlaybackEndpoints, self, files)
    else
      let (registryObservations, describable) := gatherActive active
      match self.registry.applyObservations registryObservations files applyFault with
      | (.error error, registry, files) =>
        (.error (.registry error), { self with registry }, files)
      | (.ok identity, registry, files) =>
        self.publish registry (.describe registry identity describable) files advanceFault

/-! ## Resolution -/

/-- `resolve_default_playback` -/
def resolveDefaultPlayback (self : PlaybackDiscovery) (snapshot : PlaybackDiscoverySnapshot) :
    Except DiscoveryError SourceId := do
  (self.registry.validateSnapshot snapshot.identity).mapError .registry
  okOr .defaultPlaybackUnavailable
    ((snapshot.sources.find? SourceDescriptor.isDefaultPlayback).map SourceDescriptor.sourceId)

/-- `resolve_default_playback_capture` -/
def resolveDefaultPlaybackCapture (self : PlaybackDiscovery)
    (snapshot : PlaybackDiscoverySnapshot) : Except DiscoveryError PlaybackCaptureBinding := do
  (self.registry.validateSnapshot snapshot.identity).mapError .registry
  okOr .defaultPlaybackUnavailable snapshot.defaultPlaybackBinding

/-- `resolve_explicit` -/
def resolveExplicit (self : PlaybackDiscovery) (sourceId : SourceId)
    (snapshot : PlaybackDiscoverySnapshot) : Option (Except DiscoveryError SourceId) :=
  match self.registry.resolve sourceId snapshot.identity with
  | .error error => some (.error (.registry error))
  | .ok (.live sourceId) => some (.ok sourceId)
  | .ok _ => none

/-- `resolve_explicit_playback_capture` -/
def resolveExplicitPlaybackCapture (self : PlaybackDiscovery) (sourceId : SourceId)
    (snapshot : PlaybackDiscoverySnapshot) :
    Option (Except DiscoveryError PlaybackCaptureBinding) :=
  (self.resolveExplicit sourceId snapshot).map fun outcome => do
    let resolved ← outcome
    okOr .explicitSourceUnavailable
      (snapshot.captureBindings.find? fun binding => binding.sourceId = resolved)

/-- `resolve_explicit_at_revision` -/
def resolveExplicitAtRevision (self : PlaybackDiscovery) (sourceId : SourceId)
    (revision : DiscoveryRevision) : Option (Except DiscoveryError SourceId) :=
  let current := self.registry.snapshot
  if portableRevision current ≠ revision then some (.error .portableSnapshotStale)
  else
    match self.registry.resolve sourceId current with
    | .error error => some (.error (.registry error))
    | .ok (.live sourceId) => some (.ok sourceId)
    | .ok _ => none

/-- A binding that is still the one that was issued. -/
def revalidate (binding : PlaybackCaptureBinding)
    (current : Except DiscoveryError PlaybackCaptureBinding) : Except DiscoveryError Unit := do
  let current ← current
  failIf (current ≠ binding) .captureBindingStale

/-- `revalidate_default_playback_capture` -/
def revalidateDefaultPlaybackCapture (self : PlaybackDiscovery) (binding : PlaybackCaptureBinding)
    (enumerated : Except String (List PlaybackEndpointObservation)) (files : RegistryFiles)
    (applyFault advanceFault : Option Interruption) :
    Except DiscoveryError Unit × PlaybackDiscovery × RegistryFiles :=
  let (outcome, self, files) := self.refresh enumerated files applyFault advanceFault
  (revalidate binding (outcome.bind self.resolveDefaultPlaybackCapture), self, files)

/-- `revalidate_explicit_playback_capture` -/
def revalidateExplicitPlaybackCapture (self : PlaybackDiscovery) (binding : PlaybackCaptureBinding)
    (enumerated : Except String (List PlaybackEndpointObservation)) (files : RegistryFiles)
    (applyFault advanceFault : Option Interruption) :
    Option (Except DiscoveryError Unit) × PlaybackDiscovery × RegistryFiles :=
  let (outcome, self, files) := self.refresh enumerated files applyFault advanceFault
  match outcome with
  | .error error => (some (.error error), self, files)
  | .ok snapshot =>
    ((self.resolveExplicitPlaybackCapture binding.sourceId snapshot).map (revalidate binding),
      self, files)

end PlaybackDiscovery

end ResonanceSignal
