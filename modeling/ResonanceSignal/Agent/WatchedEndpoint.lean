import ResonanceSignal.Agent.CaptureStartup
import ResonanceSignal.Agent.DiscoveryCoherence

/-!
# What a capture knows of its endpoint

A capture listens to its endpoint before it validates it, so it misses nothing: from the validation
on the endpoint is as it was validated, or the end signal is set, or a callback that sets it is
still to run (`endpoint_watched`). The stream that it announces is that of the source that is wanted
(`announced_source`), and an end without a diagnostic is what it says it is: a stop, the deadline,
an exhausted hand-off, or a change of the endpoint that its callbacks heard (`end_explained`).
-/

namespace ResonanceSignal

/-! ## The source -/

namespace PlaybackDiscovery

variable {intent : PlaybackCaptureIntent} {self after : PlaybackDiscovery}
  {enumerated : Except String (List PlaybackEndpointObservation)} {files files' : RegistryFiles}
  {applyFault advanceFault : Option Interruption} {snapshot : PlaybackDiscoverySnapshot}
  {binding : PlaybackCaptureBinding}

/-- A refresh keeps the registry well-formed. -/
theorem refresh_wellformed (h : Wellformed self.registry.toRegistryContents)
    (hrefresh : self.refresh enumerated files applyFault advanceFault
      = (.ok snapshot, after, files')) :
    Wellformed after.registry.toRegistryContents := by
  obtain ⟨observations, identity, registry, applied, -, happly, hcases⟩ := refresh_eq_ok hrefresh
  have hregistry : Wellformed registry.toRegistryContents := by
    have hpreserves := (IdentityRegistry.applyObservations_preserves h
      (gatherActive (activeEndpoints observations)).1 files applyFault).1
    rw [happly] at hpreserves
    exact hpreserves
  rcases hcases with ⟨-, -, rfl, -⟩ | ⟨-, identity', advanced, hadvance, -, rfl⟩
  · exact hregistry
  · obtain ⟨rfl, -, -⟩ := IdentityRegistry.commit_eq_ok hadvance
    exact ⟨hregistry.covers, hregistry.oneEach⟩

/-- A registry that was opened is well-formed. -/
theorem new_wellformed {«namespace» : RegistryNamespace} {fault : Option Interruption}
    (h : new files «namespace» fault = (.ok self, files')) :
    Wellformed self.registry.toRegistryContents := by
  unfold new at h
  rcases hopen : IdentityRegistry.withAllocator files «namespace» fault CounterSourceIdAllocator.mk
    with ⟨outcome, written⟩
  rw [hopen] at h
  cases outcome with
  | error error => cases h
  | ok registry =>
    cases h
    have hmachine : RegistryMachine.new files «namespace» fault = some ⟨registry, files'⟩ := by
      unfold RegistryMachine.new
      rw [hopen]
    exact RegistryMachine.new_wellformed hmachine

/-- A binding that is resolved is one of the snapshot: that of the source that is wanted, or the
default one. -/
theorem resolveCapture_eq_ok (h : self.resolveCapture intent snapshot = some (.ok binding)) :
    (∀ sourceId, intent = .explicit sourceId →
        binding.sourceId = sourceId ∧ binding ∈ snapshot.captureBindings) ∧
      (intent.follows = true → snapshot.defaultPlaybackBinding = some binding) := by
  cases intent with
  | defaultPlayback =>
    obtain ⟨-, -, hdefault⟩ := Result.bind_eq_ok.mp (Option.some.inj h)
    exact ⟨nofun, fun _ => okOr_eq_ok.mp hdefault⟩
  | explicit sourceId =>
    refine ⟨?_, nofun⟩
    rintro _ ⟨⟩
    exact resolveExplicitPlaybackCapture_eq_ok h

/-- A refresh that resolves a source is one that succeeds. -/
theorem refreshCapture_eq_ok
    (h : self.refreshCapture intent enumerated files applyFault advanceFault
      = (some (.ok binding), after, files')) :
    ∃ snapshot, self.refresh enumerated files applyFault advanceFault
        = (.ok snapshot, after, files') ∧
      after.resolveCapture intent snapshot = some (.ok binding) := by
  unfold refreshCapture at h
  rcases hrefresh : self.refresh enumerated files applyFault advanceFault with
    ⟨outcome, refreshed, written⟩
  rw [hrefresh] at h
  cases outcome with
  | error error => cases h
  | ok snapshot =>
    obtain ⟨hresolve, hrest⟩ := Prod.mk.inj h
    cases hrest
    exact ⟨snapshot, rfl, hresolve⟩

/-- A validation succeeds where the source is resolved once more, to the same. -/
theorem revalidateCapture_eq_ok
    (hrequested : ∀ sourceId, intent = .explicit sourceId → binding.sourceId = sourceId)
    (h : self.revalidateCapture intent binding enumerated files applyFault advanceFault
      = (some (.ok ()), after, files')) :
    ∃ snapshot, self.refresh enumerated files applyFault advanceFault
        = (.ok snapshot, after, files') ∧
      after.resolveCapture intent snapshot = some (.ok binding) := by
  have hsame {current : Except DiscoveryError PlaybackCaptureBinding}
      (hcurrent : revalidate binding current = .ok ()) : current = .ok binding := by
    obtain ⟨resolved, rfl, hcheck⟩ := Result.bind_eq_ok.mp hcurrent
    rw [not_not.mp (failIf_eq_ok.mp hcheck)]
  rcases hrefresh : self.refresh enumerated files applyFault advanceFault with
    ⟨outcome, refreshed, written⟩
  cases intent with
  | defaultPlayback =>
    unfold revalidateCapture revalidateDefaultPlaybackCapture at h
    rw [hrefresh] at h
    obtain ⟨hresolve, hrest⟩ := Prod.mk.inj h
    cases hrest
    obtain ⟨snapshot, rfl, hbinding⟩ := Result.bind_eq_ok.mp (hsame (Option.some.inj hresolve))
    exact ⟨snapshot, rfl, congrArg some hbinding⟩
  | explicit sourceId =>
    unfold revalidateCapture revalidateExplicitPlaybackCapture at h
    rw [hrefresh] at h
    cases outcome with
    | error error => cases h
    | ok snapshot =>
      obtain ⟨hresolve, hrest⟩ := Prod.mk.inj h
      cases hrest
      obtain ⟨current, hcurrent, hbinding⟩ := Option.map_eq_some_iff.mp hresolve
      rw [hsame hbinding, hrequested sourceId rfl] at hcurrent
      exact ⟨snapshot, rfl, hcurrent⟩

/-- The endpoint of a binding that a refresh resolves is that of a live source of the registry, and
one that the platform listed as active; the default one was listed as the default. -/
theorem listed_of_resolveCapture (h : Wellformed self.registry.toRegistryContents)
    (hrefresh : self.refresh enumerated files applyFault advanceFault
      = (.ok snapshot, after, files'))
    (hresolve : after.resolveCapture intent snapshot = some (.ok binding)) :
    ∃ observations, enumerated = .ok observations ∧
      ∃ entry ∈ after.registry.entries.values, entry.id = binding.sourceId ∧
        entry.state.isLive = true ∧ entry.continuity.backendKey = binding.endpointId ∧
        (∃ observation ∈ observations, observation.state = .active ∧
          observation.continuity = .stable entry.continuity) ∧
        (intent.follows = true → ∃ observation ∈ observations,
          observation.isDefaultPlayback = true ∧
            observation.continuity = .stable entry.continuity) := by
  obtain ⟨observations, henumerated, hcoherent, -⟩ := refresh_coherent h.oneEach hrefresh
  obtain ⟨hexplicit, hdefault⟩ := resolveCapture_eq_ok hresolve
  have hmem : binding ∈ snapshot.captureBindings := by
    cases intent with
    | defaultPlayback => exact (hcoherent.default_binding binding (hdefault rfl)).1
    | explicit sourceId => exact (hexplicit sourceId rfl).2
  obtain ⟨entry, hentry, hid, hlive, hkey, hone⟩ := hcoherent.endpoints binding hmem
  refine ⟨observations, henumerated, entry, hentry, hid, hlive, hkey, ?_, fun hfollows => ?_⟩
  · -- Its evidence is that of one active endpoint.
    have hlisted : 0 < stableContinuityCount (activeEndpoints observations) entry.continuity := by
      rw [hone]
      exact Nat.one_pos
    obtain ⟨observation, hobservation, hstable⟩ := List.countP_pos_iff.mp hlisted
    obtain ⟨hobservation, hactive⟩ := List.mem_filter.mp hobservation
    have hstable : observation.continuity.stable? = some entry.continuity :=
      of_decide_eq_true hstable
    refine ⟨observation, hobservation, of_decide_eq_true hactive, ?_⟩
    cases hcontinuity : observation.continuity with
    | stable continuity =>
      rw [hcontinuity] at hstable
      cases hstable
      rfl
    | ambiguous candidates =>
      rw [hcontinuity] at hstable
      cases hstable
    | unknown =>
      rw [hcontinuity] at hstable
      cases hstable
  · obtain ⟨-, observation, hobservation, hlisted, entry', hentry', hid', hstable⟩ :=
      hcoherent.default_binding binding (hdefault hfollows)
    have hsame : entry' = entry := by
      apply KeyedMap.eq_of_key_eq hentry' hentry
      exact congrArg SourceId.asStr (hid'.trans hid.symm)
    subst hsame
    exact ⟨observation, (List.mem_filter.mp hobservation).1, hlisted, hstable⟩

end PlaybackDiscovery

/-- The stream is about to be announced. -/
def StartupStage.isAnnouncing : StartupStage → Bool
  | .announcing _ _ => true
  | _ => false

namespace EndpointCapture

variable {intent : PlaybackCaptureIntent} {limit : RunLimit} {processId : UInt32}
  {streamSequence : UInt64} {s s' : EndpointCapture}

/-! ## What a step does -/

/-- The moves of the startup that only proceed. -/
inductive Proceeds : StartupStage → StartupStage → Prop
  | initializeMta : Proceeds .initializing .locating
  | locate : Proceeds .locating .openingRegistry
  | check {discovery : PlaybackDiscovery} {opened : OpenedEndpoint} :
    Proceeds (.checking discovery opened) (.startingStream discovery opened)
  | startStream {discovery : PlaybackDiscovery} {opened : OpenedEndpoint} :
    Proceeds (.startingStream discovery opened) (.confirming discovery opened)
  | confirm {discovery : PlaybackDiscovery} {opened : OpenedEndpoint} :
    Proceeds (.confirming discovery opened) (.announcing discovery opened)

/-- What one step of the startup does. -/
inductive Starts (intent : PlaybackCaptureIntent) (s : EndpointCapture) :
    StartupAction → EndpointCapture → Prop
  | proceeds {a : StartupAction} {stage : StartupStage} (hproceeds : Proceeds s.stage stage) :
    Starts intent s a { s with stage }
  | fails {a : StartupAction} {files : RegistryFiles} {failure : CaptureFailure}
    (hstage : s.stage ≠ .returned) :
    Starts intent s a { s with files, stage := .failed failure }
  | opensRegistry {a : StartupAction} {«namespace» : RegistryNamespace}
    {fault : Option Interruption} {discovery : PlaybackDiscovery} {files : RegistryFiles}
    (hstage : s.stage = .openingRegistry)
    (hnew : PlaybackDiscovery.new s.files «namespace» fault = (.ok discovery, files)) :
    Starts intent s a { s with files, stage := .enumerating discovery none .starting }
  | enumerates {discovery : PlaybackDiscovery} {validating : Option OpenedEndpoint}
    {enumeration enumeration' : Enumeration} {a : EnumerationAction}
    (hstage : s.stage = .enumerating discovery validating enumeration)
    (hstep : enumeration.step s.watch.subject a = some enumeration') :
    Starts intent s (.enumerate a) { s with stage := .enumerating discovery validating enumeration' }
  | resolves {a : StartupAction} {discovery after : PlaybackDiscovery} {enumeration : Enumeration}
    {enumerated : Except String (List PlaybackEndpointObservation)} {files : RegistryFiles}
    {applyFault advanceFault : Option Interruption} {binding : PlaybackCaptureBinding}
    (hstage : s.stage = .enumerating discovery none enumeration)
    (hresult : enumeration.result = some enumerated)
    (hrefresh : discovery.refreshCapture intent enumerated s.files applyFault advanceFault
      = (some (.ok binding), after, files)) :
    Starts intent s a { s with files, stage := .opening after binding }
  | validates {a : StartupAction} {discovery after : PlaybackDiscovery} {opened : OpenedEndpoint}
    {enumeration : Enumeration} {enumerated : Except String (List PlaybackEndpointObservation)}
    {files : RegistryFiles} {applyFault advanceFault : Option Interruption}
    (hstage : s.stage = .enumerating discovery (some opened) enumeration)
    (hresult : enumeration.result = some enumerated)
    (hrevalidate : discovery.revalidateCapture intent opened.binding enumerated s.files applyFault
      advanceFault = (some (.ok ()), after, files)) :
    Starts intent s a { s with files, stage := .checking after opened }
  | opens {discovery : PlaybackDiscovery} {binding : PlaybackCaptureBinding}
    {calls : EndpointCalls} {opened : OpenedEndpoint}
    (hstage : s.stage = .opening discovery binding)
    (hopen : openEndpoint binding calls = .ok opened) :
    Starts intent s (.openEndpoint calls) { s with stage := .registeringDevice discovery opened }
  | registersDevice {a : StartupAction} {discovery : PlaybackDiscovery} {opened : OpenedEndpoint}
    (hstage : s.stage = .registeringDevice discovery opened) :
    Starts intent s a { s with
      listeners := { s.listeners with deviceEvents := some ⟨opened.endpointId, intent.follows⟩ }
      stage := .registeringSession discovery opened }
  | registersSession {a : StartupAction} {discovery : PlaybackDiscovery} {opened : OpenedEndpoint}
    (hstage : s.stage = .registeringSession discovery opened) :
    Starts intent s a { s with
      listeners := { s.listeners with sessionEvents := true }
      stage := .enumerating discovery (some opened) .starting }

/-- Every step of the startup has its effect. -/
theorem starts_of_startupStep {a : StartupAction} (h : s.startupStep intent a = some s') :
    Starts intent s a s' := by
  have hstays {stage : StartupStage} (hstage : s.stage = stage) (hne : stage ≠ .returned) :
      s.stage ≠ .returned := hstage ▸ hne
  cases a with
  | initializeMta result =>
    dsimp only [startupStep] at h
    split at h
    next hstage =>
      cases h
      exact .proceeds (hstage ▸ .initializeMta)
    next hstage =>
      cases h
      exact .fails (hstays hstage nofun)
    next => cases h
  | locate found =>
    dsimp only [startupStep] at h
    split at h
    next hstage =>
      split at h
      next =>
        cases h
        exact .proceeds (hstage ▸ .locate)
      next =>
        cases h
        exact .fails (hstays hstage nofun)
    next => cases h
  | openRegistry «namespace» fault io =>
    dsimp only [startupStep] at h
    split at h
    next hstage =>
      split at h
      next =>
        cases h
        exact .fails (hstays hstage nofun)
      next hnew =>
        cases h
        exact .opensRegistry hstage hnew
    next => cases h
  | enumerate a =>
    dsimp only [startupStep] at h
    split at h
    next hstage =>
      obtain ⟨enumeration', hstep, rfl⟩ := Option.map_eq_some_iff.mp h
      exact .enumerates hstage hstep
    next => cases h
  | refresh applyFault advanceFault io =>
    dsimp only [startupStep] at h
    split at h
    next hstage =>
      split at h
      next => cases h
      next hresult =>
        split at h
        next => cases h
        next =>
          cases h
          exact .fails (hstays hstage nofun)
        next hrefresh =>
          cases h
          exact .resolves hstage hresult hrefresh
    next hstage =>
      split at h
      next => cases h
      next hresult =>
        split at h
        next => cases h
        next =>
          cases h
          exact .fails (hstays hstage nofun)
        next hrevalidate =>
          cases h
          exact .validates hstage hresult hrevalidate
    next => cases h
  | openEndpoint calls =>
    dsimp only [startupStep] at h
    split at h
    next hstage =>
      split at h
      next =>
        cases h
        exact .fails (hstays hstage nofun)
      next hopen =>
        cases h
        exact .opens hstage hopen
    next => cases h
  | registerDeviceEvents result =>
    dsimp only [startupStep] at h
    split at h
    next hstage =>
      cases h
      exact .registersDevice hstage
    next hstage =>
      cases h
      exact .fails (hstays hstage nofun)
    next => cases h
  | registerSessionEvents control result =>
    dsimp only [startupStep] at h
    split at h
    next hstage =>
      cases h
      exact .registersSession hstage
    next hstage =>
      cases h
      exact .fails (hstays hstage nofun)
    next hstage =>
      cases h
      exact .fails (hstays hstage nofun)
    next => cases h
  | check =>
    dsimp only [startupStep] at h
    split at h
    next hstage halarm =>
      cases h
      exact .proceeds (hstage ▸ .check)
    next hstage halarm =>
      cases h
      exact .fails (hstays hstage nofun)
    next hstage halarm =>
      cases h
      exact .proceeds (hstage ▸ .confirm)
    next hstage halarm =>
      cases h
      exact .fails (hstays hstage nofun)
    next => cases h
  | startStream result =>
    dsimp only [startupStep] at h
    split at h
    next hstage =>
      cases h
      exact .proceeds (hstage ▸ .startStream)
    next hstage =>
      cases h
      exact .fails (hstays hstage nofun)
    next => cases h

/-! ## What is known at a stage -/

/-- The callbacks of an endpoint. -/
def callbacksOf (intent : PlaybackCaptureIntent) (opened : OpenedEndpoint) : DeviceEventCallbacks :=
  ⟨opened.endpointId, intent.follows⟩

/-- The source is the one that is wanted. -/
def IsWanted (intent : PlaybackCaptureIntent) (binding : PlaybackCaptureBinding) : Prop :=
  ∀ sourceId, intent = .explicit sourceId → binding.sourceId = sourceId

/-- What a run has shown of its endpoint. -/
structure Evidence where
  /-- It was opened. -/
  opened : OpenedEndpoint → Prop
  /-- It was active when its state was read. -/
  active : String → Prop
  /-- It was the default when that was read, if the capture follows it. -/
  default : String → Prop

/-- The endpoint was opened for a source that is wanted. -/
structure IsOpened (intent : PlaybackCaptureIntent) (E : Evidence) (opened : OpenedEndpoint) :
    Prop where
  /-- The source. -/
  wanted : IsWanted intent opened.binding
  /-- It was opened. -/
  opened : E.opened opened

/-- The endpoint was validated. -/
structure IsValidated (intent : PlaybackCaptureIntent) (E : Evidence)
    (discovery : PlaybackDiscovery) (opened : OpenedEndpoint) : Prop where
  /-- It is that of a live source of the registry. -/
  source : ∃ entry ∈ discovery.registry.entries.values, entry.id = opened.binding.sourceId ∧
    entry.state.isLive = true ∧ entry.continuity.backendKey = opened.endpointId
  /-- It was active. -/
  active : E.active opened.endpointId
  /-- It was the default, if the capture follows it. -/
  default : intent.follows = true → E.default opened.endpointId

/-- The stages after the validation of an endpoint. -/
inductive HasValidated (discovery : PlaybackDiscovery) (opened : OpenedEndpoint) :
    StartupStage → Prop
  | checking : HasValidated discovery opened (.checking discovery opened)
  | startingStream : HasValidated discovery opened (.startingStream discovery opened)
  | confirming : HasValidated discovery opened (.confirming discovery opened)
  | announcing : HasValidated discovery opened (.announcing discovery opened)
  | capturing : HasValidated discovery opened (.capturing discovery opened)

/-- What is known at a stage of the startup. -/
inductive Knows (intent : PlaybackCaptureIntent) (E : Evidence) :
    Listeners → StartupStage → Prop
  | initializing : Knows intent E ⟨none, false⟩ .initializing
  | locating : Knows intent E ⟨none, false⟩ .locating
  | openingRegistry : Knows intent E ⟨none, false⟩ .openingRegistry
  | resolving {discovery : PlaybackDiscovery} {enumeration : Enumeration}
    (hregistry : Wellformed discovery.registry.toRegistryContents) :
    Knows intent E ⟨none, false⟩ (.enumerating discovery none enumeration)
  | opening {discovery : PlaybackDiscovery} {binding : PlaybackCaptureBinding}
    (hregistry : Wellformed discovery.registry.toRegistryContents)
    (hwanted : IsWanted intent binding) :
    Knows intent E ⟨none, false⟩ (.opening discovery binding)
  | registeringDevice {discovery : PlaybackDiscovery} {opened : OpenedEndpoint}
    (hregistry : Wellformed discovery.registry.toRegistryContents)
    (hopened : IsOpened intent E opened) :
    Knows intent E ⟨none, false⟩ (.registeringDevice discovery opened)
  | registeringSession {discovery : PlaybackDiscovery} {opened : OpenedEndpoint}
    (hregistry : Wellformed discovery.registry.toRegistryContents)
    (hopened : IsOpened intent E opened) :
    Knows intent E ⟨some (callbacksOf intent opened), false⟩ (.registeringSession discovery opened)
  | validating {discovery : PlaybackDiscovery} {opened : OpenedEndpoint}
    {enumeration : Enumeration} (hregistry : Wellformed discovery.registry.toRegistryContents)
    (hopened : IsOpened intent E opened)
    (hreads : enumeration.Reads opened.endpointId (E.active opened.endpointId)
      (intent.follows = true → E.default opened.endpointId)) :
    Knows intent E ⟨some (callbacksOf intent opened), true⟩
      (.enumerating discovery (some opened) enumeration)
  | validated {discovery : PlaybackDiscovery} {opened : OpenedEndpoint} {stage : StartupStage}
    (hopened : IsOpened intent E opened) (hvalidated : IsValidated intent E discovery opened)
    (hstage : HasValidated discovery opened stage) :
    Knows intent E ⟨some (callbacksOf intent opened), true⟩ stage
  | failed {listeners : Listeners} {failure : CaptureFailure}
    (hcallbacks : ∀ callbacks, listeners.deviceEvents = some callbacks →
      callbacks.followsDefaultRole = intent.follows)
    (hsession : listeners.sessionEvents = true → listeners.deviceEvents.isSome = true) :
    Knows intent E listeners (.failed failure)
  | returned : Knows intent E ⟨none, false⟩ .returned

variable {E E' : Evidence} {listeners : Listeners} {stage : StartupStage}

/-- What is known stays so while the evidence does. -/
theorem Knows.mono (h : Knows intent E listeners stage)
    (hopens : ∀ opened, E.opened opened → E'.opened opened)
    (hactive : ∀ opened, listeners = ⟨some (callbacksOf intent opened), true⟩ →
      E.active opened.endpointId → E'.active opened.endpointId)
    (hdefault : ∀ opened, listeners = ⟨some (callbacksOf intent opened), true⟩ →
      intent.follows = true → E.default opened.endpointId → E'.default opened.endpointId) :
    Knows intent E' listeners stage := by
  have hstays {opened : OpenedEndpoint} (hopened : IsOpened intent E opened) :
      IsOpened intent E' opened := ⟨hopened.wanted, hopens opened hopened.opened⟩
  cases h with
  | initializing => exact .initializing
  | locating => exact .locating
  | openingRegistry => exact .openingRegistry
  | resolving hregistry => exact .resolving hregistry
  | opening hregistry hwanted => exact .opening hregistry hwanted
  | registeringDevice hregistry hopened => exact .registeringDevice hregistry (hstays hopened)
  | registeringSession hregistry hopened => exact .registeringSession hregistry (hstays hopened)
  | @validating discovery opened enumeration hregistry hopened hreads =>
    exact .validating hregistry (hstays hopened) (hreads.mono (hactive opened rfl)
      fun hread hfollows => hdefault opened rfl hfollows (hread hfollows))
  | @validated discovery opened stage hopened hvalidated hstage =>
    refine .validated (hstays hopened) ⟨hvalidated.source, ?_, fun hfollows => ?_⟩ hstage
    · exact hactive opened rfl hvalidated.active
    · exact hdefault opened rfl hfollows (hvalidated.default hfollows)
  | failed hcallbacks hsession => exact .failed hcallbacks hsession
  | returned => exact .returned

/-- Callbacks of the devices follow the default where the capture does. -/
theorem Knows.follows (h : Knows intent E listeners stage) (callbacks : DeviceEventCallbacks)
    (hcallbacks : listeners.deviceEvents = some callbacks) :
    callbacks.followsDefaultRole = intent.follows := by
  cases h with
  | registeringSession | validating | validated =>
    cases hcallbacks
    rfl
  | failed hfollows hsession => exact hfollows callbacks hcallbacks
  | initializing | locating | openingRegistry | resolving | opening | registeringDevice
  | returned => cases hcallbacks

/-- Who hears the session hears the devices. -/
theorem Knows.hears (h : Knows intent E listeners stage)
    (hsession : listeners.sessionEvents = true) : listeners.deviceEvents.isSome = true := by
  cases h with
  | validating | validated => rfl
  | failed hfollows hears => exact hears hsession
  | initializing | locating | openingRegistry | resolving | opening | registeringDevice
  | registeringSession | returned => cases hsession

/-- An endpoint that is validated was listed by the enumeration, and what was read of it is known.
-/
theorem isValidated_of_revalidate {discovery after : PlaybackDiscovery} {opened : OpenedEndpoint}
    {enumeration : Enumeration} {enumerated : Except String (List PlaybackEndpointObservation)}
    {files files' : RegistryFiles} {applyFault advanceFault : Option Interruption}
    (hregistry : Wellformed discovery.registry.toRegistryContents)
    (hopened : IsOpened intent E opened)
    (hreads : enumeration.Reads opened.endpointId (E.active opened.endpointId)
      (intent.follows = true → E.default opened.endpointId))
    (hresult : enumeration.result = some enumerated)
    (hrevalidate : discovery.revalidateCapture intent opened.binding enumerated files applyFault
      advanceFault = (some (.ok ()), after, files')) :
    IsValidated intent E after opened := by
  obtain ⟨snapshot, hrefresh, hresolve⟩ :=
    PlaybackDiscovery.revalidateCapture_eq_ok hopened.wanted hrevalidate
  obtain ⟨observations, rfl, entry, hentry, hid, hlive, hkey, hlisted, hdefault⟩ :=
    PlaybackDiscovery.listed_of_resolveCapture hregistry hrefresh hresolve
  have hendpoint : entry.continuity.backendKey = opened.endpointId :=
    hkey.trans opened.endpointId_eq
  -- An enumeration that is complete has read its endpoints.
  obtain ⟨defaultEndpointId, rfl⟩ :
      ∃ defaultEndpointId, enumeration = .reading defaultEndpointId [] observations := by
    unfold Enumeration.result at hresult
    split at hresult <;> cases hresult
    exact ⟨_, rfl⟩
  refine ⟨⟨entry, hentry, hid, hlive, hendpoint⟩, ?_, fun hfollows => ?_⟩
  · obtain ⟨observation, hobservation, hactive, hstable⟩ := hlisted
    obtain ⟨id, hread, -, hknown⟩ := hreads.observations _ _ _ rfl observation hobservation
    have hevidence := ObservedContinuity.stable.inj (hstable.symm.trans hread)
    rw [hevidence] at hendpoint
    exact hknown hendpoint hactive
  · obtain ⟨observation, hobservation, hisDefault, hstable⟩ := hdefault hfollows
    obtain ⟨id, hread, hreadDefault, -⟩ :=
      hreads.observations _ _ _ rfl observation hobservation
    have hevidence := ObservedContinuity.stable.inj (hstable.symm.trans hread)
    rw [hevidence] at hendpoint
    have hendpoint : id = opened.endpointId := hendpoint
    subst hendpoint
    exact hreads.default [] observations (congrArg (Enumeration.reading · [] observations)
      (hreadDefault hisDefault)) hfollows

/-- A step of the startup keeps what is known. -/
theorem Starts.knows {a : StartupAction} (hstarts : Starts intent s a s')
    (hopens : ∀ calls discovery opened, a = .openEndpoint calls →
      s.stage = .opening discovery opened.binding → OpensAs opened.binding calls opened →
        E.opened opened)
    (hactive : ∀ opened, s.listeners = ⟨some (callbacksOf intent opened), true⟩ →
      s.watch.subject.IsActive opened.endpointId → E.active opened.endpointId)
    (hdefault : ∀ opened, s.listeners = ⟨some (callbacksOf intent opened), true⟩ →
      s.watch.subject.IsDefault opened.endpointId → E.default opened.endpointId)
    (h : Knows intent E s.listeners s.stage) : Knows intent E s'.listeners s'.stage := by
  obtain ⟨w, listeners, files, stopRequested, now, deadline, stage, handoff⟩ := s
  cases hstarts with
  | proceeds hproceeds =>
    cases hproceeds with
    | initializeMta =>
      cases h with
      | initializing => exact .locating
      | validated _ _ hstage => cases hstage
    | locate =>
      cases h with
      | locating => exact .openingRegistry
      | validated _ _ hstage => cases hstage
    | check =>
      cases h with
      | validated hopened hvalidated hstage =>
        cases hstage
        exact .validated hopened hvalidated .startingStream
    | startStream =>
      cases h with
      | validated hopened hvalidated hstage =>
        cases hstage
        exact .validated hopened hvalidated .confirming
    | confirm =>
      cases h with
      | validated hopened hvalidated hstage =>
        cases hstage
        exact .validated hopened hvalidated .announcing
  | fails hstage => exact .failed h.follows h.hears
  | opensRegistry hstage hnew =>
    cases hstage
    cases h with
    | openingRegistry => exact .resolving (PlaybackDiscovery.new_wellformed hnew)
    | validated _ _ hstage => cases hstage
  | enumerates hstage hstep =>
    cases hstage
    cases h with
    | resolving hregistry => exact .resolving hregistry
    | @validating discovery opened enumeration hregistry hopened hreads =>
      exact .validating hregistry hopened (hreads.step (hactive opened rfl)
        (fun hread _ => hdefault opened rfl hread) hstep)
    | validated _ _ hstage => cases hstage
  | resolves hstage hresult hrefresh =>
    cases hstage
    cases h with
    | resolving hregistry =>
      obtain ⟨snapshot, hrefresh, hresolve⟩ := PlaybackDiscovery.refreshCapture_eq_ok hrefresh
      refine .opening (PlaybackDiscovery.refresh_wellformed hregistry hrefresh) ?_
      intro sourceId hintent
      exact ((PlaybackDiscovery.resolveCapture_eq_ok hresolve).1 sourceId hintent).1
    | validated _ _ hstage => cases hstage
  | validates hstage hresult hrevalidate =>
    cases hstage
    cases h with
    | validating hregistry hopened hreads =>
      have hvalidated :=
        isValidated_of_revalidate hregistry hopened hreads hresult hrevalidate
      exact .validated hopened hvalidated .checking
    | validated _ _ hstage => cases hstage
  | @opens discovery binding calls opened hstage hopen =>
    cases hstage
    cases h with
    | opening hregistry hwanted =>
      have hopensAs := opensAs_of_openEndpoint hopen
      cases hopensAs.binding
      exact .registeringDevice hregistry ⟨hwanted, hopens calls discovery opened rfl rfl hopensAs⟩
    | validated _ _ hstage => cases hstage
  | registersDevice hstage =>
    cases hstage
    cases h with
    | registeringDevice hregistry hopened => exact .registeringSession hregistry hopened
    | validated _ _ hstage => cases hstage
  | registersSession hstage =>
    cases hstage
    cases h with
    | registeringSession hregistry hopened =>
      exact .validating hregistry hopened Enumeration.reads_starting
    | validated _ _ hstage => cases hstage

/-- What a step of the hand-off is to the startup keeps what is known. -/
theorem Knows.follow (h : Knows intent E s.listeners s.stage) (limit : RunLimit)
    (a : Handoff.Action) :
    Knows intent E (s.follow limit a).listeners (s.follow limit a).stage := by
  cases a with
  | start started =>
    dsimp only [EndpointCapture.follow]
    split
    next hstage =>
      obtain ⟨w, listeners, files, stopRequested, now, deadline, stage, handoff⟩ := s
      cases hstage
      cases h with
      | validated hopened hvalidated hstage =>
        cases hstage
        exact .validated hopened hvalidated .capturing
    next => exact h
  | leaveInner => exact .returned
  | failStart | failDeadline | enterLoop | leaveLoop | takeBuffer | failRead | sendPacket
  | stopStream | sendEnded | sendFailed | leaveThread | receive | recycle | dropRecycle
  | leaveProcess => exact h

/-! ## What a run has shown -/

variable {S : TransitionSystem EndpointCapture (Action × Handoff.Output)} {s₀ : EndpointCapture}
  {labels : List (Action × Handoff.Output)} {l : Action × Handoff.Output} {a : Action}
  {output : Handoff.Output}

/-- The endpoint was opened in a run, for its source and as the platform returned it. -/
def WasOpened (S : TransitionSystem EndpointCapture (Action × Handoff.Output))
    (s₀ : EndpointCapture) (labels : List (Action × Handoff.Output)) (opened : OpenedEndpoint) :
    Prop :=
  ∃ before calls output after t discovery,
    labels = before ++ (.startup (.openEndpoint calls), output) :: after ∧
      S.Run s₀ before t ∧ t.stage = .opening discovery opened.binding ∧
      OpensAs opened.binding calls opened

/-- At a moment of a run with the callbacks registered, the devices were so. -/
def Saw (S : TransitionSystem EndpointCapture (Action × Handoff.Output)) (s₀ : EndpointCapture)
    (labels : List (Action × Handoff.Output)) (callbacks : DeviceEventCallbacks)
    (p : Endpoints → Prop) : Prop :=
  ∃ before after t, labels = before ++ after ∧ S.Run s₀ before t ∧
    t.listeners = ⟨some callbacks, true⟩ ∧ p t.watch.subject

/-- What was opened stays so. -/
theorem WasOpened.snoc {opened : OpenedEndpoint} (h : WasOpened S s₀ labels opened) :
    WasOpened S s₀ (labels ++ [l]) opened := by
  obtain ⟨before, calls, output, after, t, discovery, rfl, hopened⟩ := h
  exact ⟨before, calls, output, after ++ [l], t, discovery, by simp, hopened⟩

/-- What was seen stays so. -/
theorem Saw.snoc {callbacks : DeviceEventCallbacks} {p : Endpoints → Prop}
    (h : Saw S s₀ labels callbacks p) : Saw S s₀ (labels ++ [l]) callbacks p := by
  obtain ⟨before, after, t, rfl, hseen⟩ := h
  exact ⟨before, after ++ [l], t, List.append_assoc _ _ _, hseen⟩

/-- What a run has shown: what was opened, and what was seen of the devices with the callbacks
registered, which is guarded since. -/
def evidence (intent : PlaybackCaptureIntent)
    (S : TransitionSystem EndpointCapture (Action × Handoff.Output)) (s₀ : EndpointCapture)
    (labels : List (Action × Handoff.Output)) (w : EndpointWatch) : Evidence where
  opened := WasOpened S s₀ labels
  active id :=
    Saw S s₀ labels ⟨id, intent.follows⟩ (Endpoints.IsActive id) ∧
      w.Guards (Listeners.signal ⟨some ⟨id, intent.follows⟩, true⟩) (Endpoints.IsActive id)
  default id :=
    Saw S s₀ labels ⟨id, intent.follows⟩ (Endpoints.IsDefault id) ∧
      w.Guards (Listeners.signal ⟨some ⟨id, intent.follows⟩, true⟩) (Endpoints.IsDefault id)

/-- Every step keeps what is known, and shows more. -/
theorem Knows.step (hrun : S.Run s₀ labels s)
    (h : Knows intent (evidence intent S s₀ labels s.watch) s.listeners s.stage)
    (hstep : s.step intent limit processId streamSequence a = some (output, s')) :
    Knows intent (evidence intent S s₀ (labels ++ [(a, output)]) s'.watch) s'.listeners
      s'.stage := by
  -- A step that leaves the devices as they are leaves what was shown.
  have hlater : Knows intent (evidence intent S s₀ (labels ++ [(a, output)]) s.watch) s.listeners
      s.stage := h.mono (fun _ hopened => hopened.snoc)
    (fun _ _ hactive => ⟨hactive.1.snoc, hactive.2⟩)
    fun _ _ _ hdefault => ⟨hdefault.1.snoc, hdefault.2⟩
  cases a with
  | device event =>
    cases hstep
    refine hlater.mono (fun _ hopened => hopened) ?_ ?_
    · intro opened hlisteners hactive
      refine ⟨hactive.1, ?_⟩
      dsimp only
      rw [hlisteners]
      exact guards_isActive_apply (callbacksOf intent opened) event hactive.2
    · intro opened hlisteners hfollows hdefault
      refine ⟨hdefault.1, ?_⟩
      dsimp only
      rw [hlisteners]
      exact guards_isDefault_apply (callbacksOf intent opened) event hfollows hdefault.2
  | callback i =>
    obtain ⟨w, hhandle, heq⟩ := Option.map_eq_some_iff.mp hstep
    cases heq
    refine hlater.mono (fun _ hopened => hopened) ?_ ?_
    · intro opened hlisteners hactive
      rw [hlisteners] at hhandle
      exact ⟨hactive.1, hactive.2.handle hhandle⟩
    · intro opened hlisteners _ hdefault
      rw [hlisteners] at hhandle
      exact ⟨hdefault.1, hdefault.2.handle hhandle⟩
  | requestStop | elapse nanos =>
    cases hstep
    exact hlater
  | startup a =>
    obtain ⟨started, hstartup, heq⟩ := Option.map_eq_some_iff.mp hstep
    cases heq
    have hstarts := starts_of_startupStep hstartup
    have hwatch : s'.watch = s.watch := by
      cases hstarts <;> rfl
    rw [hwatch]
    apply hstarts.knows _ _ _ hlater
    · rintro calls discovery opened rfl hstage hopens
      exact ⟨labels, calls, _, [], s, discovery, rfl, hrun, hstage, hopens⟩
    · exact fun opened hlisteners hactive =>
        ⟨⟨labels, _, s, rfl, hrun, hlisteners, hactive⟩, .of_saw hactive⟩
    · exact fun opened hlisteners hdefault =>
        ⟨⟨labels, _, s, rfl, hrun, hlisteners, hdefault⟩, .of_saw hdefault⟩
  | handoff a =>
    dsimp only [EndpointCapture.step] at hstep
    split at hstep
    next =>
      obtain ⟨r, -, heq⟩ := Option.map_eq_some_iff.mp hstep
      cases heq
      cases a with
      | leaveInner => exact .returned
      | start started =>
        have hwatch : (s.follow limit (.start started)).watch = s.watch := by
          unfold EndpointCapture.follow
          dsimp only
          split <;> rfl
        have hfollow := hlater.follow limit (.start started)
        rw [← hwatch] at hfollow
        exact hfollow
      | failStart | failDeadline | enterLoop | leaveLoop | takeBuffer | failRead | sendPacket
      | stopStream | sendEnded | sendFailed | leaveThread | receive | recycle | dropRecycle
      | leaveProcess => exact hlater
    next => cases hstep

/-- Only a step of the hand-off sends a message. -/
theorem handoff_of_sent (hstep : s.step intent limit processId streamSequence a = some (output, s'))
    {message : CaptureMessage} (hsent : output.sent = some message) :
    ∃ action handoff, s.permits limit action = true ∧
      s.handoff.step processId streamSequence action = some (output, handoff) ∧
      s' = { s.follow limit action with handoff } := by
  cases a with
  | handoff a =>
    dsimp only [EndpointCapture.step] at hstep
    split at hstep
    next hpermits =>
      obtain ⟨⟨output', handoff⟩, hhandoff, heq⟩ := Option.map_eq_some_iff.mp hstep
      cases heq
      exact ⟨a, handoff, hpermits, hhandoff, rfl⟩
    next => cases hstep
  | device event =>
    cases hstep
    cases hsent
  | requestStop | elapse nanos =>
    cases hstep
    cases hsent
  | callback i =>
    obtain ⟨w, -, heq⟩ := Option.map_eq_some_iff.mp hstep
    cases heq
    cases hsent
  | startup a =>
    obtain ⟨started, -, heq⟩ := Option.map_eq_some_iff.mp hstep
    cases heq
    cases hsent

variable {endpoints : Endpoints} {files : RegistryFiles}

/-- The steps of the hand-off in a run. -/
def handoffLabels (labels : List (Action × Handoff.Output)) : List Handoff.Label :=
  labels.filterMap fun l =>
    match l.1 with
    | .handoff action => some (action, l.2)
    | _ => none

/-- The two threads take the steps of a hand-off in every run, so what holds of every hand-off holds
of that of a capture. -/
theorem handoff_of_run (h : (system intent limit processId streamSequence).Run
    (initial endpoints files) labels s) :
    (Handoff.interleavings processId streamSequence).Run .initial (handoffLabels labels)
      s.handoff := by
  apply TransitionSystem.Run.history (I := fun labels (s : EndpointCapture) =>
    (Handoff.interleavings processId streamSequence).Run .initial (handoffLabels labels)
      s.handoff) ?_ ?_ h
  · rfl
  intro labels s l s' _ hrun hstep
  obtain ⟨a, output⟩ := l
  have hstep : s.step intent limit processId streamSequence a = some (output, s') := hstep
  unfold handoffLabels at hrun ⊢
  rw [List.filterMap_append]
  cases a with
  | handoff action =>
    dsimp only [EndpointCapture.step] at hstep
    split at hstep
    next =>
      obtain ⟨⟨output', handoff⟩, hhandoff, heq⟩ := Option.map_eq_some_iff.mp hstep
      cases heq
      exact TransitionSystem.run_snoc.mpr ⟨s.handoff, hrun, hhandoff⟩
    next => cases hstep
  | device event | requestStop | elapse nanos =>
    cases hstep
    simpa using hrun
  | callback i =>
    obtain ⟨w, -, heq⟩ := Option.map_eq_some_iff.mp hstep
    cases heq
    simpa using hrun
  | startup a =>
    obtain ⟨started, hstartup, heq⟩ := Option.map_eq_some_iff.mp hstep
    cases heq
    have hsame : s'.handoff = s.handoff := by
      cases starts_of_startupStep hstartup <;> rfl
    rw [hsame]
    simpa using hrun

/-- What is known in every run. -/
theorem knows_of_run (h : (system intent limit processId streamSequence).Run
    (initial endpoints files) labels s) :
    Knows intent (evidence intent (system intent limit processId streamSequence)
      (initial endpoints files) labels s.watch) s.listeners s.stage := by
  apply TransitionSystem.Run.history (I := fun labels (s : EndpointCapture) =>
    Knows intent (evidence intent (system intent limit processId streamSequence)
      (initial endpoints files) labels s.watch) s.listeners s.stage) .initializing ?_ h
  intro labels s l s' hrun hknows hstep
  exact hknows.step hrun hstep

/-! ## The endpoint -/

/-- Speakers that are active and the default. -/
def exampleDevices : Endpoints where
  state id := if id = "speakers" then .active else .notPresent
  defaultDevice direction role :=
    if direction = .render ∧ role = .console then some "speakers" else none

/-- The speakers, in stereo. -/
def exampleCalls : EndpointCalls where
  enumerator := .ok ()
  device := .ok ()
  endpointId := .ok "speakers"
  endpointName := .ok "Speakers"
  audioClient := .ok ()
  mixFormat := .ok (48000, 2)
  devicePeriod := .ok ()
  initializeClient := .ok ()
  eventHandle := .ok ()
  bufferSize := .ok 480
  captureClient := .ok ()

/-- A refresh that lists the speakers. -/
def refreshActions : List Action :=
  [.startup (.enumerate (.collect ["speakers"])), .startup (.enumerate .readDefault),
    .startup (.enumerate (.readEndpoint "Speakers")), .startup (.refresh none none "")]

/-- A startup. -/
def startupActions : List Action :=
  [.startup (.initializeMta (.ok ())), .startup (.locate true),
      .startup (.openRegistry (generateNamespace 1 2) none "")] ++ refreshActions ++
    [.startup (.openEndpoint exampleCalls), .startup (.registerDeviceEvents (.ok ())),
      .startup (.registerSessionEvents (.ok ()) (.ok ()))] ++ refreshActions ++
    [.startup .check, .startup (.startStream (.ok ())), .startup .check]

/-- The stream of the speakers. -/
def exampleStarted : CaptureStarted where
  sourceId := ⟨"id-ns-1-2-1", by decide⟩
  endpointName := "Speakers"
  nativeSampleRateHz := 48000
  nativeChannelCount := 2
  maximumPacketFrames := 480
  format := ⟨.rate48k, .positioned
    ⟨[.frontLeft, .frontRight], by decide, by decide, by decide, by decide⟩⟩

/-- The speakers are removed before their stream is announced. -/
def removingActions : List Action := startupActions ++ [.device (.removed "speakers")]

/-- The speakers are removed while they are captured. -/
def removalActions : List Action :=
  startupActions ++ [.handoff (.start exampleStarted), .device (.removed "speakers"), .callback 0,
    .handoff .enterLoop, .handoff (.leaveLoop (.ok .sourceUnavailable)),
    .handoff (.stopStream none)]

/-- The run of some actions on the speakers. -/
def exampleRun (actions : List Action) : List (Action × Handoff.Output) × EndpointCapture :=
  (TransitionSystem.trace (step .defaultPlayback .untilStopped 1 1) (fun _ _ => true)
    (initial exampleDevices .none) actions).getD ([], initial exampleDevices .none)

/-- The actions can be taken. -/
def canRun (actions : List Action) : Bool :=
  (TransitionSystem.trace (step .defaultPlayback .untilStopped 1 1) (fun _ _ => true)
    (initial exampleDevices .none) actions).isSome

/-- Actions that can be taken are those of a run. -/
theorem run_exampleRun {actions : List Action} (hruns : canRun actions = true) :
    (system .defaultPlayback .untilStopped 1 1).Run (initial exampleDevices .none)
      (exampleRun actions).1 (exampleRun actions).2 :=
  TransitionSystem.run_of_trace_isSome hruns

/-- Its endpoint was validated. -/
theorem exists_hasValidated {stage : StartupStage} (h : stage.isAnnouncing = true) :
    ∃ discovery opened, HasValidated discovery opened stage := by
  cases stage with
  | announcing discovery opened => exact ⟨discovery, opened, .announcing⟩
  | _ => cases h

/-- A message is sent after a run of some actions. -/
theorem exists_sent (actions : List Action) (action : Action) (message : CaptureMessage)
    (hruns : canRun actions = true)
    (hsends : ((exampleRun actions).2.step .defaultPlayback .untilStopped 1 1 action).map
      (fun r => r.1.sent) = some (some message)) :
    ∃ output s, (system .defaultPlayback .untilStopped 1 1).Run (initial exampleDevices .none)
      ((exampleRun actions).1 ++ [(action, output)]) s ∧ output.sent = some message := by
  obtain ⟨⟨output, s⟩, hstep, hsent⟩ := Option.map_eq_some_iff.mp hsends
  exact ⟨output, s, TransitionSystem.run_snoc.mpr ⟨_, run_exampleRun hruns, hstep⟩, hsent⟩

/-- The endpoint is active, and the default if the capture follows it, or the end signal is set, or
a callback is still to run that sets it. -/
def IsWatched (intent : PlaybackCaptureIntent) (s : EndpointCapture) (opened : OpenedEndpoint) :
    Prop :=
  (s.watch.subject.state opened.endpointId = .active ∧ (intent = .defaultPlayback →
      s.watch.subject.defaultDevice .render .console = some opened.endpointId)) ∨
    s.watch.alarm.isSome = true ∨
    ∃ event ∈ s.watch.pending, (s.listeners.signal event).isSome = true

/-- In every run, whatever changes and whichever callbacks run: from its validation to the end of
the capture, the endpoint is active, and the default if the capture follows it, or the end signal is
set, or a callback is still to run that sets it. -/
theorem endpoint_watched (h : (system intent limit processId streamSequence).Run
    (initial endpoints files) labels s) {discovery : PlaybackDiscovery} {opened : OpenedEndpoint}
    (hstage : HasValidated discovery opened s.stage) : s.IsWatched intent opened := by
  have hknows := knows_of_run h
  obtain ⟨w, listeners, files', stopRequested, now, deadline, stage, handoff⟩ := s
  have hvalidated : listeners = ⟨some (callbacksOf intent opened), true⟩ ∧
      IsValidated intent (evidence intent (system intent limit processId streamSequence)
        (initial endpoints files) labels w) discovery opened := by
    cases hstage <;> cases hknows with
    | validated hopened hvalidated hstage =>
      cases hstage
      exact ⟨rfl, hvalidated⟩
  obtain ⟨rfl, hvalidated⟩ := hvalidated
  by_cases hintent : intent = .defaultPlayback
  · rcases hvalidated.active.2.and (hvalidated.default (hintent ▸ rfl)).2 with
      ⟨hactive, hdefault⟩ | halarming
    · exact .inl ⟨hactive, fun _ => hdefault⟩
    · exact .inr halarming
  · rcases hvalidated.active.2 with hactive | halarming
    · exact .inl ⟨hactive, fun hdefault => absurd hdefault hintent⟩
    · exact .inr halarming

/-- The speakers are removed, and the callback is still to run. -/
theorem endpoint_watched_removed : ∃ discovery opened,
    HasValidated discovery opened (exampleRun removingActions).2.stage ∧
      (exampleRun removingActions).2.IsWatched .defaultPlayback opened := by
  have hruns : canRun removingActions = true := by decide +kernel
  have hstage : (exampleRun removingActions).2.stage.isAnnouncing = true := by decide +kernel
  obtain ⟨discovery, opened, hstage⟩ := exists_hasValidated hstage
  exact ⟨discovery, opened, hstage,
    endpoint_watched (run_exampleRun hruns) hstage⟩

/-- What is so of a stream that is announced: it is that of the source that is wanted, and of an
endpoint that was opened in the run. The rate is that of the endpoint's mix format, and there is one
channel exactly where the mix format has one. The source is live in the registry with that endpoint,
whose callbacks are registered; with them registered, the endpoint was active, and the default where
the default is wanted. -/
structure IsAnnounced (intent : PlaybackCaptureIntent)
    (S : TransitionSystem EndpointCapture (Action × Handoff.Output)) (s₀ : EndpointCapture)
    (labels : List (Action × Handoff.Output)) (s : EndpointCapture) (started : CaptureStarted)
    (opened : OpenedEndpoint) : Prop where
  /-- An explicit source is the one that is announced. -/
  explicit : ∀ sourceId, intent = .explicit sourceId → started.sourceId = sourceId
  /-- The stream is that of the endpoint. -/
  stream : started = opened.started
  /-- The endpoint was opened, with a mix format. -/
  endpoint : ∃ before calls output after t discovery,
    labels = before ++ (.startup (.openEndpoint calls), output) :: after ∧ S.Run s₀ before t ∧
      t.stage = .opening discovery opened.binding ∧ calls.endpointId = .ok opened.endpointId ∧
      calls.endpointName = .ok started.endpointName ∧
      calls.mixFormat = .ok (started.nativeSampleRateHz, started.nativeChannelCount) ∧
      calls.bufferSize = .ok started.maximumPacketFrames
  /-- The rate. -/
  sampleRate : started.format.sampleRate.hz = started.nativeSampleRateHz
  /-- The channels. -/
  channelCount : started.nativeChannelCount ≠ 0 ∧
    started.format.channelCount = if started.nativeChannelCount = 1 then 1 else 2
  /-- The source is live. -/
  source : ∃ discovery, s.stage = .capturing discovery opened ∧
    ∃ entry ∈ discovery.registry.entries.values, entry.id = started.sourceId ∧
      entry.state.isLive = true ∧ entry.continuity.backendKey = opened.endpointId
  /-- The callbacks. -/
  listeners : s.listeners = ⟨some ⟨opened.endpointId, intent.follows⟩, true⟩
  /-- The endpoint was active. -/
  active : Saw S s₀ labels ⟨opened.endpointId, intent.follows⟩
    (Endpoints.IsActive opened.endpointId)
  /-- It was the default, where the default is wanted. -/
  default : intent = .defaultPlayback →
    Saw S s₀ labels ⟨opened.endpointId, intent.follows⟩ (Endpoints.IsDefault opened.endpointId)

/-- In every run, the stream that is announced is that of the source that is wanted, in the format
of an endpoint that was opened for it in the run. -/
theorem announced_source {started : CaptureStarted}
    (h : (system intent limit processId streamSequence).Run (initial endpoints files)
      (labels ++ [(a, output)]) s) (hsent : output.sent = some (.started started)) :
    ∃ opened, IsAnnounced intent (system intent limit processId streamSequence)
      (initial endpoints files) labels s started opened := by
  obtain ⟨t, hrun, hstep⟩ := TransitionSystem.run_snoc.mp h
  have hknows := knows_of_run hrun
  obtain ⟨action, handoff, hpermits, hhandoff, rfl⟩ := handoff_of_sent hstep hsent
  -- Only the start of the stream announces one.
  cases Handoff.Effect.of_step hhandoff <;> cases hsent
  dsimp only [permits] at hpermits
  split at hpermits
  next discovery opened hstage =>
    cases of_decide_eq_true hpermits
    obtain ⟨w, listeners, files', stopRequested, now, deadline, stage, handoff⟩ := t
    cases hstage
    cases hknows with
    | validated hopened hvalidated hstage =>
      cases hstage
      obtain ⟨before, calls, output, after, u, found, hlabels, hbefore, hopening, hopens⟩ :=
        hopened.opened
      exact ⟨opened, {
        explicit := hopened.wanted
        stream := rfl
        endpoint := ⟨before, calls, output, after, u, found, hlabels, hbefore, hopening,
          hopens.endpointId, hopens.endpointName, hopens.mixFormat, hopens.bufferSize⟩
        sampleRate := hopens.sampleRate
        channelCount := ⟨hopens.channels, hopens.channelCount⟩
        source := ⟨discovery, rfl, hvalidated.source⟩
        listeners := rfl
        active := hvalidated.active.1
        default := fun hintent => (hvalidated.default (hintent ▸ rfl)).1 }⟩
  next => cases hpermits

/-- The stream of the speakers is announced. -/
theorem announced_source_speakers : ∃ s opened,
    IsAnnounced .defaultPlayback (system .defaultPlayback .untilStopped 1 1)
      (initial exampleDevices .none) (exampleRun startupActions).1 s exampleStarted opened := by
  obtain ⟨output, s, hrun, hsent⟩ := exists_sent startupActions
    (.handoff (.start exampleStarted)) (.started exampleStarted) (by decide +kernel)
    (by decide +kernel)
  exact ⟨s, announced_source hrun hsent⟩

/-! ## The end -/

/-- A change explains the end of a capture: the endpoint is gone or no longer active, another one is
the default that the capture follows, or the audio session is disconnected. -/
inductive Explains (intent : PlaybackCaptureIntent) (endpointId : String) :
    DeviceEvent → CaptureEnd → Prop
  | removed : Explains intent endpointId (.removed endpointId) .sourceUnavailable
  | inactive {state : DeviceState} (hstate : state ≠ .active) :
    Explains intent endpointId (.state endpointId state) .sourceUnavailable
  | otherDefault {id : Option String} (hintent : intent = .defaultPlayback)
    (hid : id ≠ some endpointId) :
    Explains intent endpointId (.defaultDevice .render .console id) .sourceReconfigured
  | sessionRemoved : Explains intent endpointId (.disconnected .deviceRemoval) .sourceUnavailable
  | sessionFormat : Explains intent endpointId (.disconnected .formatChanged) .sourceReconfigured
  | sessionLost {reason : DisconnectReason} (hremoval : reason ≠ .deviceRemoval)
    (hformat : reason ≠ .formatChanged) :
    Explains intent endpointId (.disconnected reason) .interrupted

/-- What sets the end signal explains the end. -/
theorem explains_of_signal {callbacks : DeviceEventCallbacks} {session : Bool}
    {event : DeviceEvent} {value : EndSignal}
    (hfollows : callbacks.followsDefaultRole = intent.follows)
    (h : Listeners.signal ⟨some callbacks, session⟩ event = some value) :
    Explains intent callbacks.endpointId event value.captureEnd := by
  cases event with
  | removed id =>
    have h : callbacks.signal (.removed id) = some value := h
    dsimp only [DeviceEventCallbacks.signal] at h
    split at h
    next hid =>
      cases h
      exact hid ▸ .removed
    next => cases h
  | state id state =>
    have h : callbacks.signal (.state id state) = some value := h
    dsimp only [DeviceEventCallbacks.signal] at h
    split at h
    next hstate =>
      cases h
      exact hstate.1 ▸ .inactive hstate.2
    next => cases h
  | defaultDevice direction role id =>
    have h : callbacks.signal (.defaultDevice direction role id) = some value := h
    dsimp only [DeviceEventCallbacks.signal] at h
    split_ifs at h with hother
    cases h
    obtain ⟨hfollowing, rfl, rfl, hid⟩ := hother
    refine .otherDefault ?_ hid
    rw [hfollows] at hfollowing
    cases intent with
    | defaultPlayback => rfl
    | explicit sourceId => cases hfollowing
  | disconnected reason =>
    dsimp only [Listeners.signal] at h
    split at h
    next =>
      cases h
      cases reason with
      | deviceRemoval => exact .sessionRemoved
      | formatChanged => exact .sessionFormat
      | serverShutdown | sessionLogoff | sessionDisconnected | exclusiveModeOverride | unknown =>
        exact .sessionLost nofun nofun
    next => cases h

/-- A device changed in a run while the callbacks were registered, and that of the session if it is
the session that changed. -/
def Heard (S : TransitionSystem EndpointCapture (Action × Handoff.Output)) (s₀ : EndpointCapture)
    (labels : List (Action × Handoff.Output)) (callbacks : DeviceEventCallbacks)
    (event : DeviceEvent) : Prop :=
  ∃ before output after t, labels = before ++ (.device event, output) :: after ∧
    S.Run s₀ before t ∧ t.listeners.deviceEvents = some callbacks ∧
    ∀ reason, event = .disconnected reason → t.listeners.sessionEvents = true

/-- The duration of a bounded run elapsed: between the beginning of the capture loop and its end,
the clock went on by as much. -/
def Elapsed (limit : RunLimit) (S : TransitionSystem EndpointCapture (Action × Handoff.Output))
    (s₀ : EndpointCapture) (labels : List (Action × Handoff.Output)) : Prop :=
  ∃ duration, limit = .duration duration ∧
    ∃ before entered between left after t u,
      labels = before ++ (.handoff .enterLoop, entered) ::
        (between ++ (.handoff (.leaveLoop (.ok .durationElapsed)), left) :: after) ∧
      S.Run s₀ before t ∧ S.Run s₀ (before ++ (.handoff .enterLoop, entered) :: between) u ∧
      t.now + duration.asNanos ≤ u.now

/-- The hand-off is exhausted at a step of the capture loop: the pool has no buffer for a packet, or
the queue has no room for it. -/
inductive IsExhausted (handoff : Handoff) : Handoff.Action → Prop
  | pool (hthread : handoff.captureThread = .polling) (hempty : handoff.recycle.queue = []) :
    IsExhausted handoff .takeBuffer
  | queue {packet : CapturePacket} {buffer : List UInt8}
    (hthread : handoff.captureThread = .holding buffer)
    (hfull : handoff.capture.queue.length = handoffCapacity) :
    IsExhausted handoff (.sendPacket packet)

/-- The hand-off was exhausted at a step of a run. -/
def Exhausted (S : TransitionSystem EndpointCapture (Action × Handoff.Output))
    (s₀ : EndpointCapture) (labels : List (Action × Handoff.Output)) : Prop :=
  ∃ before action output after t, labels = before ++ (.handoff action, output) :: after ∧
    S.Run s₀ before t ∧ IsExhausted t.handoff action

/-- A capture ended for a reason: a stop was requested, or the duration of the run elapsed, or the
hand-off was exhausted, or a change that the callbacks heard explains it. -/
def Justified (intent : PlaybackCaptureIntent) (limit : RunLimit)
    (S : TransitionSystem EndpointCapture (Action × Handoff.Output)) (s₀ : EndpointCapture)
    (labels : List (Action × Handoff.Output)) (listeners : Listeners) (reason : CaptureEnd) :
    Prop :=
  (reason = .stopRequested ∧ ∃ output, (.requestStop, output) ∈ labels) ∨
    (reason = .durationElapsed ∧ Elapsed limit S s₀ labels) ∨
    (reason = .boundedHandoffExhausted ∧ Exhausted S s₀ labels) ∨
    ∃ callbacks event, listeners.deviceEvents = some callbacks ∧
      Heard S s₀ labels callbacks event ∧ Explains intent callbacks.endpointId event reason

variable {callbacks : DeviceEventCallbacks} {event : DeviceEvent} {reason : CaptureEnd}

/-- What was heard stays heard. -/
theorem Heard.snoc (h : Heard S s₀ labels callbacks event) :
    Heard S s₀ (labels ++ [l]) callbacks event := by
  obtain ⟨before, output, after, t, rfl, hheard⟩ := h
  exact ⟨before, output, after ++ [l], t, by simp, hheard⟩

/-- What elapsed stays so. -/
theorem Elapsed.snoc (h : Elapsed limit S s₀ labels) : Elapsed limit S s₀ (labels ++ [l]) := by
  obtain ⟨duration, hlimit, before, entered, between, left, after, t, u, rfl, helapsed⟩ := h
  exact ⟨duration, hlimit, before, entered, between, left, after ++ [l], t, u, by simp, helapsed⟩

/-- What was exhausted stays so. -/
theorem Exhausted.snoc (h : Exhausted S s₀ labels) : Exhausted S s₀ (labels ++ [l]) := by
  obtain ⟨before, action, output, after, t, rfl, hexhausted⟩ := h
  exact ⟨before, action, output, after ++ [l], t, by simp, hexhausted⟩

/-- A reason stays one while the callbacks are those that were registered. -/
theorem Justified.snoc {listeners' : Listeners}
    (h : Justified intent limit S s₀ labels listeners reason)
    (hlisteners : ∀ callbacks, listeners.deviceEvents = some callbacks →
      listeners'.deviceEvents = some callbacks) :
    Justified intent limit S s₀ (labels ++ [l]) listeners' reason := by
  rcases h with ⟨rfl, output, hstop⟩ | ⟨rfl, helapsed⟩ | ⟨rfl, hexhausted⟩ |
    ⟨callbacks, event, hcallbacks, hheard, hexplains⟩
  · exact .inl ⟨rfl, output, List.mem_append_left [l] hstop⟩
  · exact .inr (.inl ⟨rfl, helapsed.snoc⟩)
  · exact .inr (.inr (.inl ⟨rfl, hexhausted.snoc⟩))
  · exact .inr (.inr (.inr
      ⟨callbacks, event, hlisteners callbacks hcallbacks, hheard.snoc, hexplains⟩))

/-- The reason of an end without a diagnostic. -/
def undiagnosed (termination : CaptureTermination) : Option CaptureEnd :=
  match termination.diagnostic with
  | none => some termination.end
  | some _ => none

/-- The reason that the capture thread has for its end, if it has no diagnostic. -/
def endReason : CaptureThread → Option CaptureEnd
  | .stopping (.ok reason) => some reason
  | .stopping (.error termination) => undiagnosed termination
  | .ending termination => undiagnosed termination
  | _ => none

/-- An end with a diagnostic has no other reason. -/
theorem undiagnosed_eq_none {termination : CaptureTermination}
    (h : termination.diagnostic.isSome = true) : undiagnosed termination = none := by
  unfold undiagnosed
  split
  next hnone =>
    rw [hnone] at h
    cases h
  next => rfl

/-- A step of the hand-off gives the capture thread no reason for its end but that the hand-off is
exhausted, unless it is the one that leaves the capture loop. -/
theorem endReason_of_step {a : Handoff.Action} {handoff : Handoff}
    (hpermits : s.permits limit a = true)
    (hstep : s.handoff.step processId streamSequence a = some (output, handoff))
    (hreason : endReason handoff.captureThread = some reason) :
    endReason s.handoff.captureThread = some reason ∨
      (reason = .boundedHandoffExhausted ∧ IsExhausted s.handoff a) ∨
      a = .leaveLoop (.ok reason) := by
  -- A step of the processing thread leaves the capture thread where it is.
  have hsame (hthread : handoff.captureThread = s.handoff.captureThread) :
      endReason s.handoff.captureThread = some reason ∨
        (reason = .boundedHandoffExhausted ∧ IsExhausted s.handoff a) ∨
        a = .leaveLoop (.ok reason) := .inl (hthread ▸ hreason)
  cases a with
  | leaveLoop loopEnd =>
    dsimp only [Handoff.step] at hstep
    split at hstep <;> cases hstep
    cases loopEnd with
    | ok reason' =>
      cases hreason
      exact .inr (.inr rfl)
    | error termination => cases (undiagnosed_eq_none hpermits).symm.trans hreason
  | failRead termination =>
    dsimp only [Handoff.step] at hstep
    split at hstep <;> cases hstep
    cases (undiagnosed_eq_none hpermits).symm.trans hreason
  | takeBuffer =>
    dsimp only [Handoff.step] at hstep
    split at hstep
    next hthread =>
      split at hstep
      next => cases hstep; cases hreason
      next hrecv =>
        cases hstep
        cases hreason
        exact .inr (.inl ⟨rfl, .pool hthread (Channel.tryRecv_empty_iff.mp hrecv).1⟩)
      next => cases hstep; cases hreason
    next => cases hstep
  | sendPacket packet =>
    dsimp only [Handoff.step] at hstep
    split at hstep
    next hthread =>
      split at hstep
      next =>
        split at hstep
        next => cases hstep; cases hreason
        next hsend =>
          cases hstep
          cases hreason
          exact .inr (.inl ⟨rfl, .queue hthread (Channel.trySend_full_iff.mp hsend).2⟩)
        next => cases hstep; cases hreason
      next => cases hstep
    next => cases hstep
  | stopStream failure =>
    dsimp only [Handoff.step] at hstep
    split at hstep
    next loopEnd hthread =>
      cases hstep
      rw [hthread]
      cases loopEnd with
      | error termination => exact .inl hreason
      | ok reason' =>
        cases failure with
        | none => exact .inl hreason
        | some termination => cases (undiagnosed_eq_none hpermits).symm.trans hreason
    next => cases hstep
  | start | failStart | failDeadline | enterLoop | sendEnded | leaveInner | sendFailed
  | leaveThread =>
    -- Nor is there a reason after any of these.
    dsimp only [Handoff.step] at hstep
    repeat' split at hstep
    all_goals
      cases hstep
      try cases hreason
  | receive | recycle =>
    dsimp only [Handoff.step] at hstep
    repeat' split at hstep
    all_goals
      cases hstep
      try exact hsame rfl
  | dropRecycle | leaveProcess =>
    dsimp only [Handoff.step] at hstep
    split at hstep <;> cases hstep
    exact hsame rfl

/-- The capture thread has left `capture_thread_inner`. -/
inductive HasLeft : CaptureThread → Prop
  | failing {failure : CaptureFailure} : HasLeft (.failing failure)
  | leaving : HasLeft .leaving
  | returned : HasLeft .returned

/-- A thread that has left has no reason. -/
theorem HasLeft.endReason {thread : CaptureThread} (h : HasLeft thread) :
    endReason thread = none := by
  cases h <;> rfl

/-- A thread that has left does not come back, and one that leaves has left. -/
theorem hasLeft_of_step {a : Handoff.Action} {handoff : Handoff}
    (hstep : s.handoff.step processId streamSequence a = some (output, handoff))
    (h : a = .leaveInner ∨ HasLeft s.handoff.captureThread) : HasLeft handoff.captureThread := by
  rcases h with rfl | hleft
  · dsimp only [Handoff.step] at hstep
    split at hstep <;> cases hstep
    · exact .leaving
    · exact .failing
  · generalize hthread : s.handoff.captureThread = thread at hleft
    cases a with
    | receive | recycle | dropRecycle | leaveProcess =>
      have hleft : HasLeft s.handoff.captureThread := hthread ▸ hleft
      dsimp only [Handoff.step] at hstep
      repeat' split at hstep
      all_goals
        cases hstep
        try exact hleft
    | sendFailed =>
      dsimp only [Handoff.step] at hstep
      repeat' split at hstep
      all_goals
        cases hstep
        try exact .leaving
    | leaveThread =>
      dsimp only [Handoff.step] at hstep
      split at hstep <;> cases hstep
      exact .returned
    | start | failStart | failDeadline | enterLoop | leaveLoop | takeBuffer | failRead | sendPacket
    | stopStream | sendEnded | leaveInner =>
      dsimp only [Handoff.step] at hstep
      rw [hthread] at hstep
      cases hleft <;> cases hstep

/-- The notices were heard with the callbacks that are registered. -/
def HeardBy (S : TransitionSystem EndpointCapture (Action × Handoff.Output)) (s₀ : EndpointCapture)
    (labels : List (Action × Handoff.Output)) (listeners : Listeners) (event : DeviceEvent) :
    Prop :=
  ∃ callbacks, listeners.deviceEvents = some callbacks ∧ Heard S s₀ labels callbacks event

/-- What a run explains: the end signal and its notices, a stop that is requested, the deadline, and
the reason of the capture thread for its end. -/
structure Accounts (intent : PlaybackCaptureIntent) (limit : RunLimit)
    (S : TransitionSystem EndpointCapture (Action × Handoff.Output)) (s₀ : EndpointCapture)
    (labels : List (Action × Handoff.Output)) (s : EndpointCapture) : Prop where
  /-- What is known at the stage. -/
  knows : Knows intent (evidence intent S s₀ labels s.watch) s.listeners s.stage
  /-- The end signal is that of a notice that was heard. -/
  stems : s.stage ≠ .returned →
    s.watch.Stems s.listeners.signal (HeardBy S s₀ labels s.listeners)
  /-- A stop was requested. -/
  stop : s.stopRequested = true → ∃ output, (.requestStop, output) ∈ labels
  /-- The deadline is that of a loop that began. -/
  deadline : ∀ deadline, s.deadline = some deadline → ∃ duration, limit = .duration duration ∧
    ∃ before entered after t, labels = before ++ (.handoff .enterLoop, entered) :: after ∧
      S.Run s₀ before t ∧ deadline = t.now + duration.asNanos
  /-- The thread has a reason. -/
  reason : ∀ reason, endReason s.handoff.captureThread = some reason →
    Justified intent limit S s₀ labels s.listeners reason
  /-- After its return, the thread has left. -/
  left : s.stage = .returned → HasLeft s.handoff.captureThread

/-- A stop stays requested. -/
theorem Accounts.stop_snoc (h : Accounts intent limit S s₀ labels s)
    (hstop : s.stopRequested = true) :
    ∃ output, (.requestStop, output) ∈ labels ++ [l] := by
  obtain ⟨output, hmem⟩ := h.stop hstop
  exact ⟨output, List.mem_append_left [l] hmem⟩

/-- A deadline stays that of its loop. -/
theorem Accounts.deadline_snoc (h : Accounts intent limit S s₀ labels s) (deadline : ℕ)
    (hdeadline : s.deadline = some deadline) : ∃ duration, limit = .duration duration ∧
      ∃ before entered after t, labels ++ [l] = before ++ (.handoff .enterLoop, entered) :: after ∧
        S.Run s₀ before t ∧ deadline = t.now + duration.asNanos := by
  obtain ⟨duration, hlimit, before, entered, after, t, rfl, hbegan⟩ := h.deadline deadline hdeadline
  exact ⟨duration, hlimit, before, entered, after ++ [l], t, by simp, hbegan⟩

/-- What was heard stays heard. -/
theorem Accounts.stems_snoc (h : Accounts intent limit S s₀ labels s)
    (hstage : s.stage ≠ .returned) :
    s.watch.Stems s.listeners.signal (HeardBy S s₀ (labels ++ [l]) s.listeners) := by
  apply (h.stems hstage).mono
  rintro event ⟨callbacks, hcallbacks, hheard⟩
  exact ⟨callbacks, hcallbacks, hheard.snoc⟩

/-- A reason stays one. -/
theorem Accounts.reason_snoc (h : Accounts intent limit S s₀ labels s) (reason : CaptureEnd)
    (hreason : endReason s.handoff.captureThread = some reason) :
    Justified intent limit S s₀ (labels ++ [l]) s.listeners reason :=
  (h.reason reason hreason).snoc fun _ hcallbacks => hcallbacks

/-- A notice that is sent is heard. -/
theorem Accounts.heardBy (h : Accounts intent limit S s₀ labels s) (hrun : S.Run s₀ labels s)
    {notice : DeviceEvent} (hnotice : notice ∈ s.listeners.notices event) :
    HeardBy S s₀ (labels ++ [(.device event, output)]) s.listeners notice := by
  obtain rfl := Listeners.eq_of_mem_notices hnotice
  have hlistens : s.listeners.deviceEvents.isSome = true ∧
      ∀ reason, notice = .disconnected reason → s.listeners.sessionEvents = true := by
    cases notice with
    | disconnected reason =>
      dsimp only [Listeners.notices] at hnotice
      split at hnotice
      next hsession => exact ⟨h.knows.hears hsession, fun _ _ => hsession⟩
      next => cases hnotice
    | removed | state | defaultDevice =>
      dsimp only [Listeners.notices] at hnotice
      split at hnotice
      next hsome => exact ⟨hsome, nofun⟩
      next => cases hnotice
  obtain ⟨callbacks, hcallbacks⟩ := Option.isSome_iff_exists.mp hlistens.1
  exact ⟨callbacks, hcallbacks, labels, output, [], s, rfl, hrun, hcallbacks, hlistens.2⟩

/-- A step of the startup explains what it did before. -/
theorem Accounts.starts {a : StartupAction} (h : Accounts intent limit S s₀ labels s)
    (hknows : Knows intent (evidence intent S s₀ (labels ++ [l]) s'.watch) s'.listeners s'.stage)
    (hstarts : Starts intent s a s') : Accounts intent limit S s₀ (labels ++ [l]) s' := by
  have hstays (hstage : s.stage ≠ .returned) := h.stems_snoc (l := l) hstage
  have hreason := h.reason_snoc (l := l)
  obtain ⟨w, listeners, files, stopRequested, now, deadline, stage, handoff⟩ := s
  cases hstarts with
  | proceeds hproceeds =>
    refine ⟨hknows, fun _ => hstays ?_, h.stop_snoc, h.deadline_snoc, hreason, ?_⟩
    · cases hproceeds <;> nofun
    · cases hproceeds <;> nofun
  | fails hstage =>
    exact ⟨hknows, fun _ => hstays hstage, h.stop_snoc, h.deadline_snoc, hreason, nofun⟩
  | opensRegistry hstage | enumerates hstage | resolves hstage | validates hstage | opens hstage =>
    cases hstage
    exact ⟨hknows, fun _ => hstays nofun, h.stop_snoc, h.deadline_snoc, hreason, nofun⟩
  | registersDevice hstage =>
    cases hstage
    -- Nothing was heard before.
    have hnone : listeners.deviceEvents = none := by
      cases h.knows with
      | registeringDevice => rfl
      | validated _ _ hstage => cases hstage
    refine ⟨hknows, fun _ => ?_, h.stop_snoc, h.deadline_snoc, fun reason hr => ?_, nofun⟩
    · have hnothing : ∀ event, ¬HeardBy S s₀ (labels ++ [l]) listeners event := by
        rintro event ⟨callbacks, hcallbacks, -⟩
        cases hnone.symm.trans hcallbacks
      apply ((hstays nofun).congr fun event _ hheard => absurd hheard (hnothing event)).mono
      exact fun event hheard => absurd hheard (hnothing event)
    · apply (h.reason reason hr).snoc
      intro callbacks hcallbacks
      cases hnone.symm.trans hcallbacks
  | registersSession hstage =>
    cases hstage
    refine ⟨hknows, fun _ => ?_, h.stop_snoc, h.deadline_snoc, hreason, nofun⟩
    cases h.knows with
    | registeringSession =>
      exact (hstays nofun).congr fun event value _ hvalue => Listeners.signal_sessionEvents hvalue
    | validated _ _ hstage => cases hstage

/-- The capture loop is left for a reason. -/
theorem Accounts.leavesLoop (hrun : S.Run s₀ labels s) (h : Accounts intent limit S s₀ labels s)
    (hstage : s.stage ≠ .returned) (hleaves : s.leavesLoop (.ok reason) = true) :
    Justified intent limit S s₀ (labels ++ [(.handoff (.leaveLoop (.ok reason)), output)])
      s.listeners reason := by
  -- Without a stop or a deadline, the end signal is set.
  have hsignal (halarm : s.watch.alarm.map EndSignal.captureEnd = some reason) :
      Justified intent limit S s₀ (labels ++ [(.handoff (.leaveLoop (.ok reason)), output)])
        s.listeners reason := by
    obtain ⟨value, hset, rfl⟩ := Option.map_eq_some_iff.mp halarm
    obtain ⟨event, ⟨callbacks, hcallbacks, hheard⟩, hvalue⟩ := (h.stems hstage).alarm value hset
    have hlisteners : s.listeners = ⟨some callbacks, s.listeners.sessionEvents⟩ := by
      rw [← hcallbacks]
    rw [hlisteners] at hvalue
    exact .inr (.inr (.inr ⟨callbacks, event, hcallbacks, hheard.snoc,
      explains_of_signal (h.knows.follows callbacks hcallbacks) hvalue⟩))
  cases reason with
  | stopRequested => exact .inl ⟨rfl, h.stop_snoc hleaves⟩
  | durationElapsed =>
    obtain ⟨deadline, hdeadline, hpassed⟩ :
        ∃ deadline, s.deadline = some deadline ∧ deadline ≤ s.now := by
      simpa [EndpointCapture.leavesLoop, Option.any_eq_true] using hleaves
    obtain ⟨duration, hlimit, before, entered, between, t, rfl, hbefore, rfl⟩ :=
      h.deadline deadline hdeadline
    exact .inr (.inl ⟨rfl, duration, hlimit, before, entered, between, output, [], t, s, by simp,
      hbefore, hrun, hpassed⟩)
  | sourceReconfigured | sourceUnavailable | interrupted | dataDiscontinuity
  | boundedHandoffExhausted | failed => exact hsignal (of_decide_eq_true hleaves)

/-- What a step of the hand-off is to the devices, the callbacks and the stop token: nothing, but
for the return of the thread. -/
theorem follow_eq (limit : RunLimit) (a : Handoff.Action) : a = .leaveInner ∨
    ((s.follow limit a).watch = s.watch ∧ (s.follow limit a).listeners = s.listeners ∧
      ((s.follow limit a).stage = .returned ↔ s.stage = .returned)) := by
  cases a with
  | leaveInner => exact .inl rfl
  | start started =>
    refine .inr ?_
    dsimp only [follow]
    split
    next hstage => exact ⟨rfl, rfl, by rw [hstage]; constructor <;> nofun⟩
    next => exact ⟨rfl, rfl, Iff.rfl⟩
  | failStart | failDeadline | enterLoop | leaveLoop | takeBuffer | failRead | sendPacket
  | stopStream | sendEnded | sendFailed | leaveThread | receive | recycle | dropRecycle
  | leaveProcess => exact .inr ⟨rfl, rfl, Iff.rfl⟩

/-- A step of the hand-off leaves the stop token. -/
theorem follow_stopRequested (limit : RunLimit) (a : Handoff.Action) :
    (s.follow limit a).stopRequested = s.stopRequested := by
  unfold follow
  split
  next => split <;> rfl
  next => rfl
  next => rfl
  next => rfl

/-- The deadline is that of the beginning of the loop. -/
theorem follow_deadline (limit : RunLimit) (a : Handoff.Action) :
    (s.follow limit a).deadline = s.deadline ∨
      a = .enterLoop ∧ (s.follow limit a).deadline = limit.deadline s.now := by
  cases a with
  | enterLoop => exact .inr ⟨rfl, rfl⟩
  | start started =>
    refine .inl ?_
    dsimp only [follow]
    split <;> rfl
  | failStart | failDeadline | leaveLoop | takeBuffer | failRead | sendPacket | stopStream
  | sendEnded | leaveInner | sendFailed | leaveThread | receive | recycle | dropRecycle
  | leaveProcess => exact .inl rfl

/-- Every step explains what it did before. -/
theorem Accounts.step (hrun : S.Run s₀ labels s) (h : Accounts intent limit S s₀ labels s)
    (hstep : s.step intent limit processId streamSequence a = some (output, s')) :
    Accounts intent limit S s₀ (labels ++ [(a, output)]) s' := by
  have hknows := h.knows.step hrun hstep
  cases a with
  | device event =>
    cases hstep
    refine ⟨hknows, fun hstage => ?_, h.stop_snoc, h.deadline_snoc, h.reason_snoc, h.left⟩
    exact (h.stems_snoc hstage).change fun notice hnotice => h.heardBy hrun hnotice
  | callback i =>
    obtain ⟨w, hhandle, heq⟩ := Option.map_eq_some_iff.mp hstep
    cases heq
    refine ⟨hknows, fun hstage => ?_, h.stop_snoc, h.deadline_snoc, h.reason_snoc, h.left⟩
    exact (h.stems_snoc hstage).handle hhandle
  | requestStop =>
    cases hstep
    exact ⟨hknows, h.stems_snoc, fun _ => ⟨_, List.mem_append_right labels List.mem_cons_self⟩,
      h.deadline_snoc, h.reason_snoc, h.left⟩
  | elapse nanos =>
    cases hstep
    exact ⟨hknows, h.stems_snoc, h.stop_snoc, h.deadline_snoc, h.reason_snoc, h.left⟩
  | startup a =>
    obtain ⟨started, hstartup, heq⟩ := Option.map_eq_some_iff.mp hstep
    cases heq
    exact h.starts hknows (starts_of_startupStep hstartup)
  | handoff a =>
    dsimp only [EndpointCapture.step] at hstep
    split at hstep
    next hpermits =>
      obtain ⟨⟨output', handoff⟩, hhandoff, heq⟩ := Option.map_eq_some_iff.mp hstep
      cases heq
      have hfollow := follow_eq (s := s) limit a
      refine ⟨hknows, fun hstage => ?_, fun hrequested => ?_, fun deadline hdeadline => ?_,
        fun reason hreason => ?_, fun hstage => ?_⟩
      · rcases hfollow with rfl | ⟨hwatch, hlisteners, hreturned⟩
        · exact absurd rfl hstage
        · show (s.follow limit a).watch.Stems (s.follow limit a).listeners.signal
            (HeardBy S s₀ _ (s.follow limit a).listeners)
          rw [hwatch, hlisteners]
          exact h.stems_snoc (mt hreturned.mpr hstage)
      · exact h.stop_snoc (follow_stopRequested limit a ▸ hrequested)
      · rcases follow_deadline (s := s) limit a with hsame | ⟨rfl, hbegins⟩
        · exact h.deadline_snoc deadline (hsame ▸ hdeadline)
        · have hdeadline : limit.deadline s.now = some deadline := hdeadline
          cases limit with
          | untilStopped => cases hdeadline
          | duration duration =>
            cases hdeadline
            exact ⟨duration, rfl, labels, _, [], s, rfl, hrun, rfl⟩
      · have hreason : endReason handoff.captureThread = some reason := hreason
        rcases hfollow with rfl | ⟨-, hlisteners, hreturned⟩
        · cases (hasLeft_of_step hhandoff (.inl rfl)).endReason.symm.trans hreason
        show Justified intent limit S s₀ _ (s.follow limit a).listeners reason
        rw [hlisteners]
        rcases endReason_of_step hpermits hhandoff hreason with hreason | ⟨rfl, hexhausted⟩ | rfl
        · exact h.reason_snoc reason hreason
        · exact .inr (.inr (.inl ⟨rfl, labels, a, output', [], s, rfl, hrun, hexhausted⟩))
        · refine h.leavesLoop hrun ?_ hpermits
          -- The loop is not left by a thread that has returned.
          intro hstage
          have hleft := h.left hstage
          dsimp only [Handoff.step] at hhandoff
          split at hhandoff
          next hthread =>
            rw [hthread] at hleft
            cases hleft
          next => cases hhandoff
      · refine hasLeft_of_step hhandoff ?_
        rcases hfollow with rfl | ⟨-, -, hreturned⟩
        · exact .inl rfl
        · exact .inr (h.left (hreturned.mp hstage))
    next => cases hstep

/-- What every run explains. -/
theorem accounts_of_run (h : (system intent limit processId streamSequence).Run
    (initial endpoints files) labels s) :
    Accounts intent limit (system intent limit processId streamSequence) (initial endpoints files)
      labels s := by
  apply TransitionSystem.Run.history (I := Accounts intent limit
    (system intent limit processId streamSequence) (initial endpoints files)) ?_ ?_ h
  · exact ⟨.initializing, fun _ => Watch.stems_quiet endpoints, nofun, nofun, nofun, nofun⟩
  · intro labels s l s' hrun haccounts hstep
    exact haccounts.step hrun hstep

/-- In every run, an end that is sent without a diagnostic is what it says it is: a stop that was
requested, the deadline of a bounded run that the clock has reached, a packet for which the pool had
no buffer or the queue no room, or the end of the endpoint that a change explains which happened
while its callbacks were registered. -/
theorem end_explained {termination : CaptureTermination}
    (h : (system intent limit processId streamSequence).Run (initial endpoints files)
      (labels ++ [(a, output)]) s) (hsent : output.sent = some (.ended termination))
    (hdiagnostic : termination.diagnostic = none) :
    Justified intent limit (system intent limit processId streamSequence)
      (initial endpoints files) labels s.listeners termination.end := by
  obtain ⟨t, hrun, hstep⟩ := TransitionSystem.run_snoc.mp h
  have haccounts := accounts_of_run hrun
  obtain ⟨action, handoff, -, hhandoff, rfl⟩ := handoff_of_sent hstep hsent
  have hending : action = .sendEnded ∧ t.handoff.captureThread = .ending termination := by
    cases Handoff.Effect.of_step hhandoff <;> cases hsent
    exact ⟨rfl, ‹_›⟩
  obtain ⟨rfl, hthread⟩ := hending
  have hreason : endReason t.handoff.captureThread = some termination.end := by
    rw [hthread]
    show undiagnosed termination = some termination.end
    unfold undiagnosed
    rw [hdiagnostic]
  exact haccounts.reason _ hreason

/-- The capture of the speakers ends because they were removed. -/
theorem end_explained_removed : ∃ s : EndpointCapture, ∃ callbacks event,
    s.listeners.deviceEvents = some callbacks ∧
      Heard (system .defaultPlayback .untilStopped 1 1) (initial exampleDevices .none)
        (exampleRun removalActions).1 callbacks event ∧
      Explains .defaultPlayback callbacks.endpointId event .sourceUnavailable := by
  obtain ⟨output, s, hrun, hsent⟩ := exists_sent removalActions (.handoff .sendEnded)
    (.ended (.new .sourceUnavailable)) (by decide +kernel) (by decide +kernel)
  refine ⟨s, ?_⟩
  rcases end_explained hrun hsent rfl with ⟨hstop, -⟩ | ⟨hduration, -⟩ | ⟨hexhausted, -⟩ |
    hexplained
  · cases hstop
  · cases hduration
  · cases hexhausted
  · exact hexplained

end EndpointCapture

end ResonanceSignal
