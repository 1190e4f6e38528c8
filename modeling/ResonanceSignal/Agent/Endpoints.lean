import ResonanceSignal.Agent.Discovery
import ResonanceSignal.Agent.ProcessCapture
import ResonanceSignal.Lib.Watch
import Mathlib.Logic.Function.Basic

/-!
# The playback endpoints of the platform

What the capture of `windows.rs` and the enumeration of `windows_discovery.rs` see of the platform:
the states of its devices and its default devices, which change at any time, and the notices of
these changes. The platform is not part of the source. It is assumed to do what its notifications
are documented to do: a change and the notice of it to every callback that is registered then are
one step (`Listeners.notices`), and only the callback runs later. The callbacks that a capture
registers set its end signal, once (`DeviceEventCallbacks.signal`, `sessionEnd`). The enumeration
reads the endpoints one after the other, so what it lists need never have been so at one moment;
each entry was so when it was read.
-/

namespace ResonanceSignal

/-- `PlaybackCaptureIntent` -/
inductive PlaybackCaptureIntent
  | defaultPlayback
  | explicit (sourceId : SourceId)
deriving DecidableEq

/-! ## Devices -/

/-- `DeviceState` -/
inductive DeviceState
  | active
  | disabled
  | notPresent
  | unplugged
deriving DecidableEq, Repr

/-- `map_device_state` -/
def mapDeviceState : DeviceState → PlaybackEndpointState
  | .active => .active
  | .disabled => .disabled
  | .notPresent => .notPresent
  | .unplugged => .unplugged

/-- An active endpoint is an active device. -/
@[simp]
theorem mapDeviceState_eq_active {state : DeviceState} :
    mapDeviceState state = .active ↔ state = .active := by
  cases state <;> decide

/-- `Direction` -/
inductive Direction
  | render
  | capture
deriving DecidableEq, Repr

/-- `Role` -/
inductive Role
  | console
  | multimedia
  | communications
deriving DecidableEq, Repr

/-- `DisconnectReason` -/
inductive DisconnectReason
  | deviceRemoval
  | serverShutdown
  | formatChanged
  | sessionLogoff
  | sessionDisconnected
  | exclusiveModeOverride
  | unknown
deriving DecidableEq, Repr

/-- A change of the platform, as its notice tells it. -/
inductive DeviceEvent
  /-- A device is removed. -/
  | removed (id : String)
  /-- A device changes its state. -/
  | state (id : String) (state : DeviceState)
  /-- A role gets another device, or none. -/
  | defaultDevice (direction : Direction) (role : Role) (id : Option String)
  /-- The audio session of the capture is disconnected. -/
  | disconnected (reason : DisconnectReason)
deriving DecidableEq, Repr

/-- The devices of the platform. -/
structure Endpoints where
  /-- The state of a device; one that was removed is not present. -/
  state : String → DeviceState
  /-- The device of a role. -/
  defaultDevice : Direction → Role → Option String

/-- The devices after a change. -/
def Endpoints.apply (self : Endpoints) : DeviceEvent → Endpoints
  | .removed id => { self with state := Function.update self.state id .notPresent }
  | .state id state => { self with state := Function.update self.state id state }
  | .defaultDevice direction role id =>
    { self with
      defaultDevice := fun direction' role' =>
        if direction' = direction ∧ role' = role then id else self.defaultDevice direction' role' }
  | .disconnected _ => self

/-! ## Callbacks -/

/-- The values of the end signal other than `END_NONE`. -/
inductive EndSignal
  | sourceReconfigured
  | sourceUnavailable
  | interrupted
deriving DecidableEq, Repr

/-- The end that the capture loop makes of a signal. -/
def EndSignal.captureEnd : EndSignal → CaptureEnd
  | .sourceReconfigured => .sourceReconfigured
  | .sourceUnavailable => .sourceUnavailable
  | .interrupted => .interrupted

/-- The callbacks of `register_device_events`. -/
structure DeviceEventCallbacks where
  /-- The endpoint that is captured. -/
  endpointId : String
  /-- The capture follows the default. -/
  followsDefaultRole : Bool
deriving DecidableEq, Repr

/-- The value that the callbacks of `register_device_events` set the end signal to. -/
def DeviceEventCallbacks.signal (self : DeviceEventCallbacks) : DeviceEvent → Option EndSignal
  | .removed id => if id = self.endpointId then some .sourceUnavailable else none
  | .state id state =>
    if id = self.endpointId ∧ state ≠ .active then some .sourceUnavailable else none
  | .defaultDevice direction role id =>
    if self.followsDefaultRole ∧ direction = .render ∧ role = .console ∧ id ≠ some self.endpointId
    then some .sourceReconfigured
    else none
  | .disconnected _ => none

/-- The value that the callback of `register_session_events` sets the end signal to. -/
def sessionEnd : DisconnectReason → EndSignal
  | .deviceRemoval => .sourceUnavailable
  | .formatChanged => .sourceReconfigured
  | _ => .interrupted

/-- The callbacks that are registered. -/
structure Listeners where
  /-- Those of the devices. -/
  deviceEvents : Option DeviceEventCallbacks
  /-- That of the audio session. -/
  sessionEvents : Bool
deriving DecidableEq, Repr

namespace Listeners

/-- The notices of a change, as the platform is assumed to send them: one, if it is listened to. -/
def notices (self : Listeners) (event : DeviceEvent) : List DeviceEvent :=
  match event with
  | .disconnected _ => if self.sessionEvents then [event] else []
  | _ => if self.deviceEvents.isSome then [event] else []

/-- The value that a notice sets the end signal to. -/
def signal (self : Listeners) (event : DeviceEvent) : Option EndSignal :=
  match event with
  | .disconnected reason => if self.sessionEvents then some (sessionEnd reason) else none
  | _ => self.deviceEvents.bind fun callbacks => callbacks.signal event

/-- A notice is that of its change. -/
theorem eq_of_mem_notices {self : Listeners} {event notice : DeviceEvent}
    (h : notice ∈ self.notices event) : notice = event := by
  cases event <;> dsimp only [notices] at h <;> split at h <;> simp_all

/-- A change that sets the end signal is listened to. -/
theorem mem_notices {self : Listeners} {event : DeviceEvent}
    (h : (self.signal event).isSome = true) : event ∈ self.notices event := by
  cases event with
  | disconnected reason =>
    dsimp only [signal, notices] at h ⊢
    split at h
    next hsession =>
      rw [if_pos hsession]
      exact List.mem_singleton_self _
    next => cases h
  | removed | state | defaultDevice =>
    have hsome : self.deviceEvents.isSome = true := by
      cases hdevices : self.deviceEvents with
      | none => simp [signal, hdevices] at h
      | some callbacks => rfl
    dsimp only [notices]
    rw [if_pos hsome]
    exact List.mem_singleton_self _

/-- The callbacks of the devices, once they are registered, stay as the session's is. -/
theorem signal_sessionEvents {callbacks : DeviceEventCallbacks} {event : DeviceEvent}
    {value : EndSignal} (h : signal ⟨some callbacks, false⟩ event = some value) :
    signal ⟨some callbacks, true⟩ event = some value := by
  cases event with
  | disconnected reason => cases h
  | removed | state | defaultDevice => exact h

end Listeners

/-- A watch of the endpoints. -/
abbrev EndpointWatch := Watch Endpoints DeviceEvent EndSignal

/-- What a change makes of the state of an endpoint. -/
theorem Endpoints.apply_state (self : Endpoints) (event : DeviceEvent) (endpointId : String) :
    (self.apply event).state endpointId =
      match event with
      | .removed id => if endpointId = id then .notPresent else self.state endpointId
      | .state id state => if endpointId = id then state else self.state endpointId
      | _ => self.state endpointId := by
  cases event with
  | removed id => exact Function.update_apply ..
  | state id state => exact Function.update_apply ..
  | defaultDevice | disconnected => rfl

/-- The endpoint is active. -/
def Endpoints.IsActive (endpointId : String) (endpoints : Endpoints) : Prop :=
  endpoints.state endpointId = .active

/-- The endpoint is the default for playback. -/
def Endpoints.IsDefault (endpointId : String) (endpoints : Endpoints) : Prop :=
  endpoints.defaultDevice .render .console = some endpointId

section Guards

variable {w w' : EndpointWatch} (callbacks : DeviceEventCallbacks) {session : Bool}

/-- With the callbacks registered, what was seen of the state of the endpoint is guarded. -/
theorem guards_isActive_apply (event : DeviceEvent)
    (h : w.Guards (Listeners.signal ⟨some callbacks, session⟩)
      (Endpoints.IsActive callbacks.endpointId)) :
    (w.change (w.subject.apply event) (Listeners.notices ⟨some callbacks, session⟩ event)).Guards
      (Listeners.signal ⟨some callbacks, session⟩) (Endpoints.IsActive callbacks.endpointId) := by
  apply h.change
  intro hactive hinactive
  unfold Endpoints.IsActive at hactive hinactive
  rw [Endpoints.apply_state] at hinactive
  have hsignal : (Listeners.signal ⟨some callbacks, session⟩ event).isSome = true := by
    cases event with
    | removed id =>
      dsimp only at hinactive
      split at hinactive
      next hid => simp [Listeners.signal, DeviceEventCallbacks.signal, hid]
      next => exact absurd hactive hinactive
    | state id state =>
      dsimp only at hinactive
      split at hinactive
      next hid => simp [Listeners.signal, DeviceEventCallbacks.signal, hid, hinactive]
      next => exact absurd hactive hinactive
    | defaultDevice direction role id => exact absurd hactive hinactive
    | disconnected reason => exact absurd hactive hinactive
  exact ⟨event, Listeners.mem_notices hsignal, hsignal⟩

/-- Where the capture follows the default, what was seen of the default is guarded. -/
theorem guards_isDefault_apply (event : DeviceEvent)
    (hfollows : callbacks.followsDefaultRole = true)
    (h : w.Guards (Listeners.signal ⟨some callbacks, session⟩)
      (Endpoints.IsDefault callbacks.endpointId)) :
    (w.change (w.subject.apply event) (Listeners.notices ⟨some callbacks, session⟩ event)).Guards
      (Listeners.signal ⟨some callbacks, session⟩) (Endpoints.IsDefault callbacks.endpointId) := by
  apply h.change
  intro hdefault hother
  have hsignal : (Listeners.signal ⟨some callbacks, session⟩ event).isSome = true := by
    cases event with
    | removed id => exact absurd hdefault hother
    | state id state => exact absurd hdefault hother
    | defaultDevice direction role id =>
      unfold Endpoints.IsDefault Endpoints.apply at hother
      dsimp only at hother
      split at hother
      next hrole =>
        obtain ⟨rfl, rfl⟩ := hrole
        simp [Listeners.signal, DeviceEventCallbacks.signal, hfollows, hother]
      next => exact absurd hdefault hother
    | disconnected reason => exact absurd hdefault hother
  exact ⟨event, Listeners.mem_notices hsignal, hsignal⟩

end Guards

/-! ## Enumeration -/

/-- `WINDOWS_ENDPOINT_EVIDENCE_TOKEN` -/
def windowsEndpointEvidenceToken : String := "windows-immdevice-endpoint-id-v1"

/-- The calls of `enumerate_playback_endpoints` that can fail. -/
inductive EnumerationCall
  | initializeMta
  | enumerator
  | collection
  | count
  | defaultDevice
  | defaultId
  | device
  | state
  | id
  | friendlyName
deriving DecidableEq, Repr

/-- The text of a call that failed. -/
def EnumerationCall.message (error : String) : EnumerationCall → String
  | .initializeMta => s!"failed to initialize COM MTA for discovery: {error}"
  | .enumerator => s!"failed to create WASAPI device enumerator: {error}"
  | .collection => s!"failed to enumerate active WASAPI playback endpoints: {error}"
  | .count => s!"failed to count active WASAPI playback endpoints: {error}"
  | .defaultDevice => s!"failed to resolve the console default playback endpoint: {error}"
  | .defaultId => s!"failed to read the default playback endpoint identity: {error}"
  | .device => s!"failed to read an active WASAPI playback endpoint: {error}"
  | .state => s!"failed to verify a WASAPI playback endpoint state: {error}"
  | .id => s!"failed to read a WASAPI playback endpoint identity: {error}"
  | .friendlyName => s!"failed to read a WASAPI playback endpoint name: {error}"

/-- Where `enumerate_playback_endpoints` is. -/
inductive Enumeration
  /-- Before it has a collection of the endpoints. -/
  | starting
  /-- Before it reads the default. -/
  | collected (ids : List String)
  /-- Before it reads the next endpoint. -/
  | reading (defaultEndpointId : Option String) (remaining : List String)
    (observations : List PlaybackEndpointObservation)
  /-- After a call that failed. -/
  | failed (message : String)

/-- The steps of `enumerate_playback_endpoints`. -/
inductive EnumerationAction
  /-- The collection, with the identities of its endpoints. -/
  | collect (ids : List String)
  /-- The default is read, if there is an endpoint. -/
  | readDefault
  /-- The next endpoint is read, with its name. -/
  | readEndpoint (displayName : String)
  /-- A call fails. -/
  | fail (call : EnumerationCall) (error : String)
deriving DecidableEq, Repr

namespace Enumeration

/-- The call is one of those that come next. -/
def calls : Enumeration → EnumerationCall → Bool
  | .starting, call => call ∈ [.initializeMta, .enumerator, .collection, .count]
  | .collected (_ :: _), call => call ∈ [.defaultDevice, .defaultId]
  | .reading _ (_ :: _) _, call => call ∈ [.device, .state, .id, .friendlyName]
  | _, _ => false

/-- One step of `enumerate_playback_endpoints`, which reads the devices as they are. -/
def step (endpoints : Endpoints) (self : Enumeration) : EnumerationAction → Option Enumeration
  | .collect ids =>
    match self with
    | .starting => some (.collected ids)
    | _ => none
  | .readDefault =>
    match self with
    | .collected [] => some (.reading none [] [])
    | .collected (id :: ids) =>
      (endpoints.defaultDevice .render .console).map fun defaultEndpointId =>
        .reading (some defaultEndpointId) (id :: ids) []
    | _ => none
  | .readEndpoint displayName =>
    match self with
    | .reading defaultEndpointId (endpointId :: remaining) observations =>
      some (.reading defaultEndpointId remaining (observations ++ [{
        displayName
        state := mapDeviceState (endpoints.state endpointId)
        continuity := .stable ⟨endpointId, windowsEndpointEvidenceToken⟩
        isDefaultPlayback := decide (defaultEndpointId = some endpointId) }]))
    | _ => none
  | .fail call error => if self.calls call then some (.failed (call.message error)) else none

/-- What it returns. -/
def result : Enumeration → Option (Except String (List PlaybackEndpointObservation))
  | .reading _ [] observations => some (.ok observations)
  | .failed message => some (.error message)
  | _ => none

/-- What is known of an endpoint that was read, once it was active, or the default. -/
structure Reads (endpointId : String) (isActive isDefault : Prop) (enumeration : Enumeration) :
    Prop where
  /-- The default that was read. -/
  default : ∀ remaining observations,
    enumeration = .reading (some endpointId) remaining observations → isDefault
  /-- The endpoints that were read. -/
  observations : ∀ defaultEndpointId remaining observations,
    enumeration = .reading defaultEndpointId remaining observations → ∀ observation ∈ observations,
      ∃ id, observation.continuity = .stable ⟨id, windowsEndpointEvidenceToken⟩ ∧
        (observation.isDefaultPlayback = true → defaultEndpointId = some id) ∧
        (id = endpointId → observation.state = .active → isActive)

variable {endpoints : Endpoints} {endpointId : String} {isActive isDefault : Prop}
  {enumeration enumeration' : Enumeration} {a : EnumerationAction}

/-- An enumeration that starts has read nothing. -/
theorem reads_starting : Reads endpointId isActive isDefault .starting :=
  ⟨by rintro _ _ ⟨⟩, by rintro _ _ _ ⟨⟩⟩

/-- What is known stays so. -/
theorem Reads.mono {isActive' isDefault' : Prop}
    (h : Reads endpointId isActive isDefault enumeration) (hactive : isActive → isActive')
    (hdefault : isDefault → isDefault') : Reads endpointId isActive' isDefault' enumeration where
  default remaining observations hself := hdefault (h.default remaining observations hself)
  observations defaultEndpointId remaining observations hself observation hobservation := by
    obtain ⟨id, hstable, hread, hseen⟩ := h.observations _ _ _ hself observation hobservation
    exact ⟨id, hstable, hread, fun hid hstate => hactive (hseen hid hstate)⟩

/-- What is read next is so. -/
theorem Reads.step (h : Reads endpointId isActive isDefault enumeration)
    (hactive : Endpoints.IsActive endpointId endpoints → isActive)
    (hdefault : Endpoints.IsDefault endpointId endpoints → isDefault)
    (hstep : enumeration.step endpoints a = some enumeration') :
    Reads endpointId isActive isDefault enumeration' := by
  cases a with
  | collect ids =>
    dsimp only [Enumeration.step] at hstep
    split at hstep <;> cases hstep
    exact ⟨by rintro _ _ ⟨⟩, by rintro _ _ _ ⟨⟩⟩
  | readDefault =>
    dsimp only [Enumeration.step] at hstep
    split at hstep
    next =>
      cases hstep
      refine ⟨by rintro _ _ ⟨⟩, ?_⟩
      intro _ _ _ hself observation hobservation
      cases hself
      exact absurd hobservation List.not_mem_nil
    next id ids =>
      obtain ⟨defaultEndpointId, hread, rfl⟩ := Option.map_eq_some_iff.mp hstep
      refine ⟨?_, ?_⟩
      · intro _ _ hself
        cases hself
        exact hdefault hread
      · intro _ _ _ hself observation hobservation
        cases hself
        exact absurd hobservation List.not_mem_nil
    next => cases hstep
  | readEndpoint displayName =>
    dsimp only [Enumeration.step] at hstep
    split at hstep
    next defaultEndpointId id remaining observations =>
      cases hstep
      refine ⟨?_, ?_⟩
      · intro _ _ hself
        cases hself
        exact h.default _ _ rfl
      · intro _ _ _ hself observation hobservation
        cases hself
        rcases List.mem_append.mp hobservation with hobservation | hobservation
        · exact h.observations _ _ _ rfl observation hobservation
        · cases List.mem_singleton.mp hobservation
          refine ⟨id, rfl, of_decide_eq_true, ?_⟩
          rintro rfl hstate
          exact hactive (mapDeviceState_eq_active.mp hstate)
    next => cases hstep
  | fail call error =>
    dsimp only [Enumeration.step] at hstep
    split at hstep <;> cases hstep
    exact ⟨by rintro _ _ ⟨⟩, by rintro _ _ _ ⟨⟩⟩

end Enumeration

end ResonanceSignal
