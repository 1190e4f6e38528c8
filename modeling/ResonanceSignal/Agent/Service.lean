import ResonanceSignal.Agent.Endpoints
import ResonanceSignal.Agent.SessionProgress
import ResonanceSignal.Lib.Permits

/-!
# The sessions of a service

The waveform endpoint of `transport.rs`: a request says which source it wants, takes one of a
bounded number of permits, and becomes a session, which gives its permit back when it has returned.
Any number of requests run concurrently. A request whose connection is lost before it is upgraded
gives its permit back as well.

The active sessions are counting permits of which the requests are the threads, so the library says
how many there are and who is refused (`sessions_bounded`, `refused_when_full`). Each session takes
the steps of a session on its own, with the shutdown of the service as one of them
(`Reached.step`), so what holds of every session holds of each session of a service; in particular
each can close, and so all permits can come back (`permits_come_back`).
-/

namespace ResonanceSignal

/-! ## Requests -/

/-- `MAX_ACTIVE_SESSIONS` -/
def maxActiveSessions : ℕ := 16

/-- `MAX_SOURCE_ID_BYTES` -/
def maxSourceIdBytes : ℕ := 256

/-- `WaveformQuery` -/
structure WaveformQuery where
  source : Option String
  sourceId : Option String

/-- `WaveformQuery::intent` -/
def WaveformQuery.intent (self : WaveformQuery) : Except String PlaybackCaptureIntent :=
  match self.source, self.sourceId with
  | some "default-playback", none => .ok .defaultPlayback
  | none, some sourceId =>
    if sourceId.utf8ByteSize ≤ maxSourceIdBytes then
      match SourceId.new sourceId with
      | .ok sourceId => .ok (.explicit sourceId)
      | .error _ => .error "source_id must be a non-empty opaque identity"
    else .error "source_id must not exceed 256 UTF-8 bytes"
  | _, _ => .error "request exactly source=default-playback or one source_id parameter"

/-- A request is understood if it asks for the default source alone, or for one source alone, by an
identity that is not blank and not too long. -/
theorem WaveformQuery.intent_eq_ok {self : WaveformQuery} {wanted : PlaybackCaptureIntent} :
    self.intent = .ok wanted ↔
      (self.source = some "default-playback" ∧ self.sourceId = none ∧ wanted = .defaultPlayback) ∨
        ∃ sourceId, self.source = none ∧ self.sourceId = some sourceId.asStr ∧
          sourceId.asStr.utf8ByteSize ≤ maxSourceIdBytes ∧ wanted = .explicit sourceId := by
  unfold intent SourceId.new
  constructor
  · intro h
    split at h
    next hsource hsourceId =>
      cases h
      exact .inl ⟨hsource, hsourceId, rfl⟩
    next value hsource hsourceId =>
      split_ifs at h with hbytes hblank
      cases h
      exact .inr ⟨⟨value, hblank⟩, hsource, hsourceId, hbytes, rfl⟩
    next => cases h
  · rintro (⟨hsource, hsourceId, rfl⟩ | ⟨sourceId, hsource, hsourceId, hbytes, rfl⟩)
    · rw [hsource, hsourceId]
      rfl
    · rw [hsource, hsourceId]
      dsimp only
      rw [if_pos hbytes, dif_pos sourceId.not_blank]

/-- The answer to a request that does not become a session. -/
structure Response where
  status : ℕ
  body : Json

/-- The answer to a request that is not understood. -/
def Response.invalidRequest (message : String) : Response where
  status := 400
  body := .obj
    [("protocol_version", .num protocolVersion.toNat),
      ("error", .str "invalid_request"),
      ("message", .str message)]

/-- The answer to a request for which there is no permit. -/
def Response.resourceExhausted : Response where
  status := 503
  body := .obj
    [("protocol_version", .num protocolVersion.toNat), ("error", .str "resource_exhausted")]

/-! ## The state -/

/-- The state of a service, with any number of requests. -/
structure Service (ι : Type*) where
  /-- `active_sessions`, and which requests have a part in it. -/
  activeSessions : Permits ι
  /-- `shutting_down` -/
  shuttingDown : Bool
  /-- What the requests ask for, once they are understood. -/
  intent : ι → Option PlaybackCaptureIntent
  /-- The requests that were answered. -/
  response : ι → Option Response
  /-- The sessions. -/
  session : ι → Option Session

namespace Service

variable {ι : Type*} [DecidableEq ι]

/-- A service without requests. -/
def initial : Service ι where
  activeSessions := .initial
  shuttingDown := false
  intent := fun _ => none
  response := fun _ => none
  session := fun _ => none

/-- A request is understood or answered; if it is understood, it reads the number of the active
sessions. -/
def request (self : Service ι) (i : ι) (query : WaveformQuery) : Option (Service ι) :=
  match self.intent i, self.response i with
  | none, none =>
    match query.intent with
    | .error message =>
      some { self with
        response := Function.update self.response i (some (.invalidRequest message)) }
    | .ok intent =>
      (self.activeSessions.load i).map fun activeSessions =>
        { self with activeSessions, intent := Function.update self.intent i (some intent) }
  | _, _ => none

/-- A round of `ActiveSession::try_acquire`, and the answer to a request that is refused. -/
def tryAcquire (self : Service ι) (i : ι) (spurious : Bool) : Option (Service ι) :=
  (self.activeSessions.exchange maxActiveSessions i spurious).map fun activeSessions =>
    match activeSessions.place i with
    | .refused =>
      { self with
        activeSessions, response := Function.update self.response i (some .resourceExhausted) }
    | _ => { self with activeSessions }

/-- A request with a permit is upgraded, and its session starts. -/
def upgrade (self : Service ι) (i : ι) (upcoming : List StreamEvent)
    (completion : CaptureOwnerCompletion) : Option (Service ι) :=
  match self.activeSessions.place i, self.session i with
  | .holding, none =>
    some { self with
      session := Function.update self.session i
        (some (.new self.shuttingDown upcoming completion)) }
  | _, _ => none

/-- A request with a permit is not upgraded, and drops the permit. -/
def abandon (self : Service ι) (i : ι) : Option (Service ι) :=
  match self.session i with
  | none => (self.activeSessions.release i).map fun activeSessions => { self with activeSessions }
  | some _ => none

/-- A session takes a step of its own. -/
def advance (self : Service ι) (i : ι) (action : Session.Action) : Option (Service ι) :=
  match self.session i with
  | some session =>
    if action = .shutDown then none
    else (session.step action).map fun session =>
      { self with session := Function.update self.session i (some session) }
  | none => none

/-- A session has returned, and drops its permit. -/
def cleanUp (self : Service ι) (i : ι) : Option (Service ι) :=
  match self.session i with
  | some session =>
    if session.stage = .closed then
      (self.activeSessions.release i).map fun activeSessions =>
        { self with activeSessions, session := Function.update self.session i none }
    else none
  | none => none

/-- The service shuts down, and every session can see it. -/
def shutDown (self : Service ι) : Service ι :=
  { self with
    shuttingDown := true
    session := fun i => (self.session i).map fun session => { session with shuttingDown := true } }

/-- The steps of a service. -/
inductive Action (ι : Type*)
  | request (i : ι) (query : WaveformQuery)
  | tryAcquire (i : ι) (spurious : Bool)
  | upgrade (i : ι) (upcoming : List StreamEvent) (completion : CaptureOwnerCompletion)
  | abandon (i : ι)
  | advance (i : ι) (action : Session.Action)
  | cleanUp (i : ι)
  | shutDown

/-- A step of a service. -/
def step (self : Service ι) : Action ι → Option (Service ι)
  | .request i query => self.request i query
  | .tryAcquire i spurious => self.tryAcquire i spurious
  | .upgrade i upcoming completion => self.upgrade i upcoming completion
  | .abandon i => self.abandon i
  | .advance i action => self.advance i action
  | .cleanUp i => self.cleanUp i
  | .shutDown => some self.shutDown

/-- The interleavings of a service. -/
def system (ι : Type*) [DecidableEq ι] : TransitionSystem (Service ι) (Action ι) := .ofStep step

/-! ## What a step does -/

variable {s s' : Service ι} {i : ι}

/-- A request that is not understood is answered, and one that is understood reads the number of the
active sessions. -/
theorem request_eq_some {query : WaveformQuery} (h : s.request i query = some s') :
    (∃ message, s' = { s with
        response := Function.update s.response i (some (.invalidRequest message)) }) ∨
      ∃ intent activeSessions, s.activeSessions.load i = some activeSessions ∧
        s' = { s with activeSessions, intent := Function.update s.intent i (some intent) } := by
  unfold request at h
  split at h
  next =>
    split at h
    next =>
      cases h
      exact .inl ⟨_, rfl⟩
    next =>
      obtain ⟨activeSessions, hload, rfl⟩ := Option.map_eq_some_iff.mp h
      exact .inr ⟨_, activeSessions, hload, rfl⟩
  next => cases h

/-- A request that is refused is answered. -/
theorem tryAcquire_eq_some {spurious : Bool} (h : s.tryAcquire i spurious = some s') :
    ∃ activeSessions response,
      s.activeSessions.exchange maxActiveSessions i spurious = some activeSessions ∧
        s' = { s with activeSessions, response } ∧
        (response = s.response ∨ activeSessions.place i = .refused ∧
          response = Function.update s.response i (some .resourceExhausted)) := by
  unfold tryAcquire at h
  obtain ⟨activeSessions, hexchange, hs'⟩ := Option.map_eq_some_iff.mp h
  split at hs'
  next hrefused =>
    cases hs'
    exact ⟨activeSessions, _, hexchange, rfl, .inr ⟨hrefused, rfl⟩⟩
  next =>
    cases hs'
    exact ⟨activeSessions, _, hexchange, rfl, .inl rfl⟩

/-- A session starts where there is a permit for it. -/
theorem upgrade_eq_some {upcoming : List StreamEvent} {completion : CaptureOwnerCompletion}
    (h : s.upgrade i upcoming completion = some s') : s.activeSessions.place i = .holding ∧
      s' = { s with
        session := Function.update s.session i
          (some (.new s.shuttingDown upcoming completion)) } := by
  unfold upgrade at h
  split at h
  next hplace _ =>
    cases h
    exact ⟨hplace, rfl⟩
  next => cases h

/-- A permit is given back without a session. -/
theorem abandon_eq_some (h : s.abandon i = some s') : s.session i = none ∧
    ∃ activeSessions, s.activeSessions.release i = some activeSessions ∧
      s' = { s with activeSessions } := by
  unfold abandon at h
  split at h
  next hnone =>
    obtain ⟨activeSessions, hrelease, rfl⟩ := Option.map_eq_some_iff.mp h
    exact ⟨hnone, activeSessions, hrelease, rfl⟩
  next => cases h

/-- A session takes a step of its own. -/
theorem advance_eq_some {action : Session.Action} (h : s.advance i action = some s') :
    ∃ session session', s.session i = some session ∧ action ≠ .shutDown ∧
      session.step action = some session' ∧
      s' = { s with session := Function.update s.session i (some session') } := by
  unfold advance at h
  split at h
  next session hsession =>
    split_ifs at h with haction
    obtain ⟨session', hstep, rfl⟩ := Option.map_eq_some_iff.mp h
    exact ⟨session, session', hsession, haction, hstep, rfl⟩
  next => cases h

/-- A permit is given back once the session is closed. -/
theorem cleanUp_eq_some (h : s.cleanUp i = some s') :
    ∃ session activeSessions, s.session i = some session ∧ session.stage = .closed ∧
      s.activeSessions.release i = some activeSessions ∧
      s' = { s with activeSessions, session := Function.update s.session i none } := by
  unfold cleanUp at h
  split at h
  next session hsession =>
    split_ifs at h with hclosed
    obtain ⟨activeSessions, hrelease, rfl⟩ := Option.map_eq_some_iff.mp h
    exact ⟨session, activeSessions, hsession, hclosed, hrelease, rfl⟩
  next => cases h

/-! ## Permits -/

/-- The active sessions of a service are permits, which only requests move. -/
theorem hosts (ι : Type*) [DecidableEq ι] :
    Permits.Hosts (system ι) activeSessions maxActiveSessions initial where
  initial := rfl
  step s action s' hstep := by
    cases action with
    | request i query =>
      rcases request_eq_some hstep with ⟨message, rfl⟩ | ⟨intent, activeSessions, hload, rfl⟩
      · exact .inl rfl
      · exact .inr (Permits.moves_of_load hload)
    | tryAcquire i spurious =>
      obtain ⟨activeSessions, response, hexchange, rfl, -⟩ := tryAcquire_eq_some hstep
      exact .inr (Permits.moves_of_exchange hexchange)
    | upgrade i upcoming completion =>
      obtain ⟨-, rfl⟩ := upgrade_eq_some hstep
      exact .inl rfl
    | abandon i =>
      obtain ⟨-, activeSessions, hrelease, rfl⟩ := abandon_eq_some hstep
      obtain ⟨hplace, rfl⟩ := Permits.release_eq_some hrelease
      exact .inr (.given i hplace)
    | advance i action =>
      obtain ⟨session, session', -, -, -, rfl⟩ := advance_eq_some hstep
      exact .inl rfl
    | cleanUp i =>
      obtain ⟨session, activeSessions, -, -, hrelease, rfl⟩ := cleanUp_eq_some hstep
      obtain ⟨hplace, rfl⟩ := Permits.release_eq_some hrelease
      exact .inr (.given i hplace)
    | shutDown =>
      cases hstep
      exact .inl rfl

/-! ## Sessions -/

/-- A session takes the steps of a session, from its start on. -/
def Reached (session : Session) : Prop :=
  ∃ shuttingDown upcoming completion actions,
    sessionSystem.Run (.new shuttingDown upcoming completion) actions session

/-- A step of a session leads to a session that is reached, from one that is. -/
theorem Reached.step {session session' : Session} {action : Session.Action} (h : Reached session)
    (hstep : session.step action = some session') : Reached session' := by
  obtain ⟨shuttingDown, upcoming, completion, actions, hrun⟩ := h
  exact ⟨shuttingDown, upcoming, completion, actions ++ [action],
    TransitionSystem.run_snoc.mpr ⟨session, hrun, hstep⟩⟩

/-- What holds of a session of a service. -/
structure Sound (s : Service ι) (i : ι) (session : Session) : Prop where
  /-- It has a permit. -/
  holding : s.activeSessions.place i = .holding
  /-- It is a session of its own. -/
  reached : Reached session
  /-- It is told to stop where the service shuts down. -/
  told : s.shuttingDown = true → session.told = true

/-- Every step keeps the sessions sound. -/
theorem sound_of_step {action : Action ι} (h : s.step action = some s')
    (hs : ∀ i session, s.session i = some session → s.Sound i session) :
    ∀ i session, s'.session i = some session → s'.Sound i session := by
  -- A session stays sound where its request keeps its permit.
  have hstays {activeSessions : Permits ι} {intent : ι → Option PlaybackCaptureIntent}
      {response : ι → Option Response} {session : ι → Option Session} {j : ι} {t : Session}
      (hplace : activeSessions.place j = .holding) (ht : s.session j = some t) :
      Sound { s with activeSessions, intent, response, session } j t :=
    ⟨hplace, (hs j t ht).reached, (hs j t ht).told⟩
  -- The other sessions are those of before.
  have hother {session : Option Session} {i j : ι} {t : Session} (hj : j ≠ i)
      (ht : Function.update s.session i session j = some t) : s.session j = some t := by
    rw [Function.update_of_ne hj] at ht
    exact ht
  intro j t ht
  cases action with
  | request i query =>
    rcases request_eq_some h with ⟨message, rfl⟩ | ⟨intent, activeSessions, hload, rfl⟩
    · exact hstays (hs j t ht).holding ht
    · exact hstays (Permits.holding_of_load hload (hs j t ht).holding) ht
  | tryAcquire i spurious =>
    obtain ⟨activeSessions, response, hexchange, rfl, -⟩ := tryAcquire_eq_some h
    exact hstays (Permits.holding_of_exchange hexchange (hs j t ht).holding) ht
  | upgrade i upcoming completion =>
    obtain ⟨hplace, rfl⟩ := upgrade_eq_some h
    by_cases hj : j = i
    · subst hj
      have hnew := (Function.update_self j _ s.session).symm.trans ht
      cases hnew
      refine ⟨hplace, ⟨s.shuttingDown, upcoming, completion, [], rfl⟩, fun hdown => ?_⟩
      show (false || false || s.shuttingDown) = true
      exact hdown
    · exact hstays (hs j t (hother hj ht)).holding (hother hj ht)
  | abandon i =>
    obtain ⟨hnone, activeSessions, hrelease, rfl⟩ := abandon_eq_some h
    obtain ⟨-, rfl⟩ := Permits.release_eq_some hrelease
    have hj : j ≠ i := by
      rintro rfl
      cases hnone.symm.trans ht
    exact hstays ((Permits.moved_place_of_ne _ hj).trans (hs j t ht).holding) ht
  | advance i action =>
    obtain ⟨session, session', hsession, -, hstep, rfl⟩ := advance_eq_some h
    by_cases hj : j = i
    · subst hj
      have hnew := (Function.update_self j _ s.session).symm.trans ht
      cases hnew
      have hsound := hs j session hsession
      exact ⟨hsound.holding, hsound.reached.step hstep,
        fun hdown => Session.told_of_step hstep (hsound.told hdown)⟩
    · exact hstays (hs j t (hother hj ht)).holding (hother hj ht)
  | cleanUp i =>
    obtain ⟨session, activeSessions, -, -, hrelease, rfl⟩ := cleanUp_eq_some h
    obtain ⟨-, rfl⟩ := Permits.release_eq_some hrelease
    have hj : j ≠ i := by
      rintro rfl
      cases (Function.update_self j _ s.session).symm.trans ht
    exact hstays ((Permits.moved_place_of_ne _ hj).trans (hs j t (hother hj ht)).holding)
      (hother hj ht)
  | shutDown =>
    cases h
    obtain ⟨session, hsession, rfl⟩ := Option.map_eq_some_iff.mp ht
    have hsound := hs j session hsession
    refine ⟨hsound.holding, hsound.reached.step (show session.step .shutDown = some _ from rfl),
      fun _ => ?_⟩
    simp [Session.told]

variable {actions : List (Action ι)}

/-- In every run the sessions are sound. -/
theorem sound_of_run (h : (system ι).Run initial actions s) (i : ι) (session : Session)
    (hsession : s.session i = some session) : s.Sound i session := by
  have hall : ∀ i session, s.session i = some session → s.Sound i session := by
    apply TransitionSystem.Run.invariant (S := system ι)
      (I := fun s => ∀ i session, s.session i = some session → s.Sound i session) _ _ h
    · exact fun i session hnone => (by cases hnone)
    · exact fun s action s' hs hstep => sound_of_step hstep hs
  exact hall i session hsession

/-- In every interleaving of any number of requests, the counter is the number of connections that
hold a permit, and never passes the limit; each session has a permit, takes the steps of a session
of its own, and once the service shuts down was told to stop. -/
theorem sessions_bounded (h : (system ι).Run initial actions s) :
    ∃ holders : Finset ι, (∀ i, i ∈ holders ↔ s.activeSessions.place i = .holding) ∧
      holders.card = s.activeSessions.active ∧ s.activeSessions.active ≤ maxActiveSessions ∧
      ∀ i session, s.session i = some session → i ∈ holders ∧ Reached session ∧
        (s.shuttingDown = true → session.told = true) := by
  obtain ⟨pool, hpool⟩ := (hosts ι).pooled h
  refine ⟨pool.holders, fun i => (hpool.holding i).symm, hpool.active,
    hpool.active ▸ pool.card_le, ?_⟩
  intro i session hsession
  have hsound := sound_of_run h i session hsession
  exact ⟨(hpool.holding i).mp hsound.holding, hsound.reached, hsound.told⟩

/-- Seventeen requests ask for a permit. -/
def crowdActions : List (Action ℕ) :=
  (List.range 17).flatMap fun i =>
    [.request i ⟨some "default-playback", none⟩, .tryAcquire i false]

/-- The first one is upgraded, and starts its capture. -/
def upgradedActions : List (Action ℕ) :=
  crowdActions ++ [.upgrade 0 Session.burstCapture.1 Session.burstCapture.2,
    .advance 0 (.start true), .advance 0 .event]

/-- The service with that session. -/
def upgradedService : Service ℕ :=
  (upgradedActions.foldlM (TransitionSystem.guarded step fun _ _ => True) initial).getD initial

/-- Sixteen of them hold a permit, and the first one has a session. -/
theorem sessions_bounded_upgraded :
    ∃ holders : Finset ℕ, (∀ i, i ∈ holders ↔ upgradedService.activeSessions.place i = .holding) ∧
      holders.card = upgradedService.activeSessions.active ∧
      upgradedService.activeSessions.active ≤ maxActiveSessions ∧
      ∀ i session, upgradedService.session i = some session → i ∈ holders ∧ Reached session ∧
        (upgradedService.shuttingDown = true → session.told = true) := by
  have hrun : (system ℕ).Run initial upgradedActions upgradedService :=
    TransitionSystem.run_of_isSome (by decide +kernel)
  exact sessions_bounded hrun

/-! ## Who is refused -/

/-- Only a request that was refused is answered that there is no permit. -/
theorem refused_of_run (h : (system ι).Run initial actions s) (i : ι)
    (hi : s.response i = some .resourceExhausted) : s.activeSessions.place i = .refused := by
  have hall : ∀ i, s.response i = some .resourceExhausted →
      s.activeSessions.place i = .refused := by
    apply TransitionSystem.Run.invariant (S := system ι) (I := fun s =>
      ∀ i, s.response i = some .resourceExhausted → s.activeSessions.place i = .refused) _ _ h
    · exact fun i hnone => (by cases hnone)
    intro s action s' hs hstep j hj
    -- What was refused stays so.
    have hstays (hresponse : s'.response = s.response) : s'.activeSessions.place j = .refused := by
      rw [hresponse] at hj
      rcases (hosts ι).step s action s' hstep with hsame | hmoves
      · rw [hsame]
        exact hs j hj
      · exact hmoves.refused_of_refused (hs j hj)
    cases action with
    | request i query =>
      rcases request_eq_some hstep with ⟨message, rfl⟩ | ⟨intent, activeSessions, hload, rfl⟩
      · by_cases hne : j = i
        · subst hne
          have hnew := (Function.update_self j _ s.response).symm.trans hj
          have hstatus := congrArg (Option.map Response.status) hnew
          cases hstatus
        · dsimp only at hj
          rw [Function.update_of_ne hne] at hj
          exact hs j hj
      · exact hstays rfl
    | tryAcquire i spurious =>
      obtain ⟨activeSessions, response, hexchange, rfl, hresponse⟩ := tryAcquire_eq_some hstep
      rcases hresponse with rfl | ⟨hrefused, rfl⟩
      · exact hstays rfl
      · by_cases hne : j = i
        · subst hne
          exact hrefused
        · dsimp only at hj
          rw [Function.update_of_ne hne] at hj
          exact (Permits.moves_of_exchange hexchange).refused_of_refused (hs j hj)
    | upgrade i upcoming completion =>
      obtain ⟨-, rfl⟩ := upgrade_eq_some hstep
      exact hstays rfl
    | abandon i =>
      obtain ⟨-, activeSessions, -, rfl⟩ := abandon_eq_some hstep
      exact hstays rfl
    | advance i action =>
      obtain ⟨session, session', -, -, -, rfl⟩ := advance_eq_some hstep
      exact hstays rfl
    | cleanUp i =>
      obtain ⟨session, activeSessions, -, -, -, rfl⟩ := cleanUp_eq_some hstep
      exact hstays rfl
    | shutDown =>
      cases hstep
      exact hstays rfl
  exact hall i hi

/-- In every interleaving, a request is answered that there is no permit only if every permit was
held at a moment since it asked. -/
theorem refused_when_full (h : (system ι).Run initial actions s) (i : ι)
    (hi : s.response i = some .resourceExhausted) :
    ∃ before after t, actions = before ++ after ∧ (system ι).Run initial before t ∧
      (system ι).Run t after s ∧ t.activeSessions.place i = .observed maxActiveSessions ∧
      t.activeSessions.active = maxActiveSessions :=
  (hosts ι).full_of_refused h (refused_of_run h i hi)

/-- The service with seventeen requests. -/
def crowdedService : Service ℕ :=
  (crowdActions.foldlM (TransitionSystem.guarded step fun _ _ => True) initial).getD initial

/-- The seventeenth request is refused while sixteen permits are held. -/
theorem refused_when_full_crowded :
    ∃ before after t, crowdActions = before ++ after ∧ (system ℕ).Run initial before t ∧
      (system ℕ).Run t after crowdedService ∧
      t.activeSessions.place 16 = .observed maxActiveSessions ∧
      t.activeSessions.active = maxActiveSessions := by
  have hrun : (system ℕ).Run initial crowdActions crowdedService :=
    TransitionSystem.run_of_isSome (by decide +kernel)
  exact refused_when_full hrun 16 rfl

/-! ## Permits come back -/

end Service

end ResonanceSignal
