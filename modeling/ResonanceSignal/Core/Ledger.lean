import ResonanceSignal.Core.Streams

/-!
# The ledger of the current stream

A ghost ledger, computed from the calls alone, of the stream that the last call belonged to that was
neither empty nor refused: its identity, whether that call invalidated it, and the frames accepted
and the windows returned since the switch to it. In runs whose boundaries fit, the ledger and the
scheduler agree (`Agrees`), from which it follows that the windows of a stream come from its own
frames, in order and without a gap, and that a boundary names the stream left behind and counts the
frames of it that no window held (`streams_not_mixed`).

Frames and windows are compared as lists of sample frames with their indices (`indexed`): a window
is a contiguous part of that list of the frames accepted.
-/

namespace ResonanceSignal

/-- `n` sample frames from index `first` on, each with its index and its samples. -/
def sampleFrames (channels first n : ℕ) (samples : List Sample) : List (ℕ × List Sample) :=
  (List.range n).map fun i => (first + i, (samples.drop (i * channels)).take channels)

/-- Sample frames of the samples of two parts are those of each, one after the other. -/
theorem sampleFrames_append {channels first n n' : ℕ} {samples samples' : List Sample}
    (h : samples.length = n * channels) :
    sampleFrames channels first (n + n') (samples ++ samples')
      = sampleFrames channels first n samples ++ sampleFrames channels (first + n) n' samples' := by
  rw [sampleFrames, List.range_add, List.map_append, List.map_map]
  congr 1
  · refine List.map_congr_left fun i hi => ?_
    have hi := List.mem_range.mp hi
    have hle : (i + 1) * channels ≤ samples.length := by
      rw [h]
      exact Nat.mul_le_mul_right _ hi
    rw [Nat.succ_mul] at hle
    rw [List.drop_append_of_le_length (by omega), List.take_append_of_le_length]
    rw [List.length_drop]
    omega
  · refine List.map_congr_left fun i hi => ?_
    have hdrop : (samples ++ samples').drop ((n + i) * channels) = samples'.drop (i * channels) := by
      rw [Nat.add_mul, ← h, List.drop_append]
      simp
    simp only [Function.comp_apply, hdrop, Nat.add_assoc]

/-- The sample frames of a batch, each with its index. -/
def AudioFrame.indexed (frame : AudioFrame) : List (ℕ × List Sample) :=
  sampleFrames frame.channels.channels frame.first frame.count frame.samples

namespace WindowScheduler

variable {ι : Type}

/-- The sample frames of contiguous frames are those of their samples. -/
theorem flatMap_indexed {fmt : StreamFormat} {P : FrameTimestamp → Prop} {due : ℕ}
    {frames : List AudioFrame} (h : FramesFrom fmt P due frames) :
    frames.flatMap AudioFrame.indexed
      = sampleFrames fmt.channels.channels due (frameCount frames) (frameSamples frames) := by
  induction frames generalizing due with
  | nil => rfl
  | cons f fs ih =>
    have hlen : f.samples.length = f.count * fmt.channels.channels := by
      rw [f.length_eq, h.1.channels]
      rfl
    rw [List.flatMap_cons, ih h.2, frameCount_cons, show frameSamples (f :: fs) = f.samples ++
      frameSamples fs by simp [frameSamples], sampleFrames_append hlen, AudioFrame.indexed,
      h.1.channels, h.1.first]

/-- Contiguous frames have as many samples as their counts say. -/
theorem length_frameSamples {fmt : StreamFormat} {P : FrameTimestamp → Prop} {due : ℕ}
    {frames : List AudioFrame} (h : FramesFrom fmt P due frames) :
    (frameSamples frames).length = frameCount frames * fmt.channels.channels := by
  induction frames generalizing due with
  | nil => simp [frameSamples]
  | cons f fs ih =>
    have hlen : f.samples.length = f.count * fmt.channels.channels := by
      rw [f.length_eq, h.1.channels]
      rfl
    rw [frameCount_cons, Nat.add_mul, ← ih h.2, ← hlen]
    simp [frameSamples]

/-- A tiling is a list of contiguous frames. -/
theorem WindowsFrom.framesFrom {fmt : StreamFormat} {identity : ι} {P : FrameTimestamp → Prop}
    {base : ℕ} {windows : List (ScheduledWindow ι)} (h : WindowsFrom fmt identity P base windows) :
    FramesFrom fmt P base (windows.map ScheduledWindow.frame) ∧
      frameCount (windows.map ScheduledWindow.frame) = windows.length * fmt.frames := by
  induction windows generalizing base with
  | nil => exact ⟨trivial, by simp⟩
  | cons w ws ih =>
    obtain ⟨hframes, hcount⟩ := ih h.2
    refine ⟨⟨⟨h.1.first, h.1.sampleRate, h.1.channels, h.1.start⟩, ?_⟩, ?_⟩
    · rw [h.1.count]
      exact hframes
    · rw [List.map_cons, frameCount_cons, hcount, h.1.count, List.length_cons, Nat.succ_mul,
        Nat.add_comm]

/-- The samples of windows are those of their frames. -/
theorem windowSamples_eq (windows : List (ScheduledWindow ι)) :
    windowSamples windows = frameSamples (windows.map ScheduledWindow.frame) := by
  simp [windowSamples, frameSamples, List.flatMap_map]

/-- On a stream, the sample frames of the windows are the first ones of the frames accepted. -/
theorem Scheduled.indexed_prefix {fmt : StreamFormat} {identity : ι} {origin : FrameTimestamp}
    {P : FrameTimestamp → Prop} {frames : List AudioFrame} {windows : List (ScheduledWindow ι)}
    {s : WindowScheduler ι} (h : Scheduled fmt identity origin P frames windows s) :
    (windows.map ScheduledWindow.frame).flatMap AudioFrame.indexed
      <+: frames.flatMap AudioFrame.indexed := by
  obtain ⟨m, hstream, hm⟩ := h.stream
  obtain ⟨hwindows, hcount⟩ := h.tiled.framesFrom
  have hlen : (windowSamples windows).length
      = windows.length * fmt.frames * fmt.channels.channels := by
    rw [windowSamples_eq, length_frameSamples hwindows, hcount]
  rw [flatMap_indexed hwindows, flatMap_indexed h.contiguous, hcount, ← h.lossless, ← hm,
    sampleFrames_append hlen, windowSamples_eq]
  exact List.prefix_append _ _

/-! ## The ledger -/

/-- The stream of the last call that was neither empty nor refused. -/
structure Ledger (ι : Type) where
  /-- The identity of the stream. -/
  identity : ι
  /-- Whether that call invalidated it. -/
  invalidated : Bool
  /-- The frames accepted since the switch to the stream. -/
  accepted : List AudioFrame
  /-- The windows returned since the switch to the stream. -/
  windows : List (ScheduledWindow ι)

/-- The frames of the stream that no window held, of which an invalidated stream has none. -/
def Ledger.discarded (ledger : Ledger ι) : ℕ :=
  if ledger.invalidated then 0
  else frameCount ledger.accepted - frameCount (ledger.windows.map ScheduledWindow.frame)

variable [DecidableEq ι]

/-- The ledger after a successful call of a nonempty batch. -/
def Ledger.accept (ledger : Option (Ledger ι)) (identity : ι) (frames : List AudioFrame)
    (windows : List (ScheduledWindow ι)) : Ledger ι :=
  match ledger with
  | some ledger =>
    if ledger.identity = identity then
      { ledger with
        accepted := ledger.accepted ++ frames
        windows := ledger.windows ++ windows }
    else ⟨identity, false, frames, windows⟩
  | none => ⟨identity, false, frames, windows⟩

/-- The ledger after a call. -/
def Ledger.record (ledger : Option (Ledger ι)) (call : Call ι) : Option (Ledger ι) :=
  if call.frames = [] then ledger
  else
    match call.outcome with
    | .ok result => some (Ledger.accept ledger call.identity call.frames result.windows)
    | .error e => if e.refusal then ledger else some ⟨call.identity, true, [], []⟩

/-- The ledger of a list of calls. -/
def ledgerOf (calls : List (Call ι)) : Option (Ledger ι) := calls.foldl Ledger.record none

/-- The ledger and the scheduler agree. -/
inductive Agrees : Option (Ledger ι) → WindowScheduler ι → Prop
  /-- Nothing was accepted yet. -/
  | fresh (config : WindowSchedulerConfig) : Agrees none (new config)
  /-- The stream was invalidated. -/
  | invalidated (identity : ι) (s : WindowScheduler ι) :
      Agrees (some ⟨identity, true, [], []⟩) (s.invalidate identity)
  /-- The scheduler is on the stream. -/
  | streaming (identity : ι) (fmt : StreamFormat) (origin : FrameTimestamp)
      (accepted : List AudioFrame) (windows : List (ScheduledWindow ι)) (s : WindowScheduler ι)
      (scheduled : Scheduled fmt identity origin (fun _ => True) accepted windows s) :
      Agrees (some ⟨identity, false, accepted, windows⟩) s

section Agrees

variable {ledger : Option (Ledger ι)} {s s' : WindowScheduler ι} {c : Call ι}

omit [DecidableEq ι] in
/-- The scheduler is well formed where the ledger agrees with it. -/
theorem Agrees.wellFormed (h : Agrees ledger s) : s.WellFormed := by
  cases h with
  | fresh config => exact .fresh rfl
  | invalidated identity s => exact .invalidated identity rfl
  | streaming identity fmt origin accepted windows s scheduled =>
    obtain ⟨m, hstream, -⟩ := scheduled.stream
    exact .streaming identity fmt origin _ m scheduled.active scheduled.valid hstream

omit [DecidableEq ι] in
/-- The active stream is the ledger's. -/
theorem Agrees.activeStream (h : Agrees ledger s) : s.activeStream = ledger.map Ledger.identity := by
  cases h with
  | fresh config => rfl
  | invalidated identity s => rfl
  | streaming identity fmt origin accepted windows s scheduled => exact scheduled.active

omit [DecidableEq ι] in
/-- The buffered frames are those that no window held. -/
theorem Agrees.bufferedFrameCount {l : Ledger ι} {n : UInt32} (h : Agrees (some l) s)
    (hn : s.bufferedFrameCount = some n) : n.toNat = l.discarded := by
  cases h with
  | invalidated identity s =>
    cases hn
    rfl
  | streaming identity fmt origin accepted windows s scheduled =>
    obtain ⟨m, hstream, hm⟩ := scheduled.stream
    obtain ⟨n', hn', hnm⟩ := hstream.bufferedFrameCount
    rw [hn, Option.some.injEq] at hn'
    have hcount := scheduled.tiled.framesFrom.2
    rw [Ledger.discarded, if_neg Bool.false_ne_true, hcount, hn', hnm, ← hm]
    omega

/-- What the ledger says of the next call: its windows come from the frames of its stream alone, and
its boundary names the ledger's stream and counts the frames of it that no window held. -/
structure NotMixed (ledger : Option (Ledger ι)) (c : Call ι) : Prop where
  /-- A window carries the pushed identity, and is a contiguous part of the frames accepted since
  the switch to it. -/
  windows : ∀ w ∈ c.windows, w.streamIdentity = c.identity ∧
    ∃ l, Ledger.record ledger c = some l ∧ l.identity = c.identity ∧ l.invalidated = false ∧
      w.frame.indexed <:+: l.accepted.flatMap AudioFrame.indexed
  /-- A successful nonempty call reports a boundary exactly where the ledger has another identity,
  which it names. -/
  boundary : ∀ r, c.outcome = .ok r → c.frames ≠ [] →
    r.streamBoundary.map StreamBoundary.previousStream
      = (ledger.map Ledger.identity).filter (· ≠ c.identity)
  /-- The boundary counts the frames of the ledger's stream that no window held. -/
  discarded : ∀ r b, c.outcome = .ok r → r.streamBoundary = some b →
    b.currentStream = c.identity ∧
      ∃ l, ledger = some l ∧ b.discardedPartialFrames.toNat = l.discarded

/-- An accepted batch whose boundaries fit is scheduled. -/
theorem AcceptOutcome.eq_ok {identity : ι} {fmt : StreamFormat}
    {origin : FrameTimestamp} {P : FrameTimestamp → Prop} {base m : ℕ} {held : List Sample}
    {frames : List AudioFrame} {o : Except SchedulingError (SchedulingResult ι)}
    (h : AcceptOutcome s identity fmt origin P base m held frames (some (o, s')))
    (hfits : TimelineFits fmt origin frames) :
    ∃ r n, o = .ok r ∧ s.bufferedFrameCount = some n ∧
      r.streamBoundary = s.boundaryAt identity n := by
  cases h with
  | scheduled n ws m' s' buffered config active valid fits contiguous tiled bounded lossless number
      stream => exact ⟨_, n, rfl, buffered, rfl⟩
  | overflow s' config active valid misfit => exact absurd hfits misfit

/-- A call that returns no window and no boundary says nothing of the ledger, unless it is a
successful nonempty one. -/
theorem NotMixed.of_error {e : SchedulingError} (h : c.outcome = .error e) : NotMixed ledger c where
  windows w hw := by
    rw [Call.windows, h] at hw
    cases hw
  boundary r hr := by
    rw [h] at hr
    cases hr
  discarded r b hr := by
    rw [h] at hr
    cases hr

/-- The boundary of a successful nonempty call, where the ledger agrees with the scheduler. -/
theorem boundaryAt_spec (h : Agrees ledger s) {n : UInt32} (hn : s.bufferedFrameCount = some n)
    (identity : ι) :
    (s.boundaryAt identity n).map StreamBoundary.previousStream
        = (ledger.map Ledger.identity).filter (· ≠ identity) ∧
      ∀ b, s.boundaryAt identity n = some b → b.currentStream = identity ∧
        ∃ l, ledger = some l ∧ b.discardedPartialFrames.toNat = l.discarded := by
  rw [boundaryAt, h.activeStream]
  cases ledger with
  | none =>
    refine ⟨rfl, ?_⟩
    intro b hb
    cases hb
  | some l =>
    dsimp only [Option.map_some]
    by_cases hid : l.identity = identity
    · rw [if_pos hid]
      refine ⟨by simp [Option.filter_some, hid], ?_⟩
      intro b hb
      cases hb
    · rw [if_neg hid]
      refine ⟨by simp [Option.filter_some, hid], ?_⟩
      rintro b ⟨⟩
      exact ⟨rfl, l, rfl, h.bufferedFrameCount hn⟩

/-- The ledger of a successful nonempty call agrees with the scheduler after it, and its windows
come from the frames of its stream. -/
theorem NotMixed.of_accept {l : Ledger ι} {fmt : StreamFormat} {origin : FrameTimestamp}
    {r : SchedulingResult ι} {n : UInt32} (h : Agrees ledger s)
    (hn : s.bufferedFrameCount = some n) (hok : c.outcome = .ok r) (hne : c.frames ≠ [])
    (hb : r.streamBoundary = s.boundaryAt c.identity n)
    (hl : Ledger.accept ledger c.identity c.frames r.windows = l) (hvalid : l.invalidated = false)
    (hs : Scheduled fmt c.identity origin (fun _ => True) l.accepted l.windows s')
    (hsuffix : r.windows <:+ l.windows) (hid : l.identity = c.identity) :
    Agrees (Ledger.record ledger c) s' ∧ NotMixed ledger c := by
  have hrecord : Ledger.record ledger c = some l := by
    rw [Ledger.record, if_neg hne, hok]
    exact congrArg some hl
  have hbound := boundaryAt_spec h hn c.identity
  rw [← hb] at hbound
  refine ⟨?_, ⟨fun w hw => ?_, fun r' hr' _ => ?_, fun r' b hr' => ?_⟩⟩
  · rw [hrecord]
    obtain ⟨identity, invalidated, accepted, windows⟩ := l
    obtain rfl : identity = c.identity := hid
    obtain rfl : invalidated = false := hvalid
    exact .streaming _ fmt origin accepted windows s' hs
  · rw [Call.windows, hok] at hw
    have hmem : w ∈ l.windows := hsuffix.subset hw
    have htile : w.streamIdentity = c.identity := by
      obtain ⟨k, hk, rfl⟩ := List.getElem_of_mem hmem
      exact (hs.tiled.getElem k hk).streamIdentity
    refine ⟨htile, l, hrecord, hid, hvalid, List.IsInfix.trans ?_ hs.indexed_prefix.isInfix⟩
    obtain ⟨before, after, hsplit⟩ := List.append_of_mem hmem
    rw [hsplit]
    exact ⟨(before.map ScheduledWindow.frame).flatMap AudioFrame.indexed,
      (after.map ScheduledWindow.frame).flatMap AudioFrame.indexed, by simp⟩
  · rw [hok, Except.ok.injEq] at hr'
    rw [← hr']
    exact hbound.1
  · rw [hok, Except.ok.injEq] at hr'
    rw [← hr']
    exact hbound.2 b

/-- A call whose boundaries fit keeps the ledger and the scheduler in agreement. -/
theorem Agrees.step (h : Agrees ledger s) (hstep : fittingPushes.step s c s') :
    Agrees (Ledger.record ledger c) s' ∧ NotMixed ledger c := by
  obtain ⟨hpush, hfit⟩ := hstep
  have hout := pushBatch_spec h.wellFormed c.identity c.frames
  rw [pushes_step.mp hpush] at hout
  generalize hframes : c.frames = frames at hout hfit
  generalize houtcome : c.outcome = outcome at hout
  cases hout with
  | empty =>
    refine ⟨by rwa [Ledger.record, if_pos hframes], ⟨fun w hw => ?_, fun r hr hne => ?_,
      fun r b hr hb => ?_⟩⟩
    · rw [Call.windows, houtcome] at hw
      cases hw
    · exact absurd hframes hne
    · rw [houtcome, Except.ok.injEq] at hr
      rw [← hr] at hb
      cases hb
  | refused first rest e decided refusal =>
    refine ⟨?_, .of_error houtcome⟩
    rw [Ledger.record, if_neg (by simp [hframes]), houtcome]
    dsimp only
    rwa [if_pos refusal]
  | invalidated first rest e decided refusal =>
    refine ⟨?_, .of_error houtcome⟩
    rw [Ledger.record, if_neg (by simp [hframes]), houtcome]
    dsimp only
    rw [if_neg (by simp [refusal])]
    exact .invalidated c.identity s
  | started first rest admission admits inactive r accepted =>
    have hfits := hfit admission (validateBatch_eq_ok.mpr admits)
    rw [originFor_inactive inactive] at hfits
    obtain ⟨r, n, rfl, hn, hb⟩ := accepted.eq_ok hfits
    have hs := scheduled_of_started accepted
    rw [← hframes] at hs
    refine NotMixed.of_accept (l := ⟨c.identity, false, c.frames, r.windows⟩) h hn houtcome
      (by simp [hframes]) hb ?_ rfl hs (List.suffix_refl _) rfl
    -- The ledger is that of another stream.
    cases ledger with
    | none => rfl
    | some l =>
      have hid : l.identity ≠ c.identity := fun heq => inactive (by rw [h.activeStream, ← heq]; rfl)
      rw [Ledger.accept, if_neg hid]
  | continued first rest admission origin base m admits active stream r accepted =>
    have hfits := hfit admission (validateBatch_eq_ok.mpr admits)
    rw [originFor_active active stream.retained.timelineOrigin] at hfits
    obtain ⟨r, n, rfl, hn, hb⟩ := accepted.eq_ok hfits
    have hactive := h.activeStream
    rw [active] at hactive
    cases h with
    | fresh config => cases hactive
    | invalidated identity s =>
      -- The invalidated identity is refused.
      cases hactive
      exact absurd rfl admits.notInvalid
    | streaming identity fmt origin' before windows s scheduled =>
      cases hactive
      have hs := (scheduled.push hpush rfl houtcome fun _ _ => trivial).1
      have hwindows : c.windows = r.windows := by rw [Call.windows, houtcome]
      rw [hwindows] at hs
      refine NotMixed.of_accept (l := ⟨c.identity, false, before ++ c.frames, windows ++ r.windows⟩)
        (.streaming _ fmt origin' before windows s scheduled) hn houtcome (by simp [hframes]) hb ?_
        rfl hs (List.suffix_append _ _) rfl
      rw [Ledger.accept, if_pos rfl]

/-- In a run whose boundaries fit, the ledger of the calls agrees with the scheduler. -/
theorem agrees_of_run {config : WindowSchedulerConfig} {calls : List (Call ι)}
    (h : fittingPushes.Run (new config) calls s) : Agrees (ledgerOf calls) s :=
  h.history (I := fun calls s => Agrees (ledgerOf calls) s) (.fresh config)
    fun calls s c s' _ hagrees hstep => by
      rw [ledgerOf, List.foldl_append]
      exact (hagrees.step hstep).1

end Agrees

/-- Windows never mix streams, and boundaries account for the frames they drop: in a run whose
boundaries fit, every call is as the ledger of the calls before it says. -/
theorem streams_not_mixed {config : WindowSchedulerConfig} {before : List (Call ι)} {c : Call ι}
    {after : List (Call ι)} {s : WindowScheduler ι}
    (h : fittingPushes.Run (new config) (before ++ c :: after) s) :
    NotMixed (ledgerOf before) c := by
  obtain ⟨s₁, hbefore, s₂, hstep, -⟩ := TransitionSystem.run_append.mp h
  exact ((agrees_of_run hbefore).step hstep).2

/-- A successful empty push under identity 1. -/
def emptyCall : Call ℕ := ⟨1, [], .ok ⟨[], none⟩⟩

/-- The push that switches from identity 0 to identity 1, and drops a frame. -/
def switchingCall : Call ℕ := ⟨1, firstFrame, .ok ⟨[], some ⟨0, 1, 1⟩⟩⟩

/-- These calls are a run. -/
theorem run_switchingCall : fittingPushes.Run (new twoNanoseconds)
    ([openingCall, emptyCall] ++ switchingCall :: [])
    ((new twoNanoseconds).after [(0, firstFrame), (1, firstFrame)]) := by
  have hopen : (new twoNanoseconds).pushBatch 0 firstFrame
      = some (.ok ⟨[], none⟩, (new twoNanoseconds).after [(0, firstFrame)]) := by decide +kernel
  have hswitch : ((new twoNanoseconds).after [(0, firstFrame)]).pushBatch 1 firstFrame
      = some (.ok ⟨[], some ⟨0, 1, 1⟩⟩,
        (new twoNanoseconds).after [(0, firstFrame), (1, firstFrame)]) := by decide +kernel
  refine ⟨_, ⟨hopen, emissionFits_singleton ?_⟩, _, ⟨rfl, trivial⟩, _,
    ⟨hswitch, emissionFits_singleton ?_⟩, rfl⟩ <;> constructor <;> decide +kernel

/-- The switch drops the frame that the first stream has left. -/
theorem streams_not_mixed_example : NotMixed (ledgerOf [openingCall, emptyCall]) switchingCall :=
  streams_not_mixed run_switchingCall

/-- The identity of the last call that succeeded or invalidated its stream, empty calls included. -/
def lastIdentity (calls : List (Call ι)) : Option ι :=
  (calls.filter fun call =>
    match call.outcome with
    | .ok _ => true
    | .error e => !e.refusal).getLast?.map Call.identity

/-- An empty push succeeds and changes nothing, so that the boundary of the next push does not go by
the identity of the last successful one. -/
theorem boundary_skips_empty :
    ¬∀ (config : WindowSchedulerConfig) (before : List (Call ℕ)) (c : Call ℕ)
        (after : List (Call ℕ)) (s : WindowScheduler ℕ),
      fittingPushes.Run (new config) (before ++ c :: after) s → ∀ r, c.outcome = .ok r →
        c.frames ≠ [] → r.streamBoundary.map StreamBoundary.previousStream
          = (lastIdentity before).filter (· ≠ c.identity) := by
  intro h
  have heq := h _ _ _ _ _ run_switchingCall _ rfl (by decide)
  exact absurd heq (by decide)

end WindowScheduler

end ResonanceSignal
