import ResonanceSignal.Core.Signal
import ResonanceSignal.Lib.Result

/-!
# The window scheduler

The bounded window scheduler of `resonance-core/src/scheduling.rs`. A call of `pushBatch` has two
phases, and the model keeps them apart. `validateBatch` decides whether the batch is accepted, and
changes nothing: it refuses the batch, or finds that it breaks the stream, or returns what the
second phase needs. `accept` then switches streams where the identity changed, appends the samples,
and cuts the windows, changing the state as it goes.

A call that the source ends by a failed `expect` has no outcome here (`none`). An error keeps the
state that the source leaves behind it, which in the second phase is whatever the loop had reached.

The inner `while` loop is `cutWindows`, over fuel. Every turn of the loop removes a window's
samples, so as much fuel as there are samples is enough (`cutWindows_lt`).
-/

namespace ResonanceSignal

/-- `NANOS_PER_SECOND` -/
def nanosPerSecond : ℕ := 10^9

/-- `TIMESTAMP_TOLERANCE_NS` -/
def timestampToleranceNs : ℕ := 1

/-- `DEFAULT_WINDOW_DURATION`: one window per update at 30 updates per second. -/
def defaultWindowDuration : Duration := ⟨0, 33333333, by decide⟩

/-- The ways a scheduler configuration can be rejected. -/
inductive WindowSchedulerConfigError
  | zeroWindowDuration
  | zeroMaxWindowsPerPush
deriving DecidableEq, Repr

/-- The configuration of a `WindowScheduler`. -/
structure WindowSchedulerConfig where
  /-- The target duration of a window. -/
  targetWindowDuration : Duration
  /-- The bound on the windows of one call. -/
  maxWindowsPerPush : UInt64
  duration_pos : 0 < targetWindowDuration.asNanos
  max_pos : 0 < maxWindowsPerPush.toNat
deriving DecidableEq, Repr

/-- `WindowSchedulerConfig::new` -/
def WindowSchedulerConfig.new (targetWindowDuration : Duration) (maxWindowsPerPush : UInt64) :
    Except WindowSchedulerConfigError WindowSchedulerConfig :=
  if hd : 0 < targetWindowDuration.asNanos then
    if hm : 0 < maxWindowsPerPush.toNat then
      .ok ⟨targetWindowDuration, maxWindowsPerPush, hd, hm⟩
    else .error .zeroMaxWindowsPerPush
  else .error .zeroWindowDuration

/-- `WindowSchedulerConfig::default` -/
def WindowSchedulerConfig.default : WindowSchedulerConfig :=
  ⟨defaultWindowDuration, 8, by decide, by decide⟩

/-- One complete analysis window, with its stream. -/
structure ScheduledWindow (ι : Type) where
  /-- The stream that the window belongs to. -/
  streamIdentity : ι
  /-- The window's samples, with their place on the timeline. -/
  frame : AudioFrame
deriving DecidableEq, Repr

/-- An observed switch between uninterrupted streams. -/
structure StreamBoundary (ι : Type) where
  /-- The stream that ended. -/
  previousStream : ι
  /-- The stream that begins. -/
  currentStream : ι
  /-- The frames of the previous stream that no window held. -/
  discardedPartialFrames : UInt32
deriving DecidableEq, Repr

/-- The complete windows of one call, and the boundary it crossed. -/
structure SchedulingResult (ι : Type) where
  /-- The windows, in order. -/
  windows : List (ScheduledWindow ι)
  /-- The boundary, where the stream changed. -/
  streamBoundary : Option (StreamBoundary ι)
deriving DecidableEq, Repr

/-- The errors of `push_batch`. -/
inductive SchedulingError
  | windowFrameCountOutOfRange
  | inputFrameCountOverflow
  | oversizedInput (actualFrames maximumFrames : UInt64)
  | streamIdentityInvalidated
  | formatChangedWithinStream
  | frameIndexDiscontinuity (expected actual : UInt64)
  | timestampDiscontinuity (expectedNs actualNs : UInt64)
  | timestampOverflow
  | invalidSignalData (error : SignalDataError)
deriving DecidableEq, Repr

/-! ## Frame counts and timestamps -/

/-- The frame count of a window, a nonzero `u32`. -/
structure WindowFrames where
  /-- The number of frames. -/
  get : UInt32
  get_pos : 0 < get.toNat
deriving Repr

/-- Window frame counts are equal when their numbers are. -/
theorem WindowFrames.eq_iff {w w' : WindowFrames} : w.get = w'.get ↔ w = w' := by
  cases w
  cases w'
  exact WindowFrames.mk.injEq .. ▸ Iff.rfl

instance : DecidableEq WindowFrames := fun _ _ => decidable_of_iff _ WindowFrames.eq_iff

/-- A rounded frame count, where it is a nonzero `u32`. -/
def WindowFrames.ofNat (rounded : ℕ) : Option WindowFrames :=
  if h : 0 < rounded ∧ rounded < 2^32 then
    some ⟨UInt32.ofNat rounded, by rw [UInt32.toNat_ofNat_of_lt' h.2]; exact h.1⟩
  else none

/-- A rounded frame count is a window's when it is a nonzero `u32`. -/
theorem WindowFrames.ofNat_eq_some {n : ℕ} {w : WindowFrames} :
    WindowFrames.ofNat n = some w ↔ w.get.toNat = n := by
  unfold WindowFrames.ofNat
  constructor
  · intro h
    split_ifs at h with hn
    cases h
    exact UInt32.toNat_ofNat_of_lt' hn.2
  · rintro rfl
    rw [dif_pos ⟨w.get_pos, w.get.toNat_lt⟩]
    simp

/-- `window_frame_count`: the duration in frames, rounded to the nearest whole frame. -/
def windowFrameCount (duration : Duration) (sampleRate : SampleRate) :
    Except SchedulingError WindowFrames := do
  let numerator ← okOr .windowFrameCountOutOfRange
    (Checked.mul128 duration.asNanos sampleRate.hz.toNat)
  let sum ← okOr .windowFrameCountOutOfRange (Checked.add128 numerator (nanosPerSecond / 2))
  okOr .windowFrameCountOutOfRange (WindowFrames.ofNat (sum / nanosPerSecond))

/-- `window_frame_count` fails only by being out of range. -/
theorem windowFrameCount_error {duration : Duration} {sampleRate : SampleRate} {e : SchedulingError}
    (h : windowFrameCount duration sampleRate = .error e) : e = .windowFrameCountOutOfRange := by
  simp only [windowFrameCount, Result.bind_eq_error, okOr_eq_error] at h
  obtain ⟨-, rfl⟩ | ⟨_, -, ⟨-, rfl⟩ | ⟨_, -, -, rfl⟩⟩ := h <;> rfl

/-- `advance_timestamp`: the timestamp after `frameCount` frames from `start`. -/
def advanceTimestamp (start : FrameTimestamp) (frameCount : UInt32) (sampleRate : SampleRate) :
    Except SchedulingError FrameTimestamp := do
  let frameIndex ← okOr .timestampOverflow (Checked.add start.frameIndex frameCount.toUInt64)
  let nanos ← okOr .timestampOverflow (Checked.mul frameCount.toUInt64 1000000000)
  let elapsed := nanos / sampleRate.hz.toUInt64
  let streamTimeNs ← okOr .timestampOverflow (Checked.add start.streamTimeNs elapsed)
  return ⟨frameIndex, streamTimeNs⟩

/-- `timestamp_for_frame_index`: the timestamp of a frame index on the timeline of `origin`. -/
def timestampForFrameIndex (origin : FrameTimestamp) (frameIndex : UInt64)
    (sampleRate : SampleRate) : Except SchedulingError FrameTimestamp := do
  let elapsedFrames ← okOr .timestampOverflow (Checked.sub frameIndex origin.frameIndex)
  let nanos ← okOr .timestampOverflow (Checked.mul elapsedFrames 1000000000)
  let elapsed := nanos / sampleRate.hz.toUInt64
  let streamTimeNs ← okOr .timestampOverflow (Checked.add origin.streamTimeNs elapsed)
  return ⟨frameIndex, streamTimeNs⟩

/-- The quotient of two 64-bit words is the exact one. -/
theorem div_hz_toNat (nanos : UInt64) (sampleRate : SampleRate) :
    (nanos / sampleRate.hz.toUInt64).toNat = nanos.toNat / sampleRate.hz.toNat := by
  rw [UInt64.toNat_div, UInt32.toNat_toUInt64]

/-- Two timestamps are equal when their indices and their times are. -/
theorem FrameTimestamp.ext_toNat {a b : FrameTimestamp}
    (hi : a.frameIndex.toNat = b.frameIndex.toNat)
    (ht : a.streamTimeNs.toNat = b.streamTimeNs.toNat) : a = b := by
  obtain ⟨i, t⟩ := a
  obtain ⟨j, u⟩ := b
  rw [FrameTimestamp.mk.injEq]
  exact ⟨UInt64.toNat_inj.mp hi, UInt64.toNat_inj.mp ht⟩

/-- A successful `advance_timestamp` is exact in the index and the time. -/
theorem advanceTimestamp_eq_ok {start next : FrameTimestamp} {frameCount : UInt32}
    {sampleRate : SampleRate} :
    advanceTimestamp start frameCount sampleRate = .ok next ↔
      next.frameIndex.toNat = start.frameIndex.toNat + frameCount.toNat ∧
        next.streamTimeNs.toNat =
          start.streamTimeNs.toNat + frameCount.toNat * 10^9 / sampleRate.hz.toNat := by
  have hnanos : (1000000000 : UInt64).toNat = 10^9 := by decide
  simp only [advanceTimestamp, Result.bind_eq_ok, okOr_eq_ok, Checked.add_eq_some,
    Checked.mul_eq_some, div_hz_toNat, UInt32.toNat_toUInt64, hnanos]
  constructor
  · rintro ⟨i, hi, n, hn, t, ht, h⟩
    cases h
    exact ⟨hi, by rw [ht, hn]⟩
  · rintro ⟨hi, ht⟩
    -- `2^32 * 10^9` is below `2^64`.
    have hn : frameCount.toNat * 10^9 < 2^64 := by
      have := frameCount.toNat_lt
      omega
    exact ⟨next.frameIndex, hi, UInt64.ofNat (frameCount.toNat * 10^9),
      UInt64.toNat_ofNat_of_lt' hn, next.streamTimeNs,
      by rw [ht, UInt64.toNat_ofNat_of_lt' hn], rfl⟩

/-- `advance_timestamp` fails only by overflow. -/
theorem advanceTimestamp_error {start : FrameTimestamp} {frameCount : UInt32}
    {sampleRate : SampleRate} {e : SchedulingError}
    (h : advanceTimestamp start frameCount sampleRate = .error e) : e = .timestampOverflow := by
  simp only [advanceTimestamp, Result.bind_eq_error, okOr_eq_error] at h
  obtain ⟨-, rfl⟩ | ⟨_, -, ⟨-, rfl⟩ | ⟨_, -, ⟨-, rfl⟩ | ⟨_, -, h⟩⟩⟩ := h
  · rfl
  · rfl
  · rfl
  · cases h

/-- The frame indices that `timestamp_for_frame_index` can place on the timeline of `origin`: the
elapsed frames times `10^9` and the resulting time both fit in a `u64`. -/
def TimestampFits (origin : FrameTimestamp) (sampleRate : SampleRate) (x : ℕ) : Prop :=
  (x - origin.frameIndex.toNat) * 10^9 < 2^64 ∧
    origin.streamTimeNs.toNat +
      (x - origin.frameIndex.toNat) * 10^9 / sampleRate.hz.toNat < 2^64

/-- On an index at or after the origin's, a successful `timestamp_for_frame_index` keeps the index
and has the time that the origin gives it. -/
theorem timestampForFrameIndex_eq_ok {origin next : FrameTimestamp} {frameIndex : UInt64}
    {sampleRate : SampleRate} (hle : origin.frameIndex.toNat ≤ frameIndex.toNat) :
    timestampForFrameIndex origin frameIndex sampleRate = .ok next ↔
      TimestampFits origin sampleRate frameIndex.toNat ∧ next.frameIndex = frameIndex ∧
        next.streamTimeNs.toNat = origin.streamTimeNs.toNat +
          (frameIndex.toNat - origin.frameIndex.toNat) * 10^9 / sampleRate.hz.toNat := by
  have hnanos : (1000000000 : UInt64).toNat = 10^9 := by decide
  simp only [timestampForFrameIndex, TimestampFits, Result.bind_eq_ok, okOr_eq_ok,
    Checked.add_eq_some, Checked.mul_eq_some, Checked.sub_eq_some, div_hz_toNat, hnanos]
  constructor
  · rintro ⟨e, ⟨-, he⟩, n, hn, t, ht, h⟩
    cases h
    have hlt := t.toNat_lt
    have hnlt := n.toNat_lt
    rw [hn, he] at ht hnlt
    rw [ht] at hlt
    exact ⟨⟨by omega, hlt⟩, rfl, ht⟩
  · rintro ⟨⟨hn, -⟩, rfl, ht⟩
    have he : next.frameIndex.toNat - origin.frameIndex.toNat < 2^64 := by omega
    exact ⟨UInt64.ofNat (next.frameIndex.toNat - origin.frameIndex.toNat),
      ⟨hle, UInt64.toNat_ofNat_of_lt' he⟩,
      UInt64.ofNat ((next.frameIndex.toNat - origin.frameIndex.toNat) * 10^9),
      by rw [UInt64.toNat_ofNat_of_lt' hn, UInt64.toNat_ofNat_of_lt' he], next.streamTimeNs,
      by rw [ht, UInt64.toNat_ofNat_of_lt' hn], rfl⟩

/-- `timestamp_for_frame_index` fails only by overflow. -/
theorem timestampForFrameIndex_error {origin : FrameTimestamp} {frameIndex : UInt64}
    {sampleRate : SampleRate} {e : SchedulingError}
    (h : timestampForFrameIndex origin frameIndex sampleRate = .error e) :
    e = .timestampOverflow := by
  simp only [timestampForFrameIndex, Result.bind_eq_error, okOr_eq_error] at h
  obtain ⟨-, rfl⟩ | ⟨_, -, ⟨-, rfl⟩ | ⟨_, -, ⟨-, rfl⟩ | ⟨_, -, h⟩⟩⟩ := h
  · rfl
  · rfl
  · rfl
  · cases h

/-- `timestamp_for_frame_index` succeeds exactly on the indices that fit. -/
theorem exists_timestampForFrameIndex {origin : FrameTimestamp} {frameIndex : UInt64}
    {sampleRate : SampleRate} (hle : origin.frameIndex.toNat ≤ frameIndex.toNat) :
    (∃ next, timestampForFrameIndex origin frameIndex sampleRate = .ok next) ↔
      TimestampFits origin sampleRate frameIndex.toNat := by
  constructor
  · rintro ⟨next, h⟩
    exact ((timestampForFrameIndex_eq_ok hle).mp h).1
  · intro h
    refine ⟨⟨frameIndex, UInt64.ofNat (origin.streamTimeNs.toNat +
      (frameIndex.toNat - origin.frameIndex.toNat) * 10^9 / sampleRate.hz.toNat)⟩, ?_⟩
    rw [timestampForFrameIndex_eq_ok hle]
    exact ⟨h, rfl, UInt64.toNat_ofNat_of_lt' h.2⟩

/-! ## The scheduler state -/

/-- Accumulates contiguous waveform frames into bounded, non-overlapping windows. -/
structure WindowScheduler (ι : Type) where
  /-- The configuration. -/
  config : WindowSchedulerConfig
  /-- The stream of the last push that was not refused. -/
  activeStream : Option ι
  /-- The stream that a discontinuity invalidated. -/
  invalidStream : Option ι
  /-- The sample rate of the active stream. -/
  sampleRate : Option SampleRate
  /-- The channel layout of the active stream. -/
  channels : Option ChannelLayout
  /-- The start of the active stream's first frame. -/
  timelineOrigin : Option FrameTimestamp
  /-- Where the active stream's next frame has to start. -/
  expectedNext : Option FrameTimestamp
  /-- Where the retained samples start. -/
  bufferStart : Option FrameTimestamp
  /-- The samples that no window holds yet. -/
  samples : List Sample
deriving DecidableEq, Repr

/-- The format of a stream, with the window size that it gives. -/
structure StreamFormat where
  /-- The sample rate. -/
  sampleRate : SampleRate
  /-- The channel layout. -/
  channels : ChannelLayout
  /-- The frames of a window. -/
  windowFrames : WindowFrames
deriving DecidableEq, Repr

/-- The frames of a window, as a natural number. -/
def StreamFormat.frames (fmt : StreamFormat) : ℕ := fmt.windowFrames.get.toNat

/-- The samples of a window. -/
def StreamFormat.samplesPerWindow (fmt : StreamFormat) : ℕ :=
  fmt.frames * fmt.channels.channels

/-- Why the first phase of `push_batch` does not accept a batch. -/
inductive Rejection
  /-- The call returns the error and leaves the state alone. -/
  | refused (error : SchedulingError)
  /-- The call invalidates the pushed identity and returns the error. -/
  | invalidating (error : SchedulingError)
deriving DecidableEq, Repr

/-- What the first phase of `push_batch` establishes of a batch that it accepts. -/
structure Admission where
  /-- Whether the pushed identity is not the active one. -/
  streamChanged : Bool
  /-- The format of the batch. -/
  format : StreamFormat
  /-- Where the frame after the batch has to start. -/
  expected : Option FrameTimestamp
deriving DecidableEq, Repr

namespace WindowScheduler

variable {ι : Type}

/-- `WindowScheduler::new` -/
def new (config : WindowSchedulerConfig) : WindowScheduler ι :=
  ⟨config, none, none, none, none, none, none, none, []⟩

/-- `clear_stream_state` -/
def clearStreamState (self : WindowScheduler ι) : WindowScheduler ι :=
  { self with
    sampleRate := none
    channels := none
    timelineOrigin := none
    expectedNext := none
    bufferStart := none
    samples := [] }

/-- `invalidate` -/
def invalidate (self : WindowScheduler ι) (identity : ι) : WindowScheduler ι :=
  { self.clearStreamState with
    activeStream := some identity
    invalidStream := some identity }

/-- `buffered_frame_count`. The source expects the count to fit in a `u32`. -/
def bufferedFrameCount (self : WindowScheduler ι) : Option UInt32 :=
  match self.channels with
  | some layout => Checked.ofNat32 (self.samples.length / layout.channels)
  | none => some 0

/-! ## The first phase: validation -/

/-- The continuity error of a frame that starts at `actual` where `expected` is due: a different
index, or a time more than a nanosecond away. -/
def continuityError (expected : Option FrameTimestamp) (actual : FrameTimestamp) :
    Option SchedulingError :=
  match expected with
  | none => none
  | some due =>
    if actual.frameIndex ≠ due.frameIndex then
      some (.frameIndexDiscontinuity due.frameIndex actual.frameIndex)
    else if timestampToleranceNs < Checked.absDiff actual.streamTimeNs due.streamTimeNs then
      some (.timestampDiscontinuity due.streamTimeNs actual.streamTimeNs)
    else none

/-- The validation loop of `push_batch`: every frame has the batch's format, starts where it is due,
and has an end that the timeline can represent. Returns where the next frame is due. -/
def validateFrames (sampleRate : SampleRate) (channels : ChannelLayout) :
    Option FrameTimestamp → List AudioFrame → Except SchedulingError (Option FrameTimestamp)
  | expected, [] => .ok expected
  | expected, frame :: frames =>
    if frame.sampleRate ≠ sampleRate ∨ frame.channels ≠ channels then
      .error .formatChangedWithinStream
    else
      match continuityError expected frame.window.start with
      | some error => .error error
      | none =>
        match advanceTimestamp frame.window.start frame.window.frameCount sampleRate with
        | .error error => .error error
        | .ok next => validateFrames sampleRate channels (some next) frames

/-- The number of frames of a batch, where it fits in a `u64`. -/
def inputFrameCount (frames : List AudioFrame) : Option UInt64 :=
  frames.foldlM (fun total frame => Checked.add total frame.window.frameCount.toUInt64) 0

variable [DecidableEq ι]

/-- Whether a push under an identity leaves the active stream for it. -/
def streamChanged (self : WindowScheduler ι) (identity : ι) : Bool :=
  self.activeStream.any (· ≠ identity)

/-- Where a batch under the identity has to start: anywhere on a new stream. -/
def due (self : WindowScheduler ι) (identity : ι) : Option FrameTimestamp :=
  if self.streamChanged identity then none else self.expectedNext

/-- Whether a batch that begins with `first` does not have the format of the stream it continues. -/
def formatChanged (self : WindowScheduler ι) (identity : ι) (first : AudioFrame) : Prop :=
  ¬self.streamChanged identity ∧ self.activeStream.isSome ∧
    (self.sampleRate ≠ some first.sampleRate ∨ self.channels ≠ some first.channels)

instance (self : WindowScheduler ι) (identity : ι) (first : AudioFrame) :
    Decidable (self.formatChanged identity first) :=
  inferInstanceAs (Decidable (_ ∧ _ ∧ _))

/-- The first phase of `push_batch` on a batch that begins with `first`. -/
def validateBatch (self : WindowScheduler ι) (identity : ι) (first : AudioFrame)
    (rest : List AudioFrame) : Except Rejection Admission := do
  failIf (self.invalidStream = some identity) (.refused .streamIdentityInvalidated)
  let windowFrames ←
    (windowFrameCount self.config.targetWindowDuration first.sampleRate).mapError .refused
  failIf (self.formatChanged identity first) (.invalidating .formatChangedWithinStream)
  let inputFrames ← okOr (.refused .inputFrameCountOverflow) (inputFrameCount (first :: rest))
  let maximumFrames ← okOr (.refused .inputFrameCountOverflow)
    (Checked.mul windowFrames.get.toUInt64 self.config.maxWindowsPerPush)
  failIf (maximumFrames < inputFrames) (.refused (.oversizedInput inputFrames maximumFrames))
  let expected ← (validateFrames first.sampleRate first.channels (self.due identity)
    (first :: rest)).mapError .invalidating
  return ⟨self.streamChanged identity, ⟨first.sampleRate, first.channels, windowFrames⟩, expected⟩

/-! ## The second phase: switching streams and cutting windows -/

omit [DecidableEq ι] in
/-- The `while` loop of `push_batch`: cut a window from the front while enough samples are retained,
and move the buffer's start past it. -/
def cutWindows (fmt : StreamFormat) (identity : ι) :
    ℕ → WindowScheduler ι → List (ScheduledWindow ι) →
      Option (Except SchedulingError (List (ScheduledWindow ι)) × WindowScheduler ι)
  | 0, self, windows => some (.ok windows, self)
  | fuel + 1, self, windows =>
    if fmt.samplesPerWindow ≤ self.samples.length then
      match self.bufferStart with
      | none => none
      | some start =>
        let windowSamples := self.samples.take fmt.samplesPerWindow
        let drained := { self with samples := self.samples.drop fmt.samplesPerWindow }
        match AudioFrame.new start fmt.sampleRate fmt.channels windowSamples with
        | .error error => some (.error (.invalidSignalData error), drained)
        | .ok output =>
          let windows := windows ++ [⟨identity, output⟩]
          if drained.samples = [] then
            cutWindows fmt identity fuel { drained with bufferStart := none } windows
          else
            match Checked.add start.frameIndex fmt.windowFrames.get.toUInt64 with
            | none => some (.error .timestampOverflow, drained)
            | some nextFrameIndex =>
              match drained.timelineOrigin with
              | none => none
              | some origin =>
                match timestampForFrameIndex origin nextFrameIndex fmt.sampleRate with
                | .error error => some (.error error, drained)
                | .ok next =>
                  cutWindows fmt identity fuel { drained with bufferStart := some next } windows
    else some (.ok windows, self)

omit [DecidableEq ι] in
/-- Append a frame's samples. An empty buffer starts where the frame does. -/
def appendFrame (self : WindowScheduler ι) (frame : AudioFrame) : WindowScheduler ι :=
  { self with
    bufferStart := if self.samples = [] then some frame.window.start else self.bufferStart
    samples := self.samples ++ frame.samples }

omit [DecidableEq ι] in
/-- The `for` loop of `push_batch`: append each frame's samples and cut the windows they complete.
-/
def emitFrames (fmt : StreamFormat) (identity : ι) :
    List AudioFrame → WindowScheduler ι → List (ScheduledWindow ι) →
      Option (Except SchedulingError (List (ScheduledWindow ι)) × WindowScheduler ι)
  | [], self, windows => some (.ok windows, self)
  | frame :: frames, self, windows =>
    let extended := self.appendFrame frame
    match cutWindows fmt identity extended.samples.length extended windows with
    | some (.ok windows, self) => emitFrames fmt identity frames self windows
    | some (.error error, self) => some (.error error, self)
    | none => none

/-- The state that the emission loop starts from: the new stream's where the identity changed or no
stream was active, and the state as it is otherwise. -/
def switchStream (self : WindowScheduler ι) (identity : ι) (first : AudioFrame)
    (admission : Admission) : WindowScheduler ι :=
  if admission.streamChanged || self.activeStream.isNone then
    { self.clearStreamState with
      activeStream := some identity
      invalidStream := none
      sampleRate := some admission.format.sampleRate
      channels := some admission.format.channels
      timelineOrigin := some first.window.start }
  else self

/-- The boundary that a call reports. The source expects a changed stream to have a previous one. -/
def boundary (self : WindowScheduler ι) (identity : ι) (admission : Admission)
    (discarded : UInt32) : Option (Option (StreamBoundary ι)) :=
  if admission.streamChanged then
    self.activeStream.map fun previous => some ⟨previous, identity, discarded⟩
  else some none

/-- The second phase of `push_batch` on a batch that begins with `first`. -/
def accept (self : WindowScheduler ι) (identity : ι) (first : AudioFrame)
    (rest : List AudioFrame) (admission : Admission) :
    Option (Except SchedulingError (SchedulingResult ι) × WindowScheduler ι) := do
  let discarded ← self.bufferedFrameCount
  let streamBoundary ← self.boundary identity admission discarded
  match ← emitFrames admission.format identity (first :: rest)
      (self.switchStream identity first admission) [] with
  | (.ok windows, self) =>
    some (.ok ⟨windows, streamBoundary⟩, { self with expectedNext := admission.expected })
  | (.error error, self) => some (.error error, self)

/-- `push_batch`: push zero or more contiguous frames from one stream. -/
def pushBatch (self : WindowScheduler ι) (identity : ι) :
    List AudioFrame → Option (Except SchedulingError (SchedulingResult ι) × WindowScheduler ι)
  | [] => some (.ok ⟨[], none⟩, self)
  | first :: rest =>
    match self.validateBatch identity first rest with
    | .error (.refused error) => some (.error error, self)
    | .error (.invalidating error) => some (.error error, self.invalidate identity)
    | .ok admission => self.accept identity first rest admission

/-- `push`: push one bounded waveform batch. -/
def push (self : WindowScheduler ι) (identity : ι) (frame : AudioFrame) :
    Option (Except SchedulingError (SchedulingResult ι) × WindowScheduler ι) :=
  self.pushBatch identity [frame]

end WindowScheduler

end ResonanceSignal
