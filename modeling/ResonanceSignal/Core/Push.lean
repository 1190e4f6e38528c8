import ResonanceSignal.Core.Admission

/-!
# One call of `push_batch`

The states that a scheduler passes through, and what a call does to them. A scheduler is fresh, or
holds an invalidated stream, or is on a stream (`Streaming`), and `WellFormed` is the disjunction.
On a well-formed state a call never ends in a failed `expect`, and `pushBatch_spec` lists what it
can do: nothing on an empty batch, refuse, invalidate, or accept. An accepted batch is scheduled on
the stream it starts or continues, unless a window boundary inside one of its frames has a timestamp
that does not fit. That is the one way in which a call leaves a half-consumed batch behind
(`AcceptOutcome.overflow`).
-/

namespace ResonanceSignal

namespace WindowScheduler

variable {ι : Type}

/-- A scheduler on a stream: the format is known and gives the window size, less than a window is
retained, and the next frame is due where the retained samples end. -/
structure Streaming (fmt : StreamFormat) (origin : FrameTimestamp) (P : FrameTimestamp → Prop)
    (base m : ℕ) (s : WindowScheduler ι) : Prop where
  /-- The stream's sample rate. -/
  sampleRate : s.sampleRate = some fmt.sampleRate
  /-- The stream's channel layout. -/
  channels : s.channels = some fmt.channels
  /-- The window size is the configured duration's at that rate. -/
  windowFrames : windowFrameCount s.config.targetWindowDuration fmt.sampleRate
    = .ok fmt.windowFrames
  /-- The retained samples are the `m` frames from `base` on, -/
  retained : Retained fmt origin P base m s
  /-- which is less than a window. -/
  lt : m < fmt.frames
  /-- The next frame is due where the retained samples end. -/
  expectedNext : ∃ due, s.expectedNext = some due ∧ due.frameIndex.toNat = base + m
  /-- The timestamps that the stream's origin gives satisfy the predicate. -/
  computed : ∀ i next, timestampForFrameIndex origin i fmt.sampleRate = .ok next → P next

/-- On a stream, the buffered frame count is the number of retained frames. -/
theorem Streaming.bufferedFrameCount {fmt : StreamFormat} {origin : FrameTimestamp}
    {P : FrameTimestamp → Prop} {base m : ℕ} {s : WindowScheduler ι}
    (h : Streaming fmt origin P base m s) :
    ∃ n, s.bufferedFrameCount = some n ∧ n.toNat = m := by
  have hlt : m < 2^32 := lt_trans h.lt fmt.windowFrames.get.toNat_lt
  refine ⟨UInt32.ofNat m, ?_, UInt32.toNat_ofNat_of_lt' hlt⟩
  rw [WindowScheduler.bufferedFrameCount, h.channels]
  dsimp only
  rw [Checked.ofNat32_eq_some, h.retained.length, Nat.mul_div_cancel _ fmt.channels.channels_pos,
    UInt32.toNat_ofNat_of_lt' hlt]

/-- The states of a scheduler. -/
inductive WellFormed (s : WindowScheduler ι) : Prop
  /-- Nothing was pushed yet. -/
  | fresh (h : s = new s.config)
  /-- The last push that changed the state invalidated its stream. -/
  | invalidated (identity : ι) (h : s = s.invalidate identity)
  /-- The scheduler is on a stream. -/
  | streaming (identity : ι) (fmt : StreamFormat) (origin : FrameTimestamp) (base m : ℕ)
    (active : s.activeStream = some identity) (valid : s.invalidStream = none)
    (stream : Streaming fmt origin (fun _ => True) base m s)

/-- The source's `expect` on the buffered frame count holds on well-formed states. -/
theorem WellFormed.bufferedFrameCount {s : WindowScheduler ι} (h : s.WellFormed) :
    ∃ n, s.bufferedFrameCount = some n := by
  cases h with
  | fresh h =>
    refine ⟨0, ?_⟩
    rw [h]
    rfl
  | invalidated identity h =>
    refine ⟨0, ?_⟩
    rw [h]
    rfl
  | streaming identity fmt origin base m active valid stream =>
    obtain ⟨n, hn, -⟩ := stream.bufferedFrameCount
    exact ⟨n, hn⟩

variable [DecidableEq ι]

/-- The boundary of a push that `n` buffered frames do not survive. -/
def boundaryAt (s : WindowScheduler ι) (identity : ι) (n : UInt32) : Option (StreamBoundary ι) :=
  match s.activeStream with
  | some previous => if previous = identity then none else some ⟨previous, identity, n⟩
  | none => none

/-- The source's `expect` on the previous identity holds: a changed stream has one. -/
theorem boundary_eq {s : WindowScheduler ι} {identity : ι} {admission : Admission}
    (h : admission.streamChanged = s.streamChanged identity) (n : UInt32) :
    s.boundary identity admission n = some (s.boundaryAt identity n) := by
  rw [boundary, boundaryAt, h, streamChanged]
  cases s.activeStream with
  | none => rfl
  | some previous =>
    by_cases hp : previous = identity <;> simp [hp]

/-- How an accepted batch ends, on the stream of `origin` with the `m` retained frames `held` from
`base` on. -/
inductive AcceptOutcome (s : WindowScheduler ι) (identity : ι) (fmt : StreamFormat)
    (origin : FrameTimestamp) (P : FrameTimestamp → Prop) (base m : ℕ) (held : List Sample)
    (frames : List AudioFrame) :
    Option (Except SchedulingError (SchedulingResult ι) × WindowScheduler ι) → Prop
  /-- The batch is scheduled. -/
  | scheduled (n : UInt32) (ws : List (ScheduledWindow ι)) (m' : ℕ) (s' : WindowScheduler ι)
      (buffered : s.bufferedFrameCount = some n) (config : s'.config = s.config)
      (active : s'.activeStream = some identity) (valid : s'.invalidStream = none)
      (fits : TimelineFits fmt origin frames) (contiguous : FramesFrom fmt P (base + m) frames)
      (tiled : WindowsFrom fmt identity P base ws)
      (bounded : ws.length ≤ s.config.maxWindowsPerPush.toNat)
      (lossless : windowSamples ws ++ s'.samples = held ++ frameSamples frames)
      (number : ws.length * fmt.frames + m' = m + frameCount frames)
      (stream : Streaming fmt origin P (base + ws.length * fmt.frames) m' s') :
      AcceptOutcome s identity fmt origin P base m held frames
        (some (.ok ⟨ws, s.boundaryAt identity n⟩, s'))
  /-- A timestamp does not fit, and the state is left as the loop had it. -/
  | overflow (s' : WindowScheduler ι) (config : s'.config = s.config)
      (active : s'.activeStream = some identity) (valid : s'.invalidStream = none)
      (misfit : ¬TimelineFits fmt origin frames) :
      AcceptOutcome s identity fmt origin P base m held frames
        (some (.error .timestampOverflow, s'))

section Accept

variable {s : WindowScheduler ι} {identity : ι} {first : AudioFrame} {rest : List AudioFrame}
  {admission : Admission} {P : FrameTimestamp → Prop}

/-- What the emission loop does is what the call does. -/
theorem acceptOutcome_of_emit {s₀ : WindowScheduler ι} {origin : FrameTimestamp} {base m : ℕ}
    {n : UInt32} (h : s.Admits identity first rest admission)
    (hn : s.bufferedFrameCount = some n) (hs₀ : s.switchStream identity first admission = s₀)
    (hconfig : s₀.config = s.config) (hactive : s₀.activeStream = some identity)
    (hvalid : s₀.invalidStream = none) (hrate : s₀.sampleRate = some admission.format.sampleRate)
    (hchannels : s₀.channels = some admission.format.channels)
    (hP : ∀ i next, timestampForFrameIndex origin i admission.format.sampleRate = .ok next → P next)
    (hR : Retained admission.format origin P base m s₀) (hm : m < admission.format.frames)
    (hframes : FramesFrom admission.format P (base + m) (first :: rest))
    (hdue : ∃ ts, admission.expected = some ts ∧
      ts.frameIndex.toNat = base + m + frameCount (first :: rest)) :
    AcceptOutcome s identity admission.format origin P base m s₀.samples (first :: rest)
      (s.accept identity first rest admission) := by
  obtain ⟨ts, hts, hend⟩ := hdue
  have hlt : base + m + frameCount (first :: rest) < 2^64 := by
    rw [← hend]
    exact ts.frameIndex.toNat_lt
  have hemit := emitFrames_spec identity (fun _ _ i next _ _ => hP i next) [] hR hm hframes hlt
  simp only [accept, hn, boundary_eq h.streamChanged, hs₀, Option.bind_eq_bind, Option.bind_some]
  generalize emitFrames admission.format identity (first :: rest) s₀ [] = r at hemit
  cases hemit with
  | overflow s' same misfit =>
    refine .overflow s' ?_ ?_ ?_ misfit
    · rw [same, hconfig]
    · rw [same, hactive]
    · rw [same, hvalid]
  | emitted ws m' s' same fits tiled lossless lt number retained =>
    -- Less than a window was retained, and the batch is within the bound.
    have hbounded : ws.length ≤ s.config.maxWindowsPerPush.toNat := by
      have hmax := h.bounded
      have hlt : ws.length * admission.format.frames
          < (s.config.maxWindowsPerPush.toNat + 1) * admission.format.frames := by
        rw [Nat.succ_mul, Nat.mul_comm s.config.maxWindowsPerPush.toNat]
        omega
      exact Nat.le_of_lt_succ (Nat.lt_of_mul_lt_mul_right hlt)
    refine .scheduled n ws m' _ hn ?_ ?_ ?_ fits hframes tiled hbounded lossless number
      ⟨?_, ?_, ?_, ?_, lt, ⟨ts, hts, ?_⟩, hP⟩
    · exact (congrArg config same).trans hconfig
    · exact (congrArg activeStream same).trans hactive
    · exact (congrArg invalidStream same).trans hvalid
    · exact (congrArg sampleRate same).trans hrate
    · exact (congrArg channels same).trans hchannels
    · have : s'.config = s.config := (congrArg config same).trans hconfig
      dsimp only
      rw [this, h.sampleRate]
      exact h.windowFrames
    · exact ⟨retained.timelineOrigin, retained.length, retained.finite, retained.bufferStart,
        retained.origin_le, retained.dvd⟩
    · rw [hend]
      omega

/-- A stream other than the active one is a change, or the first stream. -/
theorem streamChanged_of_ne (h : s.activeStream ≠ some identity) :
    s.streamChanged identity = true ∨ s.activeStream = none := by
  cases hactive : s.activeStream with
  | none => exact .inr rfl
  | some active =>
    rw [hactive, ne_eq, Option.some.injEq] at h
    exact .inl (by simp [streamChanged, hactive, h])

/-- A batch that starts a stream is scheduled on the timeline of its first frame. -/
theorem accept_new (h : s.Admits identity first rest admission)
    (hn : ∃ n, s.bufferedFrameCount = some n)
    (hnew : s.streamChanged identity = true ∨ s.activeStream = none)
    (hfresh : s.activeStream = none → s.expectedNext = none)
    (hPf : ∀ f ∈ first :: rest, P f.window.start)
    (hP : ∀ i next, timestampForFrameIndex first.window.start i first.sampleRate = .ok next →
      P next) :
    AcceptOutcome s identity admission.format first.window.start P first.first 0 []
      (first :: rest) (s.accept identity first rest admission) := by
  obtain ⟨n, hn⟩ := hn
  -- A new stream may start anywhere.
  have hdue : s.due identity = none := by
    unfold due
    split_ifs with hc
    · rfl
    · exact hfresh (hnew.resolve_left hc)
  have hvalid := h.validated
  rw [hdue, ← h.sampleRate, ← h.channels] at hvalid
  obtain ⟨hframes, hend⟩ := validateFrames_framesFrom first.first hvalid hPf (by simp)
    (by simp)
  obtain ⟨ts, hts⟩ := Option.isSome_iff_exists.mp (validateFrames_isSome hvalid (.inl (by simp)))
  have hs₀ : s.switchStream identity first admission = { s.clearStreamState with
      activeStream := some identity
      invalidStream := none
      sampleRate := some admission.format.sampleRate
      channels := some admission.format.channels
      timelineOrigin := some first.window.start } := by
    rw [switchStream, if_pos]
    rw [h.streamChanged, Bool.or_eq_true, Option.isNone_iff_eq_none]
    exact hnew
  rw [← h.sampleRate] at hP
  exact acceptOutcome_of_emit h hn hs₀ rfl rfl rfl rfl rfl hP
    ⟨rfl, by simp [clearStreamState], by simp [clearStreamState], fun h0 => absurd h0 (by omega),
      le_rfl, by simp [AudioFrame.first]⟩
    admission.format.frames_pos hframes ⟨ts, hts, hend ts hts⟩

/-- A batch that continues a stream is scheduled on that stream's timeline. -/
theorem accept_continue {fmt : StreamFormat} {origin : FrameTimestamp} {base m : ℕ}
    (h : s.Admits identity first rest admission) (hactive : s.activeStream = some identity)
    (hvalid : s.invalidStream = none) (hs : Streaming fmt origin P base m s)
    (hPf : ∀ f ∈ first :: rest, P f.window.start) :
    admission.format = fmt ∧ AcceptOutcome s identity fmt origin P base m s.samples
      (first :: rest) (s.accept identity first rest admission) := by
  have hsame : s.streamChanged identity = false := by simp [streamChanged, hactive]
  obtain ⟨n, hn, -⟩ := hs.bufferedFrameCount
  obtain ⟨due, hdue, hdueIndex⟩ := hs.expectedNext
  -- The stream keeps its format, and with it the window size.
  have hfmt : admission.format = fmt := by
    have hformat := h.sameFormat
    rw [formatChanged, hs.sampleRate, hs.channels, hactive, hsame] at hformat
    simp only [Bool.false_eq_true, not_false_eq_true, Option.isSome_some, true_and, ne_eq,
      Option.some.injEq, not_or, not_not] at hformat
    have hw := h.windowFrames
    rw [← hformat.1, hs.windowFrames, Except.ok.injEq] at hw
    obtain ⟨rate, channels, windowFrames⟩ := fmt
    have hrate := h.sampleRate
    have hchannels := h.channels
    obtain ⟨changed, ⟨rate', channels', windowFrames'⟩, expected⟩ := admission
    rw [StreamFormat.mk.injEq]
    exact ⟨hrate.trans hformat.1.symm, hchannels.trans hformat.2.symm, hw.symm⟩
  have hcheck := h.validated
  rw [← h.sampleRate, ← h.channels, WindowScheduler.due, hsame, hdue] at hcheck
  obtain ⟨hframes, hend⟩ := validateFrames_framesFrom (base + m) hcheck hPf
    (by simpa using hdueIndex) (by simp)
  obtain ⟨ts, hts⟩ := Option.isSome_iff_exists.mp (validateFrames_isSome hcheck (.inl (by simp)))
  have hs₀ : s.switchStream identity first admission = s := by
    rw [switchStream, if_neg]
    rw [h.streamChanged, hsame, hactive]
    simp
  subst hfmt
  exact ⟨rfl, acceptOutcome_of_emit h hn hs₀ rfl hactive hvalid hs.sampleRate hs.channels
    hs.computed hs.retained hs.lt hframes ⟨ts, hts, hend ts hts⟩⟩

omit [DecidableEq ι] in
/-- After a successful call the next frame is due where the first phase found it to be. -/
theorem accept_expectedNext {r : SchedulingResult ι} {s' : WindowScheduler ι}
    (h : s.accept identity first rest admission = some (.ok r, s')) :
    s'.expectedNext = admission.expected := by
  simp only [accept, Option.bind_eq_bind, Option.bind_eq_some_iff] at h
  obtain ⟨n, -, b, -, ⟨o, t⟩, -, h⟩ := h
  cases o with
  | error e => cases h
  | ok ws =>
    cases h
    rfl

end Accept

/-! ## The whole call -/

/-- The origin of the timeline that a batch is scheduled on: its own first frame's start where it
starts a stream. -/
def originFor (s : WindowScheduler ι) (identity : ι) (first : AudioFrame) : FrameTimestamp :=
  if s.activeStream = some identity then s.timelineOrigin.getD first.window.start
  else first.window.start

/-- What a call does on a well-formed state. -/
inductive PushOutcome (s : WindowScheduler ι) (identity : ι) :
    List AudioFrame → Option (Except SchedulingError (SchedulingResult ι) × WindowScheduler ι) →
      Prop
  /-- Nothing is pushed. -/
  | empty : PushOutcome s identity [] (some (.ok ⟨[], none⟩, s))
  /-- The batch is refused, and the state stays as it is. -/
  | refused (first : AudioFrame) (rest : List AudioFrame) (e : SchedulingError)
      (decided : s.validateBatch identity first rest = .error (.refused e))
      (refusal : e.refusal = true) :
      PushOutcome s identity (first :: rest) (some (.error e, s))
  /-- The batch breaks its stream, which is invalidated. -/
  | invalidated (first : AudioFrame) (rest : List AudioFrame) (e : SchedulingError)
      (decided : s.validateBatch identity first rest = .error (.invalidating e))
      (refusal : e.refusal = false) :
      PushOutcome s identity (first :: rest) (some (.error e, s.invalidate identity))
  /-- The batch starts a stream. -/
  | started (first : AudioFrame) (rest : List AudioFrame) (admission : Admission)
      (admits : s.Admits identity first rest admission) (inactive : s.activeStream ≠ some identity)
      (r : Option (Except SchedulingError (SchedulingResult ι) × WindowScheduler ι))
      (outcome : AcceptOutcome s identity admission.format first.window.start (fun _ => True)
        first.first 0 [] (first :: rest) r) : PushOutcome s identity (first :: rest) r
  /-- The batch continues the stream. -/
  | continued (first : AudioFrame) (rest : List AudioFrame) (admission : Admission)
      (origin : FrameTimestamp) (base m : ℕ) (admits : s.Admits identity first rest admission)
      (active : s.activeStream = some identity)
      (stream : Streaming admission.format origin (fun _ => True) base m s)
      (r : Option (Except SchedulingError (SchedulingResult ι) × WindowScheduler ι))
      (outcome : AcceptOutcome s identity admission.format origin (fun _ => True) base m s.samples
        (first :: rest) r) : PushOutcome s identity (first :: rest) r

/-- Every call on a well-formed state ends in one of these ways. -/
theorem pushBatch_spec {s : WindowScheduler ι} (hs : s.WellFormed) (identity : ι)
    (frames : List AudioFrame) : PushOutcome s identity frames (s.pushBatch identity frames) := by
  cases frames with
  | nil => exact .empty
  | cons first rest =>
    rw [pushBatch]
    cases hvalidate : s.validateBatch identity first rest with
    | error rejection =>
      have hsorted := validateBatch_failsWith rejection hvalidate
      cases rejection with
      | refused e => exact .refused first rest e hvalidate hsorted
      | invalidating e => exact .invalidated first rest e hvalidate hsorted
    | ok admission =>
      have hadmits := validateBatch_eq_ok.mp hvalidate
      have hn := hs.bufferedFrameCount
      -- A batch of another stream, or the first one, starts a timeline of its own.
      have hstart : s.activeStream ≠ some identity → (s.activeStream = none →
          s.expectedNext = none) → PushOutcome s identity (first :: rest)
            (s.accept identity first rest admission) := by
        intro hne hfresh
        exact .started first rest admission hadmits hne _
          (accept_new hadmits hn (streamChanged_of_ne hne) hfresh (fun _ _ => trivial) fun _ _ _ => trivial)
      cases hs with
      | fresh h => exact hstart (by rw [h]; simp [new]) (by rw [h]; simp [new])
      | invalidated invalid h =>
        have ha : s.activeStream = some invalid := by
          rw [h]
          rfl
        have hi : s.invalidStream = some invalid := by
          rw [h]
          rfl
        -- The invalid stream itself is refused, so this is another one.
        refine hstart (fun hactive => hadmits.notInvalid ?_) (by simp [ha])
        rw [hi, ← ha, hactive]
      | streaming active fmt origin base m ha hvalid stream =>
        by_cases hid : active = identity
        · subst hid
          obtain ⟨rfl, hout⟩ := accept_continue hadmits ha hvalid stream fun _ _ => trivial
          exact .continued first rest admission origin base m hadmits ha stream _ hout
        · refine hstart (by simpa [ha] using hid) (by simp [ha])

end WindowScheduler

end ResonanceSignal
