import ResonanceSignal.Core.Streams

/-!
# Batches that are cut into pieces

A batch is pushed as a whole, or in pieces one after another. A whole batch is checked at once, and
its windows are cut by one loop, where the pieces hand on in the state where the next frame is due,
and what is retained. Neither loop depends on how it was entered: the validation loop goes on from
where it expects the next frame (`validateFrames_append`), and the emission loop from the windows
and the samples that it has (`emitFrames_append`, `emitFrames_shift`). So a batch succeeds exactly
where its first piece does and the rest succeeds after it, if it is within the bound
(`pushBatch_append_iff`). This holds of every state, whether it is reachable or not.
-/

namespace ResonanceSignal

namespace WindowScheduler

variable {ι : Type}

/-! ## The loops, entered in the middle -/

/-- The scheduler, with another place where the next frame is due. -/
def withDue (self : WindowScheduler ι) (due : Option FrameTimestamp) : WindowScheduler ι :=
  { self with expectedNext := due }

/-- The outcome of a loop that was entered with the windows, and with another place where the next
frame is due. -/
def shifted (windows : List (ScheduledWindow ι)) (due : Option FrameTimestamp)
    (outcome : Except SchedulingError (List (ScheduledWindow ι)) × WindowScheduler ι) :
    Except SchedulingError (List (ScheduledWindow ι)) × WindowScheduler ι :=
  (outcome.1.map (windows ++ ·), outcome.2.withDue due)

variable {fmt : StreamFormat} {identity : ι} {s s' : WindowScheduler ι}
  {windows : List (ScheduledWindow ι)}

/-- The inner loop does not look at the windows that were cut before, nor at where the next frame is
due. -/
theorem cutWindows_shift (before windows : List (ScheduledWindow ι)) (due : Option FrameTimestamp)
    (fuel : ℕ) (s : WindowScheduler ι) :
    cutWindows fmt identity fuel (s.withDue due) (before ++ windows)
      = (cutWindows fmt identity fuel s windows).map (shifted before due) := by
  induction fuel generalizing s windows with
  | zero => rfl
  | succ fuel ih =>
    obtain ⟨config, active, invalid, rate, layout, origin, expected, start, samples⟩ := s
    unfold cutWindows withDue
    dsimp only
    by_cases hguard : fmt.samplesPerWindow ≤ samples.length
    · -- The windows already emitted and the time that is due are only carried along.
      rw [if_pos hguard, if_pos hguard]
      cases start with
      | none => rfl
      | some start =>
        dsimp only
        cases AudioFrame.new start fmt.sampleRate fmt.channels
            (samples.take fmt.samplesPerWindow) with
        | error raised => rfl
        | ok output =>
          dsimp only
          rw [List.append_assoc]
          by_cases hempty : samples.drop fmt.samplesPerWindow = []
          · rw [if_pos hempty, if_pos hempty]
            exact ih (windows ++ [⟨identity, output⟩]) ⟨config, active, invalid, rate, layout, origin,
              expected, none, samples.drop fmt.samplesPerWindow⟩
          · rw [if_neg hempty, if_neg hempty]
            cases Checked.add start.frameIndex fmt.windowFrames.get.toUInt64 with
            | none => rfl
            | some nextFrameIndex =>
              cases origin with
              | none => rfl
              | some origin =>
                dsimp only
                cases timestampForFrameIndex origin nextFrameIndex fmt.sampleRate with
                | error raised => rfl
                | ok next =>
                  exact ih (windows ++ [⟨identity, output⟩]) ⟨config, active, invalid, rate, layout,
                    some origin, expected, some next, samples.drop fmt.samplesPerWindow⟩
    · rw [if_neg hguard, if_neg hguard]
      rfl

/-- Nor does the outer loop. -/
theorem emitFrames_shift (before windows : List (ScheduledWindow ι)) (due : Option FrameTimestamp)
    (frames : List AudioFrame) (s : WindowScheduler ι) :
    emitFrames fmt identity frames (s.withDue due) (before ++ windows)
      = (emitFrames fmt identity frames s windows).map (shifted before due) := by
  induction frames generalizing s windows with
  | nil => rfl
  | cons frame frames ih =>
    have hentered : (s.withDue due).appendFrame frame = (s.appendFrame frame).withDue due := rfl
    have hcut : cutWindows fmt identity ((s.appendFrame frame).withDue due).samples.length
        ((s.appendFrame frame).withDue due) (before ++ windows)
          = (cutWindows fmt identity (s.appendFrame frame).samples.length (s.appendFrame frame)
            windows).map (shifted before due) := cutWindows_shift before windows due _ _
    unfold emitFrames
    dsimp only
    rw [hentered, hcut]
    cases cutWindows fmt identity (s.appendFrame frame).samples.length (s.appendFrame frame)
        windows with
    | none => rfl
    | some outcome =>
      obtain ⟨cut, s₁⟩ := outcome
      cases cut with
      | error raised => rfl
      | ok ws => exact ih ws s₁

/-- The outer loop goes on with its windows from a state exactly as it does without them, and with
another place where the next frame is due. -/
theorem emitFrames_resume {frames : List AudioFrame} {windows' : List (ScheduledWindow ι)}
    (due : Option FrameTimestamp) :
    emitFrames fmt identity frames s windows = some (.ok windows', s') ↔
      ∃ ws t, emitFrames fmt identity frames (s.withDue due) [] = some (.ok ws, t) ∧
        windows' = windows ++ ws ∧ s' = t.withDue s.expectedNext := by
  have hshift := @emitFrames_shift _ fmt identity windows [] s.expectedNext frames
    (s.withDue due)
  rw [List.append_nil] at hshift
  rw [show s = (s.withDue due).withDue s.expectedNext from rfl, hshift, Option.map_eq_some_iff]
  constructor
  · rintro ⟨⟨emitted, t⟩, hemit, hshifted⟩
    cases emitted with
    | error raised => cases hshifted
    | ok ws =>
      cases hshifted
      exact ⟨ws, t, hemit, rfl, rfl⟩
  · rintro ⟨ws, t, hemit, rfl, rfl⟩
    exact ⟨(.ok ws, t), hemit, rfl⟩

/-- One turn of the outer loop. -/
theorem emitFrames_cons {frame : AudioFrame} {frames : List AudioFrame}
    {windows' : List (ScheduledWindow ι)} :
    emitFrames fmt identity (frame :: frames) s windows = some (.ok windows', s') ↔
      ∃ ws t, cutWindows fmt identity (s.appendFrame frame).samples.length (s.appendFrame frame)
          windows = some (.ok ws, t) ∧
        emitFrames fmt identity frames t ws = some (.ok windows', s') := by
  rw [emitFrames]
  cases cutWindows fmt identity (s.appendFrame frame).samples.length (s.appendFrame frame)
      windows with
  | none => simp
  | some outcome =>
    obtain ⟨cut, s₁⟩ := outcome
    cases cut with
    | error raised => simp
    | ok ws => simp

/-- The outer loop takes the frames one after another. -/
theorem emitFrames_append {frames frames' : List AudioFrame} {windows' : List (ScheduledWindow ι)} :
    emitFrames fmt identity (frames ++ frames') s windows = some (.ok windows', s') ↔
      ∃ ws t, emitFrames fmt identity frames s windows = some (.ok ws, t) ∧
        emitFrames fmt identity frames' t ws = some (.ok windows', s') := by
  induction frames generalizing s windows with
  | nil =>
    constructor
    · exact fun h => ⟨windows, s, rfl, h⟩
    · rintro ⟨ws, t, hfirst, hrest⟩
      cases hfirst
      exact hrest
  | cons frame frames ih =>
    simp only [List.cons_append, emitFrames_cons, ih]
    constructor
    · rintro ⟨ws, t, hcut, ws', t', hfirst, hrest⟩
      exact ⟨ws', t', ⟨ws, t, hcut, hfirst⟩, hrest⟩
    · rintro ⟨ws', t', ⟨ws, t, hcut, hfirst⟩, hrest⟩
      exact ⟨ws, t, hcut, ws', t', hfirst, hrest⟩

/-- The inner loop goes on while a window is retained. -/
theorem cutWindows_lt {fuel : ℕ} {windows' : List (ScheduledWindow ι)}
    (h : cutWindows fmt identity fuel s windows = some (.ok windows', s'))
    (hfuel : s.samples.length ≤ fuel) : s'.samples.length < fmt.samplesPerWindow := by
  have hpos := fmt.samplesPerWindow_pos
  induction fuel generalizing s windows with
  | zero =>
    cases h
    omega
  | succ fuel ih =>
    have hdrop : (s.samples.drop fmt.samplesPerWindow).length ≤ fuel := by
      rw [List.length_drop]
      omega
    -- Every branch that goes on does so on the samples that are left.
    unfold cutWindows at h
    by_cases hguard : fmt.samplesPerWindow ≤ s.samples.length
    · rw [if_pos hguard] at h
      cases hstart : s.bufferStart with
      | none => rw [hstart] at h; cases h
      | some start =>
        simp only [hstart] at h
        cases hnew : AudioFrame.new start fmt.sampleRate fmt.channels
            (s.samples.take fmt.samplesPerWindow) with
        | error raised => rw [hnew] at h; cases h
        | ok output =>
          simp only [hnew] at h
          by_cases hempty : s.samples.drop fmt.samplesPerWindow = []
          · rw [if_pos hempty] at h
            exact ih h hdrop
          · rw [if_neg hempty] at h
            cases hadd : Checked.add start.frameIndex fmt.windowFrames.get.toUInt64 with
            | none => rw [hadd] at h; cases h
            | some next =>
              simp only [hadd] at h
              cases horigin : s.timelineOrigin with
              | none => rw [horigin] at h; cases h
              | some origin =>
                simp only [horigin] at h
                cases htime : timestampForFrameIndex origin next fmt.sampleRate with
                | error raised => rw [htime] at h; cases h
                | ok ts =>
                  rw [htime] at h
                  exact ih h hdrop
    · rw [if_neg hguard] at h
      cases h
      exact not_le.mp hguard

/-- After the outer loop less than a window is retained. -/
theorem emitFrames_lt {frames : List AudioFrame} {windows' : List (ScheduledWindow ι)}
    (h : emitFrames fmt identity frames s windows = some (.ok windows', s'))
    (hlt : frames ≠ [] ∨ s.samples.length < fmt.samplesPerWindow) :
    s'.samples.length < fmt.samplesPerWindow := by
  induction frames generalizing s windows with
  | nil =>
    cases h
    exact hlt.resolve_left fun h => h rfl
  | cons frame frames ih =>
    obtain ⟨ws, t, hcut, hrest⟩ := emitFrames_cons.mp h
    exact ih hrest (.inr (cutWindows_lt hcut (Nat.le_refl _)))

/-- The validation loop takes the frames one after another. -/
theorem validateFrames_append {sampleRate : SampleRate} {channels : ChannelLayout}
    {frames frames' : List AudioFrame} {expected expected' : Option FrameTimestamp} :
    validateFrames sampleRate channels expected (frames ++ frames') = .ok expected' ↔
      ∃ middle, validateFrames sampleRate channels expected frames = .ok middle ∧
        validateFrames sampleRate channels middle frames' = .ok expected' := by
  induction frames generalizing expected with
  | nil =>
    constructor
    · exact fun h => ⟨expected, rfl, h⟩
    · rintro ⟨middle, hfirst, hrest⟩
      cases hfirst
      exact hrest
  | cons frame frames ih =>
    simp only [List.cons_append, validateFrames_cons, ih]
    constructor
    · rintro ⟨hrate, hchannels, hcontinues, next, hnext, middle, hfirst, hrest⟩
      exact ⟨middle, ⟨hrate, hchannels, hcontinues, next, hnext, hfirst⟩, hrest⟩
    · rintro ⟨middle, ⟨hrate, hchannels, hcontinues, next, hnext, hfirst⟩, hrest⟩
      exact ⟨hrate, hchannels, hcontinues, next, hnext, middle, hfirst, hrest⟩

/-! ## A call that succeeds -/

variable [DecidableEq ι] {first : AudioFrame} {rest : List AudioFrame}
  {r : SchedulingResult ι}

/-- What a call that succeeds establishes before it looks at more than the first frame. -/
structure Opens (s : WindowScheduler ι) (identity : ι) (first : AudioFrame) (fmt : StreamFormat)
    (streamBoundary : Option (StreamBoundary ι)) : Prop where
  /-- The identity is not the invalidated one. -/
  notInvalid : s.invalidStream ≠ some identity
  /-- The format is the first frame's. -/
  sampleRate : fmt.sampleRate = first.sampleRate
  /-- The format is the first frame's. -/
  channels : fmt.channels = first.channels
  /-- The window size is the configured duration's at that rate. -/
  windowFrames : windowFrameCount s.config.targetWindowDuration first.sampleRate
    = .ok fmt.windowFrames
  /-- A stream that continues keeps its format. -/
  sameFormat : ¬s.formatChanged identity first
  /-- The bound on the batch is representable. -/
  maximum : fmt.frames * s.config.maxWindowsPerPush.toNat < 2^64
  /-- The boundary is the one that is reported. -/
  boundary : ∃ discarded, s.bufferedFrameCount = some discarded ∧
    s.boundary identity ⟨s.streamChanged identity, fmt, none⟩ discarded = some streamBoundary

/-- The state that the emission loop starts from. -/
def entered (s : WindowScheduler ι) (identity : ι) (first : AudioFrame) (fmt : StreamFormat) :
    WindowScheduler ι :=
  s.switchStream identity first ⟨s.streamChanged identity, fmt, none⟩

/-- A call of a nonempty batch succeeds where the first frame opens it, the batch is within the
bound, and both loops come to their end. -/
theorem pushBatch_iff : s.pushBatch identity (first :: rest) = some (.ok r, s') ↔
    ∃ fmt, s.Opens identity first fmt r.streamBoundary ∧
      frameCount (first :: rest) ≤ fmt.frames * s.config.maxWindowsPerPush.toNat ∧
      ∃ due t, validateFrames fmt.sampleRate fmt.channels (s.due identity) (first :: rest)
          = .ok due ∧
        emitFrames fmt identity (first :: rest) (s.entered identity first fmt) []
          = some (.ok r.windows, t) ∧
        s' = t.withDue due := by
  rw [pushBatch_eq_ok]
  constructor
  · rintro ⟨admission, h, haccept⟩
    obtain ⟨changed, fmt, due⟩ := admission
    cases h.streamChanged
    simp only [accept, Option.bind_eq_bind, Option.bind_eq_some_iff] at haccept
    -- What `accept` computes: the boundary, then the windows, then the time that is due.
    obtain ⟨discarded, hdiscarded, streamBoundary, hboundary, ⟨emitted, t⟩, hemit, haccept⟩ := haccept
    cases emitted with
    | error raised => cases haccept
    | ok windows =>
      cases haccept
      have hvalidated := h.validated
      rw [← h.sampleRate, ← h.channels] at hvalidated
      exact ⟨fmt, ⟨h.notInvalid, h.sampleRate, h.channels, h.windowFrames, h.sameFormat, h.maximum,
        discarded, hdiscarded, hboundary⟩, h.bounded, due, t, hvalidated, hemit, rfl⟩
  · rintro ⟨fmt, h, hbounded, due, t, hvalidated, hemit, rfl⟩
    obtain ⟨discarded, hdiscarded, hboundary⟩ := h.boundary
    rw [h.sampleRate, h.channels] at hvalidated
    refine ⟨⟨s.streamChanged identity, fmt, due⟩, ⟨h.notInvalid, rfl, h.sampleRate, h.channels,
      h.windowFrames, h.sameFormat, h.maximum, hbounded, hvalidated⟩, ?_⟩
    simp only [accept, Option.bind_eq_bind, Option.bind_eq_some_iff]
    exact ⟨discarded, hdiscarded, r.streamBoundary, hboundary, _, hemit, rfl⟩

/-- The emission loop starts on the stream of the identity, in the format of the batch. -/
theorem Opens.entered {fmt : StreamFormat} {streamBoundary : Option (StreamBoundary ι)}
    (h : s.Opens identity first fmt streamBoundary) :
    (s.entered identity first fmt).activeStream = some identity ∧
      (s.entered identity first fmt).invalidStream ≠ some identity ∧
      (s.entered identity first fmt).sampleRate = some fmt.sampleRate ∧
      (s.entered identity first fmt).channels = some fmt.channels ∧
      (s.entered identity first fmt).config = s.config := by
  unfold WindowScheduler.entered switchStream
  dsimp only
  by_cases hnew : (s.streamChanged identity || s.activeStream.isNone) = true
  · rw [if_pos hnew]
    exact ⟨rfl, nofun, rfl, rfl, rfl⟩
  · rw [if_neg hnew]
    obtain ⟨hsame, hsome⟩ := Bool.or_eq_false_iff.mp (Bool.eq_false_iff.mpr hnew)
    obtain ⟨active, hactive⟩ := Option.ne_none_iff_exists'.mp (Option.isNone_eq_false_iff.mp hsome
      |> Option.isSome_iff_ne_none.mp)
    have hidentity : active = identity := by
      unfold streamChanged at hsame
      rw [hactive] at hsame
      simpa using hsame
    -- a stream that goes on has the format of the batch
    have hformat := h.sameFormat
    unfold formatChanged at hformat
    rw [hsame, hactive] at hformat
    simp only [Bool.false_eq_true, not_false_eq_true, Option.isSome_some, true_and, ne_eq, not_or,
      not_not] at hformat
    rw [hidentity] at hactive
    rw [h.sampleRate, h.channels]
    exact ⟨hactive, h.notInvalid, hformat.1, hformat.2, rfl⟩

/-- A scheduler that goes on with the stream of an identity. -/
structure OnStream (fmt : StreamFormat) (identity : ι) (s : WindowScheduler ι) : Prop where
  /-- The stream is the active one. -/
  active : s.activeStream = some identity
  /-- It is not invalidated. -/
  valid : s.invalidStream ≠ some identity
  /-- Its sample rate is known. -/
  sampleRate : s.sampleRate = some fmt.sampleRate
  /-- Its channel layout is known. -/
  channels : s.channels = some fmt.channels
  /-- The window size is the configured duration's at that rate. -/
  windowFrames : windowFrameCount s.config.targetWindowDuration fmt.sampleRate
    = .ok fmt.windowFrames
  /-- Less than a window is retained. -/
  lt : s.samples.length < fmt.samplesPerWindow

/-- A call that succeeds leaves the scheduler on its stream. -/
theorem Opens.onStream {fmt : StreamFormat} {streamBoundary : Option (StreamBoundary ι)}
    {ws : List (ScheduledWindow ι)} {t : WindowScheduler ι}
    (h : s.Opens identity first fmt streamBoundary)
    (hemit : emitFrames fmt identity (first :: rest) (s.entered identity first fmt) []
      = some (.ok ws, t)) (due : Option FrameTimestamp) :
    OnStream fmt identity (t.withDue due) ∧ (t.withDue due).config = s.config := by
  obtain ⟨hactive, hvalid, hrate, hchannels, hconfig⟩ := h.entered
  obtain ⟨hsame, -⟩ := emitFrames_frame hemit
  have hlt := emitFrames_lt hemit (.inl (List.cons_ne_nil first rest))
  unfold SameStream at hsame
  -- The windows that are cut leave the stream and its format as they entered.
  have hactive : t.activeStream = some identity :=
    (congrArg WindowScheduler.activeStream hsame).trans hactive
  have hinvalid : t.invalidStream = (s.entered identity first fmt).invalidStream := by
    rw [hsame]
  have hrate : t.sampleRate = some fmt.sampleRate :=
    (congrArg WindowScheduler.sampleRate hsame).trans hrate
  have hchannels : t.channels = some fmt.channels :=
    (congrArg WindowScheduler.channels hsame).trans hchannels
  have hconfig : t.config = s.config := (congrArg WindowScheduler.config hsame).trans hconfig
  refine ⟨⟨hactive, ?_, hrate, hchannels, ?_, hlt⟩, hconfig⟩
  · show t.invalidStream ≠ some identity
    rw [hinvalid]
    exact hvalid
  · show windowFrameCount t.config.targetWindowDuration fmt.sampleRate = _
    rw [hconfig, h.sampleRate]
    exact h.windowFrames

section OnStream

variable {fmt' : StreamFormat} {streamBoundary : Option (StreamBoundary ι)}

/-- The identity of the stream is not another one. -/
theorem OnStream.streamChanged (h : OnStream fmt identity s) : s.streamChanged identity = false := by
  unfold WindowScheduler.streamChanged
  rw [h.active]
  simp

/-- The next frame is due where the scheduler says. -/
theorem OnStream.due (h : OnStream fmt identity s) : s.due identity = s.expectedNext := by
  unfold WindowScheduler.due
  rw [h.streamChanged]
  exact if_neg Bool.false_ne_true

/-- The emission loop goes on from the scheduler as it is. -/
theorem OnStream.entered (h : OnStream fmt identity s) : s.entered identity first fmt' = s := by
  unfold WindowScheduler.entered switchStream
  rw [h.streamChanged, h.active]
  exact if_neg Bool.false_ne_true

/-- A batch goes on with the stream in its format, and crosses no boundary. -/
theorem OnStream.opens_iff (h : OnStream fmt identity s) :
    s.Opens identity first fmt' streamBoundary ↔ fmt' = fmt ∧
      first.sampleRate = fmt.sampleRate ∧ first.channels = fmt.channels ∧
      fmt.frames * s.config.maxWindowsPerPush.toNat < 2^64 ∧ streamBoundary = none := by
  have hformat : ¬s.formatChanged identity first ↔
      first.sampleRate = fmt.sampleRate ∧ first.channels = fmt.channels := by
    unfold formatChanged
    rw [h.streamChanged, h.active, h.sampleRate, h.channels]
    simp [eq_comm]
  -- the retained samples are of less frames than a window
  have hbuffered : ∃ discarded, s.bufferedFrameCount = some discarded := by
    have hframes : s.samples.length / fmt.channels.channels < fmt.frames :=
      Nat.div_lt_of_lt_mul (Nat.mul_comm fmt.frames _ ▸ h.lt)
    have hlt : s.samples.length / fmt.channels.channels < 2^32 :=
      lt_trans hframes fmt.windowFrames.get.toNat_lt
    refine ⟨UInt32.ofNat (s.samples.length / fmt.channels.channels), ?_⟩
    unfold bufferedFrameCount
    rw [h.channels]
    exact Checked.ofNat32_eq_some.mpr (UInt32.toNat_ofNat_of_lt' hlt)
  have hboundary (discarded : UInt32) :
      s.boundary identity ⟨s.streamChanged identity, fmt', none⟩ discarded = some none := by
    unfold boundary
    rw [h.streamChanged]
    exact if_neg Bool.false_ne_true
  constructor
  · rintro ⟨-, hrate, hchannels, hwindow, hsame, hmaximum, discarded, -, hstreamBoundary⟩
    obtain ⟨hfirstRate, hfirstChannels⟩ := hformat.mp hsame
    have hfmt : fmt' = fmt := by
      obtain ⟨rate, layout, windowFrames⟩ := fmt
      obtain ⟨rate', layout', windowFrames'⟩ := fmt'
      rw [hfirstRate, h.windowFrames] at hwindow
      rw [StreamFormat.mk.injEq]
      exact ⟨hrate.trans hfirstRate, hchannels.trans hfirstChannels,
        (Except.ok.inj hwindow).symm⟩
    subst hfmt
    rw [hboundary] at hstreamBoundary
    exact ⟨rfl, hfirstRate, hfirstChannels, hmaximum, (Option.some.inj hstreamBoundary).symm⟩
  · rintro ⟨rfl, hrate, hchannels, hmaximum, rfl⟩
    obtain ⟨discarded, hdiscarded⟩ := hbuffered
    refine ⟨h.valid, hrate.symm, hchannels.symm, ?_, hformat.mpr ⟨hrate, hchannels⟩, hmaximum,
      discarded, hdiscarded, hboundary discarded⟩
    rw [hrate]
    exact h.windowFrames

end OnStream

/-! ## Pieces -/

/-- A batch is within the bound on one call. -/
def WithinBound (s : WindowScheduler ι) (frames : List AudioFrame) : Prop :=
  ∀ first, frames.head? = some first → ∀ windowFrames,
    windowFrameCount s.config.targetWindowDuration first.sampleRate = .ok windowFrames →
      frameCount frames ≤ windowFrames.get.toNat * s.config.maxWindowsPerPush.toNat

omit [DecidableEq ι] in
/-- The first part of a batch within the bound is within it. -/
theorem WithinBound.left {frames frames' : List AudioFrame} (h : s.WithinBound (frames ++ frames'))
    (hne : frames ≠ []) : s.WithinBound frames := by
  intro first hfirst windowFrames hwindow
  have hhead : (frames ++ frames').head? = some first := by
    rw [List.head?_append_of_ne_nil _ hne]
    exact hfirst
  have hall := h first hhead windowFrames hwindow
  rw [frameCount_append] at hall
  omega

/-- A batch succeeds exactly where it is within the bound, its first part succeeds, and the rest
succeeds after it. The windows are those of both, and the boundary is that of the first part. -/
theorem pushBatch_append_iff {frames frames' : List AudioFrame} (hframes : frames ≠ [])
    (hframes' : frames' ≠ []) :
    s.pushBatch identity (frames ++ frames') = some (.ok r, s') ↔
      s.WithinBound (frames ++ frames') ∧ ∃ r₁ s₁ r₂,
        s.pushBatch identity frames = some (.ok r₁, s₁) ∧
        s₁.pushBatch identity frames' = some (.ok r₂, s') ∧
        r = ⟨r₁.windows ++ r₂.windows, r₁.streamBoundary⟩ := by
  obtain ⟨first, rest, rfl⟩ := List.exists_cons_of_ne_nil hframes
  obtain ⟨next, later, rfl⟩ := List.exists_cons_of_ne_nil hframes'
  rw [List.cons_append, pushBatch_iff]
  constructor
  · rintro ⟨fmt, hopens, hbounded, due, t, hvalidated, hemit, rfl⟩
    have hwithin : s.WithinBound (first :: (rest ++ next :: later)) := by
      intro first' hfirst windowFrames hwindow
      cases hfirst
      cases hopens.windowFrames.symm.trans hwindow
      exact hbounded
    rw [← List.cons_append] at hbounded hvalidated hemit
    rw [frameCount_append] at hbounded
    -- The validation and the emission split at the same frame.
    obtain ⟨middle, hvalidatedFirst, hvalidatedRest⟩ := validateFrames_append.mp hvalidated
    obtain ⟨ws, t₁, hemitFirst, hemitBoth⟩ := emitFrames_append.mp hemit
    obtain ⟨hon, hconfig⟩ := hopens.onStream hemitFirst middle
    obtain ⟨hrate, hchannels, -⟩ := validateFrames_cons.mp hvalidatedRest
    obtain ⟨ws', t₂, hemitRest, hwindows, rfl⟩ := (emitFrames_resume middle).mp hemitBoth
    refine ⟨hwithin, ⟨ws, r.streamBoundary⟩, t₁.withDue middle, ⟨ws', none⟩, ?_, ?_, ?_⟩
    · exact pushBatch_iff.mpr ⟨fmt, hopens, by omega, middle, t₁, hvalidatedFirst, hemitFirst, rfl⟩
    · -- The second part finds the stream open, and opens nothing.
      refine pushBatch_iff.mpr ⟨fmt, hon.opens_iff.mpr ⟨rfl, hrate, hchannels, ?_, rfl⟩, ?_,
        due, t₂, ?_, ?_, rfl⟩
      · rw [hconfig]
        exact hopens.maximum
      · rw [hconfig]
        omega
      · rw [hon.due]
        exact hvalidatedRest
      · rw [hon.entered]
        exact hemitRest
    · rw [← hwindows]
  · rintro ⟨hwithin, r₁, s₁, r₂, hfirst, hrest, rfl⟩
    obtain ⟨fmt, hopens, -, middle, t₁, hvalidated, hemit, rfl⟩ := pushBatch_iff.mp hfirst
    obtain ⟨fmt', hopensRest, -, due, t₂, hvalidatedRest, hemitRest, rfl⟩ := pushBatch_iff.mp hrest
    -- The second call continues the first, so its format and its due time are those of the whole.
    obtain ⟨hon, -⟩ := hopens.onStream hemit middle
    obtain ⟨rfl, hrate, hchannels, -, -⟩ := hon.opens_iff.mp hopensRest
    rw [hon.due] at hvalidatedRest
    rw [hon.entered] at hemitRest
    refine ⟨fmt', hopens, hwithin first rfl fmt'.windowFrames hopens.windowFrames, due,
      t₂.withDue t₁.expectedNext, ?_, ?_, rfl⟩
    · rw [← List.cons_append]
      exact validateFrames_append.mpr ⟨middle, hvalidated, hvalidatedRest⟩
    · rw [← List.cons_append]
      exact emitFrames_append.mpr ⟨r₁.windows, t₁, hemit,
        (emitFrames_resume middle).mpr ⟨r₂.windows, t₂, hemitRest, rfl, rfl⟩⟩

/-- What is pushed after a part of a batch crosses no boundary. -/
theorem streamBoundary_of_pushed {frames frames' : List AudioFrame} {r₁ r₂ : SchedulingResult ι}
    {s₁ : WindowScheduler ι} (hframes : frames ≠ []) (hframes' : frames' ≠ [])
    (hfirst : s.pushBatch identity frames = some (.ok r₁, s₁))
    (hrest : s₁.pushBatch identity frames' = some (.ok r₂, s')) : r₂.streamBoundary = none := by
  obtain ⟨first, rest, rfl⟩ := List.exists_cons_of_ne_nil hframes
  obtain ⟨next, later, rfl⟩ := List.exists_cons_of_ne_nil hframes'
  obtain ⟨fmt, hopens, -, middle, t₁, -, hemit, rfl⟩ := pushBatch_iff.mp hfirst
  obtain ⟨fmt', hopensRest, -⟩ := pushBatch_iff.mp hrest
  obtain ⟨hon, -⟩ := hopens.onStream hemit middle
  obtain ⟨-, -, -, -, hnone⟩ := hon.opens_iff.mp hopensRest
  exact hnone

/-- The results of pieces that are pushed one after another, where all of them succeed. -/
def pushPieces (self : WindowScheduler ι) (identity : ι) :
    List (List AudioFrame) → Option (List (SchedulingResult ι) × WindowScheduler ι)
  | [] => some ([], self)
  | piece :: pieces =>
    match self.pushBatch identity piece with
    | some (.ok result, self) =>
      (self.pushPieces identity pieces).map fun (results, self) => (result :: results, self)
    | _ => none

/-- The pieces succeed where the first one does, and the others after it. -/
theorem pushPieces_cons {piece : List AudioFrame} {pieces : List (List AudioFrame)}
    {results : List (SchedulingResult ι)} :
    s.pushPieces identity (piece :: pieces) = some (results, s') ↔ ∃ result s₁ results',
      s.pushBatch identity piece = some (.ok result, s₁) ∧
        s₁.pushPieces identity pieces = some (results', s') ∧ results = result :: results' := by
  rw [pushPieces]
  cases hpush : s.pushBatch identity piece with
  | none => simp
  | some outcome =>
    obtain ⟨outcome, s₁⟩ := outcome
    cases outcome with
    | error raised => simp
    | ok result =>
      simp only [Option.map_eq_some_iff, Option.some.injEq, Prod.mk.injEq, Except.ok.injEq]
      constructor
      · rintro ⟨⟨results', t⟩, hpieces, rfl, rfl⟩
        exact ⟨result, s₁, results', ⟨rfl, rfl⟩, hpieces, rfl⟩
      · rintro ⟨result', s₂, results', ⟨rfl, rfl⟩, hpieces, rfl⟩
        exact ⟨(results', s'), hpieces, rfl, rfl⟩

/-- The results of pieces make up the result of the whole: the windows are theirs, and the boundary
is that of the first. -/
def MakeUp (results : List (SchedulingResult ι)) (result : SchedulingResult ι) : Prop :=
  result.windows = results.flatMap SchedulingResult.windows ∧
    result.streamBoundary = results.head?.bind SchedulingResult.streamBoundary ∧
    ∀ later ∈ results.tail, later.streamBoundary = none

/-- Where a batch succeeds as a whole, so do its pieces, which make it up. -/
theorem pushPieces_of_pushBatch {pieces : List (List AudioFrame)}
    (hpieces : ∀ piece ∈ pieces, piece ≠ [])
    (h : s.pushBatch identity pieces.flatten = some (.ok r, s')) :
    ∃ results, s.pushPieces identity pieces = some (results, s') ∧ MakeUp results r := by
  induction pieces generalizing s r with
  | nil =>
    cases h
    exact ⟨[], rfl, rfl, rfl, nofun⟩
  | cons piece pieces ih =>
    obtain ⟨hpiece, hlater⟩ := List.forall_mem_cons.mp hpieces
    rw [List.flatten_cons] at h
    by_cases hlast : pieces.flatten = []
    · -- there is no other piece
      have hnone : pieces = [] := by
        cases pieces with
        | nil => rfl
        | cons next pieces =>
          exact absurd (List.append_eq_nil_iff.mp hlast).1 (hlater next List.mem_cons_self)
      rw [hlast, List.append_nil] at h
      rw [hnone]
      refine ⟨[r], pushPieces_cons.mpr ⟨r, s', [], h, rfl, rfl⟩, ?_, rfl, nofun⟩
      simp
    · -- Only the first piece meets a boundary: the others find the stream open.
      obtain ⟨-, r₁, s₁, r₂, hfirst, hrest, rfl⟩ := (pushBatch_append_iff hpiece hlast).mp h
      have hboundary := streamBoundary_of_pushed hpiece hlast hfirst hrest
      obtain ⟨results, hresults, hwindows, hhead, htail⟩ := ih hlater hrest
      refine ⟨r₁ :: results, pushPieces_cons.mpr ⟨r₁, s₁, results, hfirst, hresults, rfl⟩, ?_, rfl,
        ?_⟩
      · rw [List.flatMap_cons, ← hwindows]
      · intro later hmem
        rw [List.tail_cons] at hmem
        cases results with
        | nil => cases hmem
        | cons result results =>
          rcases List.mem_cons.mp hmem with rfl | hmem
          · exact hhead.symm.trans hboundary
          · exact htail later hmem

/-- Where the pieces of a batch within the bound succeed, so does the whole, which they make up. -/
theorem pushBatch_of_pushPieces {pieces : List (List AudioFrame)} {piece : List AudioFrame}
    {r₁ : SchedulingResult ι} {s₁ : WindowScheduler ι} {results : List (SchedulingResult ι)}
    (hpiece : piece ≠ []) (hpieces : ∀ piece ∈ pieces, piece ≠ [])
    (hfirst : s.pushBatch identity piece = some (.ok r₁, s₁))
    (h : s₁.pushPieces identity pieces = some (results, s'))
    (hbound : s.WithinBound (piece ++ pieces.flatten)) :
    s.pushBatch identity (piece ++ pieces.flatten) = some (.ok
        ⟨r₁.windows ++ results.flatMap SchedulingResult.windows, r₁.streamBoundary⟩, s') ∧
      ∀ later ∈ results, later.streamBoundary = none := by
  induction pieces generalizing piece s₁ r₁ results with
  | nil =>
    cases h
    rw [List.flatten_nil, List.append_nil]
    refine ⟨?_, nofun⟩
    rw [List.flatMap_nil, List.append_nil]
    exact hfirst
  | cons next pieces ih =>
    obtain ⟨hnext, hlater⟩ := List.forall_mem_cons.mp hpieces
    obtain ⟨r₂, s₂, results', hsecond, hrest, rfl⟩ := pushPieces_cons.mp h
    rw [List.flatten_cons, ← List.append_assoc] at hbound ⊢
    have hne : piece ++ next ≠ [] := List.append_ne_nil_of_left_ne_nil hpiece next
    -- the first two pieces are pushed as one
    have hboth := (pushBatch_append_iff hpiece hnext).mpr
      ⟨hbound.left hne, r₁, s₁, r₂, hfirst, hsecond, rfl⟩
    obtain ⟨hwhole, hnone⟩ := ih hne hlater hboth hrest hbound
    have hboundary := streamBoundary_of_pushed hpiece hnext hfirst hsecond
    rw [List.flatMap_cons, ← List.append_assoc]
    exact ⟨hwhole, List.forall_mem_cons.mpr ⟨hboundary, hnone⟩⟩

/-- A batch and its pieces, from any state: where the whole succeeds, the pieces succeed one after
another with the same identity, and where they do and the whole is within the bound, it succeeds.
The state is the same in the end, the windows of the pieces are those of the whole, and its boundary
is that of the first piece, which is the only one to report one. A single frame is a batch of one.
-/
theorem grouping_does_not_matter (s s' : WindowScheduler ι) (identity : ι)
    (frames : List AudioFrame) (pieces : List (List AudioFrame))
    (hcut : pieces.flatten = frames) (hpieces : ∀ piece ∈ pieces, piece ≠ []) :
    (∀ result, s.pushBatch identity frames = some (.ok result, s') →
      ∃ results, s.pushPieces identity pieces = some (results, s') ∧ MakeUp results result) ∧
    (∀ results, s.pushPieces identity pieces = some (results, s') → s.WithinBound frames →
      ∃ result, s.pushBatch identity frames = some (.ok result, s') ∧ MakeUp results result) ∧
    ∀ frame, s.push identity frame = s.pushBatch identity [frame] := by
  subst hcut
  refine ⟨fun result h => pushPieces_of_pushBatch hpieces h, fun results h hbound => ?_,
    fun _ => rfl⟩
  cases pieces with
  | nil =>
    cases h
    exact ⟨⟨[], none⟩, rfl, rfl, rfl, nofun⟩
  | cons piece pieces =>
    obtain ⟨hpiece, hlater⟩ := List.forall_mem_cons.mp hpieces
    obtain ⟨r₁, s₁, results', hfirst, hrest, rfl⟩ := pushPieces_cons.mp h
    obtain ⟨hwhole, hnone⟩ := pushBatch_of_pushPieces hpiece hlater hfirst hrest hbound
    exact ⟨_, hwhole, rfl, rfl, hnone⟩

/-- Three frames that are pushed under another identity, in two pieces: a window spans them. -/
def spanningPieces : List (List AudioFrame) :=
  [[silenceAt 0 0 oneFrame], [silenceAt 1 1 oneFrame, silenceAt 2 2 oneFrame]]

/-- The pieces of the frames switch the stream, and make up what the whole does. -/
theorem grouping_does_not_matter_example : ∃ result results s',
    ((new twoNanoseconds).after [(1, firstFrame)]).pushBatch 0 spanningPieces.flatten
        = some (.ok result, s') ∧
      ((new twoNanoseconds).after [(1, firstFrame)]).pushPieces 0 spanningPieces
        = some (results, s') ∧
      MakeUp results result ∧ result.windows ≠ [] ∧ result.streamBoundary ≠ none := by
  have hruns : (((new twoNanoseconds).after [(1, firstFrame)]).pushBatch 0
      spanningPieces.flatten).any (fun outcome => outcome.1.toOption.any fun result =>
        decide (result.windows ≠ [] ∧ result.streamBoundary ≠ none)) = true := by decide +kernel
  obtain ⟨⟨outcome, s'⟩, hpush, hok⟩ := (Option.any_eq_true _ _).mp hruns
  cases outcome with
  | error raised => cases hok
  | ok result =>
    obtain ⟨hwindows, hboundary⟩ := of_decide_eq_true hok
    obtain ⟨hwhole, -, -⟩ := grouping_does_not_matter _ s' 0 spanningPieces.flatten spanningPieces
      rfl (by decide)
    obtain ⟨results, hpieces, hmake⟩ := hwhole result hpush
    exact ⟨result, results, s', hpush, hpieces, hmake, hwindows, hboundary⟩

end WindowScheduler

end ResonanceSignal
