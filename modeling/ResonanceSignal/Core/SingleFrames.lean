import ResonanceSignal.Core.Push

/-!
# Frames pushed one at a time

What `push` does to the frames of one stream as they come, whatever it answers. A fresh scheduler
refuses a frame that is too long for one call and stays fresh (`push_new_refused`), or the frame
starts the stream (`push_new`). On a stream, the frame that is due is scheduled, or the call fails
and leaves the stream stuck (`push_due`): the frame was not taken, so that no later frame is the one
that is due, or the stream is invalidated (`IsStuck.push`). So the frames that a stream takes are
consecutive, from the first that is not too long to the one before the first failure.
-/

namespace ResonanceSignal

namespace WindowScheduler

variable {ι : Type} [DecidableEq ι] {s s' : WindowScheduler ι} {identity : ι} {f : AudioFrame}

/-! ## A stuck stream -/

/-- The scheduler is on the stream and takes none of its frames from frame `due` on. -/
structure IsStuck (s : WindowScheduler ι) (identity : ι) (due : ℕ) : Prop where
  /-- The stream is the active one. -/
  active : s.activeStream = some identity
  /-- It is invalidated, or still waits for an earlier frame. -/
  stuck : s.invalidStream = some identity ∨
    ∃ ts, s.expectedNext = some ts ∧ ts.frameIndex.toNat < due

omit [DecidableEq ι] in
/-- A stuck stream does not take the later frames either. -/
theorem IsStuck.mono {due due' : ℕ} (h : IsStuck s identity due) (hle : due ≤ due') :
    IsStuck s identity due' := by
  refine ⟨h.active, h.stuck.imp_right ?_⟩
  rintro ⟨ts, hts, hlt⟩
  exact ⟨ts, hts, lt_of_lt_of_le hlt hle⟩

omit [DecidableEq ι] in
/-- An invalidated stream is stuck. -/
theorem isStuck_invalidate (s : WindowScheduler ι) (identity : ι) (due : ℕ) :
    IsStuck (s.invalidate identity) identity due := ⟨rfl, .inl rfl⟩

/-- On the active stream, a frame is due where the stream expects it. -/
theorem due_of_active (h : s.activeStream = some identity) : s.due identity = s.expectedNext := by
  have hsame : s.streamChanged identity = false := by simp [streamChanged, h]
  rw [due, hsame, if_neg Bool.false_ne_true]

/-- A push that the first phase does not accept fails, and keeps the state or invalidates the
stream. -/
theorem push_of_rejected {rejection : Rejection}
    (h : s.validateBatch identity f [] = .error rejection) :
    ∃ e s', s.push identity f = some (.error e, s') ∧ (s' = s ∨ s' = s.invalidate identity) := by
  rw [push, pushBatch, h]
  cases rejection with
  | refused e => exact ⟨e, s, rfl, .inl rfl⟩
  | invalidating e => exact ⟨e, s.invalidate identity, rfl, .inr rfl⟩

/-- A stuck stream fails on every later frame, and stays stuck. -/
theorem IsStuck.push {due : ℕ} (h : IsStuck s identity due) (hle : due ≤ f.first) :
    ∃ e s', s.push identity f = some (.error e, s') ∧
      IsStuck s' identity (f.first + f.count) := by
  cases hvalidate : s.validateBatch identity f [] with
  | ok admission =>
    have hadmits := validateBatch_eq_ok.mp hvalidate
    rcases h.stuck with hinvalid | ⟨ts, hts, hlt⟩
    · exact absurd hinvalid hadmits.notInvalid
    · -- The frame would have to start where the stream waits, which is before it.
      obtain ⟨-, -, hcontinuity, -⟩ := validateFrames_cons.mp hadmits.validated
      rw [due_of_active h.active] at hcontinuity
      have hindex := (continuityError_eq_none.mp hcontinuity ts hts).1
      have hfirst : f.first = ts.frameIndex.toNat := congrArg UInt64.toNat hindex
      omega
  | error rejection =>
    obtain ⟨e, s', hpush, rfl | rfl⟩ := push_of_rejected hvalidate
    · exact ⟨e, s', hpush, h.mono (by omega)⟩
    · exact ⟨e, _, hpush, isStuck_invalidate _ _ _⟩

/-! ## The frame that is due -/

/-- The scheduler is on the stream, with the `m` frames from `base` on retained. -/
structure IsAt (fmt : StreamFormat) (identity : ι) (origin : FrameTimestamp)
    (P : FrameTimestamp → Prop) (base m : ℕ) (s : WindowScheduler ι) : Prop where
  /-- The stream is the active one, -/
  active : s.activeStream = some identity
  /-- no stream is invalidated, -/
  valid : s.invalidStream = none
  /-- and the retained samples are those frames. -/
  stream : Streaming fmt origin P base m s

/-- How the push of a frame of the stream ends, where the `m` frames `held` from `base` on were
retained before. -/
inductive PushedFrame (fmt : StreamFormat) (identity : ι) (origin : FrameTimestamp)
    (P : FrameTimestamp → Prop) (base m : ℕ) (held : List Sample) (f : AudioFrame) :
    Option (Except SchedulingError (SchedulingResult ι) × WindowScheduler ι) → Prop
  /-- The frame is scheduled. -/
  | scheduled (r : SchedulingResult ι) (m' : ℕ) (s' : WindowScheduler ι)
      (tiled : WindowsFrom fmt identity P base r.windows)
      (lossless : windowSamples r.windows ++ s'.samples = held ++ f.samples)
      (number : r.windows.length * fmt.frames + m' = m + f.count)
      (isAt : IsAt fmt identity origin P (base + r.windows.length * fmt.frames) m' s') :
      PushedFrame fmt identity origin P base m held f (some (.ok r, s'))
  /-- The frame is not taken, and the stream is stuck. -/
  | stuck (e : SchedulingError) (s' : WindowScheduler ι)
      (isStuck : IsStuck s' identity (base + m + f.count)) :
      PushedFrame fmt identity origin P base m held f (some (.error e, s'))

variable {fmt : StreamFormat} {origin : FrameTimestamp} {P : FrameTimestamp → Prop} {base m : ℕ}

/-- A batch of one frame that is accepted schedules the frame, or leaves the stream stuck. -/
theorem pushedFrame_of_accept {held : List Sample}
    {r : Option (Except SchedulingError (SchedulingResult ι) × WindowScheduler ι)}
    (h : AcceptOutcome s identity fmt origin P base m held [f] r)
    (hstuck : ∀ s', ¬TimelineFits fmt origin [f] → r = some (.error .timestampOverflow, s') →
      IsStuck s' identity (base + m + f.count)) :
    PushedFrame fmt identity origin P base m held f r := by
  cases h with
  | overflow s' config active valid misfit => exact .stuck _ s' (hstuck s' misfit rfl)
  | scheduled n ws m' s' buffered config active valid fits contiguous tiled bounded lossless number
      stream =>
    have hsamples : frameSamples [f] = f.samples := by simp [frameSamples]
    rw [hsamples] at lossless
    rw [frameCount_cons, frameCount_nil, Nat.add_zero] at number
    exact .scheduled _ m' s' tiled lossless number ⟨active, valid, stream⟩

/-- A call that fails in its second phase on the active stream leaves it where it was. -/
theorem expectedNext_of_accept_error {first : AudioFrame} {rest : List AudioFrame}
    {admission : Admission} {e : SchedulingError}
    (hadmits : s.Admits identity first rest admission) (hactive : s.activeStream = some identity)
    (h : s.accept identity first rest admission = some (.error e, s')) :
    s'.activeStream = s.activeStream ∧ s'.expectedNext = s.expectedNext := by
  have hswitch : s.switchStream identity first admission = s := by
    rw [switchStream, if_neg]
    rw [hadmits.streamChanged]
    simp [streamChanged, hactive]
  simp only [accept, Option.bind_eq_bind, Option.bind_eq_some_iff, hswitch] at h
  obtain ⟨n, -, b, -, ⟨outcome, t⟩, hemit, h⟩ := h
  have hsame := (emitFrames_frame hemit).1
  cases outcome with
  | ok windows => cases h
  | error e' =>
    cases h
    rw [SameStream] at hsame
    rw [hsame]
    exact ⟨rfl, rfl⟩

/-- On a stream, the frame that is due is scheduled, or the stream is stuck. -/
theorem push_due (h : IsAt fmt identity origin P base m s) (hf : FrameAt fmt P (base + m) f) :
    PushedFrame fmt identity origin P base m s.samples f (s.push identity f) := by
  -- The stream waits for this frame, so that it does not take the frames after it.
  obtain ⟨due, hdue, hindex⟩ := h.stream.expectedNext
  have hwaits {t : WindowScheduler ι} (hactive : t.activeStream = s.activeStream)
      (hexpected : t.expectedNext = s.expectedNext) : IsStuck t identity (base + m + f.count) := by
    have hpos := f.count_pos
    exact ⟨hactive.trans h.active, .inr ⟨due, hexpected.trans hdue, by omega⟩⟩
  cases hvalidate : s.validateBatch identity f [] with
  | error rejection =>
    obtain ⟨e, s', hpush, rfl | rfl⟩ := push_of_rejected hvalidate
    · rw [hpush]
      exact .stuck e _ (hwaits rfl rfl)
    · rw [hpush]
      exact .stuck e _ (isStuck_invalidate _ _ _)
  | ok admission =>
    have hadmits := validateBatch_eq_ok.mp hvalidate
    have hout := (accept_continue hadmits h.active h.valid h.stream fun g hg => by
      obtain rfl := List.mem_singleton.mp hg
      exact hf.start).2
    rw [push, pushBatch, hvalidate]
    refine pushedFrame_of_accept hout fun s' _ hs' => ?_
    obtain ⟨hactive, hexpected⟩ := expectedNext_of_accept_error hadmits h.active hs'
    exact hwaits hactive hexpected

/-! ## The first frame -/

/-- One call can take the frame: the bound on a call is representable, and the frame is within
it. -/
def FitsOneCall (config : WindowSchedulerConfig) (f : AudioFrame) : Prop :=
  ∃ windowFrames, windowFrameCount config.targetWindowDuration f.sampleRate = .ok windowFrames ∧
    windowFrames.get.toNat * config.maxWindowsPerPush.toNat < 2^64 ∧
    f.count ≤ windowFrames.get.toNat * config.maxWindowsPerPush.toNat

/-- On a fresh scheduler, the first phase refuses a frame that one call cannot take, and nothing
else. -/
theorem validateBatch_new_error {config : WindowSchedulerConfig} {rejection : Rejection}
    (h : (new config : WindowScheduler ι).validateBatch identity f [] = .error rejection) :
    (∃ e, rejection = .refused e ∧ ¬FitsOneCall config f) ∨
      ∃ e, rejection = .invalidating e ∧ FitsOneCall config f := by
  have hwf : ∀ w : WindowFrames, w.get.toUInt64.toNat = w.get.toNat :=
    fun w => UInt32.toNat_toUInt64 _
  have hcount : inputFrameCount [f] = some f.window.frameCount.toUInt64 := by
    rw [inputFrameCount_eq_some, frameCount_cons, frameCount_nil, UInt32.toNat_toUInt64]
    rfl
  have hf : f.window.frameCount.toUInt64.toNat = f.count := UInt32.toNat_toUInt64 _
  simp only [validateBatch, Result.bind_eq_error, Result.mapError_eq_error, failIf_eq_error,
    okOr_eq_error, okOr_eq_ok, failIf_eq_ok, Result.mapError_eq_ok, Checked.mul_eq_none,
    Checked.mul_eq_some, hcount, hwf, UInt64.lt_iff_toNat_lt] at h
  rcases h with h | ⟨-, -, h | ⟨w, hw, h | ⟨-, -, h | ⟨n, hn, h | ⟨maximum, hmax, h |
    ⟨-, hbound, h⟩⟩⟩⟩⟩⟩
  · cases h.1
  · -- The rate has no window.
    obtain ⟨e, he, rfl⟩ := h
    refine .inl ⟨e, rfl, ?_⟩
    rintro ⟨w, hw, -⟩
    cases he.symm.trans hw
  · -- A fresh scheduler has no format to change.
    cases h.1.2.1
  · cases h.1
  · -- The bound on a call is not representable.
    refine .inl ⟨_, h.2.symm, ?_⟩
    rintro ⟨w', hw', hfits, -⟩
    cases hw.symm.trans hw'
    exact absurd hfits (not_lt.mpr h.1)
  · -- The frame is longer than the bound.
    obtain ⟨hlt, rfl⟩ := h
    cases hn
    refine .inl ⟨_, rfl, ?_⟩
    rintro ⟨w', hw', -, hbound⟩
    cases hw.symm.trans hw'
    rw [hmax, hf] at hlt
    exact absurd hbound (not_le.mpr hlt)
  · -- The frame is within the bound, and its own timestamps fail.
    obtain ⟨e, -, rfl⟩ | ⟨_, -, h⟩ := h
    · cases hn
      have hlt := maximum.toNat_lt
      rw [hmax] at hlt hbound
      rw [hf] at hbound
      exact .inr ⟨e, rfl, w, hw, hlt, not_lt.mp hbound⟩
    · cases h

/-- A fresh scheduler stays fresh where one call cannot take the frame. -/
theorem push_new_refused {config : WindowSchedulerConfig} (identity : ι)
    (h : ¬FitsOneCall config f) :
    ∃ e, (new config).push identity f = some (.error e, new config) := by
  rw [push, pushBatch]
  cases hvalidate : (new config).validateBatch identity f [] with
  | ok admission =>
    have hadmits := validateBatch_eq_ok.mp hvalidate
    have hbound := hadmits.bounded
    rw [frameCount_cons, frameCount_nil, Nat.add_zero] at hbound
    exact absurd ⟨_, hadmits.windowFrames, hadmits.maximum, hbound⟩ h
  | error rejection =>
    rcases validateBatch_new_error hvalidate with ⟨e, rfl, -⟩ | ⟨e, rfl, hfits⟩
    · exact ⟨e, rfl⟩
    · exact absurd hfits h

/-- A frame that one call can take starts the stream of a fresh scheduler, or leaves it stuck. -/
theorem push_new {config : WindowSchedulerConfig} (identity : ι) (h : FitsOneCall config f)
    (hPf : P f.window.start)
    (hP : ∀ i next, timestampForFrameIndex f.window.start i f.sampleRate = .ok next → P next) :
    ∃ windowFrames, windowFrameCount config.targetWindowDuration f.sampleRate = .ok windowFrames ∧
      PushedFrame ⟨f.sampleRate, f.channels, windowFrames⟩ identity f.window.start P f.first 0 [] f
        ((new config).push identity f) := by
  obtain ⟨windowFrames, hw, -⟩ := id h
  refine ⟨windowFrames, hw, ?_⟩
  rw [push, pushBatch]
  cases hvalidate : (new config).validateBatch identity f [] with
  | error rejection =>
    rcases validateBatch_new_error hvalidate with ⟨e, rfl, hnot⟩ | ⟨e, rfl, -⟩
    · exact absurd h hnot
    · exact .stuck e _ (isStuck_invalidate _ _ _)
  | ok admission =>
    have hadmits := validateBatch_eq_ok.mp hvalidate
    have hout := accept_new hadmits ⟨0, rfl⟩ (.inr rfl) (fun _ => rfl)
      (fun g hg => by
        obtain rfl := List.mem_singleton.mp hg
        exact hPf) hP
    have hfmt : admission.format = ⟨f.sampleRate, f.channels, windowFrames⟩ := by
      have hw' := hadmits.windowFrames
      rw [WindowScheduler.new, hw, Except.ok.injEq] at hw'
      obtain ⟨changed, ⟨rate, channels, windowFrames'⟩, expected⟩ := admission
      rw [StreamFormat.mk.injEq]
      exact ⟨hadmits.sampleRate, hadmits.channels, hw'.symm⟩
    rw [hfmt] at hout
    refine pushedFrame_of_accept hout fun s' hmisfit _ => ?_
    -- The end of the frame fits the clock, and so does every boundary inside it.
    obtain ⟨-, -, -, next, hnext, -⟩ := validateFrames_cons.mp hadmits.validated
    obtain ⟨-, htime⟩ := advanceTimestamp_eq_ok.mp hnext
    refine absurd ?_ hmisfit
    intro g hg
    obtain rfl := List.mem_singleton.mp hg
    have hspan : g.first + g.count - g.window.start.frameIndex.toNat = g.count :=
      Nat.add_sub_cancel_left _ _
    refine boundariesFit_of_end ?_
    rw [TimestampFits, hspan]
    have hlt := next.streamTimeNs.toNat_lt
    rw [htime] at hlt
    refine ⟨?_, hlt⟩
    have hcount : g.count < 2^32 := g.window.frameCount.toNat_lt
    omega

end WindowScheduler

end ResonanceSignal
