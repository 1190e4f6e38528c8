import ResonanceSignal.Core.Push
import ResonanceSignal.Lib.Transition

/-!
# Runs of the scheduler on one stream

A run of `push_batch` calls, as a run of the transition system `pushes`. On a stream the scheduler
keeps a ledger: the frames pushed since the stream started, and the windows emitted since. The
windows tile the stream's timeline from its origin, and with the retained samples they are the
pushed samples (`Scheduled`). One successful call preserves this (`Scheduled.push`), so that a run
of successful calls under one identity ends in it (`run_scheduled`).
-/

namespace ResonanceSignal

namespace WindowScheduler

/-- A call of `push_batch` and what it returned. -/
structure Call (ι : Type) where
  /-- The identity that the batch was pushed under. -/
  identity : ι
  /-- The batch. -/
  frames : List AudioFrame
  /-- What the call returned. -/
  outcome : Except SchedulingError (SchedulingResult ι)
deriving DecidableEq

variable {ι : Type}

/-- The windows that a call returned. -/
def Call.windows (call : Call ι) : List (ScheduledWindow ι) :=
  match call.outcome with
  | .ok result => result.windows
  | .error _ => []

/-- A call that succeeds returns the windows of its result. -/
theorem Call.windows_of_ok {call : Call ι} {r : SchedulingResult ι} (h : call.outcome = .ok r) :
    call.windows = r.windows := by
  unfold Call.windows
  rw [h]

/-- The call succeeded. -/
def Call.Succeeds (call : Call ι) : Prop := ∃ r, call.outcome = .ok r

instance (call : Call ι) : Decidable call.Succeeds :=
  match h : call.outcome with
  | .ok r => isTrue ⟨r, h⟩
  | .error _ => isFalse fun ⟨_, hr⟩ => by simp [h] at hr

/-- The frames pushed by a list of calls, in order. -/
def pushed (calls : List (Call ι)) : List AudioFrame := calls.flatMap Call.frames

/-- The windows returned by a list of calls, in order. -/
def emitted (calls : List (Call ι)) : List (ScheduledWindow ι) := calls.flatMap Call.windows

/-- The frames of a first call and of the others. -/
@[simp]
theorem pushed_cons (c : Call ι) (cs : List (Call ι)) : pushed (c :: cs) = c.frames ++ pushed cs :=
  rfl

/-- The windows of a first call and of the others. -/
@[simp]
theorem emitted_cons (c : Call ι) (cs : List (Call ι)) :
    emitted (c :: cs) = c.windows ++ emitted cs := rfl

/-- The frames and the windows of a stream since it started, and the state that they leave. -/
structure Scheduled (fmt : StreamFormat) (identity : ι) (origin : FrameTimestamp)
    (P : FrameTimestamp → Prop) (frames : List AudioFrame) (windows : List (ScheduledWindow ι))
    (s : WindowScheduler ι) : Prop where
  /-- The scheduler is on the stream. -/
  active : s.activeStream = some identity
  /-- No stream is invalidated. -/
  valid : s.invalidStream = none
  /-- The retained samples start where the windows end, and reach to where the frames end. -/
  stream : ∃ m, Streaming fmt origin P
    (origin.frameIndex.toNat + windows.length * fmt.frames) m s ∧
      windows.length * fmt.frames + m = frameCount frames
  /-- The frames are contiguous from the origin on. -/
  contiguous : FramesFrom fmt P origin.frameIndex.toNat frames
  /-- The windows tile the timeline from the origin on. -/
  tiled : WindowsFrom fmt identity P origin.frameIndex.toNat windows
  /-- No sample is lost. -/
  lossless : windowSamples windows ++ s.samples = frameSamples frames

/-- Contiguous frames go on where they end. -/
theorem FramesFrom.append {fmt : StreamFormat} {P : FrameTimestamp → Prop} {due : ℕ}
    {frames frames' : List AudioFrame} (h : FramesFrom fmt P due frames)
    (h' : FramesFrom fmt P (due + frameCount frames) frames') :
    FramesFrom fmt P due (frames ++ frames') := by
  induction frames generalizing due with
  | nil => simpa using h'
  | cons f fs ih =>
    refine ⟨h.1, ih h.2 ?_⟩
    rw [frameCount_cons, ← Nat.add_assoc] at h'
    exact h'

/-- Contiguous frames whose starts satisfy a predicate satisfy a weaker one. -/
theorem FramesFrom.imp {fmt fmt' : StreamFormat} {P P' : FrameTimestamp → Prop} {due : ℕ}
    {frames : List AudioFrame} (hrate : fmt.sampleRate = fmt'.sampleRate)
    (hchannels : fmt.channels = fmt'.channels) (hP : ∀ ts, P ts → P' ts)
    (h : FramesFrom fmt P due frames) : FramesFrom fmt' P' due frames := by
  induction frames generalizing due with
  | nil => trivial
  | cons f fs ih =>
    obtain ⟨hf, hfs⟩ := h
    exact ⟨⟨hf.first, hf.sampleRate.trans hrate, hf.channels.trans hchannels, hP _ hf.start⟩,
      ih hfs⟩

/-- A frame of contiguous ones ends where they all do, or before. -/
theorem FramesFrom.end_le {fmt : StreamFormat} {P : FrameTimestamp → Prop} {due : ℕ}
    {frames : List AudioFrame} (h : FramesFrom fmt P due frames) :
    ∀ f ∈ frames, f.first + f.count ≤ due + frameCount frames := by
  induction frames generalizing due with
  | nil => nofun
  | cons g gs ih =>
    rw [frameCount_cons]
    refine List.forall_mem_cons.mpr ⟨?_, fun f hf => ?_⟩
    · rw [h.1.first]
      omega
    · have := ih h.2 f hf
      omega

/-- Each of contiguous frames is due somewhere. -/
theorem FramesFrom.frameAt {fmt : StreamFormat} {P : FrameTimestamp → Prop} {due : ℕ}
    {frames : List AudioFrame} (h : FramesFrom fmt P due frames) :
    ∀ f ∈ frames, ∃ due', FrameAt fmt P due' f := by
  induction frames generalizing due with
  | nil => nofun
  | cons g gs ih => exact List.forall_mem_cons.mpr ⟨⟨due, h.1⟩, ih h.2⟩

/-- The samples of two lists of frames. -/
@[simp]
theorem frameSamples_append (fs fs' : List AudioFrame) :
    frameSamples (fs ++ fs') = frameSamples fs ++ frameSamples fs' := by
  simp [frameSamples]

variable [DecidableEq ι]

/-- The calls of `push_batch` on a scheduler. A call that fails an `expect` is no step. -/
def pushes : TransitionSystem (WindowScheduler ι) (Call ι) where
  step s c s' := s.pushBatch c.identity c.frames = some (c.outcome, s')

/-- A step is a call that returns. -/
theorem pushes_step {s s' : WindowScheduler ι} {c : Call ι} :
    pushes.step s c s' ↔ s.pushBatch c.identity c.frames = some (c.outcome, s') := Iff.rfl

/-- The calls of a list of batches, each with what it returned, and the state after them. -/
def play : WindowScheduler ι → List (ι × List AudioFrame) →
    Option (List (Call ι) × WindowScheduler ι)
  | s, [] => some ([], s)
  | s, (identity, frames) :: batches =>
    match s.pushBatch identity frames with
    | none => none
    | some (outcome, t) =>
      (play t batches).map fun p => (⟨identity, frames, outcome⟩ :: p.1, p.2)

/-- Playing a list of batches is a run. -/
theorem run_of_play {s s' : WindowScheduler ι} (batches : List (ι × List AudioFrame))
    {calls : List (Call ι)} (h : s.play batches = some (calls, s')) : pushes.Run s calls s' := by
  induction batches generalizing s calls with
  | nil =>
    cases h
    exact rfl
  | cons b batches ih =>
    obtain ⟨identity, frames⟩ := b
    rw [play] at h
    cases hpush : s.pushBatch identity frames with
    | none => rw [hpush] at h; cases h
    | some p =>
      obtain ⟨outcome, t⟩ := p
      rw [hpush] at h
      obtain ⟨⟨cs, t'⟩, hrest, heq⟩ := Option.map_eq_some_iff.mp h
      cases heq
      exact ⟨t, hpush, ih hrest⟩

/-- A call of a nonempty batch succeeds by being accepted and scheduled. -/
theorem pushBatch_eq_ok {s s' : WindowScheduler ι} {identity : ι} {first : AudioFrame}
    {rest : List AudioFrame} {r : SchedulingResult ι} :
    s.pushBatch identity (first :: rest) = some (.ok r, s') ↔
      ∃ admission, s.Admits identity first rest admission ∧
        s.accept identity first rest admission = some (.ok r, s') := by
  rw [pushBatch]
  constructor
  · intro h
    cases hvalidate : s.validateBatch identity first rest with
    | error rejection =>
      rw [hvalidate] at h
      cases rejection <;> simp at h
    | ok admission =>
      rw [hvalidate] at h
      exact ⟨admission, validateBatch_eq_ok.mp hvalidate, h⟩
  · rintro ⟨admission, hadmits, haccept⟩
    rw [validateBatch_eq_ok.mpr hadmits]
    exact haccept

section Step

variable {fmt : StreamFormat} {identity : ι} {origin : FrameTimestamp} {P : FrameTimestamp → Prop}
  {s s' : WindowScheduler ι} {c : Call ι} {r : SchedulingResult ι}

/-- A scheduled batch that starts a stream opens its ledger. -/
theorem scheduled_of_started {first : AudioFrame} {rest : List AudioFrame}
    (h : AcceptOutcome s identity fmt first.window.start P first.first 0 [] (first :: rest)
      (some (.ok r, s'))) :
    Scheduled fmt identity first.window.start P (first :: rest) r.windows s' := by
  cases h with
  | scheduled n ws m' s' buffered config active valid fits contiguous tiled bounded lossless number
      stream =>
    rw [Nat.zero_add] at number
    exact ⟨active, valid, ⟨m', stream, number⟩, contiguous, tiled, by simpa using lossless⟩

/-- A scheduled batch that continues a stream extends its ledger. -/
theorem scheduled_of_continued {frames batch : List AudioFrame} {windows : List (ScheduledWindow ι)}
    {m : ℕ} (hs : Scheduled fmt identity origin P frames windows s)
    (hm : windows.length * fmt.frames + m = frameCount frames)
    (h : AcceptOutcome s identity fmt origin P
      (origin.frameIndex.toNat + windows.length * fmt.frames) m s.samples batch
      (some (.ok r, s'))) :
    Scheduled fmt identity origin P (frames ++ batch) (windows ++ r.windows) s' := by
  cases h with
  | scheduled n ws m' s' buffered config active valid fits contiguous tiled bounded lossless number
      stream =>
    refine ⟨active, valid, ⟨m', ?_, ?_⟩, hs.contiguous.append ?_, hs.tiled.append tiled, ?_⟩
    · rw [List.length_append, Nat.add_mul, ← Nat.add_assoc]
      exact stream
    · rw [List.length_append, Nat.add_mul, frameCount_append, Nat.add_assoc, number]
      omega
    · rw [← hm, ← Nat.add_assoc]
      exact contiguous
    · rw [windowSamples_append, List.append_assoc, lossless, ← List.append_assoc, hs.lossless,
        frameSamples_append]

/-- A scheduled batch keeps the configuration and returns no more windows than it allows. -/
theorem AcceptOutcome.config_eq {base m : ℕ} {held : List Sample} {frames : List AudioFrame}
    (h : AcceptOutcome s identity fmt origin P base m held frames (some (.ok r, s'))) :
    s'.config = s.config ∧ r.windows.length ≤ s.config.maxWindowsPerPush.toNat := by
  cases h with
  | scheduled n ws m' s' buffered config active valid fits contiguous tiled bounded lossless number
      stream => exact ⟨config, bounded⟩

/-- A successful call on a stream extends the stream's ledger. -/
theorem Scheduled.push {frames : List AudioFrame} {windows : List (ScheduledWindow ι)}
    (hs : Scheduled fmt identity origin P frames windows s) (h : pushes.step s c s')
    (hid : c.identity = identity) (hok : c.outcome = .ok r) (hP : ∀ f ∈ c.frames, P f.window.start) :
    Scheduled fmt identity origin P (frames ++ c.frames) (windows ++ c.windows) s' ∧
      s'.config = s.config ∧ c.windows.length ≤ s.config.maxWindowsPerPush.toNat := by
  obtain ⟨m, hstream, hm⟩ := hs.stream
  have hw : c.windows = r.windows := Call.windows_of_ok hok
  rw [pushes_step, hid, hok] at h
  cases hf : c.frames with
  | nil =>
    rw [hf] at h
    cases h
    rw [hw]
    exact ⟨by simpa using hs, rfl, Nat.zero_le _⟩
  | cons first rest =>
    rw [hf] at h hP
    obtain ⟨admission, hadmits, haccept⟩ := pushBatch_eq_ok.mp h
    obtain ⟨-, hout⟩ := accept_continue hadmits hs.active hs.valid hstream hP
    rw [haccept] at hout
    rw [hw]
    exact ⟨scheduled_of_continued hs hm hout, hout.config_eq⟩

/-- A successful call that is not on the active stream opens the ledger of a new one. -/
theorem scheduled_of_push {first : AudioFrame} {rest : List AudioFrame} (h : pushes.step s c s')
    (hf : c.frames = first :: rest) (hok : c.outcome = .ok r)
    (hinactive : s.activeStream ≠ some c.identity)
    (hfresh : s.activeStream = none → s.expectedNext = none)
    (hP : ∀ f ∈ c.frames, P f.window.start)
    (hcomputed : ∀ i next,
      timestampForFrameIndex first.window.start i first.sampleRate = .ok next → P next) :
    ∃ fmt : StreamFormat, fmt.sampleRate = first.sampleRate ∧ fmt.channels = first.channels ∧
      windowFrameCount s.config.targetWindowDuration first.sampleRate = .ok fmt.windowFrames ∧
        Scheduled fmt c.identity first.window.start P c.frames c.windows s' ∧
          s'.config = s.config ∧ c.windows.length ≤ s.config.maxWindowsPerPush.toNat := by
  have hw : c.windows = r.windows := Call.windows_of_ok hok
  rw [pushes_step, hok, hf] at h
  obtain ⟨admission, hadmits, haccept⟩ := pushBatch_eq_ok.mp h
  have hbuffered : ∃ n, s.bufferedFrameCount = some n := by
    cases hn : s.bufferedFrameCount with
    | some n => exact ⟨n, rfl⟩
    | none =>
      rw [accept, hn] at haccept
      cases haccept
  rw [hf] at hP ⊢
  have hout := accept_new hadmits hbuffered (streamChanged_of_ne hinactive) hfresh hP hcomputed
  rw [haccept] at hout
  rw [hw]
  exact ⟨admission.format, hadmits.sampleRate, hadmits.channels, hadmits.windowFrames,
    scheduled_of_started hout, hout.config_eq⟩

/-- A run of successful calls on a stream extends the stream's ledger. -/
theorem Scheduled.run {calls : List (Call ι)} {frames : List AudioFrame}
    {windows : List (ScheduledWindow ι)} (hs : Scheduled fmt identity origin P frames windows s)
    (hrun : pushes.Run s calls s')
    (hcalls : ∀ c ∈ calls, c.identity = identity ∧ c.Succeeds)
    (hP : ∀ f ∈ pushed calls, P f.window.start) :
    Scheduled fmt identity origin P (frames ++ pushed calls) (windows ++ emitted calls) s' ∧
      s'.config = s.config ∧ ∀ c ∈ calls, c.windows.length ≤ s.config.maxWindowsPerPush.toNat := by
  induction calls generalizing s frames windows with
  | nil =>
    cases hrun
    exact ⟨by simpa [pushed, emitted] using hs, rfl, nofun⟩
  | cons c cs ih =>
    obtain ⟨t, hstep, hrest⟩ := hrun
    obtain ⟨hid, r, hok⟩ := hcalls c (List.mem_cons_self ..)
    rw [pushed_cons] at hP
    obtain ⟨ht, hconfig, hbound⟩ :=
      hs.push hstep hid hok fun f hf => hP f (List.mem_append_left _ hf)
    obtain ⟨hs', hconfig', hbounds⟩ := ih ht hrest
      (fun c hc => hcalls c (List.mem_cons_of_mem _ hc))
      fun f hf => hP f (List.mem_append_right _ hf)
    rw [hconfig] at hconfig' hbounds
    refine ⟨?_, hconfig', ?_⟩
    · rw [pushed_cons, emitted_cons, ← List.append_assoc, ← List.append_assoc]
      exact hs'
    · intro c' hc'
      rcases List.mem_cons.mp hc' with rfl | h
      · exact hbound
      · exact hbounds c' h

/-- A run of successful calls under an identity that is not the active one either pushes nothing, or
ends on the stream that the first frame starts. -/
theorem run_scheduled {calls : List (Call ι)} (hrun : pushes.Run s calls s')
    (hcalls : ∀ c ∈ calls, c.identity = identity ∧ c.Succeeds)
    (hinactive : s.activeStream ≠ some identity)
    (hfresh : s.activeStream = none → s.expectedNext = none)
    (hP : ∀ f ∈ pushed calls, P f.window.start)
    (hcomputed : ∀ f, (pushed calls).head? = some f → ∀ i next,
      timestampForFrameIndex f.window.start i f.sampleRate = .ok next → P next) :
    (pushed calls = [] ∧ emitted calls = [] ∧ s' = s ∧ ∀ c ∈ calls, c.windows = []) ∨
      ∃ (fmt : StreamFormat) (f : AudioFrame), (pushed calls).head? = some f ∧
        fmt.sampleRate = f.sampleRate ∧ fmt.channels = f.channels ∧
        windowFrameCount s.config.targetWindowDuration f.sampleRate = .ok fmt.windowFrames ∧
        Scheduled fmt identity f.window.start P (pushed calls) (emitted calls) s' ∧
        s'.config = s.config ∧
        ∀ c ∈ calls, c.windows.length ≤ s.config.maxWindowsPerPush.toNat := by
  induction calls with
  | nil => exact .inl ⟨rfl, rfl, hrun.symm, nofun⟩
  | cons c cs ih =>
    obtain ⟨t, hstep, hrest⟩ := hrun
    obtain ⟨hid, r, hok⟩ := hcalls c (List.mem_cons_self ..)
    have hcs := fun c hc => hcalls c (List.mem_cons_of_mem _ hc)
    rw [pushed_cons] at hP hcomputed ⊢
    rw [emitted_cons]
    cases hf : c.frames with
    | nil =>
      -- An empty batch is no push at all.
      have hstep' := pushes_step.mp hstep
      rw [hf, hok] at hstep'
      cases hstep'
      have hw : c.windows = [] := Call.windows_of_ok hok
      rw [hf, List.nil_append] at hP hcomputed
      rw [List.nil_append, hw, List.nil_append]
      rcases ih hrest hcs hP hcomputed with ⟨h1, h2, h3, h4⟩ | ⟨fmt, f, h1, h2, h3, h4, h5, h6, h7⟩
      · exact .inl ⟨h1, h2, h3, List.forall_mem_cons.mpr ⟨hw, h4⟩⟩
      · refine .inr ⟨fmt, f, h1, h2, h3, h4, h5, h6, List.forall_mem_cons.mpr ⟨?_, h7⟩⟩
        rw [hw]
        exact Nat.zero_le _
    | cons first rest =>
      rw [← hid] at hinactive
      obtain ⟨fmt, hrate, hchannels, hw, hopen, hconfig, hbound⟩ :=
        scheduled_of_push hstep hf hok hinactive hfresh
          (fun f hf => hP f (List.mem_append_left _ hf)) (hcomputed first (by simp [hf]))
      rw [hid] at hopen
      obtain ⟨hs', hconfig', hbounds⟩ := hopen.run hrest hcs
        fun f hf => hP f (List.mem_append_right _ hf)
      rw [hconfig] at hconfig' hbounds
      rw [← hf]
      exact .inr ⟨fmt, first, by simp [hf], hrate, hchannels, hw, hs', hconfig',
        List.forall_mem_cons.mpr ⟨hbound, hbounds⟩⟩

end Step

/-- Tumbling windows are lossless and bounded. In a run of successful calls under one identity, from
a fresh scheduler or one that is on another stream, the windows and the retained samples are the
pushed samples; every window has the configured size and follows on the one before; less than a
window is retained; and no call returns more windows than the configuration allows. -/
theorem tumbling_windows {config : WindowSchedulerConfig} {identity : ι}
    {s s' : WindowScheduler ι} {calls : List (Call ι)} {sampleRate : SampleRate}
    {channels : ChannelLayout} {windowFrames : WindowFrames}
    (hstart : s = new config ∨ s.config = config ∧ pushed calls ≠ [] ∧
      ∃ other, other ≠ identity ∧ s.activeStream = some other)
    (hrun : pushes.Run s calls s')
    (hcalls : ∀ c ∈ calls, c.identity = identity ∧ c.Succeeds)
    (hw : windowFrameCount config.targetWindowDuration sampleRate = .ok windowFrames)
    (hformat : ∀ f ∈ (pushed calls).head?, f.sampleRate = sampleRate ∧ f.channels = channels) :
    windowSamples (emitted calls) ++ s'.samples = frameSamples (pushed calls) ∧
      (∀ k (hk : k < (emitted calls).length), ∀ f ∈ (pushed calls).head?,
        (emitted calls)[k].frame.count = windowFrames.get.toNat ∧
          (emitted calls)[k].frame.first = f.first + k * windowFrames.get.toNat) ∧
      (∃ n, s'.bufferedFrameCount = some n ∧ n.toNat < windowFrames.get.toNat ∧
        s'.samples.length = n.toNat * channels.channels) ∧
      ∀ c ∈ calls, c.windows.length ≤ config.maxWindowsPerPush.toNat := by
  -- Either way the first batch opens the stream of this identity.
  have hconfig : s.config = config := by
    rcases hstart with rfl | ⟨h, -⟩
    · rfl
    · exact h
  have hinactive : s.activeStream ≠ some identity := by
    rcases hstart with rfl | ⟨-, -, other, hne, h⟩
    · simp [new]
    · simpa [h] using hne
  have hfresh : s.activeStream = none → s.expectedNext = none := by
    rcases hstart with rfl | ⟨-, -, other, -, h⟩
    · simp [new]
    · simp [h]
  rcases run_scheduled (P := fun _ => True) hrun hcalls hinactive hfresh (fun _ _ => trivial)
    (fun _ _ _ _ _ => trivial) with ⟨hp, he, rfl, hempty⟩ | ⟨fmt, f, hf, hrate, hch, hfw, hs, -, hb⟩
  · -- Nothing was pushed, so the scheduler is still the fresh one.
    obtain rfl : s' = new config := hstart.resolve_right fun h => h.2.1 hp
    refine ⟨by rw [hp, he]; rfl, ?_, ⟨0, rfl, windowFrames.get_pos, by simp [new]⟩, ?_⟩
    · intro k hk
      rw [he] at hk
      cases hk
    · intro c hc
      rw [hempty c hc]
      exact Nat.zero_le _
  · obtain ⟨rfl, rfl⟩ := hformat f hf
    rw [hconfig, hw, Except.ok.injEq] at hfw
    obtain ⟨m, hstream, hm⟩ := hs.stream
    obtain ⟨n, hn, hnm⟩ := hstream.bufferedFrameCount
    have hframes : fmt.frames = windowFrames.get.toNat := by rw [StreamFormat.frames, hfw]
    refine ⟨hs.lossless, ?_, ⟨n, hn, ?_, ?_⟩, ?_⟩
    · intro k hk g hg
      obtain rfl : f = g := by simpa [hf] using hg
      have hat := hs.tiled.getElem k hk
      rw [← hframes]
      exact ⟨hat.count, hat.first⟩
    · rw [hnm, ← hframes]
      exact hstream.lt
    · rw [hnm, ← hch]
      exact hstream.retained.length
    · rw [← hconfig]
      exact hb

/-- A rate of one frame per nanosecond. -/
def gigahertz : SampleRate := ⟨1000000000, by decide⟩

/-- One channel. -/
def monophonic : ChannelLayout := .discrete .one

/-- Windows of two nanoseconds. -/
def twoNanoseconds : WindowSchedulerConfig :=
  { WindowSchedulerConfig.default with
    targetWindowDuration := .fromNanos 2
    duration_pos := by decide }

/-- A batch of silence at one frame per nanosecond. -/
def silenceAt (frameIndex streamTimeNs : UInt64) (frames : WindowFrames) : AudioFrame :=
  .silence ⟨frameIndex, streamTimeNs⟩ gigahertz monophonic frames.get frames.get_pos

/-- One frame. -/
def oneFrame : WindowFrames := ⟨1, by decide⟩

/-- A window of two frames. -/
def twoFrames : WindowFrames := ⟨2, by decide⟩

/-- Three frames. -/
def threeFrames : WindowFrames := ⟨3, by decide⟩

/-- Three frames and then two, in windows of two. -/
def tumblingExample : List (Call ℕ) × WindowScheduler ℕ :=
  ((new twoNanoseconds).play [(0, [silenceAt 0 0 threeFrames]), (0, [silenceAt 3 3 twoFrames])]).getD
    ([], new twoNanoseconds)

/-- Five frames are two windows, and one frame that no window holds yet. -/
theorem tumbling_windows_example :
    windowSamples (emitted tumblingExample.1) ++ tumblingExample.2.samples
        = frameSamples (pushed tumblingExample.1) ∧
      (∀ k (hk : k < (emitted tumblingExample.1).length),
        ∀ f ∈ (pushed tumblingExample.1).head?,
          (emitted tumblingExample.1)[k].frame.count = twoFrames.get.toNat ∧
            (emitted tumblingExample.1)[k].frame.first = f.first + k * twoFrames.get.toNat) ∧
      (∃ n, tumblingExample.2.bufferedFrameCount = some n ∧ n.toNat < twoFrames.get.toNat ∧
        tumblingExample.2.samples.length = n.toNat * monophonic.channels) ∧
      ∀ c ∈ tumblingExample.1, c.windows.length ≤ twoNanoseconds.maxWindowsPerPush.toNat := by
  have hplay : (new twoNanoseconds).play [(0, [silenceAt 0 0 threeFrames]), (0, [silenceAt 3 3 twoFrames])]
      = some tumblingExample := by decide +kernel
  have hcalls : ∀ c ∈ tumblingExample.1, c.identity = 0 ∧ c.Succeeds := by decide +kernel
  have hw : windowFrameCount twoNanoseconds.targetWindowDuration gigahertz = .ok twoFrames := by
    decide +kernel
  exact tumbling_windows (.inl rfl) (run_of_play _ hplay) hcalls hw (by decide +kernel)

end WindowScheduler

end ResonanceSignal
