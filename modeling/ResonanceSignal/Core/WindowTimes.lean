import ResonanceSignal.Core.Batches

/-!
# The times of windows

A window starts inside a pushed frame, or with one. Inside a frame its time is the one that
`timestamp_for_frame_index` computes from the origin of the stream, which is exact. With a frame it
is the time that the frame was pushed with (`pushedTime`), and the validation loop compares that
with the end of the frame before it, computed from the time of that frame. The nanosecond that the
loop tolerates is thus allowed on every frame anew, and the deviations of a run add up without a
bound.

So windows are on time exactly where the frames that start one are (`windows_onTime_iff`). A run of
successful calls under one identity is one pass of each loop over all its frames (`OnStream.run`),
so that one use of `emitFrames_spec` gives the start of every window (`windowStarts_of_run`).
-/

namespace ResonanceSignal

/-- The time at which the frame starts, as a natural number. -/
def AudioFrame.time (frame : AudioFrame) : ℕ := frame.window.start.streamTimeNs.toNat

namespace WindowScheduler

variable {ι : Type}

/-- Two times are at most a nanosecond apart. -/
def WithinNanosecond (time time' : ℕ) : Prop := time ≤ time' + 1 ∧ time' ≤ time + 1

instance (time time' : ℕ) : Decidable (WithinNanosecond time time') :=
  inferInstanceAs (Decidable (_ ∧ _))

/-- The exact time of a frame index, on the timeline of the first frame. -/
def exactTime (first : AudioFrame) (x : ℕ) : ℕ :=
  first.time + (x - first.first) * 10^9 / first.sampleRate.hz.toNat

/-- The time that the frame with the index was pushed with where a pushed frame starts there, and
the exact time elsewhere. -/
def pushedTime (first : AudioFrame) (frames : List AudioFrame) (x : ℕ) : ℕ :=
  match frames.find? fun f => decide (f.first = x) with
  | some f => f.time
  | none => exactTime first x

/-- The windows of a run that pushed the frames do not go back in time, and each of them starts
within a nanosecond of the exact time of its first frame. -/
def OnTime (frames : List AudioFrame) (windows : List (ScheduledWindow ι)) : Prop :=
  windows.Pairwise (fun w w' => w.frame.time ≤ w'.frame.time) ∧
    ∀ first, frames.head? = some first → ∀ w ∈ windows,
      WithinNanosecond w.frame.time (exactTime first w.frame.first)

/-- The frames are in step with the timeline of the first one, where they start a window of so many
frames. -/
structure InStep (windowFrames : ℕ) (first : AudioFrame) (frames : List AudioFrame) : Prop where
  /-- A frame that starts a complete window is within a nanosecond of its exact time. -/
  near : ∀ f ∈ frames, windowFrames ∣ f.first - first.first →
    f.first + windowFrames ≤ first.first + frameCount frames →
      WithinNanosecond f.time (exactTime first f.first)
  /-- Where a window lasts less than two nanoseconds, the time does not go back from the start of a
  complete window to the start of the next. -/
  ordered : windowFrames * 10^9 < 2 * first.sampleRate.hz.toNat →
    ∀ k, (k + 2) * windowFrames ≤ frameCount frames →
      pushedTime first frames (first.first + k * windowFrames)
        ≤ pushedTime first frames (first.first + (k + 1) * windowFrames)

/-- The frames of a run with the configuration are in step, in windows of the configured duration.
-/
def StaysInStep (config : WindowSchedulerConfig) (frames : List AudioFrame) : Prop :=
  ∀ first, frames.head? = some first → ∀ windowFrames,
    windowFrameCount config.targetWindowDuration first.sampleRate = .ok windowFrames →
      InStep windowFrames.get.toNat first frames

/-! ## Contiguous frames -/

section Frames

variable {fmt : StreamFormat} {P : FrameTimestamp → Prop} {due x : ℕ} {first f : AudioFrame}
  {frames : List AudioFrame}

/-- Contiguous frames start where the first of them is due, or later. -/
theorem FramesFrom.le_first (h : FramesFrom fmt P due frames) (hf : f ∈ frames) :
    due ≤ f.first := by
  induction frames generalizing due with
  | nil => cases hf
  | cons g gs ih =>
    rcases List.mem_cons.mp hf with rfl | hf
    · exact h.1.first.ge
    · have hle := ih h.2 hf
      omega

/-- Two contiguous frames are the same, or one ends before the other starts. -/
theorem FramesFrom.apart (h : FramesFrom fmt P due frames) {g : AudioFrame} (hf : f ∈ frames)
    (hg : g ∈ frames) :
    f = g ∨ f.first + f.count ≤ g.first ∨ g.first + g.count ≤ f.first := by
  induction frames generalizing due with
  | nil => cases hf
  | cons k ks ih =>
    have hk : k.first = due := h.1.first
    -- The frames after the first start behind its end.
    have hlater : ∀ l ∈ ks, k.first + k.count ≤ l.first := by
      intro l hl
      rw [hk]
      exact h.2.le_first hl
    rcases List.mem_cons.mp hf with hf | hf
    · rcases List.mem_cons.mp hg with hg | hg
      · exact .inl (hf.trans hg.symm)
      · rw [hf]
        exact .inr (.inl (hlater g hg))
    · rcases List.mem_cons.mp hg with hg | hg
      · rw [hg]
        exact .inr (.inr (hlater f hf))
      · exact ih h.2 hf hg

/-- Contiguous frames that start at the same index are the same. -/
theorem FramesFrom.eq_of_first (h : FramesFrom fmt P due frames) {g : AudioFrame} (hf : f ∈ frames)
    (hg : g ∈ frames) (heq : f.first = g.first) : f = g := by
  have hfpos := f.count_pos
  have hgpos := g.count_pos
  rcases h.apart hf hg with hsame | hbefore | hafter
  · exact hsame
  · omega
  · omega

/-- Where a frame starts, the pushed time is the time of that frame. -/
theorem FramesFrom.pushedTime_eq (h : FramesFrom fmt P due frames) (hf : f ∈ frames) :
    pushedTime first frames f.first = f.time := by
  unfold pushedTime
  cases hfind : frames.find? fun g => decide (g.first = f.first) with
  | none =>
    have hno := List.find?_eq_none.mp hfind f hf
    simp at hno
  | some g =>
    have hg : g.first = f.first := by simpa using List.find?_some hfind
    rw [h.eq_of_first (List.mem_of_find?_eq_some hfind) hf hg]

/-- Inside a frame, the pushed time is the exact one. -/
theorem FramesFrom.pushedTime_inside (h : FramesFrom fmt P due frames) (hf : f ∈ frames)
    (hlo : f.first < x) (hhi : x < f.first + f.count) :
    pushedTime first frames x = exactTime first x := by
  unfold pushedTime
  cases hfind : frames.find? fun g => decide (g.first = x) with
  | none => rfl
  | some g =>
    have hg : g.first = x := by simpa using List.find?_some hfind
    have hpos := g.count_pos
    rcases h.apart hf (List.mem_of_find?_eq_some hfind) with rfl | hbefore | hafter
    · omega
    · omega
    · omega

/-- The pushed time is that of a frame or the exact one. -/
theorem pushedTime_cases (first : AudioFrame) (frames : List AudioFrame) (x : ℕ) :
    (∃ f ∈ frames, f.first = x ∧ pushedTime first frames x = f.time) ∨
      pushedTime first frames x = exactTime first x := by
  unfold pushedTime
  cases hfind : frames.find? fun g => decide (g.first = x) with
  | none => exact .inr rfl
  | some f =>
    have hf : f.first = x := by simpa using List.find?_some hfind
    exact .inl ⟨f, List.mem_of_find?_eq_some hfind, hf, rfl⟩

end Frames

/-! ## The windows of a run -/

/-- The windows are the complete ones of the frames, and each starts at the pushed time of its first
frame. -/
structure WindowStarts (windowFrames : ℕ) (first : AudioFrame) (frames : List AudioFrame)
    (windows : List (ScheduledWindow ι)) : Prop where
  /-- Every complete window is there. -/
  number : ∀ k, k < windows.length ↔ (k + 1) * windowFrames ≤ frameCount frames
  /-- A window starts at its boundary. -/
  first_eq : ∀ k (hk : k < windows.length),
    windows[k].frame.first = first.first + k * windowFrames
  /-- A window starts at the pushed time. -/
  time_eq : ∀ k (hk : k < windows.length),
    windows[k].frame.time = pushedTime first frames (first.first + k * windowFrames)

variable {windowFrames : ℕ} {first : AudioFrame} {frames : List AudioFrame}
  {windows : List (ScheduledWindow ι)}

/-- Frames in step have their window starts within a nanosecond of the exact time. -/
theorem InStep.pushedTime_near (h : InStep windowFrames first frames) {k : ℕ}
    (hk : (k + 1) * windowFrames ≤ frameCount frames) :
    WithinNanosecond (pushedTime first frames (first.first + k * windowFrames))
      (exactTime first (first.first + k * windowFrames)) := by
  rcases pushedTime_cases first frames (first.first + k * windowFrames) with ⟨f, hf, hx, heq⟩ | heq
  · rw [heq, ← hx]
    refine h.near f hf ?_ ?_
    · rw [hx, Nat.add_sub_cancel_left]
      exact Nat.dvd_mul_left windowFrames k
    · rw [hx, Nat.add_assoc, ← Nat.succ_mul]
      exact Nat.add_le_add_left hk _
  · rw [heq]
    exact ⟨Nat.le_succ _, Nat.le_succ _⟩

/-- The exact time moves by two nanoseconds at least where a window lasts that long. -/
theorem exactTime_step (hlong : 2 * first.sampleRate.hz.toNat ≤ windowFrames * 10^9) (k : ℕ) :
    exactTime first (first.first + k * windowFrames) + 2
      ≤ exactTime first (first.first + (k + 1) * windowFrames) := by
  have hpos : 0 < first.sampleRate.hz.toNat := first.sampleRate.hz_pos
  have hsum : (k + 1) * windowFrames * 10^9 = k * windowFrames * 10^9 + windowFrames * 10^9 := by
    rw [Nat.succ_mul, Nat.add_mul]
  have hdiv : k * windowFrames * 10^9 / first.sampleRate.hz.toNat + 2
      ≤ (k + 1) * windowFrames * 10^9 / first.sampleRate.hz.toNat := by
    calc k * windowFrames * 10^9 / first.sampleRate.hz.toNat + 2
        = (k * windowFrames * 10^9 + 2 * first.sampleRate.hz.toNat)
            / first.sampleRate.hz.toNat := (Nat.add_mul_div_right _ _ hpos).symm
      _ ≤ (k + 1) * windowFrames * 10^9 / first.sampleRate.hz.toNat := by
          rw [hsum]
          exact Nat.div_le_div_right (Nat.add_le_add_left hlong _)
  unfold exactTime
  rw [Nat.add_sub_cancel_left, Nat.add_sub_cancel_left]
  omega

/-- Frames in step do not go back from one window start to the next. -/
theorem InStep.pushedTime_le (h : InStep windowFrames first frames) {k : ℕ}
    (hk : (k + 2) * windowFrames ≤ frameCount frames) :
    pushedTime first frames (first.first + k * windowFrames)
      ≤ pushedTime first frames (first.first + (k + 1) * windowFrames) := by
  by_cases hshort : windowFrames * 10^9 < 2 * first.sampleRate.hz.toNat
  · exact h.ordered hshort k hk
  · have hstep := exactTime_step (not_lt.mp hshort) k
    have hfits : (k + 1) * windowFrames ≤ frameCount frames :=
      le_trans (Nat.mul_le_mul_right _ (by omega)) hk
    obtain ⟨hle, -⟩ := h.pushedTime_near hfits
    obtain ⟨-, hge⟩ := h.pushedTime_near hk
    omega

/-- Windows that start at the pushed times are on time exactly where the frames are in step. -/
theorem WindowStarts.onTime_iff (h : WindowStarts windowFrames first frames windows)
    {fmt : StreamFormat} {P : FrameTimestamp → Prop} (hhead : frames.head? = some first)
    (hframes : FramesFrom fmt P first.first frames) :
    OnTime frames windows ↔ InStep windowFrames first frames := by
  constructor
  · rintro ⟨hordered, hnear⟩
    have hnear := hnear first hhead
    refine ⟨fun f hf hdvd hfits => ?_, fun _ k hk => ?_⟩
    · -- the frame starts window `k`
      obtain ⟨k, hk⟩ := hdvd
      have hle := hframes.le_first hf
      have hfirst : f.first = first.first + k * windowFrames := by
        rw [Nat.mul_comm k]
        omega
      have hlt : k < windows.length := by
        rw [h.number, Nat.succ_mul]
        omega
      have hwindow := hnear windows[k] (List.getElem_mem hlt)
      rw [h.time_eq k hlt, h.first_eq k hlt, ← hfirst, hframes.pushedTime_eq hf] at hwindow
      exact hwindow
    · -- The boundaries of two windows in a row.
      have hnext : k + 1 < windows.length := (h.number (k + 1)).mpr hk
      have hlt : k < windows.length := by omega
      have hle := List.pairwise_iff_getElem.mp hordered k (k + 1) hlt hnext (Nat.lt_succ_self k)
      rw [h.time_eq k hlt, h.time_eq (k + 1) hnext] at hle
      exact hle
  · intro hstep
    refine ⟨List.pairwise_iff_getElem.mpr fun j k hj hk hjk => ?_, fun first' hfirst' w hw => ?_⟩
    · -- one window after another
      rw [h.time_eq j hj, h.time_eq k hk]
      induction k, hjk using Nat.le_induction with
      | base => exact hstep.pushedTime_le ((h.number (j + 1)).mp hk)
      | succ k hjk ih =>
        have hlt : k < windows.length := by omega
        have hle := hstep.pushedTime_le ((h.number (k + 1)).mp hk)
        exact le_trans (ih hlt) hle
    · -- Every window starts at its boundary.
      obtain rfl : first = first' := Option.some.inj (hhead.symm.trans hfirst')
      obtain ⟨k, hk, rfl⟩ := List.getElem_of_mem hw
      rw [h.time_eq k hk, h.first_eq k hk]
      exact hstep.pushedTime_near ((h.number k).mp hk)

/-- A tiling of so many windows from the first frame on, with what is left over, has every complete
window, and each starts at the pushed time. -/
theorem windowStarts_of_tiled {fmt : StreamFormat} {identity : ι} {m : ℕ}
    (htiled : WindowsFrom fmt identity
      (fun ts => ts.streamTimeNs.toNat = pushedTime first frames ts.frameIndex.toNat)
      first.first windows) (hlt : m < fmt.frames)
    (hnumber : windows.length * fmt.frames + m = frameCount frames) :
    WindowStarts fmt.frames first frames windows where
  number k := by
    constructor
    · intro hk
      have hle : (k + 1) * fmt.frames ≤ windows.length * fmt.frames :=
        Nat.mul_le_mul_right _ hk
      omega
    · -- A window that the frames complete is emitted, for fewer frames than a window are left.
      intro hfits
      have hlt : (k + 1) * fmt.frames < (windows.length + 1) * fmt.frames := by
        rw [Nat.succ_mul windows.length]
        omega
      have hk := Nat.lt_of_mul_lt_mul_right hlt
      omega
  first_eq k hk := (htiled.getElem k hk).first
  time_eq k hk := by
    have hat := htiled.getElem k hk
    have hstart := hat.start
    have hfirst : windows[k].frame.window.start.frameIndex.toNat = first.first + k * fmt.frames :=
      hat.first
    rw [hfirst] at hstart
    exact hstart

/-! ## A run is one pass -/

variable [DecidableEq ι] {config : WindowSchedulerConfig} {identity : ι} {s s' : WindowScheduler ι}
  {calls : List (Call ι)}

/-- On a stream, a run of successful calls under its identity is one pass of each loop over all the
frames. -/
theorem OnStream.run {fmt : StreamFormat} (h : OnStream fmt identity s)
    (hrun : pushes.Run s calls s') (hcalls : ∀ c ∈ calls, c.identity = identity ∧ c.Succeeds) :
    validateFrames fmt.sampleRate fmt.channels s.expectedNext (pushed calls) = .ok s'.expectedNext ∧
      ∃ t, emitFrames fmt identity (pushed calls) s [] = some (.ok (emitted calls), t) := by
  induction calls generalizing s with
  | nil =>
    cases hrun
    exact ⟨rfl, _, rfl⟩
  | cons c cs ih =>
    obtain ⟨t, hstep, hrest⟩ := hrun
    obtain ⟨⟨hidentity, r, hok⟩, hcs⟩ := List.forall_mem_cons.mp hcalls
    have hwindows : c.windows = r.windows := Call.windows_of_ok hok
    have hpush := pushes_step.mp hstep
    rw [hidentity, hok] at hpush
    rw [pushed_cons, emitted_cons, hwindows]
    cases hframes : c.frames with
    | nil =>
      -- an empty batch is no push at all
      rw [hframes] at hpush
      cases hpush
      exact ih h hrest hcs
    | cons first rest =>
      rw [hframes] at hpush
      obtain ⟨fmt', hopens, -, due, t₁, hvalidated, hemit, rfl⟩ := pushBatch_iff.mp hpush
      obtain ⟨rfl, -⟩ := h.opens_iff.mp hopens
      obtain ⟨hon, -⟩ := hopens.onStream hemit due
      obtain ⟨hvalidatedRest, t₂, hemitRest⟩ := ih hon hrest hcs
      rw [h.due] at hvalidated
      rw [h.entered] at hemit
      refine ⟨validateFrames_append.mpr ⟨due, hvalidated, hvalidatedRest⟩,
        t₂.withDue t₁.expectedNext, ?_⟩
      exact emitFrames_append.mpr ⟨r.windows, t₁, hemit,
        (emitFrames_resume due).mpr ⟨emitted cs, t₂, hemitRest, rfl, rfl⟩⟩

/-- A run of successful calls from a fresh scheduler pushes nothing, or is one pass of each loop
that the first frame opens. -/
theorem run_of_new (hrun : pushes.Run (new config) calls s')
    (hcalls : ∀ c ∈ calls, c.identity = identity ∧ c.Succeeds) :
    pushed calls = [] ∧ emitted calls = [] ∨
      ∃ fmt first rest due t, pushed calls = first :: rest ∧ fmt.sampleRate = first.sampleRate ∧
        windowFrameCount config.targetWindowDuration first.sampleRate = .ok fmt.windowFrames ∧
        validateFrames fmt.sampleRate fmt.channels none (pushed calls) = .ok due ∧
        emitFrames fmt identity (pushed calls) ((new config).entered identity first fmt) []
          = some (.ok (emitted calls), t) := by
  induction calls with
  | nil => exact .inl ⟨rfl, rfl⟩
  | cons c cs ih =>
    obtain ⟨t, hstep, hrest⟩ := hrun
    obtain ⟨⟨hidentity, r, hok⟩, hcs⟩ := List.forall_mem_cons.mp hcalls
    have hwindows : c.windows = r.windows := Call.windows_of_ok hok
    have hpush := pushes_step.mp hstep
    rw [hidentity, hok] at hpush
    rw [pushed_cons, emitted_cons, hwindows]
    cases hframes : c.frames with
    | nil =>
      rw [hframes] at hpush
      -- An empty batch leaves the fresh scheduler as it is.
      cases hpush
      exact ih hrest hcs
    | cons first rest =>
      rw [hframes] at hpush
      -- The first frame opens the stream, and all later batches are on it.
      obtain ⟨fmt, hopens, -, due, t₁, hvalidated, hemit, rfl⟩ := pushBatch_iff.mp hpush
      obtain ⟨hon, -⟩ := hopens.onStream hemit due
      obtain ⟨hvalidatedRest, t₂, hemitRest⟩ := hon.run hrest hcs
      have hdue : (new config).due identity = none := rfl
      rw [hdue] at hvalidated
      refine .inr ⟨fmt, first, rest ++ pushed cs, s'.expectedNext, t₂.withDue t₁.expectedNext, rfl,
        hopens.sampleRate, hopens.windowFrames, ?_, ?_⟩
      · exact validateFrames_append.mpr ⟨due, hvalidated, hvalidatedRest⟩
      · exact emitFrames_append.mpr ⟨r.windows, t₁, hemit,
          (emitFrames_resume due).mpr ⟨emitted cs, t₂, hemitRest, rfl, rfl⟩⟩

/-- The windows of a run of successful calls from a fresh scheduler are the complete ones of its
frames, and each starts at the pushed time. -/
theorem windowStarts_of_run (hrun : pushes.Run (new config) calls s')
    (hcalls : ∀ c ∈ calls, c.identity = identity ∧ c.Succeeds) :
    pushed calls = [] ∧ emitted calls = [] ∨
      ∃ fmt first, (pushed calls).head? = some first ∧
        windowFrameCount config.targetWindowDuration first.sampleRate = .ok fmt.windowFrames ∧
        FramesFrom fmt (fun _ => True) first.first (pushed calls) ∧
        WindowStarts fmt.frames first (pushed calls) (emitted calls) := by
  rcases run_of_new hrun hcalls with hnothing | ⟨fmt, first, rest, due, t, hpushed, hrate, hwindow,
    hvalidated, hemit⟩
  · exact .inl hnothing
  rw [hpushed] at hvalidated hemit ⊢
  generalize hall : first :: rest = frames at hvalidated hemit ⊢
  have hmem : first ∈ frames := by
    rw [← hall]
    exact List.mem_cons_self
  have hhead : frames.head? = some first := by
    rw [← hall]
    rfl
  -- the frames are contiguous, and each starts at its own time
  have hcontiguous {P : FrameTimestamp → Prop} (hP : ∀ f ∈ frames, P f.window.start) :=
    validateFrames_framesFrom first.first hvalidated hP nofun
      fun _ f hf => by rw [Option.some.inj (hhead.symm.trans hf)]
  obtain ⟨hframes, hend⟩ := hcontiguous (P := fun _ => True) fun _ _ => trivial
  obtain ⟨hstarts, -⟩ := hcontiguous (P := fun ts =>
    ts.streamTimeNs.toNat = pushedTime first frames ts.frameIndex.toNat)
    fun f hf => (hframes.pushedTime_eq hf).symm
  have hfits : first.first + 0 + frameCount frames < 2^64 := by
    obtain ⟨ts, hts⟩ := Option.isSome_iff_exists.mp
      (validateFrames_isSome hvalidated (.inl (List.ne_nil_of_mem hmem)))
    rw [Nat.add_zero, ← hend ts hts]
    exact ts.frameIndex.toNat_lt
  -- inside a frame the loop computes the exact time
  have hcomputed : ∀ f ∈ frames, ∀ i next, f.first < i.toNat → i.toNat < f.first + f.count →
      timestampForFrameIndex first.window.start i fmt.sampleRate = .ok next →
        next.streamTimeNs.toNat = pushedTime first frames next.frameIndex.toNat := by
    intro f hf i next hlo hhi hnext
    have hle := hframes.le_first hf
    obtain ⟨-, hindex, htime⟩ := (timestampForFrameIndex_eq_ok (by
      show first.first ≤ i.toNat
      omega)).mp hnext
    rw [htime, hindex, hframes.pushedTime_inside hf hlo hhi, hrate]
    rfl
  have hretained : Retained fmt first.window.start
      (fun ts => ts.streamTimeNs.toNat = pushedTime first frames ts.frameIndex.toNat)
      first.first 0 ((new config).entered identity first fmt) :=
    ⟨rfl, by simp [entered, switchStream, clearStreamState, new], by
      simp [entered, switchStream, clearStreamState, new], nofun, Nat.le_refl _, by
      show fmt.frames ∣ first.first - first.first
      rw [Nat.sub_self]
      exact Nat.dvd_zero _⟩
  have hspec := emitFrames_spec identity hcomputed [] hretained fmt.frames_pos hstarts hfits
  rw [hemit] at hspec
  cases hspec with
  | emitted ws m' s' same fits tiled lossless lt number retained =>
    rw [Nat.zero_add] at number
    exact .inr ⟨fmt, first, hhead, hwindow, hframes, windowStarts_of_tiled tiled lt number⟩

/-- The windows of a run of successful calls under one identity, from a fresh scheduler, do not go
back in time and stay within a nanosecond of the timeline that the first frame starts, exactly where
the frames that start a window do. -/
theorem windows_onTime_iff (hrun : pushes.Run (new config) calls s')
    (hcalls : ∀ c ∈ calls, c.identity = identity ∧ c.Succeeds) :
    OnTime (pushed calls) (emitted calls) ↔ StaysInStep config (pushed calls) := by
  rcases windowStarts_of_run hrun hcalls with ⟨hpushed, hemitted⟩ | ⟨fmt, first, hhead, hwindow,
    hframes, hstarts⟩
  · rw [hpushed, hemitted]
    exact iff_of_true ⟨List.Pairwise.nil, nofun⟩ nofun
  · rw [hstarts.onTime_iff hhead hframes]
    constructor
    · intro hstep first' hfirst' windowFrames hwindow'
      obtain rfl : first = first' := Option.some.inj (hhead.symm.trans hfirst')
      obtain rfl : fmt.windowFrames = windowFrames := Except.ok.inj (hwindow.symm.trans hwindow')
      exact hstep
    · intro hstays
      exact hstays first hhead fmt.windowFrames hwindow

/-- Five batches of a stream whose clock runs a nanosecond fast on each, as the tolerance allows,
and the frame that completes the last window. -/
def fastClockBatches : List (ℕ × List AudioFrame) :=
  [(0, [silenceAt 0 0 oneFrame]), (0, [silenceAt 1 2 oneFrame]), (0, [silenceAt 2 4 oneFrame]),
    (0, [silenceAt 3 6 oneFrame]), (0, [silenceAt 4 8 threeFrames]), (0, [silenceAt 7 11 oneFrame])]

/-- The run that pushes these batches, and the state that it leaves. -/
def fastClockRun : List (Call ℕ) × WindowScheduler ℕ :=
  ((new twoNanoseconds).play fastClockBatches).getD ([], new twoNanoseconds)

example : (emitted fastClockRun.1).map (fun w => (w.frame.first, w.frame.time))
    = [(0, 0), (2, 4), (4, 8), (6, 6)] := by
  decide +kernel

/-- It is a run of successful calls. -/
theorem run_fastClockRun : pushes.Run (new twoNanoseconds) fastClockRun.1 fastClockRun.2 ∧
    ∀ c ∈ fastClockRun.1, c.identity = 0 ∧ c.Succeeds := by
  have hplay : (new twoNanoseconds).play fastClockBatches = some fastClockRun := by decide +kernel
  exact ⟨run_of_play fastClockBatches hplay, by decide +kernel⟩

/-- The theorem at that run. -/
theorem windows_onTime_iff_example :
    OnTime (pushed fastClockRun.1) (emitted fastClockRun.1) ↔
      StaysInStep twoNanoseconds (pushed fastClockRun.1) :=
  windows_onTime_iff run_fastClockRun.1 run_fastClockRun.2

/-- Not every run of successful calls has its windows on time: in the run above the third window is
four nanoseconds late, and the fourth goes back to the exact time. -/
theorem fast_clock_drifts :
    ¬∀ (config : WindowSchedulerConfig) (identity : ℕ) (calls : List (Call ℕ))
      (s' : WindowScheduler ℕ), pushes.Run (new config) calls s' →
        (∀ c ∈ calls, c.identity = identity ∧ c.Succeeds) →
          OnTime (pushed calls) (emitted calls) := by
  intro h
  obtain ⟨hordered, -⟩ := h twoNanoseconds 0 _ _ run_fastClockRun.1 run_fastClockRun.2
  have hback : ¬(emitted fastClockRun.1).Pairwise (fun w w' => w.frame.time ≤ w'.frame.time) := by
    decide +kernel
  exact hback hordered

end WindowScheduler

end ResonanceSignal
