import Mathlib.Algebra.Order.Ring.Nat
import ResonanceSignal.Core.Scheduling

/-!
# What the emission loop does

The second phase of `push_batch` appends each frame to the retained samples and cuts the windows
that the samples complete. The state of that loop is described by where the retained samples start
and how many frames they make up (`Retained`), and its output by a list of windows that tile the
timeline (`WindowsFrom`).

The loop computes a timestamp at every window boundary that falls strictly inside the samples it
holds, and fails where that timestamp does not fit (`BoundariesFit`). `cutWindows_spec` is the inner
loop, and `emitFrames_spec` the outer one: each either cuts every complete window, losing no sample
and keeping less than a window, or meets a boundary that does not fit.

A window's start either is the start of a pushed frame or comes from `timestamp_for_frame_index`.
The predicate `P` on timestamps, which the frames' starts and the computed timestamps are required
to satisfy, carries over to the windows' starts.
-/

namespace ResonanceSignal

/-- A window holds at least one sample. -/
theorem StreamFormat.samplesPerWindow_pos (fmt : StreamFormat) : 0 < fmt.samplesPerWindow :=
  Nat.mul_pos fmt.windowFrames.get_pos fmt.channels.channels_pos

/-- A window holds at least one frame. -/
theorem StreamFormat.frames_pos (fmt : StreamFormat) : 0 < fmt.frames := fmt.windowFrames.get_pos

namespace WindowScheduler

variable {ι : Type}

/-- The samples of a list of windows, in order. -/
def windowSamples (windows : List (ScheduledWindow ι)) : List Sample :=
  windows.flatMap fun window => window.frame.samples

/-- The samples of a list of frames, in order. -/
def frameSamples (frames : List AudioFrame) : List Sample :=
  frames.flatMap fun frame => frame.samples

/-- The samples of two lists of windows. -/
@[simp]
theorem windowSamples_append (ws ws' : List (ScheduledWindow ι)) :
    windowSamples (ws ++ ws') = windowSamples ws ++ windowSamples ws' := by
  simp [windowSamples]

/-- The window that the loop cuts where `base` is the first retained frame. -/
structure WindowAt (fmt : StreamFormat) (identity : ι) (P : FrameTimestamp → Prop) (base : ℕ)
    (window : ScheduledWindow ι) : Prop where
  /-- The window carries the pushed identity. -/
  streamIdentity : window.streamIdentity = identity
  /-- The window starts at the first retained frame. -/
  first : window.frame.first = base
  /-- The window has the configured number of frames. -/
  count : window.frame.count = fmt.frames
  /-- The window has the stream's sample rate. -/
  sampleRate : window.frame.sampleRate = fmt.sampleRate
  /-- The window has the stream's channel layout. -/
  channels : window.frame.channels = fmt.channels
  /-- The window's start satisfies the predicate on timestamps. -/
  start : P window.frame.window.start

/-- The windows tile the timeline from frame `base` on. -/
def WindowsFrom (fmt : StreamFormat) (identity : ι) (P : FrameTimestamp → Prop) :
    ℕ → List (ScheduledWindow ι) → Prop
  | _, [] => True
  | base, window :: windows =>
    WindowAt fmt identity P base window ∧ WindowsFrom fmt identity P (base + fmt.frames) windows

/-- Tilings compose where the second starts at the end of the first. -/
theorem WindowsFrom.append {fmt : StreamFormat} {identity : ι} {P : FrameTimestamp → Prop}
    {base : ℕ} {ws ws' : List (ScheduledWindow ι)} (h : WindowsFrom fmt identity P base ws)
    (h' : WindowsFrom fmt identity P (base + ws.length * fmt.frames) ws') :
    WindowsFrom fmt identity P base (ws ++ ws') := by
  induction ws generalizing base with
  | nil => simpa using h'
  | cons w ws ih =>
    refine ⟨h.1, ih h.2 ?_⟩
    have hlen : base + fmt.frames + ws.length * fmt.frames
        = base + (w :: ws).length * fmt.frames := by
      rw [List.length_cons, Nat.succ_mul]
      omega
    rw [hlen]
    exact h'

/-- The `k`-th window of a tiling starts `k` windows after the first. -/
theorem WindowsFrom.getElem {fmt : StreamFormat} {identity : ι} {P : FrameTimestamp → Prop}
    {base : ℕ} {ws : List (ScheduledWindow ι)} (h : WindowsFrom fmt identity P base ws)
    (k : ℕ) (hk : k < ws.length) : WindowAt fmt identity P (base + k * fmt.frames) ws[k] := by
  induction ws generalizing base k with
  | nil => cases hk
  | cons w ws ih =>
    cases k with
    | zero => simpa using h.1
    | succ k =>
      have hstart : base + (k + 1) * fmt.frames = base + fmt.frames + k * fmt.frames := by
        rw [Nat.succ_mul]
        omega
      rw [hstart]
      exact ih h.2 k (by simpa using hk)

/-! ## The boundaries whose timestamps the loop computes -/

/-- Every window boundary strictly between the two frame indices has a timestamp that fits. The
boundaries are the multiples of the window size from the timeline's origin. -/
def BoundariesFit (fmt : StreamFormat) (origin : FrameTimestamp) (lo hi : ℕ) : Prop :=
  ∀ x, lo < x → x < hi → fmt.frames ∣ x - origin.frameIndex.toNat →
    TimestampFits origin fmt.sampleRate x

/-- No boundary lies strictly inside one window. -/
theorem boundariesFit_window {fmt : StreamFormat} {origin : FrameTimestamp} {base hi : ℕ}
    (hle : origin.frameIndex.toNat ≤ base) (hdvd : fmt.frames ∣ base - origin.frameIndex.toNat)
    (hhi : hi ≤ base + fmt.frames) : BoundariesFit fmt origin base hi := by
  intro x hlo hx hxdvd
  have hsub : fmt.frames ∣ x - base := by
    have := (Nat.dvd_sub hxdvd hdvd)
    rwa [show x - origin.frameIndex.toNat - (base - origin.frameIndex.toNat) = x - base by omega]
      at this
  have := Nat.le_of_dvd (by omega) hsub
  omega

/-- Past a boundary, the boundaries that have to fit are this one and the later ones. -/
theorem boundariesFit_step {fmt : StreamFormat} {origin : FrameTimestamp} {base hi : ℕ}
    (hle : origin.frameIndex.toNat ≤ base) (hdvd : fmt.frames ∣ base - origin.frameIndex.toNat)
    (hhi : base + fmt.frames < hi) :
    BoundariesFit fmt origin base hi ↔
      TimestampFits origin fmt.sampleRate (base + fmt.frames) ∧
        BoundariesFit fmt origin (base + fmt.frames) hi := by
  have hpos := fmt.frames_pos
  constructor
  · intro h
    refine ⟨h _ (by omega) hhi ?_, fun x hlo hx hxdvd => h x (by omega) hx hxdvd⟩
    rw [show base + fmt.frames - origin.frameIndex.toNat
      = base - origin.frameIndex.toNat + fmt.frames by omega]
    exact Nat.dvd_add hdvd (Nat.dvd_refl _)
  · rintro ⟨hfit, h⟩ x hlo hx hxdvd
    rcases lt_trichotomy x (base + fmt.frames) with hlt | rfl | hgt
    · exact boundariesFit_window hle hdvd le_rfl x hlo hlt hxdvd
    · exact hfit
    · exact h x hgt hx hxdvd

/-- The boundaries inside the retained samples are those inside the last frame pushed, because less
than a window was retained before it. -/
theorem boundariesFit_frame {fmt : StreamFormat} {origin : FrameTimestamp} {base lo hi : ℕ}
    (hle : origin.frameIndex.toNat ≤ base) (hdvd : fmt.frames ∣ base - origin.frameIndex.toNat)
    (hlo : base ≤ lo) (hlt : lo < base + fmt.frames) :
    BoundariesFit fmt origin base hi ↔ BoundariesFit fmt origin lo hi := by
  constructor
  · intro h x hx
    exact h x (by omega)
  · intro h x hx hxhi hxdvd
    by_cases hxlo : lo < x
    · exact h x hxlo hxhi hxdvd
    · exact boundariesFit_window hle hdvd le_rfl x hx (by omega) hxdvd

/-- Where a frame index fits, so does every earlier one. -/
theorem timestampFits_mono {origin : FrameTimestamp} {sampleRate : SampleRate} {x y : ℕ}
    (hle : x ≤ y) (hy : TimestampFits origin sampleRate y) : TimestampFits origin sampleRate x := by
  have hmul : (x - origin.frameIndex.toNat) * 10^9 ≤ (y - origin.frameIndex.toNat) * 10^9 :=
    Nat.mul_le_mul_right _ (by omega)
  have hdiv := Nat.div_le_div_right (c := sampleRate.hz.toNat) hmul
  exact ⟨lt_of_le_of_lt hmul hy.1, lt_of_le_of_lt (Nat.add_le_add_left hdiv _) hy.2⟩

/-- Where the end fits, so does every boundary before it. -/
theorem boundariesFit_of_end {fmt : StreamFormat} {origin : FrameTimestamp} {lo hi : ℕ}
    (h : TimestampFits origin fmt.sampleRate hi) : BoundariesFit fmt origin lo hi :=
  fun _ _ hx _ => timestampFits_mono hx.le h

/-! ## The state of the loop -/

/-- The emission loop changes the retained samples and their start, and nothing else. -/
def SameStream (s s' : WindowScheduler ι) : Prop :=
  s' = { s with samples := s'.samples, bufferStart := s'.bufferStart }

/-- The retained samples are the `m` frames from `base` on, on the timeline of `origin`. -/
structure Retained (fmt : StreamFormat) (origin : FrameTimestamp) (P : FrameTimestamp → Prop)
    (base m : ℕ) (s : WindowScheduler ι) : Prop where
  /-- The timeline has its origin. -/
  timelineOrigin : s.timelineOrigin = some origin
  /-- The retained samples are whole frames. -/
  length : s.samples.length = m * fmt.channels.channels
  /-- The retained samples are finite. -/
  finite : ∀ x ∈ s.samples, x.isFinite
  /-- Where samples are retained, their start is known. -/
  bufferStart : 0 < m → ∃ ts, s.bufferStart = some ts ∧ ts.frameIndex.toNat = base ∧ P ts
  /-- The retained samples start at or after the origin, -/
  origin_le : origin.frameIndex.toNat ≤ base
  /-- at a window boundary. -/
  dvd : fmt.frames ∣ base - origin.frameIndex.toNat

/-- The samples are empty exactly when no frame is retained. -/
theorem Retained.samples_eq_nil {fmt : StreamFormat} {origin : FrameTimestamp}
    {P : FrameTimestamp → Prop} {base m : ℕ} {s : WindowScheduler ι}
    (h : Retained fmt origin P base m s) : s.samples = [] ↔ m = 0 := by
  have hc := fmt.channels.channels_pos
  rw [← List.length_eq_zero_iff, h.length, Nat.mul_eq_zero]
  omega

/-- There are at least as many samples as frames. -/
theorem Retained.le_length {fmt : StreamFormat} {origin : FrameTimestamp}
    {P : FrameTimestamp → Prop} {base m : ℕ} {s : WindowScheduler ι}
    (h : Retained fmt origin P base m s) : m ≤ s.samples.length := by
  rw [h.length]
  exact Nat.le_mul_of_pos_right _ fmt.channels.channels_pos

section Loop

variable {fmt : StreamFormat} {identity : ι} {origin : FrameTimestamp} {P : FrameTimestamp → Prop}
  {base m : ℕ} {s : WindowScheduler ι}

/-- How a loop that retains the `m` frames from `base` on ends: it has cut every complete window, or
it has met a boundary whose timestamp does not fit. -/
inductive CutOutcome (fmt : StreamFormat) (identity : ι) (origin : FrameTimestamp)
    (P : FrameTimestamp → Prop) (base m : ℕ) (s : WindowScheduler ι)
    (windows : List (ScheduledWindow ι)) :
    Option (Except SchedulingError (List (ScheduledWindow ι)) × WindowScheduler ι) → Prop
  /-- Every complete window is cut, and the rest is retained. -/
  | cut (ws : List (ScheduledWindow ι)) (m' : ℕ) (s' : WindowScheduler ι)
      (same : SameStream s s') (fits : BoundariesFit fmt origin base (base + m))
      (tiled : WindowsFrom fmt identity P base ws)
      (lossless : windowSamples ws ++ s'.samples = s.samples) (lt : m' < fmt.frames)
      (number : ws.length * fmt.frames + m' = m)
      (retained : Retained fmt origin P (base + ws.length * fmt.frames) m' s') :
      CutOutcome fmt identity origin P base m s windows (some (.ok (windows ++ ws), s'))
  /-- A timestamp does not fit. -/
  | overflow (s' : WindowScheduler ι) (same : SameStream s s')
      (misfit : ¬BoundariesFit fmt origin base (base + m)) :
      CutOutcome fmt identity origin P base m s windows (some (.error .timestampOverflow, s'))

/-- A loop that retains less than a window cuts none. -/
theorem cutOutcome_done (windows : List (ScheduledWindow ι)) (hR : Retained fmt origin P base m s)
    (hm : m < fmt.frames) :
    CutOutcome fmt identity origin P base m s windows (some (.ok windows, s)) := by
  have hfits := boundariesFit_window hR.origin_le hR.dvd (by omega : base + m ≤ base + fmt.frames)
  have hcut : CutOutcome fmt identity origin P base m s windows (some (.ok (windows ++ []), s)) :=
    .cut [] m s rfl hfits trivial rfl hm (by simp) (by simpa using hR)
  simpa using hcut

/-- A loop that retains a window finds its start, and the window's samples make a frame. -/
theorem exists_frontWindow (identity : ι) (hR : Retained fmt origin P base m s)
    (hm : fmt.frames ≤ m) :
    ∃ ts frame, s.bufferStart = some ts ∧ ts.frameIndex.toNat = base ∧
      AudioFrame.new ts fmt.sampleRate fmt.channels (s.samples.take fmt.samplesPerWindow)
        = .ok frame ∧
      frame.samples = s.samples.take fmt.samplesPerWindow ∧
      WindowAt fmt identity P base ⟨identity, frame⟩ := by
  have hpos := fmt.frames_pos
  obtain ⟨ts, hts, hbase, hP⟩ := hR.bufferStart (by omega)
  have hlen : (s.samples.take fmt.samplesPerWindow).length
      = fmt.windowFrames.get.toNat * fmt.channels.channels := by
    rw [List.length_take, hR.length]
    exact Nat.min_eq_left (Nat.mul_le_mul_right _ hm)
  refine ⟨ts, _, hts, hbase, AudioFrame.new_eq_ok ts fmt.sampleRate fmt.channels _
    fmt.windowFrames.get fmt.windowFrames.get_pos hlen
    fun x hx => hR.finite x (List.mem_of_mem_take hx), rfl, ?_⟩
  exact ⟨rfl, hbase, rfl, rfl, rfl, hP⟩

/-- Once its first window is cut and the start of the rest is known, the loop retains the frames
after that window. -/
theorem Retained.drop (hR : Retained fmt origin P base m s) (hm : fmt.frames ≤ m)
    {start : Option FrameTimestamp}
    (hstart : fmt.frames < m → ∃ ts, start = some ts ∧
      ts.frameIndex.toNat = base + fmt.frames ∧ P ts) :
    Retained fmt origin P (base + fmt.frames) (m - fmt.frames)
      { s with samples := s.samples.drop fmt.samplesPerWindow, bufferStart := start } where
  timelineOrigin := hR.timelineOrigin
  length := by
    rw [List.length_drop, hR.length, StreamFormat.samplesPerWindow, Nat.sub_mul]
  finite x hx := hR.finite x (List.mem_of_mem_drop hx)
  bufferStart h := hstart (by omega)
  origin_le := by
    have := hR.origin_le
    omega
  dvd := by
    rw [Nat.sub_add_comm hR.origin_le]
    exact Nat.dvd_add hR.dvd (Nat.dvd_refl _)

/-- The outcome of a loop after its first window is the outcome of the whole loop. -/
theorem cutOutcome_window {start : Option FrameTimestamp} {window : ScheduledWindow ι}
    {windows : List (ScheduledWindow ι)}
    {r : Option (Except SchedulingError (List (ScheduledWindow ι)) × WindowScheduler ι)}
    (hm : fmt.frames ≤ m) (hw : WindowAt fmt identity P base window)
    (hsamples : window.frame.samples = s.samples.take fmt.samplesPerWindow)
    (hfits : BoundariesFit fmt origin base (base + m) ↔
      BoundariesFit fmt origin (base + fmt.frames) (base + m))
    (h : CutOutcome fmt identity origin P (base + fmt.frames) (m - fmt.frames)
      { s with samples := s.samples.drop fmt.samplesPerWindow, bufferStart := start }
      (windows ++ [window]) r) :
    CutOutcome fmt identity origin P base m s windows r := by
  have hpos := fmt.frames_pos
  have hend : base + fmt.frames + (m - fmt.frames) = base + m := by omega
  cases h with
  | cut ws m' s' same fits tiled lossless lt number retained =>
    rw [List.append_assoc, List.singleton_append]
    rw [hend] at fits
    refine .cut (window :: ws) m' s' same (hfits.mpr fits) ⟨hw, tiled⟩ ?_ lt ?_ ?_
    · calc windowSamples (window :: ws) ++ s'.samples
          = window.frame.samples ++ (windowSamples ws ++ s'.samples) := by simp [windowSamples]
        _ = s.samples.take fmt.samplesPerWindow ++ s.samples.drop fmt.samplesPerWindow := by
            rw [lossless, hsamples]
        _ = s.samples := List.take_append_drop _ _
    · rw [List.length_cons, Nat.succ_mul]
      omega
    · have hbase : base + (window :: ws).length * fmt.frames
          = base + fmt.frames + ws.length * fmt.frames := by
        rw [List.length_cons, Nat.succ_mul]
        omega
      rw [hbase]
      exact retained
  | overflow s' same misfit =>
    rw [hend] at misfit
    exact .overflow s' same fun hfit => misfit (hfits.mp hfit)

/-- The inner loop cuts every complete window where the boundaries that it meets fit, and fails
otherwise. It never fails to find a start or to make a frame. -/
theorem cutWindows_spec (identity : ι)
    (hP : ∀ i next, base + fmt.frames ≤ i.toNat → i.toNat < base + m →
      timestampForFrameIndex origin i fmt.sampleRate = .ok next → P next)
    {fuel : ℕ} (windows : List (ScheduledWindow ι)) (hR : Retained fmt origin P base m s)
    (hfuel : m ≤ fuel) (hend : base + m < 2^64) :
    CutOutcome fmt identity origin P base m s windows
      (cutWindows fmt identity fuel s windows) := by
  have hpos := fmt.frames_pos
  induction fuel generalizing s base m windows with
  | zero =>
    obtain rfl : m = 0 := by omega
    exact cutOutcome_done windows hR hpos
  | succ fuel ih =>
    unfold cutWindows
    have hguard : fmt.samplesPerWindow ≤ s.samples.length ↔ fmt.frames ≤ m := by
      rw [hR.length, StreamFormat.samplesPerWindow,
        Nat.mul_le_mul_right_iff fmt.channels.channels_pos]
    by_cases hm : fmt.frames ≤ m
    · rw [if_pos (hguard.mpr hm)]
      obtain ⟨ts, frame, hts, hbase, hnew, hsamples, hw⟩ := exists_frontWindow identity hR hm
      have hdrained : s.samples.drop fmt.samplesPerWindow = [] ↔ m ≤ fmt.frames := by
        rw [List.drop_eq_nil_iff, hR.length, StreamFormat.samplesPerWindow,
          Nat.mul_le_mul_right_iff fmt.channels.channels_pos]
      simp only [hts, hnew, hdrained]
      by_cases hlast : m ≤ fmt.frames
      · -- The buffer is empty after this window, and no boundary is left.
        rw [if_pos hlast]
        have hfits : BoundariesFit fmt origin base (base + m) ↔
            BoundariesFit fmt origin (base + fmt.frames) (base + m) :=
          iff_of_true (boundariesFit_window hR.origin_le hR.dvd (by omega))
            fun x hlo hhi => by omega
        exact cutOutcome_window hm hw hsamples hfits
          (ih (fun _ _ _ _ => by omega) _ (hR.drop hm fun h => by omega) (by omega) (by omega))
      · rw [if_neg hlast]
        have hstep := boundariesFit_step hR.origin_le hR.dvd
          (by omega : base + fmt.frames < base + m)
        have hle : origin.frameIndex.toNat ≤ base := hR.origin_le
        have hframes : fmt.windowFrames.get.toUInt64.toNat = fmt.frames := UInt32.toNat_toUInt64 _
        obtain ⟨nextIndex, hadd, hindex⟩ : ∃ i, Checked.add ts.frameIndex
            fmt.windowFrames.get.toUInt64 = some i ∧
              i.toNat = ts.frameIndex.toNat + fmt.windowFrames.get.toUInt64.toNat :=
          Checked.exists_add (by omega)
        rw [hbase, hframes] at hindex
        simp only [hadd, hR.timelineOrigin]
        cases hnext : timestampForFrameIndex origin nextIndex fmt.sampleRate with
        | error e =>
          -- The boundary after this window does not fit.
          obtain rfl := timestampForFrameIndex_error hnext
          dsimp only
          rw [← hR.timelineOrigin]
          refine .overflow _ rfl fun hfit => ?_
          have hfits := (hstep.mp hfit).1
          rw [← hindex] at hfits
          obtain ⟨next, hok⟩ := (exists_timestampForFrameIndex (by omega)).mpr hfits
          rw [hnext] at hok
          cases hok
        | ok next =>
          obtain ⟨hfit, hidx, -⟩ := (timestampForFrameIndex_eq_ok (by omega)).mp hnext
          rw [hindex] at hfit
          have hfits : BoundariesFit fmt origin base (base + m) ↔
              BoundariesFit fmt origin (base + fmt.frames) (base + m) := by
            rw [hstep]
            exact and_iff_right hfit
          have hPnext : P next := hP _ _ (by omega) (by omega) hnext
          have hPrest : ∀ i next, base + fmt.frames + fmt.frames ≤ i.toNat →
              i.toNat < base + fmt.frames + (m - fmt.frames) →
              timestampForFrameIndex origin i fmt.sampleRate = .ok next → P next :=
            fun i next hlo hhi => hP i next (by omega) (by omega)
          dsimp only
          rw [← hR.timelineOrigin]
          refine cutOutcome_window hm hw hsamples hfits
            (ih hPrest _ (hR.drop hm fun _ => ⟨next, rfl, ?_, hPnext⟩) (by omega) (by omega))
          rw [hidx, hindex]
    · rw [if_neg (mt hguard.mp hm)]
      exact cutOutcome_done windows hR (by omega)

/-! ## The outer loop -/

/-- A frame of the stream that starts where it is due. -/
structure FrameAt (fmt : StreamFormat) (P : FrameTimestamp → Prop) (due : ℕ) (frame : AudioFrame) :
    Prop where
  /-- The frame starts where it is due. -/
  first : frame.first = due
  /-- The frame has the stream's sample rate. -/
  sampleRate : frame.sampleRate = fmt.sampleRate
  /-- The frame has the stream's channel layout. -/
  channels : frame.channels = fmt.channels
  /-- The frame's start satisfies the predicate on timestamps. -/
  start : P frame.window.start

/-- Contiguous frames of the stream, from frame `due` on. -/
def FramesFrom (fmt : StreamFormat) (P : FrameTimestamp → Prop) : ℕ → List AudioFrame → Prop
  | _, [] => True
  | due, frame :: frames => FrameAt fmt P due frame ∧ FramesFrom fmt P (due + frame.count) frames

/-- The number of sample frames in a list of frames. -/
def frameCount (frames : List AudioFrame) : ℕ := (frames.map AudioFrame.count).sum

/-- Every window boundary strictly inside one of the frames has a timestamp that fits. -/
def TimelineFits (fmt : StreamFormat) (origin : FrameTimestamp) (frames : List AudioFrame) : Prop :=
  ∀ f ∈ frames, BoundariesFit fmt origin f.first (f.first + f.count)

/-- How the outer loop ends. -/
inductive EmitOutcome (fmt : StreamFormat) (identity : ι) (origin : FrameTimestamp)
    (P : FrameTimestamp → Prop) (base m : ℕ) (s : WindowScheduler ι) (frames : List AudioFrame)
    (windows : List (ScheduledWindow ι)) :
    Option (Except SchedulingError (List (ScheduledWindow ι)) × WindowScheduler ι) → Prop
  /-- Every complete window is cut, and the rest is retained. -/
  | emitted (ws : List (ScheduledWindow ι)) (m' : ℕ) (s' : WindowScheduler ι)
      (same : SameStream s s') (fits : TimelineFits fmt origin frames)
      (tiled : WindowsFrom fmt identity P base ws)
      (lossless : windowSamples ws ++ s'.samples = s.samples ++ frameSamples frames)
      (lt : m' < fmt.frames) (number : ws.length * fmt.frames + m' = m + frameCount frames)
      (retained : Retained fmt origin P (base + ws.length * fmt.frames) m' s') :
      EmitOutcome fmt identity origin P base m s frames windows (some (.ok (windows ++ ws), s'))
  /-- A timestamp does not fit. -/
  | overflow (s' : WindowScheduler ι) (same : SameStream s s')
      (misfit : ¬TimelineFits fmt origin frames) :
      EmitOutcome fmt identity origin P base m s frames windows
        (some (.error .timestampOverflow, s'))

/-- With the samples of the frame that is due, the loop retains that frame as well. -/
theorem Retained.extend (hR : Retained fmt origin P base m s) {frame : AudioFrame}
    (hf : FrameAt fmt P (base + m) frame) :
    Retained fmt origin P base (m + frame.count) (s.appendFrame frame) where
  timelineOrigin := hR.timelineOrigin
  length := by
    rw [appendFrame, List.length_append, hR.length, frame.length_eq, hf.channels, Nat.add_mul]
    rfl
  finite x hx := by
    rcases List.mem_append.mp hx with h | h
    · exact hR.finite x h
    · exact frame.finite x h
  bufferStart _ := by
    dsimp only [appendFrame]
    split_ifs with hnil
    · obtain rfl := hR.samples_eq_nil.mp hnil
      exact ⟨_, rfl, hf.first, hf.start⟩
    · have hm : m ≠ 0 := mt hR.samples_eq_nil.mpr hnil
      exact hR.bufferStart (by omega)
  origin_le := hR.origin_le
  dvd := hR.dvd

/-- The outer loop cuts every complete window where the boundaries inside the frames fit, and fails
otherwise. -/
theorem emitFrames_spec (identity : ι) {frames : List AudioFrame}
    (hP : ∀ f ∈ frames, ∀ i next, f.first < i.toNat → i.toNat < f.first + f.count →
      timestampForFrameIndex origin i fmt.sampleRate = .ok next → P next)
    (windows : List (ScheduledWindow ι))
    (hR : Retained fmt origin P base m s) (hm : m < fmt.frames)
    (hframes : FramesFrom fmt P (base + m) frames) (hend : base + m + frameCount frames < 2^64) :
    EmitOutcome fmt identity origin P base m s frames windows
      (emitFrames fmt identity frames s windows) := by
  induction frames generalizing s base m windows with
  | nil =>
    have hdone : EmitOutcome fmt identity origin P base m s [] windows
        (some (.ok (windows ++ []), s)) :=
      .emitted [] m s rfl (by simp [TimelineFits]) trivial (by simp [windowSamples, frameSamples])
        hm (by simp [frameCount]) (by simpa using hR)
    simpa [emitFrames] using hdone
  | cons frame frames ih =>
    obtain ⟨hf, hrest⟩ := hframes
    have hcount : frameCount (frame :: frames) = frame.count + frameCount frames := by
      simp [frameCount]
    have hsamples : frameSamples (frame :: frames) = frame.samples ++ frameSamples frames := by
      simp [frameSamples]
    have hext := hR.extend hf
    -- The boundaries that the inner loop meets are those inside this frame.
    have hinside : BoundariesFit fmt origin base (base + (m + frame.count)) ↔
        BoundariesFit fmt origin frame.first (frame.first + frame.count) := by
      rw [hf.first, ← Nat.add_assoc]
      exact boundariesFit_frame hR.origin_le hR.dvd (by omega) (by omega)
    have hall : TimelineFits fmt origin (frame :: frames) ↔
        BoundariesFit fmt origin base (base + (m + frame.count)) ∧
          TimelineFits fmt origin frames := by
      rw [hinside]
      simp [TimelineFits]
    -- The boundary after a window is not before the end of that window, so it is inside the frame.
    have hPframe : ∀ i next, base + fmt.frames ≤ i.toNat → i.toNat < base + (m + frame.count) →
        timestampForFrameIndex origin i fmt.sampleRate = .ok next → P next := by
      intro i next hlo hhi
      have hfirst : frame.first = base + m := hf.first
      exact hP frame List.mem_cons_self i next (by omega) (by omega)
    have hcut := cutWindows_spec identity hPframe windows hext hext.le_length (by omega)
    unfold emitFrames
    dsimp only
    generalize cutWindows fmt identity (s.appendFrame frame).samples.length (s.appendFrame frame)
      windows = r at hcut
    cases hcut with
    | overflow s' same misfit =>
      exact .overflow s' same fun hfit => misfit (hall.mp hfit).1
    | cut ws m₁ s₁ same fits tiled lossless lt number retained =>
      have hdue : base + ws.length * fmt.frames + m₁ = base + m + frame.count := by omega
      rw [← hdue] at hrest
      have hloop := ih (fun f hf => hP f (List.mem_cons_of_mem _ hf)) (windows ++ ws) retained lt
        hrest (by omega)
      dsimp only
      generalize emitFrames fmt identity frames s₁ (windows ++ ws) = r at hloop
      cases hloop with
      | overflow s' same' misfit =>
        refine .overflow s' ?_ fun hfit => misfit (hall.mp hfit).2
        rw [SameStream] at same same' ⊢
        rw [same', same]
        rfl
      | emitted ws' m' s' same' fits' tiled' lossless' lt' number' retained' =>
        rw [List.append_assoc]
        refine .emitted (ws ++ ws') m' s' ?_ (hall.mpr ⟨fits, fits'⟩) (tiled.append tiled') ?_ lt'
          ?_ ?_
        · rw [SameStream] at same same' ⊢
          rw [same', same]
          rfl
        · calc windowSamples (ws ++ ws') ++ s'.samples
              = windowSamples ws ++ (windowSamples ws' ++ s'.samples) := by simp
            _ = windowSamples ws ++ s₁.samples ++ frameSamples frames := by
                rw [lossless', List.append_assoc]
            _ = s.samples ++ frameSamples (frame :: frames) := by
                rw [lossless, hsamples, appendFrame, List.append_assoc]
        · rw [List.length_append, Nat.add_mul]
          omega
        · rw [List.length_append, Nat.add_mul, ← Nat.add_assoc]
          exact retained'

end Loop

/-! ## What the loops leave alone, whatever they find -/

/-- The errors of the emission loop. -/
def IsEmissionError (e : SchedulingError) : Prop :=
  e = .timestampOverflow ∨ ∃ d, e = .invalidSignalData d

/-- Whatever state the inner loop starts from, it leaves the stream alone, and fails only with an
error of its own. -/
theorem cutWindows_frame {fmt : StreamFormat} {identity : ι} {fuel : ℕ} {s s' : WindowScheduler ι}
    {windows : List (ScheduledWindow ι)} {r : Except SchedulingError (List (ScheduledWindow ι))}
    (h : cutWindows fmt identity fuel s windows = some (r, s')) :
    SameStream s s' ∧ ∀ e, r = .error e → IsEmissionError e := by
  induction fuel generalizing s windows with
  | zero =>
    cases h
    exact ⟨rfl, nofun⟩
  | succ fuel ih =>
    -- The recursive calls start from the same stream.
    have hrec : ∀ (t : WindowScheduler ι) (ws : List (ScheduledWindow ι)), SameStream s t →
        cutWindows fmt identity fuel t ws = some (r, s') →
          SameStream s s' ∧ ∀ e, r = .error e → IsEmissionError e := by
      intro t ws hst hcall
      obtain ⟨hts, herr⟩ := ih hcall
      refine ⟨?_, herr⟩
      rw [SameStream] at hst hts ⊢
      rw [hts, hst]
    unfold cutWindows at h
    split_ifs at h with hguard
    · cases hstart : s.bufferStart with
      | none => rw [hstart] at h; cases h
      | some start =>
        simp only [hstart] at h
        cases hnew : AudioFrame.new start fmt.sampleRate fmt.channels
            (s.samples.take fmt.samplesPerWindow) with
        | error e =>
          rw [hnew] at h
          cases h
          exact ⟨by simp [SameStream], by rintro e' ⟨⟩; exact .inr ⟨e, rfl⟩⟩
        | ok frame =>
          simp only [hnew] at h
          split_ifs at h with hempty
          · exact hrec _ _ (by simp [SameStream]) h
          · cases hadd : Checked.add start.frameIndex fmt.windowFrames.get.toUInt64 with
            | none =>
              rw [hadd] at h
              cases h
              exact ⟨by simp [SameStream], by rintro e' ⟨⟩; exact .inl rfl⟩
            | some next =>
              simp only [hadd] at h
              cases horigin : s.timelineOrigin with
              | none => rw [horigin] at h; cases h
              | some origin =>
                simp only [horigin] at h
                cases htime : timestampForFrameIndex origin next fmt.sampleRate with
                | error e =>
                  rw [htime] at h
                  cases h
                  refine ⟨by simp [SameStream, horigin], ?_⟩
                  rintro e' ⟨⟩
                  exact .inl (timestampForFrameIndex_error htime)
                | ok ts =>
                  rw [htime] at h
                  exact hrec _ _ (by simp [SameStream, horigin]) h
    · cases h
      exact ⟨rfl, nofun⟩

/-- Whatever state the outer loop starts from, it leaves the stream alone, and fails only with an
error of its own. -/
theorem emitFrames_frame {fmt : StreamFormat} {identity : ι} {frames : List AudioFrame}
    {s s' : WindowScheduler ι} {windows : List (ScheduledWindow ι)}
    {r : Except SchedulingError (List (ScheduledWindow ι))}
    (h : emitFrames fmt identity frames s windows = some (r, s')) :
    SameStream s s' ∧ ∀ e, r = .error e → IsEmissionError e := by
  induction frames generalizing s windows with
  | nil =>
    cases h
    exact ⟨rfl, nofun⟩
  | cons frame frames ih =>
    unfold emitFrames at h
    dsimp only at h
    cases hcut : cutWindows fmt identity (s.appendFrame frame).samples.length (s.appendFrame frame)
        windows with
    | none => rw [hcut] at h; cases h
    | some p =>
      obtain ⟨r₁, s₁⟩ := p
      obtain ⟨hsame, herr⟩ := cutWindows_frame hcut
      have hs₁ : SameStream s s₁ := by
        rw [SameStream] at hsame ⊢
        rw [hsame]
        rfl
      rw [hcut] at h
      cases r₁ with
      | error e =>
        cases h
        exact ⟨hs₁, herr⟩
      | ok ws =>
        obtain ⟨hsame', herr'⟩ := ih h
        refine ⟨?_, herr'⟩
        rw [SameStream] at hs₁ hsame' ⊢
        rw [hsame', hs₁]

end WindowScheduler

end ResonanceSignal
