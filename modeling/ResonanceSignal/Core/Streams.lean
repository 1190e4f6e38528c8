import ResonanceSignal.Core.Tumbling

/-!
# Runs of the scheduler over several streams

What holds in runs of `push_batch` calls under any identities. A call leaves a half-consumed batch
behind in one case only: it is accepted, and a window boundary strictly inside one of its frames has
a timestamp that does not fit (`EmissionFits` fails). In runs without that case the scheduler stays
well formed, every error is all or nothing (`push_errors_atomic`), and the windows of a stream come
from that stream alone (`streams_not_mixed`).

The scheduler remembers one invalidated identity. It remembers it for as long as no batch under
another identity gets past the checks that leave the scheduler alone (`Keeps`), and until then it
accepts nothing under it (`invalidated_never_accepted`).
-/

namespace ResonanceSignal

namespace WindowScheduler

variable {ι : Type} [DecidableEq ι]

/-- Where the batch is accepted, every window boundary strictly inside one of its frames has a
timestamp that fits. -/
def EmissionFits (s : WindowScheduler ι) (identity : ι) : List AudioFrame → Prop
  | [] => True
  | first :: rest => ∀ admission, s.validateBatch identity first rest = .ok admission →
      TimelineFits admission.format (s.originFor identity first) (first :: rest)

/-- An error leaves the scheduler as it was, and is one of those that do, or leaves it with the
pushed identity invalidated. -/
def AtomicError (s : WindowScheduler ι) (identity : ι)
    (outcome : Option (Except SchedulingError (SchedulingResult ι) × WindowScheduler ι)) : Prop :=
  ∀ e s', outcome = some (.error e, s') →
    s' = s ∧ e.refusal = true ∨ s' = s.invalidate identity

/-- The calls that leave no half-consumed batch. -/
def fittingPushes : TransitionSystem (WindowScheduler ι) (Call ι) :=
  pushes.restrict fun s c => s.EmissionFits c.identity c.frames

section Outcome

variable {s s' : WindowScheduler ι} {identity : ι} {frames : List AudioFrame}

/-- The origin of a stream that a batch starts is the start of its first frame. -/
theorem originFor_inactive {first : AudioFrame} (h : s.activeStream ≠ some identity) :
    s.originFor identity first = first.window.start := by
  rw [originFor, if_neg h]

/-- The origin of a stream that a batch continues is the stream's. -/
theorem originFor_active {first : AudioFrame} {origin : FrameTimestamp}
    (h : s.activeStream = some identity) (ho : s.timelineOrigin = some origin) :
    s.originFor identity first = origin := by
  rw [originFor, if_pos h, ho, Option.getD_some]

omit [DecidableEq ι] in
/-- A success is no error. -/
theorem atomicError_ok (r : SchedulingResult ι) :
    AtomicError s identity (some (.ok r, s')) := by
  intro e t h
  simp at h

/-- An accepted batch is scheduled where its boundaries fit, and only there. -/
theorem AcceptOutcome.fits_iff {fmt : StreamFormat} {origin : FrameTimestamp}
    {P : FrameTimestamp → Prop} {base m : ℕ} {held : List Sample}
    {r : Option (Except SchedulingError (SchedulingResult ι) × WindowScheduler ι)}
    (h : AcceptOutcome s identity fmt origin P base m held frames r) :
    AtomicError s identity r ↔ TimelineFits fmt origin frames := by
  cases h with
  | scheduled n ws m' s' buffered config active valid fits contiguous tiled bounded lossless number
      stream => exact iff_of_true (atomicError_ok _) fits
  | overflow s' config active valid misfit =>
    refine iff_of_false (fun hatomic => ?_) misfit
    rcases hatomic _ _ rfl with ⟨-, h⟩ | h
    · cases h
    · -- The identity is not invalidated.
      rw [h] at valid
      cases valid

/-- On a well-formed state, errors are all or nothing exactly on the batches whose boundaries
fit. -/
theorem atomicError_iff (hs : s.WellFormed) (identity : ι) (frames : List AudioFrame) :
    AtomicError s identity (s.pushBatch identity frames) ↔ s.EmissionFits identity frames := by
  have hfits : ∀ {first rest admission}, s.Admits identity first rest admission →
      (s.EmissionFits identity (first :: rest) ↔
        TimelineFits admission.format (s.originFor identity first) (first :: rest)) := by
    intro first rest admission hadmits
    rw [EmissionFits, validateBatch_eq_ok.mpr hadmits]
    exact ⟨fun h => h admission rfl, fun h a ha => by cases ha; exact h⟩
  have hout := pushBatch_spec hs identity frames
  generalize s.pushBatch identity frames = r at hout
  cases hout with
  | empty => exact iff_of_true (atomicError_ok _) trivial
  | refused first rest e decided refusal =>
    refine iff_of_true ?_ ?_
    · rintro e' s' ⟨⟩
      exact .inl ⟨rfl, refusal⟩
    · intro admission h
      rw [decided] at h
      cases h
  | invalidated first rest e decided refusal =>
    refine iff_of_true ?_ ?_
    · rintro e' s' ⟨⟩
      exact .inr rfl
    · intro admission h
      rw [decided] at h
      cases h
  | started first rest admission admits inactive r outcome =>
    rw [hfits admits, originFor_inactive inactive]
    exact outcome.fits_iff
  | continued first rest admission origin base m admits active stream r outcome =>
    rw [hfits admits, originFor_active active stream.retained.timelineOrigin]
    exact outcome.fits_iff

/-- The boundaries of one frame fit where its end does. -/
theorem emissionFits_singleton {f : AudioFrame}
    (h : TimestampFits (s.originFor identity f) f.sampleRate (f.first + f.count)) :
    s.EmissionFits identity [f] := by
  intro admission hvalidate g hg
  obtain rfl := List.mem_singleton.mp hg
  rw [← (validateBatch_eq_ok.mp hvalidate).sampleRate] at h
  exact boundariesFit_of_end h

/-- What a call does on a well-formed state where its boundaries fit. -/
theorem wellFormed_of_accept {fmt : StreamFormat} {origin : FrameTimestamp} {base m : ℕ}
    {held : List Sample} {r : Except SchedulingError (SchedulingResult ι)}
    (h : AcceptOutcome s identity fmt origin (fun _ => True) base m held frames (some (r, s')))
    (hfits : TimelineFits fmt origin frames) : s'.WellFormed := by
  cases h with
  | scheduled n ws m' s' buffered config active valid fits contiguous tiled bounded lossless number
      stream => exact .streaming identity fmt origin _ m' active valid stream
  | overflow s' config active valid misfit => exact absurd hfits misfit

/-- A call whose boundaries fit keeps the scheduler well formed. -/
theorem WellFormed.step {c : Call ι} (hs : s.WellFormed) (h : fittingPushes.step s c s') :
    s'.WellFormed := by
  obtain ⟨hstep, hfit⟩ := h
  have hstep := pushes_step.mp hstep
  have hout := pushBatch_spec hs c.identity c.frames
  rw [hstep] at hout
  generalize hframes : c.frames = frames at hout hfit
  generalize c.outcome = outcome at hout
  cases hout with
  | empty => exact hs
  | refused first rest e decided refusal => exact hs
  | invalidated first rest e decided refusal => exact .invalidated c.identity rfl
  | started first rest admission admits inactive r outcome =>
    have hfits := hfit admission (validateBatch_eq_ok.mpr admits)
    rw [originFor_inactive inactive] at hfits
    exact wellFormed_of_accept outcome hfits
  | continued first rest admission origin base m admits active stream r outcome =>
    have hfits := hfit admission (validateBatch_eq_ok.mpr admits)
    rw [originFor_active active stream.retained.timelineOrigin] at hfits
    exact wellFormed_of_accept outcome hfits

/-- A run whose boundaries fit keeps the scheduler well formed. -/
theorem wellFormed_of_run {config : WindowSchedulerConfig} {calls : List (Call ι)}
    (h : fittingPushes.Run (new config) calls s) : s.WellFormed :=
  h.invariant (.fresh rfl) fun _ _ _ hs hstep => hs.step hstep

end Outcome

/-! ## Errors are all or nothing -/

/-- In a run whose accepted batches all have boundaries that fit, the next call is all or nothing
exactly where this holds of it as well. -/
theorem push_errors_atomic {config : WindowSchedulerConfig} {calls : List (Call ι)}
    {s : WindowScheduler ι} (h : fittingPushes.Run (new config) calls s) (identity : ι)
    (frames : List AudioFrame) :
    AtomicError s identity (s.pushBatch identity frames) ↔ s.EmissionFits identity frames :=
  atomicError_iff (wellFormed_of_run h) identity frames

/-- A first batch whose boundaries fit. -/
def fittingBatch : List AudioFrame := [silenceAt 0 0 threeFrames]

/-- What the call of that batch returns, and the state it leaves. -/
def fittingOutcome : Except SchedulingError (SchedulingResult ℕ) × WindowScheduler ℕ :=
  ((new twoNanoseconds).pushBatch 0 fittingBatch).getD (.error .timestampOverflow, new twoNanoseconds)

/-- The call is a run. -/
theorem run_fittingBatch : fittingPushes.Run (new twoNanoseconds)
    [⟨0, fittingBatch, fittingOutcome.1⟩] fittingOutcome.2 := by
  have hpush : (new twoNanoseconds).pushBatch 0 fittingBatch = some fittingOutcome := by
    decide +kernel
  refine ⟨fittingOutcome.2, ⟨hpush, emissionFits_singleton ?_⟩, rfl⟩
  constructor <;> decide +kernel

/-- Pushing that batch again fails and invalidates its stream, as its boundaries fit. -/
theorem push_errors_atomic_example :
    AtomicError fittingOutcome.2 0 (fittingOutcome.2.pushBatch 0 fittingBatch) ↔
      fittingOutcome.2.EmissionFits 0 fittingBatch :=
  push_errors_atomic run_fittingBatch 0 fittingBatch

/-- Four frames of a stream whose clock runs a nanosecond slow on each, as the tolerance allows. The
last one ends within the clock's range, and the window boundary inside it lies beyond. -/
def slowClockBatch : List AudioFrame :=
  [silenceAt 0 (UInt64.ofNat (2^64 - 4)) oneFrame,
    silenceAt 1 (UInt64.ofNat (2^64 - 4)) oneFrame,
    silenceAt 2 (UInt64.ofNat (2^64 - 4)) oneFrame,
    silenceAt 3 (UInt64.ofNat (2^64 - 4)) twoFrames]

/-- The scheduler after the batch above. -/
def halfConsumed : WindowScheduler ℕ :=
  (((new twoNanoseconds).pushBatch 0 slowClockBatch).getD
    (.error .timestampOverflow, new twoNanoseconds)).2

/-- Not every error is all or nothing: the batch above cuts two windows, loses them, and leaves its
last frame behind on a stream that stays active. -/
theorem push_errors_not_atomic :
    ¬∀ (config : WindowSchedulerConfig) (calls : List (Call ℕ)) (s : WindowScheduler ℕ),
      pushes.Run (new config) calls s → ∀ identity frames,
        AtomicError s identity (s.pushBatch identity frames) := by
  intro h
  have hpush : (new twoNanoseconds).pushBatch 0 slowClockBatch
      = some (.error .timestampOverflow, halfConsumed) := by decide +kernel
  rcases h twoNanoseconds [] _ rfl 0 slowClockBatch _ _ hpush with ⟨-, hrefusal⟩ | hinvalid
  · cases hrefusal
  · exact absurd hinvalid (by decide +kernel)

/-! ## The invalidated identity -/

/-- The errors by which a push is found to break its stream. -/
def BreaksStream : SchedulingError → Bool
  | .formatChangedWithinStream => true
  | .frameIndexDiscontinuity _ _ => true
  | .timestampDiscontinuity _ _ => true
  | _ => false

/-- Once a push under an identity has broken its stream, no later nonempty push under that identity
succeeds, whatever calls of `S` happen in between. -/
def NeverAcceptedAgain (S : TransitionSystem (WindowScheduler ι) (Call ι)) : Prop :=
  ∀ config before failed e s₁ between s₂ retry s₃,
    pushes.Run (new config) (before ++ [failed]) s₁ →
      failed.outcome = .error e → BreaksStream e → S.Run s₁ between s₂ → pushes.step s₂ retry s₃ →
        retry.identity = failed.identity → retry.frames ≠ [] → ¬retry.Succeeds

/-- While an identity is invalidated, a nonempty push under another one is refused by a check that
leaves the scheduler alone. -/
def Keeps (s : WindowScheduler ι) (c : Call ι) : Prop :=
  ∀ invalid, s.invalidStream = some invalid → c.identity ≠ invalid →
    ∀ first rest, c.frames = first :: rest →
      ∃ e, s.validateBatch c.identity first rest = .error (.refused e)

section Keeps

variable {s s' : WindowScheduler ι} {c : Call ι} {invalid : ι}

/-- A nonempty push under the invalidated identity is refused. -/
theorem validateBatch_invalid (h : s.invalidStream = some invalid) (first : AudioFrame)
    (rest : List AudioFrame) :
    s.validateBatch invalid first rest = .error (.refused .streamIdentityInvalidated) := by
  rw [validateBatch, failIf, if_pos h]
  rfl

/-- A refused call leaves the scheduler as it was. -/
theorem step_of_refused {first : AudioFrame} {rest : List AudioFrame} {e : SchedulingError}
    (h : pushes.step s c s') (hf : c.frames = first :: rest)
    (he : s.validateBatch c.identity first rest = .error (.refused e)) :
    s' = s ∧ c.outcome = .error e := by
  rw [pushes_step, hf, pushBatch, he] at h
  obtain ⟨he, hs⟩ := Prod.mk.inj (Option.some.inj h)
  exact ⟨hs.symm, he.symm⟩

/-- While an identity is invalidated, calls that keep it change nothing. -/
theorem step_of_keeps (hinvalid : s.invalidStream = some invalid) (hkeeps : Keeps s c)
    (h : pushes.step s c s') : s' = s := by
  cases hf : c.frames with
  | nil =>
    rw [pushes_step, hf] at h
    exact (Prod.mk.inj (Option.some.inj h)).2.symm
  | cons first rest =>
    by_cases hid : c.identity = invalid
    · rw [← hid] at hinvalid
      exact (step_of_refused h hf (validateBatch_invalid hinvalid first rest)).1
    · obtain ⟨e, he⟩ := hkeeps invalid hinvalid hid first rest hf
      exact (step_of_refused h hf he).1

/-- A call that fails by breaking its stream leaves the pushed identity invalidated. -/
theorem invalidStream_of_breaks {e : SchedulingError} (h : pushes.step s c s')
    (he : c.outcome = .error e) (hbreaks : BreaksStream e) :
    s'.invalidStream = some c.identity := by
  rw [pushes_step, he] at h
  cases hf : c.frames with
  | nil =>
    rw [hf] at h
    cases h
  | cons first rest =>
    rw [hf, pushBatch] at h
    cases hvalidate : s.validateBatch c.identity first rest with
    | error rejection =>
      have hsorted := validateBatch_failsWith rejection hvalidate
      rw [hvalidate] at h
      cases rejection with
      | refused e' =>
        -- The errors that leave the scheduler alone break no stream.
        cases h
        cases e <;> simp_all [Rejection.Sorted, SchedulingError.refusal, BreaksStream]
      | invalidating e' =>
        cases h
        rfl
    | ok admission =>
      -- The second phase has errors of its own.
      rw [hvalidate] at h
      simp only [accept, Option.bind_eq_bind, Option.bind_eq_some_iff] at h
      obtain ⟨n, -, b, -, ⟨r, t⟩, hemit, h⟩ := h
      obtain ⟨-, herr⟩ := emitFrames_frame hemit
      cases r with
      | ok ws => cases h
      | error e' =>
        cases h
        rcases herr e rfl with rfl | ⟨d, rfl⟩ <;> cases hbreaks

end Keeps

/-- While the calls in between keep it, an invalidated identity is never accepted again. -/
theorem invalidated_never_accepted :
    NeverAcceptedAgain (pushes.restrict Keeps : TransitionSystem (WindowScheduler ι) (Call ι)) := by
  rintro config before failed e s₁ between s₂ retry s₃ hrun he hbreaks hbetween hretry hid hne
    ⟨r, hok⟩
  obtain ⟨s₀, -, hfailed⟩ := TransitionSystem.run_snoc.mp hrun
  have hinvalid := invalidStream_of_breaks hfailed he hbreaks
  have hkept : s₂.invalidStream = some failed.identity :=
    hbetween.invariant (I := fun t => t.invalidStream = some failed.identity) hinvalid
      fun t c t' ht hstep => by rw [step_of_keeps ht hstep.2 hstep.1, ht]
  obtain ⟨first, rest, hf⟩ := List.exists_cons_of_ne_nil hne
  rw [← hid] at hkept
  obtain ⟨-, hrefused⟩ := step_of_refused hretry hf (validateBatch_invalid hkept first rest)
  rw [hok] at hrefused
  cases hrefused

/-- One frame at the start of a stream. -/
def firstFrame : List AudioFrame := [silenceAt 0 0 oneFrame]

/-- A frame that does not follow on. -/
def laterFrame : List AudioFrame := [silenceAt 5 5 oneFrame]

/-- The first push under identity 0, and the one that breaks its stream. -/
def openingCall : Call ℕ := ⟨0, firstFrame, .ok ⟨[], none⟩⟩

@[inherit_doc openingCall]
def breakingCall : Call ℕ := ⟨0, laterFrame, .error (.frameIndexDiscontinuity 1 5)⟩

/-- The push under identity 1, and the next one under identity 0. -/
def otherCall : Call ℕ := ⟨1, firstFrame, .ok ⟨[], some ⟨0, 1, 0⟩⟩⟩

@[inherit_doc otherCall]
def retriedCall : Call ℕ := ⟨0, firstFrame, .ok ⟨[], some ⟨1, 0, 1⟩⟩⟩

/-- The state after a list of batches. -/
def after (s : WindowScheduler ℕ) (batches : List (ℕ × List AudioFrame)) : WindowScheduler ℕ :=
  ((s.play batches).getD ([], s)).2

/-- A push under another identity makes the scheduler forget the invalidated one, and a later push
under it succeeds. -/
theorem invalidated_accepted_again :
    ¬NeverAcceptedAgain (pushes : TransitionSystem (WindowScheduler ℕ) (Call ℕ)) := by
  intro h
  set s₁ := (new twoNanoseconds).after [(0, firstFrame), (0, laterFrame)] with hs₁
  set s₂ := s₁.after [(1, firstFrame)] with hs₂
  have hrun : pushes.Run (new twoNanoseconds) ([openingCall] ++ [breakingCall]) s₁ := by
    refine run_of_play [(0, firstFrame), (0, laterFrame)] ?_
    decide +kernel
  have hbetween : pushes.Run s₁ [otherCall] s₂ := by
    refine run_of_play [(1, firstFrame)] ?_
    decide +kernel
  have hretry : pushes.step s₂ retriedCall (s₂.after [(0, firstFrame)]) := by
    rw [pushes_step]
    decide +kernel
  exact h twoNanoseconds [openingCall] breakingCall _ s₁ [otherCall] s₂ retriedCall _ hrun rfl rfl
    hbetween hretry rfl (by decide) ⟨_, rfl⟩

end WindowScheduler

end ResonanceSignal
