import Mathlib.Algebra.BigOperators.Group.Finset.Basic
import Mathlib.Data.Fintype.Defs
import Mathlib.Data.List.DropRight
import Mathlib.Data.List.Range
import ResonanceSignal.Agent.Recovery
import ResonanceSignal.Agent.RetryRuns

/-!
# The failure accounting of the retry state

The retry state keeps its failures four times: a bounded history, the last record, a counter for
each class with their total, and the failures in a row. Each is updated in other operations than the
next. The account of a run is the `Ledger` of its events: what the operations that succeeded since
the last start named, read from the events alone. `Books` is what the state keeps of it, and `Entry`
says once what an event can do to the books; `Balanced` relates the books to the ledger, and every
entry keeps it.
-/

namespace ResonanceSignal

instance : Fintype RecoveryFailureClass where
  elems := RecoveryFailureClass.failureClasses.toFinset
  complete := by rintro (_ | _) <;> decide

/-- The class of a recorded failure. -/
def FailureRecord.failureClass (record : FailureRecord) : RecoveryFailureClass :=
  Recovery.failureClass record.cause

namespace FailureTotals

/-- The counter of a class. -/
def counter (self : FailureTotals) : RecoveryFailureClass → UInt64
  | .ownerConstructionFailure => self.ownerConstructionFailure
  | .deviceUnavailable => self.deviceUnavailable
  | .sourceReconfigured => self.sourceReconfigured
  | .interrupted => self.interrupted
  | .resourceExhausted => self.resourceExhausted
  | .unsupportedFormat => self.unsupportedFormat
  | .internalFailure => self.internalFailure
  | .startupFailure => self.startupFailure
  | .workerPanic => self.workerPanic

/-- One more failure moves the total and the counter of its class. -/
theorem checkedWithRecord_ok {self totals : FailureTotals} {cause : RetryFailureCause}
    (h : self.checkedWithRecord cause = .ok totals) :
    totals.total.toNat = self.total.toNat + 1 ∧ ∀ c, (totals.counter c).toNat =
      (self.counter c).toNat + if Recovery.failureClass cause = c then 1 else 0 := by
  unfold checkedWithRecord at h
  obtain ⟨total, htotal, h⟩ := Result.bind_eq_ok.mp h
  have htotal := RetryState.increment_eq_ok.mp htotal
  -- The cause selects the counter that moves; every other counter is the old one.
  cases cause with
  | _ =>
    obtain ⟨count, hcount, h⟩ := Result.bind_eq_ok.mp h
    have hcount := RetryState.increment_eq_ok.mp hcount
    cases h
    refine ⟨htotal, fun c => ?_⟩
    cases c <;> simp [counter, Recovery.failureClass, hcount]

/-- The totals of a list of failures. -/
structure Tally (totals : FailureTotals) (failures : List FailureRecord) : Prop where
  /-- The total is their number. -/
  total : totals.total.toNat = failures.length
  /-- Each counter is the number of its class. -/
  counter : ∀ c, (totals.counter c).toNat = (failures.map FailureRecord.failureClass).count c

/-- The counters sum to the total. -/
theorem Tally.sum_counter {totals : FailureTotals} {failures : List FailureRecord}
    (h : totals.Tally failures) : ∑ c, (totals.counter c).toNat = totals.total.toNat := by
  calc ∑ c, (totals.counter c).toNat
      = ∑ c, (failures.map FailureRecord.failureClass : Multiset RecoveryFailureClass).count c :=
        Finset.sum_congr rfl fun c _ => (h.counter c).trans (Multiset.coe_count _ _).symm
    _ = failures.length := by
        rw [Multiset.sum_count_eq_card fun c _ => Finset.mem_univ c, Multiset.coe_card,
          List.length_map]
    _ = totals.total.toNat := h.total.symm

/-- The totals of one more failure. -/
theorem Tally.snoc {self totals : FailureTotals} {failures : List FailureRecord}
    {record : FailureRecord} (h : self.Tally failures)
    (hchecked : self.checkedWithRecord record.cause = .ok totals) :
    totals.Tally (failures ++ [record]) := by
  obtain ⟨htotal, hcounter⟩ := checkedWithRecord_ok hchecked
  constructor
  · rw [htotal, h.total, List.length_append, List.length_singleton]
  · intro c
    rw [hcounter c, h.counter c, List.map_append, List.count_append, List.map_singleton,
      List.count_singleton]
    simp only [FailureRecord.failureClass, beq_iff_eq]

end FailureTotals

/-! ## The ledger of a run -/

/-- What the events since the last start named. -/
structure Ledger where
  /-- The episode that failures belong to. -/
  episode : RecoveryEpisodeId
  /-- Whether the stream of the last attempt started. -/
  streamStarted : Bool
  /-- The committed attempts. -/
  attempts : List AttemptId
  /-- The recorded failures. -/
  failures : List FailureRecord
deriving DecidableEq, Repr

namespace Ledger

open RetryState

/-- The ledger of a generation that starts. -/
def opened (generation : IntentGeneration) : Ledger := ⟨⟨generation, ⟨1⟩⟩, false, [], []⟩

/-- What an operation that succeeded adds. -/
def enter (ledger : Ledger) : Operation → Output → Ledger
  | _, .generation generation => opened generation
  | _, .attempt id =>
    { ledger with streamStarted := false, attempts := ledger.attempts ++ [id] }
  | _, .episode id => { ledger with episode := id }
  | .recordStreamStarted _, .done => { ledger with streamStarted := true }
  | .recordFailure attemptId cause, .done =>
    { ledger with
      failures := ledger.failures ++ [⟨attemptId, ledger.episode, cause, ledger.streamStarted⟩] }
  | _, _ => ledger

/-- What an event adds: nothing where it failed. -/
def post (ledger : Ledger) (e : Event) : Ledger :=
  match e.2 with
  | .ok output => ledger.enter e.1 output
  | .error _ => ledger

/-- The ledger of a run from a fresh state, whose generation is numbered 0. -/
def ofEvents (events : List Event) : Ledger := events.foldl post (opened ⟨0⟩)

/-- One more event is posted last. -/
theorem ofEvents_snoc (events : List Event) (e : Event) :
    ofEvents (events ++ [e]) = (ofEvents events).post e := by
  simp [ofEvents]

end Ledger

namespace RetryState

variable {historyCapacity : ℕ}

/-- The failures that were recorded in the current generation, in order. -/
def recordedFailures (events : List Event) : List FailureRecord := (Ledger.ofEvents events).failures

/-! ## The books of a state -/

/-- What the accounts know of the current attempt. -/
structure AttemptAccount where
  /-- Its identity. -/
  id : AttemptId
  /-- Whether its stream started. -/
  streamStarted : Bool
  /-- Whether it failed. -/
  failed : Bool
deriving DecidableEq, Repr

/-- What the state keeps of its accounts. -/
structure Books where
  /-- The current generation. -/
  generation : Option IntentGeneration
  /-- How many attempts were started. -/
  attemptsStarted : UInt64
  /-- The current attempt. -/
  attempt : Option AttemptAccount
  /-- The current episode and how many automatic attempts it started. -/
  episode : Option (RecoveryEpisodeId × ℕ)
  /-- The last failure. -/
  lastFailure : Option FailureRecord
  /-- The recent failures, oldest first. -/
  recentFailures : List FailureRecord
  /-- The failures by class. -/
  failureTotals : FailureTotals
  /-- How many attempts failed in a row. -/
  consecutiveFailedAttempts : UInt64

/-- The account of an attempt. -/
def account (a : AttemptState) : AttemptAccount := ⟨a.id, a.streamStarted, a.failure.isSome⟩

/-- The books of a state. -/
def books (s : RetryState historyCapacity) : Books where
  generation := s.intentGeneration
  attemptsStarted := s.attemptsStarted
  attempt := s.currentAttempt.map account
  episode := s.episodeCount
  lastFailure := s.lastFailure
  recentFailures := s.recentFailures
  failureTotals := s.failureTotals
  consecutiveFailedAttempts := s.consecutiveFailedAttempts

/-- The books of a generation that starts. -/
def Books.opened (generation : Option IntentGeneration) : Books :=
  ⟨generation, 0, none, none, none, [], .zero, 0⟩

/-- The bounded history with one more record. -/
def Books.push (historyCapacity : ℕ) (b : Books) (record : FailureRecord) : List FailureRecord :=
  if b.recentFailures.length = historyCapacity then b.recentFailures.tail ++ [record]
  else b.recentFailures ++ [record]

/-- What an event can do to the books. -/
inductive Entry (historyCapacity : ℕ) (b : Books) : Event → Books → Prop
  /-- An event that the ledger does not read leaves them. -/
  | kept (e : Event) (unread : ∀ ledger : Ledger, ledger.post e = ledger) :
      Entry historyCapacity b e b
  /-- A start opens them. -/
  | opened (operation : Operation) (generation : IntentGeneration) :
      Entry historyCapacity b (operation, .ok (.generation generation)) (.opened (some generation))
  /-- An attempt is numbered; an automatic one is counted in its episode too. -/
  | committed (operation : Operation) (id : AttemptId)
      (episode : Option (RecoveryEpisodeId × ℕ))
      (number : id.ordinal.get.toNat = b.attemptsStarted.toNat + 1)
      (counted : episode = b.episode ∨
        ∃ current n, b.episode = some (current, n) ∧ episode = some (current, n + 1)) :
      Entry historyCapacity b (operation, .ok (.attempt id)) { b with
        attemptsStarted := id.ordinal.get
        attempt := some ⟨id, false, false⟩
        episode := episode }
  /-- The stream of the current attempt starts. -/
  | streamed (a : AttemptAccount) (current : b.attempt = some a) :
      Entry historyCapacity b (.recordStreamStarted a.id, .ok .done)
        { b with attempt := some { a with streamStarted := true } }
  /-- The current attempt fails, in the current episode or in the generation's first. -/
  | failed (a : AttemptAccount) (cause : RetryFailureCause) (episode : RecoveryEpisodeId × ℕ)
      (totals : FailureTotals) (consecutive : UInt64) (current : b.attempt = some a)
      (once : a.failed = false)
      (belongs : b.episode = some episode ∨
        b.episode = none ∧ ∃ g, b.generation = some g ∧ episode = (⟨g, ⟨1⟩⟩, 0))
      (counted : b.failureTotals.checkedWithRecord cause = .ok totals)
      (inRow : consecutive.toNat = b.consecutiveFailedAttempts.toNat + 1) :
      Entry historyCapacity b (.recordFailure a.id cause, .ok .done) { b with
        episode := some episode
        failureTotals := totals
        consecutiveFailedAttempts := consecutive
        recentFailures := b.push historyCapacity ⟨a.id, episode.1, cause, a.streamStarted⟩
        lastFailure := some ⟨a.id, episode.1, cause, a.streamStarted⟩
        attempt := some { a with failed := true } }
  /-- The next episode begins. -/
  | advanced (operation : Operation) (id : RecoveryEpisodeId) (opened : b.episode.isSome) :
      Entry historyCapacity b (operation, .ok (.episode id)) { b with
        episode := some (id, 0)
        consecutiveFailedAttempts := 0 }

section Entries

variable {s s' : RetryState historyCapacity}

/-- The refresh keeps the books. -/
@[simp]
theorem books_refresh (s : RetryState historyCapacity) :
    s.refreshPostFailurePhase.books = s.books := by
  rcases s.refreshPostFailurePhase_eq with heq | ⟨a, ha, -, heq⟩
  · rw [heq]
  · rw [heq]
    simp only [books, ha]
    rfl

/-- An attempt that is committed takes the next number. -/
theorem commitAttempt_number {kind : AttemptKind} {id : AttemptId}
    (h : s.commitAttempt kind = .ok (id, s')) :
    s'.attemptsStarted = id.ordinal.get ∧
      id.ordinal.get.toNat = s.attemptsStarted.toNat + 1 := by
  unfold commitAttempt at h
  obtain ⟨generation, -, h⟩ := Result.bind_eq_ok.mp h
  obtain ⟨attemptsStarted, hnext, h⟩ := Result.bind_eq_ok.mp h
  obtain ⟨episode, -, h⟩ := Result.bind_eq_ok.mp h
  obtain ⟨revision, -, h⟩ := Result.bind_eq_ok.mp h
  cases h
  exact ⟨rfl, increment_eq_ok.mp hnext⟩

/-- A start opens the books. -/
theorem books_explicitStart {configurationId : RecoveryConfigurationIdentity}
    {generation : IntentGeneration} (h : s.explicitStart configurationId = .ok (generation, s')) :
    s'.books = .opened (some generation) := by
  unfold explicitStart at h
  obtain ⟨_, -, h⟩ := Result.bind_eq_ok.mp h
  obtain ⟨_, -, h⟩ := Result.bind_eq_ok.mp h
  obtain ⟨next, -, h⟩ := Result.bind_eq_ok.mp h
  cases h
  rfl

/-- A committed attempt is entered. -/
theorem Entry.commitAttempt {kind : AttemptKind} {id : AttemptId} (operation : Operation)
    (h : s.commitAttempt kind = .ok (id, s')) :
    Entry historyCapacity s.books (operation, .ok (.attempt id)) s'.books := by
  obtain ⟨hnumber, hnext⟩ := commitAttempt_number h
  have hcounted : s'.episodeCount = s.episodeCount ∨ ∃ current n,
      s.episodeCount = some (current, n) ∧ s'.episodeCount = some (current, n + 1) := by
    cases kind with
    | explicitStart => exact .inl (episodeCount_initial h)
    | automaticRecovery => exact .inr (episodeCount_automatic h)
  obtain ⟨-, -, episode, attemptsStarted, revision, -, rfl⟩ := commitAttempt_ok h
  obtain rfl : attemptsStarted = id.ordinal.get := hnumber
  exact .committed operation id _ hnext hcounted

/-- A failure that is recorded is entered. -/
theorem Entry.recordFailure {attemptId : AttemptId} {cause : RetryFailureCause}
    (h : s.recordFailure attemptId cause = .ok s') :
    Entry historyCapacity s.books (.recordFailure attemptId cause, .ok .done) s'.books := by
  obtain ⟨a, episode, totals, consecutive, revision, ha, rfl, hfailure, -, hepisode,
    ⟨htotals, hconsecutive⟩, -, rfl⟩ := recordFailure_ok h
  rw [books_refresh]
  refine Entry.failed (account a) cause (episode.id, episode.automaticRecoveryAttemptsStarted.toNat)
    totals consecutive (by simp [books, ha]) (by simp [account, hfailure]) ?_ htotals
    (increment_eq_ok.mp hconsecutive)
  -- The record names the current episode, or the generation's first.
  unfold failureEpisode at hepisode
  split at hepisode
  next current hcurrent =>
    cases hepisode
    exact .inl (by simp [books, episodeCount, hcurrent])
  next hnone =>
    obtain ⟨g, hg, hepisode⟩ := Result.bind_eq_ok.mp hepisode
    cases hepisode
    exact .inr ⟨by simp [books, episodeCount, hnone], g, okOr_eq_ok.mp hg, rfl⟩

/-- A fact about the current attempt that is not in its account keeps the books. -/
theorem books_record {a b : AttemptState} {phase : RetryPhase} {revision : StateRevision}
    (ha : s.currentAttempt = some a) (hsame : account b = account a) :
    books ({ s with currentAttempt := some b, phase := phase, stateRevision := revision } :
      RetryState historyCapacity) = s.books := by
  simp only [books, ha, Option.map_some, hsame]
  rfl

/-- What an operation that succeeds enters. -/
theorem Entry.of_perform {operation : Operation} {output : Output}
    (hop : s.perform operation = .ok (output, s')) :
    Entry historyCapacity s.books (operation, .ok output) s'.books := by
  have hkept : ∀ {e : Event}, s'.books = s.books → (∀ ledger : Ledger, ledger.post e = ledger) →
      Entry historyCapacity s.books e s'.books := by
    intro e hsame hunread
    rw [hsame]
    exact .kept e hunread
  -- The facts of an attempt that the accounts do not read keep the books.
  cases Performs.of_perform hop with
  | explicitStart configurationId generation ht =>
    rw [books_explicitStart ht]
    exact .opened _ generation
  | explicitStop generation ht =>
    obtain ⟨-, revision, rfl⟩ := explicitStop_ok ht
    exact hkept rfl fun _ => rfl
  | commitInitialAttempt generation id ht => exact .commitAttempt _ (commitInitialAttempt_ok ht).2
  | commitRecoveryAttempt authorization id ht =>
    exact .commitAttempt _ (commitRecoveryAttempt_ok ht).2.2.2.2
  | recordOwnerCreated attemptId ht =>
    obtain ⟨-, a, revision, ha, -, -, rfl⟩ := recordOwnerCreated_ok ht
    exact hkept (books_record ha rfl) fun _ => rfl
  | recordStreamStarted attemptId ht =>
    obtain ⟨-, a, revision, ha, rfl, -, rfl⟩ := recordStreamStarted_ok ht
    exact .streamed (account a) (by simp [books, ha])
  | recordNormalCompletion attemptId ht =>
    obtain ⟨-, a, revision, ha, -, -, -, rfl⟩ := recordNormalCompletion_ok ht
    exact hkept (books_record ha rfl) fun _ => rfl
  | recordFailure attemptId cause ht => exact .recordFailure ht
  | recordTerminalEventDelivered attemptId ht =>
    obtain ⟨a, revision, ha, -, -, -, -, rfl⟩ := recordTerminalEventDelivered_ok ht
    exact hkept ((books_refresh _).trans (books_record ha rfl)) fun _ => rfl
  | recordCleanupComplete attemptId ht =>
    obtain ⟨a, revision, ha, -, -, rfl⟩ := recordCleanupComplete_ok ht
    exact hkept ((books_refresh _).trans (books_record ha rfl)) fun _ => rfl
  | requireCooldown evaluated marker ht =>
    obtain ⟨-, -, a, revision, -, rfl⟩ := requireCooldown_ok ht
    exact hkept rfl fun _ => rfl
  | satisfyCooldown generation marker evidence ht =>
    obtain ⟨-, -, requirement, revision, -, -, rfl⟩ := satisfyCooldown_ok ht
    exact hkept rfl fun _ => rfl
  | markExhausted evaluated reason ht =>
    obtain ⟨-, -, episode, exhaustion, revision, hepisode, rfl⟩ := markExhausted_ok ht
    exact hkept (by simp [books, episodeCount, hepisode]) fun _ => rfl
  | advanceRecoveryEpisode generation evidence id ht =>
    obtain ⟨-, -, -, ⟨previous, hprevious, -⟩, revision, rfl⟩ := advanceRecoveryEpisode_ok ht
    exact .advanced _ id (by simp [books, episodeCount, hprevious])
  | snapshot r hr => exact hkept rfl fun _ => rfl

/-- What a step enters. -/
theorem Entry.of_step {e : Event} (h : (operations historyCapacity).step s e s') :
    Entry historyCapacity s.books e s'.books := by
  obtain ⟨operation, outcome⟩ := e
  rw [operations_step] at h
  cases outcome with
  | ok output => exact .of_perform (apply_eq_ok.mp h)
  | error error =>
    rw [eq_of_apply_error h]
    exact .kept _ fun _ => rfl

end Entries

/-! ## The books balance -/

/-- A bounded list that drops its first element for a new one where it is full keeps the last ones.
-/
theorem rtake_push {α : Type*} {capacity : ℕ} (hcapacity : 0 < capacity) (xs : List α) (x : α) :
    (if (xs.rtake capacity).length = capacity then (xs.rtake capacity).tail ++ [x]
      else xs.rtake capacity ++ [x]) = (xs ++ [x]).rtake capacity := by
  obtain ⟨n, rfl⟩ : ∃ n, capacity = n + 1 := ⟨capacity - 1, by omega⟩
  rw [List.rtake_concat_succ]
  unfold List.rtake
  split_ifs with hfull
  · -- A full list gives up its oldest element.
    rw [List.length_drop] at hfull
    rw [List.tail_drop]
    have hnext : xs.length - (n + 1) + 1 = xs.length - n := by omega
    rw [hnext]
  · -- A list that is not full has all of them.
    rw [List.length_drop] at hfull
    have hall : xs.length - (n + 1) = 0 := by omega
    have hall' : xs.length - n = 0 := by omega
    rw [hall, hall']

/-- The attempts that may still fail: the current one, until it failed. -/
def Books.failable (b : Books) : List AttemptId :=
  b.attempt.elim [] fun a => if a.failed then [] else [a.id]

/-- What the books keep of the ledger. -/
structure Balanced (historyCapacity : ℕ) (ledger : Ledger) (b : Books) : Prop where
  /-- The current episode is the one that failures belong to. -/
  episode : ∀ e, b.episode = some e → ledger.episode = e.1
  /-- Before the first episode, that is the generation's first. -/
  unopened : b.episode = none → ∀ g, b.generation = some g → ledger.episode = ⟨g, ⟨1⟩⟩
  /-- The stream of the current attempt started where the last attempt's did. -/
  streamed : ∀ a, b.attempt = some a → ledger.streamStarted = a.streamStarted
  /-- The committed attempts are numbered from 1. -/
  numbered : ledger.attempts.map (fun id => id.ordinal.get.toNat)
    = List.range' 1 b.attemptsStarted.toNat
  /-- The failures are of committed attempts in order, and the current attempt is after them until
  it fails. -/
  ordered : (ledger.failures.map FailureRecord.attemptId ++ b.failable).Sublist ledger.attempts
  /-- The history is the last failures. -/
  recent : b.recentFailures = ledger.failures.rtake historyCapacity
  /-- The last failure is the last one. -/
  last : b.lastFailure = ledger.failures.getLast?
  /-- The totals count the failures. -/
  tally : b.failureTotals.Tally ledger.failures
  /-- The failures in a row are failures. -/
  inRow : b.consecutiveFailedAttempts.toNat ≤ ledger.failures.length
  /-- An episode counts fewer automatic attempts than there are attempts. -/
  automatic : ∀ e, b.episode = some e → e.2 < b.attemptsStarted.toNat

section Balance

variable {ledger : Ledger} {b b' : Books} {e : Event}

/-- Fresh books balance a fresh ledger. -/
theorem Balanced.opened {generation : Option IntentGeneration} {g : IntentGeneration}
    (hgeneration : ∀ g', generation = some g' → g' = g) :
    Balanced historyCapacity (.opened g) (.opened generation) where
  episode := by rintro e ⟨⟩
  unopened := by
    rintro - g' hg'
    rw [hgeneration g' hg']
    rfl
  streamed := by rintro a ⟨⟩
  numbered := rfl
  ordered := List.Sublist.refl []
  recent := (List.rtake_nil historyCapacity).symm
  last := rfl
  tally := ⟨rfl, fun c => by cases c <;> rfl⟩
  inRow := Nat.le_refl 0
  automatic := by rintro e ⟨⟩

/-- There are as many attempts as were started. -/
theorem Balanced.length_attempts (h : Balanced historyCapacity ledger b) :
    ledger.attempts.length = b.attemptsStarted.toNat := by
  have hlength := congrArg List.length h.numbered
  rwa [List.length_map, List.length_range'] at hlength

/-- No attempt is committed twice. -/
theorem Balanced.nodup_attempts (h : Balanced historyCapacity ledger b) :
    ledger.attempts.Nodup := by
  apply List.Nodup.of_map fun id => id.ordinal.get.toNat
  rw [h.numbered]
  exact List.nodup_range'

/-- A committed attempt keeps the balance: it takes the next number, and no failure is of it. -/
theorem Balanced.committed (h : Balanced historyCapacity ledger b) {id : AttemptId}
    {episode : Option (RecoveryEpisodeId × ℕ)}
    (hnumber : id.ordinal.get.toNat = b.attemptsStarted.toNat + 1)
    (hcounted : episode = b.episode ∨
      ∃ current n, b.episode = some (current, n) ∧ episode = some (current, n + 1)) :
    Balanced historyCapacity
      { ledger with streamStarted := false, attempts := ledger.attempts ++ [id] }
      { b with
        attemptsStarted := id.ordinal.get
        attempt := some ⟨id, false, false⟩
        episode := episode } where
  episode := by
    intro e he
    rcases hcounted with hsame | ⟨current, n, hbefore, hafter⟩
    · exact h.episode e (hsame ▸ he)
    · obtain rfl := Option.some.inj (hafter.symm.trans he)
      exact h.episode (current, n) hbefore
  unopened := by
    intro he
    rcases hcounted with hsame | ⟨current, n, -, hafter⟩
    · exact h.unopened (hsame ▸ he)
    · cases hafter.symm.trans he
  streamed := by
    rintro _ ⟨⟩
    rfl
  numbered := by
    rw [List.map_append, h.numbered, List.map_singleton, hnumber, List.range'_1_concat,
      Nat.add_comm 1]
  ordered := by
    -- The failures so far are of earlier attempts.
    have hfailures := (List.sublist_append_left _ b.failable).trans h.ordered
    exact hfailures.append (List.Sublist.refl [id])
  recent := h.recent
  last := h.last
  tally := h.tally
  inRow := h.inRow
  automatic := by
    intro e he
    show e.2 < id.ordinal.get.toNat
    rw [hnumber]
    rcases hcounted with hsame | ⟨current, n, hbefore, hafter⟩
    · exact (h.automatic e (hsame ▸ he)).trans (Nat.lt_succ_self _)
    · obtain rfl := Option.some.inj (hafter.symm.trans he)
      exact Nat.succ_lt_succ (h.automatic _ hbefore)

/-- A stream that starts keeps the balance. -/
theorem Balanced.streamStarted (h : Balanced historyCapacity ledger b) {a : AttemptAccount}
    (hcurrent : b.attempt = some a) :
    Balanced historyCapacity { ledger with streamStarted := true }
      { b with attempt := some { a with streamStarted := true } } where
  episode := h.episode
  unopened := h.unopened
  streamed := by
    rintro _ ⟨⟩
    rfl
  numbered := h.numbered
  ordered := by
    have hordered := h.ordered
    unfold Books.failable at hordered ⊢
    rwa [hcurrent] at hordered
  recent := h.recent
  last := h.last
  tally := h.tally
  inRow := h.inRow
  automatic := h.automatic

/-- A failure that is recorded keeps the balance: the record of the state is the ledger's, and the
attempt that failed is the one that came after the failures. -/
theorem Balanced.failed (h : Balanced historyCapacity ledger b) (hcapacity : 0 < historyCapacity)
    {a : AttemptAccount} {cause : RetryFailureCause} {episode : RecoveryEpisodeId × ℕ}
    {totals : FailureTotals} {consecutive : UInt64} (hcurrent : b.attempt = some a)
    (honce : a.failed = false)
    (hbelongs : b.episode = some episode ∨
      b.episode = none ∧ ∃ g, b.generation = some g ∧ episode = (⟨g, ⟨1⟩⟩, 0))
    (hcounted : b.failureTotals.checkedWithRecord cause = .ok totals)
    (hinRow : consecutive.toNat = b.consecutiveFailedAttempts.toNat + 1) :
    Balanced historyCapacity (ledger.post (.recordFailure a.id cause, .ok .done)) { b with
      episode := some episode
      failureTotals := totals
      consecutiveFailedAttempts := consecutive
      recentFailures := b.push historyCapacity ⟨a.id, episode.1, cause, a.streamStarted⟩
      lastFailure := some ⟨a.id, episode.1, cause, a.streamStarted⟩
      attempt := some { a with failed := true } } := by
  -- The ledger enters the record that the state keeps.
  have hepisode : ledger.episode = episode.1 := by
    rcases hbelongs with hcurrent | ⟨hnone, g, hg, rfl⟩
    · exact h.episode episode hcurrent
    · exact h.unopened hnone g hg
  obtain ⟨record, hrecord⟩ : ∃ record : FailureRecord,
      record = ⟨a.id, episode.1, cause, a.streamStarted⟩ := ⟨_, rfl⟩
  have hposted : ledger.post (.recordFailure a.id cause, .ok .done)
      = { ledger with failures := ledger.failures ++ [record] } := by
    rw [hrecord, ← hepisode, ← h.streamed a hcurrent]
    rfl
  -- The attempt that fails is in the ledger, after those that failed before.
  have hordered : (ledger.failures.map FailureRecord.attemptId ++ [a.id]).Sublist
      ledger.attempts := by
    have hordered := h.ordered
    unfold Books.failable at hordered
    rw [hcurrent, Option.elim_some, honce] at hordered
    exact hordered
  have hstarted : 0 < b.attemptsStarted.toNat := by
    have hlength := hordered.length_le
    rw [h.length_attempts, List.length_append, List.length_singleton] at hlength
    omega
  rw [hposted, ← hrecord]
  constructor
  case episode =>
    rintro _ ⟨⟩
    exact hepisode
  case unopened => rintro ⟨⟩
  case streamed =>
    rintro _ ⟨⟩
    exact h.streamed a hcurrent
  case numbered => exact h.numbered
  case ordered =>
    simpa [Books.failable, hrecord] using hordered
  case recent =>
    rw [← rtake_push hcapacity, ← h.recent]
    rfl
  case last => simp
  case tally => exact h.tally.snoc (by rw [hrecord]; exact hcounted)
  case inRow =>
    rw [List.length_append, List.length_singleton, hinRow]
    exact Nat.succ_le_succ h.inRow
  case automatic =>
    rintro _ ⟨⟩
    rcases hbelongs with hcurrent | ⟨-, g, -, rfl⟩
    · exact h.automatic episode hcurrent
    · exact hstarted

/-- Every entry keeps the balance. -/
theorem Balanced.entry (h : Balanced historyCapacity ledger b) (hcapacity : 0 < historyCapacity)
    (hentry : Entry historyCapacity b e b') : Balanced historyCapacity (ledger.post e) b' := by
  cases hentry with
  | kept e unread =>
    rw [unread]
    exact h
  | opened operation generation =>
    refine Balanced.opened ?_
    rintro g ⟨⟩
    rfl
  | committed operation id episode number counted => exact h.committed number counted
  | streamed a current => exact h.streamStarted current
  | failed a cause episode totals consecutive current once belongs counted inRow =>
    exact h.failed hcapacity current once belongs counted inRow
  | advanced operation id opened =>
    -- There was an episode, so there was an attempt.
    obtain ⟨previous, hprevious⟩ := Option.isSome_iff_exists.mp opened
    refine ⟨?_, ?_, h.streamed, h.numbered, h.ordered, h.recent, h.last, h.tally, Nat.zero_le _, ?_⟩
    · rintro _ ⟨⟩
      rfl
    · rintro ⟨⟩
    · rintro _ ⟨⟩
      exact (Nat.zero_le _).trans_lt (h.automatic previous hprevious)

/-- After every run the books balance the ledger of its events. -/
theorem Balanced.of_run {s₀ s : RetryState historyCapacity} {events : List Event}
    (hnew : RetryState.new historyCapacity = .ok s₀)
    (hrun : (operations historyCapacity).Run s₀ events s) :
    Balanced historyCapacity (.ofEvents events) s.books := by
  have hcapacity : 0 < historyCapacity := by
    unfold RetryState.new at hnew
    obtain ⟨_, hpositive, -⟩ := Result.bind_eq_ok.mp hnew
    exact Nat.pos_of_ne_zero (failIf_eq_ok.mp hpositive)
  obtain rfl := eq_of_new hnew
  apply TransitionSystem.Run.history
    (I := fun events s => Balanced historyCapacity (.ofEvents events) s.books) _ _ hrun
  · exact .opened (by rintro _ ⟨⟩)
  · intro events t e t' _ ht hstep
    rw [Ledger.ofEvents_snoc]
    exact ht.entry hcapacity (.of_step hstep)

end Balance

/-! ## The whole statement -/

/-- What the state says of the failures that were recorded in the current generation. -/
structure Accounted (failures : List FailureRecord) (s : RetryState historyCapacity) : Prop where
  /-- The history is the last of them, as many as it holds. -/
  recent : s.recentFailures = failures.rtake (min historyCapacity failures.length)
  /-- The last failure is the last of them. -/
  last : s.lastFailure = failures.getLast?
  /-- Every counter is the number of them in its class. -/
  counter : ∀ c, (s.failureTotals.counter c).toNat
    = failures.countP fun record => Recovery.failureClass record.cause = c
  /-- The counters sum to the total. -/
  sum : ∑ c, (s.failureTotals.counter c).toNat = s.failureTotals.total.toNat
  /-- The total is their number. -/
  total : s.failureTotals.total.toNat = failures.length
  /-- At most one is of an attempt. -/
  once : ∀ id, (failures.countP fun record => record.attemptId = id) ≤ 1
  /-- Those in a row are among them. -/
  inRow : s.consecutiveFailedAttempts.toNat ≤ failures.length
  /-- There are no more of them than attempts. -/
  attempts : failures.length ≤ s.attemptsStarted.toNat
  /-- An episode counts fewer automatic attempts than there are attempts. -/
  automatic : ∀ episode, s.recoveryEpisode = some episode →
    episode.automaticRecoveryAttemptsStarted < s.attemptsStarted

/-- After every run the state accounts exactly for the failures that were recorded since the last
start, each of one attempt. -/
theorem failures_accounted {s₀ s : RetryState historyCapacity} {events : List Event}
    (hnew : RetryState.new historyCapacity = .ok s₀)
    (hrun : (operations historyCapacity).Run s₀ events s) :
    Accounted (recordedFailures events) s := by
  have hbalanced := Balanced.of_run hnew hrun
  -- The failures are of different attempts of the generation.
  have hfailed := (List.sublist_append_left _ _).trans hbalanced.ordered
  constructor
  case recent =>
    have hsame : s.recentFailures = (recordedFailures events).rtake historyCapacity :=
      hbalanced.recent
    rw [hsame]
    unfold List.rtake
    congr 1
    omega
  case last => exact hbalanced.last
  case counter =>
    intro c
    have hcounter : (s.failureTotals.counter c).toNat = _ := hbalanced.tally.counter c
    rw [hcounter, List.count_eq_countP, List.countP_map]
    rfl
  case sum => exact hbalanced.tally.sum_counter
  case total => exact hbalanced.tally.total
  case once =>
    intro id
    have honce := List.nodup_iff_count_le_one.mp (hfailed.nodup hbalanced.nodup_attempts) id
    rw [List.count_eq_countP, List.countP_map] at honce
    exact honce
  case inRow => exact hbalanced.inRow
  case attempts =>
    have hlength := hfailed.length_le
    rwa [hbalanced.length_attempts, List.length_map] at hlength
  case automatic =>
    intro episode hepisode
    have hautomatic := hbalanced.automatic
      (episode.id, episode.automaticRecoveryAttemptsStarted.toNat)
      (by simp [books, episodeCount, hepisode])
    exact UInt64.lt_iff_toNat_lt.mpr hautomatic

/-- A start, an attempt that fails, and an automatic one that fails after it, which the history
drops the first failure for. -/
def failingTwiceScript : List (RetryState 1 → Operation) :=
  [fun _ => .explicitStart ⟨1, .first, 0⟩,
    fun _ => .commitInitialAttempt ⟨1⟩,
    fun _ => .recordFailure ⟨⟨1⟩, ⟨1⟩⟩ .startupFailure,
    fun _ => .recordCleanupComplete ⟨⟨1⟩, ⟨1⟩⟩,
    fun s => .commitRecoveryAttempt
      ⟨⟨1⟩, s.stateRevision, ⟨1, .first, 0⟩, some ⟨⟨1⟩, ⟨1⟩⟩, some ⟨⟨1⟩, ⟨1⟩⟩, .retryEligible⟩,
    fun _ => .recordOwnerCreated ⟨⟨1⟩, ⟨2⟩⟩,
    fun _ => .recordStreamStarted ⟨⟨1⟩, ⟨2⟩⟩,
    fun _ => .recordFailure ⟨⟨1⟩, ⟨2⟩⟩ .interrupted]

/-- Two failed attempts, of which a history of one failure holds the second. -/
theorem failures_accounted_twice :
    recordedFailures (freshState.record failingTwiceScript).1 =
        [⟨⟨⟨1⟩, ⟨1⟩⟩, ⟨⟨1⟩, ⟨1⟩⟩, .startupFailure, false⟩,
          ⟨⟨⟨1⟩, ⟨2⟩⟩, ⟨⟨1⟩, ⟨1⟩⟩, .interrupted, true⟩] ∧
      Accounted (recordedFailures (freshState.record failingTwiceScript).1)
        (freshState.record failingTwiceScript).2 :=
  ⟨by decide, failures_accounted rfl (run_record freshState failingTwiceScript)⟩

end RetryState

end ResonanceSignal
