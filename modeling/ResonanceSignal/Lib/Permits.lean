import Mathlib.Data.Finset.Card
import ResonanceSignal.Lib.Transition

/-!
# Counting permits

A bounded number of permits for any number of threads, kept as one number that the threads read and
replace: a thread that asks reads the number, gives up where it has reached the limit, and otherwise
replaces the number that it read by the next one, if it is still there; if it is not, or the
exchange fails for no reason, the thread goes on with the number that is there now. A thread that is
done takes one off.

What the permits are for is a set of holders of bounded size (`Pool`), into which a thread is put at
once or not at all: every step is one of the pool, or changes nothing there (`Moves.exists_pool`).

The permits are part of a larger system (`Hosts`). In every run of it, the number is that of the
holders (`Hosts.pooled`), so no more threads hold a permit than there are; and a thread is refused
only if at some moment since it asked, every permit was held (`Hosts.full_of_refused`).
-/

/-- Where a thread is. -/
inductive PermitPlace
  /-- It has not asked, or it is done. -/
  | outside
  /-- It has read the number. -/
  | observed (n : ℕ)
  | holding
  | refused
deriving DecidableEq

/-- The number of permits that are held, and where the threads are. -/
structure Permits (ι : Type*) where
  active : ℕ
  place : ι → PermitPlace

/-- A set of threads, of bounded size. -/
structure Pool (ι : Type*) (limit : ℕ) where
  holders : Finset ι
  card_le : holders.card ≤ limit

namespace Pool

variable {ι : Type*} [DecidableEq ι] {limit : ℕ}

/-- What a pool is for: a thread comes in where there is room, and a thread goes out. -/
inductive Step : Pool ι limit → Pool ι limit → Prop
  | take {pool pool' : Pool ι limit} (i : ι) (hi : i ∉ pool.holders)
    (hroom : pool.holders.card < limit) (hpool : pool'.holders = insert i pool.holders) :
    Step pool pool'
  | give {pool pool' : Pool ι limit} (i : ι) (hi : i ∈ pool.holders)
    (hpool : pool'.holders = pool.holders.erase i) : Step pool pool'

end Pool

namespace Permits

variable {ι : Type*} [DecidableEq ι]

/-- Nobody holds a permit. -/
def initial : Permits ι := ⟨0, fun _ => .outside⟩

/-- A thread goes somewhere. -/
def moved (self : Permits ι) (i : ι) (place : PermitPlace) : Permits ι :=
  { self with place := Function.update self.place i place }

/-- A thread asks, and reads the number. -/
def load (self : Permits ι) (i : ι) : Option (Permits ι) :=
  match self.place i with
  | .outside => some (self.moved i (.observed self.active))
  | _ => none

/-- A thread that has read the number gives up, or tries to replace it by the next one. -/
def exchange (limit : ℕ) (self : Permits ι) (i : ι) (spurious : Bool) : Option (Permits ι) :=
  match self.place i with
  | .observed n =>
    if limit ≤ n then some (self.moved i .refused)
    else if self.active = n ∧ spurious = false then
      some { self.moved i .holding with active := n + 1 }
    else some (self.moved i (.observed self.active))
  | _ => none

/-- A thread that holds a permit gives it back. -/
def release (self : Permits ι) (i : ι) : Option (Permits ι) :=
  match self.place i with
  | .holding => some { self.moved i .outside with active := self.active - 1 }
  | _ => none

variable {limit : ℕ} {s s' : Permits ι} {i j : ι}

/-- The thread that moves is at the place that it moves to. -/
theorem moved_place (place : PermitPlace) : (s.moved i place).place i = place := by
  unfold moved
  exact Function.update_self ..

/-- The other threads stay where they are. -/
theorem moved_place_of_ne (place : PermitPlace) (h : j ≠ i) :
    (s.moved i place).place j = s.place j := by
  unfold moved
  exact Function.update_of_ne h ..

/-! ## What a step does -/

/-- What becomes of a thread. -/
inductive Moves (limit : ℕ) (s : Permits ι) : Permits ι → Prop
  /-- It reads the number, for the first time or after an exchange that failed. -/
  | read (i : ι) (hplace : s.place i ≠ .holding) (hplace' : s.place i ≠ .refused) :
    Moves limit s (s.moved i (.observed s.active))
  /-- It is refused. -/
  | refused (i : ι) {n : ℕ} (hplace : s.place i = .observed n) (hfull : limit ≤ n) :
    Moves limit s (s.moved i .refused)
  /-- It takes a permit. -/
  | taken (i : ι) (hplace : s.place i = .observed s.active) (hroom : s.active < limit) :
    Moves limit s { s.moved i .holding with active := s.active + 1 }
  /-- It gives its permit back. -/
  | given (i : ι) (hplace : s.place i = .holding) :
    Moves limit s { s.moved i .outside with active := s.active - 1 }

/-- A thread that asks reads the number. -/
theorem moves_of_load (h : s.load i = some s') : Moves limit s s' := by
  unfold load at h
  split at h
  next hplace =>
    cases h
    exact .read i (by rw [hplace]; rintro ⟨⟩) (by rw [hplace]; rintro ⟨⟩)
  next => cases h

/-- A thread that has read the number is refused, takes a permit, or reads it again. -/
theorem moves_of_exchange {spurious : Bool} (h : s.exchange limit i spurious = some s') :
    Moves limit s s' := by
  unfold exchange at h
  split at h
  next n hplace =>
    split_ifs at h with hfull hsame
    · cases h
      exact .refused i hplace hfull
    · cases h
      obtain ⟨rfl, -⟩ := hsame
      exact .taken i hplace (Nat.lt_of_not_le hfull)
    · cases h
      exact .read i (by rw [hplace]; rintro ⟨⟩) (by rw [hplace]; rintro ⟨⟩)
  next => cases h

/-- A thread gives back the permit that it holds. -/
theorem release_eq_some (h : s.release i = some s') : s.place i = .holding ∧
    s' = { s.moved i .outside with active := s.active - 1 } := by
  unfold release at h
  split at h
  next hplace =>
    cases h
    exact ⟨hplace, rfl⟩
  next => cases h

/-- A thread that was refused stays so. -/
theorem Moves.refused_of_refused (h : Moves limit s s') (hj : s.place j = .refused) :
    s'.place j = .refused := by
  have hstays {place : PermitPlace} {i : ι} (hplace : s.place i ≠ .refused) :
      (s.moved i place).place j = .refused := by
    rw [moved_place_of_ne place (by rintro rfl; exact hplace hj)]
    exact hj
  cases h with
  | read i hplace hplace' => exact hstays hplace'
  | refused i hplace hfull => exact hstays (by rw [hplace]; rintro ⟨⟩)
  | taken i hplace hroom => exact hstays (by rw [hplace]; rintro ⟨⟩)
  | given i hplace => exact hstays (by rw [hplace]; rintro ⟨⟩)

/-- Where another thread moves, a permit that is held stays so. -/
theorem moved_holding {place : PermitPlace} (hplace : s.place i ≠ .holding)
    (hj : s.place j = .holding) : (s.moved i place).place j = .holding := by
  rw [moved_place_of_ne place (by rintro rfl; exact hplace hj)]
  exact hj

/-- Where a thread asks, the permits that are held stay so. -/
theorem holding_of_load (h : s.load i = some s') (hj : s.place j = .holding) :
    s'.place j = .holding := by
  unfold load at h
  split at h
  next hplace =>
    cases h
    exact moved_holding (by rw [hplace]; rintro ⟨⟩) hj
  next => cases h

/-- Where a thread is refused or takes a permit, the permits that are held stay so. -/
theorem holding_of_exchange {spurious : Bool} (h : s.exchange limit i spurious = some s')
    (hj : s.place j = .holding) : s'.place j = .holding := by
  unfold exchange at h
  split at h
  next n hplace =>
    have hheld : s.place i ≠ .holding := by
      rw [hplace]
      rintro ⟨⟩
    split_ifs at h with hfull hsame
    · cases h
      exact moved_holding hheld hj
    · cases h
      exact moved_holding hheld hj
    · cases h
      exact moved_holding hheld hj
  next => cases h

/-- The pool of the threads that hold a permit. -/
structure Abstracts (s : Permits ι) (pool : Pool ι limit) : Prop where
  holding : ∀ i, s.place i = .holding ↔ i ∈ pool.holders
  active : pool.holders.card = s.active

/-- A step is one of the pool, or changes nothing there. -/
theorem Moves.exists_pool {pool : Pool ι limit} (hpool : s.Abstracts pool)
    (h : Moves limit s s') : ∃ pool', s'.Abstracts pool' ∧ (pool' = pool ∨ pool.Step pool') := by
  -- A thread that did not hold a permit and does not take one changes nothing.
  have hsame {place : PermitPlace} {i : ι} (hbefore : s.place i ≠ .holding)
      (hafter : place ≠ .holding) : (s.moved i place).Abstracts pool := by
    refine ⟨fun j => ?_, hpool.active⟩
    by_cases hj : j = i
    · subst hj
      rw [moved_place]
      exact iff_of_false hafter fun hmem => hbefore ((hpool.holding j).mpr hmem)
    · rw [moved_place_of_ne place hj]
      exact hpool.holding j
  cases h with
  | read i hplace hplace' => exact ⟨pool, hsame hplace (by rintro ⟨⟩), .inl rfl⟩
  | refused i hplace hfull =>
    exact ⟨pool, hsame (by rw [hplace]; rintro ⟨⟩) (by rintro ⟨⟩), .inl rfl⟩
  | taken i hplace hroom =>
    have hi : i ∉ pool.holders := by
      rw [← hpool.holding i, hplace]
      rintro ⟨⟩
    have hcard : (insert i pool.holders).card = s.active + 1 := by
      rw [Finset.card_insert_of_notMem hi, hpool.active]
    refine ⟨⟨insert i pool.holders, hcard ▸ hroom⟩, ⟨fun j => ?_, hcard⟩,
      .inr (.take i hi (hpool.active ▸ hroom) rfl)⟩
    rw [Finset.mem_insert]
    by_cases hj : j = i
    · subst hj
      exact iff_of_true (moved_place _) (.inl rfl)
    · show (s.moved i .holding).place j = .holding ↔ _
      rw [moved_place_of_ne _ hj, hpool.holding j, or_iff_right hj]
  | given i hplace =>
    have hi : i ∈ pool.holders := (hpool.holding i).mp hplace
    have hcard : (pool.holders.erase i).card = s.active - 1 := by
      rw [Finset.card_erase_of_mem hi, hpool.active]
    refine ⟨⟨pool.holders.erase i, (Finset.card_erase_le).trans pool.card_le⟩,
      ⟨fun j => ?_, hcard⟩, .inr (.give i hi rfl)⟩
    rw [Finset.mem_erase]
    by_cases hj : j = i
    · subst hj
      refine iff_of_false ?_ fun hmem => hmem.1 rfl
      show (s.moved j .outside).place j ≠ .holding
      rw [moved_place]
      rintro ⟨⟩
    · show (s.moved i .outside).place j = .holding ↔ _
      rw [moved_place_of_ne _ hj, hpool.holding j, and_iff_right hj]

variable {σ ℓ : Type*} {S : TransitionSystem σ ℓ} {permits : σ → Permits ι} {t₀ t t' : σ}
  {ls : List ℓ} {l : ℓ} {n : ℕ}

/-- A part of a system is permits, which nobody holds at first and which only threads move. -/
structure Hosts (S : TransitionSystem σ ℓ) (permits : σ → Permits ι) (limit : ℕ) (t₀ : σ) :
    Prop where
  initial : permits t₀ = .initial
  step : ∀ t l t', S.step t l t' → permits t' = permits t ∨ Moves limit (permits t) (permits t')

/-- In every run the number is that of the holders, who are no more than the limit. -/
theorem Hosts.pooled (hosts : Hosts S permits limit t₀) (h : S.Run t₀ ls t) :
    ∃ pool : Pool ι limit, (permits t).Abstracts pool := by
  apply TransitionSystem.Run.invariant (S := S)
    (I := fun t => ∃ pool : Pool ι limit, (permits t).Abstracts pool) _ _ h
  · rw [hosts.initial]
    refine ⟨⟨∅, Nat.zero_le _⟩, fun i => ?_, rfl⟩
    exact iff_of_false (by rintro ⟨⟩) (Finset.notMem_empty i)
  · rintro t l t' ⟨pool, hpool⟩ hstep
    rcases hosts.step t l t' hstep with hsame | hmoves
    · exact ⟨pool, hsame ▸ hpool⟩
    · obtain ⟨pool', hpool', -⟩ := hmoves.exists_pool hpool
      exact ⟨pool', hpool'⟩

/-- At some moment of the run a thread read a number, which was the right one. -/
def Saw (S : TransitionSystem σ ℓ) (permits : σ → Permits ι) (t₀ : σ) (ls : List ℓ) (t : σ) (i : ι)
    (n : ℕ) : Prop :=
  ∃ before after u, ls = before ++ after ∧ S.Run t₀ before u ∧ S.Run u after t ∧
    (permits u).place i = .observed n ∧ (permits u).active = n

omit [DecidableEq ι] in
/-- What a thread saw it has seen later on. -/
theorem Saw.step (h : Saw S permits t₀ ls t i n) (hstep : S.step t l t') :
    Saw S permits t₀ (ls ++ [l]) t' i n := by
  obtain ⟨before, after, u, rfl, hbefore, hafter, hplace, hactive⟩ := h
  exact ⟨before, after ++ [l], u, List.append_assoc _ _ _, hbefore,
    TransitionSystem.run_snoc.mpr ⟨t, hafter, hstep⟩, hplace, hactive⟩

/-- The number that a thread has read was there when it read it, and a thread that was refused has
read one that is no less than the limit. -/
theorem Hosts.saw (hosts : Hosts S permits limit t₀) (h : S.Run t₀ ls t) (i : ι) :
    (∀ n, (permits t).place i = .observed n → Saw S permits t₀ ls t i n) ∧
      ((permits t).place i = .refused → ∃ n, limit ≤ n ∧ Saw S permits t₀ ls t i n) := by
  apply TransitionSystem.Run.history (S := S) (I := fun ls t =>
    (∀ n, (permits t).place i = .observed n → Saw S permits t₀ ls t i n) ∧
      ((permits t).place i = .refused → ∃ n, limit ≤ n ∧ Saw S permits t₀ ls t i n)) _ _ h
  · rw [hosts.initial]
    exact ⟨fun n hplace => (by cases hplace), fun hplace => (by cases hplace)⟩
  rintro ls t l t' hrun ⟨hobserved, hrefused⟩ hstep
  -- Where it stays, it has seen what it saw.
  have hstays (hplace : (permits t').place i = (permits t).place i) :
      (∀ n, (permits t').place i = .observed n → Saw S permits t₀ (ls ++ [l]) t' i n) ∧
        ((permits t').place i = .refused →
          ∃ n, limit ≤ n ∧ Saw S permits t₀ (ls ++ [l]) t' i n) := by
    rw [hplace]
    refine ⟨fun n hn => (hobserved n hn).step hstep, fun hr => ?_⟩
    obtain ⟨n, hfull, hsaw⟩ := hrefused hr
    exact ⟨n, hfull, hsaw.step hstep⟩
  rcases hosts.step t l t' hstep with hsame | hmoves
  · exact hstays (by rw [hsame])
  have hrun' := TransitionSystem.run_snoc.mpr ⟨t, hrun, hstep⟩
  generalize hp : permits t = p at *
  generalize hp' : permits t' = p' at *
  cases hmoves with
  | read j hplace hplace' =>
    by_cases hj : i = j
    · subst hj
      rw [moved_place]
      refine ⟨fun n hn => ?_, fun hr => (by cases hr)⟩
      cases hn
      exact ⟨_, [], t', (List.append_nil _).symm, hrun', rfl, by rw [hp', moved_place],
        by rw [hp']; rfl⟩
    · exact hstays (moved_place_of_ne _ hj)
  | @refused j n hplace hfull =>
    by_cases hj : i = j
    · subst hj
      rw [moved_place]
      exact ⟨fun n hn => (by cases hn), fun _ => ⟨n, hfull, (hobserved n hplace).step hstep⟩⟩
    · exact hstays (moved_place_of_ne _ hj)
  | taken j hplace hroom =>
    by_cases hj : i = j
    · subst hj
      have hmoved : (p.moved i .holding).place i = .holding := moved_place _
      exact ⟨fun n hn => (by cases hmoved.symm.trans hn),
        fun hr => (by cases hmoved.symm.trans hr)⟩
    · exact hstays (moved_place_of_ne _ hj)
  | given j hplace =>
    by_cases hj : i = j
    · subst hj
      have hmoved : (p.moved i .outside).place i = .outside := moved_place _
      exact ⟨fun n hn => (by cases hmoved.symm.trans hn),
        fun hr => (by cases hmoved.symm.trans hr)⟩
    · exact hstays (moved_place_of_ne _ hj)

/-- A thread is refused only if every permit was held at some moment since it asked. -/
theorem Hosts.full_of_refused (hosts : Hosts S permits limit t₀) (h : S.Run t₀ ls t)
    (hi : (permits t).place i = .refused) : Saw S permits t₀ ls t i limit := by
  obtain ⟨n, hfull, before, after, u, hls, hbefore, hafter, hplace, hactive⟩ :=
    (hosts.saw h i).2 hi
  obtain ⟨pool, hpool⟩ := hosts.pooled hbefore
  -- The number never exceeds the limit.
  have hn : n = limit := by
    apply Nat.le_antisymm _ hfull
    rw [← hactive, ← hpool.active]
    exact pool.card_le
  exact ⟨before, after, u, hls, hbefore, hafter, hn ▸ hplace, hn ▸ hactive⟩

end Permits
