import Mathlib.Logic.Basic
import Mathlib.Tactic.SplitIfs

/-!
# Fallible computations

The two lemmas that take a sequence of fallible steps apart: what a sequence needs to succeed, and
where it can fail. `okOr` gives a partial operation its error, and `failIf` is a check that a
sequence makes on its way. `FailsWith` says what every error of a computation satisfies, and is
composed along a sequence.
-/

universe u

variable {ε : Type*} {α β : Type u}

/-- `ok_or`: the value of a partial operation, or the error. -/
def okOr (e : ε) : Option α → Except ε α
  | some a => .ok a
  | none => .error e

/-- `ok_or` succeeds exactly where the operation has a value. -/
@[simp]
theorem okOr_eq_ok {e : ε} {o : Option α} {a : α} : okOr e o = .ok a ↔ o = some a := by
  cases o <;> simp [okOr]

/-- `ok_or` fails exactly where the operation has no value, and with its own error. -/
@[simp]
theorem okOr_eq_error {e e' : ε} {o : Option α} : okOr e o = .error e' ↔ o = none ∧ e = e' := by
  cases o <;> simp [okOr]

/-- The check of a sequence that fails on a condition. -/
def failIf (c : Prop) [Decidable c] (e : ε) : Except ε Unit :=
  if c then .error e else .ok ()

/-- A check passes exactly where its condition does not hold. -/
@[simp]
theorem failIf_eq_ok {c : Prop} [Decidable c] {e : ε} {u : Unit} : failIf c e = .ok u ↔ ¬c := by
  unfold failIf
  split_ifs with h <;> simp [h]

/-- A check fails exactly where its condition holds, and with its own error. -/
@[simp]
theorem failIf_eq_error {c : Prop} [Decidable c] {e e' : ε} :
    failIf c e = .error e' ↔ c ∧ e = e' := by
  unfold failIf
  split_ifs with h <;> simp [h]

namespace Result

/-- A changed error does not change success. -/
@[simp]
theorem mapError_eq_ok {ε' : Type*} {x : Except ε α} {f : ε → ε'} {a : α} :
    x.mapError f = .ok a ↔ x = .ok a := by
  cases x <;> simp [Except.mapError]

/-- A changed error comes from an error. -/
@[simp]
theorem mapError_eq_error {ε' : Type*} {x : Except ε α} {f : ε → ε'} {e' : ε'} :
    x.mapError f = .error e' ↔ ∃ e, x = .error e ∧ f e = e' := by
  cases x <;> simp [Except.mapError]

/-- A changed value comes from a value. -/
theorem map_eq_ok {γ : Type*} {x : Except ε α} {f : α → γ} {c : γ} :
    x.map f = .ok c ↔ ∃ a, x = .ok a ∧ f a = c := by
  cases x <;> simp [Except.map]

/-- A sequence succeeds when its first step does and the rest does on that step's value. -/
@[simp]
theorem bind_eq_ok {x : Except ε α} {f : α → Except ε β} {b : β} :
    x >>= f = .ok b ↔ ∃ a, x = .ok a ∧ f a = .ok b := by
  cases x <;> simp [bind, Except.bind]

/-- A sequence fails in its first step, or after it. -/
@[simp]
theorem bind_eq_error {x : Except ε α} {f : α → Except ε β} {e : ε} :
    x >>= f = .error e ↔ x = .error e ∨ ∃ a, x = .ok a ∧ f a = .error e := by
  cases x <;> simp [bind, Except.bind]

/-- A changed value does not change success. -/
@[simp]
theorem isOk_map {γ : Type*} {x : Except ε α} {f : α → γ} : (x.map f).isOk = x.isOk := by
  cases x <;> rfl

/-- Sequences with one first step succeed together where their rests do. -/
theorem isOk_bind {γ : Type u} {x : Except ε α} {f : α → Except ε β} {g : α → Except ε γ}
    (h : ∀ a, (f a).isOk = (g a).isOk) : (x >>= f).isOk = (x >>= g).isOk := by
  cases x with
  | ok a => exact h a
  | error e => rfl

/-- A fallible computation succeeds or fails. -/
theorem ok_or_error (x : Except ε α) : (∃ a, x = .ok a) ∨ ∃ e, x = .error e := by
  cases x with
  | ok a => exact .inl ⟨a, rfl⟩
  | error e => exact .inr ⟨e, rfl⟩

/-- Every error of the computation satisfies the predicate. -/
def FailsWith (Q : ε → Prop) (x : Except ε α) : Prop := ∀ e, x = .error e → Q e

variable {Q : ε → Prop}

/-- A value is no error. -/
theorem failsWith_ok (a : α) : FailsWith Q (.ok a : Except ε α) := nofun

/-- The errors of a sequence are those of its steps. -/
theorem FailsWith.bind {x : Except ε α} {f : α → Except ε β} (hx : FailsWith Q x)
    (hf : ∀ a, FailsWith Q (f a)) : FailsWith Q (x >>= f) := by
  intro e he
  rcases bind_eq_error.mp he with h | ⟨a, -, h⟩
  · exact hx e h
  · exact hf a e h

/-- The only error of `ok_or` is its own. -/
theorem failsWith_okOr {e : ε} {o : Option α} (h : Q e) : FailsWith Q (okOr e o) := by
  intro e' he
  obtain ⟨-, rfl⟩ := okOr_eq_error.mp he
  exact h

/-- The only error of a check is its own. -/
theorem failsWith_failIf {c : Prop} [Decidable c] {e : ε} (h : Q e) :
    FailsWith Q (failIf c e) := by
  intro e' he
  obtain ⟨-, rfl⟩ := failIf_eq_error.mp he
  exact h

/-- The errors after a change are the changed ones. -/
theorem failsWith_mapError {ε' : Type*} {x : Except ε' α} {f : ε' → ε}
    (h : FailsWith (fun e => Q (f e)) x) : FailsWith Q (x.mapError f) := by
  intro e' he
  obtain ⟨e, hx, rfl⟩ := mapError_eq_error.mp he
  exact h e hx

/-- Where a step succeeds for every element of a list it succeeds for the list, element by
element. -/
theorem exists_mapM_eq_ok {f : α → Except ε β} {P : α → β → Prop} {xs : List α}
    (h : ∀ x ∈ xs, ∃ y, f x = .ok y ∧ P x y) :
    ∃ ys, xs.mapM f = .ok ys ∧ ys.length = xs.length ∧
      ∀ (i : Nat) (x : α), xs[i]? = some x → ∃ y, ys[i]? = some y ∧ P x y := by
  induction xs with
  | nil => exact ⟨[], rfl, rfl, nofun⟩
  | cons x xs ih =>
    obtain ⟨y, hy, hP⟩ := h x List.mem_cons_self
    obtain ⟨ys, hys, hlen, hPs⟩ := ih fun x hx => h x (List.mem_cons_of_mem _ hx)
    refine ⟨y :: ys, ?_, congrArg (· + 1) hlen, ?_⟩
    · rw [List.mapM_cons, hy]
      show (xs.mapM f >>= _) = _
      rw [hys]
      rfl
    · intro i x' hx'
      cases i with
      | zero =>
        cases hx'
        exact ⟨y, rfl, hP⟩
      | succ i => exact hPs i x' hx'

end Result
