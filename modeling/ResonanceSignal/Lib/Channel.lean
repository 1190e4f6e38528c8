import Mathlib.Data.List.Basic

/-!
# Bounded channels

A first-in, first-out channel of bounded capacity between one sender and one receiver, either of
which may be gone. The queue of a channel never exceeds its capacity, by construction.

The operations that do not block return an error; those that block return `none` where they would
wait. A sender learns first that its receiver is gone, and only then that the queue is full; a
receiver takes what is queued before it learns that the sender is gone. Dropping the receiver drops
what is queued.
-/

/-- A bounded channel. -/
@[ext]
structure Channel (α : Type*) (capacity : ℕ) where
  /-- What was sent and not received, oldest first. -/
  queue : List α
  /-- Whether the sender is there. -/
  sender : Bool
  /-- Whether the receiver is there. -/
  receiver : Bool
  length_le : queue.length ≤ capacity
deriving DecidableEq

/-- Why nothing was sent. -/
inductive TrySendError
  | full
  | disconnected
deriving DecidableEq, Repr

/-- Why nothing was received. -/
inductive TryRecvError
  | empty
  | disconnected
deriving DecidableEq, Repr

namespace Channel

variable {α : Type*} {capacity : ℕ}

/-- A channel in which nothing was sent. -/
def empty : Channel α capacity := ⟨[], true, true, Nat.zero_le _⟩

/-- Send without blocking. -/
def trySend (c : Channel α capacity) (a : α) : Except TrySendError (Channel α capacity) :=
  if c.receiver then
    if h : c.queue.length < capacity then
      .ok { c with queue := c.queue ++ [a], length_le := by rw [List.length_append]; exact h }
    else .error .full
  else .error .disconnected

/-- Send, and block while the queue is full: `none` while it blocks, `some none` where the receiver
is gone. -/
def send (c : Channel α capacity) (a : α) : Option (Option (Channel α capacity)) :=
  match c.trySend a with
  | .ok c => some (some c)
  | .error .full => none
  | .error .disconnected => some none

/-- Receive without blocking. -/
def tryRecv (c : Channel α capacity) : Except TryRecvError (α × Channel α capacity) :=
  match c with
  | ⟨a :: queue, sender, receiver, h⟩ =>
    .ok (a, ⟨queue, sender, receiver, Nat.le_of_succ_le h⟩)
  | ⟨[], true, _, _⟩ => .error .empty
  | ⟨[], false, _, _⟩ => .error .disconnected

/-- Receive, and block while nothing is queued: `none` while it blocks, `some none` where the sender
is gone. -/
def recv (c : Channel α capacity) : Option (Option (α × Channel α capacity)) :=
  match c.tryRecv with
  | .ok received => some (some received)
  | .error .empty => none
  | .error .disconnected => some none

/-- The sender goes away. -/
def dropSender (c : Channel α capacity) : Channel α capacity := { c with sender := false }

/-- The receiver goes away, with what is queued. -/
def dropReceiver (c : Channel α capacity) : Channel α capacity where
  queue := []
  sender := c.sender
  receiver := false
  length_le := Nat.zero_le _

variable {c c' : Channel α capacity} {a : α}

/-- Sending succeeds where the receiver is there and the queue has room. -/
theorem trySend_ok_iff : c.trySend a = .ok c' ↔
    c.receiver = true ∧ c.queue.length < capacity ∧ c'.queue = c.queue ++ [a] ∧
      c'.sender = c.sender ∧ c'.receiver = true := by
  unfold trySend
  constructor
  · intro h
    split_ifs at h with hreceiver hroom
    cases h
    exact ⟨hreceiver, hroom, rfl, rfl, hreceiver⟩
  · rintro ⟨hreceiver, hroom, hqueue, hsender, hreceiver'⟩
    rw [if_pos hreceiver, dif_pos hroom]
    refine congrArg Except.ok (Channel.ext ?_ ?_ ?_)
    · exact hqueue.symm
    · exact hsender.symm
    · exact hreceiver.trans hreceiver'.symm

/-- Sending finds the queue full where the receiver is there and the queue has no room. -/
theorem trySend_full_iff : c.trySend a = .error .full ↔
    c.receiver = true ∧ c.queue.length = capacity := by
  have hle := c.length_le
  unfold trySend
  split_ifs with hreceiver hroom
  · exact iff_of_false (by rintro ⟨⟩) fun h => absurd h.2 (Nat.ne_of_lt hroom)
  · exact iff_of_true rfl ⟨hreceiver, Nat.le_antisymm hle (Nat.le_of_not_lt hroom)⟩
  · exact iff_of_false (by rintro ⟨⟩) fun h => hreceiver h.1

/-- Sending fails for good where the receiver is gone. -/
theorem trySend_disconnected_iff : c.trySend a = .error .disconnected ↔ c.receiver = false := by
  unfold trySend
  split_ifs with hreceiver hroom
  · exact iff_of_false (by rintro ⟨⟩) (by rw [hreceiver]; rintro ⟨⟩)
  · exact iff_of_false (by rintro ⟨⟩) (by rw [hreceiver]; rintro ⟨⟩)
  · exact iff_of_true rfl (Bool.not_eq_true _ ▸ hreceiver)

/-- A blocking send succeeds where one that does not block does. -/
theorem send_eq_some_some : c.send a = some (some c') ↔ c.trySend a = .ok c' := by
  unfold send
  split <;> rename_i h <;> rw [h] <;> simp

/-- A blocking send fails where the receiver is gone. -/
theorem send_eq_some_none : c.send a = some none ↔ c.receiver = false := by
  rw [← trySend_disconnected_iff (a := a)]
  unfold send
  split <;> rename_i h <;> rw [h] <;> simp

/-- A blocking send blocks where the receiver is there and the queue has no room. -/
theorem send_eq_none : c.send a = none ↔ c.receiver = true ∧ c.queue.length = capacity := by
  rw [← trySend_full_iff (a := a)]
  unfold send
  split <;> rename_i h <;> rw [h] <;> simp

/-- Receiving takes the oldest of the queue. -/
theorem tryRecv_ok_iff : c.tryRecv = .ok (a, c') ↔
    c.queue = a :: c'.queue ∧ c'.sender = c.sender ∧ c'.receiver = c.receiver := by
  obtain ⟨queue, sender, receiver, hle⟩ := c
  cases queue with
  | nil => cases sender <;> exact iff_of_false (by rintro ⟨⟩) fun h => by cases h.1
  | cons b queue =>
    constructor
    · intro h
      cases h
      exact ⟨rfl, rfl, rfl⟩
    · rintro ⟨hqueue, hsender, hreceiver⟩
      obtain ⟨rfl, hrest⟩ := List.cons.inj hqueue
      refine congrArg Except.ok (congrArg (Prod.mk b) (Channel.ext ?_ ?_ ?_))
      · exact hrest
      · exact hsender.symm
      · exact hreceiver.symm

/-- What is queued can be received. -/
theorem exists_tryRecv {queue : List α} (h : c.queue = a :: queue) :
    ∃ c', c.tryRecv = .ok (a, c') ∧ c'.queue = queue := by
  obtain ⟨oldest, sender, receiver, hle⟩ := c
  obtain rfl : oldest = a :: queue := h
  exact ⟨_, rfl, rfl⟩

/-- Receiving finds nothing where the queue is empty and the sender is there. -/
theorem tryRecv_empty_iff : c.tryRecv = .error .empty ↔ c.queue = [] ∧ c.sender = true := by
  obtain ⟨queue, sender, receiver, hle⟩ := c
  cases queue <;> cases sender <;> simp [tryRecv]

/-- Receiving fails for good where the queue is empty and the sender is gone. -/
theorem tryRecv_disconnected_iff :
    c.tryRecv = .error .disconnected ↔ c.queue = [] ∧ c.sender = false := by
  obtain ⟨queue, sender, receiver, hle⟩ := c
  cases queue <;> cases sender <;> simp [tryRecv]

/-- A blocking receive succeeds where one that does not block does. -/
theorem recv_eq_some_some : c.recv = some (some (a, c')) ↔ c.tryRecv = .ok (a, c') := by
  unfold recv
  split <;> rename_i h <;> rw [h] <;> simp

/-- A blocking receive fails where the queue is empty and the sender is gone. -/
theorem recv_eq_some_none : c.recv = some none ↔ c.queue = [] ∧ c.sender = false := by
  rw [← tryRecv_disconnected_iff]
  unfold recv
  split <;> rename_i h <;> rw [h] <;> simp

/-- A blocking receive blocks where the queue is empty and the sender is there. -/
theorem recv_eq_none : c.recv = none ↔ c.queue = [] ∧ c.sender = true := by
  rw [← tryRecv_empty_iff]
  unfold recv
  split <;> rename_i h <;> rw [h] <;> simp

end Channel
