import Mathlib.Algebra.BigOperators.Group.List.Basic
import Mathlib.Algebra.Ring.Nat
import Mathlib.Data.List.Basic
import Mathlib.Data.Nat.Notation

/-!
# Segmented logs

A log that keeps its records in segments of bounded weight, newest segment first: a record goes to
the current segment where it fits and starts a new one where it does not, and only a number of older
segments remain. `Retains` is what a sequence of records leaves of itself: bounded segments whose
records, oldest first, are the last ones of the sequence without a gap. `push_retains` is its
one induction step.
-/

namespace SegmentedLog

variable {α : Type*}

/-- The weight of a segment. -/
def load (weight : α → ℕ) (segment : List α) : ℕ := (segment.map weight).sum

/-- The records of the segments, oldest first. -/
def retained (segments : List (List α)) : List α := segments.reverse.flatten

/-- The segments after a record, of which `history` older ones remain beside the current one. -/
def push (weight : α → ℕ) (limit history : ℕ) (segments : List (List α)) (record : α) :
    List (List α) :=
  match segments with
  | [] => [[record]]
  | current :: older =>
    if load weight current + weight record ≤ limit then (current ++ [record]) :: older
    else [record] :: (current :: older).take history

/-- What the segments keep of a sequence of records. -/
structure Retains (weight : α → ℕ) (limit history : ℕ) (segments : List (List α))
    (records : List α) : Prop where
  bounded : ∀ segment ∈ segments, load weight segment ≤ limit
  length_le : segments.length ≤ history + 1
  nonempty : ∀ segment ∈ segments, segment ≠ []
  suffix : retained segments <:+ records
  latest : segments.head?.bind List.getLast? = records.getLast?

/-- The weight of a segment with one more record. -/
@[simp]
theorem load_append_singleton (weight : α → ℕ) (segment : List α) (record : α) :
    load weight (segment ++ [record]) = load weight segment + weight record := by
  simp [load]

/-- The weight of a single record. -/
@[simp]
theorem load_singleton (weight : α → ℕ) (record : α) : load weight [record] = weight record := by
  simp [load]

/-- A new current segment follows the older ones. -/
theorem retained_cons (current : List α) (older : List (List α)) :
    retained (current :: older) = retained older ++ current := by
  simp [retained]

/-- Dropping the oldest segments keeps the last records. -/
theorem retained_take_suffix (history : ℕ) (segments : List (List α)) :
    retained (segments.take history) <:+ retained segments := by
  refine ⟨retained (segments.drop history), ?_⟩
  unfold retained
  rw [← List.flatten_append, ← List.reverse_append, List.take_append_drop]

variable {weight : α → ℕ} {limit history : ℕ} {segments : List (List α)} {records : List α}

/-- No segments keep all of no records. -/
theorem Retains.nil : Retains weight limit history [] [] where
  bounded := by simp
  length_le := by simp
  nonempty := by simp
  suffix := List.suffix_rfl
  latest := rfl

/-- A record that is not too heavy for a segment of its own is kept, as the latest one. -/
theorem push_retains {record : α} (h : Retains weight limit history segments records)
    (hrecord : weight record ≤ limit) :
    Retains weight limit history (push weight limit history segments record)
      (records ++ [record]) := by
  have hbounded := h.bounded
  have hnonempty := h.nonempty
  have hsuffix := h.suffix
  have hlength := h.length_le
  unfold push
  cases segments with
  | nil =>
    refine ⟨by simpa using hrecord, by simp, by simp, ?_, by simp⟩
    exact List.suffix_append records [record]
  | cons current older =>
    dsimp only
    split_ifs with hfits
    · -- The record fits the current segment.
      refine ⟨?_, hlength, ?_, ?_, by simp⟩
      · intro segment hsegment
        rcases List.mem_cons.mp hsegment with rfl | holder
        · rwa [load_append_singleton]
        · exact hbounded segment (List.mem_cons_of_mem _ holder)
      · intro segment hsegment
        rcases List.mem_cons.mp hsegment with rfl | holder
        · simp
        · exact hnonempty segment (List.mem_cons_of_mem _ holder)
      · rw [retained_cons] at hsuffix ⊢
        rw [← List.append_assoc]
        exact List.suffix_append_self_iff.mpr hsuffix
    · -- It starts a new segment, and the oldest one may go.
      have hkept : ∀ segment ∈ (current :: older).take history, segment ∈ current :: older :=
        fun segment => List.mem_of_mem_take
      refine ⟨?_, ?_, ?_, ?_, by simp⟩
      · intro segment hsegment
        rcases List.mem_cons.mp hsegment with rfl | holder
        · rwa [load_singleton]
        · exact hbounded segment (hkept segment holder)
      · rw [List.length_cons, List.length_take]
        omega
      · intro segment hsegment
        rcases List.mem_cons.mp hsegment with rfl | holder
        · simp
        · exact hnonempty segment (hkept segment holder)
      · have htake := (retained_take_suffix history (current :: older)).trans hsuffix
        rw [retained_cons]
        exact List.suffix_append_self_iff.mpr htake

end SegmentedLog
