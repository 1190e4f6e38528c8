import Mathlib.Data.List.Basic

/-!
# Watched subjects

A subject changes, and a notice of each change goes to whoever listens then. That it does, in the
same step as the change, is what is assumed of the subject here. Notices are handled later, in any
order; handling one may raise an alarm, and the first alarm stays. Two things follow. Whoever
listens first and looks then misses nothing: what it saw is still so, or there is an alarm, or one
is coming (`Guards`). And an alarm is that of a notice that was sent (`Stems`).
-/

/-- A subject, the notices of its changes that are not handled yet, and the alarm. -/
structure Watch (σ ν ε : Type*) where
  /-- The subject. -/
  subject : σ
  /-- The notices, in the order in which they were sent. -/
  pending : List ν
  /-- The first alarm. -/
  alarm : Option ε

namespace Watch

variable {σ ν ε : Type*} {raises raises' : ν → Option ε} {p q : σ → Prop} {w w' : Watch σ ν ε}
  {i : ℕ}

/-- A quiet watch of a subject. -/
def quiet (subject : σ) : Watch σ ν ε := ⟨subject, [], none⟩

/-- The subject changes, and notices of it are sent. -/
def change (w : Watch σ ν ε) (subject : σ) (notices : List ν) : Watch σ ν ε :=
  { w with subject, pending := w.pending ++ notices }

/-- One of the notices is handled: what it raises is the alarm, unless there is one. -/
def handle (raises : ν → Option ε) (w : Watch σ ν ε) (i : ℕ) : Option (Watch σ ν ε) :=
  w.pending[i]?.map fun notice =>
    { w with pending := w.pending.eraseIdx i, alarm := w.alarm.or (raises notice) }

/-- Nobody listens any more. -/
def mute (w : Watch σ ν ε) : Watch σ ν ε := { w with pending := [] }

/-- A notice is handled that was pending. -/
theorem handle_eq_some (h : w.handle raises i = some w') : ∃ notice before after,
    w.pending = before ++ notice :: after ∧
      w' = ⟨w.subject, before ++ after, w.alarm.or (raises notice)⟩ := by
  obtain ⟨notice, hnotice, rfl⟩ := Option.map_eq_some_iff.mp h
  obtain ⟨hlt, hget⟩ := List.getElem?_eq_some_iff.mp hnotice
  refine ⟨notice, w.pending.take i, w.pending.drop (i + 1), ?_, ?_⟩
  · rw [← hget, List.getElem_cons_drop hlt, List.take_append_drop]
  · rw [List.eraseIdx_eq_take_drop_succ]

/-! ## What is coming -/

/-- There is an alarm, or a notice that raises one. -/
def Alarming (raises : ν → Option ε) (w : Watch σ ν ε) : Prop :=
  w.alarm.isSome = true ∨ ∃ notice ∈ w.pending, (raises notice).isSome = true

/-- What comes in spite of a change. -/
theorem Alarming.change (h : w.Alarming raises) (subject : σ) (notices : List ν) :
    (w.change subject notices).Alarming raises := by
  rcases h with halarm | ⟨notice, hnotice, hraises⟩
  · exact .inl halarm
  · exact .inr ⟨notice, List.mem_append_left notices hnotice, hraises⟩

/-- A notice of a change that raises an alarm. -/
theorem alarming_change {subject : σ} {notices : List ν} {notice : ν} (hnotice : notice ∈ notices)
    (hraises : (raises notice).isSome = true) : (w.change subject notices).Alarming raises :=
  .inr ⟨notice, List.mem_append_right w.pending hnotice, hraises⟩

/-- Handling a notice brings no more and no less than was coming. -/
theorem alarming_handle (h : w.handle raises i = some w') :
    w'.Alarming raises ↔ w.Alarming raises := by
  obtain ⟨notice, before, after, hpending, rfl⟩ := handle_eq_some h
  unfold Alarming
  rw [hpending, Option.isSome_or, Bool.or_eq_true]
  simp only [List.mem_append, List.mem_cons, exists_or, or_and_right, exists_eq_left]
  rw [or_assoc, or_left_comm (a := (raises notice).isSome = true)]

/-- What was seen is still so, or there is an alarm, or one is coming. -/
def Guards (raises : ν → Option ε) (p : σ → Prop) (w : Watch σ ν ε) : Prop :=
  p w.subject ∨ w.Alarming raises

/-- What is seen is so. -/
theorem Guards.of_saw (h : p w.subject) : w.Guards raises p := .inl h

/-- A change that ends what was seen is one of which a notice raises an alarm. -/
theorem Guards.change (h : w.Guards raises p) {subject : σ} {notices : List ν}
    (hends : p w.subject → ¬p subject → ∃ notice ∈ notices, (raises notice).isSome = true) :
    (w.change subject notices).Guards raises p := by
  rcases h with hsaw | halarming
  · by_cases hsubject : p subject
    · exact .inl hsubject
    · obtain ⟨notice, hnotice, hraises⟩ := hends hsaw hsubject
      exact .inr (alarming_change hnotice hraises)
  · exact .inr (halarming.change subject notices)

/-- Handling a notice keeps what is guarded. -/
theorem Guards.handle (h : w.Guards raises p) (hhandle : w.handle raises i = some w') :
    w'.Guards raises p := by
  have hsubject : w'.subject = w.subject := by
    obtain ⟨notice, before, after, -, rfl⟩ := handle_eq_some hhandle
    rfl
  rcases h with hsaw | halarming
  · exact .inl (hsubject ▸ hsaw)
  · exact .inr ((alarming_handle hhandle).mpr halarming)

/-- Two things are guarded together. -/
theorem Guards.and (h : w.Guards raises p) (h' : w.Guards raises q) :
    w.Guards raises fun subject => p subject ∧ q subject := by
  rcases h with hsaw | halarming
  · rcases h' with hsaw' | halarming
    · exact .inl ⟨hsaw, hsaw'⟩
    · exact .inr halarming
  · exact .inr halarming

/-! ## What was sent -/

/-- The alarm and the alarms to come are those of notices of a kind. -/
structure Stems (raises : ν → Option ε) (sent : ν → Prop) (w : Watch σ ν ε) : Prop where
  /-- What is pending was sent. -/
  pending : ∀ notice ∈ w.pending, sent notice
  /-- The alarm is that of a notice that was sent. -/
  alarm : ∀ e, w.alarm = some e → ∃ notice, sent notice ∧ raises notice = some e

variable {sent sent' : ν → Prop}

/-- Nothing was sent of a quiet subject. -/
theorem stems_quiet (subject : σ) : (quiet subject : Watch σ ν ε).Stems raises sent :=
  ⟨fun _ h => absurd h List.not_mem_nil, fun _ h => nomatch h⟩

/-- What was sent is among what was sent later. -/
theorem Stems.mono (h : w.Stems raises sent) (hsent : ∀ notice, sent notice → sent' notice) :
    w.Stems raises sent' where
  pending notice hnotice := hsent notice (h.pending notice hnotice)
  alarm e halarm := by
    obtain ⟨notice, hnotice, hraises⟩ := h.alarm e halarm
    exact ⟨notice, hsent notice hnotice, hraises⟩

/-- The notices of a change are sent. -/
theorem Stems.change (h : w.Stems raises sent) {subject : σ} {notices : List ν}
    (hsent : ∀ notice ∈ notices, sent notice) : (w.change subject notices).Stems raises sent where
  pending notice hnotice := by
    rcases List.mem_append.mp hnotice with hnotice | hnotice
    · exact h.pending notice hnotice
    · exact hsent notice hnotice
  alarm := h.alarm

/-- The alarm of a notice that is handled is that of a notice that was sent. -/
theorem Stems.handle (h : w.Stems raises sent) (hhandle : w.handle raises i = some w') :
    w'.Stems raises sent := by
  obtain ⟨notice, before, after, hpending, rfl⟩ := handle_eq_some hhandle
  have hmem : notice ∈ w.pending := by
    rw [hpending]
    exact List.mem_append_right before List.mem_cons_self
  refine ⟨fun other hother => h.pending other ?_, fun e he => ?_⟩
  · rw [hpending]
    rcases List.mem_append.mp hother with hother | hother
    · exact List.mem_append_left _ hother
    · exact List.mem_append_right before (List.mem_cons_of_mem notice hother)
  · rcases Option.or_eq_some_iff.mp he with he | ⟨-, he⟩
    · exact h.alarm e he
    · exact ⟨notice, h.pending notice hmem, he⟩

/-- What was raised stems from the same notices where they raise the same. -/
theorem Stems.congr (h : w.Stems raises sent)
    (hraises : ∀ notice e, sent notice → raises notice = some e → raises' notice = some e) :
    w.Stems raises' sent where
  pending := h.pending
  alarm e he := by
    obtain ⟨notice, hnotice, hraised⟩ := h.alarm e he
    exact ⟨notice, hnotice, hraises notice e hnotice hraised⟩

end Watch
