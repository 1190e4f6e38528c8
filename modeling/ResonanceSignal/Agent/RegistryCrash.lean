import ResonanceSignal.Agent.RegistryRuns

/-!
# Crashes of the registry

`persist` writes the candidate, copies it over the backup, and renames it to the current file. While
the current file is readable, a complete image is in one of the two files after every step: the
current file is removed only when the backup holds the new image. But the backup is removed first,
so a registry that was read from its backup is lost in a crash after that step, and is blank
when it is opened again (`crash_loses_registry`).
-/

namespace ResonanceSignal

variable {files files' : RegistryFiles} {bytes : List UInt8} {contents : RegistryContents}

/-- Until the current file is removed it stays, and from then on the bytes are in the backup, or in
the current file. -/
theorem interrupted_cases (bytes : List UInt8) (files : RegistryFiles)
    (interruption : Interruption) :
    (interrupted bytes files interruption).current = files.current ∨
      ((interrupted bytes files interruption).current = none ∧
        (interrupted bytes files interruption).backup = some bytes) ∨
      (interrupted bytes files interruption).current = some bytes := by
  obtain ⟨current, backup, candidate⟩ := files
  obtain ⟨completed, written⟩ := interruption
  unfold interrupted persistSteps
  -- The steps are a list of six to eight, and the interruption is before one of them or at the end.
  cases current <;> cases backup <;> cases written <;>
    rcases completed with _ | _ | _ | _ | _ | _ | _ | _ | completed <;>
    simp [FileStep.run, FileStep.tear]

/-- While the current file is readable, a crash leaves the image that was there, or the new one. -/
theorem opened_interrupted {image : PersistedRegistry}
    (h : loadRegistry files.current = .ok image) (interruption : Interruption) :
    opened (interrupted contents.bytes files interruption) = some image ∨
      opened (interrupted contents.bytes files interruption) = some contents.image := by
  unfold opened
  rcases interrupted_cases contents.bytes files interruption with
    hcurrent | ⟨hcurrent, hbackup⟩ | hcurrent
  · left
    rw [hcurrent, h]
  · right
    rw [hcurrent, hbackup, loadRegistry_bytes]
    rfl
  · right
    rw [hcurrent, loadRegistry_bytes]

/-- After the backup is removed, a registry that was read from it is gone. -/
theorem opened_removed (bytes : List UInt8)
    (hcurrent : ∀ image, loadRegistry files.current ≠ .ok image)
    (hbackup : files.backup.isSome) :
    opened (interrupted bytes files ⟨4, none⟩) = none := by
  obtain ⟨current, backup, candidate⟩ := files
  obtain ⟨backup, rfl⟩ := Option.isSome_iff_exists.mp hbackup
  have hfiles : interrupted bytes ⟨current, some backup, candidate⟩ ⟨4, none⟩
      = ⟨current, none, some bytes⟩ := by
    cases current <;> rfl
  rw [hfiles]
  unfold opened
  cases hload : loadRegistry current with
  | ok image => exact absurd hload (hcurrent image)
  | error error => rfl

/-- Opening gives what was read, whatever else the process and the clock are. -/
def Opens (files : RegistryFiles) (contents : RegistryContents) : Prop :=
  ∀ processId nanos fault,
    (loadOrInit files (generateNamespace processId nanos) fault).1 = .ok contents

/-- Opening an image that is there. -/
theorem opens_iff {image : PersistedRegistry} (h : opened files = some image) :
    Opens files contents ↔ fromPersisted image = .ok contents := by
  constructor
  · intro hopens
    have hfirst := hopens 0 0 none
    rwa [loadOrInit_of_opened h] at hfirst
  · intro hcontents processId nanos fault
    rw [loadOrInit_of_opened h, hcontents]

/-- Where opening succeeds, it leaves files from which it reads the same again. -/
theorem opened_of_loadOrInit {«namespace» : RegistryNamespace} {fault : Option Interruption}
    {before : RegistryFiles} (h : loadOrInit before «namespace» fault = (.ok contents, files)) :
    ∃ image, opened files = some image ∧ fromPersisted image = .ok contents := by
  cases hopened : opened before with
  | some image =>
    rw [loadOrInit_of_opened hopened] at h
    obtain ⟨hcontents, rfl⟩ := Prod.mk.inj h
    exact ⟨image, hopened, hcontents⟩
  | none =>
    rw [loadOrInit_of_not_opened hopened] at h
    rcases hpersist : persist (blank «namespace») before fault with ⟨outcome, written⟩
    rw [hpersist] at h
    cases outcome with
    | error error => cases h
    | ok =>
      cases h
      cases persist_eq_ok hpersist
      refine ⟨(blank «namespace»).image, opened_written _, ?_⟩
      have hreopenable : Reopenable (blank «namespace»).entries :=
        ⟨fun _ h => absurd h List.not_mem_nil, .nil⟩
      rcases fromPersisted_image (covers_blank : Covers (blank «namespace»)) with
        ⟨-, hsame⟩ | ⟨hnot, -⟩
      · exact hsame
      · exact absurd hreopenable hnot

/-- Without an image, what opens is not one registry. -/
theorem not_opens (h : opened files = none) : ¬Opens files contents := by
  intro hopens
  have hblank : ∀ nanos, contents = blank (generateNamespace 0 nanos) := by
    intro nanos
    have hopen := hopens 0 nanos none
    rw [loadOrInit_of_not_opened h] at hopen
    exact (Except.ok.inj hopen).symm
  have hsame := (hblank 0).symm.trans (hblank 1)
  have hdiffer : blank (generateNamespace 0 0) ≠ blank (generateNamespace 0 1) := by
    decide +kernel
  exact hdiffer hsame

/-- What is written is opened again, exactly where its sequence covers its identifiers. -/
theorem fromPersisted_image_iff (h : Reopenable contents.entries) :
    fromPersisted contents.image = .ok contents ↔ Covers contents := by
  constructor
  · exact covers_of_fromPersisted
  · intro hcovers
    rcases fromPersisted_image hcovers with ⟨-, hsame⟩ | ⟨hnot, -⟩
    · exact hsame
    · exact absurd h hnot

/-- What opens when the current file is damaged after a complete `persist`. -/
theorem opens_damaged_iff {damaged : Option (List UInt8)} (h : Reopenable contents.entries) :
    Opens ⟨damaged, some contents.bytes, none⟩ contents ↔
      Covers contents ∧
        ∀ image, loadRegistry damaged = .ok image → fromPersisted image = .ok contents := by
  cases hdamaged : loadRegistry damaged with
  | ok image =>
    have hopened : opened ⟨damaged, some contents.bytes, none⟩ = some image := by
      unfold opened
      rw [hdamaged]
    rw [opens_iff hopened]
    constructor
    · intro hcontents
      refine ⟨covers_of_fromPersisted hcontents, ?_⟩
      rintro _ ⟨⟩
      exact hcontents
    · rintro ⟨-, hcontents⟩
      exact hcontents image rfl
  | error error =>
    have hopened : opened ⟨damaged, some contents.bytes, none⟩ = some contents.image := by
      unfold opened
      rw [hdamaged, loadRegistry_bytes]
      rfl
    rw [opens_iff hopened, fromPersisted_image_iff h]
    constructor
    · intro hcovers
      exact ⟨hcovers, nofun⟩
    · exact And.left

/-- A registry survives a crash of `persist`, and the loss of the current file after it, exactly
where it was read from the current file, the new sequence covers the new identifiers, and what the
current file becomes is not taken for another registry. -/
theorem crash_safe_iff {«namespace» : RegistryNamespace} {fault : Option Interruption}
    {before : RegistryFiles} {old new : RegistryContents} {damaged : Option (List UInt8)}
    (hold : loadOrInit before «namespace» fault = (.ok old, files))
    (hnew : Reopenable new.entries) :
    ((∀ interruption, Opens (interrupted new.bytes files interruption) old ∨
        Opens (interrupted new.bytes files interruption) new) ∧
      ∀ fault files', persist new files fault = (.ok (), files') →
        Opens { files' with current := damaged } new) ↔
    (∃ image, loadRegistry files.current = .ok image) ∧ Covers new ∧
      ∀ image, loadRegistry damaged = .ok image → fromPersisted image = .ok new := by
  obtain ⟨image, hopened, hread⟩ := opened_of_loadOrInit hold
  constructor
  · rintro ⟨hcrash, hdamage⟩
    have hdone : persist new files none = (.ok (), ⟨some new.bytes, some new.bytes, none⟩) := by
      show (Except.ok (), persisted new.bytes files) = _
      rw [persisted_eq]
    refine ⟨?_, (opens_damaged_iff hnew).mp (hdamage none _ hdone)⟩
    by_contra hcurrent
    have hcurrent : ∀ image, loadRegistry files.current ≠ .ok image := not_exists.mp hcurrent
    -- The image was in the backup, which is the first file that `persist` removes.
    have hbackup : files.backup.isSome := by
      unfold opened at hopened
      split at hopened
      next hload => exact absurd hload (hcurrent _)
      next =>
        cases hfile : files.backup with
        | some bytes => rfl
        | none =>
          rw [hfile] at hopened
          cases hopened
    have hgone := opened_removed new.bytes hcurrent hbackup
    rcases hcrash ⟨4, none⟩ with hopens | hopens
    · exact not_opens hgone hopens
    · exact not_opens hgone hopens
  · rintro ⟨⟨current, hcurrent⟩, hcovers, hdamaged⟩
    have hsame : current = image := by
      unfold opened at hopened
      rw [hcurrent] at hopened
      exact Option.some.inj hopened
    subst hsame
    constructor
    · intro interruption
      rcases opened_interrupted hcurrent interruption with hleft | hleft
      · exact .inl ((opens_iff hleft).mpr hread)
      · exact .inr ((opens_iff hleft).mpr ((fromPersisted_image_iff hnew).mpr hcovers))
    · intro fault files' hpersist
      cases persist_eq_ok hpersist
      exact (opens_damaged_iff hnew).mpr ⟨hcovers, hdamaged⟩

/-- A registry of a revision, with a source. -/
def savedSpeakers (revision : UInt64) : RegistryContents where
  «namespace» := generateNamespace 1 2
  revision := revision
  nextSourceSequence := 1
  entries := KeyedMap.empty.insert ⟨⟨counterSourceId "ns-1-2" 1, isBlank_counterSourceId _ _⟩,
    ⟨"key", "token"⟩, "Speakers", .live⟩

/-- The registry can be written. -/
theorem savedSpeakers_reopenable (revision : UInt64) : Reopenable (savedSpeakers revision).entries := by
  refine ⟨?_, List.nodup_singleton _⟩
  intro entry hentry
  cases List.mem_singleton.mp hentry
  exact ⟨by decide, by decide⟩

/-- Its sequence covers the identifier of the source. -/
theorem savedSpeakers_covers (revision : UInt64) : Covers (savedSpeakers revision) := by
  intro entry hentry parsed hparsed
  cases List.mem_singleton.mp hentry
  have hone : parseSequenceFromId (counterSourceId "ns-1-2" 1) = some 1 := by decide +kernel
  cases hone.symm.trans hparsed
  show (1 : UInt64) ≤ 1
  decide

/-- What is written of it is opened again. -/
theorem fromPersisted_savedSpeakers (revision : UInt64) :
    fromPersisted (savedSpeakers revision).image = .ok (savedSpeakers revision) :=
  (fromPersisted_image_iff (savedSpeakers_reopenable revision)).mpr (savedSpeakers_covers revision)

/-- Opening reads it from the current file. -/
theorem loadOrInit_savedSpeakers (revision : UInt64) («namespace» : RegistryNamespace)
    (fault : Option Interruption) :
    loadOrInit ⟨some (savedSpeakers revision).bytes, none, none⟩ «namespace» fault
      = (.ok (savedSpeakers revision), ⟨some (savedSpeakers revision).bytes, none, none⟩) := by
  rw [loadOrInit_of_opened (opened_written _), fromPersisted_savedSpeakers]

/-- The current file is read, and damaged after the next revision is written. -/
theorem crash_safe_iff_example :
    (∀ interruption,
      Opens (interrupted (savedSpeakers 3).bytes ⟨some (savedSpeakers 2).bytes, none, none⟩ interruption)
          (savedSpeakers 2) ∨
        Opens (interrupted (savedSpeakers 3).bytes ⟨some (savedSpeakers 2).bytes, none, none⟩ interruption)
          (savedSpeakers 3)) ∧
      ∀ fault files',
        persist (savedSpeakers 3) ⟨some (savedSpeakers 2).bytes, none, none⟩ fault = (.ok (), files') →
          Opens { files' with current := some [0] } (savedSpeakers 3) := by
  have hcurrent : loadRegistry (some (savedSpeakers 2).bytes) = .ok (savedSpeakers 2).image :=
    loadRegistry_bytes (savedSpeakers 2)
  have hdamaged : ∀ image, loadRegistry (some [0]) = .ok image →
      fromPersisted image = .ok (savedSpeakers 3) := by
    have herror : (loadRegistry (some [0])).isOk = false := by decide +kernel
    intro image himage
    rw [himage] at herror
    cases herror
  exact (crash_safe_iff (loadOrInit_savedSpeakers 2 (generateNamespace 0 0) none)
    (savedSpeakers_reopenable 3)).mpr
    ⟨⟨(savedSpeakers 2).image, hcurrent⟩, savedSpeakers_covers 3, hdamaged⟩

/-- A registry is read from the backup, as the current file was lost. When `persist` has written the
candidate and removed the backup, no file is left, and the registry opens blank. -/
theorem crash_loses_registry :
    (loadOrInit ⟨none, some (savedSpeakers 2).bytes, none⟩ (generateNamespace 5 6) none).1
        = .ok (savedSpeakers 2) ∧
      interrupted (savedSpeakers 3).bytes ⟨none, some (savedSpeakers 2).bytes, none⟩ ⟨4, none⟩
        = ⟨none, none, some (savedSpeakers 3).bytes⟩ ∧
      (loadOrInit ⟨none, none, some (savedSpeakers 3).bytes⟩ (generateNamespace 7 8) none).1
        = .ok (blank (generateNamespace 7 8)) := by
  refine ⟨?_, rfl, rfl⟩
  have hopened : opened ⟨none, some (savedSpeakers 2).bytes, none⟩ = some (savedSpeakers 2).image := by
    unfold opened
    simp only [loadRegistry_bytes]
    rfl
  rw [loadOrInit_of_opened hopened, fromPersisted_savedSpeakers]

end ResonanceSignal
