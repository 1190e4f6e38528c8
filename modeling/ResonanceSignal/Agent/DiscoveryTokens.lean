import ResonanceSignal.Agent.DiscoveryCoherence
import ResonanceSignal.Agent.RegistryCrash
import ResonanceSignal.Lib.Transition

/-!
# Discovery revisions as freshness tokens

Two snapshots of one namespace and revision show the same. The registry's revision is raised when
its entries change; what else a snapshot shows is which source is the default, and a refresh raises
the revision if only that is not as in the last snapshot, or if there is no last one to compare
with. So a snapshot has a new revision, or it shows what the last one did (`refresh_spec`). The
invariant of a run (`Fresh`) is that no snapshot is ahead of the registry, and those level with it
show the same as the last one; what is on disk has the revision of the registry in memory, even if a
batch that failed has changed the entries there, and this is what matters when discovery is opened
again.
-/

namespace ResonanceSignal

/-! ## Tokens -/

/-- A decimal is that of one number. -/
theorem decimal_injective {a b : ℕ} (h : Text.decimal a = Text.decimal b) : a = b := by
  have hparsed := congrArg Text.parseDecimal h
  rw [Text.parseDecimal_decimal, Text.parseDecimal_decimal] at hparsed
  exact Option.some.inj hparsed

/-- A token is that of one namespace and revision. -/
theorem portableRevision_injective {identity other : DiscoverySnapshot}
    (h : portableRevision identity = portableRevision other) : identity = other := by
  obtain ⟨⟨name, hname⟩, revision⟩ := identity
  obtain ⟨⟨name', hname'⟩, revision'⟩ := other
  have hseparator : ∀ n, '|' ∉ Text.decimal n := fun n => Text.not_mem_decimal rfl
  have htext := congrArg DiscoveryRevision.asStr h
  unfold portableRevision portableRevisionText at htext
  have hlist := String.ofList_injective htext
  -- The length is before the first separator, and the revision after the last one.
  have hfirst := congrArg (Text.splitOnce '|') hlist
  rw [Text.splitOnce_append (hseparator _), Text.splitOnce_append (hseparator _)] at hfirst
  obtain ⟨-, hrest⟩ := Prod.mk.inj (Option.some.inj hfirst)
  have hlast := congrArg (Text.rsplitOnce '|') hrest
  rw [Text.rsplitOnce_append (hseparator _), Text.rsplitOnce_append (hseparator _)] at hlast
  obtain ⟨hnames, hrevisions⟩ := Prod.mk.inj (Option.some.inj hlast)
  have hsameName : name = name' := String.toList_injective hnames
  have hsameRevision : revision = revision' := UInt64.toNat_inj.mp (decimal_injective hrevisions)
  subst hsameName
  subst hsameRevision
  rfl

/-! ## What snapshots show -/

/-- Two snapshots show the same. -/
structure ShowsSame (snapshot other : PlaybackDiscoverySnapshot) : Prop where
  /-- The sources. -/
  sources : snapshot.sources = other.sources
  /-- Where they can be captured. -/
  bindings : ∀ binding, binding ∈ snapshot.captureBindings ↔ binding ∈ other.captureBindings
  /-- Where the default can be captured. -/
  default : snapshot.defaultPlaybackBinding = other.defaultPlaybackBinding

namespace ShowsSame

variable {first second third : PlaybackDiscoverySnapshot}

/-- A snapshot shows what it shows. -/
theorem refl (snapshot : PlaybackDiscoverySnapshot) : ShowsSame snapshot snapshot :=
  ⟨rfl, fun _ => Iff.rfl, rfl⟩

/-- They show the same of each other. -/
theorem symm (h : ShowsSame first second) : ShowsSame second first :=
  ⟨h.sources.symm, fun binding => (h.bindings binding).symm, h.default.symm⟩

/-- They show the same. -/
theorem trans (h : ShowsSame first second) (h' : ShowsSame second third) :
    ShowsSame first third :=
  ⟨h.sources.trans h'.sources, fun binding => (h.bindings binding).trans (h'.bindings binding),
    h.default.trans h'.default⟩

end ShowsSame

/-- The bindings of a snapshot are its available sources, with the keys of their evidence. -/
structure Binds (m : Sources) (snapshot : PlaybackDiscoverySnapshot) : Prop where
  /-- The available sources are bound. -/
  bindings : ∀ sourceId,
    (∃ binding ∈ snapshot.captureBindings, binding.sourceId = sourceId) ↔
      ∃ source ∈ snapshot.sources, source.sourceId = sourceId ∧ source.isAvailable = true
  /-- A binding belongs to the snapshot. -/
  identities : ∀ binding ∈ snapshot.captureBindings, binding.identity = snapshot.identity
  /-- Its endpoint is that of its source's evidence. -/
  endpoints : ∀ binding ∈ snapshot.captureBindings, ∃ entry ∈ m.values,
    entry.id = binding.sourceId ∧ entry.continuity.backendKey = binding.endpointId
  /-- The default binding is that of the default. -/
  default_source : ∀ sourceId,
    (∃ source ∈ snapshot.sources, source.sourceId = sourceId ∧ source.isDefaultPlayback = true) ↔
      ∃ binding, snapshot.defaultPlaybackBinding = some binding ∧ binding.sourceId = sourceId
  /-- It is a binding of the snapshot. -/
  default_binding : ∀ binding, snapshot.defaultPlaybackBinding = some binding →
    binding ∈ snapshot.captureBindings

/-- A coherent snapshot binds its available sources. -/
theorem Coherent.binds {active : List PlaybackEndpointObservation} {m : Sources}
    {snapshot : PlaybackDiscoverySnapshot} (h : Coherent active m snapshot) : Binds m snapshot where
  bindings sourceId := by
    have hmem := h.bindings.mem_iff (a := sourceId)
    simp only [List.mem_map, List.mem_filter] at hmem
    rw [hmem]
    constructor
    · rintro ⟨source, ⟨hsource, havailable⟩, hid⟩
      exact ⟨source, hsource, hid, havailable⟩
    · rintro ⟨source, hsource, hid, havailable⟩
      exact ⟨source, ⟨hsource, havailable⟩, hid⟩
  identities := h.identities
  endpoints binding hbinding := by
    obtain ⟨entry, hentry, hid, -, hkey, -⟩ := h.endpoints binding hbinding
    exact ⟨entry, hentry, hid, hkey⟩
  default_source := h.default_source
  default_binding binding hbinding := (h.default_binding binding hbinding).1

/-- A source keeps its evidence, and so a snapshot its bindings. -/
theorem Binds.of_preserves {before after : RegistryContents} {ids : List SourceId}
    {snapshot : PlaybackDiscoverySnapshot} (h : Binds before.entries snapshot)
    (hpreserves : Preserves before after ids) : Binds after.entries snapshot where
  bindings := h.bindings
  identities := h.identities
  endpoints binding hbinding := by
    obtain ⟨entry, hentry, hid, hkey⟩ := h.endpoints binding hbinding
    obtain ⟨entry', hentry', hevolves⟩ := hpreserves.kept entry hentry
    refine ⟨entry', hentry', hevolves.id.trans hid, ?_⟩
    rw [hevolves.continuity]
    exact hkey
  default_source := h.default_source
  default_binding := h.default_binding

variable {m : Sources} {snapshot other : PlaybackDiscoverySnapshot}

/-- A binding is that of its source. -/
theorem Binds.eq_of_sourceId (h : Binds m snapshot) (h' : Binds m other)
    (hidentity : snapshot.identity = other.identity) {binding binding' : PlaybackCaptureBinding}
    (hbinding : binding ∈ snapshot.captureBindings) (hbinding' : binding' ∈ other.captureBindings)
    (hid : binding.sourceId = binding'.sourceId) : binding = binding' := by
  obtain ⟨entry, hentry, hsource, hkey⟩ := h.endpoints binding hbinding
  obtain ⟨entry', hentry', hsource', hkey'⟩ := h'.endpoints binding' hbinding'
  have hentries : entry = entry' := by
    apply KeyedMap.eq_of_key_eq hentry hentry'
    show entry.id.asStr = entry'.id.asStr
    rw [hsource, hsource', hid]
  have hendpoint : binding.endpointId = binding'.endpointId := by
    rw [← hkey, ← hkey', hentries]
  have hidentities : binding.identity = binding'.identity := by
    rw [h.identities binding hbinding, h'.identities binding' hbinding', hidentity]
  calc binding
    _ = ⟨binding.identity, binding.sourceId, binding.endpointId⟩ := rfl
    _ = ⟨binding'.identity, binding'.sourceId, binding'.endpointId⟩ := by
      rw [hidentities, hid, hendpoint]
    _ = binding' := rfl

/-- The bindings of one are those of the other, where their sources are the same. -/
theorem Binds.mem_of_sources (h : Binds m snapshot) (h' : Binds m other)
    (hidentity : snapshot.identity = other.identity) (hsources : snapshot.sources = other.sources)
    {binding : PlaybackCaptureBinding} (hbinding : binding ∈ snapshot.captureBindings) :
    binding ∈ other.captureBindings := by
  have hsource := (h.bindings binding.sourceId).mp ⟨binding, hbinding, rfl⟩
  rw [hsources] at hsource
  obtain ⟨binding', hbinding', hid⟩ := (h'.bindings binding.sourceId).mpr hsource
  rw [h.eq_of_sourceId h' hidentity hbinding hbinding' hid.symm]
  exact hbinding'

/-- The default binding of one is that of the other. -/
theorem Binds.default_of_sources (h : Binds m snapshot) (h' : Binds m other)
    (hidentity : snapshot.identity = other.identity) (hsources : snapshot.sources = other.sources)
    {binding : PlaybackCaptureBinding}
    (hbinding : snapshot.defaultPlaybackBinding = some binding) :
    other.defaultPlaybackBinding = some binding := by
  have hsource := (h.default_source binding.sourceId).mpr ⟨binding, hbinding, rfl⟩
  rw [hsources] at hsource
  obtain ⟨binding', hbinding', hid⟩ := (h'.default_source binding.sourceId).mp hsource
  rw [h.eq_of_sourceId h' hidentity (h.default_binding binding hbinding)
    (h'.default_binding binding' hbinding') hid.symm]
  exact hbinding'

/-- Snapshots of one registry and revision with the same sources show the same. -/
theorem Binds.showsSame (h : Binds m snapshot) (h' : Binds m other)
    (hidentity : snapshot.identity = other.identity)
    (hsources : snapshot.sources = other.sources) : ShowsSame snapshot other where
  sources := hsources
  bindings binding :=
    ⟨h.mem_of_sources h' hidentity hsources, h'.mem_of_sources h hidentity.symm hsources.symm⟩
  default := by
    apply Option.ext
    intro binding
    exact ⟨h.default_of_sources h' hidentity hsources,
      h'.default_of_sources h hidentity.symm hsources.symm⟩

/-! ## Refreshes -/

/-- Without an interruption, `persist` writes. -/
theorem persist_none (contents : RegistryContents) (files : RegistryFiles) :
    persist contents files none
      = (.ok (), ⟨some contents.bytes, some contents.bytes, none⟩) := by
  show (Except.ok (), persisted contents.bytes files) = _
  rw [persisted_eq]

/-- Without an interruption, a commit succeeds. -/
theorem commit_none {A : Type} (registry : IdentityRegistry A) (files : RegistryFiles) :
    registry.commit files none = (.ok
      ⟨registry.namespace, Checked.saturatingAdd registry.revision 1⟩,
      { registry with revision := Checked.saturatingAdd registry.revision 1 },
      ⟨some ({ registry.toRegistryContents with
          revision := Checked.saturatingAdd registry.revision 1 } : RegistryContents).bytes,
        some ({ registry.toRegistryContents with
          revision := Checked.saturatingAdd registry.revision 1 } : RegistryContents).bytes,
        none⟩) := by
  unfold IdentityRegistry.commit
  dsimp only
  rw [persist_none]
  rfl

/-- A revision below its bound is raised. -/
theorem lt_saturatingAdd_one {revision : UInt64} (h : revision.toNat + 1 < 2^64) :
    revision < Checked.saturatingAdd revision 1 := by
  have hone : (1 : UInt64).toNat = 1 := rfl
  have hvalue := Checked.saturatingAdd_toNat revision 1
  apply UInt64.lt_iff_toNat_lt.mpr
  omega

/-- A revision does not fall. -/
theorem le_saturatingAdd_one (revision : UInt64) : revision ≤ Checked.saturatingAdd revision 1 := by
  rcases IdentityRegistry.saturatingAdd_one revision with hsame | hlt
  · exact UInt64.le_of_eq hsame.symm
  · exact UInt64.le_of_lt hlt

/-- A batch that fails, where nothing is interrupted. -/
theorem applyObservations_error {before after : IdentityRegistry CounterSourceIdAllocator}
    {observations : List SourceObservation} {files files' : RegistryFiles} {error : RegistryError}
    (hwellformed : Wellformed before.toRegistryContents)
    (h : before.applyObservations observations files none = (.error error, after, files')) :
    files' = files ∧ after.revision = before.revision := by
  rcases IdentityRegistry.applyObservations_cases before observations files none with
    ⟨error', failed, hobserve, hoperation⟩ | ⟨observedAfter, -, hoperation⟩ |
      ⟨observedAfter, -, hoperation⟩
  · rw [hoperation] at h
    cases h
    obtain ⟨hmarked, -⟩ := IdentityRegistry.markAllAbsent_preserves
      (observedContinuities observations) hwellformed
    obtain ⟨-, -, hrevision⟩ := IdentityRegistry.observeAll_error_preserves hmarked hobserve
    exact ⟨rfl, hrevision⟩
  · rw [hoperation] at h
    cases h
  · rw [hoperation, commit_none] at h
    cases h

namespace PlaybackDiscovery

variable {self after : PlaybackDiscovery} {files files' : RegistryFiles}
  {enumerated : Except String (List PlaybackEndpointObservation)}

/-- What a refresh does that is not interrupted, from a registry below the last revision. -/
inductive Refreshes (self : PlaybackDiscovery) (files : RegistryFiles) :
    Option PlaybackDiscoverySnapshot → PlaybackDiscovery → RegistryFiles → Prop
  /-- It fails. The registry may have changed in memory, and its revision has not. -/
  | fails {registry : IdentityRegistry CounterSourceIdAllocator} {ids : List SourceId}
    (hwellformed : Wellformed registry.toRegistryContents)
    (hpreserves : Preserves self.registry.toRegistryContents registry.toRegistryContents ids)
    (hrevision : registry.revision = self.registry.revision) :
    Refreshes self files none { self with registry } files
  /-- Its sources are those of the last snapshot, at the same revision. -/
  | repeats {last snapshot : PlaybackDiscoverySnapshot}
    (hlast : self.lastSnapshot = some last)
    (hidentity : snapshot.identity = self.registry.snapshot)
    (hsources : last.identity.revision = snapshot.identity.revision →
      last.sources = snapshot.sources)
    (hbinds : Binds self.registry.entries snapshot) :
    Refreshes self files (some snapshot) ⟨self.registry, some snapshot⟩ files
  /-- The revision is raised. -/
  | raises {registry : IdentityRegistry CounterSourceIdAllocator}
    {snapshot : PlaybackDiscoverySnapshot} {ids : List SourceId}
    (hwellformed : Wellformed registry.toRegistryContents)
    (hpreserves : Preserves self.registry.toRegistryContents registry.toRegistryContents ids)
    (hrevision : self.registry.revision < registry.revision)
    (hidentity : snapshot.identity = registry.snapshot)
    (hbinds : Binds registry.entries snapshot) :
    Refreshes self files (some snapshot) ⟨registry, some snapshot⟩
      ⟨some registry.bytes, some registry.bytes, none⟩

/-- A refresh that fails changes no revision. -/
theorem refresh_fails (hwellformed : Wellformed self.registry.toRegistryContents)
    {error : DiscoveryError}
    (h : self.refresh enumerated files none none = (.error error, after, files')) :
    Refreshes self files none after files' := by
  have hsame : Refreshes self files none self files :=
    .fails hwellformed (.refl self.registry.toRegistryContents) rfl
  unfold refresh at h
  split at h
  next =>
    cases h
    exact hsame
  next observations =>
    dsimp only at h
    split at h
    next =>
      cases h
      exact hsame
    next =>
      have hpreserves := IdentityRegistry.applyObservations_preserves hwellformed
        (gatherActive (activeEndpoints observations)).1 files none
      split at h
      next error registry applied happly =>
        cases h
        rw [happly] at hpreserves
        obtain ⟨hwellformed', ids, hpreserves⟩ := hpreserves
        obtain ⟨rfl, hrevision⟩ := applyObservations_error hwellformed happly
        exact .fails hwellformed' hpreserves hrevision
      next identity registry applied happly =>
        unfold publish IdentityRegistry.advanceRevision at h
        rw [commit_none] at h
        split at h
        next => cases h
        next => cases h

/-- What a refresh does that is not interrupted. -/
theorem refresh_spec (hwellformed : Wellformed self.registry.toRegistryContents)
    (hbelow : self.registry.revision.toNat + 1 < 2^64) {outcome : Except DiscoveryError _}
    (h : self.refresh enumerated files none none = (outcome, after, files')) :
    Refreshes self files outcome.toOption after files' := by
  cases outcome with
  | error error => exact refresh_fails hwellformed h
  | ok snapshot =>
    obtain ⟨observations, -, hcoherent, hidentity⟩ := refresh_coherent hwellformed.oneEach h
    have hbinds := hcoherent.binds
    obtain ⟨observations, identity, registry, applied, -, happly, hcases⟩ := refresh_eq_ok h
    have hpreserves := IdentityRegistry.applyObservations_preserves hwellformed
      (gatherActive (activeEndpoints observations)).1 files none
    rw [happly] at hpreserves
    obtain ⟨hwellformed', ids, hpreserves⟩ := hpreserves
    obtain ⟨changes, observedAfter, hobserves, -, hafter⟩ :=
      IdentityRegistry.applyObservations_eq_ok happly
    have hraised := lt_saturatingAdd_one hbelow
    -- The endpoints changed nothing, or what they changed is committed.
    have happlied : registry = self.registry ∧ applied = files ∨
        self.registry.revision < registry.revision ∧
          applied = ⟨some registry.bytes, some registry.bytes, none⟩ := by
      rcases hafter with ⟨hsame, -, hfiles⟩ | ⟨hsame, hfiles⟩
      · exact .inl ⟨hsame, hfiles⟩
      · have hrevision : observedAfter.revision = self.registry.revision := hobserves.revision
        refine .inr ⟨?_, hfiles⟩
        rw [hsame]
        show self.registry.revision < Checked.saturatingAdd observedAfter.revision 1
        rw [hrevision]
        exact hraised
    rcases hcases with ⟨hadvances, hsnapshot, rfl, rfl⟩ | ⟨-, identity', advanced, hadvance, -, rfl⟩
    · rcases happlied with ⟨rfl, rfl⟩ | ⟨hlt, rfl⟩
      · have hrevision : snapshot.identity.revision = self.registry.revision := by
          rw [hidentity]
          rfl
        rw [← hsnapshot] at hadvances
        unfold advances at hadvances
        cases hlast : self.lastSnapshot with
        | none =>
          rw [hlast] at hadvances
          exact absurd hrevision (of_decide_eq_false hadvances)
        | some last =>
          rw [hlast] at hadvances
          refine .repeats hlast hidentity ?_ hbinds
          intro hlevel
          by_contra hdiffer
          simp [hlevel, hdiffer] at hadvances
      · exact .raises hwellformed' hpreserves hlt hidentity hbinds
    · unfold IdentityRegistry.advanceRevision at hadvance
      rw [commit_none] at hadvance
      obtain ⟨-, hcommitted⟩ := Prod.mk.inj hadvance
      obtain ⟨rfl, rfl⟩ := Prod.mk.inj hcommitted
      refine .raises ⟨hwellformed'.covers, hwellformed'.oneEach⟩ (hpreserves.withRevision _) ?_
        hidentity hbinds
      show self.registry.revision < Checked.saturatingAdd registry.revision 1
      rcases happlied with ⟨rfl, -⟩ | ⟨hlt, -⟩
      · exact hraised
      · exact UInt64.lt_of_lt_of_le hlt (le_saturatingAdd_one registry.revision)

end PlaybackDiscovery

/-! ## Runs -/

/-- Discovery, and the files of its registry. -/
structure DiscoveryMachine where
  /-- Discovery. -/
  discovery : PlaybackDiscovery
  /-- The files. -/
  files : RegistryFiles

/-- What happens to discovery: a refresh, and that it is dropped and opened again. -/
inductive DiscoveryCall
  | refresh (enumerated : Except String (List PlaybackEndpointObservation))
  | reopen («namespace» : RegistryNamespace)

namespace DiscoveryMachine

/-- `PlaybackDiscovery::new` on the files of a directory, where it succeeds. -/
def new (files : RegistryFiles) («namespace» : RegistryNamespace) : Option DiscoveryMachine :=
  match PlaybackDiscovery.new files «namespace» none with
  | (.ok discovery, files) => some ⟨discovery, files⟩
  | (.error _, _) => none

/-- A call, with the snapshot that it publishes. All that is persisted is written. -/
def call (self : DiscoveryMachine) :
    DiscoveryCall → Option (Option PlaybackDiscoverySnapshot × DiscoveryMachine)
  | .refresh enumerated =>
    let (outcome, discovery, files) := self.discovery.refresh enumerated self.files none none
    some (outcome.toOption, ⟨discovery, files⟩)
  | .reopen «namespace» => (new self.files «namespace»).map (none, ·)

/-- The revision is below the last one. -/
def Below (self : DiscoveryMachine) : Prop := self.discovery.registry.revision.toNat + 1 < 2^64

instance (self : DiscoveryMachine) : Decidable self.Below := inferInstanceAs (Decidable (_ < _))

/-- The calls of discovery, at revisions below the last one. -/
def system :
    TransitionSystem DiscoveryMachine (DiscoveryCall × Option PlaybackDiscoverySnapshot) :=
  (TransitionSystem.ofFn call).restrict fun m _ => m.Below

/-- The snapshots that were published. -/
def published (ls : List (DiscoveryCall × Option PlaybackDiscoverySnapshot)) :
    List PlaybackDiscoverySnapshot :=
  ls.filterMap Prod.snd

/-- What holds of the snapshots of a run, and where it ends. -/
structure Fresh (snapshots : List PlaybackDiscoverySnapshot) (m : DiscoveryMachine) : Prop where
  /-- The registry is well-formed. -/
  wellformed : Wellformed m.discovery.registry.toRegistryContents
  /-- The files have its revision. -/
  written : ∃ image, opened m.files = some image ∧
    image.namespace = m.discovery.registry.namespace ∧
    image.revision = m.discovery.registry.revision
  /-- No snapshot is ahead of it. -/
  behind : ∀ snapshot ∈ snapshots, snapshot.identity.namespace = m.discovery.registry.namespace ∧
    snapshot.identity.revision ≤ m.discovery.registry.revision
  /-- The last snapshot is level with it, and shows what others do that are. -/
  level : ∀ last, m.discovery.lastSnapshot = some last →
    last.identity = m.discovery.registry.snapshot ∧ Binds m.discovery.registry.entries last ∧
      ∀ snapshot ∈ snapshots, snapshot.identity = last.identity → ShowsSame snapshot last
  /-- The bindings of a snapshot belong to it. -/
  issued : ∀ snapshot ∈ snapshots,
    (∀ binding ∈ snapshot.captureBindings, binding.identity = snapshot.identity) ∧
      ∀ binding, snapshot.defaultPlaybackBinding = some binding →
        binding ∈ snapshot.captureBindings
  /-- Snapshots of one revision show the same. -/
  same : ∀ snapshot ∈ snapshots, ∀ other ∈ snapshots, snapshot.identity = other.identity →
    ShowsSame snapshot other

variable {m m' start : DiscoveryMachine} {snapshots : List PlaybackDiscoverySnapshot}
  {files : RegistryFiles} {«namespace» : RegistryNamespace}

/-- A snapshot is published that shows what those of its revision do. -/
theorem Fresh.publish {registry : IdentityRegistry CounterSourceIdAllocator}
    {snapshot : PlaybackDiscoverySnapshot} (h : Fresh snapshots m)
    (hwellformed : Wellformed registry.toRegistryContents)
    (hwritten : ∃ image, opened files = some image ∧ image.namespace = registry.namespace ∧
      image.revision = registry.revision)
    (hnamespace : registry.namespace = m.discovery.registry.namespace)
    (hrevision : m.discovery.registry.revision ≤ registry.revision)
    (hidentity : snapshot.identity = registry.snapshot) (hbinds : Binds registry.entries snapshot)
    (hsame : ∀ other ∈ snapshots, other.identity = snapshot.identity →
      ShowsSame other snapshot) :
    Fresh (snapshots ++ [snapshot]) ⟨⟨registry, some snapshot⟩, files⟩ where
  wellformed := hwellformed
  written := hwritten
  behind other hother := by
    rcases List.mem_append.mp hother with hother | hother
    · obtain ⟨hname, hle⟩ := h.behind other hother
      exact ⟨hname.trans hnamespace.symm, UInt64.le_trans hle hrevision⟩
    · cases List.mem_singleton.mp hother
      rw [hidentity]
      exact ⟨rfl, UInt64.le_refl _⟩
  level last hlast := by
    cases hlast
    refine ⟨hidentity, hbinds, ?_⟩
    -- A snapshot of the same identity was published before, or is this one.
    intro other hother hlevel
    rcases List.mem_append.mp hother with hother | hother
    · exact hsame other hother hlevel
    · cases List.mem_singleton.mp hother
      exact .refl snapshot
  issued other hother := by
    rcases List.mem_append.mp hother with hother | hother
    · exact h.issued other hother
    · cases List.mem_singleton.mp hother
      exact ⟨hbinds.identities, hbinds.default_binding⟩
  same first hfirst second hsecond hlevel := by
    rcases List.mem_append.mp hfirst with hfirst | hfirst
    · rcases List.mem_append.mp hsecond with hsecond | hsecond
      · exact h.same first hfirst second hsecond hlevel
      · cases List.mem_singleton.mp hsecond
        exact hsame first hfirst hlevel
    · cases List.mem_singleton.mp hfirst
      rcases List.mem_append.mp hsecond with hsecond | hsecond
      · exact (hsame second hsecond hlevel.symm).symm
      · cases List.mem_singleton.mp hsecond
        exact .refl snapshot

/-- A refresh keeps the snapshots fresh. -/
theorem Fresh.refreshes {snapshot? : Option PlaybackDiscoverySnapshot}
    {discovery : PlaybackDiscovery} (h : Fresh snapshots m)
    (hrefreshes : m.discovery.Refreshes m.files snapshot? discovery files) :
    Fresh (snapshots ++ snapshot?.toList) ⟨discovery, files⟩ := by
  cases hrefreshes with
  | @fails registry ids hwellformed hpreserves hrevision =>
    have hnamespace : registry.namespace = m.discovery.registry.namespace :=
      hpreserves.namespace_eq
    have hsnapshot : registry.snapshot = m.discovery.registry.snapshot := by
      unfold IdentityRegistry.snapshot
      rw [hnamespace, hrevision]
    rw [Option.toList_none, List.append_nil]
    refine ⟨hwellformed, ?_, ?_, ?_, h.issued, h.same⟩
    · show ∃ image, opened m.files = some image ∧ image.namespace = registry.namespace ∧
        image.revision = registry.revision
      rw [hnamespace, hrevision]
      exact h.written
    · show ∀ snapshot ∈ snapshots, snapshot.identity.namespace = registry.namespace ∧
        snapshot.identity.revision ≤ registry.revision
      rw [hnamespace, hrevision]
      exact h.behind
    · intro last hlast
      obtain ⟨hidentity, hbinds, hsame⟩ := h.level last hlast
      exact ⟨hidentity.trans hsnapshot.symm, hbinds.of_preserves hpreserves, hsame⟩
  | @repeats last snapshot hlast hidentity hsources hbinds =>
    obtain ⟨hlevel, hlastBinds, hsame⟩ := h.level last hlast
    have hlevel : last.identity = snapshot.identity := hlevel.trans hidentity.symm
    have hshows : ShowsSame last snapshot :=
      hlastBinds.showsSame hbinds hlevel (hsources (congrArg DiscoverySnapshot.revision hlevel))
    refine h.publish h.wellformed h.written rfl (UInt64.le_refl _) hidentity hbinds ?_
    intro other hother hidentity'
    exact (hsame other hother (hidentity'.trans hlevel.symm)).trans hshows
  | @raises registry snapshot ids hwellformed hpreserves hrevision hidentity hbinds =>
    refine h.publish hwellformed ⟨registry.image, opened_written _, rfl, rfl⟩
      hpreserves.namespace_eq (UInt64.le_of_lt hrevision) hidentity hbinds ?_
    -- No snapshot was published at the new revision.
    intro other hother hidentity'
    have hlevel : other.identity.revision = registry.revision := by
      rw [hidentity', hidentity]
      rfl
    have hle := (h.behind other hother).2
    rw [hlevel] at hle
    exact absurd hle (UInt64.not_le.mpr hrevision)

/-- What is read has the namespace and the revision of the image. -/
theorem fromPersisted_identity {image : PersistedRegistry} {contents : RegistryContents}
    (h : fromPersisted image = .ok contents) :
    image.namespace = contents.namespace ∧ image.revision = contents.revision := by
  obtain ⟨current, hcurrent, h⟩ := Result.bind_eq_ok.mp h
  obtain ⟨loaded, -, h⟩ := Result.bind_eq_ok.mp h
  unfold PersistedRegistry.intoCurrentSchema at hcurrent
  split at hcurrent
  next => cases hcurrent
  next =>
    split at hcurrent
    next => cases hcurrent
    next =>
      split at hcurrent
      next => cases hcurrent
      next =>
        cases hcurrent
        cases h
        exact ⟨rfl, rfl⟩

/-- Discovery that is opened has a registry that is opened, and no last snapshot. -/
theorem new_eq_some (h : new files «namespace» = some m) :
    RegistryMachine.new files «namespace» none = some ⟨m.discovery.registry, m.files⟩ ∧
      m.discovery.lastSnapshot = none ∧
      loadOrInit files «namespace» none
        = (.ok m.discovery.registry.toRegistryContents, m.files) := by
  unfold new PlaybackDiscovery.new at h
  unfold RegistryMachine.new
  unfold IdentityRegistry.withAllocator at h ⊢
  rcases hload : loadOrInit files «namespace» none with ⟨outcome, written⟩
  rw [hload] at h
  cases outcome with
  | error error => cases h
  | ok contents =>
    cases h
    exact ⟨rfl, rfl, rfl⟩

/-- Opened discovery. -/
theorem Fresh.of_new (h : new files «namespace» = some m)
    (hbehind : ∀ snapshot ∈ snapshots,
      snapshot.identity.namespace = m.discovery.registry.namespace ∧
        snapshot.identity.revision ≤ m.discovery.registry.revision)
    (hissued : ∀ snapshot ∈ snapshots,
      (∀ binding ∈ snapshot.captureBindings, binding.identity = snapshot.identity) ∧
        ∀ binding, snapshot.defaultPlaybackBinding = some binding →
          binding ∈ snapshot.captureBindings)
    (hsame : ∀ snapshot ∈ snapshots, ∀ other ∈ snapshots, snapshot.identity = other.identity →
      ShowsSame snapshot other) : Fresh snapshots m := by
  obtain ⟨hregistry, hlast, hload⟩ := new_eq_some h
  obtain ⟨image, hopened, hread⟩ := opened_of_loadOrInit hload
  obtain ⟨hnamespace, hrevision⟩ := fromPersisted_identity hread
  refine ⟨RegistryMachine.new_wellformed hregistry, ⟨image, hopened, hnamespace, hrevision⟩,
    hbehind, ?_, hissued, hsame⟩
  intro last hsome
  rw [hlast] at hsome
  cases hsome

/-- A call keeps the snapshots fresh. -/
theorem Fresh.call {c : DiscoveryCall} {snapshot? : Option PlaybackDiscoverySnapshot}
    (h : Fresh snapshots m) (hbelow : m.Below) (hcall : m.call c = some (snapshot?, m')) :
    Fresh (snapshots ++ snapshot?.toList) m' := by
  cases c with
  | refresh enumerated =>
    unfold DiscoveryMachine.call at hcall
    dsimp only at hcall
    rcases hrefresh : m.discovery.refresh enumerated m.files none none with
      ⟨outcome, discovery, files⟩
    rw [hrefresh] at hcall
    cases hcall
    exact h.refreshes (PlaybackDiscovery.refresh_spec h.wellformed hbelow hrefresh)
  | reopen «namespace» =>
    obtain ⟨opened, hnew, hsame⟩ := Option.map_eq_some_iff.mp hcall
    cases hsame
    obtain ⟨-, -, hload⟩ := new_eq_some hnew
    obtain ⟨image, hopened, hnamespace, hrevision⟩ := h.written
    rw [loadOrInit_of_opened hopened] at hload
    obtain ⟨hread, -⟩ := Prod.mk.inj hload
    obtain ⟨hnamespace', hrevision'⟩ := fromPersisted_identity hread
    rw [Option.toList_none, List.append_nil]
    refine Fresh.of_new hnew ?_ h.issued h.same
    intro snapshot hsnapshot
    obtain ⟨hname, hle⟩ := h.behind snapshot hsnapshot
    rw [← hnamespace', ← hrevision', hnamespace, hrevision]
    exact ⟨hname, hle⟩

/-- The snapshots of a run are fresh. -/
theorem fresh_of_run {ls : List (DiscoveryCall × Option PlaybackDiscoverySnapshot)}
    (hnew : new files «namespace» = some start) (hrun : system.Run start ls m) :
    Fresh (published ls) m := by
  have hstart : Fresh [] start := Fresh.of_new hnew nofun nofun nofun
  refine TransitionSystem.Run.history (I := fun ls m => Fresh (published ls) m) hstart ?_ hrun
  intro ls m l m' _ hfresh hstep
  obtain ⟨hcall, hbelow⟩ := hstep
  have hpublished : published (ls ++ [l]) = published ls ++ l.2.toList := by
    unfold published
    rw [List.filterMap_append]
    obtain ⟨c, snapshot?⟩ := l
    cases snapshot? <;> rfl
  rw [hpublished]
  exact hfresh.call hbelow hcall

/-- A binding that is revalidated is the one that is resolved. -/
theorem revalidate_eq_ok {binding : PlaybackCaptureBinding}
    {current : Except DiscoveryError PlaybackCaptureBinding}
    (h : PlaybackDiscovery.revalidate binding current = .ok ()) : current = .ok binding := by
  obtain ⟨resolved, rfl, hsame⟩ := Result.bind_eq_ok.mp h
  rw [not_not.mp (failIf_eq_ok.mp hsame)]

/-- A default binding is revalidated by a refresh whose snapshot has it. -/
theorem revalidateDefault_eq_ok {discovery : PlaybackDiscovery} {binding : PlaybackCaptureBinding}
    {enumerated : Except String (List PlaybackEndpointObservation)}
    (h : (discovery.revalidateDefaultPlaybackCapture binding enumerated files none none).1
      = .ok ()) :
    ∃ current, (discovery.refresh enumerated files none none).1 = .ok current ∧
      current.defaultPlaybackBinding = some binding := by
  unfold PlaybackDiscovery.revalidateDefaultPlaybackCapture at h
  dsimp only at h
  obtain ⟨current, hrefresh, hresolve⟩ := Result.bind_eq_ok.mp (revalidate_eq_ok h)
  refine ⟨current, hrefresh, ?_⟩
  obtain ⟨-, -, hbinding⟩ := Result.bind_eq_ok.mp hresolve
  exact okOr_eq_ok.mp hbinding

/-- A binding is revalidated by a refresh whose snapshot has it. -/
theorem revalidateExplicit_eq_ok {discovery : PlaybackDiscovery}
    {binding : PlaybackCaptureBinding}
    {enumerated : Except String (List PlaybackEndpointObservation)}
    (h : (discovery.revalidateExplicitPlaybackCapture binding enumerated files none none).1
      = some (.ok ())) :
    ∃ current, (discovery.refresh enumerated files none none).1 = .ok current ∧
      binding ∈ current.captureBindings := by
  unfold PlaybackDiscovery.revalidateExplicitPlaybackCapture at h
  dsimp only at h
  split at h
  next => cases h
  next current hrefresh =>
    refine ⟨current, hrefresh, ?_⟩
    obtain ⟨resolved, hresolve, hsame⟩ := Option.map_eq_some_iff.mp h
    rw [revalidate_eq_ok hsame] at hresolve
    exact (PlaybackDiscovery.resolveExplicitPlaybackCapture_eq_ok hresolve).2

/-- A refresh after a run shows what a snapshot of its revision did. -/
theorem Fresh.showsSame {snapshot current : PlaybackDiscoverySnapshot}
    {enumerated : Except String (List PlaybackEndpointObservation)}
    (h : Fresh snapshots m) (hbelow : m.Below) (hsnapshot : snapshot ∈ snapshots)
    (hrefresh : (m.discovery.refresh enumerated m.files none none).1 = .ok current)
    {binding : PlaybackCaptureBinding} (hissued : binding ∈ snapshot.captureBindings)
    (hcurrent : binding ∈ current.captureBindings) : ShowsSame snapshot current := by
  rcases hcall : m.discovery.refresh enumerated m.files none none with ⟨outcome, after, files'⟩
  rw [hcall] at hrefresh
  cases hrefresh
  have hnext : Fresh (snapshots ++ [current]) ⟨after, files'⟩ :=
    h.refreshes (PlaybackDiscovery.refresh_spec h.wellformed hbelow hcall)
  have hold : snapshot ∈ snapshots ++ [current] := List.mem_append_left _ hsnapshot
  have hnew : current ∈ snapshots ++ [current] := List.mem_append_right _ List.mem_cons_self
  have hidentity : snapshot.identity = current.identity := by
    calc snapshot.identity
      _ = binding.identity := ((hnext.issued snapshot hold).1 binding hissued).symm
      _ = current.identity := (hnext.issued current hnew).1 binding hcurrent
  exact hnext.same snapshot hold current hnew hidentity

/-- Revisions are freshness tokens. In every run of refreshes, from any files, in which discovery
may be dropped and opened again, two snapshots of one namespace and revision show the same. So where
a binding of a snapshot is revalidated, what the refresh shows is what that snapshot did; and the
portable token is that of one namespace and revision. -/
theorem revisions_sound {ls : List (DiscoveryCall × Option PlaybackDiscoverySnapshot)}
    (hnew : new files «namespace» = some start) (hrun : system.Run start ls m) (hbelow : m.Below) :
    (∀ snapshot ∈ published ls, ∀ other ∈ published ls,
      snapshot.identity = other.identity → ShowsSame snapshot other) ∧
    (∀ snapshot ∈ published ls, ∀ binding, snapshot.defaultPlaybackBinding = some binding →
      ∀ enumerated,
        (m.discovery.revalidateDefaultPlaybackCapture binding enumerated m.files none none).1
          = .ok () →
        ∃ current, (m.discovery.refresh enumerated m.files none none).1 = .ok current ∧
          ShowsSame snapshot current) ∧
    (∀ snapshot ∈ published ls, ∀ binding ∈ snapshot.captureBindings, ∀ enumerated,
        (m.discovery.revalidateExplicitPlaybackCapture binding enumerated m.files none none).1
          = some (.ok ()) →
        ∃ current, (m.discovery.refresh enumerated m.files none none).1 = .ok current ∧
          ShowsSame snapshot current) ∧
    ∀ identity other : DiscoverySnapshot,
      portableRevision identity = portableRevision other → identity = other := by
  have hfresh := fresh_of_run hnew hrun
  refine ⟨hfresh.same, ?_, ?_, fun identity other => portableRevision_injective⟩
  · intro snapshot hsnapshot binding hbinding enumerated hvalid
    obtain ⟨current, hrefresh, hcurrent⟩ := revalidateDefault_eq_ok hvalid
    have hissued := (hfresh.issued snapshot hsnapshot).2 binding hbinding
    rcases hcall : m.discovery.refresh enumerated m.files none none with
      ⟨outcome, after, files'⟩
    rw [hcall] at hrefresh
    cases hrefresh
    -- The snapshot of the revalidation is fresh as well, and it holds the binding.
    have hnext : Fresh (published ls ++ [current]) ⟨after, files'⟩ :=
      hfresh.refreshes (PlaybackDiscovery.refresh_spec hfresh.wellformed hbelow hcall)
    have hmem := (hnext.issued current (List.mem_append_right _ List.mem_cons_self)).2
      binding hcurrent
    exact ⟨current, rfl, hfresh.showsSame hbelow hsnapshot (by rw [hcall]) hissued hmem⟩
  · intro snapshot hsnapshot binding hissued enumerated hvalid
    obtain ⟨current, hrefresh, hcurrent⟩ := revalidateExplicit_eq_ok hvalid
    exact ⟨current, hrefresh, hfresh.showsSame hbelow hsnapshot hrefresh hissued hcurrent⟩

/-- Discovery is refreshed, dropped and opened again, and refreshed with another default. -/
def exampleCalls : List DiscoveryCall :=
  [.refresh (.ok PlaybackDiscovery.exampleEndpoints),
    .refresh (.ok PlaybackDiscovery.exampleEndpoints), .reopen (generateNamespace 1 3),
    .refresh (.ok [⟨"Speakers", .active, .stable ⟨"key", "first"⟩, false⟩])]

/-- A run of refreshes, and what it published. -/
theorem revisions_sound_example : ∃ start ls m,
    new .none (generateNamespace 1 2) = some start ∧ system.Run start ls m ∧ m.Below ∧
      (published ls).length = 3 ∧
      ∀ snapshot ∈ published ls, ∀ other ∈ published ls,
        snapshot.identity = other.identity → ShowsSame snapshot other := by
  have hruns : ((new .none (generateNamespace 1 2)).bind fun start =>
      TransitionSystem.trace call (fun m _ => decide m.Below) start exampleCalls).any
      (fun run => decide run.2.Below && decide ((published run.1).length = 3)) = true := by
    decide +kernel
  obtain ⟨⟨ls, m⟩, hrun, hholds⟩ := (Option.any_eq_true _ _).mp hruns
  obtain ⟨start, hnew, htrace⟩ := Option.bind_eq_some_iff.mp hrun
  obtain ⟨hbelow, hlength⟩ := Bool.and_eq_true_iff.mp hholds
  have hbelow : m.Below := of_decide_eq_true hbelow
  have hrun : system.Run start ls m := by
    refine TransitionSystem.Run.weaken ?_ (TransitionSystem.run_of_trace htrace)
    exact fun m _ => of_decide_eq_true
  exact ⟨start, ls, m, hnew, hrun, hbelow, of_decide_eq_true hlength,
    (revisions_sound hnew hrun hbelow).1⟩

end DiscoveryMachine

end ResonanceSignal
