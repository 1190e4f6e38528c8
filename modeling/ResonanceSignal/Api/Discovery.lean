import ResonanceSignal.Api.Contract
import ResonanceSignal.Lib.Result
import Mathlib.Data.List.Nodup

/-!
# The discovery contract

The portable discovery result of `resonance-api/src/contract.rs`: the descriptors of sources and the
snapshot that consumers see. A descriptor carries the proof of what its constructor checks, and so
does a snapshot.
-/

namespace ResonanceSignal

/-- A role for which a platform default can be resolved. -/
inductive DefaultSource
  | playback
  | capture
deriving DecidableEq, Repr

/-- A data product a consumer may request. -/
inductive SignalProduct
  | waveform
  | levels
  | spectrum
deriving DecidableEq, Repr

/-- What a provider knows of the availability of a source. -/
inductive SourceAvailability
  | available
  | unavailable
  | unknown
deriving DecidableEq, Repr

/-- An opaque freshness token of a discovery snapshot. -/
structure DiscoveryRevision where
  /-- The text of the token. -/
  asStr : String
  not_blank : Text.isBlank asStr = false
deriving Repr

instance : DecidableEq DiscoveryRevision := fun revision revision' =>
  decidable_of_iff (revision.asStr = revision'.asStr)
    ⟨fun h => by cases revision; cases revision'; cases h; rfl, congrArg DiscoveryRevision.asStr⟩

/-- `DiscoveryRevision::new` -/
def DiscoveryRevision.new (value : String) : Except IdentifierError DiscoveryRevision :=
  if h : Text.isBlank value = false then .ok ⟨value, h⟩ else .error .empty

/-- Why a discovery result is rejected. -/
inductive DiscoveryContractError
  | emptyDisplayName
  | duplicateSource (sourceId : SourceId)
  | duplicateProduct (product : SignalProduct)
  | duplicateDefaultRole (role : DefaultSource)
deriving DecidableEq, Repr

/-- There is no duplicate where the values are distinct, and none of them was seen. -/
theorem firstDuplicate_eq_none {α : Type*} [DecidableEq α] {seen values : List α} :
    firstDuplicate seen values = none ↔ values.Nodup ∧ ∀ value ∈ values, value ∉ seen := by
  induction values generalizing seen with
  | nil => simp [firstDuplicate]
  | cons value values ih =>
    unfold firstDuplicate
    by_cases hseen : value ∈ seen
    · simp [hseen]
    · rw [if_neg hseen, ih, List.nodup_cons, List.forall_mem_cons]
      constructor
      · rintro ⟨hnodup, hnew⟩
        have hlast : value ∈ seen ++ [value] := List.mem_append_right seen List.mem_cons_self
        refine ⟨⟨fun hmem => hnew value hmem hlast, hnodup⟩, hseen, ?_⟩
        exact fun other hother hmem => hnew other hother (List.mem_append_left [value] hmem)
      · rintro ⟨⟨hfirst, hnodup⟩, -, hnew⟩
        refine ⟨hnodup, ?_⟩
        intro other hother hmem
        rcases List.mem_append.mp hmem with hmem | hmem
        · exact hnew other hother hmem
        · exact hfirst (List.mem_singleton.mp hmem ▸ hother)

/-- `first_duplicate` finds nothing where the values are distinct. -/
theorem firstDuplicate_nil_eq_none {α : Type*} [DecidableEq α] {values : List α} :
    firstDuplicate [] values = none ↔ values.Nodup := by
  rw [firstDuplicate_eq_none]
  exact and_iff_left fun _ _ => List.not_mem_nil

/-- The portable metadata of a source. -/
structure PortableSourceDescriptor where
  /-- The source. -/
  sourceId : SourceId
  /-- The name that is shown, if there is one. -/
  displayName : Option String
  /-- Its kind. -/
  kind : SourceKind
  /-- Its availability. -/
  availability : SourceAvailability
  /-- Its products. -/
  supportedProducts : List SignalProduct
  /-- The roles it is the default of. -/
  defaultRoles : List DefaultSource
  name_not_blank : displayName.any Text.isBlank = false
  products_nodup : supportedProducts.Nodup
  roles_nodup : defaultRoles.Nodup
deriving DecidableEq, Repr

/-- `SourceDescriptor::new` -/
def PortableSourceDescriptor.new (sourceId : SourceId) (displayName : Option String)
    (kind : SourceKind) (availability : SourceAvailability)
    (supportedProducts : List SignalProduct) (defaultRoles : List DefaultSource) :
    Except DiscoveryContractError PortableSourceDescriptor :=
  if hname : displayName.any Text.isBlank = false then
    match hproducts : firstDuplicate [] supportedProducts with
    | some duplicate => .error (.duplicateProduct duplicate)
    | none =>
      match hroles : firstDuplicate [] defaultRoles with
      | some duplicate => .error (.duplicateDefaultRole duplicate)
      | none =>
        .ok ⟨sourceId, displayName, kind, availability, supportedProducts, defaultRoles, hname,
          firstDuplicate_nil_eq_none.mp hproducts, firstDuplicate_nil_eq_none.mp hroles⟩
  else .error .emptyDisplayName

/-- A complete portable discovery result. -/
structure PortableDiscoverySnapshot where
  /-- The freshness token. -/
  revision : DiscoveryRevision
  /-- The sources. -/
  sources : List PortableSourceDescriptor
  sources_nodup : (sources.map PortableSourceDescriptor.sourceId).Nodup
deriving DecidableEq, Repr

/-- `DiscoverySnapshot::new` -/
def PortableDiscoverySnapshot.new (revision : DiscoveryRevision)
    (sources : List PortableSourceDescriptor) :
    Except DiscoveryContractError PortableDiscoverySnapshot :=
  match h : firstDuplicate [] (sources.map PortableSourceDescriptor.sourceId) with
  | some sourceId => .error (.duplicateSource sourceId)
  | none => .ok ⟨revision, sources, firstDuplicate_nil_eq_none.mp h⟩

/-- A descriptor of a name that is not blank, distinct products and distinct roles is made. -/
theorem PortableSourceDescriptor.new_eq_ok {sourceId : SourceId} {displayName : Option String}
    {kind : SourceKind} {availability : SourceAvailability} {supportedProducts : List SignalProduct}
    {defaultRoles : List DefaultSource} (hname : displayName.any Text.isBlank = false)
    (hproducts : supportedProducts.Nodup) (hroles : defaultRoles.Nodup) :
    new sourceId displayName kind availability supportedProducts defaultRoles
      = .ok ⟨sourceId, displayName, kind, availability, supportedProducts, defaultRoles, hname,
        hproducts, hroles⟩ := by
  have hproducts' := firstDuplicate_nil_eq_none.mpr hproducts
  have hroles' := firstDuplicate_nil_eq_none.mpr hroles
  unfold new
  rw [dif_pos hname]
  split
  next duplicate hsome =>
    rw [hproducts'] at hsome
    cases hsome
  next =>
    split
    next duplicate hsome =>
      rw [hroles'] at hsome
      cases hsome
    next => rfl

/-- A snapshot of distinct sources is made. -/
theorem PortableDiscoverySnapshot.new_eq_ok {revision : DiscoveryRevision}
    {sources : List PortableSourceDescriptor}
    (h : (sources.map PortableSourceDescriptor.sourceId).Nodup) :
    new revision sources = .ok ⟨revision, sources, h⟩ := by
  have hnone := firstDuplicate_nil_eq_none.mpr h
  unfold new
  split
  next sourceId hsome =>
    rw [hnone] at hsome
    cases hsome
  next => rfl

end ResonanceSignal
