import ResonanceSignal.Api.Contract
import ResonanceSignal.Lib.Checked
import ResonanceSignal.Lib.KeyedMap
import ResonanceSignal.Lib.Result
import Mathlib.Data.String.Basic

/-!
# Registry images

The file format of the identity registry, from `identity.rs`: the records of a registry, the lines
that `persist` writes of them, and `load_registry`, which reads the lines of a file. What is written
is read back (`loadRegistry_bytes`), whatever the texts in it are: each of them is encoded so that
it has neither a separator nor an end of line.

A number of the error of a system call is left out, and so is the bound of the count of entries,
which no list in memory reaches.
-/

namespace ResonanceSignal

/-! ## Records -/

/-- The evidence that a source is the same one. -/
structure ContinuityEvidence where
  /-- The backend's key. -/
  backendKey : String
  /-- The backend's token. -/
  continuityToken : String
deriving DecidableEq, Repr

/-- Why a source was retired. -/
inductive RetiredReason
  | nativeKeyReuse
  | ambiguousReturn
  | migrationCorruption
  | namespaceReset
deriving DecidableEq, Repr

/-- The state of a source. -/
inductive SourceState
  | live
  | absent
  | retired (reason : RetiredReason)
deriving DecidableEq, Repr

/-- `is_live` -/
def SourceState.isLive : SourceState → Bool
  | live => true
  | _ => false

/-- `is_retired` -/
def SourceState.isRetired : SourceState → Bool
  | retired _ => true
  | _ => false

/-- A source that the registry knows. -/
structure SourceRecord where
  /-- Its identifier. -/
  id : SourceId
  /-- Its evidence. -/
  continuity : ContinuityEvidence
  /-- The name that is shown. -/
  displayName : String
  /-- Its state. -/
  state : SourceState
deriving DecidableEq, Repr

/-- The namespace of a registry, which is not empty. -/
structure RegistryNamespace where
  /-- The text. -/
  asStr : String
  not_empty : asStr ≠ ""
deriving DecidableEq, Repr

/-- Why an operation of the registry failed. -/
inductive RegistryError
  | io
  | unsupportedSchema (expected observed : UInt32)
  | corruptRegistry
  | snapshotStale (expected observed : UInt64)
  | unknownSource
  | sourceUnavailable
  | sourceRetired
  | sourceIdAllocationFailed
  | migrationFailed
deriving DecidableEq, Repr

/-- The state of a source in a file, without its reason. -/
inductive PersistedSourceState
  | live
  | absent
  | retired
deriving DecidableEq, Repr

/-- A source in a file. The reasons of the file are those of the registry. -/
structure PersistedSourceRecord where
  /-- Its identifier. -/
  sourceId : String
  /-- Its evidence. -/
  continuity : ContinuityEvidence
  /-- The name that is shown. -/
  displayName : String
  /-- Its state. -/
  state : PersistedSourceState
  /-- Why it was retired. -/
  retiredReason : Option RetiredReason
deriving DecidableEq, Repr

/-- A registry in a file. -/
structure PersistedRegistry where
  /-- The version of the format. -/
  schemaVersion : UInt32
  /-- The version of the evidence. -/
  evidenceSchemaVersion : UInt32
  /-- The namespace. -/
  «namespace» : RegistryNamespace
  /-- The revision. -/
  revision : UInt64
  /-- The sequence of the last identifier. -/
  nextSourceSequence : UInt64
  /-- The sources. -/
  entries : List PersistedSourceRecord
deriving DecidableEq, Repr

/-- `CURRENT_SCHEMA_VERSION` -/
def currentSchemaVersion : UInt32 := 1

/-- `CURRENT_EVIDENCE_SCHEMA_VERSION` -/
def currentEvidenceSchemaVersion : UInt32 := 1

/-! ## Fields -/

/-- A byte that stands for itself. -/
def isPlain (byte : UInt8) : Bool :=
  0x20 ≤ byte && byte ≤ 0x7e && byte ≠ '|'.toUInt8 && byte ≠ '%'.toUInt8

/-- A digit of `{:02X}`. -/
def hexDigit (n : ℕ) : Char := (Nat.digitChar n).toUpper

/-- The text of a byte in a field. -/
def encodeByte (byte : UInt8) : List Char :=
  if isPlain byte then [Char.ofNat byte.toNat]
  else ['%', hexDigit (byte.toNat / 16), hexDigit (byte.toNat % 16)]

/-- `encode_field` -/
def encodeField (value : String) : List Char := (Text.bytes value).flatMap encodeByte

/-- The value of a digit of base sixteen. -/
def hexValue (c : Char) : Option ℕ :=
  if '0' ≤ c ∧ c ≤ '9' then some (c.toNat - '0'.toNat)
  else if 'a' ≤ c ∧ c ≤ 'f' then some (c.toNat - 'a'.toNat + 10)
  else if 'A' ≤ c ∧ c ≤ 'F' then some (c.toNat - 'A'.toNat + 10)
  else none

/-- `u8::from_str_radix` on two characters, of which the first one may be a plus sign. -/
def parseHexByte (hi lo : Char) : Option UInt8 := do
  let high ← if hi = '+' then some 0 else hexValue hi
  let low ← hexValue lo
  return UInt8.ofNat (16 * high + low)

/-- The loop of `decode_field`. -/
def decodeBytes : List Char → Option (List UInt8)
  | [] => some []
  | c :: cs =>
    if c ≠ '%' then (decodeBytes cs).map (String.utf8EncodeChar c ++ ·)
    else
      match cs with
      | hi :: lo :: cs => do
        let byte ← parseHexByte hi lo
        let bytes ← decodeBytes cs
        return byte :: bytes
      | _ => none

/-- `decode_field` -/
def decodeField (value : List Char) : Except RegistryError String :=
  okOr .corruptRegistry ((decodeBytes value).bind Text.ofBytes)

/-- A byte that stands for itself is one character, which is no escape. -/
theorem isPlain_spec : ∀ n < 256, isPlain (UInt8.ofNat n) = true →
    String.utf8EncodeChar (Char.ofNat n) = [UInt8.ofNat n] ∧ Char.ofNat n ≠ '%' := by
  decide +kernel

/-- The two digits of a byte are read back. -/
theorem parseHexByte_hexDigit : ∀ n < 256,
    parseHexByte (hexDigit (n / 16)) (hexDigit (n % 16)) = some (UInt8.ofNat n) := by
  decide +kernel

/-- The characters of a byte are printable, and no separators. -/
theorem encodeByte_printable : ∀ n < 256, ∀ c ∈ encodeByte (UInt8.ofNat n),
    c ≠ '|' ∧ c ≠ '\n' ∧ c ≠ '\r' := by
  have hall : ∀ n < 256, (encodeByte (UInt8.ofNat n)).all
      (fun c => c ≠ '|' && c ≠ '\n' && c ≠ '\r') = true := by decide +kernel
  intro n hn c hc
  have hprintable := List.all_eq_true.mp (hall n hn) c hc
  simpa [and_assoc] using hprintable

/-- The text of a byte is read back. -/
theorem decodeBytes_encodeByte (byte : UInt8) (cs : List Char) :
    decodeBytes (encodeByte byte ++ cs) = (decodeBytes cs).map (byte :: ·) := by
  have hlt : byte.toNat < 256 := byte.toNat_lt
  have hofNat : UInt8.ofNat byte.toNat = byte := UInt8.ofNat_toNat
  unfold encodeByte
  split
  next hplain =>
    obtain ⟨hencode, hescape⟩ := isPlain_spec byte.toNat hlt (by rwa [hofNat])
    rw [List.singleton_append]
    conv => lhs; unfold decodeBytes
    rw [if_pos hescape, hencode, hofNat]
    rfl
  next =>
    show (do
      let byte ← parseHexByte (hexDigit (byte.toNat / 16)) (hexDigit (byte.toNat % 16))
      let bytes ← decodeBytes cs
      return byte :: bytes) = _
    rw [parseHexByte_hexDigit byte.toNat hlt, hofNat]
    cases decodeBytes cs <;> rfl

/-- The text of bytes is read back. -/
theorem decodeBytes_flatMap (bytes : List UInt8) :
    decodeBytes (bytes.flatMap encodeByte) = some bytes := by
  induction bytes with
  | nil => rfl
  | cons byte bytes ih =>
    rw [List.flatMap_cons, decodeBytes_encodeByte, ih]
    rfl

/-- A field is read back. -/
@[simp]
theorem decodeField_encodeField (value : String) : decodeField (encodeField value) = .ok value := by
  unfold decodeField encodeField
  rw [decodeBytes_flatMap, Option.bind_some, Text.ofBytes_bytes]
  rfl

/-- A field has no separator and no end of line. -/
theorem encodeField_printable {value : String} {c : Char} (h : c ∈ encodeField value) :
    c ≠ '|' ∧ c ≠ '\n' ∧ c ≠ '\r' := by
  obtain ⟨byte, -, hc⟩ := List.mem_flatMap.mp h
  apply encodeByte_printable byte.toNat byte.toNat_lt c
  rwa [UInt8.ofNat_toNat]

/-! ## Writing -/

/-- The key of a source among the entries. -/
def SourceRecord.key (self : SourceRecord) : String := self.id.asStr

/-- What a registry commits. -/
structure RegistryContents where
  /-- The namespace. -/
  «namespace» : RegistryNamespace
  /-- The revision. -/
  revision : UInt64
  /-- The sequence of the last identifier. -/
  nextSourceSequence : UInt64
  /-- The sources, by their identifiers. -/
  entries : KeyedMap SourceRecord.key
deriving DecidableEq

/-- `reason_to_token` -/
def reasonToToken : RetiredReason → String
  | .nativeKeyReuse => "native_key_reuse"
  | .ambiguousReturn => "ambiguous_return"
  | .migrationCorruption => "migration_corruption"
  | .namespaceReset => "namespace_reset"

/-- The text of a state. -/
def SourceState.token : SourceState → String
  | live => "live"
  | absent => "absent"
  | retired _ => "retired"

/-- The text of the reason of a state. -/
def SourceState.reasonToken : SourceState → String
  | retired reason => reasonToToken reason
  | _ => ""

/-- A line before the sources. -/
def headerLine (key : String) (value : List Char) : List Char := key.toList ++ '|' :: value

/-- The line of a source. -/
def sourceLine (entry : SourceRecord) : List Char :=
  ['|'].intercalate ["source".toList, entry.state.token.toList, encodeField entry.id.asStr,
    encodeField entry.continuity.backendKey, encodeField entry.continuity.continuityToken,
    encodeField entry.displayName, entry.state.reasonToken.toList]

namespace RegistryContents

/-- The lines before the sources. -/
def headerLines (self : RegistryContents) : List (List Char) :=
  [headerLine "version" (Text.decimal currentSchemaVersion.toNat),
    headerLine "evidence" (Text.decimal currentEvidenceSchemaVersion.toNat),
    headerLine "namespace" (encodeField self.namespace.asStr),
    headerLine "revision" (Text.decimal self.revision.toNat),
    headerLine "next_sequence" (Text.decimal self.nextSourceSequence.toNat),
    headerLine "entries" (Text.decimal self.entries.values.length)]

/-- The lines of `persist`. -/
def lines (self : RegistryContents) : List (List Char) :=
  self.headerLines ++ self.entries.values.map sourceLine

/-- The bytes of `persist`. -/
def bytes (self : RegistryContents) : List UInt8 :=
  Text.bytes (String.ofList (Text.unlines self.lines))

end RegistryContents

/-! ## Reading -/

/-- `token_to_reason` -/
def tokenToReason : String → Option RetiredReason
  | "native_key_reuse" => some .nativeKeyReuse
  | "ambiguous_return" => some .ambiguousReturn
  | "migration_corruption" => some .migrationCorruption
  | "namespace_reset" => some .namespaceReset
  | _ => none

/-- A number of the file. -/
def parseNumber (value : List Char) : Except RegistryError ℕ :=
  okOr .corruptRegistry (Text.parseDecimal value)

/-- A number of 64 bits. -/
def parseU64 (value : List Char) : Except RegistryError UInt64 :=
  okOr .corruptRegistry ((Text.parseDecimal value).bind Checked.ofNat)

/-- A number of 32 bits. -/
def parseU32 (value : List Char) : Except RegistryError UInt32 :=
  okOr .corruptRegistry ((Text.parseDecimal value).bind Checked.ofNat32)

/-- What the lines before the sources set. -/
structure RegistryHeader where
  /-- The version of the format. -/
  schemaVersion : UInt32
  /-- The version of the evidence. -/
  evidenceSchemaVersion : UInt32
  /-- The namespace. -/
  «namespace» : String
  /-- The revision. -/
  revision : UInt64
  /-- The sequence of the last identifier. -/
  nextSourceSequence : UInt64
deriving DecidableEq, Repr

/-- What is set before the first line. -/
def RegistryHeader.initial : RegistryHeader := ⟨0, 0, "", 0, 0⟩

/-- What a line before the count of sources sets. -/
def RegistryHeader.set (self : RegistryHeader) (key : String) (value : List Char) :
    Except RegistryError RegistryHeader :=
  match key with
  | "version" => do
    let schemaVersion ← parseU32 value
    return { self with schemaVersion }
  | "evidence" => do
    let evidenceSchemaVersion ← parseU32 value
    return { self with evidenceSchemaVersion }
  | "namespace" => do
    let «namespace» ← decodeField value
    return { self with «namespace» }
  | "revision" => do
    let revision ← parseU64 value
    return { self with revision }
  | "next_sequence" => do
    let nextSourceSequence ← parseU64 value
    return { self with nextSourceSequence }
  | _ => .error .corruptRegistry

/-- The first loop of `load_registry`, from the keys it has seen: what the lines set, the count of
sources, and the lines after it. -/
def loadHeader : List (List Char) → List String → RegistryHeader →
    Except RegistryError (RegistryHeader × ℕ × List (List Char))
  | [], _, _ => .error .corruptRegistry
  | line :: lines, seen, header => do
    let (key, value) ← okOr .corruptRegistry (Text.splitOnce '|' line)
    let key := String.ofList key
    failIf (key ∈ seen) .corruptRegistry
    if key = "entries" then
      let expected ← parseNumber value
      return (header, expected, lines)
    else
      let header ← header.set key value
      loadHeader lines (key :: seen) header

/-- The state of a source's line. -/
def loadState (state : List Char) : Except RegistryError PersistedSourceState :=
  match String.ofList state with
  | "live" => .ok .live
  | "absent" => .ok .absent
  | "retired" => .ok .retired
  | _ => .error .corruptRegistry

/-- The reason of a source's line. -/
def loadReason (state : PersistedSourceState) (reason : List Char) :
    Except RegistryError (Option RetiredReason) :=
  if state = .retired then
    if reason = [] then .ok none
    else (decodeField reason).map tokenToReason
  else .ok none

/-- The second loop of `load_registry`, on one line. -/
def loadSource (line : List Char) : Except RegistryError PersistedSourceRecord :=
  match line.splitOn '|' with
  | [tag, state, sourceId, backendKey, continuityToken, displayName, reason] => do
    failIf (String.ofList tag ≠ "source") .corruptRegistry
    let state ← loadState state
    let retiredReason ← loadReason state reason
    let sourceId ← decodeField sourceId
    let backendKey ← decodeField backendKey
    let continuityToken ← decodeField continuityToken
    let displayName ← decodeField displayName
    return ⟨sourceId, ⟨backendKey, continuityToken⟩, displayName, state, retiredReason⟩
  | _ => .error .corruptRegistry

/-- `load_registry`, on the lines of the file. -/
def loadLines (lines : List (List Char)) : Except RegistryError PersistedRegistry := do
  let lines := lines.filter fun line => !line.all Text.isWhiteSpace
  let (header, expected, lines) ← loadHeader lines [] .initial
  let entries ← lines.mapM loadSource
  failIf (entries.length ≠ expected) .corruptRegistry
  if h : header.namespace ≠ "" then
    return ⟨header.schemaVersion, header.evidenceSchemaVersion, ⟨header.namespace, h⟩,
      header.revision, header.nextSourceSequence, entries⟩
  else .error .corruptRegistry

/-- `load_registry`, on the bytes of a file that is there or not. -/
def loadRegistry : Option (List UInt8) → Except RegistryError PersistedRegistry
  | none => .error .corruptRegistry
  | some bytes => do
    let body ← okOr .io (Text.ofBytes bytes)
    loadLines (Text.lines body.toList)

/-! ## What is written is read -/

/-- The state of a source in the file. -/
def SourceState.persisted : SourceState → PersistedSourceState
  | live => .live
  | absent => .absent
  | retired _ => .retired

/-- The reason of a source in the file. -/
def SourceState.retiredReason : SourceState → Option RetiredReason
  | retired reason => some reason
  | _ => none

/-- A source as the file holds it. -/
def SourceRecord.persisted (self : SourceRecord) : PersistedSourceRecord where
  sourceId := self.id.asStr
  continuity := self.continuity
  displayName := self.displayName
  state := self.state.persisted
  retiredReason := self.state.retiredReason

/-- A registry as the file holds it. -/
def RegistryContents.image (self : RegistryContents) : PersistedRegistry where
  schemaVersion := currentSchemaVersion
  evidenceSchemaVersion := currentEvidenceSchemaVersion
  «namespace» := self.namespace
  revision := self.revision
  nextSourceSequence := self.nextSourceSequence
  entries := self.entries.values.map SourceRecord.persisted

/-- The characters of a line that is read back. -/
def Plain (text : List Char) : Prop := '\n' ∉ text ∧ '\r' ∉ text

/-- A field is plain. -/
theorem encodeField_plain (value : String) : Plain (encodeField value) :=
  ⟨fun h => (encodeField_printable h).2.1 rfl, fun h => (encodeField_printable h).2.2 rfl⟩

/-- A decimal is plain. -/
theorem decimal_plain (n : ℕ) : Plain (Text.decimal n) :=
  ⟨Text.not_mem_decimal rfl, Text.not_mem_decimal rfl⟩

/-- A line before the sources is plain. -/
theorem headerLine_plain {key : String} {value : List Char} (hkey : Plain key.toList)
    (hvalue : Plain value) : Plain (headerLine key value) := by
  unfold headerLine Plain
  simp [hkey.1, hkey.2, hvalue.1, hvalue.2]

/-- The texts of a state are plain, and have no separator. -/
theorem SourceState.token_plain (state : SourceState) :
    (Plain state.token.toList ∧ '|' ∉ state.token.toList) ∧
      Plain state.reasonToken.toList ∧ '|' ∉ state.reasonToken.toList := by
  unfold Plain
  cases state with
  | live => decide +kernel
  | absent => decide +kernel
  | retired reason => cases reason <;> decide +kernel

/-- The fields of a source's line. -/
theorem sourceLine_fields (entry : SourceRecord) : (sourceLine entry).splitOn '|'
    = ["source".toList, entry.state.token.toList, encodeField entry.id.asStr,
      encodeField entry.continuity.backendKey, encodeField entry.continuity.continuityToken,
      encodeField entry.displayName, entry.state.reasonToken.toList] := by
  have hfield : ∀ value, '|' ∉ encodeField value := fun value h => (encodeField_printable h).1 rfl
  obtain ⟨⟨-, htoken⟩, -, hreason⟩ := entry.state.token_plain
  apply List.splitOn_intercalate
  · simp only [List.forall_mem_cons]
    refine ⟨by decide +kernel, htoken, hfield _, hfield _, hfield _, hfield _, hreason, ?_⟩
    intro l hl
    cases hl
  · exact List.cons_ne_nil _ _

/-- A source's line is plain. -/
theorem sourceLine_plain (entry : SourceRecord) : Plain (sourceLine entry) := by
  obtain ⟨⟨htoken, -⟩, hreason, -⟩ := entry.state.token_plain
  unfold sourceLine Plain
  simp [List.intercalate, htoken.1, htoken.2, hreason.1, hreason.2,
    (encodeField_plain _).1, (encodeField_plain _).2]

/-- The state of a source's line is read back. -/
theorem loadState_token (state : SourceState) :
    loadState state.token.toList = .ok state.persisted := by
  unfold loadState
  rw [String.ofList_toList]
  cases state <;> rfl

/-- The reason of a source's line is read back. -/
theorem loadReason_reasonToken (state : SourceState) :
    loadReason state.persisted state.reasonToken.toList = .ok state.retiredReason := by
  cases state with
  | live => rfl
  | absent => rfl
  | retired reason => cases reason <;> decide +kernel

/-- A source's line is read back. -/
theorem loadSource_sourceLine (entry : SourceRecord) :
    loadSource (sourceLine entry) = .ok entry.persisted := by
  unfold loadSource
  rw [sourceLine_fields]
  apply Result.bind_eq_ok.mpr
  refine ⟨(), failIf_eq_ok.mpr (not_not.mpr String.ofList_toList), Result.bind_eq_ok.mpr ?_⟩
  refine ⟨_, loadState_token entry.state, Result.bind_eq_ok.mpr ?_⟩
  refine ⟨_, loadReason_reasonToken entry.state, ?_⟩
  simp only [decodeField_encodeField]
  rfl

/-- The lines of the sources are read back. -/
theorem mapM_sourceLine (entries : List SourceRecord) :
    (entries.map sourceLine).mapM loadSource
      = (.ok (entries.map SourceRecord.persisted) : Except RegistryError _) := by
  induction entries with
  | nil => rfl
  | cons entry entries ih =>
    rw [List.map_cons, List.mapM_cons, loadSource_sourceLine, ih]
    rfl

/-- A word of 64 bits is read back. -/
theorem parseU64_decimal (n : UInt64) : parseU64 (Text.decimal n.toNat) = .ok n := by
  unfold parseU64
  rw [Text.parseDecimal_decimal, Option.bind_some, okOr_eq_ok]
  exact Checked.ofNat_eq_some.mpr rfl

/-- A word of 32 bits is read back. -/
theorem parseU32_decimal (n : UInt32) : parseU32 (Text.decimal n.toNat) = .ok n := by
  unfold parseU32
  rw [Text.parseDecimal_decimal, Option.bind_some, okOr_eq_ok]
  exact Checked.ofNat32_eq_some.mpr rfl

/-- A number is read back. -/
theorem parseNumber_decimal (n : ℕ) : parseNumber (Text.decimal n) = .ok n := by
  unfold parseNumber
  rw [Text.parseDecimal_decimal]
  rfl

/-- A line before the count of sources is read. -/
theorem loadHeader_cons {key : String} {value : List Char} {lines : List (List Char)}
    {seen : List String} {header header' : RegistryHeader} (hkey : '|' ∉ key.toList)
    (hseen : key ∉ seen) (hentries : key ≠ "entries")
    (hset : header.set key value = .ok header') :
    loadHeader (headerLine key value :: lines) seen header
      = loadHeader lines (key :: seen) header' := by
  unfold headerLine
  rw [loadHeader, Text.splitOnce_append hkey]
  show (do
    failIf (String.ofList key.toList ∈ seen) RegistryError.corruptRegistry
    _) = _
  unfold failIf
  rw [String.ofList_toList, if_neg hseen, if_neg hentries, hset]
  rfl

/-- The count of sources is read. -/
theorem loadHeader_entries {value : List Char} {lines : List (List Char)} {seen : List String}
    {header : RegistryHeader} {expected : ℕ} (hseen : "entries" ∉ seen)
    (hvalue : parseNumber value = .ok expected) :
    loadHeader (headerLine "entries" value :: lines) seen header
      = .ok (header, expected, lines) := by
  unfold headerLine
  rw [loadHeader, Text.splitOnce_append (by decide +kernel)]
  show (do
    failIf (String.ofList "entries".toList ∈ seen) RegistryError.corruptRegistry
    _) = _
  unfold failIf
  rw [String.ofList_toList, if_neg hseen, if_pos rfl, hvalue]
  rfl

/-- The lines before the sources are read back. -/
theorem loadHeader_headerLines (contents : RegistryContents) (lines : List (List Char)) :
    loadHeader (contents.headerLines ++ lines) [] .initial
      = .ok (⟨currentSchemaVersion, currentEvidenceSchemaVersion, contents.namespace.asStr,
          contents.revision, contents.nextSourceSequence⟩, contents.entries.values.length,
          lines) := by
  have hversion : RegistryHeader.initial.set "version"
      (Text.decimal currentSchemaVersion.toNat) = .ok ⟨currentSchemaVersion, 0, "", 0, 0⟩ :=
    Result.bind_eq_ok.mpr ⟨_, parseU32_decimal _, rfl⟩
  have hevidence : (⟨currentSchemaVersion, 0, "", 0, 0⟩ : RegistryHeader).set "evidence"
      (Text.decimal currentEvidenceSchemaVersion.toNat)
        = .ok ⟨currentSchemaVersion, currentEvidenceSchemaVersion, "", 0, 0⟩ :=
    Result.bind_eq_ok.mpr ⟨_, parseU32_decimal _, rfl⟩
  have hnamespace : (⟨currentSchemaVersion, currentEvidenceSchemaVersion, "", 0, 0⟩ :
      RegistryHeader).set "namespace" (encodeField contents.namespace.asStr)
        = .ok ⟨currentSchemaVersion, currentEvidenceSchemaVersion, contents.namespace.asStr, 0, 0⟩ :=
    Result.bind_eq_ok.mpr ⟨_, decodeField_encodeField _, rfl⟩
  have hrevision : (⟨currentSchemaVersion, currentEvidenceSchemaVersion,
      contents.namespace.asStr, 0, 0⟩ : RegistryHeader).set "revision"
      (Text.decimal contents.revision.toNat)
        = .ok ⟨currentSchemaVersion, currentEvidenceSchemaVersion, contents.namespace.asStr,
          contents.revision, 0⟩ :=
    Result.bind_eq_ok.mpr ⟨_, parseU64_decimal _, rfl⟩
  have hsequence : (⟨currentSchemaVersion, currentEvidenceSchemaVersion,
      contents.namespace.asStr, contents.revision, 0⟩ : RegistryHeader).set "next_sequence"
      (Text.decimal contents.nextSourceSequence.toNat)
        = .ok ⟨currentSchemaVersion, currentEvidenceSchemaVersion, contents.namespace.asStr,
          contents.revision, contents.nextSourceSequence⟩ :=
    Result.bind_eq_ok.mpr ⟨_, parseU64_decimal _, rfl⟩
  unfold RegistryContents.headerLines
  simp only [List.cons_append, List.nil_append]
  refine (loadHeader_cons (by decide +kernel) (by decide) (by decide) hversion).trans ?_
  refine (loadHeader_cons (by decide +kernel) (by decide) (by decide) hevidence).trans ?_
  refine (loadHeader_cons (by decide +kernel) (by decide) (by decide) hnamespace).trans ?_
  refine (loadHeader_cons (by decide +kernel) (by decide) (by decide) hrevision).trans ?_
  refine (loadHeader_cons (by decide +kernel) (by decide) (by decide) hsequence).trans ?_
  exact loadHeader_entries (by decide) (parseNumber_decimal _)

/-- The lines of a registry are plain. -/
theorem RegistryContents.lines_plain (contents : RegistryContents) :
    ∀ line ∈ contents.lines, Plain line := by
  have hkey : ∀ key ∈ ["version", "evidence", "namespace", "revision", "next_sequence",
      "entries"], Plain key.toList := by
    unfold Plain
    decide +kernel
  obtain ⟨h₁, hkey⟩ := List.forall_mem_cons.mp hkey
  obtain ⟨h₂, hkey⟩ := List.forall_mem_cons.mp hkey
  obtain ⟨h₃, hkey⟩ := List.forall_mem_cons.mp hkey
  obtain ⟨h₄, hkey⟩ := List.forall_mem_cons.mp hkey
  obtain ⟨h₅, hkey⟩ := List.forall_mem_cons.mp hkey
  obtain ⟨h₆, -⟩ := List.forall_mem_cons.mp hkey
  have hheader : ∀ line ∈ contents.headerLines, Plain line := by
    unfold RegistryContents.headerLines
    simp only [List.forall_mem_cons]
    refine ⟨headerLine_plain h₁ (decimal_plain _), headerLine_plain h₂ (decimal_plain _),
      headerLine_plain h₃ (encodeField_plain _), headerLine_plain h₄ (decimal_plain _),
      headerLine_plain h₅ (decimal_plain _), headerLine_plain h₆ (decimal_plain _), ?_⟩
    intro line hline
    cases hline
  intro line hline
  rcases List.mem_append.mp hline with hline | hline
  · exact hheader line hline
  · obtain ⟨entry, -, rfl⟩ := List.mem_map.mp hline
    exact sourceLine_plain entry

/-- No line of a registry is blank. -/
theorem RegistryContents.lines_not_blank (contents : RegistryContents) :
    (contents.lines.filter fun line => !line.all Text.isWhiteSpace) = contents.lines := by
  apply List.filter_eq_self.mpr
  intro line hline
  have hfirst : ∃ c cs, line = c :: cs ∧ Text.isWhiteSpace c = false := by
    rcases List.mem_append.mp hline with hline | hline
    · unfold RegistryContents.headerLines at hline
      simp only [List.mem_cons, List.not_mem_nil, or_false] at hline
      rcases hline with rfl | rfl | rfl | rfl | rfl | rfl <;> exact ⟨_, _, rfl, rfl⟩
    · obtain ⟨entry, -, rfl⟩ := List.mem_map.mp hline
      exact ⟨'s', _, rfl, rfl⟩
  obtain ⟨c, cs, rfl, hc⟩ := hfirst
  simp [hc]

/-- The lines of a registry are read back. -/
theorem loadLines_lines (contents : RegistryContents) :
    loadLines contents.lines = .ok contents.image := by
  unfold loadLines
  rw [contents.lines_not_blank]
  have hlength : ¬(contents.entries.values.map SourceRecord.persisted).length
      ≠ contents.entries.values.length := not_not.mpr (List.length_map ..)
  apply Result.bind_eq_ok.mpr
  refine ⟨_, loadHeader_headerLines contents (contents.entries.values.map sourceLine),
    Result.bind_eq_ok.mpr ?_⟩
  refine ⟨_, mapM_sourceLine contents.entries.values, Result.bind_eq_ok.mpr ?_⟩
  refine ⟨(), failIf_eq_ok.mpr hlength, ?_⟩
  exact dif_pos contents.namespace.not_empty

/-- A file that holds a registry is read as this registry. -/
theorem loadRegistry_bytes (contents : RegistryContents) :
    loadRegistry (some contents.bytes) = .ok contents.image := by
  have hlines : Text.lines (Text.unlines contents.lines) = contents.lines :=
    Text.lines_unlines (fun line hline => (contents.lines_plain line hline).1)
      fun line hline => (contents.lines_plain line hline).2
  apply Result.bind_eq_ok.mpr
  refine ⟨_, okOr_eq_ok.mpr (Text.ofBytes_bytes _), ?_⟩
  rw [String.toList_ofList, hlines, loadLines_lines]

/-- The characters of a byte are printable ones of ASCII. -/
theorem encodeByte_ascii : ∀ n < 256, ∀ c ∈ encodeByte (UInt8.ofNat n),
    0x20 ≤ c.toNat ∧ c.toNat ≤ 0x7e := by
  have hall : ∀ n < 256, (encodeByte (UInt8.ofNat n)).all
      (fun c => 0x20 ≤ c.toNat && c.toNat ≤ 0x7e) = true := by decide +kernel
  intro n hn c hc
  have hascii := List.all_eq_true.mp (hall n hn) c hc
  simpa using hascii

/-- A field has printable characters of ASCII only, none of which ends a line. -/
theorem encodeField_ascii {value : String} {c : Char} (h : c ∈ encodeField value) :
    0x20 ≤ c.toNat ∧ c.toNat ≤ 0x7e := by
  obtain ⟨byte, -, hc⟩ := List.mem_flatMap.mp h
  apply encodeByte_ascii byte.toNat byte.toNat_lt c
  rwa [UInt8.ofNat_toNat]

/-- A source of a file is a source of the registry: the same texts, the same state, and the same
reason where it was retired. -/
structure SameSource (persisted : PersistedSourceRecord) (entry : SourceRecord) : Prop where
  id : persisted.sourceId = entry.id.asStr
  continuity : persisted.continuity = entry.continuity
  displayName : persisted.displayName = entry.displayName
  live : entry.state = .live ↔ persisted.state = .live
  absent : entry.state = .absent ↔ persisted.state = .absent
  retired (reason : RetiredReason) : entry.state = .retired reason ↔
    persisted.state = .retired ∧ persisted.retiredReason = some reason

/-- A source is written as it is. -/
theorem SourceRecord.sameSource (self : SourceRecord) : SameSource self.persisted self := by
  unfold SourceRecord.persisted
  refine ⟨rfl, rfl, rfl, ?_, ?_, fun reason => ?_⟩
  · cases self.state <;> simp [SourceState.persisted]
  · cases self.state <;> simp [SourceState.persisted]
  · cases self.state <;> simp [SourceState.persisted, SourceState.retiredReason]

/-- The registry that `persist` writes is the one that `load_registry` reads, in the current
versions, whatever its texts are. A field of a text is read as this text, and has no separator and
no end of a line. -/
theorem registry_round_trip :
    (∀ contents : RegistryContents, ∃ registry, loadRegistry (some contents.bytes) = .ok registry ∧
      registry.schemaVersion = currentSchemaVersion ∧
      registry.evidenceSchemaVersion = currentEvidenceSchemaVersion ∧
      registry.namespace = contents.namespace ∧ registry.revision = contents.revision ∧
      registry.nextSourceSequence = contents.nextSourceSequence ∧
      List.Forall₂ SameSource registry.entries contents.entries.values) ∧
    ∀ value : String, decodeField (encodeField value) = .ok value ∧
      ∀ c ∈ encodeField value, c ≠ '|' ∧ c ≠ '\n' ∧ c ≠ '\r' ∧ 0x20 ≤ c.toNat ∧ c.toNat ≤ 0x7e := by
  constructor
  · intro contents
    refine ⟨contents.image, loadRegistry_bytes contents, rfl, rfl, rfl, rfl, rfl, ?_⟩
    rw [show contents.image.entries = contents.entries.values.map SourceRecord.persisted from rfl,
      List.forall₂_map_left_iff, List.forall₂_same]
    exact fun entry _ => entry.sameSource
  · intro value
    refine ⟨decodeField_encodeField value, fun c hc => ?_⟩
    obtain ⟨hseparator, hline, hreturn⟩ := encodeField_printable hc
    exact ⟨hseparator, hline, hreturn, encodeField_ascii hc⟩

end ResonanceSignal
