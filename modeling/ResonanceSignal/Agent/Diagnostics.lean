import Mathlib.Data.List.Infix
import Mathlib.Logic.Function.Basic
import ResonanceSignal.Core.Signal
import ResonanceSignal.Lib.Result
import ResonanceSignal.Lib.SegmentedLog
import ResonanceSignal.Lib.Text
import ResonanceSignal.Lib.Transition

/-!
# The diagnostics log

The log file of `diagnostics.rs` and the two files that it is rotated into. A write formats one line
(`formatLogLine_lines`), which is never longer than the limit that the agent sets (`line_fits`),
rotates the files where the line does not fit the current one, and appends the line. The three files
are a segmented log of lines: a rotation shifts its segments by one file (`rotate_represents`), so
that the files hold the last lines written without a gap.

An operation on a file that fails ends the write where it is. `exists` and `metadata` answer that
there is no file where they fail.
-/

namespace ResonanceSignal

namespace Diagnostics

/-! ## Lines -/

/-- `LOG_FILE_NAME` -/
def logFileName : String := "resonance-signal.log"

/-- `MAX_LOG_FILE_BYTES` -/
def maxLogFileBytes : UInt64 := 1048576

/-- `MAX_LOG_MESSAGE_BYTES` -/
def maxLogMessageBytes : ℕ := 4096

/-- `ROTATED_LOG_FILES` -/
def rotatedLogFiles : ℕ := 2

/-- The level that a writer passes: `info` and `set_level` the first one, `debug` the second. -/
inductive LineLevel
  | info
  | debug
deriving DecidableEq, Repr

/-- The text of a level. -/
def LineLevel.text : LineLevel → String
  | info => "INFO"
  | debug => "DEBUG"

/-- The number of bytes of a text. -/
def byteSize (text : List Char) : ℕ := (text.map Char.utf8Size).sum

/-- `is_char_boundary` -/
def isCharBoundary (text : List Char) (n : ℕ) : Bool :=
  text.inits.any fun start => byteSize start == n

/-- The loop of `sanitize_message`: the last boundary of a character up to `n`. -/
def lastBoundary (text : List Char) : ℕ → ℕ
  | 0 => 0
  | n + 1 => if isCharBoundary text (n + 1) then n + 1 else lastBoundary text n

/-- `String::truncate`, at a boundary of a character. -/
def truncate : List Char → ℕ → List Char
  | [], _ => []
  | c :: cs, n => if n = 0 then [] else c :: truncate cs (n - c.utf8Size)

/-- The character that `sanitize_message` puts in the place of a character. -/
def sanitizeChar (c : Char) : Char :=
  if c = '\r' ∨ c = '\n' ∨ c = Char.ofNat 0 then ' ' else c

/-- `sanitize_message` -/
def sanitizeMessage (message : List Char) : List Char :=
  let sanitized := message.map sanitizeChar
  if maxLogMessageBytes < byteSize sanitized then
    truncate sanitized (lastBoundary sanitized maxLogMessageBytes) ++ " [truncated]".toList
  else sanitized

/-- A line without its end. The time is the span since the Unix epoch, and missing before it. -/
def lineText (now : Option Duration) (level : LineLevel) (message : String) : List Char :=
  let timestamp := (now.map fun since => since.asNanos / 10^6).getD 0
  "timestamp_unix_ms=".toList ++ Text.decimal timestamp ++ " level=".toList ++ level.text.toList
    ++ ' ' :: sanitizeMessage message.toList

/-- `format_log_line` -/
def formatLogLine (now : Option Duration) (level : LineLevel) (message : String) : String :=
  String.ofList (lineText now level message ++ ['\n'])

/-! ## Files -/

/-- A file, whose length is a `u64`. -/
structure LogFile where
  /-- The contents. -/
  bytes : List UInt8
  fits : bytes.length < 2^64
deriving DecidableEq

namespace LogFile

/-- A file just created. -/
def empty : LogFile := ⟨[], by simp⟩

/-- The length of a file. -/
def len (file : LogFile) : UInt64 := UInt64.ofNat file.bytes.length

/-- A file with bytes appended, as many as there is room for. -/
def extend (file : LogFile) (bytes : List UInt8) : LogFile where
  bytes := (file.bytes ++ bytes).take (2^64 - 1)
  fits := by
    rw [List.length_take]
    omega

end LogFile

/-- The files of the log directory, by their names. -/
abbrev LogDirectory := String → Option LogFile

/-- A directory without files. -/
def noFiles : LogDirectory := fun _ => none

/-- The operations on files that fail during a write. -/
structure FileFaults where
  /-- The file whose metadata cannot be read. -/
  stat : String → Bool
  /-- The file cannot be removed. -/
  remove : String → Bool
  /-- The file cannot be renamed. -/
  rename : String → Bool
  /-- The current file cannot be opened. -/
  openLog : Bool
  /-- The number of bytes after which writing stops. -/
  writeAll : Option ℕ

/-- Every operation succeeds. -/
def FileFaults.none : FileFaults := ⟨fun _ => false, fun _ => false, fun _ => false, false, .none⟩

/-- `rotated_path` -/
def rotatedPath (index : ℕ) : String :=
  "resonance-signal." ++ toString index ++ ".log"

section

variable (faults : FileFaults)

/-- `Path::exists` -/
def pathExists (directory : LogDirectory) (path : String) : Bool :=
  !faults.stat path && (directory path).isSome

/-- The length of a file from its metadata, which is zero where there are none. -/
def metadataLen (directory : LogDirectory) (path : String) : UInt64 :=
  if faults.stat path then 0 else ((directory path).map LogFile.len).getD 0

/-- `fs::remove_file`. An operation returns the directory that it leaves, as an error where it
fails. -/
def removeFile (directory : LogDirectory) (path : String) : Except LogDirectory LogDirectory :=
  if faults.remove path then .error directory else .ok (Function.update directory path none)

/-- `fs::rename`, which replaces a file at the destination. -/
def renameFile (directory : LogDirectory) (source destination : String) :
    Except LogDirectory LogDirectory :=
  if faults.rename source then .error directory
  else .ok (Function.update (Function.update directory source none) destination
    (directory source))

/-- The part of the loop of `rotate_if_needed` that removes the oldest file. -/
def removeOldest (directory : LogDirectory) (index : ℕ) : Except LogDirectory LogDirectory :=
  if index = rotatedLogFiles ∧ pathExists faults directory (rotatedPath index) then
    removeFile faults directory (rotatedPath index)
  else .ok directory

/-- The body of the loop of `rotate_if_needed`. -/
def rotateAt (directory : LogDirectory) (index : ℕ) : Except LogDirectory LogDirectory := do
  let destination := rotatedPath index
  let directory ← removeOldest faults directory index
  let source := if index = 1 then logFileName else rotatedPath (index - 1)
  if pathExists faults directory source then renameFile faults directory source destination
  else .ok directory

/-- `rotate_if_needed` -/
def rotateIfNeeded (limit incomingBytes : UInt64) (directory : LogDirectory) :
    Except LogDirectory LogDirectory :=
  let length := metadataLen faults directory logFileName
  if length = 0 ∨ Checked.saturatingAdd length incomingBytes ≤ limit then .ok directory
  else (List.range' 1 rotatedLogFiles).reverse.foldlM (rotateAt faults) directory

/-- The part of `Diagnostics::write` that appends the line to the current file. -/
def appendLine (line : List UInt8) (directory : LogDirectory) :
    Except LogDirectory LogDirectory :=
  if faults.openLog then .error directory
  else
    let file := (directory logFileName).getD LogFile.empty
    match faults.writeAll with
    | some written =>
      .error (Function.update directory logFileName (some (file.extend (line.take written))))
    | none =>
      let directory := Function.update directory logFileName (some (file.extend line))
      if file.bytes.length + line.length < 2^64 then .ok directory else .error directory

end

/-- A call of `Diagnostics::write`, with the clock that it reads. -/
structure LogWrite where
  /-- The time since the Unix epoch. -/
  now : Option Duration
  /-- The level. -/
  level : LineLevel
  /-- The message. -/
  message : String
deriving DecidableEq

/-- The line of a call. -/
def LogWrite.line (call : LogWrite) : String := formatLogLine call.now call.level call.message

/-- `Diagnostics::write`, with the directory that it leaves as an error where an operation fails. -/
def tryWrite (faults : FileFaults) (limit : UInt64) (directory : LogDirectory) (call : LogWrite) :
    Except LogDirectory LogDirectory := do
  let line := Text.bytes call.line
  let directory ← rotateIfNeeded faults limit (UInt64.ofNat line.length) directory
  appendLine faults line directory

/-- `Diagnostics::write`, which reports no failure. -/
def write (faults : FileFaults) (limit : UInt64) (directory : LogDirectory) (call : LogWrite) :
    LogDirectory :=
  match tryWrite faults limit directory call with
  | .ok directory => directory
  | .error directory => directory

/-! ## A message is one line -/

/-- What `sanitize_message` puts in the place of a character ends no line. -/
theorem sanitizeChar_ne (c : Char) : sanitizeChar c ≠ '\n' ∧ sanitizeChar c ≠ '\r' := by
  unfold sanitizeChar
  split_ifs with h
  · decide
  · obtain ⟨hreturn, hline, -⟩ : c ≠ '\r' ∧ c ≠ '\n' ∧ c ≠ Char.ofNat 0 := by simpa using h
    exact ⟨hline, hreturn⟩

/-- A truncated text has characters of the text only. -/
theorem mem_of_mem_truncate {text : List Char} {n : ℕ} {c : Char} (h : c ∈ truncate text n) :
    c ∈ text := by
  induction text generalizing n with
  | nil => exact h
  | cons d text ih =>
    unfold truncate at h
    split_ifs at h
    · cases h
    · rcases List.mem_cons.mp h with rfl | h
      · exact List.mem_cons_self
      · exact List.mem_cons_of_mem d (ih h)

/-- A sanitized message has no end of a line, whatever the message is. -/
theorem sanitizeMessage_plain (message : List Char) :
    '\n' ∉ sanitizeMessage message ∧ '\r' ∉ sanitizeMessage message := by
  have hmap : ∀ c ∈ message.map sanitizeChar, c ≠ '\n' ∧ c ≠ '\r' := by
    intro c hc
    obtain ⟨d, -, rfl⟩ := List.mem_map.mp hc
    exact sanitizeChar_ne d
  have hall : ∀ c ∈ sanitizeMessage message, c ≠ '\n' ∧ c ≠ '\r' := by
    intro c hc
    unfold sanitizeMessage at hc
    dsimp only at hc
    split_ifs at hc
    · rcases List.mem_append.mp hc with hc | hc
      · exact hmap c (mem_of_mem_truncate hc)
      · have hmark : ∀ d ∈ " [truncated]".toList, d ≠ '\n' ∧ d ≠ '\r' := by simp
        exact hmark c hc
    · exact hmap c hc
  exact ⟨fun h => (hall _ h).1 rfl, fun h => (hall _ h).2 rfl⟩

/-- A line has no other end of a line than its own. -/
theorem lineText_plain (now : Option Duration) (level : LineLevel) (message : String) :
    '\n' ∉ lineText now level message ∧ '\r' ∉ lineText now level message := by
  obtain ⟨hline, hreturn⟩ := sanitizeMessage_plain message.toList
  have hfixed : ∀ c ∈ ['\n', '\r'], c ∉ "timestamp_unix_ms=".toList ∧ c ∉ " level=".toList ∧
      c ∉ level.text.toList ∧ c ≠ ' ' ∧ c.isDigit = false := by
    cases level <;> simp [LineLevel.text]
  have hplain : ∀ c ∈ ['\n', '\r'], c ∉ sanitizeMessage message.toList →
      c ∉ lineText now level message := by
    intro c hc hmessage
    obtain ⟨htime, hlabel, hlevel, hspace, hdigit⟩ := hfixed c hc
    unfold lineText
    simp only [List.mem_append, List.mem_cons, not_or]
    exact ⟨⟨⟨⟨htime, Text.not_mem_decimal hdigit⟩, hlabel⟩, hlevel⟩, hspace, hmessage⟩
  exact ⟨hplain '\n' (by simp) hline, hplain '\r' (by simp) hreturn⟩

/-- A call writes exactly one line. -/
theorem formatLogLine_lines (now : Option Duration) (level : LineLevel) (message : String) :
    Text.lines (formatLogLine now level message).toList = [lineText now level message] := by
  obtain ⟨hline, hreturn⟩ := lineText_plain now level message
  have hunlines : (formatLogLine now level message).toList
      = Text.unlines [lineText now level message] := by
    rw [formatLogLine, String.toList_ofList]
    simp [Text.unlines]
  rw [hunlines, Text.lines_unlines]
  · simpa using hline
  · simpa using hreturn

/-- A line is not empty. -/
theorem LogWrite.line_ne_empty (call : LogWrite) : call.line ≠ "" := by
  intro h
  have hlines := formatLogLine_lines call.now call.level call.message
  unfold LogWrite.line at h
  rw [h] at hlines
  cases hlines

/-! ## The files are a segmented log -/

/-- The bytes of a line, counted. -/
def lineLength (line : String) : ℕ := (Text.bytes line).length

/-- The bytes of a segment. -/
def encode (segment : List String) : List UInt8 := segment.flatMap Text.bytes

/-- The file of a segment: the current one, and the rotated ones by their age. -/
def logPath : ℕ → String
  | 0 => logFileName
  | index + 1 => rotatedPath (index + 1)

/-- The files hold the segments, newest first. -/
def Represents (directory : LogDirectory) (segments : List (List String)) : Prop :=
  ∀ index ≤ rotatedLogFiles,
    (directory (logPath index)).map LogFile.bytes = segments[index]?.map encode

/-- The files have different names. -/
theorem logPath_injective : ∀ i ≤ rotatedLogFiles, ∀ j ≤ rotatedLogFiles,
    logPath i = logPath j → i = j := by
  decide +kernel

/-- A text that is not empty has a byte. -/
theorem lineLength_pos {line : String} (h : line ≠ "") : 0 < lineLength line := by
  apply Nat.pos_of_ne_zero
  intro hlength
  have hbytes : Text.bytes line = Text.bytes "" := by
    rw [List.eq_nil_of_length_eq_zero hlength]
    rfl
  have hsome : some line = some "" := by
    rw [← Text.ofBytes_bytes line, hbytes, Text.ofBytes_bytes]
  exact h (Option.some.inj hsome)

/-- A segment has as many bytes as its lines together. -/
theorem length_encode (segment : List String) :
    (encode segment).length = SegmentedLog.load lineLength segment := by
  unfold encode SegmentedLog.load lineLength
  rw [List.length_flatMap]

/-- The bytes of a segment with one more line. -/
theorem encode_append (segment : List String) (line : String) :
    encode (segment ++ [line]) = encode segment ++ Text.bytes line := by
  simp [encode]

/-! ## A line fits a file -/

/-- The bytes of two texts, one after the other. -/
theorem byteSize_append (text text' : List Char) :
    byteSize (text ++ text') = byteSize text + byteSize text' := by
  simp [byteSize]

/-- A text has at most four bytes for each character. -/
theorem byteSize_le (text : List Char) : byteSize text ≤ 4 * text.length := by
  induction text with
  | nil => exact Nat.le_refl 0
  | cons c text ih =>
    have hc := c.utf8Size_le_four
    unfold byteSize at ih ⊢
    rw [List.map_cons, List.sum_cons, List.length_cons]
    omega

/-- The bytes of a text are as many as its characters have together. -/
theorem length_bytes_ofList (text : List Char) :
    (Text.bytes (String.ofList text)).length = byteSize text := by
  unfold Text.bytes
  rw [String.toByteArray_ofList]
  induction text with
  | nil => simp [byteSize]
  | cons c text ih =>
    rw [List.utf8Encode_cons, List.utf8Encode_singleton]
    simp [byteSize] at ih ⊢
    omega

/-- A text that is truncated at a boundary of a character has as many bytes as that. -/
theorem byteSize_truncate {text : List Char} {n : ℕ} (h : isCharBoundary text n = true) :
    byteSize (truncate text n) = n := by
  obtain ⟨start, hbegins, hsize⟩ : ∃ start, start <+: text ∧ byteSize start = n := by
    obtain ⟨start, hstart, hsize⟩ := List.any_eq_true.mp h
    exact ⟨start, (List.mem_inits _ _).mp hstart, by simpa using hsize⟩
  clear h
  induction text generalizing start n with
  | nil =>
    obtain rfl := List.prefix_nil.mp hbegins
    exact hsize
  | cons c text ih =>
    unfold truncate
    split_ifs with hn
    · rw [hn]
      rfl
    · cases start with
      | nil => exact absurd hsize.symm hn
      | cons d start =>
        obtain ⟨rfl, hrest⟩ := List.cons_prefix_cons.mp hbegins
        have hsum : d.utf8Size + byteSize start = n := hsize
        have htail := ih start hrest (Nat.eq_sub_of_add_eq' hsum)
        show d.utf8Size + byteSize (truncate text (n - d.utf8Size)) = n
        rw [htail]
        omega

/-- The last boundary is one, and is not beyond where it is looked for. -/
theorem lastBoundary_spec (text : List Char) (n : ℕ) :
    isCharBoundary text (lastBoundary text n) = true ∧ lastBoundary text n ≤ n := by
  induction n with
  | zero =>
    refine ⟨List.any_eq_true.mpr ⟨[], ?_, rfl⟩, Nat.le_refl 0⟩
    exact (List.mem_inits _ _).mpr List.nil_prefix
  | succ n ih =>
    unfold lastBoundary
    split_ifs with h
    · exact ⟨h, Nat.le_refl _⟩
    · exact ⟨ih.1, Nat.le_succ_of_le ih.2⟩

/-- A sanitized message has a bounded length, whatever the message is. -/
theorem byteSize_sanitizeMessage (message : List Char) :
    byteSize (sanitizeMessage message) ≤ maxLogMessageBytes + byteSize " [truncated]".toList := by
  unfold sanitizeMessage
  dsimp only
  split_ifs with h
  · obtain ⟨hboundary, hle⟩ := lastBoundary_spec (message.map sanitizeChar) maxLogMessageBytes
    rw [byteSize_append, byteSize_truncate hboundary]
    omega
  · omega

/-- The milliseconds of a span have at most 23 digits. -/
theorem length_decimal_millis (span : Duration) :
    (Text.decimal (span.asNanos / 10^6)).length ≤ 23 := by
  have hsecs := span.secs.toNat_lt
  have hnanos := span.subsecNanos_lt
  apply (Nat.length_toDigits_le_iff (by decide) (by decide)).mpr
  unfold Duration.asNanos
  omega

/-- Every line fits the file of the default limit. -/
theorem line_fits (call : LogWrite) : lineLength call.line ≤ maxLogFileBytes.toNat := by
  obtain ⟨now, level, message⟩ := call
  have htime : (Text.decimal ((now.map fun since => since.asNanos / 10^6).getD 0)).length ≤ 23 := by
    cases now with
    | none => simp [Text.decimal]
    | some span =>
      rw [Option.map_some, Option.getD_some]
      exact length_decimal_millis span
  unfold lineLength LogWrite.line formatLogLine lineText
  rw [length_bytes_ofList]
  dsimp only
  generalize Text.decimal ((now.map fun since => since.asNanos / 10^6).getD 0) = time at htime ⊢
  -- The message is bounded by its truncation, and the other parts by their characters.
  have hmessage := byteSize_sanitizeMessage message.toList
  have hmark : byteSize " [truncated]".toList ≤ 48 := (byteSize_le _).trans (by simp)
  have hstamp : byteSize "timestamp_unix_ms=".toList ≤ 72 := (byteSize_le _).trans (by simp)
  have htimeLe : byteSize time ≤ 92 := (byteSize_le _).trans (by omega)
  have hname : byteSize " level=".toList ≤ 28 := (byteSize_le _).trans (by simp)
  have hlevel : byteSize level.text.toList ≤ 20 := by
    cases level <;> exact (byteSize_le _).trans (by simp [LineLevel.text])
  have hspace : byteSize [' '] ≤ 4 := byteSize_le [' ']
  have hend : byteSize ['\n'] ≤ 4 := byteSize_le ['\n']
  have hcons : byteSize (' ' :: sanitizeMessage message.toList)
      = byteSize [' '] + byteSize (sanitizeMessage message.toList) := byteSize_append [' '] _
  have hlimit : maxLogFileBytes.toNat = 1048576 := rfl
  have hmaximum : maxLogMessageBytes = 4096 := rfl
  simp only [byteSize_append]
  omega

/-! ## Rotation -/

/-- One round of the loop moves a file to the next older place, where the file there is removed by
the round or is not there, and touches no other file. -/
theorem rotateAt_ok (directory : LogDirectory) {index : ℕ} (hpos : 0 < index)
    (hle : index ≤ rotatedLogFiles)
    (hfree : index = rotatedLogFiles ∨ directory (logPath index) = none) :
    ∃ directory', rotateAt FileFaults.none directory index = .ok directory' ∧
      directory' (logPath index) = directory (logPath (index - 1)) ∧
      directory' (logPath (index - 1)) = none ∧
      ∀ path, path ≠ logPath index → path ≠ logPath (index - 1) →
        directory' path = directory path := by
  have hdestination : rotatedPath index = logPath index := by
    obtain ⟨n, rfl⟩ := Nat.exists_eq_succ_of_ne_zero hpos.ne'
    rfl
  have hsource : (if index = 1 then logFileName else rotatedPath (index - 1))
      = logPath (index - 1) := by
    obtain ⟨n, rfl⟩ := Nat.exists_eq_succ_of_ne_zero hpos.ne'
    cases n <;> rfl
  have hne : logPath index ≠ logPath (index - 1) := by
    intro h
    have := logPath_injective index hle (index - 1) (by omega) h
    omega
  -- The destination is free before the file is renamed, and the other files are as they were.
  have hremoved : ∃ removed, removeOldest FileFaults.none directory index = .ok removed ∧
      removed (logPath index) = none ∧ ∀ path, path ≠ logPath index →
        removed path = directory path := by
    unfold removeOldest
    rw [hdestination]
    by_cases h : index = rotatedLogFiles ∧ pathExists FileFaults.none directory (logPath index)
    · rw [if_pos h]
      refine ⟨_, rfl, Function.update_self .., fun path hpath => ?_⟩
      exact Function.update_of_ne hpath ..
    · rw [if_neg h]
      refine ⟨directory, rfl, ?_, fun path _ => rfl⟩
      rcases hfree with hlast | hnone
      · simpa [hlast, pathExists, FileFaults.none] using h
      · exact hnone
  obtain ⟨removed, hok, hnone, hother⟩ := hremoved
  unfold rotateAt
  simp only [hdestination, hsource]
  cases hfile : directory (logPath (index - 1)) with
  | none =>
    have hexists : ¬pathExists FileFaults.none removed (logPath (index - 1)) = true := by
      simp [pathExists, hother _ hne.symm, hfile]
    refine ⟨removed, Result.bind_eq_ok.mpr ⟨removed, hok, if_neg hexists⟩, hnone, ?_,
      fun path hpath _ => hother path hpath⟩
    rw [hother _ hne.symm, hfile]
  | some file =>
    have hexists : pathExists FileFaults.none removed (logPath (index - 1)) = true := by
      simp [pathExists, FileFaults.none, hother _ hne.symm, hfile]
    refine ⟨_, Result.bind_eq_ok.mpr ⟨removed, hok, if_pos hexists⟩, ?_, ?_, ?_⟩
    · rw [Function.update_self, hother _ hne.symm, hfile]
    · rw [Function.update_of_ne hne.symm, Function.update_self]
    · intro path hpath hpath'
      rw [Function.update_of_ne hpath, Function.update_of_ne hpath', hother path hpath]

/-- The loop moves every file to the next older place and drops the oldest. -/
theorem rotate_ok (directory : LogDirectory) :
    ∃ directory', (List.range' 1 rotatedLogFiles).reverse.foldlM (rotateAt FileFaults.none)
        directory = .ok directory' ∧
      directory' (logPath 0) = none ∧ directory' (logPath 1) = directory (logPath 0) ∧
      directory' (logPath 2) = directory (logPath 1) := by
  have hne {i j : ℕ} (hi : i ≤ 2) (hj : j ≤ 2) (hij : i ≠ j) : logPath i ≠ logPath j :=
    fun h => hij (logPath_injective i hi j hj h)
  -- The first round frees the place of the file that the second round moves.
  obtain ⟨first, hfirst, h2, h1, hfirst'⟩ := rotateAt_ok directory Nat.two_pos
    (by decide) (.inl rfl)
  obtain ⟨second, hsecond, g1, g0, hsecond'⟩ := rotateAt_ok first Nat.one_pos
    (by decide) (.inr h1)
  refine ⟨second, ?_, g0, ?_, ?_⟩
  · have hindices : (List.range' 1 rotatedLogFiles).reverse = [2, 1] := by decide
    rw [hindices, List.foldlM_cons]
    refine Result.bind_eq_ok.mpr ⟨first, hfirst, ?_⟩
    rw [List.foldlM_cons]
    exact Result.bind_eq_ok.mpr ⟨second, hsecond, rfl⟩
  · rw [g1, hfirst' _ (hne (by decide) (by decide) (by decide))
      (hne (by decide) (by decide) (by decide))]
  · rw [hsecond' _ (hne (by decide) (by decide) (by decide))
      (hne (by decide) (by decide) (by decide)), h2]

/-- A file has its length as a word. -/
theorem LogFile.len_toNat (file : LogFile) : file.len.toNat = file.bytes.length :=
  UInt64.toNat_ofNat_of_lt' file.fits

/-- Where there is room, all bytes are appended. -/
theorem LogFile.extend_bytes {file : LogFile} {bytes : List UInt8}
    (h : file.bytes.length + bytes.length < 2^64) :
    (file.extend bytes).bytes = file.bytes ++ bytes := by
  apply List.take_of_length_le
  rw [List.length_append]
  omega

/-- The directory with a line appended to the current file, where there is room for it. -/
theorem appendLine_ok {line : List UInt8} {directory directory' : LogDirectory}
    (h : appendLine FileFaults.none line directory = .ok directory') :
    (directory' logFileName).map LogFile.bytes
        = some (((directory logFileName).map LogFile.bytes).getD [] ++ line) ∧
      (((directory logFileName).map LogFile.bytes).getD []).length + line.length < 2^64 ∧
      ∀ path, path ≠ logFileName → directory' path = directory path := by
  have hbytes : ((directory logFileName).getD LogFile.empty).bytes
      = ((directory logFileName).map LogFile.bytes).getD [] := by
    cases directory logFileName <;> rfl
  unfold appendLine at h
  simp only [FileFaults.none, Bool.false_eq_true, if_false] at h
  split_ifs at h with hroom
  cases h
  refine ⟨?_, by rwa [← hbytes], fun path hpath => Function.update_of_ne hpath ..⟩
  rw [Function.update_self, Option.map_some, LogFile.extend_bytes hroom, hbytes]

/-! ## Writing keeps the last lines -/

/-- The segments after a line. -/
def pushLine (limit : UInt64) (segments : List (List String)) (line : String) :
    List (List String) :=
  SegmentedLog.push lineLength limit.toNat rotatedLogFiles segments line

/-- What the segments keep of the lines written. -/
def Keeps (limit : UInt64) (segments : List (List String)) (lines : List String) : Prop :=
  SegmentedLog.Retains lineLength limit.toNat rotatedLogFiles segments lines

/-- The current file has the bytes of the current segment. -/
theorem Represents.current {directory : LogDirectory} {segments : List (List String)}
    (h : Represents directory segments) :
    (directory logFileName).map LogFile.bytes = segments[0]?.map encode :=
  h 0 (by decide)

/-- The length that `rotate_if_needed` reads is that of the current segment. -/
theorem Represents.metadataLen_toNat {directory : LogDirectory} {current : List String}
    {older : List (List String)} (h : Represents directory (current :: older)) :
    (metadataLen FileFaults.none directory logFileName).toNat
      = SegmentedLog.load lineLength current := by
  obtain ⟨file, hfile, hbytes⟩ := Option.map_eq_some_iff.mp h.current
  have hlen : metadataLen FileFaults.none directory logFileName = file.len := by
    unfold metadataLen
    rw [hfile]
    rfl
  rw [hlen, file.len_toNat, hbytes, length_encode]

/-- Files that hold segments hold them with the line at the end of the current one. -/
theorem Represents.append {directory directory' : LogDirectory} {current : List String}
    {older : List (List String)} {line : String} (h : Represents directory (current :: older))
    (happend : appendLine FileFaults.none (Text.bytes line) directory = .ok directory') :
    Represents directory' ((current ++ [line]) :: older) := by
  obtain ⟨hcurrent, -, hother⟩ := appendLine_ok happend
  intro index hindex
  cases index with
  | zero =>
    show (directory' logFileName).map LogFile.bytes = some (encode (current ++ [line]))
    rw [hcurrent, h.current, encode_append]
    rfl
  | succ index =>
    have hne : logPath (index + 1) ≠ logFileName := fun heq =>
      absurd (logPath_injective _ hindex 0 (by decide) heq) (Nat.succ_ne_zero index)
    rw [hother _ hne, h _ hindex]
    rfl

/-- Without a current file, the line starts one. -/
theorem represents_start {directory directory' : LogDirectory} {line : String}
    (older : List (List String)) (hnone : directory logFileName = none)
    (holder : ∀ index, index + 1 ≤ rotatedLogFiles →
      (directory (logPath (index + 1))).map LogFile.bytes = older[index]?.map encode)
    (happend : appendLine FileFaults.none (Text.bytes line) directory = .ok directory') :
    Represents directory' ([line] :: older.take rotatedLogFiles) := by
  obtain ⟨hcurrent, -, hother⟩ := appendLine_ok happend
  intro index hindex
  cases index with
  | zero =>
    show (directory' logFileName).map LogFile.bytes = some (encode [line])
    rw [hcurrent, hnone]
    simp [encode]
  | succ index =>
    have hne : logPath (index + 1) ≠ logFileName := fun heq =>
      absurd (logPath_injective _ hindex 0 (by decide) heq) (Nat.succ_ne_zero index)
    rw [hother _ hne, holder index hindex, List.getElem?_cons_succ, List.getElem?_take_of_lt hindex]

/-- The files after a rotation hold the segments one place further. -/
theorem rotate_represents {directory : LogDirectory} {segments : List (List String)}
    (h : Represents directory segments) :
    ∃ rotated, (List.range' 1 rotatedLogFiles).reverse.foldlM (rotateAt FileFaults.none)
        directory = .ok rotated ∧ rotated logFileName = none ∧
      ∀ index, index + 1 ≤ rotatedLogFiles →
        (rotated (logPath (index + 1))).map LogFile.bytes = segments[index]?.map encode := by
  obtain ⟨rotated, hok, h0, h1, h2⟩ := rotate_ok directory
  refine ⟨rotated, hok, h0, ?_⟩
  intro index hindex
  have hcases : index = 0 ∨ index = 1 := by
    unfold rotatedLogFiles at hindex
    omega
  rcases hcases with rfl | rfl
  · rw [h1]
    exact h 0 (by decide)
  · rw [h2]
    exact h 1 (by decide)

/-- A write without a failure, of a line that fits a file, pushes the line. -/
theorem tryWrite_represents {limit : UInt64} {directory directory' : LogDirectory}
    {segments : List (List String)} {lines : List String} {call : LogWrite}
    (h : Represents directory segments) (hkeeps : Keeps limit segments lines)
    (hlines : ∀ line ∈ lines, line ≠ "") (hfits : lineLength call.line ≤ limit.toNat)
    (hwrite : tryWrite FileFaults.none limit directory call = .ok directory') :
    Represents directory' (pushLine limit segments call.line) := by
  have hlimit := limit.toNat_lt
  have hincoming : (UInt64.ofNat (Text.bytes call.line).length).toNat = lineLength call.line :=
    UInt64.toNat_ofNat_of_lt' (lt_of_le_of_lt hfits hlimit)
  obtain ⟨rotated, hrotate, happend⟩ := Result.bind_eq_ok.mp hwrite
  unfold rotateIfNeeded at hrotate
  cases segments with
  | nil =>
    -- There is no current file, so that nothing is rotated.
    have hnone : directory logFileName = none := by
      simpa using h.current
    have hzero : metadataLen FileFaults.none directory logFileName = 0 := by
      unfold metadataLen
      rw [hnone]
      rfl
    rw [if_pos (.inl hzero)] at hrotate
    cases hrotate
    exact represents_start [] hnone (fun index hindex => h _ hindex) happend
  | cons current older =>
    have hlen := h.metadataLen_toNat
    -- The current segment has a line, so that the current file is not empty.
    have hpos : 0 < SegmentedLog.load lineLength current := by
      obtain ⟨line, rest, rfl⟩ := List.exists_cons_of_ne_nil
        (hkeeps.nonempty current List.mem_cons_self)
      have hmem : line ∈ lines := by
        apply hkeeps.suffix.subset
        rw [SegmentedLog.retained_cons]
        exact List.mem_append_right _ List.mem_cons_self
      have hline := lineLength_pos (hlines line hmem)
      unfold SegmentedLog.load
      rw [List.map_cons, List.sum_cons]
      omega
    have hne : metadataLen FileFaults.none directory logFileName ≠ 0 := by
      intro hzero
      rw [hzero] at hlen
      simp only [UInt64.toNat_zero] at hlen
      omega
    have hsum := Checked.saturatingAdd_toNat (metadataLen FileFaults.none directory logFileName)
      (UInt64.ofNat (Text.bytes call.line).length)
    rw [hlen, hincoming] at hsum
    unfold pushLine SegmentedLog.push
    dsimp only at hrotate ⊢
    by_cases hroom : SegmentedLog.load lineLength current + lineLength call.line ≤ limit.toNat
    · -- The line fits the current file.
      have hstay : Checked.saturatingAdd (metadataLen FileFaults.none directory logFileName)
          (UInt64.ofNat (Text.bytes call.line).length) ≤ limit := by
        rw [UInt64.le_iff_toNat_le, hsum]
        omega
      rw [if_pos (.inr hstay)] at hrotate
      cases hrotate
      rw [if_pos hroom]
      exact h.append happend
    · rw [if_neg hroom]
      by_cases hstay : Checked.saturatingAdd (metadataLen FileFaults.none directory logFileName)
          (UInt64.ofNat (Text.bytes call.line).length) ≤ limit
      · -- Only a sum beyond `u64` is taken for one that fits, and no file has room for it.
        rw [if_pos (.inr hstay)] at hrotate
        cases hrotate
        obtain ⟨-, hfile, -⟩ := appendLine_ok happend
        have hbound : SegmentedLog.load lineLength current + lineLength call.line < 2^64 := by
          rw [h.current] at hfile
          simp only [List.getElem?_cons_zero, Option.map_some, Option.getD_some,
            length_encode] at hfile
          exact hfile
        rw [UInt64.le_iff_toNat_le, hsum] at hstay
        omega
      · -- The files are rotated, and the line starts a new current file.
        rw [if_neg (not_or.mpr ⟨hne, hstay⟩)] at hrotate
        obtain ⟨rotated', hok, hnone, holder⟩ := rotate_represents h
        rw [hok] at hrotate
        cases hrotate
        exact represents_start (current :: older) hnone holder happend

/-! ## Every run of writes -/

/-- A write whose file operations all succeed. -/
def writeStep (limit : UInt64) (directory : LogDirectory) (call : LogWrite) :
    Option LogDirectory :=
  if (tryWrite FileFaults.none limit directory call).isOk then
    some (write FileFaults.none limit directory call)
  else none

/-- The writes of a log whose file operations all succeed. -/
def logging (limit : UInt64) : TransitionSystem LogDirectory LogWrite :=
  TransitionSystem.ofStep (writeStep limit)

/-- A write whose file operations all succeed leaves what it computes. -/
theorem tryWrite_of_writeStep {limit : UInt64} {directory directory' : LogDirectory}
    {call : LogWrite} (h : writeStep limit directory call = some directory') :
    tryWrite FileFaults.none limit directory call = .ok directory' := by
  unfold writeStep write at h
  cases htry : tryWrite FileFaults.none limit directory call with
  | error failed =>
    rw [htry] at h
    cases h
  | ok after =>
    rw [htry] at h
    cases h
    rfl

/-- A file, if it is there, holds whole lines: its bytes are those of the lines. -/
def HoldsLines (directory : LogDirectory) (path : String) (lines : List String) : Prop :=
  ((directory path).map LogFile.bytes).getD [] = encode lines

/-- Files that hold segments hold whole lines, and none where there is no segment. -/
theorem Represents.holdsLines {directory : LogDirectory} {segments : List (List String)}
    (h : Represents directory segments) (index : ℕ) (hindex : index ≤ rotatedLogFiles) :
    HoldsLines directory (logPath index) (segments[index]?.getD []) := by
  unfold HoldsLines
  rw [h index hindex]
  cases segments[index]? <;> rfl

/-- The segments that the writes of a run leave. -/
def segmentsAfter (limit : UInt64) (calls : List LogWrite) : List (List String) :=
  (calls.map LogWrite.line).foldl (pushLine limit) []

/-- After every run, the files hold the segments that its writes leave. -/
theorem run_represents {limit : UInt64} {calls : List LogWrite} {directory : LogDirectory}
    (hfits : ∀ call ∈ calls, lineLength call.line ≤ limit.toNat)
    (h : (logging limit).Run noFiles calls directory) :
    Represents directory (segmentsAfter limit calls) ∧
      Keeps limit (segmentsAfter limit calls) (calls.map LogWrite.line) := by
  induction calls using List.reverseRecOn generalizing directory with
  | nil =>
    cases TransitionSystem.run_nil.mp h
    exact ⟨fun index _ => rfl, SegmentedLog.Retains.nil⟩
  | append_singleton calls call ih =>
    obtain ⟨before, hrun, hstep⟩ := TransitionSystem.run_snoc.mp h
    obtain ⟨hbefore, hkeeps⟩ := ih
      (fun earlier hmem => hfits earlier (List.mem_append_left _ hmem)) hrun
    have hcall := hfits call (by simp)
    have hlines : ∀ line ∈ calls.map LogWrite.line, line ≠ "" := by
      intro line hline
      obtain ⟨earlier, -, rfl⟩ := List.mem_map.mp hline
      exact earlier.line_ne_empty
    have hsegments : segmentsAfter limit (calls ++ [call])
        = pushLine limit (segmentsAfter limit calls) call.line := by
      simp [segmentsAfter]
    rw [hsegments, List.map_append]
    exact ⟨tryWrite_represents hbefore hkeeps hlines hcall (tryWrite_of_writeStep hstep),
      SegmentedLog.push_retains hkeeps hcall⟩

/-- The length of a file that is there. -/
def fileLength (directory : LogDirectory) (path : String) : ℕ :=
  (((directory path).map LogFile.bytes).getD []).length

/-- After every run of writes whose lines fit the limit, the three files are within the limit and
hold whole lines, which are, from the oldest file to the current one, the last lines written, with
the latest one at the end of the current file. Every call writes exactly one line. -/
theorem log_keeps_history {limit : UInt64} {calls : List LogWrite} {directory : LogDirectory}
    (hfits : ∀ call ∈ calls, lineLength call.line ≤ limit.toNat)
    (h : (logging limit).Run noFiles calls directory) :
    (∃ oldest older current : List String,
      HoldsLines directory (rotatedPath 2) oldest ∧ HoldsLines directory (rotatedPath 1) older ∧
        HoldsLines directory logFileName current ∧
      fileLength directory (rotatedPath 2) ≤ limit.toNat ∧
        fileLength directory (rotatedPath 1) ≤ limit.toNat ∧
        fileLength directory logFileName ≤ limit.toNat ∧
      oldest ++ older ++ current <:+ calls.map LogWrite.line ∧
      current.getLast? = (calls.map LogWrite.line).getLast?) ∧
    ∀ call ∈ calls, Text.lines call.line.toList
      = [lineText call.now call.level call.message] := by
  -- The files are segments, and what holds of the segments holds of them.
  obtain ⟨hfiles, hkeeps⟩ := run_represents hfits h
  refine ⟨?_, fun call _ => formatLogLine_lines call.now call.level call.message⟩
  generalize segmentsAfter limit calls = segments at hfiles hkeeps
  have hlength (index : ℕ) (hindex : index ≤ rotatedLogFiles) :
      fileLength directory (logPath index) ≤ limit.toNat := by
    unfold fileLength
    rw [hfiles.holdsLines index hindex, length_encode]
    cases hsegment : segments[index]? with
    | none => exact Nat.zero_le _
    | some segment => exact hkeeps.bounded segment (List.mem_of_getElem? hsegment)
  refine ⟨segments[2]?.getD [], segments[1]?.getD [], segments[0]?.getD [],
    hfiles.holdsLines 2 (by decide), hfiles.holdsLines 1 (by decide),
    hfiles.holdsLines 0 (by decide), hlength 2 (by decide), hlength 1 (by decide),
    hlength 0 (by decide), ?_, ?_⟩
  · -- There are at most three segments.
    have hretained : SegmentedLog.retained segments
        = segments[2]?.getD [] ++ segments[1]?.getD [] ++ segments[0]?.getD [] := by
      have hthree := hkeeps.length_le
      unfold rotatedLogFiles at hthree
      match segments, hthree with
      | [], _ => rfl
      | [a], _ => simp [SegmentedLog.retained]
      | [a, b], _ => simp [SegmentedLog.retained]
      | [a, b, c], _ => simp [SegmentedLog.retained]
    rw [← hretained]
    exact hkeeps.suffix
  · rw [← hkeeps.latest]
    cases segments <;> rfl

/-- Four writes. Each line has 37 to 39 bytes, so that a file of 72 bytes holds one of them. -/
def fourWrites : List LogWrite :=
  [⟨none, .info, "first"⟩, ⟨none, .info, "se\ncond"⟩, ⟨none, .debug, "third"⟩,
    ⟨none, .info, "fourth"⟩]

/-- Four writes leave the last lines in the files. -/
theorem log_keeps_history_fourWrites : ∃ directory, (logging 72).Run noFiles fourWrites directory ∧
    ∃ oldest older current : List String,
      HoldsLines directory (rotatedPath 2) oldest ∧ HoldsLines directory (rotatedPath 1) older ∧
        HoldsLines directory logFileName current ∧
      fileLength directory logFileName ≤ 72 ∧
      oldest ++ older ++ current <:+ fourWrites.map LogWrite.line := by
  have hsome : (fourWrites.foldlM (TransitionSystem.guarded (writeStep 72) fun _ _ => True)
      noFiles).isSome := by decide +kernel
  obtain ⟨directory, hfold⟩ := Option.isSome_iff_exists.mp hsome
  have hrun : (logging 72).Run noFiles fourWrites directory :=
    (TransitionSystem.run_of_foldlM hfold).of_restrict
  have hfits : ∀ call ∈ fourWrites, lineLength call.line ≤ (72 : UInt64).toNat := by
    decide +kernel
  obtain ⟨⟨oldest, older, current, h2, h1, h0, -, -, hle, hsuffix, -⟩, -⟩ :=
    log_keeps_history hfits hrun
  exact ⟨directory, hrun, oldest, older, current, h2, h1, h0, hle, hsuffix⟩

end Diagnostics

end ResonanceSignal
