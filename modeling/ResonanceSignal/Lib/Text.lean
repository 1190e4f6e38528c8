import Mathlib.Data.Nat.Notation
import Mathlib.Data.List.Basic

/-!
# Text

The white space of Unicode and texts that are made of nothing else; lines, fields and decimals of a
text; and the bytes of a text. A text that is taken apart is its list of characters.
-/

namespace Text

/-- The characters with the Unicode property `White_Space`. -/
def isWhiteSpace (c : Char) : Bool :=
  let n := c.toNat
  (0x9 ≤ n && n ≤ 0xd) || n == 0x20 || n == 0x85 || n == 0xa0 || n == 0x1680 ||
    (0x2000 ≤ n && n ≤ 0x200a) || n == 0x2028 || n == 0x2029 || n == 0x202f || n == 0x205f ||
    n == 0x3000

/-- A text of white space only, which trimming leaves empty. -/
def isBlank (text : String) : Bool := text.toList.all isWhiteSpace

/-! ## Fields -/

/-- What stands before and after the first separator. -/
def splitOnce (separator : Char) : List Char → Option (List Char × List Char)
  | [] => none
  | c :: cs =>
    if c = separator then some ([], cs)
    else (splitOnce separator cs).map fun (before, after) => (c :: before, after)

/-- What stands before and after the last separator. -/
def rsplitOnce (separator : Char) (text : List Char) : Option (List Char × List Char) :=
  (splitOnce separator text.reverse).map fun (after, before) => (before.reverse, after.reverse)

variable {separator : Char} {before after : List Char}

/-- A text is split at the first separator. -/
theorem splitOnce_append (h : separator ∉ before) :
    splitOnce separator (before ++ separator :: after) = some (before, after) := by
  induction before with
  | nil => simp [splitOnce]
  | cons c cs ih =>
    obtain ⟨hc, hcs⟩ := not_or.mp (mt List.mem_cons.mpr h)
    rw [List.cons_append, splitOnce, if_neg (Ne.symm hc), ih hcs]
    rfl

/-- A text is split at the last separator. -/
theorem rsplitOnce_append (h : separator ∉ after) :
    rsplitOnce separator (before ++ separator :: after) = some (before, after) := by
  have hreverse : (before ++ separator :: after).reverse
      = after.reverse ++ separator :: before.reverse := by simp
  unfold rsplitOnce
  rw [hreverse, splitOnce_append (by simpa using h)]
  simp

/-! ## Lines -/

/-- A line without the carriage return before its end. -/
def stripReturn (line : List Char) : List Char :=
  if line.getLast? = some '\r' then line.dropLast else line

/-- The lines of a text. Only the last one may lack the end of the line. -/
def lines (text : List Char) : List (List Char) :=
  let parts := text.splitOn '\n'
  let last := parts.getLast?.getD []
  parts.dropLast.map stripReturn ++ if last = [] then [] else [last]

/-- The text of a list of lines. -/
def unlines (ls : List (List Char)) : List Char := ls.flatMap (· ++ ['\n'])

/-- The parts of a text of lines are the lines, and nothing at the end. -/
theorem splitOn_unlines {ls : List (List Char)} (h : ∀ line ∈ ls, '\n' ∉ line) :
    (unlines ls).splitOn '\n' = ls ++ [[]] := by
  induction ls with
  | nil => rfl
  | cons line ls ih =>
    obtain ⟨hline, hls⟩ := List.forall_mem_cons.mp h
    have hcons : unlines (line :: ls) = line ++ '\n' :: unlines ls := by simp [unlines]
    rw [hcons, List.splitOn_append_cons_self_of_not_mem hline, ih hls]
    rfl

/-- A text of lines is read as these lines. -/
theorem lines_unlines {ls : List (List Char)} (h : ∀ line ∈ ls, '\n' ∉ line)
    (hreturn : ∀ line ∈ ls, '\r' ∉ line) : lines (unlines ls) = ls := by
  have hstrip : ls.map stripReturn = ls := by
    calc ls.map stripReturn
        = ls.map id := by
          apply List.map_congr_left
          intro line hline
          unfold stripReturn
          exact if_neg fun hlast => hreturn line hline (List.mem_of_getLast? hlast)
      _ = ls := List.map_id ls
  unfold lines
  rw [splitOn_unlines h]
  simpa using hstrip

/-! ## Decimals -/

/-- The decimal of a number. -/
def decimal (n : ℕ) : List Char := Nat.toDigits 10 n

/-- A decimal without the plus sign that may stand before it. -/
def stripPlus : List Char → List Char
  | '+' :: digits => digits
  | digits => digits

/-- The number of a decimal. -/
def parseDecimal (text : List Char) : Option ℕ :=
  let digits := stripPlus text
  if digits ≠ [] ∧ digits.all Char.isDigit then some (Nat.ofDigitChars 10 digits 0) else none

/-- A decimal is made of digits. -/
theorem isDigit_of_mem_decimal {n : ℕ} {c : Char} (h : c ∈ decimal n) : c.isDigit = true :=
  Nat.isDigit_of_mem_toDigits (by omega) (by omega) h

/-- What is not a digit is not in a decimal. -/
theorem not_mem_decimal {n : ℕ} {c : Char} (h : c.isDigit = false) : c ∉ decimal n := by
  intro hmem
  rw [isDigit_of_mem_decimal hmem] at h
  cases h

/-- A decimal has no plus sign. -/
theorem stripPlus_decimal (n : ℕ) : stripPlus (decimal n) = decimal n := by
  unfold stripPlus
  split
  next digits hplus =>
    have hmem : '+' ∈ decimal n := by
      rw [hplus]
      exact List.mem_cons_self
    exact absurd hmem (not_mem_decimal rfl)
  next => rfl

/-- A decimal is parsed. -/
theorem parseDecimal_decimal (n : ℕ) : parseDecimal (decimal n) = some n := by
  have hdigits : decimal n ≠ [] ∧ (decimal n).all Char.isDigit :=
    ⟨Nat.toDigits_ne_nil, List.all_eq_true.mpr fun c => isDigit_of_mem_decimal⟩
  unfold parseDecimal
  rw [stripPlus_decimal]
  dsimp only
  rw [if_pos hdigits, decimal, Nat.ofDigitChars_ten_toDigits]

/-! ## Bytes -/

/-- The bytes of a text. -/
def bytes (text : String) : List UInt8 := text.toByteArray.data.toList

/-- The text of bytes, where they are one. -/
def ofBytes (bytes : List UInt8) : Option String := String.fromUTF8? ⟨bytes.toArray⟩

/-- The bytes of a text are its bytes. -/
@[simp]
theorem ofBytes_bytes (text : String) : ofBytes (bytes text) = some text := by
  unfold ofBytes bytes String.fromUTF8?
  exact dif_pos text.isValidUTF8

end Text
