import Mathlib.Data.Nat.Notation
import Mathlib.Tactic.NormNum
import Mathlib.Tactic.Ring

/-!
# Little-endian words

Natural numbers as little-endian bytes of a fixed width, and lists of 32-bit words as bytes.
Decoding undoes encoding where the number fits the width (`decode_encode`), and a list of words
survives the way to bytes and back (`unpackWords_packWords`).
-/

namespace LittleEndian

/-- The `width` low bytes of a number, least significant first. -/
def encode : ℕ → ℕ → List UInt8
  | 0, _ => []
  | width + 1, n => UInt8.ofNat (n % 256) :: encode width (n / 256)

/-- The number of a list of bytes, least significant first. -/
def decode : List UInt8 → ℕ
  | [] => 0
  | byte :: bytes => byte.toNat + 256 * decode bytes

/-- An encoding has as many bytes as its width. -/
@[simp]
theorem length_encode (width n : ℕ) : (encode width n).length = width := by
  induction width generalizing n with
  | zero => rfl
  | succ width ih => rw [encode, List.length_cons, ih]

/-- Decoding undoes encoding where the number fits the width. -/
theorem decode_encode {width n : ℕ} (h : n < 256^width) : decode (encode width n) = n := by
  induction width generalizing n with
  | zero =>
    obtain rfl : n = 0 := by simpa using h
    rfl
  | succ width ih =>
    have hdiv : n / 256 < 256^width := by
      rw [Nat.div_lt_iff_lt_mul (by norm_num)]
      rwa [pow_succ] at h
    rw [encode, decode, ih hdiv, UInt8.toNat_ofNat_of_lt' (Nat.mod_lt _ (by norm_num))]
    exact Nat.mod_add_div n 256

/-- The four bytes of a 32-bit word. -/
def word (w : UInt32) : List UInt8 := encode 4 w.toNat

/-- The bytes of a list of 32-bit words. -/
def packWords (words : List UInt32) : List UInt8 := words.flatMap word

/-- The 32-bit words of a list of bytes. Bytes that make up no whole word are left out. -/
def unpackWords : List UInt8 → List UInt32
  | a :: b :: c :: d :: bytes => UInt32.ofNat (decode [a, b, c, d]) :: unpackWords bytes
  | _ => []

/-- No word has no byte. -/
@[simp]
theorem packWords_nil : packWords [] = [] := rfl

/-- The bytes of a first word and of the others. -/
@[simp]
theorem packWords_cons (w : UInt32) (ws : List UInt32) :
    packWords (w :: ws) = word w ++ packWords ws := rfl

/-- A word is read back from its bytes. -/
theorem decode_word (w : UInt32) : UInt32.ofNat (decode (word w)) = w := by
  rw [word, decode_encode (by have := w.toNat_lt; norm_num; exact this), UInt32.ofNat_toNat]

/-- Words have four bytes each. -/
@[simp]
theorem length_packWords (words : List UInt32) : (packWords words).length = 4 * words.length := by
  induction words with
  | nil => rfl
  | cons w ws ih =>
    rw [packWords_cons, List.length_append, ih, word, length_encode, List.length_cons]
    omega

/-- Reading back the bytes of a word and what follows. -/
theorem unpackWords_word_append (w : UInt32) (bytes : List UInt8) :
    unpackWords (word w ++ bytes) = w :: unpackWords bytes := by
  have h := decode_word w
  simp only [word, encode] at h ⊢
  simp only [List.cons_append, List.nil_append, unpackWords, h]

/-- A list of words is read back from its bytes. -/
theorem unpackWords_packWords (words : List UInt32) : unpackWords (packWords words) = words := by
  induction words with
  | nil => rfl
  | cons w ws ih => rw [packWords_cons, unpackWords_word_append, ih]

/-- Four bytes make a word. -/
theorem length_unpackWords : ∀ bytes : List UInt8,
    (unpackWords bytes).length = bytes.length / 4
  | a :: b :: c :: d :: bytes => by
    rw [unpackWords, List.length_cons, length_unpackWords bytes]
    simp only [List.length_cons]
    omega
  | [] => rfl
  | [_] => by simp [unpackWords]
  | [_, _] => by simp [unpackWords]
  | [_, _, _] => by simp [unpackWords]

end LittleEndian
