import Mathlib.Data.List.Basic
import Mathlib.Logic.Function.Basic

/-!
# Self-delimiting codes

A code is self-delimiting where what a text begins with can be read off it: if two texts that begin
with words of the code are equal, so are the values and what follows them. Such a code is injective
and prefix-free, and codes of fixed length are combined into others by pairing and listing, each of
which has a rule here.
-/

/-- A code whose words are read off the front of a text. -/
def SelfDelimiting {α β : Type*} (code : α → List β) : Prop :=
  ∀ a b rest rest', code a ++ rest = code b ++ rest' → a = b ∧ rest = rest'

namespace SelfDelimiting

variable {α α' β κ : Type*} {code : α → List β} {code' : α' → List β}

/-- A self-delimiting code is injective. -/
theorem injective (h : SelfDelimiting code) : Function.Injective code := by
  intro a b hab
  exact (h a b [] [] (by rw [hab])).1

/-- No word of a self-delimiting code is a proper prefix of another one. -/
theorem eq_of_prefix (h : SelfDelimiting code) {a b : α} (hab : code a <+: code b) : a = b := by
  obtain ⟨rest, hrest⟩ := hab
  exact (h a b rest [] (by rw [hrest, List.append_nil])).1

/-- An injective code of fixed length is self-delimiting. -/
theorem of_length {n : ℕ} (hlength : ∀ a, (code a).length = n)
    (hinjective : Function.Injective code) : SelfDelimiting code := by
  intro a b rest rest' h
  obtain ⟨hcode, hrest⟩ := List.append_inj h ((hlength a).trans (hlength b).symm)
  exact ⟨hinjective hcode, hrest⟩

/-- A code of one symbol for each value is self-delimiting. -/
theorem singleton {symbol : α → β} (h : Function.Injective symbol) :
    SelfDelimiting fun a => [symbol a] :=
  of_length (n := 1) (fun _ => rfl) fun _ _ hab => h (List.head_eq_of_cons_eq hab)

/-- A code of the two parts of a value, one after the other. -/
theorem append (h : SelfDelimiting code) (h' : SelfDelimiting code') :
    SelfDelimiting fun p : α × α' => code p.1 ++ code' p.2 := by
  rintro ⟨a, a'⟩ ⟨b, b'⟩ rest rest' hab
  simp only [List.append_assoc] at hab
  obtain ⟨rfl, hab'⟩ := h _ _ _ _ hab
  obtain ⟨rfl, hrest⟩ := h' _ _ _ _ hab'
  exact ⟨rfl, hrest⟩

/-- A code of a value through another one that determines it. -/
theorem comp (h : SelfDelimiting code) {f : α' → α} (hf : Function.Injective f) :
    SelfDelimiting fun a => code (f a) := by
  intro a b rest rest' hab
  obtain ⟨heq, hrest⟩ := h _ _ _ _ hab
  exact ⟨hf heq, hrest⟩

/-- The values of a function at the keys of a list, each after a mark of its key. -/
theorem flatMap (h : SelfDelimiting code) (mark : κ → List β) (keys : List κ) (f g : κ → α)
    (rest rest' : List β)
    (hfg : keys.flatMap (fun k => mark k ++ code (f k)) ++ rest
      = keys.flatMap (fun k => mark k ++ code (g k)) ++ rest') :
    (∀ k ∈ keys, f k = g k) ∧ rest = rest' := by
  induction keys with
  | nil => exact ⟨by rintro _ ⟨⟩, hfg⟩
  | cons k keys ih =>
    simp only [List.flatMap_cons, List.append_assoc] at hfg
    obtain ⟨heq, htail⟩ := h _ _ _ _ (List.append_cancel_left hfg)
    obtain ⟨hkeys, hrest⟩ := ih htail
    exact ⟨List.forall_mem_cons.mpr ⟨heq, hkeys⟩, hrest⟩

end SelfDelimiting
