import Mathlib.Data.List.Pairwise
import Mathlib.Order.Lattice
import Mathlib.Tactic.SplitIfs

/-!
# Maps of values that carry their keys

A map from keys to values of which each carries its own key, as the list of its values in the order
of the keys. The order is part of the map, so the values of a map are found, changed and written in
one order whatever the order was in which they were inserted, and a map is rebuilt from its values
(`ofList_values`).
-/

/-- A map of values with their keys. -/
@[ext]
structure KeyedMap {α κ : Type} [LT κ] (key : α → κ) where
  /-- The values, in the order of their keys. -/
  values : List α
  sorted : values.Pairwise fun a b => key a < key b

namespace KeyedMap

variable {α κ : Type} [LinearOrder κ] {key : α → κ}

instance [DecidableEq α] : DecidableEq (KeyedMap key) :=
  fun m n => decidable_of_iff (m.values = n.values) KeyedMap.ext_iff.symm

/-- The map without values. -/
def empty : KeyedMap key := ⟨[], .nil⟩

/-- The value of a key. -/
def get? (m : KeyedMap key) (k : κ) : Option α := m.values.find? fun a => key a = k

/-- Whether a key has a value. -/
def contains (m : KeyedMap key) (k : κ) : Bool := m.values.any fun a => key a = k

/-- A value among sorted values, in the place of the one with its key. -/
def insertInto (key : α → κ) (a : α) : List α → List α
  | [] => [a]
  | b :: bs =>
    if key a < key b then a :: b :: bs
    else if key a = key b then a :: bs
    else b :: insertInto key a bs

/-- What is among the values after an insertion. -/
theorem mem_insertInto {values : List α} (hsorted : values.Pairwise fun a b => key a < key b)
    {a b : α} : b ∈ insertInto key a values ↔ b = a ∨ (b ∈ values ∧ key b ≠ key a) := by
  induction values with
  | nil => simp [insertInto]
  | cons c cs ih =>
    obtain ⟨hc, hcs⟩ := List.pairwise_cons.mp hsorted
    unfold insertInto
    split_ifs with hlt heq
    · have hne : ∀ d ∈ c :: cs, key d ≠ key a := by
        intro d hd
        rcases List.mem_cons.mp hd with rfl | hd
        · exact ne_of_gt hlt
        · exact ne_of_gt (hlt.trans (hc d hd))
      rw [List.mem_cons]
      exact or_congr_right ⟨fun h => ⟨h, hne b h⟩, And.left⟩
    · have hne : ∀ d ∈ cs, key d ≠ key a := fun d hd => heq ▸ ne_of_gt (hc d hd)
      rw [List.mem_cons, List.mem_cons]
      apply or_congr_right
      constructor
      · exact fun h => ⟨.inr h, hne b h⟩
      · rintro ⟨rfl | h, hkey⟩
        · exact absurd heq.symm hkey
        · exact h
    · have hne : key c ≠ key a := Ne.symm heq
      rw [List.mem_cons, List.mem_cons, ih hcs]
      constructor
      · rintro (rfl | rfl | ⟨h, hkey⟩)
        · exact .inr ⟨.inl rfl, hne⟩
        · exact .inl rfl
        · exact .inr ⟨.inr h, hkey⟩
      · rintro (rfl | ⟨rfl | h, hkey⟩)
        · exact .inr (.inl rfl)
        · exact .inl rfl
        · exact .inr (.inr ⟨h, hkey⟩)

/-- An insertion keeps the order. -/
theorem insertInto_sorted {values : List α}
    (hsorted : values.Pairwise fun a b => key a < key b) (a : α) :
    (insertInto key a values).Pairwise fun a b => key a < key b := by
  induction values with
  | nil => exact List.pairwise_singleton _ a
  | cons c cs ih =>
    obtain ⟨hc, hcs⟩ := List.pairwise_cons.mp hsorted
    unfold insertInto
    split_ifs with hlt heq
    · refine List.pairwise_cons.mpr ⟨?_, hsorted⟩
      intro d hd
      rcases List.mem_cons.mp hd with rfl | hd
      · exact hlt
      · exact hlt.trans (hc d hd)
    · exact List.pairwise_cons.mpr ⟨fun d hd => heq ▸ hc d hd, hcs⟩
    · refine List.pairwise_cons.mpr ⟨?_, ih hcs⟩
      intro d hd
      rcases (mem_insertInto hcs).mp hd with rfl | ⟨hd, -⟩
      · exact lt_of_le_of_ne (not_lt.mp hlt) (Ne.symm heq)
      · exact hc d hd

/-- The map with a value, in the place of the one with its key. -/
def insert (m : KeyedMap key) (a : α) : KeyedMap key :=
  ⟨insertInto key a m.values, insertInto_sorted m.sorted a⟩

/-- Changing values keeps the order, where it keeps their keys. -/
theorem map_sorted {values : List α} (hsorted : values.Pairwise fun a b => key a < key b)
    {f : α → α} (hf : ∀ a, key (f a) = key a) :
    (values.map f).Pairwise fun a b => key a < key b := by
  rw [List.pairwise_map]
  refine hsorted.imp ?_
  intro a b h
  rwa [hf, hf]

/-- The map with each value changed, but not its key. -/
def map (m : KeyedMap key) (f : α → α) (hf : ∀ a, key (f a) = key a) : KeyedMap key :=
  ⟨m.values.map f, map_sorted m.sorted hf⟩

/-- The map of the values of a list, of which the last one with a key is kept. -/
def ofList (values : List α) : KeyedMap key := values.foldl insert empty

/-! ## What is in a map -/

variable {m : KeyedMap key} {a b : α} {k : κ}

/-- What an insertion leaves. -/
theorem mem_insert : b ∈ (m.insert a).values ↔ b = a ∨ (b ∈ m.values ∧ key b ≠ key a) :=
  mem_insertInto m.sorted

/-- What is in a changed map. -/
theorem mem_map {f : α → α} {hf : ∀ a, key (f a) = key a} :
    b ∈ (m.map f hf).values ↔ ∃ a ∈ m.values, f a = b :=
  List.mem_map

/-- A key has a value. -/
theorem contains_iff : m.contains k = true ↔ ∃ a ∈ m.values, key a = k := by
  unfold contains
  simp

/-- A key has no value. -/
theorem contains_eq_false : m.contains k = false ↔ ∀ a ∈ m.values, key a ≠ k := by
  unfold contains
  simp

/-- A key is a value's only once. -/
theorem eq_of_key_eq (ha : a ∈ m.values) (hb : b ∈ m.values) (h : key a = key b) : a = b := by
  have hsymm : Std.Symm fun a b : α => key a ≠ key b := ⟨fun _ _ h => h.symm⟩
  have hkeys : m.values.Pairwise fun a b => key a ≠ key b := m.sorted.imp ne_of_lt
  by_contra hne
  exact hkeys.forall ha hb hne h

/-- The value of a key is the one with this key. -/
theorem get?_eq_some : m.get? k = some a ↔ a ∈ m.values ∧ key a = k := by
  unfold get?
  constructor
  · intro h
    exact ⟨List.mem_of_find?_eq_some h, by simpa using List.find?_some h⟩
  · rintro ⟨ha, rfl⟩
    cases h : m.values.find? fun b => key b = key a with
    | none => simpa using List.find?_eq_none.mp h a ha
    | some b =>
      have hb : key b = key a := by simpa using List.find?_some h
      rw [eq_of_key_eq (List.mem_of_find?_eq_some h) ha hb]

/-- A key without a value. -/
theorem get?_eq_none : m.get? k = none ↔ ∀ a ∈ m.values, key a ≠ k := by
  unfold get?
  simp

/-- Maps with the same values are the same. -/
theorem ext_mem {n : KeyedMap key} (h : ∀ a, a ∈ m.values ↔ a ∈ n.values) : m = n := by
  have hanti : ∀ a b, a ∈ m.values → b ∈ n.values → key a < key b → key b < key a → a = b :=
    fun a b _ _ hab hba => absurd hab hba.not_gt
  have hnodup : ∀ n : KeyedMap key, n.values.Nodup := fun n =>
    n.sorted.imp fun hlt heq => absurd (congrArg key heq) (ne_of_lt hlt)
  have hperm : m.values.Perm n.values :=
    (List.perm_ext_iff_of_nodup (hnodup m) (hnodup n)).mpr h
  exact KeyedMap.ext (hperm.eq_of_pairwise hanti m.sorted n.sorted)

/-! ## Replacing a value -/

/-- A value, or the one that takes its place. -/
def replace (key : α → κ) (a b : α) : α := if key b = key a then a else b

/-- A value that takes another's place has its key. -/
theorem key_replace (a b : α) : key (replace key a b) = key b := by
  unfold replace
  split_ifs with h
  · exact h.symm
  · rfl

/-- An insertion under a key that has a value replaces it. -/
theorem insert_eq_map (h : b ∈ m.values) (hkey : key a = key b) :
    m.insert a = m.map (replace key a) (key_replace a) := by
  apply ext_mem
  intro c
  rw [mem_insert, mem_map]
  constructor
  · rintro (rfl | ⟨hc, hne⟩)
    · exact ⟨b, h, if_pos hkey.symm⟩
    · exact ⟨c, hc, if_neg hne⟩
  · rintro ⟨d, hd, rfl⟩
    unfold replace
    split_ifs with heq
    · exact .inl rfl
    · exact .inr ⟨hd, heq⟩

/-- Values are changed one after the other. -/
theorem map_map {f g : α → α} {hf : ∀ a, key (f a) = key a} {hg : ∀ a, key (g a) = key a} :
    (m.map f hf).map g hg = m.map (g ∘ f) fun a => (hg (f a)).trans (hf a) :=
  KeyedMap.ext (List.map_map ..)

/-- What changes no value changes no map. -/
theorem map_eq_self {f : α → α} {hf : ∀ a, key (f a) = key a} (h : ∀ a ∈ m.values, f a = a) :
    m.map f hf = m :=
  KeyedMap.ext ((List.map_congr_left h).trans (List.map_id _))

/-- Changes that agree on the values are the same. -/
theorem map_congr {f g : α → α} {hf : ∀ a, key (f a) = key a} {hg : ∀ a, key (g a) = key a}
    (h : ∀ a ∈ m.values, f a = g a) : m.map f hf = m.map g hg :=
  KeyedMap.ext (List.map_congr_left h)

/-! ## Rebuilding a map -/

/-- A value behind all others is inserted at the end. -/
theorem insertInto_last {values : List α} (h : ∀ b ∈ values, key b < key a) :
    insertInto key a values = values ++ [a] := by
  induction values with
  | nil => rfl
  | cons b bs ih =>
    obtain ⟨hb, hbs⟩ := List.forall_mem_cons.mp h
    rw [insertInto, if_neg hb.not_gt, if_neg (ne_of_gt hb), ih hbs]
    rfl

/-- Values behind those of a map are inserted at its end. -/
theorem values_foldl_insert {values : List α}
    (h : (m.values ++ values).Pairwise fun a b => key a < key b) :
    (values.foldl insert m).values = m.values ++ values := by
  induction values generalizing m with
  | nil => exact (List.append_nil _).symm
  | cons a as ih =>
    have hlast : ∀ b ∈ m.values, key b < key a := fun b hb =>
      (List.pairwise_append.mp h).2.2 b hb a List.mem_cons_self
    have hinsert : (m.insert a).values = m.values ++ [a] := insertInto_last hlast
    have hstep : (m.insert a).values ++ as = m.values ++ a :: as := by
      rw [hinsert, List.append_assoc]
      rfl
    calc (as.foldl insert (m.insert a)).values
        = (m.insert a).values ++ as := ih (hstep ▸ h)
      _ = m.values ++ a :: as := hstep

/-- A map is rebuilt from its values. -/
theorem ofList_values (m : KeyedMap key) : ofList m.values = m :=
  KeyedMap.ext (values_foldl_insert (m := empty) m.sorted)

end KeyedMap
