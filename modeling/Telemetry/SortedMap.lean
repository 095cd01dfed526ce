/-!
# Sorted maps

A finite map is the list of its entries in strictly increasing order of keys. The order is part of
the type, so two maps are equal as soon as they answer every look-up alike.

## Main definitions

- `KeyOrder` — `<` is a strict total order
- `SortedMap` — a strictly sorted list of entries
- `SortedMap.get?`, `SortedMap.insert`, `SortedMap.erase` — look-up, update and removal

## Main statements

- `SortedMap.get?_insert` — an update changes the answer for its own key and for no other
- `SortedMap.get?_erase` — a removal does the same with `none`
- `SortedMap.ext_get?` — a map is determined by its answers
-/

namespace Telemetry

-- ════════════════════════════════════════════════════════════════════════
-- Orders on keys
-- ════════════════════════════════════════════════════════════════════════

/-- The relation `<` is a strict total order. -/
class KeyOrder (κ : Type) [LT κ] : Prop where
  irrefl (a : κ) : ¬ a < a
  trans {a b c : κ} : a < b → b < c → a < c
  eq_of_not_lt {a b : κ} : ¬ a < b → ¬ b < a → a = b

namespace KeyOrder

theorem ne_of_lt {κ : Type} [LT κ] [KeyOrder κ] {a b : κ} (h : a < b) : a ≠ b := by
  rintro rfl
  exact irrefl a h

theorem not_lt_of_lt {κ : Type} [LT κ] [KeyOrder κ] {a b : κ} (h : a < b) : ¬ b < a :=
  fun h' => irrefl a (trans h h')

instance : KeyOrder Nat where
  irrefl := Nat.lt_irrefl
  trans := Nat.lt_trans
  eq_of_not_lt := by intros; omega

instance : KeyOrder Char where
  irrefl := Char.lt_irrefl
  trans := Char.lt_trans
  eq_of_not_lt h h' := Char.le_antisymm (Char.not_lt.1 h') (Char.not_lt.1 h)

instance {κ : Type} [LT κ] [KeyOrder κ] : KeyOrder (List κ) where
  irrefl := List.lex_irrefl irrefl
  trans h h' := List.lex_trans trans h h'
  eq_of_not_lt {as bs} h h' := by
    induction as generalizing bs with
    | nil =>
      cases bs with
      | nil => rfl
      | cons b bs => exact absurd (List.nil_lt_cons b bs) h
    | cons a as ih =>
      cases bs with
      | nil => exact absurd (List.nil_lt_cons a as) h'
      | cons b bs =>
        rw [List.cons_lt_cons_iff, not_or, not_and] at h h'
        have hab : a = b := eq_of_not_lt h.1 h'.1
        rw [hab, ih (h.2 hab) (h'.2 hab.symm)]

end KeyOrder

-- ════════════════════════════════════════════════════════════════════════
-- Maps
-- ════════════════════════════════════════════════════════════════════════

/-- The keys of a list of entries increase strictly. -/
def KeysIncrease {κ υ : Type} [LT κ] (entries : List (κ × υ)) : Prop :=
  entries.Pairwise fun a b => a.1 < b.1

/-- A finite map, as the list of its entries in strictly increasing order of keys. -/
structure SortedMap (κ υ : Type) [LT κ] where
  entries : List (κ × υ)
  sorted : KeysIncrease entries

namespace SortedMap

variable {κ υ : Type} [LT κ]

/-- The map without entries. -/
def empty : SortedMap κ υ where
  entries := []
  sorted := List.Pairwise.nil

instance : Inhabited (SortedMap κ υ) := ⟨empty⟩

/-- The entries in increasing order of keys. -/
def toList (m : SortedMap κ υ) : List (κ × υ) := m.entries

/-- Whether a map has no entry. -/
def isEmpty (m : SortedMap κ υ) : Bool := m.entries.isEmpty

variable [DecidableLT κ]

/-- The value beside a key in a sorted list of entries. -/
def find (k : κ) : List (κ × υ) → Option υ
  | [] => none
  | (k', v) :: rest => if k < k' then none else if k' < k then find k rest else some v

/-- A sorted list of entries with one of them added, or its value replaced. -/
def put (k : κ) (v : υ) : List (κ × υ) → List (κ × υ)
  | [] => [(k, v)]
  | (k', v') :: rest =>
    if k < k' then (k, v) :: (k', v') :: rest
    else if k' < k then (k', v') :: put k v rest
    else (k, v) :: rest

/-- A sorted list of entries without the one of a key. -/
def drop (k : κ) : List (κ × υ) → List (κ × υ)
  | [] => []
  | (k', v') :: rest =>
    if k < k' then (k', v') :: rest else if k' < k then (k', v') :: drop k rest else rest

/-- The value of a key. -/
def get? (m : SortedMap κ υ) (k : κ) : Option υ := find k m.entries

/-- Whether a key has a value. -/
def contains (m : SortedMap κ υ) (k : κ) : Bool := (m.get? k).isSome

@[simp] theorem get?_empty (k : κ) : (empty : SortedMap κ υ).get? k = none := rfl

theorem find_eq_none_of_lt [KeyOrder κ] {k : κ} {l : List (κ × υ)}
    (h : ∀ e ∈ l, k < e.1) : find k l = none := by
  cases l with
  | nil => rfl
  | cons e l => simp [find, h e (by simp)]

theorem mem_put {k : κ} {v : υ} {l : List (κ × υ)} {e : κ × υ} (h : e ∈ put k v l) :
    e = (k, v) ∨ e ∈ l := by
  induction l with
  | nil => simpa [put] using h
  | cons e' l ih =>
    simp only [put] at h
    split at h
    · simpa using h
    · split at h
      · rcases List.mem_cons.1 h with h | h
        · exact .inr (by simp [h])
        · exact (ih h).imp id (List.mem_cons_of_mem _)
      · exact (List.mem_cons.1 h).imp id (List.mem_cons_of_mem _)

theorem keysIncrease_put [KeyOrder κ] {k : κ} {v : υ} {l : List (κ × υ)} (h : KeysIncrease l) :
    KeysIncrease (put k v l) := by
  induction l with
  | nil => simp [put, KeysIncrease]
  | cons e l ih =>
    obtain ⟨he, hl⟩ := List.pairwise_cons.1 h
    simp only [put]
    split
    case isTrue hk =>
      refine List.pairwise_cons.2 ⟨fun e' he' => ?_, h⟩
      rcases List.mem_cons.1 he' with rfl | he'
      · exact hk
      · exact KeyOrder.trans hk (he e' he')
    case isFalse hk =>
      split
      case isTrue hk' =>
        refine List.pairwise_cons.2 ⟨fun e' he' => ?_, ih hl⟩
        rcases mem_put he' with rfl | he'
        · exact hk'
        · exact he e' he'
      case isFalse hk' =>
        obtain rfl := KeyOrder.eq_of_not_lt hk hk'
        exact List.pairwise_cons.2 ⟨he, hl⟩

theorem mem_drop {k : κ} {l : List (κ × υ)} {e : κ × υ} (h : e ∈ drop k l) : e ∈ l := by
  induction l with
  | nil => simp [drop] at h
  | cons e' l ih =>
    simp only [drop] at h
    split at h
    · exact h
    · split at h
      · rcases List.mem_cons.1 h with h | h
        · exact h ▸ List.mem_cons_self
        · exact List.mem_cons_of_mem _ (ih h)
      · exact List.mem_cons_of_mem _ h

theorem keysIncrease_drop {k : κ} {l : List (κ × υ)} (h : KeysIncrease l) :
    KeysIncrease (drop k l) := by
  induction l with
  | nil => exact List.Pairwise.nil
  | cons e l ih =>
    obtain ⟨he, hl⟩ := List.pairwise_cons.1 h
    simp only [drop]
    split
    · exact h
    · split
      · exact List.pairwise_cons.2 ⟨fun e' he' => he e' (mem_drop he'), ih hl⟩
      · exact hl

variable [KeyOrder κ]

/-- A map with an entry added, or its value replaced. -/
def insert (m : SortedMap κ υ) (k : κ) (v : υ) : SortedMap κ υ where
  entries := put k v m.entries
  sorted := keysIncrease_put m.sorted

/-- A map without the entry of a key. -/
def erase (m : SortedMap κ υ) (k : κ) : SortedMap κ υ where
  entries := drop k m.entries
  sorted := keysIncrease_drop m.sorted

/-- The map of a list of entries, of which later ones replace earlier ones with the same key. -/
def ofList (l : List (κ × υ)) : SortedMap κ υ :=
  l.foldl (fun m e => m.insert e.1 e.2) empty

theorem find_put (k k' : κ) (v : υ) {l : List (κ × υ)} (h : KeysIncrease l) :
    find k' (put k v l) = if k' < k ∨ k < k' then find k' l else some v := by
  induction l with
  | nil =>
    by_cases h₁ : k' < k <;> by_cases h₂ : k < k' <;> simp [put, find, h₁, h₂]
  | cons e l ih =>
    obtain ⟨he, hl⟩ := List.pairwise_cons.1 h
    obtain ⟨ke, ve⟩ := e
    simp only [put]
    split
    case isTrue hk =>
      by_cases h₁ : k' < k
      · have h₂ : k' < ke := KeyOrder.trans h₁ hk
        simp [find, h₁, h₂]
      · by_cases h₂ : k < k' <;> simp [find, h₁, h₂]
    case isFalse hk =>
      split
      case isTrue hk' =>
        by_cases h₁ : k' < ke
        · have h₂ : k' < k := KeyOrder.trans h₁ hk'
          simp [find, h₁, h₂]
        · by_cases h₂ : ke < k'
          · simp [find, h₁, h₂, ih hl]
          · obtain rfl := KeyOrder.eq_of_not_lt h₁ h₂
            simp [find, hk', KeyOrder.irrefl]
      case isFalse hk' =>
        obtain rfl := KeyOrder.eq_of_not_lt hk hk'
        by_cases h₁ : k' < k <;> by_cases h₂ : k < k' <;> simp [find, h₁, h₂]

/-- An update changes the answer for its own key and for no other. -/
theorem get?_insert [DecidableEq κ] (m : SortedMap κ υ) (k k' : κ) (v : υ) :
    (m.insert k v).get? k' = if k' = k then some v else m.get? k' := by
  rw [get?, insert, find_put k k' v m.sorted]
  by_cases h : k' = k
  · subst h
    simp [KeyOrder.irrefl]
  · have : k' < k ∨ k < k' :=
      Decidable.byContradiction fun hn =>
        h (KeyOrder.eq_of_not_lt (fun h' => hn (.inl h')) (fun h' => hn (.inr h')))
    simp [this, h, get?]

theorem find_drop (k k' : κ) {l : List (κ × υ)} (h : KeysIncrease l) :
    find k' (drop k l) = if k' < k ∨ k < k' then find k' l else none := by
  induction l with
  | nil => simp [drop, find]
  | cons e l ih =>
    obtain ⟨he, hl⟩ := List.pairwise_cons.1 h
    obtain ⟨ke, ve⟩ := e
    simp only [drop]
    split
    case isTrue hk =>
      split
      · rfl
      · rename_i hn
        have h₁ : ¬ k' < k := fun h => hn (.inl h)
        have h₂ : ¬ k < k' := fun h => hn (.inr h)
        obtain rfl := KeyOrder.eq_of_not_lt h₁ h₂
        simp [find, hk]
    case isFalse hk =>
      split
      case isTrue hk' =>
        by_cases h₁ : k' < ke
        · have h₂ : k' < k := KeyOrder.trans h₁ hk'
          simp [find, h₁, h₂]
        · by_cases h₂ : ke < k'
          · simp [find, h₁, h₂, ih hl]
          · obtain rfl := KeyOrder.eq_of_not_lt h₁ h₂
            simp [find, hk', KeyOrder.irrefl]
      case isFalse hk' =>
        obtain rfl := KeyOrder.eq_of_not_lt hk hk'
        split
        case isTrue hn =>
          rcases hn with hn | hn
          · have : find k' l = none :=
              find_eq_none_of_lt fun e h => KeyOrder.trans hn (he e h)
            simp [find, hn, this]
          · simp [find, hn, KeyOrder.not_lt_of_lt hn]
        case isFalse hn =>
          have h₁ : ¬ k' < k := fun h => hn (.inl h)
          have h₂ : ¬ k < k' := fun h => hn (.inr h)
          obtain rfl := KeyOrder.eq_of_not_lt h₁ h₂
          exact find_eq_none_of_lt he

/-- A removal makes its own key unknown and changes no other answer. -/
theorem get?_erase [DecidableEq κ] (m : SortedMap κ υ) (k k' : κ) :
    (m.erase k).get? k' = if k' = k then none else m.get? k' := by
  rw [get?, erase, find_drop k k' m.sorted]
  by_cases h : k' = k
  · subst h
    simp [KeyOrder.irrefl]
  · have : k' < k ∨ k < k' :=
      Decidable.byContradiction fun hn =>
        h (KeyOrder.eq_of_not_lt (fun h' => hn (.inl h')) (fun h' => hn (.inr h')))
    simp [this, h, get?]

theorem eq_of_find_eq {l l' : List (κ × υ)} (hl : KeysIncrease l) (hl' : KeysIncrease l')
    (h : ∀ k, find k l = find k l') : l = l' := by
  induction l generalizing l' with
  | nil =>
    cases l' with
    | nil => rfl
    | cons e l' => simpa [find, KeyOrder.irrefl] using h e.1
  | cons e l ih =>
    obtain ⟨he, htail⟩ := List.pairwise_cons.1 hl
    cases l' with
    | nil => simpa [find, KeyOrder.irrefl] using h e.1
    | cons e' l' =>
      obtain ⟨he', htail'⟩ := List.pairwise_cons.1 hl'
      obtain ⟨k, v⟩ := e
      obtain ⟨k', v'⟩ := e'
      have hk : k = k' := by
        refine KeyOrder.eq_of_not_lt (fun hlt => ?_) (fun hlt => ?_)
        · simpa [find, KeyOrder.irrefl, hlt] using h k
        · simpa [find, KeyOrder.irrefl, hlt] using h k'
      subst hk
      have hv : v = v' := by simpa [find, KeyOrder.irrefl] using h k
      subst hv
      rw [ih htail htail' fun q => ?_]
      by_cases h₁ : q < k
      · rw [find_eq_none_of_lt fun e h => KeyOrder.trans h₁ (he e h),
          find_eq_none_of_lt fun e h => KeyOrder.trans h₁ (he' e h)]
      · by_cases h₂ : k < q
        · simpa [find, h₁, h₂] using h q
        · obtain rfl := KeyOrder.eq_of_not_lt h₁ h₂
          rw [find_eq_none_of_lt he, find_eq_none_of_lt he']

/-- A map is determined by its answers. -/
theorem ext_get? {m m' : SortedMap κ υ} (h : ∀ k, m.get? k = m'.get? k) : m = m' := by
  obtain ⟨l, hl⟩ := m
  obtain ⟨l', hl'⟩ := m'
  obtain rfl : l = l' := eq_of_find_eq hl hl' h
  rfl

end SortedMap

end Telemetry
