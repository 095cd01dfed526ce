import Mathlib.Tactic.Ring
import Telemetry.Proofs.Namespace.Shape

/-!
# Positions of components

The index of a positional placeholder denotes one of the components of a path, from the start or,
below zero, from the end. Both ways lead to the same components, and the components from the first
to the last make the path again, empty ones too.

The position can be computed with words of 64 bits. Only a negative index is added to the number of
components, so the sum stays within a word for every index down to the least one, and what passes
the comparison with the number of components is the position of one. All of this needs no more than
that the number of components is itself a word; the greatest index shows that it needs no less.

## Main definitions

- `DenotesPosition` — an index denotes a position
- `Consecutive` — indexes that count up by one
- `Placeholder.select` — what a placeholder with a given index resolves to
- `Word.Fault`, `Word.sum`, `Word.access` — operations on words, which may break off
- `Placeholder.selectByWords` — a selection that is computed with words

## Main statements

- `component?_of_denotesPosition` — the component at an index is the one at its position
- `Placeholder.map_select` — the components in order
- `Placeholder.selectByWords_eq`, `Placeholder.componentCount_lt_of_selectByWords` — when words
  suffice
- `Placeholder.select_positions` — which components the indexes select, for every path
-/

namespace Telemetry

variable {n position : Nat} {index : Int64} {indexes : List Int64} {first : Int}

-- ════════════════════════════════════════════════════════════════════════
-- Positions
-- ════════════════════════════════════════════════════════════════════════

/-- An index denotes a position among `n` components: it is that position, or that position less the
    number of components. -/
def DenotesPosition (n : Nat) (index : Int64) (position : Nat) : Prop :=
  position < n ∧ (index.toInt = position ∨ index.toInt = position - n)

/-- Indexes count up by one, `n` of them from a first one on. -/
def Consecutive (first : Int) (n : Nat) (indexes : List Int64) : Prop :=
  indexes.map Int64.toInt = (List.range n).map fun position : Nat => first + position

theorem IsIndexOf.exists_denotesPosition (h : IsIndexOf n index) :
    ∃ position, DenotesPosition n index position := by
  obtain ⟨hlow, hhigh⟩ := h
  by_cases hneg : index.toInt < 0
  · exact ⟨(n + index.toInt).toNat, by omega, .inr (by omega)⟩
  · exact ⟨index.toInt.toNat, by omega, .inl (by omega)⟩

/-- The component at an index is the one at the position that the index denotes. -/
theorem component?_of_denotesPosition {components : List Text}
    (h : DenotesPosition components.length index position) :
    component? components index = components[position]? := by
  obtain ⟨hlt, hindex⟩ := h
  have hposition : (if index.toInt < 0 then components.length + index.toInt else index.toInt) =
      Int.ofNat position := by
    rw [Int.ofNat_eq_natCast]
    split <;> omega
  simp only [component?, hposition]

/-- There are consecutive indexes wherever all of them are words. -/
theorem exists_consecutive (hlow : -2 ^ 63 ≤ first) (hhigh : first + n ≤ 2 ^ 63) :
    ∃ indexes, Consecutive first n indexes := by
  refine ⟨(List.range n).map fun position : Nat => .ofInt (first + position), ?_⟩
  rw [Consecutive, List.map_map]
  refine List.map_congr_left fun position hposition => ?_
  have hlt := List.mem_range.mp hposition
  exact Int64.toInt_ofInt_of_le (by omega) (by omega)

/-- Consecutive indexes that start with zero, or with the least one that leads to a component,
    denote the positions one after the other. -/
theorem Consecutive.forall₂_denotesPosition (h : Consecutive first n indexes)
    (hfirst : first = 0 ∨ first = -n) :
    List.Forall₂ (DenotesPosition n) indexes (List.range n) := by
  have hlength : indexes.length = n := by simpa using congrArg List.length h
  refine List.forall₂_iff_get.mpr ⟨by rw [hlength, List.length_range], fun k hk hk' => ?_⟩
  have hlt : k < n := hlength ▸ hk
  have hindex : indexes[k].toInt = first + k := by
    have hget := List.getElem_of_eq h (i := k) (by rwa [List.length_map])
    rwa [List.getElem_map, List.getElem_map, List.getElem_range] at hget
  simp only [List.get_eq_getElem, List.getElem_range]
  refine ⟨hlt, ?_⟩
  omega

-- ════════════════════════════════════════════════════════════════════════
-- Selected components
-- ════════════════════════════════════════════════════════════════════════

namespace Placeholder

variable {d : Placeholder} {path : Text} {context : Context}

/-- What a placeholder resolves to with a given index as its directive. -/
def select (d : Placeholder) (path : Text) (context : Context) (index : Int64) :
    Except BindError Text :=
  resolve { d with directive := .path index } path context

/-- The number of components of a path. -/
def componentCount (path : Text) : Nat :=
  (Text.splitChar '/' path).length

theorem componentCount_pos (path : Text) : 0 < componentCount path :=
  List.length_pos_iff.mpr (Text.splitWhere_ne_nil _ path)

theorem select_of_denotesPosition (d : Placeholder) (context : Context)
    (h : DenotesPosition (componentCount path) index position) :
    ∃ component, (Text.splitChar '/' path)[position]? = some component ∧
      d.select path context index = .ok component := by
  have hcomponent := List.getElem?_eq_getElem h.1
  refine ⟨_, hcomponent, ?_⟩
  simp only [select, resolve, component?_of_denotesPosition h, hcomponent]

theorem select_of_isIndexOf (d : Placeholder) (context : Context)
    (h : IsIndexOf (componentCount path) index) :
    ∃ component, d.select path context index = .ok component :=
  HasValue.exists_resolve (.component rfl h)

theorem select_of_not_isIndexOf (h : ¬ IsIndexOf (componentCount path) index) :
    d.select path context index = .error (.indexOutOfBounds index path) :=
  LacksValue.resolve_eq (.component rfl h)

/-- Two indexes of one position select the same component. -/
theorem select_eq_select {index' : Int64} (d : Placeholder) (context : Context)
    (h : DenotesPosition (componentCount path) index position)
    (h' : DenotesPosition (componentCount path) index' position) :
    d.select path context index = d.select path context index' := by
  obtain ⟨component, hcomponent, hselect⟩ := select_of_denotesPosition d context h
  obtain ⟨component', hcomponent', hselect'⟩ := select_of_denotesPosition d context h'
  obtain rfl : component = component' := Option.some.inj (hcomponent.symm.trans hcomponent')
  rw [hselect, hselect']

/-- Indexes of all positions in order select all components in order. -/
theorem map_select
    (h : List.Forall₂ (DenotesPosition (componentCount path)) indexes
      (List.range (componentCount path))) :
    indexes.map (d.select path context) = (Text.splitChar '/' path).map .ok := by
  have hlength : indexes.length = componentCount path := by rw [h.length_eq, List.length_range]
  refine List.ext_getElem (by rw [List.length_map, List.length_map, hlength, componentCount]) ?_
  intro k hk hk'
  rw [List.length_map] at hk hk'
  have hdenotes : DenotesPosition (componentCount path) indexes[k] k := by
    simpa using h.get hk (by rwa [List.length_range])
  obtain ⟨component, hcomponent, hselect⟩ := select_of_denotesPosition d context hdenotes
  rw [List.getElem?_eq_getElem hk', Option.some.injEq] at hcomponent
  rw [List.getElem_map, List.getElem_map, hselect, hcomponent]

end Placeholder

-- ════════════════════════════════════════════════════════════════════════
-- Words
-- ════════════════════════════════════════════════════════════════════════

namespace Word

/-- The ways in which a computation with words breaks off. -/
inductive Fault
  | overflow
  | outOfRange
  deriving DecidableEq

/-- The sum of two words, if it is a word. -/
def sum (a b : Int64) : Except Fault Int64 :=
  if BitVec.saddOverflow a.toBitVec b.toBitVec then .error .overflow else .ok (a + b)

/-- The position of an index among a number of components. -/
def positionOf (number index : Int64) : Except Fault Int64 :=
  if index < 0 then sum number index else .ok index

/-- The component at a position, which is read as a number without sign. -/
def access (components : List Text) (position : Int64) : Except Fault Text :=
  match components[position.toUInt64.toNat]? with
  | some component => .ok component
  | none => .error .outOfRange

theorem sum_eq_ok {a b : Int64} (hlow : -2 ^ 63 ≤ a.toInt + b.toInt)
    (hhigh : a.toInt + b.toInt < 2 ^ 63) :
    sum a b = .ok (a + b) ∧ (a + b).toInt = a.toInt + b.toInt := by
  have hfits : ¬ BitVec.saddOverflow a.toBitVec b.toBitVec := by
    simp only [BitVec.saddOverflow, Int64.toInt_toBitVec, Bool.or_eq_true, decide_eq_true_eq]
    omega
  exact ⟨if_neg hfits, BitVec.toInt_add_of_not_saddOverflow hfits⟩

/-- Whatever the index, its position is a word. -/
theorem exists_positionOf {number : Int64} (index : Int64) (h : 0 ≤ number.toInt) :
    ∃ word, positionOf number index = .ok word ∧
      word.toInt = if index.toInt < 0 then number.toInt + index.toInt else index.toInt := by
  have hsign : index < 0 ↔ index.toInt < 0 := Int64.lt_iff_toInt_lt
  unfold positionOf
  by_cases hneg : index.toInt < 0
  · have hnumber := number.toInt_lt
    have hindex := index.minValue_le_toInt
    rw [Int64.toInt_minValue] at hindex
    obtain ⟨hsum, hvalue⟩ := sum_eq_ok (a := number) (b := index) (by omega) (by omega)
    rw [if_pos (hsign.mpr hneg), if_pos hneg]
    exact ⟨_, hsum, hvalue⟩
  · rw [if_neg (mt hsign.mp hneg), if_neg hneg]
    exact ⟨index, rfl, rfl⟩

/-- A word that is not negative is the same number without sign. -/
theorem toNat_toUInt64 {word : Int64} (h : 0 ≤ word.toInt) :
    (word.toUInt64.toNat : Int) = word.toInt := by
  have hsign : word.toBitVec.msb = false := by
    rw [BitVec.msb_eq_toInt, decide_eq_false_iff_not, Int64.toInt_toBitVec]
    omega
  exact (BitVec.toInt_eq_toNat_of_msb hsign).symm

end Word

namespace Placeholder

variable {d : Placeholder} {path : Text} {context : Context}

/-- What a placeholder with a given index resolves to, computed with words: the number of components
    is a word, the index is added to it if it is negative, and the component is accessed if its
    position is at least zero and less than the number. -/
def selectByWords (path : Text) (index : Int64) : Except Word.Fault (Except BindError Text) :=
  let number := Int64.ofNat (componentCount path)
  match Word.positionOf number index with
  | .error fault => .error fault
  | .ok position =>
    if position < 0 ∨ number ≤ position then .ok (.error (.indexOutOfBounds index path))
    else (Word.access (Text.splitChar '/' path) position).map .ok

/-- With words nothing breaks off and the same is selected, if the number of components is a
    word. -/
theorem selectByWords_eq (h : componentCount path < 2 ^ 63) (index : Int64) :
    selectByWords path index = .ok (d.select path context index) := by
  have hnumber : (Int64.ofNat (componentCount path)).toInt = componentCount path :=
    Int64.toInt_ofNat_of_lt h
  have hzero : 0 ≤ (Int64.ofNat (componentCount path)).toInt := by omega
  obtain ⟨word, hword, hvalue⟩ := Word.exists_positionOf index hzero
  have hguard : (word < 0 ∨ Int64.ofNat (componentCount path) ≤ word) ↔
      word.toInt < 0 ∨ (componentCount path : Int) ≤ word.toInt := by
    rw [Int64.lt_iff_toInt_lt, Int64.le_iff_toInt_le, hnumber]
    rfl
  rw [hnumber] at hvalue
  simp only [selectByWords, hword, hguard]
  by_cases hindex : IsIndexOf (componentCount path) index
  · -- The word that was computed is the position that the index denotes, with or without sign.
    obtain ⟨position, hdenotes⟩ := hindex.exists_denotesPosition
    have hlt := hdenotes.1
    have hposition : word.toInt = position := by
      have hdenoted := hdenotes.2
      rw [hvalue]
      split <;> omega
    have hunsigned : word.toUInt64.toNat = position := by
      have hnat : (word.toUInt64.toNat : Int) = word.toInt := Word.toNat_toUInt64 (by omega)
      omega
    obtain ⟨component, hcomponent, hselect⟩ := select_of_denotesPosition d context hdenotes
    rw [if_neg (by omega), Word.access, hunsigned, hcomponent, hselect]
    rfl
  · have houtside : word.toInt < 0 ∨ (componentCount path : Int) ≤ word.toInt := by
      unfold IsIndexOf at hindex
      rw [hvalue]
      split <;> omega
    rw [if_pos houtside, select_of_not_isIndexOf hindex]

/-- With more components than a word can count words go wrong: no word is greater than the greatest
    index, although it is that of a component. -/
theorem componentCount_lt_of_selectByWords
    (h : selectByWords path Int64.maxValue = .ok (d.select path context Int64.maxValue)) :
    componentCount path < 2 ^ 63 := by
  refine Nat.lt_of_not_le fun hlarge => ?_
  have hmax : Int64.maxValue.toInt = 2 ^ 63 - 1 := Int64.toInt_maxValue
  have hindex : IsIndexOf (componentCount path) Int64.maxValue := by
    unfold IsIndexOf
    omega
  obtain ⟨component, hselect⟩ := select_of_isIndexOf d context hindex
  have hposition : ∀ number, Word.positionOf number Int64.maxValue = .ok Int64.maxValue :=
    fun _ => rfl
  rw [hselect, selectByWords] at h
  simp only [hposition, Int64.le_maxValue, or_true, if_true] at h
  cases h

-- ════════════════════════════════════════════════════════════════════════
-- All indexes of all paths
-- ════════════════════════════════════════════════════════════════════════

/-- A path has at least one component. An index selects one exactly if it is at least the negative
    number of components and less than the number itself; any other index is reported. An index that
    counts from the start and the one that counts from the end to the same component select the
    same, and the components selected from the first to the last, in either way, make the path again
    when they are joined. Computed with words, the sum never overflows, the access is never out of
    range and the result is the same, exactly for the paths whose number of components is a word. -/
theorem select_positions (d : Placeholder) (path : Text) (context : Context) :
    0 < componentCount path ∧
    (∀ index, (∃ component, d.select path context index = .ok component) ↔
      -(componentCount path : Int) ≤ index.toInt ∧ index.toInt < componentCount path) ∧
    (∀ index : Int64,
      index.toInt < -(componentCount path : Int) ∨ (componentCount path : Int) ≤ index.toInt →
      d.select path context index = .error (.indexOutOfBounds index path)) ∧
    (∀ i j : Int64, 0 ≤ i.toInt → i.toInt < componentCount path →
      j.toInt = i.toInt - componentCount path →
        d.select path context i = d.select path context j) ∧
    (∀ first : Int, first = 0 ∨ first = -(componentCount path : Int) →
      (componentCount path ≤ 2 ^ 63 → ∃ indexes, Consecutive first (componentCount path) indexes) ∧
      ∀ indexes, Consecutive first (componentCount path) indexes →
        ∃ components, indexes.map (d.select path context) = components.map .ok ∧
          Text.join ['/'] components = path) ∧
    ((∀ index, selectByWords path index = .ok (d.select path context index)) ↔
      componentCount path < 2 ^ 63) := by
  refine ⟨componentCount_pos path, fun index => ⟨?_, select_of_isIndexOf d context⟩,
    fun index houtside => ?_,
    fun i j hzero hlt hj => ?_, fun first hfirst => ⟨fun hcount => ?_, fun indexes h => ?_⟩,
    fun h => componentCount_lt_of_selectByWords (h _), selectByWords_eq⟩
  · rintro ⟨component, hselect⟩
    by_contra houtside
    cases hselect.symm.trans (select_of_not_isIndexOf houtside)
  · refine select_of_not_isIndexOf ?_
    unfold IsIndexOf
    omega
  · have hi : DenotesPosition (componentCount path) i i.toInt.toNat := ⟨by omega, .inl (by omega)⟩
    have hj' : DenotesPosition (componentCount path) j i.toInt.toNat := ⟨by omega, .inr (by omega)⟩
    exact select_eq_select d context hi hj'
  · exact exists_consecutive (by omega) (by omega)
  · exact ⟨_, map_select (h.forall₂_denotesPosition hfirst), Text.join_splitChar '/' path⟩

/-- Empty components at both ends of a path, selected from the start and from the end; the least
    index that can be written leads to none of them. -/
theorem select_positions_least_index :
    let d : Placeholder := ⟨['f'], "f:path:-9223372036854775808".toList, .path Int64.minValue⟩
    let path := "/a//".toList
    let context : Context := fun _ => none
    parse [] d.description = .ok d ∧ componentCount path = 4 ∧
      d.select path context Int64.minValue = .error (.indexOutOfBounds Int64.minValue path) ∧
      selectByWords path Int64.minValue = .ok (d.select path context Int64.minValue) ∧
      d.select path context 1 = d.select path context (-3) ∧
      Consecutive 0 (componentCount path) [0, 1, 2, 3] ∧
      (∃ components, [0, 1, 2, 3].map (d.select path context) = components.map .ok ∧
        Text.join ['/'] components = path) ∧
      Consecutive (-4) (componentCount path) [-4, -3, -2, -1] ∧
      ∃ components, [-4, -3, -2, -1].map (d.select path context) = components.map .ok ∧
        Text.join ['/'] components = path := by
  intro d path context
  obtain ⟨-, -, houtside, hsame, hjoined, hwords⟩ := select_positions d path context
  have hfront : Consecutive 0 (componentCount path) [0, 1, 2, 3] := by
    unfold Consecutive
    decide
  have hback : Consecutive (-4) (componentCount path) [-4, -3, -2, -1] := by
    unfold Consecutive
    decide
  exact ⟨rfl, rfl, houtside _ (.inl (by decide)), hwords.mpr (by decide) _,
    hsame 1 (-3) (by decide) (by decide) (by decide), hfront, (hjoined 0 (.inl rfl)).2 _ hfront,
    hback, (hjoined (-4) (.inr (by decide))).2 _ hback⟩

end Placeholder

end Telemetry
