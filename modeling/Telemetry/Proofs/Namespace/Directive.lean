import Telemetry.Namespace.Pattern
import Telemetry.Proofs.Text.Splitting

/-!
# The grammar of directives

The text between the braces of a placeholder is positional if it has exactly three pieces between
its colons and the middle one is the word `path`. Its last piece then has to denote an index: an
optional sign and digits, for a number of 64 bits. Any other text names a variable.

Reading looks for the mark `:path:` first and compares the pieces only afterwards. That both ways
agree is what `positional?_eq_some_iff` says.

## Main definitions

- `DenotesIndex` — a text denotes a path index
- `IsPositional` — a directive has the pieces of a positional one
- `Placeholder.SpelledBy`, `Placeholder.Refused` — what a directive means, and why it has no meaning

## Main statements

- `readIndex?_eq_some_iff` — reading an index finds exactly what the text denotes
- `positional?_eq_some_iff` — looking for the mark agrees with comparing the pieces
- `Placeholder.parse_iff` — the placeholder of a directive, or the error with which it is refused
-/

namespace Telemetry

/-- A result is settled by what it has to be in each of two kinds of cases, if there are no others:
    it is in a case of one kind only if it is as that kind says. -/
theorem ok_iff_and_error_iff_of_settled {ε α : Type} {result : Except ε α} {P : α → Prop}
    {Q : ε → Prop} (ok : ∀ a, P a → result = .ok a) (error : ∀ e, Q e → result = .error e)
    (settled : (∃ a, P a) ∨ ∃ e, Q e) :
    (∀ a, result = .ok a ↔ P a) ∧ ∀ e, result = .error e ↔ Q e := by
  obtain ⟨a, ha⟩ | ⟨e, he⟩ := settled
  · have hresult := ok a ha
    refine ⟨fun a' => ⟨fun h => ?_, ok a'⟩, fun e => ⟨fun h => ?_, error e⟩⟩
    · cases hresult.symm.trans h
      exact ha
    · cases hresult.symm.trans h
  · have hresult := error e he
    refine ⟨fun a => ⟨fun h => ?_, ok a⟩, fun e' => ⟨fun h => ?_, error e'⟩⟩
    · cases hresult.symm.trans h
    · cases hresult.symm.trans h
      exact he

-- ════════════════════════════════════════════════════════════════════════
-- Indexes
-- ════════════════════════════════════════════════════════════════════════

/-- A text denotes an index: it is a non-empty run of digits, with or without a sign before it, and
    the index has their value. -/
def DenotesIndex (t : Text) (index : Int64) : Prop :=
  ∃ digits : Text, digits ≠ [] ∧ (∀ c ∈ digits, c.isDigit) ∧
    ((t = digits ∨ t = '+' :: digits) ∧ index.toInt = Decimal.natural digits ∨
      t = '-' :: digits ∧ index.toInt = -Decimal.natural digits)

/-- Digits have no sign to take off. -/
theorem Decimal.takeSign_of_digits {digits : Text} (all : ∀ c ∈ digits, c.isDigit) :
    takeSign digits = (false, digits) := by
  unfold takeSign
  split
  · exact absurd (all '-' List.mem_cons_self) (by decide)
  · exact absurd (all '+' List.mem_cons_self) (by decide)
  · rfl

/-- Taking the sign off a text leaves digits exactly if the text is digits behind that sign. -/
theorem Decimal.takeSign_eq_iff {t digits : Text} {negative : Bool}
    (all : ∀ c ∈ digits, c.isDigit) :
    takeSign t = (negative, digits) ↔
      negative = false ∧ (t = digits ∨ t = '+' :: digits) ∨
        negative = true ∧ t = '-' :: digits := by
  constructor
  · intro h
    unfold takeSign at h
    split at h
    · cases h
      exact .inr ⟨rfl, rfl⟩
    · cases h
      exact .inl ⟨rfl, .inr rfl⟩
    · cases h
      exact .inl ⟨rfl, .inl rfl⟩
  · rintro (⟨rfl, rfl | rfl⟩ | ⟨rfl, rfl⟩)
    · exact takeSign_of_digits all
    · rfl
    · rfl

/-- A number is the value of an index exactly if it is within 64 bits. -/
theorem inRange_and_ofInt_eq_iff {n : Int} {index : Int64} :
    ((Int64.minValue.toInt ≤ n ∧ n ≤ Int64.maxValue.toInt) ∧ Int64.ofInt n = index) ↔
      index.toInt = n := by
  constructor
  · rintro ⟨⟨low, high⟩, rfl⟩
    have hmin : Int64.minValue.toInt = -2 ^ 63 := by decide
    have hmax : Int64.maxValue.toInt = 2 ^ 63 - 1 := by decide
    exact Int64.toInt_ofInt_of_le (by omega) (by omega)
  · rintro rfl
    exact ⟨⟨index.minValue_le_toInt, index.toInt_le⟩, index.ofInt_toInt⟩

/-- What reading an index does once the sign is off. -/
theorem readIndex?_eq_some_iff_of_takeSign {t digits : Text} {negative : Bool} {index : Int64}
    (sign : Decimal.takeSign t = (negative, digits)) :
    readIndex? t = some index ↔
      digits ≠ [] ∧ (∀ c ∈ digits, c.isDigit) ∧
        index.toInt =
          if negative then -(Decimal.natural digits : Int) else Decimal.natural digits := by
  simp only [readIndex?, sign]
  by_cases hds : digits ≠ [] ∧ ∀ c ∈ digits, c.isDigit
  · have hguard : (digits.isEmpty || !digits.all Char.isDigit) = false := by simpa using hds
    simp only [hguard, Bool.false_eq_true, ↓reduceIte, Option.ite_none_right_eq_some,
      Option.some.injEq]
    rw [inRange_and_ofInt_eq_iff]
    exact ⟨fun h => ⟨hds.1, hds.2, h⟩, fun h => h.2.2⟩
  · have hguard : (digits.isEmpty || !digits.all Char.isDigit) = true :=
      Bool.of_not_eq_false fun h => hds (by simpa using h)
    simp only [hguard, ↓reduceIte, reduceCtorEq, false_iff]
    exact fun h => hds ⟨h.1, h.2.1⟩

/-- Reading an index finds it exactly if the text denotes it. -/
theorem readIndex?_eq_some_iff {t : Text} {index : Int64} :
    readIndex? t = some index ↔ DenotesIndex t index := by
  constructor
  · intro h
    cases hsign : Decimal.takeSign t with
    | mk negative digits =>
      obtain ⟨ne, all, value⟩ := (readIndex?_eq_some_iff_of_takeSign hsign).mp h
      refine ⟨digits, ne, all, ?_⟩
      obtain ⟨rfl, ht⟩ | ⟨rfl, ht⟩ := (Decimal.takeSign_eq_iff all).mp hsign
      · exact .inl ⟨ht, value⟩
      · exact .inr ⟨ht, value⟩
  · rintro ⟨digits, ne, all, ⟨ht, value⟩ | ⟨ht, value⟩⟩
    · have hsign := (Decimal.takeSign_eq_iff all).mpr (.inl ⟨rfl, ht⟩)
      exact (readIndex?_eq_some_iff_of_takeSign hsign).mpr ⟨ne, all, value⟩
    · have hsign := (Decimal.takeSign_eq_iff all).mpr (.inr ⟨rfl, ht⟩)
      exact (readIndex?_eq_some_iff_of_takeSign hsign).mpr ⟨ne, all, value⟩

/-- There is no colon in an index. -/
theorem DenotesIndex.colon_not_mem {t : Text} {index : Int64} (h : DenotesIndex t index) :
    ':' ∉ t := by
  obtain ⟨digits, -, all, h⟩ := h
  have hdigits : ':' ∉ digits := fun hmem => absurd (all ':' hmem) (by decide)
  obtain ⟨rfl | rfl, -⟩ | ⟨rfl, -⟩ := h
  · exact hdigits
  · exact List.not_mem_cons_of_ne_of_not_mem (by decide) hdigits
  · exact List.not_mem_cons_of_ne_of_not_mem (by decide) hdigits

-- ════════════════════════════════════════════════════════════════════════
-- Positional directives
-- ════════════════════════════════════════════════════════════════════════

/-- A directive has the three pieces of a positional one, the last of which is to be its index. -/
def IsPositional (description index : Text) : Prop :=
  ∃ name, Text.splitChar ':' description = [name, pathWord, index]

theorem looksPositional_iff {description : Text} :
    looksPositional description ↔ ∃ index, IsPositional description index := by
  unfold looksPositional IsPositional
  constructor
  · intro h
    split at h
    · rename_i name word index hsplit
      obtain rfl : word = pathWord := by simpa using h
      exact ⟨index, name, hsplit⟩
    · cases h
  · rintro ⟨index, name, hsplit⟩
    simp [hsplit]

theorem bne_colon_of_not_mem {name : Text} (free : ':' ∉ name) : ∀ c ∈ name, (c != ':') = true :=
  fun _ hc => bne_iff_ne.mpr fun h => free (h ▸ hc)

/-- The text before the first colon of a text is the name, whatever comes behind it. -/
theorem elementName_append_cons {name : Text} (free : ':' ∉ name) (rest : Text) :
    elementName (name ++ ':' :: rest) = name := by
  rw [elementName, List.takeWhile_append_of_pos (bne_colon_of_not_mem free),
    List.takeWhile_cons_of_neg (by decide), List.append_nil]

theorem dropWhile_append_cons {name : Text} (free : ':' ∉ name) (rest : Text) :
    (name ++ ':' :: rest).dropWhile (· != ':') = ':' :: rest := by
  rw [List.dropWhile_append_of_pos (bne_colon_of_not_mem free),
    List.dropWhile_cons_of_neg (by decide)]

theorem colon_not_mem_elementName (description : Text) : ':' ∉ elementName description := by
  intro h
  exact absurd (List.all_eq_true.mp List.all_takeWhile ':' h) (by decide)

/-- The mark leads to an index exactly if the directive is a name without colons, the mark and a
    text that denotes the index. -/
theorem positional?_eq_some_iff_append {description name : Text} {index : Int64} :
    positional? description = some (name, index) ↔
      ':' ∉ name ∧ ∃ last,
        description = name ++ ':' :: (pathWord ++ ':' :: last) ∧ DenotesIndex last index := by
  constructor
  · intro h
    simp only [positional?] at h
    split at h
    · rename_i hmark
      obtain ⟨last, hlast⟩ := List.isPrefixOf_iff_prefix.mp hmark
      rw [← hlast, List.drop_left, Option.map_eq_some_iff] at h
      obtain ⟨_, hread, hpair⟩ := h
      cases hpair
      refine ⟨colon_not_mem_elementName description, last, ?_, readIndex?_eq_some_iff.mp hread⟩
      calc description
          = elementName description ++ description.dropWhile (· != ':') :=
            List.takeWhile_append_dropWhile.symm
        _ = elementName description ++ ':' :: (pathWord ++ ':' :: last) := by simp [← hlast]
    · cases h
  · rintro ⟨free, last, rfl, hdenotes⟩
    simp only [positional?, dropWhile_append_cons free, elementName_append_cons free]
    have hread := readIndex?_eq_some_iff.mpr hdenotes
    simp [pathWord, hread]

/-- The three pieces of a directive are a name, the word `path` and a last text exactly if the mark
    stands between a name and a last text without colons. -/
theorem splitChar_eq_positional_iff {description name last : Text} :
    Text.splitChar ':' description = [name, pathWord, last] ↔
      ':' ∉ name ∧ ':' ∉ last ∧ description = name ++ ':' :: (pathWord ++ ':' :: last) := by
  have hword : ':' ∉ pathWord := by decide
  have hjoin : Text.join [':'] [name, pathWord, last] =
      name ++ ':' :: (pathWord ++ ':' :: last) := by
    simp [Text.join, List.intercalate]
  rw [Text.splitChar_eq_iff, hjoin]
  constructor
  · rintro ⟨-, free, rfl⟩
    exact ⟨free name (by simp), free last (by simp), rfl⟩
  · rintro ⟨hname, hlast, rfl⟩
    exact ⟨by simp, by simp [hname, hword, hlast], rfl⟩

/-- Looking for the mark and comparing the pieces agree: an index is found exactly if the directive
    has the pieces of a positional one and the last piece denotes the index. An index has no colon,
    so the text behind the mark is a single piece. -/
theorem positional?_eq_some_iff {description name : Text} {index : Int64} :
    positional? description = some (name, index) ↔
      name = elementName description ∧
        ∃ last, IsPositional description last ∧ DenotesIndex last index := by
  rw [positional?_eq_some_iff_append]
  constructor
  · rintro ⟨free, last, rfl, denotes⟩
    have hsplit := splitChar_eq_positional_iff.mpr ⟨free, denotes.colon_not_mem, rfl⟩
    exact ⟨(elementName_append_cons free _).symm, last, ⟨name, hsplit⟩, denotes⟩
  · rintro ⟨rfl, last, ⟨name, hsplit⟩, denotes⟩
    obtain ⟨free, -, rfl⟩ := splitChar_eq_positional_iff.mp hsplit
    refine ⟨colon_not_mem_elementName _, last, ?_, denotes⟩
    rw [elementName_append_cons free]

theorem IsPositional.ne_nil {description last : Text} (h : IsPositional description last) :
    description ≠ [] := by
  obtain ⟨name, hsplit⟩ := h
  rintro rfl
  cases hsplit

theorem IsPositional.unique {description last last' : Text} (h : IsPositional description last)
    (h' : IsPositional description last') : last = last' := by
  obtain ⟨name, hsplit⟩ := h
  obtain ⟨name', hsplit'⟩ := h'
  cases hsplit.symm.trans hsplit'
  rfl

-- ════════════════════════════════════════════════════════════════════════
-- Placeholders
-- ════════════════════════════════════════════════════════════════════════

/-- A directive is the spelling of a placeholder. It has the text before its first colon as its
    name and is kept as it stands. Positional directives have to denote an index. -/
inductive Placeholder.SpelledBy (description : Text) : Placeholder → Prop
  | path {last : Text} {index : Int64} (positional : IsPositional description last)
      (denotes : DenotesIndex last index) :
      SpelledBy description ⟨elementName description, description, .path index⟩
  | variable (ne : description ≠ []) (named : ∀ last, ¬ IsPositional description last) :
      SpelledBy description ⟨elementName description, description, .variable⟩

/-- A directive is refused with an error. -/
inductive Placeholder.Refused (pattern description : Text) : PatternError → Prop
  | empty (nil : description = []) : Refused pattern description (.emptyPlaceholder pattern)
  | index {last : Text} (positional : IsPositional description last)
      (senseless : ∀ index, ¬ DenotesIndex last index) :
      Refused pattern description (.badIndex description)

variable {pattern description : Text}

/-- Every directive spells a placeholder or is refused. -/
theorem Placeholder.exists_spelledBy_or_refused (pattern description : Text) :
    (∃ d, SpelledBy description d) ∨ ∃ e, Refused pattern description e := by
  by_cases hnil : description = []
  · exact .inr ⟨_, .empty hnil⟩
  · by_cases hpos : ∃ last, IsPositional description last
    · obtain ⟨last, positional⟩ := hpos
      by_cases hindex : ∃ index, DenotesIndex last index
      · obtain ⟨index, denotes⟩ := hindex
        exact .inl ⟨_, .path positional denotes⟩
      · exact .inr ⟨_, .index positional (not_exists.mp hindex)⟩
    · exact .inl ⟨_, .variable hnil (not_exists.mp hpos)⟩

/-- A directive spells a placeholder exactly if it is not empty and has an index where it is
    positional. -/
theorem Placeholder.exists_spelledBy_iff :
    (∃ d, SpelledBy description d) ↔
      description ≠ [] ∧
        ∀ last, IsPositional description last → ∃ index, DenotesIndex last index := by
  constructor
  · rintro ⟨_, ⟨positional, denotes⟩ | ⟨ne, named⟩⟩
    · refine ⟨positional.ne_nil, fun last positional' => ?_⟩
      obtain rfl := positional.unique positional'
      exact ⟨_, denotes⟩
    · exact ⟨ne, fun last positional => absurd positional (named last)⟩
  · rintro ⟨ne, indexed⟩
    refine (exists_spelledBy_or_refused [] description).resolve_right ?_
    rintro ⟨_, nil | ⟨positional, senseless⟩⟩
    · exact ne nil
    · obtain ⟨index, denotes⟩ := indexed _ positional
      exact senseless index denotes

theorem Placeholder.parse_of_spelledBy {d : Placeholder} (h : SpelledBy description d) :
    parse pattern description = .ok d := by
  cases h with
  | path positional denotes =>
    have hfound := positional?_eq_some_iff.mpr ⟨rfl, _, positional, denotes⟩
    simp [parse, positional.ne_nil, hfound]
  | _ ne named =>
    have hnone : positional? description = none := by
      refine Option.eq_none_iff_forall_ne_some.mpr fun found hfound => ?_
      obtain ⟨-, last, positional, -⟩ := positional?_eq_some_iff.mp hfound
      exact named last positional
    have hlooks : ¬ looksPositional description := by
      rw [looksPositional_iff]
      exact not_exists.mpr named
    simp [parse, ne, hnone, hlooks]

theorem Placeholder.parse_of_refused {e : PatternError} (h : Refused pattern description e) :
    parse pattern description = .error e := by
  cases h with
  | empty nil => simp [parse, nil]
  | @index last positional senseless =>
    have hnone : positional? description = none := by
      refine Option.eq_none_iff_forall_ne_some.mpr fun found hfound => ?_
      obtain ⟨-, last', positional', denotes⟩ := positional?_eq_some_iff.mp hfound
      obtain rfl := positional.unique positional'
      exact senseless _ denotes
    have hlooks : looksPositional description := looksPositional_iff.mpr ⟨last, positional⟩
    simp [parse, positional.ne_nil, hnone, hlooks]

/-- Reading a directive gives the placeholder that it spells, and else the error with which it is
    refused. -/
theorem Placeholder.parse_iff (pattern description : Text) :
    (∀ d, parse pattern description = .ok d ↔ SpelledBy description d) ∧
      ∀ e, parse pattern description = .error e ↔ Refused pattern description e :=
  ok_iff_and_error_iff_of_settled (fun _ => parse_of_spelledBy) (fun _ => parse_of_refused)
    (exists_spelledBy_or_refused pattern description)

end Telemetry
