import Telemetry.Proofs.Glob.Plain

/-!
# Texts that match a pattern

What it means that a path matches a pattern, token by token. A slash is matched by a slash of the
pattern and by the wildcard for directories only: neither `*` nor `?` nor a class stands for one.

## Main definitions

- `Glob.Matches` — a text matches a list of tokens
- `Glob.Pattern.Matches` — a text matches a pattern

## Main statements

- `Glob.acceptsTokens_anyDirectories_iff` — what the wildcard for directories stands for
- `Glob.Pattern.accepts_iff_matches` — the search for a match finds one exactly if there is one
-/

namespace Telemetry.Glob

/-- A text matches a list of tokens. The wildcard for directories stands for nothing, for a text
    with a slash at its end, or for all that is left. -/
inductive Matches : List Token → Text → Prop
  | nil : Matches [] []
  | char {ts : List Token} {t : Text} (c : Char) (rest : Matches ts t) :
      Matches (.char c :: ts) (c :: t)
  | anyChar {ts : List Token} {t : Text} {c : Char} (noSlash : c ≠ '/') (rest : Matches ts t) :
      Matches (.anyChar :: ts) (c :: t)
  | anyOf {ts : List Token} {t : Text} {ss : List Specifier} {c : Char} (noSlash : c ≠ '/')
      (member : ∃ s ∈ ss, s.contains c) (rest : Matches ts t) : Matches (.anyOf ss :: ts) (c :: t)
  | noneOf {ts : List Token} {t : Text} {ss : List Specifier} {c : Char} (noSlash : c ≠ '/')
      (stranger : ∀ s ∈ ss, ¬ s.contains c) (rest : Matches ts t) :
      Matches (.noneOf ss :: ts) (c :: t)
  | anySequence {ts : List Token} {t q : Text} (noSlash : '/' ∉ q) (rest : Matches ts t) :
      Matches (.anySequence :: ts) (q ++ t)
  | noDirectory {ts : List Token} {t : Text} (rest : Matches ts t) :
      Matches (.anyDirectories :: ts) t
  | directories {ts : List Token} {t : Text} (q : Text) (rest : Matches ts t) :
      Matches (.anyDirectories :: ts) (q ++ '/' :: t)
  | allDirectories {ts : List Token} (t : Text) (rest : Matches ts []) :
      Matches (.anyDirectories :: ts) t

/-- A text matches a pattern. -/
def Pattern.Matches (p : Pattern) (t : Text) : Prop :=
  Glob.Matches p.tokens t

theorem mem_restsBehindSlashes_iff {t r : Text} :
    r ∈ restsBehindSlashes t ↔ ∃ q, t = q ++ '/' :: r := by
  induction t with
  | nil => simp [restsBehindSlashes]
  | cons c t ih =>
    have htail : (∃ q, c :: t = q ++ '/' :: r) ↔ c = '/' ∧ t = r ∨ ∃ q, t = q ++ '/' :: r := by
      constructor
      · rintro ⟨q, h⟩
        cases q with
        | nil => exact .inl (List.cons.inj h)
        | cons d q => exact .inr ⟨q, (List.cons.inj h).2⟩
      · rintro (⟨rfl, rfl⟩ | ⟨q, rfl⟩)
        · exact ⟨[], rfl⟩
        · exact ⟨c :: q, rfl⟩
    rw [restsBehindSlashes, htail, ← ih]
    by_cases hc : c = '/'
    · simp [hc, eq_comm]
    · simp [hc]

variable {literal : Bool} {ts : List Token} {t : Text}

theorem acceptsTokens_anyDirectories_iff :
    acceptsTokens literal (.anyDirectories :: ts) t ↔
      acceptsTokens literal ts t ∨ (∃ q r, t = q ++ '/' :: r ∧ acceptsTokens literal ts r) ∨
        acceptsTokens literal ts [] := by
  rw [acceptsTokens, List.any_append, List.any_cons, Bool.or_eq_true, Bool.or_eq_true,
    List.any_eq_true, or_assoc]
  simp only [mem_restsBehindSlashes_iff, List.any_cons, List.any_nil, Bool.or_false]
  refine or_congr_right (or_congr_left ?_)
  constructor
  · rintro ⟨r, ⟨q, ht⟩, haccepts⟩
    exact ⟨q, r, ht, haccepts⟩
  · rintro ⟨q, r, ht, haccepts⟩
    exact ⟨r, ⟨q, ht⟩, haccepts⟩

/-- With slashes taken literally, the search for a match finds one exactly if there is one. -/
theorem acceptsTokens_iff_matches : acceptsTokens true ts t ↔ Matches ts t := by
  induction ts generalizing t with
  | nil =>
    rw [acceptsTokens_nil_iff]
    constructor
    · rintro rfl
      exact .nil
    · rintro ⟨⟩
      rfl
  | cons token ts ih =>
    cases token with
    | char d =>
      rw [acceptsTokens_char_iff]
      constructor
      · rintro ⟨r, rfl, haccepts⟩
        exact .char d (ih.mp haccepts)
      · intro h
        cases h with
        | char _ rest => exact ⟨_, rfl, ih.mpr rest⟩
    | anyChar =>
      rw [acceptsTokens_cons_iff (by simp) (by simp)]
      simp only [Token.acceptsChar_anyChar, Bool.true_and, Bool.not_eq_true', beq_eq_false_iff_ne]
      constructor
      · rintro ⟨c, r, rfl, hc, haccepts⟩
        exact .anyChar hc (ih.mp haccepts)
      · intro h
        cases h with
        | anyChar noSlash rest => exact ⟨_, _, rfl, noSlash, ih.mpr rest⟩
    | anyOf ss =>
      rw [acceptsTokens_cons_iff (by simp) (by simp)]
      simp only [Token.acceptsChar_anyOf, Bool.true_and, Bool.and_eq_true, Bool.not_eq_true',
        beq_eq_false_iff_ne, List.any_eq_true]
      constructor
      · rintro ⟨c, r, rfl, ⟨hc, hmember⟩, haccepts⟩
        exact .anyOf hc hmember (ih.mp haccepts)
      · intro h
        cases h with
        | anyOf noSlash member rest => exact ⟨_, _, rfl, ⟨noSlash, member⟩, ih.mpr rest⟩
    | noneOf ss =>
      rw [acceptsTokens_cons_iff (by simp) (by simp)]
      simp only [Token.acceptsChar_noneOf, Bool.true_and, Bool.and_eq_true, Bool.not_eq_true',
        beq_eq_false_iff_ne, List.any_eq_false]
      constructor
      · rintro ⟨c, r, rfl, ⟨hc, hstranger⟩, haccepts⟩
        exact .noneOf hc hstranger (ih.mp haccepts)
      · intro h
        cases h with
        | noneOf noSlash stranger rest => exact ⟨_, _, rfl, ⟨noSlash, stranger⟩, ih.mpr rest⟩
    | anySequence =>
      rw [acceptsTokens_anySequence_iff]
      simp only [Bool.true_and, beq_eq_false_iff_ne]
      constructor
      · rintro ⟨q, r, rfl, hq, haccepts⟩
        exact .anySequence (fun hslash => hq '/' hslash rfl) (ih.mp haccepts)
      · intro h
        cases h with
        | anySequence noSlash rest =>
          exact ⟨_, _, rfl, fun c hc heq => noSlash (heq ▸ hc), ih.mpr rest⟩
    | anyDirectories =>
      rw [acceptsTokens_anyDirectories_iff]
      constructor
      · rintro (haccepts | ⟨q, r, rfl, haccepts⟩ | haccepts)
        · exact .noDirectory (ih.mp haccepts)
        · exact .directories q (ih.mp haccepts)
        · exact .allDirectories t (ih.mp haccepts)
      · intro h
        cases h with
        | noDirectory rest => exact .inl (ih.mpr rest)
        | directories q rest => exact .inr (.inl ⟨q, _, rfl, ih.mpr rest⟩)
        | allDirectories _ rest => exact .inr (.inr (ih.mpr rest))

theorem Pattern.accepts_iff_matches {p : Pattern} : p.accepts true t ↔ p.Matches t :=
  acceptsTokens_iff_matches

end Telemetry.Glob
