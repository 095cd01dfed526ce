import Telemetry.Glob.Walk
import Telemetry.Proofs.Text.Splitting

/-!
# Plain file patterns

A pattern without classes and without wildcards for directories has one token for each of its
characters. Held against a whole path it accepts exactly the paths of which each piece is accepted
by the component in its place.

## Main definitions

- `Glob.IsPlain` — a pattern of ordinary characters, `?` and single `*`
- `Glob.Token.ofPlain` — the token of a character of such a pattern
- `Glob.acceptsNames` — whether components accept names, one each
- `Glob.plainScope` — the components of a plain pattern

## Main statements

- `Glob.tokens_of_plain` — the tokens of a plain pattern are those of its characters
- `Glob.acceptsTokens_append_iff` — instances of patterns one behind the other
- `Glob.acceptsTokens_join_iff` — a plain pattern accepts piece by piece
- `Glob.IsPlain.parse_scope` — a plain pattern is one in each of its components, too
-/

namespace Telemetry.Glob

/-- A pattern without its leading slash, if it has one. -/
def body : Text → Text
  | '/' :: t => t
  | t => t

/-- A pattern without classes and without wildcards for directories, between whose slashes there are
    components that are not empty and do not start with a dot. -/
structure IsPlain (pattern : Text) : Prop where
  ne_nil : ∀ c ∈ Text.splitChar '/' (body pattern), c ≠ []
  no_dot : ∀ c ∈ Text.splitChar '/' (body pattern), c.head? ≠ some '.'
  no_class : '[' ∉ pattern
  single : ¬ ['*', '*'] <:+: pattern

/-- The token of a character outside of classes and wildcards for directories. -/
def Token.ofPlain (c : Char) : Token :=
  if c = '?' then .anyChar else if c = '*' then .anySequence else .char c

theorem Token.ofPlain_cases (c : Char) :
    ofPlain c = .char c ∨ ofPlain c = .anyChar ∨ ofPlain c = .anySequence := by
  unfold ofPlain
  split
  · exact .inr (.inl rfl)
  · split
    · exact .inr (.inr rfl)
    · exact .inl rfl

theorem Token.eq_of_ofPlain_eq_char {c d : Char} (h : ofPlain c = .char d) : c = d := by
  rcases ofPlain_cases c with hc | hc | hc <;> cases hc.symm.trans h
  rfl

-- ════════════════════════════════════════════════════════════════════════
-- Syntax
-- ════════════════════════════════════════════════════════════════════════

theorem tokens_cons {c : Char} {t : Text} (hc : c ≠ '[') (hstars : ∀ u, c :: t ≠ '*' :: '*' :: u)
    (position : Nat) (before : Option Char) :
    tokens position before (c :: t) =
      (tokens (position + 1) (some c) t).map (Token.ofPlain c :: ·) := by
  rw [tokens.eq_def]
  split
  case h_1 h => cases h
  case h_2 h =>
    obtain ⟨rfl, rfl⟩ := List.cons.inj h
    rfl
  case h_7 h =>
    obtain ⟨rfl, rfl⟩ := List.cons.inj h
    rfl
  case h_8 h => exact absurd (List.cons.inj h).1 hc
  case h_9 hquestion _ _ _ _ hstar _ h =>
    obtain ⟨rfl, rfl⟩ := List.cons.inj h
    rw [Token.ofPlain, if_neg hquestion, if_neg hstar]
  -- In all other cases the text starts with two stars.
  all_goals
    rename_i h
    exact absurd h (hstars _)

/-- The tokens of a text without classes and wildcards for directories are those of its
    characters. -/
theorem tokens_of_plain {t : Text} (hclass : '[' ∉ t) (hsingle : ¬ ['*', '*'] <:+: t)
    (position : Nat) (before : Option Char) :
    tokens position before t = .ok (t.map Token.ofPlain) := by
  induction t generalizing position before with
  | nil => rw [tokens, List.map_nil]
  | cons c t ih =>
    obtain ⟨hc, ht⟩ := not_or.mp (mt List.mem_cons.mpr hclass)
    have hstars : ∀ u, c :: t ≠ '*' :: '*' :: u := fun u h => hsingle ⟨[], u, h.symm⟩
    have hrest : ¬ ['*', '*'] <:+: t := fun h => hsingle (h.trans (List.suffix_cons c t).isInfix)
    rw [tokens_cons (Ne.symm hc) hstars, ih ht hrest, List.map_cons]
    rfl

theorem Pattern.parse_of_plain {t : Text} (hclass : '[' ∉ t) (hsingle : ¬ ['*', '*'] <:+: t) :
    Pattern.parse t = .ok ⟨t.map Token.ofPlain⟩ := by
  rw [parse, tokens_of_plain hclass hsingle]
  rfl

-- ════════════════════════════════════════════════════════════════════════
-- Instances
-- ════════════════════════════════════════════════════════════════════════

theorem mem_rests_iff {barrier : Char → Bool} {t r : Text} :
    r ∈ rests barrier t ↔ ∃ q, t = q ++ r ∧ ∀ c ∈ q, barrier c = false := by
  induction t with
  | nil =>
    constructor
    · intro h
      exact ⟨[], by simpa [rests, eq_comm] using h, nofun⟩
    · rintro ⟨q, h, -⟩
      obtain ⟨-, rfl⟩ := List.append_eq_nil_iff.mp h.symm
      exact List.mem_cons_self
  | cons c t ih =>
    constructor
    · intro h
      rcases List.mem_cons.mp h with rfl | h
      · exact ⟨[], rfl, nofun⟩
      · by_cases hc : barrier c = true
        · rw [if_pos hc] at h
          cases h
        · rw [if_neg hc] at h
          obtain ⟨q, rfl, hq⟩ := ih.mp h
          refine ⟨c :: q, rfl, fun d hd => ?_⟩
          rcases List.mem_cons.mp hd with rfl | hd
          · exact Bool.not_eq_true _ ▸ hc
          · exact hq d hd
    · rintro ⟨q, h, hq⟩
      cases q with
      | nil =>
        obtain rfl : c :: t = r := h
        exact List.mem_cons_self
      | cons d q =>
        obtain ⟨rfl, rfl⟩ := List.cons.inj h
        have hc : ¬ barrier c = true := by simp [hq c List.mem_cons_self]
        rw [rests, if_neg hc]
        exact List.mem_cons_of_mem _ (ih.mpr ⟨q, rfl, fun d hd => hq d (List.mem_cons_of_mem c hd)⟩)

@[simp] theorem Token.acceptsChar_char (literal : Bool) (c d : Char) :
    (Token.char d).acceptsChar literal c = (c == d) := rfl

@[simp] theorem Token.acceptsChar_anyChar (literal : Bool) (c : Char) :
    Token.anyChar.acceptsChar literal c = !(literal && c == '/') := rfl

@[simp] theorem Token.acceptsChar_anyOf (literal : Bool) (c : Char) (ss : List Specifier) :
    (Token.anyOf ss).acceptsChar literal c = (!(literal && c == '/') && ss.any (·.contains c)) :=
  rfl

@[simp] theorem Token.acceptsChar_noneOf (literal : Bool) (c : Char) (ss : List Specifier) :
    (Token.noneOf ss).acceptsChar literal c = (!(literal && c == '/') && !ss.any (·.contains c)) :=
  rfl

@[simp] theorem Token.acceptsChar_anySequence (literal : Bool) (c : Char) :
    Token.anySequence.acceptsChar literal c = false := rfl

@[simp] theorem Token.acceptsChar_anyDirectories (literal : Bool) (c : Char) :
    Token.anyDirectories.acceptsChar literal c = false := rfl

variable {literal : Bool} {ts us : List Token} {t : Text}

theorem acceptsTokens_nil_iff : acceptsTokens literal [] t ↔ t = [] := by
  rw [acceptsTokens, List.isEmpty_iff]

theorem acceptsTokens_anySequence_iff :
    acceptsTokens literal (.anySequence :: ts) t ↔
      ∃ q r, t = q ++ r ∧ (∀ c ∈ q, (literal && c == '/') = false) ∧
        acceptsTokens literal ts r := by
  rw [acceptsTokens, List.any_eq_true]
  constructor
  · rintro ⟨r, hr, haccepts⟩
    obtain ⟨q, ht, hq⟩ := mem_rests_iff.mp hr
    exact ⟨q, r, ht, hq, haccepts⟩
  · rintro ⟨q, r, ht, hq, haccepts⟩
    exact ⟨r, mem_rests_iff.mpr ⟨q, ht, hq⟩, haccepts⟩

/-- A token that is no wildcard for several characters takes the first character of a text. -/
theorem acceptsTokens_cons_iff {token : Token} (hsequence : token ≠ .anySequence)
    (hdirectories : token ≠ .anyDirectories) :
    acceptsTokens literal (token :: ts) t ↔
      ∃ c r, t = c :: r ∧ token.acceptsChar literal c ∧ acceptsTokens literal ts r := by
  cases t with
  | nil => cases token <;> simp [acceptsTokens] at *
  | cons c t => cases token <;> simp [acceptsTokens, and_assoc] at *

theorem acceptsTokens_char_iff {d : Char} :
    acceptsTokens literal (.char d :: ts) t ↔ ∃ r, t = d :: r ∧ acceptsTokens literal ts r := by
  cases t with
  | nil => simp [acceptsTokens]
  | cons c t => simp [acceptsTokens, and_assoc]

/-- A text is an instance of two patterns, one behind the other, exactly if it is an instance of the
    first with an instance of the second behind it. -/
theorem acceptsTokens_append_iff (h : .anyDirectories ∉ ts) :
    acceptsTokens literal (ts ++ us) t ↔
      ∃ q r, t = q ++ r ∧ acceptsTokens literal ts q ∧ acceptsTokens literal us r := by
  induction ts generalizing t with
  | nil =>
    simp only [acceptsTokens_nil_iff, List.nil_append]
    constructor
    · exact fun haccepts => ⟨[], t, rfl, rfl, haccepts⟩
    · rintro ⟨-, r, rfl, rfl, haccepts⟩
      exact haccepts
  | cons token ts ih =>
    obtain ⟨hdirectories, hts⟩ := not_or.mp (mt List.mem_cons.mpr h)
    rw [List.cons_append]
    by_cases hsequence : token = .anySequence
    · subst hsequence
      simp only [acceptsTokens_anySequence_iff, ih hts]
      constructor
      · rintro ⟨q, -, rfl, hq, n, m, rfl, hn, hm⟩
        exact ⟨q ++ n, m, by rw [List.append_assoc], ⟨q, n, rfl, hq, hn⟩, hm⟩
      · rintro ⟨-, m, rfl, ⟨q, n, rfl, hq, hn⟩, hm⟩
        exact ⟨q, n ++ m, by rw [List.append_assoc], hq, n, m, rfl, hn, hm⟩
    · simp only [acceptsTokens_cons_iff hsequence (Ne.symm hdirectories), ih hts]
      constructor
      · rintro ⟨c, -, rfl, hc, n, m, rfl, hn, hm⟩
        exact ⟨c :: n, m, rfl, ⟨c, n, rfl, hc, hn⟩, hm⟩
      · rintro ⟨-, m, rfl, ⟨c, n, rfl, hc, hn⟩, hm⟩
        exact ⟨c, n ++ m, rfl, hc, n, m, rfl, hn, hm⟩

theorem acceptsChar_literal_iff {token : Token} {c : Char} (h : token ≠ .char '/') :
    token.acceptsChar true c ↔ c ≠ '/' ∧ token.acceptsChar false c := by
  cases token with
  | char d =>
    have hd : d ≠ '/' := fun hd => h (hd ▸ rfl)
    constructor
    · intro hc
      obtain rfl : c = d := by simpa using hc
      exact ⟨hd, hc⟩
    · exact fun hc => hc.2
  | _ => simp

/-- Where no slash stands in a pattern, slashes that match only themselves make for no slashes. -/
theorem acceptsTokens_literal_iff (hdirectories : .anyDirectories ∉ ts) (hslash : .char '/' ∉ ts) :
    acceptsTokens true ts t ↔ '/' ∉ t ∧ acceptsTokens false ts t := by
  induction ts generalizing t with
  | nil =>
    simp only [acceptsTokens_nil_iff]
    constructor
    · rintro rfl
      exact ⟨List.not_mem_nil, rfl⟩
    · exact fun h => h.2
  | cons token ts ih =>
    obtain ⟨hdirectory, hts⟩ := not_or.mp (mt List.mem_cons.mpr hdirectories)
    obtain ⟨hchar, hts'⟩ := not_or.mp (mt List.mem_cons.mpr hslash)
    by_cases hsequence : token = .anySequence
    · subst hsequence
      simp only [acceptsTokens_anySequence_iff, ih hts hts']
      constructor
      · rintro ⟨q, r, rfl, hq, hr, haccepts⟩
        have hfree : '/' ∉ q := fun hmem => by simpa using hq '/' hmem
        exact ⟨List.not_mem_append hfree hr, q, r, rfl, fun _ _ => rfl, haccepts⟩
      · rintro ⟨hfree, q, r, rfl, -, haccepts⟩
        obtain ⟨hq, hr⟩ := not_or.mp (mt List.mem_append.mpr hfree)
        refine ⟨q, r, rfl, fun c hc => ?_, hr, haccepts⟩
        have hne : c ≠ '/' := fun h => hq (h ▸ hc)
        simpa using hne
    · simp only [acceptsTokens_cons_iff hsequence (Ne.symm hdirectory), ih hts hts',
        acceptsChar_literal_iff (Ne.symm hchar)]
      constructor
      · rintro ⟨c, r, rfl, ⟨hc, haccepts⟩, hr, hrest⟩
        exact ⟨List.not_mem_cons_of_ne_of_not_mem (Ne.symm hc) hr, c, r, rfl, haccepts, hrest⟩
      · rintro ⟨hfree, c, r, rfl, haccepts, hrest⟩
        obtain ⟨hc, hr⟩ := not_or.mp (mt List.mem_cons.mpr hfree)
        exact ⟨c, r, rfl, ⟨Ne.symm hc, haccepts⟩, hr, hrest⟩

-- ════════════════════════════════════════════════════════════════════════
-- Piece by piece
-- ════════════════════════════════════════════════════════════════════════

/-- The pattern of a plain component. -/
def plainPattern (c : Text) : Pattern :=
  ⟨c.map Token.ofPlain⟩

/-- Whether names are instances of the patterns in their places, with as many of the ones as of the
    others. -/
def acceptsNames : List Pattern → List Text → Bool
  | [], [] => true
  | p :: ps, name :: names => p.accepts false name && acceptsNames ps names
  | _, _ => false

theorem anyDirectories_not_mem_map (c : Text) : .anyDirectories ∉ c.map Token.ofPlain := by
  intro h
  obtain ⟨d, -, hd⟩ := List.mem_map.mp h
  rcases Token.ofPlain_cases d with hc | hc | hc <;> cases hc.symm.trans hd

theorem slash_not_mem_map {c : Text} (h : '/' ∉ c) : .char '/' ∉ c.map Token.ofPlain := by
  intro hmem
  obtain ⟨d, hd, heq⟩ := List.mem_map.mp hmem
  exact h (Token.eq_of_ofPlain_eq_char heq ▸ hd)

theorem acceptsNames_cons_iff {p : Pattern} {ps : List Pattern} {names : List Text} :
    acceptsNames (p :: ps) names ↔
      ∃ name rest, names = name :: rest ∧ p.accepts false name ∧ acceptsNames ps rest := by
  cases names <;> simp [acceptsNames, and_assoc]

theorem acceptsNames_nil_iff {names : List Text} : acceptsNames [] names ↔ names = [] := by
  cases names <;> simp [acceptsNames]

theorem ne_nil_of_acceptsNames {ps : List Pattern} {names : List Text} (h : acceptsNames ps names)
    (ne : ps ≠ []) : names ≠ [] := by
  rintro rfl
  cases ps with
  | nil => exact ne rfl
  | cons p ps => cases h

/-- A plain pattern accepts the texts that fall into pieces without slashes, each accepted by the
    component in its place. -/
theorem acceptsTokens_join_iff {cs : List Text} (hslash : ∀ c ∈ cs, '/' ∉ c) (ne : cs ≠ [])
    {t : Text} :
    acceptsTokens true ((Text.join ['/'] cs).map Token.ofPlain) t ↔
      ∃ pieces, t = Text.join ['/'] pieces ∧ (∀ piece ∈ pieces, '/' ∉ piece) ∧
        acceptsNames (cs.map plainPattern) pieces := by
  induction cs generalizing t with
  | nil => exact absurd rfl ne
  | cons c cs ih =>
    have hfirst : ∀ {q : Text}, acceptsTokens true (c.map Token.ofPlain) q ↔
        '/' ∉ q ∧ (plainPattern c).accepts false q :=
      acceptsTokens_literal_iff (anyDirectories_not_mem_map c)
        (slash_not_mem_map (hslash c List.mem_cons_self))
    simp only [List.map_cons, acceptsNames_cons_iff]
    by_cases hcs : cs = []
    · subst hcs
      simp only [Text.join_singleton, hfirst, List.map_nil, acceptsNames_nil_iff]
      constructor
      · rintro ⟨hfree, haccepts⟩
        exact ⟨[t], (Text.join_singleton _ t).symm, by simpa using hfree, t, [], rfl, haccepts, rfl⟩
      · rintro ⟨-, rfl, hfree, name, -, rfl, haccepts, rfl⟩
        rw [Text.join_singleton]
        exact ⟨hfree name List.mem_cons_self, haccepts⟩
    · have hrest := fun m => @ih (fun d hd => hslash d (List.mem_cons_of_mem c hd)) hcs m
      have hmap : cs.map plainPattern ≠ [] := by simpa using hcs
      have htokens : (Text.join ['/'] (c :: cs)).map Token.ofPlain =
          c.map Token.ofPlain ++ .char '/' :: (Text.join ['/'] cs).map Token.ofPlain := by
        rw [Text.join_cons ['/'] c hcs, List.map_append, List.map_append, List.append_assoc]
        rfl
      rw [htokens, acceptsTokens_append_iff (anyDirectories_not_mem_map c)]
      simp only [hfirst, acceptsTokens_char_iff, hrest]
      constructor
      · rintro ⟨q, -, rfl, ⟨hq, haccepts⟩, -, rfl, pieces, rfl, hfree, hpieces⟩
        have hne := ne_nil_of_acceptsNames hpieces hmap
        refine ⟨q :: pieces, ?_, ?_, q, pieces, rfl, haccepts, hpieces⟩
        · rw [Text.join_cons ['/'] q hne]
          simp
        · simpa using ⟨hq, hfree⟩
      · rintro ⟨-, rfl, hfree, name, pieces, rfl, haccepts, hpieces⟩
        have hne := ne_nil_of_acceptsNames hpieces hmap
        refine ⟨name, '/' :: Text.join ['/'] pieces, by rw [Text.join_cons ['/'] name hne]; simp,
          ⟨hfree name List.mem_cons_self, haccepts⟩, _, rfl, pieces, rfl, ?_, hpieces⟩
        exact fun piece hpiece => hfree piece (List.mem_cons_of_mem name hpiece)

/-- On a path of names, a plain pattern accepts what its components accept name by name. -/
theorem acceptsTokens_join_join {cs names : List Text} (hslash : ∀ c ∈ cs, '/' ∉ c) (ne : cs ≠ [])
    (hnames : ∀ name ∈ names, '/' ∉ name) (ne' : names ≠ []) :
    acceptsTokens true ((Text.join ['/'] cs).map Token.ofPlain) (Text.join ['/'] names) =
      acceptsNames (cs.map plainPattern) names := by
  rw [Bool.eq_iff_iff, acceptsTokens_join_iff hslash ne]
  constructor
  · rintro ⟨pieces, hjoin, hfree, hpieces⟩
    have hne := ne_nil_of_acceptsNames hpieces (by simpa using ne)
    obtain rfl : names = pieces := by
      rw [← Text.splitChar_join hnames ne', hjoin, Text.splitChar_join hfree hne]
    exact hpieces
  · exact fun h => ⟨names, rfl, hnames, h⟩

-- ════════════════════════════════════════════════════════════════════════
-- Components
-- ════════════════════════════════════════════════════════════════════════

variable {pattern : Text}

theorem body_of_head?_ne (h : pattern.head? ≠ some '/') : body pattern = pattern := by
  unfold body
  split
  · exact absurd rfl h
  · rfl

/-- A pattern is its body, behind a slash if it starts with one. -/
theorem eq_body (pattern : Text) :
    pattern = (if pattern.head? = some '/' then ['/'] else []) ++ body pattern := by
  by_cases hhead : pattern.head? = some '/'
  · obtain ⟨t, rfl⟩ := List.head?_eq_some_iff.mp hhead
    rfl
  · rw [if_neg hhead, List.nil_append, body_of_head?_ne hhead]

/-- The components of a plain pattern, which matches more than directories. -/
def plainScope (pattern : Text) : Scope :=
  ⟨(Text.splitChar '/' (body pattern)).map plainPattern, pattern.head? = some '/', false⟩

theorem body_suffix (pattern : Text) : body pattern <:+ pattern :=
  ⟨_, (eq_body pattern).symm⟩

namespace IsPlain

theorem body_ne_nil (h : IsPlain pattern) : body pattern ≠ [] := by
  intro hnil
  exact h.ne_nil [] (by rw [hnil]; exact List.mem_singleton_self []) rfl

theorem getLast?_body (h : IsPlain pattern) : (body pattern).getLast? ≠ some '/' := by
  intro hlast
  obtain ⟨t, ht⟩ := List.getLast?_eq_some_iff.mp hlast
  refine h.ne_nil [] ?_ rfl
  rw [ht, Text.splitChar_eq_splitOn, List.splitOn_append_cons_self]
  exact List.mem_append_right _ (by simp)

theorem getLast?_ne (h : IsPlain pattern) : pattern.getLast? ≠ some '/' := by
  obtain ⟨c, hc⟩ := Option.ne_none_iff_exists'.mp (mt List.getLast?_eq_none_iff.mp h.body_ne_nil)
  rw [eq_body pattern, List.getLast?_append, hc, Option.some_or, ← hc]
  exact h.getLast?_body

theorem componentTexts_eq (h : IsPlain pattern) :
    componentTexts pattern = Text.splitChar '/' (body pattern) := by
  have hbody : componentTexts pattern =
      if (body pattern).isEmpty then [[]]
      else if (body pattern).getLast? = some '/' then
        (Text.splitChar '/' (body pattern)).dropLast
      else Text.splitChar '/' (body pattern) := rfl
  rw [hbody, if_neg (by simpa using h.body_ne_nil), if_neg h.getLast?_body]

/-- The components of a plain pattern are plain themselves. -/
theorem parse_component (h : IsPlain pattern) {c : Text}
    (hc : c ∈ Text.splitChar '/' (body pattern)) : Pattern.parse c = .ok (plainPattern c) := by
  have hpart : c <:+: pattern := by
    have hpiece := Text.infix_join_of_mem ['/'] hc
    rw [Text.join_splitChar] at hpiece
    exact hpiece.trans (body_suffix pattern).isInfix
  exact Pattern.parse_of_plain (fun hmem => h.no_class (hpart.subset hmem))
    fun hstars => h.single (hstars.trans hpart)

theorem parse_scope (h : IsPlain pattern) : Scope.parse pattern = .ok (plainScope pattern) := by
  have hall : ∀ cs : List Text, (∀ c ∈ cs, Pattern.parse c = .ok (plainPattern c)) →
      parseAll cs = .ok (cs.map plainPattern) := by
    intro cs hcs
    induction cs with
    | nil => rfl
    | cons c cs ih =>
      rw [parseAll, hcs c List.mem_cons_self, ih fun d hd => hcs d (List.mem_cons_of_mem c hd)]
      rfl
  have hlast : decide (pattern.getLast? = some '/') = false := decide_eq_false h.getLast?_ne
  rw [Scope.parse, Pattern.parse_of_plain h.no_class h.single, h.componentTexts_eq,
    hall _ fun c hc => h.parse_component hc, hlast]
  rfl

end IsPlain

end Telemetry.Glob
