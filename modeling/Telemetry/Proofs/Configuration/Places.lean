import Telemetry.Proofs.Json.Drafts

/-!
# Members in any order

Decoding an object goes through its members and fills the places of a record, each at most once.
Neighbours that fill different places can change their order, and two that want the same place would
have failed. So members can stand in any order.

## Main definitions

- `Configuration.Places` — a record with places
- `Configuration.Places.Reader` — how members are read into places
- `Configuration.Places.Takes` — what a part does to a record
- `Configuration.Given` — the members for a part that may be left out
- `Configuration.keyedDrafts` — members with their drafts

## Main statements

- `Configuration.Places.Reader.foldlM_perm` — members can be read in any order
- `Configuration.Places.Reader.foldlM_given_append` — parts that may be left out are read, or have
  their defaults
-/

namespace Telemetry.Configuration

open Json (Draft toDraft)

-- ════════════════════════════════════════════════════════════════════════
-- Steps
-- ════════════════════════════════════════════════════════════════════════

section Steps

variable {σ α ε : Type} {step : σ → α → Except ε σ} {s s₁ s' : σ} {a : α} {l l' : List α}

theorem foldlM_cons_eq_ok_iff :
    (a :: l).foldlM step s = .ok s' ↔
      ∃ s₁, step s a = .ok s₁ ∧ l.foldlM step s₁ = .ok s' := by
  rw [List.foldlM_cons]
  cases step s a with
  | error e =>
    constructor
    · intro h
      cases h
    · rintro ⟨s₁, hs₁, -⟩
      cases hs₁
  | ok s₁ =>
    constructor
    · intro h
      exact ⟨s₁, rfl, h⟩
    · rintro ⟨s₂, hs₂, h⟩
      cases hs₂
      exact h

theorem foldlM_append_of_ok (hl : l.foldlM step s = .ok s₁) :
    (l ++ l').foldlM step s = l'.foldlM step s₁ := by
  rw [List.foldlM_append, hl]
  rfl

/-- Steps of which neighbours commute, unless they fail, can be taken in any order. -/
theorem foldlM_perm_of_comm
    (comm : ∀ {s s₁ s₂ : σ} {a b : α}, step s a = .ok s₁ → step s₁ b = .ok s₂ →
      ∃ s', step s b = .ok s' ∧ step s' a = .ok s₂)
    (h : l.Perm l') (hl : l.foldlM step s = .ok s') : l'.foldlM step s = .ok s' := by
  induction h generalizing s with
  | nil => exact hl
  | cons a _ ih =>
    obtain ⟨s₁, ha, hl⟩ := foldlM_cons_eq_ok_iff.mp hl
    exact foldlM_cons_eq_ok_iff.mpr ⟨s₁, ha, ih hl⟩
  | swap b a l =>
    obtain ⟨s₁, ha, hl⟩ := foldlM_cons_eq_ok_iff.mp hl
    obtain ⟨s₂, hb, hl⟩ := foldlM_cons_eq_ok_iff.mp hl
    obtain ⟨s₃, hb', ha'⟩ := comm ha hb
    exact foldlM_cons_eq_ok_iff.mpr ⟨s₃, hb', foldlM_cons_eq_ok_iff.mpr ⟨s₂, ha', hl⟩⟩
  | trans _ _ ih ih' => exact ih' (ih hl)

end Steps

-- ════════════════════════════════════════════════════════════════════════
-- Places
-- ════════════════════════════════════════════════════════════════════════

/-- A record with places that can be filled independently of each other. -/
structure Places (σ : Type) where
  Place : Type
  /-- What a place can be filled with. -/
  Content : Place → Type
  has : σ → Place → Bool
  fill : σ → (p : Place) → Content p → σ
  has_fill : ∀ (s : σ) (p : Place) (v : Content p) (q : Place),
    has (fill s p v) q = true ↔ q = p ∨ has s q = true
  fill_comm : ∀ (s : σ) (p q : Place) (v : Content p) (w : Content q), p ≠ q →
    fill (fill s p v) q w = fill (fill s q w) p v

/-- How members are read into the places of a record. -/
structure Places.Reader {σ : Type} (P : Places σ) (α ε : Type) where
  /-- The place of a member, if it has one. -/
  place? : α → Option P.Place
  /-- What a member has for a place. -/
  content : α → (p : P.Place) → Except ε (P.Content p)
  /-- Reads over a member without place. -/
  idle : α → Except ε Unit
  /-- The error of a member whose place is not empty. -/
  duplicate : α → ε

namespace Places

variable {σ α ε : Type} {P : Places σ} {s s' : σ} {p q : P.Place} {v : P.Content p} {l l' : List α}

/-- A part has filled its place in a record, or left it as it is, which it may if the part is the
    default. -/
def Takes (P : Places σ) (s : σ) (p : P.Place) (v : P.Content p) (isDefault : Prop) (s' : σ) :
    Prop :=
  s' = P.fill s p v ∨ s' = s ∧ isDefault

theorem has_fill_eq_false_iff : P.has (P.fill s p v) q = false ↔ q ≠ p ∧ P.has s q = false := by
  rw [Bool.eq_false_iff, ne_eq, P.has_fill, not_or, Bool.eq_false_iff]

/-- Other places stay empty. -/
theorem Takes.has_eq_false {isDefault : Prop} (h : P.Takes s p v isDefault s') (hne : q ≠ p)
    (hfree : P.has s q = false) : P.has s' q = false := by
  obtain rfl | ⟨rfl, -⟩ := h
  · exact has_fill_eq_false_iff.mpr ⟨hne, hfree⟩
  · exact hfree

namespace Reader

variable (R : P.Reader α ε) {a : α}

/-- The record with one more member read. -/
def step (s : σ) (a : α) : Except ε σ :=
  match R.place? a with
  | none => (R.idle a).map fun _ => s
  | some p =>
    if P.has s p then .error (R.duplicate a) else (R.content a p).map fun v => P.fill s p v

/-- What one member does: it fills its place, which is still empty, or leaves the record as it
    is. -/
theorem step_eq_ok_iff :
    R.step s a = .ok s' ↔
      (R.place? a = none ∧ R.idle a = .ok () ∧ s' = s) ∨
        ∃ p v, R.place? a = some p ∧ P.has s p = false ∧ R.content a p = .ok v ∧
          s' = P.fill s p v := by
  unfold step
  cases R.place? a with
  | none =>
    constructor
    · intro h
      cases hidle : R.idle a with
      | error e =>
        rw [hidle] at h
        cases h
      | ok u =>
        rw [hidle] at h
        cases h
        exact .inl ⟨rfl, rfl, rfl⟩
    · rintro (⟨-, hidle, rfl⟩ | ⟨p, v, hsome, -⟩)
      · rw [hidle]
        rfl
      · cases hsome
  | some p =>
    dsimp only
    constructor
    · intro h
      split at h
      · cases h
      · rename_i hfree
        cases hv : R.content a p with
        | error e =>
          rw [hv] at h
          cases h
        | ok v =>
          rw [hv] at h
          cases h
          exact .inr ⟨p, v, rfl, Bool.eq_false_iff.mpr hfree, hv, rfl⟩
    · rintro (⟨hnone, -⟩ | ⟨q, v, hq, hfree, hv, rfl⟩)
      · cases hnone
      · cases hq
        rw [hfree, hv]
        rfl

theorem step_comm {s₁ s₂ : σ} {a b : α} (ha : R.step s a = .ok s₁) (hb : R.step s₁ b = .ok s₂) :
    ∃ s', R.step s b = .ok s' ∧ R.step s' a = .ok s₂ := by
  rw [R.step_eq_ok_iff] at ha hb
  simp only [R.step_eq_ok_iff]
  obtain ⟨hnone, hidle, rfl⟩ | ⟨p, v, hp, hfree, hv, rfl⟩ := ha
  · exact ⟨s₂, hb, .inl ⟨hnone, hidle, rfl⟩⟩
  · obtain ⟨hnone, hidle, rfl⟩ | ⟨q, w, hq, hfree', hw, rfl⟩ := hb
    · exact ⟨s, .inl ⟨hnone, hidle, rfl⟩, .inr ⟨p, v, hp, hfree, hv, rfl⟩⟩
    · obtain ⟨hne, hfree'⟩ := has_fill_eq_false_iff.mp hfree'
      have hother : P.has (P.fill s q w) p = false := has_fill_eq_false_iff.mpr ⟨hne.symm, hfree⟩
      refine ⟨P.fill s q w, .inr ⟨q, w, hq, hfree', hw, rfl⟩, .inr ⟨p, v, hp, hother, hv, ?_⟩⟩
      exact P.fill_comm s p q v w hne.symm

/-- Members can be read in any order. -/
theorem foldlM_perm (h : l.Perm l') (hl : l.foldlM R.step s = .ok s') :
    l'.foldlM R.step s = .ok s' :=
  foldlM_perm_of_comm R.step_comm h hl

/-- Members without place leave a record as it is. -/
theorem foldlM_idle (h : ∀ a ∈ l, R.place? a = none ∧ R.idle a = .ok ()) :
    l.foldlM R.step s = .ok s := by
  induction l with
  | nil => rfl
  | cons a l ih =>
    obtain ⟨hnone, hidle⟩ := h a List.mem_cons_self
    have ha : R.step s a = .ok s := R.step_eq_ok_iff.mpr (.inl ⟨hnone, hidle, rfl⟩)
    exact foldlM_cons_eq_ok_iff.mpr ⟨s, ha, ih fun b hb => h b (List.mem_cons_of_mem a hb)⟩

theorem foldlM_singleton (hp : R.place? a = some p) (hfree : P.has s p = false)
    (hv : R.content a p = .ok v) : [a].foldlM R.step s = .ok (P.fill s p v) := by
  have ha : R.step s a = .ok (P.fill s p v) :=
    R.step_eq_ok_iff.mpr (.inr ⟨p, v, hp, hfree, hv, rfl⟩)
  exact foldlM_cons_eq_ok_iff.mpr ⟨_, ha, rfl⟩

end Reader

end Places

-- ════════════════════════════════════════════════════════════════════════
-- Members that may be left out
-- ════════════════════════════════════════════════════════════════════════

/-- The members for a part that may be left out: one with its key, or none if the part is the
    default. -/
inductive Given (key : Text) (Spells : Json → Prop) (isDefault : Prop) : List (Text × Json) → Prop
  | omitted (h : isDefault) : Given key Spells isDefault []
  | present {v : Json} (h : Spells v) : Given key Spells isDefault [(key, v)]

variable {key : Text} {Spells : Json → Prop} {isDefault : Prop} {ms : List (Text × Json)}

theorem Given.eq_of_mem (h : Given key Spells isDefault ms) {m : Text × Json} (hm : m ∈ ms) :
    m.1 = key ∧ Spells m.2 := by
  cases h with
  | omitted => cases hm
  | present h =>
    obtain rfl := List.mem_singleton.mp hm
    exact ⟨rfl, h⟩

/-- Members with their drafts. -/
def keyedDrafts (ms : List (Text × Json)) : List (Text × Draft) :=
  ms.map fun m => (m.1, toDraft m.2)

theorem keyedDrafts_append (ms ms' : List (Text × Json)) :
    keyedDrafts (ms ++ ms') = keyedDrafts ms ++ keyedDrafts ms' :=
  List.map_append

namespace Places.Reader

variable {σ ε : Type} {P : Places σ} (R : P.Reader (Text × Draft) ε) {s : σ} {p q : P.Place}
  {v : P.Content p} {w : P.Content q} {key' : Text} {Spells' : Json → Prop} {isDefault' : Prop}
  {ms' : List (Text × Json)}

/-- A part that is given fills its place, and one that is left out has its default. -/
theorem foldlM_given (h : Given key Spells isDefault ms)
    (hp : ∀ d, R.place? (key, d) = some p) (hfree : P.has s p = false)
    (hv : ∀ j, Spells j → R.content (key, toDraft j) p = .ok v) :
    ∃ s', (keyedDrafts ms).foldlM R.step s = .ok s' ∧ P.Takes s p v isDefault s' := by
  cases h with
  | omitted h => exact ⟨s, rfl, .inr ⟨rfl, h⟩⟩
  | present h => exact ⟨P.fill s p v, R.foldlM_singleton (hp _) hfree (hv _ h), .inl rfl⟩

/-- Two parts with different places are read one after the other. -/
theorem foldlM_given_append (h : Given key Spells isDefault ms)
    (h' : Given key' Spells' isDefault' ms') (hne : q ≠ p)
    (hp : ∀ d, R.place? (key, d) = some p) (hq : ∀ d, R.place? (key', d) = some q)
    (hfree : P.has s p = false) (hfree' : P.has s q = false)
    (hv : ∀ j, Spells j → R.content (key, toDraft j) p = .ok v)
    (hw : ∀ j, Spells' j → R.content (key', toDraft j) q = .ok w) :
    ∃ s₁ s₂, (keyedDrafts (ms ++ ms')).foldlM R.step s = .ok s₂ ∧
      P.Takes s p v isDefault s₁ ∧ P.Takes s₁ q w isDefault' s₂ := by
  obtain ⟨s₁, h₁, htakes₁⟩ := R.foldlM_given h hp hfree hv
  obtain ⟨s₂, h₂, htakes₂⟩ := R.foldlM_given h' hq (htakes₁.has_eq_false hne hfree') hw
  refine ⟨s₁, s₂, ?_, htakes₁, htakes₂⟩
  rw [keyedDrafts_append, foldlM_append_of_ok h₁, h₂]

/-- Members without place are read over. -/
theorem foldlM_keyedDrafts_idle
    (h : ∀ m ∈ ms, R.place? (m.1, toDraft m.2) = none ∧ R.idle (m.1, toDraft m.2) = .ok ()) :
    (keyedDrafts ms).foldlM R.step s = .ok s := by
  apply R.foldlM_idle
  intro _ hm
  obtain ⟨m, hm', rfl⟩ := List.mem_map.mp hm
  exact h m hm'

/-- Members of an object can be read in any order. -/
theorem foldlM_keyedDrafts_perm {s' : σ} (h : ms.Perm ms')
    (hms : (keyedDrafts ms').foldlM R.step s = .ok s') :
    (keyedDrafts ms).foldlM R.step s = .ok s' :=
  R.foldlM_perm (h.symm.map _) hms

end Places.Reader

end Telemetry.Configuration
