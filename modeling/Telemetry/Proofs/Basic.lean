import Mathlib.Data.List.Forall2

/-!
# Outcomes and lists

General facts that several parts of the theory need: what an outcome says of the steps that it was
made in, and what lists have in common that are related member by member.
-/

namespace Telemetry

-- ════════════════════════════════════════════════════════════════════════
-- Outcomes
-- ════════════════════════════════════════════════════════════════════════

section Outcomes

variable {ε α β : Type} {x : Except ε α} {w : β}

theorem exists_of_bind_eq_ok {f : α → Except ε β} (h : (x >>= f) = .ok w) :
    ∃ v, x = .ok v ∧ f v = .ok w := by
  cases x with
  | error e => cases h
  | ok v => exact ⟨v, rfl, h⟩

theorem exists_of_map_eq_ok {f : α → β} (h : x.map f = .ok w) : ∃ v, x = .ok v ∧ f v = w := by
  cases x with
  | error e => cases h
  | ok v => exact ⟨v, rfl, Except.ok.inj h⟩

theorem map_eq_error_iff {f : α → β} {e : ε} : x.map f = .error e ↔ x = .error e := by
  cases x with
  | error e' => exact ⟨fun h => congrArg Except.error (Except.error.inj h),
      fun h => congrArg Except.error (Except.error.inj h)⟩
  | ok v => exact ⟨nofun, nofun⟩

end Outcomes

-- ════════════════════════════════════════════════════════════════════════
-- Related lists
-- ════════════════════════════════════════════════════════════════════════

theorem exists_mem_of_forall₂ {α β : Type} {R : α → β → Prop} {as : List α} {bs : List β}
    (h : List.Forall₂ R as bs) {b : β} (hb : b ∈ bs) : ∃ a ∈ as, R a b := by
  induction h with
  | nil => cases hb
  | @cons a b' as bs hab _ ih =>
    rcases List.mem_cons.mp hb with rfl | hb
    · exact ⟨a, List.mem_cons_self, hab⟩
    · obtain ⟨a', ha', hab'⟩ := ih hb
      exact ⟨a', List.mem_cons_of_mem a ha', hab'⟩

/-- Lists that are related to a third one are related to each other, if their members are. -/
theorem forall₂_of_common {α β γ : Type} {R : α → β → Prop} {S : α → γ → Prop} {T : β → γ → Prop}
    {as : List α} {bs : List β} {cs : List γ} (hR : List.Forall₂ R as bs)
    (hS : List.Forall₂ S as cs) (h : ∀ a b c, R a b → S a c → T b c) : List.Forall₂ T bs cs := by
  induction hR generalizing cs with
  | nil =>
    cases hS
    exact .nil
  | cons hab _ ih =>
    obtain _ | ⟨hac, hrest⟩ := hS
    exact .cons (h _ _ _ hab hac) (ih hrest)

/-- What is related to lists one behind the other falls into blocks that are related to them. -/
theorem exists_blocks_of_forall₂ {α β γ : Type} {R : β → γ → Prop} {f : α → List β} {as : List α}
    {cs : List γ} (h : List.Forall₂ R (as.flatMap f) cs) :
    ∃ blocks, cs = List.flatten blocks ∧
      List.Forall₂ (fun a block => List.Forall₂ R (f a) block) as blocks := by
  induction as generalizing cs with
  | nil =>
    cases h
    exact ⟨[], rfl, .nil⟩
  | cons a as ih =>
    rw [List.flatMap_cons] at h
    have hblock := List.forall₂_take (f a).length h
    have hrest := List.forall₂_drop (f a).length h
    rw [List.take_left] at hblock
    rw [List.drop_left] at hrest
    obtain ⟨blocks, hflatten, hblocks⟩ := ih hrest
    refine ⟨cs.take (f a).length :: blocks, ?_, .cons hblock hblocks⟩
    rw [List.flatten_cons, ← hflatten, List.take_append_drop]

/-- What holds of all members of a list holds of all members of a related one, if it is the same
    for related members. -/
theorem forall_mem_iff_of_forall₂ {α β : Type} {R : α → β → Prop} {P : α → Prop} {Q : β → Prop}
    {as : List α} {bs : List β} (h : List.Forall₂ R as bs) (hPQ : ∀ a b, R a b → (P a ↔ Q b)) :
    (∀ a ∈ as, P a) ↔ ∀ b ∈ bs, Q b := by
  constructor
  · intro hP b hb
    obtain ⟨a, ha, hab⟩ := exists_mem_of_forall₂ h hb
    exact (hPQ a b hab).mp (hP a ha)
  · intro hQ a ha
    obtain ⟨b, hb, hab⟩ := exists_mem_of_forall₂ h.flip ha
    exact (hPQ a b hab).mpr (hQ b hb)

/-- An order of a list is one of a related list, if it is the same for related members. -/
theorem pairwise_iff_of_forall₂ {α β : Type} {R : α → β → Prop} {S : α → α → Prop}
    {T : β → β → Prop} {as : List α} {bs : List β} (h : List.Forall₂ R as bs)
    (hST : ∀ a a' b b', R a b → R a' b' → (S a a' ↔ T b b')) : as.Pairwise S ↔ bs.Pairwise T := by
  induction h with
  | nil => exact ⟨fun _ => .nil, fun _ => .nil⟩
  | @cons a b as bs hab hrest ih =>
    have hfirst : (∀ a' ∈ as, S a a') ↔ ∀ b' ∈ bs, T b b' :=
      forall_mem_iff_of_forall₂ hrest fun a' b' => hST a a' b b' hab
    rw [List.pairwise_cons, List.pairwise_cons, hfirst, ih]

/-- In a list in strict order, what holds of members in the order in which they stand holds of
    members in that strict order. -/
theorem pairwise_iff_of_sorted {α : Type} {lt S : α → α → Prop} {as : List α}
    (asymm : ∀ a b, lt a b → ¬ lt b a) (h : as.Pairwise lt) :
    as.Pairwise S ↔ ∀ a ∈ as, ∀ b ∈ as, lt a b → S a b := by
  constructor
  · intro hS
    have hforth : as.Pairwise fun a b => lt a b → S a b := by
      refine hS.imp fun hab => ?_
      exact fun _ => hab
    have hback : as.Pairwise (flip fun a b => lt a b → S a b) :=
      h.imp fun hlt hgt => absurd hgt (asymm _ _ hlt)
    exact hforth.forall_of_forall_of_flip (fun a _ hlt => absurd hlt (asymm _ _ hlt)) hback
  · intro hS
    exact h.imp_of_mem fun ha hb hlt => hS _ ha _ hb hlt

/-- Lists with related members give the same results if related members do. -/
theorem filterMap_eq_of_forall₂ {α β : Type} {R : α → α → Prop} {f : α → Option β} {as as' : List α}
    (h : List.Forall₂ R as as') (hf : ∀ a a', R a a' → f a = f a') :
    as.filterMap f = as'.filterMap f := by
  have hresults : List.Forall₂ (· = ·) (as.filterMap f) (as'.filterMap f) := by
    refine List.rel_filterMap (fun a a' ha => ?_) h
    rw [hf a a' ha]
    cases f a' with
    | none => exact .none
    | some b => exact .some rfl
  rwa [List.forall₂_eq_eq_eq] at hresults

end Telemetry
