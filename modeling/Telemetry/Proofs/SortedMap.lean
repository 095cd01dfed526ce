import Mathlib.Data.List.Induction
import Telemetry.SortedMap

/-!
# Maps from lists of entries

A map answers with the values of its entries, and the map of a list with distinct keys has just the
entries of the list. So a map can be made of its entries in any order.

## Main statements

- `SortedMap.get?_eq_some_iff` — answers are entries
- `SortedMap.get?_ofList_eq_some_iff` — the answers of a map that is made of entries
- `SortedMap.ofList_of_perm` — entries can be given in any order
- `SortedMap.get?_ofList_eq_some_iff_append` — of several entries with one key the last counts
- `SortedMap.get?_ofList_filterMap_eq_some_iff` — and so for entries that are found in a list
-/

namespace Telemetry.SortedMap

variable {κ υ : Type} [LT κ] [DecidableLT κ] [KeyOrder κ] {k : κ} {v : υ} {l : List (κ × υ)}

theorem find_eq_some_iff (h : KeysIncrease l) : find k l = some v ↔ (k, v) ∈ l := by
  induction l with
  | nil => simp [find]
  | cons e l ih =>
    obtain ⟨k', v'⟩ := e
    obtain ⟨hfirst, htail⟩ := List.pairwise_cons.mp h
    rw [find, List.mem_cons]
    by_cases hlt : k < k'
    · have hne : (k, v) ≠ (k', v') := by
        rintro heq
        cases heq
        exact KeyOrder.irrefl k hlt
      have hrest : (k, v) ∉ l := fun hmem => KeyOrder.not_lt_of_lt hlt (hfirst _ hmem)
      rw [if_pos hlt]
      simp [hne, hrest]
    · rw [if_neg hlt]
      by_cases hgt : k' < k
      · have hne : (k, v) ≠ (k', v') := by
          rintro heq
          cases heq
          exact KeyOrder.irrefl k hgt
        rw [if_pos hgt, ih htail]
        exact ⟨.inr, fun hmem => hmem.resolve_left hne⟩
      · obtain rfl := KeyOrder.eq_of_not_lt hlt hgt
        have hrest : (k, v) ∉ l := fun hmem => KeyOrder.irrefl k (hfirst _ hmem)
        rw [if_neg hgt]
        simp [hrest, eq_comm]

/-- A map answers with the values of its entries. -/
theorem get?_eq_some_iff (m : SortedMap κ υ) : m.get? k = some v ↔ (k, v) ∈ m.toList :=
  find_eq_some_iff m.sorted

omit [DecidableLT κ] in
/-- The keys of a map are distinct. -/
theorem nodup_keys (m : SortedMap κ υ) : (m.toList.map Prod.fst).Nodup := by
  rw [List.Nodup, List.pairwise_map]
  exact m.sorted.imp fun hlt => KeyOrder.ne_of_lt hlt

omit [DecidableLT κ] in
/-- The entry of a key is the only one with it. -/
theorem find?_of_mem [BEq κ] [LawfulBEq κ] (h : KeysIncrease l) {e : κ × υ} (he : e ∈ l) :
    l.find? (fun e' => e'.1 == e.1) = some e := by
  induction l with
  | nil => cases he
  | cons e' l ih =>
    obtain ⟨hfirst, htail⟩ := List.pairwise_cons.mp h
    rw [List.find?_cons]
    rcases List.mem_cons.mp he with rfl | he
    · rw [beq_self_eq_true]
    · have hne : (e'.1 == e.1) = false :=
        beq_eq_false_iff_ne.mpr (KeyOrder.ne_of_lt (hfirst e he))
      rw [hne, ih htail he]

omit [DecidableLT κ] in
/-- Going through the entries of one key is looking that key up. -/
theorem flatMap_ite_key [BEq κ] [LawfulBEq κ] [DecidableEq κ] {α : Type} (h : KeysIncrease l)
    (k : κ) (f : κ × υ → List α) :
    (l.flatMap fun e => if e.1 = k then f e else []) =
      match l.find? fun e => e.1 == k with
      | none => []
      | some e => f e := by
  induction l with
  | nil => rfl
  | cons e l ih =>
    obtain ⟨hfirst, htail⟩ := List.pairwise_cons.mp h
    rw [List.flatMap_cons, List.find?_cons]
    by_cases hk : e.1 = k
    · have hrest : (l.flatMap fun e => if e.1 = k then f e else []) = [] := by
        refine List.flatMap_eq_nil_iff.mpr fun e' he' => ?_
        have hne : e'.1 ≠ k := fun heq => KeyOrder.ne_of_lt (hfirst e' he') (hk.trans heq.symm)
        rw [if_neg hne]
      rw [if_pos hk, hrest, List.append_nil, beq_iff_eq.mpr hk]
    · have hk' : (e.1 == k) = false := beq_eq_false_iff_ne.mpr hk
      rw [if_neg hk, List.nil_append, hk', ih htail]

variable [DecidableEq κ]

theorem get?_foldl_insert (m : SortedMap κ υ) (hnodup : (l.map Prod.fst).Nodup) :
    (l.foldl (fun m e => m.insert e.1 e.2) m).get? k = some v ↔
      (k, v) ∈ l ∨ (k ∉ l.map Prod.fst ∧ m.get? k = some v) := by
  induction l generalizing m with
  | nil => simp
  | cons e l ih =>
    obtain ⟨k', v'⟩ := e
    obtain ⟨hfirst, htail⟩ := List.nodup_cons.mp hnodup
    rw [List.foldl_cons, ih _ htail, get?_insert, List.map_cons, List.mem_cons, List.mem_cons]
    by_cases hk : k = k'
    · subst hk
      have hkey : (k, v) ∈ l → k ∈ l.map Prod.fst := fun hmem => List.mem_map_of_mem hmem
      have hrest : (k, v) ∉ l := fun hmem => hfirst (hkey hmem)
      simp [hfirst, hrest, eq_comm]
    · simp [hk]

/-- A map that is made of entries with distinct keys answers with their values. -/
theorem get?_ofList_eq_some_iff (hnodup : (l.map Prod.fst).Nodup) :
    (ofList l).get? k = some v ↔ (k, v) ∈ l := by
  rw [ofList, get?_foldl_insert _ hnodup]
  simp

/-- A map can be made of its entries in any order. -/
theorem ofList_of_perm {m : SortedMap κ υ} (h : l.Perm m.toList) : ofList l = m := by
  have hnodup : (l.map Prod.fst).Nodup := (h.map Prod.fst).nodup_iff.mpr m.nodup_keys
  apply ext_get?
  intro k
  apply Option.ext
  intro v
  rw [get?_ofList_eq_some_iff hnodup, get?_eq_some_iff, h.mem_iff]

/-- Entries with distinct keys make the same map in any order. -/
theorem ofList_eq_of_perm {l' : List (κ × υ)} (hnodup : (l.map Prod.fst).Nodup) (h : l.Perm l') :
    ofList l = ofList l' := by
  have hnodup' : (l'.map Prod.fst).Nodup := (h.map Prod.fst).nodup_iff.mp hnodup
  refine ext_get? fun k => Option.ext fun v => ?_
  rw [get?_ofList_eq_some_iff hnodup, get?_ofList_eq_some_iff hnodup', h.mem_iff]

theorem get?_ofList (l : List (κ × υ)) (k : κ) :
    (ofList l).get? k = (l.reverse.find? fun e => e.1 == k).map Prod.snd := by
  induction l using List.reverseRecOn with
  | nil => simp [ofList]
  | append_singleton l e ih =>
    rw [ofList, List.foldl_append, List.foldl_cons, List.foldl_nil, ← ofList, get?_insert, ih,
      List.reverse_concat, List.find?_cons]
    by_cases hk : k = e.1
    · simp [hk]
    · have hk' : (e.1 == k) = false := beq_eq_false_iff_ne.mpr (Ne.symm hk)
      rw [if_neg hk, hk']

/-- A map that is made of entries has just their keys. -/
theorem contains_ofList_iff : (ofList l).contains k ↔ k ∈ l.map Prod.fst := by
  rw [contains, get?_ofList]
  simp

omit [DecidableEq κ] in
/-- A map has an entry exactly if it has a key. -/
theorem isEmpty_eq_false_iff (m : SortedMap κ υ) : m.isEmpty = false ↔ ∃ k, m.contains k := by
  constructor
  · intro h
    have hne : m.toList ≠ [] := List.isEmpty_eq_false_iff.mp h
    obtain ⟨⟨k, v⟩, he⟩ := List.exists_mem_of_ne_nil _ hne
    exact ⟨k, by rw [contains, (get?_eq_some_iff m).mpr he]; rfl⟩
  · rintro ⟨k, hk⟩
    obtain ⟨v, hv⟩ := Option.isSome_iff_exists.mp hk
    exact List.isEmpty_eq_false_iff.mpr (List.ne_nil_of_mem ((get?_eq_some_iff m).mp hv))

/-- A map that is made of entries answers with the value of the last entry of a key. -/
theorem get?_ofList_eq_some_iff_append :
    (ofList l).get? k = some v ↔
      ∃ before after, l = before ++ (k, v) :: after ∧ k ∉ after.map Prod.fst := by
  have hfree : ∀ es : List (κ × υ),
      (∀ e ∈ es, (!(e.1 == k)) = true) ↔ k ∉ es.reverse.map Prod.fst := by
    intro es
    simp only [List.mem_map, List.mem_reverse, not_exists, not_and, Bool.not_eq_true',
      beq_eq_false_iff_ne]
  rw [get?_ofList, Option.map_eq_some_iff]
  constructor
  · rintro ⟨⟨k', v'⟩, hfind, rfl⟩
    obtain ⟨hk, later, earlier, hl, hlater⟩ := List.find?_eq_some_iff_append.mp hfind
    obtain rfl : k' = k := by simpa using hk
    refine ⟨earlier.reverse, later.reverse, ?_, (hfree later).mp hlater⟩
    rw [← List.reverse_reverse l, hl, List.reverse_append, List.reverse_cons, List.append_assoc]
    rfl
  · rintro ⟨before, after, rfl, hafter⟩
    refine ⟨(k, v), List.find?_eq_some_iff_append.mpr
      ⟨by simp, after.reverse, before.reverse, by simp, (hfree _).mpr ?_⟩, rfl⟩
    rwa [List.reverse_reverse]

/-- Of the entries of two lists those of the second count, as far as there are any for a key. -/
theorem get?_ofList_append (l l' : List (κ × υ)) (k : κ) :
    (ofList (l ++ l')).get? k = ((ofList l').get? k).or ((ofList l).get? k) := by
  rw [get?_ofList, get?_ofList, get?_ofList, List.reverse_append, List.find?_append, Option.map_or]

/-- A map that is made of what is found in a list answers with what is found last for a key. -/
theorem get?_ofList_filterMap_eq_some_iff {α : Type} {f : α → Option (κ × υ)} {xs : List α} :
    (ofList (xs.filterMap f)).get? k = some v ↔
      ∃ before x after, xs = before ++ x :: after ∧ f x = some (k, v) ∧
        ∀ y ∈ after, ∀ w, f y ≠ some (k, w) := by
  have hfree : ∀ ys : List α,
      k ∉ (ys.filterMap f).map Prod.fst ↔ ∀ y ∈ ys, ∀ w, f y ≠ some (k, w) := by
    intro ys
    simp only [List.mem_map, List.mem_filterMap, Prod.exists, exists_and_right, exists_eq_right,
      not_exists, not_and]
    exact ⟨fun h y hy w => h w y hy, fun h w y hy => h y hy w⟩
  rw [get?_ofList_eq_some_iff_append]
  constructor
  · rintro ⟨before, after, hfound, hafter⟩
    obtain ⟨first, rest, rfl, -, hrest⟩ := List.filterMap_eq_append_iff.mp hfound
    obtain ⟨idle, x, last, rfl, -, hx, rfl⟩ := List.filterMap_eq_cons_iff.mp hrest
    exact ⟨first ++ idle, x, last, (List.append_assoc _ _ _).symm, hx, (hfree last).mp hafter⟩
  · rintro ⟨before, x, after, rfl, hx, hafter⟩
    refine ⟨before.filterMap f, after.filterMap f, ?_, (hfree after).mpr hafter⟩
    rw [List.filterMap_append, List.filterMap_cons_some hx]

end Telemetry.SortedMap
