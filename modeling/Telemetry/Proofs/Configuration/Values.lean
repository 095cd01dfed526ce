import Telemetry.Configuration.Decoding
import Telemetry.Proofs.Json.Drafts
import Telemetry.Proofs.SortedMap

/-!
# Decoding whole values

A value that is completely there is decoded to what it holds, and can be read over: at once if it
is skipped, and up to a depth of containers if it may be wanted later.

## Main definitions

- `Json.depth` — how deep containers are nested in a value

## Main statements

- `Configuration.skip_toDraft`, `Configuration.check_toDraft` — values that are read over
- `Configuration.decodeArray_toDraft`, `Configuration.decodeMap_toDraft` — lists and maps
-/

namespace Telemetry

-- ════════════════════════════════════════════════════════════════════════
-- Depth
-- ════════════════════════════════════════════════════════════════════════

namespace Json

mutual

/-- How deep containers are nested in a value; a scalar has none. -/
def depth : Json → Nat
  | array items => itemDepth items + 1
  | object members => memberDepth members + 1
  | _ => 0

/-- How deep containers are nested in some items. -/
def itemDepth : List Json → Nat
  | [] => 0
  | v :: vs => max (depth v) (itemDepth vs)

/-- How deep containers are nested in the values of some members. -/
def memberDepth : List (Text × Json) → Nat
  | [] => 0
  | (_, v) :: ms => max (depth v) (memberDepth ms)

end

theorem itemDepth_textItems (ts : List Text) : itemDepth (textItems ts) = 0 := by
  induction ts with
  | nil => rfl
  | cons t ts ih =>
    show max 0 (itemDepth (textItems ts)) = 0
    rw [ih]
    rfl

end Json

namespace Configuration

open Json (toDraft itemDrafts memberDrafts textItems textMembers)

-- ════════════════════════════════════════════════════════════════════════
-- Values that are read over
-- ════════════════════════════════════════════════════════════════════════

mutual

/-- A whole value can be skipped. -/
theorem skip_toDraft : ∀ v : Json, skip (toDraft v) = .ok ()
  | .null => rfl
  | .bool _ => rfl
  | .number _ => rfl
  | .string _ => rfl
  | .array items => by
    have hitems := skipItems_itemDrafts items
    rw [toDraft, skip, hitems]
    rfl
  | .object members => by
    have hmembers := skipMembers_memberDrafts members
    rw [toDraft, skip, hmembers]
    rfl

theorem skipItems_itemDrafts : ∀ vs : List Json, skipItems (itemDrafts vs) = .ok ()
  | [] => rfl
  | v :: vs => by
    have hv := skip_toDraft v
    have hvs := skipItems_itemDrafts vs
    rw [itemDrafts, skipItems, hv]
    exact hvs

theorem skipMembers_memberDrafts : ∀ ms : List (Text × Json),
    skipMembers (memberDrafts ms) = .ok ()
  | [] => rfl
  | (k, v) :: ms => by
    have hv := skip_toDraft v
    have hms := skipMembers_memberDrafts ms
    rw [memberDrafts, skipMembers, hv]
    exact hms

end

mutual

/-- A whole value that is not nested too deep passes the check. -/
theorem check_toDraft : ∀ (v : Json) {depth : Nat}, v.depth ≤ depth →
    check depth (toDraft v) = .ok ()
  | .null, _, _ => by rw [toDraft, check]
  | .bool _, _, _ => by rw [toDraft, check]
  | .number _, _, _ => by rw [toDraft, check]
  | .string _, _, _ => by rw [toDraft, check]
  | .array items, 0, h => absurd h (Nat.not_succ_le_zero _)
  | .array items, depth + 1, h => by
    have hitems := checkItems_itemDrafts items (Nat.le_of_succ_le_succ h)
    rw [toDraft, check, hitems]
    rfl
  | .object members, 0, h => absurd h (Nat.not_succ_le_zero _)
  | .object members, depth + 1, h => by
    have hmembers := checkMembers_memberDrafts members (Nat.le_of_succ_le_succ h)
    rw [toDraft, check, hmembers]
    rfl

theorem checkItems_itemDrafts : ∀ (vs : List Json) {depth : Nat}, Json.itemDepth vs ≤ depth →
    checkItems depth (itemDrafts vs) = .ok ()
  | [], _, _ => by rw [itemDrafts, checkItems]
  | v :: vs, depth, h => by
    have hv := check_toDraft v (Nat.le_trans (Nat.le_max_left _ _) h)
    have hvs := checkItems_itemDrafts vs (Nat.le_trans (Nat.le_max_right _ _) h)
    rw [itemDrafts, checkItems, hv]
    exact hvs

theorem checkMembers_memberDrafts : ∀ (ms : List (Text × Json)) {depth : Nat},
    Json.memberDepth ms ≤ depth → checkMembers depth (memberDrafts ms) = .ok ()
  | [], _, _ => by rw [memberDrafts, checkMembers]
  | (k, v) :: ms, depth, h => by
    have hv := check_toDraft v (Nat.le_trans (Nat.le_max_left _ _) h)
    have hms := checkMembers_memberDrafts ms (Nat.le_trans (Nat.le_max_right _ _) h)
    rw [memberDrafts, checkMembers, hv]
    exact hms

end

-- ════════════════════════════════════════════════════════════════════════
-- Lists and maps
-- ════════════════════════════════════════════════════════════════════════

theorem decodeAll_itemDrafts {α : Type} {decode : Json.Draft → Decoded α} {vs : List Json}
    {as : List α} (h : List.Forall₂ (fun v a => decode (toDraft v) = .ok a) vs as) :
    decodeAll decode (itemDrafts vs) = .ok as := by
  induction h with
  | nil => rfl
  | cons hv _ ih =>
    rw [itemDrafts, decodeAll, hv, ih]
    rfl

/-- An array is decoded to what its items are decoded to. -/
theorem decodeArray_toDraft {α : Type} {decode : Json.Draft → Decoded α} {vs : List Json}
    {as : List α} (h : List.Forall₂ (fun v a => decode (toDraft v) = .ok a) vs as) :
    decodeArray decode (toDraft (.array vs)) = .ok as := by
  rw [toDraft, decodeArray, decodeAll_itemDrafts h]
  rfl

/-- An array of strings is decoded to their texts. -/
theorem decodeArray_textItems (ts : List Text) :
    decodeArray decodeText (toDraft (.array (textItems ts))) = .ok ts := by
  apply decodeArray_toDraft
  induction ts with
  | nil => exact .nil
  | cons t ts ih => exact .cons rfl ih

theorem decodeEntries_textMembers (entries : List (Text × Text)) :
    decodeEntries (memberDrafts (textMembers entries)) = .ok entries := by
  induction entries with
  | nil => rfl
  | cons e entries ih =>
    show (decodeEntries (memberDrafts (textMembers entries))).map ((e.1, e.2) :: ·) = _
    rw [ih]
    rfl

/-- An object with the entries of a map in any order is decoded to the map. -/
theorem decodeMap_toDraft {m : SortedMap Text Text} {entries : List (Text × Text)}
    (h : entries.Perm m.toList) :
    decodeMap (toDraft (.object (textMembers entries))) = .ok m := by
  rw [toDraft, decodeMap, decodeEntries_textMembers, ← SortedMap.ofList_of_perm h]
  rfl

end Configuration

end Telemetry
