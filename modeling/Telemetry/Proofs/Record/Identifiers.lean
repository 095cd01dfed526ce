import Telemetry.Proofs.Record.PairedLines

/-!
# Identifiers of paired lines

The identifier that a header line and a value line share is put into their record under `id`, and
the columns behind it go into the same map. So a later header `id` takes the place of the
identifier, which then stays only where the last value under that header reads as the same text.

## Main statements

- `KeyRow.RowOf.get?_idField_iff` — when a record holds the identifier of its lines
- `KeyRow.records_identifier` — the same for every pair of lines of a text
-/

namespace Telemetry.KeyRow

variable {headerLine valueLine : Text} {r : Record}

-- ════════════════════════════════════════════════════════════════════════
-- One pair of lines
-- ════════════════════════════════════════════════════════════════════════

/-- Under `id` a record holds the identifier of its lines exactly if no later header is `id`, or the
    last value under that header reads as the identifier. -/
theorem RowOf.get?_idField_iff (h : RowOf headerLine valueLine r) {header : Text}
    (hheader : headerLine.fields.head? = some header) :
    r.get? idField = some (.text (identifier header)) ↔
      (idField ∈ headerLine.fields.tail →
        ∀ v, LastUnder headerLine.fields valueLine.fields idField v →
          Value.parse v = .text (identifier header)) := by
  by_cases hcolumn : idField ∈ headerLine.fields.tail
  · obtain ⟨v, hlast, hget⟩ := h.field idField hcolumn
    rw [hget, Option.some.injEq]
    constructor
    · intro heq _ v' hlast'
      rw [hlast'.unique hlast, heq]
    · intro hall
      exact hall hcolumn v hlast
  · obtain ⟨header', hheader', hget⟩ := h.id hcolumn
    obtain rfl : header' = header := Option.some.inj (hheader'.symm.trans hheader)
    exact ⟨fun _ hmem => absurd hmem hcolumn, fun _ => hget⟩

-- ════════════════════════════════════════════════════════════════════════
-- Texts
-- ════════════════════════════════════════════════════════════════════════

variable {data : Text} {rs : List Record} {k : Nat}

/-- A text is accepted exactly if it has an even number of lines and these are accepted in pairs. -/
theorem records_eq_ok_iff :
    records data = .ok rs ↔
      (linesOf data).length % 2 = 0 ∧ pairs 0 (linesOf data) = .ok rs := by
  have hrecords : records data = if (linesOf data).length % 2 ≠ 0 then .error .oddLineCount
      else pairs 0 (linesOf data) := rfl
  rw [hrecords]
  by_cases heven : (linesOf data).length % 2 = 0
  · rw [if_neg (not_not_intro heven), and_iff_right heven]
  · rw [if_pos heven]
    exact ⟨nofun, fun h => absurd h.1 heven⟩

/-- The record of two lines that share an identifier holds it under `id` exactly if no header behind
    the first is `id`, or the last value under that header reads as the identifier. Otherwise it
    holds that last value. -/
theorem records_identifier (haccepted : records data = .ok rs)
    (hat : PairAt (linesOf data) k headerLine valueLine) :
    ∃ r header value, rs[k]? = some r ∧ headerLine.fields.head? = some header ∧
      valueLine.fields.head? = some value ∧ identifier value = identifier header ∧
      (r.get? idField = some (.text (identifier header)) ↔
        (idField ∈ headerLine.fields.tail →
          ∀ v, LastUnder headerLine.fields valueLine.fields idField v →
            Value.parse v = .text (identifier header))) ∧
      (idField ∈ headerLine.fields.tail →
        ∃ v, LastUnder headerLine.fields valueLine.fields idField v ∧
          r.get? idField = some (Value.parse v)) := by
  obtain ⟨r, hr, hpair⟩ := exists_record_of_pairAt (records_eq_ok_iff.mp haccepted).2 hat
  have hrow : RowOf headerLine valueLine r := rowOf_of_pair hpair
  have hpaired : Paired headerLine valueLine := exists_pair_iff.mp ⟨r, hpair⟩
  obtain ⟨header, headers, value, values, hheader, hvalue, -, hid⟩ := hpaired.exists_fields
  have hhead : headerLine.fields.head? = some header := by rw [hheader]; rfl
  have hhead' : valueLine.fields.head? = some value := by rw [hvalue]; rfl
  exact ⟨r, header, value, hr, hhead, hhead', hid.symm, hrow.get?_idField_iff hhead,
    hrow.field idField⟩

/-- A header `id` whose value is the identifier once more, with a colon in front of it. -/
theorem records_identifier_same_value :
    ∃ rs r, records "foo: id\nfoo: :foo".toList = .ok rs ∧ rs[0]? = some r ∧
      idField ∈ (Text.fields "foo: id".toList).tail ∧
      r.get? idField = some (.text "foo".toList) := by
  have haccepted : records "foo: id\nfoo: :foo".toList = .ok
      [SortedMap.ofList [(idField, .text "foo".toList), (idField, .text "foo".toList)]] := rfl
  have hat : PairAt (linesOf "foo: id\nfoo: :foo".toList) 0 "foo: id".toList
      "foo: :foo".toList := ⟨by decide, by decide⟩
  obtain ⟨r, header, -, hr, hheader, -, -, hiff, -⟩ := records_identifier haccepted hat
  obtain rfl : "foo:".toList = header := Option.some.inj (Eq.trans (by decide) hheader)
  refine ⟨_, r, haccepted, hr, by decide, hiff.mpr fun _ v hlast => ?_⟩
  have hvalue : LastUnder (Text.fields "foo: id".toList) (Text.fields "foo: :foo".toList) idField
      ":foo".toList := ⟨1, by decide, by decide, by decide⟩
  rw [hlast.unique hvalue]
  decide

/-- A header `id` whose value is another text: the identifier is in no field of the record. -/
theorem not_identifier_under_id :
    ¬ ∀ data rs, records data = .ok rs → ∀ k headerLine valueLine,
      PairAt (linesOf data) k headerLine valueLine →
        ∀ header, headerLine.fields.head? = some header →
          ∃ r, rs[k]? = some r ∧ r.get? idField = some (.text (identifier header)) := by
  intro h
  have haccepted : records "foo: id\nfoo: bar".toList = .ok
      [SortedMap.ofList [(idField, .text "bar".toList)]] := rfl
  obtain ⟨r, hr, hget⟩ := h _ _ haccepted 0 "foo: id".toList "foo: bar".toList
    ⟨by decide, by decide⟩ "foo:".toList (by decide)
  obtain rfl := Option.some.inj hr
  revert hget
  decide

end Telemetry.KeyRow
