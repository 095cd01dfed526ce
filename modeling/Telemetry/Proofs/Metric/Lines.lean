import Telemetry.CommandLine.Outcome
import Telemetry.Proofs.Json.Rendering
import Telemetry.Proofs.SortedMap
import Telemetry.Proofs.Text.Splitting
import Telemetry.Proofs.Value.Canonical

/-!
# Metrics read back from their lines

Every metric is printed on a line of its own, from which all that it says can be read: the text of
its namespace, its value, its instant and its tags. A value needs no mark of its kind. The strings
that stand for numbers that are not finite are the only ones that cannot be texts, since such a
text would have been parsed as a number.

## Main definitions

- `Metric.Reading` — what a line says
- `Value.ofJson?`, `Metric.readLine?` — reading a value and a line
- `Value.IsParsed` — a value that a token can be parsed to

## Main statements

- `Outcome.lines_printLines` — printed lines are the lines of the output
- `Value.ofJson?_printed` — a parsed value is read back
- `Metric.readLine?_line` — a metric is read back from its line
- `Metric.lines_faithful` — a list of metrics is read back from its output
-/

namespace Telemetry

-- ════════════════════════════════════════════════════════════════════════
-- Lines
-- ════════════════════════════════════════════════════════════════════════

namespace Outcome

variable {ls : List Text}

/-- The lines of what is printed are those of the printed texts, behind which there is nothing. -/
theorem lines_printLines_eq (ls : List Text) :
    Text.lines (printLines ls) = ls.flatMap Text.lines ++ [[]] := by
  induction ls with
  | nil => rfl
  | cons l ls ih =>
    have hcons : printLines (l :: ls) = l ++ '\n' :: printLines ls := by simp [printLines]
    rw [hcons, Text.lines_append, ih, List.flatMap_cons, List.append_assoc]

theorem flatMap_lines (h : ∀ l ∈ ls, '\n' ∉ l) : ls.flatMap Text.lines = ls := by
  have hlines : ∀ l ∈ ls, Text.lines l = [l] := fun l hl => Text.lines_of_not_mem (h l hl)
  rw [List.flatMap_congr hlines, List.flatMap_singleton']

/-- Printed lines are the lines of what is printed, behind which there is nothing. -/
theorem lines_printLines (h : ∀ l ∈ ls, '\n' ∉ l) : Text.lines (printLines ls) = ls ++ [[]] := by
  rw [lines_printLines_eq, flatMap_lines h]

end Outcome

theorem Json.lineFeed_not_mem_render (v : Json) : '\n' ∉ v.render := by
  intro h
  exact absurd (v.isPrintable_render '\n' h) (by decide)

-- ════════════════════════════════════════════════════════════════════════
-- Values
-- ════════════════════════════════════════════════════════════════════════

/-- The double that a number of a document stands for. -/
def Json.Numeral.toDouble : Json.Numeral → Float
  | natural n => Decimal.ofMagnitude false (Decimal.Scientific.magnitude ⟨n, 0⟩)
  | negative n => Decimal.ofMagnitude true (Decimal.Scientific.magnitude ⟨n, 0⟩)
  | double x => x

namespace Value

/-- The number that a string stands for: one that is not finite. -/
def nonFinite? (t : Text) : Option Float :=
  if t = "+Inf".toList then some (Decimal.infinity false)
  else if t = "-Inf".toList then some (Decimal.infinity true)
  else if t = "NaN".toList then some Decimal.notANumber
  else none

/-- The value that JSON stands for. -/
def ofJson? : Json → Option Value
  | .number n => some (.number n.toDouble)
  | .string t =>
    match nonFinite? t with
    | some x => some (.number x)
    | none => some (.text t)
  | _ => none

/-- A value is a number, or a text that some token is parsed to. -/
def IsParsed : Value → Prop
  | number _ => True
  | text t => ∃ token, parse token = .text t

theorem read?_of_nonFinite? {t : Text} {x : Float} (h : nonFinite? t = some x) :
    Decimal.read? t = some x := by
  unfold nonFinite? at h
  split_ifs at h with hplus hminus hnan
  all_goals
    subst t
    rw [← h]
    rfl

/-- A text that was parsed is not the name of a number. -/
theorem nonFinite?_of_isParsed {t : Text} (h : IsParsed (.text t)) : nonFinite? t = none := by
  obtain ⟨token, htoken⟩ := h
  have hread : Decimal.read? t = none := (parse_eq_text_iff.mp htoken).2
  cases hname : nonFinite? t with
  | none => rfl
  | some x =>
    rw [read?_of_nonFinite? hname] at hread
    cases hread

/-- The text of a number that is not finite is the name of the number. -/
theorem nonFinite?_write {x : Float} (h : Json.isFinite x = false) :
    nonFinite? (Decimal.document.write x) = some x := by
  unfold Json.isFinite at h
  rw [Decimal.Layout.write]
  cases hx : Decimal.Scalar.ofFloat x with
  | notANumber =>
    rw [← Decimal.eq_notANumber_of_notANumber hx]
    rfl
  | infinite negative =>
    rw [← Decimal.eq_infinity_of_infinite hx]
    cases negative <;> rfl
  | finite negative units =>
    rw [hx] at h
    cases h

/-- A parsed value is read back from what is printed of it. -/
theorem ofJson?_printed {v : Value} (h : v.IsParsed) : ofJson? v.json.printed = some v := by
  cases v with
  | text t =>
    have hname : nonFinite? t = none := nonFinite?_of_isParsed h
    have hprinted : (Value.text t).json.printed = .string t := rfl
    rw [hprinted, ofJson?, hname]
  | number x =>
    have hprinted : (Value.number x).json.printed =
        if Json.isFinite x then .number (.double x) else .string (Decimal.document.write x) := rfl
    rw [hprinted]
    cases hfinite : Json.isFinite x with
    | true => rfl
    | false =>
      have hname : nonFinite? (Decimal.document.write x) = some x := nonFinite?_write hfinite
      rw [if_neg Bool.false_ne_true, ofJson?, hname]

theorem inRange_json (v : Value) : v.json.InRange := by
  cases v <;> exact trivial

/-- Parsed values with the same text are the same. -/
theorem eq_of_render_eq {v v' : Value} (h : v.IsParsed) (h' : v'.IsParsed)
    (heq : v.json.render = v'.json.render) : v = v' := by
  have hparse : some v.json.printed = some v'.json.printed := by
    rw [← Json.parse?_render v.inRange_json, ← Json.parse?_render v'.inRange_json, heq]
  have hprinted : v.json.printed = v'.json.printed := Option.some.inj hparse
  have hread : some v = some v' := by
    rw [← ofJson?_printed h, ← ofJson?_printed h', hprinted]
  exact Option.some.inj hread

end Value

-- ════════════════════════════════════════════════════════════════════════
-- Metrics
-- ════════════════════════════════════════════════════════════════════════

/-- The value of a member of an object. -/
def Json.member? (key : Text) : Json → Option Json
  | object members => members.lookup key
  | _ => none

/-- The text of a string. -/
def Json.text? : Json → Option Text
  | string t => some t
  | _ => none

/-- The members of an object whose values are strings. -/
def Json.textMembers? : List (Text × Json) → Option (List (Text × Text))
  | [] => some []
  | (k, .string t) :: ms => (textMembers? ms).map ((k, t) :: ·)
  | _ => none

/-- The map of an object whose values are strings. -/
def Json.texts? : Json → Option (SortedMap Text Text)
  | object members => (textMembers? members).map SortedMap.ofList
  | _ => none

namespace Metric

/-- What a line says. -/
structure Reading where
  name : Text
  value : Value
  timestamp : Text
  tags : SortedMap Text Text

/-- What a metric says: its namespace and its instant as texts, its value and its tags. -/
def reading (m : Metric) : Reading where
  name := m.name.display
  value := m.value
  timestamp := m.timestamp.render
  tags := m.tags

/-- Reads a line as JSON. -/
def readLine? (line : Text) : Option Reading := do
  let v ← Json.parse? line
  let name ← (← v.member? "namespace".toList).text?
  let value ← Value.ofJson? (← v.member? "value".toList)
  let timestamp ← (← v.member? "timestamp".toList).text?
  let tags ← (← v.member? "tags".toList).texts?
  return ⟨name, value, timestamp, tags⟩

theorem textMembers?_textMembers (entries : List (Text × Text)) :
    Json.textMembers? (Json.textMembers entries) = some entries := by
  induction entries with
  | nil => rfl
  | cons e entries ih =>
    show (Json.textMembers? (Json.textMembers entries)).map ((e.1, e.2) :: ·) = _
    rw [ih]
    rfl

theorem inRange_json (m : Metric) : m.json.InRange :=
  ⟨trivial, m.value.inRange_json, trivial, Json.membersInRange_textMembers _, trivial⟩

theorem texts?_tags (m : Metric) :
    Json.texts? (.object (Json.printedMembers (Json.textMembers m.tags.toList))) = some m.tags := by
  rw [Json.printedMembers_textMembers, Json.texts?, textMembers?_textMembers, Option.map_some,
    SortedMap.ofList_of_perm (List.Perm.refl _)]

/-- A metric is read back from its line. -/
theorem readLine?_line {m : Metric} (h : m.value.IsParsed) : readLine? m.line = some m.reading := by
  have hparse : Json.parse? m.line = some m.json.printed := Json.parse?_render m.inRange_json
  have hname : m.json.printed.member? "namespace".toList = some (.string m.name.display) := rfl
  have hvalue : m.json.printed.member? "value".toList = some m.value.json.printed := rfl
  have htimestamp :
      m.json.printed.member? "timestamp".toList = some (.string m.timestamp.render) := rfl
  have htags : m.json.printed.member? "tags".toList =
      some (.object (Json.printedMembers (Json.textMembers m.tags.toList))) := rfl
  simp only [readLine?, hparse, hname, hvalue, htimestamp, htags, Json.text?,
    Value.ofJson?_printed h, texts?_tags, Option.bind_eq_bind, Option.bind_some]
  rfl

/-- The lines of an output are those of some metrics, one for each, and say what the metrics say. -/
def ReadBackFrom (ms : List Metric) (output : Text) : Prop :=
  ∃ ls : List Text, Text.lines output = ls ++ [[]] ∧
    List.Forall₂ (fun l m => readLine? l = some m.reading) ls ms

theorem readBackFrom_printLines {ms : List Metric} (h : ∀ m ∈ ms, m.value.IsParsed) :
    ReadBackFrom ms (Outcome.printLines (ms.map line)) := by
  refine ⟨ms.map line, Outcome.lines_printLines ?_, ?_⟩
  · intro l hl
    obtain ⟨m, -, rfl⟩ := List.mem_map.mp hl
    exact m.json.lineFeed_not_mem_render
  · rw [List.forall₂_map_left_iff, List.forall₂_same]
    exact fun m hm => readLine?_line (h m hm)

/-- Metrics with parsed values are read back from what is printed of them, and so from what a
    collection prints: every one from its own line, with its namespace, its value to the last bit
    and all its tags. No text is printed like a number. -/
theorem lines_faithful :
    (∀ ms : List Metric, (∀ m ∈ ms, m.value.IsParsed) →
      ReadBackFrom ms (Outcome.printLines (ms.map line))) ∧
    (∀ config source defaults clock harvest,
      (Collector.empty.collect source defaults clock config).1 = .ok harvest →
      (∀ m ∈ harvest.metrics, m.value.IsParsed) →
      ReadBackFrom harvest.metrics (Command.collect.run config source defaults clock).output) ∧
    ∀ x t, Value.IsParsed (.text t) →
      (Value.number x).json.render ≠ (Value.text t).json.render := by
  refine ⟨?_, ?_, ?_⟩
  · intro ms h
    exact readBackFrom_printLines h
  · intro config source defaults clock harvest hharvest h
    rw [Command.run, hharvest]
    exact readBackFrom_printLines h
  · intro x t h heq
    have hvalue : Value.number x = .text t := Value.eq_of_render_eq trivial h heq
    cases hvalue

/-- A metric whose namespace, value and tags have line feeds and quotes in them, one that is not a
    number, and the collection of a document without configurations. -/
theorem lines_faithful_samples :
    let odd : Metric := ⟨⟨[⟨"a\n".toList, some "x".toList⟩]⟩, .text "up \n \"1\"".toList, ⟨0, 0⟩,
      .ofList [("\"".toList, "\n".toList)]⟩
    let nan : Metric := ⟨⟨[⟨"a".toList, none⟩]⟩, .number Decimal.notANumber, ⟨0, 0⟩, .empty⟩
    let source : Source := ⟨fun _ => .ok [], fun _ => .ok ['[', ']']⟩
    let none : Harvest := ⟨[], [], .fixed ⟨0, 0⟩⟩
    ((∀ m ∈ [odd, nan], m.value.IsParsed) ∧
      ReadBackFrom [odd, nan] (Outcome.printLines ([odd, nan].map line))) ∧
    ((Collector.empty.collect source .empty (.fixed ⟨0, 0⟩) ['p']).1 = .ok none ∧
      ReadBackFrom [] (Command.collect.run ['p'] source .empty (.fixed ⟨0, 0⟩)).output) ∧
    Value.IsParsed (.text "1 2".toList) ∧
      (Value.number (.ofBits 0)).json.render ≠ (Value.text "1 2".toList).json.render := by
  intro odd nan source none
  obtain ⟨hlist, hcollect, htext⟩ := lines_faithful
  have hparsed : ∀ m ∈ [odd, nan], m.value.IsParsed := by
    have hodd : Value.IsParsed odd.value := ⟨"up \n \"1\"".toList, rfl⟩
    intro m hm
    obtain rfl | rfl := by simpa using hm
    · exact hodd
    · exact trivial
  have hload : Configuration.load ['[', ']'] = .ok [] := by
    have hspelled : Json.DocumentSpelledBy (.array []) ['[', ']'] :=
      .mk Json.isSpace_nil (.array (.nil Json.isSpace_nil)) Json.isSpace_nil
    rw [Configuration.load, RawConfiguration.decodeAll, Json.ofTokens_documentSpelledBy hspelled]
    rfl
  have hempty : (Collector.empty.collect source .empty (.fixed ⟨0, 0⟩) ['p']).1 = .ok none := by
    have hconfigs : source.loadConfigs ['p'] = .ok [] := by
      simp only [Source.loadConfigs, source, hload]
    rw [Collector.collect, Collector.configs, hconfigs]
    rfl
  have htwo : Value.IsParsed (.text "1 2".toList) := ⟨"1 2".toList, rfl⟩
  exact ⟨⟨hparsed, hlist _ hparsed⟩,
    ⟨hempty, hcollect _ _ _ _ none hempty fun m hm => absurd hm List.not_mem_nil⟩,
    htwo, htext _ _ htwo⟩

end Metric

end Telemetry
