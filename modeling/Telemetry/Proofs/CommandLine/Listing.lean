import Telemetry.CommandLine.Outcome
import Telemetry.Proofs.Collector.Cache
import Telemetry.Proofs.Configuration.Ordering
import Telemetry.Proofs.Metric.Lines

/-!
# Namespaces read back from their lines

A namespace pattern is printed as it is displayed. Padding is taken off the ends of its parts only,
so there may be a line feed inside of a part, and then the pattern is printed on several lines. The
lines of a listing are the patterns of the listing exactly if there is no such part; if there is
one, some line is no pattern, so that a reader notices. A reader that takes a carriage return for a
part of the line ending needs patterns that do not end with one, too, and does not notice.

## Main definitions

- `Outcome.printedLines` — the lines of an output
- `Namespace.ReadFrom` — some lines are read as some namespaces, one from each
- `Namespace.IsOneLine` — there is no line feed in the parts of a pattern

## Main statements

- `Outcome.printedLines_printLines` — the lines of an output are those of the texts printed
- `Namespace.readFrom_printedLines_iff` — the listings that are read back
- `Namespace.readFrom_iff_forall_parsed` — in the others, some line is no pattern
- `Command.discover_lines` — the listings that are read back, for documents
- `Command.not_readFrom_discover` — a pattern that is printed on two lines
-/

namespace Telemetry

-- ════════════════════════════════════════════════════════════════════════
-- Lines
-- ════════════════════════════════════════════════════════════════════════

namespace Outcome

/-- The lines of an output, each of which is ended by a line feed. -/
def printedLines (output : Text) : List Text :=
  (Text.lines output).dropLast

/-- A line without the carriage return that may belong to its end. -/
def withoutReturn (line : Text) : Text :=
  if line.getLast? = some '\r' then line.dropLast else line

variable {ls : List Text}

/-- The lines of an output are those of the texts that are printed. -/
theorem printedLines_printLines (ls : List Text) :
    printedLines (printLines ls) = ls.flatMap Text.lines := by
  rw [printedLines, lines_printLines_eq, List.dropLast_concat]

theorem length_flatMap_lines (ls : List Text) :
    (ls.flatMap Text.lines).length = ls.length + (ls.map (List.count '\n')).sum := by
  induction ls with
  | nil => rfl
  | cons l ls ih =>
    rw [List.flatMap_cons, List.length_append, ih, Text.lines, Text.length_splitChar,
      List.length_cons, List.map_cons, List.sum_cons]
    omega

/-- There are as many lines as texts exactly if each text is one line. -/
theorem length_flatMap_lines_eq_iff :
    (ls.flatMap Text.lines).length = ls.length ↔ ∀ l ∈ ls, '\n' ∉ l := by
  rw [length_flatMap_lines, Nat.add_eq_left, List.sum_eq_zero_iff, List.forall_mem_map]
  simp only [List.count_eq_zero]

end Outcome

-- ════════════════════════════════════════════════════════════════════════
-- Listings
-- ════════════════════════════════════════════════════════════════════════

namespace Namespace

open Outcome (printLines printedLines withoutReturn)

/-- Some lines are read as some namespaces, one namespace from each line. -/
def ReadFrom (ls : List Text) (namespaces : List Namespace) : Prop :=
  ls.map parse = namespaces.map .ok

/-- There is no line feed in the parts of a pattern. -/
def IsOneLine (p : Text) : Prop :=
  ∀ part ∈ parts p.tail, '\n' ∉ part

variable {p : Text} {ns : Namespace} {namespaces : List Namespace}

/-- A pattern is displayed on one line exactly if there is no line feed in its parts. -/
theorem isOneLine_iff (h : parse p = .ok ns) : IsOneLine p ↔ '\n' ∉ ns.display := by
  have hslash : '\n' ∉ ['/'] := by decide
  rw [display_eq_join h, ← List.count_eq_zero, List.count_cons_of_ne (by decide),
    Text.count_join hslash, List.count_eq_zero, List.mem_flatten]
  simp only [IsOneLine, not_exists, not_and]

/-- A listing is read back, each line with something taken off its end, exactly if there is no line
    feed in a namespace and each namespace is still read without what is taken off. -/
theorem readFrom_map_iff (trim : Text → Text) (namespaces : List Namespace) :
    ReadFrom ((printedLines (printLines (namespaces.map display))).map trim) namespaces ↔
      ∀ ns ∈ namespaces, '\n' ∉ ns.display ∧ parse (trim ns.display) = .ok ns := by
  have hread : ReadFrom ((namespaces.map display).map trim) namespaces ↔
      ∀ ns ∈ namespaces, parse (trim ns.display) = .ok ns := by
    rw [ReadFrom, List.map_map, List.map_map, List.map_inj_left]
    rfl
  have hlines : (∀ l ∈ namespaces.map display, '\n' ∉ l) ↔
      ∀ ns ∈ namespaces, '\n' ∉ ns.display := List.forall_mem_map
  rw [Outcome.printedLines_printLines, forall₂_and, ← hread, ← hlines]
  constructor
  · intro h
    have hlength := congrArg List.length h
    simp only [List.length_map] at hlength
    rw [← List.length_map display] at hlength
    have hfree := Outcome.length_flatMap_lines_eq_iff.mp hlength
    rw [Outcome.flatMap_lines hfree] at h
    exact ⟨hfree, h⟩
  · rintro ⟨hfree, h⟩
    rwa [Outcome.flatMap_lines hfree]

/-- A listing is read back exactly if there is no line feed in a namespace. -/
theorem readFrom_printedLines_iff (h : ∀ ns ∈ namespaces, parse ns.display = .ok ns) :
    ReadFrom (printedLines (printLines (namespaces.map display))) namespaces ↔
      ∀ ns ∈ namespaces, '\n' ∉ ns.display := by
  have hiff := readFrom_map_iff id namespaces
  rw [List.map_id] at hiff
  rw [hiff]
  exact forall₂_congr fun ns hns => and_iff_left (h ns hns)

/-- A namespace that is displayed on several lines has a line that is no pattern: behind a line feed
    the part goes on, so there is no slash. -/
theorem exists_line_of_mem_display (h : parse ns.display = .ok ns) (hfeed : '\n' ∈ ns.display) :
    ∃ l ∈ ns.display.lines, ∀ ns', parse l ≠ .ok ns' := by
  have hmany : ¬ IsOneLine ns.display := fun hone => (isOneLine_iff h).mp hone hfeed
  simp only [IsOneLine, not_forall, not_not] at hmany
  obtain ⟨part, hpart, hmem⟩ := hmany
  obtain ⟨front, rest, rfl⟩ := List.append_of_mem hmem
  obtain ⟨noSlash, stripped, -⟩ := isPart_of_mem_parts hpart
  obtain ⟨c, rest, rfl⟩ : ∃ c rest', rest = c :: rest' := by
    refine List.exists_cons_of_ne_nil ?_
    rintro rfl
    cases (Text.strip_eq_self_iff.mp stripped).2 '\n' (by simp)
  obtain ⟨before, after, hdisplay⟩ := Text.infix_join_of_mem ['/'] hpart
  have hlines : ns.display.lines =
      Text.lines ('/' :: before ++ front) ++ Text.lines (c :: rest ++ after) := by
    rw [← Text.lines_append, display_eq_join h, ← hdisplay]
    simp
  -- The first line behind the line feed is empty or starts as the part goes on, without a slash.
  obtain ⟨l, hl, hstart⟩ := Text.exists_prefix_mem_lines (c :: rest ++ after)
  refine ⟨l, hlines ▸ List.mem_append_right _ hl, fun ns' hns' => noSlash ?_⟩
  obtain ⟨⟨hslash, -, -, -, -, -⟩, -⟩ := isPattern_and_forall₂_of_parse hns'
  obtain ⟨l, rfl⟩ := List.head?_eq_some_iff.mp hslash
  obtain ⟨behind, hbehind⟩ := hstart
  obtain rfl : '/' = c := (List.cons.inj hbehind).1
  simp

/-- A listing that is not read back has a line that is no pattern. -/
theorem readFrom_iff_forall_parsed (h : ∀ ns ∈ namespaces, parse ns.display = .ok ns) :
    ReadFrom (printedLines (printLines (namespaces.map display))) namespaces ↔
      ∀ l ∈ printedLines (printLines (namespaces.map display)), ∃ ns, parse l = .ok ns := by
  constructor
  · intro hread l hl
    have hparse : parse l ∈ namespaces.map Except.ok := hread ▸ List.mem_map_of_mem hl
    obtain ⟨ns, -, hns⟩ := List.mem_map.mp hparse
    exact ⟨ns, hns.symm⟩
  · intro hall
    refine (readFrom_printedLines_iff h).mpr fun ns hns hfeed => ?_
    obtain ⟨l, hl, hnone⟩ := exists_line_of_mem_display (h ns hns) hfeed
    rw [Outcome.printedLines_printLines] at hall
    obtain ⟨ns', hns'⟩ := hall l (List.mem_flatMap.mpr ⟨_, List.mem_map_of_mem hns, hl⟩)
    exact hnone ns' hns'

/-- A namespace that ends with a carriage return is another one without it. -/
theorem parse_withoutReturn_iff (h : parse ns.display = .ok ns) :
    parse (withoutReturn ns.display) = .ok ns ↔ ns.display.getLast? ≠ some '\r' := by
  by_cases hlast : ns.display.getLast? = some '\r'
  · refine ⟨fun hread => ?_, fun hne => absurd hlast hne⟩
    obtain ⟨front, hfront⟩ := List.getLast?_eq_some_iff.mp hlast
    rw [withoutReturn, if_pos hlast, hfront, List.dropLast_concat] at hread
    -- The carriage return is no padding, so there are as many of them without it as with it.
    have hcount := count_display hread (c := '\r') (by decide) (by decide)
    rw [hfront, List.count_append] at hcount
    simp at hcount
  · rw [withoutReturn, if_neg hlast]
    exact ⟨fun _ => hlast, fun _ => h⟩

/-- A listing is read back by a reader that takes carriage returns for a part of the line endings
    exactly if there is no line feed in a namespace and no namespace ends with a carriage return. -/
theorem readFrom_withoutReturn_iff (h : ∀ ns ∈ namespaces, parse ns.display = .ok ns) :
    ReadFrom ((printedLines (printLines (namespaces.map display))).map withoutReturn) namespaces ↔
      ∀ ns ∈ namespaces, '\n' ∉ ns.display ∧ ns.display.getLast? ≠ some '\r' := by
  rw [readFrom_map_iff]
  exact forall₂_congr fun ns hns => and_congr_right fun _ => parse_withoutReturn_iff (h ns hns)

end Namespace

-- ════════════════════════════════════════════════════════════════════════
-- Documents
-- ════════════════════════════════════════════════════════════════════════

namespace Configuration

variable {raw : RawConfiguration} {entries : List (Text × Text)} {config : Configuration}

theorem parse_display_of_mem_namespaces (hconfig : ofRaw raw = .ok config) {ns : Namespace}
    (hns : ns ∈ config.namespaces) : Namespace.parse ns.display = .ok ns := by
  obtain ⟨m, hm, rfl⟩ := List.mem_map.mp hns
  obtain ⟨e, -, he⟩ := exists_mem_of_forall₂ (forall₂_isMeasureOf hconfig) hm
  exact Namespace.parse_display_eq he.1

/-- The namespaces of a configuration are displayed on one line exactly if its patterns are. -/
theorem forall_isOneLine_iff (h : MetricsFrom raw entries) (hconfig : ofRaw raw = .ok config) :
    (∀ p ∈ entries.map Prod.fst, Namespace.IsOneLine p) ↔
      ∀ ns ∈ config.namespaces, '\n' ∉ ns.display := by
  simp only [← mem_patterns_iff h, namespaces, List.forall_mem_map]
  exact forall_mem_iff_of_forall₂ (forall₂_isMeasureOf hconfig) fun _ _ hm =>
    Namespace.isOneLine_iff hm.1

end Configuration

namespace Command

open Namespace (ReadFrom IsOneLine)
open Outcome (printedLines withoutReturn)

theorem run_discover {config : Path} {source : Source} {configs : List Configuration}
    (h : source.loadConfigs config = .ok configs) (defaults : Record) (clock : Clock) :
    let namespaces := configs.flatMap Configuration.namespaces
    (Collector.empty.discover source config).1 = .ok namespaces ∧
      discover.run config source defaults clock =
        ⟨Outcome.success, Outcome.printLines (namespaces.map Namespace.display), []⟩ := by
  intro namespaces
  have hdiscover : (Collector.empty.discover source config).1 = .ok namespaces := by
    have hkept : Collector.empty.kept? config = none := rfl
    rw [Collector.discover_fst, Collector.inEffect, hkept, h]
    rfl
  exact ⟨hdiscover, by rw [run, hdiscover]⟩

/-- A document that loads is answered with the namespaces of its configurations, which are printed,
    and nothing else is. The lines of what is printed are those of the displayed namespaces. They
    are read as these namespaces, one from each line and in order, exactly if there is no line feed
    in the parts of any pattern of the document; otherwise some line is not a pattern. If a carriage
    return may be a part of the line ending, it must not be the end of a namespace, either. -/
theorem discover_lines {config : Path} {source : Source} {document : Text}
    {configs : List Configuration} (hread : source.read config = .ok document)
    (hload : Configuration.load document = .ok configs) (defaults : Record) (clock : Clock) :
    let namespaces := configs.flatMap Configuration.namespaces
    (Collector.empty.discover source config).1 = .ok namespaces ∧
    ∃ output lists, discover.run config source defaults clock = ⟨Outcome.success, output, []⟩ ∧
      printedLines output = namespaces.flatMap (fun ns => ns.display.lines) ∧
      RawConfiguration.HaveMetrics document lists ∧
      (∀ lists', RawConfiguration.HaveMetrics document lists' → lists' = lists) ∧
      (ReadFrom (printedLines output) namespaces ↔
        ∀ entries ∈ lists, ∀ p ∈ entries.map Prod.fst, IsOneLine p) ∧
      (ReadFrom (printedLines output) namespaces ↔
        ∀ l ∈ printedLines output, ∃ ns, Namespace.parse l = .ok ns) ∧
      (ReadFrom ((printedLines output).map withoutReturn) namespaces ↔
        (∀ entries ∈ lists, ∀ p ∈ entries.map Prod.fst, IsOneLine p) ∧
          ∀ ns ∈ namespaces, ns.display.getLast? ≠ some '\r') := by
  intro namespaces
  obtain ⟨hdiscover, hrun⟩ := run_discover
    ((source.loadConfigs_eq_ok_iff config configs).mpr ⟨document, hread, hload⟩) defaults clock
  obtain ⟨raws, lists, hlists, hunique, hfrom, hofRaw⟩ := Configuration.exists_of_load hload
  have hparse : ∀ ns ∈ namespaces, Namespace.parse ns.display = .ok ns := by
    intro ns hns
    obtain ⟨config, hconfig, hns⟩ := List.mem_flatMap.mp hns
    obtain ⟨raw, -, hraw⟩ := exists_mem_of_forall₂ hofRaw hconfig
    exact Configuration.parse_display_of_mem_namespaces hraw hns
  have honeLine : (∀ entries ∈ lists, ∀ p ∈ entries.map Prod.fst, IsOneLine p) ↔
      ∀ ns ∈ namespaces, '\n' ∉ ns.display := by
    rw [List.forall_mem_flatMap]
    exact forall_mem_iff_of_forall₂ (forall₂_of_common hfrom hofRaw fun _ _ _ hentries hconfig =>
      Configuration.forall_isOneLine_iff hentries hconfig) fun _ _ hiff => hiff
  refine ⟨hdiscover, _, lists, hrun, ?_, hlists, hunique, ?_, ?_, ?_⟩
  · rw [Outcome.printedLines_printLines, List.flatMap_map]
  · rw [honeLine, Namespace.readFrom_printedLines_iff hparse]
  · exact Namespace.readFrom_iff_forall_parsed hparse
  · rw [honeLine, Namespace.readFrom_withoutReturn_iff hparse, forall₂_and]

/-- A pattern with a blank inside and one with padding. -/
theorem discover_lines_padded :
    let document := Configuration.pairedDocument ['f']
      [("/b c".toList, ['1']), ("/ a\n/d".toList, ['2'])]
    let source : Source := ⟨fun _ => .ok [], fun _ => .ok document⟩
    ∃ namespaces output, (Collector.empty.discover source ['p']).1 = .ok namespaces ∧
      discover.run ['p'] source .empty (.fixed ⟨0, 0⟩) = ⟨Outcome.success, output, []⟩ ∧
      ReadFrom (printedLines output) namespaces ∧
      ReadFrom ((printedLines output).map withoutReturn) namespaces := by
  intro document source
  have hload : ∃ configs, Configuration.load document = .ok configs ∧
      ∀ ns ∈ configs.flatMap Configuration.namespaces, ns.display.getLast? ≠ some '\r' :=
    ⟨_, (Configuration.load_pairedDocument _ _).trans rfl, by decide⟩
  obtain ⟨configs, hconfigs, hreturn⟩ := hload
  have hread : source.read ['p'] = .ok document := rfl
  obtain ⟨hdiscover, output, lists, hrun, -, -, hunique, hlines, -, hreturns⟩ :=
    discover_lines hread hconfigs .empty (.fixed ⟨0, 0⟩)
  have hlists := hunique _ (Configuration.haveMetrics_pairedDocument ['f'] _)
  have honeLine : ∀ entries ∈ lists, ∀ p ∈ entries.map Prod.fst, IsOneLine p := by
    rw [← hlists, List.forall_mem_singleton]
    unfold IsOneLine
    decide
  exact ⟨_, output, hdiscover, hrun, hlines.mpr honeLine, hreturns.mpr ⟨honeLine, hreturn⟩⟩

/-- Not every listing is read back: a pattern with a line feed inside is printed on two lines, and
    one that ends with a carriage return is taken for another one if the line endings are. -/
theorem not_readFrom_discover :
    let source : Text → Source := fun p =>
      ⟨fun _ => .ok [], fun _ => .ok (Configuration.pairedDocument ['x'] [(p, ['1'])])⟩
    let output : Text → Text := fun p =>
      (discover.run ['p'] (source p) .empty (.fixed ⟨0, 0⟩)).output
    ((Collector.empty.discover (source "/a\nb".toList) ['p']).1 =
        .ok [⟨[.static "a\nb".toList]⟩] ∧
      printedLines (output "/a\nb".toList) = ["/a".toList, ['b']] ∧
      ¬ ReadFrom (printedLines (output "/a\nb".toList)) [⟨[.static "a\nb".toList]⟩]) ∧
    (Collector.empty.discover (source "/a\r".toList) ['p']).1 = .ok [⟨[.static "a\r".toList]⟩] ∧
      printedLines (output "/a\r".toList) = ["/a\r".toList] ∧
      ReadFrom ((printedLines (output "/a\r".toList)).map withoutReturn) [⟨[.static ['a']]⟩] := by
  intro source output
  have hload : ∀ p configs, Configuration.ofRawAll [Configuration.pairedConfiguration ['x']
      [(p, ['1'])]] = .ok configs → (source p).loadConfigs ['p'] = .ok configs := by
    intro p configs hconfigs
    exact ((source p).loadConfigs_eq_ok_iff _ _).mpr
      ⟨_, rfl, (Configuration.load_pairedDocument _ _).trans hconfigs⟩
  obtain ⟨hfeed, hfeedRun⟩ := run_discover (hload "/a\nb".toList _ rfl) .empty (.fixed ⟨0, 0⟩)
  obtain ⟨hreturn, hreturnRun⟩ := run_discover (hload "/a\r".toList _ rfl) .empty (.fixed ⟨0, 0⟩)
  have hfeedLines : printedLines (output "/a\nb".toList) = ["/a".toList, ['b']] := by
    simp only [output, hfeedRun]
    rfl
  have hreturnLines : printedLines (output "/a\r".toList) = ["/a\r".toList] := by
    simp only [output, hreturnRun]
    rfl
  refine ⟨⟨hfeed, hfeedLines, fun hread => ?_⟩, hreturn, hreturnLines, ?_⟩
  · rw [hfeedLines] at hread
    cases congrArg List.length hread
  · rw [hreturnLines]
    rfl

end Command

end Telemetry
