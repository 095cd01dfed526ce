import Mathlib.Data.List.Forall2
import Telemetry.Proofs.Collection.Layers

/-!
# The traversal of a collection

A collection goes through the files of its pattern, through the records of each file, and through
the measures for each record. Here this way is laid out as a flat list of steps, and the collection
is compared with it: it fails with the error of the first step that fails, and otherwise makes one
metric for each triple of a file, a record and a measure.

## Main definitions

- `Occasion` — a triple of a file, a record and a measure
- `CollectStep`, `CollectStep.failure?` — a step of a collection, and its error if it fails
- `Configuration.steps`, `Configuration.occasions` — all steps and all triples, in order
- `Metric.MadeFor` — a metric is the one of a triple

## Main statements

- `Follows.concat` — parts that follow their steps do so one behind the other
- `Configuration.collect_traversal` — a collection is what its steps and triples say
-/

namespace Telemetry

-- ════════════════════════════════════════════════════════════════════════
-- Steps
-- ════════════════════════════════════════════════════════════════════════

/-- A triple of a file, a record in it and a measure, for which a metric is to be made. -/
structure Occasion where
  path : Path
  record : Record
  measure : Measure

/-- What names stand for at an occasion: fields of its record, and otherwise default variables. -/
def Occasion.context (o : Occasion) (defaults : Record) : Context :=
  o.record.fieldOrDefault defaults

/-- A step of a collection that can fail. -/
inductive CollectStep
  /-- The expansion of the pattern of the files. -/
  | glob
  | read (path : Path)
  /-- The splitting of the contents of a file into records. -/
  | split (path : Path) (contents : Text)
  | bind (o : Occasion)
  | evaluate (o : Occasion)

/-- The error of a result in its setting, if the result is an error. -/
def errorOf? {ε ε' α : Type} (wrap : ε → ε') : Except ε α → Option ε'
  | .error e => some (wrap e)
  | .ok _ => none

/-- The members of the list that a result holds; an error holds none. -/
def attained {ε α : Type} : Except ε (List α) → List α
  | .error _ => []
  | .ok as => as

/-- The error of a step, with its pattern, path or expression, if the step fails. -/
def CollectStep.failure? (c : Configuration) (source : Source) (defaults : Record) :
    CollectStep → Option CollectError
  | glob => errorOf? .glob (source.glob c.file)
  | read path => errorOf? (.read path) (source.read path)
  | split path contents => errorOf? (.format path) (c.format.records contents)
  | bind o =>
    errorOf? (.bind o.measure.target.display)
      (o.measure.target.bind o.path (o.context defaults))
  | evaluate o =>
    errorOf? (.eval o.measure.expression.source)
      (o.measure.expression.evaluate (o.context defaults))

/-- A metric is the one of an occasion, but for its instant. -/
structure Metric.MadeFor (c : Configuration) (defaults : Record) (o : Occasion) (m : Metric) :
    Prop where
  name : o.measure.target.bind o.path (o.context defaults) = .ok m.name
  value : o.measure.expression.evaluate (o.context defaults) = .ok m.value
  tags : m.tags = c.tags

namespace Configuration

/-- The files of a configuration. -/
def files (c : Configuration) (source : Source) : List Path :=
  attained (source.glob c.file)

/-- The records of a text in the format of a configuration. -/
def recordsOf (c : Configuration) (contents : Text) : List Record :=
  attained (c.format.records contents)

/-- The records of a file. -/
def recordsAt (c : Configuration) (source : Source) (path : Path) : List Record :=
  match source.read path with
  | .error _ => []
  | .ok contents => c.recordsOf contents

/-- The occasions in a file: for each record, each measure. -/
def occasionsAt (c : Configuration) (source : Source) (path : Path) : List Occasion :=
  (c.recordsAt source path).flatMap fun record => c.measures.map fun m => ⟨path, record, m⟩

/-- The occasions of a collection, in order. -/
def occasions (c : Configuration) (source : Source) : List Occasion :=
  (c.files source).flatMap (c.occasionsAt source)

/-- The steps for a record: for each measure, the binding before the evaluation. -/
def stepsFor (c : Configuration) (path : Path) (record : Record) : List CollectStep :=
  c.measures.flatMap fun m => [.bind ⟨path, record, m⟩, .evaluate ⟨path, record, m⟩]

/-- The steps for a file, as far as they can be taken. -/
def stepsAt (c : Configuration) (source : Source) (path : Path) : List CollectStep :=
  .read path ::
    match source.read path with
    | .error _ => []
    | .ok contents => .split path contents :: (c.recordsOf contents).flatMap (c.stepsFor path)

/-- The steps of a collection, in order. -/
def steps (c : Configuration) (source : Source) : List CollectStep :=
  .glob :: (c.files source).flatMap (c.stepsAt source)

end Configuration

-- ════════════════════════════════════════════════════════════════════════
-- Parts of a collection
-- ════════════════════════════════════════════════════════════════════════

/-- A part of a collection follows its steps and occasions: it fails with the error of the first
    step that fails, and otherwise makes a metric for each occasion, reading the clock for each. -/
def Follows (c : Configuration) (source : Source) (defaults : Record) (ss : List CollectStep)
    (os : List Occasion) (part : Collecting) : Prop :=
  ∀ clock,
    match ss.findSome? (CollectStep.failure? c source defaults) with
    | some e => ∃ n, part clock = (.error e, clock.after n)
    | none => ∃ ms, part clock = (.ok ms, clock.after ms.length) ∧
        List.Forall₂ (Metric.MadeFor c defaults) os ms ∧
        ms.map Metric.timestamp = clock.readings ms.length

namespace Follows

variable {c : Configuration} {source : Source} {defaults : Record}

/-- A part that fails right away follows every list of steps of which the first fails so. -/
theorem fail {s : CollectStep} {e : CollectError} (hs : s.failure? c source defaults = some e)
    (ss : List CollectStep) (os : List Occasion) :
    Follows c source defaults (s :: ss) os (.fail e) := by
  intro clock
  rw [List.findSome?_cons, hs]
  exact ⟨0, by simp [Collecting.fail]⟩

/-- A step that succeeds may be put in front. -/
theorem cons {s : CollectStep} {ss : List CollectStep} {os : List Occasion} {part : Collecting}
    (hs : s.failure? c source defaults = none) (h : Follows c source defaults ss os part) :
    Follows c source defaults (s :: ss) os part := by
  intro clock
  simpa [hs] using h clock

/-- Parts that follow their steps and occasions do so one behind the other. -/
theorem concat {α : Type} {ss : α → List CollectStep} {os : α → List Occasion}
    {part : α → Collecting} (h : ∀ a, Follows c source defaults (ss a) (os a) (part a))
    (as : List α) :
    Follows c source defaults (as.flatMap ss) (as.flatMap os) (.concat part as) := by
  induction as with
  | nil => exact fun clock => ⟨[], by simp [Collecting.concat], .nil, rfl⟩
  | cons a as ih =>
    intro clock
    -- The rest starts with the clock as the first part leaves it, after one reading per metric.
    have ha := h a clock
    simp only [List.flatMap_cons, List.findSome?_append, Collecting.concat]
    cases hf : (ss a).findSome? (CollectStep.failure? c source defaults) with
    | some e =>
      rw [hf] at ha
      obtain ⟨n, hn⟩ := ha
      exact ⟨n, by rw [hn]⟩
    | none =>
      rw [hf] at ha
      obtain ⟨ms, hms, hmade, htime⟩ := ha
      have hrest := ih (clock.after ms.length)
      simp only [hms, Option.none_or]
      cases hf' : (as.flatMap ss).findSome? (CollectStep.failure? c source defaults) with
      | some e =>
        rw [hf'] at hrest
        obtain ⟨n, hn⟩ := hrest
        exact ⟨ms.length + n, by rw [hn, Clock.after_after]⟩
      | none =>
        rw [hf'] at hrest
        obtain ⟨ms', hms', hmade', htime'⟩ := hrest
        refine ⟨ms ++ ms', ?_, List.rel_append hmade hmade', ?_⟩
        · rw [hms', List.length_append, Clock.after_after]
        · rw [List.map_append, htime, htime', List.length_append, Clock.readings_add]

/-- The part of an occasion binds the namespace and then evaluates the expression. -/
theorem single (path : Path) (record : Record) (m : Measure) :
    Follows c source defaults [.bind ⟨path, record, m⟩, .evaluate ⟨path, record, m⟩]
      [⟨path, record, m⟩]
      (.single fun now => m.metric path (record.context defaults) now c.tags) := by
  intro clock
  simp only [Collecting.single, Measure.metric, List.findSome?_cons, CollectStep.failure?,
    Occasion.context, Record.context_eq_fieldOrDefault]
  cases hname : m.target.bind path (record.fieldOrDefault defaults) with
  | error e => exact ⟨1, rfl⟩
  | ok name =>
    cases hvalue : m.expression.evaluate (record.fieldOrDefault defaults) with
    | error e => exact ⟨1, rfl⟩
    | ok value =>
      refine ⟨[⟨name, value, clock.now, c.tags⟩], rfl, ?_, rfl⟩
      exact .cons ⟨hname, hvalue, rfl⟩ .nil

end Follows

namespace Configuration

variable (c : Configuration) (source : Source) (defaults : Record)

theorem follows_metricsOfRecord (path : Path) (record : Record) :
    Follows c source defaults (c.stepsFor path record)
      (c.measures.map fun m => ⟨path, record, m⟩) (c.metricsOfRecord defaults path record) := by
  rw [List.map_eq_flatMap]
  exact Follows.concat (fun m => .single path record m) c.measures

theorem follows_metricsOfFile (path : Path) :
    Follows c source defaults (c.stepsAt source path) (c.occasionsAt source path)
      (c.metricsOfFile source defaults path) := by
  rw [stepsAt, occasionsAt, recordsAt, metricsOfFile]
  cases hread : source.read path with
  | error e => exact .fail (by simp [CollectStep.failure?, hread, errorOf?]) _ _
  | ok contents =>
    refine .cons (by simp [CollectStep.failure?, hread, errorOf?]) ?_
    simp only [recordsOf]
    cases hsplit : c.format.records contents with
    | error e =>
      have hs : (CollectStep.split path contents).failure? c source defaults =
          some (.format path e) := by
        simp [CollectStep.failure?, hsplit, errorOf?]
      exact .fail hs _ _
    | ok records =>
      refine .cons (by simp [CollectStep.failure?, hsplit, errorOf?]) ?_
      exact .concat (c.follows_metricsOfRecord source defaults path) records

/-- A whole collection follows its steps and occasions. -/
theorem follows_collecting :
    Follows c source defaults (c.steps source) (c.occasions source)
      (c.collecting source defaults) := by
  simp only [steps, occasions, files, collecting]
  cases hglob : source.glob c.file with
  | error e => exact .fail (by simp [CollectStep.failure?, hglob, errorOf?]) _ _
  | ok paths =>
    refine .cons (by simp [CollectStep.failure?, hglob, errorOf?]) ?_
    exact .concat (c.follows_metricsOfFile source defaults) paths

end Configuration

-- ════════════════════════════════════════════════════════════════════════
-- The collection as a whole
-- ════════════════════════════════════════════════════════════════════════

/-- What a metric says, whenever it was made. -/
def Metric.content (m : Metric) : BoundNamespace × Value × SortedMap Text Text :=
  (m.name, m.value, m.tags)

theorem Metric.eq_of_map_eq {ms ms' : List Metric}
    (hcontent : ms.map Metric.content = ms'.map Metric.content)
    (htime : ms.map Metric.timestamp = ms'.map Metric.timestamp) : ms = ms' := by
  induction ms generalizing ms' with
  | nil => simpa using hcontent
  | cons m ms ih =>
    cases ms' with
    | nil => cases hcontent
    | cons m' ms' =>
      obtain ⟨hc, hcs⟩ := List.cons.inj hcontent
      obtain ⟨ht, hts⟩ := List.cons.inj htime
      rw [ih hcs hts]
      cases m
      cases m'
      simp_all [content]

/-- Occasions leave a choice only of the instants of their metrics. -/
theorem Metric.content_eq_of_madeFor {c : Configuration} {defaults : Record} {os : List Occasion}
    {ms ms' : List Metric} (h : List.Forall₂ (Metric.MadeFor c defaults) os ms)
    (h' : List.Forall₂ (Metric.MadeFor c defaults) os ms') :
    ms.map Metric.content = ms'.map Metric.content := by
  induction h generalizing ms' with
  | nil => cases h'; rfl
  | cons hm _ ih =>
    cases h' with
    | cons hm' hms' =>
      have hname := Except.ok.inj (hm.name.symm.trans hm'.name)
      have hvalue := Except.ok.inj (hm.value.symm.trans hm'.value)
      have htags := hm.tags.trans hm'.tags.symm
      simp only [List.map_cons, ih hms', content, hname, hvalue, htags]

namespace Configuration

variable (c : Configuration) (source : Source) (defaults : Record) (clock : Clock)

theorem collect_of_failure {e : CollectError}
    (h : (c.steps source).findSome? (CollectStep.failure? c source defaults) = some e) :
    c.collect source defaults clock = .error e := by
  have hfollows := c.follows_collecting source defaults clock
  rw [h] at hfollows
  obtain ⟨n, hn⟩ := hfollows
  rw [collect, hn]

theorem collect_of_success
    (h : (c.steps source).findSome? (CollectStep.failure? c source defaults) = none) :
    ∃ ms, c.collect source defaults clock = .ok ms ∧
      List.Forall₂ (Metric.MadeFor c defaults) (c.occasions source) ms ∧
      ms.map Metric.timestamp = clock.readings (c.occasions source).length := by
  have hfollows := c.follows_collecting source defaults clock
  rw [h] at hfollows
  obtain ⟨ms, hms, hmade, htime⟩ := hfollows
  refine ⟨ms, by rw [collect, hms], hmade, ?_⟩
  rw [hmade.length_eq, htime]

/-- The metrics of a collection that succeeds are made for its occasions. -/
theorem madeFor_of_collect {ms : List Metric} (h : c.collect source defaults clock = .ok ms) :
    List.Forall₂ (Metric.MadeFor c defaults) (c.occasions source) ms := by
  cases hf : (c.steps source).findSome? (CollectStep.failure? c source defaults) with
  | some e => cases h.symm.trans (c.collect_of_failure source defaults clock hf)
  | none =>
    obtain ⟨ms', hms', hmade, -⟩ := c.collect_of_success source defaults clock hf
    obtain rfl : ms = ms' := Except.ok.inj (h.symm.trans hms')
    exact hmade

/-- A collection succeeds exactly if all its steps do, with one metric for each occasion, in order
    and at the instant of the reading made for it; and it fails exactly with the error of the first
    step that fails. -/
theorem collect_traversal :
    (∀ ms, c.collect source defaults clock = .ok ms ↔
      (∀ s ∈ c.steps source, s.failure? c source defaults = none) ∧
        List.Forall₂ (Metric.MadeFor c defaults) (c.occasions source) ms ∧
        ms.map Metric.timestamp = clock.readings (c.occasions source).length) ∧
    ∀ e, c.collect source defaults clock = .error e ↔
      ∃ before s after, c.steps source = before ++ s :: after ∧
        s.failure? c source defaults = some e ∧
        ∀ b ∈ before, b.failure? c source defaults = none := by
  constructor
  · intro ms
    rw [← List.findSome?_eq_none_iff]
    constructor
    · intro hms
      cases hf : (c.steps source).findSome? (CollectStep.failure? c source defaults) with
      | some e =>
        have herror := c.collect_of_failure source defaults clock hf
        cases hms.symm.trans herror
      | none =>
        obtain ⟨ms', hms', hmade, htime⟩ := c.collect_of_success source defaults clock hf
        obtain rfl : ms = ms' := Except.ok.inj (hms.symm.trans hms')
        exact ⟨rfl, hmade, htime⟩
    · rintro ⟨hf, hmade, htime⟩
      obtain ⟨ms', hms', hmade', htime'⟩ := c.collect_of_success source defaults clock hf
      have hcontent := Metric.content_eq_of_madeFor hmade hmade'
      rw [hms', Metric.eq_of_map_eq hcontent (htime.trans htime'.symm)]
  · intro e
    rw [← List.findSome?_eq_some_iff]
    constructor
    · intro he
      cases hf : (c.steps source).findSome? (CollectStep.failure? c source defaults) with
      | some e' =>
        have he' := c.collect_of_failure source defaults clock hf
        rw [Except.error.inj (he.symm.trans he')]
      | none =>
        obtain ⟨ms, hms, _⟩ := c.collect_of_success source defaults clock hf
        cases he.symm.trans hms
    · exact c.collect_of_failure source defaults clock

end Configuration

end Telemetry
