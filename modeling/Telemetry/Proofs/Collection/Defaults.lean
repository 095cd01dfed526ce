import Telemetry.Proofs.Collection.Layers

/-!
# Default variables in a collection

A measure looks at its context only through the names that stand in it: the variables of its
expression and the placeholders of its namespace without an index. A name that is a field of every
record at hand is never looked up among the default variables. So two sets of default variables
that agree on all other names of the measures cannot be told apart by a collection.

## Main definitions

- `Context.AgreeOn` — two contexts answer alike for the names of a list
- `Measure.names` — the names that a measure looks up
- `Configuration.collectingBy` — a collection in which every record has a context of its own
- `Configuration.AgreeUnshadowed` — default variables agree on the names that records leave open

## Main statements

- `Measure.metric_congr` — a metric depends only on the names of its measure
- `Configuration.collectingBy_congr` — so does a collection, on those of the records that it parses
- `Configuration.collect_unshadowed` — default variables count only for names that are left open
-/

namespace Telemetry

/-- Two contexts give the same value, or both none, to each name of a list. -/
def Context.AgreeOn (names : List Text) (x y : Context) : Prop :=
  ∀ name ∈ names, x name = y name

-- ════════════════════════════════════════════════════════════════════════
-- Names
-- ════════════════════════════════════════════════════════════════════════

/-- The name that a token looks up, if it is a variable. -/
def Token.name? : Token → Option Text
  | .variable name => some name
  | _ => none

/-- The names of the variables of an expression. -/
def Expression.names (e : Expression) : List Text :=
  e.tokens.filterMap Token.name?

/-- The name that a segment looks up, if it is a placeholder for a variable. -/
def Segment.name? : Segment → Option Text
  | .placeholder ⟨name, _, .variable⟩ => some name
  | _ => none

/-- The names of the placeholders for variables in a namespace pattern. -/
def Namespace.names (ns : Namespace) : List Text :=
  ns.segments.filterMap Segment.name?

/-- The names that a measure looks up. -/
def Measure.names (m : Measure) : List Text :=
  m.expression.names ++ m.target.names

variable {x y : Context}

namespace Context.AgreeOn

theorem left {names names' : List Text} (h : AgreeOn (names ++ names') x y) : AgreeOn names x y :=
  fun name hname => h name (List.mem_append_left names' hname)

theorem right {names names' : List Text} (h : AgreeOn (names ++ names') x y) :
    AgreeOn names' x y :=
  fun name hname => h name (List.mem_append_right names hname)

/-- Agreement on the names that a list of parts looks up, for the first part and for the others. -/
theorem of_cons {α : Type} {name? : α → Option Text} {a : α} {as : List α}
    (h : AgreeOn ((a :: as).filterMap name?) x y) :
    (∀ name ∈ name? a, x name = y name) ∧ AgreeOn (as.filterMap name?) x y := by
  constructor
  · intro name hname
    exact h name (List.mem_filterMap.mpr ⟨a, List.mem_cons_self, hname⟩)
  · intro name hname
    obtain ⟨b, hb, hname⟩ := List.mem_filterMap.mp hname
    exact h name (List.mem_filterMap.mpr ⟨b, List.mem_cons_of_mem a hb, hname⟩)

end Context.AgreeOn

-- ════════════════════════════════════════════════════════════════════════
-- Expressions
-- ════════════════════════════════════════════════════════════════════════

theorem Token.run_congr {token : Token} (h : ∀ name ∈ token.name?, x name = y name)
    (stack : Stack) : token.run x stack = token.run y stack := by
  cases token with
  | operator op => rfl
  | «variable» name => rw [run, run, h name rfl]
  | literal v => rfl

theorem Token.runAll_congr {tokens : List Token}
    (h : Context.AgreeOn (tokens.filterMap Token.name?) x y) (stack : Stack) :
    Token.runAll x stack tokens = Token.runAll y stack tokens := by
  induction tokens generalizing stack with
  | nil => rfl
  | cons token tokens ih =>
    obtain ⟨hfirst, hrest⟩ := h.of_cons
    rw [runAll, runAll, Token.run_congr hfirst]
    cases token.run y stack with
    | error e => rfl
    | ok stack' => exact ih hrest stack'

/-- The value of an expression, and its error, depend only on the variables in it. -/
theorem Expression.evaluate_congr {e : Expression} (h : Context.AgreeOn e.names x y) :
    e.evaluate x = e.evaluate y := by
  rw [evaluate, evaluate, Token.runAll_congr h]

-- ════════════════════════════════════════════════════════════════════════
-- Namespaces
-- ════════════════════════════════════════════════════════════════════════

theorem Segment.bind_congr {segment : Segment} (path : Text)
    (h : ∀ name ∈ segment.name?, x name = y name) :
    segment.bind path x = segment.bind path y := by
  cases segment with
  | static t => rfl
  | placeholder d =>
    obtain ⟨name, description, directive⟩ := d
    cases directive with
    | path index => rfl
    | «variable» =>
      have hname : x name = y name := h name rfl
      simp only [bind, Placeholder.resolve, hname]

theorem Segment.bindAll_congr {segments : List Segment} (path : Text)
    (h : Context.AgreeOn (segments.filterMap Segment.name?) x y) :
    Segment.bindAll path x segments = Segment.bindAll path y segments := by
  induction segments with
  | nil => rfl
  | cons segment segments ih =>
    obtain ⟨hfirst, hrest⟩ := h.of_cons
    rw [bindAll, bindAll, Segment.bind_congr path hfirst, ih hrest]

/-- The binding of a namespace, and its error, depend only on the placeholders for variables. -/
theorem Namespace.bind_congr {ns : Namespace} (path : Text) (h : Context.AgreeOn ns.names x y) :
    ns.bind path x = ns.bind path y := by
  rw [bind, bind, Segment.bindAll_congr path h]

/-- A metric, or the failure to make it, depends only on the names of its measure. -/
theorem Measure.metric_congr {m : Measure} (h : Context.AgreeOn m.names x y) (path : Path)
    (now : Timestamp) (tags : SortedMap Text Text) :
    m.metric path x now tags = m.metric path y now tags := by
  rw [metric, metric, Namespace.bind_congr path h.right, Expression.evaluate_congr h.left]

-- ════════════════════════════════════════════════════════════════════════
-- Collections
-- ════════════════════════════════════════════════════════════════════════

theorem Collecting.concat_congr {α : Type} {part part' : α → Collecting} {as : List α}
    (h : ∀ a ∈ as, part a = part' a) : Collecting.concat part as = Collecting.concat part' as := by
  induction as with
  | nil => rfl
  | cons a as ih =>
    funext clock
    rw [concat, concat, h a List.mem_cons_self, ih fun b hb => h b (List.mem_cons_of_mem a hb)]

namespace Configuration

/-- The metrics of one record of a file, in a context. -/
def metricsIn (c : Configuration) (path : Path) (context : Context) : Collecting :=
  .concat (fun m => .single fun now => m.metric path context now c.tags) c.measures

/-- The metrics of a file, with a context for each record. -/
def metricsOfFileBy (c : Configuration) (source : Source) (contextOf : Record → Context)
    (path : Path) : Collecting :=
  match source.read path with
  | .error e => .fail (.read path e)
  | .ok contents =>
    match c.format.records contents with
    | .error e => .fail (.format path e)
    | .ok records => .concat (fun record => c.metricsIn path (contextOf record)) records

/-- The collection of a configuration, with a context for each record. -/
def collectingBy (c : Configuration) (source : Source) (contextOf : Record → Context) :
    Collecting :=
  match source.glob c.file with
  | .error e => .fail (.glob e)
  | .ok paths => .concat (c.metricsOfFileBy source contextOf) paths

/-- A collection puts each record in front of the default variables. -/
theorem collecting_eq_collectingBy (c : Configuration) (source : Source) (defaults : Record) :
    c.collecting source defaults =
      c.collectingBy source fun record => record.fieldOrDefault defaults := by
  simp only [← Record.context_eq_fieldOrDefault]
  rfl

/-- The records of files up to the first one that cannot be read or has not the right shape. -/
def recordsUpTo (c : Configuration) (source : Source) : List Path → List Record
  | [] => []
  | path :: paths =>
    match source.read path with
    | .error _ => []
    | .ok contents =>
      match c.format.records contents with
      | .error _ => []
      | .ok records => records ++ recordsUpTo c source paths

/-- The records that a collection parses. -/
def parsedRecords (c : Configuration) (source : Source) : List Record :=
  match source.glob c.file with
  | .error _ => []
  | .ok paths => c.recordsUpTo source paths

variable {c : Configuration} {source : Source} {contextOf contextOf' : Record → Context}

theorem metricsIn_congr (path : Path) (h : ∀ m ∈ c.measures, Context.AgreeOn m.names x y) :
    c.metricsIn path x = c.metricsIn path y := by
  refine Collecting.concat_congr fun m hm => ?_
  have hmetric : ∀ now, m.metric path x now c.tags = m.metric path y now c.tags := fun now =>
    Measure.metric_congr (h m hm) path now c.tags
  rw [funext hmetric]

/-- The metrics of files depend only on the contexts of the records that are parsed. -/
theorem concat_metricsOfFileBy_congr {paths : List Path}
    (h : ∀ record ∈ c.recordsUpTo source paths, ∀ m ∈ c.measures,
      Context.AgreeOn m.names (contextOf record) (contextOf' record)) :
    Collecting.concat (c.metricsOfFileBy source contextOf) paths =
      Collecting.concat (c.metricsOfFileBy source contextOf') paths := by
  induction paths with
  | nil => rfl
  | cons path paths ih =>
    funext clock
    rw [recordsUpTo] at h
    -- A file that fails ends the collection, whatever the contexts of later records are.
    cases hread : source.read path with
    | error e => simp only [Collecting.concat, metricsOfFileBy, hread, Collecting.fail]
    | ok contents =>
      cases hsplit : c.format.records contents with
      | error e => simp only [Collecting.concat, metricsOfFileBy, hread, hsplit, Collecting.fail]
      | ok records =>
        simp only [hread, hsplit] at h
        have hfile : c.metricsOfFileBy source contextOf path =
            c.metricsOfFileBy source contextOf' path := by
          simp only [metricsOfFileBy, hread, hsplit]
          exact Collecting.concat_congr fun record hrecord =>
            metricsIn_congr path (h record (List.mem_append_left _ hrecord))
        have hrest := ih fun record hrecord => h record (List.mem_append_right _ hrecord)
        rw [Collecting.concat, Collecting.concat, hfile, hrest]

/-- A collection depends only on the names of its measures in the contexts of the records that it
    parses. -/
theorem collectingBy_congr
    (h : ∀ record ∈ c.parsedRecords source, ∀ m ∈ c.measures,
      Context.AgreeOn m.names (contextOf record) (contextOf' record)) :
    c.collectingBy source contextOf = c.collectingBy source contextOf' := by
  rw [parsedRecords] at h
  rw [collectingBy, collectingBy]
  cases hglob : source.glob c.file with
  | error e => rfl
  | ok paths =>
    rw [hglob] at h
    exact concat_metricsOfFileBy_congr h

end Configuration

-- ════════════════════════════════════════════════════════════════════════
-- Default variables
-- ════════════════════════════════════════════════════════════════════════

namespace Configuration

/-- Two sets of default variables agree on each name of a measure, unless it is a field of every
    record that a collection parses. -/
def AgreeUnshadowed (c : Configuration) (source : Source) (d₁ d₂ : Record) : Prop :=
  ∀ m ∈ c.measures, ∀ name ∈ m.names,
    (∀ record ∈ c.parsedRecords source, record.contains name) ∨ d₁.get? name = d₂.get? name

/-- The metrics of a configuration for which each record is written over the default variables. -/
def collectOver (c : Configuration) (source : Source) (defaults : Record) (clock : Clock) :
    Except CollectError (List Metric) :=
  (c.collectingBy source (fun record => (record.over defaults).get?) clock).1

/-- Default variables that agree on the names that the records leave open give the same metrics or
    the same failure, and it makes no difference whether a record stands in front of the default
    variables or is written over them. -/
theorem collect_unshadowed (c : Configuration) (source : Source) (clock : Clock) :
    (∀ d₁ d₂, c.AgreeUnshadowed source d₁ d₂ →
      c.collect source d₁ clock = c.collect source d₂ clock) ∧
    ∀ defaults, c.collect source defaults clock = c.collectOver source defaults clock := by
  constructor
  · intro d₁ d₂ h
    have hparts : c.collecting source d₁ = c.collecting source d₂ := by
      rw [collecting_eq_collectingBy, collecting_eq_collectingBy]
      refine collectingBy_congr fun record hrecord m hm name hname => ?_
      rcases h m hm name hname with hfields | hdefaults
      · exact Record.fieldOrDefault_eq_of_contains (hfields record hrecord) d₁ d₂
      · exact Record.fieldOrDefault_congr hdefaults record
    rw [collect, collect, hparts]
  · intro defaults
    have hover : (fun record : Record => (record.over defaults).get?) =
        fun record => record.fieldOrDefault defaults :=
      funext fun record => record.get?_over defaults
    rw [collectOver, hover, collect, collecting_eq_collectingBy]

/-- Two records of a table hide one of the default variables on which the others differ; another
    one is in no measure. -/
theorem collect_unshadowed_hidden_column :
    let target : Namespace :=
      ⟨[.static ['n'], .placeholder ⟨['k'], ['k'], .variable⟩, .static ['b']]⟩
    let config : Configuration :=
      ⟨['*'], [⟨target, ⟨"{x}".toList, [.variable ['x']]⟩⟩], .empty, .table [['k']] 0⟩
    let source : Source := ⟨fun _ => .ok [['f']], fun _ => .ok ['v', '\n', 'w']⟩
    let d₁ : Record :=
      .ofList [(['k'], .text ['1']), (['x'], .text ['3']), (['z'], .text ['4'])]
    let d₂ : Record := .ofList [(['k'], .text ['2']), (['x'], .text ['3'])]
    config.AgreeUnshadowed source d₁ d₂ ∧ d₁.get? ['k'] ≠ d₂.get? ['k'] ∧
      (config.collect source d₁ (.fixed ⟨0, 0⟩)).map List.length = .ok 2 ∧
      config.collect source d₁ (.fixed ⟨0, 0⟩) = config.collect source d₂ (.fixed ⟨0, 0⟩) := by
  intro target config source d₁ d₂
  have hagree : config.AgreeUnshadowed source d₁ d₂ := by
    intro m hm name hname
    obtain rfl := List.mem_singleton.mp hm
    have hnames : name ∈ [['x'], ['k']] := hname
    rcases List.mem_cons.mp hnames with rfl | hk
    · exact .inr rfl
    · obtain rfl := List.mem_singleton.mp hk
      refine .inl ?_
      decide
  exact ⟨hagree, by decide, rfl, (config.collect_unshadowed source (.fixed ⟨0, 0⟩)).1 d₁ d₂ hagree⟩

end Configuration

end Telemetry
