import Telemetry.Configuration.Document
import Telemetry.Proofs.Basic
import Telemetry.Proofs.Configuration.Values

/-!
# Decoded documents

What a document that is decoded looks like: it is an array of configurations, each of which has its
metrics in one place. And what happens if it is not decoded: since decoding looks at no namespace
pattern, the failure is never about one.

## Main definitions

- `Configuration.PatternFree` — an outcome that is no failure of a pattern
- `Configuration.HasMetrics` — the metrics that a configuration has, as they stand in the document
- `RawConfiguration.HaveMetrics` — the metrics of all configurations of a document

## Main statements

- `Configuration.decodeMap_eq_ok_iff` — the objects that are decoded to a map
- `Configuration.hasMetrics_of_decodeConfiguration` — the metrics of a decoded configuration
- `RawConfiguration.decodeAll_eq_ok_iff` — the documents that are decoded
- `RawConfiguration.patternFree_decodeAll` — failures to decode a document
-/

namespace Telemetry

namespace Configuration

open Json (Draft Fault memberDrafts textMembers)

-- ════════════════════════════════════════════════════════════════════════
-- Failures
-- ════════════════════════════════════════════════════════════════════════

/-- An outcome that is no failure of a namespace pattern. -/
def PatternFree {α : Type} (x : Decoded α) : Prop :=
  ∀ file e, x ≠ .error (.pattern file e)

section Outcomes

variable {α β : Type} {x : Decoded α}

theorem patternFree_ok (v : α) : PatternFree (.ok v) := nofun

theorem patternFree_shape (e : ShapeError) : PatternFree (.error (.shape e) : Decoded α) := nofun

theorem patternFree_unreadable (f : Json.Failure) : PatternFree (unreadable f : Decoded α) := nofun

theorem PatternFree.of_error (hx : PatternFree x) {e : ConfigurationError} (h : x = .error e) :
    PatternFree (.error e : Decoded β) := by
  intro file p heq
  exact hx file p (h.trans (congrArg Except.error (Except.error.inj heq)))

theorem PatternFree.bind {f : α → Decoded β} (hx : PatternFree x) (hf : ∀ v, PatternFree (f v)) :
    PatternFree (x >>= f) := by
  cases h : x with
  | error e => exact hx.of_error h
  | ok v => exact hf v

theorem PatternFree.map (hx : PatternFree x) (f : α → β) : PatternFree (x.map f) :=
  hx.bind fun v => patternFree_ok (f v)

end Outcomes

section Values

variable {α : Type} {decode : Draft → Decoded α}

theorem patternFree_mismatch (wanted : Wanted) (d : Draft) :
    PatternFree (mismatch wanted d : Decoded α) := by
  fun_cases mismatch wanted d <;> nofun

theorem patternFree_decodeText (d : Draft) : PatternFree (decodeText d) := by
  fun_cases decodeText d
  · exact patternFree_ok _
  · exact patternFree_mismatch _ _

theorem patternFree_decodeSize (d : Draft) : PatternFree (decodeSize d) := by
  fun_cases decodeSize d
  · exact patternFree_ok _
  · exact patternFree_shape _
  · exact patternFree_mismatch _ _

theorem patternFree_decodeKey (k : Option Text) : PatternFree (decodeKey k) := by
  cases k <;> nofun

theorem patternFree_decodeEnd (fault : Option Fault) : PatternFree (decodeEnd fault) := by
  cases fault <;> nofun

theorem patternFree_decodeAll (h : ∀ d, PatternFree (decode d)) (ds : List Draft) :
    PatternFree (decodeAll decode ds) := by
  fun_induction decodeAll decode ds with
  | case1 => exact patternFree_ok _
  | case2 d ds e hd => exact (h d).of_error hd
  | case3 d ds v hd ih => exact ih.map _

theorem patternFree_decodeArray (h : ∀ d, PatternFree (decode d)) (d : Draft) :
    PatternFree (decodeArray decode d) := by
  fun_cases decodeArray decode d
  · exact (patternFree_decodeAll h _).bind fun vs =>
      (patternFree_decodeEnd _).bind fun _ => patternFree_ok vs
  · exact patternFree_mismatch _ _

theorem patternFree_decodeEntries (ms : List (Option Text × Draft)) :
    PatternFree (decodeEntries ms) := by
  fun_induction decodeEntries ms with
  | case1 => exact patternFree_ok _
  | case2 k v ms e hkey => exact (patternFree_decodeKey k).of_error hkey
  | case3 k v ms key hkey e hvalue => exact (patternFree_decodeText v).of_error hvalue
  | case4 k v ms key hkey value hvalue ih => exact ih.map _

theorem patternFree_decodeMap (d : Draft) : PatternFree (decodeMap d) := by
  fun_cases decodeMap d
  · exact (patternFree_decodeEntries _).bind fun entries =>
      (patternFree_decodeEnd _).bind fun _ => patternFree_ok (SortedMap.ofList entries)
  · exact patternFree_mismatch _ _

theorem patternFree_skipEnd (fault : Option Fault) : PatternFree (skipEnd fault) := by
  cases fault <;> nofun

mutual

theorem patternFree_skip : ∀ d : Draft, PatternFree (skip d)
  | .null => patternFree_ok _
  | .bool _ => patternFree_ok _
  | .number _ => patternFree_ok _
  | .string _ => patternFree_ok _
  | .array items fault => by
    rw [skip]
    split
    · next e h => exact (patternFree_skipItems items).of_error h
    · exact patternFree_skipEnd fault
  | .object members fault => by
    rw [skip]
    split
    · next e h => exact (patternFree_skipMembers members).of_error h
    · exact patternFree_skipEnd fault
  | .broken f => patternFree_unreadable f.skipped

theorem patternFree_skipItems : ∀ ds : List Draft, PatternFree (skipItems ds)
  | [] => patternFree_ok _
  | d :: ds => by
    rw [skipItems]
    split
    · next e h => exact (patternFree_skip d).of_error h
    · exact patternFree_skipItems ds

theorem patternFree_skipMembers : ∀ ms : List (Option Text × Draft), PatternFree (skipMembers ms)
  | [] => patternFree_ok _
  | (_, d) :: ms => by
    rw [skipMembers]
    split
    · next e h => exact (patternFree_skip d).of_error h
    · exact patternFree_skipMembers ms

end

mutual

theorem patternFree_check : ∀ (d : Draft) (depth : Nat), PatternFree (check depth d)
  | .null, _ => by rw [check]; nofun
  | .bool _, _ => by rw [check]; nofun
  | .number (some _), _ => by rw [check]; nofun
  | .number none, _ => by rw [check]; nofun
  | .string (some _), _ => by rw [check]; nofun
  | .string none, _ => by rw [check]; nofun
  | .array _ _, 0 => by rw [check]; nofun
  | .array items fault, depth + 1 => by
    rw [check]
    split
    · next e h => exact (patternFree_checkItems items depth).of_error h
    · exact patternFree_decodeEnd fault
  | .object _ _, 0 => by rw [check]; nofun
  | .object members fault, depth + 1 => by
    rw [check]
    split
    · next e h => exact (patternFree_checkMembers members depth).of_error h
    · exact patternFree_decodeEnd fault
  | .broken _, _ => by rw [check]; nofun

theorem patternFree_checkItems :
    ∀ (ds : List Draft) (depth : Nat), PatternFree (checkItems depth ds)
  | [], _ => by rw [checkItems]; nofun
  | d :: ds, depth => by
    rw [checkItems]
    split
    · next e h => exact (patternFree_check d depth).of_error h
    · exact patternFree_checkItems ds depth

theorem patternFree_checkMembers :
    ∀ (ms : List (Option Text × Draft)) (depth : Nat), PatternFree (checkMembers depth ms)
  | [], _ => by rw [checkMembers]; nofun
  | (none, _) :: _, _ => by rw [checkMembers]; nofun
  | (some _, d) :: ms, depth => by
    rw [checkMembers]
    split
    · next e h => exact (patternFree_check d depth).of_error h
    · exact patternFree_checkMembers ms depth

end

end Values

section Formats

theorem patternFree_decodeFormatName (d : Draft) : PatternFree (decodeFormatName d) := by
  fun_cases decodeFormatName d
  · exact patternFree_ok _
  · exact patternFree_shape _
  · exact patternFree_mismatch _ _

theorem patternFree_decodeRegex (d : Draft) : PatternFree (decodeRegex d) := by
  refine (patternFree_decodeText d).bind fun t => ?_
  cases Regex.compile? t <;> nofun

theorem Fields.patternFree_decode (fs : Fields) (d : Draft) (f : Field) :
    PatternFree (fs.decode d f) := by
  cases f with
  | columns => exact (patternFree_decodeArray patternFree_decodeText d).map _
  | skip => exact (patternFree_decodeSize d).map _
  | recordSeparator => exact (patternFree_decodeText d).map _
  | fieldSeparator => exact (patternFree_decodeText d).map _
  | pattern => exact (patternFree_decodeRegex d).map _

theorem Fields.patternFree_ofMembers (name : FormatName) (fs : Fields) (ms : List (Text × Draft)) :
    PatternFree (ofMembers name fs ms) := by
  fun_induction ofMembers name fs ms with
  | case1 => exact patternFree_ok _
  | case2 fs k d ms hfield ih => exact ih
  | case3 fs k d ms f hfield hhas => exact patternFree_shape _
  | case4 fs k d ms f hfield hhas e hd => exact (fs.patternFree_decode d f).of_error hd
  | case5 fs k d ms f hfield hhas fs' hd ih => exact ih

theorem Fields.patternFree_ofItems (fs : Fields) (fields : List Field) (ds : List Draft) :
    PatternFree (fs.ofItems fields ds) := by
  fun_induction fs.ofItems fields ds with
  | case1 => exact patternFree_ok _
  | case2 => exact patternFree_ok _
  | case3 fs f rest d ds e hd => exact (fs.patternFree_decode d f).of_error hd
  | case4 fs f rest d ds fs' hd ih => exact ih

theorem Fields.patternFree_format (fs : Fields) (missing : ShapeError) (name : FormatName) :
    PatternFree (fs.format missing name) := by
  fun_cases fs.format missing name <;> nofun

theorem patternFree_splitMembers (depth : Nat) (name : Option FormatName)
    (ms : List (Option Text × Draft)) : PatternFree (splitMembers depth name ms) := by
  fun_induction splitMembers depth name ms with
  | case1 => exact patternFree_ok _
  | case2 name k d ms e hkey => exact (patternFree_decodeKey k).of_error hkey
  | case3 name k d ms hname hkey => exact patternFree_shape _
  | case4 name k d ms hname e hname' hkey => exact (patternFree_decodeFormatName d).of_error hname'
  | case5 name k d ms hname n hname' hkey ih => exact ih
  | case6 name k d ms key hkey hother e hcheck => exact (patternFree_check d depth).of_error hcheck
  | case7 name k d ms key hkey hother u hcheck ih => exact ih.map _

theorem patternFree_decodeFormat (d : Draft) : PatternFree (decodeFormat d) := by
  fun_cases decodeFormat d
  · refine (patternFree_splitMembers _ _ _).bind fun (name, members) =>
      (patternFree_decodeEnd _).bind fun _ => ?_
    cases name with
    | none => exact patternFree_shape _
    | some name =>
      exact (Fields.patternFree_ofMembers _ _ _).bind fun fields => fields.patternFree_format _ _
  · exact (patternFree_decodeEnd _).bind fun _ => patternFree_shape _
  · refine (patternFree_decodeFormatName _).bind fun name => (patternFree_checkItems _ _).bind
      fun _ => (patternFree_decodeEnd _).bind fun _ => (Fields.patternFree_ofItems _ _ _).bind
        fun fields => (fields.patternFree_format _ _).bind fun format => ?_
    split
    · exact patternFree_ok format
    · exact patternFree_shape _
  · exact patternFree_mismatch _ _

end Formats

section Documents

theorem patternFree_once {α β : Type} (key : Text) (seen : Option α) {decode : Draft → Decoded β}
    (h : ∀ d, PatternFree (decode d)) (d : Draft) : PatternFree (once key seen decode d) := by
  rw [once]
  split
  · exact patternFree_shape _
  · exact h d

theorem FileFields.patternFree_decode (fs : FileFields) (k : Text) (d : Draft) :
    PatternFree (fs.decode k d) := by
  fun_cases fs.decode k d
  · exact (patternFree_once _ _ patternFree_decodeText d).map _
  · exact (patternFree_once _ _ patternFree_decodeMap d).map _
  · exact (patternFree_once _ _ patternFree_decodeMap d).map _
  · exact (patternFree_once _ _ patternFree_decodeFormat d).map _
  · exact (patternFree_skip d).map _

theorem FileFields.patternFree_ofMembers (fs : FileFields) (ms : List (Option Text × Draft)) :
    PatternFree (fs.ofMembers ms) := by
  fun_induction fs.ofMembers ms with
  | case1 => exact patternFree_ok _
  | case2 fs k d ms e hkey => exact (patternFree_decodeKey k).of_error hkey
  | case3 fs k d ms key hkey e hd => exact (fs.patternFree_decode key d).of_error hd
  | case4 fs k d ms key hkey fs' hd ih => exact ih

theorem FileFields.patternFree_config (fs : FileFields) : PatternFree fs.config := by
  fun_cases config fs <;> nofun

theorem patternFree_decodeFields (items : List Draft) (fault : Option Fault) :
    PatternFree (decodeFields items fault) := by
  have hmissing : ∀ n, PatternFree (do
      decodeEnd fault
      throw (.shape (.invalidLength n .configuration)) : Decoded RawConfiguration) := fun n =>
    (patternFree_decodeEnd fault).bind fun _ => patternFree_shape _
  cases items with
  | nil => exact hmissing 0
  | cons d ds =>
    refine (patternFree_decodeText d).bind fun file => ?_
    cases ds with
    | nil => exact hmissing 3
    | cons d ds =>
      refine (patternFree_decodeMap d).bind fun metrics => ?_
      cases ds with
      | nil => exact hmissing 3
      | cons d ds =>
        refine (patternFree_decodeMap d).bind fun tags => ?_
        cases ds with
        | nil => exact hmissing 3
        | cons d ds =>
          refine (patternFree_decodeFormat d).bind fun format => ?_
          cases ds with
          | nil => exact (patternFree_decodeEnd fault).bind fun _ => patternFree_ok _
          | cons d ds => exact patternFree_unreadable _

theorem patternFree_decodeConfiguration (d : Draft) : PatternFree (decodeConfiguration d) := by
  fun_cases decodeConfiguration d
  · exact (FileFields.patternFree_ofMembers _ _).bind fun fields =>
      (patternFree_decodeEnd _).bind fun _ => fields.patternFree_config
  · exact patternFree_decodeFields _ _
  · exact patternFree_mismatch _ _

end Documents

-- ════════════════════════════════════════════════════════════════════════
-- Contents
-- ════════════════════════════════════════════════════════════════════════

section Contents

variable {α β : Type} {d : Draft} {ms : List (Option Text × Draft)}

theorem mismatch_ne_ok (wanted : Wanted) (d : Draft) (v : α) : mismatch wanted d ≠ .ok v := by
  fun_cases mismatch wanted d <;> nofun

theorem decodeText_eq_ok_iff {t : Text} : decodeText d = .ok t ↔ d = .string (some t) := by
  constructor
  · fun_cases decodeText d with
    | case1 t' => exact fun h => congrArg (fun t => Draft.string (some t)) (Except.ok.inj h)
    | case2 => exact fun h => absurd h (mismatch_ne_ok _ _ _)
  · rintro rfl
    rfl

theorem decodeKey_eq_ok_iff {key : Option Text} {k : Text} :
    decodeKey key = .ok k ↔ key = some k := by
  cases key with
  | none => exact ⟨nofun, nofun⟩
  | some k' =>
    exact ⟨fun h => congrArg some (Except.ok.inj h), fun h => congrArg _ (Option.some.inj h)⟩

theorem decodeEnd_eq_ok_iff {fault : Option Fault} {u : Unit} :
    decodeEnd fault = .ok u ↔ fault = none := by
  cases fault with
  | none => exact ⟨fun _ => rfl, fun _ => rfl⟩
  | some f => exact ⟨nofun, nofun⟩

/-- Members that are decoded to entries are these entries, each with two strings. -/
theorem decodeEntries_eq_ok_iff {entries : List (Text × Text)} :
    decodeEntries ms = .ok entries ↔ ms = memberDrafts (textMembers entries) := by
  constructor
  · intro h
    fun_induction decodeEntries ms generalizing entries with
    | case1 =>
      cases h
      rfl
    | case2 => cases h
    | case3 => cases h
    | case4 key v ms k hkey t hvalue ih =>
      obtain ⟨rest, hrest, rfl⟩ := exists_of_map_eq_ok h
      obtain rfl := decodeKey_eq_ok_iff.mp hkey
      obtain rfl := decodeText_eq_ok_iff.mp hvalue
      rw [ih hrest]
      rfl
  · rintro rfl
    exact decodeEntries_textMembers entries

theorem decodeMap_eq_ok_iff {m : SortedMap Text Text} :
    decodeMap d = .ok m ↔ ∃ entries, d = .object (memberDrafts (textMembers entries)) none ∧
      m = .ofList entries := by
  constructor
  · fun_cases decodeMap d with
    | case1 members fault =>
      intro h
      obtain ⟨entries, hentries, hrest⟩ := exists_of_bind_eq_ok h
      obtain ⟨u, hend, hmap⟩ := exists_of_bind_eq_ok hrest
      rw [decodeEntries_eq_ok_iff.mp hentries, decodeEnd_eq_ok_iff.mp hend]
      exact ⟨entries, rfl, (Except.ok.inj hmap).symm⟩
    | case2 => exact fun h => absurd h (mismatch_ne_ok _ _ _)
  · rintro ⟨entries, rfl, rfl⟩
    rw [decodeMap, decodeEntries_textMembers]
    rfl

theorem decodeAll_eq_ok_iff {decode : Draft → Decoded α} {ds : List Draft} {vs : List α} :
    decodeAll decode ds = .ok vs ↔ List.Forall₂ (fun d v => decode d = .ok v) ds vs := by
  constructor
  · intro h
    fun_induction decodeAll decode ds generalizing vs with
    | case1 =>
      cases h
      exact .nil
    | case2 => cases h
    | case3 d ds v hd ih =>
      obtain ⟨rest, hrest, rfl⟩ := exists_of_map_eq_ok h
      exact .cons hd (ih hrest)
  · intro h
    induction h with
    | nil => rfl
    | cons hd _ ih =>
      rw [decodeAll, hd, ih]
      rfl

theorem decodeArray_eq_ok_iff {decode : Draft → Decoded α} {vs : List α} :
    decodeArray decode d = .ok vs ↔
      ∃ items, d = .array items none ∧ List.Forall₂ (fun d v => decode d = .ok v) items vs := by
  constructor
  · fun_cases decodeArray decode d with
    | case1 items fault =>
      intro h
      obtain ⟨results, hresults, hrest⟩ := exists_of_bind_eq_ok h
      obtain ⟨u, hend, hvs⟩ := exists_of_bind_eq_ok hrest
      obtain rfl := Except.ok.inj hvs
      rw [decodeEnd_eq_ok_iff.mp hend]
      exact ⟨items, rfl, decodeAll_eq_ok_iff.mp hresults⟩
    | case2 => exact fun h => absurd h (mismatch_ne_ok _ _ _)
  · rintro ⟨items, rfl, hitems⟩
    rw [decodeArray, decodeAll_eq_ok_iff.mpr hitems]
    rfl

/-- Decoding stops at the first draft that fails. -/
theorem decodeAll_eq_error {decode : Draft → Decoded α} {before after : List Draft}
    {e : ConfigurationError} (hbefore : ∀ d ∈ before, ∃ v, decode d = .ok v)
    (hd : decode d = .error e) : decodeAll decode (before ++ d :: after) = .error e := by
  induction before with
  | nil => rw [List.nil_append, decodeAll, hd]
  | cons d' before ih =>
    obtain ⟨⟨v, hv⟩, hbefore⟩ := List.forall_mem_cons.mp hbefore
    rw [List.cons_append, decodeAll, hv, ih hbefore]
    rfl

/-- The metrics of a configuration as they stand in a document: what is written under their key,
    nothing if the key is not there, or the second item of an array. -/
inductive HasMetrics : Draft → List (Text × Text) → Prop
  | given {members : List (Option Text × Draft)} {entries : List (Text × Text)}
      (h : (some metricsKey, .object (memberDrafts (textMembers entries)) none) ∈ members) :
      HasMetrics (.object members none) entries
  | missing {members : List (Option Text × Draft)} (h : ∀ m ∈ members, m.1 ≠ some metricsKey) :
      HasMetrics (.object members none) []
  | positional {items : List Draft} {entries : List (Text × Text)}
      (h : items[1]? = some (.object (memberDrafts (textMembers entries)) none)) :
      HasMetrics (.array items none) entries

theorem textMembers_injective {entries entries' : List (Text × Text)}
    (h : Draft.object (memberDrafts (textMembers entries)) none =
      .object (memberDrafts (textMembers entries')) none) : entries = entries' := by
  have hentries := decodeEntries_textMembers entries
  rw [(Draft.object.inj h).1, decodeEntries_textMembers] at hentries
  exact (Except.ok.inj hentries).symm

theorem once_eq_ok_iff {key : Text} {seen : Option α} {decode : Draft → Decoded β} {v : β} :
    once key seen decode d = .ok v ↔ seen = none ∧ decode d = .ok v := by
  cases seen with
  | none => simp [once]
  | some w => simp [once]

/-- A member gives the metrics if it has their key, and leaves them as they are otherwise. -/
theorem FileFields.metrics_of_decode {fs fs' : FileFields} {k : Text}
    (h : fs.decode k d = .ok fs') :
    (k = metricsKey ∧ fs.metrics = none ∧ ∃ m, decodeMap d = .ok m ∧ fs'.metrics = some m) ∨
      (k ≠ metricsKey ∧ fs'.metrics = fs.metrics) := by
  revert h
  fun_cases fs.decode k d <;> intro h
  case case1 hk =>
    obtain ⟨v, -, rfl⟩ := exists_of_map_eq_ok h
    exact .inr ⟨by rw [hk]; decide, rfl⟩
  case case2 _ hk =>
    obtain ⟨m, hm, rfl⟩ := exists_of_map_eq_ok h
    obtain ⟨hfirst, hm⟩ := once_eq_ok_iff.mp hm
    exact .inl ⟨hk, hfirst, m, hm, rfl⟩
  case case3 hk _ =>
    obtain ⟨v, -, rfl⟩ := exists_of_map_eq_ok h
    exact .inr ⟨hk, rfl⟩
  case case4 hk _ _ =>
    obtain ⟨v, -, rfl⟩ := exists_of_map_eq_ok h
    exact .inr ⟨hk, rfl⟩
  case case5 hk _ _ =>
    obtain ⟨v, -, rfl⟩ := exists_of_map_eq_ok h
    exact .inr ⟨hk, rfl⟩

/-- Decoded members have the metrics under their key at most once. -/
theorem FileFields.metrics_of_ofMembers {fs fs' : FileFields} (h : fs.ofMembers ms = .ok fs') :
    (fs'.metrics = fs.metrics ∧ ∀ m ∈ ms, m.1 ≠ some metricsKey) ∨
      ∃ d m, decodeMap d = .ok m ∧ fs.metrics = none ∧ fs'.metrics = some m ∧
        (some metricsKey, d) ∈ ms ∧ ∀ m ∈ ms, m.1 = some metricsKey → m.2 = d := by
  fun_induction fs.ofMembers ms with
  | case1 =>
    cases h
    exact .inl ⟨rfl, nofun⟩
  | case2 => cases h
  | case3 => cases h
  | case4 fs key d ms k hkey fs₁ hd ih =>
    obtain rfl := decodeKey_eq_ok_iff.mp hkey
    rcases metrics_of_decode hd with ⟨rfl, hnone, m, hm, hsome⟩ | ⟨hother, hsame⟩
    · -- The key cannot come again, since the metrics are decoded already.
      rcases ih h with ⟨hkept, hrest⟩ | ⟨_, _, -, hnone', -, -, -⟩
      · refine .inr ⟨d, m, hm, hnone, hkept.trans hsome, List.mem_cons_self, ?_⟩
        exact List.forall_mem_cons.mpr
          ⟨fun _ => rfl, fun m' hm' hkey' => absurd hkey' (hrest m' hm')⟩
      · cases hsome.symm.trans hnone'
    · have hkey' : some k ≠ some metricsKey := fun heq => hother (Option.some.inj heq)
      rcases ih h with ⟨hkept, hrest⟩ | ⟨d', m, hm, hnone, hsome, hmem, honly⟩
      · exact .inl ⟨hkept.trans hsame, List.forall_mem_cons.mpr ⟨hkey', hrest⟩⟩
      · refine .inr ⟨d', m, hm, hsame.symm.trans hnone, hsome, List.mem_cons_of_mem _ hmem, ?_⟩
        exact List.forall_mem_cons.mpr ⟨fun heq => absurd heq hkey', honly⟩

theorem FileFields.metrics_of_config {fs : FileFields} {raw : RawConfiguration}
    (h : fs.config = .ok raw) : raw.metrics = fs.metrics.getD .empty := by
  revert h
  fun_cases config fs <;> intro h
  case case1 => cases h
  case case2 => cases h
  case case3 =>
    cases h
    rfl

theorem exists_of_decodeFields_eq_ok {items : List Draft} {fault : Option Fault}
    {raw : RawConfiguration} (h : decodeFields items fault = .ok raw) :
    ∃ file entries rest, items = file :: .object (memberDrafts (textMembers entries)) none :: rest ∧
      fault = none ∧ raw.metrics = .ofList entries := by
  have hmissing : ∀ n, (do
      decodeEnd fault
      throw (.shape (.invalidLength n .configuration)) : Decoded RawConfiguration) ≠ .ok raw := by
    intro n h
    obtain ⟨u, -, h⟩ := exists_of_bind_eq_ok h
    cases h
  match items, h with
  | [], h => exact absurd h (hmissing 0)
  | file :: ds, h =>
    obtain ⟨t, -, h⟩ := exists_of_bind_eq_ok h
    match ds, h with
    | [], h => exact absurd h (hmissing 3)
    | d :: ds, h =>
      obtain ⟨metrics, hmetrics, h⟩ := exists_of_bind_eq_ok h
      obtain ⟨entries, rfl, rfl⟩ := decodeMap_eq_ok_iff.mp hmetrics
      match ds, h with
      | [], h => exact absurd h (hmissing 3)
      | d :: ds, h =>
        obtain ⟨tags, -, h⟩ := exists_of_bind_eq_ok h
        match ds, h with
        | [], h => exact absurd h (hmissing 3)
        | d' :: ds, h =>
          obtain ⟨format, -, h⟩ := exists_of_bind_eq_ok h
          match ds, h with
          | [], h =>
            obtain ⟨u, hend, h⟩ := exists_of_bind_eq_ok h
            cases h
            exact ⟨file, entries, _, rfl, decodeEnd_eq_ok_iff.mp hend, rfl⟩
          | _ :: _, h => cases h

/-- A raw configuration has the metrics of some entries, of which the last one of each pattern
    counts. -/
def MetricsFrom (raw : RawConfiguration) (entries : List (Text × Text)) : Prop :=
  raw.metrics = .ofList entries

/-- A configuration that is decoded has its metrics in one place. -/
theorem hasMetrics_of_decodeConfiguration {raw : RawConfiguration}
    (h : decodeConfiguration d = .ok raw) :
    ∃ entries, HasMetrics d entries ∧ MetricsFrom raw entries ∧
      ∀ entries', HasMetrics d entries' → entries' = entries := by
  revert h
  fun_cases decodeConfiguration d <;> intro h
  case case1 members fault =>
    obtain ⟨fields, hfields, h⟩ := exists_of_bind_eq_ok h
    obtain ⟨u, hend, h⟩ := exists_of_bind_eq_ok h
    obtain rfl := decodeEnd_eq_ok_iff.mp hend
    have hmetrics : raw.metrics = fields.metrics.getD .empty := FileFields.metrics_of_config h
    rcases FileFields.metrics_of_ofMembers hfields with
      ⟨hnone, hmissing⟩ | ⟨d, m, hm, -, hsome, hmem, honly⟩
    · refine ⟨[], .missing hmissing, ?_, ?_⟩
      · rw [MetricsFrom, hmetrics, hnone]
        rfl
      · rintro entries' (hgiven | hmissing')
        · exact absurd rfl (hmissing _ hgiven)
        · rfl
    · obtain ⟨entries, rfl, rfl⟩ := decodeMap_eq_ok_iff.mp hm
      refine ⟨entries, .given hmem, ?_, ?_⟩
      · rw [MetricsFrom, hmetrics, hsome]
        rfl
      · rintro entries' (hgiven | hmissing)
        · exact textMembers_injective (honly _ hgiven rfl)
        · exact absurd rfl (hmissing _ hmem)
  case case2 items fault =>
    obtain ⟨file, entries, rest, rfl, rfl, hmetrics⟩ := exists_of_decodeFields_eq_ok h
    refine ⟨entries, .positional rfl, hmetrics, ?_⟩
    rintro entries' (_ | _ | hsecond)
    exact textMembers_injective (Option.some.inj hsecond).symm
  case case3 => exact absurd h (mismatch_ne_ok _ _ _)

end Contents

end Configuration

-- ════════════════════════════════════════════════════════════════════════
-- Documents
-- ════════════════════════════════════════════════════════════════════════

namespace RawConfiguration

open Telemetry.Configuration
open Json (Draft)

variable {document : Text} {raws : List RawConfiguration}

/-- The documents that are decoded are arrays of configurations, with nothing behind them. -/
theorem decodeAll_eq_ok_iff :
    decodeAll document = .ok raws ↔
      ∃ items, Draft.ofTokens (Json.tokens document) = (.array items none, []) ∧
        List.Forall₂ (fun d raw => decodeConfiguration d = .ok raw) items raws := by
  rw [decodeAll]
  generalize Draft.ofTokens (Json.tokens document) = draft
  obtain ⟨d, rest⟩ := draft
  constructor
  · intro h
    obtain ⟨configs, hconfigs, hrest⟩ := exists_of_bind_eq_ok h
    obtain ⟨items, rfl, hitems⟩ := decodeArray_eq_ok_iff.mp hconfigs
    cases rest with
    | nil =>
      obtain rfl := Except.ok.inj hrest
      exact ⟨items, rfl, hitems⟩
    | cons token rest => cases hrest
  · rintro ⟨items, hdraft, hitems⟩
    cases hdraft
    dsimp only
    rw [decodeArray_eq_ok_iff.mpr ⟨items, rfl, hitems⟩]
    rfl

/-- A configuration that is not decoded fails the document, whatever the configurations in front of
    it are. -/
theorem decodeAll_eq_error {before after : List Draft} {d : Draft} {fault : Option Json.Fault}
    {e : ConfigurationError}
    (hitems : (Draft.ofTokens (Json.tokens document)).1 = .array (before ++ d :: after) fault)
    (hbefore : ∀ d ∈ before, ∃ raw, decodeConfiguration d = .ok raw)
    (hd : decodeConfiguration d = .error e) : decodeAll document = .error e := by
  rw [decodeAll]
  generalize Draft.ofTokens (Json.tokens document) = draft at hitems
  obtain ⟨_, rest⟩ := draft
  cases hitems
  dsimp only
  rw [decodeArray, Configuration.decodeAll_eq_error hbefore hd]
  rfl

/-- A document that is not decoded does not fail because of a pattern. -/
theorem patternFree_decodeAll (document : Text) : PatternFree (decodeAll document) := by
  refine (patternFree_decodeArray patternFree_decodeConfiguration _).bind fun raws => ?_
  split
  · exact patternFree_ok raws
  · exact patternFree_unreadable _

/-- The metrics of the configurations of a document, one by one, as they stand in it. -/
def HaveMetrics (document : Text) (lists : List (List (Text × Text))) : Prop :=
  ∃ items, Draft.ofTokens (Json.tokens document) = (.array items none, []) ∧
    List.Forall₂ HasMetrics items lists

/-- In a document that is decoded the metrics of each configuration stand in one place. -/
theorem exists_haveMetrics (h : decodeAll document = .ok raws) :
    ∃ lists, HaveMetrics document lists ∧ List.Forall₂ MetricsFrom raws lists ∧
      ∀ lists', HaveMetrics document lists' → lists' = lists := by
  obtain ⟨items, hitems, hraws⟩ := decodeAll_eq_ok_iff.mp h
  have hlists : ∃ lists, List.Forall₂ HasMetrics items lists ∧
      List.Forall₂ MetricsFrom raws lists ∧
      ∀ lists', List.Forall₂ HasMetrics items lists' → lists' = lists := by
    clear hitems h
    induction hraws with
    | nil => exact ⟨[], .nil, .nil, fun lists' h => List.forall₂_nil_left_iff.mp h⟩
    | cons hraw _ ih =>
      obtain ⟨entries, hentries, hfrom, honly⟩ := hasMetrics_of_decodeConfiguration hraw
      obtain ⟨lists, hlists, hall, hunique⟩ := ih
      refine ⟨entries :: lists, .cons hentries hlists, .cons hfrom hall, ?_⟩
      rintro _ (_ | ⟨hentries', hlists'⟩)
      rw [honly _ hentries', hunique _ hlists']
  obtain ⟨lists, hlists, hfrom, hunique⟩ := hlists
  refine ⟨lists, ⟨items, hitems, hlists⟩, hfrom, ?_⟩
  rintro lists' ⟨items', hitems', hlists'⟩
  rw [hitems] at hitems'
  cases hitems'
  exact hunique lists' hlists'

end RawConfiguration

end Telemetry
