import Telemetry.Configuration.Format
import Telemetry.Proofs.Configuration.Places
import Telemetry.Proofs.Configuration.Values

/-!
# Decoding described formats

An object describes a format if it has the name of the format and its fields among its members, in
any order. Fields with their default may be left out, and there may be members that the format does
not have. Whatever the order, the format is decoded: its name is looked for first, and then every
field fills a place of its own.

## Main definitions

- `Configuration.memberKeys` — the keys that a format looks at
- `Configuration.FieldMembers` — the members for the fields of a format
- `Configuration.DescribesFormat` — the members that describe a format

## Main statements

- `Configuration.splitMembers_append` — the name of a format is found wherever it stands
- `Configuration.foldlM_fieldMembers` — the fields of a format give the format
- `Configuration.decodeFormat_toDraft` — a described format is decoded
-/

namespace Telemetry.Configuration

open Json (Draft toDraft memberDrafts textItems)

-- ════════════════════════════════════════════════════════════════════════
-- Fields
-- ════════════════════════════════════════════════════════════════════════

/-- What a field is decoded to. -/
abbrev Field.Content : Field → Type
  | .columns => List Text
  | .skip => Nat
  | .recordSeparator => Text
  | .fieldSeparator => Text
  | .pattern => Regex

/-- The decoded form of a draft that stands for a field. -/
def Field.decode (d : Draft) : (f : Field) → Decoded f.Content
  | .columns => decodeArray decodeText d
  | .skip => decodeSize d
  | .recordSeparator => decodeText d
  | .fieldSeparator => decodeText d
  | .pattern => decodeRegex d

/-- The fields with the content of one of them replaced. -/
def Fields.fill (fs : Fields) : (f : Field) → f.Content → Fields
  | .columns, v => { fs with columns := some v }
  | .skip, v => { fs with skip := some v }
  | .recordSeparator, v => { fs with recordSeparator := some v }
  | .fieldSeparator, v => { fs with fieldSeparator := some v }
  | .pattern, v => { fs with pattern := some v }

theorem Fields.decode_eq (fs : Fields) (d : Draft) (f : Field) :
    fs.decode d f = (f.decode d).map (fs.fill f) := by
  cases f <;> rfl

/-- The places of the fields of a format. -/
def fieldPlaces : Places Fields where
  Place := Field
  Content := Field.Content
  has := Fields.has
  fill := Fields.fill
  has_fill := by
    intro fs f v g
    cases f <;> cases g <;> simp [Fields.fill, Fields.has]
  fill_comm := by
    intro fs f g v w h
    cases f <;> cases g <;> first | rfl | exact absurd rfl h

/-- The reader of the fields of a format: members with other keys are left aside. -/
def fieldReader (name : FormatName) : fieldPlaces.Reader (Text × Draft) ConfigurationError where
  place? := fun m => name.fields.find? fun f => f.key == m.1
  content := fun m f => f.decode m.2
  idle := fun _ => .ok ()
  duplicate := fun m => .shape (.duplicateField m.1)

theorem fieldReader_step (name : FormatName) (fs : Fields) (k : Text) (d : Draft) :
    (fieldReader name).step fs (k, d) =
      match name.fields.find? fun f => f.key == k with
      | none => .ok fs
      | some f =>
        if fs.has f then .error (.shape (.duplicateField k))
        else (f.decode d).map (fs.fill f) := by
  have hplace : (fieldReader name).place? (k, d) = name.fields.find? fun f => f.key == k := rfl
  rw [Places.Reader.step, hplace]
  cases name.fields.find? fun f => f.key == k <;> rfl

theorem Fields.ofMembers_eq_foldlM (name : FormatName) (fs : Fields) (ms : List (Text × Draft)) :
    fs.ofMembers name ms = ms.foldlM (fieldReader name).step fs := by
  induction ms generalizing fs with
  | nil => rfl
  | cons m ms ih =>
    obtain ⟨k, d⟩ := m
    rw [List.foldlM_cons, Fields.ofMembers, fieldReader_step]
    cases name.fields.find? fun f => f.key == k with
    | none => exact ih fs
    | some f =>
      dsimp only
      rw [Fields.decode_eq]
      split
      · rfl
      · cases f.decode d with
        | error e => rfl
        | ok v => exact ih (fs.fill f v)

-- ════════════════════════════════════════════════════════════════════════
-- Described formats
-- ════════════════════════════════════════════════════════════════════════

/-- The keys of the members that a format looks at: that of its name and those of its fields. -/
def memberKeys : Format → List Text
  | .table .. => ["format".toList, "columns".toList, "skip".toList]
  | .keyValue .. => ["format".toList, "record_sep".toList, "field_sep".toList]
  | .keyRow => ["format".toList]
  | .regexp .. => ["format".toList, "record_sep".toList, "columns".toList, "pattern".toList]

/-- The members for the fields of a format. A field with its default may be left out: no columns,
    nothing to skip, records that end with an empty line or, for a pattern, with their line, and
    fields between blanks. -/
inductive FieldMembers : Format → List (Text × Json) → Prop
  | table {columns : List Text} {skip : Nat} {cs ss : List (Text × Json)}
      (hcolumns : Given "columns".toList (· = .array (textItems columns)) (columns = []) cs)
      (hskip : Given "skip".toList (· = .number (.natural skip)) (skip = 0) ss) :
      FieldMembers (.table columns skip) (cs ++ ss)
  | keyValue {record field : Text} {rs fs : List (Text × Json)}
      (hrecord : Given "record_sep".toList (· = .string record) (record = ['\n', '\n']) rs)
      (hfield : Given "field_sep".toList (· = .string field) (field = []) fs) :
      FieldMembers (.keyValue record field) (rs ++ fs)
  | keyRow : FieldMembers .keyRow []
  | regexp {record : Text} {columns : List Text} {pattern : Regex} {rs cs : List (Text × Json)}
      (hrecord : Given "record_sep".toList (· = .string record) (record = ['\n']) rs)
      (hcolumns : Given "columns".toList (· = .array (textItems columns)) (columns = []) cs)
      (compiles : Regex.compile? pattern.source = some pattern) :
      FieldMembers (.regexp record columns pattern)
        (rs ++ cs ++ [("pattern".toList, .string pattern.source)])

/-- The members that describe a format, in any order: its name, its fields, and members with other
    keys, with containers that are nested 124 levels deep at most. -/
inductive DescribesFormat (format : Format) : List (Text × Json) → Prop
  | mk {fields others members : List (Text × Json)} (hfields : FieldMembers format fields)
      (unused : ∀ m ∈ others, m.1 ∉ memberKeys format)
      (shallow : ∀ m ∈ others, m.2.depth ≤ 124)
      (order : members.Perm
        (("format".toList, .string format.name.toList) :: (fields ++ others))) :
      DescribesFormat format members

/-- The name that a format is decoded by. -/
def nameOf : Format → FormatName
  | .table .. => .table
  | .keyValue .. => .keyValue
  | .keyRow => .keyRow
  | .regexp .. => .regexp

theorem memberKeys_eq (format : Format) :
    memberKeys format = formatKey :: (nameOf format).fields.map Field.key := by
  cases format <;> rfl

theorem ne_of_not_mem_memberKeys {format : Format} {k : Text} (h : k ∉ memberKeys format) :
    k ≠ formatKey ∧ ∀ f ∈ (nameOf format).fields, f.key ≠ k := by
  rw [memberKeys_eq, List.mem_cons, not_or] at h
  exact ⟨h.1, fun f hf heq => h.2 (List.mem_map.mpr ⟨f, hf, heq⟩)⟩

/-- What is given for a field is not the name of the format, and as shallow as what spells it. -/
theorem Given.mem_bounds (f : Field) {Spells : Json → Prop} {isDefault : Prop}
    {ms : List (Text × Json)} (h : Given f.key Spells isDefault ms)
    (hdepth : ∀ v, Spells v → v.depth ≤ fieldDepth) :
    ∀ m ∈ ms, m.1 ≠ formatKey ∧ m.2.depth ≤ fieldDepth := by
  intro m hm
  obtain ⟨hkey, hv⟩ := h.eq_of_mem hm
  have hne : f.key ≠ formatKey := by cases f <;> decide
  exact ⟨hkey ▸ hne, hdepth _ hv⟩

/-- A field is not the name of its format, and has no containers but one for its columns. -/
theorem FieldMembers.mem_bounds {format : Format} {ms : List (Text × Json)}
    (h : FieldMembers format ms) : ∀ m ∈ ms, m.1 ≠ formatKey ∧ m.2.depth ≤ fieldDepth := by
  have htext : ∀ (t : Text) (v : Json), v = .string t → v.depth ≤ fieldDepth := by
    rintro t v rfl
    exact Nat.zero_le _
  have hnumber : ∀ n (v : Json), v = .number n → v.depth ≤ fieldDepth := by
    rintro n v rfl
    exact Nat.zero_le _
  have hcolumns : ∀ columns (v : Json), v = .array (textItems columns) →
      v.depth ≤ fieldDepth := by
    rintro columns v rfl
    rw [Json.depth, Json.itemDepth_textItems]
    decide
  cases h with
  | table hcs hss =>
    exact List.forall_mem_append.mpr ⟨Given.mem_bounds .columns hcs (hcolumns _),
      Given.mem_bounds .skip hss (hnumber _)⟩
  | keyValue hrs hfs =>
    exact List.forall_mem_append.mpr ⟨Given.mem_bounds .recordSeparator hrs (htext _),
      Given.mem_bounds .fieldSeparator hfs (htext _)⟩
  | keyRow => exact List.forall_mem_nil _
  | regexp hrs hcs _ =>
    have hpattern : Field.pattern.key ≠ formatKey := by decide
    refine List.forall_mem_append.mpr ⟨List.forall_mem_append.mpr ?_, ?_⟩
    · exact ⟨Given.mem_bounds .recordSeparator hrs (htext _),
        Given.mem_bounds .columns hcs (hcolumns _)⟩
    · exact List.forall_mem_singleton.mpr ⟨hpattern, htext _ _ rfl⟩

theorem splitMembers_other {depth : Nat} {name : Option FormatName} {k : Text} {v : Json}
    (hkey : k ≠ formatKey) (hdepth : v.depth ≤ depth) (ds : List (Option Text × Draft)) :
    splitMembers depth name ((some k, toDraft v) :: ds) =
      (splitMembers depth name ds).map fun r => (r.1, (k, toDraft v) :: r.2) := by
  simp only [splitMembers, decodeKey, if_neg hkey, check_toDraft v hdepth]

theorem splitMembers_name {depth : Nat} {n : Text} {name : FormatName}
    (hname : FormatName.ofText? n = some name) (ds : List (Option Text × Draft)) :
    splitMembers depth none ((some formatKey, .string (some n)) :: ds) =
      splitMembers depth (some name) ds := by
  simp only [splitMembers, decodeKey, decodeFormatName, hname, if_true]
  rfl

theorem splitMembers_memberDrafts {depth : Nat} {name : Option FormatName}
    {ms : List (Text × Json)} (h : ∀ m ∈ ms, m.1 ≠ formatKey ∧ m.2.depth ≤ depth) :
    splitMembers depth name (memberDrafts ms) = .ok (name, keyedDrafts ms) := by
  induction ms with
  | nil => rfl
  | cons m ms ih =>
    obtain ⟨hkey, hdepth⟩ := h m List.mem_cons_self
    have hms := ih fun m hm => h m (List.mem_cons_of_mem _ hm)
    rw [memberDrafts, splitMembers_other hkey hdepth, hms]
    rfl

/-- The name of a format is found wherever it stands. -/
theorem splitMembers_append {depth : Nat} {n : Text} {name : FormatName}
    {before after : List (Text × Json)} (hname : FormatName.ofText? n = some name)
    (h : ∀ m ∈ before ++ after, m.1 ≠ formatKey ∧ m.2.depth ≤ depth) :
    splitMembers depth none (memberDrafts (before ++ (formatKey, .string n) :: after)) =
      .ok (some name, keyedDrafts (before ++ after)) := by
  induction before with
  | nil =>
    rw [List.nil_append, memberDrafts, toDraft, splitMembers_name hname]
    exact splitMembers_memberDrafts h
  | cons m before ih =>
    obtain ⟨hkey, hdepth⟩ := h m List.mem_cons_self
    have hms := ih fun m hm => h m (List.mem_cons_of_mem _ hm)
    rw [List.cons_append, memberDrafts, splitMembers_other hkey hdepth, hms]
    rfl

theorem ofText?_name (format : Format) :
    FormatName.ofText? format.name.toList = some (nameOf format) := by
  have hnames : FormatName.ofText? "table".toList = some .table ∧
      FormatName.ofText? "key-value".toList = some .keyValue ∧
      FormatName.ofText? "key-row".toList = some .keyRow ∧
      FormatName.ofText? "regexp".toList = some .regexp := by decide
  obtain ⟨htable, hkeyValue, hkeyRow, hregexp⟩ := hnames
  cases format with
  | table => exact htable
  | keyValue => exact hkeyValue
  | keyRow => exact hkeyRow
  | regexp => exact hregexp

theorem place?_key {name : FormatName} {f : Field} (h : f ∈ name.fields) (d : Draft) :
    (fieldReader name).place? (f.key, d) = some f := by
  show name.fields.find? (fun g => g.key == f.key) = some f
  revert h
  cases name <;> cases f <;> decide

theorem foldlM_fields_given (name : FormatName) (f g : Field) (v : f.Content) (w : g.Content)
    {Spells Spells' : Json → Prop} {isDefault isDefault' : Prop} {ms ms' : List (Text × Json)}
    (h : Given f.key Spells isDefault ms) (h' : Given g.key Spells' isDefault' ms') (hne : g ≠ f)
    (hf : f ∈ name.fields) (hg : g ∈ name.fields)
    (hv : ∀ j, Spells j → f.decode (toDraft j) = .ok v)
    (hw : ∀ j, Spells' j → g.decode (toDraft j) = .ok w) :
    ∃ fs₁ fs₂, (keyedDrafts (ms ++ ms')).foldlM (fieldReader name).step {} = .ok fs₂ ∧
      fieldPlaces.Takes {} f v isDefault fs₁ ∧ fieldPlaces.Takes fs₁ g w isDefault' fs₂ := by
  have hempty : ∀ f, Fields.has {} f = false := by
    intro f
    cases f <;> rfl
  exact (fieldReader name).foldlM_given_append h h' hne (place?_key hf) (place?_key hg)
    (hempty f) (hempty g) hv hw

theorem decodeRegex_string {t : Text} {r : Regex} (h : Regex.compile? t = some r) :
    decodeRegex (.string (some t)) = .ok r := by
  simp only [decodeRegex, decodeText, bind, Except.bind, h]
  rfl

/-- The members for the fields of a format give the format. -/
theorem foldlM_fieldMembers {format : Format} {ms : List (Text × Json)}
    (h : FieldMembers format ms) (missing : ShapeError) :
    ∃ fs : Fields, (keyedDrafts ms).foldlM (fieldReader (nameOf format)).step {} = .ok fs ∧
      fs.format missing (nameOf format) = .ok format := by
  cases h with
  | keyRow => exact ⟨{}, rfl, rfl⟩
  | @table columns skip cs ss hcolumns hskip =>
    obtain ⟨fs₁, fs₂, hfold, hfs₁, hfs₂⟩ := foldlM_fields_given .table .columns .skip columns skip
      hcolumns hskip (by decide) (by decide) (by decide)
      (fun j hj => hj ▸ decodeArray_textItems columns) (fun j hj => hj ▸ rfl)
    refine ⟨fs₂, hfold, ?_⟩
    obtain rfl | ⟨rfl, rfl⟩ := hfs₁ <;> obtain rfl | ⟨rfl, rfl⟩ := hfs₂ <;> rfl
  | @keyValue record field rs ms hrecord hfield =>
    obtain ⟨fs₁, fs₂, hfold, hfs₁, hfs₂⟩ := foldlM_fields_given .keyValue .recordSeparator
      .fieldSeparator record field hrecord hfield (by decide) (by decide) (by decide)
      (fun j hj => hj ▸ rfl) (fun j hj => hj ▸ rfl)
    refine ⟨fs₂, hfold, ?_⟩
    obtain rfl | ⟨rfl, rfl⟩ := hfs₁ <;> obtain rfl | ⟨rfl, rfl⟩ := hfs₂ <;> rfl
  | @regexp record columns pattern rs cs hrecord hcolumns compiles =>
    obtain ⟨fs₁, fs₂, hfold, hfs₁, hfs₂⟩ := foldlM_fields_given .regexp .recordSeparator .columns
      record columns hrecord hcolumns (by decide) (by decide) (by decide) (fun j hj => hj ▸ rfl)
      (fun j hj => hj ▸ decodeArray_textItems columns)
    have hfree : fs₂.has .pattern = false :=
      hfs₂.has_eq_false (show Field.pattern ≠ Field.columns by decide)
        (hfs₁.has_eq_false (show Field.pattern ≠ Field.recordSeparator by decide) rfl)
    have hdecode : Field.decode (.string (some pattern.source)) .pattern = .ok pattern :=
      decodeRegex_string compiles
    have hpattern : [(Field.pattern.key, Draft.string (some pattern.source))].foldlM
        (fieldReader .regexp).step fs₂ = .ok (fs₂.fill .pattern pattern) :=
      (fieldReader .regexp).foldlM_singleton (place?_key (by decide) _) hfree hdecode
    refine ⟨fs₂.fill .pattern pattern, ?_, ?_⟩
    · rw [keyedDrafts_append, nameOf, foldlM_append_of_ok hfold]
      exact hpattern
    · obtain rfl | ⟨rfl, rfl⟩ := hfs₁ <;> obtain rfl | ⟨rfl, rfl⟩ := hfs₂ <;> rfl

/-- A described format is decoded, whatever the order of its members. -/
theorem decodeFormat_toDraft {format : Format} {members : List (Text × Json)}
    (h : DescribesFormat format members) :
    decodeFormat (toDraft (.object members)) = .ok format := by
  obtain @⟨fields, others, _, hfields, unused, shallow, order⟩ := h
  -- The name stands somewhere among the members, and the others around it.
  have hmem : (formatKey, Json.string format.name.toList) ∈ members :=
    order.mem_iff.mpr List.mem_cons_self
  obtain ⟨before, after, rfl⟩ := List.append_of_mem hmem
  have hrest : (before ++ after).Perm (fields ++ others) :=
    (List.perm_middle.symm.trans order).cons_inv
  have hothers : ∀ m ∈ before ++ after, m.1 ≠ formatKey ∧ m.2.depth ≤ fieldDepth := by
    intro m hm
    obtain hm | hm := List.mem_append.mp (hrest.mem_iff.mp hm)
    · exact hfields.mem_bounds m hm
    · exact ⟨(ne_of_not_mem_memberKeys (unused m hm)).1, shallow m hm⟩
  have hsplit := splitMembers_append (ofText?_name format) hothers
  obtain ⟨fs, hfold, hformat⟩ := foldlM_fieldMembers hfields (.missingField Field.pattern.key)
  have hunused : (keyedDrafts others).foldlM (fieldReader (nameOf format)).step fs = .ok fs := by
    apply (fieldReader (nameOf format)).foldlM_keyedDrafts_idle
    intro m hm
    refine ⟨?_, rfl⟩
    show (nameOf format).fields.find? (fun f => f.key == m.1) = none
    rw [List.find?_eq_none]
    intro f hf
    simpa using (ne_of_not_mem_memberKeys (unused m hm)).2 f hf
  have hmembers : Fields.ofMembers (nameOf format) {} (keyedDrafts (before ++ after)) = .ok fs := by
    rw [Fields.ofMembers_eq_foldlM]
    apply (fieldReader (nameOf format)).foldlM_keyedDrafts_perm hrest
    rw [keyedDrafts_append]
    exact (foldlM_append_of_ok hfold).trans hunused
  rw [toDraft, decodeFormat, hsplit]
  show (Fields.ofMembers (nameOf format) {} (keyedDrafts (before ++ after))).bind _ = _
  rw [hmembers]
  exact hformat

end Telemetry.Configuration
