import Mathlib.Data.List.Forall2
import TableAudit.Proofs.Skipping

/-!
# What rules see of cells

A cell has two views, its text and its number. Filters, profiles and all checks but that of the
storage type look at cells through these and at fields by their names only. So two tables with the
same columns and the same views, row by row, come to the same masks, the same profiles and the same
findings, or fail with the same errors.
-/

namespace TableAudit

/-- Two rows have the same texts and the same numbers. -/
structure Row.ReadsAs (r q : Row) : Prop where
  text : r.text? = q.text?
  number : r.number? = q.number?

/-- Two tables have columns of the same names, and rows that read the same. -/
structure Table.ReadsAs (t u : Table) : Prop where
  names : t.names = u.names
  rows : List.Forall₂ Row.ReadsAs t.rows u.rows

/-- A function of rows that does not tell rows apart that read the same. -/
def LooksAtViews {α : Type} (f : Row → α) : Prop := ∀ r q : Row, r.ReadsAs q → f r = f q

structure RowCheck.LooksAtViews (c : RowCheck) : Prop where
  tested : TableAudit.LooksAtViews c.tested
  fails : TableAudit.LooksAtViews c.fails
  overflows : TableAudit.LooksAtViews c.overflows

section Views

variable {α : Type}

theorem looksAtViews_text (i : Nat) (f : Option String → α) :
    LooksAtViews fun row => f (row.text? i) :=
  fun _ _ h => by simp only [h.text]

theorem looksAtViews_number (i : Nat) (f : Option Float → α) :
    LooksAtViews fun row => f (row.number? i) :=
  fun _ _ h => by simp only [h.number]

private theorem looksAtViews_key (columns : List Nat) (f : Key → α) :
    LooksAtViews fun row => f (row.key columns) :=
  fun _ _ h => by simp only [Row.key, h.text]

theorem RowCheck.looksAtViews_ofEvery {fails : Row → Bool} (h : TableAudit.LooksAtViews fails) :
    (RowCheck.ofEvery fails).LooksAtViews :=
  ⟨fun _ _ _ => rfl, h, fun _ _ _ => rfl⟩

end Views

private theorem forall₂_marked {α β : Type} {R : α → β → Prop} {xs : List α} {ys : List β}
    (h : List.Forall₂ R xs ys) (marks : List Bool) :
    List.Forall₂ R (marked marks xs) (marked marks ys) := by
  induction h generalizing marks with
  | nil => simp
  | cons hxy _ ih =>
    cases marks with
    | nil => simp
    | cons m marks => cases m <;> simp [hxy, ih marks]

namespace Table.ReadsAs

variable {t u : Table}

theorem map_eq (h : t.ReadsAs u) {α : Type} {f : Row → α} (hf : LooksAtViews f) :
    t.rows.map f = u.rows.map f := by
  rw [← List.forall₂_eq_eq_eq, List.forall₂_map_left_iff, List.forall₂_map_right_iff]
  exact h.rows.imp hf

theorem height_eq (h : t.ReadsAs u) : t.height = u.height := h.rows.length_eq

theorem texts_eq (h : t.ReadsAs u) (name : String) : t.texts name = u.texts name := by
  have hmap : ∀ i, t.rows.map (·.text? i) = u.rows.map (·.text? i) :=
    fun i => h.map_eq (looksAtViews_text i id)
  simp only [texts, Schema.column_congr h.names, hmap]

theorem numbers_eq (h : t.ReadsAs u) (name : String) : t.numbers name = u.numbers name := by
  have hmap : ∀ i, t.rows.map (·.number? i) = u.rows.map (·.number? i) :=
    fun i => h.map_eq (looksAtViews_number i id)
  simp only [numbers, Schema.column_congr h.names, hmap]

theorem keys_eq (h : t.ReadsAs u) (names : List String) : t.keys names = u.keys names := by
  have hmap : ∀ is, t.rows.map (·.key is) = u.rows.map (·.key is) :=
    fun is => h.map_eq (looksAtViews_key is id)
  simp only [keys, Schema.columns, Schema.column_congr h.names, hmap]

theorem select (h : t.ReadsAs u) (marks : List Bool) :
    (t.select marks).ReadsAs (u.select marks) :=
  ⟨h.names, forall₂_marked h.rows marks⟩

end Table.ReadsAs

section Profiles

variable {t u : Table}

theorem Profile.ofColumn_of_readsAs (h : t.ReadsAs u) : ofColumn t = ofColumn u := by
  funext field
  simp only [ofColumn, h.texts_eq, h.numbers_eq]

theorem profileTable_of_readsAs (h : t.ReadsAs u) (fields : List String) :
    profileTable t fields = profileTable u fields := by
  simp only [profileTable, Profile.ofColumn_of_readsAs h]

end Profiles

section Filters

theorem FilterTest.looksAtViews_accepts (test : FilterTest) (i : Nat) :
    LooksAtViews (test.accepts i) := by
  cases test with
  | compare op literal => exact looksAtViews_number i (·.any (op.holds · literal))
  | isIn values => exact looksAtViews_text i (·.any (equalsAny · values))
  | notIn values => exact looksAtViews_text i (·.any fun text => !equalsAny text values)
  | isNull => exact looksAtViews_text i Option.isNone
  | isNotNull => exact looksAtViews_text i Option.isSome

namespace RowFilter

private theorem prepare_congr {s s' : Schema} (h : s.names = s'.names) (f : RowFilter) :
    f.prepare s = f.prepare s' := by
  rw [prepare, prepare, Schema.column_congr h]

private theorem yields_prepare (s : Schema) (f : RowFilter) :
    Yields (f.prepare s) LooksAtViews := by
  intro accepts h
  obtain ⟨i, -, rfl⟩ := map_eq_ok.1 h
  exact f.test.looksAtViews_accepts i

private theorem yields_prepareAll (condition : Condition) (filters : List RowFilter) (s : Schema) :
    Yields (prepareAll condition filters s) LooksAtViews := by
  refine .bind_of (.mapM (yields_prepare s) _) fun tests htests => .pure fun r q h => ?_
  have hmap : tests.map (· r) = tests.map (· q) :=
    List.map_congr_left fun test htest => htests test htest r q h
  have hany : tests.any (· r) = tests.any (· q) := by
    simpa [List.any_map] using congrArg (List.any · id) hmap
  have hall : tests.all (· r) = tests.all (· q) := by
    simpa [List.all_map] using congrArg (List.all · id) hmap
  cases condition <;> simp only [hany, hall]

end RowFilter

theorem Table.ReadsAs.filterMask_eq {t u : Table} (h : t.ReadsAs u) (condition : Condition)
    (filters : List RowFilter) :
    t.filterMask condition filters = u.filterMask condition filters := by
  have hprepare : RowFilter.prepareAll condition filters t.fields =
      RowFilter.prepareAll condition filters u.fields := by
    simp only [RowFilter.prepareAll, RowFilter.prepare_congr h.names]
  rw [filterMask, filterMask, hprepare]
  cases hp : RowFilter.prepareAll condition filters u.fields with
  | error e => rfl
  | ok pass =>
    exact congrArg Except.ok (h.map_eq (RowFilter.yields_prepareAll condition filters _ pass hp))

end Filters

def LooksAtNames {α : Type} (find : Schema → α) : Prop :=
  ∀ s s' : Schema, s.names = s'.names → find s = find s'

/-- A check that is prepared by names and then looks at views. -/
structure SeesViews (prepare : Schema → Prepared) : Prop where
  names : LooksAtNames prepare
  views : ∀ s, Yields (prepare s) RowCheck.LooksAtViews

theorem looksAtNames_findColumn (name : String) : LooksAtNames (findColumn · name) :=
  fun s s' h => by simp only [findColumn, Schema.column_congr h]

theorem looksAtNames_columns (names : List String) :
    LooksAtNames fun s => ((s.columns names).mapError CheckError.table) :=
  fun s s' h => by simp only [Schema.columns, Schema.column_congr h]

theorem looksAtNames_index (name : String) : LooksAtNames (Schema.index? · name) :=
  fun s s' h => by simp only [index?_eq_findIdx?_names, h]

namespace SeesViews

theorem pure {c : RowCheck} (h : c.LooksAtViews) : SeesViews fun _ => .ok c :=
  ⟨fun _ _ _ => rfl, fun _ => .pure h⟩

theorem error (e : CheckError) : SeesViews fun _ => .error e :=
  ⟨fun _ _ _ => rfl, fun _ _ h => by cases h⟩

variable {α : Type} {find : Schema → Except CheckError α} {p : α → Prop}
  {prepare : α → Schema → Prepared}

/-- What is found by names may be used in the rest of the preparation. -/
theorem bind_of (hfind : LooksAtNames find) (hp : ∀ s, Yields (find s) p)
    (h : ∀ a, p a → SeesViews (prepare a)) : SeesViews fun s => find s >>= (prepare · s) where
  names s s' hs := by
    dsimp only
    rw [hfind s s' hs]
    cases ha : find s' with
    | error e => rfl
    | ok a => exact (h a (hp s' a ha)).names s s' hs
  views s := .bind_of (hp s) fun a ha => (h a ha).views s

theorem bind (hfind : LooksAtNames find) (h : ∀ a, SeesViews (prepare a)) :
    SeesViews fun s => find s >>= (prepare · s) :=
  bind_of hfind (fun _ _ _ => trivial) fun a (_ : True) => h a

/-- Such a check finds the same on tables that read the same. -/
theorem judged_eq {prepare : Schema → Prepared} (hp : SeesViews prepare) {t u : Table}
    (h : t.ReadsAs u) :
    (prepare t.fields).bind (·.judge t.rows) = (prepare u.fields).bind (·.judge u.rows) := by
  rw [hp.names t.fields u.fields h.names]
  cases hc : prepare u.fields with
  | error e => rfl
  | ok c =>
    have hviews := hp.views u.fields c hc
    have hany : t.rows.any c.overflows = u.rows.any c.overflows := by
      simpa [List.any_map] using congrArg (List.any · id) (h.map_eq hviews.overflows)
    simp only [Except.bind, RowCheck.judge, hany, h.map_eq hviews.tested, h.map_eq hviews.fails]

end SeesViews

section Checks

open RowCheck

theorem textCheck_seesViews (field : String) (fails : String → Bool) :
    SeesViews (textCheck · field fails) :=
  .bind (looksAtNames_findColumn field) fun i =>
    .pure (looksAtViews_ofEvery (looksAtViews_text i (·.any fails)))

namespace RowCheck

private theorem present_seesViews (field : String) : SeesViews (present · field) :=
  .bind (looksAtNames_findColumn field) fun i =>
    .pure (looksAtViews_ofEvery (looksAtViews_text i (·.all (· == ""))))

private theorem catalog_seesViews (field : String) (allowed : List String) :
    SeesViews (catalog · field allowed) :=
  .bind (looksAtNames_findColumn field) fun i =>
    .pure (looksAtViews_ofEvery (looksAtViews_text i (·.all fun text =>
      !(Std.HashSet.ofList (allowed.map catalogForm)).contains (catalogForm text))))

private theorem referential_seesViews (fields : List String) (reference : Table)
    (referenceFields : List String) :
    SeesViews (referential · fields reference referenceFields) := by
  unfold referential
  dsimp only
  split
  · exact .error _
  · exact .bind (fun _ _ _ => rfl) fun keys => .bind (looksAtNames_columns fields) fun is =>
      .pure (looksAtViews_ofEvery fun r q h => by simp only [Row.key, h.text])

private theorem composedOf_seesViews (field : String) (parts : List String) (delimiter : String) :
    SeesViews (composedOf · field parts delimiter) :=
  .bind (looksAtNames_findColumn field) fun i => .bind (looksAtNames_columns parts) fun js =>
    .pure (looksAtViews_ofEvery fun r q h => by rw [h.text])

private theorem email_seesViews (field : String) (reference : Table) (domainField : String)
    (forbidden : List String) : SeesViews (email · field reference domainField forbidden) :=
  .bind (fun _ _ _ => rfl) fun _ => textCheck_seesViews field _

private theorem looksAtNames_limit (l : Option RangeLimit) : LooksAtNames (limit · l) := by
  intro s s' h
  unfold limit
  split
  · rfl
  · rfl
  · next name =>
    exact congrArg (Except.map fun i (row : Row) => row.number? i)
      (looksAtNames_findColumn name s s' h)

private theorem yields_limit (l : Option RangeLimit) (s : Schema) :
    Yields (limit s l) TableAudit.LooksAtViews := by
  unfold limit
  split
  · exact .pure fun _ _ _ => rfl
  · exact .pure fun _ _ _ => rfl
  · intro value h
    obtain ⟨i, -, rfl⟩ := map_eq_ok.1 h
    exact looksAtViews_number i id

theorem withinBounds_seesViews {value : Row → Option Float} (h : TableAudit.LooksAtViews value)
    (b : RangeBounds) : SeesViews (withinBounds · value b) :=
  .bind_of (looksAtNames_limit b.min) (yields_limit b.min) fun min hmin =>
    .bind_of (looksAtNames_limit b.max) (yields_limit b.max) fun max hmax =>
      .pure (looksAtViews_ofEvery fun r q hrq => by
        rw [h r q hrq, hmin r q hrq, hmax r q hrq])

private theorem range_seesViews (field : String) (b : RangeBounds) : SeesViews (range · field b) :=
  .bind (looksAtNames_findColumn field) fun i =>
    withinBounds_seesViews (looksAtViews_number i id) b

private theorem operation_seesViews (field : String) (operator : Comparison) (operand : String)
    (tolerance : Float) : SeesViews (operation · field operator operand tolerance) := by
  unfold operation
  refine .bind (fun _ _ _ => rfl) fun e => .bind (looksAtNames_findColumn field) fun i =>
    .bind (looksAtNames_columns e.columns) fun _ => ⟨fun s s' h => ?_, fun s => ?_⟩
  · simp only [fun name => looksAtNames_index name s s' h]
  · exact .pure (looksAtViews_ofEvery fun r q h => by simp only [h.number])

private theorem dateFormat_seesViews (field : String) (format : Calendar.Format) :
    SeesViews (dateFormat · field format) :=
  .bind (looksAtNames_findColumn field) fun i =>
    .pure ⟨looksAtViews_text i Option.isSome,
      looksAtViews_text i (·.any fun text => (format.readDate text).isNone), fun _ _ _ => rfl⟩

private theorem atPosition_seesViews (field : String) (first last : UInt64)
    (expected : List String) :
    SeesViews (atPosition · field first last expected) :=
  .bind (looksAtNames_findColumn field) fun i =>
    .pure ⟨fun _ _ _ => rfl, looksAtViews_text i fun text =>
        (text.bind (span first last)).any (!expected.contains ·),
      looksAtViews_text i (·.any fun text => (span first last text).isNone)⟩

private theorem looksAtNames_referenceDate (reference : String) (format : Calendar.Format)
    (today : Calendar.Date) : LooksAtNames (referenceDate · reference format today) :=
  fun s s' h => by simp only [referenceDate, looksAtNames_index reference s s' h]

private theorem yields_referenceDate (reference : String) (format : Calendar.Format)
    (today : Calendar.Date) (s : Schema) :
    Yields (referenceDate s reference format today) TableAudit.LooksAtViews := by
  unfold referenceDate
  split
  · next i _ => exact .pure (looksAtViews_text i (·.bind format.readDate))
  · split
    · exact .pure fun _ _ _ => rfl
    · split
      · exact .pure fun _ _ _ => rfl
      · intro _ h
        cases h

private theorem timeRange_seesViews (field reference : String) (format : Calendar.Format)
    (unit : TimeUnit)
    (bounds : RangeBounds) (today : Calendar.Date) :
    SeesViews (timeRange · field reference format unit bounds today) :=
  .bind_of (looksAtNames_referenceDate reference format today)
    (yields_referenceDate reference format today) fun referenceOf hreference =>
    .bind (looksAtNames_findColumn field) fun i =>
      withinBounds_seesViews (fun r q h => by rw [h.text, hreference r q h]) bounds

end RowCheck

namespace GroupCheck

variable {t u : Table}

private theorem unique_of_readsAs (h : t.ReadsAs u) (fields : List String) :
    unique t fields = unique u fields := by
  simp only [unique, Table.groupCounts, h.keys_eq]

private theorem trend_of_readsAs (h : t.ReadsAs u) (field : String) (groupFields : List String)
    (method : TrendMethod) :
    trend t field groupFields method = trend u field groupFields method := by
  simp only [trend, Table.groupBy, h.keys_eq, h.numbers_eq, h.height_eq]

end GroupCheck

end Checks

section Rules

variable {t u : Table}

def Rule.asksStorage : Rule → Bool
  | .plain _ (.storageType _) => true
  | .plain _ _ => false
  | .conditional _ _ _ inner => inner.asksStorage

theorem Check.evaluate_of_readsAs (h : t.ReadsAs u) {c : Check}
    (hc : ∀ expected, c ≠ .storageType expected) (kind : RuleKind) (fields : List String)
    (ctx : Context) : c.evaluate kind fields t ctx = c.evaluate kind fields u ctx := by
  cases c with
  | fields =>
    unfold evaluate
    dsimp only
    split
    · exact GroupCheck.unique_of_readsAs h fields
    · exact (RowCheck.present_seesViews _).judged_eq h
  | statistics output =>
    exact (SeesViews.pure (RowCheck.looksAtViews_ofEvery fun _ _ _ => rfl)).judged_eq h
  | referential reference referenceFields =>
    simp only [evaluate]
    cases ctx.reference reference with
    | error e => rfl
    | ok other => exact (RowCheck.referential_seesViews ..).judged_eq h
  | catalog allowed => exact (RowCheck.catalog_seesViews ..).judged_eq h
  | range bounds => exact (RowCheck.range_seesViews ..).judged_eq h
  | forbidden tokens => exact (textCheck_seesViews ..).judged_eq h
  | type expected => exact (textCheck_seesViews ..).judged_eq h
  | composition parts delimiter => exact (RowCheck.composedOf_seesViews ..).judged_eq h
  | length min max => exact (textCheck_seesViews ..).judged_eq h
  | storageType expected => exact absurd rfl (hc expected)
  | numericFormat integerDigits decimalDigits separator =>
    exact (textCheck_seesViews ..).judged_eq h
  | numericOperation operator operand tolerance =>
    exact (RowCheck.operation_seesViews ..).judged_eq h
  | dateFormat format => exact (RowCheck.dateFormat_seesViews ..).judged_eq h
  | timeRange reference format unit bounds =>
    exact (RowCheck.timeRange_seesViews ..).judged_eq h
  | positionValue first last expected => exact (RowCheck.atPosition_seesViews ..).judged_eq h
  | email reference domainField tokens =>
    simp only [evaluate]
    cases ctx.reference reference with
    | error e => rfl
    | ok other => exact (RowCheck.email_seesViews ..).judged_eq h
  | valueTrend referenceFields method =>
    exact GroupCheck.trend_of_readsAs h _ referenceFields method

/-- A rule finds the same on tables that read the same; under a condition the rows that pass read
the same, too. -/
theorem Rule.evaluate_of_readsAs (h : t.ReadsAs u) {r : Rule} (hr : r.asksStorage = false)
    (fields : List String) (ctx : Context) :
    r.evaluate fields ctx t = r.evaluate fields ctx u := by
  induction r generalizing t u with
  | plain head check =>
    refine Check.evaluate_of_readsAs h ?_ head.kind fields ctx
    rintro expected rfl
    cases hr
  | conditional head condition filters inner ih =>
    simp only [evaluate, h.filterMask_eq]
    cases u.filterMask condition filters with
    | error e => rfl
    | ok marks =>
      have hinner := ih (h.select marks) hr
      simp only [Except.mapError, bind, Except.bind, hinner]

end Rules

end TableAudit
