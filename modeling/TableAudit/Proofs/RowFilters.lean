import TableAudit.Proofs.Keys
import TableAudit.Proofs.Runs

/-!
# Filters as predicates of rows

Filters are prepared one after the other, and the first that names no column is the error of all.
Then each is a predicate of rows. So filters that all have to be passed may be applied in stages,
the order of filters only decides which error is met first, and a row goes to exactly one side of a
list of values, unless it has no value.
-/

namespace TableAudit

namespace RowFilter

def joint (condition : Condition) (tests : List (Row → Bool)) (row : Row) : Bool :=
  match condition with
  | .any => tests.isEmpty || tests.any (· row)
  | .first | .all => tests.all (· row)

theorem prepareAll_eq_map (condition : Condition) (filters : List RowFilter) (s : Schema) :
    prepareAll condition filters s =
      ((considered condition filters).mapM (prepare · s)).map (joint condition) := by
  unfold prepareAll
  cases (considered condition filters).mapM (prepare · s) with
  | error e => rfl
  | ok tests => cases condition <;> rfl

def passes (s : Schema) (f : RowFilter) (row : Row) : Bool :=
  (s.index? f.column).any fun i => f.test.accepts i row

variable {s : Schema} {filters : List RowFilter}

theorem prepare_eq_ok {f : RowFilter} (h : f.column ∈ s.names) :
    f.prepare s = .ok (f.passes s) := by
  have hi := Schema.has_eq_true.2 h
  unfold Schema.has at hi
  unfold prepare Schema.column
  cases hindex : s.index? f.column with
  | none => simp [hindex] at hi
  | some i =>
    refine congrArg Except.ok (funext fun row => ?_)
    simp [passes, hindex]

theorem mapM_prepare_eq_ok (h : ∀ f ∈ filters, f.column ∈ s.names) :
    filters.mapM (prepare · s) = .ok (filters.map (passes s)) := by
  induction filters with
  | nil => rfl
  | cons f filters ih =>
    rw [List.mapM_cons, prepare_eq_ok (h f List.mem_cons_self),
      ih fun g hg => h g (List.mem_cons_of_mem _ hg)]
    rfl

/-- All tests of one list and all of another are all tests of both. -/
theorem joint_all_append (tests others : List (Row → Bool)) :
    joint .all (tests ++ others) = fun row => joint .all others row && joint .all tests row :=
  funext fun _ => List.all_append.trans (Bool.and_comm _ _)

private theorem joint_singleton (condition : Condition) (test : Row → Bool) :
    joint condition [test] = test := by
  funext row
  cases condition <;> simp [joint]

theorem joint_perm {tests others : List (Row → Bool)} (h : tests.Perm others)
    {condition : Condition} : joint condition tests = joint condition others := by
  funext row
  cases condition with
  | any => simp only [joint, h.isEmpty_eq, h.any_eq]
  | all => exact h.all_eq
  | first => exact h.all_eq

end RowFilter

namespace Table

open RowFilter

variable {t : Table}

theorem filterMask_eq_ok {condition : Condition} {filters : List RowFilter}
    (h : ∀ f ∈ considered condition filters, f.column ∈ t.names) :
    t.filterMask condition filters = .ok (t.rows.map
      (joint condition ((considered condition filters).map (passes t.fields)))) := by
  rw [filterMask, prepareAll_eq_map, mapM_prepare_eq_ok h]
  rfl

/-- Filtering in two stages is filtering once, errors included. -/
theorem filterBy_all_append (t : Table) (filters others : List RowFilter) :
    (t.filterBy .all filters >>= (·.filterBy .all others)) =
      t.filterBy .all (filters ++ others) := by
  have hfirst : ∀ fs, considered .all fs = fs := fun _ => rfl
  simp only [filterBy, prepareAll_eq_map, hfirst, List.mapM_append]
  cases filters.mapM (prepare · t.fields) with
  | error e => rfl
  | ok tests =>
    have hfields : (t.filter (joint .all tests)).fields = t.fields := rfl
    simp only [Except.map, bind, Except.bind, hfields]
    cases others.mapM (prepare · t.fields) with
    | error e => rfl
    | ok more =>
      refine congrArg Except.ok (eq_of_rows rfl ?_)
      simp only [filter, List.filter_filter, joint_all_append]

private theorem filterMask_singleton (t : Table) (condition : Condition) (f : RowFilter) :
    t.filterMask condition [f] = (f.prepare t.fields).map t.rows.map := by
  have hone : considered condition [f] = [f] := by cases condition <;> rfl
  rw [filterMask, prepareAll_eq_map, hone, List.mapM_cons, List.mapM_nil]
  cases f.prepare t.fields with
  | error e => rfl
  | ok test => exact congrArg (fun p => Except.ok (t.rows.map p)) (joint_singleton condition test)

end Table

/-- Masks of which exactly one marks each row. -/
structure DivideRows (height : Nat) (masks : List (List Bool)) : Prop where
  length : ∀ mask ∈ masks, mask.length = height
  disjoint : masks.Pairwise fun mask other =>
    ∀ i : Nat, mask[i]? = some true → other[i]? ≠ some true
  cover : ∀ i < height, ∃ mask ∈ masks, mask[i]? = some true

/-- Predicates of which exactly one holds of each row divide up the rows of any table. -/
theorem divideRows_map (tests : List (Row → Bool)) (t : Table)
    (hdisjoint : tests.Pairwise fun p q => ∀ row, p row = true → q row = false)
    (hcover : ∀ row, ∃ p ∈ tests, p row = true) : DivideRows t.height (tests.map t.rows.map) where
  length mask hmask := by
    obtain ⟨p, -, rfl⟩ := List.mem_map.1 hmask
    exact List.length_map _
  disjoint := by
    rw [List.pairwise_map]
    refine hdisjoint.imp fun {p q} hpq i hp hq => ?_
    rw [List.getElem?_map, Option.map_eq_some_iff] at hp hq
    obtain ⟨row, hrow, hprow⟩ := hp
    obtain ⟨other, hother, hqother⟩ := hq
    obtain rfl : row = other := Option.some.inj (hrow.symm.trans hother)
    exact absurd hqother (by simp [hpq row hprow])
  cover i hi := by
    obtain ⟨p, hp, hrow⟩ := hcover t.rows[i]
    refine ⟨_, List.mem_map_of_mem hp, ?_⟩
    rw [List.getElem?_map, List.getElem?_eq_getElem hi, Option.map_some, hrow]

/-- Of a cell, exactly one holds: it is one of the values, it is there and none of them, or it is
missing. -/
theorem divideRows_accepts (t : Table) (i : Nat) (values : List String) :
    DivideRows t.height [t.rows.map (FilterTest.accepts (.isIn values) i),
      t.rows.map (FilterTest.accepts (.notIn values) i),
      t.rows.map (FilterTest.accepts .isNull i)] := by
  refine divideRows_map [_, _, _] t ?_ fun row => ?_
  · simp only [List.pairwise_cons, List.mem_cons, List.not_mem_nil, or_false, forall_eq_or_imp,
      forall_eq, false_implies, implies_true, and_true, List.Pairwise.nil, FilterTest.accepts]
    refine ⟨⟨fun row => ?_, fun row => ?_⟩, fun row => ?_⟩ <;> cases row.text? i <;> simp
  · simp only [List.mem_cons, List.not_mem_nil, or_false, exists_eq_or_imp, exists_eq_left,
      FilterTest.accepts]
    cases row.text? i with
    | none => simp
    | some text => cases h : equalsAny text values <;> simp [h]

/-- Filters that all have to be passed may be applied in two stages, with the same rows or the same
error. If their columns are there, the order of filters does not matter, whether all or any of them
have to be passed. The filters for some values of a column, for all others and for missing ones
divide up the rows. -/
theorem filters_of_rows (t : Table) :
    (∀ filters others, (t.filterBy .all filters >>= (·.filterBy .all others)) =
      t.filterBy .all (filters ++ others)) ∧
    (∀ filters others : List RowFilter, filters.Perm others →
      (∀ f ∈ filters, f.column ∈ t.names) → ∀ condition, condition ≠ .first →
        ∃ mask, t.filterMask condition filters = .ok mask ∧
          t.filterMask condition others = .ok mask) ∧
    ∀ column values condition,
      (column ∈ t.names → ∃ within without missing,
        t.filterMask condition [⟨column, .isIn values⟩] = .ok within ∧
        t.filterMask condition [⟨column, .notIn values⟩] = .ok without ∧
        t.filterMask condition [⟨column, .isNull⟩] = .ok missing ∧
        DivideRows t.height [within, without, missing]) ∧
      (column ∉ t.names → ∀ test,
        t.filterMask condition [⟨column, test⟩] = .error (.missingColumn column)) := by
  refine ⟨t.filterBy_all_append, fun filters others hp h condition hc => ?_,
    fun column values condition => ⟨fun h => ?_, fun h test => ?_⟩⟩
  · have hall : ∀ fs, RowFilter.considered condition fs = fs := by
      cases condition with
      | first => exact absurd rfl hc
      | all | any => exact fun _ => rfl
    have hothers : ∀ f ∈ others, f.column ∈ t.names := fun f hf => h f (hp.mem_iff.2 hf)
    refine ⟨_, Table.filterMask_eq_ok (by rwa [hall]), ?_⟩
    rw [Table.filterMask_eq_ok (by rwa [hall]), hall, hall, RowFilter.joint_perm (hp.map _)]
  · obtain ⟨i, hi⟩ := Schema.column_eq_ok_iff.2 h
    have hmask : ∀ test, t.filterMask condition [⟨column, test⟩] =
        .ok (t.rows.map (test.accepts i)) := by
      intro test
      rw [t.filterMask_singleton, RowFilter.prepare, hi]
      rfl
    exact ⟨_, _, _, hmask _, hmask _, hmask _, divideRows_accepts t i values⟩
  · rw [t.filterMask_singleton, RowFilter.prepare, Schema.column, Schema.index?_eq_none.2 h]
    rfl

/-- Of three names, one is missing and one is empty. -/
theorem filters_of_rows_names :
    [RowFilter.mk "name" .isNotNull, ⟨"name", .notIn ["x"]⟩].Perm
        [⟨"name", .notIn ["x"]⟩, ⟨"name", .isNotNull⟩] ∧
      (∀ f ∈ [RowFilter.mk "name" .isNotNull, ⟨"name", .notIn ["x"]⟩],
        f.column ∈ (Table.ofTexts "name" [some "x", none, some ""]).names) ∧
      "age" ∉ (Table.ofTexts "name" [some "x", none, some ""]).names ∧
      ((Table.ofTexts "name" [some "x", none, some ""]).filterBy .all [⟨"name", .isNotNull⟩] >>=
        (·.filterBy .all [⟨"name", .notIn ["x"]⟩])) = .ok (.ofTexts "name" [some ""]) ∧
      (Table.ofTexts "name" [some "x", none, some ""]).filterMask .any
        [⟨"name", .notIn ["x"]⟩, ⟨"name", .isNotNull⟩] = .ok [true, false, true] ∧
      DivideRows 3 [[true, false, false], [false, false, true], [false, true, false]] ∧
      (Table.ofTexts "name" [some "x", none, some ""]).filterMask .all [⟨"age", .isNull⟩] =
        .error (.missingColumn "age") := by
  have hp : [RowFilter.mk "name" .isNotNull, ⟨"name", .notIn ["x"]⟩].Perm
      [⟨"name", .notIn ["x"]⟩, ⟨"name", .isNotNull⟩] := .swap _ _ []
  have hcolumns : ∀ f ∈ [RowFilter.mk "name" .isNotNull, ⟨"name", .notIn ["x"]⟩],
      f.column ∈ (Table.ofTexts "name" [some "x", none, some ""]).names := by
    simp [Table.names, Schema.names, Table.ofTexts]
  have hage : "age" ∉ (Table.ofTexts "name" [some "x", none, some ""]).names := by decide
  obtain ⟨hstages, horder, hparts⟩ := filters_of_rows (.ofTexts "name" [some "x", none, some ""])
  obtain ⟨mask, hmask, hswapped⟩ := horder _ _ hp hcolumns .any (by decide)
  obtain rfl : [true, false, true] = mask := Except.ok.inj hmask
  obtain ⟨within, without, missing, hwithin, hwithout, hmissing, hdivide⟩ :=
    (hparts "name" ["x"] .all).1 (by decide)
  cases hwithin
  cases hwithout
  cases hmissing
  exact ⟨hp, hcolumns, hage, (hstages _ _).trans rfl, hswapped, hdivide,
    (hparts "age" [] .all).2 hage _⟩

end TableAudit
