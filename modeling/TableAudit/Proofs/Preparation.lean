import TableAudit.Check.Evaluate
import TableAudit.Proofs.Steps

/-!
# What overflows

A check that does not hold rows against each other is prepared from names and then judges row by
row. The preparation never overflows, and of the checks it leads to only one counts in 64 bits. That
is the check of positions, and the count overflows only behind the last position there is.
-/

namespace TableAudit

abbrev NeverOverflows {α : Type} (x : Except CheckError α) : Prop := FailsWith x (· ≠ .overflow)

/-- The failures of a check by itself, for which no other table is to blame. -/
def CheckError.IsOwn : CheckError → Prop
  | table _ | invalidReferenceDate _ _ | invalidExpression _ _ => True
  | referenceUnavailable _ _ | overflow => False

theorem CheckError.IsOwn.ne_overflow {e : CheckError} (h : e.IsOwn) : e ≠ overflow := by
  rintro rfl
  exact h

section Own

open CheckError

theorem FailsWith.ofTable {α : Type} (x : Except TableError α) :
    FailsWith (x.mapError CheckError.table) IsOwn :=
  .mapError fun _ _ => trivial

theorem NeverOverflows.ofTable {α : Type} (x : Except TableError α) :
    NeverOverflows (x.mapError CheckError.table) := fun e he =>
  (FailsWith.ofTable x e he).ne_overflow

theorem NeverOverflows.reference (ctx : Context) (source : Source) :
    NeverOverflows (ctx.reference source) := by
  intro e he
  unfold Context.reference at he
  split at he <;> cases he
  · exact CheckError.noConfusion
  · exact CheckError.noConfusion

private theorem limit_isOwn (s : Schema) (b : Option RangeLimit) :
    FailsWith (RowCheck.limit s b) IsOwn := by
  rcases b with _ | x | name
  · exact .pure _
  · exact .pure _
  · exact (FailsWith.ofTable (s.column name)).map _

private theorem referenceDate_isOwn (s : Schema) (reference : String) (format : Calendar.Format)
    (today : Calendar.Date) :
    FailsWith (RowCheck.referenceDate s reference format today) IsOwn := by
  unfold RowCheck.referenceDate
  split
  · exact .pure _
  · split
    · exact .pure _
    · split
      · exact .pure _
      · intro e he
        cases he
        trivial

end Own

/-- The verdict on any row can be computed. -/
def RowCheck.IsExact (c : RowCheck) : Prop := ∀ row, c.overflows row = false

theorem RowCheck.judge_of_isExact {c : RowCheck} (h : c.IsExact) (rows : List Row) :
    c.judge rows = .ok (.ofEligible (rows.map c.tested) (rows.map c.fails)) := by
  have hany : rows.any c.overflows = false := List.any_eq_false.2 fun row _ => by simp [h row]
  simp only [judge, hany, Bool.false_eq_true, if_false]

theorem RowCheck.judge_cases (c : RowCheck) (rows : List Row) :
    c.judge rows = .error .overflow ∨ ∃ f, c.judge rows = .ok f := by
  unfold judge
  split
  · exact .inl rfl
  · exact .inr ⟨_, rfl⟩

theorem RowCheck.judge_eq_overflow {c : RowCheck} {rows : List Row} :
    c.judge rows = .error .overflow ↔ ∃ row ∈ rows, c.overflows row = true := by
  rw [← List.any_eq_true, judge]
  split
  · next h => exact iff_of_true rfl h
  · next h => exact iff_of_false (fun he => by cases he) h

theorem Prepared.bind_judge_eq_table {p : Prepared} {rows : List Row} {e : TableError} :
    p.bind (·.judge rows) = .error (.table e) ↔ p = .error (.table e) := by
  cases p with
  | error e' => constructor <;> intro h <;> cases h <;> rfl
  | ok c =>
    refine iff_of_false (fun h => ?_) fun h => by cases h
    change c.judge rows = _ at h
    unfold RowCheck.judge at h
    split at h <;> cases h

/-- A check is prepared unless it fails by itself, and its verdicts never overflow. -/
structure Prepared.IsExact (p : Prepared) : Prop where
  prepared : FailsWith p CheckError.IsOwn
  judged : Yields p RowCheck.IsExact

namespace Prepared.IsExact

variable {α : Type} {p : Prepared} {x : Except CheckError α} {f : α → Prepared}

theorem neverOverflows (h : p.IsExact) : NeverOverflows p :=
  fun e he => (h.prepared e he).ne_overflow

theorem pure {c : RowCheck} (h : c.IsExact) : IsExact (Pure.pure c) := ⟨.pure c, .pure h⟩

theorem error {e : CheckError} (h : e.IsOwn) : IsExact (.error e) where
  prepared _ he := Except.error.inj he ▸ h
  judged := .throw

theorem ofEvery (fails : Row → Bool) : IsExact (Pure.pure (.ofEvery fails)) := pure fun _ => rfl

theorem bind (hx : FailsWith x CheckError.IsOwn) (hf : ∀ a, IsExact (f a)) : IsExact (x >>= f) where
  prepared := FailsWith.bind hx fun a => (hf a).prepared
  judged := .bind fun a => (hf a).judged

variable (s : Schema) (field : String)

theorem textCheck (fails : String → Bool) : IsExact (TableAudit.textCheck s field fails) :=
  bind (.ofTable _) fun _ => ofEvery _

theorem present : IsExact (RowCheck.present s field) :=
  bind (.ofTable _) fun _ => ofEvery _

theorem catalog (allowed : List String) : IsExact (RowCheck.catalog s field allowed) :=
  bind (.ofTable _) fun _ => ofEvery _

theorem composedOf (parts : List String) (delimiter : String) :
    IsExact (RowCheck.composedOf s field parts delimiter) :=
  bind (.ofTable _) fun _ => bind (.ofTable _) fun _ => ofEvery _

theorem storageType (expected : StorageType) :
    IsExact (RowCheck.storageType s field expected) := by
  unfold RowCheck.storageType
  split
  · exact ofEvery _
  · exact error trivial

theorem referential (fields : List String) (other : Table) (referenceFields : List String) :
    IsExact (RowCheck.referential s fields other referenceFields) := by
  unfold RowCheck.referential
  split
  · exact error trivial
  · exact bind (.ofTable _) fun _ => bind (.ofTable _) fun _ => ofEvery _

theorem email (other : Table) (domainField : String) (forbidden : List String) :
    IsExact (RowCheck.email s field other domainField forbidden) :=
  bind (.ofTable _) fun _ => textCheck _ _ _

private theorem withinBounds (value : Row → Option Float) (b : RangeBounds) :
    IsExact (RowCheck.withinBounds s value b) :=
  bind (limit_isOwn s b.min) fun _ => bind (limit_isOwn s b.max) fun _ => ofEvery _

theorem range (b : RangeBounds) : IsExact (RowCheck.range s field b) :=
  bind (.ofTable _) fun _ => withinBounds _ _ _

theorem operation (operator : Comparison) (operand : String) (tolerance : Float) :
    IsExact (RowCheck.operation s field operator operand tolerance) :=
  bind (.mapError fun _ _ => trivial) fun _ =>
    bind (.ofTable _) fun _ => bind (.ofTable _) fun _ => ofEvery _

theorem dateFormat (format : Calendar.Format) : IsExact (RowCheck.dateFormat s field format) :=
  bind (.ofTable _) fun _ => pure fun _ => rfl

theorem timeRange (reference : String) (format : Calendar.Format) (unit : TimeUnit)
    (bounds : RangeBounds) (today : Calendar.Date) :
    IsExact (RowCheck.timeRange s field reference format unit bounds today) :=
  bind (referenceDate_isOwn s reference format today) fun _ =>
    bind (.ofTable _) fun _ => withinBounds _ _ _

end Prepared.IsExact

/-- Whether a check asks for positions up to the last one of 64 bits. -/
def Check.reachesLimit : Check → Bool
  | .positionValue _ last _ => UInt64.size ≤ last.toNat + 1
  | _ => false

theorem RowCheck.span_isSome {first last : UInt64} (h : last.toNat + 1 < UInt64.size)
    (text : String) : (span first last text).isSome = true := by
  simp only [span, if_pos h, Option.isSome_some]

theorem RowCheck.span_eq_none {first last : UInt64} (h : UInt64.size ≤ last.toNat + 1)
    (text : String) : span first last text = none := by
  simp only [span, if_neg (Nat.not_lt.2 h)]

def Check.comparesRows (c : Check) (kind : RuleKind) : Bool :=
  match c with
  | .fields => kind == .duplicateCheck
  | .valueTrend _ _ => true
  | _ => false

namespace RowCheck

variable {first last : UInt64}

theorem atPosition_isOwn (s : Schema) (field : String) (first last : UInt64)
    (expected : List String) :
    FailsWith (atPosition s field first last expected) CheckError.IsOwn :=
  FailsWith.bind (.ofTable _) fun _ => .pure _

private theorem atPosition_isExact (h : last.toNat + 1 < UInt64.size) (s : Schema) (field : String)
    (expected : List String) : Yields (atPosition s field first last expected) IsExact :=
  .bind fun i => .pure fun row => by
    change (row.text? i).any (fun text => (span first last text).isNone) = false
    cases row.text? i with
    | none => rfl
    | some text => simp [Option.isNone_eq_false_iff, span_isSome h text]

end RowCheck

/-- What an evaluation comes to on all tables with certain fields: a check is prepared, and then it
judges their rows, which overflows at most if it reaches the limit. -/
structure PreparedTo (s : Schema) (evaluate : Table → Except CheckError Finding)
    (reachesLimit : Bool) (p : Prepared) : Prop where
  neverOverflows : NeverOverflows p
  isExact : reachesLimit = false → Yields p RowCheck.IsExact
  evaluate_eq : ∀ t : Table, t.fields = s → evaluate t = p.bind (·.judge t.rows)

namespace PreparedTo

variable {s : Schema} {evaluate : Table → Except CheckError Finding} {reachesLimit : Bool}
  {p : Prepared}

/-- A check that looks another table up before it is prepared. -/
private theorem of_reference {prepare : Table → Prepared} (ctx : Context) (source : Source)
    (hp : ∀ other, (prepare other).IsExact) (h : ∀ t : Table, t.fields = s →
      evaluate t = ctx.reference source >>= fun other => (prepare other).bind (·.judge t.rows)) :
    PreparedTo s evaluate reachesLimit (ctx.reference source >>= prepare) where
  neverOverflows :=
    FailsWith.bind (NeverOverflows.reference ctx source) fun other => (hp other).neverOverflows
  isExact _ := .bind fun other => (hp other).judged
  evaluate_eq t ht := by
    rw [h t ht]
    cases ctx.reference source <;> rfl

private theorem neverOverflows_evaluate (h : PreparedTo s evaluate false p) {t : Table}
    (ht : t.fields = s) : NeverOverflows (evaluate t) := by
  rw [h.evaluate_eq t ht]
  exact h.neverOverflows.bind_of (h.isExact rfl) fun check hcheck => by
    rw [RowCheck.judge_of_isExact hcheck]
    exact .pure _

end PreparedTo

/-- Whether a check compares with another table. -/
def Check.looksUp : Check → Bool
  | .referential _ _ | .email _ _ _ => true
  | _ => false

private theorem exists_of_isExact {s : Schema} {evaluate : Table → Except CheckError Finding}
    {reachesLimit : Bool} {p : Prepared} (hp : p.IsExact)
    (h : ∀ t : Table, t.fields = s → evaluate t = p.bind (·.judge t.rows)) :
    ∃ p, FailsWith p CheckError.IsOwn ∧ PreparedTo s evaluate reachesLimit p :=
  ⟨p, hp.prepared, hp.neverOverflows, fun _ => hp.judged, h⟩

/-- A check of single rows that looks nothing up is prepared from the schema alone, unless it fails
by itself. -/
theorem Check.exists_prepared_isOwn {c : Check} {kind : RuleKind}
    (h : c.comparesRows kind = false) (hl : c.looksUp = false) (fields : List String) (s : Schema)
    (ctx : Context) : ∃ p, FailsWith p CheckError.IsOwn ∧
      PreparedTo s (c.evaluate kind fields · ctx) c.reachesLimit p := by
  cases c with
  | fields =>
    have hk : kind ≠ .duplicateCheck := by simpa [comparesRows] using h
    exact exists_of_isExact (.present s (firstField fields)) fun t ht => by
      subst ht
      exact if_neg hk
  | valueTrend => cases h
  | referential | email => cases hl
  | positionValue first last expected =>
    have hown := RowCheck.atPosition_isOwn s (firstField fields) first last expected
    refine ⟨_, hown, fun e he => (hown e he).ne_overflow,
      fun hlast => RowCheck.atPosition_isExact ?_ s (firstField fields) expected, fun t ht => ?_⟩
    · simpa [reachesLimit] using hlast
    · subst ht
      rfl
  | statistics output => exact exists_of_isExact (.ofEvery fun _ => false) fun t ht => rfl
  | catalog allowed =>
    exact exists_of_isExact (.catalog s (firstField fields) allowed) fun t ht => by subst ht; rfl
  | range bounds =>
    exact exists_of_isExact (.range s (firstField fields) bounds) fun t ht => by subst ht; rfl
  | composition parts delimiter =>
    exact exists_of_isExact (.composedOf s (firstField fields) parts delimiter)
      fun t ht => by subst ht; rfl
  | storageType expected =>
    exact exists_of_isExact (.storageType s (firstField fields) expected)
      fun t ht => by subst ht; rfl
  | numericOperation operator operand tolerance =>
    exact exists_of_isExact (.operation s (firstField fields) operator operand tolerance)
      fun t ht => by subst ht; rfl
  | dateFormat format =>
    exact exists_of_isExact (.dateFormat s (firstField fields) format) fun t ht => by subst ht; rfl
  | timeRange reference format unit bounds =>
    exact exists_of_isExact
      (.timeRange s (firstField fields) reference format unit bounds ctx.runDate)
      fun t ht => by subst ht; rfl
  | forbidden | type | length | numericFormat =>
    exact exists_of_isExact (.textCheck s (firstField fields) _) fun t ht => by subst ht; rfl

/-- All checks of single rows are prepared from the schema and the tables that they look up. -/
theorem Check.exists_preparedTo {c : Check} {kind : RuleKind} (h : c.comparesRows kind = false)
    (fields : List String) (s : Schema) (ctx : Context) :
    ∃ p, PreparedTo s (c.evaluate kind fields · ctx) c.reachesLimit p := by
  cases c with
  | referential reference columns =>
    exact ⟨_, .of_reference ctx reference (.referential s fields · columns) fun t ht => by
      subst ht; rfl⟩
  | email reference domainField tokens =>
    exact ⟨_, .of_reference ctx reference (.email s (firstField fields) · domainField tokens)
      fun t ht => by subst ht; rfl⟩
  | _ =>
    obtain ⟨p, -, hp⟩ := exists_prepared_isOwn h rfl fields s ctx
    exact ⟨p, hp⟩

theorem GroupCheck.unique_isOwn (t : Table) (fields : List String) :
    FailsWith (unique t fields) CheckError.IsOwn :=
  FailsWith.bind (.ofTable _) fun _ => .pure _

theorem GroupCheck.trend_isOwn (t : Table) (field : String) (groupFields : List String)
    (method : TrendMethod) : FailsWith (trend t field groupFields method) CheckError.IsOwn := by
  unfold trend
  refine FailsWith.bind (.ofTable _) fun values => ?_
  split
  · exact .pure _
  · exact FailsWith.bind (.ofTable _) fun _ => .pure _

theorem Check.neverOverflows_evaluate {c : Check} (h : c.reachesLimit = false) (kind : RuleKind)
    (fields : List String) (t : Table) (ctx : Context) :
    NeverOverflows (c.evaluate kind fields t ctx) := by
  cases hc : c.comparesRows kind with
  | false =>
    obtain ⟨p, hp⟩ := exists_preparedTo hc fields t.fields ctx
    exact (h ▸ hp).neverOverflows_evaluate rfl
  | true =>
    cases c with
    | fields =>
      have hk : kind = .duplicateCheck := by simpa [comparesRows] using hc
      simp only [evaluate, if_pos hk]
      exact fun e he => (GroupCheck.unique_isOwn t fields e he).ne_overflow
    | valueTrend columns method =>
      exact fun e he => (GroupCheck.trend_isOwn t _ columns method e he).ne_overflow
    | _ => simp [comparesRows] at hc

def Rule.reachesLimit : Rule → Bool
  | plain _ c => c.reachesLimit
  | conditional _ _ _ inner => inner.reachesLimit

/-- No other rule overflows on any table. -/
theorem Rule.neverOverflows_evaluate {r : Rule} (h : r.reachesLimit = false)
    (fields : List String) (ctx : Context) (t : Table) :
    NeverOverflows (r.evaluate fields ctx t) := by
  induction r generalizing t with
  | plain head check => exact check.neverOverflows_evaluate h head.kind fields t ctx
  | conditional head condition filters inner ih =>
    exact FailsWith.bind (NeverOverflows.ofTable _) fun marks =>
      FailsWith.bind (ih h (t.select marks)) fun _ => .pure _

theorem Rule.reachesLimit_of_overflow {r : Rule} {fields : List String} {ctx : Context} {t : Table}
    (h : r.evaluate fields ctx t = .error .overflow) : r.reachesLimit = true := by
  cases hr : r.reachesLimit with
  | true => rfl
  | false => exact (r.neverOverflows_evaluate hr fields ctx t _ h rfl).elim

def Rule.ofAccount (last : UInt64) : Rule :=
  .plain ⟨"117", .positionValueCheck, .columns ["account"], 100, true⟩
    (.positionValue 1 last ["PE", "CO"])

end TableAudit
