import TableAudit.Proofs.Subpopulation

/-!
# Why rules are skipped

Every step of an evaluation that can fail looks at names only: those of the columns of the table, of
the columns of the tables that were loaded, and those in the rule itself. So two evaluations of a
rule on tables with the same columns end alike, whatever rows there are on either side, unless a row
makes one of them overflow. The proof goes through the steps in their order, since the first failing
step decides which error it is.
-/

namespace TableAudit

/-- Two computations end alike: both fail with the same error, or both come to results, which are
related. -/
inductive EndAlike {ε α β : Type} (R : α → β → Prop) : Except ε α → Except ε β → Prop
  | ok {a : α} {b : β} (h : R a b) : EndAlike R (.ok a) (.ok b)
  | error (e : ε) : EndAlike R (.error e) (.error e)

/-- Both computations come to results, whatever these are, or both fail with the same error. -/
abbrev EndTogether {ε α β : Type} (x : Except ε α) (y : Except ε β) : Prop :=
  EndAlike (fun _ _ => True) x y

namespace EndAlike

variable {ε δ α β γ ζ : Type} {R : α → β → Prop} {S : γ → ζ → Prop} {x : Except ε α}
  {y : Except ε β}

theorem together (h : EndAlike R x y) : EndTogether x y := by
  cases h with
  | ok _ => exact .ok trivial
  | error e => exact .error e

theorem refl (x : Except ε α) : EndTogether x x := by
  cases x with
  | ok a => exact .ok trivial
  | error e => exact .error e

theorem bind {f : α → Except ε γ} {g : β → Except ε ζ} (h : EndAlike R x y)
    (hf : ∀ a b, R a b → EndAlike S (f a) (g b)) : EndAlike S (x >>= f) (y >>= g) := by
  cases h with
  | ok hab => exact hf _ _ hab
  | error e => exact .error e

theorem map (f : α → γ) (g : β → ζ) (h : EndAlike R x y) : EndTogether (x.map f) (y.map g) := by
  cases h with
  | ok _ => exact .ok trivial
  | error e => exact .error e

theorem mapError (f : ε → δ) (h : EndAlike R x y) : EndAlike R (x.mapError f) (y.mapError f) := by
  cases h with
  | ok hab => exact .ok hab
  | error e => exact .error (f e)

theorem mapM {items : List δ} {f : δ → Except ε α} {g : δ → Except ε β}
    (h : ∀ d, EndTogether (f d) (g d)) : EndTogether (items.mapM f) (items.mapM g) := by
  induction items with
  | nil => exact .ok trivial
  | cons d items ih =>
    rw [List.mapM_cons, List.mapM_cons]
    exact (h d).bind fun _ _ _ => ih.bind fun _ _ _ => .ok trivial

theorem of_map_eq {f : α → γ} {g : β → γ} (h : x.map f = y.map g) :
    EndAlike (fun a b => f a = g b) x y := by
  cases x with
  | error e =>
    cases y with
    | error e' =>
      cases h
      exact .error e
    | ok b => cases h
  | ok a =>
    cases y with
    | error e' => cases h
    | ok b => exact .ok (Except.ok.inj h)

private theorem eq_error {e : ε} (h : EndAlike R (.error e) y) : y = .error e := by
  cases h
  rfl

end EndAlike

/-- Two evaluations end together, or one overflows where the other one comes to a result. -/
inductive SettleTogether {α β : Type} : Except CheckError α → Except CheckError β → Prop
  | together {x : Except CheckError α} {y : Except CheckError β} (h : EndTogether x y) :
      SettleTogether x y
  | left (b : β) : SettleTogether (.error .overflow) (.ok b)
  | right (a : α) : SettleTogether (.ok a) (.error .overflow)

namespace SettleTogether

variable {α β γ ζ : Type} {x : Except CheckError α} {y : Except CheckError β}

theorem bind {R : α → β → Prop} {f : α → Except CheckError γ} {g : β → Except CheckError ζ}
    (h : EndAlike R x y) (hf : ∀ a b, R a b → SettleTogether (f a) (g b)) :
    SettleTogether (x >>= f) (y >>= g) := by
  cases h with
  | ok hab => exact hf _ _ hab
  | error e => exact .together (.error e)

theorem map (f : α → γ) (g : β → ζ) (h : SettleTogether x y) :
    SettleTogether (x.map f) (y.map g) := by
  cases h with
  | together h => exact .together (h.map f g)
  | left b => exact .left _
  | right a => exact .right _

theorem judge (c c' : RowCheck) (rows rows' : List Row) :
    SettleTogether (c.judge rows) (c'.judge rows') := by
  obtain h | ⟨f, h⟩ := c.judge_cases rows <;> obtain h' | ⟨f', h'⟩ := c'.judge_cases rows' <;>
    rw [h, h']
  · exact .together (.error _)
  · exact .left _
  · exact .right _
  · exact .together (.ok trivial)

theorem bind_judge {p p' : Prepared} (h : EndTogether p p') (rows rows' : List Row) :
    SettleTogether (p.bind (·.judge rows)) (p'.bind (·.judge rows')) :=
  .bind h fun c c' _ => judge c c' rows rows'

theorem endTogether (h : SettleTogether x y) (hx : NeverOverflows x) (hy : NeverOverflows y) :
    EndTogether x y := by
  cases h with
  | together h => exact h
  | left b => exact (hx _ rfl rfl).elim
  | right a => exact (hy _ rfl rfl).elim

end SettleTogether

section Tables

variable {t u : Table}

theorem Schema.column_congr {s s' : Schema} (h : s.names = s'.names) : s.column = s'.column := by
  funext name
  simp only [column, index?_eq_findIdx?_names, h]

namespace Table

theorem texts_together (h : t.names = u.names) (name : String) :
    EndTogether (t.texts name) (u.texts name) := by
  rw [texts, texts, Schema.column_congr h]
  exact (EndAlike.refl _).map _ _

theorem numbers_together (h : t.names = u.names) (name : String) :
    EndTogether (t.numbers name) (u.numbers name) := by
  rw [numbers, numbers, Schema.column_congr h]
  exact (EndAlike.refl _).map _ _

theorem keys_together (h : t.names = u.names) (names : List String) :
    EndTogether (t.keys names) (u.keys names) := by
  rw [keys, keys, Schema.columns, Schema.columns, Schema.column_congr h]
  exact (EndAlike.refl _).map _ _

private theorem filterMask_together (h : t.fields = u.fields) (condition : Condition)
    (filters : List RowFilter) :
    EndTogether (t.filterMask condition filters) (u.filterMask condition filters) := by
  rw [filterMask, filterMask, h]
  exact (EndAlike.refl _).map _ _

theorem ofColumns_alike {xs ys : List (Field × List (Option Cell))}
    (h : xs.map (·.1) = ys.map (·.1)) :
    EndAlike (fun t u => t.fields = u.fields) (ofColumns xs) (ofColumns ys) := by
  unfold ofColumns
  dsimp only
  split
  · next name hx =>
    split
    · next name' hy =>
      rw [h, hy] at hx
      cases hx
      exact .error _
    · next hy =>
      rw [h, hy] at hx
      cases hx
  · next hx =>
    split
    · next hy =>
      rw [h, hy] at hx
      cases hx
    · exact .ok h

end Table

theorem Profile.ofColumn_together (h : t.names = u.names) (field : String) :
    EndTogether (ofColumn t field) (ofColumn u field) :=
  (Table.texts_together h field).bind fun _ _ _ =>
    (Table.numbers_together h field).bind fun _ _ _ => .ok trivial

theorem profileTable_together (h : t.names = u.names) (fields : List String) :
    EndTogether (profileTable t fields) (profileTable u fields) :=
  (EndAlike.mapM fun field => Profile.ofColumn_together h field).bind fun _ _ _ =>
    (Table.ofColumns_alike (by simp)).together

end Tables

namespace Context

/-- What is known of a table that rules compare with, apart from its rows: that nobody loaded it,
why it could not be loaded, or the names of its columns. -/
def shape (ctx : Context) (source : Source) : Option (Except String (List String)) :=
  (ctx.references.find? (·.1 == source)).map fun (_, loaded) =>
    (loaded.map Table.names).mapError LoadError.message

private theorem map_names_reference (ctx : Context) (source : Source) :
    (ctx.reference source).map Table.names =
      ((ctx.shape source).getD (.error "not loaded")).mapError
        (.referenceUnavailable source.displayName) := by
  unfold reference shape
  generalize ctx.references.find? (·.1 == source) = found
  rcases found with _ | ⟨_, _ | _⟩ <;> rfl

private theorem reference_alike {ctx ctx' : Context} (h : ctx.shape = ctx'.shape)
    (source : Source) :
    EndAlike (fun t u => t.names = u.names) (ctx.reference source) (ctx'.reference source) := by
  apply EndAlike.of_map_eq
  rw [map_names_reference, map_names_reference, h]

end Context

section Checks

variable {t u other other' : Table}

theorem RowCheck.referential_together (h : other.names = other'.names) (s : Schema)
    (fields referenceFields : List String) :
    EndTogether (referential s fields other referenceFields)
      (referential s fields other' referenceFields) := by
  unfold referential
  split
  · exact .error _
  · exact ((Table.keys_together h _).mapError _).bind fun _ _ _ =>
      (EndAlike.refl _).bind fun _ _ _ => .ok trivial

theorem RowCheck.email_together (h : other.names = other'.names) (s : Schema)
    (field domainField : String) (forbidden : List String) :
    EndTogether (email s field other domainField forbidden)
      (email s field other' domainField forbidden) :=
  ((Table.texts_together h _).mapError _).bind fun _ _ _ =>
    (EndAlike.refl _).bind fun _ _ _ => .ok trivial

/-- Whether a reference is a date does not depend on the day on which that is asked. -/
theorem RowCheck.referenceDate_together (s : Schema) (reference : String)
    (format : Calendar.Format) (today today' : Calendar.Date) :
    EndTogether (referenceDate s reference format today)
      (referenceDate s reference format today') := by
  unfold referenceDate
  split
  · exact .ok trivial
  · split
    · exact .ok trivial
    · split
      · exact .ok trivial
      · exact .error _

theorem RowCheck.timeRange_together (s : Schema) (field reference : String)
    (format : Calendar.Format) (unit : TimeUnit) (bounds : RangeBounds)
    (today today' : Calendar.Date) :
    EndTogether (timeRange s field reference format unit bounds today)
      (timeRange s field reference format unit bounds today') :=
  (referenceDate_together s reference format today today').bind fun _ _ _ =>
    (EndAlike.refl _).bind fun _ _ _ => (EndAlike.refl _).bind fun _ _ _ =>
      (EndAlike.refl _).bind fun _ _ _ => .ok trivial

theorem GroupCheck.unique_together (h : t.names = u.names) (fields : List String) :
    EndTogether (unique t fields) (unique u fields) :=
  (((Table.keys_together h fields).map _ _).mapError _).bind fun _ _ _ => .ok trivial

theorem GroupCheck.trend_together (h : t.names = u.names) (field : String)
    (groupFields : List String) (method : TrendMethod) :
    EndTogether (trend t field groupFields method) (trend u field groupFields method) := by
  unfold trend
  refine ((Table.numbers_together h field).mapError _).bind fun _ _ _ => ?_
  split
  · exact .ok trivial
  · exact (((Table.keys_together h groupFields).map _ _).mapError _).bind fun _ _ _ => .ok trivial

variable {ctx ctx' : Context}

theorem Check.evaluate_settle (ht : t.fields = u.fields) (h : ctx.shape = ctx'.shape) (c : Check)
    (kind : RuleKind) (fields : List String) :
    SettleTogether (c.evaluate kind fields t ctx) (c.evaluate kind fields u ctx') := by
  have hn : t.names = u.names := congrArg Schema.names ht
  cases c with
  | fields =>
    simp only [evaluate, ht]
    split
    · exact .together (GroupCheck.unique_together hn fields)
    · exact .bind_judge (.refl _) _ _
  | valueTrend columns method => exact .together (GroupCheck.trend_together hn _ columns method)
  | referential reference columns =>
    simp only [evaluate, ht]
    exact .bind (Context.reference_alike h reference) fun _ _ hnames =>
      .bind_judge (RowCheck.referential_together hnames _ _ _) _ _
  | email reference domainField tokens =>
    simp only [evaluate, ht]
    exact .bind (Context.reference_alike h reference) fun _ _ hnames =>
      .bind_judge (RowCheck.email_together hnames _ _ _ _) _ _
  | timeRange reference format unit bounds =>
    simp only [evaluate, ht]
    exact .bind_judge (RowCheck.timeRange_together ..) _ _
  | _ =>
    simp only [evaluate, ht]
    exact .bind_judge (.refl _) _ _

/-- The tables that conditions leave may differ in height, but their columns are the same again. -/
theorem Rule.evaluate_settle (ht : t.fields = u.fields) (h : ctx.shape = ctx'.shape) (r : Rule)
    (fields : List String) :
    SettleTogether (r.evaluate fields ctx t) (r.evaluate fields ctx' u) := by
  induction r generalizing t u with
  | plain head check => exact check.evaluate_settle ht h head.kind fields
  | conditional head condition filters inner ih =>
    refine .bind ((Table.filterMask_together ht condition filters).mapError _)
      fun marks marks' _ => ?_
    have hinner := ih (t := t.select marks) (u := u.select marks') ht
    exact hinner.map (fun f => (⟨f.tested, spread marks f.failed⟩ : Finding))
      fun g => (⟨g.tested, spread marks' g.failed⟩ : Finding)

theorem Rule.evaluate_together (ht : t.fields = u.fields) (h : ctx.shape = ctx'.shape) {r : Rule}
    (hr : r.reachesLimit = false) (fields : List String) :
    EndTogether (r.evaluate fields ctx t) (r.evaluate fields ctx' u) :=
  (r.evaluate_settle ht h fields).endTogether (neverOverflows_evaluate hr fields ctx t)
    (neverOverflows_evaluate hr fields ctx' u)

theorem Instance.evaluate_settle (ht : t.fields = u.fields) (h : ctx.shape = ctx'.shape)
    (i : Instance) (entity : String) :
    SettleTogether (i.evaluate t ctx entity) (i.evaluate u ctx' entity) := by
  obtain ⟨r, fields⟩ := i
  cases hr : r.profiles with
  | false =>
    rw [evaluate_scored hr, evaluate_scored hr]
    exact (r.evaluate_settle ht h fields).map _ _
  | true =>
    have hprofiles := profileTable_together (congrArg Schema.names ht) fields
    unfold Instance.evaluate
    split
    · dsimp only
      cases hx : profileTable t fields <;> cases hy : profileTable u fields <;>
        rw [hx, hy] at hprofiles <;> cases hprofiles
      · exact .together (.error _)
      · exact .together (.ok trivial)
    · simp_all [Rule.profiles]

theorem Instance.neverOverflows_evaluate {i : Instance} (hi : i.rule.reachesLimit = false)
    (t : Table) (ctx : Context) (entity : String) : NeverOverflows (i.evaluate t ctx entity) := by
  rintro e he rfl
  rw [i.evaluate_eq_overflow] at he
  exact i.rule.neverOverflows_evaluate hi i.fields ctx t _ he rfl

end Checks

/-- A rule can be evaluated on both of two tables with the same fields or, for the same reason, on
neither, if the tables that it is compared with have the same columns or are missing for the same
reasons. Only a rule that asks for positions up to the last of 64 bits may overflow on one table and
not on the other. The same goes for profiles of columns, and so an instance is skipped in both
cases, with the same words, or in neither. -/
theorem endings_of_schema {t u : Table} (ht : t.fields = u.fields) {ctx ctx' : Context}
    (h : ctx.shape = ctx'.shape) (r : Rule) (fields : List String) (entity : String) :
    SettleTogether (r.evaluate fields ctx t) (r.evaluate fields ctx' u) ∧
      SettleTogether ((Instance.mk r fields).evaluate t ctx entity)
        ((Instance.mk r fields).evaluate u ctx' entity) ∧
      (r.reachesLimit = false →
        EndTogether (r.evaluate fields ctx t) (r.evaluate fields ctx' u) ∧
          EndTogether ((Instance.mk r fields).evaluate t ctx entity)
            ((Instance.mk r fields).evaluate u ctx' entity)) ∧
      EndTogether (profileTable t fields) (profileTable u fields) := by
  have hinstance := Instance.evaluate_settle ht h ⟨r, fields⟩ entity
  refine ⟨r.evaluate_settle ht h fields, hinstance, fun hr => ⟨?_, ?_⟩,
    profileTable_together (congrArg Schema.names ht) fields⟩
  · exact Rule.evaluate_together ht h hr fields
  · exact hinstance.endTogether (Instance.neverOverflows_evaluate hr t ctx entity)
      (Instance.neverOverflows_evaluate hr u ctx' entity)

def Rule.ofLookup (field : String) (source : Source) (column : String) : Rule :=
  .conditional ⟨"116", .conditionalRule, .columns [field], 100, true⟩ .all [⟨field, .isNotNull⟩]
    (.plain ⟨"103", .referentialIntegrity, .columns [field], 100, true⟩
      (.referential source [column]))

def Source.named (entity : String) : Source := { Source.blank with entity := some entity }

def Context.ofTable (entity : String) (t : Table) (runDate : Calendar.Date) : Context :=
  ⟨[(.named entity, .ok t)], runDate⟩

theorem Context.shape_ofTable {t u : Table} (h : t.names = u.names) (entity : String)
    (day day' : Calendar.Date) :
    (Context.ofTable entity t day).shape = (Context.ofTable entity u day').shape := by
  funext source
  simp only [shape, ofTable, List.find?_cons, List.find?_nil]
  cases Source.named entity == source with
  | false => rfl
  | true => simp [Except.map, h]

/-- A column that the other table lacks is missed on a table without rows as it is on any. -/
theorem endings_of_schema_lookup :
    (Table.ofTexts "name" [some "x", none]).fields = (Table.ofTexts "name" []).fields ∧
      (Context.ofTable "list" (.ofTexts "code" [some "x"]) ⟨2024, 6, 1⟩).shape =
        (Context.ofTable "list" (.ofTexts "code" []) ⟨1999, 1, 1⟩).shape ∧
      Rule.evaluate ["name"] (.ofTable "list" (.ofTexts "code" [some "x"]) ⟨2024, 6, 1⟩)
          (.ofLookup "name" (.named "list") "id") (.ofTexts "name" [some "x", none]) =
        .error (.table (.missingColumn "id")) ∧
      Rule.evaluate ["name"] (.ofTable "list" (.ofTexts "code" []) ⟨1999, 1, 1⟩)
          (.ofLookup "name" (.named "list") "id") (.ofTexts "name" []) =
        .error (.table (.missingColumn "id")) := by
  have ht : (Table.ofTexts "name" [some "x", none]).fields = (Table.ofTexts "name" []).fields := rfl
  have h := Context.shape_ofTable (t := .ofTexts "code" [some "x"]) (u := .ofTexts "code" []) rfl
    "list" ⟨2024, 6, 1⟩ ⟨1999, 1, 1⟩
  have herror : Rule.evaluate ["name"]
      (.ofTable "list" (.ofTexts "code" [some "x"]) ⟨2024, 6, 1⟩)
      (.ofLookup "name" (.named "list") "id") (.ofTexts "name" [some "x", none]) =
        .error (.table (.missingColumn "id")) := rfl
  obtain ⟨-, -, hrule, -⟩ :=
    endings_of_schema ht h (.ofLookup "name" (.named "list") "id") ["name"] "t"
  obtain ⟨hrule, -⟩ := hrule rfl
  rw [herror] at hrule
  exact ⟨ht, h, herror, hrule.eq_error⟩

/-- A rule for all characters of an account is evaluated where there is none and overflows on any
other. -/
theorem endings_of_last_position :
    (Table.ofTexts "account" [none]).fields = (Table.ofTexts "account" [some "PE"]).fields ∧
      ¬ EndTogether
        (Rule.evaluate ["account"] ⟨[], ⟨2024, 6, 1⟩⟩ (.ofAccount 18446744073709551615)
          (.ofTexts "account" [none]))
        (Rule.evaluate ["account"] ⟨[], ⟨2024, 6, 1⟩⟩ (.ofAccount 18446744073709551615)
          (.ofTexts "account" [some "PE"])) := by
  refine ⟨rfl, fun h => ?_⟩
  have hnone : Rule.evaluate ["account"] ⟨[], ⟨2024, 6, 1⟩⟩ (.ofAccount 18446744073709551615)
      (.ofTexts "account" [none]) = .ok ⟨1, [false]⟩ := rfl
  have hsome : Rule.evaluate ["account"] ⟨[], ⟨2024, 6, 1⟩⟩ (.ofAccount 18446744073709551615)
      (.ofTexts "account" [some "PE"]) = .error .overflow := rfl
  rw [hnone, hsome] at h
  cases h

end TableAudit
