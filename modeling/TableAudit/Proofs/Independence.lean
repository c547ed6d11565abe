import Mathlib.Data.List.Forall2
import TableAudit.Proofs.Subpopulation

/-!
# Rules side by side

The rules of a run share the tables that were loaded for any of them. A rule looks up no other table
than its own, and that is loaded the same way whichever rules ask for it as well. So what comes of a
rule depends on no other rule of the run, and its code, its threshold and its write flag only show
in the words of the outcome and in whether the failing rows are kept.
-/

namespace TableAudit

/-- Two rules of the same kind, for the same columns and with the same parameters. They may differ
in their codes, thresholds and write flags, and in those of the rules that they wrap. -/
inductive Rule.Alike : Rule → Rule → Prop
  | plain {h h' : RuleHead} (check : Check) (kind : h.kind = h'.kind)
      (target : h.target = h'.target) : Alike (.plain h check) (.plain h' check)
  | conditional {h h' : RuleHead} {inner inner' : Rule} (condition : Condition)
      (filters : List RowFilter) (kind : h.kind = h'.kind) (target : h.target = h'.target)
      (wrapped : Alike inner inner') :
      Alike (.conditional h condition filters inner) (.conditional h' condition filters inner')

namespace Rule.Alike

variable {r s : Rule}

theorem head_kind (h : r.Alike s) : r.head.kind = s.head.kind := by
  cases h with
  | plain check kind target => exact kind
  | conditional condition filters kind target wrapped => exact kind

private theorem head_target (h : r.Alike s) : r.head.target = s.head.target := by
  cases h with
  | plain check kind target => exact target
  | conditional condition filters kind target wrapped => exact target

theorem source?_eq (h : r.Alike s) : r.source? = s.source? := by
  induction h with
  | plain check kind target => cases check <;> rfl
  | conditional condition filters kind target wrapped ih => exact ih

theorem planned_eq (h : r.Alike s) : r.planned = s.planned := by
  cases h with
  | plain check kind target => simp only [planned, kind, target]
  | conditional condition filters kind target wrapped =>
    simp only [planned, kind, target, wrapped.head_kind, wrapped.head_target]

theorem fieldLists_eq (h : r.Alike s) (columns : List String) :
    r.fieldLists columns = s.fieldLists columns := by
  simp only [fieldLists, instances, h.head_kind, h.planned_eq]
  split
  · rfl
  · split
    · rfl
    · simp

/-- Where two contexts agree on the table that a rule looks up and on the date, it comes to the same
in both. -/
theorem evaluate_eq (h : r.Alike s) {ctx ctx' : Context} (hdate : ctx.runDate = ctx'.runDate)
    (href : ∀ source, r.source? = some source → ctx.reference source = ctx'.reference source)
    (fields : List String) (t : Table) : r.evaluate fields ctx t = s.evaluate fields ctx' t := by
  induction h generalizing t with
  | plain check kind target =>
    simp only [evaluate, kind]
    cases check with
    | referential source names => simp only [Check.evaluate, href source rfl]
    | email source name tokens => simp only [Check.evaluate, href source rfl]
    | timeRange reference format unit bounds => simp only [Check.evaluate, hdate]
    | _ => rfl
  | conditional condition filters kind target wrapped ih =>
    simp only [evaluate, ih href]

end Rule.Alike

section References

variable {rules : List Rule} {resolve : Resolver} {date : Calendar.Date} {source : Source}

private theorem find?_self {sources : List Source} (h : source ∈ sources) :
    sources.find? (· == source) = some source := by
  induction sources with
  | nil => cases h
  | cons s sources ih =>
    rw [List.find?_cons]
    cases hs : s == source with
    | true => exact congrArg some (eq_of_beq hs)
    | false =>
      have hne : source ≠ s := fun he => by simp [he] at hs
      exact ih (List.mem_of_ne_of_mem hne h)

/-- A table that some rule looks up is the one that the resolver finds. -/
theorem reference_loadReferences (h : source ∈ rules.filterMap Rule.source?) :
    Context.reference ⟨loadReferences rules resolve, date⟩ source =
      (resolve source).mapError fun e => .referenceUnavailable source.displayName e.message := by
  have hfind : (loadReferences rules resolve).find? (·.1 == source) =
      some (source, resolve source) := by
    have hself := find?_self (List.mem_eraseDups.2 h)
    rw [loadReferences, List.find?_map]
    exact congrArg (Option.map fun s => (s, resolve s)) hself
  unfold Context.reference
  rw [hfind]
  cases resolve source <;> rfl

end References

theorem Scope.of_congr {c d : Config} (h : c.filter = d.filter) (subject : Table) :
    Scope.of c subject = Scope.of d subject := by
  have hf : c.filters = d.filters := congrArg (List.map (RowFilter.ofJson "filter")) h
  simp only [Scope.of, hf]

/-- An outcome says of the rows of a table what was found: how many were tested, how many fail, and,
if they are to be written, which. -/
structure Outcome.Reports (o : Outcome) (t : Table) (f : Finding) : Prop where
  tested : o.tested = f.tested
  failed : o.failed = f.failedCount
  violating : o.violating =
    if o.writes && f.failedCount > 0 then some (t.select f.failed) else none

private theorem reports_outcomeOf (i : Instance) (t : Table) (entity : String) (f : Finding) :
    (i.outcomeOf t entity f).Reports t f := ⟨rfl, rfl, rfl⟩

/-- Two instances on the same columns of a table came to the same in their contexts: to outcomes
that report one finding, to one table of profiles, or to one error. -/
inductive SameResult (t : Table) (ctx ctx' : Context) :
    Instance × Except CheckError Verdict → Instance × Except CheckError Verdict → Prop
  | outcomes {i j : Instance} {o o' : Outcome} (f : Finding) (fields : i.fields = j.fields)
      (left : i.rule.evaluate i.fields ctx t = .ok f)
      (right : j.rule.evaluate j.fields ctx' t = .ok f)
      (reported : o.Reports t f) (reported' : o'.Reports t f) :
      SameResult t ctx ctx' (i, .ok (.outcome o)) (j, .ok (.outcome o'))
  | profilings {i j : Instance} {code code' : String} (output : Option String) (profiles : Table)
      (fields : i.fields = j.fields) :
      SameResult t ctx ctx' (i, .ok (.profiling ⟨code, output, profiles⟩))
        (j, .ok (.profiling ⟨code', output, profiles⟩))
  | errors {i j : Instance} (e : CheckError) (fields : i.fields = j.fields) :
      SameResult t ctx ctx' (i, .error e) (j, .error e)

section Results

variable {r s : Rule} {t : Table} {ctx ctx' : Context}

private theorem sameResult_of_scored (hr : r.profiles = false) (hs : s.profiles = false)
    {fields : List String} (h : r.evaluate fields ctx t = s.evaluate fields ctx' t)
    (entity entity' : String) :
    SameResult t ctx ctx' (⟨r, fields⟩, (Instance.mk r fields).evaluate t ctx entity)
      (⟨s, fields⟩, (Instance.mk s fields).evaluate t ctx' entity') := by
  rw [evaluate_scored hr, evaluate_scored hs, ← h]
  cases hf : r.evaluate fields ctx t with
  | error e => exact .errors e rfl
  | ok f =>
    exact .outcomes f rfl hf (h.symm.trans hf) (reports_outcomeOf _ _ _ _)
      (reports_outcomeOf _ _ _ _)

private theorem sameResult_of_alike (h : r.Alike s) (hdate : ctx.runDate = ctx'.runDate)
    (href : ∀ source, r.source? = some source → ctx.reference source = ctx'.reference source)
    (fields : List String) (entity entity' : String) :
    SameResult t ctx ctx' (⟨r, fields⟩, (Instance.mk r fields).evaluate t ctx entity)
      (⟨s, fields⟩, (Instance.mk s fields).evaluate t ctx' entity') := by
  have heval := h.evaluate_eq hdate href fields t
  cases h with
  | plain check kind target =>
    cases check with
    | statistics output =>
      simp only [Instance.evaluate]
      cases profileTable t fields with
      | error e => exact .errors (.table e) rfl
      | ok profiles => exact .profilings output profiles rfl
    | _ => exact sameResult_of_scored rfl rfl heval entity entity'
  | conditional condition filters kind target wrapped =>
    exact sameResult_of_scored rfl rfl heval entity entity'

end Results

section Items

variable {c : Config} {rules : List Rule} {subject : Table} {resolve : Resolver}
  {runTime : Calendar.Moment} {e : Evaluation}

/-- The items of a rule stand together, one for each list of columns of the rule. -/
theorem infix_items (he : e = .of c rules subject resolve runTime) {r : Rule} (hr : r ∈ rules) :
    ((r.fieldLists e.scope.table.names).map fun fields => (Instance.mk r fields,
      (Instance.mk r fields).evaluate e.scope.table ⟨e.references, runTime.date⟩
        c.input.metadata.entityCode)) <:+: e.items := by
  subst he
  have hplan : r.instances (Scope.of c subject).table.names <:+:
      plan rules (Scope.of c subject).table.names :=
    List.infix_of_mem_flatten (List.mem_map_of_mem hr)
  rw [r.instances_eq_map] at hplan
  have hitems := hplan.map fun i => (i, i.evaluate (Scope.of c subject).table
    ⟨loadReferences rules resolve, runTime.date⟩ c.input.metadata.entityCode)
  rw [List.map_map] at hitems
  exact hitems

theorem mem_sources {r : Rule} (hr : r ∈ rules) {source : Source} (hs : r.source? = some source) :
    source ∈ rules.filterMap Rule.source? := List.mem_filterMap.2 ⟨r, hr, hs⟩

end Items

/-- Two completed runs with the same global filter on the same table. A rule of one and a rule of
the other that are alike are evaluated on the same lists of columns, and on each of them both come
to the same, whatever other rules there are. -/
theorem rule_of_runs {c d : Config} (hfilter : c.filter = d.filter) {subject : Table}
    {resolve : Resolver} {runTime : Calendar.Moment} {a b : Audit}
    (ha : Audit.run c subject resolve runTime = .ok a) (hac : a.status = .completed)
    (hb : Audit.run d subject resolve runTime = .ok b) (hbc : b.status = .completed)
    {r s : Rule} (hr : r ∈ c.acceptedRules) (hs : s ∈ d.acceptedRules) (h : r.Alike s) :
    let e := Evaluation.of c c.acceptedRules subject resolve runTime
    let e' := Evaluation.of d d.acceptedRules subject resolve runTime
    a.Completed c e (Config.diagnosticsOf c.parsed) runTime ∧
      b.Completed d e' (Config.diagnosticsOf d.parsed) runTime ∧
      e.scope.table = e'.scope.table ∧
      r.fieldLists e.scope.table.names = s.fieldLists e'.scope.table.names ∧
      ∃ xs ys, xs <:+: e.items ∧ xs.map Prod.fst = r.instances e.scope.table.names ∧
        ys <:+: e'.items ∧ ys.map Prod.fst = s.instances e'.scope.table.names ∧
        List.Forall₂ (SameResult e.scope.table ⟨e.references, runTime.date⟩
          ⟨e'.references, runTime.date⟩) xs ys := by
  intro e e'
  have hscope : e.scope = e'.scope := Scope.of_congr hfilter subject
  have hfields : r.fieldLists e.scope.table.names = s.fieldLists e'.scope.table.names := by
    rw [hscope, h.fieldLists_eq]
  have href : ∀ source, r.source? = some source →
      Context.reference ⟨e.references, runTime.date⟩ source =
        Context.reference ⟨e'.references, runTime.date⟩ source := by
    intro source hsource
    have hleft := mem_sources hr hsource
    have hright := mem_sources hs (h.source?_eq ▸ hsource)
    exact (reference_loadReferences hleft).trans (reference_loadReferences hright).symm
  have hdate : (Context.mk e.references runTime.date).runDate =
      (Context.mk e'.references runTime.date).runDate := rfl
  refine ⟨Audit.completed_of_run ha hac, Audit.completed_of_run hb hbc,
    congrArg Scope.table hscope, hfields, _, _, infix_items rfl hr, ?_, infix_items rfl hs, ?_, ?_⟩
  · rw [List.map_map, r.instances_eq_map]
    rfl
  · rw [List.map_map, s.instances_eq_map]
    rfl
  · rw [← hfields, List.forall₂_map_left_iff, List.forall₂_map_right_iff, List.forall₂_same]
    intro fields _
    rw [← hscope]
    exact sameResult_of_alike h hdate href fields _ _

/-- A configuration that looks a column up in another table, and only then checks that it is there,
without writing the failing rows. -/
def Config.ofLookup (field : String) : Config :=
  { Config.blank with
    rules := [
      ("103", .object [("fields", .text field),
        ("input", .object [("path", .text "other.csv"), ("fields", .text field)])]),
      ("101B", .object [("fields", .text field), ("write", .bool false)])] }

def Rule.ofNullCheck (code field : String) (writes : Bool) : Rule :=
  .plain ⟨code, .nullCheck, .columns [field], 100, writes⟩ .fields

/-- The null check of a column alone, and behind a look-up that has to be skipped. -/
theorem rule_of_runs_names :
    ∃ a b, Audit.run (.ofNullCheck "name") (.ofTexts "name" [some "x", none])
        (fun _ => .ok .empty) ⟨⟨2024, 6, 1⟩, 10, 30, 0⟩ = .ok a ∧ a.status = .completed ∧
      Audit.run (.ofLookup "name") (.ofTexts "name" [some "x", none])
        (fun _ => .ok .empty) ⟨⟨2024, 6, 1⟩, 10, 30, 0⟩ = .ok b ∧ b.status = .completed ∧
      b.diagnostics.length = 1 ∧
      Rule.ofNullCheck "101" "name" true ∈ (Config.ofNullCheck "name").acceptedRules ∧
      Rule.ofNullCheck "101B" "name" false ∈ (Config.ofLookup "name").acceptedRules ∧
      (Rule.ofNullCheck "101" "name" true).Alike (.ofNullCheck "101B" "name" false) ∧
      ∃ x y, SameResult (.ofTexts "name" [some "x", none])
          ⟨loadReferences (Config.ofNullCheck "name").acceptedRules fun _ => .ok .empty,
            ⟨2024, 6, 1⟩⟩
          ⟨loadReferences (Config.ofLookup "name").acceptedRules fun _ => .ok .empty,
            ⟨2024, 6, 1⟩⟩ x y ∧
        x.1 = ⟨.ofNullCheck "101" "name" true, ["name"]⟩ ∧
        y.1 = ⟨.ofNullCheck "101B" "name" false, ["name"]⟩ := by
  have hr : Rule.ofNullCheck "101" "name" true ∈ (Config.ofNullCheck "name").acceptedRules :=
    List.mem_cons_self
  have hs : Rule.ofNullCheck "101B" "name" false ∈ (Config.ofLookup "name").acceptedRules :=
    List.mem_cons_of_mem _ List.mem_cons_self
  have h : (Rule.ofNullCheck "101" "name" true).Alike (.ofNullCheck "101B" "name" false) :=
    .plain .fields rfl rfl
  obtain ⟨a, ha, hac⟩ : ∃ a, Audit.run (.ofNullCheck "name") (.ofTexts "name" [some "x", none])
      (fun _ => .ok .empty) ⟨⟨2024, 6, 1⟩, 10, 30, 0⟩ = .ok a ∧ a.status = .completed :=
    ⟨_, rfl, rfl⟩
  obtain ⟨b, hb, hbc, hskip⟩ : ∃ b, Audit.run (.ofLookup "name")
      (.ofTexts "name" [some "x", none]) (fun _ => .ok .empty) ⟨⟨2024, 6, 1⟩, 10, 30, 0⟩ = .ok b ∧
        b.status = .completed ∧ b.diagnostics.length = 1 := ⟨_, rfl, rfl, rfl⟩
  have hfilter : (Config.ofNullCheck "name").filter = (Config.ofLookup "name").filter := rfl
  obtain ⟨-, -, -, -, xs, ys, -, hxs, -, hys, hsame⟩ := rule_of_runs hfilter ha hac hb hbc hr hs h
  refine ⟨a, b, ha, hac, hb, hbc, hskip, hr, hs, h, ?_⟩
  obtain ⟨x, rfl, hx⟩ := List.map_eq_singleton_iff.1 hxs
  obtain ⟨y, rfl, hy⟩ := List.map_eq_singleton_iff.1 hys
  cases hsame with
  | cons hxy _ => exact ⟨x, y, hxy, hx, hy⟩

end TableAudit
