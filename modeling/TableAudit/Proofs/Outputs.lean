import Mathlib.Data.List.Permutation
import TableAudit.Pipeline
import TableAudit.Proofs.CleanCopy
import TableAudit.Proofs.Contributions
import TableAudit.Proofs.FileWrites
import TableAudit.Proofs.Utf8

/-!
# What is written

The outputs of an audit go out one after the other, and a later one may go where an earlier one
went. What is found at the path of an output is the last one that was written to that place.
-/

namespace TableAudit

def Written.place (w : Written) : Place := Path.resolve w.path

/-- The files that an output may become: what is written, under which path, and how many rows. -/
inductive Output.Renders (base : String) : Output → Written → Content → Prop
  | jsonReport {sink : Sink} {r : Report} {path : String}
      (target : sink.target "report" (some base) = .ok path) (json : sink.isJson path = true) :
      Renders base (.report sink r) ⟨"report", path, r.length, true⟩ (.ofText r.toJsonText)
  | delimitedReport {sink : Sink} {r : Report} {path : String} {options : Delimited.Options}
      (target : sink.target "report" (some base) = .ok path) (json : sink.isJson path = false)
      (format : sink.format path = .ok .delimited) (reading : sink.options = .ok options) :
      Renders base (.report sink r) ⟨"report", path, r.length, true⟩
        (.ofText (r.toDelimited options))
  | storedReport {sink : Sink} {r : Report} {path : String} {t : Table}
      (target : sink.target "report" (some base) = .ok path) (json : sink.isJson path = false)
      (format : sink.format path = .ok .parquet) (table : r.toTable = .ok t) :
      Renders base (.report sink r) ⟨"report", path, r.length, false⟩ (.table t)
  | delimited {sink : Sink} {name path : String} {t : Table} {options : Delimited.Options}
      (target : sink.target name (some base) = .ok path)
      (format : sink.format path = .ok .delimited) (reading : sink.options = .ok options) :
      Renders base (.table sink name t) ⟨name, path, t.height, false⟩
        (.ofText (t.toDelimited options))
  | stored {sink : Sink} {name path : String} {t : Table}
      (target : sink.target name (some base) = .ok path)
      (format : sink.format path = .ok .parquet) :
      Renders base (.table sink name t) ⟨name, path, t.height, false⟩ (.table t)

namespace Output

def entry : Output → String × Nat
  | .report _ r => ("report", r.length)
  | .table _ name t => (name, t.height)

theorem Renders.entry_eq {base : String} {o : Output} {w : Written} {content : Content}
    (h : o.Renders base w content) : (w.table, w.rows) = o.entry := by
  cases h <;> rfl

section Steps

variable {base path : String} {f f' : Files} {w : Written}

private theorem create_eq_ok {name : String} {rows : Nat} {content : Content} {asReport : Bool}
    (h : create f name path rows content asReport = .ok (w, f')) :
    w = ⟨name, path, rows, asReport⟩ ∧ f.create path content = .ok f' := by
  obtain ⟨g, hg, heq⟩ := bind_eq_ok.1 h
  cases heq
  exact ⟨rfl, hg⟩

/-- One step writes one file, which is what its output may become. -/
theorem write_eq_ok {o : Output} (h : o.write base f = .ok (w, f')) :
    ∃ content, o.Renders base w content ∧ f.create w.path content = .ok f' := by
  cases o with
  | report sink r =>
    obtain ⟨path, hpath, h⟩ := bind_eq_ok.1 (mapError_eq_ok.1 h)
    obtain ⟨⟨content, asReport⟩, hcontent, h⟩ := bind_eq_ok.1 h
    obtain ⟨rfl, hfile⟩ := create_eq_ok h
    refine ⟨content, ?_, hfile⟩
    unfold Sink.reportContent at hcontent
    split at hcontent
    · next hjson =>
      cases hcontent
      exact .jsonReport hpath hjson
    · next hjson =>
      have hjson := Bool.eq_false_iff.2 hjson
      obtain ⟨format, hformat, hcontent⟩ := bind_eq_ok.1 hcontent
      cases format with
      | delimited =>
        obtain ⟨options, hoptions, heq⟩ := bind_eq_ok.1 hcontent
        cases heq
        exact .delimitedReport hpath hjson hformat hoptions
      | parquet =>
        obtain ⟨t, ht, heq⟩ := bind_eq_ok.1 hcontent
        cases heq
        exact .storedReport hpath hjson hformat (mapError_eq_ok.1 ht)
  | table sink name t =>
    obtain ⟨path, hpath, h⟩ := bind_eq_ok.1 (mapError_eq_ok.1 h)
    obtain ⟨content, hcontent, h⟩ := bind_eq_ok.1 h
    obtain ⟨rfl, hfile⟩ := create_eq_ok h
    refine ⟨content, ?_, hfile⟩
    obtain ⟨format, hformat, hcontent⟩ := bind_eq_ok.1 hcontent
    cases format with
    | delimited =>
      obtain ⟨options, hoptions, heq⟩ := bind_eq_ok.1 hcontent
      cases heq
      exact .delimited hpath hformat hoptions
    | parquet =>
      cases hcontent
      exact .stored hpath hformat

end Steps

end Output

section Runs

variable {base : String} {f f' : Files}

/-- The last of some files that were written to the place of a path is what is read there. -/
def Files.HoldsLast (f : Files) (items : List (Written × Content)) (path : String) : Prop :=
  ∃ before x after, items = before ++ x :: after ∧ x.1.place = Path.resolve path ∧
    (∀ y ∈ after, y.1.place ≠ Path.resolve path) ∧ f.read path = .ok x.2

theorem Files.HoldsLast.cons {items : List (Written × Content)} {path : String}
    (h : f.HoldsLast items path) (x : Written × Content) : f.HoldsLast (x :: items) path := by
  obtain ⟨before, y, after, rfl, hy, hafter, hread⟩ := h
  exact ⟨x :: before, y, after, rfl, hy, hafter, hread⟩

/-- What is read under one path is read under every other one to the same place. -/
theorem Files.HoldsLast.of_place_eq {items : List (Written × Content)} {path other : String}
    (h : f.HoldsLast items path) (hp : Path.resolve other = Path.resolve path) (hempty : other ≠ "")
    (hslash : Path.endsWithSlash other = false) : f.HoldsLast items other := by
  obtain ⟨before, x, after, rfl, hx, hafter, hread⟩ := h
  refine ⟨before, x, after, rfl, hp ▸ hx, hp ▸ hafter, ?_⟩
  exact Files.read_of_resolve_eq hread hp hempty hslash

/-- Writing leaves a file alone that none of the outputs goes to. -/
theorem read_writeAll_of_ne {path : String} {d : Content} (os : List Output)
    (h : f.read path = .ok d) (hne : ∀ w ∈ (writeAll base f os).written, w.place ≠ Path.resolve path) :
    (writeAll base f os).files.read path = .ok d := by
  induction os generalizing f with
  | nil => exact h
  | cons o os ih =>
    unfold writeAll at hne ⊢
    split
    · exact h
    · next w g hw =>
      obtain ⟨content, -, hfile⟩ := Output.write_eq_ok hw
      simp only [hw, List.mem_cons, forall_eq_or_imp] at hne
      exact ih (Files.read_create_of_ne hfile (Ne.symm hne.1) h) hne.2

/-- When all outputs have been written, each is listed with its file, and at every path of the list
is the last of these files that went to its place. -/
theorem writeAll_files (os : List Output) (h : (writeAll base f os).failure = none) :
    ∃ items : List (Written × Content), items.map (·.1) = (writeAll base f os).written ∧
      List.Forall₂ (fun o x => o.Renders base x.1 x.2) os items ∧
      ∀ w ∈ (writeAll base f os).written, (writeAll base f os).files.HoldsLast items w.path := by
  induction os generalizing f with
  | nil => exact ⟨[], rfl, .nil, by simp [writeAll]⟩
  | cons o os ih =>
    unfold writeAll at h ⊢
    split at h
    · cases h
    · next w g hw =>
      obtain ⟨content, hrenders, hfile⟩ := Output.write_eq_ok hw
      obtain ⟨items, hitems, hall, hlast⟩ := ih h
      refine ⟨(w, content) :: items, by rw [List.map_cons, hitems], .cons hrenders hall, ?_⟩
      intro v hv
      rcases List.mem_cons.1 hv with rfl | hv
      · by_cases hlater : ∃ u ∈ (writeAll base g os).written, u.place = v.place
        · obtain ⟨u, hu, hplace⟩ := hlater
          obtain ⟨hempty, -, -, hslash⟩ := Files.read_eq_ok.1 (Files.read_create hfile)
          exact ((hlast u hu).of_place_eq hplace.symm hempty hslash).cons _
        · have hne : ∀ u ∈ (writeAll base g os).written, u.place ≠ v.place := by
            intro u hu heq
            exact hlater ⟨u, hu, heq⟩
          refine ⟨[], (v, content), items, rfl, rfl, fun y hy => ?_, ?_⟩
          · exact hne y.1 (hitems ▸ List.mem_map_of_mem hy)
          · exact read_writeAll_of_ne os (Files.read_create hfile) hne
      · exact (hlast v hv).cons _

end Runs

section Profiles

/-- The profiles that a rule makes of a table. A rule that profiles does so only on its own, not
within a condition, and it makes none if a column of it is missing. -/
def Rule.profiling? (t : Table) : Rule → Option Profiling
  | .plain h (.statistics output) =>
    (profileTable t (h.target.resolve t.names)).toOption.map fun table => ⟨h.code, output, table⟩
  | _ => none

/-- The profiles of a run over a table: none if the gate stops it. -/
def Config.profilings (c : Config) (subject : Table) : List Profiling :=
  match c.gateFailure? subject with
  | some _ => []
  | none => c.acceptedRules.filterMap (·.profiling? (c.audited subject))

theorem Contribution.profiling?_of_outcome {α : Type} (i : Instance) (x : Except CheckError α)
    (f : α → Outcome) : (i.contribution (x.map fun a => .outcome (f a))).profiling? = none := by
  cases x <;> rfl

/-- The instances of a rule leave the profiles that the rule makes, at most one table of them. -/
theorem Rule.profilings_of_instances {code : String} {r : Rule} (hr : r.ReadFor code) (t : Table)
    (ctx : Context) (entity : String) :
    (r.instances t.names).filterMap
        (fun i => (i.contribution (i.evaluate t ctx entity)).profiling?) =
      (r.profiling? t).toList := by
  cases hp : r.profiles with
  | false =>
    have hnone : r.profiling? t = none := by
      unfold profiling?
      split
      · cases hp
      · rfl
    have hskip : ∀ i ∈ r.instances t.names,
        (i.contribution (i.evaluate t ctx entity)).profiling? = none := by
      intro i hi
      rw [r.instances_eq_map] at hi
      obtain ⟨fields, -, rfl⟩ := List.mem_map.1 hi
      rw [evaluate_scored hp]
      exact Contribution.profiling?_of_outcome ..
    rw [hnone, List.filterMap_eq_nil_iff.2 hskip]
    rfl
  | true =>
    cases hr with
    | conditional plain wrappable => cases hp
    | @plain kind target threshold writes check takes columns =>
      cases check with
      | statistics output =>
        obtain rfl : kind = .statisticsSummary := RuleKind.eq_of_takes takes rfl (by simp)
        have hinstances : (Rule.plain ⟨code, .statisticsSummary, target, threshold, writes⟩
            (.statistics output)).instances t.names = [⟨_, target.resolve t.names⟩] := rfl
        simp only [hinstances, List.filterMap_cons, List.filterMap_nil, Instance.evaluate, profiling?]
        cases profileTable t (target.resolve t.names) <;> rfl
      | _ => cases hp

theorem Evaluation.profilings_of (c : Config) (subject : Table) (resolve : Resolver)
    (runTime : Calendar.Moment) :
    (Evaluation.of c c.acceptedRules subject resolve runTime).profilings =
      c.acceptedRules.filterMap (·.profiling? (c.audited subject)) := by
  rw [profilings_eq_contributions, List.filterMap_eq_flatMap_toList (Rule.profiling? _)]
  simp only [contributions, Evaluation.of, c.scope_table, plan, List.filterMap_map,
    List.filterMap_flatMap]
  apply List.flatMap_congr
  intro r hr
  rw [c.acceptedRules_eq_accepted] at hr
  obtain ⟨⟨code, r⟩, hmem, rfl⟩ := List.mem_map.1 hr
  exact Rule.profilings_of_instances (Config.readFor_of_mem_accepted hmem) _ _ _

/-- The profiles of a run are those of its configuration. -/
theorem Audit.profilings_of_run {c : Config} {subject : Table} {resolve : Resolver}
    {runTime : Calendar.Moment} {a : Audit} (ha : run c subject resolve runTime = .ok a) :
    a.profilings = c.profilings subject := by
  unfold Config.profilings
  rcases cases_of_run ha with ⟨failure, hgate, hstop⟩ | ⟨hgate, hc⟩
  · rw [hgate, hstop.profilings]
  · rw [hgate, hc.profilings, Evaluation.profilings_of]

end Profiles

section Listing

variable {c : Config} {a : Audit}

theorem Output.entries_of_renders {base : String} {os : List Output}
    {items : List (Written × Content)}
    (h : List.Forall₂ (fun o x => o.Renders base x.1 x.2) os items) :
    (items.map (·.1)).map (fun w => (w.table, w.rows)) = os.map entry := by
  induction h with
  | nil => rfl
  | cons hx _ ih => rw [List.map_cons, List.map_cons, List.map_cons, ih, hx.entry_eq]

/-- A clean copy is made only where the configuration says what becomes of it. -/
theorem Audit.data_of_clean {subject clean : Table} {resolve : Resolver}
    {runTime : Calendar.Moment} (ha : run c subject resolve runTime = .ok a)
    (hclean : a.clean = some clean) : ∃ d, c.data = some d := by
  rcases cases_of_run ha with ⟨failure, -, hstop⟩ | ⟨-, hc⟩
  · have hp := clean_eq_some hclean
    rw [hstop.projection] at hp
    cases hp
  · obtain ⟨d, hd, -⟩ := hc.clean_eq_filter hclean
    exact ⟨d, hd⟩

private theorem entries_outputs (report : Report)
    (h : ∀ t, a.clean = some t → ∃ d, c.data = some d) :
    (outputs c a report).map Output.entry =
      c.output.toList.map (fun _ => ("report", report.length)) ++
      c.error.toList.map (fun _ => ("errors", a.errors.height)) ++
      a.clean.toList.map (fun t => ("clean", t.height)) ++
      a.profilings.filterMap fun p =>
        p.output.map fun _ => (s!"statistics:{p.code}", p.table.height) := by
  have hprofilings : (a.profilings.filterMap fun p => p.output.map fun path =>
      Output.table ⟨some path, none, none, none⟩ s!"statistics:{p.code}" p.table).map Output.entry =
        a.profilings.filterMap fun p =>
          p.output.map fun _ => (s!"statistics:{p.code}", p.table.height) := by
    rw [List.map_filterMap]
    apply List.filterMap_congr
    intro p _
    cases p.output <;> rfl
  have hreport : ((c.output.map fun sink => Output.report sink report).toList).map Output.entry =
      c.output.toList.map (fun _ => ("report", report.length)) := by
    cases c.output <;> rfl
  have herrors : ((c.error.map fun sink => Output.table sink "errors" a.errors).toList).map
      Output.entry = c.error.toList.map (fun _ => ("errors", a.errors.height)) := by
    cases c.error <;> rfl
  simp only [outputs, List.map_append, hreport, herrors, hprofilings]
  cases ht : a.clean with
  | none => rfl
  | some t =>
    obtain ⟨d, hd⟩ := h t ht
    rw [hd]
    rfl

end Listing

/-- The way of a pipeline that came to a result and was to write. -/
theorem runPipeline_eq_ok {o : PipelineOptions} {f : Files} {runTime : Calendar.Moment}
    {res : AuditResult} (hdry : o.dryRun = false)
    (h : (runPipeline o f runTime).result = .ok res) :
    ∃ c subject, loadConfig f o.config = .ok c ∧
      f.resolve (some o.directory) c.input.source = .ok subject ∧
      Audit.run c subject (f.resolve (some o.directory)) runTime = .ok res.audit ∧
      res.report = Report.ofAudit res.audit c.input.metadata ∧
      (writeAll o.directory f (outputs c res.audit res.report)).failure = none ∧
      res.written = (writeAll o.directory f (outputs c res.audit res.report)).written ∧
      (runPipeline o f runTime).files =
        (writeAll o.directory f (outputs c res.audit res.report)).files := by
  unfold runPipeline at h ⊢
  cases hc : loadConfig f o.config with
  | error e => simp [hc] at h
  | ok c =>
    cases hs : f.resolve (some o.directory) c.input.source with
    | error e => simp [hc, hs] at h
    | ok subject =>
      have hrun : (Course.of c subject (f.resolve (some o.directory)) runTime).audit c subject
          runTime = Audit.run c subject (f.resolve (some o.directory)) runTime := rfl
      cases ha : Audit.run c subject (f.resolve (some o.directory)) runTime with
      | error e => simp [hc, hs, hrun, ha] at h
      | ok a =>
        cases hw : (writeAll o.directory f
            (outputs c a (Report.ofAudit a c.input.metadata))).failure with
        | some e => simp [hc, hs, hrun, ha, hdry, hw] at h
        | none =>
          simp only [hc, hs, hrun, ha, hdry, hw, Bool.false_eq_true, if_false] at h ⊢
          cases h
          exact ⟨c, subject, rfl, hs, ha, rfl, hw, rfl, rfl⟩

theorem Files.readText_eq_ok {f : Files} {path s : String} (h : f.read path = .ok (.ofText s)) :
    f.readText path = .ok s := by
  simp only [readText, h, Content.ofText, Text.decodeUtf8_encodeUtf8]

theorem loadConfig_eq_ok {f : Files} {path text : String} {c : Config}
    (hread : f.read path = .ok (.ofText text)) (hc : Config.read text = .ok c) :
    loadConfig f path = .ok c := by
  simp only [loadConfig, Files.readText_eq_ok hread]
  exact mapError_eq_ok.2 hc

theorem runPipeline_of_steps {o : PipelineOptions} {f : Files} {runTime : Calendar.Moment}
    {c : Config} {subject : Table} {a : Audit} (hdry : o.dryRun = false)
    (hc : loadConfig f o.config = .ok c)
    (hs : f.resolve (some o.directory) c.input.source = .ok subject)
    (ha : Audit.run c subject (f.resolve (some o.directory)) runTime = .ok a)
    (hw : (writeAll o.directory f (outputs c a (Report.ofAudit a c.input.metadata))).failure =
      none) :
    (runPipeline o f runTime).result = .ok ⟨a, Report.ofAudit a c.input.metadata,
        (writeAll o.directory f (outputs c a (Report.ofAudit a c.input.metadata))).written⟩ ∧
      (runPipeline o f runTime).files =
        (writeAll o.directory f (outputs c a (Report.ofAudit a c.input.metadata))).files := by
  have hrun : (Course.of c subject (f.resolve (some o.directory)) runTime).audit c subject
      runTime = .ok a := ha
  simp only [runPipeline, hc, hs, hrun, hdry, hw, Bool.false_eq_true, if_false, and_self]

/-- A pipeline that came to a result and was to write lists its tables in order: the report and the
errors where the configuration asks for them, the clean copy where there is one, and the profiles
that have a place to go to, each with the number of its rows. What is then read at the path of any
of them is the last one that went to the same place. -/
theorem outputs_of_pipeline {o : PipelineOptions} {f : Files} {runTime : Calendar.Moment}
    {res : AuditResult} (hdry : o.dryRun = false)
    (h : (runPipeline o f runTime).result = .ok res) :
    ∃ (c : Config) (subject : Table) (items : List (Written × Content)),
      loadConfig f o.config = .ok c ∧
      f.resolve (some o.directory) c.input.source = .ok subject ∧
      Audit.run c subject (f.resolve (some o.directory)) runTime = .ok res.audit ∧
      res.report = Report.ofAudit res.audit c.input.metadata ∧
      res.audit.profilings = c.profilings subject ∧
      res.written.map (fun w => (w.table, w.rows)) =
        c.output.toList.map (fun _ => ("report", res.report.length)) ++
        c.error.toList.map (fun _ => ("errors", res.audit.errors.height)) ++
        res.audit.clean.toList.map (fun t => ("clean", t.height)) ++
        res.audit.profilings.filterMap (fun p =>
          p.output.map fun _ => (s!"statistics:{p.code}", p.table.height)) ∧
      items.map (·.1) = res.written ∧
      List.Forall₂ (fun output x => output.Renders o.directory x.1 x.2)
        (outputs c res.audit res.report) items ∧
      ∀ w ∈ res.written, (runPipeline o f runTime).files.HoldsLast items w.path := by
  obtain ⟨c, subject, hc, hs, ha, hreport, hw, hwritten, hfiles⟩ := runPipeline_eq_ok hdry h
  obtain ⟨items, hitems, hall, hlast⟩ := writeAll_files _ hw
  refine ⟨c, subject, items, hc, hs, ha, hreport, Audit.profilings_of_run ha, ?_,
    hitems.trans hwritten.symm, hall, ?_⟩
  · rw [hwritten, ← hitems, Output.entries_of_renders hall]
    exact entries_outputs res.report fun t ht => Audit.data_of_clean ha ht
  · rw [hwritten, hfiles]
    exact hlast

section Clash

/-- A configuration that sends the report and the errors to one file, and wants profiles of a table
that must not be empty. -/
def Config.ofClash : Config :=
  { Config.blank with
    input := { Input.blank with path := some "t.csv" }
    output := some { Sink.blank with path := some "out.csv" }
    error := some { Sink.blank with path := some "out.csv" }
    rules := [
      ("100", .object [("fields", .text "id")]),
      ("114", .object [("fields", .text "id"), ("output", .text "s.csv")])] }

def Config.clashText : String :=
  Json.Value.compact <| .object [
    ("input", .object [("path", .text "t.csv")]),
    ("output", .object [("path", .text "out.csv")]),
    ("error", .object [("path", .text "out.csv")]),
    ("rules", .object Config.ofClash.rules)]

/-- The files of that configuration: the table has one column and no rows. -/
def Files.ofClash : Files :=
  ⟨[(["audit.json"], .ofText Config.clashText), (["t.csv"], .bytes [105, 100, 10])], []⟩

def PipelineOptions.ofClash : PipelineOptions := ⟨"audit.json", none, false⟩

def PipelineRun.ofClash : PipelineRun :=
  runPipeline .ofClash .ofClash ⟨⟨2024, 6, 1⟩, 10, 30, 0⟩

set_option maxRecDepth 20000 in
private theorem read_clashText : Config.read Config.clashText = .ok .ofClash := by cbv

private theorem loadConfig_clash :
    loadConfig .ofClash PipelineOptions.ofClash.config = .ok .ofClash :=
  loadConfig_eq_ok rfl read_clashText

private theorem run_clash : ∃ res, PipelineRun.ofClash.result = .ok res ∧
    res.written = [⟨"report", "out.csv", 1, true⟩, ⟨"errors", "out.csv", 0, false⟩] ∧
    PipelineRun.ofClash.files.read "out.csv" =
      .ok (.ofText (res.audit.errors.toDelimited .standard)) ∧
    res.audit.errors.names = ["id", "error", "run_time"] := by
  have hs : Files.ofClash.resolve (some "") Config.ofClash.input.source =
      .ok (.ofTexts "id" []) := rfl
  obtain ⟨a, ha, hw, hwritten, hread, hnames⟩ : ∃ a,
      Audit.run .ofClash (.ofTexts "id" []) (Files.ofClash.resolve (some ""))
          ⟨⟨2024, 6, 1⟩, 10, 30, 0⟩ = .ok a ∧
        let w := writeAll "" .ofClash
          (outputs .ofClash a (Report.ofAudit a Config.ofClash.input.metadata))
        w.failure = none ∧
          w.written = [⟨"report", "out.csv", 1, true⟩, ⟨"errors", "out.csv", 0, false⟩] ∧
          w.files.read "out.csv" = .ok (.ofText (a.errors.toDelimited .standard)) ∧
          a.errors.names = ["id", "error", "run_time"] := ⟨_, rfl, rfl, rfl, rfl, rfl⟩
  obtain ⟨hresult, hfiles⟩ :=
    runPipeline_of_steps (o := .ofClash) rfl loadConfig_clash hs ha hw
  exact ⟨_, hresult, hwritten, hfiles ▸ hread, hnames⟩

/-- Of the two tables that went to one file the later one is found there. -/
theorem outputs_of_pipeline_clash :
    ∃ res items, PipelineOptions.ofClash.dryRun = false ∧ PipelineRun.ofClash.result = .ok res ∧
      res.written = [⟨"report", "out.csv", 1, true⟩, ⟨"errors", "out.csv", 0, false⟩] ∧
      items.map Prod.fst = res.written ∧
      List.Forall₂ (fun output x => output.Renders PipelineOptions.ofClash.directory x.1 x.2)
        (outputs .ofClash res.audit res.report) items ∧
      PipelineRun.ofClash.files.HoldsLast items "out.csv" := by
  obtain ⟨res, hresult, hwritten, -, -⟩ := run_clash
  obtain ⟨c, subject, items, hc, -, -, -, -, -, hitems, hall, hlast⟩ :=
    outputs_of_pipeline (o := .ofClash) rfl hresult
  obtain rfl : c = .ofClash := Except.ok.inj (hc.symm.trans loadConfig_clash)
  have hlisted : ⟨"errors", "out.csv", 0, false⟩ ∈ res.written := by simp [hwritten]
  exact ⟨res, items, rfl, hresult, hwritten, hitems, hall, hlast _ hlisted⟩

private theorem head?_write {name : String} (second : String) (names : List String)
    (rows : List (List String)) (hname : Delimited.writeField ',' false name = name)
    (hne : name.toList ≠ []) :
    (Delimited.write .standard (name :: second :: names) rows).toList.head? =
      name.toList.head? := by
  have hwrite : Delimited.write .standard (name :: second :: names) rows =
      Delimited.writeRecord ',' (name :: second :: names) ++
        String.join (rows.map (Delimited.writeRecord ',')) :=
    String.join_cons
  rw [hwrite]
  simp [Delimited.writeRecord, hname, List.head?_append_of_ne_nil _ hne]

/-- Where two outputs go to one file the earlier one is lost, though both are listed; and profiles
that a rule asks for are not written when the gate stops the run. -/
theorem report_overwritten :
    ∃ res, PipelineRun.ofClash.result = .ok res ∧
      loadConfig .ofClash PipelineOptions.ofClash.config = .ok .ofClash ∧
      (∃ head, .plain head (.statistics (some "s.csv")) ∈ Config.ofClash.acceptedRules) ∧
      res.written = [⟨"report", "out.csv", 1, true⟩, ⟨"errors", "out.csv", 0, false⟩] ∧
      PipelineRun.ofClash.files.read "out.csv" =
        .ok (.ofText (res.audit.errors.toDelimited .standard)) ∧
      PipelineRun.ofClash.files.read "out.csv" ≠
        .ok (.ofText (res.report.toDelimited .standard)) := by
  obtain ⟨res, hresult, hwritten, hread, hnames⟩ := run_clash
  refine ⟨res, hresult, loadConfig_clash, ⟨_, List.mem_cons_of_mem _ List.mem_cons_self⟩, hwritten,
    hread, ?_⟩
  rw [hread]
  intro h
  have hbytes := congrArg Text.decodeUtf8 (Content.bytes.inj (Except.ok.inj h))
  rw [Text.decodeUtf8_encodeUtf8, Text.decodeUtf8_encodeUtf8] at hbytes
  -- the header of the one starts with another letter than that of the other
  have hheads := congrArg (·.toList.head?) (Except.ok.inj hbytes)
  simp only [Table.toDelimited, Report.toDelimited, hnames, Report.columnNames, ReportColumn.all,
    List.map_cons, ReportColumn.name] at hheads
  rw [head?_write _ _ _ (by decide) (by decide), head?_write _ _ _ (by decide) (by decide)] at hheads
  exact absurd hheads (by decide)

end Clash

end TableAudit
