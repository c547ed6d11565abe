import TableAudit.Proofs.Skipping
import TableAudit.Proofs.Independence

/-!
# Tables that rules compare with

The tables that rules look up are loaded in front of all evaluations, by a walk over the rules that
goes into conditions. It asks for each of them once, in the order in which the rules come to them.
An evaluation looks at no table but that of its own rule, and finds what the resolver said to it.
-/

namespace TableAudit

/-- Whether a rule, or the rule in its innermost condition, compares with the table of a source. -/
inductive Rule.Consults (source : Source) : Rule → Prop
  | referential {h : RuleHead} {names : List String} :
      Consults source (.plain h (.referential source names))
  | email {h : RuleHead} {field : String} {tokens : List String} :
      Consults source (.plain h (.email source field tokens))
  | conditional {h : RuleHead} {condition : Condition} {filters : List RowFilter} {inner : Rule}
      (wrapped : Consults source inner) : Consults source (.conditional h condition filters inner)

theorem Rule.source?_eq_some {r : Rule} {source : Source} :
    r.source? = some source ↔ r.Consults source := by
  constructor
  · intro h
    induction r with
    | plain head check =>
      cases check with
      | referential s names =>
        cases h
        exact .referential
      | email s field tokens =>
        cases h
        exact .email
      | _ => cases h
    | conditional head condition filters inner ih => exact .conditional (ih h)
  · intro h
    induction h with
    | referential => rfl
    | email => rfl
    | conditional wrapped ih => exact ih

section Loading

variable {m : Type → Type} [Monad m]

def loadStep (ask : Source → m (Except LoadError Table))
    (loaded : List (Source × Except LoadError Table)) (r : Rule) :
    m (List (Source × Except LoadError Table)) :=
  match r.source? with
  | none => pure loaded
  | some s =>
    if s ∈ loaded.map (·.1) then pure loaded
    else do
      let answer ← ask s
      return loaded ++ [(s, answer)]

/-- Loading rule by rule, through a resolver that may do more than answer. -/
def loadInTurn (ask : Source → m (Except LoadError Table)) (rules : List Rule) :
    m (List (Source × Except LoadError Table)) :=
  rules.foldlM (loadStep ask) []

/-- The sources that rules consult apart from those seen before, each where it comes first. -/
def unseen (seen : List Source) : List Rule → List Source
  | [] => []
  | r :: rules =>
    match r.source? with
    | none => unseen seen rules
    | some s => if s ∈ seen then unseen seen rules else s :: unseen (seen ++ [s]) rules

theorem unseen_eq_eraseDups (seen : List Source) (rules : List Rule) :
    unseen seen rules = ((rules.filterMap Rule.source?).filter (· ∉ seen)).eraseDups := by
  induction rules generalizing seen with
  | nil => rfl
  | cons r rules ih =>
    unfold unseen
    cases hs : r.source? with
    | none => simp [hs, ih]
    | some s =>
      by_cases hseen : s ∈ seen
      · simp [hs, hseen, ih]
      · have hfilter : (rules.filterMap Rule.source?).filter (· ∉ seen ++ [s]) =
            ((rules.filterMap Rule.source?).filter (· ∉ seen)).filter (fun b => !b == s) := by
          rw [List.filter_filter]
          apply List.filter_congr
          intro b _
          by_cases hb : b = s <;> simp [hb]
        rw [List.filterMap_cons_some hs, List.filter_cons_of_pos (by simpa using hseen),
          List.eraseDups_cons, ← hfilter, ← ih]
        simp [hseen]

theorem mem_unseen {seen : List Source} {rules : List Rule} {s : Source} :
    s ∈ unseen seen rules ↔ s ∉ seen ∧ ∃ r ∈ rules, r.Consults s := by
  simp only [unseen_eq_eraseDups, List.mem_eraseDups, List.mem_filter, List.mem_filterMap,
    Rule.source?_eq_some, decide_eq_true_eq]
  exact and_comm

private theorem nodup_unseen (seen : List Source) (rules : List Rule) :
    (unseen seen rules).Nodup := by
  induction rules generalizing seen with
  | nil => exact List.nodup_nil
  | cons r rules ih =>
    unfold unseen
    split
    · exact ih seen
    · next s _ =>
      split
      · exact ih seen
      · refine List.nodup_cons.2 ⟨?_, ih _⟩
        simp [mem_unseen]

/-- Some rule consults the first of two sources, and neither it nor any rule in front of it consults
the second. -/
def ConsultedBefore (rules : List Rule) (first second : Source) : Prop :=
  ∃ before r after, rules = before ++ r :: after ∧ r.Consults first ∧
    ∀ q ∈ before ++ [r], ¬ q.Consults second

theorem ConsultedBefore.cons {rules : List Rule} {first second : Source}
    (h : ConsultedBefore rules first second) {r : Rule} (hr : ¬ r.Consults second) :
    ConsultedBefore (r :: rules) first second := by
  obtain ⟨before, q, after, rfl, hq, hnone⟩ := h
  refine ⟨r :: before, q, after, rfl, hq, ?_⟩
  intro p hp
  rcases List.mem_cons.1 hp with rfl | hp
  · exact hr
  · exact hnone p hp

private theorem not_consults_of_ne {r : Rule} {s s' : Source} (hs : r.source? = some s)
    (h : s' ≠ s) :
    ¬ r.Consults s' := by
  intro hc
  rw [← Rule.source?_eq_some, hs] at hc
  exact h (Option.some.inj hc).symm

private theorem pairwise_unseen (seen : List Source) (rules : List Rule) :
    (unseen seen rules).Pairwise (ConsultedBefore rules) := by
  induction rules generalizing seen with
  | nil => exact .nil
  | cons r rules ih =>
    unfold unseen
    split
    · next hr =>
      refine (ih seen).imp fun h => h.cons ?_
      rw [← Rule.source?_eq_some, hr]
      simp
    · next s hr =>
      split
      · next hseen =>
        refine (ih seen).imp_of_mem fun _ hmem h => h.cons (not_consults_of_ne hr ?_)
        rintro rfl
        exact (mem_unseen.1 hmem).1 hseen
      · have hother : ∀ s' ∈ unseen (seen ++ [s]) rules, ¬ r.Consults s' := by
          intro s' hs'
          apply not_consults_of_ne hr
          rintro rfl
          simp [mem_unseen] at hs'
        refine .cons (fun s' hs' => ⟨[], r, rules, rfl, Rule.source?_eq_some.1 hr, ?_⟩) ?_
        · intro q hq
          obtain rfl := List.mem_singleton.1 hq
          exact hother s' hs'
        · exact (ih _).imp_of_mem fun _ hmem h => h.cons (hother _ hmem)

section Steps

variable {ask : Source → m (Except LoadError Table)} {r : Rule} {s : Source}
  {loaded : List (Source × Except LoadError Table)}

private theorem loadStep_of_none (h : r.source? = none) : loadStep ask loaded r = pure loaded := by
  simp only [loadStep, h]

private theorem loadStep_of_mem (h : r.source? = some s) (hs : s ∈ loaded.map (·.1)) :
    loadStep ask loaded r = pure loaded := by
  simp only [loadStep, h, hs, if_true]

private theorem loadStep_of_not_mem (h : r.source? = some s) (hs : s ∉ loaded.map (·.1)) :
    loadStep ask loaded r = ask s >>= fun answer => pure (loaded ++ [(s, answer)]) := by
  simp only [loadStep, h, hs, if_false]

end Steps

/-- From any point on, the sources not seen by then are asked for one after the other. -/
theorem foldlM_loadStep [LawfulMonad m] (ask : Source → m (Except LoadError Table))
    (rules : List Rule) (loaded : List (Source × Except LoadError Table)) :
    rules.foldlM (loadStep ask) loaded =
      (loaded ++ ·) <$> (unseen (loaded.map (·.1)) rules).mapM fun s => (s, ·) <$> ask s := by
  induction rules generalizing loaded with
  | nil => simp [unseen]
  | cons r rules ih =>
    rw [List.foldlM_cons]
    cases hr : r.source? with
    | none => simp [loadStep_of_none hr, unseen, hr, ih]
    | some s =>
      by_cases hs : s ∈ loaded.map (·.1)
      · simp only [loadStep_of_mem hr hs, pure_bind, ih, unseen, hr, if_pos hs]
      · have hseen (answer : Except LoadError Table) :
            (loaded ++ [(s, answer)]).map (·.1) = loaded.map (·.1) ++ [s] := by simp
        simp only [loadStep_of_not_mem hr hs, bind_assoc, pure_bind, ih, hseen, unseen, hr,
          if_neg hs, List.mapM_cons]
        simp

theorem loadInTurn_eq [LawfulMonad m] (ask : Source → m (Except LoadError Table))
    (rules : List Rule) :
    loadInTurn ask rules = (unseen [] rules).mapM fun s => (s, ·) <$> ask s := by
  have h := foldlM_loadStep ask rules []
  simpa [loadInTurn] using h

theorem loadReferences_eq (rules : List Rule) (resolve : Resolver) :
    loadReferences rules resolve = (unseen [] rules).map fun s => (s, resolve s) := by
  rw [unseen_eq_eraseDups]
  simp [loadReferences]

/-- Loading is going through the rules with a resolver that does nothing but answer. -/
theorem loadReferences_eq_run (rules : List Rule) (resolve : Resolver) :
    loadReferences rules resolve = Id.run (loadInTurn (fun s => pure (resolve s)) rules) := by
  rw [loadReferences_eq, loadInTurn_eq]
  exact (List.idRun_mapM (f := fun s => (s, ·) <$> pure (resolve s))).symm

end Loading

section Failures

variable {α β : Type}

/-- A computation does not fail for want of a table to compare with. -/
structure SelfContained (x : Except CheckError α) : Prop where
  ne_unavailable : ∀ name reason, x ≠ .error (.referenceUnavailable name reason)

namespace SelfContained

variable {x : Except CheckError α}

theorem of_isOwn (h : FailsWith x CheckError.IsOwn) : SelfContained x :=
  ⟨fun _ _ he => h _ he⟩

theorem map (hx : SelfContained x) (f : α → β) : SelfContained (x.map f) :=
  ⟨fun name reason h => hx.ne_unavailable name reason (map_eq_error.1 h)⟩

/-- Verdicts may overflow, but that is all they fail with. -/
theorem judged {p : Prepared} (h : FailsWith p CheckError.IsOwn) (rows : List Row) :
    SelfContained (p.bind (·.judge rows)) := by
  refine ⟨fun name reason hp => ?_⟩
  cases p with
  | error e =>
    cases hp
    exact h _ rfl
  | ok check =>
    change check.judge rows = _ at hp
    rcases check.judge_cases rows with hc | ⟨f, hc⟩ <;> rw [hc] at hp <;> cases hp

end SelfContained

open SelfContained Prepared

variable {t : Table} {ctx : Context} {fields : List String}

private theorem Check.selfContained {c : Check} (h : c.looksUp = false) (kind : RuleKind) :
    SelfContained (c.evaluate kind fields t ctx) := by
  cases hc : c.comparesRows kind with
  | false =>
    obtain ⟨p, hown, hp⟩ := exists_prepared_isOwn hc h fields t.fields ctx
    rw [hp.evaluate_eq t rfl]
    exact judged hown t.rows
  | true =>
    cases c with
    | fields =>
      have hk : kind = .duplicateCheck := by simpa [comparesRows] using hc
      simp only [evaluate, if_pos hk]
      exact of_isOwn (GroupCheck.unique_isOwn t fields)
    | valueTrend columns method => exact of_isOwn (GroupCheck.trend_isOwn t _ columns method)
    | _ => cases hc

/-- A check fails for want of a table only if it looks one up, and then with the failure of the
look-up. -/
theorem Check.selfContained_or_unavailable (head : RuleHead) (c : Check) :
    SelfContained (c.evaluate head.kind fields t ctx) ∨
      ∃ source e, (Rule.plain head c).Consults source ∧ ctx.reference source = .error e ∧
        c.evaluate head.kind fields t ctx = .error e := by
  cases c with
  | referential source names =>
    cases hr : ctx.reference source with
    | error e => exact .inr ⟨source, e, .referential, hr, by simp only [evaluate, hr]; rfl⟩
    | ok other =>
      simp only [evaluate, hr]
      exact .inl (judged (IsExact.referential ..).prepared t.rows)
  | email source field tokens =>
    cases hr : ctx.reference source with
    | error e => exact .inr ⟨source, e, .email, hr, by simp only [evaluate, hr]; rfl⟩
    | ok other =>
      simp only [evaluate, hr]
      exact .inl (judged (IsExact.email ..).prepared t.rows)
  | _ => exact .inl (Check.selfContained rfl head.kind)

theorem Rule.selfContained_or_unavailable (r : Rule) (fields : List String) (ctx : Context)
    (t : Table) :
    SelfContained (r.evaluate fields ctx t) ∨
      ∃ source e, r.Consults source ∧ ctx.reference source = .error e ∧
        r.evaluate fields ctx t = .error e := by
  induction r generalizing t with
  | plain head check => exact check.selfContained_or_unavailable head
  | conditional head condition filters inner ih =>
    cases hm : t.filterMask condition filters with
    | error e =>
      have herror : (Rule.conditional head condition filters inner).evaluate fields ctx t =
          .error (.table e) := by
        simp only [evaluate, hm]
        rfl
      exact .inl ⟨by simp [herror]⟩
    | ok marks =>
      rw [evaluate_conditional hm]
      rcases ih (t.select marks) with hs | ⟨source, e, hc, hr, he⟩
      · exact .inl (hs.map _)
      · exact .inr ⟨source, e, .conditional hc, hr, by rw [he]; rfl⟩

end Failures

section Messages

private theorem starts_append {start text : String} (h : start.toList <+: text.toList)
    (rest : String) : start.toList <+: (text ++ rest).toList := by
  rw [String.toList_append]
  exact h.trans (List.prefix_append _ _)

/-- A resolver never gives as its reason what is said of a table that nobody asked for. -/
theorem LoadError.message_ne (e : LoadError) : e.message ≠ "not loaded" := by
  have hother (start : String) (hp : start.toList <+: e.message.toList)
      (hn : ¬ start.toList <+: "not loaded".toList) : e.message ≠ "not loaded" := by
    intro h
    exact hn (h ▸ hp)
  cases e with
  | missingPath name =>
    exact hother "no path configured for " (starts_append List.prefix_rfl _) (by decide)
  | unsupportedFormat format =>
    exact hother "unsupported source type `"
      (starts_append (starts_append List.prefix_rfl _) _) (by decide)
  | invalidDelimiter delimiter =>
    exact hother "invalid delimiter `"
      (starts_append (starts_append List.prefix_rfl _) _) (by decide)
  | delimited path detail =>
    exact hother "read csv " (starts_append (starts_append (starts_append List.prefix_rfl _) _) _)
      (by decide)
  | file path e =>
    exact hother "read " (starts_append (starts_append (starts_append List.prefix_rfl _) _) _)
      (by decide)
  | table e => exact hother "polars error: " (starts_append List.prefix_rfl _) (by decide)
  | parquet detail => exact hother "polars error: " (starts_append List.prefix_rfl _) (by decide)

end Messages

section Evaluation

variable {rules : List Rule} {resolve : Resolver} {date : Calendar.Date} {r : Rule}

theorem Rule.Alike.refl (r : Rule) : r.Alike r := by
  induction r with
  | plain head check => exact .plain check rfl rfl
  | conditional head condition filters inner ih => exact .conditional condition filters rfl rfl ih

theorem reference_of_consults (hr : r ∈ rules) {s : Source} (hs : r.Consults s) :
    Context.reference ⟨loadReferences rules resolve, date⟩ s =
      (resolve s).mapError fun e => .referenceUnavailable s.displayName e.message :=
  reference_loadReferences (List.mem_filterMap.2 ⟨r, hr, Rule.source?_eq_some.2 hs⟩)

/-- A rule comes to the same among others as on its own, with only its own table loaded. -/
theorem evaluate_loadReferences (hr : r ∈ rules) (fields : List String) (t : Table) :
    r.evaluate fields ⟨loadReferences rules resolve, date⟩ t =
      r.evaluate fields ⟨loadReferences [r] resolve, date⟩ t := by
  have href (s : Source) (hs : r.source? = some s) :
      Context.reference ⟨loadReferences rules resolve, date⟩ s =
        Context.reference ⟨loadReferences [r] resolve, date⟩ s := by
    have hc := Rule.source?_eq_some.1 hs
    rw [reference_of_consults hr hc, reference_of_consults List.mem_cons_self hc]
  exact (Rule.Alike.refl r).evaluate_eq (by rfl) href fields t

/-- A rule that fails for want of a table gives what the resolver said of it. -/
theorem reason_of_unavailable (hr : r ∈ rules) {fields : List String} {t : Table}
    {name reason : String}
    (h : r.evaluate fields ⟨loadReferences rules resolve, date⟩ t =
      .error (.referenceUnavailable name reason)) :
    ∃ s e, r.Consults s ∧ resolve s = .error e ∧ name = s.displayName ∧ reason = e.message := by
  rcases r.selfContained_or_unavailable fields ⟨loadReferences rules resolve, date⟩ t with
    hself | ⟨s, e, hc, hs, he⟩
  · exact absurd h (hself.ne_unavailable name reason)
  · rw [reference_of_consults hr hc] at hs
    cases hres : resolve s with
    | ok other => rw [hres] at hs; cases hs
    | error cause =>
      rw [hres] at hs
      cases hs
      cases he.symm.trans h
      exact ⟨s, cause, hc, hres, rfl, rfl⟩

end Evaluation

/-- Loading asks for each table that some rule consults, at any depth, exactly once, in the order in
which the rules come to them, and for nothing else. Every rule then finds what the resolver said of
its own table, be it a table or a failure, depends on no other, and never fails for want of one that
was not asked for. -/
theorem references_of_rules (rules : List Rule) (resolve : Resolver) (date : Calendar.Date) :
    let ctx : Context := ⟨loadReferences rules resolve, date⟩
    (∃ asked : List Source, asked.Nodup ∧ (∀ s, s ∈ asked ↔ ∃ r ∈ rules, r.Consults s) ∧
      asked.Pairwise (ConsultedBefore rules) ∧
      (∀ (m : Type → Type) [Monad m] [LawfulMonad m] (ask : Source → m (Except LoadError Table)),
        loadInTurn ask rules = asked.mapM fun s => (s, ·) <$> ask s) ∧
      loadReferences rules resolve = asked.map (fun s => (s, resolve s)) ∧
      loadReferences rules resolve = Id.run (loadInTurn (fun s => pure (resolve s)) rules)) ∧
    ∀ r ∈ rules, ∀ (fields : List String) (t : Table),
      (∀ s, r.Consults s → ctx.reference s =
        (resolve s).mapError fun e => .referenceUnavailable s.displayName e.message) ∧
      r.evaluate fields ctx t = r.evaluate fields ⟨loadReferences [r] resolve, date⟩ t ∧
      ∀ name reason, r.evaluate fields ctx t = .error (.referenceUnavailable name reason) →
        reason ≠ "not loaded" ∧
        ∃ s e, r.Consults s ∧ resolve s = .error e ∧ name = s.displayName ∧ reason = e.message := by
  intro ctx
  constructor
  · refine ⟨unseen [] rules, nodup_unseen [] rules, ?_, pairwise_unseen [] rules, ?_,
      loadReferences_eq rules resolve, loadReferences_eq_run rules resolve⟩
    · simp [mem_unseen]
    · exact fun m _ _ ask => loadInTurn_eq ask rules
  · intro r hr fields t
    refine ⟨fun s hs => reference_of_consults hr hs, evaluate_loadReferences hr fields t, ?_⟩
    intro name reason h
    obtain ⟨s, e, hc, hs, rfl, rfl⟩ := reason_of_unavailable hr h
    exact ⟨e.message_ne, s, e, hc, hs, rfl, rfl⟩

/-- Two sources that differ in one option only are two tables; here the second is not to be had. -/
theorem references_of_rules_list :
    let list := Source.named "list"
    let bare := { list with header := some false }
    let rules := [Rule.ofLookup "name" list "code", .ofLookup "name" bare "code",
      .ofLookup "name" list "code"]
    let resolve : Resolver := fun s =>
      if s = bare then .error (.missingPath "list") else .ok (.ofTexts "code" [some "x"])
    let ctx : Context := ⟨loadReferences rules resolve, ⟨2024, 6, 1⟩⟩
    Rule.ofLookup "name" bare "code" ∈ rules ∧
      (Rule.ofLookup "name" bare "code").Consults bare ∧
      ctx.reference bare =
        .error (.referenceUnavailable "list" "no path configured for list") ∧
      Rule.evaluate ["name"] ctx (.ofLookup "name" bare "code") (.ofTexts "name" [some "x", none]) =
        .error (.referenceUnavailable "list" "no path configured for list") ∧
      "no path configured for list" ≠ "not loaded" := by
  intro list bare rules resolve ctx
  have hr : Rule.ofLookup "name" bare "code" ∈ rules := by simp [rules]
  have hc : (Rule.ofLookup "name" bare "code").Consults bare := .conditional .referential
  obtain ⟨-, hrules⟩ := references_of_rules rules resolve ⟨2024, 6, 1⟩
  obtain ⟨hfound, halone, hreason⟩ :=
    hrules _ hr ["name"] (.ofTexts "name" [some "x", none])
  have he : Rule.evaluate ["name"] ctx (.ofLookup "name" bare "code")
      (.ofTexts "name" [some "x", none]) =
        .error (.referenceUnavailable "list" "no path configured for list") := halone.trans rfl
  exact ⟨hr, hc, (hfound bare hc).trans rfl, he, (hreason _ _ he).1⟩

end TableAudit
