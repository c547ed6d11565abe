import TableAudit.Proofs.Records
import TableAudit.Proofs.Runs

/-!
# Rules on a subpopulation

A conditional rule is planned like the rule that it wraps, and it comes to the same counts, the same
failing rows and the same errors as that rule does on the table of the rows that pass the filters.
-/

namespace TableAudit

/-- What an outcome says of the rows of a table: how many were tested, how many fail, and those that
are kept. -/
structure Tally where
  tested : Nat
  failed : Nat
  violating : Option Table

def Verdict.tally? : Verdict → Option Tally
  | .outcome o => some ⟨o.tested, o.failed, o.violating⟩
  | .profiling _ => none

/-- What the instances of a rule come to on a table, one after the other, with their columns. -/
def Rule.tallies (r : Rule) (t : Table) (ctx : Context) (entity : String) :
    List (List String × Except CheckError (Option Tally)) :=
  (r.instances t.names).map fun i => (i.fields, (i.evaluate t ctx entity).map Verdict.tally?)

namespace Finding

variable {f : Finding} {t : Table} {marks : List Bool}

def tally (writes : Bool) (t : Table) (f : Finding) : Tally :=
  ⟨f.tested, f.failedCount,
    if writes && f.failedCount > 0 then some (t.select f.failed) else none⟩

private theorem tally_spread (hm : marks.length = t.height) (h : f.Fits (t.select marks))
    (writes : Bool) :
    (f.spread marks).tally writes t = f.tally writes (t.select marks) := by
  have hrows : t.select (f.spread marks).failed = (t.select marks).select f.failed :=
    t.select_spread marks f.failed
  simp only [tally, failedCount_spread hm h, hrows]
  rfl

end Finding

def Rule.profiles : Rule → Bool
  | .plain _ (.statistics _) => true
  | _ => false

theorem Rule.profiles_of_isPlain {rule : Rule} {kind : RuleKind} (h : rule.IsPlain kind)
    (hk : Rule.isWrappable kind = true) : rule.profiles = false := by
  obtain ⟨head, check, rfl, -, hc⟩ := h
  cases check with
  | statistics output =>
    cases kind <;> simp [RuleKind.takes, isWrappable] at hc hk
  | _ => rfl

section Tallies

variable {r : Rule} {t : Table} {ctx : Context} {entity : String}

/-- A rule that asks for no profiles comes to an outcome, or its evaluation fails. -/
theorem evaluate_scored (h : r.profiles = false) (fields : List String) :
    (Instance.mk r fields).evaluate t ctx entity =
      (r.evaluate fields ctx t).map fun f =>
        .outcome ((Instance.mk r fields).outcomeOf t entity f) := by
  have hs : (Instance.mk r fields).evaluate t ctx entity =
      ((Instance.mk r fields).score t ctx entity).map .outcome := by
    unfold Instance.evaluate
    split
    · simp_all [Rule.profiles]
    · rfl
  rw [hs, Instance.score_eq]
  cases r.evaluate fields ctx t <;> rfl

theorem tally_evaluate (h : r.profiles = false) (fields : List String) :
    ((Instance.mk r fields).evaluate t ctx entity).map Verdict.tally? =
      (r.evaluate fields ctx t).map fun f => some (f.tally r.head.writes t) := by
  rw [evaluate_scored h]
  cases r.evaluate fields ctx t <;> rfl

end Tallies

def Rule.fieldLists (r : Rule) (columns : List String) : List (List String) :=
  (r.instances columns).map Instance.fields

theorem Rule.instances_eq_map (r : Rule) (columns : List String) :
    r.instances columns = (r.fieldLists columns).map (Instance.mk r) := by
  unfold fieldLists instances
  split
  · rfl
  · dsimp only
    split
    · rfl
    · simp

theorem tallies_eq_map (r : Rule) (t : Table) (ctx : Context) (entity : String) :
    r.tallies t ctx entity = (r.fieldLists t.names).map fun fields =>
      (fields, ((Instance.mk r fields).evaluate t ctx entity).map Verdict.tally?) := by
  unfold Rule.tallies
  rw [r.instances_eq_map, List.map_map]
  rfl

section Conditional

variable {inner : Rule} {kind : RuleKind} {h : RuleHead} {condition : Condition}
  {filters : List RowFilter}

/-- A conditional rule is evaluated on the lists of columns of the rule that it wraps. -/
theorem fieldLists_conditional (hh : h.kind = .conditionalRule) (hi : inner.IsPlain kind)
    (hk : Rule.isWrappable kind = true) (columns : List String) :
    (Rule.conditional h condition filters inner).fieldLists columns = inner.fieldLists columns := by
  obtain ⟨head, check, rfl, rfl, -⟩ := hi
  have hp : (Rule.plain head check).head.kind ≠ .prerequisites := by
    intro he
    rw [Rule.head] at he
    simp [he, Rule.isWrappable] at hk
  have hc : (Rule.conditional h condition filters (.plain head check)).head.kind ≠
      .prerequisites := by
    simp [Rule.head, hh]
  have hplan : (Rule.conditional h condition filters (.plain head check)).planned =
      (Rule.plain head check).planned := by
    simp [Rule.planned, Rule.head, hh]
  unfold Rule.fieldLists Rule.instances
  rw [if_neg hc, if_neg hp, hplan]
  dsimp only
  split
  · rfl
  · simp

private theorem tallies_of_isPlain (hh : h.kind = .conditionalRule)
    (hw : h.writes = inner.head.writes)
    (hi : inner.IsPlain kind) (hk : Rule.isWrappable kind = true) {t : Table} {marks : List Bool}
    (hm : t.filterMask condition filters = .ok marks) (ctx : Context) (entity : String) :
    (Rule.conditional h condition filters inner).tallies t ctx entity =
      inner.tallies (t.select marks) ctx entity := by
  -- filtering leaves the columns alone, so that a wildcard stands for the same ones
  have hn : (t.select marks).names = t.names := rfl
  have hl := Table.length_filterMask hm
  rw [tallies_eq_map, tallies_eq_map, fieldLists_conditional hh hi hk, hn]
  apply List.map_congr_left
  intro fields _
  rw [tally_evaluate rfl, tally_evaluate (Rule.profiles_of_isPlain hi hk),
    Rule.evaluate_conditional hm]
  cases he : inner.evaluate fields ctx (t.select marks) with
  | error e => rfl
  | ok f =>
    have hs := Finding.tally_spread hl (Rule.fits_of_evaluate he) inner.head.writes
    change (fields, Except.ok (some ((f.spread marks).tally h.writes t))) = _
    rw [hw, hs]
    rfl

end Conditional

/-- A global filter that succeeds leaves the rows that pass all its entries. -/
theorem Scope.table_eq {c : Config} {t filtered : Table}
    (h : t.filterBy .all (Config.filtersOf c.filters) = .ok filtered) :
    (Scope.of c t).table = filtered := by
  cases hf : Config.filtersOf c.filters with
  | nil =>
    rw [hf, Table.filterBy_eq_select] at h
    obtain ⟨marks, hm, rfl⟩ := map_eq_ok.1 h
    obtain ⟨p, hp, rfl⟩ := map_eq_ok.1 hm
    cases hp
    have hall : t.filter (fun _ => true) = t :=
      Table.eq_of_rows rfl (List.filter_eq_self.2 fun _ _ => rfl)
    simp only [Scope.of, hf]
    exact hall.symm.trans (t.select_map _).symm
  | cons f fs =>
    rw [hf] at h
    simp only [Scope.of, hf, h]
    rfl

/-- A conditional rule comes, instance by instance, to the counts, the failing rows or the error of
the rule that it wraps on the rows that pass its filters; if they have to pass all of them, that is
the table which the same global filter leaves. -/
theorem tallies_conditional {r : RuleRecord} {inner : Rule}
    (hr : Rule.innerOf r = .ok (some inner)) {h : RuleHead} (hh : h.kind = .conditionalRule)
    (hw : h.writes = inner.head.writes) {t : Table} {condition : Condition}
    {filters : List RowFilter} {marks : List Bool}
    (hm : t.filterMask condition filters = .ok marks) (ctx : Context) (entity : String) :
    ∃ filtered, t.filterBy condition filters = .ok filtered ∧
      (Rule.conditional h condition filters inner).tallies t ctx entity =
        inner.tallies filtered ctx entity ∧
      (∀ x ∈ inner.tallies filtered ctx entity, x.2 ≠ .ok none) ∧
      ∀ c : Config, condition = .all → Config.filtersOf c.filters = filters →
        (Rule.conditional h condition filters inner).tallies t ctx entity =
          inner.tallies (Scope.of c t).table ctx entity := by
  obtain ⟨kind, hk, hi⟩ := Rule.isPlain_of_innerOf hr
  have hfilter : t.filterBy condition filters = .ok (t.select marks) := by
    rw [Table.filterBy_eq_select, hm]
    rfl
  have htallies := tallies_of_isPlain hh hw hi hk hm ctx entity
  refine ⟨_, hfilter, htallies, ?_, ?_⟩
  · rw [tallies_eq_map]
    intro x hx
    obtain ⟨fields, -, rfl⟩ := List.mem_map.1 hx
    rw [tally_evaluate (Rule.profiles_of_isPlain hi hk)]
    cases inner.evaluate fields ctx (t.select marks) <;> simp [Except.map]
  · rintro c rfl rfl
    rw [htallies, Scope.table_eq hfilter]

/-- Of the two names that are not missing, one is empty. -/
theorem tallies_conditional_names :
    Rule.innerOf ⟨"116", [("qualityfunction",
        .object [("code", .text "101"), ("fields", .text "name")])]⟩ =
      .ok (some (.plain ⟨"101", .nullCheck, .columns ["name"], 100, true⟩ .fields)) ∧
      (Rule.conditional ⟨"116", .conditionalRule, .columns ["name"], 90, true⟩ .all
          [⟨"name", .isNotNull⟩]
          (.plain ⟨"101", .nullCheck, .columns ["name"], 100, true⟩ .fields)).tallies
        (.ofTexts "name" [some "x", none, some ""]) ⟨[], ⟨2024, 6, 1⟩⟩ "t" =
      [(["name"], .ok (some ⟨2, 1, some (.ofTexts "name" [some ""])⟩))] := by
  have hr : Rule.innerOf ⟨"116", [("qualityfunction",
        .object [("code", .text "101"), ("fields", .text "name")])]⟩ =
      .ok (some (.plain ⟨"101", .nullCheck, .columns ["name"], 100, true⟩ .fields)) := rfl
  have hm : (Table.ofTexts "name" [some "x", none, some ""]).filterMask .all
      [⟨"name", .isNotNull⟩] = .ok [true, false, true] := rfl
  obtain ⟨filtered, hf, htallies, -, -⟩ := tallies_conditional hr
    (h := ⟨"116", .conditionalRule, .columns ["name"], 90, true⟩) rfl rfl hm ⟨[], ⟨2024, 6, 1⟩⟩ "t"
  have hfiltered : filtered = .ofTexts "name" [some "x", some ""] :=
    (Except.ok.inj hf).symm
  refine ⟨hr, htallies.trans ?_⟩
  rw [hfiltered]
  rfl

end TableAudit
