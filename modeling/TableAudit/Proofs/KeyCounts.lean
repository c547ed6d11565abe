import TableAudit.Proofs.Contributions

/-!
# How many columns a key has

A referential rule compares as many columns of the table as it names columns of the reference. The
numbers are compared when the record is read, where a wildcard still counts as one column. So a rule
that names its columns always has keys of equal length, and a rule for all columns has them only on
tables with as many columns as there are reference columns.
-/

namespace TableAudit

def TableError.IsMissing (e : TableError) : Prop := ∃ name, e = .missingColumn name

theorem Schema.column_failsWith (s : Schema) (name : String) :
    FailsWith (s.column name) TableError.IsMissing := by
  intro e he
  unfold column at he
  split at he
  · cases he
  · cases he
    exact ⟨name, rfl⟩

theorem Schema.columns_failsWith (s : Schema) (names : List String) :
    FailsWith (s.columns names) TableError.IsMissing :=
  .mapM s.column_failsWith names

theorem Table.keys_failsWith (t : Table) (names : List String) :
    FailsWith (t.keys names) TableError.IsMissing :=
  (t.fields.columns_failsWith names).map _

theorem Table.filterMask_failsWith (t : Table) (condition : Condition) (filters : List RowFilter) :
    FailsWith (t.filterMask condition filters) TableError.IsMissing := by
  refine .map _ (.bind (.mapM (fun f => ?_) _) fun tests => .pure _)
  exact (t.fields.column_failsWith f.column).map _

section Evaluation

variable {source : Source} {theirs fields : List String} {t : Table} {ctx : Context}
  {left right : Nat}

theorem TableError.IsMissing.ne_keyArity {e : TableError} (h : e.IsMissing) :
    CheckError.table e ≠ .table (.keyArity left right) := by
  obtain ⟨name, rfl⟩ := h
  nofun

theorem RowCheck.referential_eq_keyArity {s : Schema} {other : Table} :
    RowCheck.referential s fields other theirs = .error (.table (.keyArity left right)) ↔
      left = fields.length ∧ right = theirs.length ∧ left ≠ right := by
  unfold referential
  dsimp only
  split
  · next hne =>
    constructor
    · intro h
      cases h
      exact ⟨rfl, rfl, hne⟩
    · rintro ⟨rfl, rfl, -⟩
      rfl
  · next heq =>
    have hmissing : ∀ {α : Type} {x : Except TableError α}, FailsWith x TableError.IsMissing →
        FailsWith (x.mapError CheckError.table) (· ≠ .table (.keyArity left right)) := fun hx =>
      .mapError fun e he => (hx e he).ne_keyArity
    constructor
    · intro h
      have hkeys := hmissing (other.keys_failsWith theirs)
      have hcolumns := hmissing (s.columns_failsWith fields)
      exact absurd rfl (hkeys.bind (fun _ => hcolumns.bind fun _ => .pure _) _ h)
    · rintro ⟨rfl, rfl, hne⟩
      exact absurd hne heq

theorem Context.reference_ne_keyArity (ctx : Context) (source : Source) :
    ctx.reference source ≠ .error (.table (.keyArity left right)) := by
  unfold reference
  split <;> nofun

/-- The plain check of keys fails over their lengths if its reference is there and they differ. -/
theorem evaluate_referential_eq_keyArity {kind : RuleKind} :
    Check.evaluate (.referential source theirs) kind fields t ctx =
        .error (.table (.keyArity left right)) ↔
      (∃ other, ctx.reference source = .ok other) ∧
        left = fields.length ∧ right = theirs.length ∧ left ≠ right := by
  cases hreference : ctx.reference source with
  | error e =>
    have herror : Check.evaluate (.referential source theirs) kind fields t ctx = .error e := by
      simp only [Check.evaluate, hreference]
      rfl
    rw [herror]
    constructor
    · intro h
      cases h
      exact absurd hreference (ctx.reference_ne_keyArity source)
    · rintro ⟨⟨other, hother⟩, -⟩
      cases hother
  | ok other =>
    have hjudged : Check.evaluate (.referential source theirs) kind fields t ctx =
        (RowCheck.referential t.fields fields other theirs).bind (·.judge t.rows) := by
      simp only [Check.evaluate, hreference]
      rfl
    rw [hjudged, Prepared.bind_judge_eq_table, RowCheck.referential_eq_keyArity]
    exact ⟨fun h => ⟨⟨other, rfl⟩, h⟩, And.right⟩

def Rule.narrowed : Rule → Table → Except TableError Table
  | .plain _ _, t => .ok t
  | .conditional _ condition filters _, t => t.filterBy condition filters

/-- The same holds of a rule with a condition on the rows that pass its filters. -/
theorem Rule.evaluate_eq_keyArity {code : String} {rule : Rule} {head : RuleHead}
    (h : rule.ReadFor code) (hcore : rule.core = .plain head (.referential source theirs)) :
    rule.evaluate fields ctx t = .error (.table (.keyArity left right)) ↔
      (∃ u, rule.narrowed t = .ok u) ∧ (∃ other, ctx.reference source = .ok other) ∧
        left = fields.length ∧ right = theirs.length ∧ left ≠ right := by
  cases h with
  | plain takes columns =>
    cases hcore
    rw [evaluate, evaluate_referential_eq_keyArity]
    exact ⟨fun h => ⟨⟨t, rfl⟩, h⟩, And.right⟩
  | @conditional kind threshold writes condition filters inner hplain hwrappable =>
    obtain rfl : inner = .plain head (.referential source theirs) := hcore
    cases hmask : t.filterMask condition filters with
    | error e =>
      have herror : ∀ (outer : RuleHead) (inner : Rule),
          (Rule.conditional outer condition filters inner).evaluate fields ctx t =
            .error (.table e) := by
        intro outer inner
        simp only [evaluate, hmask]
        rfl
      have hmissing := t.filterMask_failsWith condition filters e hmask
      rw [herror, Except.error.injEq]
      refine ⟨fun heq => absurd heq hmissing.ne_keyArity, ?_⟩
      rintro ⟨⟨u, hu⟩, -⟩
      rw [narrowed, Table.filterBy_eq_select, hmask] at hu
      cases hu
    | ok marks =>
      rw [evaluate_conditional hmask, map_eq_error, evaluate, evaluate_referential_eq_keyArity]
      have hnarrowed : t.filterBy condition filters = .ok (t.select marks) := by
        rw [Table.filterBy_eq_select, hmask]
        rfl
      exact ⟨fun h => ⟨⟨_, hnarrowed⟩, h⟩, And.right⟩

end Evaluation

/-- Names of columns are compared with those of the reference one by one. -/
theorem RuleRecord.length_of_referential {r : RuleRecord} {fields theirs : List String}
    {source : Source} (hfields : r.fields? = .ok (some fields))
    (h : r.referential = .ok (.referential source theirs)) : fields.length = theirs.length := by
  obtain ⟨input, -, h⟩ := bind_eq_ok.1 h
  obtain ⟨reference, -, h⟩ := bind_eq_ok.1 h
  dsimp only at h
  split at h
  · cases h
  · obtain ⟨names, -, h⟩ := bind_eq_ok.1 h
    obtain ⟨found, hfound, h⟩ := bind_eq_ok.1 h
    obtain rfl := Except.ok.inj (hfields.symm.trans hfound)
    dsimp only [Option.getD_some] at h
    split at h
    · obtain ⟨_, hthrow, -⟩ := bind_eq_ok.1 h
      cases hthrow
    · next heq =>
      cases h
      exact not_not.1 heq

theorem Target.eq_of_ofList {fields names : List String}
    (h : Target.ofList fields = .columns names) : names = fields := by
  unfold ofList at h
  split at h
  · cases h
  · exact (Target.columns.inj h).symm

/-- A referential rule that is read from a record names as many columns as its reference has, or it
is a rule for all columns. Over a table it has one instance, with the columns of its target. This
fails over the lengths of the keys if the rule is for all columns, the table has not as many of them
as the reference names, and there is nothing else that it fails for: its filters find their columns
and its reference is loaded. -/
theorem key_counts_of_accepted {code : String} {record : Json.Value} {rule : Rule} {head : RuleHead}
    {source : Source} {theirs : List String} (h : Rule.ofRecord code record = .ok (some rule))
    (hcore : rule.core = .plain head (.referential source theirs)) :
    (∀ names, head.target = .columns names → names.length = theirs.length) ∧
      ∀ (t : Table) (ctx : Context),
        rule.instances t.names = [⟨rule, head.target.resolve t.names⟩] ∧
        ∀ left right,
          rule.evaluate (head.target.resolve t.names) ctx t =
              .error (.table (.keyArity left right)) ↔
            head.target = .all ∧ left = t.names.length ∧ right = theirs.length ∧ left ≠ right ∧
              (∃ u, rule.narrowed t = .ok u) ∧ ∃ other, ctx.reference source = .ok other := by
  obtain ⟨r, fields, hfields, hcheck, htakes, htarget⟩ := Rule.exists_check_core h hcore
  have hread := Rule.readFor_ofRecord code record _ h rule rfl
  have hkind : head.kind = .referentialIntegrity := RuleKind.eq_of_takes htakes rfl (by simp)
  rw [hkind] at hcheck htarget
  have hlength := RuleRecord.length_of_referential hfields hcheck
  have hcolumns : ∀ names, head.target = .columns names → names.length = theirs.length := by
    intro names hnames
    rw [htarget, if_neg (by decide)] at hnames
    rw [Target.eq_of_ofList hnames, hlength]
  have hguard : rule.head.kind ≠ .prerequisites := by
    cases hread with
    | plain takes columns =>
      cases hcore
      rw [Rule.head, hkind]
      decide
    | conditional hplain hwrappable =>
      intro hprerequisites
      cases hprerequisites
  refine ⟨hcolumns, fun t ctx => ⟨?_, fun left right => ?_⟩⟩
  · rw [Rule.instances_eq_expansion hread, Rule.expansion, if_neg hguard, hcore]
    exact if_pos (by rw [Rule.head, hkind]; decide)
  · rw [Rule.evaluate_eq_keyArity hread hcore]
    constructor
    · rintro ⟨hnarrowed, hother, hleft, hright, hne⟩
      cases hall : head.target with
      | all =>
        rw [hall] at hleft
        exact ⟨rfl, hleft, hright, hne, hnarrowed, hother⟩
      | columns names =>
        rw [hall] at hleft
        exact absurd (hleft.trans ((hcolumns names hall).trans hright.symm)) hne
    · rintro ⟨hall, hleft, hright, hne, hnarrowed, hother⟩
      exact ⟨hnarrowed, hother, hall ▸ hleft, hright, hne⟩

/-- The parameters of a rule that some columns have the values of some columns of a list. -/
def Json.Value.listed (fields theirs : List String) : List (String × Json.Value) :=
  [("fields", .list (fields.map .text)),
    ("input", .object [("path", .text "list.csv"), ("fields", .list (theirs.map .text))])]

def Json.Value.ofNamed (fields theirs : List String) : Json.Value :=
  .object [("filter_list", .list [.list [.text "name", .text "is", .text "NotNull"]]),
    ("quality_function", .object (("code", .text "103") :: listed fields theirs))]

/-- A rule for all columns with one column of a list, over a table that has no other one. -/
theorem key_counts_of_accepted_name :
    ∃ rule source head, Rule.ofRecord "116" (.ofNamed ["*"] ["x"]) = .ok (some rule) ∧
      rule.core = .plain head (.referential source ["x"]) ∧
      rule.instances ["name"] = [⟨rule, ["name"]⟩] ∧
      ∀ other left right,
        rule.evaluate ["name"] ⟨[(source, .ok other)], ⟨2024, 6, 1⟩⟩
            (.ofTexts "name" [some "a", none]) ≠ .error (.table (.keyArity left right)) := by
  have hread : ∃ rule source head, Rule.ofRecord "116" (.ofNamed ["*"] ["x"]) = .ok (some rule) ∧
      rule.core = .plain head (.referential source ["x"]) ∧ head.target = .all :=
    ⟨_, _, _, rfl, rfl, rfl⟩
  obtain ⟨rule, source, head, hrule, hcore, htarget⟩ := hread
  obtain ⟨-, hover⟩ := key_counts_of_accepted hrule hcore
  let t : Table := .ofTexts "name" [some "a", none]
  have hresolve : head.target.resolve t.names = ["name"] := by
    rw [htarget]
    rfl
  obtain ⟨hinstances, -⟩ := hover t ⟨[], ⟨2024, 6, 1⟩⟩
  rw [hresolve] at hinstances
  refine ⟨rule, source, head, hrule, hcore, hinstances, fun other left right h => ?_⟩
  obtain ⟨-, hkeys⟩ := hover t ⟨[(source, .ok other)], ⟨2024, 6, 1⟩⟩
  rw [hresolve] at hkeys
  obtain ⟨-, hleft, hright, hne, -⟩ := (hkeys left right).1 h
  exact hne (hleft.trans hright.symm)

def Table.ofRow (cells : List (String × String)) (h : (cells.map Prod.fst).Nodup) : Table where
  fields := cells.map fun c => ⟨c.1, .text⟩
  rows := [cells.map fun c => some (.text c.2)]
  rect := by simp
  distinct := by simpa [Schema.names, Function.comp_def] using h

/-- Over a table of two columns, a rule for all columns with one column of a list fails over the
lengths of its keys. -/
theorem key_count_of_wildcard :
    ∃ rule source, Rule.ofRecord "103" (.object (Json.Value.listed ["*"] ["x"])) = .ok (some rule) ∧
      rule.instances ["a", "b"] = [⟨rule, ["a", "b"]⟩] ∧
      rule.evaluate ["a", "b"] ⟨[(source, .ok (.ofTexts "x" [some "1"]))], ⟨2024, 6, 1⟩⟩
          (.ofRow [("a", "1"), ("b", "2")] (by decide)) = .error (.table (.keyArity 2 1)) :=
  ⟨_, ⟨none, some "list.csv", none, none, none⟩, rfl, rfl, rfl⟩

end TableAudit
