import TableAudit.Proofs.Groups

/-!
# Trends of single groups

The verdicts on a group of rows are made of the values of the group alone, in the order of its rows,
and then put back to the positions of the group. Since no position is in two groups, what stands at
the positions of one group afterwards are the verdicts on that group as a table of its own.
-/

namespace TableAudit

section Choosing

variable {α β : Type}

private theorem map_marked (marks : List Bool) (items : List α) (f : α → β) :
    marked marks (items.map f) = (marked marks items).map f := by
  induction items generalizing marks with
  | nil => simp
  | cons a items ih =>
    cases marks with
    | nil => simp
    | cons m marks => cases m <;> simp [ih marks]

/-- The items that stand where a key does are those at its positions. -/
theorem map_some_marked {keys : List Key} {items : List α} (h : items.length = keys.length)
    (k : Key) :
    (marked (keys.map (· == k)) items).map some = (keys.idxsOf k).map (items[·]?) := by
  induction keys generalizing items with
  | nil => simp
  | cons first keys ih =>
    cases items with
    | nil => simp at h
    | cons a items =>
      have htail := ih (by simpa using h)
      have hshift : (keys.idxsOf k 1).map ((a :: items)[·]?) = (keys.idxsOf k).map (items[·]?) := by
        rw [List.idxsOf_start, List.map_map]
        rfl
      rw [List.idxsOf_cons, List.map_cons, marked_cons]
      split
      · rw [List.map_cons, List.map_cons, htail, hshift]
        rfl
      · rw [htail, hshift]

private theorem map_getElem?_range (items : List α) :
    (List.range items.length).map (items[·]?) = items.map some := by
  apply List.ext_getElem?
  intro i
  rw [List.getElem?_map, List.getElem?_map]
  by_cases hi : i < items.length
  · simp [List.getElem?_range hi, List.getElem?_eq_getElem hi]
  · have hlen : (List.range items.length).length ≤ i := by simpa using Nat.le_of_not_lt hi
    simp [List.getElem?_eq_none hlen, List.getElem?_eq_none (Nat.le_of_not_lt hi)]

end Choosing

theorem Table.length_of_numbers {t : Table} {field : String} {values : List (Option Float)}
    (h : t.numbers field = .ok values) : values.length = t.height := by
  obtain ⟨i, -, rfl⟩ := map_eq_ok.1 h
  exact List.length_map _

namespace GroupCheck

variable {height : Nat} {method : TrendMethod} {values : List (Option Float)}
  {parts : List (List Nat)}

@[simp] theorem length_scatter (height : Nat) (verdicts : List (List (Nat × Bool))) :
    (scatter height verdicts).length = height := by
  simp [scatter]

@[simp] theorem length_trendVerdicts (method : TrendMethod) (values : List (Option Float)) :
    (trendVerdicts method values).length = values.length := by
  unfold trendVerdicts
  split <;> simp

theorem trendVerdicts_of_few (h : (values.filterMap id).length < 2) :
    trendVerdicts method values = values.map fun _ => false := by
  simp only [trendVerdicts, meanAndDeviation, if_pos h]

/-- A position that is listed only once gets the verdict that it is listed with. -/
theorem getElem?_scatter {verdicts : List (List (Nat × Bool))}
    (hnodup : (verdicts.flatten.map Prod.fst).Nodup) {i : Nat} {bad : Bool}
    (hi : i < height) (hmem : (i, bad) ∈ verdicts.flatten) :
    (scatter height verdicts)[i]? = some bad := by
  have hscatter : (scatter height verdicts)[i]? =
      some (decide (i ∈ verdicts.flatten.filterMap fun p => if p.2 then some p.1 else none)) := by
    rw [scatter, List.getElem?_map, List.getElem?_range hi, Option.map_some,
      Std.HashSet.contains_ofList, List.contains_eq_mem]
  have hfailing : i ∈ verdicts.flatten.filterMap (fun p => if p.2 then some p.1 else none) ↔
      (i, true) ∈ verdicts.flatten := by
    rw [List.mem_filterMap]
    constructor
    · rintro ⟨⟨j, b⟩, hj, hb⟩
      cases b with
      | false => cases hb
      | true => exact Option.some.inj hb ▸ hj
    · exact fun h => ⟨_, h, rfl⟩
  have hbad : (i, true) ∈ verdicts.flatten ↔ bad = true := by
    constructor
    · intro h
      exact congrArg Prod.snd (List.inj_on_of_nodup_map hnodup hmem h rfl)
    · rintro rfl
      exact hmem
  rw [hscatter, Option.some.injEq, Bool.eq_iff_iff, decide_eq_true_iff, hfailing, hbad]

def judgeGroups (method : TrendMethod) (values : List (Option Float)) (parts : List (List Nat)) :
    List Bool :=
  scatter values.length (parts.map fun group =>
    group.zip (trendVerdicts method (group.map fun i => (values[i]?).join)))

@[simp] theorem length_judgeGroups :
    (judgeGroups method values parts).length = values.length := length_scatter _ _

theorem judgeGroups_of_mem (hnodup : parts.flatten.Nodup) {group : List Nat}
    (hgroup : group ∈ parts) (hlt : ∀ i ∈ group, i < values.length) :
    group.map ((judgeGroups method values parts)[·]?) =
      (trendVerdicts method (group.map fun i => (values[i]?).join)).map some := by
  have hlength (g : List Nat) :
      g.length ≤ (trendVerdicts method (g.map fun i => (values[i]?).join)).length := by simp
  have hpositions : ((parts.map fun group =>
      group.zip (trendVerdicts method (group.map fun i => (values[i]?).join))).flatten.map
        Prod.fst).Nodup := by
    rw [List.map_flatten, List.map_map]
    simpa only [Function.comp_def, List.map_fst_zip (hlength _), List.map_id'] using hnodup
  generalize hverdicts : trendVerdicts method (group.map fun i => (values[i]?).join) = verdicts
  have hlen : group.length = verdicts.length := by simp [← hverdicts]
  have hlisted : ∀ p ∈ group.zip verdicts, (judgeGroups method values parts)[p.1]? = some p.2 := by
    rintro ⟨i, bad⟩ hi
    refine getElem?_scatter hpositions (hlt i (List.of_mem_zip hi).1) ?_
    exact List.mem_flatten.2 ⟨_, List.mem_map_of_mem hgroup, hverdicts ▸ hi⟩
  calc group.map ((judgeGroups method values parts)[·]?)
      = ((group.zip verdicts).map Prod.fst).map ((judgeGroups method values parts)[·]?) := by
        rw [List.map_fst_zip hlen.le]
    _ = (group.zip verdicts).map fun p => (judgeGroups method values parts)[p.1]? := List.map_map
    _ = (group.zip verdicts).map fun p => some p.2 := List.map_congr_left hlisted
    _ = ((group.zip verdicts).map Prod.snd).map some := List.map_map.symm
    _ = verdicts.map some := by rw [List.map_snd_zip hlen.ge]

/-- A single group of all positions has the verdicts on its values, in their order. -/
theorem judgeGroups_range (method : TrendMethod) (values : List (Option Float)) :
    judgeGroups method values [List.range values.length] = trendVerdicts method values := by
  have hvalues : (List.range values.length).map (fun i => (values[i]?).join) = values := by
    have hjoin := congrArg (List.map Option.join) (map_getElem?_range values)
    simpa [Function.comp_def] using hjoin
  have hnodup : [List.range values.length].flatten.Nodup := by simp [List.nodup_range]
  have hall : (List.range values.length).map
      ((judgeGroups method values [List.range values.length])[·]?) =
        (trendVerdicts method
          ((List.range values.length).map fun i => (values[i]?).join)).map some :=
    judgeGroups_of_mem hnodup List.mem_cons_self fun i hi => List.mem_range.1 hi
  have hjudged := map_getElem?_range (judgeGroups method values [List.range values.length])
  rw [length_judgeGroups] at hjudged
  rw [hvalues] at hall
  exact List.map_injective_iff.2 (Option.some_injective Bool) (hjudged.symm.trans hall)

/-- A trend is judged on the values of a column, in the groups of equal keys if there are columns to
group by. -/
theorem trend_eq_ok {t : Table} {field : String} {groupFields : List String}
    {values : List (Option Float)} (hvalues : t.numbers field = .ok values)
    (h : ∀ name ∈ groupFields, name ∈ t.names) (method : TrendMethod) :
    trend t field groupFields method = .ok (.full (judgeGroups method values
      (if groupFields.isEmpty then [List.range values.length]
        else groups (t.rows.map (t.fields.texts · groupFields))))) := by
  have hlength := Table.length_of_numbers hvalues
  have hgroups : t.groupBy groupFields =
      .ok (groups (t.rows.map (t.fields.texts · groupFields))) := by
    rw [Table.groupBy, Table.keys_eq_ok h]
    rfl
  simp only [trend, hvalues, hgroups, judgeGroups, hlength]
  split <;> simp [Except.mapError, bind, Except.bind, pure, Except.pure]

end GroupCheck

namespace Table

def group (t : Table) (names : List String) (k : Key) : Table :=
  t.filter fun r => t.fields.texts r names == k

def groupMarks (t : Table) (names : List String) (k : Key) : List Bool :=
  t.rows.map fun r => t.fields.texts r names == k

private theorem select_groupMarks (t : Table) (names : List String) (k : Key) :
    t.select (t.groupMarks names k) = t.group names k := t.select_map _

variable {t : Table}

theorem numbers_eq_ok_iff {field : String} :
    (∃ values, t.numbers field = .ok values) ↔ field ∈ t.names := by
  rw [names, ← Schema.column_eq_ok_iff]
  constructor
  · rintro ⟨values, h⟩
    obtain ⟨i, hi, -⟩ := map_eq_ok.1 h
    exact ⟨i, hi⟩
  · rintro ⟨i, hi⟩
    exact ⟨_, map_eq_ok.2 ⟨i, hi, rfl⟩⟩

private theorem numbers_group {field : String} {values : List (Option Float)}
    (h : t.numbers field = .ok values) (names : List String) (k : Key) :
    (t.group names k).numbers field = .ok (marked (t.groupMarks names k) values) := by
  obtain ⟨i, hi, rfl⟩ := map_eq_ok.1 h
  rw [← select_groupMarks, map_marked]
  exact map_eq_ok.2 ⟨i, hi, rfl⟩

end Table

section Groups

variable {t : Table} {field : String} {groupFields : List String} {values : List (Option Float)}
  {method : TrendMethod}

/-- Without columns to group by, the whole column is one group. -/
theorem trend_alone (h : t.numbers field = .ok values) :
    GroupCheck.trend t field [] method = .ok (.full (GroupCheck.trendVerdicts method values)) := by
  have hnone : ∀ name ∈ ([] : List String), name ∈ t.names := by simp
  have htrend := GroupCheck.trend_eq_ok h hnone method
  simpa only [List.isEmpty_nil, if_true, GroupCheck.judgeGroups_range] using htrend

/-- What the groups of a table come to, at the rows of one group. -/
theorem marked_judgeGroups (h : values.length = t.height) (names : List String) (k : Key) :
    marked (t.groupMarks names k) (GroupCheck.judgeGroups method values
        (groups (t.rows.map (t.fields.texts · names)))) =
      GroupCheck.trendVerdicts method (marked (t.groupMarks names k) values) := by
  have hmarks : t.groupMarks names k = (t.rows.map (t.fields.texts · names)).map (· == k) := by
    rw [List.map_map]
    rfl
  have hlength : values.length = (t.rows.map (t.fields.texts · names)).length :=
    h.trans (List.length_map _).symm
  rw [hmarks]
  generalize t.rows.map (t.fields.texts · names) = keys at hlength
  have hvalues : marked (keys.map (· == k)) values =
      (keys.idxsOf k).map fun i => (values[i]?).join := by
    have hjoin := congrArg (List.map Option.join) (map_some_marked hlength k)
    simpa [Function.comp_def] using hjoin
  have hgroup : (keys.idxsOf k).map ((GroupCheck.judgeGroups method values (groups keys))[·]?) =
      (GroupCheck.trendVerdicts method
        ((keys.idxsOf k).map fun i => (values[i]?).join)).map some := by
    by_cases hk : k ∈ keys
    · refine GroupCheck.judgeGroups_of_mem (nodup_flatten_groups keys)
        (mem_groups.2 ⟨k, hk, rfl⟩) fun i hi => ?_
      obtain ⟨hlt, -⟩ := List.getElem?_eq_some_iff.1 (mem_idxsOf.1 hi)
      exact hlength ▸ hlt
    · have hnil : keys.idxsOf k = [] :=
        List.idxsOf_eq_nil_iff.2 fun k' hk' => beq_false_of_ne (ne_of_mem_of_not_mem hk' hk)
      have hnone := GroupCheck.length_trendVerdicts method []
      rw [hnil, List.map_nil, List.map_nil, List.length_eq_zero_iff.1 hnone, List.map_nil]
  have hjudged : (GroupCheck.judgeGroups method values (groups keys)).length = keys.length :=
    GroupCheck.length_judgeGroups.trans hlength
  apply List.map_injective_iff.2 (Option.some_injective Bool)
  rw [map_some_marked hjudged, hgroup, hvalues]

/-- A trend within groups has the verdicts on the values of each group at its rows. -/
theorem trend_of_values (hvalues : t.numbers field = .ok values) (hne : groupFields ≠ [])
    (h : ∀ name ∈ groupFields, name ∈ t.names) (method : TrendMethod) :
    ∃ f, GroupCheck.trend t field groupFields method = .ok f ∧ f.tested = t.height ∧
      f.failed.length = t.height ∧
      ∀ k, marked (t.groupMarks groupFields k) f.failed =
        GroupCheck.trendVerdicts method (marked (t.groupMarks groupFields k) values) := by
  have hlength := Table.length_of_numbers hvalues
  have hgrouped : groupFields.isEmpty = false := by simpa using hne
  have htrend := GroupCheck.trend_eq_ok hvalues h method
  rw [hgrouped, if_neg Bool.false_ne_true] at htrend
  have hfailed (parts : List (List Nat)) :
      (GroupCheck.judgeGroups method values parts).length = t.height :=
    GroupCheck.length_judgeGroups.trans hlength
  exact ⟨_, htrend, hfailed _, hfailed _, fun k => marked_judgeGroups hlength groupFields k⟩

private theorem trend_of_missing (h : field ∉ t.names) :
    GroupCheck.trend t field groupFields method = .error (.table (.missingColumn field)) := by
  have hcolumn : t.numbers field = .error (.missingColumn field) := by
    rw [Table.numbers, Schema.column, Schema.index?_eq_none.2 h]
    rfl
  rw [GroupCheck.trend, hcolumn]
  rfl

end Groups

/-- A trend within groups fails in a group the rows that it fails in the rows of that group alone,
or it finds the column in neither. A group with less than two numbers passes, and the rows of other
groups, wherever they stand, make no difference. -/
theorem trend_of_group {t : Table} {groupFields : List String} (hne : groupFields ≠ [])
    (h : ∀ name ∈ groupFields, name ∈ t.names) (field : String) (method : TrendMethod) :
    (field ∉ t.names →
      GroupCheck.trend t field groupFields method = .error (.table (.missingColumn field)) ∧
        ∀ k, GroupCheck.trend (t.group groupFields k) field [] method =
          .error (.table (.missingColumn field))) ∧
    (field ∈ t.names → ∃ f, GroupCheck.trend t field groupFields method = .ok f ∧
      f.tested = t.height ∧ f.failed.length = t.height ∧
      ∀ k, ∃ g values, GroupCheck.trend (t.group groupFields k) field [] method = .ok g ∧
        marked (t.groupMarks groupFields k) f.failed = g.failed ∧
        (t.group groupFields k).numbers field = .ok values ∧
        ((values.filterMap id).length < 2 → g.failed = values.map fun _ => false) ∧
        ∀ u : Table, u.fields = t.fields →
          (u.group groupFields k).rows = (t.group groupFields k).rows →
            ∃ f', GroupCheck.trend u field groupFields method = .ok f' ∧
              marked (u.groupMarks groupFields k) f'.failed = g.failed) := by
  refine ⟨fun hfield => ⟨trend_of_missing hfield, fun k => trend_of_missing hfield⟩,
    fun hfield => ?_⟩
  obtain ⟨values, hvalues⟩ := Table.numbers_eq_ok_iff.2 hfield
  obtain ⟨f, hf, htested, hlength, hgroups⟩ := trend_of_values hvalues hne h method
  refine ⟨f, hf, htested, hlength, fun k => ?_⟩
  have hgroup := Table.numbers_group hvalues groupFields k
  refine ⟨_, _, trend_alone hgroup, hgroups k, hgroup, GroupCheck.trendVerdicts_of_few,
    fun u hu hrows => ?_⟩
  have hnames : u.names = t.names := congrArg Schema.names hu
  obtain ⟨others, hothers⟩ := Table.numbers_eq_ok_iff.2 (hnames ▸ hfield)
  obtain ⟨f', hf', -, -, hgroups'⟩ := trend_of_values hothers hne (hnames ▸ h) method
  have hsame : u.group groupFields k = t.group groupFields k := Table.eq_of_rows hu hrows
  have hnumbers := Table.numbers_group hothers groupFields k
  rw [hsame, hgroup] at hnumbers
  exact ⟨f', hf', (hgroups' k).trans (congrArg _ (Except.ok.inj hnumbers).symm)⟩

def Table.ofBranches (rows : List (String × String)) : Table where
  fields := [⟨"branch", .text⟩, ⟨"amount", .text⟩]
  rows := rows.map fun p => [some (.text p.1), some (.text p.2)]
  rect := by
    intro r hr
    obtain ⟨p, -, rfl⟩ := List.mem_map.1 hr
    rfl
  distinct := by simp

/-- The only amount of a branch passes beside those of another branch, and beside others of that. -/
theorem trend_of_group_branch :
    ["branch"] ≠ [] ∧
      (∀ name ∈ ["branch"],
        name ∈ (Table.ofBranches [("A", "10"), ("C", "5"), ("A", "n/a"), ("A", "12")]).names) ∧
      ∃ f g f', GroupCheck.trend (.ofBranches [("A", "10"), ("C", "5"), ("A", "n/a"), ("A", "12")])
          "amount" ["branch"] .chebyshev = .ok f ∧
        GroupCheck.trend (.ofBranches [("C", "5")]) "amount" [] .chebyshev = .ok g ∧
        marked [false, true, false, false] f.failed = g.failed ∧ g.failed = [false] ∧
        GroupCheck.trend (.ofBranches [("A", "1000"), ("A", "-1"), ("C", "5")]) "amount" ["branch"]
          .chebyshev = .ok f' ∧
        marked [false, false, true] f'.failed = g.failed := by
  have hne : ["branch"] ≠ [] := by decide
  have h : ∀ name ∈ ["branch"],
      name ∈ (Table.ofBranches [("A", "10"), ("C", "5"), ("A", "n/a"), ("A", "12")]).names := by
    decide
  obtain ⟨f, hf, -, -, hgroups⟩ := (trend_of_group hne h "amount" .chebyshev).2 (by decide)
  obtain ⟨g, values, hg, hmarked, hvalues, hfew, hothers⟩ := hgroups [some "C"]
  have hone : values.length = 1 := Table.length_of_numbers hvalues
  obtain ⟨value, rfl⟩ := List.length_eq_one_iff.1 hone
  have hpass : g.failed = [false] := by
    apply hfew
    have hle := List.length_filterMap_le id [value]
    exact Nat.lt_of_le_of_lt hle Nat.one_lt_two
  obtain ⟨f', hf', hmarked'⟩ :=
    hothers (.ofBranches [("A", "1000"), ("A", "-1"), ("C", "5")]) rfl rfl
  exact ⟨hne, h, f, g, f', hf, hg, hmarked, hpass, hf', hmarked'⟩

end TableAudit
