import TableAudit.Proofs.Keys
import TableAudit.Proofs.Ranks
import TableAudit.Proofs.Runs

/-!
# Profiles and the order of rows

A sum of floats depends on the order of its terms. A profile does not depend on the order of the
rows: its measures are taken from the sorted numbers, and there is one way only to sort them. Which
measures it has is a matter of whether all cells of the column are numbers.
-/

namespace TableAudit

section Sorting

variable {xs ys : List Float}

private theorem orderKey_injective : Function.Injective orderKey := by
  intro x y h
  have hx := x.toBits.toNat_lt
  have hy := y.toBits.toNat_lt
  apply Float.toBits_inj.1
  apply UInt64.toNat_inj.1
  unfold orderKey at h
  dsimp only at h
  split at h <;> split at h <;> omega

theorem sorted_perm (xs : List Float) : (sorted xs).Perm xs := List.mergeSort_perm _ _

private theorem pairwise_sorted (xs : List Float) :
    (sorted xs).Pairwise fun a b => orderKey a ≤ orderKey b := by
  have hsorted : (sorted xs).Pairwise fun a b => decide (orderKey a ≤ orderKey b) = true := by
    apply List.pairwise_mergeSort
    · intro a b c hab hbc
      exact decide_eq_true ((of_decide_eq_true hab).trans (of_decide_eq_true hbc))
    · intro a b
      rw [Bool.or_eq_true, decide_eq_true_eq, decide_eq_true_eq]
      exact Int.le_total _ _
  exact hsorted.imp of_decide_eq_true

/-- No two floats stand at one place of the order, so a sample has one ascending order only. -/
theorem sorted_eq_of_perm (h : xs.Perm ys) : sorted xs = sorted ys := by
  have hperm := (sorted_perm xs).trans (h.trans (sorted_perm ys).symm)
  exact hperm.eq_of_pairwise
    (fun a b _ _ hab hba => orderKey_injective (Int.le_antisymm hab hba))
    (pairwise_sorted xs) (pairwise_sorted ys)

end Sorting

section Percentiles

theorem percentiles_shares : ∀ entry ∈ percentiles, Decimal.isShare entry.2 = true := by
  decide +kernel

/-- A percentile of a sample is missing only where the sample is empty. -/
theorem isSome_percentile {xs : Array Float} (h : 0 < xs.size) {quantile : Float}
    (hshare : Decimal.isShare quantile = true) : (percentile xs quantile).isSome = true := by
  have habove := Decimal.wordAbove_mul_le hshare (xs.size - 1)
  have hbelow := Decimal.wordBelow_le_wordAbove (quantile * Decimal.ofInt (xs.size - 1 : Nat))
  unfold percentile
  dsimp only
  rw [Array.getElem?_eq_getElem (by omega), Array.getElem?_eq_getElem (by omega)]
  rfl

end Percentiles

section Extremes

variable {before : String → String → Bool} {texts : List String} {s : String}

theorem extreme_eq_none : extreme before texts = none ↔ texts = [] := by
  cases texts with
  | nil => simp [extreme]
  | cons a rest =>
    rw [extreme]
    split <;> simp

theorem extreme_cons (a : String) :
    extreme before (a :: texts) =
      some (((extreme before texts).map fun b => if before b a then b else a).getD a) := by
  rw [extreme]
  cases extreme before texts <;> rfl

/-- The extreme text is the least by any order that tells texts apart as the comparison does. -/
theorem isLeast_of_extreme {α : Type} [LinearOrder α] {f : String ≃ α}
    (hbefore : ∀ a b, before a b = true ↔ f a < f b) (h : extreme before texts = some s) :
    s ∈ texts ∧ ∀ a ∈ texts, f s ≤ f a := by
  induction texts generalizing s with
  | nil => cases h
  | cons a rest ih =>
    rw [extreme_cons] at h
    cases hrest : extreme before rest with
    | none =>
      rw [hrest] at h
      obtain rfl := extreme_eq_none.1 hrest
      cases h
      exact ⟨List.mem_cons_self, by simp⟩
    | some b =>
      rw [hrest] at h
      obtain ⟨hmem, hle⟩ := ih hrest
      have hs : s = if before b a then b else a := (Option.some.inj h).symm
      split at hs
      · next hb =>
        subst hs
        refine ⟨List.mem_cons_of_mem _ hmem, ?_⟩
        rw [List.forall_mem_cons]
        exact ⟨((hbefore _ _).1 hb).le, hle⟩
      · next hb =>
        subst hs
        refine ⟨List.mem_cons_self, ?_⟩
        rw [List.forall_mem_cons]
        have hab : f s ≤ f b := not_lt.1 (hb ∘ (hbefore _ _).2)
        exact ⟨le_refl _, fun c hc => hab.trans (hle c hc)⟩

theorem extreme_iff {α : Type} [LinearOrder α] {f : String ≃ α}
    (hbefore : ∀ a b, before a b = true ↔ f a < f b) :
    extreme before texts = some s ↔ s ∈ texts ∧ ∀ a ∈ texts, f s ≤ f a := by
  refine ⟨isLeast_of_extreme hbefore, fun ⟨hmem, hle⟩ => ?_⟩
  cases h : extreme before texts with
  | none =>
    rw [extreme_eq_none.1 h] at hmem
    cases hmem
  | some b =>
    obtain ⟨hb, hleast⟩ := isLeast_of_extreme hbefore h
    exact congrArg some (f.injective (le_antisymm (hleast s hmem) (hle b hb)))

theorem least_iff :
    extreme (fun a b => decide (a < b)) texts = some s ↔ IsLeast {a | a ∈ texts} s :=
  extreme_iff (f := Equiv.refl String) fun _ _ => decide_eq_true_iff

theorem greatest_iff :
    extreme (fun a b => decide (b < a)) texts = some s ↔ IsGreatest {a | a ∈ texts} s :=
  extreme_iff (f := OrderDual.toDual) fun _ _ => decide_eq_true_iff

variable {texts' : List String} (h : texts.Perm texts')

include h

theorem least_of_perm :
    extreme (fun a b => decide (a < b)) texts = extreme (fun a b => decide (a < b)) texts' :=
  Option.ext fun s => by simp only [least_iff, h.mem_iff]

theorem greatest_of_perm :
    extreme (fun a b => decide (b < a)) texts = extreme (fun a b => decide (b < a)) texts' :=
  Option.ext fun s => by simp only [greatest_iff, h.mem_iff]

end Extremes

theorem GroupCheck.isSome_meanAndDeviation (xs : List Float) :
    (meanAndDeviation xs).isSome = true ↔ 2 ≤ xs.length := by
  unfold meanAndDeviation
  split
  · next hfew => exact iff_of_false Bool.false_ne_true (by omega)
  · next hmany => exact iff_of_true rfl (by omega)

section Measures

variable {cells cells' : List Cell} {field : String}

def AllNumbers (cells : List Cell) : Prop :=
  cells ≠ [] ∧ ∀ cell ∈ cells, cell.toNumber?.isSome = true

/-- Lengths tell whether all cells are numbers, since a cell has one text and at most one number. -/
theorem allNumbers_iff :
    (!(cells.map Cell.toText).isEmpty &&
        (cells.filterMap Cell.toNumber?).length == (cells.map Cell.toText).length) = true ↔
      AllNumbers cells := by
  rw [Bool.and_eq_true, beq_iff_eq, List.length_map, List.filterMap_length_eq_length,
    Bool.not_eq_true', List.isEmpty_eq_false_iff, ne_eq, List.map_eq_nil_iff, AllNumbers]

theorem AllNumbers.of_perm (h : cells.Perm cells') (hnumbers : AllNumbers cells) :
    AllNumbers cells' :=
  ⟨fun hnil => hnumbers.1 (List.perm_nil.1 (hnil ▸ h)),
    fun cell hcell => hnumbers.2 cell (h.mem_iff.2 hcell)⟩

namespace Profile

/-- Two profiles agree but for the field and the most frequent value. -/
structure SameMeasures (p q : Profile) : Prop where
  mean : p.mean = q.mean
  deviation : p.deviation = q.deviation
  min : p.min = q.min
  percentiles : p.percentiles = q.percentiles
  max : p.max = q.max

/-- The profile of a column with these cells, the missing ones left out. -/
def ofCells (field : String) (cells : List Cell) : Profile :=
  ofValues field (cells.map Cell.toText) (cells.filterMap Cell.toNumber?)

theorem ofCells_of_numbers (h : AllNumbers cells) (field : String) :
    ofCells field cells =
      let xs := sorted (cells.filterMap Cell.toNumber?)
      { field
        mean := some (GroupCheck.mean xs)
        deviation := (GroupCheck.meanAndDeviation xs).map (·.2)
        min := xs.head?.map Decimal.cellText
        percentiles := TableAudit.percentiles.map fun (_, q) => percentile xs.toArray q
        max := xs.getLast?.map Decimal.cellText
        mode := TableAudit.mode (cells.map Cell.toText) } :=
  if_pos (allNumbers_iff.2 h)

theorem ofCells_of_texts (h : ¬ AllNumbers cells) (field : String) :
    ofCells field cells =
      { field
        mean := none
        deviation := none
        min := extreme (fun a b => decide (a < b)) (cells.map Cell.toText)
        percentiles := TableAudit.percentiles.map fun _ => none
        max := extreme (fun a b => decide (b < a)) (cells.map Cell.toText)
        mode := TableAudit.mode (cells.map Cell.toText) } :=
  if_neg (h ∘ allNumbers_iff.1)

theorem sameMeasures_of_perm (h : cells.Perm cells') (field : String) :
    SameMeasures (ofCells field cells) (ofCells field cells') := by
  by_cases hnumbers : AllNumbers cells
  · rw [ofCells_of_numbers hnumbers, ofCells_of_numbers (hnumbers.of_perm h),
      sorted_eq_of_perm (h.filterMap _)]
    exact ⟨rfl, rfl, rfl, rfl, rfl⟩
  · rw [ofCells_of_texts hnumbers, ofCells_of_texts (hnumbers ∘ .of_perm h.symm),
      least_of_perm (h.map _), greatest_of_perm (h.map _)]
    exact ⟨rfl, rfl, rfl, rfl, rfl⟩

private theorem isSome_mean : (ofCells field cells).mean.isSome = true ↔ AllNumbers cells := by
  by_cases h : AllNumbers cells
  · rw [ofCells_of_numbers h]
    exact iff_of_true rfl h
  · rw [ofCells_of_texts h]
    exact iff_of_false Bool.false_ne_true h

theorem length_filterMap_of_numbers (h : AllNumbers cells) :
    (cells.filterMap Cell.toNumber?).length = cells.length :=
  List.filterMap_length_eq_length.2 h.2

private theorem isSome_deviation :
    (ofCells field cells).deviation.isSome = true ↔ AllNumbers cells ∧ 2 ≤ cells.length := by
  by_cases h : AllNumbers cells
  · have hlength : (sorted (cells.filterMap Cell.toNumber?)).length = cells.length :=
      (sorted_perm _).length_eq.trans (length_filterMap_of_numbers h)
    rw [ofCells_of_numbers h]
    dsimp only
    rw [Option.isSome_map, GroupCheck.isSome_meanAndDeviation, hlength, and_iff_right h]
  · rw [ofCells_of_texts h]
    exact iff_of_false Bool.false_ne_true fun hboth => h hboth.1

theorem length_percentiles : (ofCells field cells).percentiles.length = 8 := by
  by_cases h : AllNumbers cells
  · rw [ofCells_of_numbers h]
    exact List.length_map _
  · rw [ofCells_of_texts h]
    exact List.length_map _

private theorem isSome_of_mem_percentiles {x : Option Float}
    (hx : x ∈ (ofCells field cells).percentiles) : x.isSome = true ↔ AllNumbers cells := by
  by_cases h : AllNumbers cells
  · rw [ofCells_of_numbers h] at hx
    obtain ⟨entry, hentry, rfl⟩ := List.mem_map.1 hx
    refine iff_of_true (isSome_percentile ?_ (percentiles_shares entry hentry)) h
    rw [List.size_toArray, (sorted_perm _).length_eq, length_filterMap_of_numbers h]
    exact List.length_pos_iff.2 h.1
  · rw [ofCells_of_texts h] at hx
    obtain ⟨entry, -, rfl⟩ := List.mem_map.1 hx
    exact iff_of_false Bool.false_ne_true h

end Profile

end Measures

section Columns

variable {t u : Table} {field : String}

def Table.present (t : Table) (field : String) : List Cell :=
  t.rows.filterMap fun row => t.fields.cell row field

theorem Table.present_perm (hfields : u.fields = t.fields) (hrows : u.rows.Perm t.rows)
    (field : String) : (u.present field).Perm (t.present field) := by
  rw [present, present, hfields]
  exact hrows.filterMap _

theorem Profile.ofColumn_eq_ok (h : field ∈ t.names) :
    ofColumn t field = .ok (ofCells field (t.present field)) := by
  obtain ⟨i, hi⟩ := Schema.column_eq_ok_iff.2 h
  have hcell := Schema.cell_of_column hi
  have htexts : (t.rows.map (·.text? i)).filterMap id = (t.present field).map Cell.toText := by
    rw [Table.present, List.map_filterMap, List.filterMap_map]
    exact List.filterMap_congr fun row _ => by rw [hcell]; rfl
  have hnumbers : (t.rows.map (·.number? i)).filterMap id =
      (t.present field).filterMap Cell.toNumber? := by
    rw [Table.present, List.filterMap_filterMap, List.filterMap_map]
    exact List.filterMap_congr fun row _ => by rw [hcell]; rfl
  rw [ofColumn, Table.texts, Table.numbers, hi, ofCells, ← htexts, ← hnumbers]
  rfl

end Columns

/-- The measures of a column are the same in whatever order the rows stand. It has a mean and all
percentiles if it has cells and all of them are numbers, and a deviation if there are two of them
besides; the extremes of any other column are the least and the greatest of its texts. -/
theorem profile_of_permuted_rows {t : Table} {field : String} (h : field ∈ t.names) :
    ∃ p, Profile.ofColumn t field = .ok p ∧
      (∀ u : Table, u.fields = t.fields → u.rows.Perm t.rows →
        ∃ q, Profile.ofColumn u field = .ok q ∧ Profile.SameMeasures q p) ∧
      (p.mean.isSome = true ↔ AllNumbers (t.present field)) ∧
      p.percentiles.length = 8 ∧
      (∀ x ∈ p.percentiles, x.isSome = true ↔ AllNumbers (t.present field)) ∧
      (p.deviation.isSome = true ↔
        AllNumbers (t.present field) ∧ 2 ≤ (t.present field).length) ∧
      (¬ AllNumbers (t.present field) →
        ∀ s, (p.min = some s ↔ IsLeast {a | a ∈ (t.present field).map Cell.toText} s) ∧
          (p.max = some s ↔ IsGreatest {a | a ∈ (t.present field).map Cell.toText} s)) := by
  refine ⟨_, Profile.ofColumn_eq_ok h, fun u hfields hrows => ?_, Profile.isSome_mean,
    Profile.length_percentiles, fun x hx => Profile.isSome_of_mem_percentiles hx,
    Profile.isSome_deviation, fun htexts s => ?_⟩
  · have hnames : u.names = t.names := congrArg Schema.names hfields
    exact ⟨_, Profile.ofColumn_eq_ok (hnames ▸ h),
      Profile.sameMeasures_of_perm (Table.present_perm hfields hrows field) field⟩
  · rw [Profile.ofCells_of_texts htexts]
    exact ⟨least_iff, greatest_iff⟩

/-- Amounts of which one is missing have a mean and a deviation, the same in any order. -/
theorem profile_of_permuted_rows_amounts :
    "amount" ∈ (Table.ofTexts "amount" [some "2.5", none, some "10"]).names ∧
      ∃ p q, Profile.ofColumn (.ofTexts "amount" [some "2.5", none, some "10"]) "amount" = .ok p ∧
        Profile.ofColumn (.ofTexts "amount" [some "10", some "2.5", none]) "amount" = .ok q ∧
        q.mean = p.mean ∧ q.deviation = p.deviation ∧
        p.mean.isSome = true ∧ p.deviation.isSome = true := by
  have hmem : "amount" ∈ (Table.ofTexts "amount" [some "2.5", none, some "10"]).names := by decide
  obtain ⟨p, hp, hsame, hmean, -, -, hdeviation, -⟩ := profile_of_permuted_rows hmem
  have hrows : [some "10", some "2.5", none].Perm [some "2.5", none, some "10"] :=
    (List.perm_append_singleton (some "10") [some "2.5", none]).symm
  obtain ⟨q, hq, hpq⟩ := hsame (.ofTexts "amount" [some "10", some "2.5", none]) rfl
    (hrows.map fun text : Option String => [text.map Cell.text])
  have hcells : (Table.ofTexts "amount" [some "2.5", none, some "10"]).present "amount" =
      [.text "2.5", .text "10"] := rfl
  have hnumbers : AllNumbers
      ((Table.ofTexts "amount" [some "2.5", none, some "10"]).present "amount") := by
    rw [hcells]
    exact ⟨List.cons_ne_nil _ _, by decide +kernel⟩
  exact ⟨hmem, p, q, hp, hq, hpq.mean, hpq.deviation, hmean.2 hnumbers,
    hdeviation.2 ⟨hnumbers, Nat.le_refl 2⟩⟩

end TableAudit
