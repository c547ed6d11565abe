import Mathlib.Data.List.FinRange
import Mathlib.Data.List.NodupEquivFin
import TableAudit.Proofs.Keys
import TableAudit.Proofs.Runs

/-!
# Groups of equal keys

Grouping goes through the keys of a table once and collects for each key the positions at which it
occurs. These lists divide up the positions, and a position shares its list with those that have the
same key. So a key is repeated exactly if its list has more than one position in it.
-/

namespace TableAudit

section Positions

variable {keys : List Key}

theorem getD_positions (keys : List Key) (k : Key) :
    (positions keys).getD k [] = keys.idxsOf k := by
  -- the keys from any position on have been entered before those in front of them
  have hsuffix (n : Nat) : ((keys.zipIdx n).foldr
      (fun x m => m.insert x.1 (x.2 :: m.getD x.1 [])) (∅ : Std.HashMap Key (List Nat))).getD k [] =
        keys.idxsOf k n := by
    induction keys generalizing n with
    | nil => simp
    | cons first keys ih =>
      rw [List.zipIdx_cons, List.foldr_cons, Std.HashMap.getD_insert, ih, List.idxsOf_cons]
      split
      · next h => rw [eq_of_beq h, ih]
      · rfl
  exact hsuffix 0

theorem mem_idxsOf {k : Key} {i : Nat} : i ∈ keys.idxsOf k ↔ keys[i]? = some k := by
  rw [List.mem_idxsOf_iff_exists_getElem_pos, List.getElem?_eq_some_iff]
  simp

theorem mem_groups {group : List Nat} : group ∈ groups keys ↔ ∃ k ∈ keys, keys.idxsOf k = group := by
  simp only [groups, getD_positions, List.mem_filterMap]
  constructor
  · rintro ⟨⟨k, i⟩, hki, hgroup⟩
    split at hgroup
    · exact ⟨k, List.fst_mem_of_mem_zipIdx hki, Option.some.inj hgroup⟩
    · cases hgroup
  · rintro ⟨k, hk, rfl⟩
    cases hhead : (keys.idxsOf k).head? with
    | none =>
      obtain ⟨i, hi⟩ := List.mem_iff_getElem?.1 hk
      have hmem := mem_idxsOf.2 hi
      rw [List.head?_eq_none_iff.1 hhead] at hmem
      cases hmem
    | some i =>
      have hi := mem_idxsOf.1 (List.mem_of_mem_head? hhead)
      exact ⟨(k, i), List.mk_mem_zipIdx_iff_getElem?.2 hi, if_pos hhead⟩

theorem groups_ordered (keys : List Key) :
    (groups keys).Pairwise fun g g' => ∀ i ∈ g.head?, ∀ j ∈ g'.head?, i < j := by
  have hpositions : keys.zipIdx.Pairwise fun x y => x.2 < y.2 := by
    rw [← List.pairwise_map (f := Prod.snd), List.zipIdx_map_snd]
    exact List.pairwise_lt_range'
  simp only [groups, getD_positions]
  rw [List.pairwise_filterMap]
  refine hpositions.imp ?_
  rintro ⟨k, i⟩ ⟨k', i'⟩ hlt g hg g' hg'
  have hi : g.head? = some i := by
    split at hg
    · next h => exact Option.some.inj hg ▸ h
    · cases hg
  have hi' : g'.head? = some i' := by
    split at hg'
    · next h => exact Option.some.inj hg' ▸ h
    · cases hg'
  rw [hi, hi']
  rintro _ ⟨⟩ _ ⟨⟩
  exact hlt

theorem eq_of_mem_groups {g g' : List Nat} (hg : g ∈ groups keys) (hg' : g' ∈ groups keys) {i : Nat}
    (hi : i ∈ g) (hi' : i ∈ g') : g = g' := by
  obtain ⟨k, -, rfl⟩ := mem_groups.1 hg
  obtain ⟨k', -, rfl⟩ := mem_groups.1 hg'
  have hk : some k = some k' := (mem_idxsOf.1 hi).symm.trans (mem_idxsOf.1 hi')
  rw [Option.some.inj hk]

structure Grouping (height : Nat) (key? : Nat → Option Key) (groups : List (List Nat)) : Prop where
  nonempty : ∀ g ∈ groups, g ≠ []
  increasing : ∀ g ∈ groups, g.Pairwise (· < ·)
  partition : groups.flatten.Perm (List.range height)
  together : ∀ i < height, ∀ j < height, (∃ g ∈ groups, i ∈ g ∧ j ∈ g) ↔ key? i = key? j
  ordered : groups.Pairwise fun g g' => ∀ i ∈ g.head?, ∀ j ∈ g'.head?, i < j

theorem exists_group {i : Nat} (h : i < keys.length) :
    keys.idxsOf keys[i] ∈ groups keys ∧ i ∈ keys.idxsOf keys[i] :=
  ⟨mem_groups.2 ⟨_, List.getElem_mem h, rfl⟩, mem_idxsOf.2 (List.getElem?_eq_getElem h)⟩

theorem nodup_flatten_groups (keys : List Key) : (groups keys).flatten.Nodup := by
  rw [List.nodup_flatten]
  constructor
  · intro g hg
    obtain ⟨k, -, rfl⟩ := mem_groups.1 hg
    exact List.nodup_idxsOf
  · refine (groups_ordered keys).imp_of_mem ?_
    intro g g' hg hg' hlt i hi hi'
    obtain rfl := eq_of_mem_groups hg hg' hi hi'
    cases hhead : g.head? with
    | none =>
      rw [List.head?_eq_none_iff.1 hhead] at hi
      cases hi
    | some first => exact absurd (hlt first hhead first hhead) (Nat.lt_irrefl first)

private theorem grouping_groups (keys : List Key) :
    Grouping keys.length (fun i => keys[i]?) (groups keys) where
  nonempty := by
    rintro g hg rfl
    obtain ⟨k, hk, hnil⟩ := mem_groups.1 hg
    obtain ⟨i, hi⟩ := List.mem_iff_getElem?.1 hk
    have hmem := mem_idxsOf.2 hi
    rw [hnil] at hmem
    cases hmem
  increasing := by
    intro g hg
    obtain ⟨k, -, rfl⟩ := mem_groups.1 hg
    exact List.pairwise_idxsOf
  partition := by
    rw [List.perm_ext_iff_of_nodup (nodup_flatten_groups keys) List.nodup_range]
    intro i
    rw [List.mem_flatten, List.mem_range]
    constructor
    · rintro ⟨g, hg, hi⟩
      obtain ⟨k, -, rfl⟩ := mem_groups.1 hg
      obtain ⟨hlt, -⟩ := List.getElem?_eq_some_iff.1 (mem_idxsOf.1 hi)
      exact hlt
    · exact fun hlt => ⟨_, exists_group hlt⟩
  together := by
    intro i hi j hj
    constructor
    · rintro ⟨g, hg, hig, hjg⟩
      obtain ⟨k, -, rfl⟩ := mem_groups.1 hg
      exact (mem_idxsOf.1 hig).trans (mem_idxsOf.1 hjg).symm
    · intro hkey
      obtain ⟨hg, hig⟩ := exists_group hi
      exact ⟨_, hg, hig, mem_idxsOf.2 (hkey.symm.trans (List.getElem?_eq_getElem hi))⟩
  ordered := groups_ordered keys

theorem occurrences_eq (keys : List Key) : occurrences keys = keys.map keys.count := by
  simp only [occurrences, getD_positions, List.length_idxsOf]

/-- A key at some position occurs more than once if it stands at another position as well. -/
theorem one_lt_count_iff {i : Nat} {k : Key} (hi : keys[i]? = some k) :
    1 < keys.count k ↔ ∃ j < keys.length, j ≠ i ∧ keys[j]? = some k := by
  have hmem : i ∈ keys.idxsOf k := mem_idxsOf.2 hi
  have hnodup : (keys.idxsOf k).Nodup := List.nodup_idxsOf
  have hlength : (keys.idxsOf k).length = keys.count k := List.length_idxsOf
  constructor
  · intro hlt
    have hne : keys.idxsOf k ≠ [i] := by
      intro he
      simp [← hlength, he] at hlt
    rcases (hnodup.ne_singleton_iff i).1 hne with hnil | ⟨j, hj, hji⟩
    · simp [hnil] at hmem
    · have hkey := mem_idxsOf.1 hj
      obtain ⟨hlt, -⟩ := List.getElem?_eq_some_iff.1 hkey
      exact ⟨j, hlt, hji, hkey⟩
  · rintro ⟨j, -, hji, hkey⟩
    have hpair : [j, i].Nodup := by simpa using hji
    have hsub : [j, i] ⊆ keys.idxsOf k := by simp [mem_idxsOf.2 hkey, hmem]
    have hle := (List.subperm_of_subset hpair hsub).length_le
    exact hlength ▸ hle

end Positions

namespace Table

variable {t u : Table} {names : List String}

def keyAt? (t : Table) (names : List String) (i : Nat) : Option Key :=
  t.rows[i]?.map (t.fields.texts · names)

def sharing (t : Table) (names : List String) (r : Row) : Nat :=
  t.rows.countP fun q => t.fields.texts q names == t.fields.texts r names

theorem count_texts (t : Table) (names : List String) (r : Row) :
    (t.rows.map (t.fields.texts · names)).count (t.fields.texts r names) = t.sharing names r :=
  List.countP_map ..

theorem groupCounts_eq_ok (h : ∀ name ∈ names, name ∈ t.names) :
    t.groupCounts names = .ok (t.rows.map (t.sharing names)) := by
  rw [groupCounts, keys_eq_ok h, Except.map, occurrences_eq, List.map_map]
  exact congrArg Except.ok (List.map_congr_left fun r _ => t.count_texts names r)

theorem one_lt_sharing_iff {i : Nat} {r : Row} (hi : t.rows[i]? = some r) :
    1 < t.sharing names r ↔ ∃ j < t.height, j ≠ i ∧ t.keyAt? names j = t.keyAt? names i := by
  have hkey : (t.rows.map (t.fields.texts · names))[i]? = some (t.fields.texts r names) := by
    rw [List.getElem?_map, hi, Option.map_some]
  have hat : t.keyAt? names i = some (t.fields.texts r names) := by rw [keyAt?, hi, Option.map_some]
  rw [← count_texts, one_lt_count_iff hkey, hat, List.length_map]
  simp only [List.getElem?_map]
  rfl

theorem sharing_perm (hf : u.fields = t.fields) (hr : u.rows.Perm t.rows) (r : Row) :
    u.sharing names r = t.sharing names r := by
  rw [sharing, hf]
  exact hr.countP_eq _

end Table

theorem evaluate_duplicateCheck {t : Table} {names : List String}
    (h : ∀ name ∈ names, name ∈ t.names) (ctx : Context) :
    Check.evaluate .fields .duplicateCheck names t ctx =
      .ok ⟨t.height, t.rows.map fun r => decide (1 < t.sharing names r)⟩ := by
  have hcounts : (t.groupCounts names).mapError CheckError.table =
      .ok (t.rows.map (t.sharing names)) := by rw [Table.groupCounts_eq_ok h]; rfl
  simp only [Check.evaluate, if_true, GroupCheck.unique, hcounts]
  simp [bind, Except.bind, pure, Except.pure, Finding.full, Table.height, Function.comp_def]

/-- Grouping divides up the rows by their keys, a missing text being equal to itself and to no
other, and the counts say how many rows have the key of each. A row fails the check for repeated
keys exactly if another row has its key, wherever the rows stand. -/
theorem groups_of_rows {t : Table} {names : List String} (h : ∀ name ∈ names, name ∈ t.names)
    (ctx : Context) :
    ∃ gs counts f, t.groupBy names = .ok gs ∧ t.groupCounts names = .ok counts ∧
      Check.evaluate .fields .duplicateCheck names t ctx = .ok f ∧
      Grouping t.height (t.keyAt? names) gs ∧ counts = t.rows.map (t.sharing names) ∧
      f.tested = t.height ∧ f.failed.length = t.height ∧
      (∀ i < t.height, f.failed[i]? = some true ↔
        ∃ j < t.height, j ≠ i ∧ t.keyAt? names j = t.keyAt? names i) ∧
      ∀ (σ : Equiv.Perm (Fin t.height)) (u : Table), u.fields = t.fields →
        u.rows = List.ofFn (fun i => t.rows.get (σ i)) →
        ∃ g, Check.evaluate .fields .duplicateCheck names u ctx = .ok g ∧
          g.tested = f.tested ∧ g.failed.length = f.failed.length ∧
          ∀ i : Fin t.height, g.failed[i.val]? = f.failed[(σ i).val]? := by
  have hgroups : t.groupBy names = .ok (groups (t.rows.map (t.fields.texts · names))) := by
    rw [Table.groupBy, Table.keys_eq_ok h]
    rfl
  refine ⟨_, _, _, hgroups, Table.groupCounts_eq_ok h, evaluate_duplicateCheck h ctx, ?_, rfl, rfl,
    List.length_map _, ?_, ?_⟩
  · have hgrouping := grouping_groups (t.rows.map (t.fields.texts · names))
    simp only [List.length_map, List.getElem?_map] at hgrouping
    exact hgrouping
  · intro i hi
    have hrow : t.rows[i]? = some t.rows[i] := List.getElem?_eq_getElem hi
    rw [List.getElem?_map, hrow, ← Table.one_lt_sharing_iff hrow]
    simp
  · intro σ u hf hr
    have hperm : u.rows.Perm t.rows := by
      have hall : List.ofFn (fun i : Fin t.height => t.rows.get i) = t.rows := List.ofFn_get _
      have hσ := Equiv.Perm.ofFn_comp_perm σ fun i : Fin t.height => t.rows.get i
      rw [hall] at hσ
      exact hr ▸ hσ
    have hnames : ∀ name ∈ names, name ∈ u.names := by
      rw [Table.names, hf]
      exact h
    refine ⟨_, evaluate_duplicateCheck hnames ctx, hperm.length_eq, ?_, ?_⟩
    · simp [hperm.length_eq]
    · intro i
      have hrow : u.rows[i.val]? = t.rows[(σ i).val]? := by
        rw [hr, List.getElem?_ofFn, dif_pos i.isLt]
        exact (List.getElem?_eq_getElem (σ i).isLt).symm
      simp only [Table.sharing_perm hf hperm, List.getElem?_map, hrow]

/-- Two rows without a name share their key, which an empty name does not have; and after an
exchange of rows, the verdicts are exchanged. -/
theorem groups_of_rows_names :
    (∀ name ∈ ["name"], name ∈ (Table.ofTexts "name" [some "x", none, some "", none]).names) ∧
      ∃ gs f g, (Table.ofTexts "name" [some "x", none, some "", none]).groupBy ["name"] = .ok gs ∧
        gs = [[0], [1, 3], [2]] ∧
        Check.evaluate .fields .duplicateCheck ["name"]
          (.ofTexts "name" [some "x", none, some "", none]) ⟨[], ⟨2024, 6, 1⟩⟩ = .ok f ∧
        f.failed[1]? = some true ∧
        Check.evaluate .fields .duplicateCheck ["name"]
          (.ofTexts "name" [none, some "x", some "", none]) ⟨[], ⟨2024, 6, 1⟩⟩ = .ok g ∧
        g.failed[0]? = f.failed[1]? := by
  have h : ∀ name ∈ ["name"],
      name ∈ (Table.ofTexts "name" [some "x", none, some "", none]).names := by decide
  obtain ⟨gs, counts, f, hgs, -, hf, -, -, -, -, hfails, hperm⟩ :=
    groups_of_rows h ⟨[], ⟨2024, 6, 1⟩⟩
  obtain ⟨g, hg, -, -, hswap⟩ := hperm (Equiv.swap ⟨0, by decide⟩ ⟨1, by decide⟩)
    (.ofTexts "name" [none, some "x", some "", none]) rfl rfl
  have hlists : gs = [[0], [1, 3], [2]] := by
    have hgroups := Except.ok.inj hgs
    simp only [groups, getD_positions] at hgroups
    exact hgroups.symm
  have hother : f.failed[1]? = some true :=
    (hfails 1 (by decide)).2 ⟨3, by decide, by decide, rfl⟩
  exact ⟨h, gs, f, g, hgs, hlists, hf, hother, hg, hswap ⟨0, by decide⟩⟩

end TableAudit
