import Mathlib.Data.List.Basic
import Mathlib.Data.List.Induction
import TableAudit.Audit.Profile

/-!
# The most frequent value

A census goes through values once. It lists each of them where it was first seen, with its count,
and knows the slot of each. The leader is then the first entry of the list that no other one
exceeds, and so the mode is, of the most frequent values, the one that occurs first.
-/

namespace TableAudit

/-- The most frequent value of a list, and the first of several. -/
structure IsMode (values : List String) (v : String) : Prop where
  mem : v ∈ values
  most : ∀ w, values.count w ≤ values.count v
  first : ∀ w ∈ values, values.count w = values.count v → values.idxOf v ≤ values.idxOf w

theorem IsMode.eq {values : List String} {v w : String} (hv : IsMode values v)
    (hw : IsMode values w) : v = w := by
  have hcount : values.count v = values.count w := Nat.le_antisymm (hw.most v) (hv.most w)
  have hfirst : values.idxOf v = values.idxOf w :=
    Nat.le_antisymm (hv.first w hw.mem hcount.symm) (hw.first v hv.mem hcount)
  exact (List.idxOf_inj hv.mem).1 hfirst

section FirstSeen

private theorem getElem?_concat_eq_some {values : List String} {value v : String} {i : Nat} :
    (values ++ [value])[i]? = some v ↔
      values[i]? = some v ∨ i = values.length ∧ value = v := by
  rw [List.getElem?_append]
  split
  · next hlt => simp [Nat.ne_of_lt hlt]
  · next hle =>
    have hnone : values[i]? = none := List.getElem?_eq_none (Nat.le_of_not_lt hle)
    have hlast : i - values.length = 0 ↔ i = values.length := by omega
    simp [hnone, List.getElem?_singleton, hlast]

theorem eraseDups_concat (values : List String) (value : String) :
    (values ++ [value]).eraseDups =
      if value ∈ values then values.eraseDups else values.eraseDups ++ [value] := by
  rw [List.eraseDups_append]
  split
  · next h => simp [List.removeAll, h]
  · next h => simp [List.removeAll, h, List.eraseDups_cons]

/-- Without repetitions, values stand in the order in which they are first seen. -/
theorem eraseDups_ordered (values : List String) :
    values.eraseDups.Pairwise fun v w => values.idxOf v < values.idxOf w := by
  induction values using List.reverseRecOn with
  | nil => exact List.Pairwise.nil
  | append_singleton values value ih =>
    have hkept : ∀ v ∈ values.eraseDups, (values ++ [value]).idxOf v = values.idxOf v :=
      fun v hv => List.idxOf_append_of_mem (List.mem_eraseDups.1 hv)
    have hold : values.eraseDups.Pairwise fun v w =>
        (values ++ [value]).idxOf v < (values ++ [value]).idxOf w := by
      refine ih.imp_of_mem fun hv hw hlt => ?_
      rwa [hkept _ hv, hkept _ hw]
    rw [eraseDups_concat]
    split
    · exact hold
    · next hnew =>
      refine List.pairwise_append.2 ⟨hold, List.pairwise_singleton _ _, ?_⟩
      intro v hv w hw
      rw [List.mem_singleton.1 hw, hkept v hv, List.idxOf_append_of_notMem hnew]
      exact Nat.lt_add_right _ (List.idxOf_lt_length_of_mem (List.mem_eraseDups.1 hv))

end FirstSeen

namespace Census

/-- A census of the values seen: each of them once, in the order in which they were first seen, with
its count, and the slot at which it stands. -/
structure Counts (c : Census) (seen : List String) : Prop where
  entries : c.counts.toList = seen.eraseDups.map fun v => (v, seen.count v)
  slots : ∀ (v : String) (i : Nat), c.slots[v]? = some i ↔ seen.eraseDups[i]? = some v

private theorem counts_empty : Census.empty.Counts [] where
  entries := rfl
  slots v i := by simp [empty]

variable {c : Census} {seen : List String} {value : String}

theorem counts_add_of_slot (h : c.Counts seen) {slot : Nat} (hslot : c.slots[value]? = some slot) :
    (c.add value).Counts (seen ++ [value]) := by
  have hvalue : seen.eraseDups[slot]? = some value := (h.slots value slot).1 hslot
  have hmem : value ∈ seen := List.mem_eraseDups.1 (List.mem_of_getElem? hvalue)
  have hadd : c.add value = { c with
      counts := c.counts.modify slot fun entry => (entry.1, entry.2 + 1) } := by
    simp only [add, hslot]
  rw [hadd]
  constructor
  · rw [eraseDups_concat, if_pos hmem, Array.toList_modify, h.entries]
    apply List.ext_getElem?
    intro i
    rw [List.getElem?_modify, List.getElem?_map, List.getElem?_map]
    cases hi : seen.eraseDups[i]? with
    | none => rfl
    | some v =>
      have hiff : slot = i ↔ value = v := by
        constructor
        · rintro rfl
          exact Option.some.inj (hvalue.symm.trans hi)
        · rintro rfl
          exact Option.some.inj (hslot.symm.trans ((h.slots value i).2 hi))
      by_cases hv : value = v
      · simp [hv, hiff]
      · simp [hv, hiff]
  · rw [eraseDups_concat, if_pos hmem]
    exact h.slots

/-- A value that has not been seen gets a slot behind the others. -/
theorem counts_add_of_new (h : c.Counts seen) (hslot : c.slots[value]? = none) :
    (c.add value).Counts (seen ++ [value]) := by
  have hnew : value ∉ seen := by
    intro hmem
    obtain ⟨i, hi⟩ := List.mem_iff_getElem?.1 (List.mem_eraseDups.2 hmem)
    rw [(h.slots value i).2 hi] at hslot
    cases hslot
  have hsize : c.counts.size = seen.eraseDups.length := by
    rw [← Array.length_toList, h.entries, List.length_map]
  have hadd : c.add value =
      ⟨c.slots.insert value c.counts.size, c.counts.push (value, 1)⟩ := by
    simp only [add, hslot]
  rw [hadd]
  constructor
  · rw [eraseDups_concat, if_neg hnew, Array.toList_push, h.entries, List.map_append]
    congr 1
    · refine List.map_congr_left fun v hv => ?_
      have hne : value ≠ v := by
        rintro rfl
        exact hnew (List.mem_eraseDups.1 hv)
      simp [hne]
    · simp [List.count_eq_zero_of_not_mem hnew]
  · intro v i
    rw [eraseDups_concat, if_neg hnew, Std.HashMap.getElem?_insert, hsize, getElem?_concat_eq_some]
    by_cases hv : value = v
    · have hnone : seen.eraseDups[i]? ≠ some value := fun hi =>
        hnew (List.mem_eraseDups.1 (List.mem_of_getElem? hi))
      simp [← hv, hnone, eq_comm]
    · simp [hv, h.slots v i]

private theorem counts_add (h : c.Counts seen) (value : String) :
    (c.add value).Counts (seen ++ [value]) := by
  cases hslot : c.slots[value]? with
  | some slot => exact counts_add_of_slot h hslot
  | none => exact counts_add_of_new h hslot

theorem counts_foldl (h : c.Counts seen) (values : List String) :
    (values.foldl add c).Counts (seen ++ values) := by
  induction values generalizing c seen with
  | nil => simpa using h
  | cons value values ih => simpa using ih (counts_add h value)

def Leads (entries : List (String × Nat)) (leader : String × Nat) : Prop :=
  ∃ front behind, entries = front ++ leader :: behind ∧ (∀ e ∈ front, e.2 < leader.2) ∧
    ∀ e ∈ behind, e.2 ≤ leader.2

variable {entries : List (String × Nat)} {leader : String × Nat}

/-- One more entry leaves the leader, or is greater than all entries before it. -/
theorem leads_lead (h : Leads entries leader) (entry : String × Nat) :
    ∃ next, lead (some leader) entry = some next ∧ Leads (entries ++ [entry]) next := by
  obtain ⟨front, behind, rfl, hfront, hbehind⟩ := h
  by_cases hgreater : entry.2 > leader.2
  · refine ⟨entry, if_pos hgreater, front ++ leader :: behind, [], rfl, ?_, by simp⟩
    intro e he
    rcases List.mem_append.1 he with he | he
    · exact Nat.lt_trans (hfront e he) hgreater
    · rcases List.mem_cons.1 he with rfl | he
      · exact hgreater
      · exact Nat.lt_of_le_of_lt (hbehind e he) hgreater
  · refine ⟨leader, if_neg hgreater, front, behind ++ [entry], by simp, hfront, ?_⟩
    intro e he
    rcases List.mem_append.1 he with he | he
    · exact hbehind e he
    · rw [List.mem_singleton.1 he]
      exact Nat.le_of_not_lt hgreater

private theorem leads_foldl (h : Leads entries leader) (more : List (String × Nat)) :
    ∃ next, more.foldl lead (some leader) = some next ∧ Leads (entries ++ more) next := by
  induction more generalizing entries leader with
  | nil => exact ⟨leader, rfl, by simpa using h⟩
  | cons entry more ih =>
    obtain ⟨next, hnext, hleads⟩ := leads_lead h entry
    obtain ⟨last, hlast, hleads⟩ := ih hleads
    exact ⟨last, by rw [List.foldl_cons, hnext, hlast], by simpa using hleads⟩

/-- The leader among all values and their counts is the mode. -/
theorem isMode_of_leads {values : List String}
    (h : Leads (values.eraseDups.map fun v => (v, values.count v)) leader) :
    IsMode values leader.1 := by
  obtain ⟨front, behind, hentries, hfront, hbehind⟩ := h
  obtain ⟨firsts, others, hsplit, rfl, hothers⟩ := List.map_eq_append_iff.1 hentries
  obtain ⟨v, lasts, rfl, rfl, rfl⟩ := List.map_eq_cons_iff.1 hothers
  have hfewer : ∀ w ∈ firsts, values.count w < values.count v := fun w hw =>
    hfront _ (List.mem_map_of_mem hw)
  have hnomore : ∀ w ∈ lasts, values.count w ≤ values.count v := fun w hw =>
    hbehind _ (List.mem_map_of_mem hw)
  have hcases : ∀ w ∈ values, w ∈ firsts ∨ w = v ∨ w ∈ lasts := by
    intro w hw
    simpa [hsplit] using List.mem_eraseDups.2 hw
  have hlater : ∀ w ∈ lasts, values.idxOf v < values.idxOf w := by
    have hordered := eraseDups_ordered values
    rw [hsplit, List.pairwise_append, List.pairwise_cons] at hordered
    exact hordered.2.1.1
  refine ⟨List.mem_eraseDups.1 (by simp [hsplit]), fun w => ?_, fun w hw hcount => ?_⟩
  · by_cases hw : w ∈ values
    · rcases hcases w hw with hw | rfl | hw
      · exact Nat.le_of_lt (hfewer w hw)
      · exact Nat.le_refl _
      · exact hnomore w hw
    · rw [List.count_eq_zero_of_not_mem hw]
      exact Nat.zero_le _
  · rcases hcases w hw with hw | rfl | hw
    · exact absurd hcount (Nat.ne_of_lt (hfewer w hw))
    · exact Nat.le_refl _
    · exact Nat.le_of_lt (hlater w hw)

end Census

private theorem isMode_mode {values : List String} (h : values ≠ []) :
    ∃ v, mode values = some v ∧ IsMode values v := by
  have hcounts := Census.counts_foldl Census.counts_empty values
  rw [List.nil_append] at hcounts
  obtain ⟨first, hfirst⟩ := List.exists_mem_of_ne_nil values h
  have hlisted := List.mem_eraseDups.2 hfirst
  have hentries := hcounts.entries
  cases hfirsts : values.eraseDups with
  | nil => simp [hfirsts] at hlisted
  | cons v others =>
    rw [hfirsts, List.map_cons] at hentries
    have hstart : Census.Leads [(v, values.count v)] (v, values.count v) :=
      ⟨[], [], rfl, by simp, by simp⟩
    obtain ⟨leader, hleader, hleads⟩ := Census.leads_foldl hstart
      (others.map fun v => (v, values.count v))
    refine ⟨leader.1, ?_, Census.isMode_of_leads (by rw [hfirsts]; exact hleads)⟩
    rw [mode, ← Array.foldl_toList, hentries, List.foldl_cons]
    exact congrArg (Option.map Prod.fst) hleader

/-- The mode of values is missing if there are none; else it is the value that no other one exceeds
in number and that, of those as frequent, occurs first. -/
theorem mode_of_values (values : List String) :
    (mode values = none ↔ values = []) ∧
      ∀ v, mode values = some v ↔ v ∈ values ∧ (∀ w, values.count w ≤ values.count v) ∧
        ∀ w ∈ values, values.count w = values.count v → values.idxOf v ≤ values.idxOf w := by
  by_cases h : values = []
  · subst h
    have hnone : mode [] = none := rfl
    simp [hnone]
  · obtain ⟨u, hu, hmode⟩ := isMode_mode h
    refine ⟨by simp [hu, h], fun v => ?_⟩
    rw [hu, Option.some.injEq]
    constructor
    · rintro rfl
      exact ⟨hmode.mem, hmode.most, hmode.first⟩
    · rintro ⟨hmem, hmost, hfirst⟩
      exact hmode.eq ⟨hmem, hmost, hfirst⟩

/-- Of two values that occur twice, the one seen first. -/
example : mode ["b", "a", "a", "b", "c"] = some "b" := by
  cbv

end TableAudit
