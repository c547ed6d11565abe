import Mathlib.Data.List.TakeWhile
import TableAudit.Text.Pieces

/-!
# The ends of stripped texts

Stripping takes from both ends of a text what satisfies a predicate, and nothing if neither end
does. A stripped text neither starts nor ends with what was stripped.
-/

namespace TableAudit.Text

variable {p : Char → Bool} {c : Char} {cs : List Char}

theorem prefix_of_stripEnds (p : Char → Bool) (cs : List Char) :
    stripEnds p cs <+: cs.dropWhile p := by
  have hsuffix := List.dropWhile_suffix p (l := (cs.dropWhile p).reverse)
  simpa [stripEnds] using List.reverse_prefix.2 hsuffix

theorem infix_of_stripEnds (p : Char → Bool) (cs : List Char) : stripEnds p cs <:+: cs :=
  (prefix_of_stripEnds p cs).isInfix.trans (List.dropWhile_suffix p).isInfix

theorem head_stripEnds {rest : List Char} (h : stripEnds p cs = c :: rest) : p c = false := by
  obtain ⟨more, hmore⟩ := h ▸ prefix_of_stripEnds p cs
  have hne : cs.dropWhile p ≠ [] := by simp [← hmore]
  have hhead := List.head_dropWhile_not p hne
  simp only [← hmore] at hhead
  exact hhead

theorem not_of_head?_dropWhile (h : c ∈ (cs.dropWhile p).head?) : p c = false := by
  have hhead := List.head?_dropWhile_not p cs
  rw [Option.mem_def] at h
  simpa [h] using hhead

theorem dropWhile_eq_self (h : ∀ c ∈ cs.head?, p c = false) : cs.dropWhile p = cs := by
  cases cs with
  | nil => rfl
  | cons d cs =>
    have hd := h d rfl
    exact List.dropWhile_cons_of_neg (by simp [hd])

theorem not_of_head?_stripEnds (h : c ∈ (stripEnds p cs).head?) : p c = false := by
  cases hs : stripEnds p cs with
  | nil => simp [hs] at h
  | cons d rest =>
    rw [hs] at h
    cases h
    exact head_stripEnds hs

theorem getLast?_stripEnds :
    (stripEnds p cs).getLast? = ((cs.dropWhile p).reverse.dropWhile p).head? := by
  rw [stripEnds, List.getLast?_reverse]

theorem not_of_getLast?_stripEnds (h : c ∈ (stripEnds p cs).getLast?) : p c = false :=
  not_of_head?_dropWhile (getLast?_stripEnds ▸ h)

/-- The start of a text stays its start unless it is stripped. -/
theorem head?_of_stripEnds (h : c ∈ (stripEnds p cs).head?) :
    c ∈ cs.head? ∨ ∃ d ∈ cs.head?, p d = true := by
  cases cs with
  | nil => cases h
  | cons d cs =>
    cases hd : p d with
    | true => exact .inr ⟨d, rfl, hd⟩
    | false =>
      obtain ⟨more, hmore⟩ := prefix_of_stripEnds p (d :: cs)
      rw [dropWhile_eq_self (by simpa using hd)] at hmore
      cases hs : stripEnds p (d :: cs) with
      | nil => simp [hs] at h
      | cons e rest =>
        rw [hs] at h hmore
        cases h
        cases hmore
        exact .inl rfl

theorem getLast?_of_stripEnds (h : c ∈ (stripEnds p cs).getLast?) :
    c ∈ cs.getLast? ∨ ∃ d ∈ cs.getLast?, p d = true := by
  rw [getLast?_stripEnds] at h
  have hne : cs.dropWhile p ≠ [] := by
    intro he
    simp [he] at h
  have hlast : (cs.dropWhile p).reverse.head? = cs.getLast? := by
    have hsuffix := List.dropWhile_suffix p (l := cs)
    rw [List.head?_reverse, List.getLast?_eq_some_getLast hne, hsuffix.getLast hne,
      ← List.getLast?_eq_some_getLast]
  cases hd : cs.getLast? with
  | none =>
    rw [List.getLast?_eq_none_iff.1 hd] at hne
    exact (hne rfl).elim
  | some d =>
    rw [hd] at hlast
    cases hp : p d with
    | true => exact .inr ⟨d, rfl, hp⟩
    | false =>
      rw [dropWhile_eq_self (by simpa [hlast] using hp), hlast] at h
      exact .inl h

theorem exists_stripEnds_append {front : List Char} (hc : p c = false)
    (hfront : ∀ d ∈ (front ++ [c]).head?, p d = false) (rest : List Char) :
    ∃ rest', stripEnds p (front ++ c :: rest) = front ++ c :: rest' := by
  have hstart : (front ++ c :: rest).dropWhile p = front ++ c :: rest := by
    apply dropWhile_eq_self
    cases front <;> exact hfront
  have hstop : (c :: front.reverse).dropWhile p = c :: front.reverse := by simp [hc]
  refine ⟨(rest.reverse.dropWhile p).reverse, ?_⟩
  rw [stripEnds, hstart, List.reverse_append, List.reverse_cons, List.append_assoc,
    List.singleton_append, List.dropWhile_append, hstop]
  split
  · next h => simp [List.isEmpty_iff.1 h]
  · simp

theorem stripEnds_eq_self (hstart : ∀ c ∈ cs.head?, p c = false)
    (hstop : ∀ c ∈ cs.getLast?, p c = false) : stripEnds p cs = cs := by
  have hreverse : ∀ c ∈ cs.reverse.head?, p c = false := by rwa [List.head?_reverse]
  rw [stripEnds, dropWhile_eq_self hstart, dropWhile_eq_self hreverse, List.reverse_reverse]

theorem stripEnds_append {before after : List Char} (hbefore : ∀ c ∈ before, p c = true)
    (hafter : ∀ c ∈ after, p c = true) : stripEnds p (before ++ cs ++ after) = stripEnds p cs := by
  have hreverse : ∀ c ∈ after.reverse, p c = true := fun c hc => hafter c (List.mem_reverse.1 hc)
  rw [stripEnds, stripEnds, List.append_assoc, List.dropWhile_append_of_pos hbefore,
    List.dropWhile_append]
  split
  · next h => rw [List.isEmpty_iff.1 h, List.dropWhile_eq_nil_iff.2 hafter]
  · rw [List.reverse_append, List.dropWhile_append_of_pos hreverse]

theorem mem_stripEnds (hc : p c = false) (h : c ∈ cs) : c ∈ stripEnds p cs := by
  have hdrop : ∀ {cs : List Char}, c ∈ cs → c ∈ cs.dropWhile p := by
    intro cs h
    rw [← List.takeWhile_append_dropWhile (p := p) (l := cs), List.mem_append] at h
    rcases h with htake | hdrop
    · simp [List.mem_takeWhile_imp htake] at hc
    · exact hdrop
  exact List.mem_reverse.2 (hdrop (List.mem_reverse.2 (hdrop h)))

theorem trim_eq_self {s : String} (hstart : ∀ c ∈ s.toList.head?, isBlank c = false)
    (hstop : ∀ c ∈ s.toList.getLast?, isBlank c = false) : trim s = s := by
  rw [trim, stripEnds_eq_self hstart hstop, String.ofList_toList]

end TableAudit.Text
