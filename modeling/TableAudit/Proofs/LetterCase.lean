import TableAudit.Text.Case

/-!
# Small letters

The small form of a character is the character itself, or the image of a run that covers it, or the
two characters of the dotted capital I. No run covers the image of another one, so all of these are
their own small forms.
-/

namespace TableAudit.Text

open CaseTable

namespace CaseTable.Run

variable {r q : Run} {n : Nat}

def image (r : Run) (n : Nat) : Nat := (n + r.shift).toNat

/-- Whether the images of a run can be seen to be no code points of another: they lie in front of
them or behind them, or both take every second code point and differ in parity. There are many pairs
of runs, so the comparisons are those that the kernel computes. -/
def misses (r q : Run) : Bool :=
  Nat.blt (r.image r.last) q.first || Nat.blt q.last (r.image r.first) ||
    ((r.step == 2 || r.first == r.last) && q.step == 2 && (r.image r.first + q.first) % 2 == 1)

theorem covers_iff :
    r.covers n = true ↔ r.first ≤ n ∧ n ≤ r.last ∧ (n - r.first) % r.step = 0 := by
  simp [covers, and_assoc]

/-- The image of what a run covers lies between the images of its ends. -/
theorem image_mem (h : r.covers n = true) :
    r.image r.first ≤ r.image n ∧ r.image n ≤ r.image r.last := by
  obtain ⟨hfirst, hlast, -⟩ := covers_iff.1 h
  unfold image
  omega

private theorem not_covers_image (hpos : 0 < r.image r.first) (hmiss : r.misses q = true)
    (hn : r.covers n = true) : ¬ q.covers (r.image n) = true := by
  obtain ⟨hlow, hhigh⟩ := image_mem hn
  obtain ⟨hfirst, hlast, hstep⟩ := covers_iff.1 hn
  rw [covers_iff]
  rintro ⟨hfirst', hlast', hstep'⟩
  simp only [misses, Bool.or_eq_true, Bool.and_eq_true, Nat.blt_eq, beq_iff_eq] at hmiss
  rcases hmiss with (hfront | hbehind) | ⟨⟨hstride, htwo⟩, hodd⟩
  · omega
  · omega
  · have himage : r.image n = r.image r.first + (n - r.first) := by
      unfold image at hpos ⊢
      omega
    rw [htwo] at hstep'
    rcases hstride with htwo' | hsingle
    · rw [htwo'] at hstep
      omega
    · omega

end CaseTable.Run

def dottedI : Run := ⟨0x130, 0x130, 1, 0⟩

/-- What the table of small forms promises: images are characters, and no run covers them. -/
structure CaseTable.Run.IsFinal (r : Run) : Prop where
  pos : 0 < r.image r.first
  valid : r.image r.last < 0xd800 ∨ 0xdfff < r.image r.first ∧ r.image r.last < 0x110000
  misses : ∀ q ∈ lowerRuns, r.misses q = true
  misses_dottedI : r.misses dottedI = true

theorem isFinal_of_mem {r : Run} (h : r ∈ lowerRuns) : r.IsFinal := by
  have hvalid : ∀ r ∈ lowerRuns, 0 < r.image r.first ∧
      (r.image r.last < 0xd800 ∨ 0xdfff < r.image r.first ∧ r.image r.last < 0x110000) := by
    decide +kernel
  have hmisses : ∀ r ∈ lowerRuns, (dottedI :: lowerRuns).all r.misses = true := by decide +kernel
  obtain ⟨hdotted, hall⟩ := List.forall_mem_cons.1 (List.all_eq_true.1 (hmisses r h))
  exact ⟨(hvalid r h).1, (hvalid r h).2, hall, hdotted⟩

theorem CaseTable.Run.IsFinal.toNat_image {r : Run} (h : r.IsFinal) {n : Nat}
    (hn : r.covers n = true) : (Char.ofNat (r.image n)).toNat = r.image n := by
  obtain ⟨hlow, hhigh⟩ := Run.image_mem hn
  have hvalid : (r.image n).isValidChar := by
    rcases h.valid with hsmall | ⟨hbehind, hlarge⟩
    · exact .inl (by omega)
    · exact .inr ⟨by omega, by omega⟩
  rw [Char.ofNat, dif_pos hvalid]
  rfl

theorem toNat_toLower (c : Char) :
    c.toLower.toNat = if 65 ≤ c.toNat ∧ c.toNat ≤ 90 then c.toNat + 32 else c.toNat := by
  have hcond : (c.val ≥ 'A'.val ∧ c.val ≤ 'Z'.val) ↔ 65 ≤ c.toNat ∧ c.toNat ≤ 90 := by
    simp [UInt32.le_iff_toNat_le]
  unfold Char.toLower
  split
  · next h =>
    rw [if_pos (hcond.1 h)]
    obtain ⟨-, hlast⟩ := hcond.1 h
    simp only [Char.toNat] at hlast ⊢
    rw [UInt32.toNat_add, Nat.mod_eq_of_lt]
    · rfl
    · have : ('a'.val - 'A'.val).toNat = 32 := rfl
      omega
  · next h => rw [if_neg (mt hcond.2 h)]

theorem lowerChar_cases (c : Char) :
    lowerChar c = [c] ∨
      (∃ r ∈ lowerRuns, r.covers c.toNat = true ∧ lowerChar c = [Char.ofNat (r.image c.toNat)]) ∨
      c = 'İ' ∧ lowerChar c = ['i', '\u0307'] := by
  unfold lowerChar
  split
  · next hascii =>
    by_cases hcapital : 65 ≤ c.toNat ∧ c.toNat ≤ 90
    · refine .inr (.inl ⟨⟨0x41, 0x5a, 1, 32⟩, .head _, ?_, ?_⟩)
      · exact Run.covers_iff.2 ⟨hcapital.1, hcapital.2, Nat.mod_one _⟩
      · have hlower := toNat_toLower c
        rw [if_pos hcapital] at hlower
        rw [← Char.ofNat_toNat c.toLower, hlower]
        rfl
    · have hlower := toNat_toLower c
      rw [if_neg hcapital, Char.toNat_inj] at hlower
      exact .inl (by rw [hlower])
  · unfold mapped
    split
    · next n cs hfind =>
      have hmem := List.mem_of_find?_eq_some hfind
      have hnat : n = c.toNat := by simpa using List.find?_some hfind
      obtain ⟨rfl, rfl⟩ : n = 0x130 ∧ cs = [0x69, 0x307] := by
        simpa [lowerExpansions] using hmem
      refine .inr (.inr ⟨?_, rfl⟩)
      rw [← Char.toNat_inj, ← hnat]
      rfl
    · split
      · next r hfind =>
        have hcovers : r.covers c.toNat = true := by simpa using List.find?_some hfind
        exact .inr (.inl ⟨r, List.mem_of_find?_eq_some hfind, hcovers, rfl⟩)
      · exact .inl rfl

/-- Where a character of the small form comes from. -/
theorem mem_lowerChar_cases {c d : Char} (h : d ∈ lowerChar c) :
    d = c ∧ lowerChar c = [c] ∨
      (∃ r ∈ lowerRuns, r.covers c.toNat = true ∧ d.toNat = r.image c.toNat) ∨
      d = 'i' ∨ d = '\u0307' := by
  rcases lowerChar_cases c with heq | ⟨r, hr, hcovers, heq⟩ | ⟨-, heq⟩
  · rw [heq, List.mem_singleton] at h
    exact .inl ⟨h, heq⟩
  · rw [heq, List.mem_singleton] at h
    exact .inr (.inl ⟨r, hr, hcovers, by rw [h, (isFinal_of_mem hr).toNat_image hcovers]⟩)
  · exact .inr (.inr (by simpa [heq] using h))

private theorem lowerChar_eq_self {c : Char} (hruns : ∀ r ∈ lowerRuns, ¬ r.covers c.toNat = true)
    (hdotted : ¬ dottedI.covers c.toNat = true) : lowerChar c = [c] := by
  rcases lowerChar_cases c with h | ⟨r, hr, hcovers, -⟩ | ⟨rfl, -⟩
  · exact h
  · exact (hruns r hr hcovers).elim
  · exact (hdotted (by decide)).elim

/-- What a character becomes in small letters are small letters. -/
theorem lowerChar_of_mem {c d : Char} (h : d ∈ lowerChar c) : lowerChar d = [d] := by
  rcases mem_lowerChar_cases h with ⟨rfl, heq⟩ | ⟨r, hr, hcovers, hnat⟩ | rfl | rfl
  · exact heq
  · have hfinal := isFinal_of_mem hr
    apply lowerChar_eq_self
    · intro q hq
      rw [hnat]
      exact Run.not_covers_image hfinal.pos (hfinal.misses q hq) hcovers
    · rw [hnat]
      exact Run.not_covers_image hfinal.pos hfinal.misses_dottedI hcovers
  · decide
  · decide +kernel

theorem lowerChar_of_ascii {c : Char} (h : c.toNat < 128) : lowerChar c = [c.toLower] := if_pos h

/-- Nothing but ASCII becomes ASCII letters, apart from the Kelvin sign, which becomes a `k`. -/
theorem ascii_of_lowerChar {c : Char} (h : ∀ d ∈ lowerChar c, d.toNat < 128 ∧ d ≠ 'k') :
    c.toNat < 128 := by
  have hruns : ∀ r ∈ lowerRuns, r.last < 128 ∨ 128 ≤ r.image r.first ∨
      r.first = r.last ∧ r.image r.first = 'k'.toNat := by
    decide +kernel
  rcases lowerChar_cases c with heq | ⟨r, hr, hcovers, heq⟩ | ⟨-, heq⟩
  · exact (h c (by simp [heq])).1
  · have himage := (isFinal_of_mem hr).toNat_image hcovers
    obtain ⟨hsmall, hk⟩ := h _ (heq ▸ List.mem_singleton_self _)
    rw [ne_eq, ← Char.toNat_inj, himage] at hk
    rw [himage] at hsmall
    obtain ⟨hlow, -⟩ := Run.image_mem hcovers
    obtain ⟨hfirst, hlast, -⟩ := Run.covers_iff.1 hcovers
    rcases hruns r hr with hascii | hbehind | ⟨hsingle, hkelvin⟩
    · omega
    · omega
    · have heq : c.toNat = r.first := by omega
      exact (hk (heq ▸ hkelvin)).elim
  · have hdot := h '\u0307' (by simp [heq])
    exact absurd hdot.1 (by decide)

theorem ascii_of_toLower {c : Char} (h : c.toLower.toNat < 128) : c.toNat < 128 := by
  have hlower := toNat_toLower c
  split at hlower <;> omega

end TableAudit.Text
