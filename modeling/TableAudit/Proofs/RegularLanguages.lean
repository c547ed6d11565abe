import Mathlib.Computability.Language
import TableAudit.Text.Regular

/-!
# The language of a regular expression

Every expression describes a language, and matching decides it: behind a character stand the texts
that continue the character in the language, and dropping parts that add nothing does not change it.
-/

namespace TableAudit.Text

open scoped Computability

section Words

variable {l m : Language Char} {c : Char} {cs : List Char}

theorem nil_mem_mul : [] ∈ l * m ↔ [] ∈ l ∧ [] ∈ m := by
  rw [Language.mem_mul]
  constructor
  · rintro ⟨a, ha, b, hb, hab⟩
    obtain ⟨rfl, rfl⟩ := List.append_eq_nil_iff.1 hab
    exact ⟨ha, hb⟩
  · rintro ⟨hl, hm⟩
    exact ⟨[], hl, [], hm, rfl⟩

/-- A character that starts a product starts its first factor, or its second one where the first
one is empty. -/
theorem cons_mem_mul :
    c :: cs ∈ l * m ↔ (∃ a, c :: a ∈ l ∧ ∃ b ∈ m, a ++ b = cs) ∨ [] ∈ l ∧ c :: cs ∈ m := by
  rw [Language.mem_mul]
  constructor
  · rintro ⟨a, ha, b, hb, hab⟩
    cases a with
    | nil => exact .inr ⟨ha, hab ▸ hb⟩
    | cons d a =>
      cases hab
      exact .inl ⟨a, ha, b, hb, rfl⟩
  · rintro (⟨a, ha, b, hb, rfl⟩ | ⟨hl, hm⟩)
    · exact ⟨c :: a, ha, b, hb, rfl⟩
    · exact ⟨[], hl, c :: cs, hm, rfl⟩

/-- A character that starts a repetition starts the first text in it that is not empty. -/
theorem cons_mem_kstar : c :: cs ∈ l∗ ↔ ∃ a, c :: a ∈ l ∧ ∃ b ∈ l∗, a ++ b = cs := by
  constructor
  · rw [Language.mem_kstar_iff_exists_nonempty]
    rintro ⟨words, hwords, hl⟩
    cases words with
    | nil => cases hwords
    | cons word words =>
      obtain ⟨hword, hne⟩ := hl word List.mem_cons_self
      obtain ⟨d, a, rfl⟩ := List.exists_cons_of_ne_nil hne
      rw [List.flatten_cons, List.cons_append] at hwords
      cases hwords
      exact ⟨a, hword, words.flatten,
        Language.join_mem_kstar fun w hw => (hl w (List.mem_cons_of_mem _ hw)).1, rfl⟩
  · rintro ⟨a, ha, b, hb, rfl⟩
    rw [← one_add_mul_kstar, Language.mem_add]
    exact .inr (Language.append_mem_mul ha hb)

theorem mem_mul_kstar :
    cs ∈ l * l∗ ↔ ∃ words, words ≠ [] ∧ (∀ word ∈ words, word ∈ l) ∧ cs = words.flatten := by
  constructor
  · rintro ⟨first, hfirst, _, ⟨rest, rfl, hrest⟩, rfl⟩
    exact ⟨first :: rest, by simp, List.forall_mem_cons.2 ⟨hfirst, hrest⟩, rfl⟩
  · rintro ⟨words, hne, hwords, rfl⟩
    obtain ⟨first, rest, rfl⟩ := List.exists_cons_of_ne_nil hne
    obtain ⟨hfirst, hrest⟩ := List.forall_mem_cons.1 hwords
    exact Language.append_mem_mul hfirst (Language.join_mem_kstar hrest)

end Words

def single (p : Char → Bool) : Language Char := {cs | ∃ c, p c = true ∧ cs = [c]}

theorem mem_single {p : Char → Bool} {cs : List Char} :
    cs ∈ single p ↔ ∃ c, p c = true ∧ cs = [c] := Iff.rfl

namespace Regular

def language : Regular → Language Char
  | never => 0
  | empty => 1
  | char p => single p
  | seq a b => a.language * b.language
  | alt a b => a.language + b.language
  | many a => a.language∗

@[simp] theorem language_andThen (a b : Regular) :
    (a.andThen b).language = a.language * b.language := by
  cases a <;> simp [andThen, language]

@[simp] theorem language_orElse (a b : Regular) :
    (a.orElse b).language = a.language + b.language := by
  cases a <;> cases b <;> simp only [orElse, language, zero_add, add_zero]

theorem acceptsEmpty_iff (r : Regular) : r.acceptsEmpty = true ↔ [] ∈ r.language := by
  induction r with
  | never => simp [acceptsEmpty, language]
  | empty => simp [acceptsEmpty, language]
  | char p => simp [acceptsEmpty, language, mem_single]
  | seq a b iha ihb => simp [acceptsEmpty, language, nil_mem_mul, iha, ihb]
  | alt a b iha ihb =>
    simp only [acceptsEmpty, language, Language.mem_add, ← iha, ← ihb, Bool.or_eq_true]
  | many a => simp [acceptsEmpty, language, Language.nil_mem_kstar]

theorem mem_language_behind {r : Regular} {c : Char} {cs : List Char} :
    cs ∈ (r.behind c).language ↔ c :: cs ∈ r.language := by
  induction r generalizing cs with
  | never => simp [behind, language]
  | empty => simp [behind, language]
  | char p =>
    rw [behind, language, mem_single]
    by_cases hp : p c = true <;> simp [hp, language]
  | seq a b iha ihb =>
    have hrest : cs ∈ ((a.behind c).andThen b).language ↔
        ∃ d, c :: d ∈ a.language ∧ ∃ e ∈ b.language, d ++ e = cs := by
      simp only [language_andThen, Language.mem_mul, iha]
    rw [language, cons_mem_mul, behind]
    split
    · next ha =>
      rw [language_orElse, Language.mem_add, hrest, ihb]
      simp only [(acceptsEmpty_iff a).1 ha, true_and]
    · next ha =>
      rw [hrest]
      simp only [mt (acceptsEmpty_iff a).2 ha, false_and, or_false]
  | alt a b iha ihb => simp only [behind, language_orElse, language, Language.mem_add, iha, ihb]
  | many a ih =>
    simp only [behind, language_andThen, language, Language.mem_mul, ih, cons_mem_kstar]

/-- Matching decides the language. -/
theorem accepts_iff (r : Regular) (cs : List Char) : r.accepts cs = true ↔ cs ∈ r.language := by
  induction cs generalizing r with
  | nil => exact acceptsEmpty_iff r
  | cons c cs ih =>
    have hstep : r.accepts (c :: cs) = (r.behind c).accepts cs := rfl
    rw [hstep, ih, mem_language_behind]

theorem language_oneOrMore (a : Regular) :
    (oneOrMore a).language = a.language * a.language∗ := rfl

end Regular

/-- Repeating single characters of a kind gives the texts of that kind. -/
theorem mem_kstar_single {p : Char → Bool} {cs : List Char} :
    cs ∈ (single p)∗ ↔ ∀ c ∈ cs, p c = true := by
  induction cs with
  | nil => simp [Language.nil_mem_kstar]
  | cons c cs ih =>
    rw [cons_mem_kstar, List.forall_mem_cons, ← ih]
    constructor
    · rintro ⟨a, ⟨d, hd, ha⟩, b, hb, rfl⟩
      cases ha
      exact ⟨hd, hb⟩
    · rintro ⟨hc, hcs⟩
      exact ⟨[], ⟨c, hc, rfl⟩, cs, hcs, rfl⟩

theorem mem_single_mul_kstar {p : Char → Bool} {cs : List Char} :
    cs ∈ single p * (single p)∗ ↔ cs ≠ [] ∧ ∀ c ∈ cs, p c = true := by
  cases cs with
  | nil => simp [nil_mem_mul, mem_single]
  | cons c cs =>
    have hstart : c :: cs ∈ single p * (single p)∗ ↔ c :: cs ∈ (single p)∗ := by
      rw [cons_mem_mul, cons_mem_kstar]
      simp [mem_single]
    rw [hstart, mem_kstar_single]
    simp

end TableAudit.Text
