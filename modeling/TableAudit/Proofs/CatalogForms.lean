import Mathlib.Data.List.Forall2
import TableAudit.Check.Evaluate
import TableAudit.Proofs.LetterCase
import TableAudit.Proofs.Skipping
import TableAudit.Proofs.StorageTypes
import TableAudit.Proofs.Stripping

/-!
# The form of catalog values

The form in which catalog values are compared is its own form, but for one character. Accents are
dropped before letters become small, and the Angstrom sign is no accented letter itself but becomes
one when it becomes small. Two passes treat it as the letter that it looks like.

So values and cells may be given in their form wherever they are without that sign.
-/

namespace TableAudit.RowCheck

open Text

def accented : List Char :=
  ['á', 'à', 'ä', 'â', 'ã', 'å', 'Á', 'À', 'Ä', 'Â', 'Ã', 'Å', 'é', 'è', 'ë', 'ê', 'É', 'È', 'Ë',
   'Ê', 'í', 'ì', 'ï', 'î', 'Í', 'Ì', 'Ï', 'Î', 'ó', 'ò', 'ö', 'ô', 'õ', 'Ó', 'Ò', 'Ö', 'Ô', 'Õ',
   'ú', 'ù', 'ü', 'û', 'Ú', 'Ù', 'Ü', 'Û', 'ñ', 'Ñ', 'ç', 'Ç']

/-- What a character contributes to the form of a text. -/
def formOf (c : Char) : List Char := lowerChar (withoutAccent c)

section Characters

variable {c d : Char}

theorem withoutAccent_eq_self (h : c ∉ accented) : withoutAccent c = c := by
  unfold withoutAccent
  split
  case h_51 => rfl
  all_goals exact (h (by decide)).elim

theorem isAlpha_withoutAccent (h : c ∈ accented) : (withoutAccent c).isAlpha = true := by
  have hall : accented.all (fun c => (withoutAccent c).isAlpha) = true := by decide
  exact List.all_eq_true.1 hall c h

private theorem not_accented_of_isAlpha (h : c.isAlpha = true) : c ∉ accented := by
  have hall : accented.all (fun c => !c.isAlpha) = true := by decide
  intro hc
  have hc := List.all_eq_true.1 hall c hc
  simp [h] at hc

private theorem not_accented_withoutAccent (c : Char) : withoutAccent c ∉ accented := by
  by_cases h : c ∈ accented
  · exact not_accented_of_isAlpha (isAlpha_withoutAccent h)
  · rwa [withoutAccent_eq_self h]

/-- Only accented letters and the Angstrom sign become accented letters when they become small. -/
theorem not_accented_of_mem_lowerChar (hc : c ∉ accented) (hsign : c ≠ '\u212b')
    (hd : d ∈ lowerChar c) : d ∉ accented := by
  have hruns : ∀ r ∈ CaseTable.lowerRuns, ∀ n ∈ accented.map Char.toNat,
      r.covers (n - r.shift).toNat = true →
        (n - r.shift).toNat ∈ ('\u212b' :: accented).map Char.toNat := by
    decide +kernel
  rcases mem_lowerChar_cases hd with ⟨rfl, -⟩ | ⟨r, hr, hcovers, hnat⟩ | rfl | rfl
  · exact hc
  · intro ha
    have hback : ((d.toNat : Int) - r.shift).toNat = c.toNat := by
      have hpos := (isFinal_of_mem hr).pos
      have hlow := (CaseTable.Run.image_mem hcovers).1
      rw [hnat]
      unfold CaseTable.Run.image at hpos hlow ⊢
      omega
    have hmem := hruns r hr d.toNat (List.mem_map_of_mem ha)
    rw [hback] at hmem
    obtain ⟨e, he, hec⟩ := List.mem_map.1 (hmem hcovers)
    rw [Char.toNat_inj] at hec
    subst hec
    rcases List.mem_cons.1 he with h | h
    · exact hsign h
    · exact hc h
  · decide
  · decide

theorem not_accented_of_mem_formOf (hsign : c ≠ '\u212b') (hd : d ∈ formOf c) : d ∉ accented := by
  refine not_accented_of_mem_lowerChar (not_accented_withoutAccent c) ?_ hd
  by_cases h : c ∈ accented
  · intro he
    have halpha := isAlpha_withoutAccent h
    rw [he] at halpha
    simp at halpha
  · rwa [withoutAccent_eq_self h]

theorem lowerChar_of_mem_formOf (hd : d ∈ formOf c) : lowerChar d = [d] := lowerChar_of_mem hd

private theorem formOf_of_mem (hsign : c ≠ '\u212b') (hd : d ∈ formOf c) : formOf d = [d] := by
  rw [formOf, withoutAccent_eq_self (not_accented_of_mem_formOf hsign hd),
    lowerChar_of_mem_formOf hd]

private theorem formOf_sign : formOf '\u212b' = ['å'] := by decide +kernel

private theorem ne_sign_of_mem_formOf (hd : d ∈ formOf c) : d ≠ '\u212b' := by
  rintro rfl
  have hsmall := lowerChar_of_mem_formOf hd
  revert hsmall
  decide +kernel

theorem formOf_ne_nil (c : Char) : formOf c ≠ [] := by
  rcases lowerChar_cases (withoutAccent c) with heq | ⟨r, -, -, heq⟩ | ⟨-, heq⟩ <;>
    simp [formOf, heq]

/-- The images of the runs lie in the gaps between the blanks. -/
theorem isBlank_lowerChar (hc : isBlank c = false) (hd : d ∈ lowerChar c) :
    isBlank d = false := by
  have hgaps : ∀ r ∈ CaseTable.lowerRuns,
      0x20 < r.image r.first ∧ r.image r.last < 0x85 ∨
      0xa0 < r.image r.first ∧ r.image r.last < 0x1680 ∨
      0x1680 < r.image r.first ∧ r.image r.last < 0x2000 ∨
      0x205f < r.image r.first ∧ r.image r.last < 0x3000 ∨ 0x3000 < r.image r.first := by
    decide +kernel
  rcases mem_lowerChar_cases hd with ⟨rfl, -⟩ | ⟨r, hr, hcovers, hnat⟩ | rfl | rfl
  · exact hc
  · obtain ⟨hlow, hhigh⟩ := CaseTable.Run.image_mem hcovers
    have hgap := hgaps r hr
    simp only [isBlank, hnat, Bool.or_eq_false_iff, Bool.and_eq_false_iff, decide_eq_false_iff_not,
      beq_eq_false_iff_ne]
    omega
  · decide
  · decide

private theorem isBlank_formOf (hc : isBlank c = false) (hd : d ∈ formOf c) :
    isBlank d = false := by
  have hplain : accented.all (fun c => !isBlank (withoutAccent c)) = true := by decide
  refine isBlank_lowerChar ?_ hd
  by_cases h : c ∈ accented
  · simpa using List.all_eq_true.1 hplain c h
  · rwa [withoutAccent_eq_self h]

end Characters

section Texts

theorem toList_catalogForm (s : String) :
    (catalogForm s).toList = (stripEnds isBlank s.toList).flatMap formOf := by
  simp only [catalogForm, trim, String.toList_ofList, List.flatMap_map]
  rfl

private theorem head?_flatMap_formOf (cs : List Char) :
    (cs.flatMap formOf).head? = cs.head?.bind fun c => (formOf c).head? := by
  cases cs with
  | nil => rfl
  | cons c cs =>
    obtain ⟨d, ds, hd⟩ := List.exists_cons_of_ne_nil (formOf_ne_nil c)
    simp [hd]

private theorem getLast?_flatMap_formOf (cs : List Char) :
    (cs.flatMap formOf).getLast? = cs.getLast?.bind fun c => (formOf c).getLast? := by
  rcases List.eq_nil_or_concat cs with rfl | ⟨front, c, rfl⟩
  · rfl
  · have hlast := List.getLast?_eq_some_getLast (formOf_ne_nil c)
    simp [hlast]

theorem trim_catalogForm (s : String) : trim (catalogForm s) = catalogForm s := by
  apply trim_eq_self
  · intro d hd
    rw [toList_catalogForm, head?_flatMap_formOf] at hd
    obtain ⟨c, hc, hd⟩ := Option.bind_eq_some_iff.1 hd
    exact isBlank_formOf (not_of_head?_stripEnds hc) (List.mem_of_mem_head? hd)
  · intro d hd
    rw [toList_catalogForm, getLast?_flatMap_formOf] at hd
    obtain ⟨c, hc, hd⟩ := Option.bind_eq_some_iff.1 hd
    exact isBlank_formOf (not_of_getLast?_stripEnds hc) (List.mem_of_mem_getLast? hd)

def letterFor (c : Char) : Char := if c = '\u212b' then 'Å' else c

private theorem formOf_formOf (c : Char) : (formOf c).flatMap formOf = formOf (letterFor c) := by
  unfold letterFor
  split
  · next h =>
    subst h
    decide +kernel
  · next h =>
    rw [List.flatMap_congr fun d hd => formOf_of_mem h hd, List.flatMap_singleton']

private theorem isBlank_letterFor (c : Char) : isBlank (letterFor c) = isBlank c := by
  unfold letterFor
  split
  · next h =>
    subst h
    decide
  · rfl

private theorem dropWhile_map_letterFor (cs : List Char) :
    (cs.map letterFor).dropWhile isBlank = (cs.dropWhile isBlank).map letterFor := by
  induction cs with
  | nil => rfl
  | cons c cs ih =>
    cases hc : isBlank c <;> simp [isBlank_letterFor, hc, ih]

def withLetters (s : String) : String := String.ofList (s.toList.map letterFor)

theorem stripEnds_withLetters (s : String) :
    stripEnds isBlank (withLetters s).toList = (stripEnds isBlank s.toList).map letterFor := by
  simp only [withLetters, String.toList_ofList, stripEnds, dropWhile_map_letterFor,
    ← List.map_reverse]

theorem catalogForm_catalogForm (s : String) :
    catalogForm (catalogForm s) = catalogForm (withLetters s) := by
  have hends : stripEnds isBlank (catalogForm s).toList = (catalogForm s).toList := by
    have htrim := congrArg String.toList (trim_catalogForm s)
    rwa [trim, String.toList_ofList] at htrim
  rw [← String.toList_inj, toList_catalogForm (catalogForm s), hends, toList_catalogForm,
    List.flatMap_assoc, toList_catalogForm, stripEnds_withLetters, List.flatMap_map]
  exact List.flatMap_congr fun c _ => formOf_formOf c

private theorem withLetters_eq_self {s : String} (h : '\u212b' ∉ s.toList) : withLetters s = s := by
  have hmap : s.toList.map letterFor = s.toList.map id :=
    List.map_congr_left fun c hc => if_neg (ne_of_mem_of_not_mem hc h)
  rw [withLetters, hmap, List.map_id, String.ofList_toList]

private theorem sign_not_mem_catalogForm (s : String) : '\u212b' ∉ (catalogForm s).toList := by
  rw [toList_catalogForm]
  intro h
  obtain ⟨c, -, hc⟩ := List.mem_flatMap.1 h
  exact ne_sign_of_mem_formOf hc rfl

/-- The form of a text is its own form unless the sign stands in the text. -/
theorem catalogForm_stable_iff {s : String} :
    catalogForm (catalogForm s) = catalogForm s ↔ '\u212b' ∉ s.toList := by
  constructor
  · intro h hsign
    have hform : 'å' ∈ (catalogForm s).toList := by
      rw [toList_catalogForm]
      exact List.mem_flatMap.2 ⟨_, mem_stripEnds (by decide) hsign, by simp [formOf_sign]⟩
    rw [← h, catalogForm_catalogForm, toList_catalogForm, stripEnds_withLetters] at hform
    obtain ⟨e, he, hmem⟩ := List.mem_flatMap.1 hform
    obtain ⟨c, -, rfl⟩ := List.mem_map.1 he
    refine not_accented_of_mem_formOf ?_ hmem (by decide)
    unfold letterFor
    split
    · decide
    · assumption
  · intro h
    rw [catalogForm_catalogForm, withLetters_eq_self h]

end Texts

/-- A text stays, or is replaced by its form if it is without the sign. -/
inductive Reformed : String → String → Prop
  | same (a : String) : Reformed a a
  | form {a : String} (h : '\u212b' ∉ a.toList) : Reformed a (catalogForm a)

theorem Reformed.catalogForm_eq {a b : String} (h : Reformed a b) :
    catalogForm a = catalogForm b := by
  cases h with
  | same => rfl
  | form h => exact (catalogForm_stable_iff.2 h).symm

/-- A missing text, or one whose form is not that of an allowed value. -/
def unlisted (allowed : List String) (text : Option String) : Bool :=
  text.all fun a => !(allowed.map catalogForm).contains (catalogForm a)

private theorem unlisted_congr {allowed allowed' : List String} {text text' : Option String}
    (hallowed : List.Forall₂ Reformed allowed allowed') (htext : Option.Rel Reformed text text') :
    unlisted allowed text = unlisted allowed' text' := by
  have hforms : allowed.map catalogForm = allowed'.map catalogForm := by
    rw [← List.forall₂_eq_eq_eq, List.forall₂_map_left_iff, List.forall₂_map_right_iff]
    exact hallowed.imp fun _ _ => Reformed.catalogForm_eq
  cases htext with
  | none => rfl
  | some h => simp only [unlisted, Option.all_some, hforms, h.catalogForm_eq]

theorem evaluate_catalog (allowed : List String) (kind : RuleKind) (fields : List String)
    (t : Table) (ctx : Context) :
    Check.evaluate (.catalog allowed) kind fields t ctx =
      (findColumn t.fields (firstField fields)).map fun i =>
        ⟨t.height, t.rows.map fun row => unlisted allowed (row.text? i)⟩ := by
  have hchecked : Check.evaluate (.catalog allowed) kind fields t ctx =
      (catalog t.fields (firstField fields) allowed).bind (·.judge t.rows) := rfl
  rw [hchecked, catalog]
  cases findColumn t.fields (firstField fields) with
  | error e => rfl
  | ok i =>
    refine (judge_ofEvery _ _).trans (congrArg Except.ok ?_)
    simp only [unlisted, Std.HashSet.contains_ofList]
    rfl

end RowCheck

/-- Two tables with columns of the same names, where cells of the one stand for those of the
other. -/
structure Table.Reformed (t u : Table) : Prop where
  names : t.names = u.names
  rows : List.Forall₂ (fun r q : Row => ∀ i, Option.Rel RowCheck.Reformed (r.text? i) (q.text? i))
    t.rows u.rows

/-- The form of a text is its own form exactly if the text is without the Angstrom sign. In general
the form of the form is that of the text with the letter in place of the sign, and the third form is
the second one. So allowed values and cells without the sign may be replaced by their forms, and no
verdict of the catalog check changes. -/
theorem forms_of_catalog (s : String) {allowed allowed' : List String} {t u : Table}
    (hallowed : List.Forall₂ RowCheck.Reformed allowed allowed') (htable : t.Reformed u)
    (kind : RuleKind) (fields : List String) (ctx : Context) :
    (RowCheck.catalogForm (RowCheck.catalogForm s) = RowCheck.catalogForm s ↔
      '\u212b' ∉ s.toList) ∧
    RowCheck.catalogForm (RowCheck.catalogForm s) =
      RowCheck.catalogForm (RowCheck.withLetters s) ∧
    RowCheck.catalogForm (RowCheck.catalogForm (RowCheck.catalogForm s)) =
      RowCheck.catalogForm (RowCheck.catalogForm s) ∧
    Check.evaluate (.catalog allowed) kind fields t ctx =
      Check.evaluate (.catalog allowed') kind fields u ctx := by
  refine ⟨RowCheck.catalogForm_stable_iff, RowCheck.catalogForm_catalogForm s,
    RowCheck.catalogForm_stable_iff.2 (RowCheck.sign_not_mem_catalogForm s), ?_⟩
  have hcolumn : findColumn t.fields = findColumn u.fields := by
    funext name
    rw [findColumn, findColumn, Schema.column_congr htable.names]
  have hverdicts : ∀ i, t.rows.map (fun row => RowCheck.unlisted allowed (row.text? i)) =
      u.rows.map fun row => RowCheck.unlisted allowed' (row.text? i) := by
    intro i
    rw [← List.forall₂_eq_eq_eq, List.forall₂_map_left_iff, List.forall₂_map_right_iff]
    exact htable.rows.imp fun r q h => RowCheck.unlisted_congr hallowed (h i)
  simp only [RowCheck.evaluate_catalog, hcolumn, hverdicts, Table.height, htable.rows.length_eq]

/-- A region with its accent and blanks, in the list and in the table. -/
theorem forms_of_catalog_region :
    RowCheck.catalogForm (RowCheck.catalogForm " ÁNCASH ") = RowCheck.catalogForm " ÁNCASH " ∧
    Check.evaluate (.catalog ["Áncash", "Lima"]) .catalogCheck ["region"]
        (.ofTexts "region" [some " ÁNCASH ", none, some "Ica"]) ⟨[], ⟨2024, 6, 1⟩⟩ =
      Check.evaluate (.catalog ["ancash", "Lima"]) .catalogCheck ["region"]
        (.ofTexts "region" [some "ancash", none, some "Ica"]) ⟨[], ⟨2024, 6, 1⟩⟩ := by
  have hvalue : RowCheck.Reformed "Áncash" "ancash" := .form (by decide)
  have hcell : RowCheck.Reformed " ÁNCASH " "ancash" := .form (by decide)
  have hrow : ∀ {a b : Option String}, Option.Rel RowCheck.Reformed a b → ∀ i,
      Option.Rel RowCheck.Reformed (Row.text? [a.map Cell.text] i)
        (Row.text? [b.map Cell.text] i) := by
    intro a b h i
    cases i with
    | zero =>
      cases h with
      | none => exact .none
      | some h => exact .some h
    | succ i => exact .none
  have htable : (Table.ofTexts "region" [some " ÁNCASH ", none, some "Ica"]).Reformed
      (.ofTexts "region" [some "ancash", none, some "Ica"]) :=
    ⟨rfl, .cons (hrow (.some hcell)) (.cons (hrow .none) (.cons (hrow (.some (.same _))) .nil))⟩
  have hallowed : List.Forall₂ RowCheck.Reformed ["Áncash", "Lima"] ["ancash", "Lima"] :=
    .cons hvalue (.cons (.same _) .nil)
  obtain ⟨hstable, -, -, heval⟩ :=
    forms_of_catalog " ÁNCASH " hallowed htable .catalogCheck ["region"] ⟨[], ⟨2024, 6, 1⟩⟩
  exact ⟨hstable.2 (by decide), heval⟩

/-- The Angstrom sign is allowed and stands in the first cell. Written in its form, as in the second
one, it fails: the form of that is another one. -/
theorem angstrom_form_unlisted :
    RowCheck.catalogForm "\u212b" = "å" ∧ RowCheck.catalogForm "å" = "a" ∧
      Check.evaluate (.catalog ["\u212b"]) .catalogCheck ["unit"]
        (.ofTexts "unit" [some "\u212b", some "å"]) ⟨[], ⟨2024, 6, 1⟩⟩ =
          .ok ⟨2, [false, true]⟩ := by
  refine ⟨by decide +kernel, by decide +kernel, ?_⟩
  rw [RowCheck.evaluate_catalog]
  decide +kernel

end TableAudit
