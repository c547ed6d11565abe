import TableAudit.Proofs.Keys
import TableAudit.Proofs.RegularLanguages
import TableAudit.Proofs.StorageTypes

/-!
# The grammar of mail addresses

A sound mail address is a local part and a domain with an `@` between them, which is the only one. A
domain splits at its points into two or more labels, the last of them without hyphens. The check of
mail addresses passes an address if it is sound, its domain is listed and its local part is not
forbidden, and it passes what is missing.
-/

namespace TableAudit

open Text

structure IsLabel (label : List Char) : Prop where
  ne_nil : label ≠ []
  chars : ∀ c ∈ label, isWordChar c = true ∨ c = '-'

/-- Two or more labels stand between the points of a domain, and there is no hyphen in the last. -/
structure IsDomain (domain : List Char) : Prop where
  two_le : 2 ≤ (domain.splitOn '.').length
  labels : ∀ label ∈ domain.splitOn '.', IsLabel label
  last : ∀ label ∈ (domain.splitOn '.').getLast?, '-' ∉ label

structure IsLocalPart (name : List Char) : Prop where
  ne_nil : name ≠ []
  chars : ∀ c ∈ name, isWordChar c = true ∨ c = '.' ∨ c = '-'

section Characters

theorem ne_at_of_isWordChar {c : Char} (h : isWordChar c = true) : c ≠ '@' := by
  rintro rfl
  revert h
  decide

private theorem ne_point_of_isWordChar {c : Char} (h : isWordChar c = true) : c ≠ '.' := by
  rintro rfl
  revert h
  decide

private theorem ne_hyphen_of_isWordChar {c : Char} (h : isWordChar c = true) : c ≠ '-' := by
  rintro rfl
  revert h
  decide

theorem IsLabel.point_notMem {label : List Char} (h : IsLabel label) : '.' ∉ label := by
  intro hmem
  rcases h.chars _ hmem with hword | hhyphen
  · exact ne_point_of_isWordChar hword rfl
  · cases hhyphen

theorem IsLocalPart.at_notMem {name : List Char} (h : IsLocalPart name) : '@' ∉ name := by
  intro hmem
  rcases h.chars _ hmem with hword | hpoint | hhyphen
  · exact ne_at_of_isWordChar hword rfl
  · cases hpoint
  · cases hhyphen

end Characters

section Cutting

variable {sep : Char} {cs front back : List Char}

theorem cut_eq_some_iff :
    cut (· == sep) cs = some (front, back) ↔ cs = front ++ sep :: back ∧ sep ∉ front := by
  constructor
  · intro h
    unfold cut at h
    split at h
    · cases h
    · next c rest hdrop =>
      cases h
      have hsplit := List.takeWhile_append_dropWhile (p := fun c => !(c == sep)) (l := cs)
      have hstop := List.head?_dropWhile_not (fun c => !(c == sep)) cs
      rw [hdrop] at hsplit hstop
      obtain rfl : c = sep := by simpa using hstop
      refine ⟨hsplit.symm, fun hmem => ?_⟩
      simpa using List.all_eq_true.1 List.all_takeWhile _ hmem
  · rintro ⟨rfl, hnotMem⟩
    have hkept : ∀ c ∈ front, (!(c == sep)) = true := by
      intro c hc
      simpa using fun h : c = sep => hnotMem (h ▸ hc)
    simp [cut, List.takeWhile_append_of_pos hkept, List.dropWhile_append_of_pos hkept]

theorem cutAt_eq_some_iff {s a b : String} :
    cutAt sep s = some (a, b) ↔ s.toList = a.toList ++ sep :: b.toList ∧ sep ∉ a.toList := by
  rw [← cut_eq_some_iff, cutAt, Option.map_eq_some_iff]
  constructor
  · rintro ⟨⟨front, back⟩, hcut, heq⟩
    cases heq
    simpa using hcut
  · intro hcut
    exact ⟨_, hcut, by simp⟩

end Cutting

section Domains

private theorem intercalate_concat (sep : Char) (front : List (List Char)) (last : List Char) :
    [sep].intercalate (front ++ [last]) = front.flatMap (· ++ [sep]) ++ last := by
  induction front with
  | nil => simp
  | cons label front ih =>
    obtain ⟨next, rest, hrest⟩ := List.exists_cons_of_ne_nil (l := front ++ [last]) (by simp)
    rw [List.cons_append, hrest, List.intercalate_cons_cons, ← hrest, ih]
    simp

/-- A domain by its labels: some with a point behind each, and one more. -/
theorem isDomain_iff {domain : List Char} :
    IsDomain domain ↔ ∃ front last, front ≠ [] ∧ (∀ label ∈ front, IsLabel label) ∧
      IsLabel last ∧ '-' ∉ last ∧ domain = front.flatMap (· ++ ['.']) ++ last := by
  constructor
  · intro h
    have hjoin : ['.'].intercalate (domain.splitOn '.') = domain := List.intercalate_splitOn '.'
    obtain ⟨htwo, hlabels, hhyphen⟩ := h
    have hne : domain.splitOn '.' ≠ [] := List.ne_nil_of_length_pos (by omega)
    obtain ⟨front, last, hsplit⟩ : ∃ front last, domain.splitOn '.' = front ++ [last] :=
      ⟨_, _, (List.dropLast_append_getLast hne).symm⟩
    rw [hsplit] at hjoin htwo hlabels hhyphen
    refine ⟨front, last, ?_, fun label hl => hlabels label (List.mem_append_left _ hl),
      hlabels last (by simp), hhyphen last (by simp), ?_⟩
    · rintro rfl
      simp at htwo
    · rw [← intercalate_concat, hjoin]
  · rintro ⟨front, last, hne, hfront, hlast, hhyphen, rfl⟩
    have hall : ∀ label ∈ front ++ [last], IsLabel label := by
      simpa [or_imp, forall_and] using ⟨hfront, hlast⟩
    have hsplit : (front.flatMap (· ++ ['.']) ++ last).splitOn '.' = front ++ [last] := by
      rw [← intercalate_concat]
      exact List.splitOn_intercalate '.' (fun label hl => (hall label hl).point_notMem) (by simp)
    constructor
    · rw [hsplit, List.length_append]
      have := List.length_pos_of_ne_nil hne
      simp
      omega
    · rwa [hsplit]
    · simpa [hsplit] using hhyphen

theorem IsDomain.at_notMem {domain : List Char} (h : IsDomain domain) : '@' ∉ domain := by
  have hlabel : ∀ label, IsLabel label → '@' ∉ label := by
    intro label hl hmem
    rcases hl.chars _ hmem with hword | hhyphen
    · exact ne_at_of_isWordChar hword rfl
    · cases hhyphen
  obtain ⟨front, last, -, hfront, hlast, -, rfl⟩ := isDomain_iff.1 h
  intro hmem
  rcases List.mem_append.1 hmem with hmem | hmem
  · obtain ⟨label, hl, hat⟩ := List.mem_flatMap.1 hmem
    rcases List.mem_append.1 hat with hat | hat
    · exact hlabel label (hfront label hl) hat
    · cases List.mem_singleton.1 hat
  · exact hlabel last hlast hmem

end Domains

namespace RowCheck

section Pattern

variable {cs : List Char}

theorem mem_label :
    cs ∈ (Regular.oneOrMore (.char isLabelChar)).language ↔ IsLabel cs := by
  rw [Regular.language_oneOrMore, Regular.language, mem_single_mul_kstar]
  simp only [isLabelChar, Bool.or_eq_true, beq_iff_eq]
  exact ⟨fun h => ⟨h.1, h.2⟩, fun h => ⟨h.1, h.2⟩⟩

theorem mem_localPart :
    cs ∈ (Regular.oneOrMore (.char isLocalChar)).language ↔ IsLocalPart cs := by
  rw [Regular.language_oneOrMore, Regular.language, mem_single_mul_kstar]
  simp only [isLocalChar, isLabelChar, Bool.or_eq_true, beq_iff_eq, or_assoc,
    or_comm (a := _ = '-')]
  exact ⟨fun h => ⟨h.1, h.2⟩, fun h => ⟨h.1, h.2⟩⟩

theorem mem_lastLabel :
    cs ∈ (Regular.oneOrMore (.char isWordChar)).language ↔ IsLabel cs ∧ '-' ∉ cs := by
  rw [Regular.language_oneOrMore, Regular.language, mem_single_mul_kstar]
  constructor
  · rintro ⟨hne, hword⟩
    exact ⟨⟨hne, fun c hc => .inl (hword c hc)⟩,
      fun hhyphen => ne_hyphen_of_isWordChar (hword _ hhyphen) rfl⟩
  · rintro ⟨⟨hne, hchars⟩, hhyphen⟩
    refine ⟨hne, fun c hc => (hchars c hc).resolve_right ?_⟩
    rintro rfl
    exact hhyphen hc

theorem mem_char {d : Char} : cs ∈ (Regular.char (· == d)).language ↔ cs = [d] := by
  simp [Regular.language, mem_single]

theorem mem_labelWithPoint :
    cs ∈ (Regular.seq (.oneOrMore (.char isLabelChar)) (.char (· == '.'))).language ↔
      ∃ label, IsLabel label ∧ cs = label ++ ['.'] := by
  rw [Regular.language, Language.mem_mul]
  constructor
  · rintro ⟨label, hlabel, point, hpoint, rfl⟩
    rw [mem_char.1 hpoint]
    exact ⟨label, mem_label.1 hlabel, rfl⟩
  · rintro ⟨label, hlabel, rfl⟩
    exact ⟨label, mem_label.2 hlabel, ['.'], mem_char.2 rfl, rfl⟩

theorem mem_labelsWithPoints :
    cs ∈ (Regular.oneOrMore
        (.seq (.oneOrMore (.char isLabelChar)) (.char (· == '.')))).language ↔
      ∃ labels : List (List Char), labels ≠ [] ∧ (∀ label ∈ labels, IsLabel label) ∧
        cs = labels.flatMap (· ++ ['.']) := by
  rw [Regular.language_oneOrMore, mem_mul_kstar]
  constructor
  · rintro ⟨parts, hne, hparts, rfl⟩
    obtain ⟨labels, hlabels, rfl⟩ : ∃ labels : List (List Char),
        (∀ label ∈ labels, IsLabel label) ∧ parts = labels.map (· ++ ['.']) := by
      clear hne
      induction parts with
      | nil => exact ⟨[], by simp, rfl⟩
      | cons part parts ih =>
        obtain ⟨hpart, hrest⟩ := List.forall_mem_cons.1 hparts
        obtain ⟨label, hlabel, rfl⟩ := mem_labelWithPoint.1 hpart
        obtain ⟨labels, hlabels, rfl⟩ := ih hrest
        exact ⟨label :: labels, List.forall_mem_cons.2 ⟨hlabel, hlabels⟩, rfl⟩
    exact ⟨labels, by simpa using hne, hlabels, List.flatMap_def.symm⟩
  · rintro ⟨labels, hne, hlabels, rfl⟩
    refine ⟨labels.map (· ++ ['.']), by simpa using hne, fun part hpart => ?_, List.flatMap_def⟩
    obtain ⟨label, hlabel, rfl⟩ := List.mem_map.1 hpart
    exact mem_labelWithPoint.2 ⟨label, hlabels label hlabel, rfl⟩

/-- The pattern is the grammar of addresses. -/
theorem accepts_addressPattern_iff :
    addressPattern.accepts cs = true ↔
      ∃ name domain, IsLocalPart name ∧ IsDomain domain ∧ cs = name ++ '@' :: domain := by
  rw [Regular.accepts_iff, addressPattern, Regular.language, Language.mem_mul]
  constructor
  · rintro ⟨name, hname, _, ⟨sign, hsign, _, ⟨labels, hlabels, last, hlast, rfl⟩, rfl⟩, rfl⟩
    obtain ⟨front, hne, hfront, rfl⟩ := mem_labelsWithPoints.1 hlabels
    obtain ⟨hlast, hhyphen⟩ := mem_lastLabel.1 hlast
    rw [mem_char.1 hsign]
    exact ⟨name, _, mem_localPart.1 hname,
      isDomain_iff.2 ⟨front, last, hne, hfront, hlast, hhyphen, rfl⟩, rfl⟩
  · rintro ⟨name, domain, hname, hdomain, rfl⟩
    obtain ⟨front, last, hne, hfront, hlast, hhyphen, rfl⟩ := isDomain_iff.1 hdomain
    exact ⟨name, mem_localPart.2 hname, _, ⟨['@'], mem_char.2 rfl, _,
      ⟨_, mem_labelsWithPoints.2 ⟨front, hne, hfront, rfl⟩, last,
        mem_lastLabel.2 ⟨hlast, hhyphen⟩, rfl⟩, rfl⟩, rfl⟩

end Pattern

/-- What is accepted is a sound address with a listed domain and a local part that is not
forbidden. -/
theorem acceptsAddress_iff {listed : String → Bool} {forbidden : List String} {text : String} :
    acceptsAddress listed forbidden text = true ↔ ∃ name domain : String,
      text = name ++ "@" ++ domain ∧ IsLocalPart name.toList ∧ name ∉ forbidden ∧
        IsDomain domain.toList ∧ listed domain = true := by
  have htext : ∀ name domain : String,
      text = name ++ "@" ++ domain ↔ text.toList = name.toList ++ '@' :: domain.toList := by
    intro name domain
    rw [← String.toList_inj]
    simp
  unfold acceptsAddress
  split
  · next hcut =>
    refine iff_of_false (by simp) ?_
    rintro ⟨name, domain, hsplit, hname, -⟩
    rw [cutAt_eq_some_iff.2 ⟨(htext name domain).1 hsplit, hname.at_notMem⟩] at hcut
    cases hcut
  · next name domain hcut =>
    rw [Bool.and_eq_true, Bool.and_eq_true, accepts_addressPattern_iff]
    constructor
    · rintro ⟨⟨⟨name', domain', hname, hdomain, hsplit⟩, hlisted⟩, hforbidden⟩
      have hcut' := cut_eq_some_iff.2 ⟨hsplit, hname.at_notMem⟩
      have hsame := (cut_eq_some_iff.2 (cutAt_eq_some_iff.1 hcut)).symm.trans hcut'
      cases hsame
      exact ⟨name, domain, (htext name domain).2 hsplit, hname, by simpa using hforbidden, hdomain,
        hlisted⟩
    · rintro ⟨name', domain', hsplit, hname, hforbidden, hdomain, hlisted⟩
      have hcut' := cutAt_eq_some_iff.2 ⟨(htext name' domain').1 hsplit, hname.at_notMem⟩
      cases hcut.symm.trans hcut'
      exact ⟨⟨⟨_, _, hname, hdomain, (htext name domain).1 hsplit⟩, hlisted⟩,
        by simpa using hforbidden⟩

/-- The check of mail addresses looks up domains among the trimmed texts of its reference. -/
theorem evaluate_email {t other : Table} {field domainField : String} {source : Source}
    {ctx : Context} (hreference : ctx.reference source = .ok other) (hfield : field ∈ t.names)
    (hdomain : domainField ∈ other.names) (forbidden : List String) (kind : RuleKind) :
    ∃ listed : String → Bool,
      (∀ domain, listed domain = true ↔ ∃ row ∈ other.rows, ∃ text,
        (other.fields.cell row domainField).map Cell.toText = some text ∧ trim text = domain) ∧
      Check.evaluate (.email source domainField forbidden) kind [field] t ctx =
        .ok ⟨t.height, t.rows.map fun row => ((t.fields.cell row field).map Cell.toText).any
          fun text => !acceptsAddress listed forbidden text⟩ := by
  obtain ⟨j, hj⟩ := Schema.column_eq_ok_iff.2 hdomain
  have htexts : other.texts domainField = .ok (other.rows.map (·.text? j)) := by
    rw [Table.texts, hj]
    rfl
  let domains := Std.HashSet.ofList ((other.rows.map (·.text? j)).filterMap fun t => t.map trim)
  refine ⟨domains.contains, fun domain => ?_, ?_⟩
  · simp [domains, Std.HashSet.contains_ofList, Schema.text?_eq_cell hj]
  · have hloaded : Check.evaluate (.email source domainField forbidden) kind [field] t ctx =
        (email t.fields field other domainField forbidden).bind (·.judge t.rows) := by
      simp only [Check.evaluate, hreference]
      rfl
    simp only [hloaded, email, htexts]
    exact judge_textCheck hfield _

end RowCheck

/-- The check of mail addresses can be evaluated if its reference is loaded and both columns are
there. It passes a missing cell, and any other one if its text is a local part and a domain with an
`@` between them, the local part is not forbidden, and the domain is that of a row of the reference,
once the blanks around it are dropped. Such a text has no other `@`. -/
theorem verdicts_of_addresses {t other : Table} {field domainField : String} {source : Source}
    {ctx : Context} (hreference : ctx.reference source = .ok other) (hfield : field ∈ t.names)
    (hdomain : domainField ∈ other.names) (forbidden : List String) (kind : RuleKind) :
    ∃ f, Check.evaluate (.email source domainField forbidden) kind [field] t ctx = .ok f ∧
      f.tested = t.height ∧
      ∀ (k : Nat) (row : Row), t.rows[k]? = some row →
        (t.fields.cell row field = none → f.failed[k]? = some false) ∧
        ∀ text, (t.fields.cell row field).map Cell.toText = some text →
          (f.failed[k]? = some false ↔ ∃ name domain : String, text = name ++ "@" ++ domain ∧
            IsLocalPart name.toList ∧ name ∉ forbidden ∧ IsDomain domain.toList ∧
            ∃ row' ∈ other.rows, ∃ listed,
              (other.fields.cell row' domainField).map Cell.toText = some listed ∧
                Text.trim listed = domain) ∧
          (f.failed[k]? = some false → text.toList.count '@' = 1) := by
  obtain ⟨listed, hlisted, heval⟩ :=
    RowCheck.evaluate_email hreference hfield hdomain forbidden kind
  refine ⟨_, heval, rfl, fun k row hrow => ⟨fun hnone => ?_, fun text htext => ?_⟩⟩
  · simp [hrow, hnone]
  · have hpass : (t.rows.map fun row => ((t.fields.cell row field).map Cell.toText).any
        fun text => !RowCheck.acceptsAddress listed forbidden text)[k]? = some false ↔
          RowCheck.acceptsAddress listed forbidden text = true := by
      simp [hrow, htext]
    simp only [hpass, RowCheck.acceptsAddress_iff, hlisted, true_and]
    rintro ⟨name, domain, rfl, hname, -, hdomain, -⟩
    have hfront := List.count_eq_zero.2 hname.at_notMem
    have hback := List.count_eq_zero.2 hdomain.at_notMem
    simp [hfront, hback]

/-- Of a sound address, one with two signs and none at all, the second one fails. The domain is
listed with blanks around. -/
theorem verdicts_of_addresses_bank :
    let source : Source := ⟨some "domains", none, none, none, none⟩
    let other : Table := .ofTexts "domain" [none, some " bank.pe "]
    let t : Table := .ofTexts "mail" [some "ana.perez@bank.pe", some "ana@perez@bank.pe", none]
    ∃ f, Check.evaluate (.email source "domain" ["test"]) .emailCheck ["mail"] t
        ⟨[(source, .ok other)], ⟨2024, 6, 1⟩⟩ = .ok f ∧
      f.failed[0]? = some false ∧ f.failed[1]? ≠ some false ∧ f.failed[2]? = some false := by
  intro source other t
  have hreference :
      Context.reference ⟨[(source, .ok other)], ⟨2024, 6, 1⟩⟩ source = .ok other := rfl
  have hfield : "mail" ∈ t.names := List.mem_cons_self
  have hdomains : "domain" ∈ other.names := List.mem_cons_self
  obtain ⟨f, hf, -, hverdict⟩ :=
    verdicts_of_addresses hreference hfield hdomains ["test"] .emailCheck
  have hname : ("ana.perez".toList.all fun c => Text.isWordChar c || c == '.' || c == '-') := by
    decide
  have hlocal : IsLocalPart "ana.perez".toList :=
    ⟨by decide, fun c hc => by simpa [or_assoc] using List.all_eq_true.1 hname c hc⟩
  have hlabel : ∀ label ∈ "bank.pe".toList.splitOn '.',
      label ≠ [] ∧ label.all (fun c => Text.isWordChar c || c == '-') = true := by decide
  have hdomain : IsDomain "bank.pe".toList := by
    refine ⟨by decide, fun label hl => ⟨(hlabel label hl).1, fun c hc => ?_⟩, by decide⟩
    simpa using List.all_eq_true.1 (hlabel label hl).2 c hc
  have hlisted : [some (Cell.text " bank.pe ")] ∈ other.rows :=
    List.mem_cons_of_mem _ List.mem_cons_self
  refine ⟨f, hf, ?_, fun hpass => ?_, (hverdict 2 _ rfl).1 rfl⟩
  · exact ((hverdict 0 _ rfl).2 _ rfl).1.2 ⟨"ana.perez", "bank.pe", rfl, hlocal, by decide, hdomain,
      _, hlisted, " bank.pe ", rfl, by decide⟩
  · have hcount := ((hverdict 1 _ rfl).2 "ana@perez@bank.pe" rfl).2 hpass
    revert hcount
    decide

end TableAudit
