import TableAudit.Proofs.Records
import TableAudit.Proofs.Spellings

/-!
# Records in other spellings

A rule is read from the values at the names of its parameters. Two spellings of a record have the
same ones, so each step of reading comes to the same, errors included.

The code of the rule that a conditional one applies is the exception. It is looked up as it is
spelt, and a record that spells it in another way has none.
-/

namespace TableAudit

open Json (Value)

def IsParameter (name : String) : Prop :=
  IsNameLetters (keyLetters name) ∧ keyLetters name ≠ keyLetters "quality_function"

instance (name : String) : Decidable (IsParameter name) := by
  unfold IsParameter
  infer_instance

namespace RuleRecord

/-- Two records have the same code and the same values at all parameters. -/
structure Agree (r q : RuleRecord) : Prop where
  code : r.code = q.code
  get : ∀ name, IsParameter name → r.get? name = q.get? name

namespace Agree

variable {r q : RuleRecord} (h : r.Agree q)

include h

section Values

variable (name : String) (hname : IsParameter name)

include hname

theorem require : r.require name = q.require name := by
  rw [RuleRecord.require, RuleRecord.require, h.get name hname, h.code]

theorem text : r.text name = q.text name := by
  rw [RuleRecord.text, RuleRecord.text, h.require name hname, h.code]

theorem text? : r.text? name = q.text? name := by
  rw [RuleRecord.text?, RuleRecord.text?, h.get name hname]

theorem number? : r.number? name = q.number? name := by
  rw [RuleRecord.number?, RuleRecord.number?, h.get name hname, h.code]

theorem count? : r.count? name = q.count? name := by
  rw [RuleRecord.count?, RuleRecord.count?, h.number? name hname, h.code]

theorem count : r.count name = q.count name := by
  rw [RuleRecord.count, RuleRecord.count, h.count? name hname, h.code]

theorem list : r.list name = q.list name := by
  rw [RuleRecord.list, RuleRecord.list, h.require name hname, h.code]

theorem list? : r.list? name = q.list? name := by
  rw [RuleRecord.list?, RuleRecord.list?, h.get name hname, h.code]

theorem flag (absent : Bool) : r.flag name absent = q.flag name absent := by
  rw [RuleRecord.flag, RuleRecord.flag, h.get name hname]

private theorem limit? : r.limit? name = q.limit? name := by
  rw [RuleRecord.limit?, RuleRecord.limit?, h.get name hname, h.code]

end Values

theorem fields? : r.fields? = q.fields? := by
  rw [RuleRecord.fields?, RuleRecord.fields?, h.require "fields" (by decide), h.code]

theorem threshold : r.threshold = q.threshold := by
  rw [RuleRecord.threshold, RuleRecord.threshold, h.number? "threshold" (by decide)]

theorem writes : r.writes = q.writes := h.flag "write" (by decide) true

theorem dateFormat : r.dateFormat = q.dateFormat := by
  rw [RuleRecord.dateFormat, RuleRecord.dateFormat, h.text "format_date" (by decide), h.code]

theorem bounds : r.bounds = q.bounds := by
  simp only [RuleRecord.bounds, h.limit? "min_range" (by decide), h.limit? "max_range" (by decide),
    h.flag "include_limit_left" (by decide), h.flag "include_limit_right" (by decide),
    h.flag "inclusive" (by decide)]

theorem named {α : Type} (name what : String) (read : String → Option α) :
    r.named name what read = q.named name what read := by
  funext raw
  rw [RuleRecord.named, RuleRecord.named, h.code]

theorem source : r.source = q.source := by
  funext input
  rw [RuleRecord.source, RuleRecord.source, h.code]

private theorem referential : r.referential = q.referential := by
  simp only [RuleRecord.referential, h.require "input" (by decide), h.source, h.fields?, h.code]

private theorem email : r.email = q.email := by
  simp only [RuleRecord.email, h.require "input" (by decide), h.source,
    h.list? "expression_forbidden" (by decide), h.code]

private theorem range : r.range = q.range := by
  simp only [RuleRecord.range, h.bounds, h.code]

private theorem length : r.length = q.length := by
  simp only [RuleRecord.length, h.count? "min_range" (by decide),
    h.count? "max_range" (by decide), h.code]

private theorem numericOperation : r.numericOperation = q.numericOperation := by
  simp only [RuleRecord.numericOperation, h.named, h.text "operator" (by decide),
    h.text "input_val" (by decide), h.number? "error_val" (by decide), h.code]

private theorem timeRange : r.timeRange = q.timeRange := by
  simp only [RuleRecord.timeRange, h.text? "diff_unit" (by decide), h.named,
    h.text "reference_date" (by decide), h.dateFormat, h.bounds]

private theorem positionValue : r.positionValue = q.positionValue := by
  simp only [RuleRecord.positionValue, h.count "initial_position" (by decide),
    h.count "final_position" (by decide), h.list "expected_value" (by decide), h.code]

private theorem output? : r.output? = q.output? := by
  rw [RuleRecord.output?, RuleRecord.output?, h.get "output" (by decide)]

private theorem check (kind : RuleKind) : r.check kind = q.check kind := by
  cases kind with
  | prerequisites | nullCheck | duplicateCheck => rfl
  | statisticsSummary => simp only [RuleRecord.check, h.output?]
  | referentialIntegrity => exact h.referential
  | catalogCheck | forbiddenCharacters => simp only [RuleRecord.check, h.list "values" (by decide)]
  | rangeCheck => exact h.range
  | typeCheck | storageTypeCheck =>
    simp only [RuleRecord.check, h.text "data_type" (by decide), h.named]
  | compositionCheck =>
    simp only [RuleRecord.check, h.list "values" (by decide), h.text? "delimiter" (by decide)]
  | lengthCheck => exact h.length
  | numericFormatCheck =>
    simp only [RuleRecord.check, h.text? "sep" (by decide), h.count "max_int" (by decide),
      h.count "num_dec" (by decide)]
  | numericOperationCheck => exact h.numericOperation
  | dateFormatCheck => simp only [RuleRecord.check, h.dateFormat]
  | timeRangeCheck => exact h.timeRange
  | positionValueCheck => exact h.positionValue
  | emailCheck => exact h.email
  | valueTrendCheck =>
    simp only [RuleRecord.check, h.list? "reference_fields" (by decide),
      h.text? "method" (by decide)]
  | conditionalRule => simp only [RuleRecord.check, h.code]

theorem plainRule (kind : RuleKind) : r.plainRule kind = q.plainRule kind := by
  simp only [RuleRecord.plainRule, h.fields?, h.check kind, h.threshold, h.writes, h.code]

theorem conditionOf : Rule.conditionOf r = Rule.conditionOf q := by
  rw [Rule.conditionOf, Rule.conditionOf, h.text? "condition" (by decide), h.named]

theorem filtersOf : Rule.filtersOf r = Rule.filtersOf q := by
  simp only [Rule.filtersOf, h.require "filter_list" (by decide), h.code]

end Agree

theorem agree_ofEntries {values : String → Value → Value → Prop} {es fs : List (String × Value)}
    (h : Respelt values es fs) (hnull : ∀ key v w, values key v w → v.isNull = w.isNull)
    (hsame : ∀ key v w, values key v w → keyLetters key ≠ keyLetters "quality_function" → v = w)
    (code : String) : (ofEntries code es).Agree (ofEntries code fs) := by
  refine ⟨rfl, fun name hname => ?_⟩
  have hget := rel_get? hname.1 h hnull code
  generalize (ofEntries code es).get? name = x, (ofEntries code fs).get? name = y at hget ⊢
  cases hget with
  | none => rfl
  | some hvw =>
    obtain ⟨key, hkey, hvw⟩ := hvw
    rw [hsame key _ _ hvw (hkey ▸ hname.2)]

end RuleRecord

theorem RespeltRecord.isNull_eq {values : String → Value → Value → Prop} {v w : Value}
    (h : RespeltRecord values v w) : v.isNull = w.isNull := by
  cases h <;> rfl

/-- A spelling of an inner record reads the same for any kind. -/
theorem RespeltInner.plainRule_eq {v w : Value} (h : RespeltInner v w) (code : String)
    (kind : RuleKind) :
    (RuleRecord.ofJson code v >>= fun r => r.plainRule kind) =
      (RuleRecord.ofJson code w >>= fun r => r.plainRule kind) := by
  cases h with
  | same => rfl
  | @object es fs h =>
    have hagree : (RuleRecord.ofEntries code es).Agree (.ofEntries code fs) :=
      RuleRecord.agree_ofEntries h (fun _ _ _ hvw => hvw ▸ rfl) (fun _ _ _ hvw _ => hvw) code
    exact hagree.plainRule kind

/-- The value at a key is found in both spellings if both spell the key in the same way. -/
theorem RespeltInner.get?_eq {v w : Value} (h : RespeltInner v w) {key : String}
    (hkey : (v.get? key).isSome = (w.get? key).isSome) : v.get? key = w.get? key := by
  cases h with
  | same => rfl
  | @object es fs h =>
    have hvalue : ∀ {es : List (String × Value)}, (es.map fun e => keyLetters e.1).Nodup →
        ∀ x, Value.get? (.object es) key = some x →
          (es.find? fun e => keyLetters e.1 == keyLetters key).map (·.2) = some x := by
      intro es hes x hx
      obtain ⟨e, he, rfl⟩ := Option.map_eq_some_iff.1 hx
      have hek : e.1 = key := by simpa using List.find?_some he
      have hfound := (find?_eq_some_of_distinct hes).2
        ⟨List.mem_of_find?_eq_some he, congrArg keyLetters hek⟩
      rw [hfound]
      rfl
    cases hx : Value.get? (.object es) key with
    | none =>
      rw [hx] at hkey
      exact (Option.not_isSome_iff_eq_none.1 (by simp [← hkey])).symm
    | some x =>
      rw [hx, Option.isSome_some] at hkey
      obtain ⟨y, hy⟩ := Option.isSome_iff_exists.1 hkey.symm
      have hfound := h.rel_find? (keyLetters key)
      have hxe := hvalue h.1 x hx
      have hyf := hvalue h.distinct y hy
      rw [hy]
      generalize es.find? _ = a, fs.find? _ = b at hfound hxe hyf
      cases hfound with
      | none => cases hxe
      | some hef =>
        rw [← hxe, ← hyf]
        exact congrArg some hef.2

theorem RespeltValue.isNull_eq {key : String} {v w : Value} (h : RespeltValue key v w) :
    v.isNull = w.isNull := by
  rcases h with rfl | ⟨-, h⟩
  · rfl
  · exact RespeltRecord.isNull_eq h

namespace Rule

section Inner

variable {r q : RuleRecord} {v w : Value}

private theorem innerOf_congr (hcode : r.code = q.code) (hv : r.get? "quality_function" = some v)
    (hw : q.get? "quality_function" = some w) (h : RespeltInner v w)
    (hinner : v.get? "code" = w.get? "code") : innerOf r = innerOf q := by
  have hplain := fun code kind => h.plainRule_eq code kind
  rw [innerOf_eq hv, innerOf_eq hw, hinner, hcode]
  simp only [hplain]

/-- Without a code that is spelt as it is looked up there is no inner rule. -/
theorem innerOf_eq_missing (hv : r.get? "quality_function" = some v)
    (hcode : v.get? "code" = none) :
    innerOf r = .error (.missing r.code "quality_function.code") := by
  rw [innerOf_eq hv, hcode]

end Inner

def innerRecord? : Value → Option Value
  | .object es => (RuleRecord.ofEntries "" es).get? "quality_function"
  | _ => none

/-- The code of the inner rule, if its key is spelt as it is looked up. -/
def innerCode? (record : Value) : Option Value := (innerRecord? record).bind (·.get? "code")

variable {es fs : List (String × Value)} {code : String}

private theorem ofRecord_object {kind : RuleKind} (hkind : RuleKind.ofCode? code = some kind)
    (es : List (String × Value)) :
    ofRecord code (.object es) =
      if kind = .conditionalRule then conditionalOf (.ofEntries code es)
      else (RuleRecord.ofEntries code es).plainRule kind := by
  rw [ofRecord, hkind]
  rfl

theorem exists_object_of_ofRecord {record : Value} {found : Option Rule}
    (h : ofRecord code record = .ok found) : ∃ es, record = .object es := by
  unfold ofRecord at h
  split at h
  · obtain ⟨r, hr, -⟩ := bind_eq_ok.1 h
    unfold RuleRecord.ofJson at hr
    split at hr
    · exact ⟨_, rfl⟩
    · cases hr
  · cases h

/-- The entries of a rule record in two spellings agree, and have inner records in two spellings. -/
theorem respelt_entries (h : Respelt RespeltValue es fs) (code : String) :
    (RuleRecord.ofEntries code es).Agree (.ofEntries code fs) ∧
      Option.Rel RespeltInner ((RuleRecord.ofEntries code es).get? "quality_function")
        ((RuleRecord.ofEntries code fs).get? "quality_function") := by
  have hnull : ∀ key v w, RespeltValue key v w → v.isNull = w.isNull :=
    fun _ _ _ => RespeltValue.isNull_eq
  refine ⟨RuleRecord.agree_ofEntries h hnull ?_ code, ?_⟩
  · rintro key v w (rfl | ⟨hkey, -⟩) hne
    · rfl
    · exact (hne hkey).elim
  · have hname : IsNameLetters (keyLetters "quality_function") := by decide
    have hget := RuleRecord.rel_get? hname h hnull code
    generalize (RuleRecord.ofEntries code es).get? _ = x,
      (RuleRecord.ofEntries code fs).get? _ = y at hget ⊢
    cases hget with
    | none => exact .none
    | some hvw =>
      obtain ⟨key, -, rfl | ⟨-, hvw⟩⟩ := hvw
      · exact .some (.same _)
      · exact .some hvw

theorem innerCode?_object {v : Value} (code : String)
    (hv : (RuleRecord.ofEntries code es).get? "quality_function" = some v) :
    innerCode? (.object es) = v.get? "code" := by
  have hinner : innerRecord? (.object es) = some v := hv
  rw [innerCode?, hinner]
  rfl

/-- Inner records in two spellings give the same rule if both spell the key of the code alike. -/
theorem innerOf_respelt (h : Respelt RespeltValue es fs)
    (hcode : (innerCode? (.object es)).isSome = (innerCode? (.object fs)).isSome) :
    innerOf (.ofEntries code es) = innerOf (.ofEntries code fs) := by
  obtain ⟨hagree, hinner⟩ := respelt_entries h code
  generalize hv : (RuleRecord.ofEntries code es).get? "quality_function" = x,
    hw : (RuleRecord.ofEntries code fs).get? "quality_function" = y at hinner
  cases hinner with
  | none => simp only [innerOf, RuleRecord.require, hv, hw, hagree.code]
  | some hvw =>
    rw [innerCode?_object code hv, innerCode?_object code hw] at hcode
    exact innerOf_congr hagree.code hv hw hvw (hvw.get?_eq hcode)

private theorem conditionalOf_respelt {r q : RuleRecord} (h : r.Agree q)
    (hinner : innerOf r = innerOf q) :
    conditionalOf r = conditionalOf q := by
  simp only [conditionalOf, h.conditionOf, h.filtersOf, hinner, h.threshold, h.writes, h.code]

theorem exists_of_conditionalOf {r : RuleRecord} {found : Option Rule}
    (h : conditionalOf r = .ok found) :
    ∃ condition filters v, conditionOf r = .ok condition ∧ filtersOf r = .ok filters ∧
      r.get? "quality_function" = some v ∧ v.get? "code" ≠ none := by
  obtain ⟨condition, hcondition, h⟩ := bind_eq_ok.1 h
  obtain ⟨filters, hfilters, h⟩ := bind_eq_ok.1 h
  obtain ⟨inner, hinner, -⟩ := bind_eq_ok.1 h
  obtain ⟨v, hv⟩ := exists_get?_of_innerOf hinner
  refine ⟨condition, filters, v, hcondition, hfilters, hv, fun hcode => ?_⟩
  rw [innerOf_eq_missing hv hcode] at hinner
  cases hinner

private theorem innerCode?_of_conditionalOf {found : Option Rule}
    (h : conditionalOf (.ofEntries code es) = .ok found) : innerCode? (.object es) ≠ none := by
  obtain ⟨-, -, v, -, -, hv, hcode⟩ := exists_of_conditionalOf h
  rwa [innerCode?_object code hv]

/-- Where the one spelling gives a conditional rule, the other one can only fail for want of the
code. -/
theorem conditionalOf_eq_missing (h : Respelt RespeltValue es fs)
    {found : Option Rule} (hfound : conditionalOf (.ofEntries code es) = .ok found)
    (hcode : innerCode? (.object fs) = none) :
    conditionalOf (.ofEntries code fs) = .error (.missing code "quality_function.code") := by
  obtain ⟨condition, filters, v, hcondition, hfilters, hv, -⟩ := exists_of_conditionalOf hfound
  obtain ⟨hagree, hinner⟩ := respelt_entries h code
  generalize hw : (RuleRecord.ofEntries code fs).get? "quality_function" = y at hinner
  rw [hv] at hinner
  cases hinner with
  | some hvw =>
    rw [innerCode?_object code hw] at hcode
    rw [conditionalOf, ← hagree.conditionOf, ← hagree.filtersOf, hcondition, hfilters,
      innerOf_eq_missing hw hcode]
    rfl

end Rule

/-- Two spellings of a record give the same rule, are switched off alike, or fail with the same
error; conditional rules do so if both spellings have the inner code under the key `code`, or if
neither has. Where a conditional rule is read from the one and the other is without that key, the
other one fails for want of the code. -/
theorem rule_of_spellings {record record' : Value} (h : RespeltRule record record')
    (code : String) :
    ((RuleKind.ofCode? code = some .conditionalRule →
        (Rule.innerCode? record).isSome = (Rule.innerCode? record').isSome) →
      Rule.ofRecord code record = Rule.ofRecord code record') ∧
    (RuleKind.ofCode? code = some .conditionalRule → Rule.innerCode? record' = none →
      ∀ found, Rule.ofRecord code record = .ok found →
        Rule.ofRecord code record' = .error (.missing code "quality_function.code")) := by
  constructor
  · intro hcode
    cases h with
    | same => rfl
    | @object es fs h =>
      cases hkind : RuleKind.ofCode? code with
      | none => simp only [Rule.ofRecord, hkind]
      | some kind =>
        obtain ⟨hagree, -⟩ := Rule.respelt_entries h code
        rw [Rule.ofRecord_object hkind, Rule.ofRecord_object hkind]
        split
        · next hconditional =>
          subst hconditional
          exact Rule.conditionalOf_respelt hagree (Rule.innerOf_respelt h (hcode hkind))
        · exact hagree.plainRule kind
  · intro hkind hcode found hfound
    obtain ⟨es, rfl⟩ := Rule.exists_object_of_ofRecord hfound
    rw [Rule.ofRecord_object hkind, if_pos rfl] at hfound
    cases h with
    | same => exact (Rule.innerCode?_of_conditionalOf hfound hcode).elim
    | object h =>
      rw [Rule.ofRecord_object hkind, if_pos rfl]
      exact Rule.conditionalOf_eq_missing h hfound hcode

/-- The record of a rule by which the active rows need a mail address, with a spelling of the
inner code. -/
def activeMail (code : String) : Value :=
  .object [("filter_list", .list [.list [.text "status", .text "==", .text "active"]]),
    ("quality_function", .object [("fields", .list [.text "email"]), (code, .text "101")])]

def activeMailRespelt (code : String) : Value :=
  .object [("Quality-Function", .object [(code, .text "101"), ("FIELDS", .list [.text "email"])]),
    ("filterList", .list [.list [.text "status", .text "==", .text "active"]])]

private theorem respeltRule_activeMail {code : String} (h : keyLetters code = keyLetters "code") :
    RespeltRule (activeMail "code") (activeMailRespelt code) := by
  have hinner : RespeltInner (.object [("fields", .list [.text "email"]), ("code", .text "101")])
      (.object [(code, .text "101"), ("FIELDS", .list [.text "email"])]) :=
    .object ⟨by decide, _, .swap _ _ _, .cons ⟨h.symm, rfl⟩ (.cons ⟨by decide, rfl⟩ .nil)⟩
  have hfunction : keyLetters "quality_function" = keyLetters "Quality-Function" := by decide
  exact .object ⟨by decide, _, .swap _ _ _,
    .cons ⟨hfunction, .inr ⟨rfl, hinner⟩⟩ (.cons ⟨by decide, .inl rfl⟩ .nil)⟩

theorem rule_of_spellings_active :
    Rule.ofRecord "116" (activeMail "code") = Rule.ofRecord "116" (activeMailRespelt "code") ∧
      Rule.ofRecord "116" (activeMailRespelt "Code") =
        .error (.missing "116" "quality_function.code") := by
  obtain ⟨hsame, -⟩ := rule_of_spellings (respeltRule_activeMail rfl) "116"
  have hcapital : keyLetters "Code" = keyLetters "code" := by decide
  obtain ⟨-, hmissing⟩ := rule_of_spellings (respeltRule_activeMail hcapital) "116"
  have hnone : (Rule.innerCode? (activeMailRespelt "Code")).isNone = true := by decide +kernel
  refine ⟨hsame fun _ => by decide +kernel, ?_⟩
  exact hmissing (by decide) (Option.isNone_iff_eq_none.1 hnone) _ rfl

/-- Of two spellings of the inner code, the one that is looked up gives a rule and the other one an
error. -/
theorem inner_code_overlooked :
    RespeltRule (activeMail "code") (activeMail "Code") ∧
      (∃ rule, Rule.ofRecord "116" (activeMail "code") = .ok (some rule)) ∧
      Rule.ofRecord "116" (activeMail "Code") =
        .error (.missing "116" "quality_function.code") := by
  have hinner : RespeltInner (.object [("fields", .list [.text "email"]), ("code", .text "101")])
      (.object [("fields", .list [.text "email"]), ("Code", .text "101")]) :=
    .object ⟨by decide, _, .refl _, .cons ⟨rfl, rfl⟩ (.cons ⟨by decide, rfl⟩ .nil)⟩
  refine ⟨.object ⟨by decide, _, .refl _, ?_⟩, ⟨_, rfl⟩, rfl⟩
  exact .cons ⟨rfl, .inl rfl⟩ (.cons ⟨rfl, .inr ⟨rfl, hinner⟩⟩ .nil)

end TableAudit
