import Mathlib.Data.List.Basic
import TableAudit.Config.Basic
import TableAudit.Proofs.Steps

/-!
# Rules read from records

The check that a record describes is always one for the kind of its code, and a conditional rule
wraps no conditional rule, no statistics and no prerequisites. So an accepted rule has one of two
forms, under the code that is the key of its record.
-/

namespace TableAudit

def RuleKind.takes : RuleKind → Check → Bool
  | .prerequisites, .fields | .nullCheck, .fields | .duplicateCheck, .fields => true
  | .referentialIntegrity, .referential _ _ => true
  | .dateFormatCheck, .dateFormat _ => true
  | .rangeCheck, .range _ => true
  | .catalogCheck, .catalog _ => true
  | .forbiddenCharacters, .forbidden _ => true
  | .typeCheck, .type _ => true
  | .compositionCheck, .composition _ _ => true
  | .lengthCheck, .length _ _ => true
  | .storageTypeCheck, .storageType _ => true
  | .numericFormatCheck, .numericFormat _ _ _ => true
  | .numericOperationCheck, .numericOperation _ _ _ => true
  | .statisticsSummary, .statistics _ => true
  | .timeRangeCheck, .timeRange _ _ _ _ => true
  | .positionValueCheck, .positionValue _ _ _ => true
  | .emailCheck, .email _ _ _ => true
  | .valueTrendCheck, .valueTrend _ _ => true
  | _, _ => false

/-- Parameters other than the mere fields tell their kind. -/
theorem RuleKind.eq_of_takes {kind other : RuleKind} {check : Check} (h : kind.takes check = true)
    (hother : other.takes check = true) (hne : check ≠ .fields) : kind = other := by
  cases check with
  | fields => exact absurd rfl hne
  | _ =>
    cases kind <;> cases h
    cases other <;> cases hother
    rfl

namespace RuleRecord

variable (r : RuleRecord)

private theorem takes_referential :
    Yields r.referential (RuleKind.takes .referentialIntegrity · = true) := by
  refine .bind fun input => .bind fun reference => ?_
  split
  · exact .throw
  · refine .bind fun theirs => .bind fun ours => ?_
    dsimp only
    split
    · exact .bind fun _ => .pure rfl
    · exact .pure rfl

private theorem takes_email : Yields r.email (RuleKind.takes .emailCheck · = true) := by
  refine .bind fun input => .bind fun reference => ?_
  dsimp only
  split
  · exact .throw
  · refine .bind fun theirs => ?_
    split
    · exact .throw
    · exact .bind fun tokens => .pure rfl

private theorem takes_range : Yields r.range (RuleKind.takes .rangeCheck · = true) := by
  refine .bind fun b => ?_
  dsimp only
  split
  · exact .bind fun _ => .pure rfl
  · exact .pure rfl

private theorem takes_length : Yields r.length (RuleKind.takes .lengthCheck · = true) := by
  refine .bind fun min => .bind fun max => ?_
  dsimp only
  split
  · exact .bind fun _ => .pure rfl
  · exact .pure rfl

private theorem takes_numericOperation :
    Yields r.numericOperation (RuleKind.takes .numericOperationCheck · = true) := by
  refine .bind fun raw => .bind fun operator => .bind fun operand => ?_
  dsimp only
  split
  · exact .bind fun _ => .bind fun tolerance => .pure rfl
  · exact .bind fun tolerance => .pure rfl

private theorem takes_timeRange : Yields r.timeRange (RuleKind.takes .timeRangeCheck · = true) := by
  unfold timeRange
  dsimp only
  split <;>
  · exact .bind fun unit => .bind fun reference => .bind fun format => .bind fun b => .pure rfl

private theorem takes_positionValue :
    Yields r.positionValue (RuleKind.takes .positionValueCheck · = true) := by
  refine .bind fun first => .bind fun last => ?_
  dsimp only
  split
  · exact .bind fun _ => .bind fun expected => .pure rfl
  · exact .bind fun expected => .pure rfl

/-- The parameters of a check are those of the kind that it is read for. -/
theorem takes_check (kind : RuleKind) : Yields (r.check kind) (kind.takes · = true) := by
  cases kind with
  | prerequisites => exact .pure rfl
  | nullCheck => exact .pure rfl
  | duplicateCheck => exact .pure rfl
  | referentialIntegrity => exact r.takes_referential
  | dateFormatCheck => exact .bind fun _ => .pure rfl
  | rangeCheck => exact r.takes_range
  | catalogCheck => exact .bind fun _ => .pure rfl
  | forbiddenCharacters => exact .bind fun _ => .pure rfl
  | typeCheck => exact .bind fun _ => .bind fun _ => .pure rfl
  | compositionCheck => exact .bind fun _ => .pure rfl
  | lengthCheck => exact r.takes_length
  | storageTypeCheck => exact .bind fun _ => .bind fun _ => .pure rfl
  | numericFormatCheck => exact .bind fun _ => .bind fun _ => .pure rfl
  | numericOperationCheck => exact r.takes_numericOperation
  | statisticsSummary => exact .pure rfl
  | timeRangeCheck => exact r.takes_timeRange
  | conditionalRule => exact .throw
  | positionValueCheck => exact r.takes_positionValue
  | emailCheck => exact r.takes_email
  | valueTrendCheck => exact .bind fun _ => .pure rfl

end RuleRecord

/-- A rule without a condition, of a kind and with the parameters of that kind. -/
def Rule.IsPlain (kind : RuleKind) (rule : Rule) : Prop :=
  ∃ head check, rule = .plain head check ∧ head.kind = kind ∧ kind.takes check = true

/-- A rule read for a kind has its parameters, and a guard names its columns one by one. -/
theorem RuleRecord.plainRule_eq (r : RuleRecord) (kind : RuleKind) :
    Yields (r.plainRule kind) fun found => ∀ rule ∈ found, ∃ target threshold check,
      rule = .plain ⟨r.code, kind, target, threshold, r.writes⟩ check ∧
      kind.takes check = true ∧
      (kind = .prerequisites → ∃ names, target = .columns names) := by
  refine .bind fun fields => ?_
  cases fields with
  | none => exact .pure (by simp)
  | some fields =>
    refine .bind_of (r.takes_check kind) fun check hcheck => .bind fun threshold => .pure ?_
    intro rule hrule
    cases hrule
    exact ⟨_, threshold, check, rfl, hcheck, fun hk => ⟨fields, if_pos hk⟩⟩

/-- A rule that is read for a kind has the fields of its record and the check that is read for the
kind. -/
theorem RuleRecord.plainRule_eq_ok {r : RuleRecord} {kind : RuleKind} {rule : Rule}
    (h : r.plainRule kind = .ok (some rule)) :
    ∃ fields check threshold, r.fields? = .ok (some fields) ∧ r.check kind = .ok check ∧
      rule = .plain ⟨r.code, kind,
        if kind = .prerequisites then .columns fields else Target.ofList fields, threshold,
        r.writes⟩ check := by
  obtain ⟨fields, hfields, h⟩ := bind_eq_ok.1 h
  cases fields with
  | none => simp [pure_eq_ok] at h
  | some fields =>
    obtain ⟨check, hcheck, h⟩ := bind_eq_ok.1 h
    obtain ⟨threshold, -, h⟩ := bind_eq_ok.1 h
    exact ⟨fields, check, threshold, hfields, hcheck, (Option.some.inj (pure_eq_ok.1 h)).symm⟩

theorem RuleRecord.isPlain_plainRule (r : RuleRecord) (kind : RuleKind) :
    Yields (r.plainRule kind) fun found => ∀ rule ∈ found, rule.IsPlain kind := by
  intro found hfound rule hrule
  obtain ⟨target, threshold, check, heq, htakes, -⟩ := r.plainRule_eq kind found hfound rule hrule
  exact ⟨_, check, heq, rfl, htakes⟩

/-- What is read of an inner record: its code, the kind of that, and the rule of that kind. -/
theorem Rule.innerOf_eq {r : RuleRecord} {v : Json.Value}
    (hv : r.get? "quality_function" = some v) :
    innerOf r = match v.get? "code" with
      | some (.text code) =>
        match RuleKind.ofCode? code with
        | some kind =>
          if isWrappable kind then RuleRecord.ofJson code v >>= fun inner => inner.plainRule kind
          else .error (.unsupportedInner r.code kind.name)
        | none => .error (.unknownCode code)
      | _ => .error (.missing r.code "quality_function.code") := by
  rw [innerOf, RuleRecord.require, hv]
  dsimp only [bind, Except.bind]
  cases v.get? "code" with
  | none => rfl
  | some found =>
    cases found with
    | text code =>
      dsimp only
      cases RuleKind.ofCode? code with
      | none => rfl
      | some kind =>
        dsimp only
        cases isWrappable kind <;> rfl
    | _ => rfl

theorem RuleRecord.get?_of_require {r : RuleRecord} {key : String} {v : Json.Value}
    (h : r.require key = .ok v) : r.get? key = some v := by
  unfold RuleRecord.require at h
  split at h
  · next w hw => exact hw.trans (congrArg some (Except.ok.inj h))
  · cases h

theorem Rule.exists_get?_of_innerOf {r : RuleRecord} {found : Option Rule}
    (h : Rule.innerOf r = .ok found) : ∃ v, r.get? "quality_function" = some v := by
  obtain ⟨v, hv, -⟩ := bind_eq_ok.1 h
  exact ⟨v, RuleRecord.get?_of_require hv⟩

/-- An inner rule is read from its record for the kind of its code. -/
theorem Rule.exists_plainRule_of_innerOf {r : RuleRecord} {inner : Rule}
    (h : Rule.innerOf r = .ok (some inner)) :
    ∃ v code kind q, r.get? "quality_function" = some v ∧ v.get? "code" = some (.text code) ∧
      RuleKind.ofCode? code = some kind ∧ Rule.isWrappable kind = true ∧
      RuleRecord.ofJson code v = .ok q ∧ q.plainRule kind = .ok (some inner) := by
  obtain ⟨v, hv⟩ := Rule.exists_get?_of_innerOf h
  rw [Rule.innerOf_eq hv] at h
  split at h
  · next code hcode =>
    split at h
    · next kind hkind =>
      split at h
      · next hwrappable =>
        obtain ⟨q, hq, hrule⟩ := bind_eq_ok.1 h
        exact ⟨v, code, kind, q, hv, hcode, hkind, hwrappable, hq, hrule⟩
      · cases h
    · cases h
  · cases h

/-- A conditional rule wraps a plain rule of a kind that may be wrapped. -/
theorem Rule.isPlain_of_innerOf {r : RuleRecord} {inner : Rule}
    (h : Rule.innerOf r = .ok (some inner)) :
    ∃ kind, Rule.isWrappable kind = true ∧ inner.IsPlain kind := by
  obtain ⟨-, -, kind, q, -, -, -, hwrappable, -, hrule⟩ := Rule.exists_plainRule_of_innerOf h
  exact ⟨kind, hwrappable, q.isPlain_plainRule kind _ hrule inner rfl⟩

/-- What a rule looks like that was read from the record of a code. -/
inductive Rule.ReadFor (code : String) : Rule → Prop
  /-- A guard names the columns that it requires one by one. -/
  | plain {kind : RuleKind} {target : Target} {threshold : Float} {writes : Bool} {check : Check}
      (takes : kind.takes check = true)
      (columns : kind = .prerequisites → ∃ names, target = .columns names) :
      ReadFor code (.plain ⟨code, kind, target, threshold, writes⟩ check)
  /-- A conditional rule applies to the columns of the rule that it wraps. -/
  | conditional {kind : RuleKind} {threshold : Float} {writes : Bool} {condition : Condition}
      {filters : List RowFilter} {inner : Rule} (plain : inner.IsPlain kind)
      (wrappable : Rule.isWrappable kind = true) :
      ReadFor code (.conditional ⟨code, .conditionalRule, inner.head.target, threshold, writes⟩
        condition filters inner)

private theorem readFor_plainRule (r : RuleRecord) (kind : RuleKind) :
    Yields (r.plainRule kind) fun found => ∀ rule ∈ found, rule.ReadFor r.code := by
  intro found hfound rule hrule
  obtain ⟨target, threshold, check, rfl, htakes, hcolumns⟩ :=
    r.plainRule_eq kind found hfound rule hrule
  exact .plain htakes hcolumns

private theorem readFor_conditionalOf (r : RuleRecord) :
    Yields (Rule.conditionalOf r) fun found => ∀ rule ∈ found, rule.ReadFor r.code := by
  refine .bind fun condition => .bind fun filters => ?_
  refine .bind_of (p := fun inner => Rule.innerOf r = .ok inner) (fun _ h => h) fun inner hr => ?_
  cases inner with
  | none => exact .pure (by simp)
  | some inner =>
    refine .bind fun threshold => .pure ?_
    intro rule hrule
    cases hrule
    obtain ⟨kind, hk, hi⟩ := Rule.isPlain_of_innerOf hr
    exact .conditional hi hk

private theorem code_ofJson (code : String) (v : Json.Value) :
    Yields (RuleRecord.ofJson code v) (·.code = code) := by
  intro r hr
  unfold RuleRecord.ofJson at hr
  split at hr
  · cases hr
    rfl
  · cases hr

theorem Rule.readFor_ofRecord (code : String) (record : Json.Value) :
    Yields (Rule.ofRecord code record) fun found => ∀ rule ∈ found, rule.ReadFor code := by
  unfold Rule.ofRecord
  split
  · refine .bind_of (code_ofJson code record) fun r hr => ?_
    subst hr
    split
    · exact readFor_conditionalOf r
    · exact readFor_plainRule r _
  · exact .throw

theorem Rule.ReadFor.code_eq {code : String} {rule : Rule} (h : rule.ReadFor code) :
    rule.head.code = code := by
  cases h <;> rfl

namespace Config

/-- The accepted rules in the order of the configuration, each with the key of its record. -/
def accepted (c : Config) : List (String × Rule) :=
  c.rules.filterMap fun (code, record) =>
    match Rule.ofRecord code record with
    | .ok (some r) => some (code, r)
    | _ => none

theorem acceptedRules_eq_accepted (c : Config) : c.acceptedRules = c.accepted.map (·.2) := by
  unfold acceptedRules rulesOf parsed accepted
  rw [List.filterMap_map, List.map_filterMap]
  apply List.filterMap_congr
  rintro ⟨code, record⟩ -
  dsimp only [Function.comp]
  rcases Rule.ofRecord code record with _ | _ | _ <;> rfl

theorem readFor_of_mem_accepted {c : Config} {code : String} {r : Rule}
    (h : (code, r) ∈ c.accepted) : r.ReadFor code := by
  obtain ⟨⟨code', record⟩, -, heq⟩ := List.mem_filterMap.1 h
  dsimp only at heq
  split at heq
  · next hof =>
    cases heq
    exact Rule.readFor_ofRecord _ record _ hof r rfl
  · cases heq

end Config

end TableAudit
