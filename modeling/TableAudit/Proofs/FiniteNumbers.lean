import TableAudit.Proofs.JsonNumbers
import TableAudit.Proofs.Records
import TableAudit.Proofs.Serialization

/-!
# Numbers that are not finite

The numbers of a rule are those of its record, and numbers spelt in texts of it. JSON has finite
numbers only, but a text may spell an infinity, a NaN, or a number past the largest float, and is
accepted. So an accepted rule has finite numbers only if all texts that are read as numbers spell
such.
-/

namespace TableAudit

open Json (Value)

/-- Whether the float that a text spells, if it spells one, is finite. -/
def Decimal.spellsFinite (s : String) : Bool := (readFloat (Text.trim s)).all isFinite

theorem Json.Value.isFinite_float? {v : Value} (hv : v.IsSound) {x : Float}
    (h : v.float? = some x) : Decimal.isFinite x = v.text?.all Decimal.spellsFinite := by
  cases hv with
  | number hn =>
    obtain rfl := Option.some.inj h
    exact (Json.Number.readFloat_text hn).2
  | text s =>
    have hs : Decimal.readFloat (Text.trim s) = some x := h
    simp [Value.text?, Decimal.spellsFinite, hs]
  | _ => cases h

theorem RangeLimit.isFinite_ofText (s : String) :
    (ofText s).isFinite = Decimal.spellsFinite s := by
  unfold ofText Decimal.spellsFinite
  cases Decimal.readFloat (Text.trim s) <;> rfl

/-- A limit from a scalar is finite unless it is a text that spells another number. -/
theorem RangeLimit.isFinite_of_scalarText? {v : Value} (hv : v.IsSound) {s : String}
    (h : v.scalarText? = some s) :
    (ofText s).isFinite = v.text?.all Decimal.spellsFinite := by
  rw [isFinite_ofText]
  cases hv with
  | number hn =>
    obtain rfl := Option.some.inj h
    obtain ⟨hread, hfinite⟩ := Json.Number.readFloat_text hn
    simp [Decimal.spellsFinite, hread, hfinite, Value.text?]
  | text s =>
    obtain rfl := Option.some.inj h
    simp [Value.text?]
  | bool b =>
    obtain rfl := Option.some.inj h
    cases b <;> decide +kernel
  | _ => cases h

namespace RuleRecord

variable {r : RuleRecord}

def IsSound (r : RuleRecord) : Prop := ∀ key v, r.get? key = some v → v.IsSound

def spellsFinite (r : RuleRecord) (key : String) : Bool :=
  ((r.get? key).bind Value.text?).all Decimal.spellsFinite

theorem isSound_ofJson {code : String} {v : Value} (hv : v.IsSound)
    (h : RuleRecord.ofJson code v = .ok r) : r.IsSound := by
  cases hv with
  | @object entries hentries =>
    cases h
    intro key v hget
    obtain ⟨hfind, -⟩ := Option.filter_eq_some_iff.1 hget
    obtain ⟨e, he, rfl⟩ := Option.map_eq_some_iff.1 hfind
    obtain ⟨e', he', rfl⟩ := List.mem_map.1 (List.mem_reverse.1 (List.mem_of_find?_eq_some he))
    exact hentries e' he'
  | _ => cases h

theorem isFinite_number? (hr : r.IsSound) {key : String} {found : Option Float}
    (h : r.number? key = .ok found) : found.all Decimal.isFinite = r.spellsFinite key := by
  unfold number? at h
  unfold spellsFinite
  cases hget : r.get? key with
  | none =>
    rw [hget] at h
    cases h
    rfl
  | some v =>
    rw [hget] at h
    dsimp only at h
    split at h
    · next x hx =>
      cases h
      rw [Option.all_some, Option.bind_some, Value.isFinite_float? (hr key v hget) hx]
    · cases h

theorem isFinite_limit? (hr : r.IsSound) {key : String} {found : Option RangeLimit}
    (h : r.limit? key = .ok found) : found.all RangeLimit.isFinite = r.spellsFinite key := by
  unfold limit? at h
  unfold spellsFinite
  cases hget : r.get? key with
  | none =>
    rw [hget] at h
    cases h
    rfl
  | some v =>
    rw [hget] at h
    dsimp only at h
    split at h
    · next s hs =>
      have hscalar := (Option.filter_eq_some_iff.1 hs).1
      cases h
      rw [Option.all_some, Option.bind_some,
        RangeLimit.isFinite_of_scalarText? (hr key v hget) hscalar]
    · cases h

theorem isFinite_threshold (hr : r.IsSound) {x : Float} (h : r.threshold = .ok x) :
    Decimal.isFinite x = r.spellsFinite "threshold" := by
  obtain ⟨found, hfound, rfl⟩ := map_eq_ok.1 h
  rw [← isFinite_number? hr hfound]
  cases found with
  | none => decide +kernel
  | some x => rfl

theorem isFinite_bounds (hr : r.IsSound) {b : RangeBounds} (h : r.bounds = .ok b) :
    b.isFinite = (r.spellsFinite "min_range" && r.spellsFinite "max_range") := by
  obtain ⟨min, hmin, h⟩ := bind_eq_ok.1 h
  obtain ⟨max, hmax, h⟩ := bind_eq_ok.1 h
  obtain rfl := pure_eq_ok.1 h
  rw [← isFinite_limit? hr hmin, ← isFinite_limit? hr hmax]
  rfl

theorem isFinite_range (hr : r.IsSound) {check : Check} (h : r.range = .ok check) :
    check.isFinite = (r.spellsFinite "min_range" && r.spellsFinite "max_range") := by
  obtain ⟨b, hb, h⟩ := bind_eq_ok.1 h
  have hcheck : check = .range b := by
    dsimp only at h
    split at h
    · cases h
    · exact (pure_eq_ok.1 h).symm
  rw [hcheck, ← isFinite_bounds hr hb]
  rfl

theorem isFinite_timeRange (hr : r.IsSound) {check : Check} (h : r.timeRange = .ok check) :
    check.isFinite = (r.spellsFinite "min_range" && r.spellsFinite "max_range") := by
  have hy : Yields r.timeRange fun check =>
      check.isFinite = (r.spellsFinite "min_range" && r.spellsFinite "max_range") := by
    unfold timeRange
    dsimp only
    split <;>
    · refine .bind fun unit => .bind fun reference => .bind fun format => ?_
      exact .bind_of (fun b hb => isFinite_bounds hr hb) fun b hb => .pure hb
  exact hy check h

theorem isFinite_numericOperation (hr : r.IsSound) {check : Check}
    (h : r.numericOperation = .ok check) : check.isFinite = r.spellsFinite "error_val" := by
  have hy : Yields r.numericOperation fun check => check.isFinite = r.spellsFinite "error_val" := by
    have htolerance : ∀ found : Option Float,
        found.all Decimal.isFinite = r.spellsFinite "error_val" →
          Decimal.isFinite (found.getD 0) = r.spellsFinite "error_val" := by
      rintro (_ | x) hx
      · rw [← hx]
        decide +kernel
      · exact hx
    refine .bind fun raw => .bind fun operator => .bind fun operand => ?_
    dsimp only
    split
    · exact .bind_of .throw fun _ (hf : False) => hf.elim
    · exact .bind_of (fun found hfound => isFinite_number? hr hfound)
        fun found hfound => .pure (htolerance found hfound)
  exact hy check h

end RuleRecord

/-- The parameters of a kind, apart from the threshold, that are read as floats. -/
def RuleKind.numberKeys : RuleKind → List String
  | .rangeCheck | .timeRangeCheck => ["min_range", "max_range"]
  | .numericOperationCheck => ["error_val"]
  | _ => []

theorem RuleKind.isFinite_of_takes {kind : RuleKind} {check : Check}
    (htakes : kind.takes check = true) (hkeys : kind.numberKeys = []) : check.isFinite = true := by
  cases check with
  | range | timeRange | numericOperation =>
    cases kind <;> simp_all [takes, numberKeys]
  | _ => rfl

namespace RuleRecord

variable {r : RuleRecord} {kind : RuleKind}

def numberTexts (r : RuleRecord) (kind : RuleKind) : List String :=
  ("threshold" :: kind.numberKeys).filterMap fun key => (r.get? key).bind Value.text?

theorem all_numberTexts (r : RuleRecord) (kind : RuleKind) :
    (r.numberTexts kind).all Decimal.spellsFinite =
      (r.spellsFinite "threshold" && kind.numberKeys.all r.spellsFinite) := by
  rw [numberTexts, List.all_filterMap, List.all_cons]
  congr 1

theorem isFinite_check (hr : r.IsSound) {check : Check} (h : r.check kind = .ok check) :
    check.isFinite = kind.numberKeys.all r.spellsFinite := by
  have htakes := r.takes_check kind check h
  cases kind with
  | rangeCheck => simpa [RuleKind.numberKeys] using isFinite_range hr h
  | timeRangeCheck => simpa [RuleKind.numberKeys] using isFinite_timeRange hr h
  | numericOperationCheck => simpa [RuleKind.numberKeys] using isFinite_numericOperation hr h
  | _ => exact RuleKind.isFinite_of_takes htakes rfl

/-- A rule without a condition is finite if all texts that are read as its floats spell finite
ones. -/
theorem isFinite_plainRule (hr : r.IsSound) {rule : Rule}
    (h : r.plainRule kind = .ok (some rule)) :
    rule.isFinite = (r.numberTexts kind).all Decimal.spellsFinite := by
  obtain ⟨fields, -, h⟩ := bind_eq_ok.1 h
  cases fields with
  | none => cases h
  | some fields =>
    obtain ⟨check, hcheck, h⟩ := bind_eq_ok.1 h
    obtain ⟨threshold, hthreshold, h⟩ := bind_eq_ok.1 h
    obtain rfl := Option.some.inj (pure_eq_ok.1 h)
    rw [all_numberTexts, ← isFinite_threshold hr hthreshold, ← isFinite_check hr hcheck]
    rfl

end RuleRecord

namespace RowFilter

/-- Whether a sign, without blanks and in small letters, compares with a number. -/
def isOrdering (sign : String) : Bool :=
  ((Comparison.ofText? sign).filter fun op => op != .eq && op != .ne).isSome

def literalText? : Value → Option String
  | .list [_, .text sign, .text literal] =>
    if isOrdering (Text.lower (Text.trim sign)) then some literal else none
  | _ => none

theorem literalText?_eq (column : Value) (sign : String) (value : Value) :
    literalText? (.list [column, .text sign, value]) =
      if isOrdering (Text.lower (Text.trim sign)) then value.text? else none := by
  cases value <;> simp [literalText?, Value.text?]

/-- What is said of a column in a filter with an accepted sign: other signs than those that compare
have no number. -/
theorem isFinite_ofJson {code : String} {entry : Value} (hentry : entry.IsSound) {f : RowFilter}
    (h : ofJson code entry = .ok f) :
    f.test.isFinite = (literalText? entry).all Decimal.spellsFinite := by
  unfold ofJson at h
  dsimp only at h
  split at h
  · next column sign value =>
    split at h
    · next column =>
      split at h
      · next sign =>
        have hvalue : value.IsSound := by
          cases hentry with
          | list hitems => exact hitems value (by simp)
        have hlist : ∀ test : List String → FilterTest, (∀ values, (test values).isFinite = true) →
            (textList code "filter_list" value >>= fun values => pure ⟨column, test values⟩) =
              .ok f → f.test.isFinite = true := by
          intro test htest h
          obtain ⟨values, -, h⟩ := bind_eq_ok.1 h
          exact pure_eq_ok.1 h ▸ htest values
        rw [literalText?_eq]
        generalize Text.lower (Text.trim sign) = sign at h ⊢
        split at h
        · exact hlist .isIn (fun _ => rfl) h
        · exact hlist .isIn (fun _ => rfl) h
        · exact hlist .notIn (fun _ => rfl) h
        · exact hlist .notIn (fun _ => rfl) h
        · split at h <;> cases h <;> rfl
        · split at h
          · cases h
          · next op hop =>
            have hordering : isOrdering sign = true := by
              rw [isOrdering, hop]
              rfl
            rw [if_pos hordering]
            split at h
            · next literal hliteral =>
              obtain rfl := pure_eq_ok.1 h
              exact Value.isFinite_float? hvalue hliteral
            · cases h
      · cases h
    · cases h
  · cases h

end RowFilter

theorem RowFilter.isFinite_mapM {code : String} {entries : List Value}
    (hentries : ∀ e ∈ entries, e.IsSound) {filters : List RowFilter}
    (h : entries.mapM (RowFilter.ofJson code) = .ok filters) :
    filters.all (·.test.isFinite) =
      (entries.filterMap RowFilter.literalText?).all Decimal.spellsFinite := by
  rw [List.all_filterMap]
  induction entries generalizing filters with
  | nil =>
    cases h
    rfl
  | cons e entries ih =>
    rw [List.mapM_cons] at h
    obtain ⟨f, hf, h⟩ := bind_eq_ok.1 h
    obtain ⟨fs, hfs, h⟩ := bind_eq_ok.1 h
    obtain rfl := pure_eq_ok.1 h
    obtain ⟨he, hentries⟩ := List.forall_mem_cons.1 hentries
    rw [List.all_cons, List.all_cons, RowFilter.isFinite_ofJson he hf, ih hentries hfs]
    rfl

namespace Rule

variable {r : RuleRecord}

def filterTexts (r : RuleRecord) : List String :=
  match r.get? "filter_list" with
  | some (.list entries) => entries.filterMap RowFilter.literalText?
  | _ => []

def innerTexts (r : RuleRecord) : List String :=
  match r.get? "quality_function" with
  | none => []
  | some v =>
    match v.get? "code" with
    | some (.text code) =>
      match RuleKind.ofCode? code, RuleRecord.ofJson code v with
      | some kind, .ok inner => inner.numberTexts kind
      | _, _ => []
    | _ => []

def numberTexts (code : String) (record : Value) : List String :=
  match RuleKind.ofCode? code, RuleRecord.ofJson code record with
  | some kind, .ok r =>
    r.numberTexts kind ++ if kind = .conditionalRule then filterTexts r ++ innerTexts r else []
  | _, _ => []

theorem isFinite_filtersOf (hr : r.IsSound) {filters : List RowFilter}
    (h : filtersOf r = .ok filters) :
    filters.all (·.test.isFinite) = (filterTexts r).all Decimal.spellsFinite := by
  obtain ⟨v, hv, h⟩ := bind_eq_ok.1 h
  have hget := RuleRecord.get?_of_require hv
  split at h
  · next e entries =>
    have hentries : ∀ e' ∈ e :: entries, e'.IsSound := by
      cases hr _ _ hget with
      | list hitems => exact hitems
    rw [filterTexts, hget]
    exact RowFilter.isFinite_mapM hentries h
  · cases h

theorem isFinite_innerOf (hr : r.IsSound) {inner : Rule} (h : innerOf r = .ok (some inner)) :
    inner.isFinite = (innerTexts r).all Decimal.spellsFinite := by
  obtain ⟨v, code, kind, q, hv, hcode, hkind, -, hq, hrule⟩ := exists_plainRule_of_innerOf h
  have hsound := RuleRecord.isSound_ofJson (hr _ _ hv) hq
  simp only [innerTexts, hv, hcode, hkind, hq, RuleRecord.isFinite_plainRule hsound hrule]

theorem isFinite_conditionalOf (hr : r.IsSound) {rule : Rule}
    (h : conditionalOf r = .ok (some rule)) :
    rule.isFinite = (r.numberTexts .conditionalRule ++ (filterTexts r ++ innerTexts r)).all
      Decimal.spellsFinite := by
  obtain ⟨condition, -, h⟩ := bind_eq_ok.1 h
  obtain ⟨filters, hfilters, h⟩ := bind_eq_ok.1 h
  obtain ⟨inner, hinner, h⟩ := bind_eq_ok.1 h
  cases inner with
  | none => cases h
  | some inner =>
    obtain ⟨threshold, hthreshold, h⟩ := bind_eq_ok.1 h
    obtain rfl := Option.some.inj (pure_eq_ok.1 h)
    have hnone : (RuleKind.numberKeys .conditionalRule).all r.spellsFinite = true := rfl
    rw [List.all_append, List.all_append, RuleRecord.all_numberTexts, hnone, Bool.and_true,
      ← RuleRecord.isFinite_threshold hr hthreshold, ← isFinite_filtersOf hr hfilters,
      ← isFinite_innerOf hr hinner, ← Bool.and_assoc]
    rfl

end Rule

/-- An accepted rule has finite numbers exactly if all texts of its record that are read as numbers
spell finite ones, and so has an accepted filter. The number of a data cell is what its text spells,
as long as this is finite. -/
theorem numbers_of_accepted {record : Value} (hrecord : record.IsSound) (code : String) :
    (∀ rule, Rule.ofRecord code record = .ok (some rule) →
      rule.isFinite = (Rule.numberTexts code record).all Decimal.spellsFinite) ∧
    (∀ f, RowFilter.ofJson code record = .ok f →
      f.test.isFinite = (RowFilter.literalText? record).all Decimal.spellsFinite) ∧
    ∀ s x, Decimal.cellNumber s = some x ↔
      Decimal.readFloat (Text.trim s) = some x ∧ Decimal.isFinite x = true := by
  refine ⟨fun rule h => ?_, fun f h => RowFilter.isFinite_ofJson hrecord h,
    fun s x => Option.filter_eq_some_iff⟩
  unfold Rule.ofRecord at h
  split at h
  · next kind hkind =>
    obtain ⟨r, hread, hrule⟩ := bind_eq_ok.1 h
    have hr := RuleRecord.isSound_ofJson hrecord hread
    simp only [Rule.numberTexts, hkind, hread]
    split at hrule
    · next hconditional =>
      subst hconditional
      rw [if_pos rfl]
      exact Rule.isFinite_conditionalOf hr hrule
    · next hplain =>
      rw [if_neg hplain, List.append_nil]
      exact RuleRecord.isFinite_plainRule hr hrule
  · cases h

/-- The record of a conditional rule whose numbers are texts: a threshold, a literal of a filter,
and a limit of the inner rule. -/
def Json.Value.ofAmounts (threshold literal limit : String) : Value :=
  .object [("threshold", .text threshold),
    ("filter_list", .list [.list [.text "amount", .text ">=", .text literal]]),
    ("quality_function", .object [("code", .text "105"), ("fields", .text "amount"),
      ("min_range", .ofNat 5), ("max_range", .text limit)])]

theorem Json.Value.isSound_ofAmounts (threshold literal limit : String) :
    (ofAmounts threshold literal limit).IsSound := by
  have hfilter : (list [.text "amount", .text ">=", .text literal]).IsSound :=
    .list (by simpa using ⟨.text _, .text _, .text _⟩)
  have hinner : (object [("code", .text "105"), ("fields", .text "amount"),
      ("min_range", .ofNat 5), ("max_range", .text limit)]).IsSound :=
    .object (by
      have hfive : (Json.Number.int 5).IsSound := show Int.natAbs 5 < 2 ^ 64 by decide
      simpa using ⟨.text _, .text _, .number hfive, .text _⟩)
  exact .object (by simpa using ⟨.text _, .list (by simpa using hfilter), hinner⟩)

theorem numbers_of_accepted_amounts :
    ∃ rule, Rule.ofRecord "116" (.ofAmounts "99.5" "-1e3" " +2.5e+10 ") = .ok (some rule) ∧
      rule.isFinite = true := by
  obtain ⟨rule, hrule⟩ : ∃ rule,
      Rule.ofRecord "116" (.ofAmounts "99.5" "-1e3" " +2.5e+10 ") = .ok (some rule) := ⟨_, rfl⟩
  obtain ⟨hfinite, -⟩ :=
    numbers_of_accepted (Value.isSound_ofAmounts "99.5" "-1e3" " +2.5e+10 ") "116"
  refine ⟨rule, hrule, ?_⟩
  rw [hfinite rule hrule]
  decide +kernel

def Json.Value.ofTolerance (tolerance : String) : Value :=
  .object [("fields", .text "a"), ("operator", .text "=="), ("input_val", .text "b"),
    ("error_val", .text tolerance)]

/-- Texts that spell other numbers are accepted for a tolerance, for a threshold, for a literal and
for a limit, but not in a data cell. -/
theorem infinite_texts_accepted :
    (∃ rule, Rule.ofRecord "113" (.ofTolerance "inf") = .ok (some rule) ∧
      rule.isFinite = false) ∧
    (∃ rule, Rule.ofRecord "116" (.ofAmounts "1e999" "0" "9") = .ok (some rule) ∧
      rule.isFinite = false) ∧
    (∃ rule, Rule.ofRecord "116" (.ofAmounts "90" "NaN" "9") = .ok (some rule) ∧
      rule.isFinite = false) ∧
    (∃ rule, Rule.ofRecord "116" (.ofAmounts "90" "0" "inf") = .ok (some rule) ∧
      rule.isFinite = false) ∧
    (∃ f, RowFilter.ofJson "116" (.list [.text "amount", .text ">", .text "-inf"]) = .ok f ∧
      f.test.isFinite = false) ∧
    ∀ s ∈ ["1e999", "NaN", "inf", "-inf"], Decimal.cellNumber s = none := by
  have hcells : ∀ s ∈ ["1e999", "NaN", "inf", "-inf"], (Decimal.cellNumber s).isNone = true := by
    decide +kernel
  exact ⟨⟨_, rfl, by decide +kernel⟩, ⟨_, rfl, by decide +kernel⟩, ⟨_, rfl, by decide +kernel⟩,
    ⟨_, rfl, by decide +kernel⟩, ⟨_, rfl, by decide +kernel⟩,
    fun s hs => Option.isNone_iff_eq_none.1 (hcells s hs)⟩

end TableAudit
