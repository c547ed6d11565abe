import TableAudit.Proofs.Contributions
import TableAudit.Proofs.StorageTypes

/-!
# Characters at given positions

A check of positions looks at a span of each text, from a first to a last position counted from one.
The length of the span is computed from the number after the last position, so the span is the one
asked for as long as that number fits 64 bits. Beyond that any text makes the check overflow.
-/

namespace TableAudit

/-- The characters at the positions from `first` to `last`, counted from one. -/
def Text.between (first last : Nat) (text : String) : String :=
  String.ofList (((text.toList.zipIdx 1).filter fun (_, p) => first ≤ p && p ≤ last).map Prod.fst)

private theorem filter_positions (first last start : Nat) (cs : List Char) :
    ((cs.zipIdx start).filter fun (_, p) => first ≤ p && p ≤ last).map Prod.fst =
      (cs.drop (first - start)).take (last + 1 - max first start) := by
  induction cs generalizing start with
  | nil => simp
  | cons c cs ih =>
    have hcs := ih (start + 1)
    rw [List.zipIdx_cons]
    rcases Nat.lt_or_ge start first with hbelow | hwithin
    · have hdrop : first - start = (first - (start + 1)) + 1 := by omega
      have hmax : max first start = max first (start + 1) := by omega
      rw [hdrop, hmax, List.drop_succ_cons, ← hcs, List.filter_cons_of_neg (by simp; omega)]
    · have hdrop : first - start = 0 := by omega
      have hdrop' : first - (start + 1) = 0 := by omega
      rw [hdrop, Nat.max_eq_right hwithin, List.drop_zero]
      rw [hdrop', Nat.max_eq_right (by omega), List.drop_zero] at hcs
      rcases Nat.lt_or_ge last start with habove | hinside
      · have hzero : last + 1 - (start + 1) = 0 := by omega
        have hzero' : last + 1 - start = 0 := by omega
        rw [hzero, List.take_zero] at hcs
        rw [hzero', List.take_zero, List.filter_cons_of_neg (by simp; omega), hcs]
      · have hsucc : last + 1 - start = (last + 1 - (start + 1)) + 1 := by omega
        rw [hsucc, List.take_succ_cons, List.filter_cons_of_pos (by simp; omega), List.map_cons,
          hcs]

namespace RowCheck

variable {first last : UInt64}

/-- The span is taken exactly, unless the number after the last position is too large. -/
theorem span_eq (hfirst : 0 < first.toNat) (text : String) :
    span first last text = if last.toNat + 1 < UInt64.size then
      some (Text.between first.toNat last.toNat text) else none := by
  have hne : first ≠ 0 := fun h => by simp [h] at hfirst
  simp only [span, if_neg hne, Text.between, filter_positions, Nat.max_eq_left hfirst]

/-- As long as spans can be computed, the check is one of texts. -/
theorem atPosition_eq_textCheck (hfirst : 0 < first.toNat) (hlast : last.toNat + 1 < UInt64.size)
    (s : Schema) (field : String) (expected : List String) :
    atPosition s field first last expected = textCheck s field fun text =>
      !expected.contains (Text.between first.toNat last.toNat text) := by
  have hspan (text : String) :
      span first last text = some (Text.between first.toNat last.toNat text) := by
    rw [span_eq hfirst, if_pos hlast]
  have hcheck (i : Nat) : RowCheck.mk (fun _ => true)
      (fun row => ((row.text? i).bind (span first last)).any (!expected.contains ·))
      (fun row => (row.text? i).any fun text => (span first last text).isNone) =
      ofEvery fun row => (row.text? i).any fun text =>
        !expected.contains (Text.between first.toNat last.toNat text) := by
    rw [ofEvery, RowCheck.mk.injEq]
    refine ⟨rfl, funext fun row => ?_, funext fun row => ?_⟩ <;> cases row.text? i <;> simp [hspan]
  exact congrArg (findColumn s field >>= ·) (funext fun i => congrArg Pure.pure (hcheck i))

/-- Otherwise it overflows on any text, and without one it says what all checks of texts do. -/
theorem judge_atPosition {t : Table} {field : String} (h : field ∈ t.names)
    (hlast : UInt64.size ≤ last.toNat + 1) (expected : List String) (fails : String → Bool) :
    (atPosition t.fields field first last expected).bind (·.judge t.rows) =
      if ∀ row ∈ t.rows, t.fields.cell row field = none then
        .ok ⟨t.height, t.rows.map fun row => ((t.fields.cell row field).map Cell.toText).any fails⟩
      else .error .overflow := by
  obtain ⟨i, hfind, hcell⟩ := exists_findColumn h
  have hspan : span first last = fun _ => none := funext (span_eq_none hlast)
  have htested : t.rows.countP (fun _ => true) = t.height := List.countP_eq_length.2 fun _ _ => rfl
  simp only [atPosition, hfind, hspan]
  refine (judge_eq _ _).trans ?_
  dsimp only
  split
  · next hover =>
    obtain ⟨row, hrow, hsome⟩ := List.any_eq_true.1 hover
    rw [if_neg]
    intro hmissing
    rw [hcell, hmissing row hrow] at hsome
    cases hsome
  · next hover =>
    have hmissing : ∀ row ∈ t.rows, t.fields.cell row field = none := by
      simpa [hcell] using hover
    rw [if_pos hmissing, htested]
    refine congrArg _ (congrArg _ (List.map_congr_left fun row hrow => ?_))
    simp [rejects, hmissing row hrow]

/-- A missing text passes, and so does an expected span. -/
theorem evaluate_positionValue {t : Table} {field : String} (h : field ∈ t.names)
    (hfirst : 0 < first.toNat) (expected : List String) (kind : RuleKind) (ctx : Context) :
    Check.evaluate (.positionValue first last expected) kind [field] t ctx =
      if last.toNat + 1 < UInt64.size ∨ ∀ row ∈ t.rows, t.fields.cell row field = none then
        .ok ⟨t.height, t.rows.map fun row => ((t.fields.cell row field).map Cell.toText).any
          fun text => !expected.contains (Text.between first.toNat last.toNat text)⟩
      else .error .overflow := by
  simp only [Check.evaluate, firstField, List.headD_cons]
  rcases Nat.lt_or_ge (last.toNat + 1) UInt64.size with hlast | hlast
  · rw [if_pos (.inl hlast), atPosition_eq_textCheck hfirst hlast]
    exact judge_textCheck h _
  · simp only [Nat.not_lt.2 hlast, false_or]
    exact judge_atPosition h hlast expected _

end RowCheck

/-- An accepted record has positions that span at least one character. -/
theorem RuleRecord.positions_of_check {r : RuleRecord} {first last : UInt64}
    {expected : List String} (h : r.positionValue = .ok (.positionValue first last expected)) :
    0 < first.toNat ∧ first.toNat ≤ last.toNat := by
  obtain ⟨first', -, h⟩ := bind_eq_ok.1 h
  obtain ⟨last', -, h⟩ := bind_eq_ok.1 h
  dsimp only at h
  split at h
  · obtain ⟨_, hthrow, -⟩ := bind_eq_ok.1 h
    cases hthrow
  · next hspan =>
    obtain ⟨_, -, h⟩ := bind_eq_ok.1 h
    cases h
    simp only [Bool.or_eq_true, decide_eq_true_eq, not_or, UInt64.lt_iff_toNat_lt,
      ← UInt64.toNat_inj, UInt64.toNat_zero] at hspan
    omega

/-- The characters that the check of an accepted record compares are those between its positions, as
far as the text has them, if the number after the last position fits 64 bits. The check fails a row
if its text is there and these characters are not expected. If the number does not fit, then there
are no such characters, and the check overflows unless all texts are missing. -/
theorem span_of_accepted {code : String} {record : Json.Value} {rule : Rule} {head : RuleHead}
    {first last : UInt64} {expected : List String}
    (h : Rule.ofRecord code record = .ok (some rule))
    (hcore : rule.core = .plain head (.positionValue first last expected)) :
    (0 < first.toNat ∧ first.toNat ≤ last.toNat) ∧
      (∀ text, RowCheck.span first last text = if last.toNat + 1 < UInt64.size then
        some (Text.between first.toNat last.toNat text) else none) ∧
      ∀ (t : Table) (field : String) (ctx : Context), field ∈ t.names →
        Check.evaluate (.positionValue first last expected) head.kind [field] t ctx =
          if last.toNat + 1 < UInt64.size ∨ ∀ row ∈ t.rows, t.fields.cell row field = none then
            .ok ⟨t.height, t.rows.map fun row => ((t.fields.cell row field).map Cell.toText).any
              fun text => !expected.contains (Text.between first.toNat last.toNat text)⟩
          else .error .overflow := by
  obtain ⟨r, fields, -, hcheck, htakes, -⟩ := Rule.exists_check_core h hcore
  have hkind : head.kind = .positionValueCheck := RuleKind.eq_of_takes htakes rfl (by simp)
  rw [hkind] at hcheck
  obtain ⟨hfirst, hlast⟩ := RuleRecord.positions_of_check hcheck
  exact ⟨⟨hfirst, hlast⟩, RowCheck.span_eq hfirst, fun t field ctx hfield =>
    RowCheck.evaluate_positionValue hfield hfirst expected head.kind ctx⟩

/-- An account that starts with a country, one that is too short, and none. -/
theorem span_of_accepted_account :
    ∃ head, Rule.ofRecord "117" (.ofAccount 2) =
        .ok (some (.plain head (.positionValue 1 2 ["PE", "CO"]))) ∧
      RowCheck.span 1 2 "PE001" = some (Text.between 1 2 "PE001") ∧
      Check.evaluate (.positionValue 1 2 ["PE", "CO"]) head.kind ["account"]
          (.ofTexts "account" [some "PE001", some "P", none]) ⟨[], ⟨2024, 6, 1⟩⟩ =
        .ok ⟨3, [false, true, false]⟩ := by
  have hread : ∃ head, Rule.ofRecord "117" (.ofAccount 2) =
      .ok (some (.plain head (.positionValue 1 2 ["PE", "CO"]))) := ⟨_, rfl⟩
  obtain ⟨head, hread⟩ := hread
  obtain ⟨-, hspan, heval⟩ := span_of_accepted hread rfl
  have hlast : (2 : UInt64).toNat + 1 < UInt64.size := by decide
  refine ⟨head, hread, (hspan "PE001").trans (if_pos hlast), ?_⟩
  exact (heval _ "account" _ (by decide)).trans (if_pos (.inl hlast))

/-- The last position of 64 bits is accepted, and then the span of an expected account cannot be
computed, although all of its characters are asked for. -/
theorem span_of_last_position :
    ∃ head, Rule.ofRecord "117" (.ofAccount 18446744073709551615) =
        .ok (some (.plain head (.positionValue 1 18446744073709551615 ["PE", "CO"]))) ∧
      RowCheck.span 1 18446744073709551615 "PE" = none ∧
      Text.between 1 18446744073709551615 "PE" = "PE" ∧
      Check.evaluate (.positionValue 1 18446744073709551615 ["PE", "CO"]) head.kind ["account"]
          (.ofTexts "account" [some "PE"]) ⟨[], ⟨2024, 6, 1⟩⟩ = .error .overflow :=
  ⟨_, rfl, rfl, rfl, rfl⟩

end TableAudit
