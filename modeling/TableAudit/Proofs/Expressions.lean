import Mathlib.Data.List.Induction
import TableAudit.Proofs.Keys
import TableAudit.Proofs.StorageTypes

/-!
# Expressions over columns

A text is an expression if its words are operands with operators between them. Two expressions with
an operator between them are therefore an expression again. Nothing in it tells where the second one
began, so its value goes on from that of the first, operator by operator.
-/

namespace TableAudit

namespace Text

theorem pieces_append_cons {p : Char → Bool} {c : Char} (h : p c = true) (cs ds : List Char) :
    pieces p (cs ++ c :: ds) = pieces p cs ++ pieces p ds := by
  induction cs with
  | nil => simp [pieces, h]
  | cons d cs ih =>
    by_cases hd : p d = true
    · simp [pieces, hd, ih]
    · obtain ⟨w, ws, hw⟩ := List.exists_cons_of_ne_nil (pieces_ne_nil p cs)
      simp [pieces, hd, ih, hw]

theorem words_append_space (s t : String) : words (s ++ " " ++ t) = words s ++ words t := by
  have hlist : (s ++ " " ++ t).toList = s.toList ++ ' ' :: t.toList := by simp
  have hblank : isBlank ' ' = true := by decide
  simp only [words, hlist, pieces_append_cons hblank, List.filter_append, List.map_append]

end Text

namespace Operator

def token : Operator → String
  | add => "+"
  | sub => "-"
  | mul => "*"
  | div => "/"

private theorem ofToken?_token (op : Operator) : ofToken? op.token = some op := by
  cases op <;> rfl

private theorem eq_token_of_ofToken? {token : String} {op : Operator}
    (h : ofToken? token = some op) :
    token = op.token := by
  unfold ofToken? at h
  split at h <;> cases h <;> rfl

private theorem words_token (op : Operator) : Text.words op.token = [op.token] := by
  cases op <;> decide

theorem mem_tokens_iff {token : String} :
    token ∈ ["+", "-", "*", "/"] ↔ ∃ op : Operator, token = op.token := by
  constructor
  · intro h
    simp only [List.mem_cons, List.not_mem_nil, or_false] at h
    rcases h with rfl | rfl | rfl | rfl
    · exact ⟨add, rfl⟩
    · exact ⟨sub, rfl⟩
    · exact ⟨mul, rfl⟩
    · exact ⟨div, rfl⟩
  · rintro ⟨op, rfl⟩
    cases op <;> decide

def joined (op : Operator) (left right : String) : String :=
  left ++ " " ++ op.token ++ " " ++ right

private theorem words_joined (op : Operator) (left right : String) :
    Text.words (op.joined left right) = Text.words left ++ [op.token] ++ Text.words right := by
  rw [joined, Text.words_append_space, Text.words_append_space, words_token]

def applyAll (x : Float) (steps : List (Operator × Float)) : Float :=
  steps.foldl (fun acc step => step.1.apply acc step.2) x

end Operator

namespace Expression

/-- An expression as it is written: its first word, then operators, each with a word behind it. -/
structure Written where
  first : String
  rest : List (Operator × String)

namespace Written

def restWords (rest : List (Operator × String)) : List String :=
  rest.flatMap fun step => [step.1.token, step.2]

def words (w : Written) : List String := w.first :: restWords w.rest

/-- What is written, each word other than an operator taken for an operand. -/
def expression (w : Written) : Expression :=
  ⟨.ofToken w.first, w.rest.map fun step => (step.1, .ofToken step.2)⟩

private theorem words_step (first token : String) (op : Operator)
    (rest : List (Operator × String)) :
    words ⟨first, (op, token) :: rest⟩ = first :: op.token :: words ⟨token, rest⟩ :=
  rfl

theorem length_words (w : Written) : w.words.length = 2 * w.rest.length + 1 := by
  obtain ⟨first, rest⟩ := w
  induction rest generalizing first with
  | nil => rfl
  | cons step rest ih =>
    rw [words_step, List.length_cons, List.length_cons, ih]
    simp only [List.length_cons]
    omega

/-- The words at even positions are those of operands. -/
theorem getElem?_words_operand (w : Written) (i : Nat) :
    w.words[2 * i]? = (w.first :: w.rest.map Prod.snd)[i]? := by
  obtain ⟨first, rest⟩ := w
  induction rest generalizing first i with
  | nil => cases i <;> rfl
  | cons step rest ih =>
    cases i with
    | zero => rfl
    | succ i => exact ih i step.2

/-- Those at odd positions are the operators. -/
theorem getElem?_words_operator (w : Written) (i : Nat) :
    w.words[2 * i + 1]? = w.rest[i]?.map fun step => step.1.token := by
  obtain ⟨first, rest⟩ := w
  induction rest generalizing first i with
  | nil => rfl
  | cons step rest ih =>
    cases i with
    | zero => rfl
    | succ i => exact ih i step.2

/-- Words are those of an expression if they are odd in number and every second one is an
operator. -/
theorem exists_words_eq_iff {tokens : List String} :
    (∃ w : Written, tokens = w.words) ↔ tokens.length % 2 = 1 ∧
      ∀ i token, tokens[2 * i + 1]? = some token → ∃ op : Operator, token = op.token := by
  constructor
  · rintro ⟨w, rfl⟩
    refine ⟨by rw [length_words]; omega, fun i token htoken => ?_⟩
    rw [getElem?_words_operator, Option.map_eq_some_iff] at htoken
    obtain ⟨step, -, rfl⟩ := htoken
    exact ⟨step.1, rfl⟩
  · rintro ⟨hodd, hoperators⟩
    induction tokens using List.twoStepInduction with
    | nil => cases hodd
    | singleton token => exact ⟨⟨token, []⟩, rfl⟩
    | cons_cons first token tokens ih =>
      obtain ⟨op, rfl⟩ := hoperators 0 token rfl
      have hrest : tokens.length % 2 = 1 := by
        simp only [List.length_cons] at hodd
        omega
      obtain ⟨w, rfl⟩ := ih hrest fun i token htoken => hoperators (i + 1) token htoken
      exact ⟨⟨first, (op, w.first) :: w.rest⟩, rfl⟩

def followedBy (w : Written) (op : Operator) (v : Written) : Written :=
  ⟨w.first, w.rest ++ (op, v.first) :: v.rest⟩

private theorem words_followedBy (w : Written) (op : Operator) (v : Written) :
    (w.followedBy op v).words = w.words ++ [op.token] ++ v.words := by
  simp [followedBy, words, restWords]

end Written

private theorem readRest_restWords (rest : List (Operator × String)) :
    readRest (Written.restWords rest) =
      .ok (rest.map fun step => (step.1, Operand.ofToken step.2)) := by
  induction rest with
  | nil => rfl
  | cons step rest ih =>
    have hwords : Written.restWords (step :: rest) =
        step.1.token :: step.2 :: Written.restWords rest := rfl
    rw [hwords, readRest, Operator.ofToken?_token]
    dsimp only
    rw [ih]
    rfl

/-- Whatever is read without complaint alternates between operators and operands. -/
theorem exists_restWords_of_readRest {tokens : List String} {rest : List (Operator × Operand)}
    (h : readRest tokens = .ok rest) : ∃ steps, tokens = Written.restWords steps := by
  fun_induction readRest tokens generalizing rest with
  | case1 => exact ⟨[], rfl⟩
  | case2 => cases h
  | case3 => cases h
  | case4 token right tokens op hop ih =>
    obtain ⟨others, hothers, -⟩ := map_eq_ok.1 h
    obtain ⟨steps, rfl⟩ := ih hothers
    obtain rfl := Operator.eq_token_of_ofToken? hop
    exact ⟨(op, right) :: steps, rfl⟩
  | case5 => cases h

/-- Reading accepts what is written as an expression, and nothing else. -/
theorem read_eq_ok_iff {raw : String} {e : Expression} :
    read raw = .ok e ↔ ∃ w : Written, Text.words raw = w.words ∧ w.expression = e := by
  unfold read
  constructor
  · intro h
    cases hwords : Text.words raw with
    | nil =>
      rw [hwords] at h
      cases h
    | cons first tokens =>
      rw [hwords] at h
      obtain ⟨rest, hrest, rfl⟩ := map_eq_ok.1 h
      obtain ⟨steps, rfl⟩ := exists_restWords_of_readRest hrest
      rw [readRest_restWords] at hrest
      obtain rfl := Except.ok.inj hrest
      exact ⟨⟨first, steps⟩, rfl, rfl⟩
  · rintro ⟨w, hwords, rfl⟩
    rw [hwords, Written.words]
    dsimp only
    rw [readRest_restWords]
    rfl

theorem exists_read_eq_ok_iff {raw : String} :
    (∃ e, read raw = .ok e) ↔ (Text.words raw).length % 2 = 1 ∧
      ∀ i token, (Text.words raw)[2 * i + 1]? = some token → token ∈ ["+", "-", "*", "/"] := by
  simp only [Operator.mem_tokens_iff]
  rw [← Written.exists_words_eq_iff]
  constructor
  · rintro ⟨e, he⟩
    obtain ⟨w, hwords, -⟩ := read_eq_ok_iff.1 he
    exact ⟨w, hwords⟩
  · rintro ⟨w, hwords⟩
    exact ⟨w.expression, read_eq_ok_iff.2 ⟨w, hwords, rfl⟩⟩

def followedBy (e : Expression) (op : Operator) (e' : Expression) : Expression :=
  ⟨e.first, e.rest ++ (op, e'.first) :: e'.rest⟩

private theorem read_followedBy {left right : String} {e e' : Expression} (h : read left = .ok e)
    (h' : read right = .ok e') (op : Operator) :
    read (op.joined left right) = .ok (e.followedBy op e') := by
  obtain ⟨w, hw, rfl⟩ := read_eq_ok_iff.1 h
  obtain ⟨v, hv, rfl⟩ := read_eq_ok_iff.1 h'
  refine read_eq_ok_iff.2 ⟨w.followedBy op v, ?_, ?_⟩
  · rw [Operator.words_joined, hw, hv, Written.words_followedBy]
  · simp [Written.followedBy, Written.expression, followedBy]

def operands (e : Expression) : List Operand := e.first :: e.rest.map Prod.snd

theorem operands_of_read {raw : String} {e : Expression} (h : read raw = .ok e) (i : Nat) :
    e.operands[i]? = (Text.words raw)[2 * i]?.map Operand.ofToken := by
  obtain ⟨w, hw, rfl⟩ := read_eq_ok_iff.1 h
  have hoperands : w.expression.operands =
      (w.first :: w.rest.map Prod.snd).map Operand.ofToken := by
    simp [operands, Written.expression]
  rw [hoperands, hw, Written.getElem?_words_operand, List.getElem?_map]

private theorem operators_of_read {raw : String} {e : Expression} (h : read raw = .ok e) (i : Nat) :
    (e.rest[i]?.map fun step => step.1.token) = (Text.words raw)[2 * i + 1]? := by
  obtain ⟨w, hw, rfl⟩ := read_eq_ok_iff.1 h
  rw [hw, Written.getElem?_words_operator, Written.expression, List.getElem?_map, Option.map_map]
  rfl

section Values

variable {value : Operand → Option Float}

def steps (value : Operand → Option Float) (rest : List (Operator × Operand)) :
    Option (List (Operator × Float)) :=
  rest.mapM fun step => (value step.2).map (step.1, ·)

theorem continueFrom_eq (x : Float) (rest : List (Operator × Operand)) :
    continueFrom value x rest = (steps value rest).map (Operator.applyAll x) := by
  induction rest generalizing x with
  | nil => rfl
  | cons step rest ih =>
    rw [continueFrom, steps, List.mapM_cons]
    cases value step.2 with
    | none => rfl
    | some y =>
      dsimp only
      rw [ih, steps]
      cases rest.mapM fun step => (value step.2).map (step.1, ·) <;> rfl

private theorem continueFrom_append (x : Float) (front behind : List (Operator × Operand)) :
    continueFrom value x (front ++ behind) =
      (continueFrom value x front).bind fun y => continueFrom value y behind := by
  induction front generalizing x with
  | nil => rfl
  | cons step front ih =>
    rw [List.cons_append, continueFrom, continueFrom]
    cases value step.2 with
    | none => rfl
    | some y => exact ih _

/-- The value of two expressions with an operator between them goes on from that of the first. -/
theorem eval_followedBy (e : Expression) (op : Operator) (e' : Expression) :
    (e.followedBy op e').eval value =
      (e.eval value).bind fun x =>
        (steps value ((op, e'.first) :: e'.rest)).map (Operator.applyAll x) := by
  have hbehind (x : Float) : continueFrom value x (e.rest ++ (op, e'.first) :: e'.rest) =
      (continueFrom value x e.rest).bind fun y =>
        (steps value ((op, e'.first) :: e'.rest)).map (Operator.applyAll y) := by
    rw [continueFrom_append]
    exact congrArg _ (funext fun y => continueFrom_eq y _)
  simp only [eval, followedBy, hbehind, Option.bind_assoc]

private theorem continueFrom_eq_none {x : Float} {rest : List (Operator × Operand)} :
    continueFrom value x rest = none ↔ ∃ step ∈ rest, value step.2 = none := by
  induction rest generalizing x with
  | nil => simp [continueFrom]
  | cons step rest ih =>
    rw [continueFrom, List.exists_mem_cons_iff]
    cases value step.2 with
    | none => simp
    | some y => simp [ih]

private theorem eval_eq_none {e : Expression} :
    e.eval value = none ↔ ∃ operand ∈ e.operands, value operand = none := by
  have hrest : (∃ operand ∈ e.rest.map Prod.snd, value operand = none) ↔
      ∃ step ∈ e.rest, value step.2 = none := by
    simp only [List.mem_map, exists_exists_and_eq_and]
  rw [eval, operands, List.exists_mem_cons_iff, hrest]
  cases value e.first with
  | none => simp
  | some x => simp [continueFrom_eq_none]

end Values

end Expression

def Operand.valueIn (s : Schema) (row : Row) : Operand → Option Float
  | .number x => some x
  | .column name => (s.cell row name).bind Cell.toNumber?

theorem Operand.valueIn_ofToken_eq_none {s : Schema} {row : Row} {token : String} :
    (Operand.ofToken token).valueIn s row = none ↔
      Decimal.readFloat token = none ∧ (s.cell row token).bind Cell.toNumber? = none := by
  unfold ofToken
  split
  · next x hx => simp [valueIn, hx]
  · next hx => simp [valueIn, hx]

namespace Expression

def valueIn (s : Schema) (row : Row) (e : Expression) : Option Float :=
  e.eval (Operand.valueIn s row)

/-- Whether a row fails the comparison of a column with an expression: a number or the value is
missing, or they do not stand in the relation. -/
def failsIn (s : Schema) (field : String) (operator : Comparison) (tolerance : Float)
    (e : Expression) (row : Row) : Bool :=
  match (Operand.column field).valueIn s row, e.valueIn s row with
  | some x, some result => RowCheck.disagrees operator tolerance x result
  | _, _ => true

private theorem valueIn_eq_none {raw : String} {e : Expression} (h : read raw = .ok e) {s : Schema}
    {row : Row} : e.valueIn s row = none ↔
      ∃ i token, (Text.words raw)[2 * i]? = some token ∧ Decimal.readFloat token = none ∧
        (s.cell row token).bind Cell.toNumber? = none := by
  simp only [valueIn, eval_eq_none, List.mem_iff_getElem?, operands_of_read h,
    Option.map_eq_some_iff, ← Operand.valueIn_ofToken_eq_none]
  constructor
  · rintro ⟨_, ⟨i, token, htoken, rfl⟩, hnone⟩
    exact ⟨i, token, htoken, hnone⟩
  · rintro ⟨i, token, htoken, hnone⟩
    exact ⟨_, ⟨i, token, htoken, rfl⟩, hnone⟩

/-- A comparison whose columns are all there is one of every row. -/
theorem operation_eq_ok {raw : String} {e : Expression} (h : read raw = .ok e) {s : Schema}
    {field : String} (hfield : field ∈ s.names) (hcolumns : ∀ name ∈ e.columns, name ∈ s.names)
    (operator : Comparison) (tolerance : Float) :
    RowCheck.operation s field operator raw tolerance =
      .ok (.ofEvery (e.failsIn s field operator tolerance)) := by
  obtain ⟨i, hi⟩ := Schema.column_eq_ok_iff.2 hfield
  obtain ⟨is, his⟩ := Schema.columns_eq_ok_iff.2 hcolumns
  have hnumber (row : Row) : row.number? i = (Operand.column field).valueIn s row :=
    Schema.number?_eq_cell hi
  have hoperand (row : Row) : Operand.valueIn s row = fun
      | .number x => some x
      | .column name => (s.index? name).bind row.number? := by
    funext operand
    cases operand with
    | number x => rfl
    | column name => exact Option.bind_assoc ..
  refine bind_eq_ok.2 ⟨e, mapError_eq_ok.2 h, bind_eq_ok.2 ⟨i, mapError_eq_ok.2 hi,
    bind_eq_ok.2 ⟨is, mapError_eq_ok.2 his, ?_⟩⟩⟩
  refine congrArg (Except.ok ∘ RowCheck.ofEvery) (funext fun row => ?_)
  rw [failsIn, valueIn, ← hnumber]
  exact hoperand row ▸ rfl

theorem evaluate_numericOperation {raw : String} {e : Expression} (h : read raw = .ok e) {t : Table}
    {field : String} (hfield : field ∈ t.names) (hcolumns : ∀ name ∈ e.columns, name ∈ t.names)
    (operator : Comparison) (tolerance : Float) (kind : RuleKind) (ctx : Context) :
    Check.evaluate (.numericOperation operator raw tolerance) kind [field] t ctx =
      .ok ⟨t.height, t.rows.map (e.failsIn t.fields field operator tolerance)⟩ := by
  simp only [Check.evaluate, firstField, List.headD_cons,
    operation_eq_ok h hfield hcolumns operator tolerance]
  exact RowCheck.judge_ofEvery _ _

end Expression

/-- A text is an expression if its words are odd in number and every second one is an operator; the
others are its operands. Then two of them with an operator between them are one as well, and in any
row its value goes on from that of the first by the operator and by the operators and operands of
the second, one after another. It is missing if one of the operands is neither a number nor a column
with a number in the row. This is the value with which a column is compared. -/
theorem values_of_expressions :
    (∀ raw, ((∃ e, Expression.read raw = .ok e) ↔ (Text.words raw).length % 2 = 1 ∧
        ∀ i token, (Text.words raw)[2 * i + 1]? = some token → token ∈ ["+", "-", "*", "/"]) ∧
      ∀ e, Expression.read raw = .ok e → ∀ i : Nat,
        e.operands[i]? = (Text.words raw)[2 * i]?.map Operand.ofToken ∧
        (e.rest[i]?.map fun step => step.1.token) = (Text.words raw)[2 * i + 1]?) ∧
    (∀ left right e e', Expression.read left = .ok e → Expression.read right = .ok e' →
      ∀ op : Operator, Expression.read (op.joined left right) = .ok (e.followedBy op e') ∧
        ∀ (s : Schema) (row : Row),
          ((e.followedBy op e').valueIn s row = (e.valueIn s row).bind fun x =>
            (Expression.steps (Operand.valueIn s row) ((op, e'.first) :: e'.rest)).map
              (Operator.applyAll x)) ∧
          ((e.followedBy op e').valueIn s row = none ↔
            ∃ i token, (Text.words (op.joined left right))[2 * i]? = some token ∧
              Decimal.readFloat token = none ∧ (s.cell row token).bind Cell.toNumber? = none)) ∧
    ∀ raw e, Expression.read raw = .ok e → ∀ (t : Table) (field : String), field ∈ t.names →
      (∀ name ∈ e.columns, name ∈ t.names) →
      ∀ (operator : Comparison) (tolerance : Float) (kind : RuleKind) (ctx : Context),
        Check.evaluate (.numericOperation operator raw tolerance) kind [field] t ctx =
          .ok ⟨t.height, t.rows.map (e.failsIn t.fields field operator tolerance)⟩ := by
  refine ⟨fun raw => ⟨Expression.exists_read_eq_ok_iff, fun e h i => ?_⟩, ?_, ?_⟩
  · exact ⟨Expression.operands_of_read h i, Expression.operators_of_read h i⟩
  · intro left right e e' h h' op
    have hread := Expression.read_followedBy h h' op
    refine ⟨hread, fun s row => ⟨?_, Expression.valueIn_eq_none hread⟩⟩
    exact Expression.eval_followedBy e op e'
  · intro raw e h t field hfield hcolumns operator tolerance kind ctx
    exact Expression.evaluate_numericOperation h hfield hcolumns operator tolerance kind ctx

/-- Ten less four less a fee of three is three, and not what four less three leaves of ten; where
there is no fee, there is no value to compare. -/
theorem values_of_expressions_fee :
    ∃ e e', Expression.read "10" = .ok e ∧ Expression.read "4 - fee" = .ok e' ∧
      Expression.read "10 - 4 - fee" = .ok (e.followedBy .sub e') ∧
      e.valueIn [⟨"fee", .text⟩] [some (.text "3")] = some 10 ∧
      e'.valueIn [⟨"fee", .text⟩] [some (.text "3")] = some 1 ∧
      (e.followedBy .sub e').valueIn [⟨"fee", .text⟩] [some (.text "3")] = some 3 ∧
      Operator.sub.apply 10 1 ≠ 3 ∧
      (e.followedBy .sub e').valueIn [⟨"fee", .text⟩] [none] = none ∧
      "fee" ∈ (Table.ofTexts "fee" [some "3", none]).names ∧
      (∀ name ∈ (e.followedBy .sub e').columns,
        name ∈ (Table.ofTexts "fee" [some "3", none]).names) ∧
      Check.evaluate (.numericOperation .eq "10 - 4 - fee" 0) .numericOperationCheck ["fee"]
        (.ofTexts "fee" [some "3", none]) ⟨[], ⟨2024, 6, 1⟩⟩ = .ok ⟨2, [false, true]⟩ := by
  have he : Expression.read "10" = .ok ⟨.number 10, []⟩ := by rfl
  have he' : Expression.read "4 - fee" = .ok ⟨.number 4, [(.sub, .column "fee")]⟩ := by rfl
  obtain ⟨-, hjoined, hchecked⟩ := values_of_expressions
  obtain ⟨hread, hvalues⟩ := hjoined _ _ _ _ he he' .sub
  obtain ⟨hvalue, -⟩ := hvalues [⟨"fee", .text⟩] [some (.text "3")]
  obtain ⟨-, hmissing⟩ := hvalues [⟨"fee", .text⟩] [none]
  refine ⟨_, _, he, he', hread, ?_, ?_, hvalue.trans ?_, by decide,
    hmissing.2 ⟨2, "fee", by decide, by decide, by decide⟩, by decide, by decide, ?_⟩
  · decide +kernel
  · decide +kernel
  · decide +kernel
  · refine (hchecked _ _ hread (.ofTexts "fee" [some "3", none]) "fee" (by decide) (by decide) .eq
      0 .numericOperationCheck ⟨[], ⟨2024, 6, 1⟩⟩).trans ?_
    decide +kernel

end TableAudit
