import TableAudit.Rule.Serial

/-!
# Rules written and read back

Every part of a rule is read back from the JSON value that it is written as. The one thing that JSON
has no place for is a float that is not finite: it is written as `null`, and `null` is no float. So
a rule is read back if and only if all of its floats are finite.
-/

namespace TableAudit

open Json (Value)

def RangeLimit.isFinite : RangeLimit → Bool
  | .number x => Decimal.isFinite x
  | .column _ => true

def RangeBounds.isFinite (b : RangeBounds) : Bool :=
  b.min.all RangeLimit.isFinite && b.max.all RangeLimit.isFinite

def FilterTest.isFinite : FilterTest → Bool
  | .compare _ literal => Decimal.isFinite literal
  | _ => true

def Check.isFinite : Check → Bool
  | .range bounds => bounds.isFinite
  | .timeRange _ _ _ bounds => bounds.isFinite
  | .numericOperation _ _ tolerance => Decimal.isFinite tolerance
  | _ => true

/-- Whether all floats of a rule are finite, those of the rules that it wraps among them. -/
def Rule.isFinite : Rule → Bool
  | .plain h c => Decimal.isFinite h.threshold && c.isFinite
  | .conditional h _ filters inner =>
    Decimal.isFinite h.threshold && filters.all (·.test.isFinite) && inner.isFinite

namespace Serial

@[simp] theorem float?_ofFloat (x : Float) :
    float? (some (.ofFloat x)) = if Decimal.isFinite x then some x else none := by
  unfold Value.ofFloat
  split <;> rfl

@[simp] theorem text?_text (s : String) : text? (some (.text s)) = some s := by
  rw [text?, Option.bind_some, Value.text?]

@[simp] theorem bool?_bool (b : Bool) : bool? (some (.bool b)) = some b := by
  rw [bool?]

@[simp] theorem texts?_texts (items : List String) : texts? (some (.texts items)) = some items := by
  simp only [texts?, Value.texts]
  induction items with
  | nil => rfl
  | cons s items ih => simp [Value.text?, ih]

@[simp] theorem word?_word (n : UInt64) : word? (some (word n)) = some n := by
  have hn := n.toNat_lt
  simp only [word?, word, Value.ofNat]
  simp
  omega

@[simp] theorem char?_singleton (c : Char) :
    char? (some (.text (String.singleton c))) = some c := by
  simp [char?]

@[simp] theorem format_name (f : Calendar.Format) : format (.text f.name) = .ok f := by
  simp [format]

/-- A part that may be absent is read back if a present one is, since no part is written as
`null`. -/
theorem optional?_ofOption {α : Type} {write : α → Value} {read : Option Value → Option α}
    {p : α → Bool} (hnull : ∀ a, (write a).isNull = false)
    (hread : ∀ a, read (some (write a)) = if p a then some a else none) (o : Option α) :
    optional? read (some (.ofOption write o)) = if o.all p then some o else none := by
  cases o with
  | none => rfl
  | some a =>
    have hsome : optional? read (some (write a)) = (read (some (write a))).map some := by
      have hn := hnull a
      cases hw : write a <;> simp_all [optional?, Value.isNull]
    simp only [Value.ofOption, hsome, hread, Option.all_some]
    by_cases hp : p a = true <;> simp [hp]

@[simp] theorem optional?_text (o : Option String) :
    optional? text? (some (.ofOption .text o)) = some o := by
  have hread : ∀ s, text? (some (.text s)) = if (fun _ => true) s then some s else none := by simp
  simpa using optional?_ofOption (fun _ => rfl) hread o

@[simp] theorem optional?_word (o : Option UInt64) :
    optional? word? (some (.ofOption word o)) = some o := by
  have hread : ∀ n, word? (some (word n)) = if (fun _ => true) n then some n else none := by simp
  simpa using optional?_ofOption (fun _ => rfl) hread o

end Serial

open Serial

section Parts

private theorem optionalText_ofOption (o : Option String) :
    Source.optionalText (.ofOption .text o) = .ok o := by cases o <;> rfl

private theorem flag?_ofOption (o : Option Bool) : (Value.ofOption .bool o).flag? = o := by
  cases o <;> rfl

@[simp] theorem Source.ofJson_toJson (s : Source) : Source.ofJson s.toJson = .ok s := by
  simp only [ofJson, toJson, List.foldlM_cons, List.foldlM_nil, setPart, optionalText_ofOption,
    flag?_ofOption]
  rfl

@[simp] theorem Target.ofJson?_toJson (t : Target) : Target.ofJson? t.toJson = some t := by
  cases t with
  | all => rfl
  | columns names => simp [toJson, form, ofJson?, form?]

theorem RangeLimit.ofJson?_toJson (l : RangeLimit) :
    RangeLimit.ofJson? l.toJson = if l.isFinite then some l else none := by
  cases l with
  | number x =>
    by_cases hx : Decimal.isFinite x = true <;> simp [toJson, form, ofJson?, form?, isFinite, hx]
  | column name => rfl

theorem RangeBounds.ofJson?_toJson (b : RangeBounds) :
    RangeBounds.ofJson? b.toJson = if b.isFinite then some b else none := by
  have hlimit : ∀ o : Option RangeLimit,
      optional? (·.bind RangeLimit.ofJson?) (some (.ofOption RangeLimit.toJson o)) =
        if o.all RangeLimit.isFinite then some o else none :=
    optional?_ofOption (fun l => by cases l <;> rfl) RangeLimit.ofJson?_toJson
  have hparts : ofJson? b.toJson = do
      let min ← optional? (·.bind RangeLimit.ofJson?) (some (.ofOption RangeLimit.toJson b.min))
      let max ← optional? (·.bind RangeLimit.ofJson?) (some (.ofOption RangeLimit.toJson b.max))
      return ⟨min, max, b.includeLeft, b.includeRight, b.inclusive⟩ := rfl
  rw [hparts, hlimit, hlimit, isFinite]
  cases b.min.all RangeLimit.isFinite <;> cases b.max.all RangeLimit.isFinite <;> rfl

theorem FilterTest.ofJson?_toJson (t : FilterTest) :
    FilterTest.ofJson? t.toJson = if t.isFinite then some t else none := by
  cases t with
  | compare op literal =>
    by_cases hx : Decimal.isFinite literal = true <;>
      simp [toJson, form, ofJson?, form?, plainForm?, isFinite, hx]
  | _ => simp [toJson, form, ofJson?, form?, isFinite]

theorem RowFilter.ofParsed?_toJson (f : RowFilter) :
    RowFilter.ofParsed? f.toJson = if f.test.isFinite then some f else none := by
  have hparts : ofParsed? f.toJson = do
      return ⟨f.column, ← FilterTest.ofJson? f.test.toJson⟩ := rfl
  rw [hparts, FilterTest.ofJson?_toJson]
  by_cases hx : f.test.isFinite = true <;> simp [hx]

theorem Rule.filters?_map_toJson (filters : List RowFilter) :
    filters? (some (.list (filters.map RowFilter.toJson))) =
      if filters.all (·.test.isFinite) then some filters else none := by
  simp only [filters?]
  induction filters with
  | nil => rfl
  | cons f filters ih =>
    rw [List.map_cons, List.mapM_cons, RowFilter.ofParsed?_toJson, ih, List.all_cons]
    cases f.test.isFinite <;> cases filters.all (·.test.isFinite) <;> rfl

end Parts

namespace Check

@[simp] theorem source?_toJson (s : Source) : source? (some s.toJson) = some s := by
  simp [source?, Except.toOption]

@[simp] theorem format?_name (f : Calendar.Format) : format? (some (.text f.name)) = some f := by
  simp [format?, Except.toOption]

/-- A check is written as a form of its own, which is not the one of conditional rules, and it is
read back from the data of that form. -/
theorem ofForm?_toJson (c : Check) :
    ∃ name data, form? c.toJson = some (name, data) ∧ name ≠ "Conditional" ∧
      ofForm? name data = if c.isFinite then some c else none := by
  cases c with
  | fields => exact ⟨_, _, rfl, by decide, rfl⟩
  | range bounds =>
    refine ⟨_, _, rfl, by decide, ?_⟩
    simp only [ofForm?, Option.bind_some, RangeBounds.ofJson?_toJson, isFinite]
    by_cases hb : bounds.isFinite = true <;> simp [hb]
  | timeRange reference format unit bounds =>
    refine ⟨_, _, rfl, by decide, ?_⟩
    by_cases hb : bounds.isFinite = true <;>
      simp [ofForm?, formParts?, Value.get?, plainOf?, plainForm?, form?,
        RangeBounds.ofJson?_toJson, isFinite, hb]
  | numericOperation operator operand tolerance =>
    refine ⟨_, _, rfl, by decide, ?_⟩
    by_cases hx : Decimal.isFinite tolerance = true <;>
      simp [ofForm?, formParts?, Value.get?, plainOf?, plainForm?, form?, isFinite, hx]
  | _ =>
    refine ⟨_, _, rfl, by decide, ?_⟩
    simp [ofForm?, formParts?, Value.get?, plainOf?, plainForm?, form?, isFinite]

end Check

namespace Rule

def nesting : Rule → Nat
  | plain _ _ => 0
  | conditional _ _ _ inner => inner.nesting + 1

theorem ofParts?_withHead (h : RuleHead) (check : Value) :
    ofParts? (parts? partNames (withHead h check)) =
      if Decimal.isFinite h.threshold then some (h, check) else none := by
  by_cases hx : Decimal.isFinite h.threshold = true <;>
    simp [ofParts?, parts?, partNames, withHead, Value.get?, plainForm?, form?, hx]

private theorem ofJsonWithin_plain {check : Value} {name : String} {data : Option Value}
    (hform : form? check = some (name, data)) (hname : name ≠ "Conditional") (fuel : Nat)
    (h : RuleHead) :
    ofJsonWithin (fuel + 1) (withHead h check) =
      if Decimal.isFinite h.threshold then (Check.ofForm? name data).map (plain h) else none := by
  rw [ofJsonWithin, ofParts?_withHead]
  by_cases hx : Decimal.isFinite h.threshold = true
  · simp only [hx, if_true, bind, Option.bind, hform]
    cases Check.ofForm? name data <;> rfl
  · simp [hx]

private theorem ofJsonWithin_conditional (fuel : Nat) (h : RuleHead) (condition : Condition)
    (filters inner : Value) :
    ofJsonWithin (fuel + 1) (withHead h <| form "Conditional" <| .object [
        ("condition", .text condition.name), ("filters", filters), ("inner", inner)]) =
      if Decimal.isFinite h.threshold then do
        return .conditional h condition (← filters? (some filters)) (← ofJsonWithin fuel inner)
      else none := by
  rw [ofJsonWithin, ofParts?_withHead]
  by_cases hx : Decimal.isFinite h.threshold = true
  · simp [hx, form, form?, formParts?, Value.get?, plainForm?]
  · simp [hx]

/-- A rule is read back as soon as the reader may go deeper than the conditions nest. -/
theorem ofJsonWithin_toJson {r : Rule} {fuel : Nat} (h : r.nesting < fuel) :
    ofJsonWithin fuel r.toJson = if r.isFinite then some r else none := by
  induction r generalizing fuel with
  | plain head check =>
    obtain ⟨n, rfl⟩ := Nat.exists_eq_add_one_of_ne_zero (Nat.ne_zero_of_lt h)
    obtain ⟨name, data, hform, hname, hread⟩ := check.ofForm?_toJson
    rw [toJson, ofJsonWithin_plain hform hname, hread, isFinite]
    cases Decimal.isFinite head.threshold <;> cases check.isFinite <;> rfl
  | conditional head condition filters inner ih =>
    obtain ⟨n, rfl⟩ := Nat.exists_eq_add_one_of_ne_zero (Nat.ne_zero_of_lt h)
    have hinner : inner.nesting < n := by simpa [nesting] using h
    rw [toJson, ofJsonWithin_conditional, filters?_map_toJson, ih hinner, isFinite]
    cases Decimal.isFinite head.threshold <;> cases filters.all (·.test.isFinite) <;>
      cases inner.isFinite <;> rfl

private theorem depth_lt_withHead (h : RuleHead) (check : Value) :
    check.depth < (withHead h check).depth := by
  simp only [withHead, Value.depth, Value.depthOfEntries]
  omega

private theorem nesting_lt_depth (r : Rule) : r.nesting < r.toJson.depth := by
  induction r with
  | plain head check =>
    have h := depth_lt_withHead head check.toJson
    rw [toJson, nesting]
    omega
  | conditional head condition filters inner ih =>
    have h := depth_lt_withHead head (form "Conditional" <| .object [
      ("condition", .text condition.name), ("filters", .list (filters.map RowFilter.toJson)),
      ("inner", inner.toJson)])
    have hform : inner.toJson.depth < (form "Conditional" <| .object [
        ("condition", .text condition.name), ("filters", .list (filters.map RowFilter.toJson)),
        ("inner", inner.toJson)]).depth := by
      simp only [form, Value.depth, Value.depthOfEntries]
      omega
    rw [toJson, nesting]
    omega

/-- A rule is read back from the value that it is written as if and only if all of its floats are
finite. -/
theorem ofJson?_toJson_eq_some_iff (r : Rule) : ofJson? r.toJson = some r ↔ r.isFinite = true := by
  rw [ofJson?, ofJsonWithin_toJson r.nesting_lt_depth]
  simp

end Rule

end TableAudit
