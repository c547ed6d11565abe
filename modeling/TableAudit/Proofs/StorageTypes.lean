import Mathlib.Data.List.Nodup
import TableAudit.Proofs.Locality

/-!
# How columns are stored

The check of the storage type looks its column up by the capital form of the name. Of several
columns whose names differ in letter case only it finds the last one, for the name of any of them.
So a column is judged by its own type as long as no later one has the same capital form.
-/

namespace TableAudit

namespace Schema

/-- A field is the last one of its schema with the capital form of a name. -/
def LastAlike (s : Schema) (name : String) (c : Field) : Prop :=
  Text.upper c.name = Text.upper name ∧
    ∃ front back, s = front ++ c :: back ∧ ∀ d ∈ back, Text.upper d.name ≠ Text.upper name

variable {s : Schema} {name : String} {c : Field}

theorem LastAlike.mem (h : s.LastAlike name c) : c ∈ s := by
  obtain ⟨-, front, back, rfl, -⟩ := h
  exact List.mem_append_right _ List.mem_cons_self

/-- The search runs through the schema from its end. -/
theorem lastAlike_iff :
    s.LastAlike name c ↔
      s.reverse.find? (fun d => Text.upper d.name == Text.upper name) = some c := by
  rw [LastAlike, List.find?_eq_some_iff_append, beq_iff_eq]
  refine and_congr_right fun _ => ?_
  constructor
  · rintro ⟨front, back, rfl, hback⟩
    refine ⟨back.reverse, front.reverse, by simp, fun d hd => ?_⟩
    simpa using hback d (List.mem_reverse.1 hd)
  · rintro ⟨back, front, hs, hback⟩
    refine ⟨front.reverse, back.reverse, ?_, fun d hd => ?_⟩
    · simpa using congrArg List.reverse hs
    · simpa using hback d (List.mem_reverse.1 hd)

theorem exists_lastAlike (h : ∃ d ∈ s, Text.upper d.name = Text.upper name) :
    ∃ c, s.LastAlike name c := by
  obtain ⟨d, hd, hname⟩ := h
  have hfind : (s.reverse.find? fun d => Text.upper d.name == Text.upper name).isSome :=
    List.find?_isSome.2 ⟨d, List.mem_reverse.2 hd, by simpa using hname⟩
  obtain ⟨c, hc⟩ := Option.isSome_iff_exists.1 hfind
  exact ⟨c, lastAlike_iff.2 hc⟩

/-- A field whose capital form no other one has is the last one with it. -/
theorem lastAlike_self (hc : c ∈ s)
    (h : ∀ d ∈ s, Text.upper d.name = Text.upper c.name → d = c) : s.LastAlike c.name c := by
  obtain ⟨d, hd⟩ := exists_lastAlike ⟨c, hc, rfl⟩
  exact h d hd.mem hd.1 ▸ hd

theorem lookupName_names :
    lookupName s.names name =
      (s.reverse.find? fun d => Text.upper d.name == Text.upper name).map Field.name := by
  rw [lookupName, names, ← List.map_reverse, List.find?_map]
  rfl

private theorem typeOf?_of_mem (h : s.names.Nodup) (hc : c ∈ s) :
    s.typeOf? c.name = some c.type := by
  have hfind : s.find? (·.name == c.name) = some c := by
    cases hf : s.find? (·.name == c.name) with
    | none => exact absurd (List.find?_eq_none.1 hf c hc) (by simp)
    | some d =>
      have hname : d.name = c.name := by simpa using List.find?_some hf
      exact congrArg some (List.inj_on_of_nodup_map h (List.mem_of_find?_eq_some hf) hc hname)
  rw [typeOf?, hfind]
  rfl

end Schema

/-- What a column of a table comes to if it is expected to be stored as a type: all rows fail, or
none does. -/
def Field.storageFinding (c : Field) (t : Table) (expected : StorageType) : Finding :=
  ⟨t.height, t.rows.map fun _ => StorageType.ofCellType? c.type != some expected⟩

section Checks

variable {t : Table} {expected : StorageType} {field : String}

theorem evaluate_storageType_of_none (h : ∀ c ∈ t.fields, Text.upper c.name ≠ Text.upper field)
    (kind : RuleKind) (ctx : Context) :
    Check.evaluate (.storageType expected) kind [field] t ctx =
      .error (.table (.missingColumn field)) := by
  have hlookup : lookupName t.fields.names field = none := by
    rw [Schema.lookupName_names, Option.map_eq_none_iff, List.find?_eq_none]
    simpa using h
  simp only [Check.evaluate, firstField, List.headD_cons, RowCheck.storageType, hlookup]
  rfl

theorem evaluate_storageType_of_lastAlike {c : Field} (h : t.fields.LastAlike field c)
    (kind : RuleKind) (ctx : Context) :
    Check.evaluate (.storageType expected) kind [field] t ctx =
      .ok (c.storageFinding t expected) := by
  have hlookup : lookupName t.fields.names field = some c.name := by
    rw [Schema.lookupName_names, Schema.lastAlike_iff.1 h]
    rfl
  have htype := Schema.typeOf?_of_mem t.distinct h.mem
  simp only [Check.evaluate, firstField, List.headD_cons, RowCheck.storageType, hlookup, htype,
    Option.bind_some]
  exact RowCheck.judge_ofEvery _ _

theorem evaluate_storageType_eq_error {kind : RuleKind} {ctx : Context} :
    Check.evaluate (.storageType expected) kind [field] t ctx =
        .error (.table (.missingColumn field)) ↔
      ∀ c ∈ t.fields, Text.upper c.name ≠ Text.upper field := by
  refine ⟨fun h c hc hname => ?_, fun h => evaluate_storageType_of_none h kind ctx⟩
  obtain ⟨d, hd⟩ := Schema.exists_lastAlike ⟨c, hc, hname⟩
  rw [evaluate_storageType_of_lastAlike hd] at h
  cases h

end Checks

/-- A check of the storage type can be evaluated unless no column has the capital form of its field.
Then it judges the last of those that have it. That is the column of exactly this name if no other
one has its capital form, so a rule for all columns of a table judges each by its own type if their
capital forms differ. -/
theorem storage_types_of_columns (t : Table) (expected : StorageType) (ctx : Context) :
    (∀ kind field,
      (Check.evaluate (.storageType expected) kind [field] t ctx =
          .error (.table (.missingColumn field)) ↔
        ∀ c ∈ t.fields, Text.upper c.name ≠ Text.upper field) ∧
      ((∃ c ∈ t.fields, Text.upper c.name = Text.upper field) →
        ∃ c, t.fields.LastAlike field c ∧
          Check.evaluate (.storageType expected) kind [field] t ctx =
            .ok (c.storageFinding t expected))) ∧
    (∀ kind, ∀ c ∈ t.fields,
      (∀ d ∈ t.fields, Text.upper d.name = Text.upper c.name → d = c) →
        Check.evaluate (.storageType expected) kind [c.name] t ctx =
          .ok (c.storageFinding t expected)) ∧
    ∀ h : RuleHead, h.kind = .storageTypeCheck → h.target = .all →
      (t.names.map Text.upper).Nodup →
        ((Rule.plain h (.storageType expected)).instances t.names).map
            (fun i => (i.fields, i.rule.evaluate i.fields ctx t)) =
          t.fields.map fun c => ([c.name], .ok (c.storageFinding t expected)) := by
  have hself : ∀ kind, ∀ c ∈ t.fields,
      (∀ d ∈ t.fields, Text.upper d.name = Text.upper c.name → d = c) →
        Check.evaluate (.storageType expected) kind [c.name] t ctx =
          .ok (c.storageFinding t expected) := fun kind c hc h =>
    evaluate_storageType_of_lastAlike (Schema.lastAlike_self hc h) kind ctx
  refine ⟨fun kind field => ⟨evaluate_storageType_eq_error, fun h => ?_⟩, hself, ?_⟩
  · obtain ⟨c, hc⟩ := Schema.exists_lastAlike h
    exact ⟨c, hc, evaluate_storageType_of_lastAlike hc kind ctx⟩
  · intro h hkind htarget hupper
    have hinstances : (Rule.plain h (.storageType expected)).instances t.names =
        t.names.map fun name => ⟨.plain h (.storageType expected), [name]⟩ := by
      simp [Rule.instances, Rule.planned, Rule.head, hkind, htarget, Target.resolve,
        RuleKind.takesAllFields]
    have hinj : ∀ c ∈ t.fields, ∀ d ∈ t.fields, Text.upper d.name = Text.upper c.name → d = c := by
      intro c hc d hd hname
      rw [Table.names, Schema.names, List.map_map] at hupper
      exact List.inj_on_of_nodup_map hupper hd hc hname
    rw [hinstances, Table.names, Schema.names, List.map_map, List.map_map]
    apply List.map_congr_left
    intro c hc
    exact congrArg (Prod.mk [c.name]) (hself h.kind c hc (hinj c hc))

def Table.ofAmount (amount code : Field) (cells : Option Cell × Option Cell)
    (h : amount.name ≠ code.name) : Table where
  fields := [amount, code]
  rows := [[cells.1, cells.2]]
  rect := by simp
  distinct := by simpa using h

/-- An amount is found under a name in small letters, and a rule for all columns passes it and fails
the code. -/
theorem storage_types_of_columns_amount :
    ∃ t : Table, t.names = ["Amount", "code"] ∧
      (∃ c, t.fields.LastAlike "amount" c ∧
        Check.evaluate (.storageType .long) .storageTypeCheck ["amount"] t ⟨[], ⟨2024, 6, 1⟩⟩ =
          .ok (c.storageFinding t .long)) ∧
      Check.evaluate (.storageType .long) .storageTypeCheck ["price"] t ⟨[], ⟨2024, 6, 1⟩⟩ =
        .error (.table (.missingColumn "price")) ∧
      ((Rule.plain ⟨"111", .storageTypeCheck, .all, 100, true⟩ (.storageType .long)).instances
          t.names).map (fun i => (i.fields, i.rule.evaluate i.fields ⟨[], ⟨2024, 6, 1⟩⟩ t)) =
        [(["Amount"], .ok ⟨1, [false]⟩), (["code"], .ok ⟨1, [true]⟩)] := by
  let t : Table := .ofAmount ⟨"Amount", .int64⟩ ⟨"code", .text⟩ (some (.int 5), some (.text "a"))
    (by decide)
  obtain ⟨hname, -, hall⟩ := storage_types_of_columns t .long ⟨[], ⟨2024, 6, 1⟩⟩
  have hupper : (t.names.map Text.upper).Nodup := by decide +kernel
  have hfound : ∃ c ∈ t.fields, Text.upper c.name = Text.upper "amount" :=
    ⟨⟨"Amount", .int64⟩, List.mem_cons_self, by decide +kernel⟩
  have hmissing : ∀ c ∈ t.fields, Text.upper c.name ≠ Text.upper "price" := by decide +kernel
  exact ⟨t, rfl, (hname _ "amount").2 hfound, (hname _ "price").1.2 hmissing,
    hall ⟨"111", .storageTypeCheck, .all, 100, true⟩ rfl rfl hupper⟩

/-- Of two columns that differ in letter case only, the first one is stored as expected and fails
for the type of the second one. -/
theorem storage_type_of_other_column :
    ∃ t : Table, t.fields = [⟨"amount", .int64⟩, ⟨"AMOUNT", .text⟩] ∧
      StorageType.ofCellType? .int64 = some .long ∧
      Check.evaluate (.storageType .long) .storageTypeCheck ["amount"] t ⟨[], ⟨2024, 6, 1⟩⟩ =
        .ok ⟨1, [true]⟩ := by
  let t : Table := .ofAmount ⟨"amount", .int64⟩ ⟨"AMOUNT", .text⟩ (some (.int 5), some (.text "x"))
    (by decide)
  have hlast : t.fields.LastAlike "amount" ⟨"AMOUNT", .text⟩ :=
    ⟨by decide +kernel, [⟨"amount", .int64⟩], [], rfl, by simp⟩
  exact ⟨t, rfl, rfl, evaluate_storageType_of_lastAlike hlast _ _⟩

end TableAudit
