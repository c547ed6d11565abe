import Mathlib.Data.List.Forall2
import Mathlib.Data.List.Nodup
import Mathlib.Data.List.Perm.Basic
import TableAudit.Proofs.LetterCase
import TableAudit.Proofs.Steps
import TableAudit.Rule.Record

/-!
# The spelling of keys

Of the key of a record nothing counts but its letters: underscores, hyphens, and the case of ASCII
letters do not, nor does the order of the keys. So two spellings of a record give the same rule.

The code of the rule that a conditional one applies is the exception. It is looked up as it is
spelt, and a record that spells it in another way has none.
-/

namespace TableAudit

open Json (Value)

section Keys

/-- What counts of a key: its characters but underscores and hyphens, ASCII capitals made small. -/
def keyLetters (key : String) : List Char :=
  (key.toList.filter fun c => c != '_' && c != '-').map Char.toLower

/-- The letters of a key that is spelt in ASCII. The letter `k` must not be among them, since the
Kelvin sign becomes one when it becomes small. -/
def IsNameLetters (ls : List Char) : Prop := ∀ c ∈ ls, c.toNat < 128 ∧ c ≠ 'k'

instance (ls : List Char) : Decidable (IsNameLetters ls) :=
  decidable_of_iff (ls.all (fun c => c.toNat < 128 && c != 'k') = true) (by simp [IsNameLetters])

private theorem flatMap_lowerChar_of_ascii {cs : List Char} (h : ∀ c ∈ cs, c.toNat < 128) :
    cs.flatMap Text.lowerChar = cs.map Char.toLower := by
  rw [List.flatMap_congr fun c hc => Text.lowerChar_of_ascii (h c hc)]
  exact List.flatMap_pure_eq_map Char.toLower cs

theorem flatMap_lowerChar_eq_iff {cs ls : List Char} (hls : IsNameLetters ls) :
    cs.flatMap Text.lowerChar = ls ↔ cs.map Char.toLower = ls := by
  have hascii : cs.flatMap Text.lowerChar = ls ∨ cs.map Char.toLower = ls →
      ∀ c ∈ cs, c.toNat < 128 := by
    rintro (rfl | rfl) c hc
    · exact Text.ascii_of_lowerChar fun d hd => hls d (List.mem_flatMap.2 ⟨c, hc, hd⟩)
    · exact Text.ascii_of_toLower (hls _ (List.mem_map_of_mem hc)).1
  constructor
  · intro h
    rw [← flatMap_lowerChar_of_ascii (hascii (.inl h)), h]
  · intro h
    rw [flatMap_lowerChar_of_ascii (hascii (.inr h)), h]

theorem plainKey_eq_iff {name : String} (h : IsNameLetters (keyLetters name)) (key : String) :
    plainKey key = plainKey name ↔ keyLetters key = keyLetters name := by
  rw [plainKey, plainKey, String.ofList_inj, (flatMap_lowerChar_eq_iff h).2 rfl,
    flatMap_lowerChar_eq_iff h]
  rfl

end Keys

/-- The entries of a record in other spellings and in another order: the letters of the keys are
distinct and stay, and the values are as they are related. -/
def Respelt (values : String → Value → Value → Prop) (es fs : List (String × Value)) : Prop :=
  (es.map fun e => keyLetters e.1).Nodup ∧
    ∃ order, es.Perm order ∧
      List.Forall₂ (fun e f => keyLetters e.1 = keyLetters f.1 ∧ values e.1 e.2 f.2) order fs

inductive RespeltRecord (values : String → Value → Value → Prop) : Value → Value → Prop
  | same (v : Value) : RespeltRecord values v v
  | object {es fs : List (String × Value)} (h : Respelt values es fs) :
    RespeltRecord values (.object es) (.object fs)

def RespeltInner : Value → Value → Prop := RespeltRecord fun _ v w => v = w

/-- The same value, or the record of an inner rule in another spelling. -/
def RespeltValue (key : String) (v w : Value) : Prop :=
  v = w ∨ keyLetters key = keyLetters "quality_function" ∧ RespeltInner v w

/-- The record of a rule in another spelling. The values are the same, except that the record of the
rule that a conditional one applies may be in another spelling, too. -/
def RespeltRule : Value → Value → Prop := RespeltRecord RespeltValue

section Lookup

variable {values : String → Value → Value → Prop} {es fs : List (String × Value)}

theorem find?_eq_some_of_distinct (hes : (es.map fun e => keyLetters e.1).Nodup)
    {ls : List Char} {e : String × Value} :
    es.find? (fun e => keyLetters e.1 == ls) = some e ↔ e ∈ es ∧ keyLetters e.1 = ls := by
  constructor
  · intro h
    exact ⟨List.mem_of_find?_eq_some h, by simpa using List.find?_some h⟩
  · rintro ⟨he, hls⟩
    have hfound : (es.find? fun e => keyLetters e.1 == ls).isSome :=
      List.find?_isSome.2 ⟨e, he, by simpa using hls⟩
    obtain ⟨f, hf⟩ := Option.isSome_iff_exists.1 hfound
    have hletters : keyLetters f.1 = ls := by simpa using List.find?_some hf
    have hsame : f = e :=
      List.inj_on_of_nodup_map hes (List.mem_of_find?_eq_some hf) he (hletters.trans hls.symm)
    rw [hf, hsame]

theorem find?_of_perm (hes : (es.map fun e => keyLetters e.1).Nodup) (h : es.Perm fs)
    (ls : List Char) :
    es.find? (fun e => keyLetters e.1 == ls) = fs.find? fun e => keyLetters e.1 == ls := by
  ext e
  rw [find?_eq_some_of_distinct hes, find?_eq_some_of_distinct ((h.map _).nodup hes), h.mem_iff]

private theorem rel_find? (h : List.Forall₂
      (fun e f : String × Value => keyLetters e.1 = keyLetters f.1 ∧ values e.1 e.2 f.2) es fs)
    (ls : List Char) :
    Option.Rel (fun e f => keyLetters e.1 = ls ∧ values e.1 e.2 f.2)
      (es.find? fun e => keyLetters e.1 == ls) (fs.find? fun e => keyLetters e.1 == ls) := by
  induction h with
  | nil => exact .none
  | @cons e f es fs hef _ ih =>
    rw [List.find?_cons, List.find?_cons, ← hef.1]
    split
    · next hls => exact .some ⟨by simpa using hls, hef.2⟩
    · exact ih

theorem Respelt.distinct (h : Respelt values es fs) : (fs.map fun e => keyLetters e.1).Nodup := by
  obtain ⟨hes, order, hperm, hsame⟩ := h
  have hletters : (order.map fun e => keyLetters e.1) = fs.map fun e => keyLetters e.1 := by
    rw [← List.forall₂_eq_eq_eq, List.forall₂_map_left_iff, List.forall₂_map_right_iff]
    exact hsame.imp fun _ _ h => h.1
  exact hletters ▸ (hperm.map _).nodup hes

theorem Respelt.rel_find? (h : Respelt values es fs) (ls : List Char) :
    Option.Rel (fun e f => keyLetters e.1 = ls ∧ values e.1 e.2 f.2)
      (es.find? fun e => keyLetters e.1 == ls) (fs.find? fun e => keyLetters e.1 == ls) := by
  obtain ⟨hes, order, hperm, hsame⟩ := h
  rw [find?_of_perm hes hperm]
  exact TableAudit.rel_find? hsame ls

end Lookup

namespace RuleRecord

variable {values : String → Value → Value → Prop} {es fs : List (String × Value)}

def ofEntries (code : String) (es : List (String × Value)) : RuleRecord :=
  ⟨code, es.map fun (k, v) => (plainKey k, v)⟩

/-- Among distinct keys a name finds the value of the one with its letters. -/
theorem get?_ofEntries {name : String} (hname : IsNameLetters (keyLetters name))
    (hes : (es.map fun e => keyLetters e.1).Nodup) (code : String) :
    (ofEntries code es).get? name =
      ((es.find? fun e => keyLetters e.1 == keyLetters name).map (·.2)).filter (!·.isNull) := by
  have hkey : ((fun e : String × Value => e.1 == plainKey name) ∘ fun (k, v) => (plainKey k, v)) =
      fun e : String × Value => keyLetters e.1 == keyLetters name := by
    funext e
    rw [Bool.eq_iff_iff, beq_iff_eq]
    exact beq_iff_eq.trans (plainKey_eq_iff hname e.1)
  rw [get?, ofEntries, ← List.map_reverse, List.find?_map, Option.map_map, hkey,
    find?_of_perm hes (List.reverse_perm es).symm]
  rfl

theorem rel_get? {name : String} (hname : IsNameLetters (keyLetters name))
    (h : Respelt values es fs)
    (hnull : ∀ key v w, values key v w → v.isNull = w.isNull) (code : String) :
    Option.Rel (fun v w => ∃ key, keyLetters key = keyLetters name ∧ values key v w)
      ((ofEntries code es).get? name) ((ofEntries code fs).get? name) := by
  have hfound := h.rel_find? (keyLetters name)
  rw [get?_ofEntries hname h.1, get?_ofEntries hname h.distinct]
  generalize es.find? _ = x, fs.find? _ = y at hfound ⊢
  cases hfound with
  | none => exact .none
  | @some e f hef =>
    simp only [Option.map_some, Option.filter_some, hnull _ _ _ hef.2]
    split
    · exact .some ⟨e.1, hef⟩
    · exact .none

end RuleRecord

end TableAudit
