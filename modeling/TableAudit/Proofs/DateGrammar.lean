import TableAudit.Calendar.Format
import TableAudit.Proofs.NumberTexts

/-!
# The texts that a date pattern reads

A number of a date stands behind blanks, may carry a sign if it is the year, and ends where its
width is used up or no digit follows. A pattern reads a text if the text is its numbers, one after
the other, with what stands between them. The moment read has these numbers, each within its bounds.
-/

namespace TableAudit.Calendar

def NoDigit (cs : List Char) : Prop := ∀ c ∈ cs.head?, c.isDigit = false

theorem noDigit_nil : NoDigit [] := by simp [NoDigit]

theorem noDigit_cons {c : Char} {cs : List Char} (h : c.isDigit = false) : NoDigit (c :: cs) := by
  simpa [NoDigit] using h

/-- A number of at most this many digits ends in front of `rest`. -/
structure EndsAt (width : Nat) (digits rest : List Char) : Prop where
  length_le : digits.length ≤ width
  stops : digits.length < width → NoDigit rest

private theorem endsAt_of_length {width : Nat} {digits : List Char} (h : digits.length = width)
    (rest : List Char) : EndsAt width digits rest :=
  ⟨h.le, fun hlt => absurd h hlt.ne⟩

private theorem noDigit_of_endsAt {digits rest : List Char}
    (h : EndsAt (digits ++ rest).length digits rest) : NoDigit rest := by
  cases rest with
  | nil => exact noDigit_nil
  | cons c rest => exact h.stops (by simp)

section ReadNumber

variable {width n : Nat} {cs digits rest : List Char}

theorem readNumber_append (hne : digits ≠ []) (hdigits : ∀ c ∈ digits, c.isDigit = true)
    (h : EndsAt width digits rest) :
    readNumber width (digits ++ rest) = some (Decimal.digitsValue digits, rest) := by
  have hrest : (rest.take (width - digits.length)).takeWhile Char.isDigit = [] := by
    rcases h.length_le.lt_or_eq with hlt | heq
    · obtain ⟨k, hk⟩ := Nat.exists_eq_succ_of_ne_zero (Nat.sub_ne_zero_of_lt hlt)
      cases rest with
      | nil => simp
      | cons c rest =>
        have hc := h.stops hlt c rfl
        simp [hk, hc]
    · simp [heq]
  have htaken : ((digits ++ rest).take width).takeWhile Char.isDigit = digits := by
    rw [List.take_append, List.take_of_length_le h.length_le, List.takeWhile_append_of_pos hdigits,
      hrest, List.append_nil]
  simp [readNumber, htaken, hne]

private theorem append_of_readNumber (h : readNumber width cs = some (n, rest)) :
    ∃ digits, cs = digits ++ rest ∧ n = Decimal.digitsValue digits ∧ digits ≠ [] ∧
      (∀ c ∈ digits, c.isDigit = true) ∧ EndsAt width digits rest := by
  simp only [readNumber, Option.ite_none_left_eq_some, Option.some.injEq, Prod.mk.injEq] at h
  generalize hdigits : (cs.take width).takeWhile Char.isDigit = digits at h
  obtain ⟨hne, rfl, rfl⟩ := h
  have hstart : digits <+: cs.take width := hdigits ▸ List.takeWhile_prefix _
  have hle : digits.length ≤ width := hstart.length_le.trans (List.length_take_le _ _)
  refine ⟨digits, ?_, rfl, by simpa using hne, fun c hc => ?_, hle, fun hlt => ?_⟩
  · exact (List.prefix_iff_eq_append.1 (hstart.trans (List.take_prefix _ _))).symm
  · exact List.mem_takeWhile_imp (hdigits ▸ hc)
  · have hdrop : (cs.take width).drop digits.length = (cs.take width).dropWhile Char.isDigit := by
      conv_lhs => rw [← List.takeWhile_append_dropWhile (p := Char.isDigit) (l := cs.take width),
        hdigits, List.drop_left]
    have hhead : (cs.drop digits.length).head? =
        ((cs.take width).dropWhile Char.isDigit).head? := by
      rw [← hdrop, List.head?_drop, List.head?_drop, List.getElem?_take_of_lt hlt]
    intro c hc
    rw [hhead] at hc
    exact Text.not_of_head?_dropWhile hc

end ReadNumber

inductive Sign
  | plus
  | minus
deriving DecidableEq, Repr

def Sign.char : Sign → Char
  | .plus => '+'
  | .minus => '-'

/-- A number as it stands in a text: blanks, perhaps a sign, and digits. -/
structure Numeral where
  blanks : List Char
  sign : Option Sign
  digits : List Char
  isBlank_of_mem : ∀ c ∈ blanks, Text.isBlank c = true
  isDigit_of_mem : ∀ c ∈ digits, c.isDigit = true
  ne_nil : digits ≠ []

namespace Numeral

def bare (n : Numeral) : List Char := (n.sign.map Sign.char).toList ++ n.digits

def text (n : Numeral) : List Char := n.blanks ++ n.bare

def value (n : Numeral) : Int :=
  if n.sign = some .minus then -(Decimal.digitsValue n.digits : Int)
  else Decimal.digitsValue n.digits

def ofDigits (digits : List Char) (hdigits : ∀ c ∈ digits, c.isDigit = true)
    (hne : digits ≠ []) : Numeral :=
  ⟨[], none, digits, by simp, hdigits, hne⟩

private theorem value_of_unsigned {n : Numeral} (h : n.sign = none) :
    n.value = Decimal.digitsValue n.digits := by
  simp [value, h]

theorem bare_of_unsigned {n : Numeral} (h : n.sign = none) : n.bare = n.digits := by
  simp [bare, h]

theorem bare_ne_nil (n : Numeral) : n.bare ≠ [] := by simp [bare, n.ne_nil]

theorem text_ne_nil (n : Numeral) : n.text ≠ [] := by simp [text, n.bare_ne_nil]

private theorem not_isBlank_of_mem_bare {n : Numeral} {c : Char} (h : c ∈ n.bare) :
    Text.isBlank c = false := by
  rcases List.mem_append.1 h with h | h
  · cases hs : n.sign with
    | none => simp [hs] at h
    | some s =>
      obtain rfl : c = s.char := by simpa [hs] using h
      cases s <;> decide
  · exact Decimal.not_isBlank_of_isDigit (n.isDigit_of_mem c h)

private theorem dropWhile_text (n : Numeral) (rest : List Char) :
    (n.text ++ rest).dropWhile Text.isBlank = n.bare ++ rest := by
  rw [text, List.append_assoc, List.dropWhile_append_of_pos n.isBlank_of_mem]
  apply Text.dropWhile_eq_self
  intro c hc
  rw [List.head?_append_of_ne_nil _ n.bare_ne_nil] at hc
  exact not_isBlank_of_mem_bare (List.mem_of_mem_head? hc)

end Numeral

namespace Item

def bounds? : Item → Option (Nat × Nat)
  | .month => some (1, 12)
  | .day => some (1, 31)
  | .hour => some (0, 23)
  | .minute => some (0, 59)
  | .second => some (0, 60)
  | .year | .fraction | .blanks | .literal _ => none

def isNumber (item : Item) : Bool := item == .year || item.bounds?.isSome

def width : Item → Nat
  | .year => 4
  | .month | .day | .hour | .minute | .second => 2
  | .fraction | .blanks | .literal _ => 0

def Allows (item : Item) (v : Int) : Prop := ∀ b ∈ item.bounds?, b.1 ≤ v ∧ v ≤ b.2

/-- A numeral is read as the number of an item in front of `rest`. A year with a sign takes all
digits there are. -/
inductive Fits : Item → Numeral → List Char → Prop
  | year {n rest} (hsign : n.sign = none) (h : EndsAt 4 n.digits rest) : Fits .year n rest
  | signed {n rest} (hsign : n.sign ≠ none) (h : NoDigit rest) : Fits .year n rest
  | short {item n rest} (hitem : item.bounds?.isSome = true) (hsign : n.sign = none)
      (h : EndsAt 2 n.digits rest) : Fits item n rest

/-- An item that reads no number passes over a piece of text in front of `rest`. -/
inductive Passes : Item → List Char → List Char → Prop
  | literal (c : Char) (rest : List Char) : Passes (.literal c) [c] rest
  | blanks {piece rest} (hpiece : ∀ c ∈ piece, Text.isBlank c = true)
      (hrest : ∀ c ∈ rest.head?, Text.isBlank c = false) : Passes .blanks piece rest
  | noFraction {rest} (hrest : '.' ∉ rest.head?) : Passes .fraction [] rest
  | fraction {digits rest} (hne : digits ≠ []) (hdigits : ∀ c ∈ digits, c.isDigit = true)
      (hrest : NoDigit rest) : Passes .fraction ('.' :: digits) rest

def value (m : Moment) : Item → Int
  | .year => m.date.year
  | .month => m.date.month
  | .day => m.date.day
  | .hour => m.hour
  | .minute => m.minute
  | .second => m.second
  | .fraction | .blanks | .literal _ => 0

def set (m : Moment) (v : Int) : Item → Moment
  | .year => { m with date := { m.date with year := v } }
  | .month => { m with date := { m.date with month := v.toNat } }
  | .day => { m with date := { m.date with day := v.toNat } }
  | .hour => { m with hour := v.toNat }
  | .minute => { m with minute := v.toNat }
  | .second => { m with second := v.toNat }
  | .fraction | .blanks | .literal _ => m

variable {item other : Item} {m : Moment} {v : Int}

private theorem value_set (hnumber : item.isNumber = true) (h : item.Allows v) :
    item.value (item.set m v) = v := by
  cases item <;> simp_all [Allows, value, set, isNumber, bounds?] <;> omega

private theorem value_set_of_ne (h : other ≠ item) :
    other.value (item.set m v) = other.value m := by
  cases item <;> cases other <;> first | rfl | exact absurd rfl h

private theorem moment_ext {m m' : Moment} (h : ∀ item : Item, item.value m = item.value m') :
    m = m' := by
  obtain ⟨⟨year, month, day⟩, hour, minute, second⟩ := m
  obtain ⟨⟨year', month', day'⟩, hour', minute', second'⟩ := m'
  have hyear : year = year' := h .year
  have hmonth : (month : Int) = month' := h .month
  have hday : (day : Int) = day' := h .day
  have hhour : (hour : Int) = hour' := h .hour
  have hminute : (minute : Int) = minute' := h .minute
  have hsecond : (second : Int) = second' := h .second
  simp only [Moment.mk.injEq, Date.mk.injEq]
  omega

section Step

variable {n : Numeral} {cs piece rest : List Char} {m' : Moment}

theorem Fits.isNumber (h : item.Fits n rest) : item.isNumber = true := by
  cases h with
  | year | signed => rfl
  | short hitem => simp [Item.isNumber, hitem]

theorem fits_of_width (hnumber : item.isNumber = true) (hsign : n.sign = none)
    (h : n.digits.length = item.width) (rest : List Char) : item.Fits n rest := by
  cases item with
  | year => exact .year hsign (endsAt_of_length h rest)
  | month | day | hour | minute | second => exact .short rfl hsign (endsAt_of_length h rest)
  | fraction | blanks | literal => cases hnumber

theorem Passes.isNumber (h : item.Passes piece rest) : item.isNumber = false := by
  cases h <;> rfl

theorem read_short {low high : Nat} (h : item.bounds? = some (low, high)) (m : Moment)
    (cs : List Char) :
    item.read m cs = (readBounded low high (cs.dropWhile Text.isBlank)).map
      fun (k, rest) => (item.set m k, rest) := by
  cases item <;> cases h <;> rfl

private theorem readYear_of_fits (h : Item.year.Fits n rest) :
    readYear (n.bare ++ rest) = some (n.value, rest) := by
  obtain ⟨blanks, sign, digits, hblanks, hdigits, hne⟩ := n
  cases h with
  | year hsign h =>
    obtain rfl : sign = none := hsign
    obtain ⟨d, ds, rfl⟩ := List.exists_cons_of_ne_nil hne
    have hnumber : readNumber 4 (d :: (ds ++ rest)) = _ := readNumber_append hne hdigits h
    have hd := Decimal.bounds_of_isDigit (hdigits d List.mem_cons_self)
    change readYear (d :: (ds ++ rest)) = _
    unfold readYear
    split
    · next heq => cases heq; simp at hd
    · next heq => cases heq; simp at hd
    · rw [hnumber]
      rfl
  | signed hsign h =>
    have hends : EndsAt (digits ++ rest).length digits rest := ⟨by simp, fun _ => h⟩
    have hnumber := readNumber_append hne hdigits hends
    cases sign with
    | none => exact absurd rfl hsign
    | some sign =>
      cases sign with
      | plus =>
        change ((readNumber (digits ++ rest).length (digits ++ rest)).map _) = _
        rw [hnumber]
        rfl
      | minus =>
        change ((readNumber (digits ++ rest).length (digits ++ rest)).map _) = _
        rw [hnumber]
        rfl
  | short hitem => cases hitem

/-- A numeral that fits is read if the item allows its value, and nothing is read otherwise. -/
theorem read_of_fits (h : item.Fits n rest) {m : Moment} {r : Moment × List Char} :
    item.read m (n.text ++ rest) = some r ↔
      item.Allows n.value ∧ r = (item.set m n.value, rest) := by
  cases h with
  | year hsign hends =>
    have hyear := readYear_of_fits (.year hsign hends)
    simp [read, n.dropWhile_text, hyear, Allows, bounds?, set, eq_comm]
  | signed hsign hstop =>
    have hyear := readYear_of_fits (.signed hsign hstop)
    simp [read, n.dropWhile_text, hyear, Allows, bounds?, set, eq_comm]
  | short hitem hsign hends =>
    obtain ⟨⟨low, high⟩, hbounds⟩ := Option.isSome_iff_exists.1 hitem
    have hnumber := readNumber_append n.ne_nil n.isDigit_of_mem hends
    rw [read_short hbounds, n.dropWhile_text, Numeral.bare_of_unsigned hsign, readBounded, hnumber,
      Allows, hbounds, Numeral.value_of_unsigned hsign]
    simp only [Option.map_eq_some_iff, Option.filter_eq_some_iff, Option.some.injEq,
      Option.mem_def, forall_eq', Bool.and_eq_true, decide_eq_true_eq, Nat.cast_le]
    constructor
    · rintro ⟨_, ⟨rfl, hallowed⟩, rfl⟩
      exact ⟨hallowed, rfl⟩
    · rintro ⟨hallowed, rfl⟩
      exact ⟨_, ⟨rfl, hallowed⟩, rfl⟩

private theorem read_of_passes (h : item.Passes piece rest) (m : Moment) :
    item.read m (piece ++ rest) = some (m, rest) := by
  cases h with
  | literal c => simp [read]
  | blanks hpiece hrest =>
    simp only [read, List.dropWhile_append_of_pos hpiece, Text.dropWhile_eq_self hrest]
  | noFraction hrest =>
    simp only [read, List.nil_append]
    split
    · simp at hrest
    · rfl
  | fraction hne hdigits hrest =>
    obtain ⟨htake, hdrop⟩ := Prod.mk.inj (Decimal.takeDigits_append hdigits hrest)
    simp [read, htake, hdrop, hne]

/-- The digits that are read behind blanks and a sign make a numeral with them. -/
theorem exists_numeral_of_readNumber {width k : Nat} {blanks : List Char}
    (hblanks : ∀ c ∈ blanks, Text.isBlank c = true) (sign : Option Sign)
    (h : readNumber width cs = some (k, rest)) :
    ∃ n : Numeral, n.sign = sign ∧ cs = n.digits ++ rest ∧ EndsAt width n.digits rest ∧
      blanks ++ ((sign.map Sign.char).toList ++ cs) = n.text ++ rest := by
  obtain ⟨digits, rfl, -, hne, hdigits, hends⟩ := append_of_readNumber h
  exact ⟨⟨blanks, sign, digits, hblanks, hdigits, hne⟩, rfl, rfl, hends,
    by simp [Numeral.text, Numeral.bare]⟩

private theorem append_of_readYear {v : Int} {blanks : List Char}
    (hblanks : ∀ c ∈ blanks, Text.isBlank c = true) (h : readYear cs = some (v, rest)) :
    ∃ n : Numeral, blanks ++ cs = n.text ++ rest ∧ Item.year.Fits n rest := by
  unfold readYear at h
  split at h
  · obtain ⟨⟨k, rest⟩, hnumber, heq⟩ := Option.map_eq_some_iff.1 h
    obtain ⟨n, hsign, rfl, hends, htext⟩ :=
      exists_numeral_of_readNumber hblanks (some .minus) hnumber
    cases heq
    exact ⟨n, htext, .signed (by simp [hsign]) (noDigit_of_endsAt hends)⟩
  · obtain ⟨⟨k, rest⟩, hnumber, heq⟩ := Option.map_eq_some_iff.1 h
    obtain ⟨n, hsign, rfl, hends, htext⟩ :=
      exists_numeral_of_readNumber hblanks (some .plus) hnumber
    cases heq
    exact ⟨n, htext, .signed (by simp [hsign]) (noDigit_of_endsAt hends)⟩
  · obtain ⟨⟨k, rest⟩, hnumber, heq⟩ := Option.map_eq_some_iff.1 h
    obtain ⟨n, hsign, -, hends, htext⟩ := exists_numeral_of_readNumber hblanks none hnumber
    cases heq
    exact ⟨n, htext, .year hsign hends⟩

private theorem append_of_read_number (hnumber : item.isNumber = true)
    (h : item.read m cs = some (m', rest)) :
    ∃ n : Numeral, cs = n.text ++ rest ∧ item.Fits n rest := by
  have hcs : cs.takeWhile Text.isBlank ++ cs.dropWhile Text.isBlank = cs :=
    List.takeWhile_append_dropWhile
  have hblanks : ∀ c ∈ cs.takeWhile Text.isBlank, Text.isBlank c = true := fun _ =>
    List.mem_takeWhile_imp
  cases hbounds : item.bounds? with
  | none =>
    obtain rfl : item = .year := by simpa [isNumber, hbounds] using hnumber
    obtain ⟨⟨v, rest⟩, hyear, heq⟩ := Option.map_eq_some_iff.1 h
    obtain ⟨n, hn, hfits⟩ := append_of_readYear hblanks hyear
    cases heq
    exact ⟨n, hcs ▸ hn, hfits⟩
  | some bounds =>
    rw [read_short hbounds] at h
    obtain ⟨⟨k, rest⟩, hbounded, heq⟩ := Option.map_eq_some_iff.1 h
    obtain ⟨hnumber, -⟩ := Option.filter_eq_some_iff.1 hbounded
    obtain ⟨n, hsign, -, hends, htext⟩ := exists_numeral_of_readNumber hblanks none hnumber
    cases heq
    exact ⟨n, hcs ▸ htext, .short (by simp [hbounds]) hsign hends⟩

private theorem append_of_read_piece (hnumber : item.isNumber = false)
    (h : item.read m cs = some (m', rest)) :
    ∃ piece, cs = piece ++ rest ∧ item.Passes piece rest := by
  cases item with
  | year | month | day | hour | minute | second => cases hnumber
  | literal c =>
    cases cs with
    | nil => cases h
    | cons d ds =>
      simp only [read, Option.ite_none_right_eq_some, beq_iff_eq, Option.some.injEq,
        Prod.mk.injEq] at h
      obtain ⟨rfl, -, rfl⟩ := h
      exact ⟨[d], rfl, .literal d ds⟩
  | blanks =>
    cases h
    exact ⟨_, List.takeWhile_append_dropWhile.symm, .blanks (fun _ => List.mem_takeWhile_imp)
      fun c hc => Text.not_of_head?_dropWhile hc⟩
  | fraction =>
    simp only [read] at h
    split at h
    · next ds =>
      simp only [Option.ite_none_left_eq_some, Option.some.injEq, Prod.mk.injEq,
        List.isEmpty_iff] at h
      obtain ⟨hne, -, rfl⟩ := h
      refine ⟨'.' :: ds.takeWhile Char.isDigit, ?_, .fraction hne (fun _ => List.mem_takeWhile_imp)
        fun c hc => Text.not_of_head?_dropWhile hc⟩
      rw [List.cons_append, List.takeWhile_append_dropWhile]
    · next hpoint =>
      cases h
      refine ⟨[], rfl, .noFraction fun hhead => ?_⟩
      obtain ⟨ds, rfl⟩ := List.head?_eq_some_iff.1 hhead
      exact hpoint ds rfl

end Step

end Item

namespace Pattern

/-- A text is the numbers of a pattern, one after the other, with what stands between them. -/
inductive Spells : Pattern → List Numeral → List Char → Prop
  | nil : Spells [] [] []
  | number {item items n ns rest} (hfits : Item.Fits item n rest) (h : Spells items ns rest) :
      Spells (item :: items) (n :: ns) (n.text ++ rest)
  | piece {item items ns piece rest} (hpasses : Item.Passes item piece rest)
      (h : Spells items ns rest) : Spells (item :: items) ns (piece ++ rest)

def numbers (p : Pattern) : List Item := p.filter Item.isNumber

variable {p : Pattern} {ns : List Numeral} {cs : List Char} {m m' : Moment}

theorem spells_of_readFrom (h : p.readFrom m cs = some (m', [])) : ∃ ns, p.Spells ns cs := by
  induction p generalizing m cs with
  | nil =>
    cases h
    exact ⟨[], .nil⟩
  | cons item items ih =>
    simp only [readFrom] at h
    split at h
    · next m₁ rest hread =>
      obtain ⟨ns, hns⟩ := ih h
      cases hnumber : item.isNumber with
      | true =>
        obtain ⟨n, rfl, hfits⟩ := Item.append_of_read_number hnumber hread
        exact ⟨n :: ns, .number hfits hns⟩
      | false =>
        obtain ⟨piece, rfl, hpasses⟩ := Item.append_of_read_piece hnumber hread
        exact ⟨ns, .piece hpasses hns⟩
    · cases h

/-- A moment has numbers read for some items, each within its bounds, and agrees in all else with
what was there before. -/
structure Reads (items : List Item) (ns : List Numeral) (m m' : Moment) : Prop where
  values : items.map (Item.value m') = ns.map Numeral.value
  allowed : ∀ item ∈ items, item.Allows (item.value m')
  frame : ∀ item, item ∉ items → item.value m' = item.value m

section Cons

variable {item : Item} {items : Pattern} {n : Numeral}

theorem readFrom_cons {r : Moment × List Char} :
    Pattern.readFrom (item :: items) m cs = some r ↔
      ∃ m₁ rest, item.read m cs = some (m₁, rest) ∧ Pattern.readFrom items m₁ rest = some r := by
  rw [readFrom]
  split
  · next m₁ rest hread => simp [hread]
  · next hread => simp [hread]

theorem numbers_cons_of_number (h : item.isNumber = true) :
    Pattern.numbers (item :: items) = item :: Pattern.numbers items := by
  simp [numbers, h]

theorem numbers_cons_of_piece (h : item.isNumber = false) :
    Pattern.numbers (item :: items) = Pattern.numbers items := by
  simp [numbers, h]

theorem reads_cons (hnumber : item.isNumber = true) (hitem : item ∉ items) :
    Reads (item :: items) (n :: ns) m m' ↔
      item.Allows n.value ∧ Reads items ns (item.set m n.value) m' := by
  constructor
  · rintro ⟨hvalues, hallowed, hframe⟩
    obtain ⟨hvalue, hvalues⟩ := List.cons.inj hvalues
    obtain ⟨hfirst, hallowed⟩ := List.forall_mem_cons.1 hallowed
    rw [hvalue] at hfirst
    refine ⟨hfirst, hvalues, hallowed, fun other hother => ?_⟩
    by_cases heq : other = item
    · rw [heq, hvalue, Item.value_set hnumber hfirst]
    · rw [Item.value_set_of_ne heq, hframe other (by simp [heq, hother])]
  · rintro ⟨hfirst, hvalues, hallowed, hframe⟩
    have hvalue : item.value m' = n.value := by
      rw [hframe item hitem, Item.value_set hnumber hfirst]
    constructor
    · rw [List.map_cons, List.map_cons, hvalue, hvalues]
    · rw [List.forall_mem_cons, hvalue]
      exact ⟨hfirst, hallowed⟩
    · intro other hother
      rw [List.mem_cons, not_or] at hother
      rw [hframe other hother.2, Item.value_set_of_ne hother.1]

end Cons

/-- A pattern that reads no number twice reads from a text its numbers, if they are all allowed, and
nothing otherwise. -/
theorem readFrom_iff_of_spells (h : p.Spells ns cs) (hnodup : p.numbers.Nodup) :
    p.readFrom m cs = some (m', []) ↔ Reads p.numbers ns m m' := by
  induction h generalizing m with
  | nil =>
    constructor
    · intro h
      cases h
      exact ⟨rfl, nofun, fun _ _ => rfl⟩
    · intro h
      have hm : m = m' := Item.moment_ext fun item => (h.frame item nofun).symm
      rw [hm]
      rfl
  | number hfits _ ih =>
    rw [numbers_cons_of_number hfits.isNumber] at hnodup ⊢
    obtain ⟨hitem, hnodup⟩ := List.nodup_cons.1 hnodup
    rw [reads_cons hfits.isNumber hitem, ← ih hnodup, readFrom_cons]
    constructor
    · rintro ⟨m₁, rest, hread, hrest⟩
      obtain ⟨hallowed, heq⟩ := (Item.read_of_fits hfits).1 hread
      cases heq
      exact ⟨hallowed, hrest⟩
    · rintro ⟨hallowed, hrest⟩
      exact ⟨_, _, (Item.read_of_fits hfits).2 ⟨hallowed, rfl⟩, hrest⟩
  | piece hpasses _ ih =>
    rw [numbers_cons_of_piece hpasses.isNumber] at hnodup ⊢
    rw [← ih hnodup, readFrom_cons, Item.read_of_passes hpasses]
    simp only [Option.some.injEq, Prod.mk.injEq, ↓existsAndEq, and_assoc, true_and]

theorem read_eq_some_iff {text : String} :
    p.read text = some m ↔
      p.readFrom .unread text.toList = some (m, []) ∧ m.date.isValid = true := by
  rw [read]
  split
  · next m' hread =>
    rw [hread, Option.ite_none_right_eq_some]
    constructor
    · rintro ⟨hvalid, heq⟩
      cases heq
      exact ⟨rfl, hvalid⟩
    · rintro ⟨heq, hvalid⟩
      cases heq
      exact ⟨hvalid, rfl⟩
  · next hread =>
    refine ⟨nofun, fun h => ?_⟩
    exact absurd h.1 (hread m)

end Pattern

/-- A time of day, the leap second at the end of a minute included. -/
structure Moment.OnClock (m : Moment) : Prop where
  hour : m.hour < 24
  minute : m.minute < 60
  second : m.second ≤ 60

private theorem daysInMonth_le (year : Int) (month : Nat) : daysInMonth year month ≤ 31 := by
  unfold daysInMonth
  split
  · split <;> omega
  all_goals omega

theorem Date.isValid_iff {d : Date} :
    d.isValid = true ↔ (firstYear ≤ d.year ∧ d.year ≤ lastYear) ∧ (1 ≤ d.month ∧ d.month ≤ 12) ∧
      1 ≤ d.day ∧ d.day ≤ daysInMonth d.year d.month := by
  simp only [isValid, Bool.and_eq_true, decide_eq_true_eq, and_assoc]

namespace Format

variable {f : Format} {m : Moment}

private theorem nodup_numbers (f : Format) : f.pattern.numbers.Nodup := by
  cases f <;> decide

/-- A format reads year, month and day in some order, and then the time of day if it has one. -/
theorem mem_numbers {item : Item} :
    item ∈ f.pattern.numbers ↔
      item ∈ [.year, .month, .day] ∨ f.hasTime = true ∧ item ∈ [.hour, .minute, .second] := by
  have hperm : f.pattern.numbers.Perm
      ([.year, .month, .day] ++ if f.hasTime then [.hour, .minute, .second] else []) := by
    cases f <;> decide
  rw [hperm.mem_iff, List.mem_append]
  cases f.hasTime <;> simp

theorem onClock_iff :
    m.OnClock ↔ ∀ item ∈ [Item.hour, .minute, .second], item.Allows (item.value m) := by
  simp only [List.forall_mem_cons, Item.Allows, Item.bounds?, Item.value, Option.mem_some,
    forall_eq']
  constructor
  · rintro ⟨hhour, hminute, hsecond⟩
    exact ⟨by omega, by omega, by omega, nofun⟩
  · rintro ⟨hhour, hminute, hsecond, -⟩
    exact ⟨by omega, by omega, by omega⟩

/-- A day of the calendar has its numbers within their bounds. -/
theorem allowed_of_isValid (h : m.date.isValid = true) :
    ∀ item ∈ [Item.year, .month, .day], item.Allows (item.value m) := by
  obtain ⟨-, hmonth, hday⟩ := Date.isValid_iff.1 h
  have hlength := daysInMonth_le m.date.year m.date.month
  simp only [List.forall_mem_cons, Item.Allows, Item.bounds?, Item.value, Option.mem_some,
    forall_eq']
  exact ⟨nofun, by omega, by omega, nofun⟩

theorem allowed_iff (h : m.date.isValid = true) :
    (∀ item ∈ f.pattern.numbers, item.Allows (item.value m)) ↔ (f.hasTime = true → m.OnClock) := by
  rw [onClock_iff]
  constructor
  · intro hallowed htime item hitem
    exact hallowed item (mem_numbers.2 (.inr ⟨htime, hitem⟩))
  · intro hclock item hitem
    rcases mem_numbers.1 hitem with hitem | ⟨htime, hitem⟩
    · exact allowed_of_isValid h item hitem
    · exact hclock htime item hitem

/-- The items of a text in a format: the pattern without the day that is put behind the text. -/
def layout : Format → Pattern
  | yearMonthDashed => [.year, .literal '-', .month]
  | yearMonthPlain => [.year, .month]
  | f => f.pattern

def kept (f : Format) (m : Moment) : Moment := if f.hasTime then m else ⟨m.date, 0, 0, 0⟩

private theorem date_kept (f : Format) (m : Moment) : (f.kept m).date = m.date := by
  unfold kept
  split <;> rfl

private theorem value_kept {item : Item} (h : item ∈ f.pattern.numbers) :
    item.value (f.kept m) = item.value m := by
  unfold kept
  split
  · rfl
  · next htime =>
    rcases mem_numbers.1 h with hitem | ⟨htime', -⟩
    · fin_cases hitem <;> rfl
    · exact absurd htime' htime

private theorem value_kept_of_notMem {item : Item} (h : item ∉ f.pattern.numbers) :
    item.value (f.kept m) = item.value .unread := by
  rw [mem_numbers, not_or, not_and] at h
  cases item with
  | year | month | day => simp at h
  | hour | minute | second =>
    cases htime : f.hasTime with
    | false => simp [kept, htime, Item.value, Moment.unread]
    | true => simp [htime] at h
  | fraction | blanks | literal => rfl

/-- A text that is spelled as the pattern of a format says is read as a date of the calendar with
these numbers, and with a time of day if the format has one. -/
theorem readDate_iff_of_spells {ns : List Numeral} {text : String} {date : Date}
    (h : f.pattern.Spells ns (Text.trim text ++ f.daySuffix).toList) :
    f.readDate text = some date ↔
      date.isValid = true ∧ ∃ m : Moment, m.date = date ∧ (f.hasTime = true → m.OnClock) ∧
        f.pattern.numbers.map (Item.value m) = ns.map Numeral.value := by
  have hread : ∀ m, f.pattern.read (Text.trim text ++ f.daySuffix) = some m ↔
      Pattern.Reads f.pattern.numbers ns .unread m ∧ m.date.isValid = true := fun m => by
    rw [Pattern.read_eq_some_iff, Pattern.readFrom_iff_of_spells h f.nodup_numbers]
  rw [readDate, Option.map_eq_some_iff]
  constructor
  · rintro ⟨m, hm, rfl⟩
    obtain ⟨hreads, hvalid⟩ := (hread m).1 hm
    exact ⟨hvalid, m, rfl, (allowed_iff hvalid).1 hreads.allowed, hreads.values⟩
  · rintro ⟨hvalid, m, rfl, hclock, hvalues⟩
    have hallowed := (allowed_iff hvalid).2 hclock
    have hkept : f.pattern.numbers.map (Item.value (f.kept m)) = ns.map Numeral.value :=
      (List.map_congr_left fun _ => value_kept).trans hvalues
    have hreads : Pattern.Reads f.pattern.numbers ns .unread (f.kept m) := by
      refine ⟨hkept, fun item hitem => ?_, fun _ => value_kept_of_notMem⟩
      rw [value_kept hitem]
      exact hallowed item hitem
    refine ⟨f.kept m, (hread _).2 ⟨hreads, ?_⟩, date_kept f m⟩
    rwa [date_kept]

end Format

end TableAudit.Calendar
