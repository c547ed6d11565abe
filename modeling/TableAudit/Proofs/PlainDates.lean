import TableAudit.Proofs.DateGrammar

/-!
# Dates without separators

A text in a format without separators is cut into numbers by their widths and by what is no digit.
Where it is exactly as many digits as the name of the format has letters, each number stands at the
places of its letter. A text of another length may be a date as well, since a number may be shorter
than its letters or stand behind blanks.
-/

namespace TableAudit.Calendar

/-- What a text has at the places of a letter in a name. -/
def marked (letter : Char) (name cs : List Char) : List Char :=
  ((name.zip cs).filter (·.1 == letter)).map Prod.snd

section Marked

variable {letter other : Char} {name cs : List Char}

private theorem marked_replicate_append (k : Nat) :
    marked letter (List.replicate k other ++ name) cs =
      (if other = letter then cs.take k else []) ++ marked letter name (cs.drop k) := by
  induction k generalizing cs with
  | zero => simp
  | succ k ih =>
    cases cs with
    | nil => simp [marked]
    | cons c cs =>
      have hcs := @ih cs
      simp only [marked, List.replicate_succ, List.cons_append, List.zip_cons_cons] at hcs ⊢
      by_cases h : other = letter <;> simpa [h] using hcs

private theorem marked_of_notMem (h : letter ∉ name) : marked letter name cs = [] := by
  rw [marked, List.map_eq_nil_iff, List.filter_eq_nil_iff]
  rintro ⟨c, d⟩ hc hletter
  obtain rfl : c = letter := by simpa using hletter
  exact h (List.of_mem_zip hc).1

end Marked

namespace Item

def letter : Item → Char
  | .year => 'y'
  | .month => 'M'
  | .day => 'd'
  | .hour => 'H'
  | .minute => 'm'
  | .second => 's'
  | .fraction | .blanks => ' '
  | .literal c => c

theorem letter_inj {item other : Item} (h : item.isNumber = true) (hother : other.isNumber = true)
    (heq : item.letter = other.letter) : item = other := by
  cases item <;> cases h <;> cases other <;> cases hother <;>
    first | rfl | exact absurd heq (by decide)

end Item

namespace Pattern

def letters (p : Pattern) : List Char := p.flatMap fun item => List.replicate item.width item.letter

variable {p : Pattern} {cs : List Char}

private theorem letter_notMem {item : Item} (hnumber : item.isNumber = true)
    (hnumbers : ∀ other ∈ p, other.isNumber = true) (h : item ∉ p) : item.letter ∉ p.letters := by
  intro hletter
  obtain ⟨other, hother, hmem⟩ := List.mem_flatMap.1 hletter
  have heq := Item.letter_inj hnumber (hnumbers other hother) (List.eq_of_mem_replicate hmem)
  exact h (heq ▸ hother)

/-- A text of as many digits as a pattern of numbers has letters is spelled as the pattern says,
with each number at the places of its letter. -/
theorem exists_spells_of_digits (hnumbers : ∀ item ∈ p, item.isNumber = true) (hnodup : p.Nodup)
    (hlength : cs.length = p.letters.length) (hdigits : ∀ c ∈ cs, c.isDigit = true) :
    ∃ ns, p.Spells ns cs ∧ ns.map (·.digits.length) = p.map Item.width ∧
      ns.map Numeral.value =
        p.map fun item => (Decimal.digitsValue (marked item.letter p.letters cs) : Int) := by
  induction p generalizing cs with
  | nil =>
    obtain rfl := List.eq_nil_of_length_eq_zero hlength
    exact ⟨[], .nil, rfl, rfl⟩
  | cons item items ih =>
    obtain ⟨hnumber, hnumbers⟩ := List.forall_mem_cons.1 hnumbers
    obtain ⟨hitem, hnodup⟩ := List.nodup_cons.1 hnodup
    have hletters : letters (item :: items) =
        List.replicate item.width item.letter ++ letters items := rfl
    rw [hletters, List.length_append, List.length_replicate] at hlength
    have hwidth : item.width ≠ 0 := by cases item <;> first | decide | cases hnumber
    have htake : (cs.take item.width).length = item.width := List.length_take_of_le (by omega)
    have hdrop : (cs.drop item.width).length = (letters items).length := by
      rw [List.length_drop]
      omega
    obtain ⟨ns, hns, hwidths, hvalues⟩ := ih hnumbers hnodup hdrop fun c hc =>
      hdigits c (List.mem_of_mem_drop hc)
    let n : Numeral := .ofDigits (cs.take item.width)
      (fun c hc => hdigits c (List.mem_of_mem_take hc)) (List.ne_nil_of_length_pos (by omega))
    have hfits : item.Fits n (cs.drop item.width) := Item.fits_of_width hnumber rfl htake _
    refine ⟨n :: ns, List.take_append_drop item.width cs ▸ .number hfits hns, ?_, ?_⟩
    · rw [List.map_cons, List.map_cons, hwidths]
      exact congrArg (· :: _) htake
    · rw [List.map_cons, List.map_cons, hvalues]
      refine congrArg₂ _ ?_ (List.map_congr_left fun other hother => ?_)
      · rw [hletters, marked_replicate_append, if_pos rfl,
          marked_of_notMem (letter_notMem hnumber hnumbers hitem), List.append_nil]
        rfl
      · have hne : item.letter ≠ other.letter := fun heq =>
          hitem (Item.letter_inj hnumber (hnumbers other hother) heq ▸ hother)
        rw [hletters, marked_replicate_append, if_neg hne, List.nil_append]

end Pattern

section Months

variable {year month : Numeral} {cs : List Char}

/-- Only the first character behind a number matters to it. -/
theorem Item.Fits.congr {item : Item} {n : Numeral} {rest rest' : List Char}
    (h : item.Fits n rest) (hhead : rest.head? = rest'.head?) : item.Fits n rest' := by
  have hstop : NoDigit rest → NoDigit rest' := fun hrest c hc => hrest c (hhead ▸ hc)
  cases h with
  | year hsign h => exact .year hsign ⟨h.length_le, fun hlt => hstop (h.stops hlt)⟩
  | signed hsign h => exact .signed hsign (hstop h)
  | short hitem hsign h => exact .short hitem hsign ⟨h.length_le, fun hlt => hstop (h.stops hlt)⟩

theorem Item.Fits.unsigned {item : Item} {n : Numeral} {rest : List Char} (h : item.Fits n rest)
    (hitem : item ≠ .year) : n.sign = none ∧ EndsAt 2 n.digits rest := by
  cases h with
  | year | signed => exact absurd rfl hitem
  | short _ hsign hends => exact ⟨hsign, hends⟩

theorem spells_nil {ns : List Numeral} : Pattern.Spells [] ns cs ↔ ns = [] ∧ cs = [] := by
  constructor
  · intro h
    cases h
    exact ⟨rfl, rfl⟩
  · rintro ⟨rfl, rfl⟩
    exact .nil

theorem spells_cons {item : Item} {items : Pattern} {ns : List Numeral}
    (hnumber : item.isNumber = true) :
    Pattern.Spells (item :: items) ns cs ↔ ∃ n more rest, ns = n :: more ∧ cs = n.text ++ rest ∧
      item.Fits n rest ∧ Pattern.Spells items more rest := by
  constructor
  · intro h
    cases h with
    | number hfits h => exact ⟨_, _, _, rfl, rfl, hfits, h⟩
    | piece hpasses => simp [hpasses.isNumber] at hnumber
  · rintro ⟨n, more, rest, rfl, rfl, hfits, h⟩
    exact .number hfits h

def firstDay : Numeral := .ofDigits ['0', '1'] (by simp) nofun

/-- A month in two digits is not changed by the day behind it. -/
theorem spells_append_firstDay {ns : List Numeral} (h : Pattern.Spells [.year, .month] ns cs)
    (hlast : ∀ n ∈ ns.getLast?, n.digits.length = 2) :
    Pattern.Spells [.year, .month, .day] (ns ++ [firstDay]) (cs ++ ['0', '1']) := by
  obtain ⟨year, _, _, rfl, rfl, hyear, h⟩ := (spells_cons rfl).1 h
  obtain ⟨month, _, _, rfl, rfl, hmonth, h⟩ := (spells_cons rfl).1 h
  obtain ⟨rfl, rfl⟩ := spells_nil.1 h
  obtain ⟨hsign, -⟩ := hmonth.unsigned nofun
  have hwidth : month.digits.length = Item.month.width := hlast month rfl
  have hyear' : Item.year.Fits year (month.text ++ ['0', '1']) := hyear.congr <| by
    rw [List.append_nil, List.head?_append_of_ne_nil _ month.text_ne_nil]
  have hmonth' : Item.month.Fits month ['0', '1'] := Item.fits_of_width rfl hsign hwidth _
  have hday : Item.day.Fits firstDay [] := Item.fits_of_width rfl rfl rfl _
  rw [List.append_nil, List.append_assoc]
  exact .number hyear' (.number hmonth' (.number hday .nil))

theorem spells_yearMonth (hyear : Item.year.Fits year month.text) (hsign : month.sign = none)
    (hlength : month.digits.length ≤ 2) :
    Pattern.Spells [.year, .month] [year, month] (year.text ++ month.text) := by
  have hmonth : Item.month.Fits month [] := .short rfl hsign ⟨hlength, fun _ => noDigit_nil⟩
  have hspells := Pattern.Spells.number (hyear.congr (by simp)) (Pattern.Spells.number hmonth .nil)
  rwa [List.append_nil] at hspells

private theorem blanks_eq_nil {n : Numeral} {front : List Char} (h : front ++ n.blanks = cs)
    (hcs : ∀ c ∈ cs.getLast?, Text.isBlank c = false) : n.blanks = [] := by
  by_contra hne
  have hlast := hcs (n.blanks.getLast hne) (by
    rw [← h, List.getLast?_append_of_ne_nil _ hne, List.getLast?_eq_some_getLast hne]
    rfl)
  simp [n.isBlank_of_mem _ (List.getLast_mem hne)] at hlast

/-- A month of two digits whose last digit is not part of the text leaves a month of one digit. -/
theorem exists_spells_of_shorter_month (hyear : Item.year.Fits year month.text)
    (hsign : month.sign = none) (hlength : month.digits.length = 2) {c : Char}
    (h : year.text ++ month.text = cs ++ [c]) : ∃ ns, Pattern.Spells [.year, .month] ns cs := by
  obtain ⟨x, y, hxy⟩ := List.length_eq_two.1 hlength
  have hx : ∀ d ∈ [x], d.isDigit = true := fun d hd =>
    month.isDigit_of_mem d (by simp [hxy, List.mem_singleton.1 hd])
  let short : Numeral := ⟨month.blanks, none, [x], month.isBlank_of_mem, hx, List.cons_ne_nil x []⟩
  have hmonth : month.text = short.text ++ [y] := by
    simp [Numeral.text, Numeral.bare, short, hsign, hxy]
  rw [hmonth, ← List.append_assoc] at h
  obtain ⟨rfl, -⟩ := List.append_inj' h rfl
  have hshort : Item.year.Fits year short.text := hyear.congr <| by
    rw [hmonth, List.head?_append_of_ne_nil _ short.text_ne_nil]
  exact ⟨_, spells_yearMonth hshort rfl (by simp [short])⟩

/-- If a text with a day put behind it is spelled as a date, then the text is a year and a month.
The month may lose its zero to the day: one digit and `01` are read as two digits and `1`. -/
theorem spells_of_append_firstDay {ns : List Numeral}
    (hcs : ∀ c ∈ cs.getLast?, Text.isBlank c = false)
    (h : Pattern.Spells [.year, .month, .day] ns (cs ++ ['0', '1'])) :
    ∃ ns, Pattern.Spells [.year, .month] ns cs := by
  obtain ⟨year, _, _, rfl, htext, hyear, h⟩ := (spells_cons rfl).1 h
  obtain ⟨month, _, _, rfl, rfl, hmonth, h⟩ := (spells_cons rfl).1 h
  obtain ⟨day, _, _, rfl, rfl, hday, h⟩ := (spells_cons rfl).1 h
  obtain ⟨rfl, rfl⟩ := spells_nil.1 h
  obtain ⟨hsign, hmonthEnds⟩ := hmonth.unsigned (by decide)
  obtain ⟨hdaySign, hdayEnds⟩ := hday.unsigned (by decide)
  have hyear' : Item.year.Fits year month.text := hyear.congr <| by
    rw [List.head?_append_of_ne_nil _ month.text_ne_nil]
  have hdayText : day.text = day.blanks ++ day.digits := by
    rw [Numeral.text, Numeral.bare_of_unsigned hdaySign]
  rw [List.append_nil, hdayText] at htext hmonthEnds
  rcases hdayEnds.length_le.lt_or_eq with hone | htwo
  · have hlength : day.digits.length = 1 :=
      le_antisymm (Nat.lt_succ_iff.1 hone) (List.length_pos_of_ne_nil day.ne_nil)
    have hwhole : (year.text ++ month.text ++ day.blanks) ++ day.digits =
        (cs ++ ['0']) ++ ['1'] := by simpa using htext.symm
    obtain ⟨hfront, hdigits⟩ := List.append_inj' hwhole (by rw [hlength]; rfl)
    have hblanks := blanks_eq_nil hfront (by simp [Text.isBlank])
    -- no blank and one more digit follow, so the month takes both of its digits
    have hfull : month.digits.length = 2 := by
      by_contra hne
      have hstops := hmonthEnds.stops (lt_of_le_of_ne hmonthEnds.length_le hne) '1'
      simp [hblanks, hdigits] at hstops
    rw [hblanks, List.append_nil] at hfront
    exact exists_spells_of_shorter_month hyear' hsign hfull hfront
  · have hwhole : (year.text ++ month.text ++ day.blanks) ++ day.digits = cs ++ ['0', '1'] := by
      simpa using htext.symm
    obtain ⟨hfront, -⟩ := List.append_inj' hwhole htwo
    rw [blanks_eq_nil hfront hcs, List.append_nil] at hfront
    exact ⟨_, hfront ▸ spells_yearMonth hyear' hsign hmonthEnds.length_le⟩

end Months

namespace Format

def plain : List Format := [yearMonthDayPlain, dayMonthYearPlain, yearMonthPlain, stampPlain]

/-- The number that stands at the places of a letter in the name of a format. -/
def numberAt (f : Format) (letter : Char) (cs : List Char) : Nat :=
  Decimal.digitsValue (marked letter f.name.toList cs)

variable {f : Format} {text : String} {date : Date} {ns : List Numeral}

theorem isNumber_of_mem_layout (hf : f ∈ plain) : ∀ item ∈ f.layout, item.isNumber = true := by
  fin_cases hf <;> decide

private theorem letters_layout (hf : f ∈ plain) : f.layout.letters = f.name.toList := by
  fin_cases hf <;> rfl

private theorem numbers_layout (hf : f ∈ plain) : f.layout.numbers = f.layout :=
  List.filter_eq_self.2 (isNumber_of_mem_layout hf)

/-- Only a text without a day has something put behind it. -/
theorem plain_cases (hf : f ∈ plain) :
    f = yearMonthPlain ∨ f.pattern = f.layout ∧ f.daySuffix = "" ∧ f.precision ≠ .month := by
  fin_cases hf <;> first | exact .inl rfl | exact .inr ⟨rfl, rfl, nofun⟩

theorem exists_spells_layout (hf : f ∈ plain) (h : f.readDate text = some date) :
    ∃ ns, f.layout.Spells ns (Text.trim text).toList := by
  obtain ⟨m, hm, -⟩ := Option.map_eq_some_iff.1 h
  obtain ⟨ns, hns⟩ := Pattern.spells_of_readFrom (Pattern.read_eq_some_iff.1 hm).1
  rcases plain_cases hf with rfl | ⟨hpattern, hsuffix, -⟩
  · have hlast : ∀ c ∈ (Text.trim text).toList.getLast?, Text.isBlank c = false := fun c hc => by
      rw [Text.trim, String.toList_ofList] at hc
      exact Text.not_of_getLast?_stripEnds hc
    rw [String.toList_append] at hns
    exact spells_of_append_firstDay hlast hns
  · rw [hsuffix, String.append_empty, hpattern] at hns
    exact ⟨ns, hns⟩

theorem readDate_iff_of_layout (hf : f ∈ plain) (h : f.layout.Spells ns (Text.trim text).toList)
    (hlast : f.precision = .month → ∀ n ∈ ns.getLast?, n.digits.length = 2) :
    f.readDate text = some date ↔
      date.isValid = true ∧ (f.precision = .month → date.day = 1) ∧
        ∃ m : Moment, m.date = date ∧ (f.hasTime = true → m.OnClock) ∧
          f.layout.map (Item.value m) = ns.map Numeral.value := by
  rcases plain_cases hf with rfl | ⟨hpattern, hsuffix, hprecision⟩
  · have hspells : yearMonthPlain.pattern.Spells (ns ++ [firstDay])
        (Text.trim text ++ yearMonthPlain.daySuffix).toList := by
      rw [String.toList_append]
      exact spells_append_firstDay h (hlast rfl)
    have hvalues : ∀ m : Moment, yearMonthPlain.pattern.numbers.map (Item.value m) =
        (ns ++ [firstDay]).map Numeral.value ↔
          m.date.day = 1 ∧ yearMonthPlain.layout.map (Item.value m) = ns.map Numeral.value := by
      intro m
      have hmap : yearMonthPlain.pattern.numbers.map (Item.value m) =
          yearMonthPlain.layout.map (Item.value m) ++ [(m.date.day : Int)] := rfl
      have hfirst : [firstDay].map Numeral.value = [1] := rfl
      rw [hmap, List.map_append, hfirst]
      constructor
      · intro heq
        obtain ⟨hvalues, hday⟩ := List.append_inj' heq rfl
        exact ⟨by simpa using hday, hvalues⟩
      · rintro ⟨hday, hvalues⟩
        rw [hvalues, hday]
        rfl
    rw [readDate_iff_of_spells hspells]
    simp only [hvalues]
    constructor
    · rintro ⟨hvalid, m, rfl, hclock, hday, hm⟩
      exact ⟨hvalid, fun _ => hday, m, rfl, hclock, hm⟩
    · rintro ⟨hvalid, hday, m, rfl, hclock, hm⟩
      exact ⟨hvalid, m, rfl, hclock, hday rfl, hm⟩
  · have hspells : f.pattern.Spells ns (Text.trim text ++ f.daySuffix).toList := by
      rwa [hsuffix, String.append_empty, hpattern]
    rw [readDate_iff_of_spells hspells, hpattern, numbers_layout hf]
    simp [hprecision]

/-- The numbers of a moment, item by item, are those at the places of the letters. -/
theorem values_eq_numbersAt_iff (hf : f ∈ plain) {m : Moment} {cs : List Char} :
    (f.layout.map (Item.value m) = f.layout.map fun item => (f.numberAt item.letter cs : Int)) ↔
      (m.date.year = f.numberAt 'y' cs ∧ m.date.month = f.numberAt 'M' cs) ∧
        (f.precision ≠ .month → m.date.day = f.numberAt 'd' cs) ∧
        (f.hasTime = true → m.hour = f.numberAt 'H' cs ∧ m.minute = f.numberAt 'm' cs ∧
          m.second = f.numberAt 's' cs) := by
  rw [List.map_inj_left]
  fin_cases hf <;> simp [layout, pattern, Item.value, Item.letter, precision, hasTime] <;> tauto

/-- A text of as many digits as the name of a format has letters has each number at the places of
its letter. -/
theorem readDate_iff_numbersAt (hf : f ∈ plain)
    (hlength : (Text.trim text).toList.length = f.name.length)
    (hdigits : ∀ c ∈ (Text.trim text).toList, c.isDigit = true) :
    f.readDate text = some date ↔
      date.isValid = true ∧ date.year = f.numberAt 'y' (Text.trim text).toList ∧
        date.month = f.numberAt 'M' (Text.trim text).toList ∧
        date.day = (if f.precision = .month then 1 else f.numberAt 'd' (Text.trim text).toList) ∧
        (f.hasTime = true → f.numberAt 'H' (Text.trim text).toList < 24 ∧
          f.numberAt 'm' (Text.trim text).toList < 60 ∧
          f.numberAt 's' (Text.trim text).toList ≤ 60) := by
  generalize hcs : (Text.trim text).toList = cs at *
  have hnodup : f.layout.Nodup := by fin_cases hf <;> decide
  obtain ⟨ns, hns, hwidths, hvalues⟩ := Pattern.exists_spells_of_digits (isNumber_of_mem_layout hf)
    hnodup (by rw [letters_layout hf, hlength, String.length_toList]) hdigits
  have hlast : f.precision = .month → ∀ n ∈ ns.getLast?, n.digits.length = 2 := by
    intro hmonth n hn
    rcases plain_cases hf with rfl | ⟨-, -, hprecision⟩
    · have hlengths := congrArg List.getLast? hwidths
      rw [List.getLast?_map, hn] at hlengths
      exact Option.some.inj hlengths
    · exact absurd hmonth hprecision
  rw [readDate_iff_of_layout hf (hcs ▸ hns) hlast, hvalues, letters_layout hf]
  constructor
  · rintro ⟨hvalid, hday, m, rfl, hclock, hm⟩
    obtain ⟨⟨hyear, hmonth⟩, hday', htime⟩ := (values_eq_numbersAt_iff hf).1 hm
    refine ⟨hvalid, hyear, hmonth, ?_, fun h => ?_⟩
    · split
      · next h => exact hday h
      · next h => exact hday' h
    · obtain ⟨hhour, hminute, hsecond⟩ := htime h
      rw [← hhour, ← hminute, ← hsecond]
      exact ⟨(hclock h).hour, (hclock h).minute, (hclock h).second⟩
  · rintro ⟨hvalid, hyear, hmonth, hday, hclock⟩
    refine ⟨hvalid, fun h => by rw [hday, if_pos h],
      ⟨date, f.numberAt 'H' cs, f.numberAt 'm' cs, f.numberAt 's' cs⟩, rfl, fun h => ?_, ?_⟩
    · obtain ⟨hhour, hminute, hsecond⟩ := hclock h
      exact ⟨hhour, hminute, hsecond⟩
    · exact (values_eq_numbersAt_iff hf).2
        ⟨⟨hyear, hmonth⟩, fun h => by rw [hday, if_neg h], fun _ => ⟨rfl, rfl, rfl⟩⟩

end Format

/-- Whatever is read in a format without separators is one number after the other, in the order of
the format, and nothing else. The date is the one of these numbers, on the first day of its month if
the format has no day; then this is said of months in two digits. A text of as many digits as the
name of the format has letters has each number at the places of its letter. -/
theorem readDate_plain {f : Format} (hf : f ∈ Format.plain) (text : String) (date : Date) :
    (f.readDate text = some date → ∃ ns, f.layout.Spells ns (Text.trim text).toList) ∧
      (∀ ns, f.layout.Spells ns (Text.trim text).toList →
        (f.precision = .month → ∀ n ∈ ns.getLast?, n.digits.length = 2) →
          (f.readDate text = some date ↔
            date.isValid = true ∧ (f.precision = .month → date.day = 1) ∧
              ∃ m : Moment, m.date = date ∧ (f.hasTime = true → m.OnClock) ∧
                f.layout.map (Item.value m) = ns.map Numeral.value)) ∧
      ((Text.trim text).toList.length = f.name.length →
        (∀ c ∈ (Text.trim text).toList, c.isDigit = true) →
          (f.readDate text = some date ↔
            date.isValid = true ∧ date.year = f.numberAt 'y' (Text.trim text).toList ∧
              date.month = f.numberAt 'M' (Text.trim text).toList ∧
              date.day =
                (if f.precision = .month then 1 else f.numberAt 'd' (Text.trim text).toList) ∧
              (f.hasTime = true → f.numberAt 'H' (Text.trim text).toList < 24 ∧
                f.numberAt 'm' (Text.trim text).toList < 60 ∧
                f.numberAt 's' (Text.trim text).toList ≤ 60))) :=
  ⟨Format.exists_spells_layout hf, fun _ hns => Format.readDate_iff_of_layout hf hns,
    Format.readDate_iff_numbersAt hf⟩

/-- A month in its place, and a day behind a month of one digit with blanks between the numbers. -/
theorem readDate_plain_blanks :
    Format.yearMonthPlain.readDate " 202402" = some ⟨2024, 2, 1⟩ ∧
      (∃ ns, Format.yearMonthPlain.layout.Spells ns (Text.trim " 202402").toList) ∧
      Format.yearMonthDayPlain.readDate "2024 2 29" = some ⟨2024, 2, 29⟩ := by
  obtain ⟨hspelled, -, hplaces⟩ := readDate_plain (f := .yearMonthPlain) (by decide) " 202402"
    ⟨2024, 2, 1⟩
  have htrim : (Text.trim " 202402").toList = ['2', '0', '2', '4', '0', '2'] := rfl
  rw [htrim] at hplaces
  have hread := (hplaces rfl (by simp)).2 (by decide +kernel)
  obtain ⟨-, hnumbers, -⟩ := readDate_plain (f := .yearMonthDayPlain) (by decide) "2024 2 29"
    ⟨2024, 2, 29⟩
  let year : Numeral := .ofDigits ['2', '0', '2', '4'] (by simp) (List.cons_ne_nil _ _)
  let month : Numeral :=
    ⟨[' '], none, ['2'], by simp [Text.isBlank], by simp, List.cons_ne_nil _ _⟩
  let day : Numeral :=
    ⟨[' '], none, ['2', '9'], by simp [Text.isBlank], by simp, List.cons_ne_nil _ _⟩
  have hday : Item.day.Fits day [] := Item.fits_of_width rfl rfl rfl _
  have hmonth : Item.month.Fits month [' ', '2', '9'] :=
    .short rfl rfl ⟨by decide, fun _ => noDigit_cons rfl⟩
  have hyear : Item.year.Fits year [' ', '2', ' ', '2', '9'] := Item.fits_of_width rfl rfl rfl _
  have hspells : Format.yearMonthDayPlain.layout.Spells [year, month, day]
      (Text.trim "2024 2 29").toList := .number hyear (.number hmonth (.number hday .nil))
  have hprecision : Format.yearMonthDayPlain.precision ≠ .month := by decide
  have htime : Format.yearMonthDayPlain.hasTime ≠ true := by decide
  exact ⟨hread, hspelled hread, (hnumbers _ hspells (absurd · hprecision)).2
    ⟨by decide, (absurd · hprecision), ⟨⟨2024, 2, 29⟩, 0, 0, 0⟩, rfl, (absurd · htime), rfl⟩⟩

/-- Seven digits are read as a date in a format of eight letters. -/
theorem readDate_plain_seven_digits :
    Format.yearMonthDayPlain.readDate "2024115" = some ⟨2024, 11, 5⟩ ∧
      Format.yearMonthDayPlain.name.length = 8 ∧ (Text.trim "2024115").length = 7 :=
  ⟨by decide +kernel, by decide +kernel, by decide +kernel⟩

end TableAudit.Calendar
