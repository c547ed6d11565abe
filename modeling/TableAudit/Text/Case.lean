import TableAudit.Text.CaseTable

/-!
# Letter case

Capital and small forms by the Unicode tables. A character's form may be several characters; the
small form of a text also knows the final sigma, which the small form of a character does not.
-/

namespace TableAudit.Text

open CaseTable

/-- Whether a code point lies in one of the ranges. -/
def inRanges (ranges : List (Nat × Nat)) (n : Nat) : Bool :=
  ranges.any fun r => r.1 ≤ n && n ≤ r.2

/-- The image of a code point: a listed expansion, else the shift of the run that covers it. -/
def mapped (runs : List Run) (expansions : List (Nat × List Nat)) (c : Char) : List Char :=
  match expansions.find? (·.1 == c.toNat) with
  | some (_, cs) => cs.map Char.ofNat
  | none =>
    match runs.find? (·.covers c.toNat) with
    | some r => [Char.ofNat (c.toNat + r.shift).toNat]
    | none => [c]

def upperChar (c : Char) : List Char :=
  if c.toNat < 128 then [c.toUpper] else mapped upperRuns upperExpansions c

def lowerChar (c : Char) : List Char :=
  if c.toNat < 128 then [c.toLower] else mapped lowerRuns lowerExpansions c

def upper (s : String) : String :=
  String.ofList (s.toList.flatMap upperChar)

/-- Every letter in its small form, each on its own. -/
def lowerEach (s : String) : String :=
  String.ofList (s.toList.flatMap lowerChar)

def isCased (c : Char) : Bool := inRanges casedRanges c.toNat

def isCaseIgnorable (c : Char) : Bool := inRanges ignorableRanges c.toNat

/-- Whether the first character that matters for case is a letter. -/
def startsCased (cs : List Char) : Bool :=
  match cs.dropWhile isCaseIgnorable with
  | c :: _ => isCased c
  | [] => false

/-- Small forms from left to right; `before` is what precedes, nearest first. A capital sigma that
ends a word becomes the final form of the letter. -/
def lowerFrom (before : List Char) : List Char → List Char
  | [] => []
  | c :: cs =>
    let small :=
      if c == 'Σ' then
        if startsCased before && !startsCased cs then ['ς'] else ['σ']
      else lowerChar c
    small ++ lowerFrom (c :: before) cs

def lower (s : String) : String :=
  String.ofList (lowerFrom [] s.toList)

/-- Equality up to the case of ASCII letters. -/
def sameIgnoringAsciiCase (a b : String) : Bool :=
  a.toList.map Char.toLower == b.toList.map Char.toLower

end TableAudit.Text
