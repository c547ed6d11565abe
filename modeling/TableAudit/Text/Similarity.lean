import TableAudit.Decimal.Nearest

/-!
# Similar names

The Jaro similarity of two texts: how many characters they share at about the same place, and how
many of those come in the same order. A name is suggested for a misspelt one if they are similar
enough.
-/

namespace TableAudit.Text

/-- For every character of one text the place of its partner in the other: the first equal one that
is free and at most `range` places away. `taken` holds the partners found so far. -/
def partnersFrom (range : Nat) (b : List Char) (i : Nat) (taken : List Nat) :
    List Char → List (Option Nat)
  | [] => []
  | c :: cs =>
    let partner := b.zipIdx.find? fun (d, j) =>
      d == c && i ≤ j + range && j ≤ i + range && !taken.contains j
    match partner with
    | some (_, j) => some j :: partnersFrom range b (i + 1) (j :: taken) cs
    | none => none :: partnersFrom range b (i + 1) taken cs

def partners (a b : List Char) : List (Option Nat) :=
  partnersFrom (max a.length b.length / 2 - 1) b 0 [] a

/-- The shared characters as they stand in the first text, and as they stand in the second. -/
def shared (a b : List Char) : List Char × List Char :=
  let found := partners a b
  ((a.zip found).filterMap fun (c, j?) => j?.map fun _ => c,
    (b.zipIdx.filter fun (_, j) => found.contains (some j)).map (·.1))

/-- Between zero for texts that share nothing and one for equal texts. -/
def similarity (a b : String) : Float :=
  let (a, b) := (a.toList, b.toList)
  if a.isEmpty && b.isEmpty then 1
  else
    let (inA, inB) := shared a b
    let matched := inA.length
    if matched = 0 then 0
    else
      let moved := ((inA.zip inB).countP fun (c, d) => c != d) / 2
      let number (n : Nat) : Float := Decimal.ofInt n
      (number matched / number a.length + number matched / number b.length +
        number (matched - moved) / number matched) / 3

/-- From what similarity on a name is suggested. -/
def suggestible : Float := 0.7

/-- Puts a name behind those that are at most as similar. -/
def insertSimilar (entry : Float × String) : List (Float × String) → List (Float × String)
  | [] => [entry]
  | e :: es => if e.1 > entry.1 then entry :: e :: es else e :: insertSimilar entry es

/-- The names similar to a text, the most similar one last. -/
def similarNames (s : String) (names : List String) : List String :=
  let scored := (names.map fun n => (similarity s n, n)).filter (·.1 > suggestible)
  (scored.foldl (fun found entry => insertSimilar entry found) []).map (·.2)

/-- The most similar name, if one is similar enough. -/
def suggestion? (s : String) (names : List String) : Option String :=
  (similarNames s names).getLast?

end TableAudit.Text
