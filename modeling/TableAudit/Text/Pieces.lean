/-!
# Cutting texts

`pieces p cs` cuts at every character that satisfies `p`; what stands between two neighbouring
separators is an empty piece. Blanks, the characters with the Unicode property White_Space, are cut
off at the ends of a text or between its words.
-/

namespace TableAudit.Text

/-- The maximal stretches without a separator, empty ones included. -/
def pieces (p : Char → Bool) : List Char → List (List Char)
  | [] => [[]]
  | c :: cs =>
    if p c then [] :: pieces p cs
    else match pieces p cs with
      | [] => [[c]]
      | w :: ws => (c :: w) :: ws

theorem pieces_ne_nil (p : Char → Bool) (cs : List Char) : pieces p cs ≠ [] := by
  cases cs with
  | nil => simp [pieces]
  | cons c cs =>
    by_cases h : p c = true
    · simp [pieces, h]
    · cases hw : pieces p cs <;> simp [pieces, h, hw]

/-- Cuts at the first character that satisfies `p`, which belongs to neither part. -/
def cut (p : Char → Bool) (cs : List Char) : Option (List Char × List Char) :=
  match cs.dropWhile (fun c => !p c) with
  | [] => none
  | _ :: rest => some (cs.takeWhile (fun c => !p c), rest)

/-- The part of a text before the first separator and, if there is one, the part behind it. -/
def cutAt (sep : Char) (s : String) : Option (String × String) :=
  (cut (· == sep) s.toList).map fun (a, b) => (String.ofList a, String.ofList b)

/-- A text cut at every occurrence of one character. -/
def splitAt (sep : Char) (s : String) : List String :=
  (pieces (· == sep) s.toList).map String.ofList

/-- White_Space: the ASCII controls from tab to carriage return, and the spaces and separators. -/
def isBlank (c : Char) : Bool :=
  let n := c.toNat
  (9 ≤ n && n ≤ 13) || n == 0x20 || n == 0x85 || n == 0xa0 || n == 0x1680 ||
    (0x2000 ≤ n && n ≤ 0x200a) || n == 0x2028 || n == 0x2029 || n == 0x202f || n == 0x205f ||
    n == 0x3000

def stripEnds (p : Char → Bool) (cs : List Char) : List Char :=
  ((cs.dropWhile p).reverse.dropWhile p).reverse

def trim (s : String) : String :=
  String.ofList (stripEnds isBlank s.toList)

/-- The stretches between blanks, none of them empty. -/
def words (s : String) : List String :=
  ((pieces isBlank s.toList).filter (! ·.isEmpty)).map String.ofList

end TableAudit.Text
