import TableAudit.Text.Case
import TableAudit.Text.WidthTable

/-!
# Columns on a screen

How many columns a text takes where every character takes none, one or two. Characters that are
drawn as one, such as a letter and its accent or the parts of a joined emoji, form a cluster, which
is as wide as its first character.
-/

namespace TableAudit.Text

abbrev Cluster := List Char

/-- The columns of a character that stands alone. -/
def charWidth (c : Char) : Nat :=
  let n := c.toNat
  if n < 0x80 then 1
  else if inRanges WidthTable.zeroRanges n then 0
  else if inRanges WidthTable.wideRanges n then 2
  else 1

def isFlagLetter (c : Char) : Bool := 0x1f1e6 ≤ c.toNat && c.toNat ≤ 0x1f1ff

def isSkinTone (c : Char) : Bool := 0x1f3fb ≤ c.toNat && c.toNat ≤ 0x1f3ff

def emojiSelector : Char := '\ufe0f'

def joiner : Char := '\u200d'

/-- Narrow symbols that become wide with an emoji selector behind them. -/
def isSelectable (c : Char) : Bool := inRanges WidthTable.selectableRanges c.toNat

/-- Whether a character may be a part of a joined emoji. -/
def isPictogram (c : Char) : Bool :=
  0x80 ≤ c.toNat && (isSelectable c || charWidth c == 2)

/-- Whether a character is drawn together with the cluster before it. -/
def joins (cluster : Cluster) (c : Char) : Bool :=
  match cluster with
  | [] => false
  | first :: _ =>
    charWidth c == 0 ||
      (isSkinTone c && isPictogram first) ||
      (cluster.getLast? == some joiner && isPictogram first && isPictogram c) ||
      (isFlagLetter c && isFlagLetter first && cluster.length == 1)

/-- Clusters from left to right; `cluster` is the one begun. -/
def clustersFrom (cluster : Cluster) : List Char → List Cluster
  | [] => if cluster.isEmpty then [] else [cluster]
  | c :: cs =>
    if joins cluster c then clustersFrom (cluster ++ [c]) cs
    else if cluster.isEmpty then clustersFrom [c] cs
    else cluster :: clustersFrom [c] cs

def clusters (cs : List Char) : List Cluster := clustersFrom [] cs

def clusterWidth : Cluster → Nat
  | [] => 0
  | [c] => charWidth c
  | c :: d :: _ =>
    if isFlagLetter c && isFlagLetter d then 2
    else if isSelectable c && d == emojiSelector then 2
    else charWidth c

def widthOf : List Cluster → Nat
  | [] => 0
  | c :: cs => clusterWidth c + widthOf cs

def width (s : String) : Nat := widthOf (clusters s.toList)

end TableAudit.Text
