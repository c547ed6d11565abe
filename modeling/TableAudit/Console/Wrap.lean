import TableAudit.Text.Pieces
import TableAudit.Text.Width

/-!
# Wrapping a line

A line is broken at its spaces, and inside a word only if the word is longer than a whole line. A
line with no room for more than two further columns is full. The space at a break is dropped.
-/

namespace TableAudit.Console

open Text (Cluster widthOf clusterWidth)

/-- Room that is too little to begin anything in. -/
def leastRoom : Nat := 2

/-- How many of the clusters fit into some room. -/
def fitting (room : Nat) : List Cluster → Nat
  | [] => 0
  | c :: cs => if clusterWidth c ≤ room then fitting (room - clusterWidth c) cs + 1 else 0

/-- What words take up while they wait to be placed. -/
def load : List (List Cluster) → Nat
  | [] => 0
  | word :: words => word.length + 1 + load words

theorem load_cons (word : List Cluster) (words : List (List Cluster)) :
    load (word :: words) = word.length + 1 + load words := rfl

/-- Placing a part of a word leaves less to be placed, or at least begins a new line. -/
theorem load_drop (word : List Cluster) (words : List (List Cluster)) (n : Nat) :
    load (word.drop n :: words) ≤ load (word :: words) := by
  simp [load_cons]

private theorem load_drop_lt {word : List Cluster} (words : List (List Cluster)) {n : Nat}
    (h : 0 < n)
    (hw : word ≠ []) : load (word.drop n :: words) < load (word :: words) := by
  have := List.length_pos_iff.mpr hw
  simp only [load_cons, List.length_drop]
  omega

/-- The lines that words fill, after the line that has been begun. -/
def fill (width : Nat) (line : List Cluster) : List (List Cluster) → List (List Cluster)
  | [] => if line.isEmpty then [] else [line]
  | word :: words =>
    let begun := if line.isEmpty then line else line ++ [[' ']]
    if widthOf begun + widthOf word ≤ width then
      if widthOf (begun ++ word) > width - leastRoom then (begun ++ word) :: fill width [] words
      else fill width (begun ++ word) words
    else if line = [] then
      let count := max (fitting width word) 1
      word.take count :: fill width [] (word.drop count :: words)
    else if width - widthOf begun ≤ leastRoom || widthOf word ≤ width then
      line :: fill width [] (word :: words)
    else
      let count := fitting (width - widthOf begun) word
      (begun ++ word.take count) :: fill width [] (word.drop count :: words)
termination_by words => (load words, line.length)
decreasing_by
  · exact Prod.Lex.left _ _ (by rw [load_cons]; omega)
  · exact Prod.Lex.left _ _ (by rw [load_cons]; omega)
  · next fits empty =>
    refine Prod.Lex.left _ _ (load_drop_lt words (by omega) ?_)
    rintro rfl
    simp [empty, begun, widthOf] at fits
  · next h _ => exact Prod.Lex.right _ (List.length_pos_iff.mpr h)
  · next h _ =>
    rcases Nat.lt_or_eq_of_le (load_drop word words count) with hlt | heq
    · exact Prod.Lex.left _ _ hlt
    · rw [heq]
      exact Prod.Lex.right _ (List.length_pos_iff.mpr h)

def wrap (width : Nat) (line : String) : List String :=
  let words := (Text.pieces (· == ' ') line.toList).map Text.clusters
  (fill width [] words).map fun l => String.ofList l.flatten

end TableAudit.Console
