/-!
# Regular expressions

An expression is matched with a text character by character. What may stand behind a character is
described by an expression again, and a text matches as a whole if the one that is left at its end
matches the empty text.
-/

namespace TableAudit.Text

inductive Regular
  /-- No text at all. -/
  | never
  | empty
  | char (p : Char → Bool)
  | seq (a b : Regular)
  | alt (a b : Regular)
  /-- Any number of times, none included. -/
  | many (a : Regular)

namespace Regular

def oneOrMore (a : Regular) : Regular := .seq a (.many a)

/-- A sequence, without parts that can be seen to add nothing. -/
def andThen : Regular → Regular → Regular
  | never, _ => never
  | empty, b => b
  | a, b => .seq a b

/-- A choice, without a side that matches nothing. -/
def orElse : Regular → Regular → Regular
  | never, b => b
  | a, never => a
  | a, b => .alt a b

def acceptsEmpty : Regular → Bool
  | never | char _ => false
  | empty | many _ => true
  | seq a b => a.acceptsEmpty && b.acceptsEmpty
  | alt a b => a.acceptsEmpty || b.acceptsEmpty

def behind (c : Char) : Regular → Regular
  | never | empty => never
  | char p => if p c then empty else never
  | seq a b =>
    let rest := (a.behind c).andThen b
    if a.acceptsEmpty then rest.orElse (b.behind c) else rest
  | alt a b => (a.behind c).orElse (b.behind c)
  | many a => (a.behind c).andThen (many a)

/-- Whether a text matches from its start to its end. -/
def accepts (r : Regular) (cs : List Char) : Bool :=
  (cs.foldl (fun r c => r.behind c) r).acceptsEmpty

end Regular

end TableAudit.Text
