import TableAudit.Text.Case
import TableAudit.Text.Pieces

/-!
# Paths

Paths are texts in which slashes separate the names of directories. They are joined as they are
written; only looking a path up takes the dots out of it.
-/

namespace TableAudit.Path

def isAbsolute (path : String) : Bool := path.toList.head? == some '/'

def endsWithSlash (path : String) : Bool := path.toList.getLast? == some '/'

/-- A path below a directory; an absolute path stays as it is. -/
def join (base path : String) : String :=
  if isAbsolute path || base == "" then path
  else if endsWithSlash base then base ++ path
  else base ++ "/" ++ path

/-- The names in a path, without empty ones and single dots. -/
def names (path : String) : List String :=
  (Text.splitAt '/' path).filter fun n => n != "" && n != "."

/-- A path read from its end, without the slashes and the lone dots there. -/
def trimEnd : List Char → List Char
  | '/' :: rest => trimEnd rest
  | '.' :: '/' :: rest => trimEnd rest
  | cs => cs

/-- The path without its last name; nothing is left of a single name. A path without names has no
parent. -/
def parent? (path : String) : Option String :=
  match trimEnd path.toList.reverse with
  | [] => none
  | reversed =>
    let rest := reversed.dropWhile (· != '/')
    match trimEnd rest with
    | [] => some (if rest.isEmpty then "" else "/")
    | kept => some (String.ofList kept.reverse)

/-- The last name of a path, unless that leads upwards. -/
def fileName? (path : String) : Option String :=
  ((names path).getLast?).filter (· != "..")

/-- What follows the last dot of the file name, if the name does not start with that dot. -/
def extension? (path : String) : Option String := do
  let name ← fileName? path
  let reversed := name.toList.reverse
  let ext := reversed.takeWhile (· != '.')
  match reversed.drop ext.length with
  | '.' :: _ :: _ => some (String.ofList ext.reverse)
  | _ => none

/-- One step on a way: a double dot goes back, and if there is nowhere to go back to, it stays. -/
def step (way : List String) (name : String) : List String :=
  if name == ".." && way.getLast?.any (· != "..") then way.dropLast else way ++ [name]

/-- The place a path leads to, as the names on the way, the first of them a slash if the path is
absolute. -/
def resolve (path : String) : List String :=
  if isAbsolute path then
    "/" :: (names path).foldl (fun way n => if n == ".." then way.dropLast else way ++ [n]) []
  else (names path).foldl step []

end TableAudit.Path
