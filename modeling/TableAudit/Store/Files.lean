import TableAudit.Store.Path
import TableAudit.Table.Basic
import TableAudit.Text.Utf8

/-!
# Files

A set of files and directories as a value. A file holds bytes or, if it is a Parquet file, the table
that it stores. Failures are those of an operating system that never runs out of anything.
-/

namespace TableAudit

inductive FileError
  | notFound
  | alreadyExists
  | notDirectory
  | isDirectory
  | notText
deriving DecidableEq, Repr

def FileError.message : FileError → String
  | notFound => "No such file or directory (os error 2)"
  | alreadyExists => "File exists (os error 17)"
  | notDirectory => "Not a directory (os error 20)"
  | isDirectory => "Is a directory (os error 21)"
  | notText => "stream did not contain valid UTF-8"

inductive Content
  | bytes (bytes : List UInt8)
  | table (t : Table)

def Content.ofText (s : String) : Content := .bytes (Text.encodeUtf8 s)

/-- A place of the file system: the names on the way to it. -/
abbrev Place := List String

/-- Files by place, the latest first, and the directories made on purpose. Whatever lies on the way
to a file is a directory as well. -/
structure Files where
  entries : List (Place × Content)
  directories : List Place

namespace Files

def none : Files := ⟨[], []⟩

def content? (f : Files) (place : Place) : Option Content :=
  (f.entries.find? (·.1 == place)).map (·.2)

def isFile (f : Files) (place : Place) : Bool := (f.content? place).isSome

def isDirectory (f : Files) (place : Place) : Bool :=
  place == ["/"] || place.all (· == "..") || f.directories.any (place.isPrefixOf ·) ||
    f.entries.any fun e => place.isPrefixOf e.1 && e.1 != place

/-- Whether a file lies on the way to a place. -/
def isBlocked (f : Files) (place : Place) : Bool :=
  (List.range place.length).any fun n => f.isFile (place.take n)

def read (f : Files) (path : String) : Except FileError Content :=
  let place := Path.resolve path
  if path == "" then .error .notFound
  else if f.isBlocked place then .error .notDirectory
  else
    match f.content? place with
    | some c => if Path.endsWithSlash path then .error .notDirectory else .ok c
    | Option.none => if f.isDirectory place then .error .isDirectory else .error .notFound

def readText (f : Files) (path : String) : Except FileError String :=
  match f.read path with
  | .ok (.bytes bytes) =>
    match Text.decodeUtf8 bytes with
    | .ok s => .ok s
    | .error _ => .error .notText
  | .ok (.table _) => .error .notText
  | .error e => .error e

/-- Makes a directory and those on the way to it. -/
def makeDirectory (f : Files) (path : String) : Except FileError Files :=
  let place := Path.resolve path
  if path == "" || f.isDirectory place then .ok f
  else if f.isBlocked place then .error .notDirectory
  else if f.isFile place then .error .alreadyExists
  else .ok { f with directories := place :: f.directories }

def put (f : Files) (place : Place) (c : Content) : Files :=
  { f with entries := (place, c) :: f.entries.filter (·.1 != place) }

/-- Writes a file into a directory that is there. -/
def write (f : Files) (path : String) (c : Content) : Except FileError Files :=
  let place := Path.resolve path
  if path == "" then .error .notFound
  else if f.isBlocked place then .error .notDirectory
  else if f.isDirectory place || Path.endsWithSlash path then .error .isDirectory
  else if f.isDirectory place.dropLast then .ok (f.put place c)
  else .error .notFound

def ofList (files : List (String × Content)) : Files :=
  files.foldl (fun f (path, c) => f.put (Path.resolve path) c) none

end Files

end TableAudit
