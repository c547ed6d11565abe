import Std.Time.Zoned
import TableAudit.CommandLine.Reach

/-!
# The program

Gathers the arguments, the time and the files that a call may touch, and puts what the call leaves
behind in its place.
-/

namespace TableAudit.CommandLine

def localTime : IO Calendar.Moment := do
  let t ← Std.Time.PlainDateTime.now
  let date : Calendar.Date :=
    ⟨t.date.year.toInt, t.date.month.val.toNat, t.date.day.val.toNat⟩
  return ⟨date, t.time.hour.val.toNat, t.time.minute.val.toNat, t.time.second.val.toNat⟩

/-- The time in the log: Universal Time to the millisecond. -/
def logTime : IO String := do
  let t ← Std.Time.Timestamp.now
  let ms := t.toMillisecondsSinceUnixEpoch.val
  let m := Calendar.Moment.ofInstant ms
  return m.date.text ++ "T" ++ m.clockText ":" ++ "." ++ Calendar.padded 3 (ms % 1000).toNat ++ "Z"

/-- What there is at a path: a file, a directory, or nothing. -/
def look (files : Files) (path : String) : IO Files := do
  let place := Path.resolve path
  try
    let bytes ← IO.FS.readBinFile path
    return files.put place (.bytes bytes.toList)
  catch _ =>
    try
      let found ← IO.FS.realPath path
      if ← found.isDir then return { files with directories := place :: files.directories }
      return files
    catch _ => return files

/-- What there is at some paths and on the ways to them. -/
def gather (paths : List String) : IO Files :=
  (paths.flatMap ancestry).eraseDups.foldlM look Files.none

/-- Writes the files that are new or have changed; tables cannot be written as they are. -/
def store (before after : Files) : IO Bool := do
  for place in after.directories do
    unless before.isDirectory place do
      IO.FS.createDirAll ("/".intercalate place)
  let mut complete := true
  for (place, content) in after.entries do
    match content, before.content? place with
    | .bytes bytes, some (.bytes old) =>
      unless bytes == old do
        IO.FS.writeBinFile ("/".intercalate place) ⟨bytes.toArray⟩
    | .bytes bytes, _ => IO.FS.writeBinFile ("/".intercalate place) ⟨bytes.toArray⟩
    | .table _, _ => complete := false
  return complete

/-- Does what the arguments ask for; the exit status is returned. -/
def serve (arguments : List String) : IO UInt32 := do
  let now ← localTime
  let filter ← IO.getEnv "RUST_LOG"
  let call : Call := ⟨arguments, filter, .none, now⟩
  let known ← gather call.paths
  let files ← gather { call with files := known }.paths
  let call := { call with files }
  let started ← IO.monoMsNow
  let work ← IO.lazyPure fun _ => call.work
  let elapsed := (← IO.monoMsNow) - started
  let response := work.response call ⟨← logTime, Decimal.digitText elapsed⟩
  let complete ← store files response.files
  IO.print response.output
  IO.eprint response.errors
  unless complete do
    IO.eprintln "error: Parquet files cannot be written"
  return if complete then response.status.toUInt32 else 2

end TableAudit.CommandLine

def main (arguments : List String) : IO UInt32 := TableAudit.CommandLine.serve arguments
