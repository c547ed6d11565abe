import TableAudit.CommandLine.Session

/-!
# What a call may touch

The paths that a call reads or writes, as far as they follow from the arguments and from the files
that are known. Whoever supplies the files needs no others.
-/

namespace TableAudit.CommandLine

def sourcePaths (base : String) (s : Source) : List String :=
  (s.path.map (Path.join base)).toList

def sinkPaths (base : String) (s : Sink) : List String :=
  (s.path.map (Path.join base)).toList

def profilePaths (base : String) : Rule → List String
  | .plain _ (.statistics output) => (output.map (Path.join base)).toList
  | _ => []

/-- The paths that a configuration speaks of. -/
def configPaths (base : String) (c : Config) : List String :=
  let rules := c.acceptedRules
  sourcePaths base c.input.source ++
  (rules.filterMap Rule.source?).flatMap (sourcePaths base) ++
  ((c.output.toList ++ c.error.toList ++ (c.data.map (·.sink)).toList).flatMap (sinkPaths base)) ++
  rules.flatMap (profilePaths base)

/-- The paths of the log and of the configuration, and those that the configuration speaks of if it
is known. -/
def Call.paths (c : Call) : List String :=
  match Settings.ofArguments c.arguments with
  | .error _ => []
  | .ok s =>
    s.logFile.toList ++
      match s.task with
      | .rules => []
      | .run config base dryRun =>
        let o : PipelineOptions := ⟨config, base, dryRun⟩
        config :: match loadConfig c.files config with
          | .ok parsed => configPaths o.directory parsed
          | .error _ => []

/-- A path and the paths of the directories on the way to it, the outermost first. -/
def ancestry (path : String) : List String :=
  let place := Path.resolve path
  (List.range (place.length + 1)).map fun n =>
    match place.take n with
    | [] => "."
    | "/" :: names => "/" ++ "/".intercalate names
    | names => "/".intercalate names

end TableAudit.CommandLine
