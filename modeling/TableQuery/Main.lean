import TableQuery.Csv.Directory
import TableQuery.Log
import TableQuery.Shell

/-! The command: files, standard input and standard output around the shell. Before a text is
executed the files of its tables are read, so that the execution itself does no reading. -/

namespace TableQuery.Shell

def filePath (directory table : String) : String :=
  if directory = "" then table ++ ".csv" else directory ++ "/" ++ table ++ ".csv"

def openFile (directory table : String) : IO (List (String × Except Csv.Fault (List UInt8))) := do
  try
    let bytes ← IO.FS.readBinFile (filePath directory table)
    pure [(table, .ok bytes.toList)]
  catch error =>
    match error with
    | .noFileOrDirectory .. => pure []
    | error => pure [(table, .error (.system (toString error)))]

/-- Opens the tables of a text. Names that are refused anyway are left alone. -/
def openTables (directory text : String) : IO Csv.Directory := do
  match (readQuery text).outcome with
  | .error _ => pure ⟨[]⟩
  | .ok query =>
    let names := query.table :: (query.join.map JoinClause.table).toList
    let wanted := names.filter fun name => Csv.isTableName name && (Csv.nameFault? name).isNone
    pure ⟨(← wanted.mapM (openFile directory)).flatten⟩

def logLine (entry : LogEntry) : String :=
  entry.level.name ++ " " ++ entry.message ++
    String.join (entry.details.map fun (name, text) => " " ++ name ++ "=" ++ text)

def writeLog (settings : Settings) (source : Source) (text : String) : IO Unit := do
  for entry in logOf source text do
    if settings.verbose || entry.level = .warn then IO.eprintln (logLine entry)

def write (said : Reply) : IO Unit := do
  IO.print said.output
  (← IO.getStdout).flush
  IO.eprint said.errors

def sourceOf (settings : Settings) (text : String) : IO Source := do
  let source := (← openTables settings.directory text).source
  writeLog settings source text
  pure source

partial def readLines (settings : Settings) (input : IO.FS.Stream) : IO Unit := do
  write ⟨prompt, ""⟩
  let line ← input.getLine
  if line = "" then write ⟨"\n", ""⟩
  else
    let source ← match Line.ofText line with
      | .query text => sourceOf settings text
      | _ => pure Tables.empty.source
    let (said, more) := respond source settings.format line
    write said
    if more then readLines settings input

def usage : String := "Usage: [-d DIRECTORY] [-e QUERY] [-f table|json] [-v]\n"

def start (arguments : List String) : IO UInt32 := do
  match defaults.ofArguments? arguments with
  | none =>
    IO.eprint usage
    pure 2
  | some settings =>
    match settings.query with
    | some query =>
      let (said, code) := run (← sourceOf settings query) settings ""
      write said
      pure (UInt32.ofNat code)
    | none =>
      write ⟨banner settings.directory, ""⟩
      readLines settings (← IO.getStdin)
      pure 0

end TableQuery.Shell

def main (arguments : List String) : IO UInt32 := TableQuery.Shell.start arguments
