/-! What the arguments of the command settle: the directory of the tables, a query to answer,
and the form in which results are shown. -/

namespace TableQuery.Shell

inductive Format where
  | table
  | json
  deriving DecidableEq

structure Settings where
  directory : String
  query : Option String
  format : Format
  verbose : Bool
  deriving DecidableEq

def defaults : Settings := ⟨".", none, .table, false⟩

inductive Choice where
  | directory
  | query
  | format

def Choice.ofShort? : Char → Option Choice
  | 'd' => some .directory
  | 'e' => some .query
  | 'f' => some .format
  | _ => none

def Choice.ofLong? : String → Option Choice
  | "--data-dir" => some .directory
  | "--execute" => some .query
  | "--format" => some .format
  | _ => none

def Settings.choose? (settings : Settings) (choice : Choice) (value : String) : Option Settings :=
  match choice, value with
  | .directory, value => some { settings with directory := value }
  | .query, value => some { settings with query := some value }
  | .format, "table" => some { settings with format := .table }
  | .format, "json" => some { settings with format := .json }
  | .format, _ => none

inductive Request where
  | verbose
  | chosen (choice : Choice) (value : String)
  | wants (choice : Choice)

/-- Letters after a dash may stand together; the first that wants a value takes what is left. -/
def shortRequests? : List Char → Option (List Request)
  | [] => some []
  | 'v' :: rest => (shortRequests? rest).map (.verbose :: ·)
  | letter :: rest =>
    (Choice.ofShort? letter).map fun choice =>
      match rest with
      | [] => [.wants choice]
      | '=' :: value => [.chosen choice (String.ofList value)]
      | value => [.chosen choice (String.ofList value)]

def longRequest? (argument : List Char) : Option Request :=
  let name := String.ofList (argument.takeWhile (· != '='))
  match argument.dropWhile (· != '=') with
  | [] => if name = "--verbose" then some .verbose else (Choice.ofLong? name).map .wants
  | _ :: value => (Choice.ofLong? name).map (.chosen · (String.ofList value))

def requests? (argument : String) : Option (List Request) :=
  match argument.toList with
  | '-' :: '-' :: rest => (longRequest? ('-' :: '-' :: rest)).map ([·])
  | '-' :: first :: rest => shortRequests? (first :: rest)
  | _ => none

def Settings.applyAll? (settings : Settings) :
    List Request → Option (Settings × Option Choice)
  | [] => some (settings, none)
  | .verbose :: rest => { settings with verbose := true }.applyAll? rest
  | .chosen choice value :: rest =>
    match settings.choose? choice value with
    | some settings => settings.applyAll? rest
    | none => none
  | .wants choice :: _ => some (settings, some choice)

def Settings.ofArguments? (settings : Settings) : List String → Option Settings
  | [] => some settings
  | argument :: rest =>
    match (requests? argument).bind settings.applyAll? with
    | none => none
    | some (settings, none) => settings.ofArguments? rest
    | some (settings, some choice) =>
      match rest with
      | [] => none
      | value :: rest =>
        match settings.choose? choice value with
        | some settings => settings.ofArguments? rest
        | none => none

end TableQuery.Shell
