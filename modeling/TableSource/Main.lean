import TableSource.CommandLine.Program

/-!
# The command line

Reads the environment and the files with variables, runs the program, and shows what it comes to.
-/

namespace TableSource.CommandLine

/-- The variables that the program reads. -/
def variableNames : List String :=
  ["APP_ENV", "HTTP_HOST", "HTTP_PORT", "SSL_PORT", "SSL_CERT", "SSL_KEY", "API_DOCS", "LOG_MODE",
    "SOURCE_FIELDS", "SOURCE_FIELDS_TYPES", "SOURCE_PUB_KEY", "SOURCE_SECRET_KEY",
    "DEEPINT_API_URL", "DB_HOST", "DB_PORT", "DB_NAME", "DB_USER", "DB_PASSWORD", "DB_TABLE",
    "DB_SSL_MODE", "DB_MIN_POOL_SIZE", "DB_MAX_POOL_SIZE", "DB_COMMAND_TIMEOUT"]

/-- The variables that are set. -/
def readEnvironment : IO Environment := do
  let entries ← variableNames.mapM fun name => do
    return (← IO.getEnv name).map fun value => (name, value)
  return entries.filterMap id

/-- A file with variables, if it can be read. -/
def readFile? (name : String) : IO (Option (String × String)) := do
  try
    return some (name, ← IO.FS.readFile name)
  catch _ => return none

/-- The modes whose files may be read: what the arguments or the environment can ask for. -/
def askedModes (arguments : List String) (environment : Environment) : List String :=
  let asked :=
    match read arguments with
    | .options options => options.environment
    | _ => none
  [environment.mode asked]

/-- The text that describes a served source. -/
def Launch.describe (launch : Launch) : String :=
  let scheme := if launch.encryption.isSome then "https" else "http"
  "Serving table " ++ quoteName launch.table ++ " at " ++ scheme ++ "://" ++ launch.host ++ ":" ++
    toString launch.tcpPort

/-- Shows what a run comes to and gives the exit code. -/
def finish : Run → IO UInt32
  | .exit code shown => do
    IO.print shown
    return code.toUInt32
  | .writeTemplate => do
    IO.FS.writeFile templateName template
    IO.print templateLine
    return 0
  | .serve launch => do
    IO.println launch.describe
    return 0
  | .failed failure => do
    IO.eprintln failure.message
    return 1

end TableSource.CommandLine

/-- Runs the program with its arguments. -/
def main (arguments : List String) : IO UInt32 := do
  let environment ← TableSource.CommandLine.readEnvironment
  let modes := TableSource.CommandLine.askedModes arguments environment
  let names := modes.map (".env." ++ ·) ++ [".env"]
  let files ← names.mapM TableSource.CommandLine.readFile?
  TableSource.CommandLine.finish
    (TableSource.CommandLine.run arguments environment (files.filterMap id))
