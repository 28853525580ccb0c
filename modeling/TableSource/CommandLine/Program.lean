import TableSource.CommandLine.Arguments
import TableSource.Failure
import TableSource.Settings.Configuration

/-!
# The program

What the program does for its arguments and its environment: it shows its version, writes a
template of a file with variables, or serves a source.  Which of the listeners is used, and where,
is settled by the arguments before the environment.
-/

namespace TableSource.CommandLine

/-! ## Texts -/

def versionLine : String := "deepint-source-server version 1.0.0\n"

/-- The name of the file that the template is written to. -/
def templateName : String := ".env"

/-- The line that says that the template was written. -/
def templateLine : String := "Created template .env file at .env\n"

/-- The template of a file with variables. -/
def template : String :=
  String.intercalate "\n" [
    "",
    "# Application Environment",
    "APP_ENV=development",
    "",
    "# HTTP server",
    "HTTP_PORT=80",
    "SSL_PORT=443",
    "SSL_CERT=",
    "SSL_KEY=",
    "API_DOCS=YES",
    "LOG_MODE=DEFAULT",
    "",
    "# Source schema and credentials",
    "SOURCE_FIELDS=sepallength,sepalwidth,petallength,petalwidth,class",
    "SOURCE_FIELDS_TYPES=numeric,numeric,numeric,numeric,nominal",
    "SOURCE_PUB_KEY=",
    "SOURCE_SECRET_KEY=",
    "DEEPINT_API_URL=https://app.deepint.net/api/v1/",
    "",
    "# Database Configuration",
    "DB_HOST=localhost",
    "DB_PORT=5432",
    "DB_NAME=test",
    "DB_USER=postgres",
    "DB_PASSWORD=your_password_here",
    "DB_TABLE=iris",
    "DB_SSL_MODE=prefer",
    "DB_MIN_POOL_SIZE=1",
    "DB_MAX_POOL_SIZE=4",
    ""]

/-! ## Serving -/

/-- A source as it is served. -/
structure Launch where
  host : String
  tcpPort : Int
  /-- Whether the server keeps quiet about ordinary requests. -/
  isQuiet : Bool
  /-- The files of the certificate and the key, where connections are encrypted. -/
  encryption : Option (String × String)
  servesDocs : Bool
  logLevel : Nat
  schema : Schema
  table : String
  updateUrl : String

/-- The first of two texts, unless it is absent or empty. -/
def textOr (first : Option String) (second : String) : String :=
  match first with
  | some text => if text.isEmpty then second else text
  | none => second

/-- The first of two numbers, unless it is absent or zero. -/
def tcpPortOr (first : Option Int) (second : Int) : Int :=
  match first with
  | some number => if number = 0 then second else number
  | none => second

/-- The source of a configuration, as it is served with the given options. -/
def launch (options : Options) (server : ServerSettings) (source : SourceSettings)
    (database : DatabaseSettings) : Except Failure Launch := do
  let schema ← source.schema.mapError .schema
  let client ← Remote.Client.ofBase source.baseUrl source.credentials
  return {
    host := textOr options.host server.host
    tcpPort := tcpPortOr options.tcpPort
      (if server.isEncrypted then server.encryptedTcpPort else server.plainTcpPort)
    isQuiet := server.logMode == .silent
    encryption := if server.isEncrypted then some (server.sslCert, server.sslKey) else none
    servesDocs := server.apiDocs
    logLevel := server.logMode.level
    schema
    table := database.table
    updateUrl := client.url }

/-! ## Running -/

/-- What a run of the program comes to. -/
inductive Run where
  /-- It ends with an exit code and the text that it has shown. -/
  | exit (code : Nat) (shown : String)
  /-- It writes the template and ends. -/
  | writeTemplate
  /-- It serves a source. -/
  | serve (launch : Launch)
  | failed (failure : Failure)

/-- Serves a source with given options, if it has fields. -/
def runServer (options : Options) (environment : Environment) (files : EnvironmentFiles) : Run :=
  let (mode, first) := environment.load files options.environment
  let (_, second) := first.load files (some mode)
  let (_, third) := second.load files (some mode)
  let source := SourceSettings.ofEnvironment third
  if source.fields.isEmpty then .exit 1 ""
  else
    let (_, fourth) := third.load files (some mode)
    match launch options (ServerSettings.ofEnvironment second) source
        (DatabaseSettings.ofEnvironment fourth) with
    | .ok launch => .serve launch
    | .error failure => .failed failure

def run (arguments : List String) (environment : Environment) (files : EnvironmentFiles) : Run :=
  match read arguments with
  | .misuse => .exit 2 ""
  | .help => .exit 0 ""
  | .options options =>
    if options.version then .exit 0 versionLine
    else if options.createTemplate then .writeTemplate
    else runServer options environment files

end TableSource.CommandLine
