import TableSource.Database.Settings
import TableSource.Remote.Client
import TableSource.Settings.Environment

/-!
# Configuration

What the environment says about the database, the source and the server.  Each of the three is read
after the files have been loaded once more, so a mode that a file sets counts from the next loading
on.
-/

namespace TableSource

/-! ## The source -/

structure SourceSettings where
  fields : List String
  fieldTypes : List String
  publicKey : String
  secretKey : String
  /-- The base address of the endpoint. -/
  baseUrl : String
  deriving DecidableEq, Repr, Inhabited

/-- The parts of a comma-separated list, without blank ones. -/
def listed (text : String) : List String :=
  ((Text.split ',' text).map Text.trim).filter (!·.isEmpty)

def SourceSettings.ofEnvironment (environment : Environment) : SourceSettings :=
  { fields := listed (environment.getD "SOURCE_FIELDS" "")
    fieldTypes := listed (environment.getD "SOURCE_FIELDS_TYPES" "")
    publicKey := environment.getD "SOURCE_PUB_KEY" ""
    secretKey := environment.getD "SOURCE_SECRET_KEY" ""
    baseUrl := environment.getD "DEEPINT_API_URL" Remote.defaultBase }

/-- The schema of the configured fields and types. -/
def SourceSettings.schema (settings : SourceSettings) : Except SchemaError Schema :=
  Schema.ofLists settings.fields (settings.fieldTypes.map some)

def SourceSettings.credentials (settings : SourceSettings) : Credentials :=
  { publicKey := some settings.publicKey, secretKey := some settings.secretKey }

/-! ## The database -/

def DatabaseSettings.ofEnvironment (environment : Environment) : DatabaseSettings :=
  DatabaseSettings.clampPool
    { host := environment.getD "DB_HOST" "localhost"
      tcpPort := environment.integer "DB_PORT" 5432
      database := environment.getD "DB_NAME" "test"
      user := environment.getD "DB_USER" "postgres"
      password := environment.getD "DB_PASSWORD" ""
      table := environment.getD "DB_TABLE" "iris"
      minPoolSize := environment.integer "DB_MIN_POOL_SIZE" 1
      maxPoolSize := environment.integer "DB_MAX_POOL_SIZE" 4
      commandTimeout := environment.integer "DB_COMMAND_TIMEOUT" 60
      sslMode := environment.getD "DB_SSL_MODE" "prefer" }

/-! ## The server -/

/-- How much is logged. -/
inductive LogMode where
  | silent
  | standard
  | debug
  deriving DecidableEq, Repr, Inhabited

namespace LogMode

def name : LogMode → String
  | .silent => "SILENT"
  | .standard => "DEFAULT"
  | .debug => "DEBUG"

/-- The least level of messages that are logged. -/
def level : LogMode → Nat
  | .silent => 30
  | .standard => 20
  | .debug => 10

/-- Upper-cases a letter that could stand in the name of a mode; the long s and the dotless i are
the only letters beyond ASCII whose upper case is one. -/
def upperLetter (c : Char) : Char :=
  if c = 'ſ' then 'S' else if c = 'ı' then 'I' else c.toUpper

/-- The mode with a name in any case; every unknown name means the standard mode. -/
def ofName (word : String) : LogMode :=
  let upper := String.ofList (word.toList.map upperLetter)
  if upper = silent.name then .silent else if upper = debug.name then .debug else .standard

end LogMode

structure ServerSettings where
  host : String
  plainTcpPort : Int
  encryptedTcpPort : Int
  sslCert : String
  sslKey : String
  apiDocs : Bool
  logMode : LogMode
  deriving DecidableEq, Repr, Inhabited

namespace ServerSettings

def ofEnvironment (environment : Environment) : ServerSettings :=
  { host := environment.getD "HTTP_HOST" "0.0.0.0"
    plainTcpPort := environment.integer "HTTP_PORT" 80
    encryptedTcpPort := environment.integer "SSL_PORT" 443
    sslCert := environment.getD "SSL_CERT" ""
    sslKey := environment.getD "SSL_KEY" ""
    apiDocs := Text.asciiUpper (environment.getD "API_DOCS" "") != "NO"
    logMode := LogMode.ofName (environment.getD "LOG_MODE" "DEFAULT") }

/-- Whether connections are encrypted: both a certificate and a key are set. -/
def isEncrypted (settings : ServerSettings) : Bool :=
  !settings.sslCert.isEmpty && !settings.sslKey.isEmpty

end ServerSettings

/-! ## Loading -/

/-- All settings, and the mode that they were read in. -/
structure Configuration where
  database : DatabaseSettings
  source : SourceSettings
  server : ServerSettings
  mode : String
  deriving Repr, Inhabited

/-- The settings of an environment, read one after the other. -/
def Configuration.load (environment : Environment) (files : EnvironmentFiles)
    (asked : Option String) : Configuration :=
  let (_, first) := environment.load files asked
  let (_, second) := first.load files asked
  let (_, third) := second.load files asked
  let (mode, _) := third.load files asked
  { database := DatabaseSettings.ofEnvironment first
    source := SourceSettings.ofEnvironment second
    server := ServerSettings.ofEnvironment third
    mode }

end TableSource
