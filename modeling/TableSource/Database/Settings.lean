/-!
# Database settings

Where the database is, whom to connect as, and how the connection pool is kept.
-/

namespace TableSource

/-- Whether connections are encrypted. -/
inductive Encryption where
  | required
  | disabled
  | preferred
  deriving DecidableEq, Repr

structure DatabaseSettings where
  host : String := "localhost"
  tcpPort : Int := 5432
  database : String := "test"
  user : String := "postgres"
  password : String := ""
  table : String := "iris"
  minPoolSize : Int := 1
  maxPoolSize : Int := 4
  /-- The seconds that a statement may take. -/
  commandTimeout : Int := 60
  sslMode : String := "prefer"
  deriving DecidableEq, Repr, Inhabited

namespace DatabaseSettings

/-- The encryption that a mode asks for; encryption is preferred in every unknown mode. -/
def encryption (settings : DatabaseSettings) : Encryption :=
  if settings.sslMode = "require" then .required
  else if settings.sslMode = "disable" then .disabled
  else .preferred

/-- The settings with the lower bound of the pool not above the upper one. -/
def clampPool (settings : DatabaseSettings) : DatabaseSettings :=
  if settings.maxPoolSize < settings.minPoolSize then
    { settings with minPoolSize := settings.maxPoolSize }
  else settings

end DatabaseSettings

end TableSource
