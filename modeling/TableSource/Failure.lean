import TableSource.Key
import TableSource.Remote.Url
import TableSource.Schema.Basic
import TableSource.Statement.Condition

/-!
# Failures

Every operation of a source that can fail does so for one of these causes.
-/

namespace TableSource

/-- Why an operation failed. -/
inductive Failure where
  /-- The database could not be reached or refused a statement. -/
  | store (message : String)
  /-- The remote endpoint could not be reached, or answered with a status other than success. -/
  | replication (message : String) (status : Option Int)
  /-- The keys of a request are wrong. -/
  | credentials
  /-- A key has no bytes that it could be compared by. -/
  | key (run : SurrogateRun)
  /-- A value that was handed in is not valid. -/
  | value (message : String)
  | text (failure : TextFailure)
  /-- The features of a schema are at fault. -/
  | schema (error : SchemaError)
  /-- A statement cannot be made. -/
  | statement (error : StatementError)
  /-- An address is not well formed. -/
  | address (error : Url.UrlError)
  /-- A row of the database lacks a column. -/
  | missingColumn (name : String)
  deriving DecidableEq, Repr

namespace Failure

def message : Failure → String
  | .store report => report
  | .replication report _ => report
  | .credentials => "Invalid credentials"
  | .key run => run.message
  | .value report => report
  | .text failure => failure.message
  | .schema error => error.message
  | .statement error => error.message
  | .address error => error.message
  | .missingColumn name => Raw.quoted name

def isStore : Failure → Bool
  | .store _ => true
  | _ => false

end Failure

end TableSource
