import TableSource.Failure

/-!
# Credentials

A request carries a public and a secret key, and both must equal the configured ones.  Keys that
are not configured let nothing pass, and an absent key counts as an empty one.  Keys are compared
by their bytes, so the comparison fails when one of them has none.
-/

namespace TableSource

/-- A pair of keys, as configured or as given with a request. -/
structure Credentials where
  publicKey : Option Key
  secretKey : Option Key
  deriving DecidableEq, Repr, Inhabited

namespace Credentials

/-- Whether two keys have the same bytes, an absent one counting as empty. -/
def sameKey (expected given : Option Key) : Except SurrogateRun Bool := do
  let wanted ← (expected.getD "").utf8
  let found ← (given.getD "").utf8
  return decide (wanted.data = found.data)

def isConfigured (key : Option Key) : Bool :=
  !(key.getD "").isEmpty

/-- Whether given keys pass: both keys are configured and equal the given ones.  Both are compared,
whether or not the first is the right one. -/
def accept (expected given : Credentials) : Except SurrogateRun Bool :=
  if isConfigured expected.publicKey && isConfigured expected.secretKey then do
    let samePublic ← sameKey expected.publicKey given.publicKey
    let sameSecret ← sameKey expected.secretKey given.secretKey
    return samePublic && sameSecret
  else return false

/-- Fails unless given keys pass. -/
def require (expected given : Credentials) : Except Failure Unit :=
  match expected.accept given with
  | .ok true => .ok ()
  | .ok false => .error .credentials
  | .error run => .error (.key run)

end Credentials

end TableSource
