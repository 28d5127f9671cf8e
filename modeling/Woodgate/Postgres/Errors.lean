import Mathlib.Data.List.Basic

/-!
# Errors of the stores

`Err` collects the sentinels of the `fault` package, the errors of the packages above
it, and what a query itself can answer: no row, an SQLSTATE, or a lost connection or
request. The three mappings say which of them a caller gets to see.
-/

namespace Woodgate

/-- The SQLSTATE classes the stores tell apart. -/
inductive SqlState where
  | foreignKeyViolation
  | restrictViolation
  | uniqueViolation
  | invalidTextRepresentation
  | notNullViolation
  | checkViolation
  deriving DecidableEq, Repr

inductive Err where
  /-- `pgx.ErrNoRows` -/
  | noRows
  | sqlState (state : SqlState)
  /-- the connection, the transaction or the request context is gone -/
  | interrupted
  | notFound
  | alreadyExists
  | conflict (message : String)
  | invalidInput (message : String)
  /-- `station.ErrSessionInvalid` -/
  | sessionInvalid
  /-- `station.ErrUnauthorized` -/
  | unauthorized
  /-- `authn.ErrPrincipalNotFound` -/
  | principalNotFound
  /-- `authz.ErrInvalidAccess` for a level in the database -/
  | invalidAccess (level : Int)
  /-- any other `errors.New` -/
  | failure (message : String)
  /-- `fmt.Errorf("context: %w", err)` -/
  | wrapped (context : String) (err : Err)
  deriving DecidableEq, Repr

namespace Postgres

/-- `GetError` -/
def getError : Err → Err
  | .noRows => .notFound
  | err => err

/-- `MutationError` -/
def mutationError : Err → Err
  | .noRows => .notFound
  | .sqlState .foreignKeyViolation => .notFound
  | .sqlState .uniqueViolation => .alreadyExists
  | .sqlState .invalidTextRepresentation | .sqlState .notNullViolation | .sqlState .checkViolation =>
    .invalidInput ""
  | err => err

/-- `DeleteConflict` -/
def deleteConflict (message : String) : Err → Err
  | .sqlState .foreignKeyViolation | .sqlState .restrictViolation => .conflict message
  | err => mutationError err

end Postgres

end Woodgate
