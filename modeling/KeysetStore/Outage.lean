import KeysetStore.Error

/-!
# Outage — whose matter a failure of a database server is

A server reports failures by code, and marks some as transient.  A failure of the deployment, or a
transient one, means that the storage does not answer now; any other refusal of a command or a write
is the caller's.
-/

namespace KeysetStore

/-- How a database server fails. -/
inductive ServerFailure where
  /-- A command was refused. -/
  | command (code : Int) (message : String)
  /-- A write was refused. -/
  | write (code : Int) (message : String)
  /-- An argument was refused before anything was sent. -/
  | argument (message : String)
  /-- Anything else: a write that was not confirmed, a closed connection, a lost session. -/
  | other (message : String)

namespace ServerFailure

/-- The codes of a deployment that cannot answer: unreachable, shutting down, without a primary, or
out of time. -/
def outageCodes : List Int :=
  [6, 7, 89, 91, 189, 262, 9001, 10107, 11600, 11602, 13435, 13436]

/-- The labels of transient failures. -/
def transientLabels : List String := ["RetryableWriteError", "TransientTransactionError"]

/-- Whether a failure means that the storage does not answer now. -/
def isOutage (code : Int) (transient : Bool) : Bool := transient || outageCodes.contains code

/-- **The error of a failure with labels.** -/
def toError (failure : ServerFailure) (labels : List String) : Error :=
  let transient := transientLabels.any labels.contains
  match failure with
  | command code message =>
    .reported (if isOutage code transient then .unavailable else .invalidArgument) message
  | write code message =>
    .reported (if isOutage code transient then .unavailable else .invalidArgument) message
  | argument message => .reported .invalidArgument message
  | other message => .reported .unavailable message

end ServerFailure

end KeysetStore
