import AdsControl.Lib.Interaction
import AdsControl.Reporting.Outbox

/-!
# The mail worker

A pass delivers ready batches one after another. Each delivery asks for authorization, claims one
batch, loads its artifact, sends at most one request and records an outcome only when its safety is
known. An attempt that times out stops between two commands, like a crash.

* `deliverOne`: one claimed batch, one request;
* `deliverReady`: a bounded pass.
-/

namespace AdsControl.Reporting.Outbox

open Fallible Interaction

/-! ## Failures -/

/-- Why a mail could not be sent. -/
inductive GmailDeliveryError
  | routing
  | message
  | authentication
  | oauthRateLimited
  | oauthUnavailable
  | oauthInvalidResponse
  | providerRateLimited
  | providerRejected
  | ambiguous
  deriving DecidableEq

/-- What the provider client makes of a request. -/
inductive GmailSendError
  | invalidCredential
  | authentication
  | rateLimited
  | rejected
  | ambiguous
  deriving DecidableEq

/-- An answer of the provider as an error of delivery. -/
def mapSendError : GmailSendError → GmailDeliveryError
  | .invalidCredential | .authentication => .authentication
  | .rateLimited => .providerRateLimited
  | .rejected => .providerRejected
  | .ambiguous => .ambiguous

/-- The class of an error that stays. -/
def permanentClass : GmailDeliveryError → Option DeliveryErrorClass
  | .routing => some .invalidRouting
  | .message => some .invalidArtifact
  | .authentication => some .authentication
  | .providerRejected => some .providerRejected
  | _ => none

/-- The class of an error that may pass. -/
def transientClass : GmailDeliveryError → Option DeliveryErrorClass
  | .oauthRateLimited | .providerRateLimited => some .rateLimited
  | .oauthUnavailable | .oauthInvalidResponse => some .providerUnavailable
  | _ => none

/-- One minute, doubled with every attempt up to a quarter of an hour. -/
def retryDelay (attemptNo : ℕ) : ℤ := seconds (min (60 * 2 ^ min (attemptNo - 1) 4) (15 * 60))

/-- Why a pass stops. -/
inductive GmailOutboxError
  | claimUnavailable
  | completionUncertain
  deriving DecidableEq

/-- What became of one delivery. -/
inductive DeliveryTickOutcome
  | idle
  | sent (batchId attemptNo : ℕ)
  | retryScheduled (batchId attemptNo : ℕ)
  | retryExhausted (batchId attemptNo : ℕ)
  | permanentFailure (batchId attemptNo : ℕ)
  | ambiguous (batchId attemptNo : ℕ)
  deriving DecidableEq

/-- What a pass did. -/
structure DeliveryPassOutcome where
  attempts : ℕ
  queueDrained : Bool
  deriving DecidableEq

/-! ## Commands -/

/-- The commands of a pass. The request leaves with `post`; its result arrives with `receive`. -/
inductive MailCall
  | now
  | stopRequested
  | hasReady (now : ℤ)
  | authorize
  | claim (now : ℤ)
  | loadArtifact (claim : ClaimedDelivery)
  | prepareMessage (claim : ClaimedDelivery)
  | post (claim : ClaimedDelivery)
  | receive (claim : ClaimedDelivery)
  | sent (claim : ClaimedDelivery) (startedAt finishedAt : ℤ) (providerMessageId : String)
  | transient (claim : ClaimedDelivery) (startedAt finishedAt : ℤ) (errorClass : DeliveryErrorClass)
      (retryAt : ℤ)
  | exhausted (claim : ClaimedDelivery) (startedAt finishedAt : ℤ) (errorClass : DeliveryErrorClass)
  | permanent (claim : ClaimedDelivery) (startedAt finishedAt : ℤ) (errorClass : DeliveryErrorClass)

/-- What a command answers. -/
def MailCall.Answer : MailCall → Type
  | now => ℤ
  | stopRequested => Bool
  | hasReady _ => Except PostgresOutboxError Bool
  | authorize => Except GmailDeliveryError Unit
  | claim _ => Except PostgresOutboxError (Option ClaimedDelivery)
  | loadArtifact _ => Except Unit Unit
  | prepareMessage _ => Except GmailDeliveryError Unit
  | post _ => Unit
  | receive _ => Except GmailSendError String
  | sent _ _ _ _ => Except PostgresOutboxError Unit
  | transient _ _ _ _ _ => Except PostgresOutboxError Unit
  | exhausted _ _ _ _ => Except PostgresOutboxError Unit
  | permanent _ _ _ _ => Except PostgresOutboxError Unit

/-- A worker over its effects. -/
abbrev MailProg (α : Type) : Type := Prog MailCall MailCall.Answer GmailOutboxError α

/-- Perform one effect. -/
def ask (c : MailCall) : MailProg c.Answer := .perform c

/-- A probe or claim of the outbox; its failure ends the pass before anything is claimed. -/
def claimed {α : Type} (answer : Except PostgresOutboxError α) : MailProg α :=
  .ofExcept (answer.mapError fun _ => .claimUnavailable)

/-- A completion; its failure leaves the claim as it is. -/
def completed (answer : Except PostgresOutboxError Unit) : MailProg Unit :=
  .ofExcept (answer.mapError fun _ => .completionUncertain)

/-! ## One delivery -/

/-- Resolve the route, build the message and send it once. -/
def deliver (claim : ClaimedDelivery) : MailProg (Except GmailDeliveryError String) := do
  match ← ask (.prepareMessage claim) with
  | .error error => return .error error
  | .ok () =>
    ask (.post claim)
    let result ← ask (.receive claim)
    return result.mapError mapSendError

/-- A failure that proves that nothing was accepted: permanent, retried, or out of time. -/
def recordKnownFailure (claim : ClaimedDelivery) (startedAt finishedAt : ℤ)
    (error : GmailDeliveryError) : MailProg DeliveryTickOutcome := do
  match permanentClass error with
  | some errorClass =>
    completed (← ask (.permanent claim startedAt finishedAt errorClass))
    return .permanentFailure claim.batchId claim.attemptNo
  | none =>
    let errorClass ← .ofExcept (context (transientClass error) .completionUncertain)
    let retryAt := finishedAt + retryDelay claim.attemptNo
    if retryAt ≤ claim.deadlineAt then
      completed (← ask (.transient claim startedAt finishedAt errorClass retryAt))
      return .retryScheduled claim.batchId claim.attemptNo
    else
      completed (← ask (.exhausted claim startedAt finishedAt errorClass))
      return .retryExhausted claim.batchId claim.attemptNo

/-- Record the result of a delivery; an ambiguous one stays as it is. -/
def recordResult (claim : ClaimedDelivery) (startedAt : ℤ) (result : Except GmailDeliveryError String) :
    MailProg DeliveryTickOutcome := do
  let finishedAt ← ask .now
  match result with
  | .ok providerMessageId =>
    completed (← ask (.sent claim startedAt finishedAt providerMessageId))
    return .sent claim.batchId claim.attemptNo
  | .error .ambiguous => return .ambiguous claim.batchId claim.attemptNo
  | .error error => recordKnownFailure claim startedAt finishedAt error

/-- A failed authorization is the known outcome of a delivery. -/
def deliverAuthorized (claim : ClaimedDelivery) :
    Except GmailDeliveryError Unit → MailProg (Except GmailDeliveryError String)
  | .ok () => deliver claim
  | .error error => return .error error

/-- Send a claimed delivery and record what happened. -/
def deliverClaimed (claim : ClaimedDelivery) (startedAt : ℤ)
    (authorization : Except GmailDeliveryError Unit) : MailProg DeliveryTickOutcome := do
  match ← ask (.loadArtifact claim) with
  | .error _ =>
    let finishedAt ← ask .now
    completed (← ask (.permanent claim startedAt finishedAt .invalidArtifact))
    return .permanentFailure claim.batchId claim.attemptNo
  | .ok _ =>
    let result ← deliverAuthorized claim authorization
    recordResult claim startedAt result

/-- Claim a delivery that is due, if there is one, and send it. -/
def deliverOne : MailProg DeliveryTickOutcome := do
  let startedAt ← ask .now
  let ready ← claimed (← ask (.hasReady startedAt))
  if ready then
    let authorization ← ask .authorize
    match ← claimed (← ask (.claim startedAt)) with
    | none => return .idle
    | some claim => deliverClaimed claim startedAt authorization
  else return .idle

/-! ## A pass -/

/-- The most deliveries of a pass. -/
def maxDeliveriesPerPass : ℕ := 16

/-- Deliver up to `remaining` more batches. -/
def deliverUpTo (attempts : ℕ) : ℕ → MailProg DeliveryPassOutcome
  | 0 => return ⟨attempts, false⟩
  | remaining + 1 => do
    let stopped : Bool ← ask .stopRequested
    if stopped then return ⟨attempts, false⟩
    else if (← deliverOne) = .idle then return ⟨attempts, true⟩
    else deliverUpTo (attempts + 1) remaining

/-- **One pass.** -/
def deliverReady : MailProg DeliveryPassOutcome := deliverUpTo 0 maxDeliveriesPerPass

end AdsControl.Reporting.Outbox
