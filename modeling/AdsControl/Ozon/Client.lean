import AdsControl.Lib.Interaction

/-!
# Guarded writes

The write client asks for a durable permit immediately before the request leaves the process. The
transport neither retries nor follows redirects, so one pass sends at most one request.
-/

namespace AdsControl.Ozon

open Interaction

/-- Why a write failed. -/
inductive OzonWriteError
  | sharedQuota
  | invalidRequest
  | invalidToken
  | tokenTransport
  | tokenHttp (status : ℕ)
  | unauthorized
  | forbidden
  | http (status : ℕ)
  | ambiguousTransport
  | tokenResponseTooLarge
  | responseTooLarge
  | invalidCreateResponse
  deriving DecidableEq

/-- A refused permit, or a failed write. -/
inductive OzonGuardedWriteError (E : Type)
  | permit (error : E)
  | write (error : OzonWriteError)

variable {C : Type} {A : C → Type} {ε E R : Type}

/-- One guarded write: token, header and quota, then the permit, then the admission and the request.
The permit also says whether the write counts as started; before it nothing has started. -/
def writeGuarded (prepare : Prog C A ε (Except OzonWriteError Unit))
    (permit : Prog C A ε (Except E Unit × Bool)) (admission : Prog C A ε (Except OzonWriteError Unit))
    (send : Prog C A ε (Except OzonWriteError R)) :
    Prog C A ε (Except (OzonGuardedWriteError E) R × Bool) := do
  match ← prepare with
  | .error error => return (.error (.write error), false)
  | .ok () =>
    match ← permit with
    | (.error error, started) => return (.error (.permit error), started)
    | (.ok (), started) =>
      match ← admission with
      | .error error => return (.error (.write error), started)
      | .ok () =>
        match ← send with
        | .error error => return (.error (.write error), started)
        | .ok receipt => return (.ok receipt, started)

end AdsControl.Ozon
