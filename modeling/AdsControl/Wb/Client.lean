import AdsControl.Lib.Interaction

/-!
# Guarded writes

The write client waits for its slot, asks the caller for a final permit and then sends one request.
The transport neither retries nor follows redirects. A refusal before the request leaves is definite;
whatever comes back afterwards is not.
-/

namespace AdsControl.Wb

open Interaction

/-- Why a write failed. -/
inductive WbWriteError
  | authorizationUnavailable
  | sharedQuota
  | invalidRequest (reason : String)
  | httpStatus (status : ℕ)
  | ambiguous (reason : String)
  deriving DecidableEq

/-- What a failure says about the write. -/
inductive WbWriteOutcomeKind
  | definiteFailure
  | ambiguous
  deriving DecidableEq

/-- After the request left, its outcome is not known. -/
def WbWriteError.outcomeKind : WbWriteError → WbWriteOutcomeKind
  | invalidRequest _ | sharedQuota | authorizationUnavailable => .definiteFailure
  | httpStatus _ | ambiguous _ => .ambiguous

/-- A refused permit, or a failed write. -/
inductive WbGuardedWriteError (E : Type)
  | permit (error : E)
  | write (error : WbWriteError)

variable {C : Type} {A : C → Type} {ε E R : Type}

/-- One guarded write: the checks of the request, the quota and the authorization, then the permit of
the caller, then the admission and the request. -/
def writeWithPermit (prepare : Prog C A ε (Except WbWriteError Unit))
    (permit : Prog C A ε (Except E Unit)) (admission : Prog C A ε (Except WbWriteError Unit))
    (send : Prog C A ε (Except WbWriteError R)) :
    Prog C A ε (Except (WbGuardedWriteError E) R) := do
  match ← prepare with
  | .error error => return .error (.write error)
  | .ok () =>
    match ← permit with
    | .error error => return .error (.permit error)
    | .ok () =>
      match ← admission with
      | .error error => return .error (.write error)
      | .ok () =>
        match ← send with
        | .error error => return .error (.write error)
        | .ok receipt => return .ok receipt

end AdsControl.Wb
