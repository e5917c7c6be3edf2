import AdsControl.Lib.CursorWalk
import AdsControl.Lib.Document
import AdsControl.Reporting.Checkpoint

/-!
# The Ozon report source

Collectors ask the marketplace for documents; a request may fail. The pages of a collection are what the
source answered, whether they were fetched in this attempt or in an earlier one.

* `OzonReportSourceError`: how a collection fails;
* `OzonProg`, `post`: programs that send requests.
-/

namespace AdsControl.Reporting

open Interaction

/-- The errors of the client. -/
inductive OzonErrorKind
  | endpointNotAllowed
  | missingCredentials
  | unauthorized
  | forbidden
  | notFound
  | rateLimited
  | server
  | http
  | timeout
  | network
  | overloaded
  | invalidJson
  | responseTooLarge
  deriving DecidableEq

/-- Why a collection fails. -/
inductive OzonReportSourceError
  | retryAfter (seconds : ℕ)
  | checkpoint (error : CheckpointError)
  | upstream (kind : OzonErrorKind)
  | transport
  | invalidResponse
  | invalidSalesResponse (shape : String)
  | salesPageOverlap
  | invalidStocksResponse
  | invalidPricesResponse
  | invalidFinanceResponse
  | invalidSnapshotInput
  | paginationLimit
  deriving DecidableEq

/-- What the source answers to a request. -/
abbrev OzonAnswer : Type := Except OzonReportSourceError Document

/-- Programs that send requests `R`. -/
abbrev OzonProg (R α : Type) : Type := Prog R (fun _ => OzonAnswer) OzonReportSourceError α

/-- A request with its answer. -/
abbrev OzonExchange (R : Type) : Type := Sigma fun _ : R => OzonAnswer

/-- Send a request that has to be answered by a document. -/
def post {R : Type} (request : R) : OzonProg R Document := do
  let answer : OzonAnswer ← Prog.perform request
  .ofExcept answer

theorem runs_post {R : Type} {request : R} {trace : List (OzonExchange R)} {response : Document} :
    (post request).Runs trace (.ok response) ↔ trace = [⟨request, .ok response⟩] := by
  rw [post, Prog.runs_bind_ok]
  constructor
  · rintro ⟨answer, first, rest, rfl, hfirst, hrest⟩
    obtain rfl := Prog.runs_perform.mp hfirst
    obtain ⟨rfl, rfl⟩ := Prog.runs_ofExcept.mp hrest
    rfl
  · rintro rfl
    exact ⟨_, _, [], rfl, Prog.runs_perform.mpr rfl, Prog.runs_ofExcept.mpr ⟨rfl, rfl⟩⟩

end AdsControl.Reporting
