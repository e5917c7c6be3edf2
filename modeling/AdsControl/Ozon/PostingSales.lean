import AdsControl.Lib.Document
import AdsControl.Lib.Machine
import AdsControl.Lib.Method
import AdsControl.Lib.Tally

/-!
# Posting sales

Postings of both schemes arrive in pages. An accumulator counts the units of each product by scheme and
status, and in total; what it wrote before an error stays written.

* `PostingSalesAccumulator.absorbPage`: one page;
* `PostingSalesAccumulator.finish`: the totals and the rows;
* `summarize`: a sequence of pages of both schemes.
-/

namespace AdsControl.Ozon

open Fallible Machine Receiver Std

/-- The most pages of a scheme. -/
def maxPostingSalesPages : ℕ := 1000

/-- The longest cursor in bytes. -/
def maxCursorBytes : ℕ := 4096

/-- The longest number of a posting in bytes. -/
def maxPostingNumberBytes : ℕ := 256

/-- The longest status in bytes. -/
def maxStatusBytes : ℕ := 128

/-- The most postings of a page. -/
def maxPostingsPerPage : ℕ := 100

/-- The most products of a page. -/
def maxProductsPerPage : ℕ := 10000

/-- The most products of an aggregate. -/
def maxAggregatedSkus : ℕ := 5000

/-- Who ships a posting. -/
inductive PostingScheme
  | fbo
  | fbs
  deriving DecidableEq

/-- Why a page is refused. -/
inductive PostingSalesError
  | shape
  | value
  | tooManyRows
  | duplicatePosting
  | overflow
  deriving DecidableEq

/-- The units of a product. -/
structure PostingSalesRow where
  sku : ℕ
  fboNonCancelledUnits : ℕ
  fbsNonCancelledUnits : ℕ
  totalNonCancelledUnits : ℕ
  fboCancelledUnits : ℕ
  fbsCancelledUnits : ℕ
  totalCancelledUnits : ℕ
  fboStatusUnits : ExtTreeMap String ℕ
  fbsStatusUnits : ExtTreeMap String ℕ

/-- The units of all products. -/
structure PostingSalesTotals where
  fboPostings : ℕ := 0
  fbsPostings : ℕ := 0
  fboNonCancelledUnits : ℕ := 0
  fbsNonCancelledUnits : ℕ := 0
  totalNonCancelledUnits : ℕ := 0
  fboCancelledUnits : ℕ := 0
  fbsCancelledUnits : ℕ := 0
  totalCancelledUnits : ℕ := 0
  deriving DecidableEq

namespace PostingSalesTotals

/-- The postings of a scheme. -/
def postings (totals : PostingSalesTotals) : PostingScheme → ℕ
  | .fbo => totals.fboPostings
  | .fbs => totals.fbsPostings

/-- Set the postings of a scheme. -/
def setPostings (totals : PostingSalesTotals) (n : ℕ) : PostingScheme → PostingSalesTotals
  | .fbo => { totals with fboPostings := n }
  | .fbs => { totals with fbsPostings := n }

/-- The units of a scheme that are cancelled, or are not. -/
def units (totals : PostingSalesTotals) : PostingScheme → Bool → ℕ
  | .fbo, false => totals.fboNonCancelledUnits
  | .fbs, false => totals.fbsNonCancelledUnits
  | .fbo, true => totals.fboCancelledUnits
  | .fbs, true => totals.fbsCancelledUnits

/-- Set the units of a scheme, cancelled or not. -/
def setUnits (totals : PostingSalesTotals) (n : ℕ) : PostingScheme → Bool → PostingSalesTotals
  | .fbo, false => { totals with fboNonCancelledUnits := n }
  | .fbs, false => { totals with fbsNonCancelledUnits := n }
  | .fbo, true => { totals with fboCancelledUnits := n }
  | .fbs, true => { totals with fbsCancelledUnits := n }

end PostingSalesTotals

/-- The units of a product so far. -/
structure MutablePostingSalesRow where
  fboNonCancelled : ℕ := 0
  fbsNonCancelled : ℕ := 0
  fboCancelled : ℕ := 0
  fbsCancelled : ℕ := 0
  fboByStatus : ExtTreeMap String ℕ := ∅
  fbsByStatus : ExtTreeMap String ℕ := ∅

namespace MutablePostingSalesRow

/-- The units of a scheme, cancelled or not. -/
def units (row : MutablePostingSalesRow) : PostingScheme → Bool → ℕ
  | .fbo, false => row.fboNonCancelled
  | .fbs, false => row.fbsNonCancelled
  | .fbo, true => row.fboCancelled
  | .fbs, true => row.fbsCancelled

/-- Set the units of a scheme, cancelled or not. -/
def setUnits (row : MutablePostingSalesRow) (n : ℕ) : PostingScheme → Bool → MutablePostingSalesRow
  | .fbo, false => { row with fboNonCancelled := n }
  | .fbs, false => { row with fbsNonCancelled := n }
  | .fbo, true => { row with fboCancelled := n }
  | .fbs, true => { row with fbsCancelled := n }

/-- The units of a scheme by status. -/
def byStatus (row : MutablePostingSalesRow) : PostingScheme → ExtTreeMap String ℕ
  | .fbo => row.fboByStatus
  | .fbs => row.fbsByStatus

/-- Set the units of a scheme by status. -/
def setByStatus (row : MutablePostingSalesRow) (units : ExtTreeMap String ℕ) :
    PostingScheme → MutablePostingSalesRow
  | .fbo => { row with fboByStatus := units }
  | .fbs => { row with fbsByStatus := units }

/-- The row as it is reported. -/
def finish (sku : ℕ) (row : MutablePostingSalesRow) : Except PostingSalesError PostingSalesRow := do
  let nonCancelled ← context (checkedAdd 64 row.fboNonCancelled row.fbsNonCancelled) .overflow
  let cancelled ← context (checkedAdd 64 row.fboCancelled row.fbsCancelled) .overflow
  return {
    sku
    fboNonCancelledUnits := row.fboNonCancelled
    fbsNonCancelledUnits := row.fbsNonCancelled
    totalNonCancelledUnits := nonCancelled
    fboCancelledUnits := row.fboCancelled
    fbsCancelledUnits := row.fbsCancelled
    totalCancelledUnits := cancelled
    fboStatusUnits := row.fboByStatus
    fbsStatusUnits := row.fbsByStatus }

end MutablePostingSalesRow

/-- What the pages brought so far. -/
structure PostingSalesAccumulator where
  rows : ExtTreeMap ℕ MutablePostingSalesRow := ∅
  seenPostings : Finset (PostingScheme × String) := ∅
  totals : PostingSalesTotals := {}

/-! ## Fields -/

/-- The entries of a field that is an array. -/
def arrayField (object : List (String × Document)) (name : String) :
    Except PostingSalesError (List Document) :=
  context ((object.lookup name).bind Document.asArray) .shape

/-- A field that is a positive number, or the text of one. -/
def positiveU64Field (object : List (String × Document)) (name : String) : Except PostingSalesError ℕ := do
  let value ← context (object.lookup name) .shape
  let parsed := value.asU64 <|> value.asString.bind fun text => DigitText.parseUnsigned 64 text.toList
  context (parsed.filter (0 < ·)) .value

/-- A text within its length and its characters. -/
def boundedStringField (object : List (String × Document)) (name : String) (maxBytes : ℕ)
    (validate : Char → Bool) : Except PostingSalesError String :=
  context (((object.lookup name).bind Document.asString).filter fun value =>
    value ≠ "" ∧ value.utf8ByteSize ≤ maxBytes ∧ value.toList.all validate) .value

/-- The characters of an identifier. -/
def validIdentifier (c : Char) : Bool := c.isAlphanum || ['-', '_', '.', '/'].contains c

/-- The characters of a status. -/
def validStatus (c : Char) : Bool := c.isAlphanum || ['-', '_'].contains c

/-- A control character of ASCII. -/
def isAsciiControl (c : Char) : Bool := c.toNat ≤ 0x1F || c.toNat == 0x7F

/-- The cursor of the next page, if there is one. -/
def nextCursor (root : List (String × Document)) : Except PostingSalesError (Option String) := do
  let hasNext ← context ((root.lookup "has_next").bind Document.asBool) .shape
  let cursor ← context ((root.lookup "cursor").bind Document.asString) .shape
  let cursorIsSafe := cursor.utf8ByteSize ≤ maxCursorBytes ∧ cursor.toList.all fun c => !isAsciiControl c
  ensure (cursorIsSafe ∧ (hasNext → cursor ≠ "")) .value
  return if hasNext then some cursor else none

/-! ## The accumulator -/

namespace PostingSalesAccumulator

/-- The row of a product; a product without units has an empty one. -/
def row (self : PostingSalesAccumulator) (sku : ℕ) : MutablePostingSalesRow := self.rows[sku]?.getD {}

/-- Set the row of a product. -/
def setRow (self : PostingSalesAccumulator) (sku : ℕ) (row : MutablePostingSalesRow) :
    PostingSalesAccumulator :=
  { self with rows := self.rows.insert sku row }

/-- Set the totals. -/
def setTotals (self : PostingSalesAccumulator) (totals : PostingSalesTotals) : PostingSalesAccumulator :=
  { self with totals }

/-- Raise one counter of the accumulator. -/
def raise (get : PostingSalesAccumulator → ℕ) (put : PostingSalesAccumulator → ℕ → PostingSalesAccumulator)
    (value : ℕ) : Method PostingSalesAccumulator PostingSalesError Unit := do
  let sum ← query fun self => context (checkedAdd 64 (get self) value) .overflow
  modify fun self => put self sum

/-- Add the units of a product. -/
def absorbProduct (scheme : PostingScheme) (status : String) (product : Document) :
    Method PostingSalesAccumulator PostingSalesError Unit := do
  let product ← lift (context product.asObject .shape)
  let sku ← lift (positiveU64Field product "sku")
  let quantity ← lift (positiveU64Field product "quantity")
  query fun self => ensure (self.rows[sku]?.isSome ∨ self.rows.size < maxAggregatedSkus) .tooManyRows
  modify fun self => self.setRow sku (self.row sku)
  let cancelled : Bool := status == "cancelled"
  raise (fun self => (self.row sku).units scheme cancelled)
    (fun self n => self.setRow sku ((self.row sku).setUnits n scheme cancelled)) quantity
  raise (fun self => self.totals.units scheme cancelled)
    (fun self n => self.setTotals (self.totals.setUnits n scheme cancelled)) quantity
  raise (fun self => ((self.row sku).byStatus scheme)[status]?.getD 0)
    (fun self n => self.setRow sku
      ((self.row sku).setByStatus (((self.row sku).byStatus scheme).insert status n) scheme)) quantity

/-- Count a posting; the result is the number of products on the page so far. -/
def absorbPosting (scheme : PostingScheme) (productRows : ℕ) (posting : Document) :
    Method PostingSalesAccumulator PostingSalesError ℕ := do
  let posting ← lift (context posting.asObject .shape)
  let number ← lift (boundedStringField posting "posting_number" maxPostingNumberBytes validIdentifier)
  query fun self => ensure ((scheme, number) ∉ self.seenPostings) .duplicatePosting
  modify fun self => { self with seenPostings := insert (scheme, number) self.seenPostings }
  let status ← lift (boundedStringField posting "status" maxStatusBytes validStatus)
  let products ← lift (arrayField posting "products")
  let productRows ← lift (context (checkedAdd 64 productRows products.length) .overflow)
  lift (ensure (productRows ≤ maxProductsPerPage) .tooManyRows)
  raise (fun self => self.totals.postings scheme)
    (fun self n => self.setTotals (self.totals.setPostings n scheme)) 1
  products.forM (absorbProduct scheme status)
  return productRows

/-- Count a page; the result is the cursor of the next one. -/
def absorbPage (scheme : PostingScheme) (response : Document) :
    Method PostingSalesAccumulator PostingSalesError (Option String) := do
  let root ← lift (context response.asObject .shape)
  let postings ← lift (arrayField root "postings")
  lift (ensure (postings.length ≤ maxPostingsPerPage) .tooManyRows)
  let _ ← postings.foldlM (absorbPosting scheme) 0
  lift (nextCursor root)

/-- The totals and the rows, which have to agree. -/
def finish (self : PostingSalesAccumulator) :
    Except PostingSalesError (PostingSalesTotals × List PostingSalesRow) := do
  let nonCancelled ← context (checkedAdd 64 self.totals.fboNonCancelledUnits
    self.totals.fbsNonCancelledUnits) .overflow
  let cancelled ← context (checkedAdd 64 self.totals.fboCancelledUnits
    self.totals.fbsCancelledUnits) .overflow
  let rows ← self.rows.toList.mapM fun (sku, row) => row.finish sku
  return ({ self.totals with
    totalNonCancelledUnits := nonCancelled
    totalCancelledUnits := cancelled }, rows)

end PostingSalesAccumulator

/-- A page with the scheme it was asked for. -/
abbrev PostingPage : Type := PostingScheme × Document

open PostingSalesAccumulator in
/-- Add pages one after another. -/
def absorbPages (pages : List PostingPage) : Method PostingSalesAccumulator PostingSalesError Unit :=
  pages.forM fun page => do
    let _ ← absorbPage page.1 page.2

/-- The result of pages that are all absorbed, one after another. -/
def summarize (pages : List PostingPage) :
    Except PostingSalesError (PostingSalesTotals × List PostingSalesRow) :=
  match absorbPages pages {} with
  | (.ok (), self) => self.finish
  | (.error e, _) => .error e

end AdsControl.Ozon
