import AdsControl.Lib.Tally
import AdsControl.Reporting.Facts
import AdsControl.Reporting.OzonSource

/-!
# The accrual ledger

The ledger of a period is read day by day, a day page by page. The lines of a page are added up by product
and category, and the pages are added up to the facts.

* `parseTypes`: the dictionary of line types, `classifyText`: the category a text speaks of;
* `decimalMinor`: amounts with a sign;
* `parsePage`: the lines of a page added up;
* `collectDay`, `collectFinanceFacts`: the walks over pages and days.
-/

namespace AdsControl.Reporting

open DigitText Fallible Interaction Machine OrderedMap Std

/-! ## Categories -/

/-- The order of the categories. -/
def FinanceCategory.rank : FinanceCategory → ℕ
  | sale => 0
  | commission => 1
  | acquiring => 2
  | logistics => 3
  | storage => 4
  | paidAcceptance => 5
  | compensation => 6
  | marketplaceDiscount => 7
  | advertising => 8
  | other => 9

instance : Ord FinanceCategory := ⟨compareOn FinanceCategory.rank⟩

instance : TransOrd FinanceCategory := inferInstanceAs (TransCmp (compareOn FinanceCategory.rank))

theorem FinanceCategory.rank_injective : Function.Injective FinanceCategory.rank := by
  intro a b h
  revert h
  cases a <;> cases b <;> decide

instance : LawfulEqOrd FinanceCategory where
  eq_of_compare h := FinanceCategory.rank_injective (LawfulEqOrd.eq_of_compare h)

/-- Why a response is not read. -/
inductive OzonFinanceParseError
  | shape
  | value
  | limit
  deriving DecidableEq

/-- The most pages of a day. -/
def maxPagesPerDay : ℕ := 100

/-- The most accruals of a page. -/
def maxRowsPerPage : ℕ := 10000

/-- The longest text of a type in bytes. -/
def maxTypeTextBytes : ℕ := 2048

/-- The longest cursor in bytes. -/
def maxLedgerCursorBytes : ℕ := 4096

/-- How text is read: calendar dates and the lower case of a text are those of their libraries. -/
structure LedgerText where
  parseDate : String → Option ℤ
  toLowercase : String → String

/-! ## Types of lines -/

/-- The category of a type, and whether it is certain. -/
structure AccrualType where
  category : FinanceCategory
  known : Bool
  deriving DecidableEq

/-- What each category is called, in order of precedence. -/
def categoryNeedles : List (FinanceCategory × List String) :=
  [(.compensation, ["компенсац", "compensation"]), (.acquiring, ["эквайр", "acquir"]),
    (.storage, ["хранен", "storage"]), (.paidAcceptance, ["приемк", "приёмк", "acceptance"]),
    (.logistics, ["логист", "достав", "перевоз", "logistic", "delivery"]),
    (.commission, ["комис", "commission"]), (.compensation, ["возмещ"]), (.advertising, ["реклам", "advert"]),
    (.marketplaceDiscount, ["скидк", "балл", "discount", "bonus"]), (.sale, ["продаж", "выруч", "sale"])]

namespace OzonFinance

section Text

variable (text : LedgerText)

/-- The first category with a word that the text contains. -/
def classifyText (value : String) : Option FinanceCategory :=
  (categoryNeedles.find? fun entry => entry.2.any fun needle =>
    decide (needle.toList <:+: (text.toLowercase value).toList)).map Prod.fst

/-- The name decides; the description is only asked when the name says nothing. -/
def classifyType (name description : String) : AccrualType :=
  match (classifyText text name).or (classifyText text description) with
  | some category => ⟨category, true⟩
  | none => ⟨.other, false⟩

/-- A natural number, or the text of one. -/
def parseU64 : Document → Except OzonFinanceParseError ℕ
  | .number value => context (parseUnsigned 64 value.toList) .value
  | .string value => context (parseUnsigned 64 value.toList) .value
  | _ => .error .value

/-- A text within its length. -/
def boundedText (value : Option Document) : Except OzonFinanceParseError String := do
  let text ← context (value.bind Document.asString) .shape
  ensure (text.utf8ByteSize ≤ maxTypeTextBytes) .limit
  return text

/-- Add a type; it may occur once. -/
def addType (types : ExtTreeMap ℕ AccrualType) (row : Document) :
    Except OzonFinanceParseError (ExtTreeMap ℕ AccrualType) := do
  let row ← context row.asObject .shape
  let id ← parseU64 (← context (row.lookup "id") .shape)
  let name ← boundedText (row.lookup "name")
  let description ← boundedText (row.lookup "description")
  ensure (id ≠ 0 ∧ types[id]? = none) .value
  return types.insert id (classifyType text name description)

/-- The types of a response by their ids. -/
def parseTypes (response : Document) : Except OzonFinanceParseError (ExtTreeMap ℕ AccrualType) := do
  let rows ← context ((response.get "accrual_types").bind Document.asArray) .shape
  ensure (rows.length ≤ maxRowsPerPage) .limit
  rows.foldlM (addType text) ∅

end Text

/-! ## Lines -/

/-- A date from the start of a text. -/
def parseDate (text : LedgerText) (value : Document) : Except OzonFinanceParseError ℤ := do
  let raw ← context value.asString .shape
  let start ← context (bytePrefix raw.toList 10) .value
  context (text.parseDate (String.ofList start)) .value

/-- A text without a leading minus sign, and whether there was one. -/
def stripMinus : List Char → Bool × List Char
  | '-' :: raw => (true, raw)
  | raw => (false, raw)

/-- An unsigned number of at most two digits in hundredths. -/
def fractionMinor (fraction : List Char) : Except OzonFinanceParseError ℤ :=
  match byteSize fraction with
  | 0 => .ok 0
  | 1 => (context (parseSigned 64 fraction) .value).map (· * 10)
  | _ => context (parseSigned 64 fraction) .value

/-- A signed 64-bit value. -/
def checkedI64 (value : ℤ) : Option ℤ := if -2 ^ 63 ≤ value ∧ value < 2 ^ 63 then some value else none

/-- An amount in kopecks. -/
def decimalMinor (raw : String) : Except OzonFinanceParseError ℤ := do
  let (negative, raw) := stripMinus raw.toList
  let (whole, fraction) := (splitOnce '.' raw).getD (raw, [])
  ensure (whole ≠ [] ∧ byteSize fraction ≤ 2 ∧ whole.all Char.isDigit ∧ fraction.all Char.isDigit) .value
  let whole ← context (parseSigned 64 whole) .value
  let fraction ← fractionMinor fraction
  let amount ← context ((checkedI64 (whole * 100)).bind fun value => checkedI64 (value + fraction)) .value
  if negative then context (checkedI64 (-amount)) .value else return amount

/-- An amount in rubles. -/
def parseMoney (value : Document) : Except OzonFinanceParseError ℤ := do
  let object ← context value.asObject .shape
  ensure ((object.lookup "currency").bind Document.asString = some "RUB") .value
  decimalMinor (← context ((object.lookup "amount").bind Document.asString) .shape)

/-- The product that all products of a posting are, given the one before. -/
def uniqueSku : Option ℕ → List Document → Except OzonFinanceParseError (Option ℕ)
  | sku, [] => .ok sku
  | sku, product :: products => do
    let value ← parseU64 (← context (product.get "sku") .shape)
    ensure (value ≠ 0) .value
    if ∃ old ∈ sku, old ≠ value then return none
    else uniqueSku (some value) products

/-- The product of a posting that has only one. -/
def uniquePostingSku (posting : Option Document) : Except OzonFinanceParseError (Option ℕ) :=
  match (posting.bind fun value => value.get "products").bind Document.asArray with
  | none => .ok none
  | some products => uniqueSku none products

/-- Day, product and category. -/
abbrev FinanceKey : Type := ℤ ×ₗ Option ℕ ×ₗ FinanceCategory

instance FinanceKey.transOrd : TransOrd FinanceKey := inferInstance

/-- Amount, lines, and lines of an unknown type. -/
abbrev FinanceTotals : Type := ℤ × ℕ × ℕ

/-- Totals by date, product and category. -/
abbrev FinanceAggregate : Type := ExtTreeMap FinanceKey FinanceTotals

/-- Totals added up, unless one of them does not fit. -/
def addTotals (self value : FinanceTotals) : Option FinanceTotals := do
  let amount ← checkedI64 (self.1 + value.1)
  let lines ← checkedAdd 32 self.2.1 value.2.1
  let unknown ← checkedAdd 32 self.2.2 value.2.2
  return (amount, lines, unknown)

/-- Totals into those of their key. -/
def addEntry {ε : Type} (overflow : ε) (aggregate : FinanceAggregate) (entry : FinanceKey × FinanceTotals) :
    Except ε FinanceAggregate := do
  let totals ← context (addTotals (aggregate[entry.1]?.getD (0, 0, 0)) entry.2) overflow
  return aggregate.insert entry.1 totals

/-- The type of a line, from the dictionary. -/
def kindOf (types : ExtTreeMap ℕ AccrualType) (row : List (String × Document)) :
    Except OzonFinanceParseError (Option AccrualType) :=
  match row.lookup "type_id" with
  | some value => (parseU64 value).map fun id => types[id]?
  | none => do
    let _ ← parseU64 (← context (row.lookup "accrual_id") .shape)
    return none

/-- A line of the ledger. -/
def readAccrual (text : LedgerText) (types : ExtTreeMap ℕ AccrualType) (requestedDate : ℤ) (row : Document) :
    Except OzonFinanceParseError (FinanceKey × FinanceTotals) := do
  let row ← context row.asObject .shape
  let date ← parseDate text (← context (row.lookup "date") .shape)
  ensure (date = requestedDate) .value
  let kind ← kindOf types row
  let category := kind.elim .other AccrualType.category
  let unknown := if kind.any AccrualType.known then 0 else 1
  let amount ← parseMoney (← context (row.lookup "total_amount") .shape)
  let sku ← uniquePostingSku (row.lookup "posting")
  return (toLex (date, toLex (sku, category)), amount, 1, unknown)

/-- Add an accrual to its totals. -/
def addAccrual (text : LedgerText) (types : ExtTreeMap ℕ AccrualType) (requestedDate : ℤ)
    (aggregate : FinanceAggregate) (row : Document) : Except OzonFinanceParseError FinanceAggregate := do
  addEntry .value aggregate (← readAccrual text types requestedDate row)

/-- The totals of a page, its number of lines and the next cursor. -/
def parsePage (text : LedgerText) (types : ExtTreeMap ℕ AccrualType) (requestedDate : ℤ)
    (response : Document) : Except OzonFinanceParseError (FinanceAggregate × ℕ × String) := do
  let rows ← context ((response.get "accruals").bind Document.asArray) .shape
  ensure (rows.length ≤ maxRowsPerPage) .limit
  let aggregate ← rows.foldlM (addAccrual text types requestedDate) ∅
  let lastId ← context ((response.get "last_id").bind Document.asString) .shape
  return (aggregate, rows.length, lastId)

/-! ## The collection -/

/-- The requests of a collection of accruals. -/
inductive FinanceRequest
  | types
  | byDay (date : ℤ) (lastId : String)
  deriving DecidableEq

/-- Totals as a fact. -/
def financeFact (entry : FinanceKey × FinanceTotals) : CollectedFinanceFact where
  businessDate := (ofLex entry.1).1
  sku := (ofLex (ofLex entry.1).2).1
  category := (ofLex (ofLex entry.1).2).2
  amountMinor := entry.2.1
  lineCount := entry.2.2.1
  unknownTypeCount := entry.2.2.2

/-- The key and the totals of a fact. -/
def factEntry (fact : CollectedFinanceFact) : FinanceKey × FinanceTotals :=
  (toLex (fact.businessDate, toLex (fact.sku, fact.category)),
    fact.amountMinor, fact.lineCount, fact.unknownTypeCount)

/-- A page of a day; the empty cursor is the last one. -/
def collectPage (text : LedgerText) (types : ExtTreeMap ℕ AccrualType) (date : ℤ)
    (aggregate : FinanceAggregate) (cursor : Option String) :
    OzonProg FinanceRequest (FinanceAggregate × Option String) := do
  let response ← post (.byDay date (cursor.getD ""))
  let page ← .ofExcept ((parsePage text types date response).mapError fun _ => .invalidFinanceResponse)
  let facts := page.1.toList.map financeFact
  let aggregate ← .ofExcept ((facts.map factEntry).foldlM (addEntry .invalidFinanceResponse) aggregate)
  if page.2.2 = "" then return (aggregate, none)
  else do
    .ofExcept (ensure (page.2.1 ≠ 0 ∧ page.2.2.utf8ByteSize ≤ maxLedgerCursorBytes) .invalidFinanceResponse)
    return (aggregate, some page.2.2)

/-- The accruals of a day, page by page. -/
def collectDay (text : LedgerText) (types : ExtTreeMap ℕ AccrualType) (date : ℤ)
    (aggregate : FinanceAggregate) : OzonProg FinanceRequest FinanceAggregate :=
  Interaction.walk (collectPage text types date) .invalidFinanceResponse .paginationLimit maxPagesPerDay []
    aggregate none

/-- The day and the `n` days after it. -/
def collectDays (text : LedgerText) (types : ExtTreeMap ℕ AccrualType) :
    ℕ → ℤ → FinanceAggregate → OzonProg FinanceRequest FinanceAggregate
  | 0, date, aggregate => collectDay text types date aggregate
  | n + 1, date, aggregate => do
    let aggregate ← collectDay text types date aggregate
    collectDays text types n (date + 1) aggregate

/-- The accruals of an interval. -/
def collectFinanceFacts (text : LedgerText) (dateFrom dateTo : ℤ) :
    OzonProg FinanceRequest (List CollectedFinanceFact) := do
  .ofExcept (ensure (dateFrom ≤ dateTo) .invalidSnapshotInput)
  let response ← post .types
  let types ← .ofExcept ((parseTypes text response).mapError fun _ => .invalidFinanceResponse)
  let aggregate ← collectDays text types (dateTo - dateFrom).toNat dateFrom ∅
  return aggregate.toList.map financeFact

end OzonFinance

end AdsControl.Reporting
