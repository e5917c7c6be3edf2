import AdsControl.Lib.DigitText
import AdsControl.Text

/-!
# The cooldown of a response

A response may delay later requests with the same token: by the wait it asks for in a header, by the
delay of its planned retry, or by the penalty for an inventory conflict. Durations are nanoseconds.

* `parseRetryDelay`: the wait the headers ask for;
* `retryPlan`, `responseCooldowns`: the delay of a retry and the cooldowns of a response;
* `Response.gateDelay`: how far the response extends the gate of its request class;
* **`Response.gateDelay_le`**: whatever the headers, by a day or a configured delay at most;
* **`Response.honored_iff`**: when the gate is extended by the wait a retriable response asks for.
-/

namespace AdsControl.Wb.Pacing

open DigitText

/-- Seconds as nanoseconds. -/
def fromSecs (n : ℕ) : ℕ := n * 10 ^ 9

/-- Milliseconds as nanoseconds. -/
def fromMillis (n : ℕ) : ℕ := n * 10 ^ 6

/-- Hours as nanoseconds. -/
def fromHours (n : ℕ) : ℕ := fromSecs (n * 3600)

/-! ## Request classes -/

/-- The classes of requests. -/
inductive RequestClass
  | orderFeed | promotionBudgets | promotionDailyLimits | itemReturns | analyticsDownloads
  | analyticsDownloadStatus | analyticsDownloadFile | analyticsPing | analyticsReport | statisticsReport
  | contentReport | pricesReport | commissionTariff | logisticsTariff | acceptanceTariff
  | promotionCampaign | promotionBalance | promotionStats | searchReport | promotionMinimumBids
  | promotionRecommendedBids | promotionClusterBids | sellerInventory | feedbackReport | returnClaims
  | supplyReport | cardErrors | fbsOrders | promotionCosts | promotionPayments | financeReport
  deriving DecidableEq

/-- Classes whose requests are made in one attempt are not retried. -/
def RequestClass.allowsAutomaticRetry : RequestClass → Bool
  | orderFeed | promotionBudgets | promotionDailyLimits | itemReturns | analyticsDownloadStatus
  | analyticsDownloadFile | analyticsDownloads | statisticsReport | fbsOrders | promotionCosts
  | promotionPayments | feedbackReport | returnClaims | supplyReport | cardErrors | financeReport
  | commissionTariff | searchReport | sellerInventory => false
  | _ => true

/-- The classes whose responses may delay their gate for longer than a retry may wait. -/
def RequestClass.honorsLongCooldown : RequestClass → Bool
  | sellerInventory | financeReport | orderFeed | promotionBudgets | promotionDailyLimits | itemReturns
  | analyticsDownloads | analyticsDownloadStatus | analyticsDownloadFile => true
  | _ => false

/-! ## Retries -/

/-- How often and how late a request is repeated. -/
structure RetryPolicy where
  maxAttempts : ℕ
  baseDelay : ℕ
  maxDelay : ℕ

/-- A wait the server asked for is taken as it is; otherwise the wait doubles up to the maximum. -/
def RetryPolicy.delay (policy : RetryPolicy) (attempt : ℕ) (serverDelay : Option ℕ) : ℕ :=
  serverDelay.getD (min (policy.baseDelay * 2 ^ min (attempt - 1) 8) policy.maxDelay)

theorem RetryPolicy.delay_le {policy : RetryPolicy} {attempt : ℕ} {serverDelay : Option ℕ}
    (h : ∀ d ∈ serverDelay, d ≤ policy.maxDelay) : policy.delay attempt serverDelay ≤ policy.maxDelay := by
  cases serverDelay with
  | none => exact min_le_right _ _
  | some d => exact h d rfl

/-- The intervals and delays of a client. -/
structure ClientPolicy where
  sellerInventoryInterval : ℕ
  financeInterval : ℕ
  maxAttempts : ℕ
  baseRetryDelay : ℕ
  maxRetryDelay : ℕ

/-- The part about repeated requests. -/
def ClientPolicy.retryPolicy (policy : ClientPolicy) : RetryPolicy :=
  ⟨policy.maxAttempts, policy.baseRetryDelay, policy.maxRetryDelay⟩

/-- The gap between two inventory requests. -/
def sellerInventoryMinRequestInterval : ℕ := fromMillis 250

/-- The gap between two finance requests. -/
def financeMinRequestInterval : ℕ := fromHours 12

/-- The policy in production. -/
def ClientPolicy.production : ClientPolicy where
  sellerInventoryInterval := sellerInventoryMinRequestInterval
  financeInterval := financeMinRequestInterval
  maxAttempts := 3
  baseRetryDelay := fromMillis 100
  maxRetryDelay := fromSecs 30

/-! ## Headers -/

/-- The bytes of a header value. -/
abbrev HeaderValue : Type := List UInt8

/-- The headers of a response, by their lower-case name: the first value of each. -/
abbrev HeaderMap : Type := String → Option HeaderValue

/-- The text of a value of visible ASCII characters and tabs. -/
def HeaderValue.toStr (value : HeaderValue) : Option String :=
  if value.all fun b => (32 ≤ b && b < 127) || b == 9 then
    some (String.ofList (value.map fun b => Char.ofNat b.toNat))
  else none

/-- What a response says about the delay. -/
inductive ParsedRetryDelay
  | absent
  | valid (duration : ℕ)
  | invalid
  deriving DecidableEq

/-- `retry-after` may also hold a date; one in the past asks for no wait. -/
def parseRetryValue (parseFromRfc2822 : String → Option ℤ) (now : ℤ) (name : String) (value : HeaderValue) :
    ParsedRetryDelay :=
  match value.toStr with
  | none => .invalid
  | some text =>
    match parseUnsigned 64 (trim text) with
    | some seconds => .valid (fromSecs seconds)
    | none =>
      if name = "retry-after" then
        match parseFromRfc2822 (String.ofList (trim text)) with
        | none => .invalid
        | some retryAt => .valid (retryAt - now).toNat
      else .invalid

/-- The first of the three headers that is present decides. -/
def parseRetryDelay (parseFromRfc2822 : String → Option ℤ) (headers : HeaderMap) (now : ℤ) :
    ParsedRetryDelay :=
  (["retry-after", "x-ratelimit-retry", "x-ratelimit-reset"].findSome? fun name =>
    (headers name).map (parseRetryValue parseFromRfc2822 now name)).getD .absent

/-! ## Cooldowns -/

/-- The status of a limited request. -/
def tooManyRequests : ℕ := 429

/-- The status of a conflict. -/
def conflict : ℕ := 409

/-- A status after which a request may be repeated. -/
def isRetriable (status : ℕ) : Bool :=
  status = tooManyRequests || status = 502 || status = 503 || status = 504

/-- The delay before a request is repeated, if it is. -/
def retryPlan (status attempt : ℕ) (retryAfter : ParsedRetryDelay) (policy : ClientPolicy) : Option ℕ :=
  if !isRetriable status || policy.maxAttempts ≤ attempt then none
  else
    match retryAfter with
    | .absent => some (policy.retryPolicy.delay attempt none)
    | .valid delay =>
      if delay ≤ policy.maxRetryDelay then some (policy.retryPolicy.delay attempt (some delay)) else none
    | .invalid => none

/-- The delays that later requests keep. -/
structure ResponseCooldowns where
  vendor : Option ℕ
  inventory : Option ℕ
  sharedInventory : Option ℕ

/-- The wait of the headers: up to a day for some classes, and only up to a retry delay for the others. -/
def vendorCooldown (requestClass : RequestClass) (status : ℕ) (retryAfter : ParsedRetryDelay)
    (policy : ClientPolicy) : Option ℕ :=
  match retryAfter with
  | .valid delay =>
    if requestClass.honorsLongCooldown && isRetriable status then some (min delay (fromHours 24))
    else if isRetriable status && delay ≤ policy.maxRetryDelay then some delay
    else none
  | .absent | .invalid =>
    if requestClass.honorsLongCooldown && status = tooManyRequests then some (fromSecs 60) else none

/-- What a response asks of later requests. -/
def responseCooldowns (requestClass : RequestClass) (status : ℕ) (retryAfter : ParsedRetryDelay)
    (policy : ClientPolicy) : ResponseCooldowns where
  vendor := vendorCooldown requestClass status retryAfter policy
  inventory :=
    if requestClass = .sellerInventory then
      if status = conflict then some (policy.sellerInventoryInterval * 10)
      else if status = tooManyRequests ∧ vendorCooldown requestClass status retryAfter policy = none then
        some (fromSecs 60)
      else none
    else none
  sharedInventory :=
    if requestClass = .sellerInventory ∧ status = conflict then some (sellerInventoryMinRequestInterval * 10)
    else none

/-- What the treatment of a response reads: the request it answers, and the instant of the wall clock. -/
structure Response where
  requestClass : RequestClass
  attempt : ℕ
  status : ℕ
  headers : HeaderMap
  utcNow : ℤ

namespace Response

section Delay

variable (policy : ClientPolicy) (parseFromRfc2822 : String → Option ℤ) (response : Response)

/-- The delay that the response names. -/
def retryAfter : ParsedRetryDelay := parseRetryDelay parseFromRfc2822 response.headers response.utcNow

/-- The delay before this request is repeated, if it is. -/
def plannedRetry : Option ℕ :=
  if response.requestClass.allowsAutomaticRetry then
    retryPlan response.status response.attempt (response.retryAfter parseFromRfc2822) policy
  else none

/-- What this response asks of later requests. -/
def cooldowns : ResponseCooldowns :=
  responseCooldowns response.requestClass response.status (response.retryAfter parseFromRfc2822) policy

/-- The delays of which the longest extends the gate. -/
def delays : List ℕ :=
  (response.plannedRetry policy parseFromRfc2822).toList ++
    (response.cooldowns policy parseFromRfc2822).vendor.toList ++
    (response.cooldowns policy parseFromRfc2822).inventory.toList

/-- By how much the response extends the gate of its class, if it does. -/
def gateDelay : Option ℕ := (response.delays policy parseFromRfc2822).max?

end Delay

section Bounds

variable {policy : ClientPolicy} {parseFromRfc2822 : String → Option ℤ} {response : Response} {delay : ℕ}

theorem mem_delays : delay ∈ response.delays policy parseFromRfc2822 ↔
    response.plannedRetry policy parseFromRfc2822 = some delay ∨
    (response.cooldowns policy parseFromRfc2822).vendor = some delay ∨
    (response.cooldowns policy parseFromRfc2822).inventory = some delay := by
  simp only [delays, List.mem_append, Option.mem_toList, or_assoc]

theorem mem_of_gateDelay (h : response.gateDelay policy parseFromRfc2822 = some delay) :
    delay ∈ response.delays policy parseFromRfc2822 :=
  List.max?_mem h

theorem exists_gateDelay (h : delay ∈ response.delays policy parseFromRfc2822) :
    ∃ longest, response.gateDelay policy parseFromRfc2822 = some longest ∧ delay ≤ longest := by
  unfold gateDelay
  cases hmax : (response.delays policy parseFromRfc2822).max? with
  | none =>
    rw [List.max?_eq_none_iff.mp hmax] at h
    cases h
  | some longest => exact ⟨longest, rfl, (List.max?_eq_some_iff.mp hmax).2 delay h⟩

theorem retryPlan_le {status attempt : ℕ} {retryAfter : ParsedRetryDelay}
    (h : retryPlan status attempt retryAfter policy = some delay) : delay ≤ policy.maxRetryDelay := by
  unfold retryPlan at h
  split_ifs at h
  cases retryAfter with
  | absent =>
    rw [← Option.some.inj h]
    exact (RetryPolicy.delay_le nofun : policy.retryPolicy.delay attempt none ≤ policy.retryPolicy.maxDelay)
  | valid d =>
    simp only at h
    split_ifs at h with hd
    rw [← Option.some.inj h]
    exact hd
  | invalid => cases h

theorem plannedRetry_le (h : response.plannedRetry policy parseFromRfc2822 = some delay) :
    delay ≤ policy.maxRetryDelay := by
  unfold plannedRetry at h
  split_ifs at h
  exact retryPlan_le h

theorem vendorCooldown_le {requestClass : RequestClass} {status : ℕ} {retryAfter : ParsedRetryDelay}
    (h : vendorCooldown requestClass status retryAfter policy = some delay) :
    delay ≤ fromHours 24 ∨ delay ≤ policy.maxRetryDelay := by
  have hminute : fromSecs 60 ≤ fromHours 24 := by decide
  unfold vendorCooldown at h
  cases retryAfter with
  | valid d =>
    simp only at h
    split_ifs at h with hlong hshort
    · exact .inl (Option.some.inj h ▸ min_le_right _ _)
    · simp only [Bool.and_eq_true, decide_eq_true_eq] at hshort
      exact .inr (Option.some.inj h ▸ hshort.2)
  | absent | invalid =>
    simp only at h
    split_ifs at h
    exact .inl (Option.some.inj h ▸ hminute)

/-- The penalty for an inventory conflict is the only delay that is neither. -/
def Penalized (response : Response) (policy : ClientPolicy) (delay : ℕ) : Prop :=
  response.requestClass = .sellerInventory ∧ response.status = conflict ∧
    delay = policy.sellerInventoryInterval * 10

theorem inventory_le (h : (response.cooldowns policy parseFromRfc2822).inventory = some delay) :
    delay ≤ fromHours 24 ∨ response.Penalized policy delay := by
  have hminute : fromSecs 60 ≤ fromHours 24 := by decide
  simp only [cooldowns, responseCooldowns] at h
  split_ifs at h with hclass hconflict
  · exact .inr ⟨hclass, hconflict, (Option.some.inj h).symm⟩
  · exact .inl (Option.some.inj h ▸ hminute)

/-- **Whatever the headers, the gate is extended by a day or a configured delay at most.** -/
theorem gateDelay_le (h : response.gateDelay policy parseFromRfc2822 = some delay) :
    delay ≤ fromHours 24 ∨ delay ≤ policy.maxRetryDelay ∨ response.Penalized policy delay := by
  rcases mem_delays.mp (mem_of_gateDelay h) with h | h | h
  · exact .inr (.inl (plannedRetry_le h))
  · exact (vendorCooldown_le h).imp_right .inl
  · exact (inventory_le h).imp_right .inr

theorem gateDelay_le_production (h : response.gateDelay .production parseFromRfc2822 = some delay) :
    delay ≤ fromHours 24 := by
  have hretry : ClientPolicy.production.maxRetryDelay ≤ fromHours 24 := by decide
  have hpenalty : ClientPolicy.production.sellerInventoryInterval * 10 ≤ fromHours 24 := by decide
  rcases gateDelay_le h with h | h | h
  · exact h
  · exact h.trans hretry
  · exact h.2.2.trans_le hpenalty

end Bounds

/-! ## Waits the marketplace asks for -/

section Honored

variable {policy : ClientPolicy} {parseFromRfc2822 : String → Option ℤ} {response : Response} {delay : ℕ}

/-- A retriable response that asks for a wait of a day at most. -/
structure AsksFor (response : Response) (parseFromRfc2822 : String → Option ℤ) (delay : ℕ) : Prop where
  retriable : isRetriable response.status = true
  valid : response.retryAfter parseFromRfc2822 = .valid delay
  bounded : delay ≤ fromHours 24

/-- The wait reaches the gate: the class may be delayed for long, or the wait fits into a retry. -/
def Honors (response : Response) (policy : ClientPolicy) (delay : ℕ) : Prop :=
  response.requestClass.honorsLongCooldown = true ∨ delay ≤ policy.maxRetryDelay

theorem AsksFor.vendor (h : response.AsksFor parseFromRfc2822 delay) (hhonors : response.Honors policy delay) :
    (response.cooldowns policy parseFromRfc2822).vendor = some delay := by
  simp only [cooldowns, responseCooldowns, vendorCooldown, h.valid, h.retriable, Bool.and_true, Bool.true_and,
    decide_eq_true_eq]
  split_ifs with hlong hshort
  · rw [min_eq_left h.bounded]
  · rfl
  · exact absurd hhonors (not_or.mpr ⟨hlong, hshort⟩)

theorem AsksFor.delays_eq_nil (h : response.AsksFor parseFromRfc2822 delay)
    (hhonors : ¬ response.Honors policy delay) : response.delays policy parseFromRfc2822 = [] := by
  obtain ⟨hlong, hshort⟩ := not_or.mp hhonors
  have hclass : response.requestClass ≠ .sellerInventory := fun hclass => hlong (by rw [hclass]; rfl)
  have hplan : retryPlan response.status response.attempt (.valid delay) policy = none := by
    simp only [retryPlan, if_neg hshort, ite_self]
  simp only [delays, plannedRetry, cooldowns, responseCooldowns, vendorCooldown, h.valid, hplan, ite_self,
    if_neg hclass, hlong, hshort, decide_false, Bool.false_and, Bool.and_false, Bool.false_eq_true, if_false,
    Option.toList_none, List.append_nil]

theorem AsksFor.gateDelay_eq_none (h : response.AsksFor parseFromRfc2822 delay)
    (hhonors : ¬ response.Honors policy delay) : response.gateDelay policy parseFromRfc2822 = none := by
  rw [gateDelay, h.delays_eq_nil hhonors]
  rfl

/-- **The gate is extended by the wait exactly if the wait is one it honors.** -/
theorem honored_iff (h : response.AsksFor parseFromRfc2822 delay) :
    (∃ longest, response.gateDelay policy parseFromRfc2822 = some longest ∧ delay ≤ longest) ↔
      response.Honors policy delay := by
  constructor
  · rintro ⟨longest, hlongest, -⟩
    by_contra hhonors
    rw [h.gateDelay_eq_none hhonors] at hlongest
    cases hlongest
  · intro hhonors
    exact exists_gateDelay (mem_delays.mpr (.inr (.inl (h.vendor hhonors))))

end Honored

end Response

end AdsControl.Wb.Pacing
