import AdsControl.Lib.History
import AdsControl.Lib.Run
import AdsControl.Wb.ResponseCooldown

/-!
# The gates of a token

Every request class of a token has a gate with the next instant at which a request may leave. Requests
claim it, responses extend it, and a finance response that proves a better quota moves it. All callers with
the same token share the gates; each gate has a lock, and so has the state of the finance class. Instants
are nanoseconds of the monotonic clock.

* `TokenLimiter`, `GateStep`: the gates, and the steps of their callers under the locks;
* `GateEvent.Spaced`: a claim keeps clear of the cooldowns before it;
* **`paced_of_reachable`**: it does so in every interleaving;
* **`cooldowns_honored`**: which waits the marketplace asks for hold the other callers back.
-/

namespace AdsControl.Wb.Pacing

open History Transition

/-- The last instant of the clock. -/
def maxInstant : ℕ := fromSecs (2 ^ 63) - 1

/-- Adding a duration to an instant panics on overflow. -/
def addDuration (instant duration : ℕ) : Option ℕ :=
  if instant + duration ≤ maxInstant then some (instant + duration) else none

/-! ## The finance quota -/

/-- The gap between two requests of a personal token. -/
def personalInterval : ℕ := fromSecs 60

/-- The claims of a token. -/
structure CapabilityHints where
  acc : ℕ
  s : ℕ
  exp : ℤ

/-- A personal token for reading reports that has not expired. -/
def CapabilityHints.Personal (hints : CapabilityHints) (utcSeconds : ℤ) : Prop :=
  hints.acc = 3 ∧ hints.s.testBit 30 = true ∧ hints.s.testBit 13 = true ∧ utcSeconds < hints.exp

/-! ## Callers -/

/-- What happened at the gates. -/
inductive GateEvent
  | claimed (requestClass : RequestClass) (instant : ℕ)
  /-- The treatment of a response is over; the response had arrived at the instant. -/
  | processed (response : Response) (received : ℕ)
  /-- The treatment of a finance response was given up between its two extensions. -/
  | abandoned (response : Response) (received : ℕ)

/-- Who holds the lock of the finance state: an extension that moved the server cooldown at the instant
`begun` and is about to extend the gate, or a promotion that is about to move it. -/
inductive Holder
  | extending (response : Response) (received begun delay : ℕ)
  | promoting

/-- When each class may be sent again. -/
structure TokenLimiter where
  clock : ℕ
  nextAllowed : RequestClass → ℕ
  personalReadVerified : Bool
  serverCooldownUntil : ℕ
  finance : Option Holder
  /-- The responses that are about to extend their gate, with their arrival. -/
  pending : List (Response × ℕ)
  log : List GateEvent

section Steps

variable (policy : ClientPolicy) (parseFromRfc2822 : String → Option ℤ)

/-- A response arrives. Its treatment is over at once unless it extends a gate. -/
def TokenLimiter.arrive (response : Response) (s : TokenLimiter) : TokenLimiter :=
  match response.gateDelay policy parseFromRfc2822 with
  | none => { s with log := s.log ++ [.processed response s.clock] }
  | some _ => { s with pending := (response, s.clock) :: s.pending }

/-- One step of some caller. A caller may stop before any of its steps, and then releases its locks. -/
inductive GateStep (s : TokenLimiter) : TokenLimiter → Prop
  | tick {instant : ℕ} (hle : s.clock ≤ instant) (hmax : instant ≤ maxInstant) :
      GateStep s { s with clock := instant }
  /-- The clock is read again before the gate is closed. -/
  | claim {requestClass : RequestClass} {later interval next : ℕ}
      (hopen : s.nextAllowed requestClass ≤ s.clock) (hlater : s.clock ≤ later)
      (hnext : addDuration later interval = some next) :
      GateStep s { s with
        nextAllowed := Function.update s.nextAllowed requestClass next
        log := s.log ++ [.claimed requestClass s.clock] }
  | arrive (response : Response) : GateStep s (s.arrive policy parseFromRfc2822 response)
  /-- The clock is read before the lock of the gate is taken. -/
  | extend {response : Response} {received delay read next : ℕ} {left right : List (Response × ℕ)}
      (hpending : s.pending = left ++ (response, received) :: right)
      (hclass : response.requestClass ≠ .financeReport)
      (hdelay : response.gateDelay policy parseFromRfc2822 = some delay) (hreceived : received ≤ read)
      (hread : read ≤ s.clock) (hnext : addDuration read delay = some next) :
      GateStep s { s with
        nextAllowed := Function.update s.nextAllowed response.requestClass
          (max (s.nextAllowed response.requestClass) next)
        pending := left ++ right
        log := s.log ++ [.processed response received] }
  | extendServer {response : Response} {received delay next : ℕ} {left right : List (Response × ℕ)}
      (hpending : s.pending = left ++ (response, received) :: right)
      (hclass : response.requestClass = .financeReport)
      (hdelay : response.gateDelay policy parseFromRfc2822 = some delay) (hfree : s.finance = none)
      (hnext : addDuration s.clock delay = some next) :
      GateStep s { s with
        serverCooldownUntil := max s.serverCooldownUntil next
        finance := some (.extending response received s.clock delay)
        pending := left ++ right }
  | extendFinance {response : Response} {received begun delay read next : ℕ}
      (hheld : s.finance = some (.extending response received begun delay)) (hbegun : begun ≤ read)
      (hread : read ≤ s.clock) (hnext : addDuration read delay = some next) :
      GateStep s { s with
        nextAllowed := Function.update s.nextAllowed .financeReport (max (s.nextAllowed .financeReport) next)
        finance := none
        log := s.log ++ [.processed response received] }
  | abandon {response : Response} {received begun delay : ℕ}
      (hheld : s.finance = some (.extending response received begun delay)) :
      GateStep s { s with finance := none, log := s.log ++ [.abandoned response received] }
  | confirm {hints : CapabilityHints} {utcSeconds : ℤ} (hhints : hints.Personal utcSeconds)
      (hfree : s.finance = none) (hverified : s.personalReadVerified = false) :
      GateStep s { s with personalReadVerified := true, finance := some .promoting }
  | promote {next : ℕ} (hheld : s.finance = some .promoting)
      (hnext : addDuration s.clock (min policy.financeInterval personalInterval) = some next) :
      GateStep s { s with
        nextAllowed := Function.update s.nextAllowed .financeReport (max next s.serverCooldownUntil)
        finance := none }
  | release (hheld : s.finance = some .promoting) : GateStep s { s with finance := none }

/-- The callers of one token, from gates that are open. -/
def gateSystem : System TokenLimiter where
  init s := (∀ requestClass, s.nextAllowed requestClass ≤ s.clock) ∧
    s.serverCooldownUntil ≤ s.clock ∧ s.clock ≤ maxInstant ∧ s.personalReadVerified = false ∧
    s.finance = none ∧ s.pending = [] ∧ s.log = []
  step := GateStep policy parseFromRfc2822

end Steps

theorem addDuration_eq_some {instant duration next : ℕ} :
    addDuration instant duration = some next ↔ next = instant + duration ∧ next ≤ maxInstant := by
  unfold addDuration
  split_ifs with h
  · rw [Option.some.injEq]
    exact ⟨fun heq => ⟨heq.symm, heq ▸ h⟩, fun heq => heq.1.symm⟩
  · exact ⟨nofun, fun heq => absurd (heq.1 ▸ heq.2) h⟩

/-! ## Every interleaving -/

section Invariants

variable {policy : ClientPolicy} {parseFromRfc2822 : String → Option ℤ} {s t : TokenLimiter}

/-- A claim keeps clear of the cooldowns of all responses treated before. -/
def GateEvent.Spaced (policy : ClientPolicy) (parseFromRfc2822 : String → Option ℤ) (before : List GateEvent) :
    GateEvent → Prop
  | claimed requestClass instant => ∀ response received delay, .processed response received ∈ before →
      response.requestClass = requestClass → response.gateDelay policy parseFromRfc2822 = some delay →
      received + delay ≤ instant
  | processed _ _ | abandoned _ _ => True

namespace TokenLimiter

/-- The gate of the response, and the server cooldown if it is a finance response, reach to the end of its
cooldown. -/
def Covers (policy : ClientPolicy) (parseFromRfc2822 : String → Option ℤ) (s : TokenLimiter)
    (response : Response) (received : ℕ) : Prop :=
  ∀ delay, response.gateDelay policy parseFromRfc2822 = some delay →
    received + delay ≤ s.nextAllowed response.requestClass ∧
      (response.requestClass = .financeReport → received + delay ≤ s.serverCooldownUntil)

/-- The gates cover the cooldowns of the responses whose treatment is over, and the server cooldown also that
of the response that holds its lock. -/
structure Paced (policy : ClientPolicy) (parseFromRfc2822 : String → Option ℤ) (s : TokenLimiter) : Prop where
  arrived : ∀ response received, (response, received) ∈ s.pending → received ≤ s.clock
  held : ∀ response received begun delay, s.finance = some (.extending response received begun delay) →
    response.requestClass = .financeReport ∧ response.gateDelay policy parseFromRfc2822 = some delay ∧
      received ≤ begun ∧ begun + delay ≤ s.serverCooldownUntil
  covered : ∀ response received, .processed response received ∈ s.log →
    s.Covers policy parseFromRfc2822 response received
  spaced : Orderly (GateEvent.Spaced policy parseFromRfc2822) s.log

variable (h : s.Paced policy parseFromRfc2822)
include h

theorem Paced.move {requestClass : RequestClass} {next : ℕ}
    (hnext : ∀ response received, .processed response received ∈ s.log →
      response.requestClass = requestClass → ∀ delay,
        response.gateDelay policy parseFromRfc2822 = some delay → received + delay ≤ next) :
    Paced policy parseFromRfc2822 { s with nextAllowed := Function.update s.nextAllowed requestClass next } := by
  refine ⟨h.arrived, h.held, fun response received he delay hdelay => ?_, h.spaced⟩
  have hold := h.covered response received he delay hdelay
  by_cases hclass : response.requestClass = requestClass
  · refine ⟨?_, hold.2⟩
    simp only [hclass, Function.update_self]
    exact hnext response received he hclass delay hdelay
  · simp only [Function.update_of_ne hclass]
    exact hold

theorem Paced.raise {requestClass : RequestClass} {next : ℕ} (hle : s.nextAllowed requestClass ≤ next) :
    Paced policy parseFromRfc2822 { s with nextAllowed := Function.update s.nextAllowed requestClass next } :=
  h.move fun response received he hclass delay hdelay =>
    ((h.covered response received he delay hdelay).1.trans_eq (by rw [hclass])).trans hle

theorem Paced.raiseServer {until' : ℕ} (hle : s.serverCooldownUntil ≤ until') :
    Paced policy parseFromRfc2822 { s with serverCooldownUntil := until' } where
  arrived := h.arrived
  held response received begun delay hheld := by
    obtain ⟨hclass, hdelay, hbegun, hend⟩ := h.held response received begun delay hheld
    exact ⟨hclass, hdelay, hbegun, hend.trans hle⟩
  covered response received he delay hdelay :=
    (h.covered response received he delay hdelay).imp_right fun hserver hclass => (hserver hclass).trans hle
  spaced := h.spaced

/-- An event may be recorded that keeps clear of those before it and is covered itself. -/
theorem Paced.record {e : GateEvent} (hspaced : e.Spaced policy parseFromRfc2822 s.log)
    (hcovered : ∀ response received, e = .processed response received →
      s.Covers policy parseFromRfc2822 response received) :
    Paced policy parseFromRfc2822 { s with log := s.log ++ [e] } := by
  refine ⟨h.arrived, h.held, fun response received he => ?_, h.spaced.snoc hspaced⟩
  rcases List.mem_append.mp he with he | he
  · exact h.covered response received he
  · exact hcovered response received (List.mem_singleton.mp he).symm

theorem Paced.unlock : Paced policy parseFromRfc2822 { s with finance := none } :=
  ⟨h.arrived, nofun, h.covered, h.spaced⟩

theorem Paced.drop {left right : List (Response × ℕ)} {entry : Response × ℕ}
    (hpending : s.pending = left ++ entry :: right) :
    Paced policy parseFromRfc2822 { s with pending := left ++ right } := by
  refine ⟨fun response received he => h.arrived response received ?_, h.held, h.covered, h.spaced⟩
  rw [hpending]
  exact List.mem_append.mpr ((List.mem_append.mp he).imp_right (List.mem_cons_of_mem _))

theorem Paced.arrive (response : Response) :
    Paced policy parseFromRfc2822 (s.arrive policy parseFromRfc2822 response) := by
  unfold TokenLimiter.arrive
  cases hdelay : response.gateDelay policy parseFromRfc2822 with
  | none =>
    refine h.record trivial ?_
    rintro _ _ ⟨⟩ delay hsome
    rw [hdelay] at hsome
    cases hsome
  | some delay =>
    refine ⟨fun response' received he => ?_, h.held, h.covered, h.spaced⟩
    rcases List.mem_cons.mp he with he | he
    · exact (congrArg Prod.snd he).le
    · exact h.arrived response' received he

end TokenLimiter

theorem GateStep.paced (h : s.Paced policy parseFromRfc2822) (hstep : GateStep policy parseFromRfc2822 s t) :
    t.Paced policy parseFromRfc2822 := by
  cases hstep with
  | tick hle =>
    have harrived : ∀ response received, (response, received) ∈ s.pending → received ≤ _ :=
      fun response received he => (h.arrived response received he).trans hle
    exact ⟨harrived, h.held, h.covered, h.spaced⟩
  | claim hopen hlater hnext =>
    obtain ⟨rfl, -⟩ := addDuration_eq_some.mp hnext
    have hspaced : (GateEvent.claimed _ s.clock).Spaced policy parseFromRfc2822 s.log :=
      fun response received delay he hclass hdelay =>
        ((h.covered response received he delay hdelay).1.trans_eq (by rw [hclass])).trans hopen
    exact (h.raise (hopen.trans (hlater.trans (Nat.le_add_right _ _)))).record hspaced nofun
  | arrive response => exact h.arrive response
  | @extend response received delay read _ _ _ hpending hclass hdelay hreceived hread hnext =>
    obtain ⟨rfl, -⟩ := addDuration_eq_some.mp hnext
    refine ((h.drop hpending).raise (le_max_left _ (read + delay))).record trivial ?_
    rintro _ _ ⟨⟩ delay' hdelay'
    obtain rfl := Option.some.inj (hdelay.symm.trans hdelay')
    refine ⟨?_, fun hfinance => absurd hfinance hclass⟩
    simp only [Function.update_self]
    exact le_max_of_le_right (Nat.add_le_add_right hreceived delay)
  | @extendServer response received delay _ _ _ hpending hclass hdelay hfree hnext =>
    obtain ⟨rfl, -⟩ := addDuration_eq_some.mp hnext
    have harrived : received ≤ s.clock := h.arrived response received (by simp [hpending])
    have hraised := (h.drop hpending).raiseServer (le_max_left _ (s.clock + delay))
    refine ⟨hraised.arrived, ?_, hraised.covered, hraised.spaced⟩
    rintro _ _ _ _ ⟨⟩
    exact ⟨hclass, hdelay, harrived, le_max_right _ _⟩
  | @extendFinance response received begun delay read _ hheld hbegun hread hnext =>
    obtain ⟨rfl, -⟩ := addDuration_eq_some.mp hnext
    obtain ⟨hclass, hdelay, hreceived, hserver⟩ := h.held response received begun delay hheld
    refine (h.unlock.raise (le_max_left _ (read + delay))).record trivial ?_
    rintro _ _ ⟨⟩ delay' hdelay'
    obtain rfl := Option.some.inj (hdelay.symm.trans hdelay')
    refine ⟨?_, fun _ => (Nat.add_le_add_right hreceived delay).trans hserver⟩
    simp only [hclass, Function.update_self]
    exact le_max_of_le_right (Nat.add_le_add_right (hreceived.trans hbegun) delay)
  | abandon hheld => exact h.unlock.record trivial nofun
  | confirm hhints hfree hverified => exact ⟨h.arrived, nofun, h.covered, h.spaced⟩
  | promote hheld hnext =>
    -- The promotion may bring the gate forward, but not before the server cooldown.
    refine h.unlock.move fun response received he hclass delay hdelay => le_max_of_le_right ?_
    exact (h.covered response received he delay hdelay).2 hclass
  | release hheld => exact h.unlock

/-- **In every interleaving the claims keep clear of the cooldowns before them.** -/
theorem paced_of_reachable (h : Reachable (gateSystem policy parseFromRfc2822) s) :
    s.Paced policy parseFromRfc2822 := by
  refine h.invariant (fun s hinit => ?_) fun _ _ => GateStep.paced
  obtain ⟨-, -, -, -, hfinance, hpending, hlog⟩ := hinit
  refine ⟨?_, ?_, ?_, ?_⟩
  · rw [hpending]
    nofun
  · rw [hfinance]
    nofun
  · rw [hlog]
    nofun
  · rw [hlog]
    exact orderly_nil

/-- No instant of the state is beyond the last one. -/
structure TokenLimiter.Bounded (s : TokenLimiter) : Prop where
  clock : s.clock ≤ maxInstant
  gates : ∀ requestClass, s.nextAllowed requestClass ≤ maxInstant
  server : s.serverCooldownUntil ≤ maxInstant

theorem update_le {gates : RequestClass → ℕ} (h : ∀ requestClass, gates requestClass ≤ maxInstant)
    (requestClass : RequestClass) {next : ℕ} (hnext : next ≤ maxInstant) (other : RequestClass) :
    Function.update gates requestClass next other ≤ maxInstant :=
  (Function.forall_update_iff gates fun _ instant => instant ≤ maxInstant).mpr
    ⟨hnext, fun other _ => h other⟩ other

theorem GateStep.bounded (h : s.Bounded) (hstep : GateStep policy parseFromRfc2822 s t) : t.Bounded := by
  obtain ⟨hclock, hgates, hserver⟩ := h
  cases hstep with
  | tick hle hmax => exact ⟨hmax, hgates, hserver⟩
  | claim hopen hlater hnext => exact ⟨hclock, update_le hgates _ (addDuration_eq_some.mp hnext).2, hserver⟩
  | arrive response =>
    unfold TokenLimiter.arrive
    split <;> exact ⟨hclock, hgates, hserver⟩
  | extend hpending hclass hdelay hreceived hread hnext =>
    exact ⟨hclock, update_le hgates _ (max_le (hgates _) (addDuration_eq_some.mp hnext).2), hserver⟩
  | extendServer hpending hclass hdelay hfree hnext =>
    exact ⟨hclock, hgates, max_le hserver (addDuration_eq_some.mp hnext).2⟩
  | extendFinance hheld hbegun hread hnext =>
    exact ⟨hclock, update_le hgates _ (max_le (hgates _) (addDuration_eq_some.mp hnext).2), hserver⟩
  | promote hheld hnext =>
    exact ⟨hclock, update_le hgates _ (max_le (addDuration_eq_some.mp hnext).2 hserver), hserver⟩
  | abandon | confirm | release => exact ⟨hclock, hgates, hserver⟩

theorem bounded_of_reachable (h : Reachable (gateSystem policy parseFromRfc2822) s) : s.Bounded :=
  h.invariant (fun _ hinit => ⟨hinit.2.2.1, fun requestClass => (hinit.1 requestClass).trans hinit.2.2.1,
    hinit.2.1.trans hinit.2.2.1⟩) fun _ _ => GateStep.bounded

/-- The end of the cooldown whose extension of the finance gate is under way. -/
def TokenLimiter.underway (s : TokenLimiter) : ℕ :=
  match s.finance with
  | some (.extending _ _ begun delay) => begun + delay
  | _ => 0

/-- Unless an extension was given up, the finance gate reaches to the server cooldown, or will. -/
def TokenLimiter.Applied (s : TokenLimiter) : Prop :=
  (∀ response received, .abandoned response received ∉ s.log) →
    s.serverCooldownUntil ≤ max (max s.clock (s.nextAllowed .financeReport)) s.underway

theorem GateStep.applied (h : s.Applied) (hstep : GateStep policy parseFromRfc2822 s t) : t.Applied := by
  cases hstep with
  | tick hle => exact fun hlog => (h hlog).trans (max_le_max_right _ (max_le_max_right _ hle))
  | @claim requestClass later interval next hopen hlater hnext =>
    intro hlog
    refine (h fun response received he => hlog response received (List.mem_append_left _ he)).trans ?_
    refine max_le_max_right _ (max_le (le_max_left _ _) ?_)
    by_cases hclass : requestClass = .financeReport
    · rw [← hclass]
      exact le_max_of_le_left hopen
    · simp only [Function.update_of_ne (Ne.symm hclass)]
      exact le_max_right _ _
  | arrive response =>
    unfold TokenLimiter.arrive
    split
    · exact fun hlog => h fun response received he => hlog response received (List.mem_append_left _ he)
    · exact h
  | extend hpending hclass hdelay hreceived hread hnext =>
    intro hlog
    refine (h fun response received he => hlog response received (List.mem_append_left _ he)).trans ?_
    simp only [Function.update_of_ne (Ne.symm hclass)]
    exact le_rfl
  | extendServer hpending hclass hdelay hfree hnext =>
    intro hlog
    obtain ⟨rfl, -⟩ := addDuration_eq_some.mp hnext
    have hold := h hlog
    simp only [TokenLimiter.underway, hfree, Nat.max_zero] at hold
    exact max_le (le_max_of_le_left hold) (le_max_right _ _)
  | extendFinance hheld hbegun hread hnext =>
    intro hlog
    obtain ⟨rfl, -⟩ := addDuration_eq_some.mp hnext
    have hold := h fun response received he => hlog response received (List.mem_append_left _ he)
    simp only [TokenLimiter.underway, hheld] at hold
    simp only [TokenLimiter.underway, Function.update_self]
    omega
  | abandon hheld => exact fun hlog => absurd (List.mem_append_right _ (List.mem_singleton_self _)) (hlog _ _)
  | confirm hhints hfree hverified =>
    intro hlog
    have hold := h hlog
    simp only [TokenLimiter.underway, hfree] at hold
    exact hold
  | promote hheld hnext =>
    intro _
    simp only [Function.update_self]
    exact le_max_of_le_left (le_max_of_le_right (le_max_right _ _))
  | release hheld =>
    intro hlog
    have hold := h hlog
    simp only [TokenLimiter.underway, hheld] at hold
    exact hold

theorem applied_of_reachable (h : Reachable (gateSystem policy parseFromRfc2822) s) : s.Applied := by
  refine h.invariant (fun s hinit => ?_) fun _ _ => GateStep.applied
  exact fun _ => le_max_of_le_left (le_max_of_le_left hinit.2.1)

/-- The gate of the class is not brought forward from `s` to `t`, and no claim comes before it. -/
def TokenLimiter.Guards (requestClass : RequestClass) (s t : TokenLimiter) : Prop :=
  ∃ rest, t.log = s.log ++ rest ∧ s.nextAllowed requestClass ≤ t.nextAllowed requestClass ∧
    ∀ instant, .claimed requestClass instant ∈ rest → s.nextAllowed requestClass ≤ instant

theorem TokenLimiter.Guards.refl (requestClass : RequestClass) (s : TokenLimiter) : s.Guards requestClass s :=
  ⟨[], (List.append_nil _).symm, le_rfl, nofun⟩

theorem TokenLimiter.Guards.trans {requestClass : RequestClass} {s t u : TokenLimiter}
    (hst : s.Guards requestClass t) (htu : t.Guards requestClass u) : s.Guards requestClass u := by
  obtain ⟨rest, hlog, hgate, hclaims⟩ := hst
  obtain ⟨rest', hlog', hgate', hclaims'⟩ := htu
  refine ⟨rest ++ rest', by rw [hlog', hlog, List.append_assoc], hgate.trans hgate', fun instant he => ?_⟩
  rcases List.mem_append.mp he with he | he
  · exact hclaims instant he
  · exact hgate.trans (hclaims' instant he)

theorem GateStep.guards {requestClass : RequestClass} (hclass : requestClass ≠ .financeReport)
    (hstep : GateStep policy parseFromRfc2822 s t) : s.Guards requestClass t := by
  cases hstep with
  | @claim claimed later interval next hopen hlater hnext =>
    obtain ⟨rfl, -⟩ := addDuration_eq_some.mp hnext
    by_cases hsame : requestClass = claimed
    · refine ⟨_, rfl, ?_, fun instant he => ?_⟩
      · simp only [hsame, Function.update_self]
        exact hopen.trans (hlater.trans (Nat.le_add_right _ _))
      · cases List.mem_singleton.mp he
        exact hopen
    · refine ⟨_, rfl, (Function.update_of_ne hsame _ _).ge, fun instant he => ?_⟩
      cases List.mem_singleton.mp he
      exact absurd rfl hsame
  | arrive response =>
    unfold TokenLimiter.arrive
    split
    · exact ⟨_, rfl, le_rfl, fun instant he => nomatch List.mem_singleton.mp he⟩
    · exact .refl requestClass s
  | @extend response received delay read next _ _ hpending hother hdelay hreceived hread hnext =>
    refine ⟨_, rfl, ?_, fun instant he => nomatch List.mem_singleton.mp he⟩
    by_cases hsame : requestClass = response.requestClass
    · simp only [hsame, Function.update_self]
      exact le_max_left _ _
    · exact (Function.update_of_ne hsame _ _).ge
  | extendFinance hheld hbegun hread hnext =>
    exact ⟨_, rfl, (Function.update_of_ne hclass _ _).ge, fun instant he => nomatch List.mem_singleton.mp he⟩
  | abandon hheld => exact ⟨_, rfl, le_rfl, fun instant he => nomatch List.mem_singleton.mp he⟩
  | promote hheld hnext =>
    exact ⟨[], (List.append_nil _).symm, (Function.update_of_ne hclass _ _).ge, nofun⟩
  | tick | extendServer | confirm | release => exact .refl requestClass _

theorem guards_of_run {requestClass : RequestClass} (hclass : requestClass ≠ .financeReport)
    (h : Relation.ReflTransGen (gateSystem policy parseFromRfc2822).step s t) : s.Guards requestClass t :=
  Reachable.run_mono (fun _ _ _ _ => trivial) (.refl requestClass) (fun _ _ _ => .trans)
    (fun _ _ _ => GateStep.guards hclass) (show (fun _ => True) s from trivial) h

end Invariants

/-! ## The waits the marketplace asks for -/

section Honored

variable {policy : ClientPolicy} {parseFromRfc2822 : String → Option ℤ} {s : TokenLimiter}
  {response : Response} {received delay instant : ℕ}

/-- No claim of its class that follows the treatment of a response comes before the end of its cooldown. -/
theorem clear_of_cooldown (h : Reachable (gateSystem policy parseFromRfc2822) s)
    (hlog : Precedes s.log (.processed response received) (.claimed response.requestClass instant))
    (hdelay : response.gateDelay policy parseFromRfc2822 = some delay) : received + delay ≤ instant := by
  obtain ⟨before, hbefore, hspaced⟩ := (paced_of_reachable h).spaced.of_precedes hlog
  exact hspaced response received delay hbefore rfl hdelay

theorem clear_of_wait (h : Reachable (gateSystem policy parseFromRfc2822) s)
    (hlog : Precedes s.log (.processed response received) (.claimed response.requestClass instant))
    (hasks : response.AsksFor parseFromRfc2822 delay) (hhonors : response.Honors policy delay) :
    received + delay ≤ instant := by
  obtain ⟨longest, hlongest, hle⟩ := (Response.honored_iff hasks).mpr hhonors
  exact (Nat.add_le_add_left hle received).trans (clear_of_cooldown h hlog hlongest)

/-- The response, which arrives in the state `s`, holds the claims of its class back until the wait is over:
whatever the callers do, none comes before once its treatment is over. -/
def TokenLimiter.HoldsBack (policy : ClientPolicy) (parseFromRfc2822 : String → Option ℤ)
    (s : TokenLimiter) (response : Response) (delay : ℕ) : Prop :=
  ∀ t, Relation.ReflTransGen (gateSystem policy parseFromRfc2822).step
      (s.arrive policy parseFromRfc2822 response) t →
    ∀ between later, t.log = s.log ++ between ++ .processed response s.clock :: later →
      ∀ instant, .claimed response.requestClass instant ∈ later → s.clock + delay ≤ instant

theorem arrive_of_none (hdelay : response.gateDelay policy parseFromRfc2822 = none) :
    s.arrive policy parseFromRfc2822 response = { s with log := s.log ++ [.processed response s.clock] } := by
  rw [TokenLimiter.arrive, hdelay]

theorem not_holdsBack (h : Reachable (gateSystem policy parseFromRfc2822) s)
    (hasks : response.AsksFor parseFromRfc2822 delay) (hhonors : ¬ response.Honors policy delay)
    (hgate : s.nextAllowed response.requestClass < s.clock + delay) :
    ¬ s.HoldsBack policy parseFromRfc2822 response delay := by
  intro hholds
  obtain ⟨hclock, hgates, -⟩ := bounded_of_reachable h
  have hpos : 0 < delay := (Nat.zero_le _).trans_lt (not_le.mp (not_or.mp hhonors).2)
  have harrive := arrive_of_none (s := s) (hasks.gateDelay_eq_none hhonors)
  generalize hopening : max s.clock (s.nextAllowed response.requestClass) = opening
  have hmax : opening ≤ maxInstant := hopening ▸ max_le hclock (hgates response.requestClass)
  have hnext : addDuration opening 0 = some opening := addDuration_eq_some.mpr ⟨rfl, hmax⟩
  have hopen : s.nextAllowed response.requestClass ≤ opening := hopening ▸ le_max_right _ _
  simp only [TokenLimiter.HoldsBack, harrive] at hholds
  have hclear := hholds _ ((Relation.ReflTransGen.single (GateStep.tick (hopening ▸ le_max_left _ _) hmax)).tail
    (GateStep.claim hopen le_rfl hnext)) [] [.claimed response.requestClass opening] (by simp) opening
    (List.mem_singleton_self _)
  omega

/-- A gate that is closed for as long as the wait needs no extension. -/
theorem holdsBack_of_closed (hasks : response.AsksFor parseFromRfc2822 delay)
    (hhonors : ¬ response.Honors policy delay)
    (hgate : s.clock + delay ≤ s.nextAllowed response.requestClass) :
    s.HoldsBack policy parseFromRfc2822 response delay := by
  intro t hrun between later hlog instant he
  have hclass : response.requestClass ≠ .financeReport := fun hclass => hhonors (.inl (by rw [hclass]; rfl))
  rw [arrive_of_none (hasks.gateDelay_eq_none hhonors)] at hrun
  obtain ⟨rest, hrest, -, hclaims⟩ := guards_of_run hclass hrun
  -- What follows the treatment of the response was added by the run.
  have hadded : .processed response s.clock :: rest = between ++ .processed response s.clock :: later := by
    rw [hrest, List.append_assoc, List.append_assoc] at hlog
    exact List.append_cancel_left hlog
  have hmem : .claimed response.requestClass instant ∈ GateEvent.processed response s.clock :: rest := by
    rw [hadded]
    exact List.mem_append_right _ (List.mem_cons_of_mem _ he)
  rcases List.mem_cons.mp hmem with he | he
  · cases he
  · exact hgate.trans (hclaims instant he)

theorem holdsBack_iff (h : Reachable (gateSystem policy parseFromRfc2822) s)
    (hasks : response.AsksFor parseFromRfc2822 delay) :
    s.HoldsBack policy parseFromRfc2822 response delay ↔
      response.Honors policy delay ∨ s.clock + delay ≤ s.nextAllowed response.requestClass := by
  constructor
  · intro hholds
    by_contra hnot
    obtain ⟨hhonors, hgate⟩ := not_or.mp hnot
    exact not_holdsBack h hasks hhonors (not_le.mp hgate) hholds
  · intro hcondition
    by_cases hhonors : response.Honors policy delay
    · intro t hrun between later hlog instant he
      have ht : Reachable (gateSystem policy parseFromRfc2822) t :=
        (h.step (GateStep.arrive response)).of_run hrun
      exact clear_of_wait ht ⟨s.log ++ between, later, hlog, he⟩ hasks hhonors
    · exact holdsBack_of_closed hasks hhonors (hcondition.resolve_left hhonors)

theorem addDuration_of_gateDelay (hdelay : response.gateDelay policy parseFromRfc2822 = some delay)
    (hmax : instant + max (fromHours 24) (max policy.maxRetryDelay (policy.sellerInventoryInterval * 10)) ≤
      maxInstant) :
    addDuration instant delay = some (instant + delay) := by
  have hle : delay ≤ max (fromHours 24) (max policy.maxRetryDelay (policy.sellerInventoryInterval * 10)) := by
    rcases Response.gateDelay_le hdelay with h | h | h
    · exact le_max_of_le_left h
    · exact le_max_of_le_right (le_max_of_le_left h)
    · exact le_max_of_le_right (le_max_of_le_right h.2.2.le)
  exact addDuration_eq_some.mpr ⟨rfl, (Nat.add_le_add_left hle instant).trans hmax⟩

/-- The finance gate is not open before the server cooldown. -/
theorem server_cooldown_over (h : Reachable (gateSystem policy parseFromRfc2822) s)
    (hlog : ∀ response received, .abandoned response received ∉ s.log)
    (hfinished : ∀ response received begun delay, s.finance ≠ some (.extending response received begun delay))
    (hopen : s.nextAllowed .financeReport ≤ s.clock) : s.serverCooldownUntil ≤ s.clock := by
  have happlied := applied_of_reachable h hlog
  have hnone : s.underway = 0 := by
    unfold TokenLimiter.underway
    split
    · rename_i hheld
      exact absurd hheld (hfinished _ _ _ _)
    · rfl
  rwa [hnone, Nat.max_zero, max_eq_left hopen] at happlied

end Honored

/-- **A wait the marketplace asks for, of a day at most, holds the other callers back exactly if the gate honors
it or is closed for as long anyway; every cooldown the gate does honor holds in every interleaving.** -/
theorem cooldowns_honored (policy : ClientPolicy) (parseFromRfc2822 : String → Option ℤ) :
    (∀ s, Reachable (gateSystem policy parseFromRfc2822) s →
      (∀ response delay, response.AsksFor parseFromRfc2822 delay →
        (s.HoldsBack policy parseFromRfc2822 response delay ↔
          response.Honors policy delay ∨ s.clock + delay ≤ s.nextAllowed response.requestClass)) ∧
      (∀ response received delay instant,
        Precedes s.log (.processed response received) (.claimed response.requestClass instant) →
          (response.AsksFor parseFromRfc2822 delay → response.Honors policy delay →
            received + delay ≤ instant) ∧
          (response.gateDelay policy parseFromRfc2822 = some delay → received + delay ≤ instant)) ∧
      ((∀ response received, .abandoned response received ∉ s.log) →
        (∀ response received begun delay, s.finance ≠ some (.extending response received begun delay)) →
        s.nextAllowed .financeReport ≤ s.clock → s.serverCooldownUntil ≤ s.clock)) ∧
    (∀ (response : Response) (delay : ℕ), response.gateDelay policy parseFromRfc2822 = some delay →
      (delay ≤ fromHours 24 ∨ delay ≤ policy.maxRetryDelay ∨ response.Penalized policy delay) ∧
      ∀ instant, instant + max (fromHours 24) (max policy.maxRetryDelay (policy.sellerInventoryInterval * 10))
        ≤ maxInstant → addDuration instant delay = some (instant + delay)) ∧
    (∀ (response : Response) (delay : ℕ), response.gateDelay .production parseFromRfc2822 = some delay →
      delay ≤ fromHours 24) ∧
    (∀ instant, instant + personalInterval ≤ maxInstant →
      addDuration instant (min policy.financeInterval personalInterval) =
        some (instant + min policy.financeInterval personalInterval)) := by
  refine ⟨fun s h => ⟨fun response delay => holdsBack_iff h, fun response received delay instant hlog =>
    ⟨clear_of_wait h hlog, clear_of_cooldown h hlog⟩, server_cooldown_over h⟩, fun response delay hdelay =>
    ⟨Response.gateDelay_le hdelay, fun instant => addDuration_of_gateDelay hdelay⟩,
    fun _ _ => Response.gateDelay_le_production, fun instant hmax => ?_⟩
  exact addDuration_eq_some.mpr ⟨rfl, (Nat.add_le_add_left (min_le_right _ _) instant).trans hmax⟩

/-! ## A limited report -/

/-- A limiter that has seen nothing. -/
def openLimiter : TokenLimiter where
  clock := 0
  nextAllowed _ := 0
  personalReadVerified := false
  serverCooldownUntil := 0
  finance := none
  pending := []
  log := []

theorem openLimiter_reachable {policy : ClientPolicy} {parseFromRfc2822 : String → Option ℤ} :
    Reachable (gateSystem policy parseFromRfc2822) openLimiter :=
  .init ⟨fun _ => le_rfl, le_rfl, Nat.zero_le _, rfl, rfl, rfl, rfl⟩

/-- A 429 response that asks to wait two minutes. -/
def limited (requestClass : RequestClass) : Response where
  requestClass := requestClass
  attempt := 1
  status := tooManyRequests
  headers name := if name = "retry-after" then some [49, 50, 48] else none
  utcNow := 0

theorem limited_asksFor (requestClass : RequestClass) :
    (limited requestClass).AsksFor (fun _ => none) (fromSecs 120) := by
  have hvalid : (limited .statisticsReport).retryAfter (fun _ => none) = .valid (fromSecs 120) := by decide +kernel
  exact ⟨rfl, hvalid, by decide⟩

/-- The two minutes hold finance reports back, although a retry waits half a minute at most. -/
theorem cooldowns_honored_finance :
    openLimiter.HoldsBack .production (fun _ => none) (limited .financeReport) (fromSecs 120) :=
  (((cooldowns_honored .production fun _ => none).1 openLimiter openLimiter_reachable).1 _ _
    (limited_asksFor .financeReport)).mpr (.inl (.inl rfl))

/-- **They do not hold statistics reports back**: these leave again when their gate opens after a minute. -/
theorem statistics_wait_dropped : ¬ ∀ s, Reachable (gateSystem .production fun _ => none) s →
    ∀ response delay, response.AsksFor (fun _ => none) delay →
      s.HoldsBack .production (fun _ => none) response delay := by
  intro hall
  have hopen : openLimiter.nextAllowed .statisticsReport ≤ openLimiter.clock := le_rfl
  have hnext : addDuration 0 (fromSecs 60) = some (fromSecs 60) := by decide
  have hmax : fromSecs 1 ≤ maxInstant := by decide
  have hstart : Reachable (gateSystem .production fun _ => none) openLimiter := openLimiter_reachable
  have hclaimed := hstart.step (.claim hopen le_rfl hnext)
  have hticked := hclaimed.step (.tick (Nat.zero_le _) hmax)
  refine not_holdsBack hticked (limited_asksFor .statisticsReport) ?_ ?_ (hall _ hticked _ _ (limited_asksFor _))
  · exact not_or.mpr ⟨by decide, by decide⟩
  · decide

end AdsControl.Wb.Pacing
