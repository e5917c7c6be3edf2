import AdsControl.Lib.Attempt
import AdsControl.Lib.Fallible
import AdsControl.Lib.History
import AdsControl.Lib.Serde

/-!
# Checkpointed collection

A collector asks for pages. With a journal each page is looked up under the digest of its request
identity, and only a missing page is fetched, normalized and stored. An attempt to collect may stop at
any command: a crash, a deferral, a failed transport or a failed journal.

* `checkpointed`: one page, with a journal or without;
* `journalAnswers`: what the journal and the source may answer;
* `JournalInv`: what the journal holds;
* **`resumed`**: an attempt that completes returns what one run without a journal returns.
-/

namespace AdsControl.Reporting

open Fallible Interaction Serde History

/-! ## Pages -/

/-- Why the journal does not answer. -/
inductive CheckpointError
  | deferred
  | unavailable
  | invalid
  deriving DecidableEq

/-- The quota of a departure. -/
inductive PageQuota
  | default
  | wbStockContent
  | wbSellerInventory
  deriving DecidableEq

/-- The pages a collector may request: the identity of each request, an older identity whose page is
compatible, the quota it counts against, how a response `V` is normalized and how a page is stored. -/
structure Pages (R V E : Type) (Page : R → Type) where
  identity : R → Json
  legacy : R → Option Json
  quota : R → PageQuota
  normalize : (r : R) → Except E V → Except E (Page r)
  codec : (r : R) → Codec (Page r)
  failed : CheckpointError → E

/-- The digest of a request identity as text. -/
abbrev Digest : Type := Json → String

/-- The key of a request under the version of the journal. -/
def checkpointKey (digest : Digest) (requestIdentity : Json) : String :=
  digest (.arr [.num 1, requestIdentity])

/-- The effects of a collection with a journal. -/
inductive JournalCall (R : Type)
  | load (key : String)
  | admission (quota : PageQuota)
  | fetch (r : R)
  | save (key : String) (page : Json)

/-- What each effect answers. -/
def JournalCall.Answer (V E : Type) {R : Type} : JournalCall R → Type
  | load _ => Except CheckpointError (Option Json)
  | admission _ => Except CheckpointError Unit
  | fetch _ => Except E V
  | save _ _ => Except CheckpointError Unit

/-- A collection over its effects. -/
abbrev JournalProg (R V E α : Type) : Type := Prog (JournalCall R) (JournalCall.Answer V E) E α

/-- Perform one command. -/
def consult {R V E : Type} (c : JournalCall R) : JournalProg R V E (c.Answer V E) := .perform c

section Programs

variable {R V E : Type} {Page : R → Type} (pages : Pages R V E Page) (digest : Digest)

/-- Fetch a page and normalize it. -/
def fetchNormalized (r : R) : JournalProg R V E (Page r) := do
  let response ← consult (.fetch r)
  .ofExcept (pages.normalize r response)

/-- A stored page, if there is one. -/
def loadCheckpoint (r : R) (requestIdentity : Json) : JournalProg R V E (Option (Page r)) := do
  let stored ← consult (.load (checkpointKey digest requestIdentity))
  match ← .ofExcept (Except.mapError pages.failed stored) with
  | none => return none
  | some page => return some (← .ofExcept (context ((pages.codec r).decode page) (pages.failed .invalid)))

/-- Reserve a departure, fetch a page and store it. -/
def fetchAndSave (r : R) : JournalProg R V E (Page r) := do
  let admitted ← consult (.admission (pages.quota r))
  .ofExcept (Except.mapError pages.failed admitted)
  let normalized ← fetchNormalized pages r
  let saved ← consult (.save (checkpointKey digest (pages.identity r))
    ((pages.codec r).encode normalized))
  .ofExcept (Except.mapError pages.failed saved)
  return normalized

/-- A page under its own identity. -/
def currentPage (r : R) : JournalProg R V E (Page r) := do
  match ← loadCheckpoint pages digest r (pages.identity r) with
  | some page => return page
  | none => fetchAndSave pages digest r

/-- **One page**: from the journal, or fetched and stored; without a journal it is fetched. -/
def checkpointed (journal : Bool) (r : R) : JournalProg R V E (Page r) :=
  if journal then
    match pages.legacy r with
    | none => currentPage pages digest r
    | some legacy => do
      match ← loadCheckpoint pages digest r legacy with
      | some page => return page
      | none => currentPage pages digest r
  else fetchNormalized pages r

/-- A collector with a journal or without. -/
def collectWith {α : Type} (journal : Bool) (collector : Prog R Page E α) : JournalProg R V E α :=
  collector.handle (checkpointed pages digest journal)

end Programs

/-! ## Batches -/

/-- A list in batches of the given size. -/
def chunks {α : Type} (size : ℕ) (l : List α) : List (List α) := go l.length l
where
  go : ℕ → List α → List (List α)
    | _, [] => []
    | 0, _ => []
    | fuel + 1, l => l.take size :: go fuel (l.drop size)

theorem mem_chunks {α : Type} {size : ℕ} {l : List α} (hsize : 0 < size) {a : α} (h : a ∈ l) :
    ∃ chunk ∈ chunks size l, a ∈ chunk := by
  have hgo : ∀ (fuel : ℕ) (l : List α), l.length ≤ fuel → a ∈ l →
      ∃ chunk ∈ chunks.go size fuel l, a ∈ chunk := by
    intro fuel
    induction fuel with
    | zero =>
      intro l hl ha
      rw [List.length_eq_zero_iff.mp (Nat.le_zero.mp hl)] at ha
      cases ha
    | succ fuel ih =>
      intro l hl ha
      match l, hl, ha with
      | b :: l, hl, ha =>
        rw [chunks.go]
        rw [← List.take_append_drop size (b :: l), List.mem_append] at ha
        rcases ha with htake | hdrop
        · exact ⟨_, List.mem_cons_self, htake⟩
        · have hlength : ((b :: l).drop size).length ≤ fuel := by
            rw [List.length_drop]
            omega
          obtain ⟨chunk, hchunk, hmem⟩ := ih _ hlength hdrop
          exact ⟨chunk, List.mem_cons_of_mem _ hchunk, hmem⟩
        · exact List.cons_ne_nil b l
  exact hgo l.length l le_rfl h

theorem sublist_of_mem_chunks {α : Type} {size : ℕ} {l chunk : List α} (h : chunk ∈ chunks size l) :
    chunk.Sublist l := by
  have hgo : ∀ (fuel : ℕ) (l : List α), chunk ∈ chunks.go size fuel l → chunk.Sublist l := by
    intro fuel
    induction fuel with
    | zero =>
      intro l hmem
      cases l <;> cases hmem
    | succ fuel ih =>
      intro l hmem
      match l, hmem with
      | b :: l, hmem =>
        rw [chunks.go] at hmem
        rcases List.mem_cons.mp hmem with rfl | hrest
        · exact List.take_sublist _ _
        · exact (ih _ hrest).trans (List.drop_sublist _ _)
        · exact List.cons_ne_nil b l
  exact hgo l.length l h

/-! ## The world -/

/-- What an attempt did to the source and the journal. -/
inductive JournalEvent (R : Type)
  | fetched (r : R)
  | saved (key : String)

/-- The stored pages, and whether a command of the current attempt failed. -/
structure JournalWorld (R : Type) where
  stored : String → Option Json
  log : List (JournalEvent R)
  interrupted : Bool

namespace JournalWorld

variable {R : Type}

/-- Nothing stored and nothing done. -/
def empty : JournalWorld R := ⟨fun _ => none, [], false⟩

/-- A new attempt begins. -/
def begin (s : JournalWorld R) : JournalWorld R := { s with interrupted := false }

/-- The attempt stops. -/
def interrupt (s : JournalWorld R) : JournalWorld R := { s with interrupted := true }

/-- Add an event. -/
def record (s : JournalWorld R) (event : JournalEvent R) : JournalWorld R :=
  { s with log := s.log ++ [event] }

/-- Store a page. -/
def put (s : JournalWorld R) (key : String) (page : Json) : JournalWorld R :=
  { s with stored := Function.update s.stored key (some page) }

theorem put_stored (s : JournalWorld R) (key key' : String) (page : Json) :
    (s.put key page).stored key' = if key' = key then some page else s.stored key' :=
  Function.update_apply ..

end JournalWorld

section Worlds

variable {R V E : Type} {Page : R → Type} (pages : Pages R V E Page) (source : Json → Except E V)

/-- The page of a request. -/
def pageOf (r : R) : Except E (Page r) := pages.normalize r (source (pages.identity r))

/-- What the journal and a source with fixed answers may answer. A failed command interrupts the
attempt; a page that was stored without an acknowledgement stays. -/
def journalAnswers (s : JournalWorld R) :
    (c : JournalCall R) → c.Answer V E → JournalWorld R → Prop
  | .load key, answer, t =>
      answer = .ok (s.stored key) ∧ t = s ∨ (∃ error, answer = .error error) ∧ t = s.interrupt
  | .admission _, answer, t =>
      answer = .ok () ∧ t = s ∨ (∃ error, answer = .error error) ∧ t = s.interrupt
  | .fetch r, answer, t =>
      answer = source (pages.identity r) ∧ t = s.record (.fetched r) ∨
      (∃ error error', answer = .error error ∧ pages.normalize r (.error error) = .error error') ∧
        t = (s.record (.fetched r)).interrupt
  | .save key page, answer, t =>
      answer = .ok () ∧ t = (s.put key page).record (.saved key) ∨
      (∃ error, answer = .error error) ∧ (t = s.interrupt ∨ t = (s.put key page).interrupt)

end Worlds

/-! ## What the journal holds -/

section Journal

variable {R V E : Type} {Page : R → Type} {pages : Pages R V E Page} {digest : Digest}
  {source : Json → Except E V} {requests : List R}

/-- The identities under which a page is looked up. -/
def Pages.lookups (pages : Pages R V E Page) (r : R) : List Json :=
  (pages.legacy r).toList ++ [pages.identity r]

/-- Among these requests the identity determines the request, and no older identity is in use. -/
structure Determined (pages : Pages R V E Page) (requests : List R) : Prop where
  same : ∀ r ∈ requests, ∀ r' ∈ requests, pages.identity r = pages.identity r' → r = r'
  legacy : ∀ r ∈ requests, ∀ r' ∈ requests, pages.legacy r ≠ some (pages.identity r')

/-- The digest keeps the identities of these requests apart. -/
def CollisionFree (pages : Pages R V E Page) (digest : Digest) (requests : List R) : Prop :=
  ∀ r ∈ requests, ∀ i ∈ pages.lookups r, ∀ r' ∈ requests,
    checkpointKey digest i = checkpointKey digest (pages.identity r') → i = pages.identity r'

/-- A page is fetched only before its save was acknowledged. -/
def JournalJustified (pages : Pages R V E Page) (digest : Digest) (log : List (JournalEvent R)) :
    JournalEvent R → Prop
  | .fetched r => .saved (checkpointKey digest (pages.identity r)) ∉ log
  | .saved _ => True

/-- Stored pages are pages of the source, and acknowledged pages are stored. -/
structure JournalInv (pages : Pages R V E Page) (digest : Digest) (source : Json → Except E V)
    (requests : List R) (s : JournalWorld R) : Prop where
  stored : ∀ key value, s.stored key = some value → ∃ r ∈ requests,
    checkpointKey digest (pages.identity r) = key ∧
      ∃ page, pageOf pages source r = .ok page ∧ value = (pages.codec r).encode page
  saved : ∀ key, .saved key ∈ s.log → s.stored key ≠ none
  orderly : Orderly (JournalJustified pages digest) s.log

theorem journalInv_empty : JournalInv pages digest source requests JournalWorld.empty :=
  ⟨fun _ _ h => (nomatch h), fun _ h => (nomatch h), orderly_nil⟩

variable {s : JournalWorld R} {r : R}

theorem JournalInv.begin (h : JournalInv pages digest source requests s) :
    JournalInv pages digest source requests s.begin := ⟨h.stored, h.saved, h.orderly⟩

theorem JournalInv.interrupt (h : JournalInv pages digest source requests s) :
    JournalInv pages digest source requests s.interrupt := ⟨h.stored, h.saved, h.orderly⟩

theorem JournalInv.fetched (h : JournalInv pages digest source requests s)
    (hmissing : s.stored (checkpointKey digest (pages.identity r)) = none) :
    JournalInv pages digest source requests (s.record (.fetched r)) := by
  refine ⟨h.stored, fun key hkey => ?_, h.orderly.snoc fun hsaved => h.saved _ hsaved hmissing⟩
  simp only [JournalWorld.record, List.mem_append, List.mem_singleton, reduceCtorEq, or_false] at hkey
  exact h.saved key hkey

theorem JournalInv.put (h : JournalInv pages digest source requests s) {page : Page r}
    (hr : r ∈ requests) (hpage : pageOf pages source r = .ok page) :
    JournalInv pages digest source requests
      (s.put (checkpointKey digest (pages.identity r)) ((pages.codec r).encode page)) := by
  refine ⟨fun key value hvalue => ?_, fun key hkey => ?_, h.orderly⟩
  · rw [JournalWorld.put_stored] at hvalue
    split_ifs at hvalue with heq
    · cases hvalue
      exact ⟨r, hr, heq.symm, page, hpage, rfl⟩
    · exact h.stored key value hvalue
  · rw [JournalWorld.put_stored]
    split_ifs
    · simp
    · exact h.saved key hkey

theorem JournalInv.acknowledged {key : String} (h : JournalInv pages digest source requests s)
    (hkey : s.stored key ≠ none) :
    JournalInv pages digest source requests (s.record (.saved key)) := by
  refine ⟨h.stored, fun key' hmem => ?_, h.orderly.snoc trivial⟩
  simp only [JournalWorld.record, List.mem_append, List.mem_singleton, JournalEvent.saved.injEq] at hmem
  rcases hmem with hmem | rfl
  · exact h.saved key' hmem
  · exact hkey

/-- A stored page is the page of the request it is looked up for. -/
theorem JournalInv.page_of_stored (h : JournalInv pages digest source requests s)
    (hdetermined : Determined pages requests) (hfree : CollisionFree pages digest requests)
    (hr : r ∈ requests) {i : Json} (hi : i ∈ pages.lookups r) {value : Json}
    (hvalue : s.stored (checkpointKey digest i) = some value) :
    ∃ page, pageOf pages source r = .ok page ∧ (pages.codec r).decode value = some page := by
  obtain ⟨r', hr', hkey, page, hpage, rfl⟩ := h.stored _ _ hvalue
  have hidentity : i = pages.identity r' := hfree r hr i hi r' hr' hkey.symm
  simp only [Pages.lookups, List.mem_append, Option.mem_toList, List.mem_singleton] at hi
  rcases hi with hlegacy | hcurrent
  · rw [hidentity] at hlegacy
    exact absurd hlegacy (hdetermined.legacy r hr r' hr')
  · obtain rfl := hdetermined.same r hr r' hr' (hcurrent.symm.trans hidentity)
    exact ⟨page, hpage, by simp⟩

/-! ## One attempt -/

/-- The journal, used by one attempt at a time. -/
def journalShared (pages : Pages R V E Page) (digest : Digest) (source : Json → Except E V)
    (requests : List R) : Shared (JournalWorld R) Unit (JournalCall R) (JournalCall.Answer V E) :=
  .alone (journalAnswers pages source) (JournalInv pages digest source requests) (fun _ _ => True)
    (fun _ => trivial) fun _ _ _ _ _ => trivial

/-- An attempt without an interruption has the expected result, and a success was not interrupted. -/
structure Returns {α : Type} (expected : Except E α) (result : Except E α) (t : JournalWorld R) :
    Prop where
  success : ∀ a, result = .ok a → t.interrupted = false
  complete : t.interrupted = false → result = expected

theorem returns_interrupted {α : Type} {expected : Except E α} {e : E} {t : JournalWorld R}
    (h : t.interrupted = true) : Returns expected (.error e) t :=
  ⟨fun _ ha => (nomatch ha), fun hfalse => by simp [h] at hfalse⟩

theorem fetchNormalized_wp {Q : Except E (Page r) → JournalWorld R → Prop}
    (hinv : JournalInv pages digest source requests s →
      JournalInv pages digest source requests (s.record (.fetched r)))
    (hpage : Q (pageOf pages source r) (s.record (.fetched r)))
    (hfailed : ∀ e, Q (.error e) (s.record (.fetched r)).interrupt) :
    wp (journalShared pages digest source requests) () (fetchNormalized pages r) Q s := by
  refine wp_alone_bind fun hs response t ht => ?_
  rcases ht with ⟨rfl, rfl⟩ | ⟨⟨e, e', rfl, he⟩, rfl⟩
  · exact ⟨hinv hs, trivial, wp_alone_ofExcept hpage⟩
  · refine ⟨(hinv hs).interrupt, trivial, ?_⟩
    rw [he]
    exact wp_alone_ofExcept (hfailed e')

theorem loadCheckpoint_wp {Q : Except E (Option (Page r)) → JournalWorld R → Prop} {i : Json}
    (hdetermined : Determined pages requests) (hfree : CollisionFree pages digest requests)
    (hr : r ∈ requests) (hi : i ∈ pages.lookups r)
    (hfound : ∀ page, pageOf pages source r = .ok page → Q (.ok (some page)) s)
    (hmissing : s.stored (checkpointKey digest i) = none → Q (.ok none) s)
    (hfailed : ∀ e, Q (.error e) s.interrupt) :
    wp (journalShared pages digest source requests) () (loadCheckpoint pages digest r i) Q s := by
  refine wp_alone_bind fun hs answer t ht => ?_
  rcases ht with ⟨rfl, rfl⟩ | ⟨⟨e, rfl⟩, rfl⟩
  · refine ⟨hs, trivial, ?_⟩
    cases hvalue : t.stored (checkpointKey digest i) with
    | none => exact wp_alone_pure (hmissing hvalue)
    | some value =>
      obtain ⟨page, hpage, hdecode⟩ := hs.page_of_stored hdetermined hfree hr hi hvalue
      refine wp_bind (p := .ofExcept (context ((pages.codec r).decode value) (pages.failed .invalid))) ?_
      refine wp_alone_ofExcept ?_
      rw [hdecode]
      exact wp_alone_pure (hfound page hpage)
  · exact ⟨hs.interrupt, trivial, wp_alone_ofExcept (x := .error (pages.failed e)) (hfailed _)⟩

theorem fetchAndSave_wp (hr : r ∈ requests) (hfresh : s.interrupted = false)
    (hmissing : s.stored (checkpointKey digest (pages.identity r)) = none) :
    wp (journalShared pages digest source requests) () (fetchAndSave pages digest r)
      (Returns (pageOf pages source r)) s := by
  refine wp_alone_bind fun hs admitted t ht => ?_
  rcases ht with ⟨rfl, rfl⟩ | ⟨⟨e, rfl⟩, rfl⟩
  · refine ⟨hs, trivial, ?_⟩
    refine wp_bind (p := fetchNormalized pages r) ?_
    refine fetchNormalized_wp (fun hs => hs.fetched hmissing) ?_ fun e => returns_interrupted rfl
    cases hpage : pageOf pages source r with
    | error e => exact ⟨fun _ ha => (nomatch ha), fun _ => rfl⟩
    | ok page =>
      refine wp_alone_bind fun hs saved u hu => ?_
      rcases hu with ⟨rfl, rfl⟩ | ⟨⟨e, rfl⟩, hu⟩
      · refine ⟨(hs.put hr hpage).acknowledged (by simp [JournalWorld.put_stored]), trivial, ?_⟩
        exact wp_alone_pure ⟨fun _ _ => hfresh, fun _ => rfl⟩
      · refine ⟨?_, trivial, wp_alone_ofExcept (x := .error (pages.failed e)) (returns_interrupted ?_)⟩
        · rcases hu with rfl | rfl
          · exact hs.interrupt
          · exact (hs.put hr hpage).interrupt
        · rcases hu with rfl | rfl <;> rfl
  · exact ⟨hs.interrupt, trivial,
      wp_alone_ofExcept (x := .error (pages.failed e)) (returns_interrupted rfl)⟩

/-- **A page with a journal is the page of the source.** -/
theorem checkpointed_wp (hdetermined : Determined pages requests)
    (hfree : CollisionFree pages digest requests) (hr : r ∈ requests) (hfresh : s.interrupted = false) :
    wp (journalShared pages digest source requests) () (checkpointed pages digest true r)
      (Returns (pageOf pages source r)) s := by
  have hfound : ∀ page, pageOf pages source r = .ok page → Returns (pageOf pages source r) (.ok page) s :=
    fun page hpage => ⟨fun _ _ => hfresh, fun _ => hpage.symm⟩
  have hcurrent : wp (journalShared pages digest source requests) () (currentPage pages digest r)
      (Returns (pageOf pages source r)) s := by
    refine wp_bind (p := loadCheckpoint pages digest r (pages.identity r)) ?_
    refine loadCheckpoint_wp hdetermined hfree hr (by simp [Pages.lookups]) (fun page hpage => ?_)
      (fun hmissing => ?_) fun e => returns_interrupted rfl
    · exact wp_alone_pure (hfound page hpage)
    · exact fetchAndSave_wp hr hfresh hmissing
  rw [checkpointed, if_pos rfl]
  cases hlegacy : pages.legacy r with
  | none => exact hcurrent
  | some legacy =>
    refine wp_bind (p := loadCheckpoint pages digest r legacy) ?_
    refine loadCheckpoint_wp hdetermined hfree hr (by simp [Pages.lookups, hlegacy]) (fun page hpage => ?_)
      (fun _ => hcurrent) fun e => returns_interrupted rfl
    exact wp_alone_pure (hfound page hpage)

/-- **A collector with a journal returns what its pages give.** -/
theorem collectWith_wp (hdetermined : Determined pages requests)
    (hfree : CollisionFree pages digest requests) {α : Type} (collector : Prog R Page E α)
    (hrequests : ∀ r ∈ collector.visited (pageOf pages source), r ∈ requests)
    (hfresh : s.interrupted = false) :
    wp (journalShared pages digest source requests) () (collectWith pages digest true collector)
      (Returns (collector.eval (pageOf pages source))) s := by
  induction collector generalizing s with
  | ret a => exact wp_alone_pure ⟨fun _ _ => hfresh, fun _ => rfl⟩
  | fail e =>
    exact wp_alone_ofExcept (x := .error e) ⟨fun _ ha => (nomatch ha), fun _ => rfl⟩
  | call r k ih =>
    refine wp_bind (p := checkpointed pages digest true r) ?_
    refine wp_mono (checkpointed_wp hdetermined hfree (hrequests r (by simp [Prog.visited])) hfresh)
      fun result t hreturns => ?_
    cases result with
    | error e =>
      refine ⟨fun _ ha => (nomatch ha), fun hcomplete => ?_⟩
      simp only [Prog.eval, ← hreturns.complete hcomplete]
    | ok page =>
      have hcomplete := hreturns.success page rfl
      have hpage := hreturns.complete hcomplete
      have heval : (Prog.call r k).eval (pageOf pages source) = (k page).eval (pageOf pages source) := by
        simp only [Prog.eval, ← hpage]
      rw [heval]
      refine ih page (fun r' hr' => hrequests r' ?_) hcomplete
      simp only [Prog.visited, ← hpage]
      exact List.mem_cons_of_mem r hr'

theorem collectDirect_wp {α : Type} (collector : Prog R Page E α) (hfresh : s.interrupted = false)
    (hnone : ∀ key, s.stored key = none) :
    wp (journalShared pages digest source requests) () (collectWith pages digest false collector)
      (Returns (collector.eval (pageOf pages source))) s := by
  induction collector generalizing s with
  | ret a => exact wp_alone_pure ⟨fun _ _ => hfresh, fun _ => rfl⟩
  | fail e =>
    exact wp_alone_ofExcept (x := .error e) ⟨fun _ ha => (nomatch ha), fun _ => rfl⟩
  | call r k ih =>
    refine wp_bind (p := checkpointed pages digest false r) ?_
    refine fetchNormalized_wp (fun hs => hs.fetched (hnone _)) ?_ fun e => returns_interrupted rfl
    cases hpage : pageOf pages source r with
    | error e =>
      refine ⟨fun _ ha => (nomatch ha), fun _ => ?_⟩
      simp only [Prog.eval, hpage]
    | ok page =>
      have heval : (Prog.call r k).eval (pageOf pages source) = (k page).eval (pageOf pages source) := by
        simp only [Prog.eval, hpage]
      rw [heval]
      exact ih page hfresh hnone

end Journal

/-! ## Sequences of attempts -/

/-- A collector with its pages; in every run the identity of a request determines it. -/
structure Collection (V : Type) where
  Request : Type
  Error : Type
  Result : Type
  Page : Request → Type
  pages : Pages Request V Error Page
  collector : Prog Request Page Error Result
  determined : ∀ source, Determined pages (collector.visited (pageOf pages source))

namespace Collection

variable {V : Type} (c : Collection V) (digest : Digest) (source : Json → Except c.Error V)

/-- The requests of one complete run. -/
def requests : List c.Request := c.collector.visited (pageOf c.pages source)

/-- An attempt with the journal. -/
def Attempts (s : JournalWorld c.Request) (outcome : Option (Except c.Error c.Result))
    (t : JournalWorld c.Request) : Prop :=
  Attempt (journalAnswers c.pages source) (collectWith c.pages digest true c.collector) s.begin outcome t

/-- What a sequence of attempts may leave behind. -/
def Attempted : JournalWorld c.Request → Prop :=
  Relation.ReflTransGen (fun s t => ∃ outcome, c.Attempts digest source s outcome t) .empty

/-- The result of a run without a journal that nothing interrupts. -/
def Uninterrupted (result : Except c.Error c.Result) : Prop :=
  ∃ t, Attempt (journalAnswers c.pages source) (collectWith c.pages digest false c.collector) .empty
    (some result) t ∧ t.interrupted = false

variable {c digest source} {s t : JournalWorld c.Request}

theorem attempts_returns (hfree : CollisionFree c.pages digest (c.requests source))
    {outcome : Option (Except c.Error c.Result)}
    (hs : JournalInv c.pages digest source (c.requests source) s)
    (h : c.Attempts digest source s outcome t) :
    JournalInv c.pages digest source (c.requests source) t ∧ ∀ result, outcome = some result →
      Returns (c.collector.eval (pageOf c.pages source)) result t :=
  h.of_wp hs.begin (collectWith_wp (c.determined source) hfree c.collector (fun _ hr => hr) rfl)

theorem attempted_inv (hfree : CollisionFree c.pages digest (c.requests source))
    (h : c.Attempted digest source s) :
    JournalInv c.pages digest source (c.requests source) s := by
  induction h with
  | refl => exact journalInv_empty
  | tail _ hattempt ih =>
    obtain ⟨outcome, hattempt⟩ := hattempt
    exact (attempts_returns hfree ih hattempt).1

theorem exists_answer (c : Collection V) (source : Json → Except c.Error V) (s : JournalWorld c.Request)
    (call : JournalCall c.Request) (hs : s.interrupted = false) :
    ∃ answer t, journalAnswers c.pages source s call answer t ∧ t.interrupted = false := by
  cases call with
  | load key => exact ⟨_, s, .inl ⟨rfl, rfl⟩, hs⟩
  | admission quota => exact ⟨_, s, .inl ⟨rfl, rfl⟩, hs⟩
  | fetch r => exact ⟨_, s.record (.fetched r), .inl ⟨rfl, rfl⟩, hs⟩
  | save key page => exact ⟨_, (s.put key page).record (.saved key), .inl ⟨rfl, rfl⟩, hs⟩

/-- The run without a journal has one result. -/
theorem uninterrupted_iff {result : Except c.Error c.Result} :
    c.Uninterrupted digest source result ↔ result = c.collector.eval (pageOf c.pages source) := by
  have hreturns : ∀ result, c.Uninterrupted digest source result →
      result = c.collector.eval (pageOf c.pages source) := by
    rintro result ⟨t, hattempt, hcomplete⟩
    have hempty : JournalInv c.pages digest source [] JournalWorld.empty := journalInv_empty
    have hdirect := hattempt.of_wp hempty (collectDirect_wp c.collector rfl fun _ => rfl)
    exact (hdirect.2 result rfl).complete hcomplete
  refine ⟨hreturns result, ?_⟩
  rintro rfl
  obtain ⟨result, t, hattempt, hcomplete⟩ := exists_attempt (journalAnswers c.pages source)
    (exists_answer c source) (collectWith c.pages digest false c.collector) (s := .empty) rfl
  rw [← hreturns result ⟨t, hattempt, hcomplete⟩]
  exact ⟨t, hattempt, hcomplete⟩

/-- What the attempts that led to `s` guarantee. -/
structure Resumable (c : Collection V) (digest : Digest) (source : Json → Except c.Error V)
    (s : JournalWorld c.Request) : Prop where
  /-- The next attempt that nothing interrupts has the result of the run without a journal. -/
  complete : ∀ result t, c.Attempts digest source s (some result) t → t.interrupted = false →
    c.Uninterrupted digest source result
  success : ∀ value t, c.Attempts digest source s (some (.ok value)) t →
    c.Uninterrupted digest source (.ok value)
  completes : ∃ result t, c.Attempts digest source s (some result) t ∧ t.interrupted = false
  /-- An acknowledged page is never fetched again. -/
  once : ∀ r pre post, s.log = pre ++ .fetched r :: post →
    .saved (checkpointKey digest (c.pages.identity r)) ∉ pre
  /-- Only pages are stored, never errors. -/
  stored : ∀ key value, s.stored key = some value → ∃ r page,
    key = checkpointKey digest (c.pages.identity r) ∧ pageOf c.pages source r = .ok page ∧
      value = (c.pages.codec r).encode page

/-- **Resumed collection is uninterrupted collection.** -/
theorem resumed (hfree : CollisionFree c.pages digest (c.requests source))
    (h : c.Attempted digest source s) : c.Resumable digest source s := by
  have hinv := attempted_inv hfree h
  have hreturns := fun result t hattempt =>
    (attempts_returns hfree hinv (t := t) hattempt).2 result rfl
  refine ⟨fun result t hattempt hcomplete => ?_, fun value t hattempt => ?_, ?_, fun r pre post hlog => ?_,
    fun key value hvalue => ?_⟩
  · exact uninterrupted_iff.mpr ((hreturns result t hattempt).complete hcomplete)
  · have hcomplete := (hreturns (.ok value) t hattempt).success value rfl
    exact uninterrupted_iff.mpr ((hreturns _ t hattempt).complete hcomplete)
  · exact exists_attempt (journalAnswers c.pages source) (exists_answer c source)
      (collectWith c.pages digest true c.collector) (s := s.begin) rfl
  · exact hinv.orderly pre (.fetched r) post hlog
  · obtain ⟨r, _, hkey, page, hpage, hencoded⟩ := hinv.stored key value hvalue
    exact ⟨r, page, hkey.symm, hpage, hencoded⟩

end Collection

end AdsControl.Reporting
