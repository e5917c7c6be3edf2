import AdsControl.Lib.SelfDelimiting
import AdsControl.Position.Batches

/-!
# The digest of a payload

Whether a slot was committed with the same payload before is decided by a digest. The bytes under the hash are
the times in microseconds, the texts after their lengths, the numbers at fixed widths, and the measurements
in the order of their monitors.

* `payloadDigest`: the digest as it is computed;
* `PersistenceBatch.kept`: what of a payload is kept, its times in microseconds;
* **`payload_digest_identifies`**: payloads with one digest are kept as the same.
-/

namespace AdsControl.Position

open Fallible FieldCode SortByKey

/-- Whole microseconds, rounded down. -/
def timestampMicros (instant : ℤ) : ℤ := instant / 1000

/-- A status as it is hashed. -/
def statusText : BatchStatus → String
  | .succeeded => "succeeded"
  | .partially => "partial"
  | .failed => "failed"
  | .blocked => "blocked"

/-- An outcome as it is hashed. -/
def outcomeText : PersistedOutcome → String
  | .found => "found"
  | .notFound => "not_found"

/-- A placement as it is hashed. -/
def placementText : PlacementKind → String
  | .organic => "organic"
  | .sponsored => "sponsored"
  | .unknown => "unknown"

/-! ## Bytes -/

/-- A signed number of 64 bits. -/
def hashI64 (value : ℤ) : Bytes := twosComplement 8 value

/-- A number of 64 bits. -/
def hashU64 (value : ℕ) : Bytes := bigEndian 8 value

/-- A text behind its length. -/
def hashText (value : String) : Bytes := textCode value

/-- A text or nothing, behind a mark. -/
def hashOptionalText (value : Option String) : Bytes :=
  (value.map fun value => 1 :: hashText value).getD [0]

/-- A number of 16 bits or nothing, behind a mark. -/
def hashOptionalU16 (value : Option ℕ) : Bytes :=
  (value.map fun value => 1 :: bigEndian 2 value).getD [0]

/-- A measurement as it is hashed. -/
def measurementBytes (measurement : MeasurementRecord) : Bytes :=
  hashI64 measurement.monitorId ++ hashI64 (timestampMicros measurement.observedAt) ++
    hashText (outcomeText measurement.outcome) ++ hashOptionalU16 measurement.overallPosition ++
    hashOptionalText (measurement.placement.map placementText) ++ hashOptionalU16 measurement.organicPosition ++
    hashOptionalU16 measurement.sponsoredPosition

/-- The counts of a batch. -/
def PersistenceBatch.counters (batch : PersistenceBatch) : List ℕ :=
  [batch.monitorsPlanned, batch.monitorsAttempted, batch.monitorsSucceeded, batch.queriesPlanned,
    batch.queriesAttempted, batch.queriesSucceeded]

/-- The first bytes of every payload. -/
def payloadTag : Bytes := "mcp-ozon-position-persistence-v1\x00".toUTF8.data.toList

/-- What the hash reads before the measurements. -/
def headBytes (batch : PersistenceBatch) : Bytes :=
  payloadTag ++
    hashI64 (timestampMicros batch.scheduledFor) ++ hashI64 (timestampMicros batch.startedAt) ++
    hashI64 (timestampMicros batch.finishedAt) ++ hashText batch.collectorVersion ++
    hashText (statusText batch.status) ++ batch.counters.flatMap hashU64 ++
    hashOptionalText (batch.errorClass.map ErrorClass.asStr) ++ hashOptionalU16 batch.httpStatus ++
    hashOptionalText (batch.circuitReason.map CircuitReason.asStr)

/-- What the hash reads. -/
def payloadBytes (batch : PersistenceBatch) : Bytes :=
  headBytes batch ++ (hashU64 (sortByKey MeasurementRecord.monitorId batch.measurements).length ++
    (sortByKey MeasurementRecord.monitorId batch.measurements).flatMap measurementBytes)

/-- **The digest of a payload** under a hash. -/
def payloadDigest (sha256 : Bytes → Bytes) (batch : PersistenceBatch) : String := hex (sha256 (payloadBytes batch))

/-! ## What is kept -/

/-- A measurement at the precision of the database. -/
def MeasurementRecord.kept (measurement : MeasurementRecord) : MeasurementRecord :=
  { measurement with observedAt := timestampMicros measurement.observedAt }

/-- A payload with its times in microseconds and its measurements in the order of their monitors. -/
def PersistenceBatch.kept (batch : PersistenceBatch) : PersistenceBatch :=
  { batch with
    scheduledFor := timestampMicros batch.scheduledFor
    startedAt := timestampMicros batch.startedAt
    finishedAt := timestampMicros batch.finishedAt
    measurements := (sortByKey MeasurementRecord.monitorId batch.measurements).map MeasurementRecord.kept }

/-- A batch without its measurements. -/
def PersistenceBatch.keptHead (batch : PersistenceBatch) : PersistenceBatch :=
  { batch.kept with measurements := [] }

/-! ## Codes -/

section Codes

theorem delimits_optionalText :
    Delimits (fun value : Option String => ∀ s ∈ value, s.utf8ByteSize < 256 ^ 8) hashOptionalText id := by
  rw [← Option.map_id]
  exact delimits_text.option (by decide)

theorem delimits_optionalU16 :
    Delimits (fun value : Option ℕ => ∀ n ∈ value, n < 256 ^ 2) hashOptionalU16 id := by
  rw [← Option.map_id]
  exact (delimits_bigEndian 2).option (by decide)

theorem statusText_injective : Function.Injective statusText := by
  intro status other h
  cases status <;> cases other <;> first | rfl | exact absurd h (by decide)

theorem outcomeText_injective : Function.Injective outcomeText := by
  intro outcome other h
  cases outcome <;> cases other <;> first | rfl | exact absurd h (by decide)

theorem placementText_injective : Function.Injective placementText := by
  intro placement other h
  cases placement <;> cases other <;> first | rfl | exact absurd h (by decide)

theorem ErrorClass.asStr_injective : Function.Injective ErrorClass.asStr := by
  intro error other h
  cases error <;> cases other <;> first | rfl | exact absurd h (by decide)

theorem CircuitReason.asStr_injective : Function.Injective CircuitReason.asStr := by
  intro reason other h
  cases reason <;> cases other <;> first | rfl | exact absurd h (by decide)

theorem isSigned_timestampMicros {t : ℤ} (h : minUtc - hours 1 ≤ t ∧ t ≤ maxUtc) :
    IsSigned 8 (timestampMicros t) := by
  simp only [minUtc, maxUtc, hours, seconds] at h
  unfold IsSigned timestampMicros
  omega

theorem mem_map_lt {α : Type} {text : α → String} (h : ∀ a, (text a).utf8ByteSize < 256 ^ 8) {value : Option α} :
    ∀ s ∈ value.map text, s.utf8ByteSize < 256 ^ 8 := by
  intro s hs
  obtain ⟨a, -, rfl⟩ := Option.map_eq_some_iff.mp hs
  exact h a

theorem IsPosition.lt {n : ℕ} (h : IsPosition n) : n < 256 ^ 2 := h.2.trans_lt (by decide)

/-- **A measurement** and where it ends. -/
theorem delimits_measurement (slot : ℤ) (hslot : minUtc - hours 1 ≤ slot ∧ slot + collectionInterval ≤ maxUtc) :
    Delimits (MeasurementRecord.WellFormed slot) measurementBytes MeasurementRecord.kept := by
  have hid : Delimits (MeasurementRecord.WellFormed slot) (fun m => hashI64 m.monitorId) fun m => m.monitorId :=
    ((delimits_twosComplement 8).comp MeasurementRecord.monitorId).mono fun m hm => by
      have := hm.monitorId
      unfold IsSigned
      omega
  have htime : Delimits (MeasurementRecord.WellFormed slot) (fun m => hashI64 (timestampMicros m.observedAt))
      fun m => timestampMicros m.observedAt :=
    ((delimits_twosComplement 8).comp fun m : MeasurementRecord => timestampMicros m.observedAt).mono fun m hm =>
      isSigned_timestampMicros ⟨hslot.1.trans hm.observedAt.1, hm.observedAt.2.le.trans hslot.2⟩
  have houtcome : Delimits (MeasurementRecord.WellFormed slot) (fun m => hashText (outcomeText m.outcome))
      fun m => m.outcome :=
    .of_injective outcomeText_injective ((delimits_text.comp fun m : MeasurementRecord =>
      outcomeText m.outcome).mono fun m _ => by cases m.outcome <;> decide)
  have hposition : ∀ f : MeasurementRecord → Option ℕ, (∀ m, m.WellFormed slot → ∀ n ∈ f m, IsPosition n) →
      Delimits (MeasurementRecord.WellFormed slot) (fun m => hashOptionalU16 (f m)) f := fun f hf =>
    (delimits_optionalU16.comp f).mono fun m hm n hn => (hf m hm n hn).lt
  have hplacement : Delimits (MeasurementRecord.WellFormed slot)
      (fun m => hashOptionalText (m.placement.map placementText)) fun m => m.placement :=
    .of_injective (Option.map_injective placementText_injective)
      ((delimits_optionalText.comp fun m : MeasurementRecord => m.placement.map placementText).mono fun m _ =>
        mem_map_lt fun placement => by cases placement <;> decide)
  have hall := (((((hid.append htime).append houtcome).append
    (hposition _ fun m hm => hm.overall)).append hplacement).append
    (hposition _ fun m hm => hm.organic)).append (hposition _ fun m hm => hm.sponsored)
  intro m m' rest rest' hm hm' heq
  obtain ⟨hseen, hrest⟩ := hall m m' rest rest' hm hm' heq
  simp only [Prod.mk.injEq, and_assoc] at hseen
  obtain ⟨h1, h2, h3, h4, h5, h6, h7⟩ := hseen
  refine ⟨?_, hrest⟩
  rw [MeasurementRecord.kept, MeasurementRecord.kept, h1, h2, h3, h4, h5, h6, h7]

theorem ErrorClass.httpStatus_lt {error : Option ErrorClass} :
    ∀ n ∈ error.bind ErrorClass.httpStatus, n < 256 ^ 2 := by
  intro n hn
  obtain ⟨error, -, hstatus⟩ := Option.bind_eq_some_iff.mp hn
  cases error <;> cases hstatus <;> decide

theorem PersistenceBatch.WellFormed.calendar_mem {batch : PersistenceBatch} (h : batch.WellFormed) :
    minUtc - hours 1 ≤ batch.scheduledFor ∧ batch.scheduledFor + collectionInterval ≤ maxUtc := by
  have hcalendar := h.calendar
  refine ⟨?_, hcalendar.2⟩
  simp only [executionOffset, hours, seconds] at hcalendar ⊢
  omega

theorem delimits_time {f : PersistenceBatch → ℤ}
    (hf : ∀ batch, batch.WellFormed → minUtc - hours 1 ≤ f batch ∧ f batch ≤ maxUtc) :
    Delimits PersistenceBatch.WellFormed (fun batch => hashI64 (timestampMicros (f batch)))
      fun batch => timestampMicros (f batch) :=
  ((delimits_twosComplement 8).comp fun batch => timestampMicros (f batch)).mono fun batch h =>
    isSigned_timestampMicros (hf batch h)

theorem PersistenceBatch.WellFormed.times {batch : PersistenceBatch} (h : batch.WellFormed) :
    (minUtc - hours 1 ≤ batch.scheduledFor ∧ batch.scheduledFor ≤ maxUtc) ∧
    (minUtc - hours 1 ≤ batch.startedAt ∧ batch.startedAt ≤ maxUtc) ∧
    (minUtc - hours 1 ≤ batch.finishedAt ∧ batch.finishedAt ≤ maxUtc) := by
  have hslot := h.calendar_mem
  have hstarted := h.started
  have hended := h.ended
  simp only [executionOffset, collectionInterval, seconds] at hslot hstarted hended
  omega

theorem delimits_version : Delimits PersistenceBatch.WellFormed (fun batch => hashText batch.collectorVersion)
    fun batch => batch.collectorVersion :=
  (delimits_text.comp PersistenceBatch.collectorVersion).mono fun batch h => by
    have hversion := h.version
    simp only [validateCollectorVersion, ok_of_bind, ensure_eq_ok] at hversion
    obtain ⟨-, ⟨-, hsize, -⟩, -⟩ := hversion
    exact hsize.trans_lt (by decide)

theorem delimits_counters : Delimits PersistenceBatch.WellFormed (fun batch => batch.counters.flatMap hashU64)
    PersistenceBatch.counters := by
  have hlist := ((delimits_bigEndian 8).ofLength 6).comp PersistenceBatch.counters
  simp only [List.map_id] at hlist
  refine hlist.mono fun batch h => ⟨rfl, fun n hn => ?_⟩
  have hmonitors := h.monitors
  have hqueries := h.queries
  simp only [maxTargetsPerBatch, maxQueriesPerBatch] at hmonitors hqueries
  simp only [PersistenceBatch.counters, List.mem_cons, List.not_mem_nil, or_false] at hn
  omega

theorem delimits_status : Delimits PersistenceBatch.WellFormed (fun batch => hashText (statusText batch.status))
    fun batch => batch.status :=
  .of_injective statusText_injective ((delimits_text.comp fun batch : PersistenceBatch =>
    statusText batch.status).mono fun batch _ => by cases batch.status <;> decide)

theorem delimits_error : Delimits PersistenceBatch.WellFormed
    (fun batch => hashOptionalText (batch.errorClass.map ErrorClass.asStr)) fun batch => batch.errorClass :=
  .of_injective (Option.map_injective ErrorClass.asStr_injective)
    ((delimits_optionalText.comp fun batch : PersistenceBatch => batch.errorClass.map ErrorClass.asStr).mono
      fun batch _ => mem_map_lt fun error => by cases error <;> decide)

theorem delimits_httpStatus : Delimits PersistenceBatch.WellFormed
    (fun batch => hashOptionalU16 batch.httpStatus) fun batch => batch.httpStatus :=
  (delimits_optionalU16.comp PersistenceBatch.httpStatus).mono fun batch h => by
    rw [h.httpStatus]
    exact ErrorClass.httpStatus_lt

theorem delimits_reason : Delimits PersistenceBatch.WellFormed
    (fun batch => hashOptionalText (batch.circuitReason.map CircuitReason.asStr))
      fun batch => batch.circuitReason :=
  .of_injective (Option.map_injective CircuitReason.asStr_injective)
    ((delimits_optionalText.comp fun batch : PersistenceBatch =>
      batch.circuitReason.map CircuitReason.asStr).mono
        fun batch _ => mem_map_lt fun reason => by cases reason <;> decide)

theorem delimits_head : Delimits PersistenceBatch.WellFormed headBytes PersistenceBatch.keptHead := by
  have hall := (((((((((Delimits.const payloadTag).append
    (delimits_time fun _ h => h.times.1)).append (delimits_time fun _ h => h.times.2.1)).append
    (delimits_time fun _ h => h.times.2.2)).append delimits_version).append delimits_status).append
    delimits_counters).append delimits_error).append delimits_httpStatus).append delimits_reason
  intro batch batch' rest rest' h h' heq
  obtain ⟨hseen, hrest⟩ := hall batch batch' rest rest' h h' heq
  simp only [Prod.mk.injEq, and_assoc, PersistenceBatch.counters, List.cons.injEq, true_and] at hseen
  obtain ⟨h1, h2, h3, h4, h5, h6, h7, h8, h9, h10, h11, h12, h13, h14⟩ := hseen
  refine ⟨?_, hrest⟩
  simp only [PersistenceBatch.keptHead, PersistenceBatch.kept, h1, h2, h3, h4, h5, h6, h7, h8, h9, h10, h11, h12, h13, h14]

theorem PersistenceBatch.WellFormed.slot_eq {batch batch' : PersistenceBatch} (h : batch.WellFormed)
    (h' : batch'.WellFormed) (hslot : timestampMicros batch.scheduledFor = timestampMicros batch'.scheduledFor) :
    batch.scheduledFor = batch'.scheduledFor := by
  have haligned : ∀ batch : PersistenceBatch, batch.WellFormed → batch.scheduledFor % seconds 1 = 0 :=
    fun batch h => by
      have hslot := h.slot
      simp only [isAlignedSlot, decide_eq_true_eq] at hslot
      exact hslot.2.2
  have h1 := haligned batch h
  have h1' := haligned batch' h'
  simp only [timestampMicros, seconds] at hslot h1 h1'
  omega

/-- **A payload** and where it ends. -/
theorem delimits_payload : Delimits PersistenceBatch.WellFormed payloadBytes PersistenceBatch.kept := by
  intro batch batch' rest rest' h h' heq
  rw [payloadBytes, payloadBytes, List.append_assoc, List.append_assoc (headBytes batch')] at heq
  obtain ⟨hhead, hrest⟩ := delimits_head batch batch' _ _ h h' heq
  -- the slot tells when the measurements were made
  have hslot : batch.scheduledFor = batch'.scheduledFor :=
    h.slot_eq h' (congrArg PersistenceBatch.scheduledFor hhead)
  have hmeasured : ∀ batch : PersistenceBatch, batch.WellFormed →
      (sortByKey MeasurementRecord.monitorId batch.measurements).length < 256 ^ 8 ∧
      ∀ record ∈ sortByKey MeasurementRecord.monitorId batch.measurements,
        record.WellFormed batch.scheduledFor := fun batch h => by
    refine ⟨?_, fun record hrecord => h.measurements record (mem_sortByKey.mp hrecord)⟩
    have hmonitors := h.monitors
    rw [(sortByKey_perm _ _).length_eq, h.measured]
    simp only [maxTargetsPerBatch] at hmonitors
    omega
  obtain ⟨hmeasurements, hend⟩ := (delimits_bigEndian 8).list
    (delimits_measurement batch.scheduledFor h.calendar_mem) _ _ rest rest' (hmeasured batch h)
    (hslot ▸ hmeasured batch' h') hrest
  dsimp only at hmeasurements
  refine ⟨?_, hend⟩
  calc batch.kept
      = { batch.keptHead with measurements :=
          (sortByKey MeasurementRecord.monitorId batch.measurements).map MeasurementRecord.kept } := rfl
    _ = { batch'.keptHead with measurements :=
          (sortByKey MeasurementRecord.monitorId batch'.measurements).map MeasurementRecord.kept } := by
        rw [hhead, hmeasurements]
    _ = batch'.kept := rfl

theorem flatMap_measurementBytes {l l' : List MeasurementRecord}
    (h : l.map MeasurementRecord.kept = l'.map MeasurementRecord.kept) :
    l.flatMap measurementBytes = l'.flatMap measurementBytes := by
  induction l generalizing l' with
  | nil => rw [List.map_eq_nil_iff.mp h.symm]
  | cons m l ih =>
    cases l' with
    | nil => cases h
    | cons m' l' =>
      obtain ⟨hfirst, hrest⟩ := List.cons.inj h
      simp only [MeasurementRecord.kept, MeasurementRecord.mk.injEq] at hfirst
      obtain ⟨h1, h2, h3, h4, h5, h6, h7⟩ := hfirst
      rw [List.flatMap_cons, List.flatMap_cons, ih hrest, measurementBytes, measurementBytes, h1, h2, h3, h4, h5,
        h6, h7]

/-- The hash reads what is kept. -/
theorem payloadBytes_congr {batch batch' : PersistenceBatch} (h : batch.kept = batch'.kept) :
    payloadBytes batch = payloadBytes batch' := by
  simp only [PersistenceBatch.kept, PersistenceBatch.mk.injEq] at h
  obtain ⟨h1, h2, h3, h4, h5, h6, h7, h8, h9, h10, h11, h12, h13, h14, hmeasurements⟩ := h
  have hlength := congrArg List.length hmeasurements
  rw [List.length_map, List.length_map] at hlength
  rw [payloadBytes, payloadBytes, flatMap_measurementBytes hmeasurements, hlength]
  simp only [headBytes, PersistenceBatch.counters, h1, h2, h3, h4, h5, h6, h7, h8, h9, h10, h11, h12, h13, h14]

/-- **The digest identifies what is kept.** When the hash has no collision between them, two payloads have one
digest exactly when the same is kept of them; the order of the measurements does not matter. -/
theorem payload_digest_identifies (sha256 : Bytes → Bytes) {batch batch' : PersistenceBatch}
    (h : batch.Collectable) (h' : batch'.Collectable)
    (hcollision : sha256 (payloadBytes batch) = sha256 (payloadBytes batch') →
      payloadBytes batch = payloadBytes batch') :
    (payloadDigest sha256 batch = payloadDigest sha256 batch' ↔ batch.kept = batch'.kept) ∧
    ∀ measurements, measurements.Perm batch.measurements →
      payloadDigest sha256 { batch with measurements } = payloadDigest sha256 batch := by
  refine ⟨⟨fun hdigest => ?_, fun hkept => ?_⟩, fun measurements hperm => ?_⟩
  · exact delimits_payload.seen_eq h.wellFormed h'.wellFormed (hcollision (hex_injective hdigest))
  · rw [payloadDigest, payloadBytes_congr hkept, payloadDigest]
  · have hsorted : sortByKey MeasurementRecord.monitorId measurements =
        sortByKey MeasurementRecord.monitorId batch.measurements :=
      sortByKey_eq_of_perm hperm ((hperm.map _).nodup_iff.mpr h.wellFormed.distinct)
    rw [payloadDigest, payloadBytes, hsorted]
    rfl

end Codes

/-! ## Two payloads of a slot -/

/-- A run of the monitors of the pens that ends at an instant. -/
def penBatch (finishedAt : ℤ) : Option PersistenceBatch := do
  let plan ← (BatchPlan.new asciiLowercase penSlot penTargets).toOption
  let result ← ((collectBatch plan (seconds 1200)).eval fun call => .ok (penAnswers call)).toOption
  (PersistenceBatch.fromResult plan result (penSlot + seconds 300) finishedAt "test-1.0").toOption

theorem collectable_penBatch {finishedAt : ℤ} {batch : PersistenceBatch} (h : penBatch finishedAt = some batch) :
    batch.Collectable := by
  have hids : ∀ target ∈ penTargets, target.monitorId < 2 ^ 63 := by decide +kernel
  have hoption : ∀ {ε α : Type} {x : Except ε α} {a : α}, x.toOption = some a → x = .ok a := by
    intro ε α x a hx
    cases x <;> simp_all [Except.toOption]
  simp only [penBatch, Option.bind_eq_bind, Option.bind_eq_some_iff] at h
  obtain ⟨plan, hplan, result, hresult, hbatch⟩ := h
  have hrun := Interaction.Prog.runs_eval penAnswers (collectBatch plan (seconds 1200))
  rw [hoption hresult] at hrun
  exact ⟨asciiLowercase, penSlot, penTargets, plan, seconds 1200, _, result, _, finishedAt, "test-1.0", hids,
    hoption hplan, hrun, hoption hbatch⟩

/-- Sums of the bytes at every thirty-second place. -/
def byteSums (bytes : Bytes) : Bytes :=
  (List.range 32).map fun i => ((bytes.zipIdx.filter fun entry => entry.2 % 32 = i).map Prod.fst).sum

theorem payload_digest_identifies_pen : ∃ batch batch', penBatch (penSlot + seconds 420) = some batch ∧
    penBatch (penSlot + seconds 421) = some batch' ∧
    (payloadDigest byteSums batch = payloadDigest byteSums batch' ↔ batch.kept = batch'.kept) := by
  have hsums : (penBatch (penSlot + seconds 420)).map (fun batch => byteSums (payloadBytes batch)) ≠
      (penBatch (penSlot + seconds 421)).map fun batch => byteSums (payloadBytes batch) := by
    decide +kernel
  have hsome : (penBatch (penSlot + seconds 420)).isSome ∧ (penBatch (penSlot + seconds 421)).isSome := by
    decide +kernel
  obtain ⟨batch, h⟩ := Option.isSome_iff_exists.mp hsome.1
  obtain ⟨batch', h'⟩ := Option.isSome_iff_exists.mp hsome.2
  rw [h, h'] at hsums
  refine ⟨batch, batch', h, h', (payload_digest_identifies byteSums (collectable_penBatch h)
    (collectable_penBatch h') fun hsame => absurd (congrArg some hsame) hsums).1⟩

end AdsControl.Position
