import Opsia.Orchestrator.CanaryMetrics

/-!
# What the metric gates say about the samples

A metric is read off a scrape as the greatest of its matching samples, whichever way its gate compares.  For the gates
with an upper limit that is the worst sample; for `game_tick_rate` and `game_snapshot_handoff_enabled`, whose gates have
a lower limit, it is the best one.  So the gates speak for every sample unless a scrape shows such a metric on both
sides of its limit (`gates_conservative_iff`).
-/

namespace Opsia

namespace Canary

def matchingSamples (samples : List PrometheusSample) (name roomId : String) (allowUnlabelled : Bool) :
    List PrometheusSample :=
  samples.filter fun sample =>
    decide (sample.name = name) && (decide (sample.room = some roomId) || (allowUnlabelled && sample.room.isNone))

/-- The samples that the gate of a metric is about.  The memory of the process stands in where there is no sample of the
memory of the container. -/
def gateSamples (samples : List PrometheusSample) (roomId : String) : MetricKey → List PrometheusSample
  | .snapshotInflight => matchingSamples samples "game_snapshot_inflight" roomId false
  | .snapshotPending => matchingSamples samples "game_snapshot_pending" roomId false
  | .snapshotWriteDurationSeconds => matchingSamples samples "game_snapshot_write_duration_seconds" roomId false
  | .snapshotFailuresTotal => matchingSamples samples "game_snapshot_failures_total" roomId false
  | .snapshotTimeoutsTotal => matchingSamples samples "game_snapshot_timeouts_total" roomId false
  | .snapshotCircuitOpen => matchingSamples samples "game_snapshot_circuit_open" roomId false
  | .snapshotHandoffEnabled => matchingSamples samples "game_snapshot_handoff_enabled" roomId false
  | .tickRate => matchingSamples samples "game_tick_rate" roomId false
  | .memoryWorkingSetBytes =>
    if matchingSamples samples "container_memory_working_set_bytes" roomId true = [] then
      matchingSamples samples "process_resident_memory_bytes" roomId true
    else matchingSamples samples "container_memory_working_set_bytes" roomId true

/-- The metric has a lower limit. -/
def MetricKey.lowerBounded : MetricKey → Bool
  | .snapshotHandoffEnabled => true
  | .tickRate => true
  | _ => false

/-- A value is within the limit of the metric's gate. -/
def WithinLimit (options : CanaryValidationOptions) (pod : CanaryPodObservation) : MetricKey → ℚ → Prop
  | .snapshotInflight, v => v ≤ options.maxSnapshotInflight
  | .snapshotPending, v => v ≤ options.maxSnapshotPending
  | .snapshotWriteDurationSeconds, v => v ≤ options.maxSnapshotWriteDurationSeconds
  | .snapshotFailuresTotal, v => v ≤ options.maxSnapshotFailuresTotal
  | .snapshotTimeoutsTotal, v => v ≤ options.maxSnapshotTimeoutsTotal
  | .snapshotCircuitOpen, v => v ≤ 0
  | .snapshotHandoffEnabled, v => 1 ≤ v
  | .tickRate, v => options.minimumTickRate ≤ v
  | .memoryWorkingSetBytes, v =>
    ∃ limit, pod.memoryLimitBytes = some limit ∧ v / limit ≤ options.maxMemoryRatio

/-- A value that `metricObservation` lets through. -/
structure ValidValue (key : MetricKey) (v : ℚ) : Prop where
  nonneg : 0 ≤ v
  integer : key ∈ integerKeys → v.den = 1 ∧ isSafeInteger v.num = true
  binary : key ∈ [MetricKey.snapshotCircuitOpen, .snapshotHandoffEnabled] → v = 0 ∨ v = 1

/-! ### Evaluating scrapes -/

def observeScrapes (platform : Platform) (roomId : String) :
    List CanaryMetricsScrape → Except String (List MetricObservation)
  | [] => .ok []
  | scrape :: scrapes =>
    match metricObservation platform scrape roomId with
    | .error message => .error message
    | .ok observation =>
      match observeScrapes platform roomId scrapes with
      | .error message => .error message
      | .ok observations => .ok (observation :: observations)

/-- Every scrape is read, and all metric gates pass. -/
def gatesPass (platform : Platform) (options : CanaryValidationOptions) (roomId : String) (pod : CanaryPodObservation)
    (scrapes : List CanaryMetricsScrape) : Bool :=
  match observeScrapes platform roomId scrapes with
  | .error _ => false
  | .ok observations =>
    decide (observations ≠ []) && (metricGates options observations pod).all MetricGate.passed

section

variable {platform : Platform} {options : CanaryValidationOptions} {roomId : String} {pod : CanaryPodObservation}

private theorem readMetrics_eq (samples : List PrometheusSample) (roomId : String) (key : MetricKey) :
    readMetrics samples roomId key = ((gateSamples samples roomId key).map PrometheusSample.value).max? := by
  cases key with
  | memoryWorkingSetBytes =>
    unfold readMetrics gateSamples
    by_cases hnone : matchingSamples samples "container_memory_working_set_bytes" roomId true = []
    · rw [if_pos hnone]
      have hvalue : metricValue samples "container_memory_working_set_bytes" roomId true = none := by
        unfold metricValue
        rw [show samples.filter _ = [] from hnone]
        rfl
      rw [hvalue, Option.none_or]
      rfl
    · rw [if_neg hnone]
      obtain ⟨v, hv⟩ : ∃ v, metricValue samples "container_memory_working_set_bytes" roomId true = some v := by
        cases hv : metricValue samples "container_memory_working_set_bytes" roomId true with
        | some v => exact ⟨v, rfl⟩
        | none => exact absurd (List.map_eq_nil_iff.1 (List.max?_eq_none_iff.1 hv)) hnone
      rw [hv, Option.some_or]
      exact hv.symm
  | _ => rfl

private theorem mem_requiredKeys (key : MetricKey) : key ∈ requiredMetricNames.map Prod.fst := by
  cases key <;> decide

private theorem firstInvalid_eq_none_iff (value : MetricKey → Option ℚ) :
    firstInvalid value = none ↔ ∀ key v, value key = some v → ValidValue key v := by
  unfold firstInvalid
  dsimp only
  simp only [Option.or_eq_none_iff, List.find?_eq_none]
  constructor
  · rintro ⟨hneg, hint, hbin⟩ key v hv
    refine ⟨?_, fun hkey => ?_, fun hkey => ?_⟩
    · have h := hneg key (mem_requiredKeys key)
      rw [hv] at h
      simpa using h
    · have h := hint key hkey
      rw [hv] at h
      simpa using h
    · have h := hbin key hkey
      rw [hv] at h
      by_contra hne
      push Not at hne
      exact h (by simpa using hne)
  · intro h
    refine ⟨fun key _ => ?_, fun key hkey => ?_, fun key hkey => ?_⟩
    · cases hv : value key with
      | none => simp
      | some v =>
        have := (h key v hv).nonneg
        simpa using this
    · cases hv : value key with
      | none => simp
      | some v =>
        obtain ⟨hden, hnum⟩ := (h key v hv).integer hkey
        simp [hden, hnum]
    · cases hv : value key with
      | none => simp
      | some v =>
        rcases (h key v hv).binary hkey with rfl | rfl
        · simp
        · simp

/-- What a scrape must show for the gates to pass. -/
def Admitted (platform : Platform) (options : CanaryValidationOptions) (roomId : String) (pod : CanaryPodObservation)
    (scrape : CanaryMetricsScrape) : Prop :=
  (platform.dateParse scrape.observedAt).isSome = true ∧ ∃ samples, scrape.samples = .ok samples ∧
    ∀ key, ∃ v, readMetrics samples roomId key = some v ∧ ValidValue key v ∧ WithinLimit options pod key v

private theorem metricObservation_eq_ok {scrape : CanaryMetricsScrape} {observation : MetricObservation}
    (h : metricObservation platform scrape roomId = .ok observation) :
    (platform.dateParse scrape.observedAt).isSome = true ∧ ∃ samples, scrape.samples = .ok samples ∧
      observation.value = readMetrics samples roomId ∧
      ∀ key v, readMetrics samples roomId key = some v → ValidValue key v := by
  unfold metricObservation at h
  split at h
  · cases h
  · rename_i hdate
    split at h
    · cases h
    · rename_i samples hsamples
      dsimp only at h
      split at h
      · cases h
      · rename_i hvalid
        cases h
        exact ⟨by simpa [Option.isSome_iff_ne_none] using hdate, samples, hsamples, rfl,
          (firstInvalid_eq_none_iff _).1 hvalid⟩

private theorem metricObservation_of_valid {scrape : CanaryMetricsScrape} {samples : List PrometheusSample}
    (hdate : (platform.dateParse scrape.observedAt).isSome = true) (hsamples : scrape.samples = .ok samples)
    (hvalid : ∀ key v, readMetrics samples roomId key = some v → ValidValue key v) :
    ∃ observation, metricObservation platform scrape roomId = .ok observation ∧
      observation.value = readMetrics samples roomId := by
  unfold metricObservation
  rw [if_neg (by simpa [Option.isSome_iff_ne_none] using hdate), hsamples]
  dsimp only
  rw [(firstInvalid_eq_none_iff _).2 hvalid]
  exact ⟨_, rfl, rfl⟩

private theorem gates_passed_iff (hpod : validatePodObservation platform pod = .ok ())
    (observations : List MetricObservation) :
    (metricGates options observations pod).all MetricGate.passed = true ↔ observations ≠ [] ∧
      ∀ observation ∈ observations, ∀ key, ∃ v, observation.value key = some v ∧ WithinLimit options pod key v := by
  rw [List.all_eq_true, metricGates_passed_iff]
  cases hlimit : pod.memoryLimitBytes with
  | none =>
    have hratio : memoryRatio observations pod = none := by
      unfold memoryRatio
      rw [hlimit]
      cases maximum observations .memoryWorkingSetBytes <;> rfl
    refine iff_of_false (fun h => ?_) fun ⟨hne, hall⟩ => ?_
    · rw [hratio] at h
      exact Bool.false_ne_true h.2.2
    · obtain ⟨observation, hmem⟩ := List.exists_mem_of_ne_nil _ hne
      obtain ⟨v, -, limit, hsome, -⟩ := hall observation hmem .memoryWorkingSetBytes
      rw [hlimit] at hsome
      cases hsome
  | some limit =>
    rw [memoryRatio_within_iff options observations pod hlimit (memoryLimit_pos hpod hlimit)]
    constructor
    · rintro ⟨hne, hwithin, -, hmemory⟩
      refine ⟨hne, fun observation hmem key => ?_⟩
      have hw := hwithin observation hmem
      cases key with
      | snapshotInflight => exact hw.inflight
      | snapshotPending => exact hw.pending
      | snapshotWriteDurationSeconds => exact hw.writeDuration
      | snapshotFailuresTotal => exact hw.failures
      | snapshotTimeoutsTotal => exact hw.timeouts
      | snapshotCircuitOpen => exact hw.circuit
      | snapshotHandoffEnabled => exact hw.handoff
      | tickRate => exact hw.tickRate
      | memoryWorkingSetBytes =>
        obtain ⟨used, hused, hle⟩ := hmemory observation hmem
        exact ⟨used, hused, limit, hlimit, hle⟩
    · rintro ⟨hne, hall⟩
      refine ⟨hne, fun observation hmem => ?_, hne, fun observation hmem => ?_⟩
      · have hkey := hall observation hmem
        exact ⟨hkey .snapshotInflight, hkey .snapshotPending, hkey .snapshotWriteDurationSeconds,
          hkey .snapshotFailuresTotal, hkey .snapshotTimeoutsTotal, hkey .snapshotCircuitOpen,
          hkey .snapshotHandoffEnabled, hkey .tickRate⟩
      · obtain ⟨used, hused, limit', hlimit', hle⟩ := hall observation hmem .memoryWorkingSetBytes
        rw [hlimit] at hlimit'
        cases hlimit'
        exact ⟨used, hused, hle⟩

private theorem observeScrapes_eq_ok_iff {scrapes : List CanaryMetricsScrape} {observations : List MetricObservation} :
    observeScrapes platform roomId scrapes = .ok observations ↔
      List.Forall₂ (fun scrape observation => metricObservation platform scrape roomId = .ok observation) scrapes
        observations := by
  induction scrapes generalizing observations with
  | nil =>
    rw [List.forall₂_nil_left_iff]
    exact ⟨fun h => by cases h; rfl, fun h => by rw [h]; rfl⟩
  | cons scrape scrapes ih =>
    rw [List.forall₂_cons_left_iff]
    constructor
    · intro h
      unfold observeScrapes at h
      split at h
      · cases h
      · rename_i observation hhead
        split at h
        · cases h
        · rename_i rest hrest
          cases h
          exact ⟨observation, rest, hhead, ih.1 hrest, rfl⟩
    · rintro ⟨observation, rest, hhead, hrest, rfl⟩
      unfold observeScrapes
      rw [hhead]
      dsimp only
      rw [ih.2 hrest]

/-- A value is read for every metric, and it is within the limit. -/
private def AllWithin (options : CanaryValidationOptions) (pod : CanaryPodObservation) (observation : MetricObservation) :
    Prop :=
  ∀ key, ∃ v, observation.value key = some v ∧ WithinLimit options pod key v

private theorem admitted_iff_observed {scrape : CanaryMetricsScrape} :
    Admitted platform options roomId pod scrape ↔
      ∃ observation, metricObservation platform scrape roomId = .ok observation ∧ AllWithin options pod observation := by
  constructor
  · rintro ⟨hdate, samples, hsamples, hkeys⟩
    have hvalid : ∀ key v, readMetrics samples roomId key = some v → ValidValue key v := by
      intro key v hv
      obtain ⟨v', hv', hval, -⟩ := hkeys key
      rw [hv] at hv'
      cases hv'
      exact hval
    obtain ⟨observation, hobserve, hvalue⟩ := metricObservation_of_valid hdate hsamples hvalid
    refine ⟨observation, hobserve, fun key => ?_⟩
    obtain ⟨v, hv, -, hle⟩ := hkeys key
    rw [hvalue]
    exact ⟨v, hv, hle⟩
  · rintro ⟨observation, hobserve, hwithin⟩
    obtain ⟨hdate, samples, hsamples, hvalue, hvalid⟩ := metricObservation_eq_ok hobserve
    refine ⟨hdate, samples, hsamples, fun key => ?_⟩
    obtain ⟨v, hv, hle⟩ := hwithin key
    rw [hvalue] at hv
    exact ⟨v, hv, hvalid key v hv, hle⟩

/-- The gates pass just when there is a scrape and each one is admitted. -/
theorem gatesPass_iff (hpod : validatePodObservation platform pod = .ok ()) (scrapes : List CanaryMetricsScrape) :
    gatesPass platform options roomId pod scrapes = true ↔
      scrapes ≠ [] ∧ ∀ scrape ∈ scrapes, Admitted platform options roomId pod scrape := by
  have hgates : gatesPass platform options roomId pod scrapes = true ↔ ∃ observations,
      observeScrapes platform roomId scrapes = .ok observations ∧ observations ≠ [] ∧
        ∀ observation ∈ observations, AllWithin options pod observation := by
    unfold gatesPass
    cases hobserve : observeScrapes platform roomId scrapes with
    | error message => simp
    | ok observations =>
      simp only [Bool.and_eq_true, decide_eq_true_eq, gates_passed_iff hpod, Except.ok.injEq, exists_eq_left']
      exact ⟨fun h => h.2, fun h => ⟨h.1, h⟩⟩
  rw [hgates]
  constructor
  · rintro ⟨observations, hobserve, hne, hwithin⟩
    have hread := observeScrapes_eq_ok_iff.1 hobserve
    refine ⟨?_, fun scrape hmem => ?_⟩
    · rintro rfl
      exact hne (List.forall₂_nil_left_iff.1 hread)
    · obtain ⟨observation, hin, hone⟩ := exists_of_forall₂ hread scrape hmem
      exact admitted_iff_observed.2 ⟨observation, hone, hwithin observation hin⟩
  · rintro ⟨hne, hadmitted⟩
    obtain ⟨observations, hread, hwithin⟩ : ∃ observations,
        List.Forall₂ (fun scrape observation => metricObservation platform scrape roomId = .ok observation) scrapes
          observations ∧ ∀ observation ∈ observations, AllWithin options pod observation := by
      clear hgates hne
      induction scrapes with
      | nil => exact ⟨[], .nil, by simp⟩
      | cons scrape scrapes ih =>
        rw [List.forall_mem_cons] at hadmitted
        obtain ⟨observation, hhead, hone⟩ := admitted_iff_observed.1 hadmitted.1
        obtain ⟨observations, hread, hwithin⟩ := ih hadmitted.2
        exact ⟨observation :: observations, .cons hhead hread, List.forall_mem_cons.2 ⟨hone, hwithin⟩⟩
    refine ⟨observations, observeScrapes_eq_ok_iff.2 hread, ?_, hwithin⟩
    rintro rfl
    exact hne (List.forall₂_nil_right_iff.1 hread)

/-! ### Samples on both sides of a limit -/

/-- Something in a scrape that fails the evaluation whatever else the scrapes show. -/
inductive RuledOut (platform : Platform) (options : CanaryValidationOptions) (roomId : String)
    (pod : CanaryPodObservation) (scrape : CanaryMetricsScrape) : Prop
  | timestamp (invalid : (platform.dateParse scrape.observedAt).isNone = true)
  | body {message : String} (unread : scrape.samples = .error message)
  | invalid {samples : List PrometheusSample} (read : scrape.samples = .ok samples) (key : MetricKey)
    {sample : PrometheusSample} (mem : sample ∈ gateSamples samples roomId key)
    (greatest : ∀ other ∈ gateSamples samples roomId key, other.value ≤ sample.value)
    (bad : ¬ValidValue key sample.value)
  | above {samples : List PrometheusSample} (read : scrape.samples = .ok samples) (key : MetricKey)
    (upper : key.lowerBounded = false) {sample : PrometheusSample} (mem : sample ∈ gateSamples samples roomId key)
    (out : ¬WithinLimit options pod key sample.value)
  | below {samples : List PrometheusSample} (read : scrape.samples = .ok samples) (key : MetricKey)
    (out : ∀ sample ∈ gateSamples samples roomId key, ¬WithinLimit options pod key sample.value)

/-- The scrape shows a metric that has a lower limit on both sides of it. -/
def Mixed (options : CanaryValidationOptions) (roomId : String) (pod : CanaryPodObservation)
    (scrape : CanaryMetricsScrape) : Prop :=
  ∃ samples key, scrape.samples = .ok samples ∧ key.lowerBounded = true ∧
    (∃ sample ∈ gateSamples samples roomId key, WithinLimit options pod key sample.value) ∧
    ∃ sample ∈ gateSamples samples roomId key, ¬WithinLimit options pod key sample.value

/-- Every sample that a gate is about is within the gate's limit. -/
def SamplesWithin (options : CanaryValidationOptions) (roomId : String) (pod : CanaryPodObservation)
    (scrapes : List CanaryMetricsScrape) : Prop :=
  ∀ scrape ∈ scrapes, ∀ samples, scrape.samples = .ok samples → ∀ key, ∀ sample ∈ gateSamples samples roomId key,
    WithinLimit options pod key sample.value

/-- No scrape shows a metric that has a lower limit on both sides of it, unless a scrape fails the evaluation anyway. -/
def Discerned (platform : Platform) (options : CanaryValidationOptions) (roomId : String) (pod : CanaryPodObservation)
    (scrapes : List CanaryMetricsScrape) : Prop :=
  (∃ scrape ∈ scrapes, RuledOut platform options roomId pod scrape) ∨ ∀ scrape ∈ scrapes, ¬Mixed options roomId pod scrape

private theorem within_of_le (hpod : validatePodObservation platform pod = .ok ()) {key : MetricKey} {v w : ℚ}
    (hupper : key.lowerBounded = false) (hle : w ≤ v) (hv : WithinLimit options pod key v) :
    WithinLimit options pod key w := by
  cases key with
  | snapshotHandoffEnabled => cases hupper
  | tickRate => cases hupper
  | memoryWorkingSetBytes =>
    obtain ⟨limit, hlimit, hratio⟩ := hv
    have hpos : (0 : ℚ) < limit := by exact_mod_cast memoryLimit_pos hpod hlimit
    exact ⟨limit, hlimit, (div_le_div_of_nonneg_right hle hpos.le).trans hratio⟩
  | _ => exact hle.trans hv

private theorem within_of_ge {key : MetricKey} {v w : ℚ} (hlower : key.lowerBounded = true) (hle : v ≤ w)
    (hv : WithinLimit options pod key v) : WithinLimit options pod key w := by
  cases key with
  | snapshotHandoffEnabled => exact le_trans hv hle
  | tickRate => exact le_trans hv hle
  | _ => cases hlower

private theorem exists_greatest {samples : List PrometheusSample} {v : ℚ}
    (h : (samples.map PrometheusSample.value).max? = some v) :
    ∃ sample ∈ samples, sample.value = v ∧ ∀ other ∈ samples, other.value ≤ v := by
  obtain ⟨sample, hmem, hvalue⟩ := List.mem_map.1 (List.max?_mem h)
  exact ⟨sample, hmem, hvalue, fun other hother =>
    (List.max?_le_iff h).1 le_rfl _ (List.mem_map_of_mem hother)⟩

private theorem admitted_iff (hpod : validatePodObservation platform pod = .ok ()) (scrape : CanaryMetricsScrape) :
    Admitted platform options roomId pod scrape ↔ ¬RuledOut platform options roomId pod scrape := by
  constructor
  · rintro ⟨hdate, samples, hsamples, hkeys⟩ hout
    have hgreatest : ∀ key, ∃ sample ∈ gateSamples samples roomId key, ValidValue key sample.value ∧
        WithinLimit options pod key sample.value ∧
        ∀ other ∈ gateSamples samples roomId key, other.value ≤ sample.value := by
      intro key
      obtain ⟨v, hv, hvalid, hle⟩ := hkeys key
      rw [readMetrics_eq] at hv
      obtain ⟨sample, hmem, rfl, hmax⟩ := exists_greatest hv
      exact ⟨sample, hmem, hvalid, hle, hmax⟩
    cases hout with
    | timestamp hnone =>
      rw [Option.isNone_iff_eq_none] at hnone
      rw [hnone] at hdate
      cases hdate
    | body hunread =>
      rw [hsamples] at hunread
      cases hunread
    | invalid hread key hmem hmax hbad =>
      rw [hsamples] at hread
      cases hread
      obtain ⟨sample, hin, hvalid, -, hmax'⟩ := hgreatest key
      rw [le_antisymm (hmax sample hin) (hmax' _ hmem)] at hvalid
      exact hbad hvalid
    | above hread key hupper hmem hbeyond =>
      rw [hsamples] at hread
      cases hread
      obtain ⟨sample, -, -, hwithin, hmax⟩ := hgreatest key
      exact hbeyond (within_of_le hpod hupper (hmax _ hmem) hwithin)
    | below hread key hbelow =>
      rw [hsamples] at hread
      cases hread
      obtain ⟨sample, hin, -, hwithin, -⟩ := hgreatest key
      exact hbelow sample hin hwithin
  · intro hout
    have hdate : (platform.dateParse scrape.observedAt).isSome = true := by
      by_contra hnone
      exact hout (.timestamp (by simpa [Option.isSome_iff_ne_none, Option.isNone_iff_eq_none] using hnone))
    cases hsamples : scrape.samples with
    | error message => exact absurd (.body hsamples) hout
    | ok samples =>
      refine ⟨hdate, samples, hsamples, fun key => ?_⟩
      rw [readMetrics_eq]
      cases hv : ((gateSamples samples roomId key).map PrometheusSample.value).max? with
      | none =>
        have hempty := List.map_eq_nil_iff.1 (List.max?_eq_none_iff.1 hv)
        exact absurd (.below hsamples key fun sample hmem => by rw [hempty] at hmem; cases hmem) hout
      | some v =>
        obtain ⟨sample, hmem, rfl, hmax⟩ := exists_greatest hv
        refine ⟨sample.value, rfl, ?_, ?_⟩
        · by_contra hbad
          exact hout (.invalid hsamples key hmem hmax hbad)
        · by_contra hbeyond
          cases hlower : key.lowerBounded with
          | false => exact hout (.above hsamples key hlower hmem hbeyond)
          | true =>
            exact hout (.below hsamples key fun other hother hwithin =>
              hbeyond (within_of_ge hlower (hmax other hother) hwithin))

end

/-- A passing evaluation speaks for every sample exactly when no scrape shows a metric that has a lower limit on both
sides of it, or the evaluation fails anyway; and exactly then the evaluation fails once a sample beyond its limit is
added. -/
theorem gates_conservative_iff (platform : Platform) (options : CanaryValidationOptions) (roomId : String)
    (pod : {pod : CanaryPodObservation // validatePodObservation platform pod = .ok ()}) :
    (∀ scrapes, (gatesPass platform options roomId pod scrapes = true → SamplesWithin options roomId pod scrapes) ↔
      Discerned platform options roomId pod scrapes) ∧
    ∀ (before : List CanaryMetricsScrape) (scrape : CanaryMetricsScrape) (after : List CanaryMetricsScrape)
      (earlier later : List PrometheusSample) (sample : PrometheusSample) (key : MetricKey),
      sample ∈ gateSamples (earlier ++ sample :: later) roomId key → ¬WithinLimit options pod key sample.value →
      (gatesPass platform options roomId pod
          (before ++ { scrape with samples := .ok (earlier ++ sample :: later) } :: after) = false ↔
        Discerned platform options roomId pod
          (before ++ { scrape with samples := .ok (earlier ++ sample :: later) } :: after)) := by
  obtain ⟨pod, hpod⟩ := pod
  have hiff : ∀ scrapes, (gatesPass platform options roomId pod scrapes = true →
      SamplesWithin options roomId pod scrapes) ↔ Discerned platform options roomId pod scrapes := by
    intro scrapes
    constructor
    · intro h
      by_cases hany : ∃ scrape ∈ scrapes, RuledOut platform options roomId pod scrape
      · exact Or.inl hany
      · refine Or.inr ?_
        rintro scrape hmem ⟨samples, key, hsamples, -, -, sample, hin, hbeyond⟩
        have hpass : gatesPass platform options roomId pod scrapes = true := by
          refine (gatesPass_iff hpod scrapes).2 ⟨List.ne_nil_of_mem hmem, fun s hs => (admitted_iff hpod s).2 fun hr => ?_⟩
          exact hany ⟨s, hs, hr⟩
        exact hbeyond (h hpass scrape hmem samples hsamples key sample hin)
    · intro h hpass scrape hmem samples hsamples key sample hin
      have hadmitted := ((gatesPass_iff hpod scrapes).1 hpass).2
      have hnone : ∀ s ∈ scrapes, ¬RuledOut platform options roomId pod s :=
        fun s hs => (admitted_iff hpod s).1 (hadmitted s hs)
      have hmixed : ∀ s ∈ scrapes, ¬Mixed options roomId pod s := by
        rcases h with ⟨s, hs, hr⟩ | h
        · exact absurd hr (hnone s hs)
        · exact h
      by_contra hbeyond
      cases hlower : key.lowerBounded with
      | false => exact hnone scrape hmem (.above hsamples key hlower hin hbeyond)
      | true =>
        refine hnone scrape hmem (.below hsamples key fun other hother hwithin => ?_)
        exact hmixed scrape hmem ⟨samples, key, hsamples, hlower, ⟨other, hother, hwithin⟩, sample, hin, hbeyond⟩
  refine ⟨hiff, fun before scrape after earlier later sample key hin hbeyond => ?_⟩
  rw [← hiff, ← Bool.not_eq_true]
  refine ⟨fun hfail hpass => absurd hpass hfail, fun h hpass => ?_⟩
  exact hbeyond (h hpass _ (List.mem_append_right _ List.mem_cons_self) _ rfl key sample hin)

/-! ### A room that ticks at two rates -/

def gatePlatform : Platform where
  isoString := fun _ => "1970-01-01T00:00:00.000Z"
  number := fun value => .ofNat value.num.toNat
  urlText := .ok
  metricsEndpoint := fun _ => .ok "http://game-room-canary:8001/metrics"
  originOf := .ok
  dateParse := fun _ => some 0

def gateOptions : CanaryValidationOptions where
  readinessTimeoutMs := 0
  maxReadinessPolls := 1
  validationPolls := 1
  botCount := 1
  maxSnapshotInflight := 1
  maxSnapshotPending := 1
  maxSnapshotWriteDurationSeconds := 2
  maxSnapshotFailuresTotal := 0
  maxSnapshotTimeoutsTotal := 0
  minimumTickRate := 30
  memoryPressureRatio := 4 / 5
  maxMemoryRatio := 9 / 10

def gatePod : CanaryPodObservation where
  observedAt := "1970-01-01T00:00:00.000Z"
  pod := {
    kind := "Pod", name := "game-room-canary", uid := "pod-1", resourceVersion := none, phase := "Running",
    canaryId := "canary-1", revision := "r2",
    imageDigest := "sha256:0123456789abcdef0123456789abcdef0123456789abcdef0123456789abcdef" }
  readyReplicas := 1
  desiredReplicas := 1
  containers := []
  events := []
  isolation := {
    roomId := canaryRoomId, fleet := "canary", publicEnabled := false, matchmakingEnabled := false,
    redisKeyPrefix := "room:canary-room:", redisDatabase := 1 }
  memoryLimitBytes := some 100

/-- Two samples of the tick rate, one below the limit of 30. -/
def twoRatesScrape : CanaryMetricsScrape where
  observedAt := "1970-01-01T00:00:00.000Z"
  url := "http://game-room-canary:8001/metrics"
  samples := .ok ([("game_snapshot_inflight", 0), ("game_snapshot_pending", 0),
    ("game_snapshot_write_duration_seconds", 1), ("game_snapshot_failures_total", 0), ("game_snapshot_timeouts_total", 0),
    ("game_snapshot_circuit_open", 0), ("game_snapshot_handoff_enabled", 1), ("game_tick_rate", 60),
    ("game_tick_rate", 10), ("container_memory_working_set_bytes", 50)].map fun sample =>
      ⟨sample.1, some canaryRoomId, sample.2⟩)

/-- The gates pass on the better of the two rates. -/
theorem slow_tick_rate_passes : ¬(gatesPass gatePlatform gateOptions canaryRoomId gatePod [twoRatesScrape] = true →
    SamplesWithin gateOptions canaryRoomId gatePod [twoRatesScrape]) := by
  intro h
  have hpass : gatesPass gatePlatform gateOptions canaryRoomId gatePod [twoRatesScrape] = true := by decide +kernel
  have hrate : (30 : ℚ) ≤ 10 := h hpass twoRatesScrape List.mem_cons_self _ rfl .tickRate
    ⟨"game_tick_rate", some canaryRoomId, 10⟩ (List.mem_filter.2 ⟨by simp, by decide⟩)
  exact absurd hrate (by decide)

end Canary

end Opsia
