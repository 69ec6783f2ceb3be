import Opsia.Candidate.Patch

/-!
# Deltas round trip

Applying the delta between two created envelopes patches the base payload exactly as `patched` says
(`apply_create_eq`); what is left is whether the envelope that comes out verifies.  With sorted-key checksums it does
when the target's own metadata would (`delta_round_trip_canonical`).  With ordered checksums the patched keys must also
stand in the target's order (`delta_round_trip_ordered`).
-/

namespace Opsia

open Json

/-! ### Keys -/

mutual

/-- No key of the value is one that a path may not contain. -/
def avoidsUnsafeKeys : JsValue → Bool
  | .arr items => avoidsUnsafeItems items
  | .obj fields => avoidsUnsafeFields fields
  | _ => true

def avoidsUnsafeItems : List JsValue → Bool
  | [] => true
  | v :: vs => avoidsUnsafeKeys v && avoidsUnsafeItems vs

def avoidsUnsafeFields : List (String × JsValue) → Bool
  | [] => true
  | (k, v) :: fs => !unsafePathKey k && avoidsUnsafeKeys v && avoidsUnsafeFields fs

end

@[simp] theorem avoidsUnsafeKeys_arr {items : List JsValue} :
    avoidsUnsafeKeys (.arr items) = true ↔ ∀ v ∈ items, avoidsUnsafeKeys v = true := by
  rw [avoidsUnsafeKeys]
  induction items with
  | nil => simp [avoidsUnsafeItems]
  | cons v vs ih => simp [avoidsUnsafeItems, ih]

@[simp] theorem avoidsUnsafeKeys_obj {fields : Fields JsValue} :
    avoidsUnsafeKeys (.obj fields) = true ↔ ∀ f ∈ fields, unsafePathKey f.1 = false ∧ avoidsUnsafeKeys f.2 = true := by
  rw [avoidsUnsafeKeys]
  induction fields with
  | nil => simp [avoidsUnsafeFields]
  | cons f fs ih =>
    obtain ⟨k, v⟩ := f
    simp only [avoidsUnsafeFields, Bool.and_eq_true, Bool.not_eq_true', ih, List.mem_cons, forall_eq_or_imp]

theorem avoidsUnsafeKeys_detach (v : JsValue) (h : avoidsUnsafeKeys v = true) : avoidsUnsafeKeys v.detach = true := by
  induction v using JsValue.induct with
  | num x => cases hx : x.throughText <;> simp [JsValue.detach, hx, avoidsUnsafeKeys]
  | arr items ih =>
    rw [avoidsUnsafeKeys_arr] at h
    rw [JsValue.detach_arr, avoidsUnsafeKeys_arr]
    intro w hw
    obtain ⟨v, hv, rfl⟩ := List.mem_map.1 hw
    have hv' := ih v hv (h v hv)
    cases hd : v.detach <;> simp_all [JsValue.orNull, avoidsUnsafeKeys]
  | obj fields ih =>
    rw [avoidsUnsafeKeys_obj] at h
    rw [JsValue.detach_obj, avoidsUnsafeKeys_obj]
    intro g hg
    obtain ⟨f, hf, rfl⟩ := List.mem_map.1 hg
    have hm : f ∈ fields := (List.mem_filter.1 hf).1
    exact ⟨(h f hm).1, ih f hm (h f hm).2⟩
  | _ => simp [JsValue.detach, avoidsUnsafeKeys]

/-! ### Operations survive being written down -/

/-- An index in the range of safe integers, or a key with the property. -/
def PathSegment.Over (K : String → Prop) : PathSegment → Prop
  | key k => K k
  | index n => n ≤ 9007199254740991

/-- The segment is one that `validatePath` accepts. -/
def PathSegment.Valid : PathSegment → Prop := PathSegment.Over fun k => unsafePathKey k = false

namespace SnapshotDeltaOperation

/-- The operation is one that a comparison of payloads emits, when their keys have the property. -/
def Over (K : String → Prop) : SnapshotDeltaOperation → Prop
  | set p v => (∀ s ∈ p, s.Over K) ∧ v.Plain
  | delete p => ∀ s ∈ p, s.Over K
  | truncate p n => (∀ s ∈ p, s.Over K) ∧ n ≤ 9007199254740991

/-- The operation is one that can be read back. -/
def Valid : SnapshotDeltaOperation → Prop := Over fun k => unsafePathKey k = false

theorem Valid.path {op : SnapshotDeltaOperation} (h : op.Valid) : ∀ s ∈ op.path, s.Valid := by
  cases op with
  | set p v => exact h.1
  | delete p => exact h
  | truncate p n => exact h.1

private theorem validateSegment_toJs {s : PathSegment} (h : s.Valid) : validateSegment s.toJs = some s := by
  cases s with
  | key k =>
    have hk : unsafePathKey k = false := h
    simp [PathSegment.toJs, validateSegment, hk]
  | index n =>
    have hn : (JsNumber.ofNat n).safeNat? = some ⟨n, h⟩ := JsNumber.safeNat?_ofNat ⟨n, h⟩
    simp [PathSegment.toJs, validateSegment, hn]

private theorem validatePath_toJs {p : Path} (hl : p.length ≤ 64) (h : ∀ s ∈ p, s.Valid) :
    validatePath (.arr (p.map PathSegment.toJs)) = .ok p := by
  have hm : (p.map PathSegment.toJs).mapM validateSegment = some p := by
    clear hl
    induction p with
    | nil => rfl
    | cons s p ih =>
      rw [List.map_cons, List.mapM_cons, validateSegment_toJs (h s (by simp)), ih fun t ht => h t (by simp [ht])]
      rfl
  simp only [validatePath, List.length_map, Nat.not_lt.2 hl, if_false, hm, orThrow]

/-- Reading and applying a written operation is applying the operation. -/
theorem applyOperation_toJs {op : SnapshotDeltaOperation} (hl : op.path.length ≤ 64) (h : op.Valid) (payload : JsValue) :
    applyOperation payload op.toJs = op.apply payload := by
  have hpath := validatePath_toJs hl h.path
  cases op with
  | set p v =>
    have hu : v.isUndefined = false := h.2.isUndefined
    simp only [SnapshotDeltaOperation.path] at hpath
    simp [applyOperation, toJs, JsValue.asRecord?, orThrow, JsValue.field, Fields.get?, JsValue.asStr?, hpath, refuse, hu,
      apply, bind, Except.bind]
  | delete p =>
    simp only [SnapshotDeltaOperation.path] at hpath
    simp [applyOperation, toJs, JsValue.asRecord?, orThrow, JsValue.field, Fields.get?, JsValue.asStr?, hpath,
      apply, bind, Except.bind]
  | truncate p n =>
    have hn : (JsNumber.ofNat n).safeNat? = some ⟨n, h.2⟩ := JsNumber.safeNat?_ofNat ⟨n, h.2⟩
    simp only [SnapshotDeltaOperation.path] at hpath
    simp [applyOperation, toJs, JsValue.asRecord?, orThrow, JsValue.field, Fields.get?, JsValue.asStr?, hpath,
      JsValue.asSafeNat?, JsValue.asNum?, hn, apply, bind, Except.bind]

theorem foldlM_toJs {ops : List SnapshotDeltaOperation} (hl : ∀ op ∈ ops, op.path.length ≤ 64)
    (h : ∀ op ∈ ops, op.Valid) (payload : JsValue) :
    (ops.map toJs).foldlM applyOperation payload = run ops payload := by
  induction ops generalizing payload with
  | nil => rfl
  | cons op ops ih =>
    have ih := ih (fun o ho => hl o (by simp [ho])) fun o ho => h o (by simp [ho])
    unfold run at ih ⊢
    rw [List.map_cons, List.foldlM_cons, List.foldlM_cons, applyOperation_toJs (hl op (by simp)) (h op (by simp))]
    exact bind_congr ih

private theorem eq_of_validateSegment {s t : PathSegment} (h : validateSegment s.toJs = some t) : t = s := by
  cases s with
  | key k =>
    simp only [PathSegment.toJs, validateSegment] at h
    split at h
    · cases h
    · cases h
      rfl
  | index n =>
    simp only [PathSegment.toJs, validateSegment] at h
    obtain ⟨m, hm, rfl⟩ := Option.map_eq_some_iff.1 h
    obtain ⟨k, hk, hkm⟩ := Option.bind_eq_some_iff.1 hm
    cases hkm
    rw [JsNumber.eq_of_safeNat?_ofNat hk]

private theorem eq_of_validatePath {p q : Path} (h : validatePath (.arr (p.map PathSegment.toJs)) = .ok q) : q = p := by
  have hm : ∀ (p q : Path), (p.map PathSegment.toJs).mapM validateSegment = some q → q = p := by
    intro p
    induction p with
    | nil =>
      intro q hq
      cases hq
      rfl
    | cons s p ih =>
      intro q hq
      rw [List.map_cons, List.mapM_cons] at hq
      obtain ⟨t, ht, hq⟩ := Option.bind_eq_some_iff.1 hq
      obtain ⟨r, hr, hq⟩ := Option.bind_eq_some_iff.1 hq
      cases hq
      rw [eq_of_validateSegment ht, ih r hr]
  unfold validatePath at h
  dsimp only at h
  split at h
  · cases h
  · exact hm p q (orThrow_eq_ok.1 h)

/-- A written operation that can be read and applied has the effect of the operation. -/
theorem apply_of_applyOperation {op : SnapshotDeltaOperation} {payload w : JsValue}
    (h : applyOperation payload op.toJs = .ok w) : op.apply payload = .ok w := by
  unfold applyOperation at h
  simp only [bind_eq_ok, orThrow_eq_ok] at h
  obtain ⟨fs, hfs, name, hname, path, hpath, h⟩ := h
  cases op with
  | set p v =>
    cases hfs
    obtain rfl : "set" = name := Option.some.inj hname
    obtain rfl : path = p := eq_of_validatePath hpath
    simp only [if_true, bind_eq_ok, orThrow_eq_ok, refuse_eq_ok] at h
    obtain ⟨value, hvalue, _, -, h⟩ := h
    obtain rfl : v = value := Option.some.inj hvalue
    exact h
  | delete p =>
    cases hfs
    obtain rfl : "delete" = name := Option.some.inj hname
    obtain rfl : path = p := eq_of_validatePath hpath
    simp only [String.reduceEq, if_false, if_true] at h
    exact h
  | truncate p n =>
    cases hfs
    obtain rfl : "truncate" = name := Option.some.inj hname
    obtain rfl : path = p := eq_of_validatePath hpath
    simp only [if_true, bind_eq_ok, orThrow_eq_ok, String.reduceEq, if_false] at h
    obtain ⟨m, hm, h⟩ := h
    have hmn : m.val = n := JsNumber.eq_of_safeNat?_ofNat hm
    rw [hmn] at h
    exact h

theorem run_of_foldlM {ops : List SnapshotDeltaOperation} {payload w : JsValue}
    (h : (ops.map toJs).foldlM applyOperation payload = .ok w) : run ops payload = .ok w := by
  induction ops generalizing payload with
  | nil => exact h
  | cons op ops ih =>
    rw [List.map_cons, List.foldlM_cons] at h
    obtain ⟨v, hv, h⟩ := bind_eq_ok.1 h
    rw [run_cons (apply_of_applyOperation hv)]
    exact ih h

end SnapshotDeltaOperation

open SnapshotDeltaOperation

private theorem over_append {K : String → Prop} {path : Path} (hpath : ∀ s ∈ path, s.Over K) {s : PathSegment}
    (hs : s.Over K) : ∀ t ∈ path ++ [s], t.Over K := by
  intro t ht
  rcases List.mem_append.1 ht with ht | ht
  · exact hpath t ht
  · rw [List.mem_singleton.1 ht]; exact hs

/-- The operations between two parsed values have the properties that the values have throughout. -/
theorem appendDeltaOperations_over {K : String → Prop} {S : JsValue → Prop}
    (harr : ∀ items, S (.arr items) → ∀ v ∈ items, S v) (hobj : ∀ fs, S (.obj fs) → ∀ f ∈ fs, K f.1 ∧ S f.2)
    (v : JsValue) (hp : v.Plain) (hw : v.WellFormed) (hs : S v) (b : JsValue) (hb : S b) (path : Path)
    (hpath : ∀ s ∈ path, s.Over K) : ∀ op ∈ appendDeltaOperations b v path, op.Over K := by
  have hset : ∀ (v : JsValue) (path : Path), v.Plain → (∀ s ∈ path, s.Over K) →
      (SnapshotDeltaOperation.set path (cloneJson v)).Over K := by
    intro v path hv hpath
    exact ⟨hpath, JsValue.plain_detach v hv.isUndefined⟩
  have hother : ∀ (v b : JsValue) (path : Path), v.Plain → (∀ s ∈ path, s.Over K) → ¬SameShape b v →
      ∀ op ∈ appendDeltaOperations b v path, op.Over K := by
    intro v b path hv hpath hshape op hop
    rw [appendDeltaOperations_other hshape] at hop
    split at hop
    · cases hop
    · rw [List.mem_singleton.1 hop]; exact hset v path hv hpath
  induction v using JsValue.induct generalizing b path with
  | arr items ih =>
    by_cases h : SameShape b (.arr items)
    · cases b with
      | arr bs =>
        rw [JsValue.plain_arr] at hp
        rw [JsValue.wellFormed_arr] at hw
        have hs := harr items hs
        have hb := harr bs hb
        have hitems : ∀ (vs bs : List JsValue) (i : Nat), (∀ v ∈ vs, v ∈ items) → i + vs.length ≤ items.length →
            (∀ b ∈ bs, S b) → ∀ op ∈ appendItemOperations bs vs i path, op.Over K := by
          intro vs
          induction vs with
          | nil => intro bs i _ _ _ op hop; cases bs <;> simp [appendItemOperations] at hop
          | cons v vs ihv =>
            intro bs i hm hi hbs op hop
            simp only [List.length_cons] at hi
            have hidx := over_append hpath (show (PathSegment.index i).Over K by simp only [PathSegment.Over]; omega)
            have hv := hm v (by simp)
            have hrest := fun bs hb => ihv bs (i + 1) (fun w hw => hm w (by simp [hw])) (by omega) hb op
            cases bs with
            | nil =>
              rw [appendItemOperations] at hop
              rcases List.mem_cons.1 hop with rfl | hop
              · exact hset v _ (hp v hv) hidx
              · exact hrest [] (by simp) hop
            | cons b bs =>
              rw [appendItemOperations] at hop
              rcases List.mem_append.1 hop with hop | hop
              · exact ih v hv (hp v hv) (hw.2 v hv) (hs v hv) b (hbs b (by simp)) _ hidx op hop
              · exact hrest bs (fun c hc => hbs c (by simp [hc])) hop
        intro op hop
        rw [appendDeltaOperations] at hop
        rcases List.mem_append.1 hop with hop | hop
        · exact hitems items bs 0 (fun _ h => h) (by omega) hb op hop
        · split at hop
          · rw [List.mem_singleton.1 hop]
            exact ⟨hpath, by omega⟩
          · cases hop
      | _ => exact absurd h (by simp [SameShape])
    · exact hother _ b path hp hpath h
  | obj fs ih =>
    by_cases h : SameShape b (.obj fs)
    · cases b with
      | obj bs =>
        rw [JsValue.plain_obj] at hp
        rw [JsValue.wellFormed_obj] at hw
        have hs := hobj fs hs
        have hb := hobj bs hb
        intro op hop
        rw [appendDeltaOperations_obj] at hop
        rcases List.mem_append.1 hop with hop | hop
        · obtain ⟨k, hk, rfl⟩ := List.mem_map.1 hop
          have hkm : k ∈ Fields.keys bs := (List.mem_insertionSort _).1 (List.mem_filter.1 hk).1
          obtain ⟨f, hf, rfl⟩ := List.mem_map.1 hkm
          exact over_append hpath (hb f hf).1
        · obtain ⟨f, hf, hop⟩ := List.mem_flatMap.1 hop
          have hm : f ∈ fs := Fields.mem_sortByKey.1 hf
          have hkey := over_append hpath (show (PathSegment.key f.1).Over K from (hs f hm).1)
          unfold fieldOperations at hop
          split at hop
          · rename_i c hc
            exact ih f hm (hp f hm) (hw.2 f hm) (hs f hm).2 c (hb _ (Fields.mem_of_get? hc)).2 _ hkey op hop
          · rw [List.mem_singleton.1 hop]
            exact hset f.2 _ (hp f hm) hkey
      | _ => exact absurd h (by simp [SameShape])
    · exact hother _ b path hp hpath h
  | _ => exact hother _ b path hp hpath (by cases b <;> simp [SameShape])

/-- Every operation between two parsed values that avoid the unsafe keys is valid. -/
theorem appendDeltaOperations_valid (v : JsValue) (hp : v.Plain) (hw : v.WellFormed) (hs : avoidsUnsafeKeys v = true)
    (b : JsValue) (hb : avoidsUnsafeKeys b = true) (path : Path) (hpath : ∀ s ∈ path, s.Valid) :
    ∀ op ∈ appendDeltaOperations b v path, op.Valid :=
  appendDeltaOperations_over (S := fun v => avoidsUnsafeKeys v = true) (fun _ h => avoidsUnsafeKeys_arr.1 h)
    (fun _ h => avoidsUnsafeKeys_obj.1 h) v hp hw hs b hb path hpath

/-! ### The delta between two created envelopes -/

namespace GameSnapshotEnvelope

/-- What verification asks of an envelope's own metadata and creation does not. -/
def MetadataVerifies (e : GameSnapshotEnvelope) : Prop :=
  e.gameBuildRevision ≠ "" ∧ e.createdAt.safeNat?.isSome ∧ ∀ id ∈ (JsValue.field e.payload "roomId").asStr?, id = e.roomId

/-- The operations between two envelopes, as `createSnapshotEnvelopeDelta` lists them. -/
def operationsTo (base target : GameSnapshotEnvelope) : List SnapshotDeltaOperation :=
  appendDeltaOperations (cloneJson (.obj base.payload)) (cloneJson (.obj target.payload)) []

/-- The payload that patching the base towards the target leaves. -/
def patchedPayload (base target : GameSnapshotEnvelope) : Fields JsValue :=
  patchedObject (Fields.mapValues JsValue.detach (JsValue.defined base.payload))
    (Fields.mapValues JsValue.detach (JsValue.defined target.payload))

end GameSnapshotEnvelope

/-- Two envelopes between which a delta is meant to work: both created, for one room and epoch, the target later, with
payloads that avoid the unsafe keys, and the delta inside the limits of the format. -/
structure DeltaPair (sha256 : List Char → HexDigest) (base target : GameSnapshotEnvelope) : Prop where
  baseCreated : ∃ payload context, createSnapshotEnvelope sha256 payload context = .ok base
  targetCreated : ∃ payload context, createSnapshotEnvelope sha256 payload context = .ok target
  sameRoom : base.roomId = target.roomId
  sameEpoch : base.roomEpoch = target.roomEpoch
  later : base.serverTick < target.serverTick
  baseWellFormed : (JsValue.obj base.payload).WellFormed
  targetWellFormed : (JsValue.obj target.payload).WellFormed
  baseKeys : avoidsUnsafeKeys (.obj base.payload) = true
  targetKeys : avoidsUnsafeKeys (.obj target.payload) = true
  operations : (base.operationsTo target).length ≤ 250000
  depth : ∀ op ∈ base.operationsTo target, op.path.length ≤ 64

/-- What is read in the patched payload at a key. -/
private theorem field_patchedPayload (base : GameSnapshotEnvelope) {target : GameSnapshotEnvelope}
    (ht : (JsValue.obj target.payload).WellFormed) (key : String) :
    ∃ b, JsValue.field (base.patchedPayload target) key = patched b (JsValue.field target.payload key).detach := by
  rw [JsValue.wellFormed_obj] at ht
  have hw := JsValue.wellFormed_detach (.obj target.payload) (by rw [JsValue.wellFormed_obj]; exact ht)
  rw [JsValue.detach_obj, JsValue.wellFormed_obj] at hw
  have hf := JsValue.field_detach ht.1.nodup key
  have hnone : ∀ v, patched .undefined v = v := fun v => patched_other (by cases v <;> simp [SameShape])
  rw [← hf]
  unfold JsValue.field GameSnapshotEnvelope.patchedPayload
  rw [get?_patchedObject _ hw.1.nodup]
  cases hv : Fields.get? (Fields.mapValues JsValue.detach (JsValue.defined target.payload)) key with
  | none => exact ⟨.undefined, (hnone _).symm⟩
  | some v =>
    simp only [Option.map_some, Option.getD_some]
    unfold patchedField
    cases hb : Fields.get? (Fields.mapValues JsValue.detach (JsValue.defined base.payload)) key with
    | none => exact ⟨.undefined, (hnone v).symm⟩
    | some c => exact ⟨c, rfl⟩

private theorem asStr?_patched (b v : JsValue) : (patched b v).asStr? = v.asStr? := by
  cases v <;> cases b <;> simp [patched, JsValue.asStr?]

private theorem asSafeNat?_patched (b v : JsValue) : (patched b v).asSafeNat? = v.asSafeNat? := by
  cases v <;> cases b <;> simp [patched, JsValue.asSafeNat?, JsValue.asNum?]

theorem asStr?_detach (v : JsValue) : v.detach.asStr? = v.asStr? := by
  cases v with
  | num x => cases h : x.throughText <;> simp [JsValue.detach, h, JsValue.asStr?]
  | _ => simp [JsValue.detach, JsValue.asStr?]

theorem asSafeNat?_detach {v : JsValue} {n : SafeNat} (h : v.asSafeNat? = some n) : v.detach.asSafeNat? = some n := by
  cases v with
  | num x =>
    cases x with
    | finite d => exact h
    | negZero =>
      have hz : (JsNumber.ofNat 0).safeNat? = JsNumber.negZero.safeNat? := rfl
      simpa [JsValue.detach, JsNumber.throughText, JsValue.asSafeNat?, JsValue.asNum?, hz] using h
    | _ => simp [JsValue.asSafeNat?, JsValue.asNum?, JsNumber.safeNat?, JsNumber.safeInteger?] at h
  | _ => simp [JsValue.asSafeNat?, JsValue.asNum?] at h

section

variable {sha256 : List Char → HexDigest} {base target : GameSnapshotEnvelope}

/-- The envelope that comes out of patching, before verification. -/
def GameSnapshotEnvelope.patchedTowards (base target : GameSnapshotEnvelope) : GameSnapshotEnvelope :=
  { target with payload := base.patchedPayload target }

namespace DeltaPair

private theorem before_wellFormed (h : DeltaPair sha256 base target) : (cloneJson (.obj base.payload)).WellFormed :=
  JsValue.wellFormed_detach _ h.baseWellFormed

private theorem after_wellFormed (h : DeltaPair sha256 base target) : (cloneJson (.obj target.payload)).WellFormed :=
  JsValue.wellFormed_detach _ h.targetWellFormed

private theorem after_plain (target : GameSnapshotEnvelope) : (cloneJson (.obj target.payload)).Plain :=
  JsValue.plain_detach _ rfl

theorem patched_clone (base target : GameSnapshotEnvelope) :
    patched (cloneJson (.obj base.payload)) (cloneJson (.obj target.payload)) = .obj (base.patchedPayload target) := by
  unfold cloneJson GameSnapshotEnvelope.patchedPayload
  rw [JsValue.detach_obj, JsValue.detach_obj, patched_obj]

/-- Replaying the written operations on a copy of the base payload gives the patched payload. -/
private theorem replay (h : DeltaPair sha256 base target) :
    ((base.operationsTo target).map toJs).foldlM applyOperation (cloneJson (.obj base.payload)) =
      .ok (.obj (base.patchedPayload target)) := by
  have hvalid := appendDeltaOperations_valid _ (after_plain target) h.after_wellFormed
    (avoidsUnsafeKeys_detach _ h.targetKeys) _ (avoidsUnsafeKeys_detach _ h.baseKeys) [] (by simp)
  rw [foldlM_toJs h.depth hvalid]
  unfold GameSnapshotEnvelope.operationsTo
  rw [run_appendDeltaOperations _ (after_plain target) h.after_wellFormed _ h.before_wellFormed, patched_clone]

/-- The record that is verified has the fields of the patched envelope. -/
theorem field_reconstructed (base target : GameSnapshotEnvelope) (key : String) :
    JsValue.field (Fields.assign (Fields.remove target.toRecord "payload") "payload"
      (.obj (base.patchedPayload target))) key = JsValue.field (base.patchedTowards target).toRecord key := by
  rw [JsValue.field_assign, JsValue.field_remove]
  have hhead : (base.patchedTowards target).header = target.header := rfl
  have hpayload : Fields.get? target.header "payload" = none := by
    unfold GameSnapshotEnvelope.header
    cases target.checksumEncoding <;> rfl
  unfold JsValue.field GameSnapshotEnvelope.toRecord
  rw [hhead, Fields.get?_append, Fields.get?_append]
  by_cases hk : key = "payload"
  · subst hk
    rw [hpayload]
    rfl
  · rw [if_neg hk, if_neg hk]
    simp [Fields.get?, Ne.symm hk]
    rfl

/-- Applying the created delta is verifying the patched envelope. -/
theorem apply_create (h : DeltaPair sha256 base target) : ∃ delta, createSnapshotEnvelopeDelta base target = .ok delta ∧
    ∀ e, applySnapshotEnvelopeDelta sha256 base delta.toJs = .ok e ↔
      e = base.patchedTowards target ∧ (base.patchedTowards target).FieldChecks ∧
        ∃ calculated, envelopeChecksum sha256 (base.patchedTowards target) = .ok calculated ∧
          hexBytes target.checksum.toList = hexBytes calculated.toList := by
  have hctx : ¬(base.roomId ≠ target.roomId ∨ base.roomEpoch ≠ target.roomEpoch ∨ target.serverTick ≤ base.serverTick) := by
    have := h.later
    rw [h.sameRoom, h.sameEpoch]
    simpa using this
  refine ⟨⟨base.checksum, base.serverTick, target.toRecord.remove "payload", base.operationsTo target⟩, ?_, ?_⟩
  · simp only [createSnapshotEnvelopeDelta, refuse, hctx, if_false]
    rfl
  intro e
  have hone : (JsNumber.ofNat 1).safeNat? = some ⟨1, by decide⟩ := JsNumber.safeNat?_ofNat ⟨1, by decide⟩
  have htick : (JsNumber.ofNat base.serverTick).safeNat? = some base.serverTick := JsNumber.safeNat?_ofNat _
  have hread : readDelta? base
      (SnapshotEnvelopeDelta.toJs ⟨base.checksum, base.serverTick, target.toRecord.remove "payload", base.operationsTo target⟩) =
      some (target.toRecord.remove "payload", (base.operationsTo target).map toJs) := by
    simp [readDelta?, SnapshotEnvelopeDelta.toJs, JsValue.asRecord?, JsValue.field, Fields.get?, JsValue.asStr?,
      JsValue.asSafeNat?, JsValue.asNum?, asArray?, hone, htick, h.operations, guard]
  have hrecord := readEnvelope?_eq (field_reconstructed base target)
  unfold applySnapshotEnvelopeDelta
  simp only [hread, orThrow, bind_eq_ok, Except.ok.injEq, exists_eq_left', h.replay,
    verifySnapshotEnvelope_eq_ok, JsValue.asRecord?, Option.bind_some, hrecord, refuse_eq_ok]
  constructor
  · rintro ⟨e', ⟨he, _, _, calculated, hc, hhex⟩, _, _, hret⟩
    cases hret
    split at he
    · cases he
      exact ⟨rfl, by assumption, calculated, hc, hhex⟩
    · cases he
  · rintro ⟨rfl, hchecks, calculated, hc, hhex⟩
    refine ⟨base.patchedTowards target, ⟨by rw [if_pos hchecks], by simp, by simp, calculated, hc, hhex⟩, (), ?_, rfl⟩
    have := h.later
    simp only [GameSnapshotEnvelope.patchedTowards, h.sameRoom, h.sameEpoch]
    simpa using this

/-- The patched envelope passes the field checks when the target's metadata does. -/
theorem fieldChecks_iff (h : DeltaPair sha256 base target) :
    (base.patchedTowards target).FieldChecks ↔ target.MetadataVerifies := by
  obtain ⟨payload, context, hcreate⟩ := h.targetCreated
  obtain ⟨hpay, -, hroom, -, -, -, hschema, hsum⟩ := createSnapshotEnvelope_eq_ok sha256 hcreate
  rw [envelopeChecksum_checksum] at hsum
  obtain ⟨text, -, htext⟩ := (envelopeChecksum_eq_ok sha256).1 hsum
  have hlen : (utf16 target.checksum).length = 64 := by rw [← htext]; exact (sha256 text).utf16_length
  have hseed := envelopeChecksum_mapSeed sha256 hsum
  obtain ⟨b, hb⟩ := field_patchedPayload base h.targetWellFormed "roomId"
  obtain ⟨c, hc⟩ := field_patchedPayload base h.targetWellFormed "schemaVersion"
  rw [← hpay] at hschema
  obtain ⟨hsome, hpos⟩ := Option.filter_eq_some_iff.1 hschema
  have hs : (JsValue.field (base.patchedPayload target) "schemaVersion").asSafeNat? = some target.payloadSchemaVersion := by
    rw [hc, asSafeNat?_patched, asSafeNat?_detach hsome]
  have hr : (JsValue.field (base.patchedPayload target) "roomId").asStr? = (JsValue.field target.payload "roomId").asStr? := by
    rw [hb, asStr?_patched, asStr?_detach]
  unfold GameSnapshotEnvelope.FieldChecks GameSnapshotEnvelope.MetadataVerifies GameSnapshotEnvelope.patchedTowards
  simp only [hs, hr]
  constructor
  · rintro ⟨-, -, hrev, -, hcreated, -, -, hid⟩
    exact ⟨hrev, hcreated, hid⟩
  · rintro ⟨hrev, hcreated, hid⟩
    exact ⟨hlen, hroom, hrev, hseed, hcreated, by simpa using hpos, trivial, hid⟩

private theorem patchedPayload_plain (h : DeltaPair sha256 base target) : (JsValue.obj (base.patchedPayload target)).Plain := by
  rw [← patched_clone]
  exact patched_plain _ (after_plain target) h.after_wellFormed _ h.before_wellFormed

theorem patchedPayload_wellFormed (h : DeltaPair sha256 base target) :
    (JsValue.obj (base.patchedPayload target)).WellFormed := by
  rw [← patched_clone]
  exact patched_wellFormed _ h.after_wellFormed _ h.before_wellFormed

/-- The patched payload is the target's, up to key order. -/
theorem patchedPayload_same (h : DeltaPair sha256 base target) :
    JsValue.SameUpToKeyOrder (.obj (base.patchedPayload target)) (cloneJson (.obj target.payload)) := by
  rw [← patched_clone]
  exact patched_same _ h.after_wellFormed _ h.before_wellFormed

private theorem patchedPayload_detach (h : DeltaPair sha256 base target) :
    (JsValue.obj (base.patchedPayload target)).detach = .obj (base.patchedPayload target) :=
  JsValue.detach_of_plain _ h.patchedPayload_plain

private theorem content_same (h : DeltaPair sha256 base target) :
    JsValue.SameUpToKeyOrder (base.patchedTowards target).content.detach target.content.detach := by
  have hp : (JsValue.obj (base.patchedPayload target)).detach.sortKeys = (JsValue.obj target.payload).detach.sortKeys := by
    rw [h.patchedPayload_detach]
    exact h.patchedPayload_same
  have hhead : (base.patchedTowards target).header = target.header := rfl
  have hpay : (base.patchedTowards target).payload = base.patchedPayload target := rfl
  unfold JsValue.SameUpToKeyOrder GameSnapshotEnvelope.content
  rw [JsValue.detach_obj, JsValue.detach_obj, JsValue.sortKeys_obj, JsValue.sortKeys_obj, hhead, hpay]
  congr 2
  simp only [JsValue.defined, List.filter_append, Fields.mapValues, List.map_append]
  congr 1
  simp only [List.filter_cons, JsValue.isUndefined, Bool.not_false, if_true, List.filter_nil, List.map_cons, List.map_nil, hp]

private theorem content_canonical (h : DeltaPair sha256 base target) (hc : Canonical target.content) :
    Canonical (base.patchedTowards target).content := by
  have hhead : (base.patchedTowards target).header = target.header := rfl
  unfold GameSnapshotEnvelope.content at hc ⊢
  rw [canonical_obj] at hc ⊢
  intro f hf
  obtain ⟨hm, hu⟩ := List.mem_filter.1 hf
  rw [hhead] at hm
  rcases List.mem_append.1 hm with hm | hm
  · exact hc f (List.mem_filter.2 ⟨List.mem_append_left _ hm, hu⟩)
  · rw [List.mem_singleton.1 hm]
    exact canonical_of_plain _ h.patchedPayload_plain

private theorem target_checksum (h : DeltaPair sha256 base target) :
    envelopeChecksum sha256 target = .ok target.checksum := by
  obtain ⟨payload, context, hcreate⟩ := h.targetCreated
  obtain ⟨-, -, -, -, -, -, -, hsum⟩ := createSnapshotEnvelope_eq_ok sha256 hcreate
  rwa [envelopeChecksum_checksum] at hsum

/-- With sorted-key checksums the patched envelope has the checksum of the target. -/
theorem canonical_checksum (h : DeltaPair sha256 base target) (ht : target.checksumEncoding = some .canonicalJson) :
    envelopeChecksum sha256 (base.patchedTowards target) = .ok target.checksum := by
  have henc : (base.patchedTowards target).checksumEncoding = some .canonicalJson := ht
  obtain ⟨text, htext, hsum⟩ := (envelopeChecksum_eq_ok sha256).1 h.target_checksum
  simp only [checksumText, ht, reduceCtorEq, Option.some.injEq, if_false] at htext
  refine (envelopeChecksum_eq_ok sha256).2 ⟨text, ?_, hsum⟩
  simp only [checksumText, henc, reduceCtorEq, Option.some.injEq, if_false]
  rw [canonicalJson_congr (h.content_canonical ⟨text, htext⟩) ⟨text, htext⟩ h.content_same, htext]

end DeltaPair

end

/-! ### Sample envelopes -/

namespace Sample

/-- A digest function given by its values on the checksum texts of some envelopes. -/
def digestTable (table : List (GameSnapshotEnvelope × HexDigest)) (other : HexDigest) (text : List Char) : HexDigest :=
  match table.find? fun row => decide (checksumText row.1 = .ok text) with
  | some row => row.2
  | none => other

theorem checksumText_of_digestTable {table : List (GameSnapshotEnvelope × HexDigest)} {other d : HexDigest}
    {text : List Char} (h : digestTable table other text = d) (hd : d ≠ other) :
    ∃ row ∈ table, row.2 = d ∧ checksumText row.1 = .ok text := by
  unfold digestTable at h
  split at h
  · rename_i row hrow
    exact ⟨row, List.mem_of_find?_eq_some hrow, h, by simpa using List.find?_some hrow⟩
  · exact absurd h.symm hd

def payload (encoding world : Fields JsValue) : Fields JsValue :=
  [("schemaVersion", .num (.ofNat 3))] ++ encoding ++ [("world", .obj world)]

/-- The field by which a payload asks for an ordered checksum. -/
def orderedMark : Fields JsValue := [("stateChecksumAlgorithm", .str "ordered-json-sha256")]

def context (serverTick snapshotTick : Nat) (gameBuildRevision : String) : SnapshotEnvelopeContext where
  roomId := "room-1"
  roomEpoch := .ofNat 1
  serverTick := .ofNat serverTick
  snapshotTick := .ofNat snapshotTick
  gameBuildRevision
  mapSeed := .ofNat 7
  createdAt := .ofNat (serverTick * 100)

def envelope (serverTick snapshotTick : SafeNat) (gameBuildRevision : String) (encoding world : Fields JsValue)
    (digest : HexDigest) : GameSnapshotEnvelope where
  payloadSchemaVersion := ⟨3, by decide⟩
  roomId := "room-1"
  roomEpoch := ⟨1, one_safe⟩
  serverTick
  snapshotTick
  gameBuildRevision
  mapSeed := .ofNat 7
  createdAt := .ofNat (serverTick * 100)
  checksumEncoding := some (payloadEncoding (payload encoding world))
  checksum := digest.text
  payload := payload encoding world

def world : Fields JsValue := [("id", .num (.ofNat 1)), ("layer", .num (.ofNat 0))]

/-- The world with an optional field between the two others. -/
def worldInserted : Fields JsValue := [("id", .num (.ofNat 1)), ("dead", .bool true), ("layer", .num (.ofNat 0))]

/-- The world with the optional field at the end. -/
def worldAppended : Fields JsValue := [("id", .num (.ofNat 1)), ("layer", .num (.ofNat 0)), ("dead", .bool true)]

theorem payload_wellFormed {encoding world : Fields JsValue} (he : encoding = [] ∨ encoding = orderedMark)
    (h : (JsValue.obj world).WellFormed) : (JsValue.obj (payload encoding world)).WellFormed := by
  rw [JsValue.wellFormed_obj]
  rcases he with rfl | rfl
  · refine ⟨⟨?_, ?_⟩, ?_⟩
    · show ["schemaVersion", "world"].Nodup
      decide
    · show ["schemaVersion", "world"].Pairwise fun a b => precedes b a = false
      decide
    · intro f hf
      simp only [payload, List.append_nil, List.cons_append, List.nil_append, List.mem_cons, List.not_mem_nil,
        or_false] at hf
      rcases hf with rfl | rfl
      · simp [JsValue.WellFormed]
      · exact h
  · refine ⟨⟨?_, ?_⟩, ?_⟩
    · show ["schemaVersion", "stateChecksumAlgorithm", "world"].Nodup
      decide
    · show ["schemaVersion", "stateChecksumAlgorithm", "world"].Pairwise fun a b => precedes b a = false
      decide
    · intro f hf
      simp only [payload, orderedMark, List.cons_append, List.nil_append, List.mem_cons, List.not_mem_nil, or_false] at hf
      rcases hf with rfl | rfl | rfl
      · simp [JsValue.WellFormed]
      · simp [JsValue.WellFormed]
      · exact h

theorem world_wellFormed : (JsValue.obj world).WellFormed := by
  rw [JsValue.wellFormed_obj]
  exact ⟨⟨by decide, by decide⟩, by simp [world, JsValue.WellFormed]⟩

theorem worldInserted_wellFormed : (JsValue.obj worldInserted).WellFormed := by
  rw [JsValue.wellFormed_obj]
  exact ⟨⟨by decide, by decide⟩, by simp [worldInserted, JsValue.WellFormed]⟩

private theorem worldAppended_wellFormed : (JsValue.obj worldAppended).WellFormed := by
  rw [JsValue.wellFormed_obj]
  exact ⟨⟨by decide, by decide⟩, by simp [worldAppended, JsValue.WellFormed]⟩

end Sample

/-! ### Sorted-key checksums -/

namespace Sample

def canonicalBaseDigest : HexDigest :=
  ⟨"23630456b9e5a3d27b0124f6938b8c4622a28496b26799333dece3acf7de3138", by decide +kernel, by decide +kernel⟩

def canonicalBase : GameSnapshotEnvelope :=
  envelope ⟨10, by decide⟩ ⟨1, one_safe⟩ "r1" [] world canonicalBaseDigest

def canonicalTargetDigest : HexDigest :=
  ⟨"9900844df251be18ee0effc2fcc6028985bf2ebf7319fa625d60656db062d8a1", by decide +kernel, by decide +kernel⟩

def canonicalTarget : GameSnapshotEnvelope :=
  envelope ⟨20, by decide⟩ ⟨2, by decide⟩ "r1" [] worldInserted canonicalTargetDigest

def unversionedDigest : HexDigest :=
  ⟨"a758e0249cecb11ee8463fae0dedbfcc9852f91a49c967e50593ef8120dec229", by decide +kernel, by decide +kernel⟩

/-- The later envelope of a process whose build revision is set to the empty text. -/
def unversionedTarget : GameSnapshotEnvelope :=
  envelope ⟨20, by decide⟩ ⟨2, by decide⟩ "" [] worldInserted unversionedDigest

/-- SHA-256 on the canonical texts of these envelopes. -/
def canonicalSha256 : List Char → HexDigest :=
  digestTable [(canonicalBase, canonicalBaseDigest), (canonicalTarget, canonicalTargetDigest),
    (unversionedTarget, unversionedDigest)] canonicalBaseDigest

private theorem canonicalPair {gameBuildRevision : String} {target : GameSnapshotEnvelope}
    (hc : createSnapshotEnvelope canonicalSha256 (payload [] worldInserted) (context 20 2 gameBuildRevision) = .ok target)
    (hr : target.roomId = "room-1") (he : target.roomEpoch = ⟨1, by decide⟩) (ht : target.serverTick = ⟨20, by decide⟩) :
    DeltaPair canonicalSha256 canonicalBase target := by
  obtain ⟨hpay, -⟩ := createSnapshotEnvelope_eq_ok canonicalSha256 hc
  refine ⟨⟨payload [] world, context 10 1 "r1", by decide +kernel⟩, ⟨_, _, hc⟩, hr.symm, he.symm, ?_, ?_, ?_, ?_, ?_, ?_, ?_⟩
  · rw [ht]; decide
  · exact payload_wellFormed (Or.inl rfl) world_wellFormed
  · rw [hpay]; exact payload_wellFormed (Or.inl rfl) worldInserted_wellFormed
  · decide +kernel
  · rw [hpay]; decide +kernel
  · unfold GameSnapshotEnvelope.operationsTo; rw [hpay]; decide +kernel
  · unfold GameSnapshotEnvelope.operationsTo; rw [hpay]; decide +kernel

end Sample

section

variable {sha256 : List Char → HexDigest} {base target : GameSnapshotEnvelope}

/-- A delta between envelopes with sorted-key checksums reproduces the target up to key order, checksum included, just
when the target's own metadata would pass verification. -/
theorem delta_round_trip_canonical (h : DeltaPair sha256 base target)
    (ht : target.checksumEncoding = some .canonicalJson) :
    (∃ delta e, createSnapshotEnvelopeDelta base target = .ok delta ∧
      applySnapshotEnvelopeDelta sha256 base delta.toJs = .ok e ∧
      JsValue.SameUpToKeyOrder (.obj e.payload) (cloneJson (.obj target.payload)) ∧ e.checksum = target.checksum) ↔
    target.MetadataVerifies := by
  obtain ⟨delta, hdelta, happly⟩ := h.apply_create
  constructor
  · rintro ⟨delta', e, hdelta', he, -, -⟩
    rw [hdelta] at hdelta'
    cases hdelta'
    exact h.fieldChecks_iff.1 ((happly e).1 he).2.1
  · intro hmeta
    have hchecks := h.fieldChecks_iff.2 hmeta
    refine ⟨delta, base.patchedTowards target, hdelta, (happly _).2 ?_, h.patchedPayload_same, rfl⟩
    exact ⟨rfl, hchecks, target.checksum, h.canonical_checksum ht, rfl⟩

end

open Sample in
theorem delta_round_trip_canonical_inserted :
    ∃ delta e, createSnapshotEnvelopeDelta canonicalBase canonicalTarget = .ok delta ∧
      applySnapshotEnvelopeDelta canonicalSha256 canonicalBase delta.toJs = .ok e ∧
      JsValue.SameUpToKeyOrder (.obj e.payload) (cloneJson (.obj canonicalTarget.payload)) ∧
      e.checksum = canonicalTarget.checksum := by
  have hc : createSnapshotEnvelope canonicalSha256 (payload [] worldInserted) (context 20 2 "r1") = .ok canonicalTarget := by
    decide +kernel
  refine (delta_round_trip_canonical (canonicalPair hc rfl rfl rfl) rfl).2 ⟨by decide, by decide, ?_⟩
  decide +kernel

open Sample in
/-- An envelope created without a build revision: its delta is well-formed, but what it gives is refused. -/
theorem delta_unversioned_refused :
    DeltaPair canonicalSha256 canonicalBase unversionedTarget ∧
      canonicalBase.checksumEncoding = some .canonicalJson ∧ unversionedTarget.checksumEncoding = some .canonicalJson ∧
      (createSnapshotEnvelopeDelta canonicalBase unversionedTarget).bind
        (fun delta => applySnapshotEnvelopeDelta canonicalSha256 canonicalBase delta.toJs) =
        .error "invalid_snapshot_envelope" := by
  have hc : createSnapshotEnvelope canonicalSha256 (payload [] worldInserted) (context 20 2 "") = .ok unversionedTarget := by
    decide +kernel
  exact ⟨canonicalPair hc rfl rfl rfl, rfl, rfl, by decide +kernel⟩

/-! ### Ordered checksums -/

section

variable {sha256 : List Char → HexDigest} {base target : GameSnapshotEnvelope}

/-- No two ways to order the keys of the target give the same digest. -/
def SeparatesKeyOrders (sha256 : List Char → HexDigest) (target : GameSnapshotEnvelope) : Prop :=
  ∀ payload text text', JsValue.SameUpToKeyOrder (.obj payload) (cloneJson (.obj target.payload)) →
    orderedText { target with payload }.content = .ok text → orderedText target.content = .ok text' →
    sha256 text = sha256 text' → text = text'

namespace DeltaPair

private theorem content_wellFormed {e : GameSnapshotEnvelope} (h : (JsValue.obj e.payload).WellFormed) :
    e.content.WellFormed := by
  unfold GameSnapshotEnvelope.content
  rw [JsValue.wellFormed_obj]
  refine ⟨?_, ?_⟩
  · have hk : ∃ c, Fields.keys (e.header ++ [("payload", JsValue.obj e.payload)]) =
        ["kind", "schemaVersion", "payloadSchemaVersion", "roomId", "roomEpoch", "serverTick", "snapshotTick",
          "gameBuildRevision", "mapSeed", "createdAt", "checksumAlgorithm"] ++ c ++ ["payload"] ∧
        (c = [] ∨ c = ["checksumEncoding"]) := by
      unfold GameSnapshotEnvelope.header
      cases e.checksumEncoding with
      | none => exact ⟨[], rfl, Or.inl rfl⟩
      | some x => exact ⟨["checksumEncoding"], rfl, Or.inr rfl⟩
    obtain ⟨c, hk, hc⟩ := hk
    rcases hc with rfl | rfl
    · exact ⟨by rw [hk]; decide, by rw [hk]; decide⟩
    · exact ⟨by rw [hk]; decide, by rw [hk]; decide⟩
  · intro f hf
    rcases List.mem_append.1 hf with hf | hf
    · have hhead : ∀ f ∈ e.header, f.2.WellFormed := by
        unfold GameSnapshotEnvelope.header
        cases e.checksumEncoding <;> simp [JsValue.WellFormed, ChecksumEncoding.toFields]
      exact hhead f hf
    · rw [List.mem_singleton.1 hf]
      exact h

private theorem content_detach (e : GameSnapshotEnvelope) : e.content.detach =
    .obj (Fields.mapValues JsValue.detach (JsValue.defined e.header) ++ [("payload", (JsValue.obj e.payload).detach)]) := by
  unfold GameSnapshotEnvelope.content
  rw [JsValue.detach_obj]
  congr 1
  simp only [JsValue.defined, List.filter_append, Fields.mapValues, List.map_append]
  rfl

/-- The patched and the target content show the same JSON just when the key order is kept. -/
private theorem content_detach_eq_iff (h : DeltaPair sha256 base target) :
    (base.patchedTowards target).content.detach = target.content.detach ↔
      keyOrderKept (cloneJson (.obj base.payload)) (cloneJson (.obj target.payload)) = true := by
  have hhead : (base.patchedTowards target).header = target.header := rfl
  have hpay : (base.patchedTowards target).payload = base.patchedPayload target := rfl
  rw [← patched_eq_iff _ h.after_wellFormed _ h.before_wellFormed, patched_clone, content_detach, content_detach, hhead, hpay,
    h.patchedPayload_detach]
  simp only [JsValue.obj.injEq, List.append_cancel_left_eq, List.cons.injEq, Prod.mk.injEq, true_and, and_true]
  rfl

private theorem allFinite_content (h : DeltaPair sha256 base target) (hf : allFinite target.content = true) :
    allFinite (base.patchedTowards target).content = true := by
  have hhead : (base.patchedTowards target).header = target.header := rfl
  unfold GameSnapshotEnvelope.content at hf ⊢
  rw [allFinite_obj] at hf ⊢
  rw [hhead]
  intro f hm
  rcases List.mem_append.1 hm with hm | hm
  · exact hf f (List.mem_append_left _ hm)
  · rw [List.mem_singleton.1 hm]
    exact allFinite_of_plain _ h.patchedPayload_plain

/-- With ordered checksums the patched envelope has the checksum of the target just when the key order is kept. -/
theorem ordered_checksum_iff (h : DeltaPair sha256 base target) (ht : target.checksumEncoding = some .orderedJson)
    (hsha : SeparatesKeyOrders sha256 target) :
    (∃ calculated, envelopeChecksum sha256 (base.patchedTowards target) = .ok calculated ∧
      hexBytes target.checksum.toList = hexBytes calculated.toList) ↔
      keyOrderKept (cloneJson (.obj base.payload)) (cloneJson (.obj target.payload)) = true := by
  have henc : (base.patchedTowards target).checksumEncoding = some .orderedJson := ht
  obtain ⟨text, htext, hsum⟩ := (envelopeChecksum_eq_ok sha256).1 h.target_checksum
  simp only [envelopeChecksum_eq_ok, checksumText, henc, ht, if_true] at htext ⊢
  rw [← h.content_detach_eq_iff]
  constructor
  · rintro ⟨_, ⟨text', htext', rfl⟩, hhex⟩
    rw [← hsum] at hhex
    have hdigest := HexDigest.eq_of_hexBytes hhex
    have hsame := hsha (base.patchedPayload target) text' text h.patchedPayload_same htext' htext hdigest.symm
    subst hsame
    exact orderedText_injective (content_wellFormed h.patchedPayload_wellFormed) (content_wellFormed h.targetWellFormed)
      htext' htext
  · intro hkept
    have hsame : orderedText (base.patchedTowards target).content = orderedText target.content :=
      orderedText_congr (h.allFinite_content (allFinite_of_orderedText htext)) (allFinite_of_orderedText htext) rfl hkept
    exact ⟨target.checksum, ⟨text, hsame.trans htext, hsum⟩, rfl⟩

end DeltaPair

end

namespace Sample

def orderedBaseDigest : HexDigest :=
  ⟨"9fb0e6f20ab71f9bea98961d9ec6c183c6be7fe1ac1c85e6a952b2a82d0fa442", by decide +kernel, by decide +kernel⟩

def orderedBase : GameSnapshotEnvelope :=
  envelope ⟨10, by decide⟩ ⟨1, one_safe⟩ "r1" orderedMark world orderedBaseDigest

def insertedDigest : HexDigest :=
  ⟨"e93240b74a241aa6c2dccf339d6feb34e373cd526d0d721fd328463d15a44461", by decide +kernel, by decide +kernel⟩

def insertedTarget : GameSnapshotEnvelope :=
  envelope ⟨20, by decide⟩ ⟨2, by decide⟩ "r1" orderedMark worldInserted insertedDigest

def appendedDigest : HexDigest :=
  ⟨"3168970a7eaa5a4e0e32b225c2eb858dc8a62af410d83baf388c85427b639768", by decide +kernel, by decide +kernel⟩

def appendedTarget : GameSnapshotEnvelope :=
  envelope ⟨20, by decide⟩ ⟨2, by decide⟩ "r1" orderedMark worldAppended appendedDigest

/-- SHA-256 on the ordered texts of these envelopes. -/
def orderedSha256 : List Char → HexDigest :=
  digestTable [(orderedBase, orderedBaseDigest), (insertedTarget, insertedDigest), (appendedTarget, appendedDigest)]
    orderedBaseDigest

private theorem orderedPair {after : Fields JsValue} {target : GameSnapshotEnvelope}
    (hc : createSnapshotEnvelope orderedSha256 (payload orderedMark after) (context 20 2 "r1") = .ok target)
    (hr : target.roomId = "room-1") (he : target.roomEpoch = ⟨1, by decide⟩) (ht : target.serverTick = ⟨20, by decide⟩)
    (hw : (JsValue.obj after).WellFormed) (hk : avoidsUnsafeKeys (.obj (payload orderedMark after)) = true)
    (hops : (appendDeltaOperations (cloneJson (.obj (payload orderedMark world)))
      (cloneJson (.obj (payload orderedMark after))) []).length ≤ 250000)
    (hdepth : ∀ op ∈ appendDeltaOperations (cloneJson (.obj (payload orderedMark world)))
      (cloneJson (.obj (payload orderedMark after))) [], op.path.length ≤ 64) :
    DeltaPair orderedSha256 orderedBase target := by
  obtain ⟨hpay, -⟩ := createSnapshotEnvelope_eq_ok orderedSha256 hc
  refine ⟨⟨payload orderedMark world, context 10 1 "r1", by decide +kernel⟩, ⟨_, _, hc⟩, hr.symm, he.symm, ?_, ?_, ?_, ?_,
    ?_, ?_, ?_⟩
  · rw [ht]; decide
  · exact payload_wellFormed (Or.inr rfl) world_wellFormed
  · rw [hpay]; exact payload_wellFormed (Or.inr rfl) hw
  · decide +kernel
  · rw [hpay]; exact hk
  · unfold GameSnapshotEnvelope.operationsTo; rw [hpay]; exact hops
  · unfold GameSnapshotEnvelope.operationsTo; rw [hpay]; exact hdepth

private theorem appended_created :
    createSnapshotEnvelope orderedSha256 (payload orderedMark worldAppended) (context 20 2 "r1") = .ok appendedTarget := by
  decide +kernel

private theorem appendedPair : DeltaPair orderedSha256 orderedBase appendedTarget :=
  orderedPair appended_created rfl rfl rfl worldAppended_wellFormed (by decide +kernel) (by decide +kernel)
    (by decide +kernel)

private theorem separates_appended : SeparatesKeyOrders orderedSha256 appendedTarget := by
  intro _ text text' _ _ htext' hsame
  obtain ⟨-, -, -, -, -, -, -, hsum⟩ := createSnapshotEnvelope_eq_ok orderedSha256 appended_created
  obtain ⟨t, ht, hdigest⟩ := (envelopeChecksum_eq_ok orderedSha256).1 hsum
  have he : t = text' := Except.ok.inj (ht.symm.trans htext')
  subst he
  have hd : orderedSha256 t = appendedDigest := HexDigest.eq_of_hexBytes (congrArg (fun s => hexBytes s.toList) hdigest)
  obtain ⟨row, hrow, hrowd, hrowt⟩ := checksumText_of_digestTable (hsame.trans hd) (by decide)
  simp only [List.mem_cons, List.not_mem_nil, or_false] at hrow
  rcases hrow with rfl | rfl | rfl
  · exact absurd hrowd (by decide)
  · exact absurd hrowd (by decide)
  · exact Except.ok.inj (hrowt.symm.trans htext')

end Sample

section

variable {sha256 : List Char → HexDigest} {base target : GameSnapshotEnvelope}

/-- A delta between envelopes with ordered checksums reproduces the target's checksum just when the target's metadata
would pass verification and patching leaves the keys of every object in the target's order. -/
theorem delta_round_trip_ordered (h : DeltaPair sha256 base target) (ht : target.checksumEncoding = some .orderedJson)
    (hsha : SeparatesKeyOrders sha256 target) :
    (∃ delta e, createSnapshotEnvelopeDelta base target = .ok delta ∧
      applySnapshotEnvelopeDelta sha256 base delta.toJs = .ok e ∧ e.checksum = target.checksum) ↔
    target.MetadataVerifies ∧
      keyOrderKept (cloneJson (.obj base.payload)) (cloneJson (.obj target.payload)) = true := by
  obtain ⟨delta, hdelta, happly⟩ := h.apply_create
  rw [← h.fieldChecks_iff, ← h.ordered_checksum_iff ht hsha]
  constructor
  · rintro ⟨delta', e, hdelta', he, -⟩
    rw [hdelta] at hdelta'
    cases hdelta'
    exact ((happly e).1 he).2
  · intro hok
    exact ⟨delta, base.patchedTowards target, hdelta, (happly _).2 ⟨rfl, hok⟩, rfl⟩

end

open Sample in
theorem delta_round_trip_ordered_appended :
    ∃ delta e, createSnapshotEnvelopeDelta orderedBase appendedTarget = .ok delta ∧
      applySnapshotEnvelopeDelta orderedSha256 orderedBase delta.toJs = .ok e ∧ e.checksum = appendedTarget.checksum := by
  refine (delta_round_trip_ordered appendedPair rfl separates_appended).2 ⟨⟨by decide, by decide, ?_⟩, ?_⟩
  · decide +kernel
  · decide +kernel

open Sample in
/-- A field that appears between two others: patching puts it last, and the checksum no longer fits. -/
theorem delta_inserted_refused :
    DeltaPair orderedSha256 orderedBase insertedTarget ∧
      orderedBase.checksumEncoding = some .orderedJson ∧ insertedTarget.checksumEncoding = some .orderedJson ∧
      (createSnapshotEnvelopeDelta orderedBase insertedTarget).bind
        (fun delta => applySnapshotEnvelopeDelta orderedSha256 orderedBase delta.toJs) =
        .error "snapshot_checksum_mismatch" := by
  have hc : createSnapshotEnvelope orderedSha256 (payload orderedMark worldInserted) (context 20 2 "r1") =
      .ok insertedTarget := by
    decide +kernel
  refine ⟨orderedPair hc rfl rfl rfl worldInserted_wellFormed ?_ ?_ ?_, rfl, rfl, ?_⟩
  · decide +kernel
  · decide +kernel
  · decide +kernel
  · decide +kernel

end Opsia
