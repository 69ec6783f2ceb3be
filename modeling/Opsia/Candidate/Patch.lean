import Opsia.Candidate.Delta

/-!
# What a delta computes

`patched before after` is the value that the operations from `before` to `after` produce: `after`, except that the keys
of an object stand in the order in which patching leaves them (kept keys where they were, new keys behind them in sorted
order, array indices first).  `run_appendDeltaOperations` proves that replaying the operations gives exactly this value;
it agrees with `after` up to key order (`patched_same`), and equals `after` just when `KeyOrderKept` holds
(`patched_eq_iff`).
-/

namespace Opsia

open Json

/-! ### Replaying typed operations -/

namespace SnapshotDeltaOperation

/-- The effect of an operation that has been read. -/
def apply (payload : JsValue) : SnapshotDeltaOperation → Except String JsValue
  | set p v => setAt (cloneJson v) p payload
  | delete p => deleteAt p payload
  | truncate p n => truncateAt n p payload

/-- The same operation one level further down. -/
def under (s : PathSegment) : SnapshotDeltaOperation → SnapshotDeltaOperation
  | set p v => set (s :: p) v
  | delete p => delete (s :: p)
  | truncate p n => truncate (s :: p) n

/-- Operations one after the other. -/
def run (ops : List SnapshotDeltaOperation) (payload : JsValue) : Except String JsValue := ops.foldlM apply payload

@[simp] theorem run_nil (payload : JsValue) : run [] payload = .ok payload := rfl

theorem run_cons {op : SnapshotDeltaOperation} {ops : List SnapshotDeltaOperation} {v w : JsValue}
    (h : op.apply v = .ok w) : run (op :: ops) v = run ops w := by
  simp only [run, List.foldlM_cons]
  show (op.apply v >>= _) = _
  rw [h]
  rfl

theorem run_append {ops ops' : List SnapshotDeltaOperation} {v w : JsValue} (h : run ops v = .ok w) :
    run (ops ++ ops') v = run ops' w := by
  simp only [run, List.foldlM_append] at h ⊢
  rw [h]
  rfl

/-- An operation below a field acts on that field. -/
theorem apply_under_key {op : SnapshotDeltaOperation} {fs : Fields JsValue} {k : String} {v w : JsValue}
    (hv : fs.get? k = some v) (h : op.apply v = .ok w) :
    (op.under (.key k)).apply (.obj fs) = .ok (.obj (fs.replace k w)) := by
  cases op with
  | set p x =>
    cases p with
    | nil =>
      simp only [apply, setAt, Except.ok.injEq] at h
      simp only [apply, under, setAt, assignChild, Fields.assign_of_get? hv, h]
    | cons s p => simp only [apply] at h; simp only [apply, under, setAt, descend, hv, h, Except.map]
  | delete p =>
    cases p with
    | nil => simp [apply, deleteAt] at h
    | cons s p => simp only [apply] at h; simp only [apply, under, deleteAt, descend, hv, h, Except.map]
  | truncate p n => simp only [apply] at h; simp only [apply, under, truncateAt, descend, hv, h, Except.map]

/-- An operation below an element acts on that element. -/
theorem apply_under_index {op : SnapshotDeltaOperation} {items : List JsValue} {n : Nat} {v w : JsValue}
    (hv : items[n]? = some v) (h : op.apply v = .ok w) :
    (op.under (.index n)).apply (.arr items) = .ok (.arr (items.set n w)) := by
  have hn : n < items.length := (List.getElem?_eq_some_iff.1 hv).1
  cases op with
  | set p x =>
    cases p with
    | nil =>
      simp only [apply, setAt, Except.ok.injEq] at h
      simp only [apply, under, setAt, assignChild, hn, if_true, h]
    | cons s p => simp only [apply] at h; simp only [apply, under, setAt, descend, hv, h, Except.map]
  | delete p =>
    cases p with
    | nil => simp [apply, deleteAt] at h
    | cons s p => simp only [apply] at h; simp only [apply, under, deleteAt, descend, hv, h, Except.map]
  | truncate p n => simp only [apply] at h; simp only [apply, under, truncateAt, descend, hv, h, Except.map]

private theorem run_cons_ok {op : SnapshotDeltaOperation} {ops : List SnapshotDeltaOperation} {v w : JsValue}
    (h : run (op :: ops) v = .ok w) : ∃ u, op.apply v = .ok u ∧ run ops u = .ok w := by
  simp only [run, List.foldlM_cons] at h
  cases hu : op.apply v with
  | error e => rw [hu] at h; cases h
  | ok u => rw [hu] at h; exact ⟨u, rfl, h⟩

theorem run_under_key {ops : List SnapshotDeltaOperation} {fs : Fields JsValue} {k : String} {v w : JsValue}
    (hv : fs.get? k = some v) (h : run ops v = .ok w) :
    run (ops.map (under (.key k))) (.obj fs) = .ok (.obj (fs.replace k w)) := by
  induction ops generalizing fs v with
  | nil =>
    cases h
    rw [Fields.replace_self hv]
    rfl
  | cons op ops ih =>
    obtain ⟨u, hu, hrun⟩ := run_cons_ok h
    rw [List.map_cons, run_cons (apply_under_key hv hu), ih (Fields.get?_replace_self hv) hrun, Fields.replace_replace]

theorem run_under_index {ops : List SnapshotDeltaOperation} {items : List JsValue} {n : Nat} {v w : JsValue}
    (hv : items[n]? = some v) (h : run ops v = .ok w) :
    run (ops.map (under (.index n))) (.arr items) = .ok (.arr (items.set n w)) := by
  induction ops generalizing items v with
  | nil =>
    cases h
    obtain ⟨hn, he⟩ := List.getElem?_eq_some_iff.1 hv
    rw [← he, List.set_getElem_self]
    rfl
  | cons op ops ih =>
    obtain ⟨u, hu, hrun⟩ := run_cons_ok h
    have hn : n < items.length := (List.getElem?_eq_some_iff.1 hv).1
    rw [List.map_cons, run_cons (apply_under_index hv hu), ih (by simp [hn]) hrun, List.set_set]

end SnapshotDeltaOperation

/-! ### The patched value -/

mutual

/-- The value that patching `before` towards `after` leaves. -/
def patched (before : JsValue) : JsValue → JsValue
  | .arr items =>
    match before with
    | .arr bs => .arr (patchedItems bs items)
    | _ => .arr items
  | .obj fields =>
    match before with
    | .obj bs =>
      .obj ((Fields.sortByKey (patchedFields bs fields)).foldl (fun acc f => Fields.assign acc f.1 f.2)
        (bs.filter fun f => decide (f.1 ∈ Fields.keys fields)))
    | _ => .obj fields
  | v => v

def patchedItems : List JsValue → List JsValue → List JsValue
  | _, [] => []
  | b :: bs, v :: vs => patched b v :: patchedItems bs vs
  | [], v :: vs => v :: patchedItems [] vs

/-- The fields of the later object with their patched values. -/
def patchedFields (bs : Fields JsValue) : List (String × JsValue) → List (String × JsValue)
  | [] => []
  | (k, v) :: fs =>
    (k, match bs.get? k with
      | some b => patched b v
      | none => v) :: patchedFields bs fs

end

/-- What patching leaves at a key of the later object. -/
def patchedField (bs : Fields JsValue) (f : String × JsValue) : JsValue :=
  match bs.get? f.1 with
  | some b => patched b f.2
  | none => f.2

theorem patchedFields_eq (bs fs : Fields JsValue) : patchedFields bs fs = fs.map fun f => (f.1, patchedField bs f) := by
  induction fs with
  | nil => rfl
  | cons f fs ih =>
    obtain ⟨k, v⟩ := f
    rw [patchedFields, ih]
    rfl

/-- The operations for one key of the later object. -/
def fieldOperations (bs : Fields JsValue) (path : Path) (f : String × JsValue) : List SnapshotDeltaOperation :=
  match bs.get? f.1 with
  | some b => appendDeltaOperations b f.2 (path ++ [.key f.1])
  | none => [.set (path ++ [.key f.1]) (cloneJson f.2)]

theorem appendFieldOperations_eq (bs fs : Fields JsValue) (path : Path) :
    appendFieldOperations bs fs path = fs.map fun f => (f.1, fieldOperations bs path f) := by
  induction fs with
  | nil => rfl
  | cons f fs ih =>
    obtain ⟨k, v⟩ := f
    rw [appendFieldOperations, ih]
    rfl

theorem appendDeltaOperations_obj (bs fs : Fields JsValue) (path : Path) :
    appendDeltaOperations (.obj bs) (.obj fs) path =
      deleteOperations bs fs path ++ (Fields.sortByKey fs).flatMap (fieldOperations bs path) := by
  rw [appendDeltaOperations, appendFieldOperations_eq,
    Fields.sortByKey_map (fun f => (f.1, fieldOperations bs path f)) (fun _ => rfl), List.flatMap_map]

/-- The fields that patching one object towards another leaves. -/
def patchedObject (bs fs : Fields JsValue) : Fields JsValue :=
  (Fields.sortByKey (fs.map fun f => (f.1, patchedField bs f))).foldl (fun acc f => Fields.assign acc f.1 f.2)
    (bs.filter fun f => decide (f.1 ∈ Fields.keys fs))

theorem patched_obj (bs fs : Fields JsValue) : patched (.obj bs) (.obj fs) = .obj (patchedObject bs fs) := by
  rw [patched, patchedFields_eq, patchedObject]

/-- Both values are arrays, or both are objects. -/
def SameShape : JsValue → JsValue → Prop
  | .arr _, .arr _ => True
  | .obj _, .obj _ => True
  | _, _ => False

theorem appendDeltaOperations_other {b v : JsValue} (h : ¬SameShape b v) (path : Path) :
    appendDeltaOperations b v path = if objectIs b v then [] else [.set path (cloneJson v)] := by
  cases v <;> cases b <;>
    first
    | exact absurd trivial h
    | simp [appendDeltaOperations, objectIs]

theorem patched_other {b v : JsValue} (h : ¬SameShape b v) : patched b v = v := by
  cases v <;> cases b <;>
    first
    | exact absurd trivial h
    | simp [patched]

theorem eq_of_objectIs {b v : JsValue} (h : objectIs b v = true) : b = v := by
  cases b <;> cases v <;> simp_all [objectIs]

/-! ### Operations one level down -/

private theorem deleteOperations_under (s : PathSegment) (bs fs : Fields JsValue) (path : Path) :
    deleteOperations bs fs (s :: path) = (deleteOperations bs fs path).map (SnapshotDeltaOperation.under s) := by
  simp [deleteOperations, SnapshotDeltaOperation.under]

/-- The operations below a path segment are the operations at the root, one level down. -/
theorem appendDeltaOperations_under (s : PathSegment) (b v : JsValue) (path : Path) :
    appendDeltaOperations b v (s :: path) = (appendDeltaOperations b v path).map (SnapshotDeltaOperation.under s) := by
  induction v using JsValue.induct generalizing b path with
  | arr items ih =>
    by_cases h : SameShape b (.arr items)
    · cases b with
      | arr bs =>
        have hitems : ∀ (vs bs : List JsValue) (i : Nat), (∀ v ∈ vs, v ∈ items) → appendItemOperations bs vs i (s :: path) =
            (appendItemOperations bs vs i path).map (SnapshotDeltaOperation.under s) := by
          intro vs
          induction vs with
          | nil => intro bs i _; cases bs <;> rfl
          | cons v vs ihv =>
            intro bs i hm
            have hrest := fun bs => ihv bs (i + 1) fun w hw => hm w (List.mem_cons_of_mem _ hw)
            cases bs with
            | nil =>
              rw [appendItemOperations, appendItemOperations, hrest]
              rfl
            | cons b bs =>
              rw [appendItemOperations, appendItemOperations, hrest, List.cons_append, ih v (hm v (by simp)),
                List.map_append]
        rw [appendDeltaOperations, appendDeltaOperations, hitems items bs 0 (fun _ h => h), List.map_append]
        congr 1
        split <;> rfl
      | _ => exact absurd h (by simp [SameShape])
    · rw [appendDeltaOperations_other h, appendDeltaOperations_other h]
      split <;> rfl
  | obj fs ih =>
    by_cases h : SameShape b (.obj fs)
    · cases b with
      | obj bs =>
        rw [appendDeltaOperations_obj, appendDeltaOperations_obj, deleteOperations_under, List.map_append, List.map_flatMap]
        congr 1
        refine List.flatMap_congr fun f hf => ?_
        have hm : f ∈ fs := Fields.mem_sortByKey.1 hf
        unfold fieldOperations
        split
        · rw [List.cons_append, ih f hm]
        · rfl
      | _ => exact absurd h (by simp [SameShape])
    · rw [appendDeltaOperations_other h, appendDeltaOperations_other h]
      split <;> rfl
  | _ =>
    rw [appendDeltaOperations_other (by cases b <;> simp [SameShape]),
      appendDeltaOperations_other (by cases b <;> simp [SameShape])]
    split <;> rfl

/-! ### Operations do not depend on the key order of the base -/

private theorem appendItemOperations_congr {vs : List JsValue}
    (ih : ∀ v ∈ vs, ∀ b b' : JsValue, b.WellFormed → b'.WellFormed → JsValue.SameUpToKeyOrder b b' → ∀ path,
      appendDeltaOperations b v path = appendDeltaOperations b' v path) (bs bs' : List JsValue)
    (hb : ∀ b ∈ bs, b.WellFormed) (hb' : ∀ b ∈ bs', b.WellFormed) (h : bs.map JsValue.sortKeys = bs'.map JsValue.sortKeys)
    (i : Nat) (path : Path) : appendItemOperations bs vs i path = appendItemOperations bs' vs i path := by
  induction vs generalizing bs bs' i with
  | nil => cases bs <;> cases bs' <;> rfl
  | cons v vs ihv =>
    have hrest := fun bs bs' hb hb' h => ihv (fun w hw => ih w (List.mem_cons_of_mem _ hw)) bs bs' hb hb' h (i + 1)
    cases bs with
    | nil =>
      obtain rfl : bs' = [] := by simpa using h.symm
      rfl
    | cons b bs =>
      cases bs' with
      | nil => simp at h
      | cons b' bs' =>
        rw [List.map_cons, List.map_cons, List.cons.injEq] at h
        rw [appendItemOperations, appendItemOperations,
          ih v (List.mem_cons_self ..) b b' (hb b (by simp)) (hb' b' (by simp)) h.1,
          hrest bs bs' (fun c hc => hb c (by simp [hc])) (fun c hc => hb' c (by simp [hc])) h.2]

/-- Two bases that agree up to key order have the same operations to a later value. -/
theorem appendDeltaOperations_congr (v b b' : JsValue) (hb : b.WellFormed) (hb' : b'.WellFormed)
    (h : JsValue.SameUpToKeyOrder b b') (path : Path) : appendDeltaOperations b v path = appendDeltaOperations b' v path := by
  induction v using JsValue.induct generalizing b b' path with
  | arr items ih =>
    rcases h.shape with ⟨bs, bs', rfl, rfl, hmap⟩ | ⟨fs, gs, rfl, rfl⟩ | rfl
    · rw [JsValue.wellFormed_arr] at hb hb'
      have hlen : bs.length = bs'.length := by simpa using congrArg List.length hmap
      rw [appendDeltaOperations, appendDeltaOperations, appendItemOperations_congr ih bs bs' hb.2 hb'.2 hmap, hlen]
    · rw [appendDeltaOperations_other (by simp [SameShape]), appendDeltaOperations_other (by simp [SameShape])]
      rfl
    · rfl
  | obj fs ih =>
    rcases h.shape with ⟨bs, bs', rfl, rfl, -⟩ | ⟨bs, bs', rfl, rfl⟩ | rfl
    · rw [appendDeltaOperations_other (by simp [SameShape]), appendDeltaOperations_other (by simp [SameShape])]
      rfl
    · rw [JsValue.wellFormed_obj] at hb hb'
      have hdeletes : deleteOperations bs fs path = deleteOperations bs' fs path := by
        unfold deleteOperations
        rw [h.keys]
      rw [appendDeltaOperations_obj, appendDeltaOperations_obj, hdeletes]
      congr 1
      refine List.flatMap_congr fun f hf => ?_
      have hget := h.get? hb.1.nodup hb'.1.nodup f.1
      unfold fieldOperations
      cases hc : Fields.get? bs f.1 with
      | none =>
        rw [hc, Option.map_none, eq_comm, Option.map_eq_none_iff] at hget
        rw [hget]
      | some c =>
        rw [hc, Option.map_some, eq_comm] at hget
        obtain ⟨c', hc', hsame⟩ := Option.map_eq_some_iff.1 hget
        rw [hc']
        exact ih f (Fields.mem_sortByKey.1 hf) c c' (hb.2 _ (Fields.mem_of_get? hc)) (hb'.2 _ (Fields.mem_of_get? hc'))
          hsame.symm _
    · rfl
  | _ =>
    rcases h.shape with ⟨bs, bs', rfl, rfl, -⟩ | ⟨bs, bs', rfl, rfl⟩ | rfl
    · rw [appendDeltaOperations_other (by simp [SameShape]), appendDeltaOperations_other (by simp [SameShape])]
      rfl
    · rw [appendDeltaOperations_other (by simp [SameShape]), appendDeltaOperations_other (by simp [SameShape])]
      rfl
    · rfl

/-! ### Replaying gives the patched value -/

open SnapshotDeltaOperation

/-- Deleting keys one by one leaves the other fields in place. -/
private theorem run_deletes {ks : List String} (fs : Fields JsValue) (hn : ks.Nodup) (hk : ∀ k ∈ ks, k ∈ fs.keys) :
    run (ks.map fun k => .delete [.key k]) (.obj fs) = .ok (.obj (fs.filter fun f => decide (f.1 ∉ ks))) := by
  induction ks generalizing fs with
  | nil => simp
  | cons k ks ih =>
    rw [List.nodup_cons] at hn
    have hd : (SnapshotDeltaOperation.delete [.key k]).apply (.obj fs) = .ok (.obj (fs.remove k)) := by
      simp only [apply, deleteAt, deleteChild, hk k (by simp), true_or, if_true]
    rw [List.map_cons, run_cons hd, ih (fs.remove k) hn.2]
    · simp only [Fields.remove, List.filter_filter]
      congr 2
      refine List.filter_congr fun f _ => ?_
      simp [Bool.and_comm]
    · intro k' hk'
      rw [Fields.keys_remove]
      refine List.mem_filter.2 ⟨hk k' (by simp [hk']), ?_⟩
      have : k' ≠ k := fun h => hn.1 (h ▸ hk')
      simpa using this

private theorem run_deleteOperations {bs : Fields JsValue} (fs : Fields JsValue) (hn : bs.keys.Nodup) :
    run (deleteOperations bs fs []) (.obj bs) = .ok (.obj (bs.filter fun f => decide (f.1 ∈ Fields.keys fs))) := by
  unfold deleteOperations
  simp only [List.nil_append]
  rw [run_deletes]
  · congr 2
    refine List.filter_congr fun f hf => ?_
    have hm : f.1 ∈ bs.keys := Fields.mem_keys_of_mem hf
    simp [List.mem_filter, List.mem_insertionSort, hm]
  · exact ((List.perm_insertionSort _ _).nodup_iff.2 hn).filter _
  · intro k hk
    exact (List.mem_insertionSort _).1 (List.mem_filter.1 hk).1

/-- Replaying the operations of the keys of a sorted enumeration assigns the patched values in that order. -/
private theorem run_fields {bs : Fields JsValue} {L : Fields JsValue} (acc : Fields JsValue) (hn : L.keys.Nodup)
    (hacc : ∀ f ∈ L, Fields.get? acc f.1 = bs.get? f.1)
    (ih : ∀ f ∈ L, ∀ b, bs.get? f.1 = some b → run (appendDeltaOperations b f.2 []) b = .ok (patched b f.2))
    (hp : ∀ f ∈ L, cloneJson f.2 = f.2) :
    run (L.flatMap (fieldOperations bs [])) (.obj acc) =
      .ok (.obj ((L.map fun f => (f.1, patchedField bs f)).foldl (fun acc f => Fields.assign acc f.1 f.2) acc)) := by
  induction L generalizing acc with
  | nil => rfl
  | cons f L ihL =>
    have hn' : f.1 ∉ Fields.keys L ∧ (Fields.keys L).Nodup := List.nodup_cons.1 hn
    have hstep : run (fieldOperations bs [] f) (.obj acc) = .ok (.obj (Fields.assign acc f.1 (patchedField bs f))) := by
      have ha := hacc f (by simp)
      unfold fieldOperations patchedField
      cases hb : bs.get? f.1 with
      | none =>
        have hset : (SnapshotDeltaOperation.set [.key f.1] (cloneJson f.2)).apply (.obj acc) =
            .ok (.obj (Fields.assign acc f.1 f.2)) := by
          have hc : cloneJson (cloneJson f.2) = f.2 := by rw [hp f (by simp), hp f (by simp)]
          simp only [apply, setAt, assignChild, hc]
        simp only [List.nil_append]
        rw [run_cons hset, run_nil]
      | some b =>
        rw [hb] at ha
        simp only [List.nil_append]
        rw [appendDeltaOperations_under, run_under_key ha (ih f (by simp) b hb), Fields.assign_of_get? ha]
    rw [List.flatMap_cons, run_append hstep, ihL _ hn'.2]
    · rfl
    · intro g hg
      rw [Fields.get?_assign]
      have hne : g.1 ≠ f.1 := fun h => hn'.1 (h ▸ Fields.mem_keys_of_mem hg)
      rw [if_neg hne]
      exact hacc g (by simp [hg])
    · exact fun g hg => ih g (by simp [hg])
    · exact fun g hg => hp g (by simp [hg])

private theorem patchedItems_length (bs vs : List JsValue) : (patchedItems bs vs).length = vs.length := by
  induction vs generalizing bs with
  | nil => cases bs <;> rfl
  | cons v vs ih => cases bs <;> simp [patchedItems, ih]

/-- Replaying the operations of the elements from one position on leaves a prefix alone and keeps what lies behind. -/
private theorem run_items {vs : List JsValue}
    (ih : ∀ v ∈ vs, ∀ b : JsValue, b.WellFormed → run (appendDeltaOperations b v []) b = .ok (patched b v))
    (hp : ∀ v ∈ vs, cloneJson v = v) (bs pre : List JsValue) (hb : ∀ b ∈ bs, b.WellFormed) :
    run (appendItemOperations bs vs pre.length []) (.arr (pre ++ bs)) =
      .ok (.arr (pre ++ patchedItems bs vs ++ bs.drop vs.length)) := by
  induction vs generalizing bs pre with
  | nil => cases bs <;> simp [appendItemOperations, patchedItems]
  | cons v vs ihv =>
    have ihv := fun bs pre hb => ihv (fun w hw => ih w (by simp [hw])) (fun w hw => hp w (by simp [hw])) bs pre hb
    cases bs with
    | nil =>
      have hset : (SnapshotDeltaOperation.set [.index pre.length] (cloneJson v)).apply (.arr (pre ++ [])) =
          .ok (.arr ((pre ++ [v]) ++ [])) := by
        have hc : cloneJson (cloneJson v) = v := by rw [hp v (by simp), hp v (by simp)]
        simp [apply, setAt, assignChild, hc]
      have hrest := ihv [] (pre ++ [v]) (by simp)
      rw [List.length_append, List.length_singleton] at hrest
      rw [appendItemOperations, List.nil_append, run_cons hset, hrest]
      simp [patchedItems]
    | cons b bs =>
      have hget : (pre ++ b :: bs)[pre.length]? = some b := by simp
      have hrun := run_under_index hget (ih v (by simp) b (hb b (by simp)))
      have hset : (pre ++ b :: bs).set pre.length (patched b v) = (pre ++ [patched b v]) ++ bs := by simp
      have hrest := ihv bs (pre ++ [patched b v]) fun c hc => hb c (by simp [hc])
      rw [List.length_append, List.length_singleton] at hrest
      rw [hset] at hrun
      rw [appendItemOperations, List.nil_append, appendDeltaOperations_under, run_append hrun, hrest]
      simp [patchedItems]

/-- Replaying the operations between two parsed values gives the patched value. -/
theorem run_appendDeltaOperations (v : JsValue) (hp : v.Plain) (hw : v.WellFormed) (b : JsValue) (hb : b.WellFormed) :
    run (appendDeltaOperations b v []) b = .ok (patched b v) := by
  induction v using JsValue.induct generalizing b with
  | arr items ih =>
    by_cases h : SameShape b (.arr items)
    · cases b with
      | arr bs =>
        rw [JsValue.plain_arr] at hp
        rw [JsValue.wellFormed_arr] at hw hb
        have hrun := run_items (fun v hv b hb => ih v hv (hp v hv) (hw.2 v hv) b hb)
          (fun v hv => JsValue.detach_of_plain v (hp v hv)) bs [] hb.2
        rw [List.nil_append, List.nil_append, List.length_nil] at hrun
        rw [appendDeltaOperations, run_append hrun, patched]
        split
        · rename_i hlt
          have htr : (SnapshotDeltaOperation.truncate [] items.length).apply
              (.arr (patchedItems bs items ++ bs.drop items.length)) = .ok (.arr (patchedItems bs items)) := by
            have hl : ¬ (patchedItems bs items ++ bs.drop items.length).length < items.length := by
              rw [List.length_append, patchedItems_length]; omega
            simp only [apply, truncateAt, hl, if_false]
            rw [List.take_append_of_le_length (by rw [patchedItems_length]),
              List.take_of_length_le (by rw [patchedItems_length])]
          rw [run_cons htr, run_nil]
        · rename_i hge
          rw [run_nil, List.drop_of_length_le (by omega), List.append_nil]
      | _ => exact absurd h (by simp [SameShape])
    · rw [appendDeltaOperations_other h, patched_other h]
      have hid : objectIs b (.arr items) = false := by cases b <;> rfl
      rw [hid]
      have hset : (SnapshotDeltaOperation.set [] (cloneJson (.arr items))).apply b = .ok (.arr items) := by
        simp only [apply, setAt, cloneJson, JsValue.detach_of_plain _ hp]
      exact run_cons hset
  | obj fs ih =>
    by_cases h : SameShape b (.obj fs)
    · cases b with
      | obj bs =>
        rw [JsValue.plain_obj] at hp
        rw [JsValue.wellFormed_obj] at hw hb
        rw [appendDeltaOperations_obj, run_append (run_deleteOperations fs hb.1.nodup), patched_obj,
          patchedObject, Fields.sortByKey_map (fun f => (f.1, patchedField bs f)) (fun _ => rfl)]
        refine run_fields _ (Fields.keys_sortByKey_nodup hw.1.nodup) ?_ ?_ ?_
        · intro f hf
          have hm : f.1 ∈ Fields.keys fs := Fields.mem_keys_of_mem (Fields.mem_sortByKey.1 hf)
          exact Fields.get?_filter_keys hm
        · intro f hf c hc
          have hm : f ∈ fs := Fields.mem_sortByKey.1 hf
          exact ih f hm (hp f hm) (hw.2 f hm) c (hb.2 _ (Fields.mem_of_get? hc))
        · intro f hf
          exact JsValue.detach_of_plain _ (hp f (Fields.mem_sortByKey.1 hf))
      | _ => exact absurd h (by simp [SameShape])
    · rw [appendDeltaOperations_other h, patched_other h]
      have hid : objectIs b (.obj fs) = false := by cases b <;> rfl
      rw [hid]
      have hset : (SnapshotDeltaOperation.set [] (cloneJson (.obj fs))).apply b = .ok (.obj fs) := by
        simp only [apply, setAt, cloneJson, JsValue.detach_of_plain _ hp]
      exact run_cons hset
  | _ =>
    rw [appendDeltaOperations_other (by cases b <;> simp [SameShape]),
      patched_other (by cases b <;> simp [SameShape])]
    split
    · rename_i hid
      rw [run_nil, eq_of_objectIs hid]
    · refine run_cons ?_
      simp only [apply, setAt, cloneJson, JsValue.detach_of_plain _ hp]

/-! ### The patched value agrees with the later one up to key order -/

private theorem keys_map (g : String × JsValue → JsValue) (fs : Fields JsValue) :
    Fields.keys (fs.map fun f => (f.1, g f)) = fs.keys := by simp [Fields.keys]

theorem get?_patchedObject (bs : Fields JsValue) {fs : Fields JsValue} (hn : fs.keys.Nodup) (key : String) :
    Fields.get? (patchedObject bs fs) key = (fs.get? key).map fun v => patchedField bs (key, v) := by
  have hn' : (Fields.keys (fs.map fun f => (f.1, patchedField bs f))).Nodup := by rwa [keys_map]
  unfold patchedObject
  rw [Fields.get?_foldl_assign (Fields.keys_sortByKey_nodup hn'), Fields.get?_sortByKey hn', Fields.get?_map]
  cases hv : fs.get? key with
  | some v => rfl
  | none =>
    have hk : key ∉ fs.keys := (Fields.get?_eq_none_iff fs key).1 hv
    simp only [Option.map_none, Option.none_or]
    rw [Fields.get?_eq_none_iff]
    intro hm
    obtain ⟨f, hf, rfl⟩ := List.mem_map.1 hm
    exact hk (by simpa using (List.mem_filter.1 hf).2)

private theorem patchedObject_ordered {bs : Fields JsValue} (hb : bs.Ordered) (fs : Fields JsValue) :
    (patchedObject bs fs).Ordered := (hb.filter _).foldl_assign _

/-- A property of all patched fields holds of the patched object. -/
private theorem forall_patchedObject {bs fs : Fields JsValue} (hb : bs.Ordered) (hn : fs.keys.Nodup) {P : JsValue → Prop}
    (h : ∀ f ∈ fs, P (patchedField bs f)) : ∀ f ∈ patchedObject bs fs, P f.2 := by
  intro f hf
  have hg : Fields.get? (patchedObject bs fs) f.1 = some f.2 := Fields.get?_of_mem (patchedObject_ordered hb fs).nodup hf
  rw [get?_patchedObject bs hn] at hg
  obtain ⟨v, hv, he⟩ := Option.map_eq_some_iff.1 hg
  rw [← he]
  exact h _ (Fields.mem_of_get? hv)

private theorem forall_patchedItems {P : JsValue → Prop} (vs : List JsValue) (bs : List JsValue)
    (h : ∀ v ∈ vs, P v ∧ ∀ b ∈ bs, P (patched b v)) : ∀ w ∈ patchedItems bs vs, P w := by
  induction vs generalizing bs with
  | nil => cases bs <;> simp [patchedItems]
  | cons v vs ih =>
    intro w hw
    cases bs with
    | nil =>
      rcases List.mem_cons.1 hw with rfl | hw
      · exact (h w (by simp)).1
      · exact ih [] (fun u hu => ⟨(h u (by simp [hu])).1, by simp⟩) w hw
    | cons b bs =>
      rcases List.mem_cons.1 hw with rfl | hw
      · exact (h v (by simp)).2 b (by simp)
      · exact ih bs (fun u hu => ⟨(h u (by simp [hu])).1, fun c hc => (h u (by simp [hu])).2 c (by simp [hc])⟩) w hw

theorem patched_wellFormed (v : JsValue) (hw : v.WellFormed) (b : JsValue) (hb : b.WellFormed) :
    (patched b v).WellFormed := by
  induction v using JsValue.induct generalizing b with
  | arr items ih =>
    cases b with
    | arr bs =>
      rw [JsValue.wellFormed_arr] at hw hb
      rw [patched, JsValue.wellFormed_arr, patchedItems_length]
      exact ⟨hw.1, forall_patchedItems items bs fun v hv => ⟨hw.2 v hv, fun b hm => ih v hv (hw.2 v hv) b (hb.2 b hm)⟩⟩
    | _ => rw [patched_other (by simp [SameShape])]; exact hw
  | obj fs ih =>
    cases b with
    | obj bs =>
      rw [JsValue.wellFormed_obj] at hw hb
      rw [patched_obj, JsValue.wellFormed_obj]
      refine ⟨patchedObject_ordered hb.1 fs, forall_patchedObject hb.1 hw.1.nodup fun f hf => ?_⟩
      unfold patchedField
      cases hc : Fields.get? bs f.1 with
      | none => exact hw.2 f hf
      | some c => exact ih f hf (hw.2 f hf) c (hb.2 _ (Fields.mem_of_get? hc))
    | _ => rw [patched_other (by simp [SameShape])]; exact hw
  | _ => rw [patched_other (by cases b <;> simp [SameShape])]; exact hw

theorem patched_plain (v : JsValue) (hp : v.Plain) (hw : v.WellFormed) (b : JsValue) (hb : b.WellFormed) :
    (patched b v).Plain := by
  induction v using JsValue.induct generalizing b with
  | arr items ih =>
    cases b with
    | arr bs =>
      rw [JsValue.wellFormed_arr] at hw hb
      rw [JsValue.plain_arr] at hp
      rw [patched, JsValue.plain_arr]
      exact forall_patchedItems items bs fun v hv => ⟨hp v hv, fun b hm => ih v hv (hp v hv) (hw.2 v hv) b (hb.2 b hm)⟩
    | _ => rw [patched_other (by simp [SameShape])]; exact hp
  | obj fs ih =>
    cases b with
    | obj bs =>
      rw [JsValue.wellFormed_obj] at hw hb
      rw [JsValue.plain_obj] at hp
      rw [patched_obj, JsValue.plain_obj]
      refine forall_patchedObject hb.1 hw.1.nodup fun f hf => ?_
      unfold patchedField
      cases hc : Fields.get? bs f.1 with
      | none => exact hp f hf
      | some c => exact ih f hf (hp f hf) (hw.2 f hf) c (hb.2 _ (Fields.mem_of_get? hc))
    | _ => rw [patched_other (by simp [SameShape])]; exact hp
  | _ => rw [patched_other (by cases b <;> simp [SameShape])]; exact hp

/-- Patching reaches the later value up to key order. -/
theorem patched_same (v : JsValue) (hw : v.WellFormed) (b : JsValue) (hb : b.WellFormed) :
    JsValue.SameUpToKeyOrder (patched b v) v := by
  induction v using JsValue.induct generalizing b with
  | arr items ih =>
    cases b with
    | arr bs =>
      rw [JsValue.wellFormed_arr] at hw hb
      have hitems : ∀ (vs bs : List JsValue), (∀ v ∈ vs, v ∈ items) → (∀ b ∈ bs, b.WellFormed) →
          (patchedItems bs vs).map JsValue.sortKeys = vs.map JsValue.sortKeys := by
        intro vs
        induction vs with
        | nil => intro bs _ _; cases bs <;> rfl
        | cons v vs ihv =>
          intro bs hm hbs
          have hrest := fun bs hb => ihv bs (fun w hw => hm w (by simp [hw])) hb
          cases bs with
          | nil => simp [patchedItems, hrest [] (by simp)]
          | cons b bs =>
            have hv := ih v (hm v (by simp)) (hw.2 v (hm v (by simp))) b (hbs b (by simp))
            simp only [patchedItems, List.map_cons]
            rw [hv, hrest bs fun c hc => hbs c (by simp [hc])]
      rw [patched]
      unfold JsValue.SameUpToKeyOrder
      rw [JsValue.sortKeys_arr, JsValue.sortKeys_arr, hitems items bs (fun _ h => h) hb.2]
    | _ => rw [patched_other (by simp [SameShape])]; rfl
  | obj fs ih =>
    cases b with
    | obj bs =>
      rw [JsValue.wellFormed_obj] at hw hb
      rw [patched_obj]
      refine JsValue.SameUpToKeyOrder.obj (patchedObject_ordered hb.1 fs).nodup hw.1.nodup fun key => ?_
      rw [get?_patchedObject bs hw.1.nodup, Option.map_map]
      cases hv : Fields.get? fs key with
      | none => rfl
      | some v =>
        have hm := Fields.mem_of_get? hv
        simp only [Option.map_some, Function.comp, Option.some.injEq]
        unfold patchedField
        cases hc : Fields.get? bs key with
        | none => rfl
        | some c => exact ih (key, v) hm (hw.2 _ hm) c (hb.2 _ (Fields.mem_of_get? hc))
    | _ => rw [patched_other (by simp [SameShape])]; rfl
  | _ => rw [patched_other (by cases b <;> simp [SameShape])]; rfl

/-! ### When the key order is kept -/

/-- The keys that patching leaves, in order. -/
def patchedKeys (before after : List String) : List String :=
  (after.insertionSort keyLe).foldl Fields.addKey (before.filter fun k => decide (k ∈ after))

mutual

/-- Patching leaves every object with the keys in the order of the later one. -/
def keyOrderKept (before : JsValue) : JsValue → Bool
  | .arr items =>
    match before with
    | .arr bs => keyOrderKeptItems bs items
    | _ => true
  | .obj fields =>
    match before with
    | .obj bs => decide (patchedKeys (Fields.keys bs) (Fields.keys fields) = Fields.keys fields) &&
      keyOrderKeptFields bs fields
    | _ => true
  | _ => true

def keyOrderKeptItems : List JsValue → List JsValue → Bool
  | _, [] => true
  | b :: bs, v :: vs => keyOrderKept b v && keyOrderKeptItems bs vs
  | [], _ :: _ => true

def keyOrderKeptFields (bs : Fields JsValue) : List (String × JsValue) → Bool
  | [] => true
  | (k, v) :: fs =>
    (match bs.get? k with
      | some b => keyOrderKept b v
      | none => true) && keyOrderKeptFields bs fs

end

private theorem keys_patchedObject (bs fs : Fields JsValue) :
    Fields.keys (patchedObject bs fs) = patchedKeys bs.keys fs.keys := by
  unfold patchedObject patchedKeys
  rw [Fields.keys_foldl_assign, Fields.keys_sortByKey, keys_map]
  congr 1
  unfold Fields.keys
  rw [List.filter_map]
  rfl

private theorem keyOrderKeptFields_iff (bs fs : Fields JsValue) :
    keyOrderKeptFields bs fs = true ↔ ∀ f ∈ fs, ∀ b, bs.get? f.1 = some b → keyOrderKept b f.2 = true := by
  induction fs with
  | nil => simp [keyOrderKeptFields]
  | cons f fs ih =>
    obtain ⟨k, v⟩ := f
    simp only [keyOrderKeptFields, Bool.and_eq_true, ih, List.mem_cons, forall_eq_or_imp]
    refine and_congr_left fun _ => ?_
    cases bs.get? k <;> simp

/-- Patching gives exactly the later value just when it keeps the key order of every object. -/
theorem patched_eq_iff (v : JsValue) (hw : v.WellFormed) (b : JsValue) (hb : b.WellFormed) :
    patched b v = v ↔ keyOrderKept b v = true := by
  induction v using JsValue.induct generalizing b with
  | arr items ih =>
    cases b with
    | arr bs =>
      rw [JsValue.wellFormed_arr] at hw hb
      have hitems : ∀ (vs bs : List JsValue), (∀ v ∈ vs, v ∈ items) → (∀ b ∈ bs, b.WellFormed) →
          (patchedItems bs vs = vs ↔ keyOrderKeptItems bs vs = true) := by
        intro vs
        induction vs with
        | nil => intro bs _ _; cases bs <;> simp [patchedItems, keyOrderKeptItems]
        | cons v vs ihv =>
          intro bs hm hbs
          have hrest := fun bs hb => ihv bs (fun w hw => hm w (by simp [hw])) hb
          cases bs with
          | nil =>
            have hnil : patchedItems [] vs = vs := by
              clear ihv hrest hm
              induction vs with
              | nil => rfl
              | cons w ws ih => rw [patchedItems, ih]
            simp [patchedItems, keyOrderKeptItems, hnil]
          | cons b bs =>
            have hv := ih v (hm v (by simp)) (hw.2 v (hm v (by simp))) b (hbs b (by simp))
            have hr := hrest bs fun c hc => hbs c (by simp [hc])
            simp only [patchedItems, keyOrderKeptItems, List.cons.injEq, hv, hr, Bool.and_eq_true]
      rw [patched, keyOrderKept, JsValue.arr.injEq]
      exact hitems items bs (fun _ h => h) hb.2
    | _ => rw [patched_other (by simp [SameShape])]; simp [keyOrderKept]
  | obj fs ih =>
    cases b with
    | obj bs =>
      rw [JsValue.wellFormed_obj] at hw hb
      rw [patched_obj, keyOrderKept, JsValue.obj.injEq, Bool.and_eq_true, decide_eq_true_eq, keyOrderKeptFields_iff,
        ← keys_patchedObject]
      have hfield : ∀ f ∈ fs, ∀ b, Fields.get? bs f.1 = some b → (patched b f.2 = f.2 ↔ keyOrderKept b f.2 = true) :=
        fun f hf b hb' => ih f hf (hw.2 f hf) b (hb.2 _ (Fields.mem_of_get? hb'))
      constructor
      · intro he
        refine ⟨by rw [he], fun f hf b hb' => (hfield f hf b hb').1 ?_⟩
        have hg := get?_patchedObject bs hw.1.nodup f.1
        rw [he, Fields.get?_of_mem hw.1.nodup hf] at hg
        simpa [patchedField, hb', eq_comm] using hg
      · rintro ⟨hk, hf⟩
        refine Fields.ext_of_keys (patchedObject_ordered hb.1 fs).nodup hk fun key => ?_
        rw [get?_patchedObject bs hw.1.nodup]
        cases hv : Fields.get? fs key with
        | none => rfl
        | some v =>
          have hm := Fields.mem_of_get? hv
          rw [Option.map_some]
          congr 1
          unfold patchedField
          cases hc : Fields.get? bs key with
          | none => rfl
          | some c => exact (hfield (key, v) hm c hc).2 (hf (key, v) hm c hc)
    | _ => rw [patched_other (by simp [SameShape])]; simp [keyOrderKept]
  | _ => rw [patched_other (by cases b <;> simp [SameShape])]; simp [keyOrderKept]

end Opsia
