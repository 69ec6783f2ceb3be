import Opsia.Json.Number
import Opsia.Json.Record

/-!
# Values

The values a snapshot is made of: what JSON can carry, and `undefined`.  `detach` is what is left of a value after a
trip through its JSON text: fields that hold `undefined` disappear, `undefined` in an array becomes `null`, and so do
the non-finite numbers.  `sortKeys` is the normal form for equality up to the order of object keys.
-/

namespace Opsia.Json

inductive JsValue
  | undefined
  | null
  | bool (b : Bool)
  | num (x : JsNumber)
  | str (s : String)
  | arr (items : List JsValue)
  | obj (fields : List (String × JsValue))

namespace JsValue

/-- Induction on a value, with the hypothesis for the elements of an array and for the fields of an object. -/
@[elab_as_elim]
theorem induct {P : JsValue → Prop} (undefined : P undefined) (null : P null) (bool : ∀ b, P (bool b))
    (num : ∀ x, P (num x)) (str : ∀ s, P (str s)) (arr : ∀ items, (∀ v ∈ items, P v) → P (arr items))
    (obj : ∀ fields, (∀ f ∈ fields, P f.2) → P (obj fields)) (v : JsValue) : P v :=
  @JsValue.rec P (fun vs => ∀ v ∈ vs, P v) (fun fs => ∀ f ∈ fs, P f.2) (fun f => P f.2)
    undefined null bool num str arr obj (fun _ h => by cases h)
    (fun v vs hv hvs => by
      intro w hw
      rcases List.mem_cons.1 hw with rfl | hw
      · exact hv
      · exact hvs w hw)
    (fun _ h => by cases h)
    (fun f fs hf hfs => by
      intro g hg
      rcases List.mem_cons.1 hg with rfl | hg
      · exact hf
      · exact hfs g hg)
    (fun _ _ h => h) v

/-! ### Equality -/

mutual

/-- Structural equality, key order included. -/
def same : JsValue → JsValue → Bool
  | undefined, undefined => true
  | null, null => true
  | bool a, bool b => a == b
  | num x, num y => decide (x = y)
  | str s, str t => decide (s = t)
  | arr vs, arr ws => sameItems vs ws
  | obj fs, obj gs => sameFields fs gs
  | _, _ => false

def sameItems : List JsValue → List JsValue → Bool
  | [], [] => true
  | v :: vs, w :: ws => same v w && sameItems vs ws
  | _, _ => false

def sameFields : List (String × JsValue) → List (String × JsValue) → Bool
  | [], [] => true
  | (k, v) :: fs, (l, w) :: gs => decide (k = l) && same v w && sameFields fs gs
  | _, _ => false

end

theorem same_iff (v w : JsValue) : same v w = true ↔ v = w := by
  induction v using induct generalizing w with
  | arr items ih =>
    have hitems : ∀ (vs ws : List JsValue), (∀ v ∈ vs, v ∈ items) → (sameItems vs ws = true ↔ vs = ws) := by
      intro vs
      induction vs with
      | nil => intro ws _; cases ws <;> simp [sameItems]
      | cons v vs ihv =>
        intro ws hm
        cases ws with
        | nil => simp [sameItems]
        | cons w ws =>
          simp [sameItems, ih v (hm v (by simp)) w, ihv ws fun u hu => hm u (by simp [hu])]
    cases w <;> simp [same, hitems items _ fun _ h => h]
  | obj fields ih =>
    have hfields : ∀ (fs gs : List (String × JsValue)), (∀ f ∈ fs, f ∈ fields) → (sameFields fs gs = true ↔ fs = gs) := by
      intro fs
      induction fs with
      | nil => intro gs _; cases gs <;> simp [sameFields]
      | cons f fs ihf =>
        intro gs hm
        obtain ⟨k, v⟩ := f
        cases gs with
        | nil => simp [sameFields]
        | cons g gs =>
          obtain ⟨l, w⟩ := g
          simp [sameFields, ih _ (hm (k, v) (by simp)) w, ihf gs fun u hu => hm u (by simp [hu])]
    cases w <;> simp [same, hfields fields _ fun _ h => h]
  | _ => cases w <;> simp [same]

instance : DecidableEq JsValue := fun v w => decidable_of_iff _ (same_iff v w)

def isUndefined : JsValue → Bool
  | undefined => true
  | _ => false

/-- `typeof value === "object" && value !== null && !Array.isArray(value)`. -/
def isRecord : JsValue → Bool
  | obj _ => true
  | _ => false

/-- `value[key]` on a record: `undefined` where there is no such field. -/
def field (fields : Fields JsValue) (key : String) : JsValue := (fields.get? key).getD undefined

def asStr? : JsValue → Option String
  | str s => some s
  | _ => none

def asNum? : JsValue → Option JsNumber
  | num x => some x
  | _ => none

/-- The value of a field for which `Number.isSafeInteger` holds and that is at least zero. -/
def asSafeNat? (v : JsValue) : Option SafeNat := v.asNum?.bind JsNumber.safeNat?

def asRecord? : JsValue → Option (Fields JsValue)
  | obj fields => some fields
  | _ => none

theorem field_assign (fs : Fields JsValue) (key other : String) (v : JsValue) :
    field (fs.assign key v) other = if other = key then v else field fs other := by
  unfold field
  rw [Fields.get?_assign]
  split <;> rfl

theorem field_remove (fs : Fields JsValue) (key other : String) :
    field (fs.remove key) other = if other = key then undefined else field fs other := by
  unfold field
  rw [Fields.get?_remove]
  split <;> rfl

/-! ### Well-formed values -/

mutual

/-- Every object lists its fields in own-key order, and no array is longer than an array can be. -/
def WellFormed : JsValue → Prop
  | arr items => items.length < 4294967296 ∧ WellFormedItems items
  | obj fields => Fields.Ordered fields ∧ WellFormedFields fields
  | _ => True

def WellFormedItems : List JsValue → Prop
  | [] => True
  | v :: vs => WellFormed v ∧ WellFormedItems vs

def WellFormedFields : List (String × JsValue) → Prop
  | [] => True
  | (_, v) :: fs => WellFormed v ∧ WellFormedFields fs

end

@[simp] theorem wellFormed_arr (items : List JsValue) :
    WellFormed (arr items) ↔ items.length < 4294967296 ∧ ∀ v ∈ items, WellFormed v := by
  have hitems : ∀ vs, WellFormedItems vs ↔ ∀ v ∈ vs, WellFormed v := by
    intro vs
    induction vs with
    | nil => simp [WellFormedItems]
    | cons v vs ih => simp [WellFormedItems, ih]
  rw [WellFormed, hitems]

@[simp] theorem wellFormed_obj (fields : Fields JsValue) :
    WellFormed (obj fields) ↔ fields.Ordered ∧ ∀ f ∈ fields, WellFormed f.2 := by
  have hfields : ∀ fs, WellFormedFields fs ↔ ∀ f ∈ fs, WellFormed f.2 := by
    intro fs
    induction fs with
    | nil => simp [WellFormedFields]
    | cons f fs ih =>
      obtain ⟨k, v⟩ := f
      simp only [WellFormedFields, ih, List.mem_cons, forall_eq_or_imp]
  rw [WellFormed, hfields]

/-! ### A trip through JSON text -/

/-- An element of an array as JSON shows it. -/
def orNull : JsValue → JsValue
  | undefined => null
  | v => v

/-- The fields that JSON shows. -/
def defined (fs : Fields JsValue) : Fields JsValue := fs.filter fun f => !f.2.isUndefined

mutual

/-- The value that the JSON text of a value denotes. -/
def detach : JsValue → JsValue
  | undefined => undefined
  | null => null
  | bool b => bool b
  | num x =>
    match x.throughText with
    | some y => num y
    | none => null
  | str s => str s
  | arr items => arr (detachItems items)
  | obj fields => obj (detachFields fields)

def detachItems : List JsValue → List JsValue
  | [] => []
  | v :: vs => orNull (detach v) :: detachItems vs

def detachFields : List (String × JsValue) → List (String × JsValue)
  | [] => []
  | (k, v) :: fs => if v.isUndefined then detachFields fs else (k, detach v) :: detachFields fs

end

@[simp] theorem detach_arr (items : List JsValue) : detach (arr items) = arr (items.map fun v => orNull (detach v)) := by
  rw [detach]
  congr 1
  induction items with
  | nil => rfl
  | cons v vs ih => simp [detachItems, ih]

@[simp] theorem detach_obj (fields : Fields JsValue) :
    detach (obj fields) = obj (Fields.mapValues detach (defined fields)) := by
  rw [detach]
  congr 1
  induction fields with
  | nil => rfl
  | cons f fs ih =>
    obtain ⟨k, v⟩ := f
    cases h : v.isUndefined <;> simp [detachFields, defined, Fields.mapValues, h] at ih ⊢ <;> exact ih

theorem detach_isUndefined (v : JsValue) : (detach v).isUndefined = v.isUndefined := by
  cases v with
  | num x => cases h : x.throughText <;> simp [detach, h, isUndefined]
  | _ => simp [detach, isUndefined]

/-- Reading a field commutes with the trip through JSON text. -/
theorem field_detach {fs : Fields JsValue} (hn : fs.keys.Nodup) (key : String) :
    field (Fields.mapValues detach (defined fs)) key = detach (field fs key) := by
  unfold field
  rw [Fields.get?_mapValues]
  cases h : fs.get? key with
  | none =>
    have hd : (defined fs).get? key = none := by
      rw [Fields.get?_eq_none_iff] at h ⊢
      exact fun hm => h (List.Sublist.subset ((List.filter_sublist (l := fs)).map Prod.fst) hm)
    simp [hd, detach]
  | some v =>
    have hm := Fields.mem_of_get? h
    cases hu : v.isUndefined with
    | true =>
      have hd : (defined fs).get? key = none := by
        rw [Fields.get?_eq_none_iff]
        intro hk
        obtain ⟨⟨k, w⟩, hf, rfl⟩ := List.mem_map.1 hk
        obtain ⟨hf, hw⟩ := List.mem_filter.1 hf
        rw [Fields.get?_of_mem hn hf, Option.some.injEq] at h
        simp [h, hu] at hw
      cases v <;> simp [isUndefined] at hu
      simp [hd, detach]
    | false =>
      have hd : (defined fs).get? key = some v := by
        refine Fields.get?_of_mem (hn.sublist ((List.filter_sublist (l := fs)).map Prod.fst)) ?_
        exact List.mem_filter.2 ⟨hm, by simp [hu]⟩
      simp [hd]

theorem wellFormed_orNull {v : JsValue} (h : WellFormed v) : WellFormed (orNull v) := by
  cases v <;> exact h

theorem wellFormed_detach (v : JsValue) (h : WellFormed v) : WellFormed (detach v) := by
  induction v using induct with
  | num x => cases hx : x.throughText <;> simp [detach, hx, WellFormed]
  | arr items ih =>
    simp only [wellFormed_arr, detach_arr, List.length_map] at h ⊢
    refine ⟨h.1, ?_⟩
    intro w hw
    obtain ⟨v, hv, rfl⟩ := List.mem_map.1 hw
    exact wellFormed_orNull (ih v hv (h.2 v hv))
  | obj fields ih =>
    simp only [wellFormed_obj, detach_obj] at h ⊢
    refine ⟨(h.1.filter _).mapValues _, ?_⟩
    intro f hf
    obtain ⟨g, hg, rfl⟩ := List.mem_map.1 hf
    have hg := (List.mem_filter.1 hg).1
    exact ih g hg (h.2 g hg)
  | _ => simp [detach, WellFormed]

/-! ### Plain values -/

mutual

/-- The value is what JSON text can denote: no `undefined` and no number that changes on the way. -/
def Plain : JsValue → Prop
  | undefined => False
  | num x => x.throughText = some x
  | arr items => PlainItems items
  | obj fields => PlainFields fields
  | _ => True

def PlainItems : List JsValue → Prop
  | [] => True
  | v :: vs => Plain v ∧ PlainItems vs

def PlainFields : List (String × JsValue) → Prop
  | [] => True
  | (_, v) :: fs => Plain v ∧ PlainFields fs

end

@[simp] theorem plain_arr (items : List JsValue) : Plain (arr items) ↔ ∀ v ∈ items, Plain v := by
  rw [Plain]
  induction items with
  | nil => simp [PlainItems]
  | cons v vs ih => simp [PlainItems, ih]

@[simp] theorem plain_obj (fields : Fields JsValue) : Plain (obj fields) ↔ ∀ f ∈ fields, Plain f.2 := by
  rw [Plain]
  induction fields with
  | nil => simp [PlainFields]
  | cons f fs ih =>
    obtain ⟨k, v⟩ := f
    simp only [PlainFields, ih, List.mem_cons, forall_eq_or_imp]

theorem Plain.isUndefined {v : JsValue} (h : Plain v) : v.isUndefined = false := by
  cases v <;> first | rfl | exact absurd h (by simp [Plain])

theorem orNull_of_defined {v : JsValue} (h : v.isUndefined = false) : orNull v = v := by
  cases v <;> first | rfl | simp [isUndefined] at h

theorem plain_detach (v : JsValue) (h : v.isUndefined = false) : Plain (detach v) := by
  induction v using induct with
  | undefined => simp [isUndefined] at h
  | num x => cases x <;> simp [detach, JsNumber.throughText, Plain]; rfl
  | arr items ih =>
    simp only [plain_arr, detach_arr, List.mem_map, forall_exists_index, and_imp]
    rintro _ v hv rfl
    cases hu : v.isUndefined with
    | true =>
      cases v <;> simp [isUndefined] at hu
      simp [detach, orNull, Plain]
    | false => rw [orNull_of_defined (by rw [detach_isUndefined, hu])]; exact ih v hv hu
  | obj fields ih =>
    simp only [plain_obj, detach_obj]
    intro f hf
    obtain ⟨g, hg, rfl⟩ := List.mem_map.1 hf
    have hg := List.mem_filter.1 hg
    exact ih g hg.1 (by simpa using hg.2)
  | _ => simp [detach, Plain]

theorem detach_of_plain (v : JsValue) (h : Plain v) : detach v = v := by
  induction v using induct with
  | num x => simp only [Plain] at h; simp [detach, h]
  | arr items ih =>
    simp only [plain_arr] at h
    rw [detach_arr]
    congr 1
    conv_rhs => rw [← List.map_id items]
    refine List.map_congr_left fun v hv => ?_
    rw [ih v hv (h v hv), orNull_of_defined (h v hv).isUndefined, id]
  | obj fields ih =>
    simp only [plain_obj] at h
    have hd : defined fields = fields := List.filter_eq_self.2 fun f hf => by simp [(h f hf).isUndefined]
    rw [detach_obj, hd]
    congr 1
    conv_rhs => rw [← List.map_id fields]
    refine List.map_congr_left fun f hf => ?_
    rw [ih f hf (h f hf), id]
  | _ => simp [detach]

theorem detach_detach (v : JsValue) : detach (detach v) = detach v := by
  cases h : v.isUndefined with
  | true => cases v <;> simp [isUndefined] at h; simp [detach]
  | false => exact detach_of_plain _ (plain_detach v h)

/-! ### Equality up to key order -/

mutual

/-- The value with the keys of every object sorted. -/
def sortKeys : JsValue → JsValue
  | arr items => arr (sortKeysItems items)
  | obj fields => obj (Fields.sortByKey (sortKeysFields fields))
  | v => v

def sortKeysItems : List JsValue → List JsValue
  | [] => []
  | v :: vs => sortKeys v :: sortKeysItems vs

def sortKeysFields : List (String × JsValue) → List (String × JsValue)
  | [] => []
  | (k, v) :: fs => (k, sortKeys v) :: sortKeysFields fs

end

@[simp] theorem sortKeys_arr (items : List JsValue) : sortKeys (arr items) = arr (items.map sortKeys) := by
  rw [sortKeys]
  congr 1
  induction items with
  | nil => rfl
  | cons v vs ih => simp [sortKeysItems, ih]

@[simp] theorem sortKeys_obj (fields : Fields JsValue) :
    sortKeys (obj fields) = obj (Fields.sortByKey (Fields.mapValues sortKeys fields)) := by
  rw [sortKeys]
  congr 2
  induction fields with
  | nil => rfl
  | cons f fs ih =>
    obtain ⟨k, v⟩ := f
    simp only [sortKeysFields, ih]
    rfl

/-- Equality up to the order of object keys. -/
def SameUpToKeyOrder (v w : JsValue) : Prop := sortKeys v = sortKeys w

/-- Two objects whose fields agree up to key order agree up to key order. -/
theorem SameUpToKeyOrder.obj {fs gs : Fields JsValue} (hf : fs.keys.Nodup) (hg : gs.keys.Nodup)
    (h : ∀ key, (fs.get? key).map sortKeys = (gs.get? key).map sortKeys) :
    SameUpToKeyOrder (obj fs) (obj gs) := by
  unfold SameUpToKeyOrder
  rw [sortKeys_obj, sortKeys_obj]
  congr 1
  refine Fields.sortByKey_congr (by rwa [Fields.keys_mapValues]) (by rwa [Fields.keys_mapValues]) fun key => ?_
  rw [Fields.get?_mapValues, Fields.get?_mapValues, h]

/-- What two objects that agree up to key order hold at a key agrees up to key order. -/
theorem SameUpToKeyOrder.get? {fs gs : Fields JsValue} (hf : fs.keys.Nodup) (hg : gs.keys.Nodup)
    (h : SameUpToKeyOrder (JsValue.obj fs) (JsValue.obj gs)) (key : String) : (fs.get? key).map sortKeys = (gs.get? key).map sortKeys := by
  unfold SameUpToKeyOrder at h
  rw [sortKeys_obj, sortKeys_obj, JsValue.obj.injEq] at h
  have hk := congrArg (fun fs => Fields.get? fs key) h
  rwa [Fields.get?_sortByKey (by rwa [Fields.keys_mapValues]), Fields.get?_sortByKey (by rwa [Fields.keys_mapValues]),
    Fields.get?_mapValues, Fields.get?_mapValues] at hk

/-- The sorted keys of two objects that agree up to key order are the same. -/
theorem SameUpToKeyOrder.keys {fs gs : Fields JsValue} (h : SameUpToKeyOrder (JsValue.obj fs) (JsValue.obj gs)) :
    fs.keys.insertionSort keyLe = gs.keys.insertionSort keyLe := by
  unfold SameUpToKeyOrder at h
  rw [sortKeys_obj, sortKeys_obj, JsValue.obj.injEq] at h
  have hk := congrArg Fields.keys h
  rwa [Fields.keys_sortByKey, Fields.keys_sortByKey, Fields.keys_mapValues, Fields.keys_mapValues] at hk

/-- Values that agree up to key order are arrays, objects, or the same scalar. -/
theorem SameUpToKeyOrder.shape {v w : JsValue} (h : SameUpToKeyOrder v w) :
    (∃ vs ws, v = arr vs ∧ w = arr ws ∧ vs.map sortKeys = ws.map sortKeys) ∨ (∃ fs gs, v = JsValue.obj fs ∧ w = JsValue.obj gs) ∨ v = w := by
  unfold SameUpToKeyOrder at h
  cases v with
  | arr vs =>
    cases w with
    | arr ws => exact Or.inl ⟨vs, ws, rfl, rfl, by simpa using h⟩
    | _ => simp [sortKeys] at h
  | obj fs =>
    cases w with
    | obj gs => exact Or.inr (Or.inl ⟨fs, gs, rfl, rfl⟩)
    | _ => simp [sortKeys] at h
  | _ => cases w <;> simp_all [sortKeys]

end JsValue

end Opsia.Json
