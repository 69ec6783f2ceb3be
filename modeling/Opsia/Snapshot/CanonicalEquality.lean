import Opsia.Json.Compare
import Opsia.Json.Unambiguous
import Opsia.Snapshot.Checksum

/-!
# Canonical text and equality

`canonicalJson` has a text for every JSON-like value, and two of them have the same text exactly when they are equal up
to the order of object keys and to fields that hold `undefined` (`canonicalJson_iff_same`).  One direction is that the
keys are sorted, the other that the text is unambiguous.
-/

namespace Opsia

open Json

/-- The values that JSON is about: finite numbers, arrays without holes, and objects whose fields may hold `undefined`. -/
inductive JsonLike : JsValue → Prop
  | null : JsonLike .null
  | bool (b : Bool) : JsonLike (.bool b)
  | num {x : JsNumber} (finite : x.isFinite = true) : JsonLike (.num x)
  | str (s : String) : JsonLike (.str s)
  | arr {items : List JsValue} (each : ∀ v ∈ items, JsonLike v) : JsonLike (.arr items)
  | obj {fields : Fields JsValue} (keys : fields.keys.Nodup) (each : ∀ f ∈ JsValue.defined fields, JsonLike f.2) :
    JsonLike (.obj fields)

structure JsonValue where
  value : JsValue
  like : JsonLike value

/-- Equality of values: numbers by `===`, arrays element by element, objects by what they hold at each key, a missing
field being one that holds `undefined`. -/
inductive SameJson : JsValue → JsValue → Prop
  | undefined : SameJson .undefined .undefined
  | null : SameJson .null .null
  | bool (b : Bool) : SameJson (.bool b) (.bool b)
  | num {x y : JsNumber} (equal : x.strictEq y = true) : SameJson (.num x) (.num y)
  | str (s : String) : SameJson (.str s) (.str s)
  | arr {vs ws : List JsValue} (length : vs.length = ws.length)
    (each : ∀ (i : Nat) (hv : i < vs.length) (hw : i < ws.length), SameJson vs[i] ws[i]) : SameJson (.arr vs) (.arr ws)
  | obj {fs gs : Fields JsValue} (each : ∀ key, SameJson (JsValue.field fs key) (JsValue.field gs key)) :
    SameJson (.obj fs) (.obj gs)

theorem JsonLike.isUndefined {v : JsValue} (h : JsonLike v) : v.isUndefined = false := by
  cases h <;> rfl

theorem JsonLike.canonical {v : JsValue} (h : JsonLike v) : Canonical v := by
  induction h with
  | null => exact ⟨_, by rw [canonicalJson]⟩
  | bool b => exact ⟨_, by rw [canonicalJson]⟩
  | num hfinite => exact ⟨_, by rw [canonicalJson, if_pos hfinite]⟩
  | str s => exact ⟨_, by rw [canonicalJson]⟩
  | arr _ ih => exact canonical_arr.2 ih
  | obj _ _ ih => exact canonical_obj.2 ih

/-! ### The sorted value decides equality -/

/-- What a value is after a trip through its text, with sorted keys. -/
private def sorted (v : JsValue) : JsValue := v.detach.sortKeys

private theorem throughText_eq_iff {x y : JsNumber} (hx : x.isFinite = true) (hy : y.isFinite = true) :
    x.throughText = y.throughText ↔ x.strictEq y = true := by
  cases x with
  | finite d =>
    cases y with
    | finite e => simp [JsNumber.throughText, JsNumber.strictEq]
    | negZero => simp [JsNumber.throughText, JsNumber.strictEq]
    | infinity neg => cases hy
    | nan => cases hy
  | negZero =>
    cases y with
    | finite e => simp [JsNumber.throughText, JsNumber.strictEq, eq_comm]
    | negZero => simp [JsNumber.throughText, JsNumber.strictEq]
    | infinity neg => cases hy
    | nan => cases hy
  | infinity neg => cases hx
  | nan => cases hx

private theorem sorted_num {x : JsNumber} (hx : x.isFinite = true) :
    ∃ y, x.throughText = some y ∧ sorted (.num x) = .num y := by
  cases x with
  | finite d => exact ⟨_, rfl, rfl⟩
  | negZero => exact ⟨_, rfl, rfl⟩
  | infinity neg => cases hx
  | nan => cases hx

private theorem sorted_arr {items : List JsValue} (h : ∀ v ∈ items, JsonLike v) :
    sorted (.arr items) = .arr (items.map sorted) := by
  unfold sorted
  rw [JsValue.detach_arr, JsValue.sortKeys_arr, List.map_map]
  congr 1
  refine List.map_congr_left fun v hv => ?_
  show (JsValue.orNull v.detach).sortKeys = v.detach.sortKeys
  rw [JsValue.orNull_of_defined (by rw [JsValue.detach_isUndefined, (h v hv).isUndefined])]

private theorem detached_nodup {fs : Fields JsValue} (h : fs.keys.Nodup) :
    (Fields.mapValues JsValue.detach (JsValue.defined fs)).keys.Nodup := by
  rw [Fields.keys_mapValues]
  exact h.sublist (List.filter_sublist.map Prod.fst)

/-- The sorted value at a key: none where the field is missing or holds `undefined`. -/
private theorem detached_get? {fs : Fields JsValue} (h : fs.keys.Nodup) (key : String) :
    ((Fields.mapValues JsValue.detach (JsValue.defined fs)).get? key).map JsValue.sortKeys =
      if (JsValue.field fs key).isUndefined then none else some (sorted (JsValue.field fs key)) := by
  have hfield := JsValue.field_detach h key
  cases hget : (Fields.mapValues JsValue.detach (JsValue.defined fs)).get? key with
  | none =>
    have hundef : (JsValue.field fs key).isUndefined = true := by
      rw [← JsValue.detach_isUndefined, ← hfield]
      unfold JsValue.field
      rw [hget]
      rfl
    rw [hundef]
    rfl
  | some v =>
    have hv : v = (JsValue.field fs key).detach := by
      rw [← hfield]
      unfold JsValue.field
      rw [hget]
      rfl
    have hdefined : (JsValue.field fs key).isUndefined = false := by
      rw [Fields.get?_mapValues, Option.map_eq_some_iff] at hget
      obtain ⟨w, hw, rfl⟩ := hget
      have hw := (List.mem_filter.1 (Fields.mem_of_get? hw)).2
      rw [← JsValue.detach_isUndefined, ← hv, JsValue.detach_isUndefined]
      simpa using hw
    rw [hdefined, hv]
    rfl

private theorem sorted_obj_iff {fs gs : Fields JsValue} (hf : fs.keys.Nodup) (hg : gs.keys.Nodup) :
    sorted (.obj fs) = sorted (.obj gs) ↔
      ∀ key, (JsValue.field fs key).isUndefined = (JsValue.field gs key).isUndefined ∧
        ((JsValue.field fs key).isUndefined = false → sorted (JsValue.field fs key) = sorted (JsValue.field gs key)) := by
  unfold sorted
  rw [JsValue.detach_obj, JsValue.detach_obj]
  constructor
  · intro h key
    have hkey := JsValue.SameUpToKeyOrder.get? (detached_nodup hf) (detached_nodup hg) h key
    rw [detached_get? hf, detached_get? hg] at hkey
    cases hu : (JsValue.field fs key).isUndefined with
    | true =>
      cases hu' : (JsValue.field gs key).isUndefined with
      | true => exact ⟨rfl, fun h => by cases h⟩
      | false => simp [hu, hu'] at hkey
    | false =>
      cases hu' : (JsValue.field gs key).isUndefined with
      | true => simp [hu, hu'] at hkey
      | false =>
        simp only [hu, hu', Bool.false_eq_true, if_false, Option.some.injEq] at hkey
        exact ⟨rfl, fun _ => hkey⟩
  · intro h
    refine JsValue.SameUpToKeyOrder.obj (detached_nodup hf) (detached_nodup hg) fun key => ?_
    obtain ⟨hu, hsame⟩ := h key
    rw [detached_get? hf, detached_get? hg, ← hu]
    cases hdef : (JsValue.field fs key).isUndefined with
    | true => rfl
    | false =>
      simp only [Bool.false_eq_true, if_false, Option.some.injEq]
      exact hsame hdef

theorem field_of_defined {fs : Fields JsValue} {key : String} (hdef : (JsValue.field fs key).isUndefined = false) :
    ∃ f ∈ JsValue.defined fs, JsValue.field fs key = f.2 := by
  unfold JsValue.field at hdef ⊢
  cases hget : fs.get? key with
  | none =>
    rw [hget] at hdef
    cases hdef
  | some v =>
    rw [hget] at hdef
    refine ⟨(key, v), List.mem_filter.2 ⟨Fields.mem_of_get? hget, ?_⟩, rfl⟩
    simpa using hdef

/-- Same values have the same sorted form. -/
private theorem SameJson.sorted_eq {v w : JsValue} (h : SameJson v w) (hv : JsonLike v) (hw : JsonLike w) :
    sorted v = sorted w := by
  induction h with
  | undefined => rfl
  | null => rfl
  | bool b => rfl
  | str s => rfl
  | num hequal =>
    cases hv with
    | num hx =>
      cases hw with
      | num hy =>
        obtain ⟨x', hx', hsx⟩ := sorted_num hx
        obtain ⟨y', hy', hsy⟩ := sorted_num hy
        have hxy := (throughText_eq_iff hx hy).2 hequal
        rw [hx', hy', Option.some.injEq] at hxy
        rw [hsx, hsy, hxy]
  | arr hlength _ ih =>
    cases hv with
    | arr hvs =>
      cases hw with
      | arr hws =>
        rw [sorted_arr hvs, sorted_arr hws]
        congr 1
        refine List.ext_getElem (by rw [List.length_map, List.length_map, hlength]) fun i hi hi' => ?_
        rw [List.length_map] at hi hi'
        rw [List.getElem_map, List.getElem_map]
        exact ih i hi hi' (hvs _ (List.getElem_mem hi)) (hws _ (List.getElem_mem hi'))
  | obj hsame ih =>
    cases hv with
    | obj hf hfs =>
      cases hw with
      | obj hg hgs =>
        refine (sorted_obj_iff hf hg).2 fun key => ?_
        have hundef : ∀ {v w : JsValue}, SameJson v w → v.isUndefined = w.isUndefined := by
          intro v w hvw
          cases hvw <;> rfl
        refine ⟨hundef (hsame key), fun hdef => ?_⟩
        obtain ⟨f, hf, hff⟩ := field_of_defined hdef
        obtain ⟨g, hg, hgg⟩ := field_of_defined ((hundef (hsame key)).symm.trans hdef)
        exact ih key (hff ▸ hfs f hf) (hgg ▸ hgs g hg)

private def shape : JsValue → Nat
  | .undefined => 0
  | .null => 1
  | .bool _ => 2
  | .num _ => 3
  | .str _ => 4
  | .arr _ => 5
  | .obj _ => 6

private theorem shape_sorted {v : JsValue} (h : JsonLike v) : shape (sorted v) = shape v := by
  cases h with
  | num hfinite =>
    obtain ⟨y, -, hy⟩ := sorted_num hfinite
    rw [hy]
    rfl
  | _ => rfl

/-- Values with the same sorted form are the same. -/
private theorem same_of_sorted {v w : JsValue} (hv : JsonLike v) (hw : JsonLike w) (h : sorted v = sorted w) :
    SameJson v w := by
  have hshape : shape v = shape w := by rw [← shape_sorted hv, ← shape_sorted hw, h]
  induction hv generalizing w with
  | null =>
    cases hw with
    | null => exact .null
    | _ => cases hshape
  | bool b =>
    cases hw with
    | bool b' =>
      cases JsValue.bool.inj (show JsValue.bool b = .bool b' from h)
      exact .bool b
    | _ => cases hshape
  | num hx =>
    cases hw with
    | num hy =>
      obtain ⟨x', hx', hsx⟩ := sorted_num hx
      obtain ⟨y', hy', hsy⟩ := sorted_num hy
      rw [hsx, hsy, JsValue.num.injEq] at h
      exact .num ((throughText_eq_iff hx hy).1 (by rw [hx', hy', h]))
    | _ => cases hshape
  | str s =>
    cases hw with
    | str s' =>
      cases JsValue.str.inj (show JsValue.str s = .str s' from h)
      exact .str s
    | _ => cases hshape
  | @arr vs hvs ih =>
    cases hw with
    | @arr ws hws =>
      rw [sorted_arr hvs, sorted_arr hws, JsValue.arr.injEq] at h
      have hlength := congrArg List.length h
      rw [List.length_map, List.length_map] at hlength
      refine .arr hlength fun i hi hi' => ?_
      have hitem : sorted vs[i] = sorted ws[i] := by
        have hget := List.getElem_of_eq h (by rw [List.length_map]; exact hi)
        rwa [List.getElem_map, List.getElem_map] at hget
      have hvi := hvs _ (List.getElem_mem hi)
      have hwi := hws _ (List.getElem_mem hi')
      exact ih _ (List.getElem_mem hi) hwi hitem (by rw [← shape_sorted hvi, ← shape_sorted hwi, hitem])
    | _ => cases hshape
  | obj hf hfs ih =>
    cases hw with
    | obj hg hgs =>
      refine .obj fun key => ?_
      obtain ⟨hu, hsame⟩ := (sorted_obj_iff hf hg).1 h key
      cases hdef : (JsValue.field _ key).isUndefined with
      | true =>
        have hundef : ∀ {v : JsValue}, v.isUndefined = true → v = .undefined := by
          intro v hv
          cases v <;> first | rfl | cases hv
        rw [hundef hdef, hundef (hu.symm.trans hdef)]
        exact .undefined
      | false =>
        obtain ⟨f, hfmem, hff⟩ := field_of_defined hdef
        obtain ⟨g, hgmem, hgg⟩ := field_of_defined (hu.symm.trans hdef)
        have hkey := hsame hdef
        rw [hff, hgg] at hkey ⊢
        exact ih f hfmem (hgs g hgmem) hkey
          (by rw [← shape_sorted (hfs f hfmem), ← shape_sorted (hgs g hgmem), hkey])
    | _ => cases hshape

private theorem plain_sortKeys (v : JsValue) (h : v.Plain) : v.sortKeys.Plain := by
  induction v using JsValue.induct with
  | arr items ih =>
    rw [JsValue.plain_arr] at h
    rw [JsValue.sortKeys_arr, JsValue.plain_arr]
    intro w hw
    obtain ⟨v, hv, rfl⟩ := List.mem_map.1 hw
    exact ih v hv (h v hv)
  | obj fields ih =>
    rw [JsValue.plain_obj] at h
    rw [JsValue.sortKeys_obj, JsValue.plain_obj]
    intro f hf
    obtain ⟨g, hg, rfl⟩ := List.mem_map.1 (Fields.mem_sortByKey.1 hf)
    exact ih g hg (h g hg)
  | undefined => exact h
  | null => exact h
  | bool b => exact h
  | num x => exact h
  | str s => exact h

/-- Two JSON-like values have the same canonical text exactly when they are equal up to the order of object keys and to
fields that hold `undefined`. -/
theorem canonicalJson_iff_same (v w : JsonValue) :
    ∃ text text', canonicalJson v.value = .ok text ∧ canonicalJson w.value = .ok text' ∧
      (text = text' ↔ SameJson v.value w.value) := by
  obtain ⟨text, htext⟩ := v.like.canonical
  obtain ⟨text', htext'⟩ := w.like.canonical
  refine ⟨text, text', htext, htext', ?_⟩
  have hv : text = write (sorted v.value) := canonicalJson_eq_ok v.value htext
  have hw : text' = write (sorted w.value) := canonicalJson_eq_ok w.value htext'
  have hplain : ∀ u : JsonValue, (sorted u.value).Plain := fun u =>
    plain_sortKeys _ (JsValue.plain_detach _ u.like.isUndefined)
  constructor
  · intro h
    rw [hv, hw] at h
    exact same_of_sorted v.like w.like (write_inj (hplain v) (hplain w) h)
  · intro h
    rw [hv, hw, h.sorted_eq v.like w.like]

end Opsia
