import Opsia.Json.Text

/-!
# Checksums

The two texts a checksum is taken of: `canonicalJson` sorts the keys of every object, `checksumOrderedValue` keeps them
in the order they stand.  Both refuse non-finite numbers.  SHA-256 is a parameter: any function from text to digests.
The results say what the texts depend on: the canonical text is the text of the value with sorted keys
(`canonicalJson_eq_ok`), so it is blind to key order, while the ordered text determines the value
(`orderedText_injective`).
-/

namespace Opsia

open Json

def isLowerHex (c : Char) : Bool := (48 ≤ c.toNat && c.toNat ≤ 57) || (97 ≤ c.toNat && c.toNat ≤ 102)

/-- A SHA-256 digest as `digest("hex")` shows it. -/
structure HexDigest where
  text : String
  length_eq : text.toList.length = 64
  hex : text.toList.all isLowerHex = true
deriving DecidableEq

/-- `Buffer.from(text, "hex")`: decoding stops at the first pair that is not hexadecimal. -/
def hexBytes : List Char → List Nat
  | a :: b :: rest =>
    match hexVal? a, hexVal? b with
    | some x, some y => (x * 16 + y) :: hexBytes rest
    | _, _ => []
  | _ => []

/-! ### Sorted keys -/

/-- The values, unless one of them is an error: then the first error. -/
def joinResults {ε α : Type} : List (Except ε α) → Except ε (List α)
  | [] => .ok []
  | .error e :: _ => .error e
  | .ok a :: rs =>
    match joinResults rs with
    | .error e => .error e
    | .ok as => .ok (a :: as)

mutual

def canonicalJson : JsValue → Except String (List Char)
  | .null => .ok (write .null)
  | .bool b => .ok (write (.bool b))
  | .str s => .ok (write (.str s))
  | .num x => if x.isFinite then .ok x.render else .error "snapshot_contains_non_finite_number"
  | .arr items => (joinResults (canonicalItems items)).map fun ts => '[' :: (joinComma ts ++ [']'])
  | .obj fields =>
    (joinResults ((Fields.sortByKey (canonicalFields fields)).map fun f => f.2.map (member f.1))).map
      fun ts => '{' :: (joinComma ts ++ ['}'])
  | .undefined => .error "snapshot_contains_unsupported_value"

def canonicalItems : List JsValue → List (Except String (List Char))
  | [] => []
  | v :: vs => canonicalJson v :: canonicalItems vs

/-- The fields that are not `undefined`, with the text of their values. -/
def canonicalFields : List (String × JsValue) → List (String × Except String (List Char))
  | [] => []
  | (k, v) :: fs => if v.isUndefined then canonicalFields fs else (k, canonicalJson v) :: canonicalFields fs

end

mutual

/-- Every number in the value is finite. -/
def allFinite : JsValue → Bool
  | .num x => x.isFinite
  | .arr items => allFiniteItems items
  | .obj fields => allFiniteFields fields
  | _ => true

def allFiniteItems : List JsValue → Bool
  | [] => true
  | v :: vs => allFinite v && allFiniteItems vs

def allFiniteFields : List (String × JsValue) → Bool
  | [] => true
  | (_, v) :: fs => allFinite v && allFiniteFields fs

end

/-- The text that `checksumOrderedValue` hashes. -/
def orderedText (v : JsValue) : Except String (List Char) :=
  if allFinite v then
    if v.isUndefined then .error "snapshot_contains_unsupported_value" else .ok (write v.detach)
  else .error "snapshot_contains_non_finite_number"

section

variable (sha256 : List Char → HexDigest)

def checksumValue (v : JsValue) : Except String String :=
  (canonicalJson v).map fun text => (sha256 text).text

def checksumOrderedValue (v : JsValue) : Except String String := (orderedText v).map fun text => (sha256 text).text

end

private theorem isLowerHex_bounds {c : Char} (h : isLowerHex c = true) :
    (48 ≤ c.toNat ∧ c.toNat ≤ 57) ∨ (97 ≤ c.toNat ∧ c.toNat ≤ 102) := by simpa [isLowerHex] using h

private theorem hexVal?_lowerHex {c : Char} (h : isLowerHex c = true) : ∃ n, n < 16 ∧ hexVal? c = some n := by
  rcases isLowerHex_bounds h with hc | hc
  · exact ⟨c.toNat - 48, by omega, by simp [hexVal?, hc]⟩
  · exact ⟨c.toNat - 87, by omega, by simp [hexVal?, hc]; omega⟩

private theorem hexVal?_injective {c d : Char} (hc : isLowerHex c = true) (hd : isLowerHex d = true)
    (h : hexVal? c = hexVal? d) : c = d := by
  apply Char.toNat_inj.1
  have hc := isLowerHex_bounds hc
  have hd := isLowerHex_bounds hd
  unfold hexVal? at h
  grind

private theorem hexBytes_injective :
    ∀ (cs ds : List Char), (∀ c ∈ cs, isLowerHex c = true) → (∀ d ∈ ds, isLowerHex d = true) → cs.length = ds.length →
      cs.length % 2 = 0 → hexBytes cs = hexBytes ds → cs = ds
  | [], [], _, _, _, _, _ => rfl
  | [_], _, _, _, _, h, _ => by simp at h
  | a :: b :: cs, [], _, _, h, _, _ => by simp at h
  | a :: b :: cs, [_], _, _, h, _, _ => by simp at h
  | a :: b :: cs, c :: d :: ds, hcs, hds, hl, he, h => by
    obtain ⟨x, hx, hax⟩ := hexVal?_lowerHex (hcs a (by simp))
    obtain ⟨y, hy, hby⟩ := hexVal?_lowerHex (hcs b (by simp))
    obtain ⟨x', hx', hcx⟩ := hexVal?_lowerHex (hds c (by simp))
    obtain ⟨y', hy', hdy⟩ := hexVal?_lowerHex (hds d (by simp))
    simp only [hexBytes, hax, hby, hcx, hdy, List.cons.injEq] at h
    have hxx : x = x' := by omega
    have hyy : y = y' := by omega
    have hac := hexVal?_injective (hcs a (by simp)) (hds c (by simp)) (by rw [hax, hcx, hxx])
    have hbd := hexVal?_injective (hcs b (by simp)) (hds d (by simp)) (by rw [hby, hdy, hyy])
    have hrest := hexBytes_injective cs ds (fun e he => hcs e (by simp [he])) (fun e he => hds e (by simp [he]))
      (by simpa using hl) (by simp only [List.length_cons] at he; omega) h.2
    rw [hac, hbd, hrest]

theorem HexDigest.utf16_length (d : HexDigest) : (utf16 d.text).length = 64 := by
  have hlen : ∀ cs : List Char, (∀ c ∈ cs, isLowerHex c = true) → (cs.flatMap utf16Units).length = cs.length := by
    intro cs hcs
    induction cs with
    | nil => rfl
    | cons c cs ih =>
      have hc : c.toNat < 65536 := by have := isLowerHex_bounds (hcs c (by simp)); omega
      rw [List.flatMap_cons, List.length_append, ih fun e he => hcs e (by simp [he])]
      simp [utf16Units, hc, Nat.add_comm]
  unfold utf16
  rw [hlen _ (List.all_eq_true.1 d.hex), d.length_eq]

/-- Two digests with the same bytes are the same digest. -/
theorem HexDigest.eq_of_hexBytes {a b : HexDigest} (h : hexBytes a.text.toList = hexBytes b.text.toList) : a = b := by
  have ht : a.text.toList = b.text.toList :=
    hexBytes_injective _ _ (List.all_eq_true.1 a.hex) (List.all_eq_true.1 b.hex) (by rw [a.length_eq, b.length_eq]) (by rw [a.length_eq]) h
  cases a
  cases b
  simp only [String.toList_inj] at ht
  subst ht
  rfl

/-! ### What the canonical text depends on -/

theorem joinResults_eq_ok {ε α : Type} {rs : List (Except ε α)} {as : List α} :
    joinResults rs = .ok as ↔ rs = as.map .ok := by
  induction rs generalizing as with
  | nil => cases as <;> simp [joinResults]
  | cons r rs ih =>
    cases r with
    | error e => cases as <;> simp [joinResults]
    | ok a =>
      cases h : joinResults rs with
      | error e =>
        have hne : ∀ bs : List α, rs ≠ bs.map .ok := fun bs hb => by rw [ih.2 hb] at h; cases h
        cases as with
        | nil => simp [joinResults, h]
        | cons b bs => simp [joinResults, h, hne bs]
      | ok bs =>
        have hb := ih.1 h
        cases as with
        | nil => simp [joinResults, h]
        | cons c cs =>
          simp only [joinResults, h, Except.ok.injEq, List.cons.injEq, List.map_cons]
          rw [hb]
          refine and_congr_right fun _ => ⟨fun he => by rw [he], fun he => ?_⟩
          exact List.map_injective_iff.2 (fun x y hxy => by cases hxy; rfl) he

private theorem canonicalItems_eq (vs : List JsValue) : canonicalItems vs = vs.map canonicalJson := by
  induction vs with
  | nil => rfl
  | cons v vs ih => rw [canonicalItems, ih]; rfl

private theorem canonicalFields_eq (fs : Fields JsValue) :
    canonicalFields fs = Fields.mapValues canonicalJson (JsValue.defined fs) := by
  induction fs with
  | nil => rfl
  | cons f fs ih =>
    obtain ⟨k, v⟩ := f
    cases h : v.isUndefined <;>
      simp only [canonicalFields, JsValue.defined, Fields.mapValues, h, Bool.not_true, Bool.not_false, if_true,
        Bool.false_eq_true, if_false, List.filter_cons, List.map_cons] at ih ⊢ <;>
      rw [ih]

@[simp] theorem canonicalJson_arr (items : List JsValue) : canonicalJson (.arr items) =
    (joinResults (items.map canonicalJson)).map fun ts => '[' :: (joinComma ts ++ [']']) := by
  rw [canonicalJson, canonicalItems_eq]

@[simp] theorem canonicalJson_obj (fields : Fields JsValue) : canonicalJson (.obj fields) =
    (joinResults ((Fields.sortByKey (Fields.mapValues canonicalJson (JsValue.defined fields))).map
      fun f => f.2.map (member f.1))).map fun ts => '{' :: (joinComma ts ++ ['}']) := by
  rw [canonicalJson, canonicalFields_eq]

/-- The value has a canonical text. -/
def Canonical (v : JsValue) : Prop := ∃ text, canonicalJson v = .ok text

theorem Canonical.isUndefined {v : JsValue} (h : Canonical v) : v.isUndefined = false := by
  obtain ⟨text, h⟩ := h
  cases v with
  | undefined => simp [canonicalJson] at h
  | _ => rfl

theorem map_eq_ok {ε α β : Type} {r : Except ε α} {f : α → β} {b : β} :
    r.map f = .ok b ↔ ∃ a, r = .ok a ∧ f a = b := by
  cases r <;> simp [Except.map]

/-- A list of results that all succeed is a list of successes. -/
private theorem exists_map_ok {ε α β : Type} {xs : List α} {f : α → Except ε β} (h : ∀ x ∈ xs, ∃ b, f x = .ok b) :
    ∃ bs : List β, xs.map f = bs.map .ok := by
  induction xs with
  | nil => exact ⟨[], rfl⟩
  | cons x xs ih =>
    obtain ⟨b, hb⟩ := h x (by simp)
    obtain ⟨bs, hbs⟩ := ih fun y hy => h y (by simp [hy])
    exact ⟨b :: bs, by simp [hb, hbs]⟩

private theorem ok_of_map_ok {ε α β : Type} {xs : List α} {f : α → Except ε β} {bs : List β}
    (h : xs.map f = bs.map .ok) : ∀ x ∈ xs, ∃ b, f x = .ok b := by
  intro x hx
  have hm : f x ∈ bs.map Except.ok := h ▸ List.mem_map_of_mem hx
  obtain ⟨b, _, hb⟩ := List.mem_map.1 hm
  exact ⟨b, hb.symm⟩

theorem canonical_arr {items : List JsValue} : Canonical (.arr items) ↔ ∀ v ∈ items, Canonical v := by
  unfold Canonical
  simp only [canonicalJson_arr, map_eq_ok, joinResults_eq_ok]
  constructor
  · rintro ⟨_, ts, h, _⟩
    exact ok_of_map_ok h
  · intro h
    obtain ⟨ts, hts⟩ := exists_map_ok h
    exact ⟨_, ts, hts, rfl⟩

theorem canonical_obj {fields : Fields JsValue} :
    Canonical (.obj fields) ↔ ∀ f ∈ JsValue.defined fields, Canonical f.2 := by
  unfold Canonical
  simp only [canonicalJson_obj, map_eq_ok, joinResults_eq_ok]
  constructor
  · rintro ⟨_, ts, h, _⟩ f hf
    have hm : (f.1, canonicalJson f.2) ∈ Fields.sortByKey (Fields.mapValues canonicalJson (JsValue.defined fields)) :=
      Fields.mem_sortByKey.2 (List.mem_map.2 ⟨f, hf, rfl⟩)
    obtain ⟨t, ht⟩ := ok_of_map_ok h _ hm
    obtain ⟨t, ht, _⟩ := map_eq_ok.1 ht
    exact ⟨t, ht⟩
  · intro h
    obtain ⟨ts, hts⟩ : ∃ ts : List (List Char), (Fields.sortByKey (Fields.mapValues canonicalJson
        (JsValue.defined fields))).map (fun f => f.2.map (member f.1)) = ts.map .ok := by
      refine exists_map_ok fun g hg => ?_
      obtain ⟨f, hf, rfl⟩ := List.mem_map.1 (Fields.mem_sortByKey.1 hg)
      obtain ⟨t, ht⟩ := h f hf
      exact ⟨member f.1 t, by simp [ht, Except.map]⟩
    exact ⟨_, ts, hts, rfl⟩

/-- A list of successes with known values. -/
private theorem map_ok_inj {ε α β : Type} {xs : List α} {f : α → Except ε β} {g : α → β} {bs : List β}
    (h : xs.map f = bs.map .ok) (hg : ∀ x ∈ xs, ∀ b, f x = .ok b → b = g x) : bs = xs.map g := by
  induction xs generalizing bs with
  | nil =>
    cases bs with
    | nil => rfl
    | cons b bs => simp at h
  | cons x xs ih =>
    cases bs with
    | nil => simp at h
    | cons b bs =>
      simp only [List.map_cons, List.cons.injEq] at h
      rw [List.map_cons, hg x (by simp) b h.1, ih h.2 fun y hy => hg y (by simp [hy])]

/-- The canonical text is the text of the value with sorted keys. -/
theorem canonicalJson_eq_ok (v : JsValue) {text : List Char} (h : canonicalJson v = .ok text) :
    text = write v.detach.sortKeys := by
  induction v using JsValue.induct generalizing text with
  | undefined => simp [canonicalJson] at h
  | null => simpa [canonicalJson, JsValue.detach, JsValue.sortKeys, eq_comm] using h
  | bool b => simpa [canonicalJson, JsValue.detach, JsValue.sortKeys, eq_comm] using h
  | str s => simpa [canonicalJson, JsValue.detach, JsValue.sortKeys, eq_comm] using h
  | num x =>
    cases x with
    | finite d =>
      simpa [canonicalJson, JsNumber.isFinite, JsNumber.throughText, JsValue.detach, JsValue.sortKeys, write, eq_comm]
        using h
    | negZero =>
      have he : JsNumber.negZero.render = (JsNumber.ofNat 0).render := by decide
      simpa [canonicalJson, JsNumber.isFinite, JsNumber.throughText, JsValue.detach, JsValue.sortKeys, write, eq_comm, he]
        using h
    | infinity neg => simp [canonicalJson, JsNumber.isFinite] at h
    | nan => simp [canonicalJson, JsNumber.isFinite] at h
  | arr items ih =>
    rw [canonicalJson_arr, map_eq_ok] at h
    obtain ⟨ts, hts, rfl⟩ := h
    have hok := ok_of_map_ok (joinResults_eq_ok.1 hts)
    have hts := map_ok_inj (joinResults_eq_ok.1 hts) fun v hv t ht => ih v hv ht
    rw [JsValue.detach_arr, JsValue.sortKeys_arr, write_arr, hts]
    congr 3
    rw [List.map_map, List.map_map]
    refine List.map_congr_left fun v hv => ?_
    have hdef : v.isUndefined = false := Canonical.isUndefined (hok v hv)
    show write v.detach.sortKeys = write (JsValue.orNull v.detach).sortKeys
    rw [JsValue.orNull_of_defined (by rw [JsValue.detach_isUndefined, hdef])]
  | obj fields ih =>
    rw [canonicalJson_obj, map_eq_ok] at h
    obtain ⟨ts, hts, rfl⟩ := h
    rw [Fields.sortByKey_mapValues, Fields.mapValues, List.map_map] at hts
    have hts := map_ok_inj (g := fun f => member f.1 (write f.2.detach.sortKeys))
      (joinResults_eq_ok.1 hts) fun f hf t ht => by
      obtain ⟨u, hu, rfl⟩ := map_eq_ok.1 ht
      have hm : f ∈ fields := (List.mem_filter.1 (Fields.mem_sortByKey.1 hf)).1
      rw [ih f hm hu]
    rw [JsValue.detach_obj, JsValue.sortKeys_obj, write_obj, hts]
    congr 3
    rw [Fields.sortByKey_mapValues, Fields.sortByKey_mapValues, Fields.mapValues, Fields.mapValues, List.map_map,
      List.map_map]
    rfl

theorem canonical_of_plain (v : JsValue) (h : v.Plain) : Canonical v := by
  induction v using JsValue.induct with
  | undefined => exact absurd h (by simp [JsValue.Plain])
  | num x =>
    refine ⟨x.render, ?_⟩
    cases x <;> simp [JsValue.Plain, JsNumber.throughText] at h <;> simp [canonicalJson, JsNumber.isFinite]
  | arr items ih =>
    rw [JsValue.plain_arr] at h
    exact canonical_arr.2 fun v hv => ih v hv (h v hv)
  | obj fields ih =>
    rw [JsValue.plain_obj] at h
    refine canonical_obj.2 fun f hf => ?_
    have hm : f ∈ fields := (List.mem_filter.1 hf).1
    exact ih f hm (h f hm)
  | _ => exact ⟨_, by rw [canonicalJson]⟩

/-- The canonical text does not see the order of object keys. -/
theorem canonicalJson_congr {v w : JsValue} (hv : Canonical v) (hw : Canonical w)
    (h : JsValue.SameUpToKeyOrder v.detach w.detach) : canonicalJson v = canonicalJson w := by
  obtain ⟨t, ht⟩ := hv
  obtain ⟨u, hu⟩ := hw
  rw [ht, hu, canonicalJson_eq_ok v ht, canonicalJson_eq_ok w hu, h]

/-! ### What the ordered text depends on -/

theorem allFinite_arr {items : List JsValue} : allFinite (.arr items) = true ↔ ∀ v ∈ items, allFinite v = true := by
  rw [allFinite]
  induction items with
  | nil => simp [allFiniteItems]
  | cons v vs ih => simp [allFiniteItems, ih]

theorem allFinite_obj {fields : Fields JsValue} :
    allFinite (.obj fields) = true ↔ ∀ f ∈ fields, allFinite f.2 = true := by
  rw [allFinite]
  induction fields with
  | nil => simp [allFiniteFields]
  | cons f fs ih =>
    obtain ⟨k, v⟩ := f
    simp only [allFiniteFields, Bool.and_eq_true, ih, List.mem_cons, forall_eq_or_imp]

theorem allFinite_of_plain (v : JsValue) (h : v.Plain) : allFinite v = true := by
  induction v using JsValue.induct with
  | num x => cases x <;> simp [JsValue.Plain, JsNumber.throughText] at h <;> simp [allFinite, JsNumber.isFinite]
  | arr items ih =>
    rw [JsValue.plain_arr] at h
    exact allFinite_arr.2 fun v hv => ih v hv (h v hv)
  | obj fields ih =>
    rw [JsValue.plain_obj] at h
    exact allFinite_obj.2 fun f hf => ih f hf (h f hf)
  | _ => simp [allFinite]

theorem allFinite_of_orderedText {v : JsValue} {text : List Char} (h : orderedText v = .ok text) : allFinite v = true := by
  unfold orderedText at h
  split at h
  · assumption
  · cases h

theorem orderedText_congr {v w : JsValue} (hv : allFinite v = true) (hw : allFinite w = true)
    (hu : v.isUndefined = w.isUndefined) (h : v.detach = w.detach) : orderedText v = orderedText w := by
  unfold orderedText
  rw [hv, hw, hu, h]

/-- The ordered text determines what JSON shows of the value, key order included. -/
theorem orderedText_injective {v w : JsValue} (hv : v.WellFormed) (hw : w.WellFormed) {text : List Char}
    (h1 : orderedText v = .ok text) (h2 : orderedText w = .ok text) : v.detach = w.detach := by
  have key : ∀ u : JsValue, orderedText u = .ok text → u.isUndefined = false ∧ write u.detach = text := by
    intro u hu
    unfold orderedText at hu
    split at hu
    · split at hu
      · cases hu
      · rename_i hd
        cases hu
        exact ⟨by simpa using hd, rfl⟩
    · cases hu
  obtain ⟨hvu, hvt⟩ := key v h1
  obtain ⟨hwu, hwt⟩ := key w h2
  exact write_injective (JsValue.plain_detach v hvu) (JsValue.wellFormed_detach v hv) (JsValue.plain_detach w hwu)
    (JsValue.wellFormed_detach w hw) (hvt.trans hwt.symm)

end Opsia
