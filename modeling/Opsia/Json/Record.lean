import Mathlib.Data.List.Lex
import Mathlib.Data.List.Nodup
import Mathlib.Data.List.Sort
import Mathlib.Order.Lex

/-!
# Insertion-ordered records

An object of the language is a list of fields.  Own keys are enumerated array indices first, ascending, then the other
keys in insertion order (`Ordered`); `assign` writes a field in place when the key exists and otherwise inserts it where
the enumeration puts it, `remove` deletes a field.  `sortByKey` is the enumeration sorted by UTF-16 code units, the
default order of `sort`; two ordered records with the same lookups have the same sorted fields (`sortByKey_congr`).
-/

namespace Opsia.Json

/-! ### Keys -/

/-- The array index a key denotes: a decimal numeral without leading zeros, below `2^32 - 1`. -/
def arrayIndex? (key : String) : Option Nat :=
  match key.toList with
  | ['0'] => some 0
  | '0' :: _ => none
  | [] => none
  | cs =>
    if cs.all Char.isDigit then
      let n := cs.foldl (fun acc c => acc * 10 + (c.toNat - '0'.toNat)) 0
      if n < 4294967295 then some n else none
    else none

/-- The own-key enumeration puts a new key `a` before the present key `b`. -/
def precedes (a b : String) : Bool :=
  match arrayIndex? a, arrayIndex? b with
  | some i, some j => decide (i < j)
  | some _, none => true
  | none, _ => false

/-- The UTF-16 code units of a character. -/
def utf16Units (c : Char) : List Nat :=
  let n := c.toNat
  if n < 65536 then [n] else [55296 + (n - 65536) / 1024, 56320 + (n - 65536) % 1024]

def utf16 (s : String) : List Nat := s.toList.flatMap utf16Units

/-- The default sort order on strings: by UTF-16 code units. -/
def keyLe (a b : String) : Prop := utf16 a ≤ utf16 b

instance : DecidableRel keyLe := fun a b => inferInstanceAs (Decidable (utf16 a ≤ utf16 b))

private theorem char_bounds (c : Char) : c.toNat < 55296 ∨ (57343 < c.toNat ∧ c.toNat < 1114112) := by
  have := c.valid
  simp only [UInt32.isValidChar, Nat.isValidChar] at this
  exact this

private theorem utf16Units_injective {c d : Char} {cs ds : List Nat}
    (h : utf16Units c ++ cs = utf16Units d ++ ds) : c = d ∧ cs = ds := by
  have hc := char_bounds c
  have hd := char_bounds d
  have key : c.toNat = d.toNat ∧ cs = ds := by
    unfold utf16Units at h
    by_cases h1 : c.toNat < 65536 <;> by_cases h2 : d.toNat < 65536 <;>
      simp only [h1, h2, if_true, if_false, List.cons_append, List.nil_append, List.cons.injEq] at h
    · exact h
    · omega
    · omega
    · exact ⟨by omega, h.2.2⟩
  exact ⟨Char.toNat_inj.1 key.1, key.2⟩

private theorem utf16Units_ne_nil (c : Char) : utf16Units c ≠ [] := by
  by_cases h : c.toNat < 65536 <;> simp [utf16Units, h]

private theorem utf16_list_injective (cs : List Char) :
    ∀ ds : List Char, cs.flatMap utf16Units = ds.flatMap utf16Units → cs = ds := by
  induction cs with
  | nil =>
    intro ds h
    cases ds with
    | nil => rfl
    | cons d ds => simp [utf16Units_ne_nil] at h
  | cons c cs ih =>
    intro ds h
    cases ds with
    | nil => simp [utf16Units_ne_nil] at h
    | cons d ds =>
      obtain ⟨rfl, h'⟩ := utf16Units_injective h
      rw [ih ds h']

theorem utf16_injective {a b : String} (h : utf16 a = utf16 b) : a = b :=
  String.toList_inj.1 (utf16_list_injective _ _ h)

theorem keyLe_antisymm {a b : String} (h1 : keyLe a b) (h2 : keyLe b a) : a = b :=
  utf16_injective (le_antisymm h1 h2)

/-! ### Fields -/

variable {α β : Type}

/-- The fields of a record, in own-key order. -/
abbrev Fields (α : Type) := List (String × α)

namespace Fields

def keys (fs : Fields α) : List String := fs.map Prod.fst

/-- The own property `key`, if there is one. -/
def get? : Fields α → String → Option α
  | [], _ => none
  | (k, v) :: fs, key => if k = key then some v else get? fs key

/-- Overwrites the value of a key that is present. -/
def replace : Fields α → String → α → Fields α
  | [], _, _ => []
  | (k, v) :: fs, key, x => if k = key then (k, x) :: fs else (k, v) :: replace fs key x

/-- Adds a key that is not present, where the own-key order puts it. -/
def insert : Fields α → String → α → Fields α
  | [], key, x => [(key, x)]
  | (k, v) :: fs, key, x => if precedes key k then (key, x) :: (k, v) :: fs else (k, v) :: insert fs key x

/-- `record[key] = x`. -/
def assign (fs : Fields α) (key : String) (x : α) : Fields α :=
  if key ∈ fs.keys then fs.replace key x else fs.insert key x

/-- `map.set(key, x)`: a new key comes last. -/
def put (fs : Fields α) (key : String) (x : α) : Fields α :=
  if key ∈ fs.keys then fs.replace key x else fs ++ [(key, x)]

/-- `delete record[key]`. -/
def remove (fs : Fields α) (key : String) : Fields α := fs.filter fun f => decide (f.1 ≠ key)

/-- No key occurs twice, and no key stands before one that the enumeration puts first. -/
structure Ordered (fs : Fields α) : Prop where
  nodup : fs.keys.Nodup
  order : fs.keys.Pairwise fun a b => precedes b a = false

@[simp] theorem keys_nil : keys ([] : Fields α) = [] := rfl

@[simp] theorem keys_cons (k : String) (v : α) (fs : Fields α) : keys ((k, v) :: fs) = k :: keys fs := rfl

theorem get?_isSome_iff (fs : Fields α) (key : String) : (fs.get? key).isSome ↔ key ∈ fs.keys := by
  induction fs with
  | nil => simp [get?]
  | cons f fs ih =>
    obtain ⟨k, v⟩ := f
    by_cases h : k = key
    · simp [get?, h]
    · simp [get?, h, ih, Ne.symm h]

theorem get?_eq_none_iff (fs : Fields α) (key : String) : fs.get? key = none ↔ key ∉ fs.keys := by
  rw [← get?_isSome_iff, Option.not_isSome_iff_eq_none]

theorem mem_of_get? {fs : Fields α} {key : String} {v : α} (h : fs.get? key = some v) : (key, v) ∈ fs := by
  induction fs with
  | nil => simp [get?] at h
  | cons f fs ih =>
    obtain ⟨k, w⟩ := f
    by_cases hk : k = key
    · simp only [get?, hk, if_true, Option.some.injEq] at h
      simp [hk, h]
    · simp only [get?, hk, if_false] at h
      exact List.mem_cons_of_mem _ (ih h)

theorem get?_of_mem {fs : Fields α} (h : fs.keys.Nodup) {key : String} {v : α} (hm : (key, v) ∈ fs) :
    fs.get? key = some v := by
  induction fs with
  | nil => cases hm
  | cons f fs ih =>
    obtain ⟨k, w⟩ := f
    simp only [keys_cons, List.nodup_cons] at h
    rcases List.mem_cons.1 hm with he | hm
    · simp only [Prod.mk.injEq] at he
      simp [get?, he.1, he.2]
    · have hne : k ≠ key := by
        rintro rfl
        exact h.1 (List.mem_map.2 ⟨_, hm, rfl⟩)
      simp [get?, hne, ih h.2 hm]

theorem get?_append (fs gs : Fields α) (key : String) : get? (fs ++ gs) key = (get? fs key).or (get? gs key) := by
  induction fs with
  | nil => rfl
  | cons f fs ih =>
    obtain ⟨k, v⟩ := f
    by_cases h : k = key
    · simp [get?, h]
    · simp [get?, h, ih]

theorem mem_keys_of_mem {fs : Fields α} {f : String × α} (h : f ∈ fs) : f.1 ∈ fs.keys := List.mem_map.2 ⟨f, h, rfl⟩

/-! ### Writing and deleting -/

@[simp] theorem keys_replace (fs : Fields α) (key : String) (x : α) : (fs.replace key x).keys = fs.keys := by
  induction fs with
  | nil => rfl
  | cons f fs ih =>
    obtain ⟨k, v⟩ := f
    by_cases h : k = key
    · simp [replace, h]
    · simp [replace, h, ih]

private theorem get?_replace (fs : Fields α) (key other : String) (x : α) (h : key ∈ fs.keys) :
    (fs.replace key x).get? other = if other = key then some x else fs.get? other := by
  induction fs with
  | nil => simp at h
  | cons f fs ih =>
    obtain ⟨k, v⟩ := f
    by_cases hk : k = key
    · subst hk
      by_cases ho : k = other
      · simp [replace, get?, ho]
      · simp [replace, get?, ho, Ne.symm ho]
    · have h' : key ∈ keys fs := by simpa [Ne.symm hk] using h
      by_cases ho : k = other
      · subst ho; simp [replace, get?, hk]
      · simp [replace, get?, hk, ho, ih h']

private theorem mem_keys_insert (fs : Fields α) (key other : String) (x : α) :
    other ∈ (fs.insert key x).keys ↔ other = key ∨ other ∈ fs.keys := by
  induction fs with
  | nil => simp [insert]
  | cons f fs ih =>
    obtain ⟨k, v⟩ := f
    by_cases h : precedes key k = true
    · simp [insert, h]
    · simp only [insert, h, Bool.false_eq_true, if_false, keys_cons, List.mem_cons, ih]
      exact or_left_comm

private theorem get?_insert (fs : Fields α) (key other : String) (x : α) (h : key ∉ fs.keys) :
    (fs.insert key x).get? other = if other = key then some x else fs.get? other := by
  induction fs with
  | nil => simp [insert, get?, eq_comm]
  | cons f fs ih =>
    obtain ⟨k, v⟩ := f
    simp only [keys_cons, List.mem_cons, not_or] at h
    by_cases hp : precedes key k = true
    · simp [insert, hp, get?, eq_comm]
    · by_cases ho : k = other
      · subst ho; simp [insert, hp, get?, Ne.symm h.1]
      · simp [insert, hp, get?, ho, ih h.2]

theorem get?_assign (fs : Fields α) (key other : String) (x : α) :
    (fs.assign key x).get? other = if other = key then some x else fs.get? other := by
  unfold assign
  split
  · exact get?_replace fs key other x (by assumption)
  · exact get?_insert fs key other x (by assumption)

theorem get?_put (fs : Fields α) (key other : String) (x : α) :
    (fs.put key x).get? other = if other = key then some x else fs.get? other := by
  unfold put
  split
  · exact get?_replace fs key other x (by assumption)
  · rename_i h
    rw [get?_append]
    by_cases ho : other = key
    · rw [if_pos ho, ho, (get?_eq_none_iff fs key).2 h]
      simp [get?]
    · rw [if_neg ho]
      have hlast : get? [(key, x)] other = none := by simp [get?, Ne.symm ho]
      rw [hlast, Option.or_none]

theorem nodup_keys_put {fs : Fields α} (h : fs.keys.Nodup) (key : String) (x : α) : (fs.put key x).keys.Nodup := by
  unfold put
  split
  · rw [keys_replace]
    exact h
  · rename_i hkey
    have hkeys : (fs ++ [(key, x)]).keys = fs.keys ++ [key] := List.map_append
    rw [hkeys]
    exact List.Nodup.append h (List.nodup_singleton key) (List.disjoint_singleton.2 hkey)

theorem nodup_keys_remove {fs : Fields α} (h : fs.keys.Nodup) (key : String) : (fs.remove key).keys.Nodup :=
  h.sublist (List.Sublist.map Prod.fst List.filter_sublist)

theorem mem_keys_assign (fs : Fields α) (key other : String) (x : α) :
    other ∈ (fs.assign key x).keys ↔ other = key ∨ other ∈ fs.keys := by
  unfold assign
  split
  · rename_i h
    rw [keys_replace]
    exact ⟨Or.inr, fun ho => ho.elim (fun he => he ▸ h) id⟩
  · exact mem_keys_insert fs key other x

/-- Filtering by key keeps the lookups of the keys that stay. -/
theorem get?_filter_keys {fs : Fields α} {ks : List String} {key : String} (h : key ∈ ks) :
    get? (fs.filter fun f => decide (f.1 ∈ ks)) key = fs.get? key := by
  induction fs with
  | nil => rfl
  | cons f fs ih =>
    obtain ⟨k, v⟩ := f
    by_cases hk : k = key
    · subst hk
      simp [get?, h]
    · by_cases hm : k ∈ ks
      · simp only [List.filter_cons, hm, decide_true, if_true, get?, hk, if_false, ih]
      · simp only [List.filter_cons, hm, decide_false, Bool.false_eq_true, if_false, get?, hk, ih]

theorem get?_remove (fs : Fields α) (key other : String) :
    (fs.remove key).get? other = if other = key then none else fs.get? other := by
  induction fs with
  | nil => simp [remove, get?]
  | cons f fs ih =>
    obtain ⟨k, v⟩ := f
    by_cases hk : k = key
    · have hr : remove ((k, v) :: fs) key = remove fs key := by simp [remove, hk]
      rw [hr, ih]
      by_cases ho : other = key
      · simp [ho]
      · simp [get?, ho, hk, Ne.symm ho]
    · have hr : remove ((k, v) :: fs) key = (k, v) :: remove fs key := by simp [remove, hk]
      rw [hr]
      by_cases ho : k = other
      · subst ho; simp [get?, hk]
      · simp only [get?, ho, if_false, ih]

theorem keys_remove (fs : Fields α) (key : String) : (fs.remove key).keys = fs.keys.filter fun k => decide (k ≠ key) := by
  induction fs with
  | nil => rfl
  | cons f fs ih =>
    obtain ⟨k, v⟩ := f
    unfold remove at ih ⊢
    by_cases hk : k = key
    · simpa [hk] using ih
    · simpa [hk] using ih

theorem replace_replace (fs : Fields α) (key : String) (x y : α) :
    (fs.replace key x).replace key y = fs.replace key y := by
  induction fs with
  | nil => rfl
  | cons f fs ih =>
    obtain ⟨k, v⟩ := f
    by_cases h : k = key
    · simp [replace, h]
    · simp [replace, h, ih]

theorem replace_self {fs : Fields α} {key : String} {x : α} (h : fs.get? key = some x) : fs.replace key x = fs := by
  induction fs with
  | nil => rfl
  | cons f fs ih =>
    obtain ⟨k, v⟩ := f
    by_cases hk : k = key
    · simp only [get?, hk, if_true, Option.some.injEq] at h
      simp [replace, hk, h]
    · simp only [get?, hk, if_false] at h
      simp [replace, hk, ih h]

theorem get?_replace_self {fs : Fields α} {key : String} {x y : α} (h : fs.get? key = some x) :
    (fs.replace key y).get? key = some y := by
  rw [get?_replace fs key key y ((get?_isSome_iff fs key).1 (by rw [h]; rfl)), if_pos rfl]

theorem assign_of_get? {fs : Fields α} {key : String} {x y : α} (h : fs.get? key = some x) :
    fs.assign key y = fs.replace key y := by
  unfold assign
  rw [if_pos ((get?_isSome_iff fs key).1 (by rw [h]; rfl))]

/-- Two records with the same keys in the same order and the same lookups are equal. -/
theorem ext_of_keys {fs gs : Fields α} (hn : fs.keys.Nodup) (hk : fs.keys = gs.keys)
    (h : ∀ key, fs.get? key = gs.get? key) : fs = gs := by
  induction fs generalizing gs with
  | nil =>
    cases gs with
    | nil => rfl
    | cons g gs =>
      obtain ⟨k, v⟩ := g
      simp at hk
  | cons f fs ih =>
    obtain ⟨k, v⟩ := f
    cases gs with
    | nil => simp at hk
    | cons g gs =>
      obtain ⟨k', w⟩ := g
      simp only [keys_cons, List.cons.injEq, List.nodup_cons] at hk hn
      obtain ⟨rfl, hk⟩ := hk
      have hv : v = w := by simpa [get?] using h k
      subst hv
      rw [ih hn.2 hk ?_]
      intro key
      by_cases hkk : k = key
      · subst hkk
        rw [(get?_eq_none_iff fs k).2 hn.1, (get?_eq_none_iff gs k).2 (hk ▸ hn.1)]
      · simpa [get?, hkk] using h key

/-! ### The own-key order -/

private theorem precedes_index {a b : String} (h : precedes a b = true) : ∃ i, arrayIndex? a = some i := by
  unfold precedes at h
  split at h
  · exact ⟨_, by assumption⟩
  · exact ⟨_, by assumption⟩
  · exact absurd h (by decide)

private theorem precedes_trans_ne {a b c : String} (hab : precedes a b = true) (hcb : precedes c b = false) :
    precedes c a = false := by
  unfold precedes at *
  cases ha : arrayIndex? a <;> cases hb : arrayIndex? b <;> cases hc : arrayIndex? c <;> simp_all
  omega

private theorem ordered_insert {fs : Fields α} (h : fs.Ordered) {key : String} (hk : key ∉ fs.keys) (x : α) :
    (fs.insert key x).Ordered := by
  induction fs with
  | nil => exact ⟨by simp [insert], by simp [insert]⟩
  | cons f fs ih =>
    obtain ⟨k, v⟩ := f
    obtain ⟨hn, ho⟩ := h
    simp only [keys_cons, List.nodup_cons, List.pairwise_cons] at hn ho
    simp only [keys_cons, List.mem_cons, not_or] at hk
    by_cases hp : precedes key k = true
    · have e : insert ((k, v) :: fs) key x = (key, x) :: (k, v) :: fs := by simp [insert, hp]
      have hkk : precedes k key = false := by
        unfold precedes at hp ⊢
        cases ha : arrayIndex? key <;> cases hb : arrayIndex? k <;> simp_all
        omega
      rw [e]
      refine ⟨?_, ?_⟩
      · simp [hn.1, hn.2, hk.1, hk.2]
      · simp only [keys_cons, List.pairwise_cons, List.mem_cons]
        refine ⟨?_, ho.1, ho.2⟩
        rintro a (rfl | ha)
        · exact hkk
        · exact precedes_trans_ne hp (ho.1 a ha)
    · have e : insert ((k, v) :: fs) key x = (k, v) :: insert fs key x := by simp [insert, hp]
      have ih := ih ⟨hn.2, ho.2⟩ hk.2
      rw [e]
      refine ⟨?_, ?_⟩
      · simp only [keys_cons, List.nodup_cons, mem_keys_insert, not_or]
        exact ⟨⟨Ne.symm hk.1, hn.1⟩, ih.nodup⟩
      · simp only [keys_cons, List.pairwise_cons]
        refine ⟨?_, ih.order⟩
        intro a ha
        rcases (mem_keys_insert fs key a x).1 ha with rfl | ha
        · simpa using hp
        · exact ho.1 a ha

theorem Ordered.assign {fs : Fields α} (h : fs.Ordered) (key : String) (x : α) : (fs.assign key x).Ordered := by
  unfold Fields.assign
  split
  · exact ⟨by rw [keys_replace]; exact h.nodup, by rw [keys_replace]; exact h.order⟩
  · exact ordered_insert h (by assumption) x

theorem Ordered.remove {fs : Fields α} (h : fs.Ordered) (key : String) : (fs.remove key).Ordered := by
  constructor
  · rw [keys_remove]; exact h.nodup.filter _
  · rw [keys_remove]; exact h.order.filter _

theorem Ordered.tail {f : String × α} {fs : Fields α} (h : Ordered (f :: fs)) : Ordered fs :=
  ⟨(List.nodup_cons.1 h.nodup).2, (List.pairwise_cons.1 h.order).2⟩

theorem Ordered.filter {fs : Fields α} (h : fs.Ordered) (p : String × α → Bool) : Ordered (List.filter p fs) :=
  ⟨h.nodup.sublist ((List.filter_sublist (l := fs) (p := p)).map _), h.order.sublist ((List.filter_sublist (l := fs) (p := p)).map _)⟩

theorem Ordered.foldl_assign {fs : Fields α} (h : fs.Ordered) (gs : Fields α) :
    Ordered (gs.foldl (fun acc g => Fields.assign acc g.1 g.2) fs) := by
  induction gs generalizing fs with
  | nil => exact h
  | cons g gs ih => exact ih (h.assign g.1 g.2)

private theorem insert_last {fs : Fields α} {key : String} (h : ∀ a ∈ fs.keys, precedes key a = false) (x : α) :
    fs.insert key x = fs ++ [(key, x)] := by
  induction fs with
  | nil => rfl
  | cons f fs ih =>
    obtain ⟨k, v⟩ := f
    have hk : precedes key k = false := h k (by simp)
    simp [insert, hk, ih fun b hb => h b (by simp [hb])]

/-- In the own-key order of a record, writing the next field appends it. -/
theorem assign_append {fs gs : Fields α} {key : String} {x : α} (h : Ordered (fs ++ (key, x) :: gs)) :
    fs.assign key x = fs ++ [(key, x)] := by
  have hn := h.nodup
  have ho := h.order
  have hkeys : keys (fs ++ (key, x) :: gs) = keys fs ++ key :: keys gs := by simp [keys]
  rw [hkeys] at hn ho
  have hnot : key ∉ fs.keys := fun hm => (List.nodup_append.1 hn).2.2 key hm key (by simp) rfl
  unfold Fields.assign
  rw [if_neg hnot]
  exact insert_last (fun a ha => (List.pairwise_append.1 ho).2.2 a ha key (by simp)) x

/-- Adds a key to a list of keys as `assign` does. -/
def addKey (ks : List String) (key : String) : List String :=
  if key ∈ ks then ks else keys (insert (ks.map fun k => (k, ())) key ())

private theorem keys_insert_eq (fs : Fields α) (key : String) (x : α) :
    (fs.insert key x).keys = keys (insert (fs.keys.map fun k => (k, ())) key ()) := by
  induction fs with
  | nil => rfl
  | cons f fs ih =>
    obtain ⟨k, v⟩ := f
    cases h : precedes key k with
    | true =>
      simp only [insert, h, if_true, keys_cons, List.map_cons]
      simp [keys]
    | false =>
      simp only [insert, h, Bool.false_eq_true, if_false, keys_cons, List.map_cons, ih]

theorem keys_assign (fs : Fields α) (key : String) (x : α) : (fs.assign key x).keys = addKey fs.keys key := by
  unfold Fields.assign addKey
  split
  · exact keys_replace fs key x
  · exact keys_insert_eq fs key x

theorem keys_foldl_assign (gs : Fields α) (fs : Fields α) :
    keys (gs.foldl (fun acc g => assign acc g.1 g.2) fs) = gs.keys.foldl addKey fs.keys := by
  induction gs generalizing fs with
  | nil => rfl
  | cons g gs ih =>
    rw [List.foldl_cons, ih, keys_assign]
    rfl

theorem get?_foldl_assign {gs : Fields α} (hn : gs.keys.Nodup) (fs : Fields α) (key : String) :
    get? (gs.foldl (fun acc g => assign acc g.1 g.2) fs) key = (gs.get? key).or (fs.get? key) := by
  induction gs generalizing fs with
  | nil => rfl
  | cons g gs ih =>
    obtain ⟨k, v⟩ := g
    simp only [keys_cons, List.nodup_cons] at hn
    rw [List.foldl_cons, ih hn.2, get?_assign]
    by_cases h : key = k
    · subst h
      simp [get?, (get?_eq_none_iff gs key).2 hn.1]
    · simp [get?, h, Ne.symm h]

/-! ### Sorted enumeration -/

/-- The fields sorted by key. -/
def sortByKey (fs : Fields α) : Fields α := fs.insertionSort fun f g => keyLe f.1 g.1

private theorem sortByKey_pairwise (fs : Fields α) : (sortByKey fs).Pairwise fun f g => keyLe f.1 g.1 := by
  have : Std.Total fun f g : String × α => keyLe f.1 g.1 := ⟨fun f g => le_total (utf16 f.1) (utf16 g.1)⟩
  have : IsTrans (String × α) fun f g => keyLe f.1 g.1 := ⟨fun _ _ _ h1 h2 => le_trans h1 h2⟩
  exact List.pairwise_insertionSort _ fs

theorem sortByKey_perm (fs : Fields α) : (sortByKey fs).Perm fs := List.perm_insertionSort _ fs

theorem mem_sortByKey {fs : Fields α} {f : String × α} : f ∈ sortByKey fs ↔ f ∈ fs := (sortByKey_perm fs).mem_iff

theorem keys_sortByKey_nodup {fs : Fields α} (h : fs.keys.Nodup) : (sortByKey fs).keys.Nodup :=
  ((sortByKey_perm fs).map Prod.fst).nodup_iff.2 h

theorem keys_sortByKey (fs : Fields α) : (sortByKey fs).keys = fs.keys.insertionSort keyLe :=
  List.map_insertionSort _ _ Prod.fst fs fun _ _ _ _ => Iff.rfl

/-- Records with the same fields, in whatever order, have the same sorted fields. -/
theorem sortByKey_eq_of_perm {fs gs : Fields α} (hf : fs.keys.Nodup) (h : fs.Perm gs) : sortByKey fs = sortByKey gs := by
  have hp : (sortByKey fs).Perm (sortByKey gs) := ((sortByKey_perm fs).trans h).trans (sortByKey_perm gs).symm
  refine hp.eq_of_pairwise ?_ (sortByKey_pairwise fs) (sortByKey_pairwise gs)
  intro f g hfm hgm h1 h2
  have hk : f.1 = g.1 := keyLe_antisymm h1 h2
  have h1 : fs.get? f.1 = some f.2 := get?_of_mem hf (mem_sortByKey.1 hfm)
  have h2 : fs.get? g.1 = some g.2 := get?_of_mem hf (h.mem_iff.2 (mem_sortByKey.1 hgm))
  rw [hk, h2] at h1
  exact Prod.ext hk (Option.some.inj h1).symm

theorem get?_sortByKey {fs : Fields α} (h : fs.keys.Nodup) (key : String) : (sortByKey fs).get? key = fs.get? key := by
  cases hv : fs.get? key with
  | none =>
    rw [get?_eq_none_iff] at hv ⊢
    rwa [keys_sortByKey, List.mem_insertionSort]
  | some v => exact get?_of_mem (keys_sortByKey_nodup h) (mem_sortByKey.2 (mem_of_get? hv))

/-- Records with the same lookups have the same fields up to order. -/
theorem perm_of_get? {fs gs : Fields α} (hf : fs.keys.Nodup) (hg : gs.keys.Nodup)
    (h : ∀ key, fs.get? key = gs.get? key) : fs.Perm gs := by
  refine (List.perm_ext_iff_of_nodup (List.Nodup.of_map _ hf) (List.Nodup.of_map _ hg)).2 ?_
  rintro ⟨k, v⟩
  constructor
  · intro hm; exact mem_of_get? ((h k) ▸ get?_of_mem hf hm)
  · intro hm; exact mem_of_get? ((h k).symm ▸ get?_of_mem hg hm)

theorem sortByKey_congr {fs gs : Fields α} (hf : fs.keys.Nodup) (hg : gs.keys.Nodup)
    (h : ∀ key, fs.get? key = gs.get? key) : sortByKey fs = sortByKey gs :=
  sortByKey_eq_of_perm hf (perm_of_get? hf hg h)

/-! ### Mapping over the values -/

/-- Applies a function to every value. -/
def mapValues (f : α → β) (fs : Fields α) : Fields β := fs.map fun p => (p.1, f p.2)

@[simp] theorem keys_mapValues (f : α → β) (fs : Fields α) : (mapValues f fs).keys = fs.keys := by
  simp [mapValues, keys]

theorem Ordered.mapValues {fs : Fields α} (h : fs.Ordered) (f : α → β) : Ordered (Fields.mapValues f fs) :=
  ⟨by rw [keys_mapValues]; exact h.nodup, by rw [keys_mapValues]; exact h.order⟩

theorem get?_mapValues (f : α → β) (fs : Fields α) (key : String) : (mapValues f fs).get? key = (fs.get? key).map f := by
  induction fs with
  | nil => rfl
  | cons p fs ih =>
    obtain ⟨k, v⟩ := p
    unfold mapValues at ih ⊢
    by_cases h : k = key
    · simp [get?, h]
    · simp [get?, h, ih]

/-- The lookups after a change of the values that may depend on the key. -/
theorem get?_map (g : String × α → β) (fs : Fields α) (key : String) :
    get? (fs.map fun f => (f.1, g f)) key = (fs.get? key).map fun v => g (key, v) := by
  induction fs with
  | nil => rfl
  | cons f fs ih =>
    obtain ⟨k, v⟩ := f
    by_cases h : k = key
    · simp [get?, h]
    · simp [get?, h, ih]

/-- Sorting commutes with any change of the values. -/
theorem sortByKey_map (g : String × α → String × β) (hg : ∀ f, (g f).1 = f.1) (fs : Fields α) :
    sortByKey (fs.map g) = (sortByKey fs).map g :=
  (List.map_insertionSort _ _ g fs fun f _ f' _ => by rw [hg, hg]).symm

theorem sortByKey_mapValues (f : α → β) (fs : Fields α) : sortByKey (mapValues f fs) = mapValues f (sortByKey fs) :=
  sortByKey_map (fun p : String × α => (p.1, f p.2)) (fun _ => rfl) fs

end Fields

end Opsia.Json
