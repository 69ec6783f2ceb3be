import Mathlib.Data.List.Infix
import Opsia.Orchestrator.Exposition

/-!
# Reading exposed metrics back

The pattern for lines ends the labels at the first closing brace, also inside a quoted value: a sample whose labels
contain one is passed over.  The escapes are undone one after the other, line feeds first, so a backslash before an `n`
comes back as a line feed.  These and a label named `__proto__` are the only losses (`parse_render_iff`).
-/

namespace Opsia

open Json

namespace Exposition

/-! ### Lists -/

private theorem dropWhile_eq_self {p : Char → Bool} {cs : List Char} (h : ∀ c ∈ cs.head?, p c = false) :
    cs.dropWhile p = cs := by
  cases cs with
  | nil => rfl
  | cons c cs => rw [List.dropWhile_cons_of_neg (by rw [h c rfl]; decide)]

private theorem takeWhile_eq_nil {p : Char → Bool} {cs : List Char} (h : ∀ c ∈ cs.head?, p c = false) :
    cs.takeWhile p = [] := by
  cases cs with
  | nil => rfl
  | cons c cs => rw [List.takeWhile_cons_of_neg (by rw [h c rfl]; decide)]

private theorem takeWhile_append {p : Char → Bool} {cs rest : List Char} (h : ∀ c ∈ cs, p c = true)
    (hrest : ∀ c ∈ rest.head?, p c = false) : (cs ++ rest).takeWhile p = cs := by
  rw [List.takeWhile_append_of_pos h, takeWhile_eq_nil hrest, List.append_nil]

private theorem dropWhile_append {p : Char → Bool} {cs rest : List Char} (h : ∀ c ∈ cs, p c = true)
    (hrest : ∀ c ∈ rest.head?, p c = false) : (cs ++ rest).dropWhile p = rest := by
  rw [List.dropWhile_append_of_pos h, dropWhile_eq_self hrest]

private theorem mem_dropWhile {p : Char → Bool} {c : Char} (hc : p c = false) {cs : List Char} (h : c ∈ cs) :
    c ∈ cs.dropWhile p := by
  induction cs with
  | nil => cases h
  | cons d cs ih =>
    cases hd : p d with
    | true =>
      rw [List.dropWhile_cons_of_pos hd]
      rcases List.mem_cons.1 h with rfl | h
      · rw [hc] at hd
        cases hd
      · exact ih h
    | false =>
      rw [List.dropWhile_cons_of_neg (by rw [hd]; decide)]
      exact h

/-! ### Characters -/

/-- A character of a name is neither white space nor a delimiter. -/
private theorem nameChar_plain {c : Char} (h : nameChar c = true) :
    isWhiteSpace c = false ∧ c ≠ '{' ∧ c ≠ '=' ∧ c ≠ '}' ∧ c ≠ '\n' ∧ c ≠ '#' := by
  have hrange : (48 ≤ c.toNat ∧ c.toNat ≤ 58) ∨ (65 ≤ c.toNat ∧ c.toNat ≤ 90) ∨ c.toNat = 95 ∨
      (97 ≤ c.toNat ∧ c.toNat ≤ 122) := by
    simp only [nameChar, nameStart, labelStart, isLetter, Bool.or_eq_true, decide_eq_true_eq, beq_iff_eq,
      Char.isDigit_iff_toNat, Char.le_def, UInt32.le_iff_toNat_le] at h
    have hcolon : c = ':' → c.toNat = 58 := fun h => by rw [h]; rfl
    have hline : c = '_' → c.toNat = 95 := fun h => by rw [h]; rfl
    rcases h with ((((h | h) | h) | h) | h)
    · exact Or.inr (Or.inr (Or.inr h))
    · exact Or.inr (Or.inl h)
    · exact Or.inr (Or.inr (Or.inl (hline h)))
    · have := hcolon h
      omega
    · have hdigit : 48 ≤ c.toNat ∧ c.toNat ≤ 57 := h
      exact Or.inl (by omega)
  refine ⟨?_, ?_, ?_, ?_, ?_, ?_⟩
  · unfold isWhiteSpace
    rw [decide_eq_false_iff_not]
    omega
  all_goals
    rintro rfl
    exact absurd hrange (by decide)

private theorem nameChar_of_labelChar {c : Char} (h : labelChar c = true) : nameChar c = true := by
  simp only [labelChar, nameChar, nameStart, Bool.or_eq_true] at h ⊢
  rcases h with h | h
  · exact Or.inl (Or.inl h)
  · exact Or.inr h

/-! ### Escapes -/

/-- The pair of characters that the first replacement takes for a line feed. -/
def hasEscapedN (value : List Char) : Prop := ['\\', 'n'] <:+: value

private theorem replacePair_cons {a b r c : Char} (h : c ≠ a) (cs : List Char) :
    replacePair a b r (c :: cs) = c :: replacePair a b r cs := by
  cases cs with
  | nil => rfl
  | cons d cs => rw [replacePair, if_neg fun hc => h hc.1]

private theorem replacePair_cons_of_ne {a b r c d : Char} (h : d ≠ b) (cs : List Char) :
    replacePair a b r (c :: d :: cs) = c :: replacePair a b r (d :: cs) := by
  rw [replacePair, if_neg fun hc => h hc.2]

private theorem replacePair_pair (a b r : Char) (cs : List Char) :
    replacePair a b r (a :: b :: cs) = r :: replacePair a b r cs := by
  rw [replacePair, if_pos ⟨rfl, rfl⟩]

/-- The escapes without those of line feeds. -/
private def escapeQuoteSlash (c : Char) : List Char :=
  if c = '\\' then ['\\', '\\'] else if c = '"' then ['\\', '"'] else [c]

private def escapeSlash (c : Char) : List Char := if c = '\\' then ['\\', '\\'] else [c]

/-- The escaped text of a value after the replacement of line feeds. -/
private def withLineFeeds : List Char → List Char
  | [] => []
  | '\\' :: 'n' :: cs => '\\' :: '\n' :: withLineFeeds cs
  | c :: cs => escapeQuoteSlash c ++ withLineFeeds cs

private theorem escape_head {value : List Char} (h : ∀ cs, value ≠ 'n' :: cs) :
    ∀ c ∈ (value.flatMap escapeLabelChar).head?, c ≠ 'n' := by
  cases value with
  | nil => simp
  | cons d cs =>
    have hd : d ≠ 'n' := fun heq => h cs (by rw [heq])
    intro c hc
    rw [List.flatMap_cons] at hc
    unfold escapeLabelChar at hc
    split at hc
    · cases hc
      decide
    · split at hc
      · cases hc
        decide
      · split at hc
        · cases hc
          decide
        · cases hc
          exact hd

private theorem replacePair_newline (value : List Char) :
    replacePair '\\' 'n' '\n' (value.flatMap escapeLabelChar) = withLineFeeds value := by
  fun_induction withLineFeeds value with
  | case1 => rfl
  | case2 cs ih =>
    rw [List.flatMap_cons, List.flatMap_cons]
    show replacePair '\\' 'n' '\n' ('\\' :: '\\' :: 'n' :: cs.flatMap escapeLabelChar) = _
    rw [replacePair_cons_of_ne (by decide), replacePair_pair, ih]
  | case3 c cs hpair ih =>
    rw [List.flatMap_cons, ← ih]
    by_cases hslash : c = '\\'
    · subst hslash
      have hhead := escape_head fun rest heq => hpair rest rfl heq
      show replacePair '\\' 'n' '\n' ('\\' :: '\\' :: cs.flatMap escapeLabelChar) = '\\' :: '\\' :: _
      rw [replacePair_cons_of_ne (by decide)]
      cases hrest : cs.flatMap escapeLabelChar with
      | nil => rfl
      | cons d ds =>
        rw [replacePair_cons_of_ne (hhead d (by rw [hrest]; rfl))]
        rfl
    · by_cases hquote : c = '"'
      · subst hquote
        show replacePair '\\' 'n' '\n' ('\\' :: '"' :: cs.flatMap escapeLabelChar) = '\\' :: '"' :: _
        rw [replacePair_cons_of_ne (by decide), replacePair_cons (by decide)]
        rfl
      · by_cases hfeed : c = '\n'
        · subst hfeed
          show replacePair '\\' 'n' '\n' ('\\' :: 'n' :: cs.flatMap escapeLabelChar) = '\n' :: _
          rw [replacePair_pair]
          rfl
        · have hplain : escapeLabelChar c = [c] := by
            unfold escapeLabelChar
            rw [if_neg hslash, if_neg hquote, if_neg hfeed]
          have hplain' : escapeQuoteSlash c = [c] := by
            unfold escapeQuoteSlash
            rw [if_neg hslash, if_neg hquote]
          rw [hplain, hplain', List.singleton_append, List.singleton_append, replacePair_cons hslash]

private theorem withLineFeeds_of_none {value : List Char} (h : ¬hasEscapedN value) :
    withLineFeeds value = value.flatMap escapeQuoteSlash := by
  fun_induction withLineFeeds value with
  | case1 => rfl
  | case2 cs ih => exact absurd (List.prefix_append ['\\', 'n'] cs).isInfix h
  | case3 c cs _ ih =>
    rw [List.flatMap_cons, ih fun hin => h (List.infix_cons hin)]

private theorem replacePair_quote (value : List Char) :
    replacePair '\\' '"' '"' (value.flatMap escapeQuoteSlash) = value.flatMap escapeSlash := by
  have hhead : ∀ cs : List Char, ∀ d ∈ (cs.flatMap escapeQuoteSlash).head?, d ≠ '"' := by
    intro cs d hd
    cases cs with
    | nil => cases hd
    | cons c cs =>
      rw [List.flatMap_cons] at hd
      unfold escapeQuoteSlash at hd
      split at hd
      · cases hd
        decide
      · split at hd
        · cases hd
          decide
        · rename_i hquote
          cases hd
          exact hquote
  induction value with
  | nil => rfl
  | cons c cs ih =>
    rw [List.flatMap_cons, List.flatMap_cons, ← ih]
    by_cases hslash : c = '\\'
    · subst hslash
      show replacePair '\\' '"' '"' ('\\' :: '\\' :: cs.flatMap escapeQuoteSlash) = '\\' :: '\\' :: _
      rw [replacePair_cons_of_ne (by decide)]
      cases hrest : cs.flatMap escapeQuoteSlash with
      | nil => rfl
      | cons d ds =>
        rw [replacePair_cons_of_ne (hhead cs d (by rw [hrest]; rfl))]
        rfl
    · by_cases hquote : c = '"'
      · subst hquote
        show replacePair '\\' '"' '"' ('\\' :: '"' :: cs.flatMap escapeQuoteSlash) = '"' :: _
        rw [replacePair_pair]
        rfl
      · have hplain : escapeQuoteSlash c = [c] := by
          unfold escapeQuoteSlash
          rw [if_neg hslash, if_neg hquote]
        have hplain' : escapeSlash c = [c] := if_neg hslash
        rw [hplain, hplain', List.singleton_append, List.singleton_append, replacePair_cons hslash]

private theorem replacePair_slash (value : List Char) :
    replacePair '\\' '\\' '\\' (value.flatMap escapeSlash) = value := by
  induction value with
  | nil => rfl
  | cons c cs ih =>
    rw [List.flatMap_cons]
    by_cases hc : c = '\\'
    · subst hc
      show replacePair '\\' '\\' '\\' ('\\' :: '\\' :: cs.flatMap escapeSlash) = _
      rw [replacePair_pair, ih]
    · have hone : escapeSlash c = [c] := if_neg hc
      rw [hone, List.singleton_append, replacePair_cons hc, ih]


/-! ### What is lost where a backslash stands before an `n` -/

private theorem count_replacePair {a b r x : Char} (ha : a ≠ x) (hb : b ≠ x) (hr : r ≠ x) (cs : List Char) :
    (replacePair a b r cs).count x = cs.count x := by
  fun_induction replacePair a b r cs with
  | case1 c d cs hpair ih =>
    rw [List.count_cons_of_ne hr, ih, hpair.1, hpair.2, List.count_cons_of_ne ha, List.count_cons_of_ne hb]
  | case2 c d cs _ ih => rw [List.count_cons, ih, ← List.count_cons]
  | case3 cs => rfl

private theorem count_escapeQuoteSlash (c : Char) : (escapeQuoteSlash c).count 'n' = [c].count 'n' := by
  unfold escapeQuoteSlash
  split
  · rename_i h
    rw [h]
    rfl
  · split
    · rename_i h
      rw [h]
      rfl
    · rfl

private theorem count_withLineFeeds_le (value : List Char) : (withLineFeeds value).count 'n' ≤ value.count 'n' := by
  fun_induction withLineFeeds value with
  | case1 => exact le_refl _
  | case2 cs ih =>
    rw [List.count_cons_of_ne (by decide), List.count_cons_of_ne (by decide), List.count_cons_of_ne (by decide),
      List.count_cons_self]
    omega
  | case3 c cs _ ih =>
    have hsum : ([c] ++ cs).count 'n' = [c].count 'n' + cs.count 'n' := List.count_append
    rw [List.singleton_append] at hsum
    rw [List.count_append, count_escapeQuoteSlash, hsum]
    omega

private theorem count_withLineFeeds_lt {value : List Char} (h : hasEscapedN value) :
    (withLineFeeds value).count 'n' < value.count 'n' := by
  fun_induction withLineFeeds value with
  | case1 => simp [hasEscapedN] at h
  | case2 cs ih =>
    have hle := count_withLineFeeds_le cs
    rw [List.count_cons_of_ne (by decide), List.count_cons_of_ne (by decide), List.count_cons_of_ne (by decide),
      List.count_cons_self]
    omega
  | case3 c cs hpair ih =>
    have hin : hasEscapedN cs := by
      rcases List.infix_cons_iff.1 h with hprefix | hin
      · obtain ⟨rest, hrest⟩ := hprefix
        obtain ⟨hc, hcs⟩ := List.cons.inj hrest
        exact absurd hcs.symm (hpair rest hc.symm)
      · exact hin
    have hlt := ih hin
    have hsum : ([c] ++ cs).count 'n' = [c].count 'n' + cs.count 'n' := List.count_append
    rw [List.singleton_append] at hsum
    rw [List.count_append, count_escapeQuoteSlash, hsum]
    omega

/-- Undoing the escapes gives a value back unless it has a backslash before an `n`. -/
theorem unescape_escape_iff (value : List Char) :
    unescapeLabel (value.flatMap escapeLabelChar) = value ↔ ¬hasEscapedN value := by
  constructor
  · intro h hpair
    have hlt := count_withLineFeeds_lt hpair
    have hcount := congrArg (List.count 'n') h
    unfold unescapeLabel at hcount
    rw [count_replacePair (by decide) (by decide) (by decide), count_replacePair (by decide) (by decide) (by decide),
      replacePair_newline] at hcount
    omega
  · intro h
    unfold unescapeLabel
    rw [replacePair_newline, withLineFeeds_of_none h, replacePair_quote, replacePair_slash]

/-! ### Reading labels -/

private theorem scanLabelValue_cons {c : Char} (hquote : c ≠ '"') (hslash : c ≠ '\\') (cs : List Char) :
    scanLabelValue (c :: cs) = (scanLabelValue cs).map fun p => (c :: p.1, p.2) := by
  rw [scanLabelValue]
  · intro h
    exact hquote h
  · intro h
    exact absurd h hslash
  · intro _ _ h
    exact absurd h hslash

private theorem scanLabelValue_escape (value rest : List Char) :
    scanLabelValue (value.flatMap escapeLabelChar ++ '"' :: rest) = some (value.flatMap escapeLabelChar, rest) := by
  induction value with
  | nil => rfl
  | cons c cs ih =>
    rw [List.flatMap_cons, List.append_assoc]
    unfold escapeLabelChar at ih ⊢
    split
    · simp [scanLabelValue, ih, isLineTerminator]
    · rename_i hslash
      split
      · simp [scanLabelValue, ih, isLineTerminator]
      · rename_i hquote
        split
        · simp [scanLabelValue, ih, isLineTerminator]
        · rw [List.singleton_append, scanLabelValue_cons hquote hslash, ih]
          rfl

/-- What follows a label: nothing, or a comma and the next one. -/
private def restOf (labels : List (String × String)) : List Char :=
  match labels with
  | [] => []
  | _ => ',' :: joinComma (labels.map renderLabel)

private theorem joinComma_labels (label : String × String) (labels : List (String × String)) :
    joinComma ((label :: labels).map renderLabel) = renderLabel label ++ restOf labels := by
  cases labels with
  | nil => exact (List.append_nil _).symm
  | cons next labels => rfl

private theorem matchLabel_render {label : String × String} (h : IsName labelStart labelChar label.1)
    (labels : List (String × String)) :
    matchLabel (renderLabel label ++ restOf labels) =
      some (label.1.toList, label.2.toList.flatMap escapeLabelChar, joinComma (labels.map renderLabel)) := by
  obtain ⟨hstart, hall⟩ := h
  have hchars : ∀ c ∈ label.1.toList, labelChar c = true := List.all_eq_true.1 hall
  have htext : renderLabel label ++ restOf labels = label.1.toList ++
      ('=' :: '"' :: (label.2.toList.flatMap escapeLabelChar ++ '"' :: restOf labels)) := by
    simp [renderLabel]
  have hequal : ∀ c ∈ ('=' :: '"' :: (label.2.toList.flatMap escapeLabelChar ++ '"' :: restOf labels)).head?,
      labelChar c = false := by
    intro c hc
    cases hc
    decide
  have hhead : (label.1.toList ++
      ('=' :: '"' :: (label.2.toList.flatMap escapeLabelChar ++ '"' :: restOf labels))).head?.any labelStart = true := by
    cases hname : label.1.toList with
    | nil =>
      rw [hname] at hstart
      cases hstart
    | cons c cs =>
      rw [hname] at hstart
      exact hstart
  unfold matchLabel
  rw [htext, if_pos hhead, dropWhile_append hchars hequal, takeWhile_append hchars hequal]
  simp only [scanLabelValue_escape]
  cases labels with
  | nil => rfl
  | cons next labels => rfl

/-- The labels as they are read back. -/
private def readBack (labels : List (String × String)) : Fields String :=
  labels.foldl (fun found label =>
    setLabel found label.1 (String.ofList (unescapeLabel (label.2.toList.flatMap escapeLabelChar)))) []

private theorem parseLabelsFrom_render {labels : List (String × String)}
    (h : ∀ label ∈ labels, IsName labelStart labelChar label.1) (found : Fields String) {bound : Nat}
    (hbound : labels.length ≤ bound) :
    parseLabelsFrom bound (joinComma (labels.map renderLabel)) found = .ok (labels.foldl (fun found label =>
      setLabel found label.1 (String.ofList (unescapeLabel (label.2.toList.flatMap escapeLabelChar)))) found) := by
  induction labels generalizing found bound with
  | nil =>
    cases bound <;> rfl
  | cons label labels ih =>
    rw [List.length_cons] at hbound
    obtain ⟨bound, rfl⟩ : ∃ n, bound = n + 1 := ⟨bound - 1, by omega⟩
    rw [joinComma_labels]
    obtain ⟨c, cs, hcs⟩ : ∃ c cs, renderLabel label ++ restOf labels = c :: cs := by
      cases hname : label.1.toList with
      | nil => exact ⟨_, _, by rw [renderLabel, hname]; rfl⟩
      | cons c cs => exact ⟨_, _, by rw [renderLabel, hname]; rfl⟩
    have hmatch := matchLabel_render (h label List.mem_cons_self) labels
    rw [hcs] at hmatch ⊢
    rw [parseLabelsFrom, hmatch]
    · dsimp only
      rw [ih (fun l hl => h l (List.mem_cons_of_mem _ hl)) _ (by omega), String.ofList_toList]
      rfl
    · intro hnil
      cases hnil

private theorem parseLabels_render {labels : List (String × String)}
    (h : ∀ label ∈ labels, IsName labelStart labelChar label.1) :
    parseLabels (joinComma (labels.map renderLabel)) = .ok (readBack labels) := by
  refine parseLabelsFrom_render h [] ?_
  clear h
  induction labels with
  | nil => exact Nat.zero_le _
  | cons label labels ih =>
    rw [joinComma_labels, List.length_append, List.length_cons]
    have hlabel : 1 ≤ (renderLabel label).length := by
      simp [renderLabel]
      omega
    have hrest : (joinComma (labels.map renderLabel)).length ≤ (restOf labels).length := by
      cases labels with
      | nil => exact Nat.zero_le _
      | cons next labels => exact Nat.le_succ _
    omega

/-- A label that is not lost and whose value is not changed by the escapes. -/
def LabelKept (label : String × String) : Prop := label.1 ≠ "__proto__" ∧ ¬hasEscapedN label.2.toList

private theorem arrayIndex?_name {name : String} (h : IsName labelStart labelChar name) : arrayIndex? name = none := by
  obtain ⟨hstart, -⟩ := h
  cases hname : name.toList with
  | nil =>
    rw [hname] at hstart
    cases hstart
  | cons c cs =>
    rw [hname] at hstart
    have hdigit : c.isDigit = false := by
      by_contra hdigit
      have hrange : 48 ≤ c.toNat ∧ c.toNat ≤ 57 := by simpa [Char.isDigit_iff_toNat] using hdigit
      have hletter : labelStart c = true := hstart
      simp only [labelStart, isLetter, Bool.or_eq_true, decide_eq_true_eq, beq_iff_eq, Char.le_def,
        UInt32.le_iff_toNat_le] at hletter
      rcases hletter with (h | h) | h
      · have hlo : 97 ≤ c.toNat := h.1
        omega
      · have hlo : 65 ≤ c.toNat := h.1
        omega
      · rw [h] at hrange
        exact absurd hrange (by decide)
    have hzero : c ≠ '0' := by
      rintro rfl
      cases hdigit
    have hall : (c :: cs).all Char.isDigit = false := by
      rw [List.all_cons, hdigit]
      rfl
    unfold arrayIndex?
    rw [hname]
    split
    · rename_i heq
      exact absurd (List.cons.inj heq).1 hzero
    · rename_i heq
      exact absurd (List.cons.inj heq).1 hzero
    · rename_i heq
      cases heq
    · rw [hall]
      rfl

private theorem ordered_of_names {labels : Fields String} (hnodup : labels.keys.Nodup)
    (hnames : ∀ key ∈ labels.keys, arrayIndex? key = none) : Fields.Ordered labels := by
  refine ⟨hnodup, List.Pairwise.imp_of_mem (R := fun a b => a ≠ b) (fun _ hb _ => ?_) hnodup⟩
  unfold precedes
  rw [hnames _ hb]

private theorem foldl_setLabel {labels : Fields String} (found : Fields String) (value : String → String)
    (hnodup : (Fields.keys (found ++ labels)).Nodup) (hnames : ∀ key ∈ Fields.keys (found ++ labels), arrayIndex? key = none) :
    labels.foldl (fun found label => setLabel found label.1 (value label.2)) found =
      found ++ (labels.filter fun label => decide (label.1 ≠ "__proto__")).map fun label => (label.1, value label.2) := by
  induction labels generalizing found with
  | nil => exact (List.append_nil _).symm
  | cons label labels ih =>
    obtain ⟨key, text⟩ := label
    have hkeys : ∀ (x : String), Fields.keys (found ++ (key, x) :: labels) = Fields.keys (found ++ (key, text) :: labels) := by
      intro x
      simp [Fields.keys]
    rw [List.foldl_cons]
    by_cases hproto : key = "__proto__"
    · have hsub : List.Sublist (Fields.keys (found ++ labels)) (Fields.keys (found ++ (key, text) :: labels)) :=
        ((List.sublist_cons_self _ _).append_left found).map Prod.fst
      rw [setLabel, if_pos hproto, ih _ (hnodup.sublist hsub) fun k hk => hnames k (hsub.subset hk),
        List.filter_cons_of_neg (by simpa using hproto)]
    · have hordered : Fields.Ordered (found ++ (key, value text) :: labels) :=
        ordered_of_names (by rw [hkeys]; exact hnodup) (by rw [hkeys]; exact hnames)
      rw [setLabel, if_neg hproto, Fields.assign_append hordered, ih _
        (by rw [List.append_assoc, List.singleton_append, hkeys]; exact hnodup)
        (by rw [List.append_assoc, List.singleton_append, hkeys]; exact hnames),
        List.filter_cons_of_pos (by simpa using hproto), List.map_cons, List.append_assoc, List.singleton_append]

private theorem readBack_eq_iff {labels : Fields String} (hnames : ∀ label ∈ labels, IsName labelStart labelChar label.1)
    (hnodup : labels.keys.Nodup) : readBack labels = labels ↔ ∀ label ∈ labels, LabelKept label := by
  have hindex : ∀ key ∈ labels.keys, arrayIndex? key = none := by
    intro key hkey
    obtain ⟨label, hlabel, rfl⟩ := List.mem_map.1 hkey
    exact arrayIndex?_name (hnames label hlabel)
  have hread := foldl_setLabel []
    (fun text => String.ofList (unescapeLabel (text.toList.flatMap escapeLabelChar))) hnodup hindex
  rw [List.nil_append] at hread
  have hvalue : ∀ text : String, String.ofList (unescapeLabel (text.toList.flatMap escapeLabelChar)) = text ↔
      ¬hasEscapedN text.toList := by
    intro text
    rw [← unescape_escape_iff, ← String.toList_inj, String.toList_ofList]
  unfold readBack
  rw [hread]
  constructor
  · intro h label hlabel
    have hlength := congrArg List.length h
    rw [List.length_map, List.length_filter_eq_length_iff] at hlength
    have hall := List.filter_eq_self.2 hlength
    rw [hall] at h
    have hsame := List.map_inj_left.1 (h.trans (List.map_id labels).symm) label hlabel
    exact ⟨by simpa using hlength label hlabel, (hvalue label.2).1 (Prod.mk.inj hsame).2⟩
  · intro h
    rw [List.filter_eq_self.2 fun label hlabel => by simpa using (h label hlabel).1]
    refine (List.map_congr_left fun label hlabel => ?_).trans (List.map_id labels)
    exact Prod.ext rfl ((hvalue label.2).2 (h label hlabel).2)

/-! ### Reading lines -/

private theorem foreign_of_whiteSpace {c : Char} (h : isWhiteSpace c = true) : Foreign c := by
  simp only [isWhiteSpace, decide_eq_true_eq] at h
  refine ⟨?_, ?_, ?_, ?_, ?_, ?_⟩
  · have hdigit : c.isDigit = false := by
      by_contra hdigit
      have hrange : 48 ≤ c.toNat ∧ c.toNat ≤ 57 := by simpa [Char.isDigit_iff_toNat] using hdigit
      omega
    unfold digitVal?
    rw [if_neg (by rw [hdigit]; decide)]
  all_goals
    rintro rfl
    exact absurd h (by decide)

private theorem trim_eq {cs : List Char} (hhead : ∀ c ∈ cs.head?, isWhiteSpace c = false)
    (hlast : ∀ c ∈ cs.getLast?, isWhiteSpace c = false) : trim cs = cs := by
  unfold trim
  rw [dropWhile_eq_self hhead, dropWhile_eq_self (by rwa [List.head?_reverse]), List.reverse_reverse]

private theorem splitLines_cons {c : Char} (hc : c ≠ '\n') {cs : List Char} (hnext : c = '\r' → cs.head? ≠ some '\n') :
    splitLines (c :: cs) = match splitLines cs with
      | [] => [[c]]
      | line :: lines => (c :: line) :: lines := by
  refine (splitLines.eq_def _).trans ?_
  split
  · rename_i hnil
    cases hnil
  · rename_i heq
    cases heq
    exact absurd rfl (hnext rfl)
  · rename_i heq
    cases heq
    exact absurd rfl hc
  · rename_i heq
    cases heq
    rfl

private theorem splitLines_line {line : List Char} (hfeed : '\n' ∉ line) (hlast : line.getLast? ≠ some '\r')
    (rest : List Char) : splitLines (line ++ '\n' :: rest) = line :: splitLines rest := by
  induction line with
  | nil => rfl
  | cons c cs ih =>
    rw [List.mem_cons, not_or] at hfeed
    have hcs : splitLines (cs ++ '\n' :: rest) = cs :: splitLines rest := by
      refine ih hfeed.2 fun h => hlast ?_
      rw [List.getLast?_cons, h]
      rfl
    rw [List.cons_append, splitLines_cons (Ne.symm hfeed.1), hcs]
    intro hreturn hnext
    cases cs with
    | nil => exact hlast (by rw [hreturn]; rfl)
    | cons d ds =>
      rw [List.cons_append, List.head?_cons, Option.some.injEq] at hnext
      exact hfeed.2 (by rw [hnext]; exact List.mem_cons_self)

private theorem matchValue_number {text : List Char} (hne : text ≠ []) (h : ∀ c ∈ text, isWhiteSpace c = false) :
    matchValue (' ' :: text) = some text := by
  have hall : ∀ c ∈ text, (!isWhiteSpace c) = true := fun c hc => by rw [h c hc]; rfl
  have hrest : (' ' :: text).dropWhile isWhiteSpace = text := by
    rw [List.dropWhile_cons_of_pos (by decide)]
    exact dropWhile_eq_self fun c hc => h c (List.mem_of_mem_head? hc)
  have htake : (text ++ []).takeWhile (fun c => !isWhiteSpace c) = text := takeWhile_append hall (by simp)
  have hdrop : (text ++ []).dropWhile (fun c => !isWhiteSpace c) = [] := dropWhile_append hall (by simp)
  rw [List.append_nil] at htake hdrop
  unfold matchValue
  dsimp only
  rw [hrest, htake, hdrop, if_neg, if_pos rfl]
  rintro (hspace | hnil)
  · cases hspace
  · exact hne hnil

/-- A quote before the value is taken for a part of it. -/
private theorem quote_mem_of_matchValue {cs value : List Char} (hquote : '"' ∈ cs) (h : matchValue cs = some value) :
    '"' ∈ value := by
  unfold matchValue at h
  dsimp only at h
  have hrest : '"' ∈ cs.dropWhile isWhiteSpace := mem_dropWhile (by decide) hquote
  rw [← List.takeWhile_append_dropWhile (p := fun c => !isWhiteSpace c) (l := cs.dropWhile isWhiteSpace),
    List.mem_append] at hrest
  split at h
  · cases h
  · split at h
    · rename_i htime
      cases h
      rw [htime] at hrest
      exact hrest.resolve_right List.not_mem_nil
    · split at h
      · rename_i hdigits
        cases h
        refine hrest.resolve_right fun htime => ?_
        have hdigit := List.all_eq_true.1 hdigits.2 '"' (mem_dropWhile (by decide) htime)
        cases hdigit
      · cases h

private theorem mem_joinComma {c : Char} (hc : c ≠ ',') (ts : List (List Char)) :
    c ∈ joinComma ts ↔ ∃ t ∈ ts, c ∈ t := by
  induction ts with
  | nil => simp [joinComma]
  | cons t ts ih =>
    cases ts with
    | nil => simp [joinComma]
    | cons u us =>
      rw [show joinComma (t :: u :: us) = t ++ ',' :: joinComma (u :: us) from rfl, List.mem_append, List.mem_cons, ih]
      simp [hc]

private theorem mem_escape {c : Char} (hfeed : c ≠ '\n') (hn : c ≠ 'n') (hslash : c ≠ '\\') (hquote : c ≠ '"')
    (value : List Char) : c ∈ value.flatMap escapeLabelChar ↔ c ∈ value := by
  rw [List.mem_flatMap]
  constructor
  · rintro ⟨d, hd, hmem⟩
    unfold escapeLabelChar at hmem
    split at hmem
    · simp [hslash] at hmem
    · split at hmem
      · simp [hslash, hquote] at hmem
      · split at hmem
        · simp [hslash, hn] at hmem
        · rw [List.mem_singleton.1 hmem]
          exact hd
  · intro hmem
    refine ⟨c, hmem, ?_⟩
    unfold escapeLabelChar
    rw [if_neg hslash, if_neg hquote, if_neg hfeed]
    exact List.mem_singleton_self c

private theorem feed_not_mem_escape (value : List Char) : '\n' ∉ value.flatMap escapeLabelChar := by
  rw [List.mem_flatMap]
  rintro ⟨d, -, hmem⟩
  unfold escapeLabelChar at hmem
  split at hmem
  · exact absurd hmem (by decide)
  · split at hmem
    · exact absurd hmem (by decide)
    · split at hmem
      · exact absurd hmem (by decide)
      · rename_i hfeed
        exact hfeed (List.mem_singleton.1 hmem).symm

section

variable {labels : Fields String} (hnames : ∀ label ∈ labels, IsName labelStart labelChar label.1)

include hnames

private theorem labelName_plain {label : String × String} (hmem : label ∈ labels) {c : Char}
    (hc : c ∈ label.1.toList) : c ≠ '}' ∧ c ≠ '\n' := by
  have hplain := nameChar_plain (nameChar_of_labelChar (List.all_eq_true.1 (hnames label hmem).2 c hc))
  exact ⟨hplain.2.2.2.1, hplain.2.2.2.2.1⟩

private theorem brace_mem_labels : '}' ∈ joinComma (labels.map renderLabel) ↔ ∃ label ∈ labels, '}' ∈ label.2.toList := by
  rw [mem_joinComma (by decide)]
  have hlabel : ∀ label ∈ labels, '}' ∈ renderLabel label ↔ '}' ∈ label.2.toList := by
    intro label hmem
    have hname : '}' ∉ label.1.toList := fun hc => (labelName_plain hnames hmem hc).1 rfl
    unfold renderLabel
    simp [hname, mem_escape (c := '}') (by decide) (by decide) (by decide) (by decide)]
  constructor
  · rintro ⟨t, ht, hbrace⟩
    obtain ⟨label, hmem, rfl⟩ := List.mem_map.1 ht
    exact ⟨label, hmem, (hlabel label hmem).1 hbrace⟩
  · rintro ⟨label, hmem, hbrace⟩
    exact ⟨_, List.mem_map_of_mem hmem, (hlabel label hmem).2 hbrace⟩

private theorem feed_not_mem_labels : '\n' ∉ joinComma (labels.map renderLabel) := by
  rw [mem_joinComma (by decide)]
  rintro ⟨t, ht, hfeed⟩
  obtain ⟨label, hmem, rfl⟩ := List.mem_map.1 ht
  have hname : '\n' ∉ label.1.toList := fun hc => (labelName_plain hnames hmem hc).2 rfl
  have hvalue := feed_not_mem_escape label.2.toList
  unfold renderLabel at hfeed
  simp only [List.mem_append, hname, List.mem_cons, hvalue] at hfeed
  simp at hfeed

end

private theorem labels_end (label : String × String) (labels : List (String × String)) :
    ∃ front, joinComma ((label :: labels).map renderLabel) = front ++ ['"'] := by
  induction labels generalizing label with
  | nil => exact ⟨label.1.toList ++ '=' :: '"' :: label.2.toList.flatMap escapeLabelChar, by
      simp [joinComma, renderLabel]⟩
  | cons next labels ih =>
    obtain ⟨front, hfront⟩ := ih next
    refine ⟨renderLabel label ++ ',' :: front, ?_⟩
    rw [joinComma_labels, restOf, hfront, List.append_assoc, List.cons_append]
    rintro ⟨⟩

/-! ### A sample and its line -/

namespace ExposedSample

variable (sample : ExposedSample)

/-- The braces and what is between them. -/
private def labelPart : List Char :=
  if sample.labels = [] then [] else '{' :: (joinComma (sample.labels.map renderLabel) ++ ['}'])

private theorem renderSample_eq : renderSample sample.toParsedSample =
    sample.name.toList ++ (sample.labelPart ++ ' ' :: sample.value.renderSigned) := rfl

private theorem name_chars {c : Char} (h : c ∈ sample.name.toList) : nameChar c = true :=
  List.all_eq_true.1 sample.name_ok.2 c h

private theorem name_head : ∃ c cs, sample.name.toList = c :: cs ∧ nameStart c = true := by
  have hstart := sample.name_ok.1
  cases hname : sample.name.toList with
  | nil =>
    rw [hname] at hstart
    cases hstart
  | cons c cs =>
    rw [hname] at hstart
    exact ⟨c, cs, rfl, hstart⟩

private theorem value_chars {c : Char} (h : c ∈ sample.value.renderSigned) : isWhiteSpace c = false := by
  by_contra hspace
  exact (renderSigned_chars sample.value_finite).2 c (foreign_of_whiteSpace (by simpa using hspace)) h

private theorem line_last : ∀ c ∈ (renderSample sample.toParsedSample).getLast?, isWhiteSpace c = false := by
  intro c hc
  have hne := (renderSigned_chars sample.value_finite).1
  rw [renderSample_eq, ← List.append_assoc, List.getLast?_append, List.getLast?_cons_of_ne_nil hne] at hc
  obtain ⟨last, hlast⟩ := List.getLast?_isSome.2 hne |> Option.isSome_iff_exists.1
  rw [hlast] at hc
  cases hc
  exact sample.value_chars (List.mem_of_getLast? hlast)

private theorem line_feed : '\n' ∉ renderSample sample.toParsedSample := by
  rw [renderSample_eq]
  intro h
  rcases List.mem_append.1 h with h | h
  · exact (nameChar_plain (sample.name_chars h)).2.2.2.2.1 rfl
  · rcases List.mem_append.1 h with h | h
    · unfold labelPart at h
      split at h
      · cases h
      · have hfeed := feed_not_mem_labels sample.labels_ok
        simp [hfeed] at h
    · rcases List.mem_cons.1 h with h | h
      · cases h
      · exact absurd (sample.value_chars h) (by decide)

private theorem line_trim : trim (renderSample sample.toParsedSample) = renderSample sample.toParsedSample := by
  refine trim_eq ?_ sample.line_last
  intro c hc
  obtain ⟨d, ds, hname, hstart⟩ := sample.name_head
  rw [renderSample_eq, hname] at hc
  cases hc
  exact (nameChar_plain (by rw [nameChar, hstart]; rfl)).1

private theorem splitLines_render (rest : List Char) :
    splitLines (renderSample sample.toParsedSample ++ '\n' :: rest) =
      renderSample sample.toParsedSample :: splitLines rest := by
  refine splitLines_line sample.line_feed (fun h => ?_) rest
  exact absurd (sample.line_last '\r' h) (by decide)

private theorem matchLine_render : matchLine (renderSample sample.toParsedSample) =
    match sample.labelPart ++ ' ' :: sample.value.renderSigned with
    | '{' :: rest =>
      match rest.dropWhile fun c => c != '}' with
      | '}' :: tail =>
        (matchValue tail).map fun value => ⟨sample.name.toList, some (rest.takeWhile fun c => c != '}'), value⟩
      | _ => none
    | rest => (matchValue rest).map fun value => ⟨sample.name.toList, none, value⟩ := by
  obtain ⟨c, cs, hname, hstart⟩ := sample.name_head
  have hchars : ∀ c ∈ sample.name.toList, nameChar c = true := fun c hc => sample.name_chars hc
  have hrest : ∀ c ∈ (sample.labelPart ++ ' ' :: sample.value.renderSigned).head?, nameChar c = false := by
    intro c hc
    unfold labelPart at hc
    split at hc
    · cases hc
      decide
    · cases hc
      decide
  have hhead : (sample.name.toList ++ (sample.labelPart ++ ' ' :: sample.value.renderSigned)).head?.any nameStart =
      true := by
    rw [hname]
    exact hstart
  unfold matchLine
  rw [renderSample_eq, dropWhile_append hchars hrest, takeWhile_append hchars hrest]
  exact if_pos hhead

/-- Without labels the line is the name and the value. -/
private theorem matchLine_bare (hlabels : sample.labels = []) : matchLine (renderSample sample.toParsedSample) =
    some ⟨sample.name.toList, none, sample.value.renderSigned⟩ := by
  rw [matchLine_render]
  unfold labelPart
  rw [if_pos hlabels, List.nil_append]
  show (matchValue (' ' :: sample.value.renderSigned)).map _ = _
  rw [matchValue_number (renderSigned_chars sample.value_finite).1 fun c hc => sample.value_chars hc]
  rfl

/-- Labels without a closing brace are found between the braces. -/
private theorem matchLine_labelled (hlabels : sample.labels ≠ []) (hbrace : '}' ∉ joinComma (sample.labels.map renderLabel)) :
    matchLine (renderSample sample.toParsedSample) =
      some ⟨sample.name.toList, some (joinComma (sample.labels.map renderLabel)), sample.value.renderSigned⟩ := by
  have hchars : ∀ c ∈ joinComma (sample.labels.map renderLabel), (c != '}') = true := by
    intro c hc
    rw [bne_iff_ne]
    rintro rfl
    exact hbrace hc
  have hrest : ∀ c ∈ ('}' :: ' ' :: sample.value.renderSigned).head?, (c != '}') = false := by
    intro c hc
    cases hc
    rfl
  rw [matchLine_render]
  unfold labelPart
  rw [if_neg hlabels, List.cons_append, List.append_assoc]
  show (match (joinComma (sample.labels.map renderLabel) ++ '}' :: ' ' :: sample.value.renderSigned).dropWhile
      (fun c => c != '}') with
    | '}' :: tail => (matchValue tail).map fun value => (⟨sample.name.toList,
        some ((joinComma (sample.labels.map renderLabel) ++ '}' :: ' ' :: sample.value.renderSigned).takeWhile
          fun c => c != '}'), value⟩ : LineMatch)
    | _ => none) = _
  rw [dropWhile_append hchars hrest, takeWhile_append hchars hrest]
  show (matchValue (' ' :: sample.value.renderSigned)).map _ = _
  rw [matchValue_number (renderSigned_chars sample.value_finite).1 fun c hc => sample.value_chars hc]
  rfl

/-- With a closing brace in the labels, what is found for a value has a quote in it. -/
private theorem matchLine_braced (hbrace : '}' ∈ joinComma (sample.labels.map renderLabel)) {found : LineMatch}
    (h : matchLine (renderSample sample.toParsedSample) = some found) : '"' ∈ found.value := by
  obtain ⟨label, labels, hlabels⟩ : ∃ label labels, sample.labels = label :: labels := by
    cases hlabels : sample.labels with
    | nil =>
      rw [hlabels] at hbrace
      cases hbrace
    | cons label labels => exact ⟨label, labels, rfl⟩
  obtain ⟨front, hfront⟩ := labels_end label labels
  rw [← hlabels] at hfront
  rw [matchLine_render] at h
  unfold labelPart at h
  rw [if_neg (by rw [hlabels]; simp), List.cons_append, List.append_assoc, hfront, List.append_assoc] at h
  rw [hfront, List.mem_append] at hbrace
  have hin : '}' ∈ front := hbrace.resolve_right (by decide)
  -- the first closing brace is in the front, so the quote at the end is behind it
  obtain ⟨before, after, rfl, hnot⟩ := List.eq_append_cons_of_mem hin
  have hchars : ∀ c ∈ before, (c != '}') = true := by
    intro c hc
    rw [bne_iff_ne]
    rintro rfl
    exact hnot hc
  rw [List.append_assoc, List.cons_append] at h
  have hrest : ∀ c ∈ ('}' :: (after ++ (['"'] ++ (['}'] ++ ' ' :: sample.value.renderSigned)))).head?,
      (c != '}') = false := by
    intro c hc
    cases hc
    rfl
  simp only [dropWhile_append hchars hrest] at h
  obtain ⟨value, hvalue, rfl⟩ := Option.map_eq_some_iff.1 h
  exact quote_mem_of_matchValue (by simp) hvalue

/-- The labels survive the pattern for lines, the loss of `__proto__` and the escapes. -/
def Survives (sample : ExposedSample) : Prop :=
  ∀ label ∈ sample.labels, label.1 ≠ "__proto__" ∧ '}' ∉ label.2.toList ∧ ¬hasEscapedN label.2.toList

private theorem parseLine_found {found : LineMatch} (h : matchLine (renderSample sample.toParsedSample) = some found) :
    parseLine (renderSample sample.toParsedSample) =
      if (JsNumber.ofText found.value).isFinite then
        match found.labels with
        | none | some [] => .ok (some ⟨String.ofList found.name, [], JsNumber.ofText found.value⟩)
        | some labels =>
          match parseLabels labels with
          | .error message => .error message
          | .ok labels => .ok (some ⟨String.ofList found.name, labels, JsNumber.ofText found.value⟩)
      else .ok none := by
  obtain ⟨c, cs, hname, hstart⟩ := sample.name_head
  have hskip : ¬(renderSample sample.toParsedSample = [] ∨ (renderSample sample.toParsedSample).head? = some '#') := by
    rw [renderSample_eq, hname]
    rintro (hnil | hhash)
    · cases hnil
    · rw [List.cons_append, List.head?_cons, Option.some.injEq] at hhash
      exact (nameChar_plain (by rw [nameChar, hstart]; rfl)).2.2.2.2.2 hhash
  unfold parseLine
  dsimp only
  rw [sample.line_trim, h]
  exact if_neg hskip

/-- What comes of the line of a sample: the sample itself exactly when its labels survive. -/
private theorem parseLine_render : ∃ result, parseLine (renderSample sample.toParsedSample) = .ok result ∧
    (result = some sample.toParsedSample ↔ sample.Survives) := by
  have hvalue := ofText_renderSigned sample.value_finite
  by_cases hlabels : sample.labels = []
  · refine ⟨some sample.toParsedSample, ?_, iff_of_true rfl fun label hmem => by rw [hlabels] at hmem; cases hmem⟩
    rw [sample.parseLine_found (sample.matchLine_bare hlabels)]
    dsimp only
    rw [hvalue, if_pos sample.value_finite, String.ofList_toList, ← hlabels]
  · by_cases hbrace : '}' ∈ joinComma (sample.labels.map renderLabel)
    · refine ⟨none, ?_, iff_of_false (fun h => by cases h) fun h => ?_⟩
      · cases hfound : matchLine (renderSample sample.toParsedSample) with
        | none =>
          unfold parseLine
          dsimp only
          rw [sample.line_trim, hfound]
          split <;> rfl
        | some found =>
          rw [sample.parseLine_found hfound, ofText_of_quote (sample.matchLine_braced hbrace hfound)]
          rfl
      · obtain ⟨label, hmem, hin⟩ := (brace_mem_labels sample.labels_ok).1 hbrace
        exact (h label hmem).2.1 hin
    · refine ⟨some { sample.toParsedSample with labels := readBack sample.labels }, ?_, ?_⟩
      · obtain ⟨c, cs, hcs⟩ : ∃ c cs, joinComma (sample.labels.map renderLabel) = c :: cs := by
          cases hlist : sample.labels with
          | nil => exact absurd hlist hlabels
          | cons label labels =>
            rw [joinComma_labels]
            cases hname : label.1.toList with
            | nil => exact ⟨_, _, by rw [renderLabel, hname]; rfl⟩
            | cons c cs => exact ⟨_, _, by rw [renderLabel, hname]; rfl⟩
        have hparse := parseLabels_render sample.labels_ok
        rw [sample.parseLine_found (sample.matchLine_labelled hlabels hbrace)]
        rw [hcs] at hparse ⊢
        dsimp only
        rw [hvalue, if_pos sample.value_finite, hparse, String.ofList_toList]
      · have hsame : some { sample.toParsedSample with labels := readBack sample.labels } = some sample.toParsedSample ↔
            readBack sample.labels = sample.labels := by
          rw [Option.some.injEq]
          exact ⟨fun h => congrArg ParsedSample.labels h, fun h => by rw [h]⟩
        rw [hsame, readBack_eq_iff sample.labels_ok sample.labels_nodup]
        refine forall₂_congr fun label hmem => ?_
        have hnone : '}' ∉ label.2.toList := fun hin => hbrace ((brace_mem_labels sample.labels_ok).2 ⟨label, hmem, hin⟩)
        exact ⟨fun h => ⟨h.1, hnone, h.2⟩, fun h => ⟨h.1, h.2.2⟩⟩

end ExposedSample

/-! ### A page of samples -/

private theorem length_flatMap_toList {α : Type} (results : List (Option α)) :
    (results.flatMap Option.toList).length ≤ results.length := by
  induction results with
  | nil => exact le_refl _
  | cons result results ih =>
    rw [List.flatMap_cons, List.length_append, List.length_cons]
    have hone : result.toList.length ≤ 1 := by cases result <;> simp
    omega

/-- Results give the list back only if none is missing and each is the element at its place. -/
private theorem flatMap_toList_cons_iff {α : Type} {result : Option α} {results : List (Option α)} {a : α} {as : List α}
    (hlength : results.length = as.length) :
    (result :: results).flatMap Option.toList = a :: as ↔ result = some a ∧ results.flatMap Option.toList = as := by
  rw [List.flatMap_cons]
  cases result with
  | none =>
    refine iff_of_false (fun h => ?_) fun h => by cases h.1
    have hle := length_flatMap_toList results
    have hcount := congrArg List.length h
    rw [Option.toList_none, List.nil_append, List.length_cons] at hcount
    omega
  | some b => simp

private theorem parseLines_render (samples : List ExposedSample) :
    ∃ results : List (Option ParsedSample), results.length = samples.length ∧
      parsePrometheus (renderSamples (samples.map ExposedSample.toParsedSample)) =
        .ok (results.flatMap Option.toList) ∧
      (results.flatMap Option.toList = samples.map ExposedSample.toParsedSample ↔
        ∀ sample ∈ samples, sample.Survives) := by
  induction samples with
  | nil => exact ⟨[], rfl, rfl, by simp⟩
  | cons sample samples ih =>
    obtain ⟨results, hlength, hparse, hiff⟩ := ih
    obtain ⟨result, hline, hsurvives⟩ := sample.parseLine_render
    refine ⟨result :: results, by rw [List.length_cons, hlength, List.length_cons], ?_, ?_⟩
    · have hbody : renderSamples ((sample :: samples).map ExposedSample.toParsedSample) =
          renderSample sample.toParsedSample ++ '\n' :: renderSamples (samples.map ExposedSample.toParsedSample) := by
        unfold renderSamples
        rw [List.map_cons, List.flatMap_cons, List.append_assoc, List.singleton_append]
      unfold parsePrometheus at hparse ⊢
      rw [hbody, sample.splitLines_render, parseLines, hline]
      dsimp only
      rw [hparse]
      rfl
    · rw [List.map_cons, flatMap_toList_cons_iff (by rw [hlength, List.length_map]), hsurvives, hiff,
        List.forall_mem_cons]

/-- Exposed samples are read back, all and unchanged, exactly when no label value contains a closing brace or a backslash
before an `n`, and no label is named `__proto__`. -/
theorem parse_render_iff (samples : List ExposedSample) :
    parsePrometheus (renderSamples (samples.map ExposedSample.toParsedSample)) =
      .ok (samples.map ExposedSample.toParsedSample) ↔ ∀ sample ∈ samples, sample.Survives := by
  obtain ⟨results, -, hparse, hiff⟩ := parseLines_render samples
  rw [hparse, Except.ok.injEq, hiff]

def bracedSample : ExposedSample where
  name := "game_tick_rate"
  labels := [("room", "canary-room"), ("map", "main\x7d")]
  value := .ofNat 60
  name_ok := ⟨by decide, by decide⟩
  labels_ok := List.forall_mem_cons.2 ⟨⟨by decide, by decide⟩, List.forall_mem_cons.2 ⟨⟨by decide, by decide⟩, by simp⟩⟩
  labels_nodup := by decide
  value_finite := rfl

/-- A brace in a label value makes the whole sample disappear. -/
theorem braced_sample_dropped : ¬(parsePrometheus (renderSamples [bracedSample.toParsedSample]) =
    .ok [bracedSample.toParsedSample]) := by
  have hdropped : parsePrometheus (renderSamples [bracedSample.toParsedSample]) = .ok [] := by decide +kernel
  rw [hdropped]
  intro h
  cases h

end Exposition

end Opsia
