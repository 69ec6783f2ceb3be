import Opsia.Json.Text

/-!
# JSON text is unambiguous

The text of a value says where it ends: when the texts of two plain values, each followed by something that ends a
number, are the same characters, the values are the same and so is what follows (`write_cancel`).  Nothing is assumed
about the order of the keys, so this also covers the texts that list them in another order than the language does.
-/

namespace Opsia.Json

/-! ### Lists with commas -/

private theorem joinComma_cons_cons (t u : List Char) (ts : List (List Char)) :
    joinComma (t :: u :: ts) = t ++ ',' :: joinComma (u :: ts) := rfl

/-- `text` can be cancelled at `a` from any text that goes on with what ends a number. -/
def Cancels {α : Type} (text : α → List Char) (good : α → Prop) (a : α) : Prop :=
  ∀ b r s, good b → NumberEnds r → NumberEnds s → text a ++ r = text b ++ s → a = b ∧ r = s

private theorem ends_cons {c : Char} (h : digitVal? c = none ∧ c ≠ '.' ∧ c ≠ 'e' ∧ c ≠ 'E') (cs : List Char) :
    NumberEnds (c :: cs) := by
  intro d hd
  cases hd
  exact h

/-- Where each element can be cancelled, so can the list up to its closing character. -/
theorem joinComma_cancel {α : Type} {text : α → List Char} {good : α → Prop} {close : Char}
    (hclose : close ≠ ',' ∧ digitVal? close = none ∧ close ≠ '.' ∧ close ≠ 'e' ∧ close ≠ 'E')
    (hhead : ∀ a, good a → ∃ c cs, text a = c :: cs ∧ c ≠ close) {as bs : List α} (has : ∀ a ∈ as, good a)
    (hcancel : ∀ a ∈ as, Cancels text good a) (hbs : ∀ b ∈ bs, good b) {r s : List Char}
    (h : joinComma (as.map text) ++ close :: r = joinComma (bs.map text) ++ close :: s) : as = bs ∧ r = s := by
  have hcomma : ∀ cs, NumberEnds (',' :: cs) := ends_cons (by decide)
  have hend : ∀ cs, NumberEnds (close :: cs) := ends_cons hclose.2
  -- a list that begins does not look like one that has ended
  have hbegun : ∀ (a : α) (as : List α) (x y : List Char), good a →
      joinComma ((a :: as).map text) ++ x ≠ close :: y := by
    intro a as x y ha heq
    obtain ⟨c, cs, hc, hne⟩ := hhead a ha
    cases as with
    | nil =>
      rw [List.map_cons, List.map_nil, joinComma, hc] at heq
      exact hne (List.cons.inj heq).1
    | cons a' as =>
      rw [List.map_cons, List.map_cons, joinComma_cons_cons, hc] at heq
      exact hne (List.cons.inj heq).1
  induction as generalizing bs with
  | nil =>
    cases bs with
    | nil => exact ⟨rfl, (List.cons.inj h).2⟩
    | cons b bs => exact absurd h.symm (hbegun b bs _ _ (hbs b (by simp)))
  | cons a as ih =>
    cases bs with
    | nil => exact absurd h (hbegun a as _ _ (has a (by simp)))
    | cons b bs =>
      have ha := hcancel a (by simp)
      have hb := hbs b (by simp)
      cases as with
      | nil =>
        cases bs with
        | nil =>
          simp only [List.map_cons, List.map_nil, joinComma] at h
          obtain ⟨rfl, hrest⟩ := ha b _ _ hb (hend r) (hend s) h
          exact ⟨rfl, (List.cons.inj hrest).2⟩
        | cons b' bs =>
          simp only [List.map_cons, List.map_nil, joinComma, List.append_assoc, List.cons_append] at h
          obtain ⟨-, hrest⟩ := ha b _ _ hb (hend r) (hcomma _) h
          exact absurd (List.cons.inj hrest).1 hclose.1
      | cons a' as =>
        cases bs with
        | nil =>
          simp only [List.map_cons, List.map_nil, joinComma, List.append_assoc, List.cons_append] at h
          obtain ⟨-, hrest⟩ := ha b _ _ hb (hcomma _) (hend s) h
          exact absurd (List.cons.inj hrest).1.symm hclose.1
        | cons b' bs =>
          rw [List.map_cons, List.map_cons, joinComma_cons_cons, List.map_cons, List.map_cons, joinComma_cons_cons,
            List.append_assoc, List.append_assoc, List.cons_append, List.cons_append] at h
          obtain ⟨rfl, hrest⟩ := ha b _ _ hb (hcomma _) (hcomma _) h
          obtain ⟨hlists, hrs⟩ := ih (fun x hx => has x (List.mem_cons_of_mem _ hx))
            (fun x hx => hcancel x (List.mem_cons_of_mem _ hx)) (fun x hx => hbs x (List.mem_cons_of_mem _ hx))
            (List.cons.inj hrest).2
          exact ⟨by rw [hlists], hrs⟩

/-! ### Strings and fields -/

theorem quoted_cancel {k l : List Char} {r s : List Char} (h : quoted k ++ r = quoted l ++ s) : k = l ∧ r = s := by
  simp only [quoted, List.cons_append, List.append_assoc, List.nil_append, List.cons.injEq, true_and] at h
  have hread := readString_quoted k r
  rw [h, readString_quoted l s, Option.some.injEq, Prod.mk.injEq] at hread
  exact ⟨hread.1.symm, hread.2.symm⟩

private theorem member_cancel {k l : String} {t u : List Char} (h : member k t = member l u) : k = l ∧ t = u := by
  obtain ⟨hkey, htext⟩ := quoted_cancel h
  exact ⟨String.toList_inj.1 hkey, (List.cons.inj htext).2⟩

/-! ### Values -/

/-- What a value is, told by the first character of its text. -/
private def kindOf : JsValue → Nat
  | .undefined => 0
  | .null => 1
  | .bool true => 2
  | .bool false => 3
  | .str _ => 4
  | .arr _ => 5
  | .obj _ => 6
  | .num _ => 7

private def kindOfChar (c : Char) : Nat :=
  if c = 'n' then 1
  else if c = 't' then 2
  else if c = 'f' then 3
  else if c = '"' then 4
  else if c = '[' then 5
  else if c = '{' then 6
  else 7

private theorem number_head {x : JsNumber} (h : x.throughText = some x) :
    ∃ c cs, x.render = c :: cs ∧ kindOfChar c = 7 ∧ c ≠ ']' := by
  have hread := readNumber_render h (show NumberEnds [] by simp [NumberEnds])
  obtain ⟨c, cs, hc, hd⟩ := readNumber_head hread
  have hne : ∀ d : Char, d ≠ '-' → digitVal? d = none → c ≠ d := by
    rintro d hminus hdigit rfl
    rcases hd with rfl | hd
    · exact hminus rfl
    · rw [hdigit] at hd
      cases hd
  refine ⟨c, cs, by simpa using hc, ?_, hne ']' (by decide) (by decide)⟩
  unfold kindOfChar
  rw [if_neg (hne 'n' (by decide) (by decide)), if_neg (hne 't' (by decide) (by decide)),
    if_neg (hne 'f' (by decide) (by decide)), if_neg (hne '"' (by decide) (by decide)),
    if_neg (hne '[' (by decide) (by decide)), if_neg (hne '{' (by decide) (by decide))]

private theorem write_head {v : JsValue} (h : v.Plain) :
    ∃ c cs, write v = c :: cs ∧ kindOfChar c = kindOf v ∧ c ≠ ']' := by
  cases v with
  | undefined => exact absurd h (by simp [JsValue.Plain])
  | null => exact ⟨_, _, rfl, rfl, by decide⟩
  | bool b =>
    cases b with
    | true => exact ⟨_, _, rfl, rfl, by decide⟩
    | false => exact ⟨_, _, rfl, rfl, by decide⟩
  | num x => exact number_head h
  | str s => exact ⟨_, _, rfl, rfl, by decide⟩
  | arr items => exact ⟨_, _, rfl, rfl, by decide⟩
  | obj fields => exact ⟨_, _, rfl, rfl, by decide⟩

private theorem kindOf_eq {v w : JsValue} (hv : v.Plain) (hw : w.Plain) {r s : List Char}
    (h : write v ++ r = write w ++ s) : kindOf v = kindOf w := by
  obtain ⟨c, cs, hc, hkind, -⟩ := write_head hv
  obtain ⟨d, ds, hd, hkind', -⟩ := write_head hw
  rw [hc, hd] at h
  rw [← hkind, ← hkind', (List.cons.inj h).1]

/-- The text of a plain value can be taken off the front of a text in one way only. -/
theorem write_cancel (v : JsValue) (hv : v.Plain) : Cancels write JsValue.Plain v := by
  induction v using JsValue.induct with
  | undefined => exact absurd hv (by simp [JsValue.Plain])
  | null =>
    intro w r s hw _ _ h
    have hkind := kindOf_eq hv hw h
    cases w with
    | null => exact ⟨rfl, List.append_cancel_left h⟩
    | bool b => cases b <;> cases hkind
    | _ => cases hkind
  | bool b =>
    intro w r s hw _ _ h
    have hkind := kindOf_eq hv hw h
    cases w with
    | bool b' =>
      have hb : b = b' := by cases b <;> cases b' <;> first | rfl | cases hkind
      subst hb
      exact ⟨rfl, List.append_cancel_left h⟩
    | _ => cases b <;> cases hkind
  | num x =>
    intro w r s hw hr hs h
    have hkind := kindOf_eq hv hw h
    cases w with
    | num y =>
      have hread := readNumber_render (show x.throughText = some x from hv) hr
      rw [show x.render ++ r = y.render ++ s from h, readNumber_render (show y.throughText = some y from hw) hs,
        Option.some.injEq, Prod.mk.injEq] at hread
      exact ⟨by rw [hread.1], hread.2.symm⟩
    | bool b => cases b <;> cases hkind
    | _ => cases hkind
  | str k =>
    intro w r s hw _ _ h
    have hkind := kindOf_eq hv hw h
    cases w with
    | str l =>
      obtain ⟨hkl, hrs⟩ := quoted_cancel (show quoted k.toList ++ r = quoted l.toList ++ s from h)
      exact ⟨by rw [String.toList_inj.1 hkl], hrs⟩
    | bool b => cases b <;> cases hkind
    | _ => cases hkind
  | arr items ih =>
    intro w r s hw _ _ h
    have hkind := kindOf_eq hv hw h
    rw [JsValue.plain_arr] at hv
    cases w with
    | arr items' =>
      rw [JsValue.plain_arr] at hw
      rw [write_arr, write_arr, List.cons_append, List.cons_append, List.append_assoc, List.append_assoc] at h
      have hhead : ∀ v : JsValue, v.Plain → ∃ c cs, write v = c :: cs ∧ c ≠ ']' := by
        intro v hp
        obtain ⟨c, cs, hc, -, hne⟩ := write_head hp
        exact ⟨c, cs, hc, hne⟩
      obtain ⟨hitems, hrs⟩ := joinComma_cancel (by decide) hhead hv (fun v hm => ih v hm (hv v hm)) hw
        (List.cons.inj h).2
      exact ⟨by rw [hitems], hrs⟩
    | bool b => cases b <;> cases hkind
    | _ => cases hkind
  | obj fields ih =>
    intro w r s hw _ _ h
    have hkind := kindOf_eq hv hw h
    rw [JsValue.plain_obj] at hv
    cases w with
    | obj fields' =>
      rw [JsValue.plain_obj] at hw
      rw [write_obj, write_obj, List.cons_append, List.cons_append, List.append_assoc, List.append_assoc] at h
      have hhead : ∀ f : String × JsValue, f.2.Plain → ∃ c cs, member f.1 (write f.2) = c :: cs ∧ c ≠ '}' :=
        fun f _ => ⟨_, _, rfl, by decide⟩
      have hfield : ∀ f ∈ fields, Cancels (fun f => member f.1 (write f.2)) (fun f => f.2.Plain) f := by
        intro f hf g r s hg hr hs heq
        obtain ⟨hkey, htext⟩ := member_cancel (t := write f.2 ++ r) (u := write g.2 ++ s)
          (by simpa only [member, List.append_assoc, List.cons_append] using heq)
        obtain ⟨hvalue, hrs⟩ := ih f hf (hv f hf) g.2 r s hg hr hs htext
        exact ⟨Prod.ext hkey hvalue, hrs⟩
      obtain ⟨hfields, hrs⟩ := joinComma_cancel (by decide) hhead hv hfield hw (List.cons.inj h).2
      exact ⟨by rw [hfields], hrs⟩
    | bool b => cases b <;> cases hkind
    | _ => cases hkind

theorem write_inj {v w : JsValue} (hv : v.Plain) (hw : w.Plain) (h : write v = write w) : v = w :=
  (write_cancel v hv w [] [] hw (by simp [NumberEnds]) (by simp [NumberEnds]) (congrArg (· ++ []) h)).1

end Opsia.Json
