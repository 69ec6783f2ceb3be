import Opsia.Json.Text

/-!
# Numbers from text

`JsNumber.ofText` is `Number(text)` for a text without white space around it: a decimal literal with an optional sign,
point and exponent, `Infinity`, or a hexadecimal, octal or binary literal; anything else is not a number.  As elsewhere
numbers are exact.  It reads a rendered number back (`ofText_renderSigned`).
-/

namespace Opsia.Json

/-- The digits after the point, if there is one. -/
def scanFraction : List Char → List Nat × List Char
  | '.' :: cs => scanDigits cs
  | cs => ([], cs)

/-- A decimal literal without its sign, and nothing after it. -/
def readDecimal (neg : Bool) (cs : List Char) : Option JsNumber :=
  let (int, rest) := scanDigits cs
  let (frac, rest) := scanFraction rest
  if int = [] ∧ frac = [] then none
  else
    match readExponent rest with
    | some (exp, []) => some (assemble neg int frac exp)
    | _ => none

/-- The base that the letter after a leading zero announces; no digit is below the base of another letter. -/
def baseOf (c : Char) : Nat :=
  if c = 'x' ∨ c = 'X' then 16 else if c = 'o' ∨ c = 'O' then 8 else if c = 'b' ∨ c = 'B' then 2 else 0

/-- A hexadecimal, octal or binary literal. -/
def readRadix : List Char → Option JsNumber
  | '0' :: c :: d :: ds =>
    ((d :: ds).mapM fun d => (hexVal? d).filter fun n => decide (n < baseOf c)).map fun digits =>
      .ofNat (Nat.ofDigits (baseOf c) digits.reverse)
  | _ => none

def splitSign : List Char → Bool × List Char
  | '-' :: cs => (true, cs)
  | '+' :: cs => (false, cs)
  | cs => (false, cs)

namespace JsNumber

/-- `Number(text)` -/
def ofText (cs : List Char) : JsNumber :=
  if cs = [] then .ofNat 0
  else
    let (neg, body) := splitSign cs
    if body = "Infinity".toList then .infinity neg
    else
      match readDecimal neg body with
      | some x => x
      | none => (readRadix cs).getD .nan

/-- A number as text that keeps the sign of zero. -/
def renderSigned : JsNumber → List Char
  | negZero => ['-', '0']
  | x => x.render

end JsNumber

/-! ### Reading a rendered number -/

private theorem readParts_eq_some {neg : Bool} {rest₁ rest : List Char} {int : List Nat} {x : JsNumber}
    (hread : (do
      let (frac, rest) ← readFraction rest₁
      let (exp, rest) ← readExponent rest
      some (assemble neg int frac exp, rest)) = some (x, rest)) :
    ∃ frac rest₂ exp, readFraction rest₁ = some (frac, rest₂) ∧ readExponent rest₂ = some (exp, rest) ∧
      x = assemble neg int frac exp := by
  simp only [Option.bind_eq_bind, Option.bind_eq_some_iff, Option.some.injEq, Prod.mk.injEq] at hread
  obtain ⟨⟨frac, rest₂⟩, hfrac, ⟨exp, rest₃⟩, hexp, hx, rfl⟩ := hread
  exact ⟨frac, rest₂, exp, hfrac, hexp, hx.symm⟩

private theorem readUnsigned_eq_some {neg : Bool} {cs rest : List Char} {x : JsNumber}
    (h : readUnsigned neg cs = some (x, rest)) :
    ∃ int rest₁ frac rest₂ exp, scanDigits cs = (int, rest₁) ∧ int ≠ [] ∧ readFraction rest₁ = some (frac, rest₂) ∧
      readExponent rest₂ = some (exp, rest) ∧ x = assemble neg int frac exp := by
  unfold readUnsigned at h
  cases hint : scanDigits cs with
  | mk int rest₁ =>
    rw [hint] at h
    split at h
    · cases h
    · cases h
    · rename_i int' rest' hnil hzero heq
      obtain ⟨rfl, rfl⟩ := Prod.mk.inj heq
      obtain ⟨frac, rest₂, exp, hfrac, hexp, hx⟩ := readParts_eq_some h
      exact ⟨_, _, frac, rest₂, exp, rfl, fun hne => hnil hne, hfrac, hexp, hx⟩

private theorem scanFraction_of_readFraction {cs rest : List Char} {frac : List Nat}
    (h : readFraction cs = some (frac, rest)) : scanFraction cs = (frac, rest) := by
  cases cs with
  | nil =>
    cases h
    rfl
  | cons c cs =>
    by_cases hc : c = '.'
    · subst hc
      show scanDigits cs = (frac, rest)
      cases hscan : scanDigits cs with
      | mk ds rest' =>
        simp only [readFraction, hscan] at h
        cases ds with
        | nil => cases h
        | cons d ds =>
          cases h
          rfl
    · have hread : readFraction (c :: cs) = some ([], c :: cs) := by
        unfold readFraction
        split
        · rename_i heq
          exact absurd (List.cons.inj heq).1 hc
        · rfl
      rw [hread] at h
      cases h
      unfold scanFraction
      split
      · rename_i heq
        exact absurd (List.cons.inj heq).1 hc
      · rfl

private theorem readDecimal_of_readUnsigned {neg : Bool} {cs : List Char} {x : JsNumber}
    (h : readUnsigned neg cs = some (x, [])) : readDecimal neg cs = some x := by
  obtain ⟨int, rest₁, frac, rest₂, exp, hint, hne, hfrac, hexp, rfl⟩ := readUnsigned_eq_some h
  unfold readDecimal
  rw [hint]
  dsimp only
  rw [scanFraction_of_readFraction hfrac]
  dsimp only
  rw [if_neg fun hnil => hne hnil.1, hexp]

private theorem digit_head {neg : Bool} {cs : List Char} {r : JsNumber × List Char} (h : readUnsigned neg cs = some r) :
    ∃ c rest, cs = c :: rest ∧ (digitVal? c).isSome := by
  cases cs with
  | nil => simp [readUnsigned, scanDigits] at h
  | cons c cs =>
    refine ⟨c, cs, rfl, ?_⟩
    cases hd : digitVal? c with
    | some d => rfl
    | none => simp [readUnsigned, scanDigits, hd] at h

private theorem ofText_of_readNumber {cs : List Char} {x : JsNumber} (h : readNumber cs = some (x, [])) :
    JsNumber.ofText cs = x := by
  -- the sign is read alike by both grammars, and a digit follows it
  obtain ⟨neg, body, hsign, hread⟩ : ∃ neg body, splitSign cs = (neg, body) ∧ readUnsigned neg body = some (x, []) := by
    unfold readNumber at h
    split at h
    · exact ⟨true, _, rfl, h⟩
    · rename_i hminus
      obtain ⟨c, rest, rfl, hdigit⟩ := digit_head h
      refine ⟨false, c :: rest, ?_, h⟩
      unfold splitSign
      split
      · rename_i heq
        exact (hminus _ heq).elim
      · rename_i heq
        rw [(List.cons.inj heq).1] at hdigit
        exact absurd hdigit (by decide)
      · rfl
  obtain ⟨c, rest, rfl, hdigit⟩ := digit_head hread
  have hne : cs ≠ [] := by
    rintro rfl
    cases hsign
  have hword : c :: rest ≠ "Infinity".toList := by
    intro heq
    rw [(List.cons.inj heq).1] at hdigit
    exact absurd hdigit (by decide)
  unfold JsNumber.ofText
  rw [if_neg hne, hsign]
  dsimp only
  rw [if_neg hword, readDecimal_of_readUnsigned hread]

/-- A rendered finite number is read back. -/
theorem ofText_renderSigned {x : JsNumber} (h : x.isFinite = true) : JsNumber.ofText x.renderSigned = x := by
  cases x with
  | finite d =>
    have hread := readNumber_render (x := .finite d) rfl (show NumberEnds [] by simp [NumberEnds])
    rw [List.append_nil] at hread
    exact ofText_of_readNumber hread
  | negZero => decide
  | infinity neg => cases h
  | nan => cases h

/-! ### What a number is written with -/

private theorem mem_of_scanDigits {c : Char} (hc : digitVal? c = none) {cs rest : List Char} {ds : List Nat}
    (h : scanDigits cs = (ds, rest)) (hmem : c ∈ cs) : c ∈ rest := by
  induction cs generalizing ds with
  | nil => cases hmem
  | cons d cs ih =>
    unfold scanDigits at h
    cases hd : digitVal? d with
    | none =>
      rw [hd] at h
      cases h
      exact hmem
    | some n =>
      rw [hd] at h
      obtain ⟨-, hrest⟩ := Prod.mk.inj h
      rcases List.mem_cons.1 hmem with rfl | hmem
      · rw [hc] at hd
        cases hd
      · exact ih (Prod.ext rfl hrest) hmem

private theorem mem_of_scanFraction {c : Char} (hc : digitVal? c = none) (hdot : c ≠ '.') {cs rest : List Char}
    {ds : List Nat} (h : scanFraction cs = (ds, rest)) (hmem : c ∈ cs) : c ∈ rest := by
  unfold scanFraction at h
  split at h
  · rcases List.mem_cons.1 hmem with rfl | hmem
    · exact absurd rfl hdot
    · exact mem_of_scanDigits hc h hmem
  · cases h
    exact hmem

/-- A character that no decimal literal contains. -/
def Foreign (c : Char) : Prop :=
  digitVal? c = none ∧ c ≠ '.' ∧ c ≠ 'e' ∧ c ≠ 'E' ∧ c ≠ '-' ∧ c ≠ '+'

private theorem mem_of_readExponentDigits {c : Char} (hc : Foreign c) {neg : Bool} {cs rest : List Char} {n : Int}
    (h : readExponentDigits neg cs = some (n, rest)) (hmem : c ∈ cs) : c ∈ rest := by
  unfold readExponentDigits at h
  split at h
  · cases h
  · rename_i hscan
    cases h
    exact mem_of_scanDigits hc.1 hscan hmem

private theorem mem_of_readExponentSign {c : Char} (hc : Foreign c) {cs rest : List Char} {n : Int}
    (h : readExponentSign cs = some (n, rest)) (hmem : c ∈ cs) : c ∈ rest := by
  unfold readExponentSign at h
  split at h
  · rcases List.mem_cons.1 hmem with heq | hmem
    · exact absurd heq hc.2.2.2.2.1
    · exact mem_of_readExponentDigits hc h hmem
  · rcases List.mem_cons.1 hmem with heq | hmem
    · exact absurd heq hc.2.2.2.2.2
    · exact mem_of_readExponentDigits hc h hmem
  · exact mem_of_readExponentDigits hc h hmem

private theorem mem_of_readExponent {c : Char} (hc : Foreign c) {cs rest : List Char} {n : Int}
    (h : readExponent cs = some (n, rest)) (hmem : c ∈ cs) : c ∈ rest := by
  unfold readExponent at h
  split at h
  · rcases List.mem_cons.1 hmem with heq | hmem
    · exact absurd heq hc.2.2.1
    · exact mem_of_readExponentSign hc h hmem
  · rcases List.mem_cons.1 hmem with heq | hmem
    · exact absurd heq hc.2.2.2.1
    · exact mem_of_readExponentSign hc h hmem
  · cases h
    exact hmem

private theorem readDecimal_of_foreign {c : Char} (hc : Foreign c) {neg : Bool} {cs : List Char} (hmem : c ∈ cs) :
    readDecimal neg cs = none := by
  unfold readDecimal
  cases hint : scanDigits cs with
  | mk int rest₁ =>
    cases hfrac : scanFraction rest₁ with
    | mk frac rest₂ =>
      have hin : c ∈ rest₂ := mem_of_scanFraction hc.1 hc.2.1 hfrac (mem_of_scanDigits hc.1 hint hmem)
      dsimp only
      rw [hfrac]
      dsimp only
      split
      · rfl
      · split
        · rename_i hexp
          exact absurd (mem_of_readExponent hc hexp hin) List.not_mem_nil
        · rfl

/-- A rendered finite number begins, and none of its characters is foreign. -/
theorem renderSigned_chars {x : JsNumber} (h : x.isFinite = true) :
    x.renderSigned ≠ [] ∧ ∀ c, Foreign c → c ∉ x.renderSigned := by
  cases x with
  | finite d =>
    have hread := readNumber_render (x := .finite d) rfl (show NumberEnds [] by simp [NumberEnds])
    rw [List.append_nil] at hread
    show (JsNumber.finite d).render ≠ [] ∧ ∀ c, Foreign c → c ∉ (JsNumber.finite d).render
    have hbody : ∀ {neg : Bool} {cs : List Char}, readUnsigned neg cs = some (.finite d, []) →
        ∀ c, Foreign c → c ∉ cs := by
      intro neg cs hunsigned c hc hmem
      have hnone : readDecimal neg cs = none := readDecimal_of_foreign hc hmem
      rw [readDecimal_of_readUnsigned hunsigned] at hnone
      cases hnone
    refine ⟨?_, fun c hc hmem => ?_⟩
    · intro hnil
      rw [hnil] at hread
      cases hread
    · unfold readNumber at hread
      split at hread
      · rename_i heq
        rw [heq] at hmem
        rcases List.mem_cons.1 hmem with rfl | hmem
        · exact hc.2.2.2.2.1 rfl
        · exact hbody hread c hc hmem
      · exact hbody hread c hc hmem
  | negZero =>
    refine ⟨by decide, fun c hc hmem => ?_⟩
    simp only [JsNumber.renderSigned, List.mem_cons, List.not_mem_nil, or_false] at hmem
    rcases hmem with rfl | rfl
    · exact hc.2.2.2.2.1 rfl
    · exact absurd hc.1 (by decide)
  | infinity neg => cases h
  | nan => cases h

private theorem readRadix_of_quote {cs : List Char} (h : '"' ∈ cs) : readRadix cs = none := by
  have hmap : ∀ (base : Nat) (ds : List Char), '"' ∈ ds →
      (ds.mapM fun d => (hexVal? d).filter fun n => decide (n < base)) = none := by
    intro base ds hmem
    induction ds with
    | nil => cases hmem
    | cons d ds ih =>
      rw [List.mapM_cons]
      rcases List.mem_cons.1 hmem with rfl | hmem
      · rfl
      · rw [ih hmem]
        cases (hexVal? d).filter fun n => decide (n < base) <;> rfl
  unfold readRadix
  split
  · rename_i c d ds
    rcases List.mem_cons.1 h with heq | h
    · cases heq
    · rcases List.mem_cons.1 h with rfl | h
      · have hbase : baseOf '"' = 0 := by decide
        rw [hbase, List.mapM_cons]
        cases hexVal? d with
        | none => rfl
        | some n => simp
      · rw [hmap _ _ h]
        rfl
  · rfl

/-- A text with a quote in it is not a number. -/
theorem ofText_of_quote {cs : List Char} (h : '"' ∈ cs) : JsNumber.ofText cs = .nan := by
  have hforeign : Foreign '"' := ⟨by decide, by decide, by decide, by decide, by decide, by decide⟩
  have hne : cs ≠ [] := List.ne_nil_of_mem h
  have hbody : '"' ∈ (splitSign cs).2 := by
    unfold splitSign
    split
    · exact (List.mem_cons.1 h).resolve_left (by decide)
    · exact (List.mem_cons.1 h).resolve_left (by decide)
    · exact h
  have hword : (splitSign cs).2 ≠ "Infinity".toList := by
    intro heq
    rw [heq] at hbody
    exact absurd hbody (by decide)
  unfold JsNumber.ofText
  rw [if_neg hne]
  cases hsign : splitSign cs with
  | mk neg body =>
    rw [hsign] at hbody hword
    dsimp only
    rw [if_neg hword, readDecimal_of_foreign hforeign hbody, readRadix_of_quote h]
    rfl

/-! ### Integers -/

/-- The integer that a number is, where `Number.isInteger` holds. -/
def JsNumber.integer? : JsNumber → Option Int
  | .finite d => if 0 ≤ d.exponent then some (d.mantissa * 10 ^ d.exponent.toNat) else none
  | .negZero => some 0
  | _ => none

private theorem showDigits_digitsOf {n : Nat} (h : 0 < n) : showDigits (digitsOf n) = Nat.toDigits 10 n := by
  induction n using Nat.strong_induction_on with
  | _ n ih =>
    have hstep : showDigits (digitsOf n) = showDigits (digitsOf (n / 10)) ++ [Nat.digitChar (n % 10)] := by
      unfold digitsOf
      rw [Nat.digits_def' (by decide) h, List.reverse_cons, showDigits_append]
      rfl
    rw [hstep, Nat.toDigits_eq_if (by decide)]
    split
    · rename_i hlt
      rw [Nat.div_eq_of_lt hlt, Nat.mod_eq_of_lt hlt]
      rfl
    · rw [ih _ (by omega) (by omega)]

private theorem layout_of_digits {ds : List Nat} {n : Int} (hlen : (ds.length : Int) ≤ n) (hds : ds ≠ [])
    (hdigits : (layout ds n).all Char.isDigit = true) :
    layout ds n = showDigits (ds ++ List.replicate (n - ds.length).toNat 0) := by
  have hpos : 0 < ds.length := List.length_pos_iff.2 hds
  have hexp : 'e' ∉ layout ds n := fun hmem => absurd (List.all_eq_true.1 hdigits _ hmem) (by decide)
  unfold layout at hexp ⊢
  split
  · rfl
  rename_i hlong
  rw [if_neg hlong] at hexp
  split at hexp
  · omega
  split at hexp
  · omega
  exfalso
  match ds, hds with
  | [d], _ => exact hexp (by simp [renderExponent])
  | d :: e :: ds, _ => exact hexp (by simp [renderExponent])

/-- An integer that is written with digits only is written as its value. -/
theorem JsNumber.render_of_digits {x : JsNumber} {n : Int} (hn : x.integer? = some n) (h0 : 0 ≤ n)
    (hdigits : x.render.all Char.isDigit = true) : String.ofList x.render = toString n.toNat := by
  have hzero : String.ofList ['0'] = toString (0 : Int).toNat := by decide
  cases x with
  | finite d =>
    simp only [integer?] at hn
    split at hn
    · rename_i hexp
      cases hn
      change d.render.all Char.isDigit = true at hdigits
      change String.ofList d.render = _
      unfold Decimal.render at hdigits ⊢
      split
      · rename_i hm
        rw [hm, Int.zero_mul]
        exact hzero
      · rename_i hm
        rw [if_neg hm] at hdigits
        have hpow : (0 : Int) < 10 ^ d.exponent.toNat := by positivity
        have hpos : 0 < d.mantissa := by
          refine lt_of_le_of_ne ?_ (Ne.symm hm)
          by_contra hneg
          exact absurd (mul_neg_of_neg_of_pos (not_le.1 hneg) hpow) (not_lt.2 h0)
        obtain ⟨m, hmeq⟩ := Int.eq_ofNat_of_zero_le hpos.le
        have hmpos : 0 < m := by omega
        have hvalue : (d.mantissa * 10 ^ d.exponent.toNat).toNat = 10 ^ d.exponent.toNat * m := by
          have hcast : d.mantissa * 10 ^ d.exponent.toNat = ((10 ^ d.exponent.toNat * m : Nat) : Int) := by
            rw [hmeq]
            push_cast
            ring
          rw [hcast, Int.toNat_natCast]
        have hsign : ¬d.mantissa < 0 := by omega
        simp only [if_neg hsign] at hdigits ⊢
        rw [hmeq, Int.natAbs_natCast] at hdigits ⊢
        rw [← hmeq, hvalue, layout_of_digits (by omega) (digitsOf_ne_nil hmpos) hdigits,
          Nat.toString_eq_ofList_toDigits, ← showDigits_digitsOf (by positivity)]
        have hrep : (d.exponent + (digitsOf m).length - (digitsOf m).length).toNat = d.exponent.toNat := by
          rw [Int.add_sub_cancel]
        rw [hrep]
        unfold digitsOf
        rw [Nat.digits_base_pow_mul (by decide) hmpos, List.reverse_append, List.reverse_replicate]
    · cases hn
  | negZero =>
    cases hn
    exact hzero
  | infinity neg => cases hn
  | nan => cases hn
end Opsia.Json
