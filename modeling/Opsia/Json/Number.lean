import Mathlib.Data.Nat.Digits.Lemmas
import Mathlib.Tactic.Ring

/-!
# Numbers and their JSON text

A finite double is determined by its shortest decimal rendering, so a finite number is a decimal
`mantissa * 10 ^ exponent` in lowest terms; negative zero, NaN and the infinities are kept apart.  Numbers are exact:
rounding a literal to the nearest double is not modelled.  `JsNumber.render` is the decimal rendering of the language
(four layouts, chosen by the position of the decimal point) and `readNumber` the JSON number grammar; the main result
is that reading inverts rendering (`readNumber_render`).
-/

namespace Opsia.Json

/-- The decimal `mantissa * 10 ^ exponent`, in lowest terms. -/
structure Decimal where
  mantissa : Int
  exponent : Int
  normal : mantissa % 10 ≠ 0 ∨ (mantissa = 0 ∧ exponent = 0)
deriving DecidableEq

/-- Moves the trailing zeros of a mantissa into the exponent. -/
def stripZeros : Nat → Nat → Int → Nat × Int
  | 0, m, e => (m, e)
  | fuel + 1, m, e => if m % 10 = 0 then stripZeros fuel (m / 10) (e + 1) else (m, e)

theorem stripZeros_normal {fuel m : Nat} (hm : 0 < m) (hf : m ≤ fuel) (e : Int) :
    (stripZeros fuel m e).1 % 10 ≠ 0 := by
  induction fuel generalizing m e with
  | zero => omega
  | succ fuel ih =>
    unfold stripZeros
    split
    · exact ih (by omega) (by omega) (e + 1)
    · assumption

private theorem stripZeros_of_normal {fuel m : Nat} (hm : m % 10 ≠ 0) (e : Int) :
    stripZeros fuel m e = (m, e) := by
  cases fuel with
  | zero => rfl
  | succ fuel => simp [stripZeros, hm]

private theorem stripZeros_mul_pow {m : Nat} (hm : m % 10 ≠ 0) (z : Nat) :
    ∀ (fuel : Nat) (e : Int), z ≤ fuel → stripZeros fuel (m * 10 ^ z) e = (m, e + z) := by
  induction z with
  | zero => intro fuel e _; simp [stripZeros_of_normal hm]
  | succ z ih =>
    intro fuel e hf
    obtain ⟨fuel, rfl⟩ : ∃ f, fuel = f + 1 := ⟨fuel - 1, by omega⟩
    have h0 : m * 10 ^ (z + 1) = m * 10 ^ z * 10 := by ring
    have hmod : m * 10 ^ (z + 1) % 10 = 0 := by rw [h0, Nat.mul_mod_left]
    have hdiv : m * 10 ^ (z + 1) / 10 = m * 10 ^ z := by rw [h0, Nat.mul_div_cancel _ (by omega)]
    rw [stripZeros, if_pos hmod, hdiv, ih fuel _ (by omega)]
    congr 1
    push_cast
    ring

/-- The decimal `± m * 10 ^ e` for a positive `m`. -/
def Decimal.ofParts (neg : Bool) (m : Nat) (e : Int) : Decimal :=
  if hm : 0 < m then
    { mantissa := if neg then -((stripZeros m m e).1 : Int) else (stripZeros m m e).1
      exponent := (stripZeros m m e).2
      normal := by
        have h := stripZeros_normal hm (Nat.le_refl m) e
        left
        split <;> omega }
  else { mantissa := 0, exponent := 0, normal := Or.inr ⟨rfl, rfl⟩ }

/-- A safe integer that is at least zero. -/
abbrev SafeNat := {n : Nat // n ≤ 9007199254740991}

theorem one_safe : 1 ≤ 9007199254740991 := by decide

/-- A number of the language. -/
inductive JsNumber
  | finite (d : Decimal)
  | negZero
  | infinity (neg : Bool)
  | nan
deriving DecidableEq

namespace JsNumber

def ofNat (n : Nat) : JsNumber := finite (Decimal.ofParts false n 0)

/-- `Number.isFinite`. -/
def isFinite : JsNumber → Bool
  | finite _ => true
  | negZero => true
  | _ => false

/-- The integer value of a number for which `Number.isSafeInteger` holds. -/
def safeInteger? : JsNumber → Option Int
  | finite d =>
    if 0 ≤ d.exponent ∧ d.exponent ≤ 15 then
      let n := d.mantissa * 10 ^ d.exponent.toNat
      if n.natAbs ≤ 9007199254740991 then some n else none
    else none
  | negZero => some 0
  | _ => none

/-- The value of a number that is a safe integer and at least zero. -/
def safeNat? (x : JsNumber) : Option SafeNat :=
  match x.safeInteger? with
  | some n => if h : 0 ≤ n ∧ n.natAbs ≤ 9007199254740991 then some ⟨n.toNat, by omega⟩ else none
  | none => none

/-- `===` on numbers. -/
def strictEq : JsNumber → JsNumber → Bool
  | nan, _ => false
  | _, nan => false
  | negZero, y => decide (y = negZero) || decide (y = ofNat 0)
  | x, negZero => decide (x = ofNat 0)
  | x, y => decide (x = y)

/-- What remains of a number after a trip through its JSON text: negative zero loses its sign and the non-finite
numbers become `null` (`none`). -/
def throughText : JsNumber → Option JsNumber
  | finite d => some (finite d)
  | negZero => some (ofNat 0)
  | _ => none

end JsNumber

theorem stripZeros_value (fuel m : Nat) (e : Int) :
    ∃ z : Nat, (stripZeros fuel m e).2 = e + z ∧ (stripZeros fuel m e).1 * 10 ^ z = m := by
  induction fuel generalizing m e with
  | zero => exact ⟨0, by simp [stripZeros], by simp [stripZeros]⟩
  | succ fuel ih =>
    unfold stripZeros
    split
    · rename_i hm
      obtain ⟨z, h1, h2⟩ := ih (m / 10) (e + 1)
      refine ⟨z + 1, by rw [h1]; push_cast; omega, ?_⟩
      rw [pow_succ, ← mul_assoc, h2]
      omega
    · exact ⟨0, by simp, by simp⟩

/-- A safe integer is read back from the number it makes. -/
theorem JsNumber.safeNat?_ofNat (n : SafeNat) : (ofNat n).safeNat? = some n := by
  obtain ⟨n, hn⟩ := n
  by_cases h0 : 0 < n
  · obtain ⟨z, h1, h2⟩ := stripZeros_value n n 0
    have hpos : 0 < (stripZeros n n 0).1 := Nat.pos_of_ne_zero fun h => by rw [h, Nat.zero_mul] at h2; omega
    have hz : z ≤ 15 := by
      by_contra hz
      have : 10 ^ 16 ≤ 10 ^ z := Nat.pow_le_pow_right (by decide) (by omega)
      have := Nat.le_trans this (Nat.le_mul_of_pos_left _ hpos)
      rw [h2] at this
      omega
    have hval : ((stripZeros n n 0).1 : Int) * 10 ^ (0 + (z : Int)).toNat = n := by
      rw [Int.zero_add, Int.toNat_natCast]
      exact_mod_cast h2
    simp only [safeNat?, safeInteger?, ofNat, Decimal.ofParts, h0, dif_pos, h1, Bool.false_eq_true, if_false, hval]
    simp [hz, hn]
  · obtain rfl : n = 0 := by omega
    rfl

/-- A decimal that is a natural is what that natural makes. -/
private theorem ofParts_toNat {d : Decimal} (hexp : 0 ≤ d.exponent) (hval : 0 ≤ d.mantissa * 10 ^ d.exponent.toNat) :
    Decimal.ofParts false (d.mantissa * 10 ^ d.exponent.toNat).toNat 0 = d := by
  obtain ⟨mantissa, exponent, hnormal⟩ := d
  dsimp only at hexp hval ⊢
  rcases hnormal with hne | ⟨rfl, rfl⟩
  · have hpow : (0 : Int) < 10 ^ exponent.toNat := by positivity
    have hpos : 0 ≤ mantissa := by
      by_contra hneg
      have := mul_neg_of_neg_of_pos (show mantissa < 0 by omega) hpow
      omega
    obtain ⟨m, rfl⟩ := Int.eq_ofNat_of_zero_le hpos
    have hm : m % 10 ≠ 0 := by omega
    have htoNat : ((m : Int) * 10 ^ exponent.toNat).toNat = m * 10 ^ exponent.toNat := by
      have hcast : (m : Int) * 10 ^ exponent.toNat = ((m * 10 ^ exponent.toNat : Nat) : Int) := by
        push_cast
        rfl
      rw [hcast, Int.toNat_natCast]
    have hlt : 0 < m * 10 ^ exponent.toNat := Nat.mul_pos (by omega) (Nat.pow_pos (by decide))
    have hfuel : exponent.toNat ≤ m * 10 ^ exponent.toNat :=
      (Nat.le_of_lt (Nat.lt_pow_self (by decide : 1 < 10))).trans (Nat.le_mul_of_pos_left _ (by omega))
    have hstrip := stripZeros_mul_pow hm exponent.toNat (m * 10 ^ exponent.toNat) 0 hfuel
    rw [htoNat]
    unfold Decimal.ofParts
    rw [dif_pos hlt]
    simp only [hstrip, Bool.false_eq_true, if_false, Decimal.mk.injEq, true_and]
    omega
  · rfl

/-- A number that is a safe integer equals the number of that integer. -/
theorem JsNumber.strictEq_of_safeNat? {x : JsNumber} {n : SafeNat} (h : x.safeNat? = some n) :
    (ofNat n.val).strictEq x = true := by
  unfold safeNat? at h
  split at h
  · rename_i value hvalue
    split at h
    · rename_i hsafe
      cases h
      cases x with
      | finite d =>
        simp only [safeInteger?] at hvalue
        split at hvalue
        · rename_i hexp
          split at hvalue
          · cases hvalue
            simp [ofNat, ofParts_toNat hexp.1 hsafe.1, strictEq]
          · cases hvalue
        · cases hvalue
      | negZero =>
        cases hvalue
        rfl
      | infinity neg => cases hvalue
      | nan => cases hvalue
    · cases h
  · cases h

/-- The safe integer read from the number of a natural number is that number. -/
theorem JsNumber.eq_of_safeNat?_ofNat {n : Nat} {m : SafeNat} (h : (ofNat n).safeNat? = some m) : m.val = n := by
  by_cases hn : n ≤ 9007199254740991
  · have hm := safeNat?_ofNat ⟨n, hn⟩
    rw [h, Option.some.injEq] at hm
    rw [hm]
  · obtain ⟨z, h1, h2⟩ := stripZeros_value n n 0
    have h0 : 0 < n := by omega
    have hval : ((stripZeros n n 0).1 : Int) * 10 ^ (0 + (z : Int)).toNat = n := by
      rw [Int.zero_add, Int.toNat_natCast]
      exact_mod_cast h2
    simp only [safeNat?, safeInteger?, ofNat, Decimal.ofParts, h0, dif_pos, h1, Bool.false_eq_true, if_false, hval] at h
    simp [hn] at h

/-! ### Digits -/

/-- The decimal digits of a positive number, most significant first. -/
def digitsOf (m : Nat) : List Nat := (Nat.digits 10 m).reverse

/-- The number with the given decimal digits, most significant first. -/
def valueOf (ds : List Nat) : Nat := Nat.ofDigits 10 ds.reverse

def digitVal? (c : Char) : Option Nat := if c.isDigit then some (c.toNat - '0'.toNat) else none

theorem digitVal?_digitChar {d : Nat} (h : d < 10) : digitVal? (Nat.digitChar d) = some d := by
  revert h
  revert d
  decide

@[simp] theorem valueOf_digitsOf (m : Nat) : valueOf (digitsOf m) = m := by
  simp [valueOf, digitsOf, Nat.ofDigits_digits]

theorem valueOf_append (a b : List Nat) : valueOf (a ++ b) = valueOf a * 10 ^ b.length + valueOf b := by
  simp only [valueOf, List.reverse_append, Nat.ofDigits_append, List.length_reverse]
  ring

@[simp] theorem valueOf_replicate_zero (n : Nat) : valueOf (List.replicate n 0) = 0 := by
  induction n with
  | zero => rfl
  | succ n ih => rw [List.replicate_succ', valueOf_append, ih]; simp [valueOf]

theorem digitsOf_lt {m d : Nat} (h : d ∈ digitsOf m) : d < 10 :=
  Nat.digits_lt_base (by decide) (List.mem_reverse.1 h)

theorem digitsOf_ne_nil {m : Nat} (h : 0 < m) : digitsOf m ≠ [] := by
  simp [digitsOf, Nat.digits_ne_nil_iff_ne_zero]; omega

private theorem digitsOf_head_ne_zero {m : Nat} (h : 0 < m) {d : Nat} {ds : List Nat}
    (he : digitsOf m = d :: ds) : d ≠ 0 := by
  have hl := Nat.getLast_digit_ne_zero 10 (m := m) (by omega)
  have hn : Nat.digits 10 m ≠ [] := Nat.digits_ne_nil_iff_ne_zero.2 (by omega)
  have hr : Nat.digits 10 m = ds.reverse ++ [d] := by
    have := congrArg List.reverse he
    simpa [digitsOf] using this
  rw [List.getLast_congr hn (by simp) hr] at hl
  simpa using hl

/-- The longest prefix of digits, and what follows it. -/
def scanDigits : List Char → List Nat × List Char
  | [] => ([], [])
  | c :: cs =>
    match digitVal? c with
    | some d => (d :: (scanDigits cs).1, (scanDigits cs).2)
    | none => ([], c :: cs)

/-- The text does not begin with a character that could continue a number. -/
def NumberEnds (rest : List Char) : Prop :=
  ∀ c ∈ rest.head?, digitVal? c = none ∧ c ≠ '.' ∧ c ≠ 'e' ∧ c ≠ 'E'

def showDigits (ds : List Nat) : List Char := ds.map Nat.digitChar

@[simp] theorem showDigits_append (a b : List Nat) : showDigits (a ++ b) = showDigits a ++ showDigits b := by
  simp [showDigits]

theorem scanDigits_show {ds : List Nat} (hds : ∀ d ∈ ds, d < 10) {rest : List Char}
    (hr : ∀ c ∈ rest.head?, digitVal? c = none) : scanDigits (showDigits ds ++ rest) = (ds, rest) := by
  induction ds with
  | nil =>
    cases rest with
    | nil => rfl
    | cons c cs =>
      have := hr c (by simp)
      simp [showDigits, scanDigits, this]
  | cons d ds ih =>
    have hd := digitVal?_digitChar (hds d (by simp))
    have ih := ih (fun x hx => hds x (by simp [hx]))
    simp only [showDigits, List.map_cons, List.cons_append, scanDigits, hd] at ih ⊢
    rw [ih]

/-! ### Rendering -/

/-- The exponent part `e±n` of the exponential layout. -/
def renderExponent (n : Int) : List Char :=
  'e' :: (if n < 0 then '-' else '+') :: (if n = 0 then ['0'] else showDigits (digitsOf n.natAbs))

/-- The layout of the digits `ds` with the decimal point after position `n`. -/
def layout (ds : List Nat) (n : Int) : List Char :=
  if (ds.length : Int) ≤ n ∧ n ≤ 21 then
    showDigits (ds ++ List.replicate (n - ds.length).toNat 0)
  else if 0 < n ∧ n ≤ 21 then
    showDigits (ds.take n.toNat) ++ '.' :: showDigits (ds.drop n.toNat)
  else if -6 < n ∧ n ≤ 0 then
    '0' :: '.' :: showDigits (List.replicate (-n).toNat 0 ++ ds)
  else
    match ds with
    | [] => []
    | [d] => Nat.digitChar d :: renderExponent (n - 1)
    | d :: ds => Nat.digitChar d :: '.' :: (showDigits ds ++ renderExponent (n - 1))

def Decimal.render (d : Decimal) : List Char :=
  if d.mantissa = 0 then ['0']
  else
    let ds := digitsOf d.mantissa.natAbs
    let body := layout ds (d.exponent + ds.length)
    if d.mantissa < 0 then '-' :: body else body

/-- The text of a number in JSON: `null` for the non-finite ones. -/
def JsNumber.render : JsNumber → List Char
  | finite d => d.render
  | negZero => ['0']
  | _ => ['n', 'u', 'l', 'l']

/-! ### Reading -/

/-- The fraction part, if there is one. -/
def readFraction (cs : List Char) : Option (List Nat × List Char) :=
  match cs with
  | '.' :: cs =>
    match scanDigits cs with
    | ([], _) => none
    | (d :: ds, rest) => some (d :: ds, rest)
  | _ => some ([], cs)

/-- The unsigned digits of an exponent part. -/
def readExponentDigits (neg : Bool) (cs : List Char) : Option (Int × List Char) :=
  match scanDigits cs with
  | ([], _) => none
  | (d :: ds, rest) => some (if neg then -(valueOf (d :: ds) : Int) else valueOf (d :: ds), rest)

def readExponentSign (cs : List Char) : Option (Int × List Char) :=
  match cs with
  | '-' :: cs => readExponentDigits true cs
  | '+' :: cs => readExponentDigits false cs
  | cs => readExponentDigits false cs

/-- The exponent part, if there is one. -/
def readExponent (cs : List Char) : Option (Int × List Char) :=
  match cs with
  | 'e' :: cs => readExponentSign cs
  | 'E' :: cs => readExponentSign cs
  | cs => some (0, cs)

/-- The number with the given sign, integer and fraction digits and exponent. -/
def assemble (neg : Bool) (int frac : List Nat) (exp : Int) : JsNumber :=
  let m := valueOf (int ++ frac)
  if m = 0 then (if neg then .negZero else .ofNat 0)
  else .finite (Decimal.ofParts neg m (exp - frac.length))

/-- A JSON number without its sign. -/
def readUnsigned (neg : Bool) (cs : List Char) : Option (JsNumber × List Char) :=
  match scanDigits cs with
  | ([], _) => none
  | (0 :: _ :: _, _) => none
  | (int, rest) => do
    let (frac, rest) ← readFraction rest
    let (exp, rest) ← readExponent rest
    some (assemble neg int frac exp, rest)

/-- A JSON number at the start of the text, and what follows it. -/
def readNumber (cs : List Char) : Option (JsNumber × List Char) :=
  match cs with
  | '-' :: cs => readUnsigned true cs
  | cs => readUnsigned false cs

/-! ### Reading inverts rendering -/

private theorem readFraction_of_ends {rest : List Char} (h : NumberEnds rest) : readFraction rest = some ([], rest) := by
  cases rest with
  | nil => rfl
  | cons c cs =>
    have hc := (h c (by simp)).2.1
    unfold readFraction
    split
    · rename_i he; simp at he; exact absurd he.1 hc
    · rfl

private theorem readExponent_of_ends {rest : List Char} (h : NumberEnds rest) : readExponent rest = some (0, rest) := by
  cases rest with
  | nil => rfl
  | cons c cs =>
    have hc := (h c (by simp)).2.2
    unfold readExponent
    split
    · rename_i he; simp at he; exact absurd he.1 hc.1
    · rename_i he; simp at he; exact absurd he.1 hc.2
    · rfl

private theorem NumberEnds.digit {rest : List Char} (h : NumberEnds rest) : ∀ c ∈ rest.head?, digitVal? c = none :=
  fun c hc => (h c hc).1

private theorem scanDigits_show_cons {ds : List Nat} (hds : ∀ d ∈ ds, d < 10) {c : Char} {cs : List Char}
    (hc : digitVal? c = none) : scanDigits (showDigits ds ++ c :: cs) = (ds, c :: cs) :=
  scanDigits_show hds (by simpa using hc)

private theorem readExponentDigits_show (neg : Bool) {m : Nat} (hm : 0 < m) {rest : List Char} (h : NumberEnds rest) :
    readExponentDigits neg (showDigits (digitsOf m) ++ rest) =
      some (if neg then -(m : Int) else m, rest) := by
  unfold readExponentDigits
  rw [scanDigits_show (fun _ => digitsOf_lt) h.digit]
  cases hd : digitsOf m with
  | nil => exact absurd hd (digitsOf_ne_nil hm)
  | cons d ds => simp only [← hd, valueOf_digitsOf]

private theorem readExponent_render {n : Int} (hn : n ≠ 0) {rest : List Char} (h : NumberEnds rest) :
    readExponent (renderExponent n ++ rest) = some (n, rest) := by
  have hpos : 0 < n.natAbs := Int.natAbs_pos.2 hn
  by_cases hneg : n < 0
  · simp only [renderExponent, hn, hneg, if_true, if_false, List.cons_append, readExponent, readExponentSign]
    rw [readExponentDigits_show true hpos h]
    simp only [if_true]
    congr 2
    omega
  · simp only [renderExponent, hn, hneg, if_false, List.cons_append, readExponent, readExponentSign]
    rw [readExponentDigits_show false hpos h]
    simp only [Bool.false_eq_true, if_false]
    congr 2
    omega

private theorem readFraction_exponent (n : Int) (rest : List Char) :
    readFraction (renderExponent n ++ rest) = some ([], renderExponent n ++ rest) := rfl

/-- An integer part that the grammar accepts: not empty, and no leading zero. -/
private def IntPart (ds : List Nat) : Prop := ∃ d rest, ds = d :: rest ∧ (d ≠ 0 ∨ rest = [])

private theorem readUnsigned_of_scan {neg : Bool} {int frac : List Nat} {exp : Int} {cs rest₁ rest₂ rest₃ : List Char}
    (hint : IntPart int) (h1 : scanDigits cs = (int, rest₁)) (h2 : readFraction rest₁ = some (frac, rest₂))
    (h3 : readExponent rest₂ = some (exp, rest₃)) :
    readUnsigned neg cs = some (assemble neg int frac exp, rest₃) := by
  obtain ⟨d, ds, rfl, hd⟩ := hint
  unfold readUnsigned
  rw [h1]
  rcases hd with hd | rfl
  · cases d with
    | zero => exact absurd rfl hd
    | succ d => simp [h2, h3]
  · simp [h2, h3]

private theorem digitsOf_intPart {m : Nat} (hm : 0 < m) (tail : List Nat) : IntPart (digitsOf m ++ tail) := by
  cases hd : digitsOf m with
  | nil => exact absurd hd (digitsOf_ne_nil hm)
  | cons d ds => exact ⟨d, ds ++ tail, rfl, Or.inl (digitsOf_head_ne_zero hm hd)⟩

private theorem readFraction_show {ds : List Nat} (hds : ∀ d ∈ ds, d < 10) (hne : ds ≠ []) {rest : List Char}
    (hr : ∀ c ∈ rest.head?, digitVal? c = none) :
    readFraction ('.' :: (showDigits ds ++ rest)) = some (ds, rest) := by
  unfold readFraction
  simp only [scanDigits_show hds hr]
  cases ds with
  | nil => exact absurd rfl hne
  | cons d ds => rfl

private theorem ofParts_mul_pow {m : Nat} (hm : m % 10 ≠ 0) (neg : Bool) (z : Nat) (e : Int) :
    (Decimal.ofParts neg (m * 10 ^ z) e).mantissa = (if neg then -(m : Int) else m) ∧
    (Decimal.ofParts neg (m * 10 ^ z) e).exponent = e + z := by
  have hpos : 0 < m * 10 ^ z := Nat.mul_pos (by omega) (Nat.pow_pos (by omega))
  have hz : z ≤ m * 10 ^ z :=
    Nat.le_trans (Nat.le_of_lt (Nat.lt_pow_self (by decide))) (Nat.le_mul_of_pos_left _ (by omega))
  have hs := stripZeros_mul_pow hm z _ e hz
  simp [Decimal.ofParts, hpos, hs]

private theorem Decimal.ext' {a b : Decimal} (h1 : a.mantissa = b.mantissa) (h2 : a.exponent = b.exponent) : a = b := by
  cases a; cases b; simp_all

/-- Digits whose value is `d`'s mantissa, shifted by zeros, are assembled into `d`. -/
private theorem assemble_eq {d : Decimal} (hd : d.mantissa ≠ 0) {int frac : List Nat} {exp : Int} (z : Nat)
    (hv : valueOf (int ++ frac) = d.mantissa.natAbs * 10 ^ z) (he : exp - frac.length + z = d.exponent) :
    assemble (decide (d.mantissa < 0)) int frac exp = .finite d := by
  have hm : d.mantissa.natAbs % 10 ≠ 0 := by
    rcases d.normal with h | h
    · omega
    · exact absurd h.1 hd
  have hpos : valueOf (int ++ frac) ≠ 0 := by
    rw [hv]
    exact Nat.ne_of_gt (Nat.mul_pos (by omega) (Nat.pow_pos (by omega)))
  unfold assemble
  simp only [hpos, if_false]
  congr 1
  obtain ⟨h1, h2⟩ := ofParts_mul_pow hm (decide (d.mantissa < 0)) z (exp - frac.length)
  rw [hv]
  refine Decimal.ext' ?_ (by rw [h2]; exact he)
  rw [h1]
  by_cases hneg : d.mantissa < 0
  · simp only [hneg, decide_true, if_true]; omega
  · simp only [hneg, decide_false, Bool.false_eq_true, if_false]; omega

/-- The unsigned digits of a decimal are read back, whatever the layout. -/
private theorem readUnsigned_layout {d : Decimal} (hd : d.mantissa ≠ 0) {rest : List Char} (h : NumberEnds rest) :
    readUnsigned (decide (d.mantissa < 0))
      (layout (digitsOf d.mantissa.natAbs) (d.exponent + (digitsOf d.mantissa.natAbs).length) ++ rest) =
      some (.finite d, rest) := by
  have hpos : 0 < d.mantissa.natAbs := Int.natAbs_pos.2 hd
  have hlt : ∀ x ∈ digitsOf d.mantissa.natAbs, x < 10 := fun _ => digitsOf_lt
  have hval : valueOf (digitsOf d.mantissa.natAbs) = d.mantissa.natAbs := valueOf_digitsOf _
  have hint := digitsOf_intPart hpos
  generalize hds : digitsOf d.mantissa.natAbs = ds at *
  have hne : ds ≠ [] := hds ▸ digitsOf_ne_nil hpos
  unfold layout
  split
  · -- the digits, then zeros up to the point
    rename_i hn
    have hz : (d.exponent + ds.length - ds.length).toNat = d.exponent.toNat := by congr 1; omega
    rw [hz, readUnsigned_of_scan (hint _) (scanDigits_show ?_ h.digit) (readFraction_of_ends h) (readExponent_of_ends h)]
    · rw [assemble_eq hd d.exponent.toNat]
      · rw [List.append_nil, valueOf_append, hval]; simp
      · simp; omega
    · intro x hx
      rcases List.mem_append.1 hx with hx | hx
      · exact hlt x hx
      · rw [(List.mem_replicate.1 hx).2]; decide
  split
  · -- the point lies inside the digits
    rename_i hn
    have hk : (d.exponent + ds.length).toNat < ds.length := by omega
    have htake : IntPart (ds.take (d.exponent + ds.length).toNat) := by
      have hd0 := hint []
      rw [List.append_nil] at hd0
      obtain ⟨x, xs, rfl, hx⟩ := hd0
      obtain ⟨k, hk'⟩ : ∃ k, (d.exponent + (x :: xs).length).toNat = k + 1 :=
        ⟨(d.exponent + (x :: xs).length).toNat - 1, by omega⟩
      rw [hk', List.take_succ_cons]
      rcases hx with hx | hx
      · exact ⟨x, _, rfl, Or.inl hx⟩
      · subst hx; simp only [List.length_singleton] at hk hn; omega
    rw [List.append_assoc, List.cons_append,
      readUnsigned_of_scan htake (scanDigits_show_cons (fun x hx => hlt x (List.mem_of_mem_take hx)) (by decide))
        (readFraction_show (fun x hx => hlt x (List.mem_of_mem_drop hx)) (by simp; omega) h.digit)
        (readExponent_of_ends h)]
    rw [assemble_eq hd 0]
    · rw [List.take_append_drop, hval]; simp
    · simp; omega
  split
  · -- the point lies before the digits
    rename_i hn
    have hzero : showDigits [0] = ['0'] := by decide
    rw [List.cons_append, List.cons_append, ← List.singleton_append (l := _ :: _), ← hzero,
      readUnsigned_of_scan (show IntPart [0] from ⟨0, [], rfl, Or.inr rfl⟩)
        (scanDigits_show_cons (by simp) (by decide)) (readFraction_show ?_ (by simp [hne]) h.digit)
        (readExponent_of_ends h)]
    · rw [assemble_eq hd 0]
      · rw [← List.append_assoc, valueOf_append, hval]
        have : valueOf ([0] ++ List.replicate (-(d.exponent + ds.length)).toNat 0) = 0 := by
          rw [valueOf_append, valueOf_replicate_zero]; simp [valueOf]
        rw [this]; simp
      · simp; omega
    · intro x hx
      rcases List.mem_append.1 hx with hx | hx
      · rw [(List.mem_replicate.1 hx).2]; decide
      · exact hlt x hx
  · -- the exponential layout
    rename_i h1 h2 h3
    have hexp : d.exponent + ds.length - 1 ≠ 0 := by omega
    match ds, hne with
    | [x], _ =>
      have hx : showDigits [x] = [Nat.digitChar x] := rfl
      simp only [List.cons_append]
      rw [← List.singleton_append (l := _ ++ _), ← hx,
        readUnsigned_of_scan (show IntPart [x] from ⟨x, [], rfl, Or.inr rfl⟩)
          (scanDigits_show hlt (by simp [renderExponent]; decide)) (readFraction_exponent _ _)
          (readExponent_render hexp h)]
      rw [assemble_eq hd 0]
      · rw [List.append_nil, hval]; simp
      · simp
    | x :: y :: ys, _ =>
      have hx : showDigits [x] = [Nat.digitChar x] := rfl
      obtain ⟨x', xs', he, hx'⟩ := hint []
      simp only [List.append_nil, List.cons.injEq] at he
      simp only [List.cons_append, List.append_assoc]
      rw [← List.singleton_append (l := _ :: _), ← hx,
        readUnsigned_of_scan (show IntPart [x] from ⟨x, [], rfl, Or.inr rfl⟩)
          (scanDigits_show_cons (fun z hz => hlt z (by simp at hz; simp [hz])) (by decide))
          (readFraction_show (fun z hz => hlt z (List.mem_cons_of_mem _ hz)) (by simp) (by simp [renderExponent]; decide))
          (readExponent_render hexp h)]
      rw [assemble_eq hd 0]
      · rw [List.singleton_append, hval]; simp
      · simp only [List.length_cons]; push_cast; omega

/-- The text of a finite number does not begin like a negative one unless it is negative. -/
private theorem layout_head_ne_minus {m : Nat} (hm : 0 < m) (n : Int) (rest : List Char) :
    ∀ cs, layout (digitsOf m) n ++ rest ≠ '-' :: cs := by
  intro cs he
  have hdig : ∀ {x : Nat}, x < 10 → Nat.digitChar x ≠ '-' := by decide
  obtain ⟨d, ds, hd⟩ : ∃ d ds, digitsOf m = d :: ds := List.exists_cons_of_ne_nil (digitsOf_ne_nil hm)
  have hlt : d < 10 := digitsOf_lt (m := m) (by simp [hd])
  unfold layout at he
  rw [hd] at he
  split at he
  · exact hdig hlt (List.cons.inj he).1
  split at he
  · rename_i hn
    obtain ⟨k, hk⟩ : ∃ k, n.toNat = k + 1 := ⟨n.toNat - 1, by omega⟩
    rw [hk] at he
    exact hdig hlt (List.cons.inj he).1
  split at he
  · exact absurd (List.cons.inj he).1 (by decide)
  · cases ds with
    | nil => exact hdig hlt (List.cons.inj he).1
    | cons y ys => exact hdig hlt (List.cons.inj he).1

theorem Decimal.read_render (d : Decimal) {rest : List Char} (h : NumberEnds rest) :
    readNumber (d.render ++ rest) = some (.finite d, rest) := by
  unfold Decimal.render
  split
  · rename_i h0
    have he : d = Decimal.ofParts false 0 0 := by
      refine Decimal.ext' h0 ?_
      rcases d.normal with hn | hn
      · rw [h0] at hn; exact absurd rfl hn
      · exact hn.2
    have hzero : showDigits [0] = ['0'] := by decide
    have hs : scanDigits ('0' :: rest) = ([0], rest) := by
      have := scanDigits_show (show ∀ d ∈ [0], d < 10 by simp) h.digit
      rwa [hzero] at this
    show readUnsigned false ('0' :: rest) = _
    rw [readUnsigned_of_scan ⟨0, [], rfl, Or.inr rfl⟩ hs (readFraction_of_ends h) (readExponent_of_ends h), he]
    rfl
  · rename_i h0
    have hread := readUnsigned_layout h0 h
    by_cases hneg : d.mantissa < 0
    · simp only [hneg, if_true, decide_true] at hread ⊢
      exact hread
    · simp only [hneg, if_false, decide_false] at hread ⊢
      unfold readNumber
      split
      · rename_i cs he
        exact absurd he (layout_head_ne_minus (Int.natAbs_pos.2 h0) _ _ _)
      · exact hread

/-- Reading the text of a finite number gives the number back, up to the sign of zero. -/
theorem readNumber_render {x y : JsNumber} (hx : x.throughText = some y) {rest : List Char} (h : NumberEnds rest) :
    readNumber (x.render ++ rest) = some (y, rest) := by
  cases x with
  | finite d =>
    simp only [JsNumber.throughText, Option.some.injEq] at hx
    subst hx
    exact d.read_render h
  | negZero =>
    simp only [JsNumber.throughText, Option.some.injEq] at hx
    subst hx
    exact (Decimal.ofParts false 0 0).read_render h
  | infinity neg => simp [JsNumber.throughText] at hx
  | nan => simp [JsNumber.throughText] at hx

/-- A number begins with its sign or with a digit. -/
theorem readNumber_head {cs : List Char} {r : JsNumber × List Char} (h : readNumber cs = some r) :
    ∃ c rest, cs = c :: rest ∧ (c = '-' ∨ (digitVal? c).isSome) := by
  cases cs with
  | nil => simp [readNumber, readUnsigned, scanDigits] at h
  | cons c rest =>
    refine ⟨c, rest, rfl, ?_⟩
    by_cases hc : c = '-'
    · exact Or.inl hc
    · right
      cases hd : digitVal? c with
      | some d => rfl
      | none =>
        have hs : scanDigits (c :: rest) = ([], c :: rest) := by simp [scanDigits, hd]
        have hu : readUnsigned false (c :: rest) = none := by unfold readUnsigned; rw [hs]
        have hn : readNumber (c :: rest) = readUnsigned false (c :: rest) := by
          unfold readNumber
          split
          · rename_i he; exact absurd (List.cons.inj he).1 hc
          · rfl
        rw [hn, hu] at h
        cases h

example : (JsNumber.finite (Decimal.ofParts true 1500 (-4))).render = "-0.15".toList := by decide
example : (JsNumber.finite (Decimal.ofParts false 125 20)).render = "1.25e+22".toList := by decide

end Opsia.Json
