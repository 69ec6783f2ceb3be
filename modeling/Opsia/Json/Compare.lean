import Opsia.Json.Number

/-!
# Comparing numbers

`<=` on numbers, and what `===` says when one of the numbers is a natural.
-/

namespace Opsia.Json

/-- `<=` on decimals. -/
def Decimal.lessEq (x y : Decimal) : Bool :=
  let e := min x.exponent y.exponent
  decide (x.mantissa * 10 ^ (x.exponent - e).toNat ≤ y.mantissa * 10 ^ (y.exponent - e).toNat)

/-- `<=` on numbers. -/
def JsNumber.lessEq : JsNumber → JsNumber → Bool
  | .nan, _ | _, .nan => false
  | .infinity true, _ | _, .infinity false => true
  | .infinity false, _ | _, .infinity true => false
  | .finite x, .finite y => x.lessEq y
  | .finite x, .negZero => x.lessEq (Decimal.ofParts false 0 0)
  | .negZero, .finite y => (Decimal.ofParts false 0 0).lessEq y
  | .negZero, .negZero => true

/-- The integer that a decimal with a non-negative exponent stands for. -/
private def Decimal.integer (x : Decimal) : Int := x.mantissa * 10 ^ x.exponent.toNat

private theorem lessEq_iff {x y : Decimal} (hx : 0 ≤ x.exponent) (hy : 0 ≤ y.exponent) :
    x.lessEq y = true ↔ x.integer ≤ y.integer := by
  unfold Decimal.lessEq Decimal.integer
  dsimp only
  rw [decide_eq_true_eq]
  obtain ⟨e, he⟩ : ∃ e : Nat, min x.exponent y.exponent = e := ⟨(min x.exponent y.exponent).toNat, by omega⟩
  have hxe : x.exponent.toNat = (x.exponent - e).toNat + e := by omega
  have hye : y.exponent.toNat = (y.exponent - e).toNat + e := by omega
  have hpos : (0 : Int) < 10 ^ e := by positivity
  rw [he, hxe, hye, pow_add, pow_add, ← mul_assoc, ← mul_assoc]
  exact (mul_le_mul_iff_left₀ hpos).symm

private theorem ofNat_integer (n : Nat) :
    0 ≤ (Decimal.ofParts false n 0).exponent ∧ (Decimal.ofParts false n 0).integer = n := by
  unfold Decimal.integer Decimal.ofParts
  split
  · obtain ⟨z, hexp, hval⟩ := stripZeros_value n n 0
    dsimp only
    rw [hexp]
    refine ⟨by omega, ?_⟩
    rw [if_neg (by decide), show ((0 : Int) + z).toNat = z by omega]
    exact_mod_cast hval
  · have : n = 0 := by omega
    subst this
    exact ⟨le_refl _, rfl⟩

private theorem safeNat?_integer {x : JsNumber} {m : SafeNat} (h : x.safeNat? = some m) :
    x = .negZero ∧ m.val = 0 ∨ ∃ d, x = .finite d ∧ 0 ≤ d.exponent ∧ d.integer = m.val := by
  unfold JsNumber.safeNat? at h
  split at h
  · rename_i n hn
    split at h
    · cases h
      cases x with
      | finite d =>
        simp only [JsNumber.safeInteger?] at hn
        split at hn
        · split at hn
          · cases hn
            rename_i hnat
            refine Or.inr ⟨d, rfl, by omega, ?_⟩
            exact (Int.toNat_of_nonneg hnat.1).symm
          · cases hn
        · cases hn
      | negZero =>
        cases hn
        exact Or.inl ⟨rfl, rfl⟩
      | infinity neg => cases hn
      | nan => cases hn
    · cases h
  · cases h

theorem JsNumber.strictEq_iff {x y : JsNumber} :
    x.strictEq y = true ↔ x = y ∧ x ≠ .nan ∨ x = .negZero ∧ y = .ofNat 0 ∨ x = .ofNat 0 ∧ y = .negZero := by
  cases x <;> cases y <;> simp [strictEq, ofNat, eq_comm]

theorem JsNumber.strictEq_symm {x y : JsNumber} (h : x.strictEq y = true) : y.strictEq x = true := by
  rw [strictEq_iff] at h ⊢
  rcases h with ⟨rfl, hx⟩ | ⟨rfl, rfl⟩ | ⟨rfl, rfl⟩
  · exact Or.inl ⟨rfl, hx⟩
  · exact Or.inr (Or.inr ⟨rfl, rfl⟩)
  · exact Or.inr (Or.inl ⟨rfl, rfl⟩)

theorem JsNumber.strictEq_trans {x y z : JsNumber} (h : x.strictEq y = true) (h' : y.strictEq z = true) :
    x.strictEq z = true := by
  rw [strictEq_iff] at h h' ⊢
  rcases h with ⟨rfl, _⟩ | ⟨rfl, rfl⟩ | ⟨rfl, rfl⟩
  · exact h'
  · rcases h' with ⟨rfl, _⟩ | ⟨h, _⟩ | ⟨_, rfl⟩
    · exact Or.inr (Or.inl ⟨rfl, rfl⟩)
    · cases h
    · exact Or.inl ⟨rfl, by intro h; cases h⟩
  · rcases h' with ⟨rfl, _⟩ | ⟨_, rfl⟩ | ⟨h, _⟩
    · exact Or.inr (Or.inr ⟨rfl, rfl⟩)
    · exact Or.inl ⟨rfl, by intro h; cases h⟩
    · cases h

theorem JsNumber.ofNat_inj {n k : Nat} (h : JsNumber.ofNat n = JsNumber.ofNat k) : n = k := by
  have heq := JsNumber.finite.inj h
  have hint : (n : Int) = k := by rw [← (ofNat_integer n).2, heq, (ofNat_integer k).2]
  omega

/-- `<=` on numbers is that of the naturals they stand for. -/
theorem JsNumber.lessEq_ofNat (n k : Nat) : (ofNat n).lessEq (ofNat k) = decide (n ≤ k) := by
  have hiff := lessEq_iff (ofNat_integer n).1 (ofNat_integer k).1
  rw [(ofNat_integer n).2, (ofNat_integer k).2] at hiff
  rw [Bool.eq_iff_iff, decide_eq_true_eq]
  exact hiff.trans Int.ofNat_le

/-- `>` on numbers. -/
def JsNumber.greater (x y : JsNumber) : Bool := decide (x ≠ .nan) && decide (y ≠ .nan) && !x.lessEq y

theorem JsNumber.greater_ofNat (n k : Nat) : (ofNat n).greater (ofNat k) = decide (k < n) := by
  unfold greater
  rw [lessEq_ofNat, Bool.eq_iff_iff]
  simp [ofNat]

/-- Two naturals that equal one number are the same. -/
theorem JsNumber.strictEq_ofNat_inj {n k : Nat} {x : JsNumber} (hn : (ofNat n).strictEq x = true)
    (hk : (ofNat k).strictEq x = true) : n = k := by
  have h := strictEq_trans hn (strictEq_symm hk)
  rw [strictEq_iff] at h
  rcases h with ⟨h, _⟩ | ⟨h, _⟩ | ⟨_, h⟩
  · exact ofNat_inj h
  · cases h
  · cases h

/-- A safe integer that is not at most a number that equals `n` is larger than `n`. -/
theorem JsNumber.lt_of_not_lessEq {x y : JsNumber} {n : Nat} {m : SafeNat} (hy : (JsNumber.ofNat n).strictEq y = true)
    (hle : x.lessEq y = false) (hx : x.safeNat? = some m) : n < m.val := by
  have hdec (d e : Decimal) (k l : Nat) (hd : 0 ≤ d.exponent) (he : 0 ≤ e.exponent) (hk : d.integer = k)
      (hl : e.integer = l) (hde : d.lessEq e = false) : l < k := by
    have hnot : ¬d.integer ≤ e.integer := fun h => by rw [(lessEq_iff hd he).2 h] at hde; cases hde
    omega
  obtain ⟨hexp, hint⟩ := ofNat_integer n
  obtain ⟨hexp0, hint0⟩ := ofNat_integer 0
  have heq : y = .ofNat n ∨ y = .negZero ∧ n = 0 := by
    rcases strictEq_iff.1 hy with ⟨rfl, _⟩ | ⟨h, _⟩ | ⟨h, rfl⟩
    · exact Or.inl rfl
    · cases h
    · exact Or.inr ⟨rfl, ofNat_inj h⟩
  rcases safeNat?_integer hx with ⟨rfl, hm⟩ | ⟨d, rfl, hd, hm⟩
  · rcases heq with rfl | ⟨rfl, rfl⟩
    · have := hdec _ _ 0 n hexp0 hexp hint0 hint hle
      omega
    · cases hle
  · rcases heq with rfl | ⟨rfl, rfl⟩
    · exact hdec _ _ _ n hd hexp hm hint hle
    · exact hdec _ _ _ 0 hd hexp0 hm hint0 hle

end Opsia.Json
