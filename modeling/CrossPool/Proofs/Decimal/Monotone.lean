import CrossPool.Proofs.Decimal.Rounded

/-!
# 符号の立たない値の上の単調な演算

符号の立たない、NaN でない 10 進数 `+c * 10^e` と `+∞` を `Plus` と呼ぶ。値 `value` の上で、
`Plus` どうしの順序は大きさの順序で、`+∞` が一番上にある。

正の有限値の大きさ `k` を掛けること、正の値で割ることは、有限値を正確な値 `k * x` の丸めに、
`+∞` を `+∞` に送る（`+∞` で割れば有限値はどれも 0 になり、`k = 0` の場合にあたる）。丸めは
単調なので、この形の演算は `Plus` の上で値の順序を保ち、結果も `Plus` である（`PlusMono`）。
-/

namespace CrossPool.Decimal

/-- 符号の立たない、NaN でない 10 進数：`+c * 10^e` か `+∞`。 -/
inductive Plus : Decimal → Prop
  | finite (c : ℕ) (e : ℤ) : Plus (.finite false c e)
  | infinity : Plus (.infinity false)

@[simp] theorem value_finite_false (c : ℕ) (e : ℤ) :
    value (.finite false c e) = ((magnitude c e : WithTop ℚ) : WithBot (WithTop ℚ)) := rfl

@[simp] theorem value_infinity_false : value (.infinity false) = ⊤ := rfl

theorem coe_le_coe_iff {x y : ℚ} :
    ((x : WithTop ℚ) : WithBot (WithTop ℚ)) ≤ ((y : WithTop ℚ) : WithBot (WithTop ℚ)) ↔ x ≤ y := by
  rw [WithBot.coe_le_coe, WithTop.coe_le_coe]

theorem not_top_le_coe (x : ℚ) : ¬ (⊤ : WithBot (WithTop ℚ)) ≤ ((x : WithTop ℚ) : WithBot _) :=
  not_le.mpr (coe_lt_top x)

/-- 正の値は符号が立たない。負の符号の有限値は 0 以下で、NaN と `-∞` の値は `⊥`。 -/
theorem plus_of_pos {a : Decimal} (h : 0 < a.value) : a.Plus := by
  rcases a with ⟨_ | _, c, e⟩ | ⟨_ | _⟩ | _
  · exact .finite c e
  · exfalso
    have hle : signedValue true c e ≤ 0 := by
      simp only [signedValue, if_true, Left.neg_nonpos_iff]
      exact magnitude_nonneg c e
    have hle' : value (.finite true c e) ≤ 0 := by
      simp only [value]
      exact_mod_cast hle
    exact absurd h (not_lt.mpr hle')
  · exact .infinity
  · simp [value] at h
  · simp [value] at h

/-! ## 単調な演算 -/

/-- `Plus` の上で単調な演算：結果は `Plus` で、値の順序を保つ。 -/
def PlusMono (f : Decimal → Except Signal Decimal) : Prop :=
  ∀ ⦃a b x y : Decimal⦄, a.Plus → b.Plus → a.value ≤ b.value → f a = .ok x → f b = .ok y →
    x.Plus ∧ y.Plus ∧ x.value ≤ y.value

section Scale

variable {ctx : Context} {f : Decimal → Except Signal Decimal} {k : ℚ}

/--
有限値 `+c * 10^e` を大きさ `ctx.round (magnitude c e * k)` の有限値に、`+∞` を `+∞` に送る
演算は、`k` が 0 以上なら `Plus` の上で単調。
-/
theorem PlusMono.of_scale (hp : 0 < ctx.prec) (hk : 0 ≤ k)
    (hfin : ∀ c e r, f (.finite false c e) = .ok r →
      ∃ c' e', r = .finite false c' e' ∧ magnitude c' e' = ctx.round (magnitude c e * k))
    (hinf : ∀ r, f (.infinity false) = .ok r → r = .infinity false) : PlusMono f := by
  intro a b x y ha hb hab hx hy
  cases ha with
  | finite ca ea =>
    obtain ⟨cx, ex, rfl, hmx⟩ := hfin _ _ _ hx
    cases hb with
    | finite cb eb =>
      obtain ⟨cy, ey, rfl, hmy⟩ := hfin _ _ _ hy
      refine ⟨.finite _ _, .finite _ _, ?_⟩
      have hm : magnitude ca ea ≤ magnitude cb eb := by simpa [coe_le_coe_iff] using hab
      rw [value_finite_false, value_finite_false, coe_le_coe_iff, hmx, hmy]
      exact roundDigits_mono (by norm_num) hp
        (mul_nonneg (magnitude_nonneg ca ea) hk) (mul_le_mul_of_nonneg_right hm hk)
    | infinity =>
      rw [hinf _ hy]
      exact ⟨.finite _ _, .infinity, le_top⟩
  | infinity =>
    cases hb with
    | finite cb eb => exact absurd hab (not_top_le_coe _)
    | infinity =>
      rw [hinf _ hx, hinf _ hy]
      exact ⟨.infinity, .infinity, le_rfl⟩

end Scale

/-- 正の有限値を掛けることは `Plus` の上で単調。 -/
theorem mul_plusMono {ctx : Context} (hp : 0 < ctx.prec) {c : ℕ} (hc : c ≠ 0) (e : ℤ) :
    PlusMono (Decimal.mul ctx · (.finite false c e)) := by
  refine PlusMono.of_scale hp (magnitude_nonneg c e) (fun c' e' r h => ?_) fun r h => ?_
  · exact mul_finite_eq_ok hp h
  · simp only [Decimal.mul, if_neg hc, Except.ok.injEq] at h
    exact h.symm

/-- 正の値で割ることは `Plus` の上で単調。`+∞` で割れば有限値はどれも 0 になる。 -/
theorem div_plusMono {ctx : Context} (hp : 0 < ctx.prec) {s : Decimal} (hs : 0 < s.value) :
    PlusMono (Decimal.div ctx · s) := by
  cases plus_of_pos hs with
  | finite cs es =>
    refine PlusMono.of_scale hp (inv_nonneg.mpr (magnitude_nonneg cs es)) (fun c e r h => ?_)
      fun r h => ?_
    · rw [← div_eq_mul_inv]
      exact divFinite_eq_ok hp h
    · simp only [Decimal.div, Except.ok.injEq] at h
      exact h.symm
  | infinity =>
    refine PlusMono.of_scale hp le_rfl (fun c e r h => ?_) fun r h => ?_
    · simp only [Decimal.div, Except.ok.injEq] at h
      exact ⟨0, ctx.etiny, h.symm, by simp [magnitude_zero]⟩
    · simp [Decimal.div] at h

end CrossPool.Decimal
