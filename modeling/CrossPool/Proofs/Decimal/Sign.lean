import Mathlib
import CrossPool.Proofs.Decimal.Signed
import CrossPool.Proofs.Decimal.Monotone

/-!
# 無限大を含む和と積の符号

設定の手数料は `+∞` でもよいので、ガス代と純利益の計算には無限大が現れうる。値 `value` の
上で、0 以上の値どうしの和と積は 0 以上である（`Calc.add_value_nonneg`、
`Calc.mul_value_nonneg`）。`+∞` と 0 の積は失敗するので、成功した積については成り立つ。

0 以下の値と 0 以上の有限値の積は 0 以下（`Calc.mul_value_nonpos`）。NaN との積は NaN で、
`-∞` との積は `-∞` か失敗である。有限値から 0 以上の値を引いた差は、有限値どうしの丸めた
差か `-∞` である（`Calc.sub_cases`）。
-/

namespace CrossPool

namespace Decimal

/-- 値が 0 以上の 10 進数は、0 以上の有限値か `+∞`。 -/
theorem nonneg_cases {d : Decimal} (h : 0 ≤ d.value) :
    (∃ x : ℚ, d.value = ((x : WithTop ℚ) : WithBot (WithTop ℚ)) ∧ 0 ≤ x) ∨
      d = .infinity false := by
  rcases d with ⟨n, c, e⟩ | ⟨_ | _⟩ | _
  · have h' : (0 : WithBot (WithTop ℚ)) ≤ ((signedValue n c e : WithTop ℚ) : WithBot (WithTop ℚ)) := h
    exact .inl ⟨signedValue n c e, rfl, by exact_mod_cast h'⟩
  · exact .inr rfl
  · simp [value] at h
  · simp [value] at h

theorem coe_lt_coe_iff {x y : ℚ} :
    ((x : WithTop ℚ) : WithBot (WithTop ℚ)) < ((y : WithTop ℚ) : WithBot (WithTop ℚ)) ↔ x < y := by
  rw [WithBot.coe_lt_coe, WithTop.coe_lt_coe]

theorem sign_false_of_nonneg {n : Bool} {c : ℕ} {e : ℤ} (hc : c ≠ 0)
    (h : 0 ≤ signedValue n c e) : n = false := by
  cases n
  · rfl
  · have := magnitude_pos hc e
    rw [signedValue_true] at h
    linarith

theorem sign_false_of_pos {n : Bool} {c : ℕ} {e : ℤ} (h : 0 < signedValue n c e) : n = false := by
  cases n
  · rfl
  · have := magnitude_nonneg c e
    rw [signedValue_true] at h
    linarith

theorem infinity_value_ne_coe (n : Bool) (z : ℚ) :
    (Decimal.infinity n).value ≠ ((z : WithTop ℚ) : WithBot (WithTop ℚ)) := by
  cases n <;> simp [value]

/-- 有限値の値が丸めで動かない。`Calc` の演算の有限の結果はどれもそう。 -/
def Rounded (d : Decimal) : Prop :=
  ∀ x : ℚ, d.value = ((x : WithTop ℚ) : WithBot (WithTop ℚ)) → Calc.ctx.roundSigned x = x

theorem nanResult_value {ctx : Context} {a b r : Decimal} (h : nanResult ctx a b = .ok r) :
    r.value = ⊥ := by
  unfold nanResult at h
  split at h <;> cases h <;> rfl

end Decimal

namespace Calc

open Decimal

variable {a b r : Decimal} {x y : ℚ}

/-- 0 以上の値どうしの和は 0 以上。`+∞` を含めば `+∞`。 -/
theorem add_value_nonneg (h : Calc.add a b = .ok r) (ha : 0 ≤ a.value) (hb : 0 ≤ b.value) :
    0 ≤ r.value := by
  have h' := liftSignal_eq_ok.mp h
  rcases nonneg_cases ha with ⟨x, hx, hx0⟩ | rfl <;>
    rcases nonneg_cases hb with ⟨y, hy, hy0⟩ | rfl
  · rw [add_value h hx hy]
    exact_mod_cast roundSigned_nonneg (add_nonneg hx0 hy0)
  · obtain ⟨n, c, e, rfl, -⟩ := value_eq_coe.mp hx
    cases h'
    simp
  · obtain ⟨n, c, e, rfl, -⟩ := value_eq_coe.mp hy
    cases h'
    simp
  · cases h'
    simp

/-- 0 以上の値どうしの積は、成功すれば 0 以上。`+∞` と 0 の積は失敗する。 -/
theorem mul_value_nonneg (h : Calc.mul a b = .ok r) (ha : 0 ≤ a.value) (hb : 0 ≤ b.value) :
    0 ≤ r.value := by
  have h' := liftSignal_eq_ok.mp h
  rcases nonneg_cases ha with ⟨x, hx, hx0⟩ | rfl <;>
    rcases nonneg_cases hb with ⟨y, hy, hy0⟩ | rfl
  · rw [mul_value h hx hy]
    exact_mod_cast roundSigned_nonneg (mul_nonneg hx0 hy0)
  · obtain ⟨n, c, e, rfl, hv⟩ := value_eq_coe.mp hx
    simp only [Decimal.mul] at h'
    split_ifs at h' with hc
    cases h'
    have hn : n = false := sign_false_of_nonneg hc (by rw [hv]; exact hx0)
    subst hn
    simp
  · obtain ⟨n, c, e, rfl, hv⟩ := value_eq_coe.mp hy
    simp only [Decimal.mul] at h'
    split_ifs at h' with hc
    cases h'
    have hn : n = false := sign_false_of_nonneg hc (by rw [hv]; exact hy0)
    subst hn
    simp
  · cases h'
    simp

/-- 0 以下の値と 0 以上の有限値の積は、成功すれば 0 以下。 -/
theorem mul_value_nonpos (h : Calc.mul a b = .ok r) (ha : a.value ≤ 0)
    (hb : b.value = ((y : WithTop ℚ) : WithBot (WithTop ℚ))) (hy : 0 ≤ y) : r.value ≤ 0 := by
  have h' := liftSignal_eq_ok.mp h
  obtain ⟨nb, cb, eb, rfl, hv⟩ := value_eq_coe.mp hb
  rcases a with ⟨n, c, e⟩ | ⟨_ | _⟩ | ⟨n, s, p⟩
  · have ha' : ((signedValue n c e : WithTop ℚ) : WithBot (WithTop ℚ)) ≤ 0 := ha
    have hx : signedValue n c e ≤ 0 := by exact_mod_cast ha'
    rw [mul_value h rfl hb]
    exact_mod_cast roundSigned_nonpos (mul_nonpos_iff.mpr (.inr ⟨hx, hy⟩))
  · rw [value_infinity_false] at ha
    exact absurd (ha.trans_lt (coe_lt_top 0)) (lt_irrefl _)
  · simp only [Decimal.mul] at h'
    split_ifs at h' with hc
    cases h'
    have hn : nb = false := sign_false_of_nonneg hc (by rw [hv]; exact hy)
    subst hn
    simp [value]
  · simp only [Decimal.mul] at h'
    rw [nanResult_value h']
    exact bot_le

/-- 有限値から 0 以上の値を引いた差は、有限値どうしの丸めた差か、`+∞` を引いた `-∞`。 -/
theorem sub_cases (h : Calc.sub a b = .ok r) (ha : a.value = ((x : WithTop ℚ) : WithBot (WithTop ℚ)))
    (hb : 0 ≤ b.value) :
    (∃ y : ℚ, b.value = ((y : WithTop ℚ) : WithBot (WithTop ℚ)) ∧ 0 ≤ y ∧
      r.value = ((ctx.roundSigned (x - y) : WithTop ℚ) : WithBot (WithTop ℚ))) ∨ r.value = ⊥ := by
  rcases nonneg_cases hb with ⟨y, hy, hy0⟩ | rfl
  · exact .inl ⟨y, hy, hy0, sub_value h ha hy⟩
  · obtain ⟨n, c, e, rfl, -⟩ := value_eq_coe.mp ha
    have h' := liftSignal_eq_ok.mp h
    cases h'
    exact .inr rfl

/-! ## 有限の結果 -/

/-- 積が有限値なら、二つの数も有限値で、値は正確な積の丸め。 -/
theorem mul_finite {z : ℚ} (h : Calc.mul a b = .ok r)
    (hr : r.value = ((z : WithTop ℚ) : WithBot (WithTop ℚ))) :
    ∃ x y : ℚ, a.value = ((x : WithTop ℚ) : WithBot (WithTop ℚ)) ∧
      b.value = ((y : WithTop ℚ) : WithBot (WithTop ℚ)) ∧ z = ctx.roundSigned (x * y) := by
  have h' := liftSignal_eq_ok.mp h
  rcases a with ⟨na, ca, ea⟩ | ⟨na⟩ | ⟨na, sa, pa⟩ <;>
    rcases b with ⟨nb, cb, eb⟩ | ⟨nb⟩ | ⟨nb, sb, pb⟩
  · refine ⟨_, _, rfl, rfl, ?_⟩
    rw [mul_value h rfl rfl] at hr
    exact_mod_cast hr.symm
  all_goals
    simp only [Decimal.mul] at h'
    first
      | rw [nanResult_value h'] at hr; exact absurd hr WithBot.bot_ne_coe
      | split_ifs at h' <;> cases h' <;> exact absurd hr (infinity_value_ne_coe _ _)
      | cases h'; exact absurd hr (infinity_value_ne_coe _ _)

/-- 差が有限値なら、二つの数も有限値で、値は正確な差の丸め。 -/
theorem sub_finite {z : ℚ} (h : Calc.sub a b = .ok r)
    (hr : r.value = ((z : WithTop ℚ) : WithBot (WithTop ℚ))) :
    ∃ x y : ℚ, a.value = ((x : WithTop ℚ) : WithBot (WithTop ℚ)) ∧
      b.value = ((y : WithTop ℚ) : WithBot (WithTop ℚ)) ∧ z = ctx.roundSigned (x - y) := by
  have h' := liftSignal_eq_ok.mp h
  unfold Decimal.sub at h'
  split_ifs at h' with hnan
  · rw [nanResult_value h'] at hr
    exact absurd hr WithBot.bot_ne_coe
  obtain ⟨ha, hb⟩ : a.isNan = false ∧ b.isNan = false := by simpa using hnan
  rcases a with ⟨na, ca, ea⟩ | ⟨na⟩ | ⟨na, sa, pa⟩ <;>
    rcases b with ⟨nb, cb, eb⟩ | ⟨nb⟩ | ⟨nb, sb, pb⟩
  · refine ⟨_, _, rfl, rfl, ?_⟩
    rw [sub_value h rfl rfl] at hr
    exact_mod_cast hr.symm
  all_goals
    first
      | (simp [isNan] at ha hb; done)
      | simp only [Decimal.negate, Decimal.add] at h'
        first
          | split_ifs at h' <;> cases h' <;> exact absurd hr (infinity_value_ne_coe _ _)
          | cases h'; exact absurd hr (infinity_value_ne_coe _ _)

theorem rounded_of_mul (h : Calc.mul a b = .ok r) : r.Rounded := by
  intro z hz
  obtain ⟨x, y, -, -, rfl⟩ := mul_finite h hz
  exact roundSigned_roundSigned (by decide) _

theorem rounded_of_sub (h : Calc.sub a b = .ok r) : r.Rounded := by
  intro z hz
  obtain ⟨x, y, -, -, rfl⟩ := sub_finite h hz
  exact roundSigned_roundSigned (by decide) _

/-! ## 差と積の順序 -/

/-- `+∞` を引いた差は、成功すれば `-∞`。 -/
theorem sub_top_value (h : Calc.sub a (.infinity false) = .ok r) : r.value = ⊥ := by
  have h' := liftSignal_eq_ok.mp h
  unfold Decimal.sub at h'
  split_ifs at h' with hnan
  · exact nanResult_value h'
  rcases a with ⟨na, ca, ea⟩ | ⟨_ | _⟩ | ⟨na, sa, pa⟩
  · cases h'
    rfl
  · cases h'
  · cases h'
    rfl
  · simp [isNan] at hnan

/-- 丸めで動かない数から 0 以上の数を引いても、もとの数を超えない。 -/
theorem sub_le_of_nonneg (h : Calc.sub a b = .ok r) (ha : a.Rounded) (hb : 0 ≤ b.value) :
    r.value ≤ a.value := by
  rcases nonneg_cases hb with ⟨y, hy, hy0⟩ | rfl
  · obtain ⟨nb, cb, eb, rfl, -⟩ := value_eq_coe.mp hy
    have h' := liftSignal_eq_ok.mp h
    rcases a with ⟨na, ca, ea⟩ | ⟨_ | _⟩ | ⟨na, sa, pa⟩
    · -- 有限値どうし：丸めは単調で、もとの数は丸めで動かない
      rw [sub_value h rfl hy]
      calc ((ctx.roundSigned (signedValue na ca ea - y) : WithTop ℚ) : WithBot (WithTop ℚ))
          ≤ ((ctx.roundSigned (signedValue na ca ea) : WithTop ℚ) : WithBot (WithTop ℚ)) :=
            coe_le_coe_iff.mpr (roundSigned_mono (by decide) (by linarith))
        _ = value (.finite na ca ea) := by rw [ha _ rfl]; rfl
    · cases h'
      exact le_rfl
    · cases h'
      exact le_rfl
    · unfold Decimal.sub at h'
      rw [if_pos (by simp [isNan])] at h'
      rw [nanResult_value h']
      exact bot_le
  · rw [sub_top_value h]
    exact bot_le

/-- 差が正なら、引かれる数は引く数より大きい。無限大も NaN も含めて成り立つ。 -/
theorem lt_of_sub_pos (h : Calc.sub a b = .ok r) (hr : 0 < r.value) : b.value < a.value := by
  have h' := liftSignal_eq_ok.mp h
  unfold Decimal.sub at h'
  split_ifs at h' with hnan
  · rw [nanResult_value h'] at hr
    exact absurd hr not_lt_bot
  obtain ⟨ha, hb⟩ : a.isNan = false ∧ b.isNan = false := by simpa using hnan
  rcases a with ⟨na, ca, ea⟩ | ⟨na⟩ | ⟨na, sa, pa⟩ <;>
    rcases b with ⟨nb, cb, eb⟩ | ⟨nb⟩ | ⟨nb, sb, pb⟩
  · -- 有限値どうし：丸めた差が正なら正確な差も正
    rw [sub_value h rfl rfl] at hr
    have hpos := pos_of_roundSigned_pos (coe_lt_coe_iff.mp hr)
    exact coe_lt_coe_iff.mpr (by linarith)
  all_goals
    first
      | (simp [isNan] at ha hb; done)
      | simp only [Decimal.negate, Decimal.add] at h'
        first
          | (split_ifs at h' with hs <;> cases h' <;> cases na <;> cases nb <;>
              simp [value] at hr hs ⊢)
          | (cases h'; cases na <;> cases nb <;> simp [value, coe_lt_top] at hr ⊢)

/-- 0 以上の数との積が正なら、もう一つの数は正。 -/
theorem pos_of_mul_pos (h : Calc.mul a b = .ok r) (ha : 0 ≤ a.value) (hr : 0 < r.value) :
    0 < b.value := by
  have h' := liftSignal_eq_ok.mp h
  rcases nonneg_cases ha with ⟨x, hx, hx0⟩ | rfl
  · obtain ⟨na, ca, ea, rfl, hv⟩ := value_eq_coe.mp hx
    rcases b with ⟨nb, cb, eb⟩ | ⟨_ | _⟩ | ⟨nb, sb, pb⟩
    · rw [mul_value h hx rfl] at hr
      have hpos := pos_of_roundSigned_pos (coe_lt_coe_iff.mp hr)
      exact coe_lt_coe_iff.mpr (pos_of_mul_pos_right hpos hx0)
    · exact coe_lt_top 0
    · simp only [Decimal.mul] at h'
      split_ifs at h' with hc
      cases h'
      have hn : na = false := sign_false_of_nonneg hc (by rw [hv]; exact hx0)
      subst hn
      simp [value] at hr
    · simp only [Decimal.mul] at h'
      rw [nanResult_value h'] at hr
      exact absurd hr not_lt_bot
  · rcases b with ⟨nb, cb, eb⟩ | ⟨_ | _⟩ | ⟨nb, sb, pb⟩
    · simp only [Decimal.mul] at h'
      split_ifs at h' with hc
      cases h'
      cases nb
      · exact coe_lt_coe_iff.mpr (magnitude_pos hc eb)
      · simp [value] at hr
    · exact coe_lt_top 0
    · cases h'
      simp [value] at hr
    · simp only [Decimal.mul] at h'
      rw [nanResult_value h'] at hr
      exact absurd hr not_lt_bot

/-- 丸めで動かない 0 以上の数に `[0, 1]` の有限値を掛けても、もとの数を超えない。 -/
theorem mul_le_of_le_one {c : ℚ} (h : Calc.mul a b = .ok r) (ha : 0 ≤ a.value) (har : a.Rounded)
    (hb : b.value = ((c : WithTop ℚ) : WithBot (WithTop ℚ))) (hc1 : c ≤ 1) :
    r.value ≤ a.value := by
  rcases nonneg_cases ha with ⟨x, hx, hx0⟩ | rfl
  · rw [mul_value h hx hb, hx]
    calc ((ctx.roundSigned (x * c) : WithTop ℚ) : WithBot (WithTop ℚ))
        ≤ ((ctx.roundSigned x : WithTop ℚ) : WithBot (WithTop ℚ)) :=
          coe_le_coe_iff.mpr (roundSigned_mono (by decide) (mul_le_of_le_one_right hx0 hc1))
      _ = ((x : WithTop ℚ) : WithBot (WithTop ℚ)) := by rw [har x hx]
  · simp

/-- 0 以上の数を正の数で割った商は、成功すれば 0 以上。 -/
theorem div_value_nonneg (h : Calc.div a b = .ok r) (ha : 0 ≤ a.value) (hb : 0 < b.value) :
    0 ≤ r.value := by
  have h' := liftSignal_eq_ok.mp h
  rcases nonneg_cases ha with ⟨x, hx, hx0⟩ | rfl <;>
    rcases nonneg_cases hb.le with ⟨y, hy, hy0⟩ | rfl
  · rw [div_value h hx hy]
    exact_mod_cast roundSigned_nonneg (div_nonneg hx0 hy0)
  · obtain ⟨na, ca, ea, rfl, -⟩ := value_eq_coe.mp hx
    cases h'
    simp [value, signedValue_zero]
  · obtain ⟨nb, cb, eb, rfl, -⟩ := value_eq_coe.mp hy
    cases h'
    rw [sign_false_of_pos (coe_lt_coe_iff.mp hb)]
    simp
  · cases h'

end Calc

end CrossPool
