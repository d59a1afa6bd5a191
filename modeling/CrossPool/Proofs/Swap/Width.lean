import Mathlib.Tactic
import CrossPool.Curve.ConstantProduct

/-!
# 定積の交換での幅の検査

`swapOutRaw` は入力を u64、途中の積と和を u128 で検査する。入力の検査を通った値
（量と準備量が正、手数料が `[0, 10000)`）について、

* 三つの入力が u64 に入れば、途中の値は u128 を超えず、交換は成功して出力も u64 に
  入る（`swapOutRaw_eq_of_fits`）。
* 入力が 10 進 4300 桁以内なら、幅超過で失敗するのは、入力のどれかが u64 を超えるとき
  ちょうどである（`swapOutRaw_overflow_iff`）。4300 桁を超える入力は幅超過の文面に書けない
  ので、値の誤りになる。

途中の値の上界は `u64Max * 10000`、`u64Max * u64Max`、`2 * u64Max` で、どれも
`u128Max` 以下である。
-/

namespace CrossPool.ConstantProduct

open Amount

theorem checkBound_of_mem {v b : Int} {op : String} (h0 : 0 ≤ v) (h1 : v ≤ b) :
    checkBound v b op = .ok v := by
  unfold checkBound
  simp [show ¬ v < 0 by omega, show ¬ b < v by omega]

/-- 上界を超える値の検査は、値が 4300 桁以内なら幅超過で失敗する。 -/
theorem checkBound_of_lt {v b : Int} {op : String} (h : b < v) (hd : tooManyDigits v = false) :
    checkBound v b op = .error (.overflow op s!"{op} out of range: {v}") := by
  unfold checkBound intText
  simp [h, hd]
  rfl

/-- 上界を超える値が 4300 桁を超えると、検査は幅超過ではなく値の誤りで失敗する。 -/
theorem checkBound_of_tooManyDigits {v b : Int} {op : String} (h : b < v)
    (hd : tooManyDigits v = true) :
    checkBound v b op = .error (.invalidValue digitLimitMessage) := by
  unfold checkBound intText
  simp [h, hd]
  rfl

/-- 文字列にできるのは、絶対値が `10^4300` より小さい整数ちょうど。 -/
theorem tooManyDigits_eq_false_iff {v : Int} : tooManyDigits v = false ↔ v.natAbs < 10 ^ 4300 := by
  simp only [tooManyDigits, Nat.pow_eq, decide_eq_false_iff_not, not_le, -Nat.reducePow]

/-- `10^4300` は 4301 桁で、文字列にできない。 -/
theorem tooManyDigits_ten_pow : tooManyDigits (10 ^ 4300) = true := by
  have h : ¬(10 ^ 4300 : Int).natAbs < 10 ^ 4300 := by
    rw [Int.natAbs_pow]
    exact lt_irrefl _
  exact Bool.of_not_eq_false (mt tooManyDigits_eq_false_iff.mp h)

theorem tooManyDigits_eq_false_of_le {v : Int} (h : v.natAbs ≤ 2 ^ 64) :
    tooManyDigits v = false := by
  have hb : (2 : Nat) ^ 64 < 10 ^ 4300 :=
    calc (2 : Nat) ^ 64 < 10 ^ 64 := Nat.pow_lt_pow_left (by norm_num) (by norm_num)
      _ ≤ 10 ^ 4300 := Nat.pow_le_pow_right (by norm_num) (by norm_num)
  exact tooManyDigits_eq_false_iff.mpr (lt_of_le_of_lt h hb)

/-- 手数料を引いた入力。 -/
def netInput (amountIn feeBps : Int) : Int := amountIn * (10000 - feeBps) / 10000

/-- 手数料を引いた入力は、元の入力を超えず負にならない。 -/
theorem netInput_mem {amountIn feeBps : Int} (ha : 0 ≤ amountIn) (hf0 : 0 ≤ feeBps)
    (hf : feeBps < 10000) : 0 ≤ netInput amountIn feeBps ∧ netInput amountIn feeBps ≤ amountIn := by
  unfold netInput
  constructor
  · exact Int.ediv_nonneg (by nlinarith) (by norm_num)
  · rw [Int.ediv_le_iff_le_mul (by norm_num)]
    nlinarith

/-- 三つの入力が u64 に入れば、交換は成功し、出力は `floor (w * rout / (rin + w))`
（`w` は手数料を引いた入力）で、`rout` より小さい。 -/
theorem swapOutRaw_eq_of_fits {amountIn reserveIn reserveOut feeBps : Int}
    (ha : 0 < amountIn) (hi : 0 < reserveIn) (ho : 0 < reserveOut) (hf0 : 0 ≤ feeBps)
    (hf : feeBps < 10000) (ha' : amountIn ≤ u64Max) (hi' : reserveIn ≤ u64Max)
    (ho' : reserveOut ≤ u64Max) :
    swapOutRaw amountIn reserveIn reserveOut feeBps =
        .ok (netInput amountIn feeBps * reserveOut / (reserveIn + netInput amountIn feeBps)) ∧
      netInput amountIn feeBps * reserveOut / (reserveIn + netInput amountIn feeBps) <
        reserveOut := by
  obtain ⟨hw0, hw1⟩ := netInput_mem ha.le hf0 hf
  have hu : u64Max = 2 ^ 64 - 1 := rfl
  have hv : u128Max = 2 ^ 128 - 1 := rfl
  have hm0 : 0 ≤ amountIn * (10000 - feeBps) := by nlinarith
  have hm1 : amountIn * (10000 - feeBps) ≤ u128Max := by rw [hv]; nlinarith
  have hn0 : 0 ≤ netInput amountIn feeBps * reserveOut := by nlinarith
  have hn1 : netInput amountIn feeBps * reserveOut ≤ u128Max := by
    have : netInput amountIn feeBps * reserveOut ≤ u64Max * u64Max :=
      mul_le_mul (hw1.trans ha') ho' ho.le (by rw [hu]; norm_num)
    rw [hv]; rw [hu] at this; nlinarith
  have hd1 : reserveIn + netInput amountIn feeBps ≤ u128Max := by
    rw [hv]; rw [hu] at hi' ha'; omega
  have hw : amountIn * (10000 - feeBps) / 10000 = netInput amountIn feeBps := rfl
  refine ⟨?_, ?_⟩
  · unfold swapOutRaw
    simp only [show ¬ amountIn ≤ 0 by omega, show ¬ reserveIn ≤ 0 by omega,
      show ¬ reserveOut ≤ 0 by omega, show ¬ feeBps < 0 by omega,
      show ¬ 10000 ≤ feeBps by omega, decide_false, Bool.or_false, Bool.false_eq_true,
      if_false]
    simp [checkBound_of_mem ha.le ha', checkBound_of_mem hi.le hi',
      checkBound_of_mem ho.le ho', checkedMul, checkedAdd, checkBound_of_mem hm0 hm1,
      hw, checkBound_of_mem hn0 hn1,
      checkBound_of_mem (by omega : 0 ≤ reserveIn + netInput amountIn feeBps) hd1,
      Bind.bind, Except.bind, Pure.pure, Except.pure]
  · apply Int.ediv_lt_of_lt_mul (by omega)
    nlinarith

/-- 入力の検査を通った値では、交換は三つの入力の幅の検査から始まる。 -/
theorem swapOutRaw_eq_checked {amountIn reserveIn reserveOut feeBps : Int}
    (ha : 0 < amountIn) (hi : 0 < reserveIn) (ho : 0 < reserveOut) (hf0 : 0 ≤ feeBps)
    (hf : feeBps < 10000) :
    swapOutRaw amountIn reserveIn reserveOut feeBps =
      (do
        let _ ← checkBound amountIn u64Max "swap_input"
        let _ ← checkBound reserveIn u64Max "swap_input"
        let _ ← checkBound reserveOut u64Max "swap_input"
        let w ← checkedMul amountIn (10000 - feeBps) u128Max
        let numerator ← checkedMul (w / 10000) reserveOut u128Max
        HDiv.hDiv numerator <$> checkedAdd reserveIn (w / 10000) u128Max) := by
  unfold swapOutRaw
  simp [show ¬ amountIn ≤ 0 by omega, show ¬ reserveIn ≤ 0 by omega,
    show ¬ reserveOut ≤ 0 by omega, show ¬ feeBps < 0 by omega,
    show ¬ 10000 ≤ feeBps by omega]

/-- 入力の検査を通り、10 進 4300 桁以内の値について、交換が幅超過で失敗するのは、量か
準備量のどれかが u64 を超えるときちょうどである。入力がすべて u64 に入れば、成功した出力も
u64 に入る。 -/
theorem swapOutRaw_overflow_iff (amountIn reserveIn reserveOut feeBps : Int)
    (ha : 0 < amountIn) (hi : 0 < reserveIn) (ho : 0 < reserveOut) (hf0 : 0 ≤ feeBps)
    (hf : feeBps < 10000) (hda : tooManyDigits amountIn = false)
    (hdi : tooManyDigits reserveIn = false) (hdo : tooManyDigits reserveOut = false) :
    ((∃ op msg, swapOutRaw amountIn reserveIn reserveOut feeBps = .error (.overflow op msg)) ↔
        (u64Max < amountIn ∨ u64Max < reserveIn ∨ u64Max < reserveOut)) ∧
      (amountIn ≤ u64Max → reserveIn ≤ u64Max → reserveOut ≤ u64Max →
        ∃ out, swapOutRaw amountIn reserveIn reserveOut feeBps = .ok out ∧
          0 ≤ out ∧ out ≤ u64Max) := by
  have fits := fun ha' hi' ho' => swapOutRaw_eq_of_fits ha hi ho hf0 hf ha' hi' ho'
  have valid := swapOutRaw_eq_checked ha hi ho hf0 hf
  refine ⟨⟨?_, ?_⟩, ?_⟩
  · rintro ⟨op, msg, h⟩
    by_contra hn
    simp only [not_or, not_lt] at hn
    rw [(fits hn.1 hn.2.1 hn.2.2).1] at h
    cases h
  · intro h
    rw [valid]
    by_cases h1 : u64Max < amountIn
    · exact ⟨_, _, by simp [checkBound_of_lt h1 hda]; rfl⟩
    by_cases h2 : u64Max < reserveIn
    · exact ⟨_, _, by
        simp [checkBound_of_mem ha.le (not_lt.mp h1), checkBound_of_lt h2 hdi]; rfl⟩
    have h3 : u64Max < reserveOut := by omega
    exact ⟨_, _, by
      simp [checkBound_of_mem ha.le (not_lt.mp h1), checkBound_of_mem hi.le (not_lt.mp h2),
        checkBound_of_lt h3 hdo]; rfl⟩
  · intro ha' hi' ho'
    obtain ⟨h, hlt⟩ := fits ha' hi' ho'
    refine ⟨_, h, Int.ediv_nonneg ?_ ?_, by omega⟩
    · exact mul_nonneg (netInput_mem ha.le hf0 hf).1 ho.le
    · have := (netInput_mem ha.le hf0 hf).1
      omega

/-- 入力がちょうど u64 の上限を一つ超えると、交換は幅超過で失敗する。 -/
theorem swapOutRaw_overflow_past_u64 :
    (0 < (2 : Int) ^ 64 ∧ (0 : Int) < 1 ∧ (0 : Int) < 1 ∧ (0 : Int) ≤ 30 ∧ (30 : Int) < 10000 ∧
        tooManyDigits (2 ^ 64) = false ∧ tooManyDigits 1 = false) ∧
      ((∃ op msg, swapOutRaw (2 ^ 64) 1 1 30 = .error (.overflow op msg)) ↔
        (u64Max < 2 ^ 64 ∨ u64Max < 1 ∨ u64Max < 1)) :=
  ⟨⟨by norm_num, by norm_num, by norm_num, by norm_num, by norm_num,
      tooManyDigits_eq_false_of_le (by norm_num), tooManyDigits_eq_false_of_le (by norm_num)⟩,
    (swapOutRaw_overflow_iff (2 ^ 64) 1 1 30 (by norm_num) (by norm_num) (by norm_num)
      (by norm_num) (by norm_num) (tooManyDigits_eq_false_of_le (by norm_num))
      (tooManyDigits_eq_false_of_le (by norm_num)) (tooManyDigits_eq_false_of_le (by norm_num))).1⟩

/-- u64 を超える量でも 10 進 4301 桁なら、交換は幅超過ではなく、値を文面に書けない
値の誤りで失敗する。 -/
theorem swapOutRaw_rejects_unprintable_amount :
    u64Max < 10 ^ 4300 ∧
      swapOutRaw (10 ^ 4300) 1 1 30 = .error (.invalidValue digitLimitMessage) := by
  have hu : u64Max = 2 ^ 64 - 1 := rfl
  have hbig : u64Max < 10 ^ 4300 :=
    calc u64Max < 10 ^ 64 := by rw [hu]; norm_num
      _ ≤ 10 ^ 4300 := pow_le_pow_right₀ (by norm_num) (by norm_num)
  refine ⟨hbig, ?_⟩
  rw [swapOutRaw_eq_checked (by positivity) (by norm_num) (by norm_num) (by norm_num)
    (by norm_num), checkBound_of_tooManyDigits hbig tooManyDigits_ten_pow]
  rfl

end CrossPool.ConstantProduct
