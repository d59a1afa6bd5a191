import Mathlib
import CrossPool.Proofs.Monitor.Windows
import CrossPool.Proofs.Scan.Ranking

/-!
# 信頼度の段階は入力とともに上がる

`Confidence.classify prob net` は最初に当てはまる段階を取る表で、入力を閾値
`0.8, 0.6, 0.4, 0.2`（確率）と `1.0, 0.5, 0.3`（純利益率）と比べるだけである。どの段階の
条件も一つ下の段階の条件を含むので、閾値を超えた入力が大きくなっても閾値を超えたままなら、
段階は下がらない（`rank_classify_le`）。

純利益率は 10 進数を浮動小数点数にしてから比べる。閾値はどれも正である。

* 0 以下の有限の 10 進数の変換値は、符号ビットが立つか `+0` なので、鍵は 0 の鍵を超えず、
  正の閾値を超えない（`key_toFloat_le_zero`）。
* 正の 10 進数の変換は単調である（`toFloat_mono`）。

だから有限の 10 進数 `n ≤ n'` では、`n` の変換値が正の閾値を超えれば `n'` の変換値も超える
（`lt_toFloat_of_le`）。確率は NaN でない `p ≤ p'` なので、推移律で足りる。
-/

namespace CrossPool

namespace Binary64

open Float.Model UnpackedFloat Decimal

theorem lt_of_lt_of_le {a b c : Float} (hab : a < b) (hbc : b ≤ c) : a < c := by
  obtain ⟨ha, hb⟩ := comparable_of_lt hab
  obtain ⟨-, hc⟩ := comparable_of_le hbc
  rw [lt_iff_key ha hb] at hab
  rw [le_iff_key hb hc] at hbc
  exact (lt_iff_key ha hc).mpr (hab.trans_le hbc)

/-! ## 負の符号 -/

/-- 符号ビットの立ったビット列の鍵は、0 の鍵を超えない。 -/
theorem orderKey_unpack_le_zero {b : BitVec Format.binary64.numBits} (hs : unpackSign b = 1#1) :
    orderKey (unpack Format.binary64 b) ≤ toLex (0, toLex (0, 0)) := by
  have hneg : Sign.ofBitVec (unpackSign b) = .negative := by rw [hs]; rfl
  unfold UnpackedFloat.unpack
  dsimp only
  rw [hneg]
  split_ifs <;> simp only [orderKey, le_refl] <;>
    exact Prod.Lex.toLex_le_toLex.mpr (.inl (by norm_num))

/-- 符号が負で、指数部と仮数部が符号ビットに届かない値の鍵は、0 の鍵を超えない。 -/
theorem key_assemble_true_le {be f : ℕ} (h : be * 2 ^ 52 + f < 2 ^ 63) :
    key (assemble true be f) ≤ toLex (0, toLex (0, 0)) := by
  have hb : (UInt64.ofNat (2 ^ 63 + be * 2 ^ 52 + f)).toBitVec.toNat = 2 ^ 63 + be * 2 ^ 52 + f := by
    rw [UInt64.toBitVec_ofNat', BitVec.toNat_ofNat]
    exact Nat.mod_eq_of_lt (by omega)
  simp only [assemble, if_true, Nat.pow_eq]
  rw [key_ofBits]
  refine orderKey_unpack_le_zero (BitVec.eq_of_toNat_eq ?_)
  rw [toNat_unpackSign, hb]
  simp only [BitVec.toNat_ofNat]
  omega

/-- `ofRatio` の値は、符号ビットの下に収まる指数部と仮数部を組み立てたもの。 -/
theorem ofRatio_eq_assemble (neg : Bool) (n d : ℕ) :
    ∃ be f, be * 2 ^ 52 + f < 2 ^ 63 ∧ ofRatio neg n d = assemble neg be f := by
  unfold ofRatio
  split
  · exact ⟨0, 0, by norm_num, rfl⟩
  · next h0 =>
    have hn : 0 < n := by simp only [Bool.or_eq_true, decide_eq_true_eq, not_or] at h0; omega
    have hd : 0 < d := by simp only [Bool.or_eq_true, decide_eq_true_eq, not_or] at h0; omega
    dsimp only
    rw [ofRatio_exponent hn hd]
    generalize hq : max (Int.log 2 ((n : ℚ) / d) - 52) (-1074) = q
    generalize hnum : (if 0 ≤ q then n else n * Nat.pow 2 (-q).toNat) = num
    generalize hden : (if 0 ≤ q then d * Nat.pow 2 q.toNat else d) = den
    obtain ⟨-, hle, -⟩ := scaled_mantissa hn hd hq hnum hden
    generalize divRoundEven num den = M at hle
    obtain ⟨m, q', hpair, hm⟩ : ∃ m q', (if M = Nat.pow 2 53 then (Nat.pow 2 52, q + 1)
        else (M, q)) = (m, q') ∧ m < 2 ^ 53 := by
      split
      · exact ⟨_, _, rfl, by simp only [Nat.pow_eq]; norm_num⟩
      · next hc => exact ⟨_, _, rfl, by simp only [Nat.pow_eq] at hc; omega⟩
    rw [hpair]
    dsimp only
    split
    · next hs => exact ⟨0, m, by simp only [Nat.pow_eq] at hs; omega, rfl⟩
    · split
      · exact ⟨2047, 0, by norm_num, rfl⟩
      · next hover =>
        exact ⟨(q' + 1075).toNat, m - Nat.pow 2 52, by simp only [Nat.pow_eq]; omega, rfl⟩

/-- 0 以下の有限の 10 進数を変換した値の鍵は、0 の鍵を超えない。 -/
theorem key_toFloat_le_zero {a : Decimal} (hf : a.isFinite = true) (h : a.value ≤ 0) {x : Float}
    (hx : a.toFloat? = some x) : key x ≤ toLex (0, toLex (0, 0)) := by
  rcases a with ⟨_ | _, c, e⟩ | _ | _
  · have hc : c = 0 := by
      by_contra hc
      exact absurd h (not_le.mpr (by simpa using magnitude_pos hc e))
    unfold toFloat? at hx
    dsimp only at hx
    rw [if_pos hc] at hx
    cases hx
    exact key_zero_false.2.le
  · unfold toFloat? at hx
    dsimp only at hx
    split_ifs at hx <;> cases hx
    · exact @key_assemble_true_le 0 0 (by norm_num)
    · exact @key_assemble_true_le 2047 0 (by norm_num)
    · exact @key_assemble_true_le 0 0 (by norm_num)
    all_goals
      obtain ⟨be, f, hbits, heq⟩ := ofRatio_eq_assemble true _ _
      rw [heq]
      exact key_assemble_true_le hbits
  · cases hf
  · cases hf

/-- 有限の 10 進数 `a ≤ b` の変換値では、`a` の変換値が正の閾値を超えれば `b` の変換値も超える。 -/
theorem lt_toFloat_of_le {t : Float} (ht : 0.0 < t) {a b : Decimal} (ha : a.isFinite = true)
    (hab : a.value ≤ b.value) {x y : Float} (hx : a.toFloat? = some x) (hy : b.toFloat? = some y)
    (htx : t < x) : t < y := by
  obtain ⟨hct, hcx⟩ := comparable_of_lt htx
  have h0t : key 0.0 < key t := (lt_iff_key (comparable_of_lt ht).1 hct).mp ht
  rw [key_zero] at h0t
  by_cases hpos : 0 < a.value
  · have hb : b.Plus := plus_of_pos (hpos.trans_le hab)
    have hxy := toFloat_mono (plus_of_pos hpos) hb hab hx hy
    exact (lt_iff_key hct (toFloat_bounds hb hy).1).mpr
      (((lt_iff_key hct hcx).mp htx).trans_le hxy)
  · have hx0 := key_toFloat_le_zero ha (not_lt.mp hpos) hx
    exact absurd ((lt_iff_key hct hcx).mp htx) (not_lt.mpr (hx0.trans h0t.le))

end Binary64

namespace Confidence

open Binary64

/-- 各段階の条件を満たせば、段階はそれ以上。表は上の段階から順に調べるので、上の段階の条件が
成り立てばもっと上になる。 -/
theorem le_rank_classify {p x : Float} :
    (0.8 < p ∧ 1.0 < x → 4 ≤ (classify p x).rank) ∧
      (0.6 < p ∧ 0.5 < x → 3 ≤ (classify p x).rank) ∧
      (0.4 < p ∧ 0.3 < x → 2 ≤ (classify p x).rank) ∧
      (0.2 < p → 1 ≤ (classify p x).rank) := by
  unfold classify
  refine ⟨?_, ?_, ?_, ?_⟩ <;> intro h <;> split_ifs <;> simp_all [rank]

/-- 確率が閾値を超えたままで、純利益率が正の閾値を超えたままなら、段階は下がらない。 -/
theorem rank_classify_le {p p' x y : Float} (hp : ∀ t : Float, t < p → t < p')
    (hx : ∀ t : Float, 0.0 < t → t < x → t < y) :
    (classify p x).rank ≤ (classify p' y).rank := by
  obtain ⟨h4, h3, h2, h1⟩ := le_rank_classify (p := p') (x := y)
  -- 左の段階を決めた条件は、右の入力でも成り立つ
  rw [classify]
  split_ifs with hV hH hM hL
  · simp only [Bool.and_eq_true, decide_eq_true_eq] at hV
    exact h4 ⟨hp _ hV.1, hx _ (by decide +kernel) hV.2⟩
  · simp only [Bool.and_eq_true, decide_eq_true_eq] at hH
    exact h3 ⟨hp _ hH.1, hx _ (by decide +kernel) hH.2⟩
  · simp only [Bool.and_eq_true, decide_eq_true_eq] at hM
    exact h2 ⟨hp _ hM.1, hx _ (by decide +kernel) hM.2⟩
  · exact h1 (hp _ hL)
  · exact Nat.zero_le _

/-- NaN でない確率 `p ≤ p'` と有限の 10 進数の純利益率 `n ≤ n'` では、純利益率はどちらも
浮動小数点数にでき、`(p, n)` の段階は `(p', n')` の段階を超えない。 -/
theorem rank_classify_mono {p p' : Float} (hp : p ≤ p') {n n' : Decimal}
    (hn : n.isFinite = true) (hn' : n'.isFinite = true) (hnn : n.value ≤ n'.value) :
    ∃ x y, Calc.toFloat n = .ok x ∧ Calc.toFloat n' = .ok y ∧
      (classify p x).rank ≤ (classify p' y).rank := by
  obtain ⟨x, hx⟩ := Calc.toFloat_of_isFinite hn
  obtain ⟨y, hy⟩ := Calc.toFloat_of_isFinite hn'
  refine ⟨x, y, hx, hy, rank_classify_le (fun t ht => lt_of_lt_of_le ht hp) ?_⟩
  intro t ht htx
  exact lt_toFloat_of_le ht hn hnn (Calc.toFloat_eq_ok hx) (Calc.toFloat_eq_ok hy) htx

/-- 確率を 0.3 から 0.7 に、純利益率を -2 から 0.6 に上げる。 -/
theorem rank_classify_mono_from_loss :
    (0.3 : Float) ≤ 0.7 ∧ (Decimal.finite true 2 0).isFinite = true ∧
      (Decimal.finite false 6 (-1)).isFinite = true ∧
      (Decimal.finite true 2 0).value ≤ (Decimal.finite false 6 (-1)).value ∧
      ∃ x y, Calc.toFloat (.finite true 2 0) = .ok x ∧ Calc.toFloat (.finite false 6 (-1)) = .ok y ∧
        (classify 0.3 x).rank ≤ (classify 0.7 y).rank := by
  have hp : (0.3 : Float) ≤ 0.7 := by decide +kernel
  have hle : (Decimal.finite true 2 0).value ≤ (Decimal.finite false 6 (-1)).value := by
    simp only [Decimal.value, Decimal.signedValue, Decimal.magnitude, if_true, Bool.false_eq_true,
      if_false]
    exact Decimal.coe_le_coe_iff.mpr (by norm_num)
  exact ⟨hp, rfl, rfl, hle, rank_classify_mono hp rfl rfl hle⟩

end Confidence

end CrossPool
