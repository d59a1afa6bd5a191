import CrossPool.Proofs.Binary64.Bits
import CrossPool.Proofs.Decimal.Monotone

/-!
# 有理数から浮動小数点数への丸めの単調性

`ofRatio false n d` は正の有理数 `n / d` を最も近い `Float` にする。先頭の位 `k`
（`2^k ≤ n / d < 2^(k+1)`）から単位の指数 `q = max (k - 52) (-1074)` を決め、`n / d / 2^q` を
偶数丸めした仮数 `m` を作る。仮数が `2^53` に繰り上がれば、仮数を半分にして指数を一つ
上げる。こうしてできた組 `(m, q)` は正規化されていて（`Normal`）、値 `m * 2^q` は
`roundDigits 2 53 (-1074)` の値である（`ofRatio_spec`）。

正規化された二つの組では、値の順序が指数と仮数の辞書式順序を決める（`Normal.lex_le`）。
丸めは単調なので、`ofRatio` は鍵の順序で単調である（`ofRatio_mono`）。10 進数からの変換
`toFloat?` は、先頭の位が大きすぎる値を無限大に、小さすぎる値を 0 にするほかは `ofRatio`
なので、0 以上の値の上で単調である（`toFloat_mono`）。
-/

namespace CrossPool.Binary64

open Decimal

/-! ## 正規化された有限値 -/

/-- 正規化された正の有限値 `m * 2^q`：仮数は 53 bit 未満で、非正規化数を除けば 52 bit 目が立つ。 -/
structure Normal (m : ℕ) (q : ℤ) : Prop where
  lt : m < 2 ^ 53
  norm : 2 ^ 52 ≤ m ∨ q = -1074
  ge : -1074 ≤ q

/-- 正規化された組では、値が小さいほうが指数と仮数の辞書式順序でも小さい。 -/
theorem Normal.lex_le {m₁ m₂ : ℕ} {q₁ q₂ : ℤ} (h₁ : Normal m₁ q₁) (h₂ : Normal m₂ q₂)
    (hv : (m₁ : ℚ) * 2 ^ q₁ ≤ m₂ * 2 ^ q₂) : toLex (q₁, (m₁ : ℤ)) ≤ toLex (q₂, (m₂ : ℤ)) := by
  rw [Prod.Lex.toLex_le_toLex]
  rcases lt_trichotomy q₁ q₂ with hlt | rfl | hgt
  · exact .inl hlt
  · refine .inr ⟨rfl, ?_⟩
    show (m₁ : ℤ) ≤ m₂
    exact_mod_cast le_of_mul_le_mul_right hv (zpow_pos (by norm_num) q₁)
  · -- 指数が大きいほうは正規化数で、値は `2^52 * 2^q₁ ≥ 2^53 * 2^q₂` 以上
    exfalso
    have hn : 2 ^ 52 ≤ m₁ := h₁.norm.resolve_right (by have := h₂.ge; omega)
    have hlt : (m₂ : ℚ) * 2 ^ q₂ < m₁ * 2 ^ q₁ :=
      calc (m₂ : ℚ) * 2 ^ q₂ < 2 ^ 53 * 2 ^ q₂ := by
            gcongr
            exact_mod_cast h₂.lt
        _ = 2 ^ 52 * 2 ^ (q₂ + 1) := by rw [zpow_add_one₀ (by norm_num)]; ring
        _ ≤ 2 ^ 52 * 2 ^ q₁ := by gcongr <;> [norm_num; omega]
        _ ≤ m₁ * 2 ^ q₁ := by
            gcongr
            exact_mod_cast hn
    linarith

/-- 正規化された正の有限値の鍵。仮数が 0 なら 0 の鍵。 -/
def finiteKey (m : ℕ) (q : ℤ) : ℤ ×ₗ ℤ ×ₗ ℤ :=
  if m = 0 then toLex (0, toLex (0, 0)) else toLex (1, toLex (q, (m : ℤ)))

theorem finiteKey_mono {m₁ m₂ : ℕ} {q₁ q₂ : ℤ} (h₁ : Normal m₁ q₁) (h₂ : Normal m₂ q₂)
    (hv : (m₁ : ℚ) * 2 ^ q₁ ≤ m₂ * 2 ^ q₂) : finiteKey m₁ q₁ ≤ finiteKey m₂ q₂ := by
  unfold finiteKey
  rcases Nat.eq_zero_or_pos m₁ with rfl | hm₁
  · rw [if_pos rfl]
    split
    · exact le_rfl
    · exact Prod.Lex.toLex_le_toLex.mpr (.inl (show (0 : ℤ) < 1 by norm_num))
  · have hm₂ : m₂ ≠ 0 := by
      rintro rfl
      have : (0 : ℚ) < m₁ * 2 ^ q₁ := by positivity
      simp at hv
      linarith
    rw [if_neg hm₁.ne', if_neg hm₂, Prod.Lex.toLex_le_toLex]
    exact .inr ⟨rfl, h₁.lex_le h₂ hv⟩

/-! ## 先頭の位 -/

theorem ratioAtLeastPow2_iff (n : ℕ) {d : ℕ} (hd : 0 < d) (k : ℤ) :
    ratioAtLeastPow2 n d k = true ↔ (2 : ℚ) ^ k ≤ n / d := by
  have hd' : (0 : ℚ) < d := by exact_mod_cast hd
  unfold ratioAtLeastPow2
  rw [le_div_iff₀ hd']
  split
  · next hk =>
    have hz : ((2 : ℚ) ^ k.toNat) = 2 ^ k := by rw [← zpow_natCast, Int.toNat_of_nonneg hk]
    rw [decide_eq_true_iff, Nat.pow_eq, ← Nat.cast_le (α := ℚ)]
    push_cast
    rw [hz, mul_comm]
  · next hk =>
    have hz : ((2 : ℚ) ^ (-k).toNat) = (2 ^ k)⁻¹ := by
      rw [← zpow_natCast, Int.toNat_of_nonneg (by omega), zpow_neg]
    rw [decide_eq_true_iff, Nat.pow_eq, ← Nat.cast_le (α := ℚ)]
    push_cast
    rw [hz, ← div_eq_mul_inv, le_div_iff₀ (zpow_pos (by norm_num) k), mul_comm]

/-- `ofRatio` が求める先頭の位は、`n / d` の先頭の位。 -/
theorem ofRatio_exponent {n d : ℕ} (hn : 0 < n) (hd : 0 < d) :
    (if ratioAtLeastPow2 n d ((n.log2 : ℤ) - d.log2) then (n.log2 : ℤ) - d.log2
      else (n.log2 : ℤ) - d.log2 - 1) = Int.log 2 ((n : ℚ) / d) := by
  have hd' : (0 : ℚ) < d := by exact_mod_cast hd
  -- `2^(log2 n - log2 d - 1) < n / d < 2^(log2 n - log2 d + 1)`
  have hn₁ : (2 : ℚ) ^ n.log2 ≤ n := by exact_mod_cast Nat.log2_self_le hn.ne'
  have hn₂ : (n : ℚ) < 2 ^ (n.log2 + 1) := by exact_mod_cast Nat.lt_log2_self
  have hd₁ : (2 : ℚ) ^ d.log2 ≤ d := by exact_mod_cast Nat.log2_self_le hd.ne'
  have hd₂ : (d : ℚ) < 2 ^ (d.log2 + 1) := by exact_mod_cast Nat.lt_log2_self
  set k₀ : ℤ := (n.log2 : ℤ) - d.log2
  have hsplit : ∀ a b : ℕ, (2 : ℚ) ^ ((a : ℤ) - b) = 2 ^ a / 2 ^ b := fun a b => by
    rw [zpow_sub₀ (by norm_num), zpow_natCast, zpow_natCast]
  have hlo : (2 : ℚ) ^ (k₀ - 1) < n / d := by
    rw [show k₀ - 1 = (n.log2 : ℤ) - (d.log2 + 1 : ℕ) by push_cast; ring, hsplit,
      div_lt_div_iff₀ (by positivity) hd']
    calc (2 : ℚ) ^ n.log2 * d < 2 ^ n.log2 * 2 ^ (d.log2 + 1) := by gcongr
      _ ≤ n * 2 ^ (d.log2 + 1) := by gcongr
  have hhi : (n : ℚ) / d < 2 ^ (k₀ + 1) := by
    rw [show k₀ + 1 = ((n.log2 + 1 : ℕ) : ℤ) - d.log2 by push_cast; ring, hsplit,
      div_lt_div_iff₀ hd' (by positivity)]
    calc (n : ℚ) * 2 ^ d.log2 < 2 ^ (n.log2 + 1) * 2 ^ d.log2 := by gcongr
      _ ≤ 2 ^ (n.log2 + 1) * d := by gcongr
  split
  · next h =>
    exact (log_eq_of_bounds (by norm_num) (by exact_mod_cast (ratioAtLeastPow2_iff n hd k₀).mp h)
      (by exact_mod_cast hhi)).symm
  · next h =>
    have hlt : (n : ℚ) / d < 2 ^ k₀ := not_le.mp fun h' => h ((ratioAtLeastPow2_iff n hd k₀).mpr h')
    exact (log_eq_of_bounds (by norm_num) (by exact_mod_cast hlo.le)
      (by rw [sub_add_cancel]; exact_mod_cast hlt)).symm

/-! ## 丸め -/

theorem key_zero_false : Comparable (zero false) ∧ key (zero false) = toLex (0, toLex (0, 0)) := by
  obtain ⟨hc, hk⟩ := @key_assemble 0 0 (by norm_num) (by norm_num)
  exact ⟨hc, by rw [zero, hk]; simp⟩

theorem key_infinity_false :
    Comparable (infinity false) ∧ key (infinity false) = toLex (2, toLex (0, 0)) :=
  ⟨by decide +kernel, by decide +kernel⟩

/-- 単位 `2^q` での仮数。`n / d / 2^q` の偶数丸めで、その値は `roundDigits 2 53 (-1074)`。
仮数は `2^53` 以下で、単位が先頭の位の 52 桁下なら `2^52` 以上。 -/
theorem scaled_mantissa {n d : ℕ} (hn : 0 < n) (hd : 0 < d) {q : ℤ}
    (hq : max (Int.log 2 ((n : ℚ) / d) - 52) (-1074) = q) {num den : ℕ}
    (hnum : (if 0 ≤ q then n else n * Nat.pow 2 (-q).toNat) = num)
    (hden : (if 0 ≤ q then d * Nat.pow 2 q.toNat else d) = den) :
    (divRoundEven num den : ℚ) * 2 ^ q = roundDigits 2 53 (-1074) (n / d) ∧
      divRoundEven num den ≤ 2 ^ 53 ∧ (q ≠ -1074 → 2 ^ 52 ≤ divRoundEven num den) := by
  set r : ℚ := n / d with hr
  have hr0 : 0 < r := by positivity
  have hpow : (0 : ℚ) < 2 ^ q := zpow_pos (by norm_num) q
  have hden0 : 0 < den := by
    rw [← hden]
    split
    · exact Nat.mul_pos hd (Nat.pow_pos (by norm_num))
    · exact hd
  have hratio : (num : ℚ) / den = r / 2 ^ q := by
    rw [← hnum, ← hden, hr]
    split
    · next h =>
      have hz : ((2 : ℚ) ^ q.toNat) = 2 ^ q := by rw [← zpow_natCast, Int.toNat_of_nonneg h]
      simp only [Nat.pow_eq, Nat.cast_mul, Nat.cast_pow, Nat.cast_ofNat, hz]
      field_simp
    · next h =>
      have hz : ((2 : ℚ) ^ (-q).toNat) = (2 ^ q)⁻¹ := by
        rw [← zpow_natCast, Int.toNat_of_nonneg (by omega), zpow_neg]
      simp only [Nat.pow_eq, Nat.cast_mul, Nat.cast_pow, Nat.cast_ofNat, hz]
      field_simp
  have hround : (divRoundEven num den : ℤ) = roundEven (r / 2 ^ q) := by
    rw [divRoundEven_eq_roundEven num hden0, hratio]
  have hquantum : quantum 2 53 (-1074) r = q := by
    rw [← hq]
    unfold quantum
    congr 1
    push_cast
    ring
  have hK₁ : (2 : ℚ) ^ Int.log 2 r ≤ r := by
    simpa using Int.zpow_log_le_self (b := 2) (by norm_num) hr0
  have hK₂ : r < (2 : ℚ) ^ (Int.log 2 r + 1) := by
    simpa using Int.lt_zpow_succ_log_self (b := 2) (by norm_num) r
  refine ⟨?_, ?_, ?_⟩
  · unfold roundDigits roundAt
    rw [hquantum, Nat.cast_ofNat, ← hround, Int.cast_natCast]
  · have hle : r / 2 ^ q ≤ ((2 ^ 53 : ℕ) : ℤ) := by
      rw [div_le_iff₀ hpow, Int.cast_natCast, Nat.cast_pow, Nat.cast_ofNat, ← zpow_natCast,
        ← zpow_add₀ two_ne_zero]
      exact hK₂.le.trans (zpow_le_zpow_right₀ (by norm_num) (by omega))
    have := (roundEven_mono hle).trans_eq (roundEven_intCast _)
    rw [← hround] at this
    exact_mod_cast this
  · intro hq'
    have hge : (((2 ^ 52 : ℕ) : ℤ) : ℚ) ≤ r / 2 ^ q := by
      rw [le_div_iff₀ hpow, Int.cast_natCast, Nat.cast_pow, Nat.cast_ofNat, ← zpow_natCast,
        ← zpow_add₀ two_ne_zero, show ((52 : ℕ) : ℤ) + q = Int.log 2 r by omega]
      exact hK₁
    have := (roundEven_intCast _).symm.trans_le (roundEven_mono hge)
    rw [← hround] at this
    exact_mod_cast this

/-- 正の `n / d` の丸め：正規化された組 `(m, q)` で、値は `roundDigits 2 53 (-1074)`。
指数が 971 を超えれば無限大、そうでなければ鍵は組の鍵。 -/
theorem ofRatio_spec {n d : ℕ} (hn : 0 < n) (hd : 0 < d) :
    ∃ m q, Normal m q ∧ (m : ℚ) * 2 ^ q = roundDigits 2 53 (-1074) (n / d) ∧
      Comparable (ofRatio false n d) ∧
      key (ofRatio false n d) = if 971 < q then toLex (2, toLex (0, 0)) else finiteKey m q := by
  unfold ofRatio
  rw [if_neg (by simp; omega)]
  dsimp only
  rw [ofRatio_exponent hn hd]
  generalize hq : max (Int.log 2 ((n : ℚ) / d) - 52) (-1074) = q
  generalize hnum : (if 0 ≤ q then n else n * Nat.pow 2 (-q).toNat) = num
  generalize hden : (if 0 ≤ q then d * Nat.pow 2 q.toNat else d) = den
  obtain ⟨hval, hle, hge⟩ := scaled_mantissa hn hd hq hnum hden
  generalize divRoundEven num den = M at hval hle hge
  have hq0 : -1074 ≤ q := hq ▸ le_max_right _ _
  -- 繰り上がりのあとの組は正規化されていて、値は変わらない
  obtain ⟨m, q', hpair, hnorm, hval'⟩ : ∃ m q', (if M = Nat.pow 2 53 then (Nat.pow 2 52, q + 1)
      else (M, q)) = (m, q') ∧ Normal m q' ∧ (m : ℚ) * 2 ^ q' = M * 2 ^ q := by
    split
    · next hc =>
      refine ⟨_, _, rfl, ⟨by simp [Nat.pow_eq], .inl (by simp [Nat.pow_eq]), by omega⟩, ?_⟩
      rw [hc, zpow_add_one₀ (by norm_num)]
      simp only [Nat.pow_eq, Nat.cast_pow, Nat.cast_ofNat]
      ring
    · next hc =>
      refine ⟨_, _, rfl, ⟨by simp only [Nat.pow_eq] at hc; omega, ?_, hq0⟩, rfl⟩
      by_cases h : q = -1074
      · exact .inr h
      · exact .inl (hge h)
  rw [hpair]
  dsimp only
  refine ⟨m, q', hnorm, hval'.trans hval, ?_⟩
  have hq'0 := hnorm.ge
  split
  · next hsmall =>
    have hq' : q' = -1074 := hnorm.norm.resolve_left (by simp only [Nat.pow_eq] at hsmall; omega)
    obtain ⟨hc, hk⟩ := @key_assemble 0 _ (by norm_num) (by simpa only [Nat.pow_eq] using hsmall)
    refine ⟨hc, ?_⟩
    rw [hk, hq']
    simp [finiteKey]
  · next hbig =>
    have hm : 2 ^ 52 ≤ m := by simp only [Nat.pow_eq] at hbig; omega
    split
    · next hover =>
      exact ⟨key_infinity_false.1, by rw [if_pos (by omega)]; exact key_infinity_false.2⟩
    · next hover =>
      obtain ⟨hc, hk⟩ := @key_assemble (q' + 1075).toNat (m - Nat.pow 2 52) (by omega)
        (by simp only [Nat.pow_eq]; have := hnorm.lt; omega)
      have hbe : ((q' + 1075).toNat : ℤ) - 1075 = q' := by omega
      have hf : m - Nat.pow 2 52 + 2 ^ 52 = m := by simp only [Nat.pow_eq]; omega
      refine ⟨hc, ?_⟩
      rw [hk, if_neg (by omega), if_neg (by omega), finiteKey, if_neg (by omega), hbe, hf]

theorem finiteKey_lt_top (m : ℕ) (q : ℤ) : finiteKey m q < toLex (2, toLex (0, 0)) := by
  unfold finiteKey
  split <;> exact Prod.Lex.toLex_lt_toLex.mpr (.inl (by norm_num))

theorem ofRatio_mono {n₁ d₁ n₂ d₂ : ℕ} (hn₁ : 0 < n₁) (hd₁ : 0 < d₁) (hn₂ : 0 < n₂)
    (hd₂ : 0 < d₂) (h : (n₁ : ℚ) / d₁ ≤ n₂ / d₂) :
    key (ofRatio false n₁ d₁) ≤ key (ofRatio false n₂ d₂) := by
  obtain ⟨m₁, q₁, hN₁, hv₁, -, hk₁⟩ := ofRatio_spec hn₁ hd₁
  obtain ⟨m₂, q₂, hN₂, hv₂, -, hk₂⟩ := ofRatio_spec hn₂ hd₂
  have hv : (m₁ : ℚ) * 2 ^ q₁ ≤ m₂ * 2 ^ q₂ := by
    rw [hv₁, hv₂]
    exact roundDigits_mono (by norm_num) (by norm_num) (by positivity) h
  -- 指数は値とともに大きくなるので、小さいほうだけが溢れることはない
  have hq : q₁ ≤ q₂ := by
    rcases Prod.Lex.toLex_le_toLex.mp (hN₁.lex_le hN₂ hv) with hlt | ⟨heq, -⟩
    · exact hlt.le
    · exact heq.le
  rw [hk₁, hk₂]
  split_ifs with h₁ h₂ h₂
  · exact le_rfl
  · omega
  · exact (finiteKey_lt_top _ _).le
  · exact finiteKey_mono hN₁ hN₂ hv

/-! ## 10 進数からの変換 -/

/-- 正の有理数の丸めは、`+0` と `+∞` の間の NaN でない値。 -/
theorem ofRatio_bounds {n d : ℕ} (hn : 0 < n) (hd : 0 < d) :
    Comparable (ofRatio false n d) ∧ key (zero false) ≤ key (ofRatio false n d) ∧
      key (ofRatio false n d) ≤ key (infinity false) := by
  obtain ⟨m, q, -, -, hc, hk⟩ := ofRatio_spec hn hd
  rw [hk, key_zero_false.2, key_infinity_false.2]
  refine ⟨hc, ?_, ?_⟩ <;> split
  · exact Prod.Lex.toLex_le_toLex.mpr (.inl (by norm_num))
  · unfold finiteKey
    split
    · exact le_rfl
    · exact Prod.Lex.toLex_le_toLex.mpr (.inl (by norm_num))
  · exact le_rfl
  · exact (finiteKey_lt_top m q).le

/-- 係数と指数の組の正確な値は、変換が丸める比 `n / d`。 -/
theorem ratio_eq_magnitude (c : ℕ) (e : ℤ) :
    (if 0 ≤ e then (((c * Nat.pow 10 e.toNat : ℕ) : ℚ) / ((1 : ℕ) : ℚ))
      else (c : ℚ) / ((Nat.pow 10 (-e).toNat : ℕ) : ℚ)) = magnitude c e := by
  unfold magnitude
  split
  · next h =>
    rw [Nat.cast_one, div_one, Nat.pow_eq, Nat.cast_mul, Nat.cast_pow, Nat.cast_ofNat,
      ← zpow_natCast, Int.toNat_of_nonneg h]
  · next h =>
    rw [Nat.pow_eq, Nat.cast_pow, Nat.cast_ofNat, ← zpow_natCast, Int.toNat_of_nonneg (by omega),
      div_eq_mul_inv, ← zpow_neg, neg_neg]

/-- 符号の立たない 10 進数の変換は、`+0` と `+∞` の間の NaN でない値。 -/
theorem toFloat_bounds {a : Decimal} (ha : a.Plus) {x : Float} (hx : a.toFloat? = some x) :
    Comparable x ∧ key (zero false) ≤ key x ∧ key x ≤ key (infinity false) := by
  have hz := key_zero_false
  have hi := key_infinity_false
  have hzi : key (zero false) ≤ key (infinity false) := by
    rw [hz.2, hi.2]
    exact Prod.Lex.toLex_le_toLex.mpr (.inl (by norm_num))
  cases ha with
  | infinity =>
    cases hx
    exact ⟨hi.1, hzi, le_rfl⟩
  | finite c e =>
    unfold toFloat? at hx
    dsimp only at hx
    split_ifs at hx with hc hbig hsmall he <;> cases hx
    · exact ⟨hz.1, le_rfl, hzi⟩
    · exact ⟨hi.1, hzi, le_rfl⟩
    · exact ⟨hz.1, le_rfl, hzi⟩
    · exact ofRatio_bounds (Nat.mul_pos (Nat.pos_of_ne_zero hc) (Nat.pow_pos (by norm_num)))
        Nat.one_pos
    · exact ofRatio_bounds (Nat.pos_of_ne_zero hc) (Nat.pow_pos (by norm_num))

/-- 0 でない二つの係数では、調整済み指数は大きさとともに大きくなる。 -/
theorem adjusted_mono {ca cb : ℕ} (ha : ca ≠ 0) (hb : cb ≠ 0) {ea eb : ℤ}
    (h : magnitude ca ea ≤ magnitude cb eb) : adjusted ca ea ≤ adjusted cb eb := by
  rw [← log_magnitude ha, ← log_magnitude hb]
  exact Int.log_mono_right (magnitude_pos ha ea) h

/-- 変換した値を丸める前の比。0 でなく、先頭の位が閾値の間にあるとき。 -/
theorem toFloat_eq_ofRatio {c : ℕ} (hc : c ≠ 0) (e : ℤ) (hbig : ¬ 310 < adjusted c e)
    (hsmall : ¬ adjusted c e < -330) : ∃ n d : ℕ, 0 < n ∧ 0 < d ∧ (n : ℚ) / d = magnitude c e ∧
      (Decimal.finite false c e).toFloat? = some (ofRatio false n d) := by
  have hr := ratio_eq_magnitude c e
  unfold toFloat?
  dsimp only
  rw [if_neg hc, if_neg hbig, if_neg hsmall]
  split
  · next he =>
    rw [if_pos he] at hr
    exact ⟨_, _, Nat.mul_pos (Nat.pos_of_ne_zero hc) (Nat.pow_pos (by norm_num)), Nat.one_pos,
      hr, rfl⟩
  · next he =>
    rw [if_neg he] at hr
    exact ⟨_, _, Nat.pos_of_ne_zero hc, Nat.pow_pos (by norm_num), hr, rfl⟩

/-- 符号の立たない 10 進数の変換は、値の順序を鍵の順序に写す。 -/
theorem toFloat_mono {a b : Decimal} (ha : a.Plus) (hb : b.Plus) (hab : a.value ≤ b.value)
    {x y : Float} (hx : a.toFloat? = some x) (hy : b.toFloat? = some y) : key x ≤ key y := by
  have bx := toFloat_bounds ha hx
  have byy := toFloat_bounds hb hy
  cases hb with
  | infinity =>
    cases hy
    exact bx.2.2
  | finite cb eb =>
    cases ha with
    | infinity => exact absurd hab (not_top_le_coe _)
    | finite ca ea =>
      have hm : magnitude ca ea ≤ magnitude cb eb := by simpa [coe_le_coe_iff] using hab
      by_cases hca : ca = 0
      · unfold toFloat? at hx
        dsimp only at hx
        rw [if_pos hca] at hx
        cases hx
        exact byy.2.1
      have hcb : cb ≠ 0 := by
        rintro rfl
        have := magnitude_pos hca ea
        rw [magnitude_zero] at hm
        linarith
      have hadj := adjusted_mono hca hcb hm
      by_cases hbig : 310 < adjusted cb eb
      · unfold toFloat? at hy
        dsimp only at hy
        rw [if_neg hcb, if_pos hbig] at hy
        cases hy
        exact bx.2.2
      by_cases hsmall : adjusted ca ea < -330
      · unfold toFloat? at hx
        dsimp only at hx
        rw [if_neg hca, if_neg (by omega), if_pos hsmall] at hx
        cases hx
        exact byy.2.1
      obtain ⟨n₁, d₁, hn₁, hd₁, hr₁, hx'⟩ := toFloat_eq_ofRatio hca ea (by omega) hsmall
      obtain ⟨n₂, d₂, hn₂, hd₂, hr₂, hy'⟩ := toFloat_eq_ofRatio hcb eb hbig (by omega)
      rw [hx', Option.some.injEq] at hx
      rw [hy', Option.some.injEq] at hy
      rw [← hx, ← hy]
      exact ofRatio_mono hn₁ hd₁ hn₂ hd₂ (by rw [hr₁, hr₂]; exact hm)

end CrossPool.Binary64
