import Mathlib.Tactic.FieldSimp
import CrossPool.Proofs.Decimal.Rounding
import CrossPool.Proofs.Decimal.Order

/-!
# 丸めた演算の値

`Context.fix` は正確な大きさを精度 `prec` 桁に最近接偶数で丸め、符号はそのまま残す
（`fix_eq_ok`）。丸めの単位は、先頭の位から `prec - 1` 桁下の位と `etiny` の大きいほうで、
`roundDigits 10 prec etiny` と同じである。繰り上がって `prec + 1` 桁になった係数は `10^prec`
なので、1 桁落としても値は変わらない。

積は正確な積を丸めたもの（`mul_finite_eq_ok`）。商も正確な商を丸めたもの
（`divFinite_eq_ok`）である。商は `prec + 1` 桁以上求め、割り切れなければ、最下位が 0 か 5
のときだけ 1 を足す。丸めの境目と桁の境目はどれも 5 の倍数なので、正確な商と 1 を足した
商はどの境目とも同じ側にあり、同じ値に丸まる（`roundDigits_eq_of_sideOfFives`）。
-/

namespace CrossPool.Decimal

/-- context の精度と最小の指数への丸め。 -/
def Context.round (ctx : Context) (x : ℚ) : ℚ := roundDigits 10 ctx.prec ctx.etiny x

@[simp] theorem Context.round_zero (ctx : Context) : ctx.round 0 = 0 := roundDigits_zero _ _ _

/-! ## 大きさと先頭の位 -/

theorem magnitude_mul (ca cb : ℕ) (ea eb : ℤ) :
    magnitude (ca * cb) (ea + eb) = magnitude ca ea * magnitude cb eb := by
  simp only [magnitude, Nat.cast_mul, zpow_add₀ (show (10 : ℚ) ≠ 0 by norm_num)]
  ring

theorem log10_eq_of_bounds {x : ℚ} {E : ℤ} (h₁ : (10 : ℚ) ^ E ≤ x) (h₂ : x < 10 ^ (E + 1)) :
    Int.log 10 x = E :=
  log_eq_of_bounds (by norm_num) (by exact_mod_cast h₁) (by exact_mod_cast h₂)

theorem log_magnitude {c : ℕ} (hc : c ≠ 0) (e : ℤ) : Int.log 10 (magnitude c e) = adjusted c e :=
  log10_eq_of_bounds (pow_le_magnitude hc e) (magnitude_lt_pow c e)

theorem log_mul_zpow {x : ℚ} (hx : 0 < x) (e : ℤ) : Int.log 10 (x * 10 ^ e) = Int.log 10 x + e := by
  have h10 : (0 : ℚ) < 10 ^ e := zpow_pos (by norm_num) e
  have h₁ : ((10 : ℕ) : ℚ) ^ Int.log 10 x ≤ x := Int.zpow_log_le_self (by norm_num) hx
  have h₂ : x < ((10 : ℕ) : ℚ) ^ (Int.log 10 x + 1) := Int.lt_zpow_succ_log_self (by norm_num) x
  push_cast at h₁ h₂
  apply log10_eq_of_bounds
  · rw [zpow_add₀ (by norm_num)]
    exact mul_le_mul_of_nonneg_right h₁ h10.le
  · rw [show Int.log 10 x + e + 1 = Int.log 10 x + 1 + e by ring, zpow_add₀ (by norm_num)]
    exact mul_lt_mul_of_pos_right h₂ h10

/-- 0 でない値の丸めの単位は、先頭の位から `prec - 1` 桁下か `etiny` の大きいほう。 -/
theorem round_magnitude (ctx : Context) {c : ℕ} (hc : c ≠ 0) (e : ℤ) :
    ctx.round (magnitude c e) =
      roundAt 10 (max ((digitCount c : ℤ) + e - ctx.prec) ctx.etiny) (magnitude c e) := by
  unfold Context.round roundDigits quantum
  rw [log_magnitude hc]
  unfold adjusted
  congr 2
  omega

/-! ## 係数の下の桁を落とす -/

theorem roundEven_eq_zero {x : ℚ} (h₀ : 0 ≤ x) (h : x < 1 / 2) : roundEven x = 0 := by
  have hfloor : ⌊x⌋ = 0 := Int.floor_eq_iff.mpr ⟨by simpa using h₀, by push_cast; linarith⟩
  unfold roundEven
  rw [hfloor, if_pos (by push_cast; linarith)]

/-- 下から `k` 桁を落とした係数は、`c / 10^k` の最近接偶数への丸め。 -/
theorem dropDigits_eq_roundEven (c k : ℕ) : (dropDigits c k : ℤ) = roundEven (c / 10 ^ k) := by
  have hpow : (0 : ℚ) < 10 ^ k := by positivity
  unfold dropDigits
  split
  · next hlt =>
    have hc : (c : ℚ) < 10 ^ (k - 1) := by
      exact_mod_cast (lt_pow_digitCount c).trans_le (Nat.pow_le_pow_right (by norm_num) (by omega))
    have hk : (10 : ℚ) ^ k = 10 * 10 ^ (k - 1) := by
      rw [← pow_succ', Nat.sub_add_cancel (by omega)]
    rw [roundEven_eq_zero (by positivity)]
    · rfl
    · rw [div_lt_iff₀ hpow, hk]
      linarith
  · rw [divRoundEven_eq_roundEven c (Nat.pos_of_ne_zero (by simp [Nat.pow_eq]))]
    simp [Nat.pow_eq]

/-- 指数 `e` の係数を単位 `10^Q`（`e < Q`）まで丸めると、大きさの `roundAt`。 -/
theorem magnitude_dropDigits (c : ℕ) {e Q : ℤ} (h : e < Q) :
    magnitude (dropDigits c (Q - e).toNat) Q = roundAt 10 Q (magnitude c e) := by
  have hk : ((10 : ℚ) ^ (Q - e).toNat) = 10 ^ Q / 10 ^ e := by
    rw [← zpow_natCast, Int.toNat_of_nonneg (by omega), zpow_sub₀ (by norm_num)]
  have hrat : magnitude c e / 10 ^ Q = c / 10 ^ (Q - e).toNat := by
    rw [hk, magnitude]
    field_simp
  unfold roundAt
  push_cast
  rw [hrat, ← dropDigits_eq_roundEven]
  simp [magnitude]

/-- 単位 `10^Q` で、`Q ≤ e` の値はその倍数。 -/
theorem magnitude_eq_mul_zpow (c : ℕ) {e Q : ℤ} (h : Q ≤ e) :
    magnitude c e = ((c * 10 ^ (e - Q).toNat : ℕ) : ℤ) * ((10 : ℕ) : ℚ) ^ Q := by
  push_cast
  rw [mul_assoc, ← zpow_natCast, ← zpow_add₀ (by norm_num), Int.toNat_of_nonneg (by omega),
    sub_add_cancel, magnitude]

/-- 係数 `c` の下から `k` 桁を、`k` が桁数と精度の差以上なら、落とした係数は `10^prec` 以下。 -/
theorem dropDigits_le {c k p : ℕ} (hk : digitCount c ≤ k + p) : dropDigits c k ≤ 10 ^ p := by
  have hpow : (0 : ℚ) < 10 ^ k := by positivity
  have hlt : (c : ℚ) / 10 ^ k ≤ ((10 ^ p : ℕ) : ℤ) := by
    rw [div_le_iff₀ hpow]
    push_cast
    rw [← pow_add]
    exact_mod_cast ((lt_pow_digitCount c).trans_le
      (Nat.pow_le_pow_right (by norm_num) (by omega))).le
  have h := (roundEven_mono hlt).trans_eq (roundEven_intCast _)
  rw [← dropDigits_eq_roundEven] at h
  exact_mod_cast h

/-! ## 丸め -/

/-- `fix` の結果は同じ符号の有限値で、その大きさは正確な大きさを丸めたもの。 -/
theorem fix_eq_ok {ctx : Context} (hp : 0 < ctx.prec) {neg : Bool} {c : ℕ} {e : ℤ}
    {r : Decimal} (h : ctx.fix neg c e = .ok r) :
    ∃ c' e', r = .finite neg c' e' ∧ magnitude c' e' = ctx.round (magnitude c e) := by
  unfold Context.fix at h
  dsimp only at h
  split_ifs at h with hc hover hlow hcarry hover'
  · cases h
    exact ⟨_, _, rfl, by simp [hc, magnitude_zero]⟩
  · -- 繰り上がり。落とした係数は `10^prec` なので、もう 1 桁落としても値は同じ
    cases h
    refine ⟨_, _, rfl, ?_⟩
    set Q := max ((digitCount c : ℤ) + e - ctx.prec) ctx.etiny
    have hle := dropDigits_le (c := c) (k := (Q - e).toNat) (p := ctx.prec) (by omega)
    have hne : dropDigits c (Q - e).toNat ≠ 0 := by
      intro h0
      rw [h0, digitCount_eq_log, Nat.log_zero_right] at hcarry
      omega
    have hge : 10 ^ ctx.prec ≤ dropDigits c (Q - e).toNat :=
      (Nat.pow_le_pow_right (by norm_num) (by omega)).trans (pow_digitCount_le hne)
    have heq : dropDigits c (Q - e).toNat = dropDigits c (Q - e).toNat / 10 * Nat.pow 10 1 := by
      rw [le_antisymm hle hge, Nat.pow_eq, pow_one]
      exact (Nat.div_mul_cancel (dvd_pow_self 10 hp.ne')).symm
    have hshift := magnitude_mul_pow (dropDigits c (Q - e).toNat / 10) Q 1
    rw [← heq, Nat.cast_one] at hshift
    rw [round_magnitude ctx hc, ← magnitude_dropDigits c hlow, hshift]
  · cases h
    exact ⟨_, _, rfl, by rw [round_magnitude ctx hc, magnitude_dropDigits c hlow]⟩
  · -- 指数が単位以上なら、値は単位の倍数で丸めても変わらない
    cases h
    refine ⟨_, _, rfl, ?_⟩
    rw [round_magnitude ctx hc, magnitude_eq_mul_zpow c (not_lt.mp hlow), roundAt_mul_zpow (by norm_num)]

/-- 有限値の積は、同じ規則の符号を持ち、大きさは正確な積を丸めたもの。 -/
theorem mul_finite_eq_ok {ctx : Context} (hp : 0 < ctx.prec) {na nb : Bool} {ca cb : ℕ}
    {ea eb : ℤ} {r : Decimal} (h : Decimal.mul ctx (.finite na ca ea) (.finite nb cb eb) = .ok r) :
    ∃ c' e', r = .finite (na != nb) c' e' ∧
      magnitude c' e' = ctx.round (magnitude ca ea * magnitude cb eb) := by
  rw [← magnitude_mul]
  exact fix_eq_ok hp h

/-! ## 商 -/

/-- 割り切れた商の末尾の 0 を落としても、大きさは変わらない。 -/
theorem pow_trailingZeros_dvd (c : ℕ) : 10 ^ trailingZeros c ∣ c := by
  induction c using Nat.strong_induction_on with
  | _ c ih =>
    unfold trailingZeros
    split
    · next h =>
      obtain ⟨k, hk⟩ := ih (c / 10) (by omega)
      refine ⟨k, ?_⟩
      rw [pow_succ, mul_right_comm, ← hk]
      omega
    · exact ⟨c, by simp⟩

theorem magnitude_towardIdeal (q : ℕ) (e ideal : ℤ) :
    magnitude (towardIdeal q e ideal).1 (towardIdeal q e ideal).2 = magnitude q e := by
  unfold towardIdeal
  dsimp only
  set k := min (trailingZeros q) (ideal - e).toNat
  have hdvd : 10 ^ k ∣ q := (Nat.pow_dvd_pow 10 (min_le_left _ _)).trans (pow_trailingZeros_dvd q)
  rw [← magnitude_mul_pow, Nat.pow_eq, Nat.div_mul_cancel hdvd]

/-- `x` と `y` は、どの 5 の倍数とも同じ側にある。丸めの境目と桁の境目はどれも 5 の倍数。 -/
def SideOfFives (x y : ℚ) : Prop :=
  ∀ M : ℤ, 5 ∣ M → (x < M ↔ y < M) ∧ ((M : ℚ) < x ↔ (M : ℚ) < y)

/-- 割り切れない商の整数部分に、最下位が 0 か 5 なら 1 を足すと、正確な商と同じ側にある。 -/
theorem sideOfFives_sticky {q : ℕ} {T : ℚ} (hlo : (q : ℚ) < T) (hhi : T < q + 1) :
    SideOfFives ((if q % 5 = 0 then q + 1 else q : ℕ) : ℚ) T := by
  intro M hM
  -- 正確な商との比較は、整数部分 `q` との比較
  have hT : T < M ↔ (q : ℤ) < M := by
    constructor
    · intro h
      exact_mod_cast hlo.trans h
    · intro h
      have : ((q : ℤ) : ℚ) + 1 ≤ M := by exact_mod_cast h
      push_cast at this
      linarith
  have hT' : (M : ℚ) < T ↔ M ≤ (q : ℤ) := by
    constructor
    · intro h
      have : (M : ℚ) < ((q : ℤ) : ℚ) + 1 := by push_cast; linarith
      exact Int.lt_add_one_iff.mp (by exact_mod_cast this)
    · intro h
      exact lt_of_le_of_lt (by exact_mod_cast h) hlo
  rw [hT, hT', ← Int.cast_natCast, Int.cast_lt, Int.cast_lt]
  split <;> omega

/-- 5 の倍数の `10^n`（`1 ≤ n`）。 -/
theorem exists_five_dvd_zpow {n : ℤ} (hn : 1 ≤ n) : ∃ M : ℤ, 5 ∣ M ∧ (M : ℚ) = 10 ^ n :=
  ⟨10 ^ n.toNat, Dvd.dvd.pow (by norm_num) (by omega), by
    push_cast
    rw [← zpow_natCast, Int.toNat_of_nonneg (by omega)]⟩

/-- 10 以上の値と同じ側にある値は、先頭の位が同じ。 -/
theorem log_eq_of_sideOfFives {x y : ℚ} (h : SideOfFives x y) (hx : 10 ≤ x) :
    Int.log 10 y = Int.log 10 x := by
  have hx0 : 0 < x := by linarith
  have h₁ : (10 : ℚ) ^ Int.log 10 x ≤ x := by
    simpa only [Nat.cast_ofNat] using Int.zpow_log_le_self (b := 10) (by norm_num) hx0
  have h₂ : x < (10 : ℚ) ^ (Int.log 10 x + 1) := by
    simpa only [Nat.cast_ofNat] using Int.lt_zpow_succ_log_self (b := 10) (by norm_num) x
  have hD : 1 ≤ Int.log 10 x :=
    (Int.zpow_le_iff_le_log (by norm_num) hx0).mp (by simpa using hx)
  obtain ⟨M₁, hM₁, hv₁⟩ := exists_five_dvd_zpow hD
  obtain ⟨M₂, hM₂, hv₂⟩ := exists_five_dvd_zpow (n := Int.log 10 x + 1) (by omega)
  apply log10_eq_of_bounds
  · rw [← hv₁]
    exact not_lt.mp fun hy => not_lt.mpr (hv₁ ▸ h₁) ((h M₁ hM₁).1.mpr hy)
  · rw [← hv₂]
    exact (h M₂ hM₂).1.mp (hv₂ ▸ h₂)

/-- 同じ側にある二つの値は、`10^k`（`1 ≤ k`）の倍数へ同じ値に丸まる。 -/
theorem roundEven_div_pow_eq {x y : ℚ} (h : SideOfFives x y) {k : ℕ} (hk : 1 ≤ k) :
    roundEven (x / 10 ^ k) = roundEven (y / 10 ^ k) := by
  have hpow : (0 : ℚ) < 10 ^ k := by positivity
  apply roundEven_congr
  intro j
  -- 半整数 `j / 2` に `10^k` を掛けると 5 の倍数
  have hM : (((j * (5 * 10 ^ (k - 1)) : ℤ) : ℚ)) = j / 2 * 10 ^ k := by
    have : (10 : ℚ) ^ k = 10 * 10 ^ (k - 1) := by
      rw [← pow_succ', Nat.sub_add_cancel hk]
    push_cast
    rw [this]
    ring
  have h5 : (5 : ℤ) ∣ j * (5 * 10 ^ (k - 1)) := ⟨j * 10 ^ (k - 1), by ring⟩
  obtain ⟨hlt, hgt⟩ := h _ h5
  rw [hM] at hlt hgt
  rw [div_lt_iff₀ hpow, div_lt_iff₀ hpow, lt_div_iff₀ hpow, lt_div_iff₀ hpow]
  exact ⟨hlt, hgt⟩

theorem mul_zpow_div_zpow (x : ℚ) {e Q : ℤ} (h : e ≤ Q) :
    x * 10 ^ e / 10 ^ Q = x / 10 ^ (Q - e).toNat := by
  rw [← zpow_natCast, Int.toNat_of_nonneg (by omega), zpow_sub₀ (by norm_num)]
  field_simp

/-- どの 5 の倍数とも同じ側にある二つの値は、`p` 桁以上あれば同じ値に丸まる。 -/
theorem roundDigits_eq_of_sideOfFives {p : ℕ} (hp : 1 ≤ p) (emin : ℤ) {x y : ℚ}
    (h : SideOfFives x y) (hx : 10 ^ p ≤ x) (e : ℤ) :
    roundDigits 10 p emin (x * 10 ^ e) = roundDigits 10 p emin (y * 10 ^ e) := by
  have h10 : (10 : ℚ) ≤ x := le_trans (by simpa using pow_le_pow_right₀ (by norm_num) hp) hx
  have hx0 : 0 < x := by linarith
  have hy0 : 0 < y := by exact_mod_cast (h 0 (dvd_zero 5)).2.mp (by exact_mod_cast hx0)
  have hlog := log_eq_of_sideOfFives h h10
  have hpD : (p : ℤ) ≤ Int.log 10 x :=
    (Int.zpow_le_iff_le_log (by norm_num) hx0).mp (by exact_mod_cast hx)
  unfold roundDigits quantum roundAt
  rw [log_mul_zpow hx0, log_mul_zpow hy0, hlog]
  have hQ : e ≤ max (Int.log 10 x + e + 1 - p) emin := le_trans (by omega) (le_max_left _ _)
  simp only [Nat.cast_ofNat]
  rw [mul_zpow_div_zpow x hQ, mul_zpow_div_zpow y hQ, roundEven_div_pow_eq h (by omega)]

/-- 商を `p + 1` 桁以上求める桁送り。正確な商は `num / den * 10^(ea - eb - shift)` で、
`num / den` は `10^p` より大きい。 -/
theorem scaled_quotient {ca cb p : ℕ} (hca : ca ≠ 0) (hcb : cb ≠ 0) (ea eb : ℤ) {shift : ℤ}
    {num den : ℕ} (hs : (digitCount cb : ℤ) - digitCount ca + p + 1 = shift)
    (hn : (if 0 ≤ shift then ca * Nat.pow 10 shift.toNat else ca) = num)
    (hd : (if 0 ≤ shift then cb else cb * Nat.pow 10 (-shift).toNat) = den) :
    0 < den ∧ 10 ^ p * den < num ∧
      (num : ℚ) / den * 10 ^ (ea - eb - shift) = magnitude ca ea / magnitude cb eb := by
  have hcb' : (cb : ℚ) ≠ 0 := by exact_mod_cast hcb
  have hlt := lt_pow_digitCount cb
  have hle := pow_digitCount_le hca
  have hda := digitCount_pos ca
  by_cases hsh : 0 ≤ shift
  · rw [if_pos hsh, Nat.pow_eq] at hn
    rw [if_pos hsh] at hd
    subst hn hd
    refine ⟨Nat.pos_of_ne_zero hcb, ?_, ?_⟩
    · calc 10 ^ p * cb < 10 ^ p * 10 ^ digitCount cb := Nat.mul_lt_mul_of_pos_left hlt (by positivity)
        _ = 10 ^ (digitCount ca - 1) * 10 ^ shift.toNat := by rw [← pow_add, ← pow_add]; congr 1; omega
        _ ≤ ca * 10 ^ shift.toNat := Nat.mul_le_mul_right _ hle
    · have hz : ((10 : ℚ) ^ shift.toNat) = 10 ^ shift := by
        rw [← zpow_natCast, Int.toNat_of_nonneg hsh]
      push_cast
      rw [hz, magnitude, magnitude, zpow_sub₀ (by norm_num), zpow_sub₀ (by norm_num)]
      field_simp
  · rw [if_neg hsh] at hn
    rw [if_neg hsh, Nat.pow_eq] at hd
    subst hn hd
    refine ⟨Nat.mul_pos (Nat.pos_of_ne_zero hcb) (by positivity), ?_, ?_⟩
    · calc 10 ^ p * (cb * 10 ^ (-shift).toNat) < 10 ^ p * (10 ^ digitCount cb * 10 ^ (-shift).toNat) :=
            Nat.mul_lt_mul_of_pos_left (Nat.mul_lt_mul_of_pos_right hlt (by positivity)) (by positivity)
        _ = 10 ^ (digitCount ca - 1) := by rw [← pow_add, ← pow_add]; congr 1; omega
        _ ≤ ca := hle
    · have hz : ((10 : ℚ) ^ (-shift).toNat) = 10 ^ (-shift) := by
        rw [← zpow_natCast, Int.toNat_of_nonneg (by omega)]
      push_cast
      rw [hz, magnitude, magnitude, zpow_neg, zpow_sub₀ (by norm_num), zpow_sub₀ (by norm_num)]
      field_simp

/-- 有限値の商は、同じ規則の符号を持ち、大きさは正確な商を丸めたもの。 -/
theorem divFinite_eq_ok {ctx : Context} (hp : 0 < ctx.prec) {na nb : Bool} {ca cb : ℕ}
    {ea eb : ℤ} {r : Decimal} (h : divFinite ctx na ca ea nb cb eb = .ok r) :
    ∃ c' e', r = .finite (na != nb) c' e' ∧
      magnitude c' e' = ctx.round (magnitude ca ea / magnitude cb eb) := by
  unfold divFinite at h
  dsimp only at h
  by_cases hcb : cb = 0
  · rw [if_pos hcb] at h
    split at h <;> cases h
  rw [if_neg hcb] at h
  by_cases hca : ca = 0
  · rw [if_pos hca] at h
    obtain ⟨c', e', hr, hm⟩ := fix_eq_ok hp h
    exact ⟨c', e', hr, by rw [hm, hca, magnitude_zero, magnitude_zero, zero_div]⟩
  rw [if_neg hca] at h
  generalize hs : (digitCount cb : ℤ) - digitCount ca + ctx.prec + 1 = shift at h
  generalize hn : (if 0 ≤ shift then ca * Nat.pow 10 shift.toNat else ca) = num at h
  generalize hd : (if 0 ≤ shift then cb else cb * Nat.pow 10 (-shift).toNat) = den at h
  obtain ⟨hden, hbig, hval⟩ := scaled_quotient hca hcb ea eb hs hn hd
  have hq : 10 ^ ctx.prec ≤ num / den := (Nat.le_div_iff_mul_le hden).mpr (by linarith)
  by_cases hrem : num % den = 0
  · rw [if_neg (not_not.mpr hrem)] at h
    obtain ⟨c', e', hr, hm⟩ := fix_eq_ok hp h
    refine ⟨c', e', hr, ?_⟩
    have hexact : ((num / den : ℕ) : ℚ) = num / den := by
      rw [natCast_div_eq num hden, hrem]
      simp
    rw [hm, magnitude_towardIdeal, ← hval, ← hexact]
    rfl
  · -- 割り切れない商。整数部分に付箋を付けても、正確な商と同じ値に丸まる
    rw [if_pos hrem] at h
    obtain ⟨c', e', hr, hm⟩ := fix_eq_ok hp h
    refine ⟨c', e', hr, ?_⟩
    have hsplit := natCast_div_eq num hden
    have hpos : (0 : ℚ) < ((num % den : ℕ) : ℚ) / den :=
      div_pos (by exact_mod_cast Nat.pos_of_ne_zero hrem) (by exact_mod_cast hden)
    have hlt1 := mod_div_lt_one num hden
    have hq' : (10 : ℚ) ^ ctx.prec ≤
        ((if num / den % 5 = 0 then num / den + 1 else num / den : ℕ) : ℚ) := by
      exact_mod_cast hq.trans (by split <;> omega)
    rw [hm, ← hval]
    exact roundDigits_eq_of_sideOfFives hp ctx.etiny
      (sideOfFives_sticky (T := (num : ℚ) / den) (by linarith) (by linarith)) hq' _

end CrossPool.Decimal
