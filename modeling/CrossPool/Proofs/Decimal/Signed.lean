import Mathlib
import CrossPool.Proofs.Decimal.Monotone

/-!
# 符号付きの丸めと四則演算の値

有限値どうしの和・差・積・商の値は、正確な値を `Context.roundSigned` で丸めたものである。
`roundSigned` は大きさを `Context.round` で丸め、符号を残す。0 の符号は値に効かないので、
結果の値は正確な値だけで決まる（`add_value`、`sub_value`、`mul_value`、`div_value`）。

和は指数をそろえるとき、小さいほうの項が大きいほうの最下位より十分下にあれば、それを
`10^lim` の 1 単位に置き換える（付箋）。置き換えた和と正確な和は、`10^lim` を単位にして
どの 5 の倍数とも同じ側にあり、同じ値に丸まる（`roundDigits_eq_of_sideOfFives`）。

丸めは単調で 0 を 0 に送るので、演算の値は正確な値の順序と符号を保つ。演算の結果は
もう一度丸めても変わらない（`roundSigned_fix`）。
-/

namespace CrossPool.Decimal

/-! ## 丸めの冪等性 -/

/--
丸めた値はもう一度丸めても変わらない。丸めた値 `y` は単位 `b^Q` の倍数で、
`G = max (先頭の位 + 1) Q` の `b^G` 以下にある。`y = b^G` ならその単位の倍数で、
そうでなければ `y` の先頭の位は上がらず、単位は `Q` 以下になる。
-/
theorem roundDigits_roundDigits {b p : ℕ} {emin : ℤ} (hb : 1 < b) (hp : 1 ≤ p) {x : ℚ}
    (hx : 0 ≤ x) : roundDigits b p emin (roundDigits b p emin x) = roundDigits b p emin x := by
  have hb0 : 0 < b := by omega
  rcases hx.lt_or_eq with hx | rfl
  swap
  · simp
  rcases (roundDigits_nonneg hb hx.le : 0 ≤ roundDigits b p emin x).lt_or_eq with hy0 | hy0
  swap
  · rw [← hy0, roundDigits_zero]
  set Q := quantum b p emin x with hQ
  set G := max (Int.log b x + 1) Q with hG
  set y := roundDigits b p emin x with hy
  have hQdef : Q = max (Int.log b x + 1 - p) emin := rfl
  have hyG : y ≤ (b : ℚ) ^ G :=
    calc y = roundAt b Q x := rfl
      _ ≤ roundAt b Q ((b : ℚ) ^ G) :=
          roundAt_mono hb0 ((Int.lt_zpow_succ_log_self hb x).le.trans
            (zpow_le_zpow_right₀ (by exact_mod_cast hb.le) (le_max_left _ _)))
      _ = (b : ℚ) ^ G := roundAt_zpow hb0 (le_max_right _ _)
  rcases hyG.lt_or_eq with hlt | heq
  · -- 先頭の位は `G` より下なので、単位は `Q` 以下で、`y` はその倍数
    have hlog : Int.log b y < G := (Int.lt_zpow_iff_log_lt hb hy0).mp hlt
    set Q' := quantum b p emin y with hQ'
    have hQ'def : Q' = max (Int.log b y + 1 - p) emin := rfl
    have hle : Q' ≤ Q := by omega
    have hmul : y = ((roundEven (x / (b : ℚ) ^ Q) * b ^ (Q - Q').toNat : ℤ) : ℚ) * (b : ℚ) ^ Q' := by
      have hb' : (b : ℚ) ≠ 0 := by exact_mod_cast hb0.ne'
      push_cast
      rw [mul_assoc, ← zpow_natCast, ← zpow_add₀ hb', Int.toNat_of_nonneg (by omega), sub_add_cancel]
      rfl
    have h := roundAt_mul_zpow hb0 (roundEven (x / (b : ℚ) ^ Q) * b ^ (Q - Q').toNat) Q'
    rw [← hmul] at h
    exact h
  · rw [heq]
    unfold roundDigits quantum
    rw [Int.log_zpow hb]
    exact roundAt_zpow hb0 (by omega)

/-- 大きさを `ctx.round` で丸め、符号を残す。 -/
def Context.roundSigned (ctx : Context) (x : ℚ) : ℚ :=
  if x < 0 then -ctx.round (-x) else ctx.round x

section Signed

variable {ctx : Context}

theorem Context.round_nonneg (ctx : Context) {x : ℚ} (hx : 0 ≤ x) : 0 ≤ ctx.round x :=
  roundDigits_nonneg (by norm_num) hx

theorem Context.round_mono (hp : 0 < ctx.prec) {x y : ℚ} (hx : 0 ≤ x) (hxy : x ≤ y) :
    ctx.round x ≤ ctx.round y :=
  roundDigits_mono (by norm_num) hp hx hxy

theorem roundSigned_of_nonneg {x : ℚ} (hx : 0 ≤ x) : ctx.roundSigned x = ctx.round x :=
  if_neg (not_lt.mpr hx)

theorem roundSigned_of_neg {x : ℚ} (hx : x < 0) : ctx.roundSigned x = -ctx.round (-x) :=
  if_pos hx

@[simp] theorem roundSigned_zero : ctx.roundSigned 0 = 0 := by
  rw [roundSigned_of_nonneg le_rfl, Context.round_zero]

theorem roundSigned_neg (x : ℚ) : ctx.roundSigned (-x) = -ctx.roundSigned x := by
  rcases lt_trichotomy x 0 with h | rfl | h
  · rw [roundSigned_of_nonneg (by linarith), roundSigned_of_neg h, neg_neg]
  · simp
  · rw [roundSigned_of_neg (by linarith), neg_neg, roundSigned_of_nonneg h.le]

theorem roundSigned_nonneg {x : ℚ} (hx : 0 ≤ x) : 0 ≤ ctx.roundSigned x := by
  rw [roundSigned_of_nonneg hx]
  exact ctx.round_nonneg hx

theorem roundSigned_nonpos {x : ℚ} (hx : x ≤ 0) : ctx.roundSigned x ≤ 0 := by
  have h : 0 ≤ ctx.roundSigned (-x) := roundSigned_nonneg (neg_nonneg.mpr hx)
  rw [roundSigned_neg] at h
  linarith

/-- 符号付きの丸めは単調。符号の違う二つの値の間には 0 がある。 -/
theorem roundSigned_mono (hp : 0 < ctx.prec) : Monotone ctx.roundSigned := by
  intro x y hxy
  rcases le_or_gt 0 x with hx | hx
  · rw [roundSigned_of_nonneg hx, roundSigned_of_nonneg (hx.trans hxy)]
    exact Context.round_mono hp hx hxy
  rcases le_or_gt 0 y with hy | hy
  · exact (roundSigned_nonpos hx.le).trans (roundSigned_nonneg hy)
  · rw [roundSigned_of_neg hx, roundSigned_of_neg hy, neg_le_neg_iff]
    exact Context.round_mono hp (by linarith) (by linarith)

theorem pos_of_roundSigned_pos {x : ℚ} (h : 0 < ctx.roundSigned x) : 0 < x :=
  not_le.mp fun hx => absurd h (not_lt.mpr (roundSigned_nonpos hx))

theorem roundSigned_roundSigned (hp : 0 < ctx.prec) (x : ℚ) :
    ctx.roundSigned (ctx.roundSigned x) = ctx.roundSigned x := by
  rcases le_or_gt 0 x with hx | hx
  · rw [roundSigned_of_nonneg hx, roundSigned_of_nonneg (ctx.round_nonneg hx)]
    exact roundDigits_roundDigits (by norm_num) hp hx
  · rw [roundSigned_of_neg hx, roundSigned_neg,
      roundSigned_of_nonneg (ctx.round_nonneg (neg_nonneg.mpr hx.le))]
    exact congrArg Neg.neg (roundDigits_roundDigits (by norm_num) hp (neg_nonneg.mpr hx.le))

end Signed

/-! ## 有限値の値 -/

/-- 値が有理数の 10 進数は有限値。無限大と NaN の値は両端にある。 -/
theorem value_eq_coe {d : Decimal} {x : ℚ} :
    d.value = ((x : WithTop ℚ) : WithBot (WithTop ℚ)) ↔
      ∃ n c e, d = .finite n c e ∧ signedValue n c e = x := by
  constructor
  · intro h
    cases d with
    | finite n c e =>
      refine ⟨n, c, e, rfl, ?_⟩
      simpa only [value, WithBot.coe_inj, WithTop.coe_inj] using h
    | infinity n => cases n <;> simp [value] at h
    | nan => simp [value] at h
  · rintro ⟨n, c, e, rfl, rfl⟩
    rfl

theorem coe_min_coe (x y : ℚ) :
    Min.min ((x : WithTop ℚ) : WithBot (WithTop ℚ)) ((y : WithTop ℚ) : WithBot (WithTop ℚ)) =
      ((Min.min x y : ℚ) : WithTop ℚ) := by
  rw [WithTop.coe_min, WithBot.coe_min]

theorem coe_max_coe (x y : ℚ) :
    Max.max ((x : WithTop ℚ) : WithBot (WithTop ℚ)) ((y : WithTop ℚ) : WithBot (WithTop ℚ)) =
      ((Max.max x y : ℚ) : WithTop ℚ) := by
  rw [WithTop.coe_max, WithBot.coe_max]

theorem signedValue_false (c : ℕ) (e : ℤ) : signedValue false c e = magnitude c e := rfl

theorem signedValue_true (c : ℕ) (e : ℤ) : signedValue true c e = -magnitude c e := rfl

theorem signedValue_not (n : Bool) (c : ℕ) (e : ℤ) : signedValue (!n) c e = -signedValue n c e := by
  cases n <;> simp [signedValue_false, signedValue_true]

@[simp] theorem signedValue_zero (n : Bool) (e : ℤ) : signedValue n 0 e = 0 := by
  cases n <;> simp [signedValue_false, signedValue_true, magnitude_zero]

theorem value_ofInt (n : ℤ) :
    (ofInt n).value = (((n : ℚ) : WithTop ℚ) : WithBot (WithTop ℚ)) := by
  refine value_eq_coe.mpr ⟨_, _, _, rfl, ?_⟩
  rcases lt_or_ge n 0 with h | h
  · simp [h, signedValue_true, magnitude, Nat.cast_natAbs, abs_of_neg]
  · simp [not_lt.mpr h, signedValue_false, magnitude, Nat.cast_natAbs, abs_of_nonneg h]

/-- 大きさが `q` の丸めなら、符号付きの値は `±q` の符号付きの丸め。 -/
theorem signedValue_of_round {ctx : Context} {neg : Bool} {c : ℕ} {e : ℤ} {q : ℚ} (hq : 0 ≤ q)
    (hm : magnitude c e = ctx.round q) :
    signedValue neg c e = ctx.roundSigned (if neg then -q else q) := by
  cases neg with
  | false => rw [signedValue_false, hm, if_neg Bool.false_ne_true, roundSigned_of_nonneg hq]
  | true =>
    rw [signedValue_true, hm, if_pos rfl]
    rcases hq.lt_or_eq with hpos | rfl
    · rw [roundSigned_of_neg (neg_lt_zero.mpr hpos), neg_neg]
    · simp

/-! ## 丸めた結果 -/

section Fix

variable {ctx : Context} (hp : 0 < ctx.prec)
include hp

/-- `fix` の結果の値は、正確な値の符号付きの丸め。 -/
theorem fix_value {neg : Bool} {c : ℕ} {e : ℤ} {r : Decimal} (h : ctx.fix neg c e = .ok r) :
    r.value = ((ctx.roundSigned (signedValue neg c e) : WithTop ℚ) : WithBot (WithTop ℚ)) := by
  obtain ⟨c', e', rfl, hm⟩ := fix_eq_ok hp h
  change ((signedValue neg c' e' : WithTop ℚ) : WithBot (WithTop ℚ)) = _
  rw [signedValue_of_round (magnitude_nonneg c e) hm]
  cases neg <;> rfl

end Fix

/-! ## 積と商 -/

theorem signedValue_mul (na : Bool) (ca : ℕ) (ea : ℤ) (nb : Bool) (cb : ℕ) (eb : ℤ) :
    signedValue (na != nb) (ca * cb) (ea + eb) = signedValue na ca ea * signedValue nb cb eb := by
  cases na <;> cases nb <;> simp [signedValue_false, signedValue_true, magnitude_mul]

theorem signedValue_div (na : Bool) (ca : ℕ) (ea : ℤ) (nb : Bool) (cb : ℕ) (eb : ℤ) :
    signedValue na ca ea / signedValue nb cb eb =
      if (na != nb) then -(magnitude ca ea / magnitude cb eb) else magnitude ca ea / magnitude cb eb := by
  cases na <;> cases nb <;> simp [signedValue_false, signedValue_true, neg_div, div_neg]

section Arith

variable {ctx : Context} (hp : 0 < ctx.prec)
include hp

/-- 有限値の積の値は、正確な積の符号付きの丸め。 -/
theorem mul_value {a b r : Decimal} {x y : ℚ} (h : Decimal.mul ctx a b = .ok r)
    (ha : a.value = ((x : WithTop ℚ) : WithBot (WithTop ℚ)))
    (hb : b.value = ((y : WithTop ℚ) : WithBot (WithTop ℚ))) :
    r.value = ((ctx.roundSigned (x * y) : WithTop ℚ) : WithBot (WithTop ℚ)) := by
  obtain ⟨na, ca, ea, rfl, rfl⟩ := value_eq_coe.mp ha
  obtain ⟨nb, cb, eb, rfl, rfl⟩ := value_eq_coe.mp hb
  rw [← signedValue_mul]
  exact fix_value hp h

/-- 有限値の商の値は、正確な商の符号付きの丸め。0 で割れば失敗する。 -/
theorem div_value {a b r : Decimal} {x y : ℚ} (h : Decimal.div ctx a b = .ok r)
    (ha : a.value = ((x : WithTop ℚ) : WithBot (WithTop ℚ)))
    (hb : b.value = ((y : WithTop ℚ) : WithBot (WithTop ℚ))) :
    r.value = ((ctx.roundSigned (x / y) : WithTop ℚ) : WithBot (WithTop ℚ)) := by
  obtain ⟨na, ca, ea, rfl, rfl⟩ := value_eq_coe.mp ha
  obtain ⟨nb, cb, eb, rfl, rfl⟩ := value_eq_coe.mp hb
  obtain ⟨c', e', rfl, hm⟩ := divFinite_eq_ok hp h
  change ((signedValue _ c' e' : WithTop ℚ) : WithBot (WithTop ℚ)) = _
  rw [signedValue_of_round (div_nonneg (magnitude_nonneg ca ea) (magnitude_nonneg cb eb)) hm,
    signedValue_div]

end Arith

/-! ## 和 -/

theorem signedValue_add (n : Bool) (a b : ℕ) (e : ℤ) :
    signedValue n (a + b) e = signedValue n a e + signedValue n b e := by
  cases n <;> simp [signedValue_false, signedValue_true, magnitude, add_mul, add_comm]

theorem signedValue_sub (n : Bool) {a b : ℕ} (h : b ≤ a) (e : ℤ) :
    signedValue n (a - b) e = signedValue n a e + signedValue (!n) b e := by
  cases n <;> simp [signedValue_false, signedValue_true, magnitude, Nat.cast_sub h, sub_mul] <;> ring

/-- 係数に `10^(et - eo)` を掛けて指数を `eo` に下げても、値は同じ。 -/
theorem signedValue_shift (n : Bool) (c : ℕ) {eo et : ℤ} (h : eo ≤ et) :
    signedValue n (c * Nat.pow 10 (et - eo).toNat) eo = signedValue n c et := by
  have he : eo + ((et - eo).toNat : ℤ) = et := by omega
  cases n <;> simp only [signedValue_false, signedValue_true, magnitude_mul_pow, he]

/--
5 の倍数 `N` の隣の整数 `N + s`（`s = ±1`）と、`N` から同じ向きに 1 未満ずれた値は、どの
5 の倍数とも同じ側にある。二つの値を分けうる整数は `N + s` だけで、これは 5 の倍数でない。
-/
theorem sideOfFives_adjacent {N : ℤ} (h5 : 5 ∣ N) {s : ℤ} (hs : s = 1 ∨ s = -1) {δ : ℚ}
    (h0 : 0 < δ) (h1 : δ < 1) : SideOfFives ((N + s : ℤ) : ℚ) (N + s * δ) := by
  rcases hs with rfl | rfl
  · have hf : ⌊(N : ℚ) + ((1 : ℤ) : ℚ) * δ⌋ = N := by
      rw [Int.floor_eq_iff]
      push_cast
      constructor <;> linarith
    have hc : ⌈(N : ℚ) + ((1 : ℤ) : ℚ) * δ⌉ = N + 1 := by
      rw [Int.ceil_eq_iff]
      push_cast
      constructor <;> linarith
    intro M hM
    rw [Int.cast_lt, Int.cast_lt, ← Int.floor_lt, ← Int.lt_ceil, hf, hc]
    omega
  · have hf : ⌊(N : ℚ) + ((-1 : ℤ) : ℚ) * δ⌋ = N - 1 := by
      rw [Int.floor_eq_iff]
      push_cast
      constructor <;> linarith
    have hc : ⌈(N : ℚ) + ((-1 : ℤ) : ℚ) * δ⌉ = N := by
      rw [Int.ceil_eq_iff]
      push_cast
      constructor <;> linarith
    intro M hM
    rw [Int.cast_lt, Int.cast_lt, ← Int.floor_lt, ← Int.lt_ceil, hf, hc]
    omega

section Add

variable {ctx : Context} (hp : 0 < ctx.prec)
include hp

/--
大きい項 `N * 10^lim`（`N` は `10^prec` より大きい 5 の倍数）に、`10^lim` より小さい正の値
`o` を足し引きしても、`10^lim` を足し引きしても、丸めは同じ。
-/
theorem round_add_sticky {N : ℕ} (h5 : 5 ∣ N) (hN : 10 ^ ctx.prec < N) {lim : ℤ} {o : ℚ}
    (ho : 0 < o) (ho' : o < 10 ^ lim) {s : ℤ} (hs : s = 1 ∨ s = -1) :
    ctx.round (N * 10 ^ lim + s * 10 ^ lim) = ctx.round (N * 10 ^ lim + s * o) := by
  have hpow : (0 : ℚ) < 10 ^ lim := zpow_pos (by norm_num) lim
  have hside := sideOfFives_adjacent (N := N) (by exact_mod_cast h5) hs (div_pos ho hpow)
    ((div_lt_one hpow).mpr ho')
  have hx : (10 : ℚ) ^ ctx.prec ≤ ((N + s : ℤ) : ℚ) := by
    have hN' : (10 : ℚ) ^ ctx.prec + 1 ≤ N := by exact_mod_cast hN
    rcases hs with rfl | rfl <;> push_cast <;> linarith
  have h := roundDigits_eq_of_sideOfFives hp ctx.etiny hside hx lim
  unfold Context.round
  convert h using 2
  · push_cast
    ring
  · field_simp
    push_cast
    ring

/--
指数の大きいほう `(ct, et)` にそろえた二項の和は、どの符号の組でも、正確な和と同じ値に
丸まる。小さいほうの項が付箋 `10^lim` に置き換わったときは、大きいほうの項の係数が
`prec + 1` 桁を超えるので `round_add_sticky` が使える。
-/
theorem alignBig_round {ct co : ℕ} {et eo : ℤ} (hct : ct ≠ 0) (hco : co ≠ 0) (heo : eo ≤ et)
    {a b : ℕ} {e : ℤ} (h : alignBig ctx.prec ct et co eo = (a, b, e)) (nt no : Bool) :
    ctx.roundSigned (signedValue nt a e + signedValue no b e) =
      ctx.roundSigned (signedValue nt ct et + signedValue no co eo) := by
  unfold alignBig at h
  dsimp only at h
  split_ifs at h with hs
  · simp only [Prod.mk.injEq] at h
    obtain ⟨rfl, rfl, rfl⟩ := h
    set lim := et + min (-1) ((digitCount ct : ℤ) - ctx.prec - 2)
    have hk : 1 ≤ (et - lim).toNat ∧ ctx.prec + 1 ≤ digitCount ct - 1 + (et - lim).toNat := by
      have := digitCount_pos ct
      omega
    -- 大きいほうの項 `N * 10^lim` の係数 `N` は 5 の倍数で、`10^(prec + 1)` 以上
    set N := ct * Nat.pow 10 (et - lim).toNat
    have h5 : 5 ∣ N := Dvd.dvd.mul_left (by
      rw [Nat.pow_eq]
      exact dvd_pow (by norm_num : 5 ∣ 10) (by omega)) ct
    have hN : 10 ^ ctx.prec < N :=
      calc 10 ^ ctx.prec < 10 ^ (ctx.prec + 1) := Nat.pow_lt_pow_right (by norm_num) (by omega)
        _ ≤ 10 ^ (digitCount ct - 1 + (et - lim).toNat) := Nat.pow_le_pow_right (by norm_num) hk.2
        _ = 10 ^ (digitCount ct - 1) * Nat.pow 10 (et - lim).toNat := by rw [pow_add, Nat.pow_eq]
        _ ≤ N := Nat.mul_le_mul_right _ (pow_digitCount_le hct)
    have hpow : (0 : ℚ) < 10 ^ lim := zpow_pos (by norm_num) lim
    have hT : magnitude ct et = N * 10 ^ lim := by
      rw [← signedValue_false, ← signedValue_shift false ct (show lim ≤ et by omega)]
      rfl
    have hT2 : 2 * 10 ^ lim ≤ magnitude ct et := by
      rw [hT]
      exact mul_le_mul_of_nonneg_right (by exact_mod_cast (show 2 ≤ N by
        have := Nat.one_le_pow ctx.prec 10 (by norm_num)
        omega)) hpow.le
    -- 小さいほうの項は `10^lim` より小さい
    have ho : 0 < magnitude co eo := magnitude_pos hco eo
    have ho' : magnitude co eo < 10 ^ lim :=
      (magnitude_lt_pow co eo).trans_le (zpow_le_zpow_right₀ (by norm_num) (by omega))
    have h1 : magnitude 1 lim = 10 ^ lim := by simp [magnitude]
    have key : ∀ s : ℤ, s = 1 ∨ s = -1 → ctx.roundSigned (magnitude ct et + s * magnitude 1 lim) =
        ctx.roundSigned (magnitude ct et + s * magnitude co eo) := by
      intro s hs
      have hpos : ∀ u : ℚ, 0 ≤ u → u ≤ 10 ^ lim → 0 ≤ magnitude ct et + s * u := by
        intro u hu hu'
        rcases hs with rfl | rfl <;> push_cast <;> linarith
      rw [roundSigned_of_nonneg (hpos _ (h1 ▸ hpow.le) h1.le),
        roundSigned_of_nonneg (hpos _ ho.le ho'.le), h1, hT]
      exact round_add_sticky hp h5 hN ho ho' hs
    have hneg : ∀ u : ℚ, -magnitude ct et + u = -(magnitude ct et + (-1 : ℤ) * u) := fun u => by
      push_cast
      ring
    rw [signedValue_shift nt ct (by omega)]
    cases nt <;> cases no <;> simp only [signedValue_false, signedValue_true]
    · simpa using key 1 (.inl rfl)
    · simpa using key (-1) (.inr rfl)
    · rw [hneg, hneg, roundSigned_neg, roundSigned_neg, key (-1) (.inr rfl)]
    · rw [hneg, hneg, roundSigned_neg, roundSigned_neg]
      simpa using key 1 (.inl rfl)
  · simp only [Prod.mk.injEq] at h
    obtain ⟨rfl, rfl, rfl⟩ := h
    rw [signedValue_shift nt ct heo]

/-- 指数をそろえた二項の和は、どの符号の組でも、正確な和と同じ値に丸まる。 -/
theorem alignForAdd_round {ca cb : ℕ} {ea eb : ℤ} (hca : ca ≠ 0) (hcb : cb ≠ 0) {a b : ℕ} {e : ℤ}
    (h : alignForAdd ctx.prec ca ea cb eb = (a, b, e)) (na nb : Bool) :
    ctx.roundSigned (signedValue na a e + signedValue nb b e) =
      ctx.roundSigned (signedValue na ca ea + signedValue nb cb eb) := by
  unfold alignForAdd at h
  split_ifs at h with hlt
  · generalize hg : alignBig ctx.prec cb eb ca ea = t at h
    obtain ⟨b', a', e'⟩ := t
    simp only [Prod.mk.injEq] at h
    obtain ⟨rfl, rfl, rfl⟩ := h
    rw [add_comm, alignBig_round hp hcb hca hlt.le hg nb na, add_comm]
  · exact alignBig_round hp hca hcb (not_lt.mp hlt) h na nb

/-- 有限値の和の値は、正確な和の符号付きの丸め。 -/
theorem addFinite_value {na nb : Bool} {ca cb : ℕ} {ea eb : ℤ} {r : Decimal}
    (h : addFinite ctx na ca ea nb cb eb = .ok r) :
    r.value = ((ctx.roundSigned (signedValue na ca ea + signedValue nb cb eb) : WithTop ℚ) :
      WithBot (WithTop ℚ)) := by
  unfold addFinite at h
  generalize hal : alignForAdd ctx.prec ca ea cb eb = t at h
  obtain ⟨a, b, e⟩ := t
  dsimp only at h
  split_ifs at h with h00 ha0 hb0 hn hab hba
  · rw [fix_value hp h, h00.1, h00.2]
    simp
  · rw [fix_value hp h, ha0, signedValue_zero, zero_add, signedValue_shift nb cb (by omega)]
  · rw [fix_value hp h, hb0, signedValue_zero, add_zero, signedValue_shift na ca (by omega)]
  all_goals rw [← alignForAdd_round hp ha0 hb0 hal]
  · rw [fix_value hp h, hn, signedValue_add]
  · -- 符号が逆で係数が等しい。正確に打ち消し合う
    have hnb : nb = !na := by cases na <;> cases nb <;> simp_all
    rw [fix_value hp h, hab, hnb, signedValue_not, add_neg_cancel, signedValue_zero]
  · have hnb : nb = !na := by cases na <;> cases nb <;> simp_all
    rw [fix_value hp h, signedValue_sub na hba.le, hnb]
  · have hna : na = !nb := by cases na <;> cases nb <;> simp_all
    rw [fix_value hp h, signedValue_sub nb (not_lt.mp hba), hna, add_comm]

theorem add_value {a b r : Decimal} {x y : ℚ} (h : Decimal.add ctx a b = .ok r)
    (ha : a.value = ((x : WithTop ℚ) : WithBot (WithTop ℚ)))
    (hb : b.value = ((y : WithTop ℚ) : WithBot (WithTop ℚ))) :
    r.value = ((ctx.roundSigned (x + y) : WithTop ℚ) : WithBot (WithTop ℚ)) := by
  obtain ⟨na, ca, ea, rfl, rfl⟩ := value_eq_coe.mp ha
  obtain ⟨nb, cb, eb, rfl, rfl⟩ := value_eq_coe.mp hb
  exact addFinite_value hp h

/-- 有限値の差の値は、正確な差の符号付きの丸め。 -/
theorem sub_value {a b r : Decimal} {x y : ℚ} (h : Decimal.sub ctx a b = .ok r)
    (ha : a.value = ((x : WithTop ℚ) : WithBot (WithTop ℚ)))
    (hb : b.value = ((y : WithTop ℚ) : WithBot (WithTop ℚ))) :
    r.value = ((ctx.roundSigned (x - y) : WithTop ℚ) : WithBot (WithTop ℚ)) := by
  obtain ⟨na, ca, ea, rfl, rfl⟩ := value_eq_coe.mp ha
  obtain ⟨nb, cb, eb, rfl, rfl⟩ := value_eq_coe.mp hb
  rw [sub_eq_add_neg, ← signedValue_not]
  exact addFinite_value hp h

end Add

/-! ## 整数への切り捨てと 10 の冪 -/

theorem truncate_of_nonneg {d : Decimal} {x : ℚ}
    (hd : d.value = ((x : WithTop ℚ) : WithBot (WithTop ℚ))) (hx : 0 ≤ x) :
    Decimal.truncate d = .ok ⌊x⌋ := by
  obtain ⟨n, c, e, rfl, rfl⟩ := value_eq_coe.mp hd
  cases n with
  | true =>
    have hc : c = 0 := by
      by_contra hc
      have := magnitude_pos hc e
      rw [signedValue_true] at hx
      linarith
    subst hc
    simp [Decimal.truncate]
  | false =>
    rw [signedValue_false]
    simp only [Decimal.truncate, Bool.false_eq_true, if_false, Except.ok.injEq]
    split_ifs with he
    · have hm : magnitude c e = ((c * Nat.pow 10 e.toNat : ℕ) : ℚ) := by
        have h := magnitude_mul_pow c 0 e.toNat
        rw [Int.toNat_of_nonneg he, zero_add] at h
        rw [← h]
        simp [magnitude]
      rw [hm, Int.floor_natCast]
    · obtain ⟨k, rfl⟩ : ∃ k : ℕ, e = -(k : ℤ) := ⟨(-e).toNat, by omega⟩
      have hm : magnitude c (-(k : ℤ)) = (c : ℚ) / (Nat.pow 10 k : ℕ) := by
        simp [magnitude, zpow_neg, div_eq_mul_inv]
      rw [hm, floor_natCast_div c (by simp [Nat.pow_eq])]
      simp

theorem pow10_value {ctx : Context} (hp : 0 < ctx.prec) {n : ℤ} {r : Decimal}
    (h : Decimal.pow10 ctx n = .ok r) :
    ∃ π : ℚ, r.value = ((π : WithTop ℚ) : WithBot (WithTop ℚ)) ∧ 0 ≤ π := by
  unfold Decimal.pow10 at h
  split at h
  · split at h
    · cases h
    · split at h <;> cases h <;> exact ⟨_, rfl, magnitude_nonneg _ _⟩
  · obtain ⟨c', e', rfl, -⟩ := fix_eq_ok hp h
    exact ⟨_, rfl, magnitude_nonneg _ _⟩

end CrossPool.Decimal

/-! ## 標準 context の演算 -/

namespace CrossPool.Calc

open Decimal

variable {a b r : Decimal} {x y : ℚ}

theorem value_ofInt (n : ℤ) : (Calc.ofInt n).value = (((n : ℚ) : WithTop ℚ) : WithBot (WithTop ℚ)) :=
  Decimal.value_ofInt n

theorem value_lit_one' : (Calc.lit "1").value = (((1 : ℚ) : WithTop ℚ) : WithBot (WithTop ℚ)) :=
  Calc.value_lit_one

theorem value_lit_zero' : (Calc.lit "0").value = (((0 : ℚ) : WithTop ℚ) : WithBot (WithTop ℚ)) :=
  Calc.value_lit_zero

theorem value_lit_hundred :
    (Calc.lit "100").value = (((100 : ℚ) : WithTop ℚ) : WithBot (WithTop ℚ)) := by
  rw [show Calc.lit "100" = .finite false 100 0 from rfl, value_finite_false]
  simp [magnitude]

theorem value_ofInt_zero : (Calc.ofInt 0).value = 0 := by
  simp [Calc.value_ofInt]

theorem value_ofInt_one : (Calc.ofInt 1).value = 1 := by
  simp [Calc.value_ofInt]

theorem mul_value (h : Calc.mul a b = .ok r) (ha : a.value = ((x : WithTop ℚ) : WithBot (WithTop ℚ)))
    (hb : b.value = ((y : WithTop ℚ) : WithBot (WithTop ℚ))) :
    r.value = ((ctx.roundSigned (x * y) : WithTop ℚ) : WithBot (WithTop ℚ)) :=
  Decimal.mul_value (by decide) (liftSignal_eq_ok.mp h) ha hb

theorem div_value (h : Calc.div a b = .ok r) (ha : a.value = ((x : WithTop ℚ) : WithBot (WithTop ℚ)))
    (hb : b.value = ((y : WithTop ℚ) : WithBot (WithTop ℚ))) :
    r.value = ((ctx.roundSigned (x / y) : WithTop ℚ) : WithBot (WithTop ℚ)) :=
  Decimal.div_value (by decide) (liftSignal_eq_ok.mp h) ha hb

theorem add_value (h : Calc.add a b = .ok r) (ha : a.value = ((x : WithTop ℚ) : WithBot (WithTop ℚ)))
    (hb : b.value = ((y : WithTop ℚ) : WithBot (WithTop ℚ))) :
    r.value = ((ctx.roundSigned (x + y) : WithTop ℚ) : WithBot (WithTop ℚ)) :=
  Decimal.add_value (by decide) (liftSignal_eq_ok.mp h) ha hb

theorem sub_value (h : Calc.sub a b = .ok r) (ha : a.value = ((x : WithTop ℚ) : WithBot (WithTop ℚ)))
    (hb : b.value = ((y : WithTop ℚ) : WithBot (WithTop ℚ))) :
    r.value = ((ctx.roundSigned (x - y) : WithTop ℚ) : WithBot (WithTop ℚ)) :=
  Decimal.sub_value (by decide) (liftSignal_eq_ok.mp h) ha hb

theorem min_value (h : Calc.min a b = .ok r) : r.value = Min.min a.value b.value :=
  (pickMin_eq_ok (liftSignal_eq_ok.mp h)).2

theorem max_value (h : Calc.max a b = .ok r) : r.value = Max.max a.value b.value :=
  (pickMax_eq_ok (liftSignal_eq_ok.mp h)).2

theorem clamp_value {v : Decimal} (h : Calc.clamp v a b = .ok r) :
    r.value = Max.max a.value (Min.min v.value b.value) :=
  (Decimal.clamp_eq_ok (liftSignal_eq_ok.mp h)).2

theorem truncate_of_nonneg (hd : a.value = ((x : WithTop ℚ) : WithBot (WithTop ℚ))) (hx : 0 ≤ x) :
    Calc.truncate a = .ok ⌊x⌋ := by
  unfold Calc.truncate
  rw [Decimal.truncate_of_nonneg hd hx]

theorem pow10_value {n : ℤ} (h : Calc.pow10 n = .ok r) :
    ∃ π : ℚ, r.value = ((π : WithTop ℚ) : WithBot (WithTop ℚ)) ∧ 0 ≤ π :=
  Decimal.pow10_value (by decide) (liftSignal_eq_ok.mp h)

end CrossPool.Calc
