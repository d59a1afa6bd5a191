import Mathlib
import CrossPool.Binary64.Text
import CrossPool.Proofs.Binary64.Bits
import CrossPool.Proofs.Binary64.Unit
import CrossPool.Proofs.Decimal.Rounded

/-!
# 最短表記の値

`decode` が読む符号と形は、`Float.toModel` の `unpack` が読むものと同じである
（`decode_of_unpack_finite`、`decode_of_unpack_zero`）。だから `[0, 1]` の数は 0 か、
正の有限値 `m * 2^q`（`m * 2^q ≤ 1`）として読まれる（`decode_of_inUnit`）。

最短表記の数字の列 `shortest m q` の値は、`m * 2^q` に丸まる区間の上端
`(2m + 1) * 2^(q-1)` を超えない（`shortest_le`）。探索で見つけた点は区間に入り、見つから
なければ値の整数部を使うからである。`m * 2^q < 1` ならこの上端も 1 以下で、ちょうど 1 の
ときは最短表記は `1` である。どちらでも最短表記の値は 1 以下になる（`shortest_le_one`）。
-/

namespace CrossPool.Binary64

open Float.Model UnpackedFloat Decimal

/-! ## `decode` と `unpack` -/

/-- `decode` が読む数は、`unpack` が読むビット列と同じ。 -/
theorem toNat_toBits (x : Float) : x.toBits.toNat = x.toModel.toBits.toBitVec.toNat := rfl

/-- 正の符号は、符号ビットが 0 のとき。 -/
theorem signBit_of_positive {b : BitVec Format.binary64.numBits}
    (h : Sign.ofBitVec (unpackSign b) = .positive) : b.toNat / 2 ^ 63 % 2 = 0 := by
  unfold Sign.ofBitVec at h
  split at h
  · next h0 =>
    rw [← toNat_unpackSign, h0]
    rfl
  · cases h

theorem exponent_ne_of {b : BitVec Format.binary64.numBits} (h : ¬ unpackExponent b = -1#11) :
    b.toNat / 2 ^ 52 % 2 ^ 11 ≠ 2047 := by
  rw [← toNat_unpackExponent]
  intro h'
  exact h (BitVec.eq_of_toNat_eq (by rw [h']; rfl))

theorem exponent_eq_zero {b : BitVec Format.binary64.numBits} (h : unpackExponent b = 0#11) :
    b.toNat / 2 ^ 52 % 2 ^ 11 = 0 := by
  rw [← toNat_unpackExponent, h]
  rfl

theorem decode_of_unpack_finite {x : Float} {m : ℕ} {e : ℤ} {hm : 0 < m}
    (h : x.toModel.unpack = .finite .positive m e hm) : decode x = (false, .finite m e) := by
  have hE := toNat_unpackExponent x.toModel.toBits.toBitVec
  have hM := toNat_unpackMantissa x.toModel.toBits.toBitVec
  have h3 := toNat_one_append (@unpackMantissa Format.binary64 x.toModel.toBits.toBitVec)
  unfold Float.Model.unpack UnpackedFloat.unpack at h
  dsimp only at h
  rw [bias_add_mantissaBits] at h
  unfold decode
  rw [toNat_toBits]
  split_ifs at h with hinf hman hz
  · injection h with hs hm' he'
    have h0 := signBit_of_positive hs
    have h1 := exponent_ne_of hinf
    have h2 := exponent_eq_zero hz
    rw [hE, h2] at he'
    generalize x.toModel.toBits.toBitVec.toNat = N at *
    subst hm' he'
    simp only [Nat.pow_eq]
    rw [if_neg (by omega), if_pos (by omega), hM, h0]
    rfl
  · injection h with hs hm' he'
    have h0 := signBit_of_positive hs
    have h1 := exponent_ne_of hinf
    have h2 : x.toModel.toBits.toBitVec.toNat / 2 ^ 52 % 2 ^ 11 ≠ 0 := fun h' =>
      hz (BitVec.eq_of_toNat_eq (by rw [hE, h']; rfl))
    generalize x.toModel.toBits.toBitVec.toNat = N at *
    subst hm' he'
    simp only [Nat.pow_eq]
    rw [if_neg (by omega), if_neg (by omega), h3, hM, hE, h0, Nat.add_comm (N % 2 ^ 52)]
    rfl

theorem decode_of_unpack_zero {x : Float} {s : Sign} (h : x.toModel.unpack = .zero s) :
    (decode x).2 = .finite 0 (-1074) := by
  have hM := toNat_unpackMantissa x.toModel.toBits.toBitVec
  unfold Float.Model.unpack UnpackedFloat.unpack at h
  dsimp only at h
  unfold decode
  rw [toNat_toBits]
  split_ifs at h with hinf hman hz hzm
  have h1 := exponent_ne_of hinf
  have h2 := exponent_eq_zero hz
  have h3 : x.toModel.toBits.toBitVec.toNat % 2 ^ 52 = 0 := by rw [← hM, hzm]; rfl
  generalize x.toModel.toBits.toBitVec.toNat = N at *
  simp only [Nat.pow_eq]
  rw [if_neg (by omega), if_pos (by omega), h3]

/-- `[0, 1]` の数を `decode` で読むと、0 か、正規化された仮数と指数の 1 以下の正の値。 -/
theorem decode_of_inUnit {x : Float} (hx : InUnit x) :
    (decode x).2 = .finite 0 (-1074) ∨
      ∃ m q, 0 < m ∧ decode x = (false, .finite m q) ∧ AtMostOne m q ∧ m < 2 ^ 53 ∧
        (2 ^ 52 ≤ m ∨ q = -1074) := by
  rcases ((inUnit_iff x).mp hx).cases with ⟨s, hs⟩ | ⟨m, e, hm, hu, hle⟩
  · exact .inl (decode_of_unpack_zero hs)
  · obtain ⟨hlt, hn⟩ := unpack_finite_normalized hu
    exact .inr ⟨m, e, hm, decode_of_unpack_finite hu, hle, hlt, hn⟩

/-! ## 最短表記の数字の列 -/

/-- 分数の組 `(分子, 分母)` の値。 -/
def ratioValue (p : ℕ × ℕ) : ℚ := (p.1 : ℚ) / p.2

theorem ratioOf_value (m : ℕ) (q : ℤ) : ratioValue (ratioOf m q) = m * 2 ^ q := by
  unfold ratioValue ratioOf
  split_ifs with hq
  · obtain ⟨k, rfl⟩ := Int.eq_ofNat_of_zero_le hq
    simp [Nat.pow_eq]
  · obtain ⟨k, rfl⟩ := Int.exists_eq_neg_ofNat (Int.le_of_lt (not_le.mp hq))
    simp [Nat.pow_eq, div_eq_mul_inv]

theorem ratioOf_den_pos (m : ℕ) (q : ℤ) : 0 < (ratioOf m q).2 := by
  unfold ratioOf
  split_ifs <;> simp [Nat.pow_eq]

theorem gridPoint_value (digit : ℕ) (s : ℤ) : ratioValue (gridPoint digit s) = magnitude digit s := by
  unfold ratioValue gridPoint magnitude
  split_ifs with hs
  · obtain ⟨k, rfl⟩ := Int.eq_ofNat_of_zero_le hs
    simp [Nat.pow_eq]
  · obtain ⟨k, rfl⟩ := Int.exists_eq_neg_ofNat (Int.le_of_lt (not_le.mp hs))
    simp [Nat.pow_eq, div_eq_mul_inv]

theorem gridPoint_den_pos (digit : ℕ) (s : ℤ) : 0 < (gridPoint digit s).2 := by
  unfold gridPoint
  split_ifs <;> simp [Nat.pow_eq]

theorem le_hi_of_contains {r : RoundingInterval} {pn pd : ℕ} (h : r.contains pn pd = true)
    (hpd : 0 < pd) (hd : 0 < r.hiD) : (pn : ℚ) / pd ≤ (r.hiN : ℚ) / r.hiD := by
  have hle : pn * r.hiD ≤ r.hiN * pd := by
    unfold RoundingInterval.contains cmpRatio at h
    split_ifs at h <;> simp_all [Nat.compare_eq_gt, Nat.compare_eq_lt]; omega
  rw [div_le_div_iff₀ (by exact_mod_cast hpd) (by exact_mod_cast hd)]
  exact_mod_cast hle

theorem tryDigits_contains {r : RoundingInterval} {n d : ℕ} {x : ℤ} {k p : ℕ} {s : ℤ}
    (h : tryDigits r n d x k = some (p, s)) :
    r.contains (gridPoint p s).1 (gridPoint p s).2 = true := by
  unfold tryDigits at h
  dsimp only at h
  generalize x - (k : ℤ) + 1 = s0 at h
  generalize n * (gridPoint 1 s0).2 / (d * (gridPoint 1 s0).1) = lower at h
  split at h
  · next hboth =>
    simp only [Bool.and_eq_true] at hboth
    split at h
    · cases h
      exact hboth.1.2
    · cases h
      exact hboth.2
    · split at h
      · cases h
        exact hboth.1.2
      · cases h
        exact hboth.2
  · split at h
    · next hlo =>
      cases h
      simp only [Bool.and_eq_true] at hlo
      exact hlo.2
    · split at h
      · next hhi =>
        cases h
        exact hhi
      · cases h

/-- 桁数を順に試して見つけた点は、どれかの桁数で見つけた点。 -/
theorem searchDigits_some {r : RoundingInterval} {n d : ℕ} {x : ℤ} {p : ℕ} {s : ℤ} :
    ∀ {fuel k : ℕ}, searchDigits r n d x fuel k = some (p, s) →
      ∃ k', tryDigits r n d x k' = some (p, s)
  | 0, _, h => by cases h
  | fuel + 1, k, h => by
    unfold searchDigits at h
    split at h
    · next res hres =>
      cases h
      exact ⟨k, hres⟩
    · exact searchDigits_some h

theorem magnitude_stripZeros (digits : ℕ) (s : ℤ) :
    magnitude (stripZeros digits s).1 (stripZeros digits s).2 = magnitude digits s := by
  unfold stripZeros
  dsimp only
  rw [← magnitude_mul_pow, Nat.pow_eq, Nat.div_mul_cancel (pow_trailingZeros_dvd digits)]

/-- `m * 2^q` に丸まる区間の上端。 -/
theorem roundingInterval_hi (m : ℕ) (q : ℤ) :
    ((roundingInterval m q).hiN : ℚ) / (roundingInterval m q).hiD = (2 * m + 1) * 2 ^ (q - 1) := by
  have h := ratioOf_value (2 * m + 1) (q - 1)
  unfold ratioValue at h
  push_cast at h
  exact h

theorem roundingInterval_hiD_pos (m : ℕ) (q : ℤ) : 0 < (roundingInterval m q).hiD :=
  ratioOf_den_pos _ _

/--
最短表記の値は、`m * 2^q` に丸まる区間の上端 `(2m + 1) * 2^(q-1)` 以下。見つけた点は区間に
入り、見つからなければ値の整数部を使う。
-/
theorem shortest_le (m : ℕ) (q : ℤ) :
    magnitude (shortest m q).1 (shortest m q).2 ≤ (2 * m + 1) * 2 ^ (q - 1) := by
  unfold shortest
  dsimp only
  split
  · next digits s hs =>
    obtain ⟨k, hk⟩ := searchDigits_some hs
    rw [magnitude_stripZeros, ← gridPoint_value, ← roundingInterval_hi]
    exact le_hi_of_contains (tryDigits_contains hk) (gridPoint_den_pos _ _)
      (roundingInterval_hiD_pos _ _)
  · rw [magnitude_stripZeros]
    have hfloor : (((ratioOf m q).1 / (ratioOf m q).2 : ℕ) : ℚ) ≤ m * 2 ^ q := by
      rw [← ratioOf_value]
      exact Nat.cast_div_le
    have hhalf : (m : ℚ) * 2 ^ q ≤ (2 * m + 1) * 2 ^ (q - 1) := by
      have h2 : (2 : ℚ) ^ q = 2 * 2 ^ (q - 1) := by
        rw [← zpow_one_add₀ (by norm_num)]
        ring_nf
      have hpos : (0 : ℚ) < 2 ^ (q - 1) := zpow_pos (by norm_num) _
      rw [h2]
      nlinarith
    calc magnitude ((ratioOf m q).1 / (ratioOf m q).2) 0
        = (((ratioOf m q).1 / (ratioOf m q).2 : ℕ) : ℚ) := by simp [magnitude]
      _ ≤ m * 2 ^ q := hfloor
      _ ≤ (2 * m + 1) * 2 ^ (q - 1) := hhalf

/-- 仮数が `2^k` 未満なら、丸まる区間の上端 `(2m + 1) * 2^(-k-1)` は 1 以下。 -/
theorem half_above_le_one {m k : ℕ} (h : m < 2 ^ k) : (2 * m + 1 : ℚ) * 2 ^ (-(k : ℤ) - 1) ≤ 1 := by
  have h1 : 2 * m + 1 ≤ 2 ^ (k + 1) := by
    rw [Nat.pow_succ]
    omega
  have h1' : (2 * m + 1 : ℚ) ≤ 2 ^ (k + 1) := by exact_mod_cast h1
  calc (2 * m + 1 : ℚ) * 2 ^ (-(k : ℤ) - 1)
      ≤ 2 ^ (k + 1) * 2 ^ (-(k : ℤ) - 1) := by gcongr
    _ = 1 := by
      rw [← zpow_natCast, ← zpow_add₀ (by norm_num)]
      push_cast
      ring_nf
      rfl

/-- `m * 2^q ≤ 1` の正規化された値の最短表記は 1 以下。 -/
theorem shortest_le_one {m : ℕ} {q : ℤ} (hle : AtMostOne m q) (hlt : m < 2 ^ 53)
    (hn : 2 ^ 52 ≤ m ∨ q = -1074) : magnitude (shortest m q).1 (shortest m q).2 ≤ 1 := by
  -- ちょうど 1 の `2^52 * 2^(-52)` を除けば、仮数は `2^(-q)` より真に小さい
  have hk : q = -((-q).toNat : ℤ) := by have := hle.1; omega
  have hsmall : m < 2 ^ (-q).toNat → magnitude (shortest m q).1 (shortest m q).2 ≤ 1 := fun h => by
    refine (shortest_le m q).trans ?_
    have := half_above_le_one h
    rwa [← hk] at this
  rcases (atMostOne_iff hlt hn).mp hle with hq | ⟨rfl, hm⟩
  · exact hsmall (lt_of_lt_of_le hlt (Nat.pow_le_pow_right (by decide) (by omega)))
  · rcases hm.lt_or_eq with hm | rfl
    · exact hsmall hm
    · rw [show shortest (2 ^ 52) (-52) = (1, 0) by decide +kernel]
      simp [magnitude]

end CrossPool.Binary64
