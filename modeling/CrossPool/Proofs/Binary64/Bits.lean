import CrossPool.Binary64.Basic
import CrossPool.Proofs.Binary64.Unit

/-!
# ビット列から読み直した値

ビット列を読む `unpack` の値は決まった形をしている（`Canonical`）。NaN、無限大、0 か、
非正規化数の位置（指数 -1074、仮数 `2^52` 未満）か正規化数の位置（仮数 53 bit、指数
`[-1074, 971]`）の有限値である（`canonical_unpack`）。この形の値は詰め直して読み直しても
変わらない（`unpack_pack_of_canonical`）。`Float.ofBits` はビット列を一度読んで詰め直すので、
作った浮動小数点数の鍵はビット列をそのまま読んだ値の鍵になる（`key_ofBits`）。

`assemble` で組み立てた正の有限値の鍵は、指数部と仮数部から直接読める
（`key_assemble_normal`、`key_assemble_subnormal`）。
-/

namespace CrossPool.Binary64

open Float.Model UnpackedFloat

/-! ## 読み直した値の形 -/

theorem exponentBits_binary64 : Format.binary64.exponentBits = 11 := rfl

/-- `unpack` が返しうる値：特別な値か、非正規化数か正規化数の位置の有限値。 -/
inductive Canonical : UnpackedFloat → Prop
  | notANumber : Canonical .notANumber
  | infinity (s : Sign) : Canonical (.infinity s)
  | zero (s : Sign) : Canonical (.zero s)
  | subnormal (s : Sign) (m : ℕ) (hm : 0 < m) (hlt : m < 2 ^ 52) :
      Canonical (.finite s m (-1074) hm)
  | normal (s : Sign) (m : ℕ) (e : ℤ) (hm : 0 < m) (hlo : 2 ^ 52 ≤ m) (hhi : m < 2 ^ 53)
      (helo : -1074 ≤ e) (hehi : e ≤ 971) : Canonical (.finite s m e hm)

theorem toNat_one_append (v : BitVec 52) : (1#1 ++ v).toNat = 2 ^ 52 + v.toNat := by
  rw [BitVec.toNat_append, ← Nat.shiftLeft_add_eq_or_of_lt v.isLt, Nat.shiftLeft_eq]
  simp

/-- 指数の計算に現れる定数。 -/
theorem bias_add_mantissaBits :
    ((Format.binary64.exponentBias : ℕ) : ℤ) + (Format.binary64.mantissaBitsWithoutImplicit : ℕ) =
      1075 := rfl

theorem canonical_unpack (b : BitVec Format.binary64.numBits) :
    Canonical (unpack Format.binary64 b) := by
  have hM : (unpackMantissa b).toNat < 2 ^ 52 := (unpackMantissa b).isLt
  have hE : (unpackExponent b).toNat < 2048 := (unpackExponent b).isLt
  unfold UnpackedFloat.unpack
  dsimp only
  rw [bias_add_mantissaBits]
  split
  · split
    · exact .infinity _
    · exact .notANumber
  · next hinf =>
    have h1 : (unpackExponent b).toNat ≠ 2047 := by simpa [BitVec.toNat_eq] using hinf
    split
    · next hzero =>
      have h0 : (unpackExponent b).toNat = 0 := by simpa [BitVec.toNat_eq] using hzero
      split
      · exact .zero _
      · rw [h0]
        exact .subnormal _ _ _ hM
    · next hzero =>
      have h0 : (unpackExponent b).toNat ≠ 0 := by simpa [BitVec.toNat_eq] using hzero
      have hm := toNat_one_append (unpackMantissa b)
      exact .normal _ _ _ _ (by omega) (by omega) (by omega) (by omega)

theorem mantissaBits_binary64 : Format.binary64.mantissaBits = 53 := rfl

/-- 決まった形の値は、詰め直して読み直しても変わらない。 -/
theorem unpack_pack_of_canonical {u : UnpackedFloat} (h : Canonical u) :
    unpack Format.binary64 (pack Format.binary64 u) = u := by
  cases h with
  | notANumber => rfl
  | infinity s => cases s <;> rfl
  | zero s => cases s <;> rfl
  | subnormal s m hm hlt =>
    have hlog : m.log2 < 52 := (Nat.log2_lt (by omega)).mpr hlt
    have hbits : (BitVec.ofNat 52 m).toNat = m := by
      rw [BitVec.toNat_ofNat]
      omega
    have hne : BitVec.ofNat 52 m ≠ 0#52 := fun h0 => by
      have := congrArg BitVec.toNat h0
      rw [hbits] at this
      simp at this
      omega
    unfold UnpackedFloat.pack
    dsimp only
    rw [if_neg (by decide), if_neg (by rw [mantissaBits_binary64]; omega)]
    unfold UnpackedFloat.unpack
    simp only [unpackMantissa_packComponents, unpackExponent_packComponents,
      sign_unpack_packComponents]
    rw [if_neg (by decide), if_pos trivial, dif_neg hne]
    simp [hbits, exponentBias_binary64]
  | normal s m e hm hlo hhi helo hehi =>
    have hlog : m.log2 = 52 := by
      have h1 : 52 ≤ m.log2 := (Nat.le_log2 (by omega)).mpr hlo
      have h2 : m.log2 < 53 := (Nat.log2_lt (by omega)).mpr hhi
      omega
    have hbiased : (e + ((Format.binary64.exponentBias : ℕ) : ℤ) +
        (Format.binary64.mantissaBitsWithoutImplicit : ℕ)).toNat = (e + 1075).toNat := by
      rw [add_assoc, bias_add_mantissaBits]
    have hexp : (BitVec.ofNat Format.binary64.exponentBits (e + 1075).toNat).toNat =
        (e + 1075).toNat := by
      rw [BitVec.toNat_ofNat, exponentBits_binary64]
      omega
    have hman : (1#1 ++ BitVec.ofNat 52 m).toNat = m := by
      rw [toNat_one_append, BitVec.toNat_ofNat]
      omega
    unfold UnpackedFloat.pack
    dsimp only
    rw [hbiased, if_neg (by omega), if_pos (by rw [mantissaBits_binary64]; omega)]
    unfold UnpackedFloat.unpack
    simp only [unpackMantissa_packComponents, unpackExponent_packComponents,
      sign_unpack_packComponents]
    rw [if_neg (fun h => by have := congrArg BitVec.toNat h; simp at this; omega),
      if_neg (fun h => by have := congrArg BitVec.toNat h; simp at this; omega)]
    simp only [hman, hexp]
    congr 1
    rw [bias_add_mantissaBits]
    omega

/-- `Float.ofBits` で作った値の鍵は、ビット列をそのまま読んだ値の鍵。 -/
theorem key_ofBits (u : UInt64) :
    key (Float.ofBits u) = orderKey (unpack Format.binary64 u.toBitVec) := by
  show orderKey (unpack Format.binary64 (pack Format.binary64 (unpack Format.binary64 _))) = _
  rw [unpack_pack_of_canonical (canonical_unpack _)]

/-- `Float.ofBits` で作った値が NaN でないことも、ビット列をそのまま読んで分かる。 -/
theorem comparable_ofBits_iff (u : UInt64) :
    Comparable (Float.ofBits u) ↔ (unpack Format.binary64 u.toBitVec).isNaN = false := by
  show (unpack Format.binary64 (pack Format.binary64 (unpack Format.binary64 _))).isNaN = false ↔ _
  rw [unpack_pack_of_canonical (canonical_unpack _)]

/-! ## 組み立てた正の値 -/

theorem toNat_unpackSign (b : BitVec Format.binary64.numBits) :
    (unpackSign b).toNat = b.toNat / 2 ^ 63 % 2 := by
  simp only [unpackSign, BitVec.toNat_cast, BitVec.extractLsb_toNat, Nat.shiftRight_eq_div_pow]

theorem toNat_unpackExponent (b : BitVec Format.binary64.numBits) :
    (unpackExponent b).toNat = b.toNat / 2 ^ 52 % 2 ^ 11 := by
  simp only [unpackExponent, BitVec.toNat_cast, BitVec.extractLsb_toNat, Nat.shiftRight_eq_div_pow]

theorem toNat_unpackMantissa (b : BitVec Format.binary64.numBits) :
    (unpackMantissa b).toNat = b.toNat % 2 ^ 52 := by
  simp only [unpackMantissa, BitVec.toNat_cast, BitVec.extractLsb_toNat, Nat.shiftRight_eq_div_pow,
    pow_zero, Nat.div_one]

/-- 正の値 `assemble false be f` のビット列。 -/
theorem assemble_false (be f : ℕ) :
    assemble false be f = Float.ofBits (UInt64.ofNat (be * 2 ^ 52 + f)) := by
  simp only [assemble, Bool.false_eq_true, if_false, Nat.zero_add, Nat.pow_eq]

section Assemble

variable {be f : ℕ} {b : BitVec Format.binary64.numBits} (hb : b.toNat = be * 2 ^ 52 + f)
  (hbe : be < 2047) (hf : f < 2 ^ 52)
include hb hbe hf

/-- 符号が 0、指数部が `be`、仮数部が `f`。 -/
theorem fields_of_toNat :
    unpackSign b = 0#1 ∧ (unpackExponent b).toNat = be ∧ (unpackMantissa b).toNat = f := by
  refine ⟨BitVec.eq_of_toNat_eq ?_, ?_, ?_⟩
  · rw [toNat_unpackSign, hb]
    simp only [BitVec.toNat_ofNat]
    omega
  · rw [toNat_unpackExponent, hb]
    omega
  · rw [toNat_unpackMantissa, hb]
    omega

/-- 指数部が 0 でない正の値は、隠れた 1 bit を足した仮数の正規化数。 -/
theorem unpack_normal_of_toNat (h0 : 0 < be) :
    ∃ hm, unpack Format.binary64 b = .finite .positive (f + 2 ^ 52) ((be : ℤ) - 1075) hm := by
  obtain ⟨hs, he, hm⟩ := fields_of_toNat hb hbe hf
  refine ⟨by omega, ?_⟩
  unfold UnpackedFloat.unpack
  dsimp only
  rw [if_neg (fun h => by have := congrArg BitVec.toNat h; simp at this; omega),
    if_neg (fun h => by have := congrArg BitVec.toNat h; simp at this; omega), hs,
    bias_add_mantissaBits]
  simp only [toNat_one_append, hm, he]
  congr 1
  omega

/-- 指数部が 0 で仮数部が 0 でない正の値は、非正規化数。 -/
theorem unpack_subnormal_of_toNat (h0 : be = 0) (hf0 : 0 < f) :
    ∃ hm, unpack Format.binary64 b = .finite .positive f (-1074) hm := by
  obtain ⟨hs, he, hm⟩ := fields_of_toNat hb hbe hf
  refine ⟨hf0, ?_⟩
  have hz : unpackExponent b = 0#11 := BitVec.eq_of_toNat_eq (by rw [he, h0]; rfl)
  have hnz : unpackMantissa b ≠ 0#52 := fun h => by
    have := congrArg BitVec.toNat h
    simp at this
    omega
  unfold UnpackedFloat.unpack
  dsimp only
  rw [if_neg (by rw [hz]; decide), if_pos hz, dif_neg hnz, hs, hz]
  simp only [hm]
  rfl

end Assemble

/-- 組み立てた正の値は NaN でなく、鍵は指数部と仮数部から読める。 -/
theorem key_assemble {be f : ℕ} (hbe : be < 2047) (hf : f < 2 ^ 52) :
    Comparable (assemble false be f) ∧ key (assemble false be f) =
      if be = 0 then (if f = 0 then toLex (0, toLex (0, 0)) else toLex (1, toLex (-1074, (f : ℤ))))
      else toLex (1, toLex ((be : ℤ) - 1075, ((f + 2 ^ 52 : ℕ) : ℤ))) := by
  have hb : (UInt64.ofNat (be * 2 ^ 52 + f)).toBitVec.toNat = be * 2 ^ 52 + f := by
    rw [UInt64.toBitVec_ofNat', BitVec.toNat_ofNat]
    exact Nat.mod_eq_of_lt (by omega)
  rw [assemble_false, comparable_ofBits_iff, key_ofBits]
  rcases Nat.eq_zero_or_pos be with rfl | h0
  · rcases Nat.eq_zero_or_pos f with rfl | hf0
    · exact ⟨rfl, rfl⟩
    · obtain ⟨_, hu⟩ := unpack_subnormal_of_toNat hb hbe hf rfl hf0
      rw [hu]
      simp [orderKey, UnpackedFloat.isNaN, hf0.ne']
  · obtain ⟨_, hu⟩ := unpack_normal_of_toNat hb hbe hf h0
    rw [hu]
    simp [orderKey, UnpackedFloat.isNaN, h0.ne']

end CrossPool.Binary64
