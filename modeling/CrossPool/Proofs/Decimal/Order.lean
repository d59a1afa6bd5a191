import Mathlib.Algebra.Order.Field.Power
import Mathlib.Data.Nat.Log
import Mathlib.Data.Rat.Cast.Order
import Mathlib.Order.WithBot
import Mathlib.Tactic.Linarith
import Mathlib.Tactic.Ring
import CrossPool.Calc

/-!
# 10 進数の大小

有限値 `(-1)^neg * c * 10^e` を有理数で読み、符号付きの無限大を両端に加えた
`WithBot (WithTop ℚ)` の値 `value` にする。NaN でない二つの 10 進数では、比較
`cmpValue` はこの値の `compare` である（`cmpValue_eq_compare`）。係数と指数の表し方は
値に効かないので、`1.0` と `1`、`-0` と `0` は同じ値を持つ。

`cmpMagnitude` は調整済み指数（最上位の桁の位置）を先に比べる。この比較が正しいのは、
係数の桁数 `digitCount` が `10^(桁数 - 1) ≤ c < 10^桁数` を満たすからである。

`Calc.lt`、`Calc.le`、`Calc.eq` は NaN があれば失敗するか偽になり、それ以外では値の
`<`、`≤`、`=` を返す。`Calc.clamp` の結果は端点の間の値になる。
-/

namespace CrossPool.Decimal

/-! ## 桁数 -/

theorem digitCount_eq_log (c : Nat) : digitCount c = Nat.log 10 c + 1 := by
  induction c using Nat.strong_induction_on with
  | _ c ih =>
    unfold digitCount
    split
    · rename_i h
      rw [Nat.log_of_lt h]
    · rename_i h
      have hpos : 0 < Nat.log 10 c := Nat.log_pos (by norm_num) (by omega)
      rw [ih (c / 10) (by omega), Nat.log_div_base]
      omega

theorem lt_pow_digitCount (c : Nat) : c < 10 ^ digitCount c := by
  rw [digitCount_eq_log]
  exact Nat.lt_pow_succ_log_self (by norm_num) c

theorem pow_digitCount_le {c : Nat} (hc : c ≠ 0) : 10 ^ (digitCount c - 1) ≤ c := by
  rw [digitCount_eq_log, Nat.add_sub_cancel]
  exact Nat.pow_log_le_self 10 hc

/-! ## 値 -/

/-- 係数と指数の表す大きさ `c * 10^e`。 -/
def magnitude (c : Nat) (e : Int) : ℚ := c * 10 ^ e

/-- 符号付きの有限値。 -/
def signedValue (neg : Bool) (c : Nat) (e : Int) : ℚ :=
  if neg then -magnitude c e else magnitude c e

/-- 10 進数の値。無限大は両端に置く。NaN の値は使わない。 -/
def value : Decimal → WithBot (WithTop ℚ)
  | .finite neg c e => ((signedValue neg c e : WithTop ℚ) : WithBot (WithTop ℚ))
  | .infinity neg => if neg then ⊥ else ⊤
  | .nan .. => ⊥

theorem magnitude_nonneg (c : Nat) (e : Int) : 0 ≤ magnitude c e :=
  mul_nonneg (Nat.cast_nonneg c) (zpow_nonneg (by norm_num) e)

theorem magnitude_pos {c : Nat} (hc : c ≠ 0) (e : Int) : 0 < magnitude c e :=
  mul_pos (by exact_mod_cast Nat.pos_of_ne_zero hc) (zpow_pos (by norm_num) e)

theorem magnitude_zero (e : Int) : magnitude 0 e = 0 := by
  simp [magnitude]

/-- 係数に `10^k` を掛けることは、指数に `k` を足すことと同じ。 -/
theorem magnitude_mul_pow (c : Nat) (e : Int) (k : Nat) :
    magnitude (c * Nat.pow 10 k) e = magnitude c (e + k) := by
  simp only [magnitude, Nat.pow_eq, Nat.cast_mul, Nat.cast_pow, Nat.cast_ofNat]
  rw [zpow_add₀ (by norm_num), zpow_natCast]
  ring

theorem magnitude_lt_pow (c : Nat) (e : Int) : magnitude c e < 10 ^ (adjusted c e + 1) := by
  have hc : (c : ℚ) < 10 ^ digitCount c := by exact_mod_cast lt_pow_digitCount c
  have hexp : adjusted c e + 1 = (digitCount c : Int) + e := by
    unfold adjusted
    omega
  calc magnitude c e < 10 ^ digitCount c * 10 ^ e :=
        mul_lt_mul_of_pos_right hc (zpow_pos (by norm_num) e)
    _ = 10 ^ (adjusted c e + 1) := by
        rw [hexp, zpow_add₀ (by norm_num), zpow_natCast]

theorem pow_le_magnitude {c : Nat} (hc : c ≠ 0) (e : Int) :
    (10 : ℚ) ^ adjusted c e ≤ magnitude c e := by
  have hd : ((10 ^ (digitCount c - 1) : Nat) : ℚ) ≤ c := by exact_mod_cast pow_digitCount_le hc
  have hexp : adjusted c e = ((digitCount c - 1 : Nat) : Int) + e := by
    have := digitCount_pos c
    unfold adjusted
    omega
  calc (10 : ℚ) ^ adjusted c e = ((10 ^ (digitCount c - 1) : Nat) : ℚ) * 10 ^ e := by
        rw [hexp, zpow_add₀ (by norm_num), zpow_natCast]
        push_cast
        rfl
    _ ≤ magnitude c e := mul_le_mul_of_nonneg_right hd (zpow_nonneg (by norm_num) e)

theorem magnitude_lt_of_adjusted_lt {ca cb : Nat} {ea eb : Int} (hb : cb ≠ 0)
    (h : adjusted ca ea < adjusted cb eb) : magnitude ca ea < magnitude cb eb :=
  calc magnitude ca ea < 10 ^ (adjusted ca ea + 1) := magnitude_lt_pow ca ea
    _ ≤ 10 ^ adjusted cb eb := zpow_le_zpow_right₀ (by norm_num) (by omega)
    _ ≤ magnitude cb eb := pow_le_magnitude hb eb

theorem compare_magnitude (ca cb : Nat) (e : Int) :
    compare (magnitude ca e) (magnitude cb e) = compare ca cb := by
  have hmono : StrictMono fun c : Nat => magnitude c e := fun x y h =>
    mul_lt_mul_of_pos_right (by exact_mod_cast h) (zpow_pos (by norm_num) e)
  rw [← cmp_eq_compare, ← cmp_eq_compare]
  exact hmono.cmp_map_eq ca cb

theorem compare_neg_rat (x y : ℚ) : compare (-x) (-y) = compare y x := by
  rcases lt_trichotomy x y with h | rfl | h
  · rw [compare_gt_iff_gt.mpr (neg_lt_neg h), compare_gt_iff_gt.mpr h]
  · simp
  · rw [compare_lt_iff_lt.mpr (neg_lt_neg h), compare_lt_iff_lt.mpr h]

theorem cmpMagnitude_eq_compare (ca : Nat) (ea : Int) (cb : Nat) (eb : Int) :
    cmpMagnitude ca ea cb eb = compare (magnitude ca ea) (magnitude cb eb) := by
  unfold cmpMagnitude
  by_cases ha : ca = 0 <;> by_cases hb : cb = 0
  · simp [ha, hb, magnitude_zero]
  · rw [if_pos ha, if_neg hb, ha, magnitude_zero, eq_comm, compare_lt_iff_lt]
    exact magnitude_pos hb eb
  · rw [if_neg ha, if_pos hb, hb, magnitude_zero, eq_comm, compare_gt_iff_gt]
    exact magnitude_pos ha ea
  · rw [if_neg ha, if_neg hb]
    dsimp only
    split_ifs with h1 h2 h3
    · exact (compare_lt_iff_lt.mpr (magnitude_lt_of_adjusted_lt hb h1)).symm
    · exact (compare_gt_iff_gt.mpr (magnitude_lt_of_adjusted_lt ha h2)).symm
    · -- 調整済み指数が等しいので、指数を小さいほうにそろえて係数を比べる
      have he : magnitude cb eb = magnitude (cb * Nat.pow 10 (eb - ea).toNat) ea := by
        rw [magnitude_mul_pow]
        congr 1
        omega
      rw [he, compare_magnitude]
    · have he : magnitude ca ea = magnitude (ca * Nat.pow 10 (ea - eb).toNat) eb := by
        rw [magnitude_mul_pow]
        congr 1
        omega
      rw [he, compare_magnitude]

theorem signedValue_of_nonneg {neg : Bool} {c : Nat} (h : (neg && c != 0) = false) (e : Int) :
    signedValue neg c e = magnitude c e := by
  unfold signedValue
  cases neg with
  | false => rfl
  | true =>
    have hc : c = 0 := by simpa using h
    simp [hc, magnitude_zero]

theorem signedValue_of_neg {neg : Bool} {c : Nat} (h : (neg && c != 0) = true) (e : Int) :
    signedValue neg c e = -magnitude c e ∧ 0 < magnitude c e := by
  simp only [Bool.and_eq_true, bne_iff_ne, ne_eq] at h
  exact ⟨if_pos h.1, magnitude_pos h.2 e⟩

theorem compare_coe (x y : ℚ) :
    compare ((x : WithTop ℚ) : WithBot (WithTop ℚ)) ((y : WithTop ℚ) : WithBot (WithTop ℚ)) =
      compare x y := by
  rw [← cmp_eq_compare, ← cmp_eq_compare]
  exact (WithBot.coe_strictMono.comp WithTop.coe_strictMono).cmp_map_eq x y

theorem compare_signedValue (na : Bool) (ca : Nat) (ea : Int) (nb : Bool) (cb : Nat) (eb : Int) :
    cmpValue (.finite na ca ea) (.finite nb cb eb) =
      compare (signedValue na ca ea) (signedValue nb cb eb) := by
  simp only [cmpValue]
  split
  next hna hnb => rw [signedValue_of_nonneg hna, signedValue_of_nonneg hnb, cmpMagnitude_eq_compare]
  next hna hnb =>
    rw [(signedValue_of_neg hna ea).1, (signedValue_of_neg hnb eb).1, compare_neg_rat,
      cmpMagnitude_eq_compare]
  next hna hnb =>
    obtain ⟨hv, hpos⟩ := signedValue_of_neg hna ea
    rw [signedValue_of_nonneg hnb, hv, eq_comm, compare_lt_iff_lt]
    linarith [magnitude_nonneg cb eb]
  next hna hnb =>
    obtain ⟨hv, hpos⟩ := signedValue_of_neg hnb eb
    rw [signedValue_of_nonneg hna, hv, eq_comm, compare_gt_iff_gt]
    linarith [magnitude_nonneg ca ea]

theorem coe_lt_top (x : ℚ) : ((x : WithTop ℚ) : WithBot (WithTop ℚ)) < ⊤ := by
  rw [← WithBot.coe_top]
  exact WithBot.coe_lt_coe.mpr (WithTop.coe_lt_top x)

/-- NaN でなければ、`cmpValue` は値の比較である。 -/
theorem cmpValue_eq_compare {a b : Decimal} (ha : a.isNan = false) (hb : b.isNan = false) :
    cmpValue a b = compare a.value b.value := by
  cases a with
  | nan => simp [isNan] at ha
  | finite na ca ea =>
    cases b with
    | nan => simp [isNan] at hb
    | finite nb cb eb => rw [compare_signedValue, value, value, compare_coe]
    | infinity nb =>
      cases nb
      · exact (compare_lt_iff_lt.mpr (coe_lt_top _)).symm
      · exact (compare_gt_iff_gt.mpr (by simp [value])).symm
  | infinity na =>
    cases b with
    | nan => simp [isNan] at hb
    | finite nb cb eb =>
      cases na
      · exact (compare_gt_iff_gt.mpr (coe_lt_top _)).symm
      · exact (compare_lt_iff_lt.mpr (by simp [value])).symm
    | infinity nb =>
      cases na <;> cases nb
      · exact (compare_eq_iff_eq.mpr rfl).symm
      · exact (compare_gt_iff_gt.mpr (by simp [value])).symm
      · exact (compare_lt_iff_lt.mpr (by simp [value])).symm
      · exact (compare_eq_iff_eq.mpr rfl).symm

/-! ## 比較の意味 -/

section Compare

variable {α : Type} [LinearOrder α] (x y : α)

theorem compare_beq_lt : (compare x y == .lt) = decide (x < y) :=
  Bool.eq_iff_iff.mpr (by simp [compare_lt_iff_lt])

theorem compare_bne_gt : (compare x y != .gt) = decide (x ≤ y) :=
  Bool.eq_iff_iff.mpr (by simp [compare_gt_iff_gt])

theorem compare_beq_eq : (compare x y == .eq) = decide (x = y) :=
  Bool.eq_iff_iff.mpr (by simp)

end Compare

theorem compareOrder_eq (a b : Decimal) :
    compareOrder a b =
      if a.isNan || b.isNan then .error .invalidOperation else .ok (compare a.value b.value) := by
  unfold compareOrder
  split
  · rfl
  · rename_i h
    simp only [Bool.or_eq_true, not_or, Bool.not_eq_true] at h
    rw [cmpValue_eq_compare h.1 h.2]

theorem lt_eq_ok {a b : Decimal} {t : Bool} :
    lt a b = .ok t ↔ a.isNan = false ∧ b.isNan = false ∧ t = decide (a.value < b.value) := by
  unfold lt
  rw [compareOrder_eq]
  cases ha : a.isNan <;> cases hb : b.isNan <;>
    simp [Except.map, compare_beq_lt, eq_comm]

theorem le_eq_ok {a b : Decimal} {t : Bool} :
    le a b = .ok t ↔ a.isNan = false ∧ b.isNan = false ∧ t = decide (a.value ≤ b.value) := by
  unfold le
  rw [compareOrder_eq]
  cases ha : a.isNan <;> cases hb : b.isNan <;>
    simp [Except.map, compare_bne_gt, eq_comm]

theorem pickMin_eq_ok {a b r : Decimal} (h : pickMin a b = .ok r) :
    r.isNan = false ∧ r.value = min a.value b.value := by
  unfold pickMin at h
  cases hl : lt b a with
  | error s => simp [hl] at h; cases h
  | ok t =>
    obtain ⟨hb, ha, rfl⟩ := lt_eq_ok.mp hl
    simp only [hl] at h
    by_cases hlt : b.value < a.value
    · simp only [hlt, decide_true] at h
      cases h
      exact ⟨hb, (min_eq_right hlt.le).symm⟩
    · simp only [hlt, decide_false] at h
      cases h
      exact ⟨ha, (min_eq_left (not_lt.mp hlt)).symm⟩

theorem pickMax_eq_ok {a b r : Decimal} (h : pickMax a b = .ok r) :
    r.isNan = false ∧ r.value = max a.value b.value := by
  unfold pickMax at h
  cases hl : lt a b with
  | error s => simp [hl] at h; cases h
  | ok t =>
    obtain ⟨ha, hb, rfl⟩ := lt_eq_ok.mp hl
    simp only [hl] at h
    by_cases hlt : a.value < b.value
    · simp only [hlt, decide_true] at h
      cases h
      exact ⟨hb, (max_eq_right hlt.le).symm⟩
    · simp only [hlt, decide_false] at h
      cases h
      exact ⟨ha, (max_eq_left (not_lt.mp hlt)).symm⟩

/-- 区間に収めた値は `max lo (min v hi)`。 -/
theorem clamp_eq_ok {v lo hi r : Decimal} (h : clamp v lo hi = .ok r) :
    r.isNan = false ∧ r.value = max lo.value (min v.value hi.value) := by
  unfold clamp at h
  cases hm : pickMin v hi with
  | error s => simp [hm] at h; cases h
  | ok w =>
    simp only [hm] at h
    obtain ⟨-, hw⟩ := pickMin_eq_ok hm
    obtain ⟨hr, hv⟩ := pickMax_eq_ok h
    exact ⟨hr, hv.trans (by rw [hw])⟩

end CrossPool.Decimal

namespace CrossPool

@[simp] theorem liftSignal_ok {α : Type} (a : α) : liftSignal (.ok a) = .ok a := rfl

@[simp] theorem liftSignal_error {α : Type} (s : Decimal.Signal) :
    liftSignal (.error s : Except Decimal.Signal α) = .error (.signal s) := rfl

namespace Calc

open Decimal

/-! ## 主 thread の context

標準 context での演算は、context を指定した演算を標準 context で使ったもの。context を
引数にとる定義を主 thread で展開したあとは、これで標準 context の演算に戻す。 -/

theorem addIn_ctx : addIn ctx = add := rfl
theorem subIn_ctx : subIn ctx = sub := rfl
theorem mulIn_ctx : mulIn ctx = mul := rfl
theorem divIn_ctx : divIn ctx = div := rfl
theorem powIn_ctx : powIn ctx = pow := rfl
theorem pow10In_ctx : pow10In ctx = pow10 := rfl

/-! ## 比較の意味 -/

theorem liftSignal_eq_ok {α : Type} {r : Except Decimal.Signal α} {a : α} :
    liftSignal r = .ok a ↔ r = .ok a := by
  cases r <;> simp [liftSignal, Except.mapError]

theorem lt_eq_ok {a b : Decimal} {t : Bool} :
    Calc.lt a b = .ok t ↔ a.isNan = false ∧ b.isNan = false ∧ t = decide (a.value < b.value) :=
  liftSignal_eq_ok.trans Decimal.lt_eq_ok

theorem le_eq_ok {a b : Decimal} {t : Bool} :
    Calc.le a b = .ok t ↔ a.isNan = false ∧ b.isNan = false ∧ t = decide (a.value ≤ b.value) :=
  liftSignal_eq_ok.trans Decimal.le_eq_ok

theorem lt_of_not_nan {a b : Decimal} (ha : a.isNan = false) (hb : b.isNan = false) :
    Calc.lt a b = .ok (decide (a.value < b.value)) :=
  lt_eq_ok.mpr ⟨ha, hb, rfl⟩

theorem le_of_not_nan {a b : Decimal} (ha : a.isNan = false) (hb : b.isNan = false) :
    Calc.le a b = .ok (decide (a.value ≤ b.value)) :=
  le_eq_ok.mpr ⟨ha, hb, rfl⟩

theorem value_lit_zero : (Calc.lit "0").value = 0 := by
  rw [show Calc.lit "0" = .finite false 0 0 from rfl]
  simp [Decimal.value, Decimal.signedValue, Decimal.magnitude]

theorem value_lit_one : (Calc.lit "1").value = 1 := by
  rw [show Calc.lit "1" = .finite false 1 0 from rfl]
  simp [Decimal.value, Decimal.signedValue, Decimal.magnitude]

theorem eq_of_not_nan {a b : Decimal} (ha : a.isNan = false) (hb : b.isNan = false) :
    Calc.eq a b = .ok (decide (a.value = b.value)) := by
  have hv : (cmpValue a b == .eq) = decide (a.value = b.value) := by
    rw [cmpValue_eq_compare ha hb, compare_beq_eq]
  unfold Calc.eq equals
  cases a <;> cases b <;> simp_all [isNan]

/-- 区間に収めた値は、端点が順に並んでいれば端点の間にある。 -/
theorem clamp_mem {v lo hi r : Decimal} (h : Calc.clamp v lo hi = .ok r)
    (hle : lo.value ≤ hi.value) : lo.value ≤ r.value ∧ r.value ≤ hi.value := by
  obtain ⟨-, hv⟩ := Decimal.clamp_eq_ok (liftSignal_eq_ok.mp h)
  rw [hv]
  exact ⟨le_max_left _ _, max_le hle (min_le_right _ _)⟩

end Calc

end CrossPool
