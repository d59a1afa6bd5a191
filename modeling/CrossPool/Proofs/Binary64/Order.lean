import Mathlib
import CrossPool.Binary64.Order

/-!
# 浮動小数点数の大小

`Float` の比較は、ビット列を符号・指数・仮数に分けた値 `UnpackedFloat` の `compare` で
決まる。NaN を除けば、この比較は鍵 `orderKey` の辞書式順序と同じになる。鍵は種類
（負の無限大、負の有限値、0、正の有限値、正の無限大の順）と指数と仮数を並べたもので、
負の有限値では指数と仮数の向きを逆にする。`+0` と `-0` は同じ鍵を持つ。

これで `<`、`≤`、`==` は NaN でない値の上では鍵の全順序の言葉になり、推移律などは整数の
辞書式順序から引き継ぐ。`pickMin`、`pickMax`、`clamp` は NaN でない端点の間で鍵の `min` と
`max` になる。`clamp` の値はいつも端点の間に収まり、`v` が NaN なら下の端点になる。
-/

namespace CrossPool.Binary64

open Float.Model UnpackedFloat

/-! ## 鍵 -/

/-- 順序の鍵。種類、指数、仮数の辞書式順序。NaN の鍵は使わない。 -/
def orderKey : UnpackedFloat → ℤ ×ₗ ℤ ×ₗ ℤ
  | .infinity .negative => toLex (-2, toLex (0, 0))
  | .finite .negative m e _ => toLex (-1, toLex (-e, -(m : ℤ)))
  | .zero _ => toLex (0, toLex (0, 0))
  | .finite .positive m e _ => toLex (1, toLex (e, (m : ℤ)))
  | .infinity .positive => toLex (2, toLex (0, 0))
  | .notANumber => toLex (0, toLex (0, 0))

theorem compare_toLex (a b c a' b' c' : ℤ) :
    compare (toLex (a, toLex (b, c))) (toLex (a', toLex (b', c'))) =
      (compare a a').then ((compare b b').then (compare c c')) := rfl

theorem compare_natCast (a b : ℕ) : compare (a : ℤ) (b : ℤ) = compare a b := by
  rcases lt_trichotomy a b with h | rfl | h
  · rw [compare_lt_iff_lt.mpr h, compare_lt_iff_lt.mpr (by exact_mod_cast h)]
  · simp
  · rw [compare_gt_iff_gt.mpr h, compare_gt_iff_gt.mpr (by exact_mod_cast h)]

theorem compare_neg (a b : ℤ) : compare (-a) (-b) = compare b a := by
  rcases lt_trichotomy a b with h | rfl | h
  · rw [compare_gt_iff_gt.mpr (by omega), compare_gt_iff_gt.mpr h]
  · simp
  · rw [compare_lt_iff_lt.mpr (by omega), compare_lt_iff_lt.mpr h]

/-- NaN でなければ、`compare` は鍵の比較である。 -/
theorem compare_eq_orderKey {a b : UnpackedFloat} (ha : a.isNaN = false) (hb : b.isNaN = false) :
    a.compare b = some (compare (orderKey a) (orderKey b)) := by
  -- 構成子と符号の組ごとに定義を開く。残るのは整数の定数の比較だけ
  rcases a with ⟨_ | _⟩ | _ | ⟨_ | _⟩ | ⟨_ | _, m, e, hm⟩ <;>
  rcases b with ⟨_ | _⟩ | _ | ⟨_ | _⟩ | ⟨_ | _, m', e', hm'⟩ <;>
  simp_all [UnpackedFloat.isNaN, UnpackedFloat.compare, orderKey, compare_toLex, compare_natCast,
    compare_neg, Ordering.swap_then, Int.compare_swap, Nat.compare_swap] <;> rfl

theorem compare_notANumber_left (b : UnpackedFloat) : UnpackedFloat.compare .notANumber b = none :=
  rfl

theorem compare_notANumber_right (a : UnpackedFloat) : a.compare .notANumber = none := by
  cases a <;> rfl

/-! ## `Float` の比較 -/

/-- NaN でない浮動小数点数。比較の相手になる。 -/
def Comparable (x : Float) : Prop := x.toModel.unpack.isNaN = false

instance (x : Float) : Decidable (Comparable x) := inferInstanceAs (Decidable (_ = _))

/-- 浮動小数点数の順序の鍵。 -/
def key (x : Float) : ℤ ×ₗ ℤ ×ₗ ℤ := orderKey x.toModel.unpack

theorem lt_def {a b : Float} : a < b ↔ a.toModel.unpack.lt b.toModel.unpack = true := by
  show decide (a.toModel.unpack.lt b.toModel.unpack = true) = true ↔ _
  exact decide_eq_true_iff

theorem le_def {a b : Float} : a ≤ b ↔ a.toModel.unpack.le b.toModel.unpack = true := by
  show decide (a.toModel.unpack.le b.toModel.unpack = true) = true ↔ _
  exact decide_eq_true_iff

theorem beq_def {a b : Float} : (a == b) = a.toModel.unpack.beq b.toModel.unpack := rfl

section Compare

variable {a b : Float}

theorem lt_iff_key (ha : Comparable a) (hb : Comparable b) : a < b ↔ key a < key b := by
  rw [lt_def, UnpackedFloat.lt, compare_eq_orderKey ha hb, key, key]
  simp [compare_lt_iff_lt]

theorem le_iff_key (ha : Comparable a) (hb : Comparable b) : a ≤ b ↔ key a ≤ key b := by
  rw [le_def, UnpackedFloat.le, compare_eq_orderKey ha hb, key, key]
  simp [Ordering.isLE_iff_ne_gt, compare_gt_iff_gt]

theorem beq_iff_key (ha : Comparable a) (hb : Comparable b) : (a == b) = true ↔ key a = key b := by
  rw [beq_def, UnpackedFloat.beq, compare_eq_orderKey ha hb, key, key]
  simp [compare_eq_iff_eq]

/-- NaN は何とも比べられない。 -/
theorem comparable_of_lt (h : a < b) : Comparable a ∧ Comparable b := by
  rw [lt_def, UnpackedFloat.lt] at h
  unfold Comparable
  cases ha : a.toModel.unpack.isNaN <;> cases hb : b.toModel.unpack.isNaN
  · exact ⟨rfl, rfl⟩
  all_goals
    cases hua : a.toModel.unpack <;> cases hub : b.toModel.unpack <;>
      simp_all [UnpackedFloat.isNaN, compare_notANumber_right, compare_notANumber_left]

theorem comparable_of_le (h : a ≤ b) : Comparable a ∧ Comparable b := by
  rw [le_def, UnpackedFloat.le] at h
  unfold Comparable
  cases ha : a.toModel.unpack.isNaN <;> cases hb : b.toModel.unpack.isNaN
  · exact ⟨rfl, rfl⟩
  all_goals
    cases hua : a.toModel.unpack <;> cases hub : b.toModel.unpack <;>
      simp_all [UnpackedFloat.isNaN, compare_notANumber_right, compare_notANumber_left]

theorem not_lt_iff_le (ha : Comparable a) (hb : Comparable b) : ¬ a < b ↔ b ≤ a := by
  rw [lt_iff_key ha hb, le_iff_key hb ha, not_lt]

end Compare

/-! ## 小さいほう、大きいほう、区間に収める -/

section Clamp

variable {v w lo hi : Float}

theorem key_pickMin (ha : Comparable v) (hb : Comparable hi) :
    key (pickMin v hi) = min (key v) (key hi) := by
  unfold pickMin
  split
  · rename_i h
    rw [min_eq_right ((lt_iff_key hb ha).mp h).le]
  · rename_i h
    rw [min_eq_left ((not_lt_iff_le hb ha).mp h |> (le_iff_key ha hb).mp)]

theorem key_pickMax (ha : Comparable lo) (hb : Comparable v) :
    key (pickMax lo v) = max (key lo) (key v) := by
  unfold pickMax
  split
  · rename_i h
    rw [max_eq_right ((lt_iff_key ha hb).mp h).le]
  · rename_i h
    rw [max_eq_left ((not_lt_iff_le ha hb).mp h |> (le_iff_key hb ha).mp)]

theorem comparable_pickMin (ha : Comparable v) (hb : Comparable hi) : Comparable (pickMin v hi) := by
  unfold pickMin
  split <;> assumption

theorem comparable_pickMax (ha : Comparable lo) (hb : Comparable v) : Comparable (pickMax lo v) := by
  unfold pickMax
  split <;> assumption

/-- NaN は区間の下の端点になる。比べて真になったときだけ後の値を取るからである。 -/
theorem clamp_of_not_comparable (hv : ¬ Comparable v) : clamp v lo hi = lo := by
  have hmin : pickMin v hi = v := if_neg fun h => hv (comparable_of_lt h).2
  unfold clamp
  rw [hmin]
  exact if_neg fun h => hv (comparable_of_lt h).2

theorem comparable_clamp (hlo : Comparable lo) (hhi : Comparable hi) : Comparable (clamp v lo hi) := by
  by_cases hv : Comparable v
  · exact comparable_pickMax hlo (comparable_pickMin hv hhi)
  · rw [clamp_of_not_comparable hv]
    exact hlo

theorem key_clamp (hv : Comparable v) (hlo : Comparable lo) (hhi : Comparable hi) :
    key (clamp v lo hi) = max (key lo) (min (key v) (key hi)) := by
  unfold clamp
  rw [key_pickMax hlo (comparable_pickMin hv hhi), key_pickMin hv hhi]

/-- 端点が NaN でなく `lo ≤ hi` なら、`clamp` の値は区間 `[lo, hi]` にある。 -/
theorem clamp_mem (hlo : Comparable lo) (hhi : Comparable hi) (h : lo ≤ hi) :
    lo ≤ clamp v lo hi ∧ clamp v lo hi ≤ hi := by
  have hc : Comparable (clamp v lo hi) := comparable_clamp hlo hhi
  have hk : key lo ≤ key hi := (le_iff_key hlo hhi).mp h
  rw [le_iff_key hlo hc, le_iff_key hc hhi]
  by_cases hv : Comparable v
  · rw [key_clamp hv hlo hhi]
    exact ⟨le_max_left _ _, max_le hk (min_le_right _ _)⟩
  · rw [clamp_of_not_comparable hv]
    exact ⟨le_rfl, hk⟩

theorem clamp_mono (hv : Comparable v) (hw : Comparable w) (hlo : Comparable lo)
    (hhi : Comparable hi) (h : v ≤ w) : clamp v lo hi ≤ clamp w lo hi := by
  rw [le_iff_key (comparable_clamp hlo hhi) (comparable_clamp hlo hhi), key_clamp hv hlo hhi,
    key_clamp hw hlo hhi]
  exact max_le_max le_rfl (min_le_min ((le_iff_key hv hw).mp h) le_rfl)

end Clamp

end CrossPool.Binary64
