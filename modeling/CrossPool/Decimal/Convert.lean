import CrossPool.Decimal.Text
import CrossPool.Binary64.Text

/-!
# 10 進数と整数・浮動小数点数の変換

* `truncate` — 0 に向けて整数に切り捨てる。NaN と無限大は整数にならない。
* `toFloat?` — 最も近い `Float`（偶数丸め）。sNaN は変換しない。
* `ofFloat` — 浮動小数点数の最短表記を 10 進数として読む。`100.0` は係数 1000、指数 -1
  になり、表記の `.0` が表現に残る。
-/

namespace CrossPool.Decimal

/-- 整数にならない値の種類。 -/
inductive NonFinite where
  | nan
  | infinity
  deriving Repr, DecidableEq

/-- 0 に向けた整数への切り捨て。 -/
def truncate : Decimal → Except NonFinite Int
  | .finite n c e =>
    let t : Nat := if 0 ≤ e then c * Nat.pow 10 e.toNat else c / Nat.pow 10 (-e).toNat
    .ok (if n then -(t : Int) else t)
  | .infinity _ => .error .infinity
  | .nan .. => .error .nan

/-- 最も近い `Float`。sNaN には `none`。 -/
def toFloat? : Decimal → Option Float
  | .finite n c e =>
    if c = 0 then some (Binary64.zero n)
    else
      let a := adjusted c e
      if 310 < a then some (Binary64.infinity n)
      else if a < -330 then some (Binary64.zero n)
      else if 0 ≤ e then some (Binary64.ofRatio n (c * Nat.pow 10 e.toNat) 1)
      else some (Binary64.ofRatio n c (Nat.pow 10 (-e).toNat))
  | .infinity n => some (Binary64.infinity n)
  | .nan n false _ => some (if n then -Binary64.nan else Binary64.nan)
  | .nan _ true _ => none

/-- 浮動小数点数の最短表記をそのまま読んだ 10 進数。 -/
def ofFloat (x : Float) : Decimal :=
  (ofString? (Binary64.toShortString x)).getD (.nan false false 0)

end CrossPool.Decimal
