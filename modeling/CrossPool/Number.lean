import CrossPool.Calc
import CrossPool.Binary64.Order

/-!
# 整数か浮動小数点数の数

入力の数は整数のことも浮動小数点数のこともあり、書き方と演算の結果が違う
（整数 `5` の表記は `5`、浮動小数点数 `5.0` の表記は `5.0`）。整数は桁数に制限がない。

* `toFloat?` — 最も近い浮動小数点数。整数が大きすぎれば `none`。
* `toText` — 整数は 10 進、浮動小数点数は最短表記。
* `toDecimal` — 表記をそのまま 10 進数として読む。
-/

namespace CrossPool

/-- 整数か浮動小数点数。 -/
inductive Number where
  | int (i : Int)
  | float (x : Float)
  deriving Inhabited

namespace Number

/-- 表記。整数は 10 進、浮動小数点数は最短表記（`inf`、`nan` を含む）。 -/
def toText : Number → String
  | .int i => toString i
  | .float x => Binary64.toShortString x

/-- 最も近い浮動小数点数。整数が `Float` の範囲を超えれば `none`。 -/
def toFloat? : Number → Option Float
  | .int i =>
    let x := Binary64.ofInt i
    if Binary64.isInfinite x then none else some x
  | .float x => some x

/-- 浮動小数点数にする。範囲を超える整数は範囲外の失敗。 -/
def toFloat (n : Number) : Except Fault Float :=
  match n.toFloat? with
  | some x => .ok x
  | none => .error (.outOfRange "int too large to convert to float")

/-- 表記を 10 進数として読む。 -/
def toDecimal : Number → Decimal
  | .int i => Decimal.ofInt i
  | .float x => Decimal.ofFloat x

/-- 整数どうしは正確に、それ以外は浮動小数点数で `a < b`。 -/
def lt : Number → Number → Bool
  | .int a, .int b => a < b
  | a, b => (a.toFloat?.getD 0.0) < (b.toFloat?.getD 0.0)

/-- 小さいほう。`b < a` のときだけ `b`。 -/
def pickMin (a b : Number) : Number := if lt b a then b else a

/-- 大きいほう。`a < b` のときだけ `b`。 -/
def pickMax (a b : Number) : Number := if lt a b then b else a

/-- `max lo (min v hi)`。 -/
def clamp (v lo hi : Number) : Number := pickMax lo (pickMin v hi)

end Number

end CrossPool
