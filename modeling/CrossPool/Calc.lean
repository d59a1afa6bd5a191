import CrossPool.Decimal.Power
import CrossPool.Decimal.Convert
import CrossPool.Fault

/-!
# 価格計算の演算

価格と量の計算は標準 context（50 桁、偶数丸め）の 10 進演算で行う。ここでは
その演算を失敗の型 `Fault` の上に持ち上げ、整数への変換と浮動小数点数への変換の
失敗にも文面を与える。

context は thread ごとにある。走査と評価は `decimal_context()` の中で精度を 50 に
固定するが、その外の計算（検出器を作るときの取引量の格子と、記録を書くときの値付け）は
呼んだ thread の context で行う。そのための演算は context を引数にとり（`addIn` など）、
主 thread の context は標準 context である。
-/

namespace CrossPool.Calc

open Decimal

/-- 標準 context。 -/
abbrev ctx : Context := Context.standard

/-- 精度を `p` にした thread の context。精度のほかは標準 context と同じ。 -/
def threadCtx (p : Nat) : Context := { ctx with prec := p }

/-- context `c` での和。 -/
def addIn (c : Context) (a b : Decimal) : Except Fault Decimal := liftSignal (Decimal.add c a b)

/-- context `c` での差。 -/
def subIn (c : Context) (a b : Decimal) : Except Fault Decimal := liftSignal (Decimal.sub c a b)

/-- context `c` での積。 -/
def mulIn (c : Context) (a b : Decimal) : Except Fault Decimal := liftSignal (Decimal.mul c a b)

/-- context `c` での商。 -/
def divIn (c : Context) (a b : Decimal) : Except Fault Decimal := liftSignal (Decimal.div c a b)

/-- context `c` でのべき乗。 -/
def powIn (c : Context) (a b : Decimal) : Except Fault Decimal := liftSignal (Decimal.pow c a b)

/-- context `c` での `10 ** n`。 -/
def pow10In (c : Context) (n : Int) : Except Fault Decimal := liftSignal (Decimal.pow10 c n)

/-- 和。 -/
def add (a b : Decimal) : Except Fault Decimal := liftSignal (Decimal.add ctx a b)

/-- 差。 -/
def sub (a b : Decimal) : Except Fault Decimal := liftSignal (Decimal.sub ctx a b)

/-- 積。 -/
def mul (a b : Decimal) : Except Fault Decimal := liftSignal (Decimal.mul ctx a b)

/-- 商。 -/
def div (a b : Decimal) : Except Fault Decimal := liftSignal (Decimal.div ctx a b)

/-- べき乗。 -/
def pow (a b : Decimal) : Except Fault Decimal := liftSignal (Decimal.pow ctx a b)

/-- `10 ** n`。 -/
def pow10 (n : Int) : Except Fault Decimal := liftSignal (Decimal.pow10 ctx n)

/-- `a < b`。 -/
def lt (a b : Decimal) : Except Fault Bool := liftSignal (Decimal.lt a b)

/-- `a ≤ b`。 -/
def le (a b : Decimal) : Except Fault Bool := liftSignal (Decimal.le a b)

/-- 値の等しさ。 -/
def eq (a b : Decimal) : Except Fault Bool := liftSignal (Decimal.equals a b)

/-- 小さいほう。等しければ先。 -/
def min (a b : Decimal) : Except Fault Decimal := liftSignal (Decimal.pickMin a b)

/-- 大きいほう。等しければ先。 -/
def max (a b : Decimal) : Except Fault Decimal := liftSignal (Decimal.pickMax a b)

/-- `max lo (min v hi)`。 -/
def clamp (v lo hi : Decimal) : Except Fault Decimal := liftSignal (Decimal.clamp v lo hi)

/-- 整数の 10 進数。 -/
def ofInt (n : Int) : Decimal := Decimal.ofInt n

/-- 整数を文字列にして読んだ 10 進数。4300 桁を超える整数は文字列にできず、値の誤り。 -/
def toDecimal (n : Int) : Except Fault Decimal := do
  let _ ← intText n
  return ofInt n

/-- 文字列の定数。読めない文字列は NaN。 -/
def lit (s : String) : Decimal := (Decimal.ofString? s).getD (.nan false false 0)

/-- 0 に向けた整数への切り捨て。NaN と無限大は整数にならない。 -/
def truncate (d : Decimal) : Except Fault Int :=
  match Decimal.truncate d with
  | .ok i => .ok i
  | .error .nan => .error (.invalidValue "cannot convert NaN to integer")
  | .error .infinity => .error (.outOfRange "cannot convert Infinity to integer")

/-- 最も近い浮動小数点数。sNaN は変換できない。 -/
def toFloat (d : Decimal) : Except Fault Float :=
  match Decimal.toFloat? d with
  | some x => .ok x
  | none => .error (.invalidValue "cannot convert signaling NaN to float")

/-- 浮動小数点数の最短表記を読んだ 10 進数。 -/
def ofFloat (x : Float) : Decimal := Decimal.ofFloat x

end CrossPool.Calc
