import CrossPool.Binary64.Basic
import CrossPool.Fault

/-!
# 失敗を報告する浮動小数点演算

IEEE 754 の演算は 0 除算や溢れを無限大や NaN で表すが、ここでは次の場合を失敗にする。

* `divide` — 除数が 0（符号を問わない）なら 0 除算。被除数が NaN でも同じ。
* `power` — 有限の底と指数から有限でない結果が出たら範囲外。
* `exp` — 有限の引数から無限大が出たら範囲外。

どれも失敗しない場合の値は IEEE 754 の演算（`pow`、`exp` は C の数学ライブラリ）と同じ。
-/

namespace CrossPool.Binary64

/-- 商。除数が 0 なら 0 除算。 -/
def divide (a b : Float) : Except Fault Float :=
  if b == 0.0 then .error (.zeroDivision "float division by zero") else .ok (a / b)

/-- べき乗。有限の底と指数から溢れたら範囲外。 -/
def power (a b : Float) : Except Fault Float :=
  let r := Float.pow a b
  if isFinite a && isFinite b && isInfinite r then
    .error (.outOfRange "(34, 'Numerical result out of range')")
  else .ok r

/-- 指数関数。有限の引数から溢れたら範囲外。 -/
def exp (x : Float) : Except Fault Float :=
  let r := Float.exp x
  if isFinite x && isInfinite r then .error (.outOfRange "math range error") else .ok r

end CrossPool.Binary64
