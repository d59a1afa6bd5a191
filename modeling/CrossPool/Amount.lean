import CrossPool.Calc

/-!
# 生の量と幅の検査

チェーン上の量は符号なし整数で、幅は u64 と u128。整数は溢れないので、幅は
`checkBound` で明示的に検査し、超えれば `Fault.overflow` にする。

* `toRaw` — 小数点で調整した量を生の整数にする（`amount * 10^decimals` を切り捨て）。
* `fromRaw` — 生の整数を `raw / 10^decimals` にする。
* `q64ToDecimal` — Q64.64 の固定小数点数を `value / 2^64` にする。
-/

namespace CrossPool.Amount

/-- u64 の最大値。 -/
def u64Max : Int := Int.pow 2 64 - 1

/-- u128 の最大値。 -/
def u128Max : Int := Int.pow 2 128 - 1

/-- `value` が `[0, bound]` に入らなければ、検査名 `operation` の幅超過。文面には値を書くので、
4300 桁を超える値は幅超過ではなく値の誤りになる。 -/
def checkBound (value : Int) (bound : Int) (operation : String) : Except Fault Int :=
  if value < 0 || bound < value then do
    let shown ← intText value
    throw (.overflow operation s!"{operation} out of range: {shown}")
  else .ok value

/-- 幅を検査した積。 -/
def checkedMul (a b : Int) (bound : Int) : Except Fault Int :=
  checkBound (a * b) bound "mul"

/-- 幅を検査した和。 -/
def checkedAdd (a b : Int) (bound : Int) : Except Fault Int :=
  checkBound (a + b) bound "add"

/-- 小数点で調整した量を生の整数にする。負の量は幅超過として扱う。 -/
def toRaw (amount : Decimal) (decimals : Int) (bound : Int) : Except Fault Int := do
  if (← Calc.lt amount (Calc.ofInt 0)) then
    let shown := amount.toSci
    throw (.overflow "to_raw_amount" s!"negative amount: {shown}")
  let scaled ← Calc.mul amount (← Calc.pow10 decimals)
  let raw ← Calc.truncate scaled
  checkBound raw bound "to_raw_amount"

/-- context `c` で、生の整数を小数点で調整した量にする。 -/
def fromRawIn (c : Decimal.Context) (raw : Int) (decimals : Int) : Except Fault Decimal := do
  Calc.divIn c (Calc.ofInt raw) (← Calc.pow10In c decimals)

/-- 生の整数を小数点で調整した量にする。 -/
def fromRaw (raw : Int) (decimals : Int) : Except Fault Decimal := fromRawIn Calc.ctx raw decimals

/-- context `c` で、Q64.64 の値を 10 進数にする。u128 に入らなければ幅超過。 -/
def q64ToDecimalIn (c : Decimal.Context) (value : Int) : Except Fault Decimal := do
  let _ ← checkBound value u128Max "q64_to_decimal"
  Calc.divIn c (Calc.ofInt value) (Calc.ofInt (Int.pow 2 64))

/-- Q64.64 の値を 10 進数にする。 -/
def q64ToDecimal (value : Int) : Except Fault Decimal := q64ToDecimalIn Calc.ctx value

end CrossPool.Amount
