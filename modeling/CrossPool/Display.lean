import CrossPool.Number

/-!
# 画面に出す数の表記

* `formatDuration` — 秒を `999.4ms`、`1.50s`、`1.5m`、`1.0h` のように書く。1 秒未満は
  ミリ秒で小数 1 桁、1 分未満は秒で小数 2 桁、1 時間未満は分で、それ以上は時間で小数 1 桁。
* `formatProfit` — 百分率に符号を付けて小数 2 桁で書く（`+1.23%`、`-4.56%`）。0 以上の
  値に `+` を付けるので、負の 0 は `+-0.00%` になる。
* `short` — 長い番地を先頭と末尾 2 文字に縮める。
-/

namespace CrossPool.Display

/-- 浮動小数点数の小数 `places` 桁の表記に単位を付ける。 -/
def fixedWith (x : Float) (places : Nat) (unit : String) : String :=
  Binary64.toFixed x places ++ unit

/-- 秒の長さの表記。 -/
def formatDuration (x : Float) : String :=
  if x < 1.0 then fixedWith (x * 1000.0) 1 "ms"
  else if x < 60.0 then fixedWith x 2 "s"
  else if x < 3600.0 then fixedWith (x / 60.0) 1 "m"
  else fixedWith (x / 3600.0) 1 "h"

/-- 符号付きの百分率。 -/
def formatProfit (pct : Float) : String :=
  if pct >= 0.0 then "+" ++ Binary64.toFixed pct 2 ++ "%" else Binary64.toFixed pct 2 ++ "%"

/-- 10 進数の百分率を浮動小数点数にして書く。 -/
def formatProfitDecimal (pct : Decimal) : Except Fault String := do
  return formatProfit (← Calc.toFloat pct)

/-- 先頭の `k` 文字。負の `k` は末尾から数えて残す文字数を減らす。 -/
def sliceTo (cs : List Char) (k : Int) : List Char :=
  if 0 ≤ k then cs.take k.toNat else cs.take (cs.length - k.natAbs)

/-- 幅 `width` を超える番地を、先頭 `width - 4` 文字と `..` と末尾 2 文字にする。 -/
def short (address : String) (width : Int) : String :=
  let cs := address.toList
  if (cs.length : Int) ≤ width then address
  else String.ofList (sliceTo cs (width - 4)) ++ ".." ++ String.ofList (cs.drop (cs.length - 2))

end CrossPool.Display
