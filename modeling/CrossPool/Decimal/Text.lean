import CrossPool.Decimal.Arith
import CrossPool.Text.Blank
import CrossPool.Text.Digit

/-!
# 10 進数の文字列

読み取りと、科学記法の文字列と、小数点以下の桁数を決めた文字列。

## 読み取り

`ofString?` は前後の空白と、どこにあっても `_` を除き、ASCII でない 10 進の数字を
ASCII の数字にしてから読む（`"١.٥"` は 1.5）。形は

```
sign? ( digits ('.' digits?)? | '.' digits ) (('e' | 'E') sign? digits)?
sign? ('inf' | 'infinity')
sign? 's'? 'nan' digits?
```

で、英字の大小は問わない。値は丸めずにそのまま持つ（`"1.50"` は係数 150、指数 -2）。
`ofStringExact?` はさらに、指数が最も広い文脈（精度と `emax` が `10^18 - 1`）で
丸めずに表せる範囲にあることを求める。

## 科学記法

`toSci` は指数が 0 以下で調整済み指数が -6 以上なら位取りで書き、それ以外は
先頭 1 桁の仮数と `E+n` / `E-n` で書く。
-/

namespace CrossPool.Decimal

/-! ## 読み取り -/

/-- 先頭の 10 進数字の列を読み、値と桁数と残りを返す。 -/
def takeDigits : List Char → Nat → Nat → Nat × Nat × List Char
  | c :: cs, v, n =>
    if c.isDigit then takeDigits cs (10 * v + (c.toNat - '0'.toNat)) (n + 1) else (v, n, c :: cs)
  | [], v, n => (v, n, [])

/-- 英字の大小を無視して語が一致するか。 -/
def wordIs (cs : List Char) (w : String) : Bool :=
  cs.map Char.toLower == w.toList

/-- 指数部 `[sign] digits` を読む。 -/
def readExponent (cs : List Char) : Option Int :=
  let (neg, rest) := match cs with
    | '-' :: r => (true, r)
    | '+' :: r => (false, r)
    | r => (false, r)
  let (v, n, tail) := takeDigits rest 0 0
  if n = 0 || !tail.isEmpty then none else some (if neg then -(v : Int) else v)

/-- 符号のあとの数の部分を読む。 -/
def readUnsigned (neg : Bool) (cs : List Char) : Option Decimal :=
  if wordIs cs "inf" || wordIs cs "infinity" then some (.infinity neg)
  else
    let (signaling, rest) := match cs with
      | c :: r => if c == 's' || c == 'S' then (true, r) else (false, c :: r)
      | [] => (false, [])
    if wordIs (rest.take 3) "nan" then
      let (v, _, tail) := takeDigits (rest.drop 3) 0 0
      if tail.isEmpty then some (.nan neg signaling v) else none
    else
      let (intPart, nInt, afterInt) := takeDigits cs 0 0
      let (coeff, nFrac, afterFrac) := match afterInt with
        | '.' :: r =>
          let (f, nf, t) := takeDigits r 0 0
          (intPart * Nat.pow 10 nf + f, nf, t)
        | r => (intPart, 0, r)
      if nInt + nFrac = 0 then none
      else
        let exp : Option Int := match afterFrac with
          | [] => some 0
          | c :: r => if c == 'e' || c == 'E' then readExponent r else none
        exp.map fun e => .finite neg coeff (e - nFrac)

/-- 文字列を丸めずに 10 進数として読む。読めなければ `none`。 -/
def ofString? (s : String) : Option Decimal :=
  let cs := ((Text.trimBlank s).toList.filter (· != '_')).map Text.asciiDigit
  match cs with
  | '-' :: r => readUnsigned true r
  | '+' :: r => readUnsigned false r
  | r => readUnsigned false r

/-- 丸めずに表せる指数の範囲の上限（最も広い文脈の `emax`）。精度も同じ桁数。 -/
def widestLimit : Nat := 999999999999999999

/-- 最も広い文脈で丸めずに表せるか。調整済み指数が `emax` 以下で、指数が
`etiny = -emax - (精度 - 1)` 以上なら表せる。範囲の外の値は、無限大に溢れるか、
0 でも指数を詰めることになる。 -/
def fitsWidest : Decimal → Bool
  | .finite _ c e =>
    e + digitCount c - 1 ≤ widestLimit && -(widestLimit : Int) - (widestLimit - 1) ≤ e
  | _ => true

/-- 文字列を 10 進数の値として作る。丸めずに表せなければ `none`（無効な演算）。 -/
def ofStringExact? (s : String) : Option Decimal :=
  (ofString? s).filter fitsWidest

/-! ## 科学記法 -/

/-- `n` 個の `0`。 -/
def zeros (n : Nat) : String := String.ofList (List.replicate n '0')

/-- 係数の数字列 `ds` と指数 `e` から、符号を除いた科学記法の文字列を作る。 -/
def sciBody (ds : String) (e : Int) : String :=
  let len : Int := ds.length
  let leftDigits := e + len
  let dot : Int := if e ≤ 0 && -6 < leftDigits then leftDigits else 1
  let body :=
    if dot ≤ 0 then "0." ++ zeros (-dot).toNat ++ ds
    else if len ≤ dot then ds ++ zeros (dot - len).toNat
    else String.ofList (ds.toList.take dot.toNat) ++ "." ++ String.ofList (ds.toList.drop dot.toNat)
  let shown := leftDigits - dot
  if shown = 0 then body
  else body ++ "E" ++ (if 0 < shown then "+" else "-") ++ toString shown.natAbs

/-- 科学記法の文字列。無限大は `Infinity`、NaN は `NaN` と payload。 -/
def toSci : Decimal → String
  | .finite n c e => (if n then "-" else "") ++ sciBody (toString c) e
  | .infinity n => (if n then "-" else "") ++ "Infinity"
  | .nan n s p =>
    (if n then "-" else "") ++ (if s then "sNaN" else "NaN") ++ (if p = 0 then "" else toString p)

/-! ## 小数点以下の桁数を決めた文字列 -/

/-- 小数点以下 `places` 桁に偶数丸めした係数。 -/
def rescaleCoeff (c : Nat) (e : Int) (places : Nat) : Nat :=
  if -(places : Int) ≤ e then c * Nat.pow 10 (e + places).toNat
  else dropDigits c (-(places : Int) - e).toNat

/-- 小数点以下 `places` 桁の位取り表記。負の値は 0 に丸まっても `-` を付ける。 -/
def toFixed (d : Decimal) (places : Nat) : String :=
  match d with
  | .finite n c e =>
    let ds := toString (rescaleCoeff c e places)
    let ds := zeros (places + 1 - ds.length) ++ ds
    let k := ds.length - places
    let intPart := String.ofList (ds.toList.take k)
    let frac := String.ofList (ds.toList.drop k)
    (if n then "-" else "") ++ intPart ++ (if places = 0 then "" else "." ++ frac)
  | .infinity n => (if n then "-" else "") ++ "Infinity"
  | .nan n s p => toSci (.nan n s p)

end CrossPool.Decimal
