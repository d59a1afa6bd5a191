import CrossPool.Binary64.Shortest

/-!
# 浮動小数点数の文字列

二つの書き方がある。

* `toShortString` — 最短の桁で読み戻せる表記。10 進指数が `-4` 以上 `16` 未満なら
  位取りで書き、整数値にも `.0` を付ける。それ以外は `1e-05`、`1.5e+16` のように
  指数を 2 桁以上で書く。
* `toFixed` — 小数点以下の桁数を決めた表記。二進の正確な値を偶数丸めする。
* `toGeneral` — 有効数字の桁数を決めた一般の表記。丸めた値の 10 進指数が `-4` 以上で
  桁数未満なら位取りで、それ以外は指数で書き、どちらも末尾の 0 と小数点を落とす。

どれも NaN は `nan`、無限大は `inf`。NaN の符号は書かない。
-/

namespace CrossPool.Binary64

/-- 最短表記の書式の決めごと。 -/
structure ShortStyle where
  /-- 10 進指数がこれより小さいと指数表記。 -/
  sciBelow : Int
  /-- 10 進指数がこれ以上でも指数表記。 -/
  sciFrom : Int
  /-- 指数の最小の桁数。 -/
  expDigits : Nat
  /-- NaN の綴り。 -/
  nanText : String
  /-- 無限大の綴り。 -/
  infText : String

/-- 値を表す既定の書式。`1e-05`、`0.0001`、`1e+16`、`1234.0`。 -/
def ShortStyle.standard : ShortStyle := ⟨-4, 16, 2, "nan", "inf"⟩

/-- `n` 個の `0`。 -/
def zeroRun (n : Nat) : String := String.ofList (List.replicate n '0')

/-- 符号を除いた最短表記。数字列 `ds` の先頭の桁の 10 進指数が `x`。 -/
def shortBody (st : ShortStyle) (ds : String) (x : Int) : String :=
  let k := ds.length
  if x < st.sciBelow || st.sciFrom ≤ x then
    let mant := String.ofList (ds.toList.take 1) ++
      (if k > 1 then "." ++ String.ofList (ds.toList.drop 1) else "")
    let e := toString x.natAbs
    mant ++ "e" ++ (if x < 0 then "-" else "+") ++ zeroRun (st.expDigits - e.length) ++ e
  else if 0 ≤ x then
    let ip := x.toNat + 1
    if k ≤ ip then ds ++ zeroRun (ip - k) ++ ".0"
    else String.ofList (ds.toList.take ip) ++ "." ++ String.ofList (ds.toList.drop ip)
  else "0." ++ zeroRun ((-x).toNat - 1) ++ ds

/-- 書式 `st` での最短表記。 -/
def toShortStringWith (st : ShortStyle) (v : Float) : String :=
  match decode v with
  | (_, .nan) => st.nanText
  | (neg, .infinite) => (if neg then "-" else "") ++ st.infText
  | (neg, .finite m q) =>
    let sign := if neg then "-" else ""
    if m = 0 then sign ++ "0.0"
    else
      let (digits, s) := shortest m q
      let ds := toString digits
      sign ++ shortBody st ds (s + ds.length - 1)

/-- 既定の最短表記。 -/
def toShortString (v : Float) : String := toShortStringWith .standard v

/-- 小数点以下 `places` 桁の表記。負の値は 0 に丸まっても `-` を付ける。 -/
def toFixed (v : Float) (places : Nat) : String :=
  match decode v with
  | (_, .nan) => "nan"
  | (neg, .infinite) => if neg then "-inf" else "inf"
  | (neg, .finite m q) =>
    let (n, d) := ratioOf m q
    let ds := toString (Decimal.divRoundEven (n * Nat.pow 10 places) d)
    let ds := zeroRun (places + 1 - ds.length) ++ ds
    let k := ds.length - places
    (if neg then "-" else "") ++ String.ofList (ds.toList.take k) ++
      (if places = 0 then "" else "." ++ String.ofList (ds.toList.drop k))

/-- 末尾の 0 を落とす。 -/
def dropTrailingZeros (s : String) : String :=
  String.ofList (s.toList.reverse.dropWhile (· == '0')).reverse

/-- 指数の表記。符号と 2 桁以上の数字。 -/
def exponentText (e : Int) : String :=
  let ds := toString e.natAbs
  (if e < 0 then "e-" else "e+") ++ (if ds.length < 2 then "0" ++ ds else ds)

/-- 有効数字 `precision` 桁（0 は 1 桁とみなす）の一般の表記。 -/
def toGeneral (v : Float) (precision : Nat) : String :=
  let p := Nat.max precision 1
  match decode v with
  | (_, .nan) => "nan"
  | (neg, .infinite) => if neg then "-inf" else "inf"
  | (neg, .finite m q) =>
    let sign := if neg then "-" else ""
    if m = 0 then sign ++ "0"
    else
      let (n, d) := ratioOf m q
      let e0 := log10Floor n d
      let shift : Int := (p : Int) - 1 - e0
      let scaled := if 0 ≤ shift then Decimal.divRoundEven (n * Nat.pow 10 shift.toNat) d
        else Decimal.divRoundEven n (d * Nat.pow 10 (-shift).toNat)
      let (digits, e) := if Nat.pow 10 p ≤ scaled then (scaled / 10, e0 + 1) else (scaled, e0)
      let ds := toString digits
      if -4 ≤ e && e < p then
        let (whole, frac) := if 0 ≤ e then
            (String.ofList (ds.toList.take (e.toNat + 1)), String.ofList (ds.toList.drop (e.toNat + 1)))
          else ("0", zeroRun ((-e).toNat - 1) ++ ds)
        let frac := dropTrailingZeros frac
        sign ++ whole ++ (if frac.isEmpty then "" else "." ++ frac)
      else
        let frac := dropTrailingZeros (String.ofList (ds.toList.drop 1))
        sign ++ String.ofList (ds.toList.take 1) ++ (if frac.isEmpty then "" else "." ++ frac) ++
          exponentText e

end CrossPool.Binary64
