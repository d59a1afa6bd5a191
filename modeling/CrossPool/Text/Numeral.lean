import CrossPool.Text.Digit
import CrossPool.Decimal.Convert
import CrossPool.Decimal.Text

/-!
# 数の書き方

文字列を整数か浮動小数点数として読む。読む前に `numeralAscii` で ASCII にする
（ASCII でない数字は ASCII の数字に、空白は ASCII の空白に）。

* 整数 — 前後の ASCII の空白、符号、基数の接頭辞（2 進 `0b`、8 進 `0o`、16 進 `0x`。
  大文字も可、直後に `_` を一つ置ける）のあとに桁。桁の間には `_` を一つずつ置ける。
  10 進で 4300 桁を超える字句は桁数の誤り。
* 浮動小数点数 — `_` は数字と数字の間にだけ置けて、除いてから読む。前後の ASCII の
  空白のあとに、符号と `inf`、`infinity`、`nan`（大小を問わない）か、`12`、`1.5`、
  `1.`、`.5` に指数 `e±12` を付けたもの。
-/

namespace CrossPool.Text

/-- ASCII の空白（空白、タブ、改行、垂直タブ、改ページ、復帰）。 -/
def isAsciiSpace (c : Char) : Bool := c == ' ' || ('\t' ≤ c && c ≤ '\r')

/-- 符号を外す。 -/
def dropSign : List Char → Bool × List Char
  | '-' :: r => (true, r)
  | '+' :: r => (false, r)
  | r => (false, r)

/-! ## 整数 -/

/-- 基数 `base` の桁の値。 -/
def baseDigit (base : Nat) (c : Char) : Option Nat :=
  let v := if c.isDigit then some (c.toNat - '0'.toNat)
    else if 'a' ≤ c && c ≤ 'z' then some (c.toNat - 'a'.toNat + 10)
    else if 'A' ≤ c && c ≤ 'Z' then some (c.toNat - 'A'.toNat + 10)
    else none
  v.bind fun d => if d < base then some d else none

/-- 桁と `_` の並びを読む。`prev` は直前の文字。桁の値（上の桁から）と残りを返し、
`_` が二つ続くか末尾が `_` なら `none`。 -/
def digitsRun (base : Nat) (prev : Char) : List Char → Option (List Nat × List Char)
  | [] => if prev == '_' then none else some ([], [])
  | c :: r =>
    if c == '_' then
      if prev == '_' then none else digitsRun base c r
    else
      match baseDigit base c with
      | some d => (digitsRun base c r).map fun (ds, rest) => (d :: ds, rest)
      | none => if prev == '_' then none else some ([], c :: r)

/-- 基数の接頭辞を外す。直後の `_` も一つ外す。 -/
def dropBasePrefix (base : Nat) (cs : List Char) : List Char :=
  let marks := if base == 16 then ['x', 'X'] else if base == 8 then ['o', 'O']
    else if base == 2 then ['b', 'B'] else []
  match cs with
  | '0' :: m :: r =>
    if marks.contains m then
      match r with
      | '_' :: t => t
      | t => t
    else cs
  | _ => cs

/-- 整数の字句を読んだ結果。 -/
inductive IntRead where
  /-- 値。 -/
  | value (i : Int)
  /-- 10 進の桁が多すぎる。桁数を持つ。 -/
  | tooManyDigits (n : Nat)
  /-- 整数の字句ではない。 -/
  | invalid
  deriving DecidableEq, Repr

/-- 基数 `base`（2 から 36）の整数の字句を読む。 -/
def readInt (s : String) (base : Nat) : IntRead :=
  let (neg, cs) := dropSign ((numeralAscii s.toList).dropWhile isAsciiSpace)
  let cs := dropBasePrefix base cs
  if cs.head? == some '_' then .invalid
  else
    match digitsRun base ' ' cs with
    | none => .invalid
    | some (ds, rest) =>
      if base == 10 && 4300 < ds.length then .tooManyDigits ds.length
      else if ds.isEmpty || !(rest.dropWhile isAsciiSpace).isEmpty then .invalid
      else
        let v : Int := (ds.foldl (fun n d => base * n + d) 0 : Nat)
        .value (if neg then -v else v)

/-- 10 進の整数として読む。 -/
def intText? (s : String) : Option Int :=
  match readInt s 10 with
  | .value i => some i
  | _ => none

/-- 10 進の整数として読めるか。 -/
def isIntText (s : String) : Bool := (intText? s).isSome

/-! ## 浮動小数点数 -/

/-- 数字と数字の間の `_` を除く。それ以外の場所に `_` があれば `none`。 -/
def dropUnderscores (prev : Char) : List Char → Option (List Char)
  | [] => if prev == '_' then none else some []
  | c :: r =>
    if c == '_' then
      if prev.isDigit then dropUnderscores c r else none
    else if prev == '_' && !c.isDigit then none
    else (dropUnderscores c r).map (c :: ·)

/-- 数字の並びを読む。 -/
def digitSpan (cs : List Char) : List Char × List Char := (cs.takeWhile Char.isDigit, cs.dropWhile Char.isDigit)

/-- 10 進の浮動小数点数の字句（符号を除く）を、数字、小数点、指数の形に確かめる。 -/
def isDecimalBody (cs : List Char) : Bool :=
  let (ip, r) := digitSpan cs
  let (fp, r) := match r with
    | '.' :: t => digitSpan t
    | t => ([], t)
  let expOk := match r with
    | [] => true
    | e :: t =>
      if e == 'e' || e == 'E' then
        let (ds, rest) := digitSpan (dropSign t).2
        !ds.isEmpty && rest.isEmpty
      else false
  (!ip.isEmpty || !fp.isEmpty) && expOk

/-- 浮動小数点数として読む。 -/
def floatText? (s : String) : Option Float := do
  let cs ← dropUnderscores ' ' (numeralAscii s.toList)
  let cs := ((cs.dropWhile isAsciiSpace).reverse.dropWhile isAsciiSpace).reverse
  let (neg, body) := dropSign cs
  let lower := String.ofList (body.map Char.toLower)
  let mag ←
    if lower == "inf" || lower == "infinity" then some (Binary64.infinity false)
    else if lower == "nan" then some Binary64.nan
    else if isDecimalBody body then (Decimal.ofString? (String.ofList body)).bind Decimal.toFloat?
    else none
  return if neg then -mag else mag

end CrossPool.Text
