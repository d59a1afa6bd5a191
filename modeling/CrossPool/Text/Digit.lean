import CrossPool.Text.Blank

/-!
# 10 進の数字

Unicode 14.0 で 10 進の数字（一般分類 Nd）として値を持つ文字の表。どの数字の並びも
0 から 9 までが連続した 10 文字なので、表は各並びの 0 の位置だけを持つ。

* `decimalValue?` — 数字の値。`٣`（アラビア・インド数字の 3）は 3。
* `numeralAscii` — 整数や浮動小数点数として読む前の正規化。ASCII の文字はそのまま、
  空白は ASCII の空白、数字は ASCII の数字にする。それ以外の文字に出会えば `?` を置いて
  そこで打ち切るので、その字句は読めない。
-/

namespace CrossPool.Text

/-- 数字の並びの先頭（値 0 の文字）の位置。昇順。 -/
def digitZeros : List Nat := [
  0x30, 0x660, 0x6F0, 0x7C0, 0x966, 0x9E6, 0xA66, 0xAE6,
  0xB66, 0xBE6, 0xC66, 0xCE6, 0xD66, 0xDE6, 0xE50, 0xED0,
  0xF20, 0x1040, 0x1090, 0x17E0, 0x1810, 0x1946, 0x19D0, 0x1A80,
  0x1A90, 0x1B50, 0x1BB0, 0x1C40, 0x1C50, 0xA620, 0xA8D0, 0xA900,
  0xA9D0, 0xA9F0, 0xAA50, 0xABF0, 0xFF10, 0x104A0, 0x10D30, 0x11066,
  0x110F0, 0x11136, 0x111D0, 0x112F0, 0x11450, 0x114D0, 0x11650, 0x116C0,
  0x11730, 0x118E0, 0x11950, 0x11C50, 0x11D50, 0x11DA0, 0x16A60, 0x16AC0,
  0x16B50, 0x1D7CE, 0x1D7D8, 0x1D7E2, 0x1D7EC, 0x1D7F6, 0x1E140, 0x1E2F0,
  0x1E950, 0x1FBF0]

/-- 10 進の数字の値。 -/
def decimalValue? (c : Char) : Option Nat :=
  let n := c.toNat
  (digitZeros.find? fun z => z ≤ n && n < z + 10).map fun z => n - z

/-- 値を持つ数字なら ASCII の数字に、それ以外はそのまま。 -/
def asciiDigit (c : Char) : Char :=
  match decimalValue? c with
  | some d => Char.ofNat (0x30 + d)
  | none => c

/-- 数の字句として読む前の正規化。 -/
def numeralAscii : List Char → List Char
  | [] => []
  | c :: r =>
    if c.toNat < 0x7F then c :: numeralAscii r
    else if isBlank c then ' ' :: numeralAscii r
    else
      match decimalValue? c with
      | some d => Char.ofNat (0x30 + d) :: numeralAscii r
      | none => ['?']

end CrossPool.Text
