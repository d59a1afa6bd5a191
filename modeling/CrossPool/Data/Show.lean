import CrossPool.Data.Value
import CrossPool.Binary64.Text
import CrossPool.Text.Printable

/-!
# 値の表記

文書の値を、誤りの文面に埋め込む表記にする。

* `repr` — 値を読み戻せる形で書く。文字列は引用符で囲み、写像は
  `{'a': 1, 'b': [1, 2]}`、null は `None`、真偽値は `True` と `False`、
  浮動小数点数は最短表記。バイト列は `b'..'`、組は `(1, 2)`（要素が一つなら `(1,)`）、
  集合は `{1, 2}`（空なら `set()`）。共有された集まりは、書いている途中の集まりに
  また出会えば `[...]`、`{...}` と書く。
* `display` — 文字列はそのまま、日付と時刻は `2024-01-01` の形、それ以外は `repr`。
* `hasHugeInt` — 10 進で 4300 桁を超える整数を含むか。そのような値は表記できない
  （`digitLimitMessage` の誤りになる）。
* `typeName` — 値の型の名前（`str`、`int`、`float`、`bool`、`NoneType`、`bytes`、`list`、
  `tuple`、`set`、`dict` など）。
* `safeRepr` — 誤りの報告に添える表記。表記できない値は `<unprintable int object>` のように
  型の名前だけを書く。

文字列の引用符は `'` で、中に `'` があって `"` がなければ `"` を使う。表示できない
文字は `\x..`、`\u....`、`\U........` に escape する。
-/

namespace CrossPool.Data

/-- 16 進で `width` 桁。 -/
def hexDigits (n width : Nat) : String :=
  let ds := "0123456789abcdef".toList
  String.ofList ((List.range width).reverse.map fun i => ds.getD (n / Nat.pow 16 i % 16) '0')

/-- 印字できない符号位置の表記 `\x..`、`\u....`、`\U........`。 -/
def codeEscape (n : Nat) : String :=
  if n < 0x100 then "\\x" ++ hexDigits n 2
  else if n < 0x10000 then "\\u" ++ hexDigits n 4
  else "\\U" ++ hexDigits n 8

/-- 一文字の表記。`q` は囲む引用符。 -/
def escapeChar (q : Char) (c : Char) : String :=
  if c == q || c == '\\' then "\\" ++ String.singleton c
  else if c == '\n' then "\\n"
  else if c == '\r' then "\\r"
  else if c == '\t' then "\\t"
  else if Text.isPrintable c then String.singleton c
  else codeEscape c.toNat

/-- 一つの符号位置の表記。サロゲートは印字できない。 -/
def escapePoint (q : Char) : Text.CodePoint → String
  | .char c => escapeChar q c
  | p => codeEscape p.code

/-- 符号位置の列の表記。 -/
def quoteStr (s : Text.Str) : String :=
  let q := if s.contains '\'' && !s.contains '"' then '"' else '\''
  String.singleton q ++ String.join (s.points.map (escapePoint q)) ++ String.singleton q

/-- 文字列の表記。 -/
def quoteText (s : String) : String := quoteStr (.ofString s)

/-- バイト列の表記 `b'...'`。`'` を含み `"` を含まなければ `"` で囲む。印字できない
バイトは `\x..` に escape する。 -/
def bytesText (b : List UInt8) : String :=
  let q : UInt8 := if b.contains 39 && !b.contains 34 then 34 else 39
  let one (c : UInt8) : String :=
    if c == q || c == 92 then "\\" ++ String.singleton (Char.ofNat c.toNat)
    else if c == 9 then "\\t"
    else if c == 10 then "\\n"
    else if c == 13 then "\\r"
    else if c < 32 || 127 ≤ c then "\\x" ++ hexDigits c.toNat 2
    else String.singleton (Char.ofNat c.toNat)
  "b" ++ String.singleton (Char.ofNat q.toNat) ++ String.join (b.map one) ++
    String.singleton (Char.ofNat q.toNat)

/-- 組の表記。要素が一つなら後ろにカンマを付ける。 -/
def tupleText (parts : List String) : String :=
  match parts with
  | [p] => "(" ++ p ++ ",)"
  | ps => "(" ++ ", ".intercalate ps ++ ")"

/-- 集合の表記。空なら `set()`。 -/
def setText (parts : List String) : String :=
  if parts.isEmpty then "set()" else "\x7b" ++ ", ".intercalate parts ++ "\x7d"

namespace Value

/-- 集まりでない値の表記。 -/
def reprScalar : Value → String
  | .null => "None"
  | .bool b => if b then "True" else "False"
  | .int i => toString i
  | .float x => Binary64.toShortString x
  | .str s => quoteStr s
  | .stamp t => t.repr
  | .bytes b => bytesText b
  | _ => "..."

/-- 表の集まりを書いている途中でまた出会ったときの表記。 -/
def reentryText : Option Value → String
  | some (.map _) => "\x7b...\x7d"
  | some (.tuple _) => "(...)"
  | _ => "[...]"

/-- 表 `nodes` の中の値の表記。`opened` は書いている途中の集まりの番号で、その集まりに
また出会えば中身を書かずに `[...]` などとする。どの番号も一つの道の上で二度は開かないので、
表の大きさに比例する燃料で足りる。 -/
def reprIn (nodes : List Value) : Nat → List Nat → Value → String
  | 0, _, _ => "..."
  | fuel + 1, opened, v =>
    match v with
    | .ref j =>
      if opened.contains j then reentryText nodes[j]?
      else
        match nodes[j]? with
        | some n => reprIn nodes fuel (j :: opened) n
        | none => "None"
    | .list xs => "[" ++ ", ".intercalate (xs.map (reprIn nodes fuel opened)) ++ "]"
    | .tuple xs => tupleText (xs.map (reprIn nodes fuel opened))
    | .set xs => setText (xs.map (reprIn nodes fuel opened))
    | .map kvs => "\x7b" ++ ", ".intercalate (kvs.map fun (k, x) =>
        reprIn nodes fuel opened k ++ ": " ++ reprIn nodes fuel opened x) ++ "\x7d"
    | .shared inner i => reprIn inner fuel [] (.ref i)
    | v => reprScalar v

/-- 共有された集まりの表記。 -/
def reprShared (nodes : List Value) (i : Nat) : String :=
  reprIn nodes (4 * nodes.length + 8) [] (.ref i)

mutual

/-- 値を読み戻せる形の表記。 -/
def repr : Value → String
  | .list xs => "[" ++ reprList xs ++ "]"
  | .tuple xs => tupleText (reprTuple xs)
  | .set xs => setText (reprTuple xs)
  | .map kvs => "\x7b" ++ reprMembers kvs ++ "\x7d"
  | .shared nodes i => reprShared nodes i
  | v => reprScalar v

/-- 列の要素の表記をカンマで区切る。 -/
def reprList : List Value → String
  | [] => ""
  | [v] => repr v
  | v :: vs => repr v ++ ", " ++ reprList vs

/-- 組の要素の表記。 -/
def reprTuple : List Value → List String
  | [] => []
  | v :: vs => repr v :: reprTuple vs

/-- 写像の組の表記をカンマで区切る。 -/
def reprMembers : List (Value × Value) → String
  | [] => ""
  | [(k, v)] => repr k ++ ": " ++ repr v
  | (k, v) :: kvs => repr k ++ ": " ++ repr v ++ ", " ++ reprMembers kvs

end

mutual

/-- 表記に 4300 桁を超える整数を含むか。共有された集まりは表のすべての項目を見る。 -/
def hasHugeInt : Value → Bool
  | .int i => tooManyDigits i
  | .list xs | .tuple xs | .set xs => anyHugeInt xs
  | .map kvs => anyHugeIntPair kvs
  | .shared nodes _ => anyHugeInt nodes
  | _ => false

/-- 列のどれかが 4300 桁を超える整数を含むか。 -/
def anyHugeInt : List Value → Bool
  | [] => false
  | v :: vs => hasHugeInt v || anyHugeInt vs

/-- 組のどれかが 4300 桁を超える整数を含むか。 -/
def anyHugeIntPair : List (Value × Value) → Bool
  | [] => false
  | (k, v) :: kvs => hasHugeInt k || hasHugeInt v || anyHugeIntPair kvs

end

/-- 文字列と日付と時刻は文字列の表記、それ以外は `repr`。 -/
def display : Value → Text.Str
  | .str s => s
  | .stamp t => .ofString t.text
  | v => .ofString (repr v)

/-- 値の型の名前。 -/
def typeName (v : Value) : String :=
  match v.view with
  | .null => "NoneType"
  | .bool _ => "bool"
  | .int _ => "int"
  | .float _ => "float"
  | .str _ => "str"
  | .stamp t => t.typeName
  | .bytes _ => "bytes"
  | .list _ => "list"
  | .tuple _ => "tuple"
  | .set _ => "set"
  | .map _ => "dict"
  | .shared .. | .ref _ => "object"

/-- 誤りの報告に添える値の表記。4300 桁を超える整数を含む値は `repr` できないので、
`<unprintable 型の名前 object>`。 -/
def safeRepr (v : Value) : String :=
  if v.hasHugeInt then "<unprintable " ++ v.typeName ++ " object>" else v.repr

end Value

end CrossPool.Data
