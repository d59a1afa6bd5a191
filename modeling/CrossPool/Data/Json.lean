import CrossPool.Data.Value
import CrossPool.Decimal.Convert

/-!
# JSON

`Json.parse?` は JSON の文字列を `Value` にする。小数点も指数もない数は整数（桁数は
無制限）、それ以外は最も近い浮動小数点数。`NaN`、`Infinity`、`-Infinity` も読む。
同じ鍵が二度あれば後の値が勝つ。

`Json.render` は `Value` を JSON にする。浮動小数点数は最短表記、有限でなければ
`NaN`、`Infinity`、`-Infinity`。文字列は `"`、`\`、制御文字、ASCII 以外の文字を escape
する（基本多言語面の外の文字は surrogate の対）。文字列の `\uD83D` のような対にならない
surrogate は、単独のサロゲートとして読み書きする。バイト列はバイトの数の列、組と集合は列にする。共有された集まりは JSON では
書けないので null にする。

## 停止性

読み取りは入力の長さを fuel にする。どの呼び出しも少なくとも 1 文字を読むか
入れ子を一段下るので、fuel は足りる。
-/

namespace CrossPool.Data.Json

/-! ## 読み取り -/

/-- JSON の空白を飛ばす。 -/
def skipWs : List Char → List Char
  | c :: r => if c == ' ' || c == '\t' || c == '\n' || c == '\r' then skipWs r else c :: r
  | [] => []

/-- 16 進 1 桁の値。 -/
def hexDigit (c : Char) : Option Nat :=
  if c.isDigit then some (c.toNat - '0'.toNat)
  else if 'a' ≤ c && c ≤ 'f' then some (c.toNat - 'a'.toNat + 10)
  else if 'A' ≤ c && c ≤ 'F' then some (c.toNat - 'A'.toNat + 10)
  else none

/-- 16 進 4 桁の値。 -/
def hexValue (cs : List Char) : Option Nat :=
  cs.foldlM (fun acc ch => (hexDigit ch).map (acc * 16 + ·)) 0

/-- 上位と下位の surrogate の対を一つの文字にまとめる。対にならない surrogate は
そのまま単独のサロゲートになる。 -/
def combineUnits : List Nat → List Text.CodePoint
  | hi :: lo :: r =>
    if 0xD800 ≤ hi && hi < 0xDC00 && 0xDC00 ≤ lo && lo < 0xE000 then
      .char (Char.ofNat (0x10000 + (hi - 0xD800) * 0x400 + (lo - 0xDC00))) :: combineUnits r
    else .ofCode hi :: combineUnits (lo :: r)
  | [u] => [.ofCode u]
  | [] => []

/-- 文字列の本体を閉じる引用符まで読み、code unit の列にする。 -/
def readUnits : List Char → List Nat → Option (List Nat × List Char)
  | [], _ => none
  | '"' :: r, acc => some (acc.reverse, r)
  | '\\' :: '"' :: t, acc => readUnits t (0x22 :: acc)
  | '\\' :: '\\' :: t, acc => readUnits t (0x5C :: acc)
  | '\\' :: '/' :: t, acc => readUnits t (0x2F :: acc)
  | '\\' :: 'b' :: t, acc => readUnits t (0x08 :: acc)
  | '\\' :: 'f' :: t, acc => readUnits t (0x0C :: acc)
  | '\\' :: 'n' :: t, acc => readUnits t (0x0A :: acc)
  | '\\' :: 'r' :: t, acc => readUnits t (0x0D :: acc)
  | '\\' :: 't' :: t, acc => readUnits t (0x09 :: acc)
  | '\\' :: 'u' :: a :: b :: c :: d :: t, acc =>
    match hexValue [a, b, c, d] with
    | some v => readUnits t (v :: acc)
    | none => none
  | '\\' :: _, _ => none
  | c :: r, acc => if c.toNat < 0x20 then none else readUnits r (c.toNat :: acc)

/-- 文字列の本体を閉じる引用符まで読む。 -/
def readString (cs : List Char) : Option (Text.Str × List Char) :=
  (readUnits cs []).map fun (us, r) => (⟨combineUnits us⟩, r)

/-- 数の字句の終わりまでを取る。 -/
def numberSpan (cs : List Char) : List Char × List Char :=
  (cs.takeWhile (fun c => c.isDigit || c == '-' || c == '+' || c == '.' || c == 'e' || c == 'E'),
   cs.dropWhile (fun c => c.isDigit || c == '-' || c == '+' || c == '.' || c == 'e' || c == 'E'))

/-- 数字が 1 個以上並ぶか。 -/
def allDigits (cs : List Char) : Bool := !cs.isEmpty && cs.all Char.isDigit

/-- JSON の数の文法に合うか。`-? (0 | [1-9][0-9]*) (. [0-9]+)? ([eE] [+-]? [0-9]+)?` -/
def isNumberText (cs : List Char) : Bool :=
  let body := match cs with
    | '-' :: r => r
    | r => r
  let intPart := body.takeWhile Char.isDigit
  let rest := body.dropWhile Char.isDigit
  let intOk := allDigits intPart && (intPart.length == 1 || intPart.head? != some '0')
  let (fracOk, rest) := match rest with
    | '.' :: r => (allDigits (r.takeWhile Char.isDigit), r.dropWhile Char.isDigit)
    | r => (true, r)
  let expOk := match rest with
    | [] => true
    | c :: r =>
      (c == 'e' || c == 'E') &&
        (match r with
         | '+' :: t => allDigits t
         | '-' :: t => allDigits t
         | t => allDigits t)
  intOk && fracOk && expOk

/-- 数の字句を値にする。 -/
def numberValue (cs : List Char) : Option Value :=
  if !isNumberText cs then none
  else if cs.all (fun c => c.isDigit || c == '-') then
    let neg := cs.head? == some '-'
    let digits := cs.filter Char.isDigit
    let n := digits.foldl (fun acc c => 10 * acc + (c.toNat - '0'.toNat)) 0
    some (.int (if neg then -(n : Int) else n))
  else
    (Decimal.ofString? (String.ofList cs)).bind fun d => (Decimal.toFloat? d).map Value.float

mutual

/-- 値を一つ読む。 -/
def readValue : Nat → List Char → Option (Value × List Char)
  | 0, _ => none
  | fuel + 1, cs =>
    match skipWs cs with
    | '{' :: r => readMembers fuel (skipWs r) [] true
    | '[' :: r => readElements fuel (skipWs r) [] true
    | '"' :: r => (readString r).map fun (s, t) => (.str s, t)
    | 't' :: 'r' :: 'u' :: 'e' :: r => some (.bool true, r)
    | 'f' :: 'a' :: 'l' :: 's' :: 'e' :: r => some (.bool false, r)
    | 'n' :: 'u' :: 'l' :: 'l' :: r => some (.null, r)
    | 'N' :: 'a' :: 'N' :: r => some (.float (0.0 / 0.0), r)
    | 'I' :: 'n' :: 'f' :: 'i' :: 'n' :: 'i' :: 't' :: 'y' :: r => some (.float (1.0 / 0.0), r)
    | '-' :: 'I' :: 'n' :: 'f' :: 'i' :: 'n' :: 'i' :: 't' :: 'y' :: r =>
      some (.float (-1.0 / 0.0), r)
    | r =>
      let (num, rest) := numberSpan r
      (numberValue num).map fun v => (v, rest)

/-- 列の要素を `]` まで読む。`first` は最初の要素の前か。 -/
def readElements : Nat → List Char → List Value → Bool → Option (Value × List Char)
  | 0, _, _, _ => none
  | fuel + 1, cs, acc, first =>
    match cs with
    | ']' :: r => if first then some (.list acc.reverse, r) else none
    | _ =>
      match readValue fuel cs with
      | none => none
      | some (v, r) =>
        match skipWs r with
        | ',' :: t => readElements fuel (skipWs t) (v :: acc) false
        | ']' :: t => some (.list (v :: acc).reverse, t)
        | _ => none

/-- 写像の組を `}` まで読む。 -/
def readMembers : Nat → List Char → List (Value × Value) → Bool → Option (Value × List Char)
  | 0, _, _, _ => none
  | fuel + 1, cs, acc, first =>
    match cs with
    | '}' :: r => if first then some (.map acc, r) else none
    | '"' :: r =>
      match readString r with
      | none => none
      | some (k, t) =>
        match skipWs t with
        | ':' :: t' =>
          match readValue fuel t' with
          | none => none
          | some (v, t'') =>
            let acc := Value.insertPair acc (.str k) v
            match skipWs t'' with
            | ',' :: u => readMembers fuel (skipWs u) acc false
            | '}' :: u => some (.map acc, u)
            | _ => none
        | _ => none
    | _ => none

end

/-- JSON の文字列全体を読む。後ろに空白以外が残れば `none`。 -/
def parse? (s : String) : Option Value :=
  let cs := s.toList
  match readValue (cs.length + 1) cs with
  | some (v, rest) => if (skipWs rest).isEmpty then some v else none
  | none => none

/-! ## 書き出し -/

/-- 16 進 4 桁。 -/
def hex4Text (n : Nat) : String :=
  let ds := "0123456789abcdef".toList
  String.ofList ([n / 4096 % 16, n / 256 % 16, n / 16 % 16, n % 16].map fun d => ds.getD d '0')

/-- 一つの符号位置の JSON 表記。空白から `~` までの ASCII 以外は escape する。基本多言語面の
外の文字は surrogate の対、単独のサロゲートはその code unit にする。 -/
def quotePoint (p : Text.CodePoint) : String :=
  let n := p.code
  if n == 0x22 then "\\\""
  else if n == 0x5C then "\\\\"
  else if n == 0x0A then "\\n"
  else if n == 0x0D then "\\r"
  else if n == 0x09 then "\\t"
  else if n == 0x08 then "\\b"
  else if n == 0x0C then "\\f"
  else if n < 0x20 || (0x7F ≤ n && n < 0x10000) then "\\u" ++ hex4Text n
  else if 0x10000 ≤ n then
    "\\u" ++ hex4Text (0xD800 + (n - 0x10000) / 0x400) ++
      "\\u" ++ hex4Text (0xDC00 + (n - 0x10000) % 0x400)
  else String.singleton (Char.ofNat n)

/-- JSON の文字列リテラル。 -/
def quote (s : Text.Str) : String := "\"" ++ String.join (s.points.map quotePoint) ++ "\""

/-- 浮動小数点数の JSON 表記。 -/
def floatText (x : Float) : String :=
  if Binary64.isNan x then "NaN"
  else if Binary64.isInfinite x then (if x < 0 then "-Infinity" else "Infinity")
  else Binary64.toShortString x

mutual

/-- 値の JSON 表記。 -/
def render : Value → String
  | .null => "null"
  | .bool b => if b then "true" else "false"
  | .int i => toString i
  | .float x => floatText x
  | .str s => quote s
  | .stamp t => quote (.ofString t.text)
  | .bytes b => "[" ++ ", ".intercalate (b.map fun c => toString c.toNat) ++ "]"
  | .list xs => "[" ++ renderList xs ++ "]"
  | .tuple xs => "[" ++ renderList xs ++ "]"
  | .set xs => "[" ++ renderList xs ++ "]"
  | .map kvs => "\x7b" ++ renderMembers kvs ++ "\x7d"
  | .shared .. | .ref _ => "null"

/-- 列の要素をカンマで区切る。 -/
def renderList : List Value → String
  | [] => ""
  | [v] => render v
  | v :: vs => render v ++ ", " ++ renderList vs

/-- 写像の組をカンマで区切る。 -/
def renderMembers : List (Value × Value) → String
  | [] => ""
  | [(k, v)] => renderKey k ++ ": " ++ render v
  | (k, v) :: kvs => renderKey k ++ ": " ++ render v ++ ", " ++ renderMembers kvs

/-- 写像の鍵。文字列でなければその JSON 表記を文字列にする。 -/
def renderKey : Value → String
  | .str s => quote s
  | .null => quote (.ofString "null")
  | .bool b => quote (.ofString (if b then "true" else "false"))
  | .int i => quote (.ofString (toString i))
  | .float x => quote (.ofString (floatText x))
  | v => quote (.ofString (render v))

end

end CrossPool.Data.Json
