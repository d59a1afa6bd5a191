import CrossPool.Text.Numeral
import CrossPool.Text.Case
import CrossPool.Text.Alnum
import CrossPool.Binary64.Text

/-!
# 罫線で囲んだ表

見出しと行から、`+---+` の罫線で囲み、見出しの下を `+===+` で区切った表を作る。

## 欄の種類

列ごとに、欄の種類のうち最も一般なものを列の種類にする。種類は一般さの順に
空、真偽値（`True`、`False`）、整数、浮動小数点数、文字列。種類を決めるときは端末の
制御列を除いて見る。文字列の欄も数として読めれば数とみなす（無限大と NaN は `inf`、
`-inf`、`nan` と書いたときだけ）。三桁ごとの `,` で区切った `1,000` や `12,345.5` も数で、
小数点がなければ整数。

* 浮動小数点数の列は、各欄を有効数字 6 桁の一般の表記で書き直す（`,` は除く）。
* 数の列は小数点の位置をそろえて右に寄せる。小数点以下の桁（指数表記では `e` より
  後の桁）の足りない欄は右に空白を足す。見出しは右に寄せる。
* ほかの列は前後の空白を削って左に寄せる。

## 幅

列の幅は、見出しの幅に 2 を足したものと、最も広い欄の幅の大きい方。欄の左右に空白を
一つずつ置く。表のどこかに端末の制御列（`ESC [` で始まる CSI と、`ESC ] 8` の
hyperlink）があれば、幅は制御列を除いた見える文字で数える。

## 複数行の欄

表のどこかに改行（`\r` か `\n`）があれば、欄を行に分けて並べる。幅は `\r` と `\n` で
分けた各行で数え、欄の行は行区切りの文字（改行、垂直タブ、改ページ、`0x1C`–`0x1E`、
`0x85`、U+2028、U+2029）で分けて一行ずつそろえる。行数の足りない欄は下を空白の行で
埋める。
-/

namespace CrossPool.Report

/-- 表の欄。 -/
inductive Cell where
  | num (n : Nat)
  | text (s : String)

/-- 欄の文字列。 -/
def Cell.text? : Cell → String
  | .num n => toString n
  | .text s => s

/-! ## 端末の制御列 -/

/-- CSI の長さ。`ESC [`、引数の文字（`0x30`–`0x3F`）、中間の文字（`0x20`–`0x2F`）、
終わりの一文字（`0x40`–`0x7E`）。 -/
def csiLength (cs : List Char) : Option Nat :=
  match cs with
  | '\x1b' :: '[' :: r =>
    let params := r.takeWhile fun c => '\x30' ≤ c && c ≤ '\x3f'
    let r := r.drop params.length
    let inter := r.takeWhile fun c => '\x20' ≤ c && c ≤ '\x2f'
    match r.drop inter.length with
    | f :: _ => if '\x40' ≤ f && f ≤ '\x7e' then some (params.length + inter.length + 3) else none
    | [] => none
  | _ => none

/-- hyperlink の引数の並び全体が `key=value` を `:` で区切れる形か。`key` と `value` は
一文字以上の語の文字で、区切りの `:` はなくてもよい（`a=bc=d` は `a=b` と `c=d`）。
一つの組は三文字以上を読むので、燃料は文字数で足りる。 -/
def linkParams : Nat → List Char → Bool
  | _, [] => true
  | 0, _ => false
  | fuel + 1, cs =>
    let key := cs.takeWhile Text.isWordChar
    match cs.drop key.length with
    | '=' :: r =>
      let value := r.takeWhile Text.isWordChar
      !key.isEmpty && (List.range value.length).any fun i =>
        let rest := r.drop (i + 1)
        linkParams fuel rest || (rest.head? == some ':' && linkParams fuel rest.tail)
    | _ => false

/-- hyperlink `ESC ] 8 ; params ; URI ESC \ text ESC ] 8 ; ; ESC \` を読む。見える文字
（text）と残りを返す。 -/
def hyperlink? (cs : List Char) : Option (List Char × List Char) :=
  match cs with
  | '\x1b' :: ']' :: '8' :: ';' :: r =>
    let params := r.takeWhile (· != ';')
    match r.drop params.length with
    | ';' :: r =>
      if !linkParams params.length params then none else
      let uri := r.takeWhile (· != '\x1b')
      match r.drop uri.length with
      | '\x1b' :: '\\' :: r =>
        let text := r.takeWhile (· != '\x1b')
        match r.drop text.length with
        | '\x1b' :: ']' :: '8' :: ';' :: ';' :: '\x1b' :: '\\' :: rest =>
          if uri.isEmpty || text.isEmpty then none else some (text, rest)
        | _ => none
      | _ => none
    | _ => none
  | _ => none

/-- 制御列を除いた文字の並び。`fuel` は文字数で、一歩ごとに一文字以上を読む。 -/
def stripControlsAux : Nat → List Char → List Char
  | 0, cs => cs
  | _ + 1, [] => []
  | fuel + 1, c :: r =>
    match csiLength (c :: r) with
    | some n => stripControlsAux fuel ((c :: r).drop n)
    | none =>
      match hyperlink? (c :: r) with
      | some (text, rest) => text ++ stripControlsAux fuel rest
      | none => c :: stripControlsAux fuel r

/-- 制御列を除いた文字列。 -/
def stripControls (s : String) : String := String.ofList (stripControlsAux s.length s.toList)

/-- 制御列を含むか。 -/
def hasControls (cs : List Char) : Bool :=
  (List.range cs.length).any fun i =>
    let t := cs.drop i
    (csiLength t).isSome || (hyperlink? t).isSome

/-! ## 行に分ける -/

/-- `\r` と `\n` の一つ一つで分ける。 -/
def splitBreaks (s : String) : List String :=
  (s.toList.splitOnP fun c => c == '\r' || c == '\n').map String.ofList

/-- 行区切りの文字か。 -/
def isLineBreak (c : Char) : Bool :=
  let n := c.toNat
  (0x0A ≤ n && n ≤ 0x0D) || (0x1C ≤ n && n ≤ 0x1E) || n == 0x85 || n == 0x2028 || n == 0x2029

/-- 行に分ける。`\r\n` は一つの区切りで、末尾の区切りの後ろに空の行は作らない。 -/
def splitLinesAux : Nat → List Char → List Char → List String
  | 0, acc, _ => [String.ofList acc.reverse]
  | _ + 1, acc, [] => if acc.isEmpty then [] else [String.ofList acc.reverse]
  | fuel + 1, acc, c :: r =>
    if c == '\r' && r.head? == some '\n' then String.ofList acc.reverse :: splitLinesAux fuel [] r.tail
    else if isLineBreak c then String.ofList acc.reverse :: splitLinesAux fuel [] r
    else splitLinesAux fuel (c :: acc) r

/-- 行に分ける。 -/
def splitLines (s : String) : List String := splitLinesAux (s.length + 1) [] s.toList

/-! ## 数の書き方 -/

/-- 三桁ごとに `,` で区切った数の書き方か。符号のあとに 1 から 3 桁、`,` と 3 桁の繰り返し、
小数部。整数部がなければ小数点と 1 桁以上の数字。空の文字列も含む。末尾の改行一つは
許す。 -/
def isGroupedNumber (s : String) : Bool :=
  let cs := s.toList
  let cs := if cs.getLast? == some '\n' then cs.dropLast else cs
  let digit (c : Char) : Bool := '0' ≤ c && c ≤ '9'
  let rec groups : Nat → List Char → List Char
    | 0, cs => cs
    | fuel + 1, ',' :: a :: b :: c :: r =>
      if digit a && digit b && digit c then groups fuel r else ',' :: a :: b :: c :: r
    | _ + 1, cs => cs
  let fraction (needDigit : Bool) : List Char → Bool
    | [] => !needDigit
    | '.' :: r => r.all digit && (!needDigit || !r.isEmpty)
    | _ => false
  match cs with
  | [] => true
  | '.' :: _ => fraction true cs
  | _ =>
    let body := match cs with
      | '+' :: r => r
      | '-' :: r => r
      | r => r
    let head := body.takeWhile digit
    if head.isEmpty || 3 < head.length then false
    else fraction false (groups body.length (body.drop head.length))

/-- 数として読めるか。無限大と NaN は `inf`、`-inf`、`nan` と書いたときだけ。 -/
def isNumberText (s : String) : Bool :=
  match Text.floatText? s with
  | some x => Binary64.isFinite x || ["inf", "-inf", "nan"].contains (Text.lower s)
  | none => false

/-- 小数点以下の桁数。整数や数でないものは `-1`。 -/
def afterPoint (s : String) : Int :=
  if !(isNumberText s || isGroupedNumber s) || Text.isIntText s then -1
  else
    let cs := s.toList
    let lastIndex (p : Char → Bool) : Option Nat :=
      ((cs.zip (List.range cs.length)).filter (fun (c, _) => p c)).getLast?.map (·.2)
    match lastIndex (· == '.') with
    | some i => (cs.length : Int) - i - 1
    | none =>
      match lastIndex (fun c => c == 'e' || c == 'E') with
      | some i => (cs.length : Int) - i - 1
      | none => -1

/-! ## 欄の種類 -/

/-- 欄の種類。 -/
inductive Kind where
  | empty
  | truth
  | int
  | float
  | text
  deriving BEq

/-- 種類の一般さ。 -/
def Kind.rank : Kind → Nat
  | .empty => 0
  | .truth => 1
  | .int => 2
  | .float => 3
  | .text => 5

/-- 数の種類か。 -/
def Kind.isNumber (k : Kind) : Bool := k == .int || k == .float

/-- 文字列の欄の種類。制御列は除いて見る。 -/
def textKind (s : String) : Kind :=
  let s := stripControls s
  if s.isEmpty then .empty
  else if s == "True" || s == "False" then .truth
  else if Text.isIntText s || (isGroupedNumber s && !s.contains '.') then .int
  else if isNumberText s || isGroupedNumber s then .float
  else .text

/-- 欄の種類。 -/
def Cell.kind : Cell → Kind
  | .num _ => .int
  | .text s => textKind s

/-- 列の種類。 -/
def columnKind (cells : List Cell) : Kind :=
  cells.foldl (fun k c => if k.rank < c.kind.rank then c.kind else k) .truth

/-- 浮動小数点数の列の欄の表記。 -/
def floatText (s : String) : String :=
  match Text.floatText? (s.replace "," "") with
  | some x => Binary64.toGeneral x 6
  | none => s

/-! ## 色付きの整数の欄 -/

/-- 文字を escape した表記。`\` と `\t`、`\n`、`\r` のほか、印字できる ASCII でない
文字は `\xhh`、`\uhhhh`、`\Uhhhhhhhh` になる。 -/
def escapeUnit (c : Char) : List Char :=
  let n := c.toNat
  let hex (w : Nat) : List Char :=
    (List.range w).reverse.map fun i => "0123456789abcdef".toList.getD (n / Nat.pow 16 i % 16) '0'
  if c == '\\' then ['\\', '\\']
  else if c == '\t' then ['\\', 't']
  else if c == '\n' then ['\\', 'n']
  else if c == '\r' then ['\\', 'r']
  else if 0x20 ≤ n && n < 0x7F then [c]
  else if n < 0x100 then '\\' :: 'x' :: hex 2
  else if n < 0x10000 then '\\' :: 'u' :: hex 4
  else '\\' :: 'U' :: hex 8

/-- 16 進の数字の並びの値。 -/
def hexValue (cs : List Char) : Nat :=
  cs.foldl (fun acc c => 16 * acc + ((Text.baseDigit 16 c).getD 0)) 0

/-- `escapeUnit` の表記を文字に戻す。 -/
def unescape : List Char → List Char
  | '\\' :: 'x' :: a :: b :: r => Char.ofNat (hexValue [a, b]) :: unescape r
  | '\\' :: 'u' :: a :: b :: c :: d :: r => Char.ofNat (hexValue [a, b, c, d]) :: unescape r
  | '\\' :: 'U' :: a :: b :: c :: d :: e :: f :: g :: h :: r =>
    Char.ofNat (hexValue [a, b, c, d, e, f, g, h]) :: unescape r
  | '\\' :: 't' :: r => '\t' :: unescape r
  | '\\' :: 'n' :: r => '\n' :: unescape r
  | '\\' :: 'r' :: r => '\r' :: unescape r
  | '\\' :: '\\' :: r => '\\' :: unescape r
  | c :: r => c :: unescape r
  | [] => []

/-- escape した表記の先頭から、色の指定 `\x1b[31m`（`\`、`x` の並び、16 進の数字、
`[`、数字、`m` の並び）、数字と小数点の並び、`\` で始まる残りと読めれば、三つの部分。 -/
def coloredDigits? (cs : List Char) : Option (List Char × List Char × List Char) :=
  let isHex (c : Char) : Bool := (Text.baseDigit 16 c).isSome
  let isDigit (c : Char) : Bool := '0' ≤ c && c ≤ '9'
  match cs with
  | '\\' :: r =>
    let xs := r.takeWhile (fun c => c == 'x' || c == 'X')
    let r := r.drop xs.length
    let hs := r.takeWhile isHex
    let r := r.drop hs.length
    match r with
    | '[' :: r =>
      let ds := r.takeWhile isDigit
      let r := r.drop ds.length
      let ms := r.takeWhile (fun c => c == 'm' || c == 'M')
      let r := r.drop ms.length
      let body := r.takeWhile (fun c => isDigit c || c == '.')
      let rest := r.drop body.length
      if xs.isEmpty || hs.isEmpty || ds.isEmpty || ms.isEmpty || body.isEmpty ||
          rest.head? != some '\\' then none
      else some ('\\' :: xs ++ hs ++ '[' :: ds ++ ms, body, rest)
    | _ => none
  | _ => none

/-- 整数の列の文字列の欄。escape した表記の中で最初に色の指定と数字の並びと読める
ところを探し、数字だけなら先頭の `0` を除いた値にして、色の指定からあとだけを戻す
（前に付いていたものは落ちる）。見つからなければそのまま。 -/
def coloredIntText (s : String) : String :=
  let cs := s.toList.flatMap escapeUnit
  let found := (List.range cs.length).findSome? fun i => coloredDigits? (cs.drop i)
  match found with
  | some (color, body, rest) =>
    if body.all (· != '.') then
      let n := body.foldl (fun acc c => 10 * acc + (c.toNat - '0'.toNat)) 0
      String.ofList (unescape (color ++ (toString n).toList ++ rest))
    else s
  | none => s

/-- 列の種類に合わせた欄の表記。`controls` は表に制御列があるか。浮動小数点数の列で
制御列のある表では、制御列を除いた部分を書き直す。その部分が `,` を含めば数として
読めないので書き直さない。 -/
def Cell.render (k : Kind) (controls : Bool) : Cell → String
  | .num n => if k == .float then Binary64.toGeneral (Float.ofNat n) 6 else toString n
  | .text s =>
    if k == .int then coloredIntText s
    else if k != .float then s
    else if controls then
      let raw := stripControls s
      if raw.contains ',' then s else s.replace raw (floatText raw)
    else floatText s

/-! ## そろえる -/

/-- 空白の並び。 -/
def spaces (n : Nat) : String := String.ofList (List.replicate n ' ')

/-- 左に空白を足して幅 `w` にする。 -/
def padLeft (w : Nat) (s : String) : String := spaces (w - s.length) ++ s

/-- 右に空白を足して幅 `w` にする。 -/
def padRight (w : Nat) (s : String) : String := s ++ spaces (w - s.length)

/-- 表の書き方。制御列があるか、複数行の欄があるか。 -/
structure Layout where
  controls : Bool
  multiline : Bool

/-- 一行の見える幅。 -/
def Layout.lineWidth (l : Layout) (s : String) : Nat :=
  if l.controls then (stripControls s).length else s.length

/-- 欄の各行の見える幅。 -/
def Layout.lineWidths (l : Layout) (s : String) : List Nat :=
  if l.multiline then (splitBreaks s).map l.lineWidth else [l.lineWidth s]

/-- 欄の見える幅。 -/
def Layout.width (l : Layout) (s : String) : Nat := (l.lineWidths s).foldl max 0

/-- 列の欄をそろえる。幅は `minWidth` 以上。 -/
def alignColumn (l : Layout) (k : Kind) (strings : List String) (minWidth : Nat) : List String :=
  let strings := if k.isNumber then
      let decimals := strings.map fun s => afterPoint (if l.controls then stripControls s else s)
      let most := decimals.foldl max (-1)
      strings.zipWith (fun s d => s ++ spaces (most - d).toNat) decimals
    else strings.map Text.trimBlank
  let width := strings.foldl (fun w s => (l.lineWidths s).foldl max w) minWidth
  let pad (w : Nat) (s : String) : String := if k.isNumber then padLeft w s else padRight w s
  let fit (w : Nat) (s : String) : String := pad (w + s.length - l.lineWidth s) s
  if l.multiline then
    strings.map fun ms =>
      let ws := (splitBreaks ms).map fun line => width + line.length - l.lineWidth line
      let lines := splitLines ms
      if l.controls then "\n".intercalate ((lines.zip ws).map fun (s, w) => pad w s)
      else "\n".intercalate (lines.map (pad width))
  else strings.map (fit width)

/-- 見出しをそろえる。 -/
def alignHeader (l : Layout) (numeric : Bool) (width : Nat) (h : String) : String :=
  let one (line : String) : String :=
    let w := width + line.length - l.width line
    if numeric then padLeft w line else padRight w line
  if l.multiline then "\n".intercalate ((splitBreaks h).map one) else one h

/-! ## 組む -/

/-- 罫線。 -/
def rule (widths : List Nat) (fill : Char) : String :=
  "+" ++ "+".intercalate (widths.map fun w => String.ofList (List.replicate (w + 2) fill)) ++ "+"

/-- 欄の並びの行。 -/
def line (cells : List String) : String :=
  "|" ++ "|".intercalate (cells.map fun c => " " ++ c ++ " ") ++ "|"

/-- 欄の並びの行。複数行の欄は行に分け、足りない行は空白で埋める。 -/
def rowLines (l : Layout) (widths : List Nat) (cells : List String) : List String :=
  if l.multiline then
    let cellLines := cells.map splitLines
    let n := cellLines.foldl (fun m ls => max m ls.length) 0
    (List.range n).map fun i => line ((cellLines.zip widths).map fun (ls, w) => ls.getD i (spaces w))
  else [line cells]

/-- 列を行に組み替える。 -/
def transpose (columns : List (List String)) (n : Nat) : List (List String) :=
  (List.range n).map fun i => columns.map fun col => col.getD i ""

/-- 区切りの印の欄か。前後の空白を削ると `0x01` だけになる文字列。 -/
def Cell.isSeparator : Cell → Bool
  | .text s => Text.trimBlank s == "\x01"
  | .num _ => false

/-- 区切りの行か。最初か二番目の欄が区切りの印。 -/
def isSeparatorRow (r : List Cell) : Bool :=
  r.head?.any Cell.isSeparator || (r.drop 1).head?.any Cell.isSeparator

/-- 区切りの行を元の位置に戻す。`done` は区切りでない行を組んだ行の並びで、区切りの行は
`none` になる。 -/
def mergeRows : List (List Cell) → List (List String) → List (Option (List String))
  | [], _ => []
  | r :: rs, done =>
    if isSeparatorRow r then none :: mergeRows rs done
    else
      match done with
      | d :: ds => some d :: mergeRows rs ds
      | [] => mergeRows rs []

/-- 表を作る。行はどれも見出しと同じ数の欄を持つ。区切りの行（`isSeparatorRow`）は
欄の種類と幅に数えない。途中の区切りの行は罫線だけになり、最後の行が区切りなら `|` で
囲んだ印だけの行になる。行の間の罫線は、区切りでない行の数だけしか引かれないので、
区切りの行が二つ以上あれば間の行が落ちる。すべての行が区切りの行なら表は作れない
（`none`）。 -/
def grid (headers : List String) (rows : List (List Cell)) : Option String :=
  let data := rows.filter (!isSeparatorRow ·)
  let plain := String.intercalate "\t" (headers ++ data.flatMap (·.map Cell.text?))
  let l : Layout := ⟨hasControls plain.toList, plain.contains '\r' || plain.contains '\n'⟩
  let columns := (List.range headers.length).map fun i =>
    data.map fun r => r.getD i (.text "")
  let kinds := columns.map fun col => if col.isEmpty then Kind.text else columnKind col
  let aligned := (headers.zip (kinds.zip columns)).map fun (h, k, col) =>
    alignColumn l k (col.map (Cell.render k l.controls)) (l.width h + 2)
  let widths := (headers.zip aligned).map fun (h, col) =>
    col.foldl (fun w s => max w (l.width s)) (l.width h + 2)
  let head := (headers.zip (kinds.zip widths)).map fun (h, k, w) => alignHeader l k.isNumber w h
  let separator := [if l.multiline then "| \x01 |" else "|\x01|"]
  let body := mergeRows rows ((transpose aligned data.length).map (rowLines l widths))
  let sep := rule widths '-'
  match body.getLast? with
  | none => some ("\n".intercalate ([sep] ++ rowLines l widths head ++ [rule widths '='] ++ [sep]))
  | some last =>
    if data.isEmpty then none
    else
      let between := (body.take (min (body.length - 1) data.length)).flatMap fun b =>
        b.getD [] ++ [sep]
      some ("\n".intercalate ([sep] ++ rowLines l widths head ++ [rule widths '='] ++ between ++
        last.getD separator ++ [sep]))

end CrossPool.Report
