import CrossPool.Config.Validator

/-!
# 文書の値の型の検査

設定ファイルの値を、寛容な変換規則で型に合わせる。

| 型 | 受け入れる値 |
|---|---|
| 文字列 | 文字列、UTF-8 のバイト列 |
| 整数 | 整数、真偽値、整数値の浮動小数点数、整数を表す文字列かバイト列（`"8"`、`"8.00"`） |
| 浮動小数点数 | 浮動小数点数、整数、真偽値、数を表す文字列かバイト列 |
| 10 進数 | 整数、文字列、浮動小数点数（最短表記を読む）。有限でなければならない |
| 真偽値 | 真偽値、0 と 1、`yes`、`off` などの文字列かバイト列 |
| 列 | 列、組、集合（集合の並びの順） |

検査の誤りは位置（`LocStep` の列）、種類、文面、入力値の表記と型名を持つ。誤りは
一つの値で止めず、写像のすべての鍵と列のすべての要素について集める。

これらをまとめた `validator` が、実行できる検証器である。誤りの報告は、誤りの数と模型の名前の
行に続き、誤りごとに位置の行と、文面、種類、入力値の表記（50 byte を超えれば中ほどを `...` で
省く）、型名の行を書く。説明の置き場所が与えられていれば、種類ごとの説明の行も書く。
-/

namespace CrossPool.Check

open Data Config

/-- 入力値 `v` についての誤り。 -/
def fail {α : Type} (v : Value) (kind : String) (msg : String) : Checked α :=
  .error [⟨[], kind, msg, v.safeRepr, v.typeName⟩]

/-- 誤りの位置の前に一歩を足す。 -/
def within {α : Type} (step : LocStep) (r : Checked α) : Checked α :=
  r.mapError (·.map fun e => { e with loc := step :: e.loc })

/-- 空白とみなす文字（両端から取り除く）。 -/
def isSpace (c : Char) : Bool :=
  let n := c.toNat
  (0x09 ≤ n && n ≤ 0x0D) || n == 0x20 || n == 0x85 || n == 0xA0 || n == 0x1680 ||
    (0x2000 ≤ n && n ≤ 0x200A) || n == 0x2028 || n == 0x2029 || n == 0x202F || n == 0x205F ||
    n == 0x3000

/-- 両端の空白を取り除く。 -/
def trim (s : String) : String :=
  String.ofList ((s.toList.dropWhile isSpace).reverse.dropWhile isSpace).reverse

/-! ## 文字列 -/

/-- バイト列を UTF-8 として読んだ文字列。 -/
def utf8Text? (b : List UInt8) : Option String := String.fromUTF8? ⟨b.toArray⟩

/-- UTF-8 にできない文字列の誤り。 -/
def unicodeFault {α : Type} (v : Value) : Checked α :=
  fail v "string_unicode" "Input should be a valid string, unable to parse raw data as a unicode string"

/-- 制約のない文字列。文字列はそのまま通し、単独のサロゲートも残る。 -/
def str (v : Value) : Checked Text.Str :=
  match v with
  | .str s => .ok s
  | .bytes b =>
    match utf8Text? b with
    | some s => .ok (.ofString s)
    | none => unicodeFault v
  | _ => fail v "string_type" "Input should be a valid string"

/-- 文字列 `s` を UTF-8 にできる文字列として読む。サロゲートを含めば `v` の誤り。 -/
def encodable (v : Value) (s : Text.Str) : Checked String :=
  match s.toString? with
  | some t => .ok t
  | none => unicodeFault v

/-- 1 文字以上の文字列。制約のある文字列は UTF-8 にしてから調べるので、サロゲートを含む
文字列は通らない。 -/
def nonEmptyStr (v : Value) : Checked String := do
  let s ← encodable v (← str v)
  if s.isEmpty then fail v "string_too_short" "String should have at least 1 character"
  else return s

/-! ## 整数 -/

/-- 数字の区切りの下線を取り除く。空、先頭か末尾に下線、下線が二つ続くなら `none`。 -/
def removeSeparators (cs : List Char) : Option (List Char) :=
  if cs.isEmpty || cs.head? == some '_' || cs.getLast? == some '_' ||
      (cs.zip cs.tail).any (fun p => p.1 == '_' && p.2 == '_') then none
  else some (cs.filter (· != '_'))

/-- 数字の区切りの下線を取り除く。下線がなければ `none`。浮動小数点数の字句に使う。 -/
def stripUnderscores (cs : List Char) : Option (List Char) :=
  if !cs.contains '_' then none else removeSeparators cs

/-- 先頭の `0` を読み飛ばしたあとの残り。`zeros` は先頭の `0` のあとの文字の列で、
`0` と `_` を飛ばし、1 から 9 の数字か `-` ならそこから、小数点ならその一つ前から返す。
最後まで `0` と `_` なら最後の一文字を返す。 -/
def afterLeadingZeros (last : Char) : List Char → Option (List Char)
  | [] => some [last]
  | c :: r =>
    if c == '0' || c == '_' then afterLeadingZeros c r
    else if ('1' ≤ c && c ≤ '9') || c == '-' then some (c :: r)
    else if c == '.' then some (last :: c :: r)
    else none

/-- 先頭の `0` を除く（`000` は `0`、`00.0` は `0.0`、`0_1` は `1`、`0-1` は `-1`）。
1 から 9 の数字で始まればそのまま。数字で始まらなければ `none`。 -/
def stripLeadingZeros : List Char → Option (List Char)
  | '0' :: r => afterLeadingZeros '0' r
  | c :: r => if '1' ≤ c && c ≤ '9' then some (c :: r) else none
  | [] => none

/-- 小数点のあとに `0` が一つ以上あり `0` だけなら、小数点から後を捨てる（`8.00` は `8`、
`8.` はそのまま）。 -/
def stripDecimalZeros (cs : List Char) : List Char :=
  match cs.dropWhile (· != '.') with
  | _ :: frac@(_ :: _) => if frac.all (· == '0') then cs.takeWhile (· != '.') else cs
  | _ => cs

/-- 整数を表す文字列を読んだ結果。 -/
inductive IntText where
  /-- 値。 -/
  | value (i : Int)
  /-- 数字の並びが 4300 桁を超える。 -/
  | tooLong
  /-- 整数として読めない。 -/
  | invalid
  deriving DecidableEq, Repr

/-- 10 進の整数の字句を読む。`-` を一つ置けて、先頭の `0` は `0` そのものだけ。
数字の並びが 4300 桁を超えれば、その後ろに何があっても `tooLong`（符号は桁に数えない）。 -/
def readPlainInt (cs : List Char) : IntText :=
  let (neg, ds) := match cs with
    | '-' :: r => (true, r)
    | r => (false, r)
  match ds with
  | ['0'] => .value 0
  | d :: _ =>
    if '1' ≤ d && d ≤ '9' then
      let run := ds.takeWhile Char.isDigit
      if 4300 < run.length then .tooLong
      else if run.length == ds.length then
        let n : Nat := run.foldl (fun acc c => 10 * acc + (c.toNat - '0'.toNat)) 0
        .value (if neg then -(n : Int) else n)
      else .invalid
    else .invalid
  | [] => .invalid

/-- 整数を表す文字列を読む。両端の空白と符号（`+` か `-` の一つ）を外し、先頭の `0`、
`.000` の小数部、数字の区切りの下線を除いてから、符号を戻して `readPlainInt` で読む。
下線が正しく置かれていなければ下線を残したまま読む（読めない）。

`+` は 10 進の字句の一部ではないので、`+` の付いた文字列は桁の上限つきの一般の読み方で
読まれる。そこで上限を超えた桁は大きさの誤りでなく、構文の誤りになる。 -/
def readIntText (s : String) : IntText :=
  let (sign, plus, body) := match (trim s).toList with
    | '-' :: r => (['-'], false, r)
    | '+' :: r => ([], true, r)
    | r => ([], false, r)
  match stripLeadingZeros body with
  | none => .invalid
  | some b =>
    let b := stripDecimalZeros b
    match readPlainInt (sign ++ (removeSeparators b).getD b) with
    | .tooLong => if plus then .invalid else .tooLong
    | r => r

/-- 整数を表す文字列の値。 -/
def parseInt? (s : String) : Option Int :=
  match readIntText s with
  | .value i => some i
  | _ => none

/-- 64 bit 符号付き整数に収まる整数値の浮動小数点数を整数にする。 -/
def floatToInt (v : Value) (x : Float) : Checked Int :=
  if !Binary64.isFinite x then fail v "finite_number" "Input should be a finite number"
  else
    match Binary64.truncate? x with
    | some i =>
      if Binary64.ofInt i != x then
        fail v "int_from_float" "Input should be a valid integer, got a number with a fractional part"
      else if -(Int.pow 2 63) < i && i < Int.pow 2 63 then .ok i
      else fail v "int_parsing_size"
        "Unable to parse input string as an integer, exceeded maximum size"
    | none => fail v "finite_number" "Input should be a finite number"

/-- 整数の構文の誤り。 -/
def intParsing {α : Type} (v : Value) : Checked α :=
  fail v "int_parsing" "Input should be a valid integer, unable to parse string as an integer"

/-- 入力 `v` の文字列 `s` が表す整数。 -/
def intOfText (v : Value) (s : String) : Checked Int :=
  match readIntText s with
  | .value i => .ok i
  | .tooLong =>
    fail v "int_parsing_size" "Unable to parse input string as an integer, exceeded maximum size"
  | .invalid => intParsing v

/-- 整数。文字列は UTF-8 にしてから読み、バイト列は UTF-8 の文字列として読む。 -/
def int (v : Value) : Checked Int :=
  match v with
  | .int i => .ok i
  | .bool b => .ok (if b then 1 else 0)
  | .str s => do intOfText v (← encodable v s)
  | .bytes b =>
    match utf8Text? b with
    | some s => intOfText v s
    | none => intParsing v
  | .float x => floatToInt v x
  | _ => fail v "int_type" "Input should be a valid integer"

/-- 範囲を検査した整数。`ge`、`le` は下限と上限。 -/
def intIn (ge le : Option Int) (v : Value) : Checked Int := do
  let i ← int v
  if let some hi := le then
    if hi < i then return ← fail v "less_than_equal" s!"Input should be less than or equal to {hi}"
  if let some lo := ge then
    if i < lo then return ← fail v "greater_than_equal" s!"Input should be greater than or equal to {lo}"
  return i

/-! ## 浮動小数点数 -/

/-- 数字が 1 個以上か。 -/
def someDigits (cs : List Char) : Bool := !cs.isEmpty && cs.all Char.isDigit

/-- 浮動小数点数の字句か。符号、`inf`、`infinity`、`nan`、小数、指数。 -/
def isFloatText (cs : List Char) : Bool :=
  let body := match cs with
    | '-' :: r => r
    | '+' :: r => r
    | r => r
  let lower := String.ofList (body.map Char.toLower)
  if lower == "inf" || lower == "infinity" || lower == "nan" then true
  else
    let mant := body.takeWhile (fun c => c != 'e' && c != 'E')
    let rest := body.dropWhile (fun c => c != 'e' && c != 'E')
    let ip := mant.takeWhile (· != '.')
    let fp := (mant.dropWhile (· != '.')).drop 1
    let hasDot := mant.contains '.'
    let mantOk :=
      (ip.all Char.isDigit && fp.all Char.isDigit) && (!ip.isEmpty || (hasDot && !fp.isEmpty))
    let expOk := match rest with
      | [] => true
      | _ :: '+' :: t => someDigits t
      | _ :: '-' :: t => someDigits t
      | _ :: t => someDigits t
    mantOk && expOk

/-- 字句の浮動小数点数の値。 -/
def floatOfText (cs : List Char) : Float :=
  let neg := cs.head? == some '-'
  let body := match cs with
    | '-' :: r => r
    | '+' :: r => r
    | r => r
  let lower := String.ofList (body.map Char.toLower)
  let mag :=
    if lower == "inf" || lower == "infinity" then Binary64.infinity false
    else if lower == "nan" then Binary64.nan
    else ((Decimal.ofString? (String.ofList body)).bind Decimal.toFloat?).getD 0.0
  if neg then -mag else mag

/-- 数を表す文字列の値。 -/
def parseFloat? (s : String) : Option Float :=
  let cs := (trim s).toList
  if isFloatText cs then some (floatOfText cs)
  else
    match stripUnderscores s.toList with
    | some t => if isFloatText t then some (floatOfText t) else none
    | none => none

/-- 入力 `v` の文字列 `s` が表す浮動小数点数。 -/
def floatOfInput (v : Value) (s : Option String) : Checked Float :=
  match s.bind parseFloat? with
  | some x => .ok x
  | none => fail v "float_parsing" "Input should be a valid number, unable to parse string as a number"

/-- 浮動小数点数。文字列は UTF-8 にしてから読み、バイト列は UTF-8 の文字列として読む。 -/
def float (v : Value) : Checked Float :=
  match v with
  | .float x => .ok x
  | .int i =>
    let x := Binary64.ofInt i
    if Binary64.isInfinite x then fail v "float_type" "Input should be a valid number" else .ok x
  | .bool b => .ok (if b then 1.0 else 0.0)
  | .str s => do floatOfInput v (some (← encodable v s))
  | .bytes b => floatOfInput v (utf8Text? b)
  | _ => fail v "float_type" "Input should be a valid number"

/-- 範囲を検査した浮動小数点数。NaN はどの範囲の比較も満たさないので、範囲があれば
最初に調べる端で失敗する。 -/
def floatIn (gt ge le : Option Bound) (v : Value) : Checked Float := do
  let x ← float v
  if let some b := le then
    if !(x <= b.value) then
      return ← fail v "less_than_equal" s!"Input should be less than or equal to {b.text}"
  if let some b := ge then
    if !(x >= b.value) then
      return ← fail v "greater_than_equal" s!"Input should be greater than or equal to {b.text}"
  if let some b := gt then
    if !(x > b.value) then return ← fail v "greater_than" s!"Input should be greater than {b.text}"
  return x

/-! ## 10 進数 -/

/-- 10 進数。有限でなければならない。 -/
def decimal (v : Value) : Checked Decimal := do
  let d ← match v with
    | .str s => match s.toString?.bind Decimal.ofStringExact? with
      | some d => pure d
      | none => fail v "decimal_parsing" "Input should be a valid decimal"
    | .int i => pure (Decimal.ofInt i)
    | .float x => pure (Decimal.ofFloat x)
    | _ => fail v "decimal_type" "Decimal input should be an integer, float, string or Decimal object"
  if !d.isFinite then return ← fail v "finite_number" "Input should be a finite number"
  return d

/-- 範囲を検査した 10 進数。範囲の端は整数。 -/
def decimalIn (gt ge le : Option Int) (v : Value) : Checked Decimal := do
  let d ← decimal v
  if let some b := le then
    if decLt (Decimal.ofInt b) d then
      return ← fail v "less_than_equal" s!"Input should be less than or equal to {b}"
  if let some b := ge then
    if decLt d (Decimal.ofInt b) then
      return ← fail v "greater_than_equal" s!"Input should be greater than or equal to {b}"
  if let some b := gt then
    if !decLt (Decimal.ofInt b) d then
      return ← fail v "greater_than" s!"Input should be greater than {b}"
  return d

/-! ## 真偽値と選択肢 -/

/-- 真偽値を表す文字列の値。大文字小文字は区別しない。 -/
def parseBool? (s : String) : Option Bool :=
  let l := String.ofList (s.toList.map Char.toLower)
  if s == "0" || ["f", "n", "no", "off", "false"].contains l then some false
  else if s == "1" || ["t", "y", "on", "yes", "true"].contains l then some true
  else none

/-- 真偽値。文字列は UTF-8 にしてから読み、バイト列は UTF-8 の文字列として読む。 -/
def bool (v : Value) : Checked Bool :=
  let parsing : Checked Bool := fail v "bool_parsing" "Input should be a valid boolean, unable to interpret input"
  match v with
  | .bool b => .ok b
  | .str s => do
    match parseBool? (← encodable v s) with
    | some b => .ok b
    | none => parsing
  | .bytes b => match (utf8Text? b).bind parseBool? with
    | some b => .ok b
    | none => parsing
  | .int i =>
    if i == 0 then .ok false else if i == 1 then .ok true
    else if -(Int.pow 2 63) ≤ i && i < Int.pow 2 63 then parsing
    else fail v "bool_type" "Input should be a valid boolean"
  | .float x =>
    if x == 0.0 then .ok false else if x == 1.0 then .ok true
    else
      match Binary64.truncate? x with
      | some i =>
        if Binary64.ofInt i == x && -(Int.pow 2 63) < i && i < Int.pow 2 63 then parsing
        else fail v "bool_type" "Input should be a valid boolean"
      | none => fail v "bool_type" "Input should be a valid boolean"
  | _ => fail v "bool_type" "Input should be a valid boolean"

/-- 選択肢の文字列の一覧の表記 `'a', 'b' or 'c'`。 -/
def choicesText : List String → String
  | [] => ""
  | [a] => quoteText a
  | [a, b] => quoteText a ++ " or " ++ quoteText b
  | a :: r => quoteText a ++ ", " ++ choicesText r

/-- 選択肢のどれかに等しい文字列。文字列は UTF-8 にしてから比べる。 -/
def literal (choices : List String) (v : Value) : Checked String :=
  match v with
  | .str s => do
    let t ← encodable v s
    if choices.contains t then .ok t
    else fail v "literal_error" ("Input should be " ++ choicesText choices)
  | _ => fail v "literal_error" ("Input should be " ++ choicesText choices)

/-! ## 列と写像 -/

/-- 要素ごとに検査した列。誤りは添字を位置に加えてすべて集める。 -/
def list {α : Type} (f : Value → Checked α) (v : Value) : Checked (List α) :=
  let items := match v.view with
    | .list xs | .tuple xs | .set xs => some xs
    | _ => none
  match items with
  | some xs =>
    let rs := (xs.zip (List.range xs.length)).map fun (x, i) => within (.index i) (f x)
    let es := rs.flatMap errorsOf
    if es.isEmpty then .ok (rs.filterMap fun r => match r with
      | .ok a => some a
      | .error _ => none)
    else .error es
  | _ => fail v "list_type" "Input should be a valid list"

/-- 要素ごとに検査した、`minLength` 個以上の列。 -/
def listMin {α : Type} (minLength : Nat) (f : Value → Checked α) (v : Value) : Checked (List α) := do
  let xs ← list f v
  if xs.length < minLength then
    let n := xs.length
    let plural := if minLength == 1 then "" else "s"
    return ← fail v "too_short" s!"List should have at least {minLength} item{plural} after validation, not {n}"
  return xs

/-- null なら `none`、それ以外は検査した値。 -/
def optional {α : Type} (f : Value → Checked α) (v : Value) : Checked (Option α) :=
  match v with
  | .null => .ok none
  | _ => some <$> f v

/-- 鍵の位置の一歩。64 bit 符号付き整数に収まる整数と真偽値は番号、それ以外は表記。 -/
def keyStep (k : Value) : LocStep :=
  match k with
  | .str s => .field s.lossyUtf8
  | .int i => if -(Int.pow 2 63) ≤ i && i < Int.pow 2 63 then .index i else .field k.safeRepr
  | .bool b => .index (if b then 1 else 0)
  | k => .field k.safeRepr

/-- 模型の入力の写像。写像でなければ型の誤り。知らない鍵を探すときに鍵を UTF-8 にするので、
サロゲートを含む文字列の鍵があれば、ほかの誤りに代わってその鍵の誤り一つになる。 -/
def members (model : String) (v : Value) : Checked Members :=
  match v.view with
  | .map kvs =>
    match kvs.find? (fun (k, _) => match k with
      | .str s => s.hasSurrogate
      | _ => false) with
    | some (k, _) => unicodeFault k
    | none => .ok ⟨v, kvs⟩
  | _ => fail v "model_type" s!"Input should be a valid dictionary or instance of {model}"

/-- 鍵の値。 -/
def lookup (m : Members) (name : String) : Option Value :=
  (m.pairs.find? fun p => Value.sameKey p.1 (.str (.ofString name))).map Prod.snd

/-- 必須の欄。 -/
def required {α : Type} (m : Members) (name : String) (f : Value → Checked α) : Checked α :=
  match lookup m name with
  | some x => within (.field name) (f x)
  | none => .error [⟨[.field name], "missing", "Field required", m.whole.safeRepr, "dict"⟩]

/-- 既定値のある欄。 -/
def withDefault {α : Type} (m : Members) (name : String) (f : Value → Checked α) (d : α) :
    Checked α :=
  match lookup m name with
  | some x => within (.field name) (f x)
  | none => .ok d

/-- 知らない鍵の誤り。文字列でない鍵は、鍵そのものの誤りになる。 -/
def extras (m : Members) (known : List String) : List FieldError :=
  m.pairs.filterMap fun (k, x) =>
    match k with
    | .str s =>
      if (s.toString?.map known.contains).getD false then none
      else some ⟨[keyStep k], "extra_forbidden", "Extra inputs are not permitted", x.safeRepr, x.typeName⟩
    | _ => some ⟨[keyStep k], "invalid_key", "Keys should be strings", k.safeRepr, k.typeName⟩

/-- 検査した値の検証で見つかった値の誤り。文面は UTF-8 のバイト列を通して書かれるので、
サロゲートは `U+FFFD` 三つになる（`Text.Str.lossyUtf8`）。 -/
def valueError {α : Type} (v : Value) (msg : Text.Str) : Checked α :=
  fail v "value_error" ("Value error, " ++ msg.lossyUtf8)

/-! ## 誤りの報告 -/

/-- 位置の一歩の表記。`.` を含む名前は逆引用符で囲む。 -/
def stepText : LocStep → String
  | .field s => if s.contains '.' then "`" ++ s ++ "`" else s
  | .index i => toString i

/-- 先頭から `n` byte 以内で文字の境界で切った接頭辞。 -/
def bytePrefix (cs : List Char) (n : Nat) : List Char :=
  let rec go : List Char → Nat → List Char
    | [], _ => []
    | c :: r, left => if c.utf8Size ≤ left then c :: go r (left - c.utf8Size) else []
  go cs n

/-- 入力値の表記を 50 byte に収める。長ければ先頭の 25 byte 以内と末尾の 24 byte 以内を
`...` でつなぐ。 -/
def truncateInput (s : String) : String :=
  if s.utf8ByteSize ≤ 50 then s
  else
    let cs := s.toList
    String.ofList (bytePrefix cs 25) ++ "..." ++ String.ofList (bytePrefix cs.reverse 24).reverse

/-- 一つの誤りの行。説明の置き場所 `docs` があれば、種類の説明の行を足す。 -/
def errorLines (docs : Option String) (e : FieldError) : String :=
  let loc := if e.loc.isEmpty then "" else ".".intercalate (e.loc.map stepText) ++ "\n"
  let link := match docs with
    | some base => "\n    For further information visit " ++ base ++ e.kind
    | none => ""
  loc ++ "  " ++ e.msg ++ " [type=" ++ e.kind ++ ", input_value=" ++ truncateInput e.input ++
    ", input_type=" ++ e.inputType ++ "]" ++ link

/-- 模型 `title` の検査の誤りの報告。 -/
def report (docs : Option String) (title : String) (es : List FieldError) : String :=
  let n := es.length
  let plural := if n == 1 then "" else "s"
  s!"{n} validation error{plural} for {title}\n" ++ "\n".intercalate (es.map (errorLines docs))

/-- 実行できる検証器。誤りの報告は、種類の説明の置き場所 `docs` を使う。 -/
def validator (docs : Option String) : Validator where
  str := str
  nonEmptyStr := nonEmptyStr
  int := intIn
  float := floatIn
  decimal := decimalIn
  bool := bool
  literal := literal
  list := listMin
  optional := optional
  members := members
  required := required
  withDefault := withDefault
  extras := extras
  valueError := valueError
  render := report docs

end CrossPool.Check
