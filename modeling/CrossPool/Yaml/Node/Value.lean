import CrossPool.Yaml.Node
import CrossPool.Data.Value
import CrossPool.Data.Hash
import CrossPool.Decimal.Convert
import CrossPool.Decimal.Text
import CrossPool.Text.Numeral
import CrossPool.Text.Case

/-!
# YAML の木から値へ

安全な読み方で使えるタグだけを値にする。null、真偽値、整数、浮動小数点数、文字列、
日付と時刻、バイト列、列、写像、組の列、集合。ほかのタグは誤り。

* 整数 — `_` を除き、`0b` は 2 進、`0x` は 16 進、`0` で始まれば 8 進、`:` を含めば
  60 進。各部分は `Text.readInt` で読むので、ASCII でない数字や前後の空白も読める。
* 浮動小数点数 — `_` を除き小文字にして、`.inf`、`.nan`、60 進、10 進の順に読む。
  `.nan` は符号によらずどれも同じ一つの値を表す（`KeyIdentity`）。
  10 進の部分は `Text.floatText?` で読む。
* 日付と時刻 — `Stamp.parse?` で読み、欄の範囲を `Stamp.check` で検査する。
* バイト列（`binary`）— 字句を ASCII にしてから base64 として読む。字母にない文字は
  読み飛ばし、`=` の埋め草が揃えばそこで終わる。
* 写像 — `<<` の鍵の値（写像か写像の列）を先に並べてから自身の組を並べる。
  鍵が集まりなら誤り。同じ鍵は後の値で置き換える。値が等しい鍵のほか、同じ一つの
  値である鍵（別名で同じ節を指す鍵、`.nan` と綴った鍵どうし）も同じ鍵である。
* 組の列（`omap`、`pairs`）— 組が一つだけの写像の列を、鍵と値の組の列にする。
* 集合（`set`）— 写像として作り（値も作る）、その鍵を `Hash.setOrder` の順に並べる。

誤りは値を作る順に探す。まず根、次に根の直下の項目、その次にその下の項目と、
深さの順に一段ずつ進む。同じ番号の集まりは一度だけ作る。

自身を中に含む集まりがある文書は、集まりの表を作り、根を `Value.shared` で返す。
-/

namespace CrossPool.Yaml

open Data

/-! ## scalar -/

/-- 真偽値の綴り（小文字）と値。 -/
def boolValues : List (String × Bool) :=
  [("yes", true), ("no", false), ("true", true), ("false", false), ("on", true), ("off", false)]

/-- 値の変換の誤り。 -/
def foreignError {α : Type} (kind message : String) : Except LoadError α :=
  .error (.foreign kind message)

/-- 文字列を基数 `base` の整数として読む。読めなければ、字句の表記を 200 文字までに
切り詰めた誤り。 -/
def readInt (s : String) (base : Nat) : Except LoadError Int :=
  match Text.readInt s base with
  | .value i => .ok i
  | .tooManyDigits n => foreignError "ValueError"
    ("Exceeds the limit (4300 digits) for integer string conversion: value has " ++ toString n ++
      " digits; use sys.set_int_max_str_digits() to increase the limit")
  | .invalid => foreignError "ValueError"
    ("invalid literal for int() with base " ++ toString base ++ ": " ++
      String.ofList ((quoteText s).toList.take 200))

/-- 符号位置の列を基数 `base` の整数として読む。サロゲートを含めば数字ではないので、
字句の表記を 200 文字までに切り詰めた誤り。 -/
def readIntPart (s : Text.Str) (base : Nat) : Except LoadError Int :=
  match s.toString? with
  | some t => readInt t base
  | none => foreignError "ValueError"
    ("invalid literal for int() with base " ++ toString base ++ ": " ++
      String.ofList ((quoteStr s).toList.take 200))

/-- 符号を外す。 -/
def splitSign (s : Text.Str) : Except LoadError (Int × Text.Str) :=
  match s.points with
  | [] => foreignError "IndexError" "string index out of range"
  | .char '-' :: r => .ok (-1, ⟨r⟩)
  | .char '+' :: r => .ok (1, ⟨r⟩)
  | r => .ok (1, ⟨r⟩)

/-- 60 進の桁を合わせる。 -/
def sexagesimalInt (parts : List Int) : Int :=
  (parts.reverse.foldl (fun (acc, base) d => (acc + d * base, base * 60)) ((0 : Int), (1 : Int))).1

/-- 整数の scalar。 -/
def intValue (value : Text.Str) : Except LoadError Int := do
  let v := value.erase '_'
  let (sign, body) ← splitSign v
  if body == .ofString "0" then return 0
  else if body.startsWith "0b" then return sign * (← readIntPart (body.drop 2) 2)
  else if body.startsWith "0x" then return sign * (← readIntPart (body.drop 2) 16)
  else if body.startsWith "0" then return sign * (← readIntPart body 8)
  else if body.contains ':' then
    let parts ← (body.split ':').mapM fun p => readIntPart p 10
    return sign * sexagesimalInt parts
  else if body.isEmpty then foreignError "IndexError" "string index out of range"
  else return sign * (← readIntPart body 10)

/-- 文字列を浮動小数点数として読む。 -/
def readFloat (s : String) : Except LoadError Float :=
  match Text.floatText? s with
  | some x => .ok x
  | none => foreignError "ValueError" ("could not convert string to float: " ++ quoteText s)

/-- 符号位置の列を浮動小数点数として読む。サロゲートを含めば読めない。 -/
def readFloatPart (s : Text.Str) : Except LoadError Float :=
  match s.toString? with
  | some t => readFloat t
  | none => foreignError "ValueError" ("could not convert string to float: " ++ quoteStr s)

/-- 60 進の桁を浮動小数点数として合わせる。桁の重み `60^k` は整数のまま持ち、足すたびに
浮動小数点数にする。重みが浮動小数点数の範囲を超えれば、その桁が 0 でも `OverflowError`。 -/
def sexagesimalFloat (parts : List Float) : Except LoadError Float :=
  (parts.reverse.foldlM (fun (acc, base) d =>
    let b := Binary64.ofInt base
    if Binary64.isInfinite b then foreignError "OverflowError" "int too large to convert to float"
    else .ok (acc + d * b, base * 60)) ((0.0 : Float), (1 : Int))).map Prod.fst

/-- 小文字にする。サロゲートには大文字も小文字もないので、その両側を別々に小文字にする。 -/
def lowerStr (s : Text.Str) : Text.Str := s.mapRuns Text.lower

/-- 浮動小数点数の scalar。 -/
def floatValue (value : Text.Str) : Except LoadError Float := do
  let v := lowerStr (value.erase '_')
  let (sign, body) ← splitSign v
  let signed (x : Float) : Float := if sign < 0 then -x else x
  if body == .ofString ".inf" then return signed (Binary64.infinity false)
  else if body == .ofString ".nan" then return Binary64.nan
  else if body.contains ':' then
    let parts ← (body.split ':').mapM readFloatPart
    return signed (← sexagesimalFloat parts)
  else return signed (← readFloatPart body)

/-! ## バイト列 -/

/-- base64 の字母の文字の値。 -/
def base64Digit (c : Char) : Option Nat :=
  if 'A' ≤ c && c ≤ 'Z' then some (c.toNat - 'A'.toNat)
  else if 'a' ≤ c && c ≤ 'z' then some (c.toNat - 'a'.toNat + 26)
  else if '0' ≤ c && c ≤ '9' then some (c.toNat - '0'.toNat + 52)
  else if c == '+' then some 62
  else if c == '/' then some 63
  else none

/-- base64 を読む。`quad` は四文字の組の中の位置、`left` はまだ書いていないビット、
`pads` は続いた `=` の数、`out` は書いたバイト（逆順）。 -/
def decodeBase64 : List Char → Nat → Nat → Nat → List UInt8 → Except String (List UInt8)
  | [], quad, _, _, out =>
    if quad == 0 then .ok out.reverse
    else if quad == 1 then
      .error ("Invalid base64-encoded string: number of data characters (" ++
        toString (out.length / 3 * 4 + 1) ++ ") cannot be 1 more than a multiple of 4")
    else .error "Incorrect padding"
  | c :: rest, quad, left, pads, out =>
    if c == '=' then
      if 2 ≤ quad && 4 ≤ quad + pads + 1 then .ok out.reverse
      else decodeBase64 rest quad left (if 2 ≤ quad then pads + 1 else pads) out
    else
      match base64Digit c with
      | none => decodeBase64 rest quad left pads out
      | some d =>
        match quad with
        | 0 => decodeBase64 rest 1 d 0 out
        | 1 => decodeBase64 rest 2 (d % 16) 0 (UInt8.ofNat (4 * left + d / 16) :: out)
        | 2 => decodeBase64 rest 3 (d % 4) 0 (UInt8.ofNat (16 * left + d / 4) :: out)
        | _ => decodeBase64 rest 0 0 0 (UInt8.ofNat (64 * left + d) :: out)

/-- ASCII でない最初の符号位置の並びの位置、長さ、最初の符号位置の数。 -/
def nonAsciiRun (ns : List Nat) : Option (Nat × Nat × Nat) :=
  let i := (ns.takeWhile (· < 128)).length
  match ns.drop i with
  | [] => none
  | n :: r => some (i, 1 + (r.takeWhile (128 ≤ ·)).length, n)

/-- ASCII にできない符号位置の並びの誤りの文。`n` は最初の符号位置の数。 -/
def asciiError (pos len : Nat) (n : Nat) : String :=
  let what :=
    if len == 1 then
      "character '" ++ (if n < 0x100 then "\\x" ++ hexDigits n 2
        else if n < 0x10000 then "\\u" ++ hexDigits n 4 else "\\U" ++ hexDigits n 8) ++
        "' in position " ++ toString pos
    else "characters in position " ++ toString pos ++ "-" ++ toString (pos + len - 1)
  "'ascii' codec can't encode " ++ what ++ ": ordinal not in range(128)"

/-- バイト列の scalar。誤りは節の始まり `start` の位置で報せる。 -/
def binaryValue (value : Text.Str) (start : Mark) : Except LoadError Value :=
  let fail (msg : String) : Except LoadError Value := .error (.marked ⟨none, none, some msg, some start⟩)
  match nonAsciiRun value.codes with
  | some (pos, len, n) => fail ("failed to convert base64 data into ascii: " ++ asciiError pos len n)
  | none =>
    match decodeBase64 (value.points.filterMap Text.CodePoint.char?) 0 0 0 [] with
    | .ok b => .ok (.bytes b)
    | .error msg => fail ("failed to decode base64 data: " ++ msg)

/-! ## タグ -/

/-- 値を作れるタグの種類。 -/
inductive Builder where
  | scalar
  | binary
  | sequence
  | mapping
  /-- 組が一つだけの写像の列から組の列を作る。`context` は誤りの文脈の文。 -/
  | pairs (context : String)
  | set
  | undefined

/-- タグの種類。 -/
def builderOf (tag : String) : Builder :=
  if ["null", "bool", "int", "float", "str", "timestamp"].any (tagPrefix ++ · == tag) then .scalar
  else if tag == tagPrefix ++ "binary" then .binary
  else if tag == tagPrefix ++ "seq" then .sequence
  else if tag == tagPrefix ++ "map" then .mapping
  else if tag == tagPrefix ++ "omap" then .pairs "while constructing an ordered map"
  else if tag == tagPrefix ++ "pairs" then .pairs "while constructing pairs"
  else if tag == tagPrefix ++ "set" then .set
  else .undefined

/-- 集まりを作るタグか。 -/
def Builder.isCollection : Builder → Bool
  | .sequence | .mapping | .pairs _ | .set => true
  | _ => false

/-- scalar の値を作る。 -/
def scalarValue (tag : String) (value : Text.Str) : Except LoadError Value :=
  if tag == tagPrefix ++ "null" then .ok .null
  else if tag == tagPrefix ++ "bool" then
    match boolValues.find? (fun (w, _) => Text.Str.ofString w == lowerStr value) with
    | some (_, b) => .ok (.bool b)
    | none => foreignError "KeyError" (quoteStr (lowerStr value))
  else if tag == tagPrefix ++ "int" then .int <$> intValue value
  else if tag == tagPrefix ++ "float" then .float <$> floatValue value
  else if tag == tagPrefix ++ "timestamp" then
    match value.toString?.bind Stamp.parse? with
    | none => foreignError "AttributeError" "'NoneType' object has no attribute 'groupdict'"
    | some t =>
      match t.check with
      | some msg => foreignError "ValueError" msg
      | none => .ok (.stamp t)
  else .ok (.str value)

/-- 集まりでない節の値。 -/
def leafValue (n : Node) : Except LoadError Value :=
  match builderOf n.tag, n with
  | .scalar, .scalar t v _ _ => scalarValue t v
  | .binary, .scalar _ v start _ => binaryValue v start
  | _, _ => .error exhausted

/-! ## 値を作る段の状態 -/

/-- 値を作る段の状態。作り始めた集まりの番号と、`<<` を開いて書き換えた写像の組の列。 -/
structure Building where
  started : List Nat
  flattened : List (Nat × List (Node × Node))

/-- 状態を持って値を作る一歩。 -/
abbrev Construct := StateT Building (Except LoadError)

/-- 写像の節の今の組の列。書き換えていなければ節の組の列。 -/
def Building.pairsOf (st : Building) (n : Node) : List (Node × Node) :=
  match n with
  | .mapping _ ps _ _ k => (st.flattened.lookup k).getD ps
  | _ => []

/-- 写像の節の組の列を書き換える。 -/
def setPairs (n : Node) (ps : List (Node × Node)) : Construct Unit :=
  match n.serial? with
  | some k => modify fun st => { st with flattened := (k, ps) :: st.flattened.filter (·.1 != k) }
  | none => pure ()

/-! ## 写像の `<<` -/

/-- 写像の組の列の `<<` を開く。`index` から先の組を順に見て、`<<` の組は列から除き、
その値（写像か写像の列）の組を、その写像を先に開いてから `merge` に足す。列の写像は
後ろのものから足す。`=` の鍵は文字列の鍵にする。見終えたら `merge` を組の列の前に置く。

組の列は節ごとの状態として書き換える。`<<` の組は値の写像を開く前に除くので、自身を
指す `<<` は、除いたあとの自身を開くことになり止まる。 -/
def flattenFrom (table : List (Nat × Node)) :
    Nat → Node → Nat → List (Node × Node) → Construct Unit
  | 0, _, _, _ => throw exhausted
  | fuel + 1, n, index, merge => do
    let fail {α : Type} (problem : String) (m : Mark) : Construct α :=
      throw (.marked (.within "while constructing a mapping" n.start problem m))
    let ps := (← get).pairsOf n
    match ps[index]? with
    | none => if merge.isEmpty then pure () else setPairs n (merge ++ ps)
    | some (k, v) =>
      if k.tag == tagPrefix ++ "merge" then
        setPairs n (ps.eraseIdx index)
        match v.resolve table with
        | vn@(.mapping ..) =>
          flattenFrom table fuel vn 0 []
          flattenFrom table fuel n index (merge ++ (← get).pairsOf vn)
        | .sequence _ subs _ _ _ =>
          let parts ← subs.mapM fun sub => do
            match sub.resolve table with
            | sn@(.mapping ..) =>
              flattenFrom table fuel sn 0 []
              return (← get).pairsOf sn
            | other => fail ("expected a mapping for merging, but found " ++ other.id) other.start
          flattenFrom table fuel n index (merge ++ parts.reverse.flatten)
        | other =>
          fail ("expected a mapping or list of mappings for merging, but found " ++ other.id)
            other.start
      else if k.tag == tagPrefix ++ "value" then
        setPairs n (ps.set index (k.withTag (tagPrefix ++ "str"), v))
        flattenFrom table fuel n (index + 1) merge
      else flattenFrom table fuel n (index + 1) merge

/-! ## 誤りを作る順に探す -/

/-- 節の値を作り始める。集まりなら中身は後で作るので、その節を返す。既に作り始めた
集まりなら何もしない。 -/
def touch (table : List (Nat × Node)) (n : Node) : Construct (Option Node) := do
  let n := n.resolve table
  match builderOf n.tag, n with
  | .undefined, _ =>
    throw (.marked ⟨none, none, some ("could not determine a constructor for the tag " ++
      quoteText n.tag), some n.start⟩)
  | .scalar, .scalar .. | .binary, .scalar .. =>
    let _ ← leafValue n
    return none
  | .scalar, other | .binary, other =>
    throw (.marked (.plain ("expected a scalar node, but found " ++ other.id) other.start))
  | _, _ =>
    match n.serial? with
    | some k =>
      if (← get).started.contains k then return none
      modify fun st => { st with started := k :: st.started }
      return some n
    | none => return some n

/-- 写像の鍵を作り始める。集まりを作るタグなら、組の表の鍵にできないので誤り。 -/
def touchKey (table : List (Nat × Node)) (start : Mark) (k : Node) : Construct Unit := do
  let _ ← touch table k
  if (builderOf (k.resolve table).tag).isCollection then
    throw (.marked (.within "while constructing a mapping" start "found unhashable key" k.start))

/-- 集まりの中身を作り、その下の集まりを返す。写像は先に `<<` を開く。 -/
def expand (fuel : Nat) (table : List (Nat × Node)) (n : Node) : Construct (List Node) :=
  match builderOf n.tag, n with
  | .sequence, .sequence _ items _ _ _ => do
    let gs ← items.mapM (touch table)
    return gs.filterMap id
  | .sequence, other =>
    throw (.marked (.plain ("expected a sequence node, but found " ++ other.id) other.start))
  | .mapping, .mapping _ _ start _ _ | .set, .mapping _ _ start _ _ => do
    flattenFrom table fuel n 0 []
    ((← get).pairsOf n).foldlM (fun acc (k, v) => do
      touchKey table start k
      return acc ++ (← touch table v).toList) []
  | .mapping, other | .set, other =>
    throw (.marked (.plain ("expected a mapping node, but found " ++ other.id) other.start))
  | .pairs context, .sequence _ items start _ _ =>
    items.foldlM (fun acc sub => do
      match sub.resolve table with
      | .mapping _ [(k, v)] _ _ _ =>
        let a ← touch table k
        let b ← touch table v
        return acc ++ a.toList ++ b.toList
      | .mapping _ ps _ _ _ =>
        throw (.marked (.within context start
          ("expected a single mapping item, but found " ++ toString ps.length ++ " items") sub.start))
      | other =>
        throw (.marked (.within context start
          ("expected a mapping of length 1, but found " ++ other.id) other.start))) []
  | .pairs context, other =>
    throw (.marked (.within context other.start ("expected a sequence, but found " ++ other.id)
      other.start))
  | _, _ => return []

/-- 深さの順に一段ずつ中身を作る。 -/
def checkLevels (fuel : Nat) (table : List (Nat × Node)) : Nat → List Node → Construct Unit
  | 0, _ => return ()
  | _ + 1, [] => return ()
  | n + 1, level => do
    let next ← level.foldlM (fun acc g => do return acc ++ (← expand fuel table g)) []
    checkLevels fuel table n next

/-! ## 値を作る -/

/-- 浮動小数点数の字句が `.nan` か（`_` と大小と符号は問わない）。そのような字句は
どれも同じ一つの値になる。 -/
def isNanSpelling (value : Text.Str) : Bool :=
  match (lowerStr (value.erase '_')).points with
  | .char '-' :: r | .char '+' :: r => Text.Str.mk r == .ofString ".nan"
  | r => Text.Str.mk r == .ofString ".nan"

/-- 鍵の値が同じ一つのものかを見分ける印。等しくない値（NaN）でも、同じ一つのものなら
同じ鍵である。 -/
inductive KeyIdentity where
  /-- `.nan` と綴った値。どこに現れても同じ一つのもの。 -/
  | sharedNan
  /-- 始まりの位置 `index` の scalar の節の値。別名の写しは元の節と同じ位置を持つ。 -/
  | scalarAt (index : Nat)
  /-- 同一性では比べないもの。 -/
  | unrelated
  deriving DecidableEq

/-- 鍵の節の印。 -/
def keyIdentity : Node → KeyIdentity
  | .scalar t v start _ =>
    if t == tagPrefix ++ "float" && isNanSpelling v then .sharedNan else .scalarAt start.index
  | _ => .unrelated

/-- 鍵が同じか。値が等しいか、同じ一つのものか。 -/
def sameEntry (a b : KeyIdentity × Value) : Bool :=
  Value.sameKey a.2 b.2 || (a.1 != .unrelated && a.1 == b.1)

/-- 写像の組の列から、同じ鍵は後の値で置き換えた組の列を作る。鍵の位置は最初のまま。 -/
def insertAll (f : Node → Except LoadError Value) (ps : List (Node × Node)) :
    Except LoadError (List (Value × Value)) := do
  let entries ← ps.foldlM (fun (acc : List ((KeyIdentity × Value) × Value)) (k, v) => do
      let key := (keyIdentity k, ← f k)
      let x ← f v
      if acc.any (sameEntry ·.1 key) then
        return acc.map fun e => if sameEntry e.1 key then (e.1, x) else e
      else return acc ++ [(key, x)]) []
  return entries.map fun (key, x) => (key.2, x)

/-- 節の値。誤りは `checkLevels` が先に見つけていて、写像の `<<` は `st` の中で開いてある。 -/
def build (table : List (Nat × Node)) (st : Building) : Nat → Node → Except LoadError Value
  | 0, _ => .error exhausted
  | fuel + 1, n =>
    match builderOf n.tag, n with
    | .sequence, .sequence _ items _ _ _ => .list <$> items.mapM (build table st fuel)
    | .pairs _, .sequence _ items _ _ _ => .list <$> items.mapM fun sub =>
        match sub with
        | .mapping _ [(k, v)] _ _ _ => do
          return .tuple [← build table st fuel k, ← build table st fuel v]
        | _ => .error exhausted
    | .mapping, .mapping .. => .map <$> insertAll (build table st fuel) (st.pairsOf n)
    | .set, .mapping .. => do
      let kvs ← insertAll (build table st fuel) (st.pairsOf n)
      return .set (Hash.setOrder (kvs.map Prod.fst))
    | _, _ => leafValue n

/-! ## 自身を含む集まり -/

/-- 木に `back` の節があるか。 -/
def hasBack : Nat → Node → Bool
  | 0, _ => false
  | fuel + 1, n =>
    match n with
    | .back .. => true
    | .sequence _ items _ _ _ => items.any (hasBack fuel)
    | .mapping _ pairs _ _ _ => pairs.any fun (k, v) => hasBack fuel k || hasBack fuel v
    | .scalar .. => false

/-- 根から届く集まりを番号とともに集める。同じ番号は最初のものだけ。写像は `<<` を
開いたあとの組の列をたどる。 -/
def collect (table : List (Nat × Node)) (st : Building) :
    Nat → Node → List (Nat × Node) → List (Nat × Node)
  | 0, _, acc => acc
  | fuel + 1, n, acc =>
    let n := n.resolve table
    match n.serial? with
    | none => acc
    | some k =>
      if acc.any (·.1 == k) then acc
      else
        let acc := acc ++ [(k, n)]
        match n with
        | .sequence _ items _ _ _ => items.foldl (fun a c => collect table st fuel c a) acc
        | .mapping .. =>
          (st.pairsOf n).foldl (fun a (x, y) => collect table st fuel y (collect table st fuel x a)) acc
        | _ => acc

/-- 集まりの表の中の子の値。集まりは番号で指す。 -/
def linkOf (table : List (Nat × Node)) (n : Node) : Except LoadError Value :=
  let n := n.resolve table
  if (builderOf n.tag).isCollection then
    match n.serial? with
    | some k => .ok (.ref k)
    | none => .error exhausted
  else leafValue n

/-- 集まりの表の項目。子の集まりは番号で指す。 -/
def bodyOf (table : List (Nat × Node)) (st : Building) (n : Node) : Except LoadError Value :=
  match builderOf n.tag, n with
  | .sequence, .sequence _ items _ _ _ => .list <$> items.mapM (linkOf table)
  | .pairs _, .sequence _ items _ _ _ => .list <$> items.mapM fun sub =>
      match sub.resolve table with
      | .mapping _ [(k, v)] _ _ _ => do return .tuple [← linkOf table k, ← linkOf table v]
      | _ => .error exhausted
  | .mapping, .mapping .. => .map <$> insertAll (linkOf table) (st.pairsOf n)
  | .set, .mapping .. => do
    let kvs ← insertAll (linkOf table) (st.pairsOf n)
    return .set (Hash.setOrder (kvs.map Prod.fst))
  | _, _ => .error exhausted

/-- 自身を含む集まりのある木の値。集まりの表を作り、根をその表の項目として返す。 -/
def sharedValue (fuel : Nat) (t : Tree) (st : Building) : Except LoadError Value := do
  let found := collect t.anchored st fuel t.root []
  let size := found.foldl (fun m (k, _) => max m (k + 1)) 0
  let nodes ← (List.range size).mapM fun k =>
    match found.lookup k with
    | some n => bodyOf t.anchored st n
    | none => .ok .null
  match ← linkOf t.anchored t.root with
  | .ref k => return .shared nodes k
  | v => return v

/-- 節の木の値。 -/
def valueOf (fuel : Nat) (t : Tree) : Except LoadError Value := do
  let check : Construct Unit := do
    match ← touch t.anchored t.root with
    | some g => checkLevels fuel t.anchored fuel [g]
    | none => pure ()
  let ((), st) ← check.run ⟨[], []⟩
  if hasBack fuel t.root then sharedValue fuel t st else build t.anchored st fuel t.root

end CrossPool.Yaml
