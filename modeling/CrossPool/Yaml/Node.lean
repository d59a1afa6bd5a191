import CrossPool.Yaml.Event

/-!
# YAML の節の木

出来事の列を節の木にする。scalar のタグは、明示がなければ値から決める（`implicitTag`）。
集まりのタグは、明示がなければ列か写像の既定のもの。

錨のついた節は覚えておき、別名はその節の写しになる。錨の名前は節を読み始めたときに
覚え（同じ名前の二度目は誤り）、節そのものは読み終えたときに覚える。集まりには読み始めた
順の番号を付け、写しも同じ番号を持つ。番号が同じ節は同じ一つの集まりである。集まりの中から
読み終えていない外側の集まりを指す別名は、写しを作れないので、その番号を持つ `back` の節に
なる。文書を読み終えれば、錨のついた集まりの表（`Tree.anchored`）でその中身を引ける。

文書は一つだけ許す。二つ目の文書が始まれば誤り。
-/

namespace CrossPool.Yaml

/-- タグの名前。 -/
def tagPrefix : String := "tag:yaml.org,2002:"

/-- 節。集まりは番号 `serial` を持つ。 -/
inductive Node where
  | scalar (tag : String) (value : Text.Str) (start stop : Mark)
  | sequence (tag : String) (items : List Node) (start stop : Mark) (serial : Nat)
  | mapping (tag : String) (pairs : List (Node × Node)) (start stop : Mark) (serial : Nat)
  /-- 読み終えていない外側の集まりを指す別名。`shape` はその集まりの種類の名前。 -/
  | back (tag : String) (shape : String) (start : Mark) (serial : Nat)
  deriving Inhabited

namespace Node

/-- 節のタグ。 -/
def tag : Node → String
  | .scalar t .. | .sequence t .. | .mapping t .. | .back t .. => t

/-- 節の始まり。 -/
def start : Node → Mark
  | .scalar _ _ m _ | .sequence _ _ m _ _ | .mapping _ _ m _ _ | .back _ _ m _ => m

/-- 節の種類の名前。 -/
def id : Node → String
  | .scalar .. => "scalar"
  | .sequence .. => "sequence"
  | .mapping .. => "mapping"
  | .back _ shape _ _ => shape

/-- 集まりの番号。 -/
def serial? : Node → Option Nat
  | .sequence _ _ _ _ k | .mapping _ _ _ _ k | .back _ _ _ k => some k
  | .scalar .. => none

/-- タグを付け替える。 -/
def withTag (n : Node) (t : String) : Node :=
  match n with
  | .scalar _ v a b => .scalar t v a b
  | .sequence _ xs a b k => .sequence t xs a b k
  | .mapping _ ps a b k => .mapping t ps a b k
  | .back _ shape a k => .back t shape a k

/-- `back` の節を、錨のついた集まりの表 `table` で引いた中身にする。 -/
def resolve (table : List (Nat × Node)) (n : Node) : Node :=
  match n with
  | .back _ _ _ k => (table.lookup k).getD n
  | _ => n

end Node

/-- 文書の節の木と、錨のついた集まりの表（番号から節）。 -/
structure Tree where
  root : Node
  anchored : List (Nat × Node)

/-! ## 値からタグを決める -/

/-- 文字の並びの読み方。読み残しの候補をすべて返す。 -/
abbrev Pat := List Char → List (List Char)

namespace Pat

/-- 条件を満たす一文字。 -/
def one (p : Char → Bool) : Pat
  | c :: r => if p c then [r] else []
  | [] => []

/-- 決まった文字列。 -/
def word (w : String) : Pat := fun cs =>
  if w.toList.isPrefixOf cs then [cs.drop w.length] else []

/-- 続けて読む。 -/
def andThen (a b : Pat) : Pat := fun cs => (a cs).flatMap b

/-- どちらかで読む。 -/
def orElse (a b : Pat) : Pat := fun cs => a cs ++ b cs

/-- あってもなくてもよい。 -/
def opt (a : Pat) : Pat := fun cs => cs :: a cs

/-- 0 回以上の繰り返し。`a` は読むたびに一文字以上進むものとする。 -/
def many (a : Pat) : Pat := fun cs =>
  let rec go : Nat → List Char → List (List Char)
    | 0, cs => [cs]
    | n + 1, cs => cs :: (a cs).flatMap fun r => if r.length < cs.length then go n r else []
  go (cs.length + 1) cs

/-- 1 回以上の繰り返し。 -/
def many1 (a : Pat) : Pat := andThen a (many a)

/-- 全体を読み切るか。終わりの改行一つは残ってよい。 -/
def whole (p : Pat) (s : String) : Bool :=
  (p s.toList).any fun r => r.isEmpty || r == ['\n']

/-- 並べて読む。 -/
def seq : List Pat → Pat
  | [] => fun cs => [cs]
  | p :: ps => andThen p (seq ps)

/-- どれかで読む。 -/
def any : List Pat → Pat
  | [] => fun _ => []
  | p :: ps => orElse p (any ps)

end Pat

open Pat in
/-- 数字。 -/
def digit : Pat := one Char.isDigit

open Pat in
/-- 数字か `_`。 -/
def digitRun : Pat := many (one fun c => c.isDigit || c == '_')

open Pat in
/-- 符号。 -/
def sign : Pat := opt (one fun c => c == '-' || c == '+')

open Pat in
/-- 指数部。符号は必須。 -/
def exponent : Pat := opt (seq [one (fun c => c == 'e' || c == 'E'), one (fun c => c == '-' || c == '+'),
  many1 digit])

open Pat in
/-- 60 進の桁の並び（`:5`、`:59`）。 -/
def sexagesimal : Pat := many1 (seq [word ":", opt (one fun c => '0' ≤ c && c ≤ '5'), digit])

open Pat in
/-- 浮動小数点数の書き方。 -/
def floatPat : Pat := any [
  seq [sign, digit, digitRun, word ".", digitRun, exponent],
  seq [word ".", digit, digitRun, exponent],
  seq [sign, digit, digitRun, sexagesimal, word ".", digitRun],
  seq [sign, word ".", any [word "inf", word "Inf", word "INF"]],
  seq [word ".", any [word "nan", word "NaN", word "NAN"]]]

open Pat in
/-- 整数の書き方。 -/
def intPat : Pat := any [
  seq [sign, word "0b", many1 (one fun c => c == '0' || c == '1' || c == '_')],
  seq [sign, word "0", many1 (one fun c => ('0' ≤ c && c ≤ '7') || c == '_')],
  seq [sign, any [word "0", seq [one (fun c => '1' ≤ c && c ≤ '9'), digitRun]]],
  seq [sign, word "0x", many1 (one fun c => isHexChar c || c == '_')],
  seq [sign, one (fun c => '1' ≤ c && c ≤ '9'), digitRun, sexagesimal]]

open Pat in
/-- 日付と時刻の書き方。 -/
def timestampPat : Pat :=
  let d := digit
  let od := opt digit
  let blank := one fun c => c == ' ' || c == '\t'
  any [
    seq [d, d, d, d, word "-", d, d, word "-", d, d],
    seq [d, d, d, d, word "-", d, od, word "-", d, od,
      any [one (fun c => c == 'T' || c == 't'), many1 blank], d, od,
      word ":", d, d, word ":", d, d, opt (seq [word ".", many digit]),
      opt (seq [many blank, any [word "Z",
        seq [one (fun c => c == '-' || c == '+'), d, od, opt (seq [word ":", d, d])]]])]]

/-- 真偽値の綴り。 -/
def boolWords : List String :=
  ["yes", "Yes", "YES", "no", "No", "NO", "true", "True", "TRUE", "false", "False", "FALSE",
   "on", "On", "ON", "off", "Off", "OFF"]

/-- 末尾の改行一つを除いた綴りが `ws` のどれかか。 -/
def isWordOf (ws : List String) (s : String) : Bool :=
  ws.contains s || (s.endsWith "\n" && ws.contains (s.dropEnd 1).toString)

/-- タグのない scalar のタグを文字の値から決める。`plainImplicit` でなければ文字列。 -/
def implicitTextTag (value : String) (plainImplicit : Bool) : String :=
  if !plainImplicit then tagPrefix ++ "str"
  else if isWordOf boolWords value then tagPrefix ++ "bool"
  else if Pat.whole floatPat value then tagPrefix ++ "float"
  else if Pat.whole intPat value then tagPrefix ++ "int"
  else if isWordOf ["<<"] value then tagPrefix ++ "merge"
  else if isWordOf ["~", "null", "Null", "NULL", ""] value then tagPrefix ++ "null"
  else if Pat.whole timestampPat value then tagPrefix ++ "timestamp"
  else if isWordOf ["="] value then tagPrefix ++ "value"
  else tagPrefix ++ "str"

/-- タグのない scalar のタグを値から決める。サロゲートを含む値はどの型の綴りにも合わない
ので文字列。 -/
def implicitTag (value : Text.Str) (plainImplicit : Bool) : String :=
  match value.toString? with
  | some v => implicitTextTag v plainImplicit
  | none => tagPrefix ++ "str"

/-! ## 木を組む -/

/-- 錨のついた節。読んでいる途中なら、それを指す別名の節を持つ。 -/
inductive Anchored where
  | reading (stub : Node)
  | finished (n : Node)
  deriving Inhabited

/-- 木を組む段の状態。`serials` は次の集まりの番号。 -/
structure NodeReader where
  parser : EventReader
  current : Option Event
  anchors : List (String × Mark × Anchored)
  serials : Nat
  deriving Inhabited

/-- 木を組む一歩。 -/
abbrev NodeM := EStateM LoadError NodeReader

/-- 構文の一歩を木を組む一歩として行う。 -/
def liftEvents {α : Type} (x : EventM α) : NodeM α := fun c =>
  match x c.parser with
  | .ok a p => .ok a { c with parser := p }
  | .error e p => .error e { c with parser := p }

/-- 次の出来事を見る。 -/
def peekEvent : NodeM Event := do
  match (← get).current with
  | some e => return e
  | none =>
    let e ← liftEvents nextEvent
    modify fun c => { c with current := some e }
    return e

/-- 次の出来事を取る。 -/
def takeEvent : NodeM Event := do
  let e ← peekEvent
  modify fun c => { c with current := none }
  return e

/-- 木を組む誤りで止める。 -/
def nodeError {α : Type} (e : MarkedError) : NodeM α := throw (.marked e)

/-- 節に錨があれば、読み終えた節を覚える。 -/
def remember (anchor : Option String) (n : Node) : NodeM Unit :=
  match anchor with
  | some a => modify fun c => { c with
      anchors := c.anchors.map fun (b, m, old) =>
        if b == a then (b, m, .finished n) else (b, m, old) }
  | none => pure ()

/-- 燃料が尽きた。起こらないはずの誤り。 -/
def exhausted : LoadError := .foreign "RecursionError" "maximum recursion depth exceeded"

/-- 明示のタグか既定のタグ。 -/
def explicitOr (tag : Option String) (fallback : String) : String :=
  match tag with
  | some t => if t == "!" then fallback else t
  | none => fallback

/-- 次の集まりの番号を取る。 -/
def nextSerial : NodeM Nat := do
  let c ← get
  set { c with serials := c.serials + 1 }
  return c.serials

/-- 集まりの終わりか。 -/
def atCollectionEnd : NodeM Bool := do
  match (← peekEvent).kind with
  | .sequenceEnd | .mappingEnd => return true
  | _ => return false

mutual

/-- 節を一つ組む。 -/
def readNode : Nat → NodeM Node
  | 0 => throw exhausted
  | fuel + 1 => do
    let e ← peekEvent
    match e.kind with
    | .alias a =>
      let _ ← takeEvent
      match (← get).anchors.find? (·.1 == a) with
      | some (_, _, .finished n) => return n
      | some (_, _, .reading stub) => return stub
      | none => nodeError (.plain ("found undefined alias " ++ Data.quoteText a) e.start)
    | .scalar anchor tag plainImplicit value _ =>
      let t := match tag with
        | some t => if t == "!" then implicitTag value plainImplicit else t
        | none => implicitTag value plainImplicit
      let n := Node.scalar t value e.start e.stop
      checkAnchor anchor e.start n
      let _ ← takeEvent
      remember anchor n
      return n
    | .sequenceStart anchor tag _ =>
      let t := explicitOr tag (tagPrefix ++ "seq")
      let k ← nextSerial
      checkAnchor anchor e.start (.back t "sequence" e.start k)
      let _ ← takeEvent
      let items ← readItems fuel []
      let stop ← takeEvent
      let n := Node.sequence t items e.start stop.stop k
      remember anchor n
      return n
    | .mappingStart anchor tag _ =>
      let t := explicitOr tag (tagPrefix ++ "map")
      let k ← nextSerial
      checkAnchor anchor e.start (.back t "mapping" e.start k)
      let _ ← takeEvent
      let pairs ← readPairs fuel []
      let stop ← takeEvent
      let n := Node.mapping t pairs e.start stop.stop k
      remember anchor n
      return n
    | _ =>
      let _ ← takeEvent
      return Node.scalar (tagPrefix ++ "null") .empty e.start e.stop

/-- 列の項目を終わりまで組む。 -/
def readItems : Nat → List Node → NodeM (List Node)
  | 0, _ => throw exhausted
  | fuel + 1, acc => do
    if ← atCollectionEnd then return acc
    let n ← readNode fuel
    readItems fuel (acc ++ [n])

/-- 写像の組を終わりまで組む。 -/
def readPairs : Nat → List (Node × Node) → NodeM (List (Node × Node))
  | 0, _ => throw exhausted
  | fuel + 1, acc => do
    if ← atCollectionEnd then return acc
    let k ← readNode fuel
    let v ← readNode fuel
    readPairs fuel (acc ++ [(k, v)])

/-- 錨が二度使われていないかを確かめ、名前を覚える。`stub` は読み終えるまでの間に
この錨を指す別名の節。 -/
def checkAnchor (anchor : Option String) (m : Mark) (stub : Node) : NodeM Unit := do
  match anchor with
  | some a =>
    match (← get).anchors.find? (·.1 == a) with
    | some (_, first, _) =>
      nodeError (.within ("found duplicate anchor " ++ Data.quoteText a ++ "; first occurrence")
        first "second occurrence" m)
    | none => modify fun c => { c with anchors := (a, m, .reading stub) :: c.anchors }
  | none => pure ()

end

/-- 錨のついた集まりの表。 -/
def anchoredTable (anchors : List (String × Mark × Anchored)) : List (Nat × Node) :=
  anchors.filterMap fun (_, _, a) =>
    match a with
    | .finished n => n.serial?.map (·, n)
    | .reading _ => none

/-- 文書が一つだけの流れから、その文書の木を組む。空なら `none`。 -/
def readSingleDocument (fuel : Nat) : NodeM (Option Tree) := do
  let _ ← takeEvent
  let doc ← if (← peekEvent).kind matches .streamEnd then pure none
    else do
      let _ ← takeEvent
      let n ← readNode fuel
      let _ ← takeEvent
      let table := anchoredTable (← get).anchors
      modify fun c => { c with anchors := [] }
      pure (some (Tree.mk n table))
  if !((← peekEvent).kind matches .streamEnd) then
    let e ← takeEvent
    nodeError (.within "expected a single document in the stream"
      ((doc.map (·.root.start)).getD Mark.origin) "but found another document" e.start)
  let _ ← takeEvent
  return doc

end CrossPool.Yaml
