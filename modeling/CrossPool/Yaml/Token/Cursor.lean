import CrossPool.Yaml.Token

/-!
# YAML の字句読みの状態

字句読みは文書を一文字ずつ進み、字句を列に溜める。構文の段が字句を求めるたびに、
先頭の字句がもう単純な鍵の前に置かれることがなくなるまで読み進める。

状態は次のものからなる。

* 今の位置、流れの深さ（`[` と `{` の入れ子）、字下げの段の積み重ね。
* 単純な鍵の候補。流れの深さごとに一つで、`:` が来れば候補の位置に
  `KEY`（必要なら `BLOCK-MAPPING-START`）を差し込む。行が変わるか 1024 文字離れると
  候補は消え、必須の候補なら誤り。
* 文書の終わりより先は `'\x00'` として読む。
* 読み手が確かめた文字数。読み手は初めに `initialChunk` 文字を、その先は
  `chunkSize` 文字ずつ、字句読みが必要とするところまで読み足して、使えない文字が
  ないかを確かめる（`demand`）。使えない文字の誤りは、その文字を読み足した時に起きる。

## 停止性

繰り返しはどれも残りの文字数に 1 を足した燃料で回す。どの繰り返しも一回で一文字以上
進むか、文書の終わりで止まる。
-/

namespace CrossPool.Yaml

/-- 単純な鍵の候補。 -/
structure KeyCandidate where
  tokenNumber : Nat
  required : Bool
  mark : Mark
  deriving Inhabited

/-- 字句読みの状態。 -/
structure Lexer where
  text : Array Char
  mark : Mark
  done : Bool
  flowLevel : Nat
  tokens : List Token
  tokensTaken : Nat
  indent : Int
  indents : List Int
  allowSimpleKey : Bool
  pendingKeys : List (Nat × KeyCandidate)
  /-- 読み手が使えない文字がないことを確かめた、先頭からの文字数。 -/
  checked : Nat
  /-- 最初の使えない文字の位置と符号。 -/
  flaw : Option (Nat × Nat)
  deriving Inhabited

/-- 字句読みの一歩。 -/
abbrev LexM := EStateM LoadError Lexer

/-! ## 文字の種類 -/

/-- 改行。 -/
def isBreak (c : Char) : Bool :=
  c == '\r' || c == '\n' || c == '\x85' || c == '\u2028' || c == '\u2029'

/-- 改行か文書の終わり。 -/
def isBreakZ (c : Char) : Bool := c == '\x00' || isBreak c

/-- 空白、タブ、改行、文書の終わり。 -/
def isBlankZ (c : Char) : Bool := c == ' ' || c == '\t' || isBreakZ c

/-- 空白、改行、文書の終わり。 -/
def isSpaceZ (c : Char) : Bool := c == ' ' || isBreakZ c

/-- 名前に使える文字。英数字と `-`、`_`。 -/
def isWordChar (c : Char) : Bool :=
  ('0' ≤ c && c ≤ '9') || ('A' ≤ c && c ≤ 'Z') || ('a' ≤ c && c ≤ 'z') || c == '-' || c == '_'

/-- 16 進の桁。 -/
def isHexChar (c : Char) : Bool :=
  ('0' ≤ c && c ≤ '9') || ('A' ≤ c && c ≤ 'F') || ('a' ≤ c && c ≤ 'f')

/-- 16 進の桁の値。 -/
def hexValue (c : Char) : Nat :=
  if '0' ≤ c && c ≤ '9' then c.toNat - '0'.toNat
  else if 'A' ≤ c && c ≤ 'F' then c.toNat - 'A'.toNat + 10
  else c.toNat - 'a'.toNat + 10

/-- 16 進の桁の列の値。 -/
def hexNumber (cs : List Char) : Nat := cs.foldl (fun n c => 16 * n + hexValue c) 0

/-! ## 読む位置 -/

/-- 一文字進んだ位置。改行で行を進め、BOM では桁を進めない。 -/
def advanceMark (m : Mark) (c next : Char) : Mark :=
  if c == '\n' || c == '\x85' || c == '\u2028' || c == '\u2029' || (c == '\r' && next != '\n') then
    ⟨m.index + 1, m.line + 1, 0⟩
  else if c == '\uFEFF' then { m with index := m.index + 1 }
  else { m with index := m.index + 1, column := m.column + 1 }

/-- 位置 `i` の文字。文書の外は `'\x00'`。 -/
def charAt (s : Lexer) (i : Nat) : Char := s.text.getD i '\x00'

/-- 読み手が一度に読み足す文字数。 -/
def chunkSize : Nat := 4096

/-- 読み始めに読み手が確かめる文字数。 -/
def initialChunk : Nat := 2 * chunkSize

/-- 位置 `need` の手前までの文字を使う。まだ確かめていなければ、読み手は `chunkSize`
ずつ読み足して確かめ、読み足した中に使えない文字があればその位置で誤りになる。 -/
def demand (need : Nat) : LexM Unit := do
  let s ← get
  if need ≤ s.checked || s.text.size ≤ s.checked then return
  let checked := min s.text.size
    (s.checked + (need - s.checked + chunkSize - 1) / chunkSize * chunkSize)
  if let some (p, code) := s.flaw then
    if p < checked then throw (.unacceptable p code)
  set { s with checked }

/-- 今の位置から `k` 先の文字。 -/
def peekAt (k : Nat) : LexM Char := do
  let s ← get
  demand (s.mark.index + k + 1)
  return charAt s (s.mark.index + k)

/-- 今の位置の文字。 -/
def peek : LexM Char := peekAt 0

/-- 今の位置。 -/
def here : LexM Mark := do return (← get).mark

/-- 今の位置から `n` 文字。 -/
def prefixText (n : Nat) : LexM String := do
  let s ← get
  let i := s.mark.index
  demand (i + n)
  return String.ofList ((s.text.extract i (i + n)).toList)

/-- `n` 文字進んだ位置。文書の終わりでは止まる。 -/
def stepMark (s : Lexer) : Nat → Mark → Mark
  | 0, m => m
  | n + 1, m =>
    if m.index < s.text.size then
      stepMark s n (advanceMark m (charAt s m.index) (charAt s (m.index + 1)))
    else m

/-- `n` 文字進む。 -/
def forward (n : Nat) : LexM Unit := do
  demand ((← get).mark.index + n + 1)
  modify fun s => { s with mark := stepMark s n s.mark }

/-- 繰り返しの燃料。残りの文字数に 1 を足したもの。 -/
def budget : LexM Nat := do
  let s ← get
  return s.text.size - s.mark.index + 1

/-- 今の位置から `p` を満たす文字が続く長さ。 -/
def runLength (p : Char → Bool) (start : Nat) : LexM Nat := do
  let s ← get
  let rec go : Nat → Nat → Nat
    | 0, k => k
    | fuel + 1, k => if p (charAt s (s.mark.index + k)) then go fuel (k + 1) else k
  let n := go (s.text.size + 1) start
  demand (s.mark.index + n + 1)
  return n

/-- `p` を満たす文字を読み飛ばす。 -/
def skipWhile (p : Char → Bool) : LexM Unit := do
  let n ← runLength p 0
  forward n

/-- 改行を一つ読む。`\r\n`、`\r`、`\n`、`\x85` は `\n` に、行と段落の区切りはそのまま。
改行でなければ空。 -/
def lineBreak : LexM String := do
  let c ← peek
  if c == '\r' || c == '\n' || c == '\x85' then
    if c == '\r' && (← peekAt 1) == '\n' then forward 2 else forward 1
    return "\n"
  else if c == '\u2028' || c == '\u2029' then
    forward 1
    return String.singleton c
  else return ""

/-- 今の位置が文書の区切り（行頭の `---` か `...` に空白が続く）か。 -/
def atDocumentSeparator : LexM Bool := do
  let p ← prefixText 3
  return (p == "---" || p == "...") && isBlankZ (← peekAt 3)

/-- 誤りで止める。 -/
def lexError {α : Type} (e : MarkedError) : LexM α := throw (.marked e)

/-! ## 字句の列 -/

/-- 字句を列の後ろに足す。 -/
def pushToken (t : Token) : LexM Unit :=
  modify fun s => { s with tokens := s.tokens ++ [t] }

/-- 列の `i` 番目に字句を差し込む。 -/
def insertAt (i : Nat) (t : Token) : List Token → List Token
  | [] => [t]
  | x :: xs => match i with
    | 0 => t :: x :: xs
    | j + 1 => x :: insertAt j t xs

/-! ## 字下げ -/

/-- 字下げの段を `column` まで戻し、戻した段ごとに `BLOCK-END` を足す。流れの中では
何もしない。 -/
def closeBlocks (column : Int) : LexM Unit := do
  let s ← get
  if s.flowLevel != 0 then return
  let rec go : List Int → Int → List Token → Nat → Int × List Int × List Token
    | stack, ind, acc, 0 => (ind, stack, acc)
    | stack, ind, acc, fuel + 1 =>
      if column < ind then
        match stack with
        | top :: rest => go rest top (acc ++ [⟨.blockEnd, s.mark, s.mark⟩]) fuel
        | [] => (ind, stack, acc)
      else (ind, stack, acc)
  let (ind, stack, ends) := go s.indents s.indent [] (s.indents.length + 1)
  set { s with indent := ind, indents := stack, tokens := s.tokens ++ ends }

/-- 字下げが深まるなら段を積んで真。 -/
def openIndent (column : Int) : LexM Bool := do
  let s ← get
  if s.indent < column then
    set { s with indents := s.indent :: s.indents, indent := column }
    return true
  else return false

/-! ## 単純な鍵の候補 -/

/-- 見つからない `:` の誤り。 -/
def missingColon (key : KeyCandidate) (m : Mark) : MarkedError :=
  .within "while scanning a simple key" key.mark "could not find expected ':'" m

/-- 古くなった候補を消す。必須の候補が古くなれば誤り。 -/
def dropStaleKeys : LexM Unit := do
  let s ← get
  let stale (k : KeyCandidate) : Bool :=
    k.mark.line != s.mark.line || s.mark.index - k.mark.index > 1024
  match s.pendingKeys.find? fun (_, k) => stale k && k.required with
  | some (_, k) => lexError (missingColon k s.mark)
  | none => set { s with pendingKeys := s.pendingKeys.filter fun (_, k) => !stale k }

/-- 最も早い候補の字句の番号。 -/
def earliestKey (s : Lexer) : Option Nat :=
  s.pendingKeys.foldl (fun acc (_, k) => match acc with
    | some n => some (Nat.min n k.tokenNumber)
    | none => some k.tokenNumber) none

/-- 今の深さの候補を消す。必須の候補なら誤り。 -/
def forgetKey : LexM Unit := do
  let s ← get
  match s.pendingKeys.find? fun p => p.1 == s.flowLevel with
  | some (_, k) =>
    if k.required then lexError (missingColon k s.mark)
    set { s with pendingKeys := s.pendingKeys.filter fun (p : Nat × KeyCandidate) => p.1 != s.flowLevel }
  | none => pure ()

/-- 今の位置を単純な鍵の候補として覚える。 -/
def rememberKey : LexM Unit := do
  let s ← get
  let required := s.flowLevel == 0 && s.indent == (s.mark.column : Int)
  if s.allowSimpleKey then
    forgetKey
    let s ← get
    let key : KeyCandidate := ⟨s.tokensTaken + s.tokens.length, required, s.mark⟩
    set { s with pendingKeys :=
      (s.pendingKeys.filter fun (p : Nat × KeyCandidate) => p.1 != s.flowLevel) ++ [(s.flowLevel, key)] }

/-- 単純な鍵を許すかを決める。 -/
def allowKeys (b : Bool) : LexM Unit := modify fun s => { s with allowSimpleKey := b }

end CrossPool.Yaml
