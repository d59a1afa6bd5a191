import CrossPool.Yaml.Token.Cursor

/-!
# YAML の scalar の字句

三つの書き方の scalar を読む。

* 素の scalar — 空白、改行、`: `、`#` の前で区切る。流れの中では `,[]{}` でも区切り、
  `:` の後が `,[]{}` でも区切る。次の行へ続くのは、字下げが鍵より深いとき。行を
  またぐ改行は空白一つに、空行は改行になる。
* 引用符の scalar — `'...'` では `''` が `'`。`"..."` では `\` の escape を読む。
  行をまたぐ規則は素の scalar と同じ。文書の区切りや文書の終わりに達すれば誤り。
* ブロックの scalar — `|` は改行をそのまま、`>` は字下げの揃った行の間の改行を空白に
  する。`+` は末尾の空行を残し、`-` は末尾の改行も落とす。字下げは指示子の数か、
  最初の空でない行で決まる。
-/

namespace CrossPool.Yaml

/-- 燃料つきの繰り返し。`step` は次の値と、続けるかを返す。 -/
def loopScan {α : Type} (step : α → LexM (α × Bool)) : Nat → α → LexM α
  | 0, a => pure a
  | fuel + 1, a => do
    let (a', more) ← step a
    if more then loopScan step fuel a' else pure a'

/-- 残りの文字数に見合う燃料で回す。 -/
def iterate {α : Type} (step : α → LexM (α × Bool)) (a : α) : LexM α := do
  loopScan step (← budget) a

/-! ## 素の scalar -/

/-- 空行の並び。文書の区切りに達すれば `none`。 -/
def plainBreaks : LexM (Option (List String)) :=
  iterate (fun acc => match acc with
    | none => pure (none, false)
    | some breaks => do
      let c ← peek
      if c == ' ' then
        forward 1
        return (some breaks, true)
      else if isBreak c then
        let b ← lineBreak
        if ← atDocumentSeparator then return (none, false)
        return (some (breaks ++ [b]), true)
      else return (some breaks, false)) (some [])

/-- 素の scalar の語の間の空白と改行。続かないなら空。 -/
def plainSpaces : LexM (List String) := do
  let n ← runLength (· == ' ') 0
  let ws ← prefixText n
  forward n
  if isBreak (← peek) then
    let b ← lineBreak
    allowKeys true
    if ← atDocumentSeparator then return []
    match ← plainBreaks with
    | none => return []
    | some breaks =>
      let head := if b != "\n" then [b] else if breaks.isEmpty then [" "] else []
      return head ++ breaks
  else if ws.isEmpty then return []
  else return [ws]

/-- 素の scalar の語が `k` 文字目で終わるか。 -/
def plainStops (s : Lexer) (k : Nat) : Bool :=
  let c := charAt s (s.mark.index + k)
  let next := charAt s (s.mark.index + k + 1)
  let flow := s.flowLevel != 0
  isBlankZ c ||
    (c == ':' && (isBlankZ next || (flow && ",[]\x7b\x7d".contains next))) ||
    (flow && ",?[]\x7b\x7d".contains c)

/-- 素の scalar の語の長さ。 -/
def plainLength : LexM Nat := do
  let s ← get
  let rec go : Nat → Nat → Nat
    | 0, k => k
    | fuel + 1, k => if plainStops s k then k else go fuel (k + 1)
  let n := go (s.text.size + 1) 0
  demand (s.mark.index + n + (if charAt s (s.mark.index + n) == ':' then 2 else 1))
  return n

/-- 素の scalar を読む。 -/
def lexPlain : LexM Token := do
  let start ← here
  let s ← get
  let indent : Int := s.indent + 1
  let flow := s.flowLevel != 0
  let (chunks, _, stop) ← iterate (fun (chunks, spaces, stop) => do
    if (← peek) == '#' then return ((chunks, spaces, stop), false)
    let n ← plainLength
    if n == 0 then return ((chunks, spaces, stop), false)
    allowKeys false
    let word ← prefixText n
    forward n
    let stop ← here
    let spaces' ← plainSpaces
    let chunks := chunks ++ spaces ++ [word]
    let col : Int := (← here).column
    let more := !(spaces'.isEmpty || (← peek) == '#' || (!flow && col < indent))
    return ((chunks, spaces', stop), more)) ([], [], start)
  return ⟨.scalar (.ofString (String.join chunks)) true none, start, stop⟩

/-! ## 引用符の scalar -/

/-- `\` の後の一文字の escape。 -/
def escapeReplacement (c : Char) : Option Char :=
  match c with
  | '0' => some '\x00'
  | 'a' => some '\x07'
  | 'b' => some '\x08'
  | 't' => some '\t'
  | '\t' => some '\t'
  | 'n' => some '\n'
  | 'v' => some '\x0b'
  | 'f' => some '\x0c'
  | 'r' => some '\r'
  | 'e' => some '\x1b'
  | ' ' => some ' '
  | '"' => some '"'
  | '\\' => some '\\'
  | '/' => some '/'
  | 'N' => some '\x85'
  | '_' => some '\xa0'
  | 'L' => some '\u2028'
  | 'P' => some '\u2029'
  | _ => none

/-- 16 進の escape の桁数。 -/
def escapeCodeLength (c : Char) : Option Nat :=
  match c with
  | 'x' => some 2
  | 'u' => some 4
  | 'U' => some 8
  | _ => none

/-- 引用符の scalar の中の改行の並び。文書の区切りに達すれば誤り。 -/
def quotedBreaks (start : Mark) : LexM (List String) :=
  iterate (fun chunks => do
    if ← atDocumentSeparator then
      lexError (.within "while scanning a quoted scalar" start
        "found unexpected document separator" (← here))
    skipWhile fun c => c == ' ' || c == '\t'
    if isBreak (← peek) then
      let b ← lineBreak
      return (chunks ++ [b], true)
    return (chunks, false)) []

/-- 引用符の scalar の中の `\` の escape を読む。`\` は読み終えている。16 進の escape は
符号位置を一つ作り、サロゲートの範囲なら単独のサロゲートになる。 -/
def quotedEscape (start : Mark) : LexM (List Text.Str) := do
  let c ← peek
  match escapeReplacement c, escapeCodeLength c with
  | some r, _ =>
    forward 1
    return [.ofString (String.singleton r)]
  | none, some n =>
    forward 1
    for k in List.range n do
      let d ← peekAt k
      if !isHexChar d then
        lexError (.within "while scanning a double-quoted scalar" start
          ("expected escape sequence of " ++ toString n ++
            " hexadecimal numbers, but found " ++ charText d) (← here))
    let code := hexNumber (← prefixText n).toList
    if Nat.pow 2 31 ≤ code then
      throw (.foreign "OverflowError" "Python int too large to convert to C int")
    if code > 0x10FFFF then throw (.foreign "ValueError" "chr() arg not in range(0x110000)")
    forward n
    return [⟨[.ofCode code]⟩]
  | none, none =>
    if isBreak c then
      let _ ← lineBreak
      return (← quotedBreaks start).map .ofString
    else
      lexError (.within "while scanning a double-quoted scalar" start
        ("found unknown escape character " ++ charText c) (← here))

/-- 引用符の scalar の中の、空白でない部分。 -/
def quotedRun (double : Bool) (start : Mark) : LexM (List Text.Str) :=
  iterate (fun chunks => do
    let n ← runLength (fun c => !("'\"\\ \t".contains c || isBreakZ c)) 0
    let word ← prefixText n
    forward n
    let chunks := if n == 0 then chunks else chunks ++ [.ofString word]
    let c ← peek
    if !double && c == '\'' && (← peekAt 1) == '\'' then
      forward 2
      return (chunks ++ [.ofString "'"], true)
    else if (double && c == '\'') || (!double && (c == '"' || c == '\\')) then
      forward 1
      return (chunks ++ [.ofString (String.singleton c)], true)
    else if double && c == '\\' then
      forward 1
      return (chunks ++ (← quotedEscape start), true)
    else return (chunks, false)) []

/-- 引用符の scalar の中の空白と改行。 -/
def quotedSpaces (start : Mark) : LexM (List String) := do
  let n ← runLength (fun c => c == ' ' || c == '\t') 0
  let ws ← prefixText n
  forward n
  let c ← peek
  if c == '\x00' then
    lexError (.within "while scanning a quoted scalar" start
      "found unexpected end of stream" (← here))
  else if isBreak c then
    let b ← lineBreak
    let breaks ← quotedBreaks start
    let head := if b != "\n" then [b] else if breaks.isEmpty then [" "] else []
    return head ++ breaks
  else return [ws]

/-- 引用符の scalar を読む。 -/
def lexQuoted (double : Bool) : LexM Token := do
  let start ← here
  let quote ← peek
  forward 1
  let first ← quotedRun double start
  let chunks ← iterate (fun chunks => do
    if (← peek) == quote then return (chunks, false)
    let sp ← quotedSpaces start
    let ns ← quotedRun double start
    return (chunks ++ sp.map .ofString ++ ns, true)) first
  forward 1
  let stop ← here
  return ⟨.scalar ⟨(chunks.map (·.points)).flatten⟩ false (some quote), start, stop⟩

/-! ## ブロックの scalar -/

/-- ブロックの scalar の指示子の誤り。 -/
def blockError {α : Type} (start : Mark) (problem : String) : LexM α := do
  lexError (.within "while scanning a block scalar" start problem (← here))

/-- 字下げの指示子の数字を読む。 -/
def indentIndicator (start : Mark) : LexM (Option Nat) := do
  let c ← peek
  if '0' ≤ c && c ≤ '9' then
    if c == '0' then
      blockError start "expected indentation indicator in the range 1-9, but found 0"
    forward 1
    return some (c.toNat - '0'.toNat)
  else return none

/-- 末尾の扱いの指示子を読む。`+` は真、`-` は偽。 -/
def chompIndicator : LexM (Option Bool) := do
  let c ← peek
  if c == '+' || c == '-' then
    forward 1
    return some (c == '+')
  else return none

/-- 見出しの指示子を読む。 -/
def blockIndicators (start : Mark) : LexM (Option Bool × Option Nat) := do
  let c ← peek
  let (chomping, increment) ← if c == '+' || c == '-' then do
      let ch ← chompIndicator
      pure (ch, ← indentIndicator start)
    else do
      let inc ← indentIndicator start
      if inc.isSome then pure (← chompIndicator, inc) else pure (none, none)
  let c ← peek
  if !isSpaceZ c then
    blockError start ("expected chomping or indentation indicators, but found " ++ charText c)
  return (chomping, increment)

/-- 見出しの行の残り。空白と注釈のほかは誤り。 -/
def blockHeaderRest (start : Mark) : LexM Unit := do
  skipWhile (· == ' ')
  if (← peek) == '#' then skipWhile fun c => !isBreakZ c
  let c ← peek
  if !isBreakZ c then
    blockError start ("expected a comment or a line break, but found " ++ charText c)
  let _ ← lineBreak

/-- 最初の空でない行までの改行と、そこまでの最も深い字下げ。 -/
def blockFirstIndent : LexM (List String × Nat × Mark) := do
  let m ← here
  iterate (fun (chunks, maxIndent, stop) => do
    let c ← peek
    if c == ' ' then
      forward 1
      let col := (← here).column
      return ((chunks, Nat.max maxIndent col, stop), true)
    else if isBreak c then
      let b ← lineBreak
      return ((chunks ++ [b], maxIndent, ← here), true)
    else return ((chunks, maxIndent, stop), false)) ([], 0, m)

/-- 字下げ `indent` までの空白を読み飛ばす。 -/
def skipIndent (indent : Nat) : LexM Unit :=
  iterate (fun () => do
    if (← here).column < indent && (← peek) == ' ' then
      forward 1
      return ((), true)
    return ((), false)) ()

/-- ブロックの scalar の中の空行の並び。 -/
def blockEmptyLines (indent : Nat) : LexM (List String × Mark) := do
  let m ← here
  skipIndent indent
  iterate (fun (chunks, stop) => do
    if isBreak (← peek) then
      let b ← lineBreak
      let stop ← here
      skipIndent indent
      return ((chunks ++ [b], stop), true)
    return ((chunks, stop), false)) ([], m)

/-- ブロックの scalar を読む。 -/
def lexBlockScalar (folded : Bool) : LexM Token := do
  let start ← here
  forward 1
  let (chomping, increment) ← blockIndicators start
  blockHeaderRest start
  let s ← get
  let minIndent : Nat := if s.indent + 1 < 1 then 1 else (s.indent + 1).toNat
  let (breaks, indent, stop) ← match increment with
    | none => do
      let (breaks, maxIndent, stop) ← blockFirstIndent
      pure (breaks, Nat.max minIndent maxIndent, stop)
    | some inc => do
      let indent := minIndent + inc - 1
      let (breaks, stop) ← blockEmptyLines indent
      pure (breaks, indent, stop)
  let atLine : LexM Bool := do
    return (← here).column == indent && (← peek) != '\x00'
  let (chunks, lastBreak, breaks, stop) ← iterate (fun (chunks, lastBreak, breaks, stop) => do
    if !(← atLine) then return ((chunks, lastBreak, breaks, stop), false)
    let leadingNonSpace := !((← peek) == ' ' || (← peek) == '\t')
    let n ← runLength (fun c => !isBreakZ c) 0
    let line ← prefixText n
    forward n
    let lb ← lineBreak
    let (breaks', stop') ← blockEmptyLines indent
    let chunks := chunks ++ breaks ++ [line]
    if ← atLine then
      let c ← peek
      if folded && lb == "\n" && leadingNonSpace && !(c == ' ' || c == '\t') then
        let chunks := if breaks'.isEmpty then chunks ++ [" "] else chunks
        return ((chunks, lb, breaks', stop'), true)
      else return ((chunks ++ [lb], lb, breaks', stop'), true)
    else return ((chunks, lb, breaks', stop'), false)) ([], "", breaks, stop)
  let chunks := if chomping != some false then chunks ++ [lastBreak] else chunks
  let chunks := if chomping == some true then chunks ++ breaks else chunks
  return ⟨.scalar (.ofString (String.join chunks)) false (some (if folded then '>' else '|')),
    start, stop⟩

end CrossPool.Yaml
