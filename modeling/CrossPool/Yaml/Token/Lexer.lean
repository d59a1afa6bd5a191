import CrossPool.Yaml.Token.Scalar
import CrossPool.Text.Utf8

/-!
# YAML の字句読み

`lexNext` が次の字句を一つ（字下げが浅くなれば `BLOCK-END` もいくつか）読み、
列に足す。どの字句を読むかは今の文字で決まる。

* 行頭の `%` は指示子、行頭の `---` と `...` は文書の始まりと終わり。
* `[ ] { } ,` は流れの字句。
* 空白が続く `-`、`?`、`:` はブロックの項目、鍵、値。流れの中では `?` と `:` は
  空白が続かなくてもよい。
* `*` と `&` は別名と錨、`!` はタグ、`|` と `>` はブロックの scalar、引用符は引用符の
  scalar、そのほかで始められる文字は素の scalar。
* 始められない文字は誤り。タブは字下げにも区切りにも使えない。

構文の段は `peekToken`、`takeToken` で字句を求める。求めるたびに、列が空か、先頭の字句が
まだ単純な鍵の前に来うる間は読み進める。
-/

namespace CrossPool.Yaml

/-! ## 錨とタグ -/

/-- 錨か別名を読む。 -/
def lexAnchor (isAlias : Bool) : LexM Token := do
  let start ← here
  let name := if isAlias then "alias" else "anchor"
  let fail {α : Type} (c : Char) : LexM α := do
    lexError (.within ("while scanning an " ++ name) start
      ("expected alphabetic or numeric character, but found " ++ charText c) (← here))
  forward 1
  let n ← runLength isWordChar 0
  if n == 0 then fail (← peek)
  let value ← prefixText n
  forward n
  let c ← peek
  if !(isBlankZ c || "?:,]\x7d%@\x60".contains c) then fail c
  let stop ← here
  return ⟨if isAlias then .alias value else .anchor value, start, stop⟩

/-- タグの見出し（`!`、`!!`、`!名前!`）を読む。 -/
def tagHandle (name : String) (start : Mark) : LexM String := do
  let fail {α : Type} (c : Char) : LexM α := do
    lexError (.within ("while scanning a " ++ name) start
      ("expected '!', but found " ++ charText c) (← here))
  let c ← peek
  if c != '!' then fail c
  let length ← if (← peekAt 1) != ' ' then do
      let n ← runLength isWordChar 1
      let c ← peekAt n
      if c != '!' then
        forward n
        fail c
      pure (n + 1)
    else pure 1
  let value ← prefixText length
  forward length
  return value

/-- URI に使える文字。 -/
def isUriChar (c : Char) : Bool :=
  ('0' ≤ c && c ≤ '9') || ('A' ≤ c && c ≤ 'Z') || ('a' ≤ c && c ≤ 'z') ||
    "-;/?:@&=+$,_.!~*'()[]%".contains c

/-- `%` の escape の並びを UTF-8 として読む。 -/
def uriEscapes (name : String) (start : Mark) : LexM String := do
  let m ← here
  let codes ← iterate (fun codes => do
    if (← peek) != '%' then return (codes, false)
    forward 1
    for k in [0, 1] do
      let d ← peekAt k
      if !isHexChar d then
        lexError (.within ("while scanning a " ++ name) start
          ("expected URI escape sequence of 2 hexadecimal numbers, but found " ++ charText d)
          (← here))
    let code := hexNumber (← prefixText 2).toList
    forward 2
    return (codes ++ [code.toUInt8], true)) []
  match Text.decodeUtf8 codes with
  | .ok s => return s
  | .error e => lexError (.within ("while scanning a " ++ name) start (e.message codes) m)

/-- タグの URI の部分を読む。 -/
def tagUri (name : String) (start : Mark) : LexM String := do
  let (chunks, _) ← iterate (fun (chunks, length) => do
    let c ← peekAt length
    if isUriChar c then
      if c == '%' then
        let pre ← prefixText length
        forward length
        let esc ← uriEscapes name start
        return ((chunks ++ [pre, esc], 0), true)
      else return ((chunks, length + 1), true)
    else if length > 0 then
      let pre ← prefixText length
      forward length
      return ((chunks ++ [pre], 0), false)
    else return ((chunks, 0), false)) (([] : List String), 0)
  if chunks.isEmpty then
    lexError (.within ("while parsing a " ++ name) start
      ("expected URI, but found " ++ charText (← peek)) (← here))
  return String.join chunks

/-- タグを読む。 -/
def lexTag : LexM Token := do
  let start ← here
  let c ← peekAt 1
  let (handle, suffix) ← if c == '<' then do
      forward 2
      let suffix ← tagUri "tag" start
      if (← peek) != '>' then
        lexError (.within "while parsing a tag" start
          ("expected '>', but found " ++ charText (← peek)) (← here))
      forward 1
      pure (none, suffix)
    else if isBlankZ c then do
      forward 1
      pure (none, "!")
    else do
      let n ← runLength (fun c => !isSpaceZ c && c != '!') 1
      let handle ← if (← peekAt n) == '!' then tagHandle "tag" start
        else do
          forward 1
          pure "!"
      let suffix ← tagUri "tag" start
      pure (some handle, suffix)
  let c ← peek
  if !isSpaceZ c then
    lexError (.within "while scanning a tag" start ("expected ' ', but found " ++ charText c)
      (← here))
  let stop ← here
  return ⟨.tag handle suffix, start, stop⟩

/-! ## 指示子 -/

/-- 指示子の誤り。 -/
def directiveError {α : Type} (start : Mark) (problem : String) : LexM α := do
  lexError (.within "while scanning a directive" start problem (← here))

/-- 指示子の名前。 -/
def directiveName (start : Mark) : LexM String := do
  let n ← runLength isWordChar 0
  if n == 0 then
    directiveError start ("expected alphabetic or numeric character, but found " ++
      charText (← peek))
  let v ← prefixText n
  forward n
  let c ← peek
  if !isSpaceZ c then
    directiveError start ("expected alphabetic or numeric character, but found " ++ charText c)
  return v

/-- 版の数。 -/
def directiveNumber (start : Mark) : LexM Nat := do
  let c ← peek
  if !c.isDigit then directiveError start ("expected a digit, but found " ++ charText c)
  let n ← runLength Char.isDigit 0
  let v := (← prefixText n).toNat?.getD 0
  forward n
  return v

/-- `%YAML` の値。 -/
def versionValue (start : Mark) : LexM Directive := do
  skipWhile (· == ' ')
  let major ← directiveNumber start
  if (← peek) != '.' then
    directiveError start ("expected a digit or '.', but found " ++ charText (← peek))
  forward 1
  let minor ← directiveNumber start
  if !isSpaceZ (← peek) then
    directiveError start ("expected a digit or ' ', but found " ++ charText (← peek))
  return .version major minor

/-- `%TAG` の値。 -/
def tagDirectiveValue (start : Mark) : LexM Directive := do
  skipWhile (· == ' ')
  let handle ← tagHandle "directive" start
  if (← peek) != ' ' then
    directiveError start ("expected ' ', but found " ++ charText (← peek))
  skipWhile (· == ' ')
  let pfx ← tagUri "directive" start
  if !isSpaceZ (← peek) then
    directiveError start ("expected ' ', but found " ++ charText (← peek))
  return .tagPrefix handle pfx

/-- 指示子を読む。 -/
def lexDirective : LexM Token := do
  let start ← here
  forward 1
  let name ← directiveName start
  let (value, stop) ← if name == "YAML" then do
      let v ← versionValue start
      pure (v, ← here)
    else if name == "TAG" then do
      let v ← tagDirectiveValue start
      pure (v, ← here)
    else do
      let m ← here
      skipWhile fun c => !isBreakZ c
      pure (.other, m)
  skipWhile (· == ' ')
  if (← peek) == '#' then skipWhile fun c => !isBreakZ c
  let c ← peek
  if !isBreakZ c then
    directiveError start ("expected a comment or a line break, but found " ++ charText c)
  let _ ← lineBreak
  return ⟨.directive name value, start, stop⟩

/-! ## 字句を列に足す -/

/-- 今の位置の `n` 文字を一つの字句にする。 -/
def pushIndicator (k : TokenKind) (n : Nat) : LexM Unit := do
  let a ← here
  forward n
  let b ← here
  pushToken ⟨k, a, b⟩

/-- 今の位置に幅のない字句を足す。 -/
def pushEmpty (k : TokenKind) : LexM Unit := do
  let m ← here
  pushToken ⟨k, m, m⟩

/-- 文書の終わり。 -/
def lexStreamEnd : LexM Unit := do
  closeBlocks (-1)
  forgetKey
  modify fun s => { s with allowSimpleKey := false, pendingKeys := [] }
  pushEmpty .streamEnd
  modify fun s => { s with done := true }

/-- 指示子。 -/
def lexDirectiveToken : LexM Unit := do
  closeBlocks (-1)
  forgetKey
  allowKeys false
  pushToken (← lexDirective)

/-- 文書の始まりか終わりの印。 -/
def lexDocumentMark (k : TokenKind) : LexM Unit := do
  closeBlocks (-1)
  forgetKey
  allowKeys false
  pushIndicator k 3

/-- `[` か `{`。 -/
def lexFlowOpen (k : TokenKind) : LexM Unit := do
  rememberKey
  modify fun s => { s with flowLevel := s.flowLevel + 1 }
  allowKeys true
  pushIndicator k 1

/-- `]` か `}`。 -/
def lexFlowClose (k : TokenKind) : LexM Unit := do
  forgetKey
  modify fun s => { s with flowLevel := s.flowLevel - 1 }
  allowKeys false
  pushIndicator k 1

/-- `,`。 -/
def lexFlowEntry : LexM Unit := do
  allowKeys true
  forgetKey
  pushIndicator .flowEntry 1

/-- ブロックでは字下げが深まれば始まりの字句を足す。単純な鍵を許さない位置なら誤り。 -/
def openBlock (k : TokenKind) (problem : String) : LexM Unit := do
  let s ← get
  if s.flowLevel == 0 then
    if !s.allowSimpleKey then lexError (.plain problem s.mark)
    if ← openIndent s.mark.column then pushEmpty k

/-- ブロックの項目の `-`。 -/
def lexBlockEntry : LexM Unit := do
  openBlock .blockSequenceStart "sequence entries are not allowed here"
  allowKeys true
  forgetKey
  pushIndicator .blockEntry 1

/-- 鍵の `?`。 -/
def lexKey : LexM Unit := do
  openBlock .blockMappingStart "mapping keys are not allowed here"
  allowKeys ((← get).flowLevel == 0)
  forgetKey
  pushIndicator .key 1

/-- 値の `:`。単純な鍵の候補があれば、その位置に `KEY` を差し込む。 -/
def lexValue : LexM Unit := do
  let s ← get
  match s.pendingKeys.find? fun (p : Nat × KeyCandidate) => p.1 == s.flowLevel with
  | some (_, key) =>
    let pos := key.tokenNumber - s.tokensTaken
    set { s with
      pendingKeys := s.pendingKeys.filter fun (p : Nat × KeyCandidate) =>
        p.1 != s.flowLevel
      tokens := insertAt pos ⟨.key, key.mark, key.mark⟩ s.tokens }
    if s.flowLevel == 0 then
      if ← openIndent key.mark.column then
        modify fun s => { s with
          tokens := insertAt pos ⟨.blockMappingStart, key.mark, key.mark⟩ s.tokens }
    allowKeys false
  | none =>
    openBlock .blockMappingStart "mapping values are not allowed here"
    allowKeys (s.flowLevel == 0)
    forgetKey
  pushIndicator .value 1

/-- 鍵になりうる字句。候補を覚えてから読む。 -/
def lexKeyable (scan : LexM Token) : LexM Unit := do
  rememberKey
  allowKeys false
  pushToken (← scan)

/-- ブロックの scalar。 -/
def lexBlockScalarToken (folded : Bool) : LexM Unit := do
  allowKeys true
  forgetKey
  pushToken (← lexBlockScalar folded)

/-- 次の字句の前の空白、注釈、改行を読み飛ばす。 -/
def skipToToken : LexM Unit := do
  if (← here).index == 0 && (← peek) == '\uFEFF' then forward 1
  iterate (fun () => do
    skipWhile (· == ' ')
    if (← peek) == '#' then skipWhile fun c => !isBreakZ c
    if (← lineBreak) != "" then
      if (← get).flowLevel == 0 then allowKeys true
      return ((), true)
    return ((), false)) ()

/-- 素の scalar を始められるか。 -/
def checkPlain : LexM Bool := do
  let c ← peek
  let next ← peekAt 1
  let flow := (← get).flowLevel != 0
  return !(isBlankZ c || "-?:,[]\x7b\x7d#&*!|>'\"%@\x60".contains c) ||
    (!isBlankZ next && (c == '-' || (!flow && (c == '?' || c == ':'))))

/-- 次の字句を読む。 -/
def lexNext : LexM Unit := do
  skipToToken
  dropStaleKeys
  closeBlocks (← here).column
  let c ← peek
  let next ← peekAt 1
  let s ← get
  let lineStart := s.mark.column == 0
  let flow := s.flowLevel != 0
  if c == '\x00' then lexStreamEnd
  else if c == '%' && lineStart then lexDirectiveToken
  else if c == '-' && lineStart && (← prefixText 3) == "---" && isBlankZ (← peekAt 3) then
    lexDocumentMark .documentStart
  else if c == '.' && lineStart && (← prefixText 3) == "..." && isBlankZ (← peekAt 3) then
    lexDocumentMark .documentEnd
  else if c == '[' then lexFlowOpen .flowSequenceStart
  else if c == '\x7b' then lexFlowOpen .flowMappingStart
  else if c == ']' then lexFlowClose .flowSequenceEnd
  else if c == '\x7d' then lexFlowClose .flowMappingEnd
  else if c == ',' then lexFlowEntry
  else if c == '-' && isBlankZ next then lexBlockEntry
  else if c == '?' && (flow || isBlankZ next) then lexKey
  else if c == ':' && (flow || isBlankZ next) then lexValue
  else if c == '*' then lexKeyable (lexAnchor true)
  else if c == '&' then lexKeyable (lexAnchor false)
  else if c == '!' then lexKeyable lexTag
  else if c == '|' && !flow then lexBlockScalarToken false
  else if c == '>' && !flow then lexBlockScalarToken true
  else if c == '\'' then lexKeyable (lexQuoted false)
  else if c == '"' then lexKeyable (lexQuoted true)
  else if ← checkPlain then lexKeyable lexPlain
  else
    lexError ⟨some "while scanning for the next token", none,
      some ("found character " ++ charText c ++ " that cannot start any token"), some (← here)⟩

/-! ## 構文の段への窓口 -/

/-- もっと読む必要があるか。 -/
def needsLookahead : LexM Bool := do
  let s ← get
  if s.done then return false
  if s.tokens.isEmpty then return true
  dropStaleKeys
  let s ← get
  return earliestKey s == some s.tokensTaken

/-- 先頭の字句が決まるまで読む。 -/
def ensureTokens : LexM Unit := do
  let fuel := (← budget) + 1
  loopScan (fun () => do
    if ← needsLookahead then
      lexNext
      return ((), true)
    return ((), false)) fuel ()

/-- 先頭の字句を見る。 -/
def peekToken : LexM Token := do
  ensureTokens
  match (← get).tokens with
  | t :: _ => return t
  | [] => return ⟨.streamEnd, (← here), (← here)⟩

/-- 先頭の字句を取る。 -/
def takeToken : LexM Token := do
  ensureTokens
  let s ← get
  match s.tokens with
  | t :: rest =>
    set { s with tokens := rest, tokensTaken := s.tokensTaken + 1 }
    return t
  | [] => return ⟨.streamEnd, s.mark, s.mark⟩

/-- 先頭の字句がどれかの種類か。 -/
def checkToken (kinds : List TokenKind) : LexM Bool := do
  return (← peekToken).isOneOf kinds

/-- 文書を読み始める状態。 -/
def Lexer.start (text : Array Char) (flaw : Option (Nat × Nat)) : Lexer :=
  { text, mark := Mark.origin, done := false, flowLevel := 0
    tokens := [⟨.streamStart, Mark.origin, Mark.origin⟩], tokensTaken := 0
    indent := -1, indents := [], allowSimpleKey := true, pendingKeys := []
    checked := min text.size initialChunk, flaw }

end CrossPool.Yaml
