import CrossPool.Yaml.Token.Lexer

/-!
# YAML の構文

字句の列を出来事（event）の列にする。状態機械で、今の状態と、戻る状態の積み重ねと、
開いている集まりの始まりの位置の積み重ねを持つ。`nextEvent` が一つの出来事を作る。

* 文書 — 指示子と `---` で始まる明示の文書か、内容からいきなり始まる暗黙の文書。
* 節（node） — 別名、または錨とタグを前に置いた scalar か集まり。タグの見出しは
  `!`、`!!`（`tag:yaml.org,2002:`）と `%TAG` で宣言したもの。
* ブロックの集まり — `BLOCK-SEQUENCE-START` / `BLOCK-MAPPING-START` から
  `BLOCK-END` まで。写像の値としての `-` の並びは字下げのない列になる。
* 流れの集まり — `[ ... ]` と `{ ... }`。列の中の `? k : v` や `k: v` は一組の写像。

値や鍵の欠けた場所には空の scalar を置く。
-/

namespace CrossPool.Yaml

/-- 出来事の種類。 -/
inductive EventKind where
  | streamStart
  | streamEnd
  | documentStart (explicit : Bool)
  | documentEnd (explicit : Bool)
  | alias (anchor : String)
  | scalar (anchor : Option String) (tag : Option String) (plainImplicit : Bool)
      (value : Text.Str) (style : Option Char)
  | sequenceStart (anchor : Option String) (tag : Option String) (flow : Bool)
  | sequenceEnd
  | mappingStart (anchor : Option String) (tag : Option String) (flow : Bool)
  | mappingEnd
  deriving Inhabited

/-- 出来事。 -/
structure Event where
  kind : EventKind
  start : Mark
  stop : Mark
  deriving Inhabited

/-- 構文の状態。 -/
inductive ParseState where
  | streamStart
  | implicitDocumentStart
  | documentStart
  | documentEnd
  | documentContent
  | blockNode
  | blockSequenceFirstEntry
  | blockSequenceEntry
  | indentlessSequenceEntry
  | blockMappingFirstKey
  | blockMappingKey
  | blockMappingValue
  | flowSequenceFirstEntry
  | flowSequenceEntry
  | flowSequenceEntryMappingKey
  | flowSequenceEntryMappingValue
  | flowSequenceEntryMappingEnd
  | flowMappingFirstKey
  | flowMappingKey
  | flowMappingValue
  | flowMappingEmptyValue
  | finished
  deriving Inhabited, BEq

/-- 構文の段の状態。 -/
structure EventReader where
  lexer : Lexer
  state : ParseState
  states : List ParseState
  marks : List Mark
  tagHandles : List (String × String)
  deriving Inhabited

/-- 構文の一歩。 -/
abbrev EventM := EStateM LoadError EventReader

/-- 字句読みの一歩を構文の一歩として行う。 -/
def liftLex {α : Type} (x : LexM α) : EventM α := fun p =>
  match x p.lexer with
  | .ok a s => .ok a { p with lexer := s }
  | .error e s => .error e { p with lexer := s }

/-- 既定のタグの見出し。 -/
def defaultTagHandles : List (String × String) := [("!", "!"), ("!!", "tag:yaml.org,2002:")]

/-! ## 小道具 -/

/-- 先頭の字句。 -/
def peekT : EventM Token := liftLex peekToken

/-- 先頭の字句を取る。 -/
def takeT : EventM Token := liftLex takeToken

/-- 先頭の字句がどれかの種類か。 -/
def checkT (kinds : List TokenKind) : EventM Bool := liftLex (checkToken kinds)

/-- 次の状態を決める。 -/
def goTo (s : ParseState) : EventM Unit := modify fun p => { p with state := s }

/-- 戻る状態を積む。 -/
def pushState (s : ParseState) : EventM Unit := modify fun p => { p with states := s :: p.states }

/-- 積んだ状態に戻る。 -/
def popState : EventM Unit := modify fun p => match p.states with
  | s :: rest => { p with state := s, states := rest }
  | [] => { p with state := .finished }

/-- 集まりの始まりの位置を積む。 -/
def pushMark (m : Mark) : EventM Unit := modify fun p => { p with marks := m :: p.marks }

/-- 集まりの始まりの位置を下ろす。 -/
def popMark : EventM Unit := modify fun p => { p with marks := p.marks.drop 1 }

/-- 開いている集まりの始まりの位置。 -/
def topMark : EventM Mark := do return (← get).marks.headD Mark.origin

/-- 空の scalar。 -/
def emptyScalar (m : Mark) : Event := ⟨.scalar none none true .empty none, m, m⟩

/-- 構文の誤りで止める。 -/
def eventError {α : Type} (e : MarkedError) : EventM α := throw (.marked e)

/-- 字句の名前の表記。 -/
def tokenIdText (t : Token) : String := Data.quoteText t.kind.id

/-! ## 文書 -/

/-- 指示子を読み、タグの見出しを決める。 -/
def readDirectives : EventM Unit := do
  let fuel := (← get).lexer.text.size + 2
  let (_, handles) ← loopParse fuel (false, [])
  let handles := handles ++ defaultTagHandles.filter fun (h, _) => !(handles.any (·.1 == h))
  modify fun p => { p with tagHandles := handles }
where
  /-- 指示子を一つずつ読む。 -/
  loopParse : Nat → Bool × List (String × String) → EventM (Bool × List (String × String))
    | 0, acc => pure acc
    | fuel + 1, (seen, handles) => do
      if !(← checkT [.directive "" .other]) then return (seen, handles)
      let t ← takeT
      match t.kind with
      | .directive "YAML" (.version major _) =>
        if seen then eventError (.plain "found duplicate YAML directive" t.start)
        if major != 1 then
          eventError (.plain "found incompatible YAML document (version 1.* is required)" t.start)
        loopParse fuel (true, handles)
      | .directive "TAG" (.tagPrefix h pfx) =>
        if handles.any (·.1 == h) then
          eventError (.plain ("duplicate tag handle " ++ Data.quoteText h) t.start)
        loopParse fuel (seen, handles ++ [(h, pfx)])
      | _ => loopParse fuel (seen, handles)

/-- 明示の文書の始まりか、文書の並びの終わり。 -/
def parseDocumentStart : EventM Event := do
  let fuel := (← get).lexer.text.size + 2
  let rec skipEnds : Nat → EventM Unit
    | 0 => pure ()
    | n + 1 => do
      if ← checkT [.documentEnd] then
        let _ ← takeT
        skipEnds n
  skipEnds fuel
  if !(← checkT [.streamEnd]) then
    let start := (← peekT).start
    readDirectives
    if !(← checkT [.documentStart]) then
      let t ← peekT
      eventError (.plain ("expected '<document start>', but found " ++ tokenIdText t) t.start)
    let t ← takeT
    pushState .documentEnd
    goTo .documentContent
    return ⟨.documentStart true, start, t.stop⟩
  else
    let t ← takeT
    goTo .finished
    return ⟨.streamEnd, t.start, t.stop⟩

/-- 文書の終わり。 -/
def parseDocumentEnd : EventM Event := do
  let t ← peekT
  let (stop, explicit) ← if ← checkT [.documentEnd] then do
      let t ← takeT
      pure (t.stop, true)
    else pure (t.start, false)
  goTo .documentStart
  return ⟨.documentEnd explicit, t.start, stop⟩

/-! ## 節 -/

/-- 節を一つ読む。`block` はブロックの集まりを許すか、`indentless` は字下げのない列を
許すか。 -/
def parseNode (block indentless : Bool) : EventM Event := do
  if ← checkT [.alias ""] then
    let t ← takeT
    popState
    match t.kind with
    | .alias name => return ⟨.alias name, t.start, t.stop⟩
    | _ => return ⟨.alias "", t.start, t.stop⟩
  let anchorTag ← if ← checkT [.anchor ""] then do
      let t ← takeT
      let anchor := match t.kind with
        | .anchor a => some a
        | _ => none
      if ← checkT [.tag none ""] then
        let u ← takeT
        pure (anchor, some (u.kind, u.start), some t.start, some u.stop)
      else pure (anchor, none, some t.start, some t.stop)
    else if ← checkT [.tag none ""] then do
      let t ← takeT
      if ← checkT [.anchor ""] then
        let u ← takeT
        let anchor := match u.kind with
          | .anchor a => some a
          | _ => none
        pure (anchor, some (t.kind, t.start), some t.start, some u.stop)
      else pure (none, some (t.kind, t.start), some t.start, some t.stop)
    else pure (none, none, none, none)
  let (anchor, tagToken, startOpt, stopOpt) := anchorTag
  let handles := (← get).tagHandles
  let tag ← match tagToken with
    | some (.tag (some h) suffix, tagMark) =>
      match handles.find? (·.1 == h) with
      | some (_, pfx) => pure (some (pfx ++ suffix))
      | none =>
        eventError (.within "while parsing a node" (startOpt.getD tagMark)
          ("found undefined tag handle " ++ Data.quoteText h) tagMark)
    | some (.tag none suffix, _) => pure (some suffix)
    | _ => pure none
  let next ← peekT
  let start := startOpt.getD next.start
  let stop := stopOpt.getD next.start
  if indentless && (← checkT [.blockEntry]) then
    goTo .indentlessSequenceEntry
    return ⟨.sequenceStart anchor tag false, start, next.stop⟩
  if ← checkT [.scalar .empty false none] then
    let t ← takeT
    popState
    match t.kind with
    | .scalar value plain style =>
      let plainImplicit := (plain && tag.isNone) || tag == some "!"
      return ⟨.scalar anchor tag plainImplicit value style, start, t.stop⟩
    | _ => return emptyScalar t.start
  if ← checkT [.flowSequenceStart] then
    goTo .flowSequenceFirstEntry
    return ⟨.sequenceStart anchor tag true, start, next.stop⟩
  if ← checkT [.flowMappingStart] then
    goTo .flowMappingFirstKey
    return ⟨.mappingStart anchor tag true, start, next.stop⟩
  if block && (← checkT [.blockSequenceStart]) then
    goTo .blockSequenceFirstEntry
    return ⟨.sequenceStart anchor tag false, start, next.start⟩
  if block && (← checkT [.blockMappingStart]) then
    goTo .blockMappingFirstKey
    return ⟨.mappingStart anchor tag false, start, next.start⟩
  if anchor.isSome || tag.isSome then
    popState
    return ⟨.scalar anchor tag (tag.isNone || tag == some "!") .empty none, start, stop⟩
  let kind := if block then "block" else "flow"
  eventError (.within ("while parsing a " ++ kind ++ " node") start
    ("expected the node content, but found " ++ tokenIdText next) next.start)

/-! ## ブロックの集まり -/

/-- ブロックの列の項目。 -/
def parseBlockSequenceEntry : EventM Event := do
  if ← checkT [.blockEntry] then
    let t ← takeT
    if !(← checkT [.blockEntry, .blockEnd]) then
      pushState .blockSequenceEntry
      return ← parseNode true false
    goTo .blockSequenceEntry
    return emptyScalar t.stop
  if !(← checkT [.blockEnd]) then
    let t ← peekT
    eventError (.within "while parsing a block collection" (← topMark)
      ("expected <block end>, but found " ++ tokenIdText t) t.start)
  let t ← takeT
  popState
  popMark
  return ⟨.sequenceEnd, t.start, t.stop⟩

/-- 字下げのない列の項目。 -/
def parseIndentlessSequenceEntry : EventM Event := do
  if ← checkT [.blockEntry] then
    let t ← takeT
    if !(← checkT [.blockEntry, .key, .value, .blockEnd]) then
      pushState .indentlessSequenceEntry
      return ← parseNode true false
    goTo .indentlessSequenceEntry
    return emptyScalar t.stop
  let t ← peekT
  popState
  return ⟨.sequenceEnd, t.start, t.start⟩

/-- ブロックの写像の鍵。 -/
def parseBlockMappingKey : EventM Event := do
  if ← checkT [.key] then
    let t ← takeT
    if !(← checkT [.key, .value, .blockEnd]) then
      pushState .blockMappingValue
      return ← parseNode true true
    goTo .blockMappingValue
    return emptyScalar t.stop
  if !(← checkT [.blockEnd]) then
    let t ← peekT
    eventError (.within "while parsing a block mapping" (← topMark)
      ("expected <block end>, but found " ++ tokenIdText t) t.start)
  let t ← takeT
  popState
  popMark
  return ⟨.mappingEnd, t.start, t.stop⟩

/-- ブロックの写像の値。 -/
def parseBlockMappingValue : EventM Event := do
  if ← checkT [.value] then
    let t ← takeT
    if !(← checkT [.key, .value, .blockEnd]) then
      pushState .blockMappingKey
      return ← parseNode true true
    goTo .blockMappingKey
    return emptyScalar t.stop
  goTo .blockMappingKey
  return emptyScalar (← peekT).start

/-! ## 流れの集まり -/

/-- 流れの列の項目。`first` は最初の項目か。 -/
def parseFlowSequenceEntry (first : Bool) : EventM Event := do
  if !(← checkT [.flowSequenceEnd]) then
    if !first then
      if ← checkT [.flowEntry] then
        let _ ← takeT
      else
        let t ← peekT
        eventError (.within "while parsing a flow sequence" (← topMark)
          ("expected ',' or ']', but got " ++ tokenIdText t) t.start)
    if ← checkT [.key] then
      let t ← peekT
      goTo .flowSequenceEntryMappingKey
      return ⟨.mappingStart none none true, t.start, t.stop⟩
    if !(← checkT [.flowSequenceEnd]) then
      pushState .flowSequenceEntry
      return ← parseNode false false
  let t ← takeT
  popState
  popMark
  return ⟨.sequenceEnd, t.start, t.stop⟩

/-- 流れの列の中の一組の写像の鍵。 -/
def parseFlowSequenceEntryMappingKey : EventM Event := do
  let t ← takeT
  if !(← checkT [.value, .flowEntry, .flowSequenceEnd]) then
    pushState .flowSequenceEntryMappingValue
    return ← parseNode false false
  goTo .flowSequenceEntryMappingValue
  return emptyScalar t.stop

/-- 流れの列の中の一組の写像の値。 -/
def parseFlowSequenceEntryMappingValue : EventM Event := do
  if ← checkT [.value] then
    let t ← takeT
    if !(← checkT [.flowEntry, .flowSequenceEnd]) then
      pushState .flowSequenceEntryMappingEnd
      return ← parseNode false false
    goTo .flowSequenceEntryMappingEnd
    return emptyScalar t.stop
  goTo .flowSequenceEntryMappingEnd
  return emptyScalar (← peekT).start

/-- 流れの列の中の一組の写像の終わり。 -/
def parseFlowSequenceEntryMappingEnd : EventM Event := do
  goTo .flowSequenceEntry
  let t ← peekT
  return ⟨.mappingEnd, t.start, t.start⟩

/-- 流れの写像の鍵。`first` は最初の鍵か。 -/
def parseFlowMappingKey (first : Bool) : EventM Event := do
  if !(← checkT [.flowMappingEnd]) then
    if !first then
      if ← checkT [.flowEntry] then
        let _ ← takeT
      else
        let t ← peekT
        eventError (.within "while parsing a flow mapping" (← topMark)
          ("expected ',' or '\x7d', but got " ++ tokenIdText t) t.start)
    if ← checkT [.key] then
      let t ← takeT
      if !(← checkT [.value, .flowEntry, .flowMappingEnd]) then
        pushState .flowMappingValue
        return ← parseNode false false
      goTo .flowMappingValue
      return emptyScalar t.stop
    if !(← checkT [.flowMappingEnd]) then
      pushState .flowMappingEmptyValue
      return ← parseNode false false
  let t ← takeT
  popState
  popMark
  return ⟨.mappingEnd, t.start, t.stop⟩

/-- 流れの写像の値。 -/
def parseFlowMappingValue : EventM Event := do
  if ← checkT [.value] then
    let t ← takeT
    if !(← checkT [.flowEntry, .flowMappingEnd]) then
      pushState .flowMappingKey
      return ← parseNode false false
    goTo .flowMappingKey
    return emptyScalar t.stop
  goTo .flowMappingKey
  return emptyScalar (← peekT).start

/-! ## 状態機械 -/

/-- 集まりの最初の字句を取り、始まりの位置を積む。 -/
def openCollection : EventM Unit := do
  let t ← takeT
  pushMark t.start

/-- 次の出来事を作る。 -/
def nextEvent : EventM Event := do
  match (← get).state with
  | .streamStart =>
    let t ← takeT
    goTo .implicitDocumentStart
    return ⟨.streamStart, t.start, t.stop⟩
  | .implicitDocumentStart =>
    if !(← checkT [.directive "" .other, .documentStart, .streamEnd]) then
      modify fun p => { p with tagHandles := defaultTagHandles }
      let t ← peekT
      pushState .documentEnd
      goTo .blockNode
      return ⟨.documentStart false, t.start, t.start⟩
    parseDocumentStart
  | .documentStart => parseDocumentStart
  | .documentEnd => parseDocumentEnd
  | .documentContent =>
    if ← checkT [.directive "" .other, .documentStart, .documentEnd, .streamEnd] then
      let t ← peekT
      popState
      return emptyScalar t.start
    parseNode true false
  | .blockNode => parseNode true false
  | .blockSequenceFirstEntry =>
    openCollection
    parseBlockSequenceEntry
  | .blockSequenceEntry => parseBlockSequenceEntry
  | .indentlessSequenceEntry => parseIndentlessSequenceEntry
  | .blockMappingFirstKey =>
    openCollection
    parseBlockMappingKey
  | .blockMappingKey => parseBlockMappingKey
  | .blockMappingValue => parseBlockMappingValue
  | .flowSequenceFirstEntry =>
    openCollection
    parseFlowSequenceEntry true
  | .flowSequenceEntry => parseFlowSequenceEntry false
  | .flowSequenceEntryMappingKey => parseFlowSequenceEntryMappingKey
  | .flowSequenceEntryMappingValue => parseFlowSequenceEntryMappingValue
  | .flowSequenceEntryMappingEnd => parseFlowSequenceEntryMappingEnd
  | .flowMappingFirstKey =>
    openCollection
    parseFlowMappingKey true
  | .flowMappingKey => parseFlowMappingKey false
  | .flowMappingValue => parseFlowMappingValue
  | .flowMappingEmptyValue =>
    goTo .flowMappingKey
    return emptyScalar (← peekT).start
  | .finished =>
    let m := (← get).lexer.mark
    return ⟨.streamEnd, m, m⟩

/-- 文書を読み始める状態。 -/
def EventReader.start (text : Array Char) (flaw : Option (Nat × Nat)) : EventReader :=
  { lexer := Lexer.start text flaw, state := .streamStart, states := [], marks := []
    tagHandles := [] }

end CrossPool.Yaml
