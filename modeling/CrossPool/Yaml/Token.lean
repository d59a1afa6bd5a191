import CrossPool.Data.Show

/-!
# YAML の字句と誤り

読み手の四つの段（字句、構文、木、値）が共有する型。

* `Mark` — 文書の中の位置。0 始まりの文字の番号、行、桁。
* `Token` — 字句。種類と、始まりと終わりの位置。
* `MarkedError` — 位置つきの誤り。文脈の文と位置、問題の文と位置からなり、
  `MarkedError.render` が文脈、（問題と違う位置なら）文脈の位置、問題、問題の位置を
  一行ずつ書く。位置は `  in "名前", line 行, column 桁` の形で、行と桁は 1 始まり。
* `LoadError` — 読み込みの誤り。位置つきの誤り、使えない文字、YAML 以外の誤り（値の
  変換の失敗など。種類の名前と文を持つ）。
-/

namespace CrossPool.Yaml

/-- 文書の中の位置。 -/
structure Mark where
  index : Nat
  line : Nat
  column : Nat
  deriving Inhabited, BEq, Repr

/-- 文書の先頭。 -/
def Mark.origin : Mark := ⟨0, 0, 0⟩

/-- 位置の表記。 -/
def Mark.render (name : String) (m : Mark) : String :=
  "  in \"" ++ name ++ "\", line " ++ toString (m.line + 1) ++ ", column " ++
    toString (m.column + 1)

/-- 指示子の値。 -/
inductive Directive where
  | version (major minor : Nat)
  | tagPrefix (handle pfx : String)
  | other
  deriving Inhabited, Repr

/-- 字句の種類。 -/
inductive TokenKind where
  | streamStart
  | streamEnd
  | directive (name : String) (value : Directive)
  | documentStart
  | documentEnd
  | blockSequenceStart
  | blockMappingStart
  | blockEnd
  | flowSequenceStart
  | flowMappingStart
  | flowSequenceEnd
  | flowMappingEnd
  | key
  | value
  | blockEntry
  | flowEntry
  | alias (name : String)
  | anchor (name : String)
  | tag (handle : Option String) (suffix : String)
  | scalar (text : Text.Str) (plain : Bool) (style : Option Char)
  deriving Inhabited, Repr

namespace TokenKind

/-- 誤りの文に書く字句の名前。 -/
def id : TokenKind → String
  | .streamStart => "<stream start>"
  | .streamEnd => "<stream end>"
  | .directive .. => "<directive>"
  | .documentStart => "<document start>"
  | .documentEnd => "<document end>"
  | .blockSequenceStart => "<block sequence start>"
  | .blockMappingStart => "<block mapping start>"
  | .blockEnd => "<block end>"
  | .flowSequenceStart => "["
  | .flowMappingStart => "\x7b"
  | .flowSequenceEnd => "]"
  | .flowMappingEnd => "\x7d"
  | .key => "?"
  | .value => ":"
  | .blockEntry => "-"
  | .flowEntry => ","
  | .alias _ => "<alias>"
  | .anchor _ => "<anchor>"
  | .tag .. => "<tag>"
  | .scalar .. => "<scalar>"

/-- 種類を比べるための番号。中身は見ない。 -/
def rank : TokenKind → Nat
  | .streamStart => 0
  | .streamEnd => 1
  | .directive .. => 2
  | .documentStart => 3
  | .documentEnd => 4
  | .blockSequenceStart => 5
  | .blockMappingStart => 6
  | .blockEnd => 7
  | .flowSequenceStart => 8
  | .flowMappingStart => 9
  | .flowSequenceEnd => 10
  | .flowMappingEnd => 11
  | .key => 12
  | .value => 13
  | .blockEntry => 14
  | .flowEntry => 15
  | .alias _ => 16
  | .anchor _ => 17
  | .tag .. => 18
  | .scalar .. => 19

end TokenKind

/-- 字句。 -/
structure Token where
  kind : TokenKind
  start : Mark
  stop : Mark
  deriving Inhabited

/-- 字句がどれかの種類か。 -/
def Token.isOneOf (t : Token) (kinds : List TokenKind) : Bool :=
  kinds.any fun k => k.rank == t.kind.rank

/-- 位置つきの誤り。 -/
structure MarkedError where
  context : Option String
  contextMark : Option Mark
  problem : Option String
  problemMark : Option Mark
  deriving Inhabited

/-- 文脈のない誤り。 -/
def MarkedError.plain (problem : String) (m : Mark) : MarkedError :=
  ⟨none, none, some problem, some m⟩

/-- 文脈のある誤り。 -/
def MarkedError.within (context : String) (cm : Mark) (problem : String) (m : Mark) :
    MarkedError :=
  ⟨some context, some cm, some problem, some m⟩

/-- 文脈の位置を書くか。問題の位置と同じ行と桁なら書かない。 -/
def MarkedError.showsContextMark (e : MarkedError) (cm : Mark) : Bool :=
  match e.problem, e.problemMark with
  | some _, some pm => cm.line != pm.line || cm.column != pm.column
  | _, _ => true

/-- 誤りの文。 -/
def MarkedError.render (name : String) (e : MarkedError) : String :=
  let cm := match e.contextMark with
    | some m => if e.showsContextMark m then [m.render name] else []
    | none => []
  "\n".intercalate (e.context.toList ++ cm ++ e.problem.toList ++
    (e.problemMark.map (Mark.render name)).toList)

/-- 読み込みの誤り。 -/
inductive LoadError where
  | marked (e : MarkedError)
  | unacceptable (position : Nat) (code : Nat)
  | foreign (kind message : String)
  deriving Inhabited

/-- 文字の表記。誤りの文に引用する。 -/
def charText (c : Char) : String := Data.quoteText (String.singleton c)

end CrossPool.Yaml
