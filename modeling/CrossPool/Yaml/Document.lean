import CrossPool.Yaml.Node.Value

/-!
# YAML の文書を読む

`readDocument` は文字列を一つの文書として読み、値を返す。空の文書なら `none`。

使えない文字（タブと改行以外の制御文字、`U+FFFE`、`U+FFFF` など）があれば、最初の
ものの位置で誤り。読み手は文書を先頭から少しずつ読み足して確かめるので、先の方に
ある使えない文字の誤りは、字句読みがそこまで進んだ時に起きる（`demand`）。それより
前に見つかった構文の誤りが先に報される。

`LoadError.render` は誤りの文を書く。位置は `name` の文書のものとして書く。
-/

namespace CrossPool.Yaml

/-- 文書に書ける文字か。 -/
def isAcceptable (c : Char) : Bool :=
  let n := c.toNat
  n == 0x09 || n == 0x0A || n == 0x0D || (0x20 ≤ n && n ≤ 0x7E) || n == 0x85 ||
    (0xA0 ≤ n && n ≤ 0xD7FF) || (0xE000 ≤ n && n ≤ 0xFFFD) || (0x10000 ≤ n && n ≤ 0x10FFFF)

/-- 最初の使えない文字の位置と符号。 -/
def firstUnacceptable (cs : List Char) : Option (Nat × Nat) :=
  ((cs.zip (List.range cs.length)).find? fun (c, _) => !isAcceptable c).map fun (c, i) =>
    (i, c.toNat)

/-- 文字列を一つの文書として読む。使えない文字が読み始めに確かめる範囲にあれば、
何よりも先にその誤り。その先にあれば、字句読みがそこまで読み足した時の誤り。 -/
def readDocument (text : String) : Except LoadError (Option Data.Value) := do
  let cs := text.toList
  let flaw := firstUnacceptable cs
  if let some (i, code) := flaw then
    if i < initialChunk then throw (.unacceptable i code)
  let chars := cs.toArray
  let fuel := 4 * chars.size + 16
  match (readSingleDocument fuel).run ⟨EventReader.start chars flaw, none, [], 0⟩ with
  | .ok none _ => return none
  | .ok (some t) _ => some <$> valueOf fuel t
  | .error e _ => throw e

/-- 16 進で少なくとも 4 桁。 -/
def hex4 (n : Nat) : String :=
  let h := Data.hexDigits n 8
  let trimmed := String.ofList (h.toList.dropWhile (· == '0'))
  if trimmed.length ≥ 4 then trimmed else Data.hexDigits n 4

/-- YAML の誤りの文。YAML 以外の誤りなら `none`。 -/
def LoadError.render (name : String) : LoadError → Option String
  | .marked e => some (e.render name)
  | .unacceptable pos code =>
    some ("unacceptable character #x" ++ hex4 code ++ ": special characters are not allowed\n" ++
      "  in \"" ++ name ++ "\", position " ++ toString pos)
  | .foreign .. => none

end CrossPool.Yaml
