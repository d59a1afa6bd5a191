/-!
# 符号位置の列

文書の文字列は Unicode の符号位置の列である。文字（Unicode のスカラー値）のほかに、
単独のサロゲート（`U+D800`–`U+DFFF`）も入りうる。YAML の `"\uD83D"` や JSON の
`"\ud83d"` がそのような文字列を作り、基本多言語面の外の文字を `"😀"` と書けば、
二つのサロゲートの列になる（一つの文字にはまとまらない）。

Lean の `Char` と `String` はサロゲートを持てないので、符号位置を `CodePoint`（文字か、
サロゲート `U+D800 + k`）とし、文字列をその列 `Str` とする。

* `Str.ofString` — 文字だけの列。`String` からの変換はこれで、`Str.toString?` で読み戻せる
  （`toString?_ofString`）。
* `Str.toString?` — サロゲートを含まなければ、その文字列。UTF-8 にできる文字列はこれである。
* `Str.codes` — 符号位置の数の列。順序（辞書式）、hash、表記はこれで決まる。
* `Str.lossy` — 画面に書くための文字列。サロゲートは `U+FFFD` にする。
* `Str.lossyUtf8` — 一度 UTF-8 のバイト列にしてから読み戻した文字列。サロゲートは
  `U+FFFD` 三つになる。検証の誤りの文面と位置はこれで書かれる。
-/

namespace CrossPool.Text

/-- 符号位置。文字か、サロゲート `U+D800 + k`。 -/
inductive CodePoint where
  | char (c : Char)
  | surrogate (k : Fin 2048)
  deriving DecidableEq, Repr, Inhabited

namespace CodePoint

/-- 符号位置の数。 -/
def code : CodePoint → Nat
  | .char c => c.toNat
  | .surrogate k => 0xD800 + k.val

/-- サロゲートの符号か。 -/
def isSurrogateCode (n : Nat) : Bool := 0xD800 ≤ n && n < 0xE000

/-- 数の符号位置。サロゲートの範囲ならサロゲート、それ以外は `Char.ofNat` の文字。 -/
def ofCode (n : Nat) : CodePoint :=
  if h : 0xD800 ≤ n ∧ n < 0xE000 then .surrogate ⟨n - 0xD800, by omega⟩ else .char (Char.ofNat n)

/-- 文字か。 -/
def char? : CodePoint → Option Char
  | .char c => some c
  | .surrogate _ => none

/-- サロゲートか。 -/
def isSurrogate (p : CodePoint) : Bool := p.char?.isNone

/-- サロゲートの符号位置は、その数からまた作れる。 -/
theorem ofCode_surrogate (k : Fin 2048) : ofCode (surrogate k).code = surrogate k := by
  have hk := k.isLt
  show ofCode (0xD800 + k.val) = surrogate k
  unfold ofCode
  rw [dif_pos (by omega)]
  simp

end CodePoint

/-- 符号位置の列。 -/
structure Str where
  points : List CodePoint
  deriving DecidableEq, Repr, Inhabited

namespace Str

/-- 文字だけの列。 -/
def ofString (s : String) : Str := ⟨s.toList.map .char⟩

instance : Coe String Str := ⟨ofString⟩

/-- 空の列。 -/
def empty : Str := ⟨[]⟩

instance : Append Str := ⟨fun a b => ⟨a.points ++ b.points⟩⟩

/-- 一つのサロゲートの列。 -/
def surrogate (k : Fin 2048) : Str := ⟨[.surrogate k]⟩

/-- 符号位置の数の列。 -/
def codes (s : Str) : List Nat := s.points.map CodePoint.code

instance : LT Str := ⟨fun a b => List.lt a.codes b.codes⟩
instance : LE Str := ⟨fun a b => List.le a.codes b.codes⟩

instance (a b : Str) : Decidable (a < b) := List.decidableLT a.codes b.codes
instance (a b : Str) : Decidable (a ≤ b) := inferInstanceAs (Decidable (List.le a.codes b.codes))

/-- 文字の列。サロゲートを含めば `none`。 -/
def chars? (s : Str) : Option (List Char) := s.points.mapM CodePoint.char?

/-- サロゲートを含まなければ、その文字列。 -/
def toString? (s : Str) : Option String := String.ofList <$> s.chars?

/-- サロゲートを含むか。そのような列は UTF-8 にできない。 -/
def hasSurrogate (s : Str) : Bool := s.points.any CodePoint.isSurrogate

/-- 画面に書くための文字列。サロゲートは `U+FFFD`。 -/
def lossy (s : Str) : String :=
  String.ofList (s.points.map fun p => p.char?.getD '\uFFFD')

/-- UTF-8 に（サロゲートもそのまま三 byte に）符号化してから、読めない byte を `U+FFFD` に
して読み戻した文字列。サロゲートの三 byte `ED A0..BF 80..BF` は、`ED` の次に来てよいのが
`80..9F` なのでどの部分も正しい並びにならず、サロゲート一つは `U+FFFD` 三つになる。 -/
def lossyUtf8 (s : Str) : String :=
  String.ofList (s.points.flatMap fun p => match p with
    | .char c => [c]
    | .surrogate _ => ['\uFFFD', '\uFFFD', '\uFFFD'])

/-- 符号位置の数。 -/
def length (s : Str) : Nat := s.points.length

/-- 空か。 -/
def isEmpty (s : Str) : Bool := s.points.isEmpty

/-- 文字 `c` を含むか。 -/
def contains (s : Str) (c : Char) : Bool := s.points.contains (.char c)

/-- 文字列 `p` で始まるか。 -/
def startsWith (s : Str) (p : String) : Bool := (ofString p).points.isPrefixOf s.points

/-- 先頭の `n` 個を除く。 -/
def drop (s : Str) (n : Nat) : Str := ⟨s.points.drop n⟩

/-- 文字 `c` を除く。 -/
def erase (s : Str) (c : Char) : Str := ⟨s.points.filter (· != .char c)⟩

/-- 文字 `c` で区切る。区切りが続けば空の列が入る。 -/
def split (s : Str) (c : Char) : List Str :=
  (s.points.splitOn (.char c)).map Str.mk

/-- 文字の連なりに `f` を施す。サロゲートはそのまま残し、その両側は別々に施す。 -/
def mapRuns (f : String → String) (s : Str) : Str :=
  let flush (run : List Char) (acc : List CodePoint) : List CodePoint :=
    if run.isEmpty then acc else acc ++ (f (String.ofList run)).toList.map .char
  let (run, acc) := s.points.foldl (fun (run, acc) p =>
    match p with
    | .char c => (run ++ [c], acc)
    | .surrogate k => ([], flush run acc ++ [.surrogate k])) ([], [])
  ⟨flush run acc⟩

/-- 文字だけの列は、元の文字列に読み戻せる。 -/
theorem toString?_ofString (s : String) : (ofString s).toString? = some s := by
  have h : ∀ l : List Char, (l.map CodePoint.char).mapM CodePoint.char? = some l := by
    intro l
    induction l with
    | nil => rfl
    | cons c r ih => simp [List.mapM_cons, CodePoint.char?, ih]
  simp [toString?, chars?, ofString, h]

/-- 文字だけの列はサロゲートを含まない。 -/
theorem hasSurrogate_ofString (s : String) : (ofString s).hasSurrogate = false := by
  simp [hasSurrogate, ofString, CodePoint.isSurrogate, CodePoint.char?]

/-- 文字だけの列の符号位置は、文字の数。 -/
theorem codes_ofString (s : String) : (ofString s).codes = s.toList.map Char.toNat := by
  simp [codes, ofString, CodePoint.code]

end Str

end CrossPool.Text
