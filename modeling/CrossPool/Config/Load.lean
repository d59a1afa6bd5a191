import CrossPool.Config.Build
import CrossPool.Yaml.Document

/-!
# 設定ファイルを読む

作業場所（`Workspace`）のファイルを YAML（JSON も含む）として読み、設定かプールの一覧を作る。

* ファイルがなければ `Configuration file not found: パス`。
* ディレクトリなら `Failed to load config パス: [Errno 21] Is a directory: 'パス'`。
* YAML として読めなければ `Invalid YAML in パス: 誤りの文`。
* 空の文書なら `Empty configuration file: パス`。

ファイルは文字列として読み、改行の `\r\n` と `\r` は `\n` にそろえる。

## パス

パスは `/` で区切り、空の区切りと `.` を除いた形（`pathText`）で書く。先頭の `/` は
一つにまとめるが、ちょうど二つならそのまま残す。`..` は残す。

パスを引く（`Workspace.lookup`）ときは、作業場所のディレクトリから区切りを一つずつたどる。
`..` は一つ上、名前はその中の項目で、途中の項目はディレクトリでなければならない
（`c/../p.json` は `c` がディレクトリのときだけ `p.json`）。作業場所より上と絶対パスの
`/` はディレクトリとして扱い、その中の名前は見つからないものとする。
-/

namespace CrossPool.Config

open Data

/-- 作業場所。ファイルのパスと中身、ディレクトリのパス。 -/
structure Workspace where
  files : List (String × String)
  directories : List String
  deriving Inhabited

/-- パスの区切りのうち、空のものと `.` を除いたもの。 -/
def pathParts (p : String) : List String :=
  (p.splitOn "/").filter fun s => !s.isEmpty && s != "."

/-- パスの根。`/` で始まらなければ空、ちょうど二つの `/` で始まれば `//`、それ以外は `/`。 -/
def pathRoot (p : String) : String :=
  if p.startsWith "//" && !p.startsWith "///" then "//"
  else if p.startsWith "/" then "/"
  else ""

/-- パスの表記。 -/
def pathText (p : String) : String :=
  let body := "/".intercalate (pathParts p)
  if (pathRoot p).isEmpty && body.isEmpty then "." else pathRoot p ++ body

/-- パスにあるもの。 -/
inductive Entry where
  | missing
  | file (text : String)
  | directory

/-- 作業場所の中のディレクトリか。明示されたディレクトリとその途中、ファイルのパスの途中。 -/
def Workspace.isDirectory (w : Workspace) (d : List String) : Bool :=
  d.isEmpty || w.directories.any (fun q => d.isPrefixOf (pathParts q)) ||
    w.files.any (fun (q, _) => d.isPrefixOf (pathParts q) && d.length < (pathParts q).length)

/-- 作業場所の中のファイル。 -/
def Workspace.fileAt? (w : Workspace) (d : List String) : Option String :=
  (w.files.find? (fun (q, _) => pathParts q == d)).map Prod.snd

/-- たどっている位置。作業場所の中のディレクトリか、作業場所より上のディレクトリ。 -/
inductive Place where
  | inside (dir : List String)
  | above

/-- 位置 `at` から区切りの列をたどる。 -/
def Workspace.walk (w : Workspace) : Place → List String → Entry
  | .above, [] | .inside _, [] => .directory
  | .above, ".." :: rest => w.walk .above rest
  | .above, _ :: _ => .missing
  | .inside d, ".." :: rest => w.walk (if d.isEmpty then .above else .inside d.dropLast) rest
  | .inside d, name :: rest =>
    let q := d ++ [name]
    match w.fileAt? q, rest with
    | some text, [] => .file text
    | some _, _ :: _ => .missing
    | none, _ => if w.isDirectory q then w.walk (.inside q) rest else .missing

/-- パスを引く。 -/
def Workspace.lookup (w : Workspace) (path : String) : Entry :=
  w.walk (if (pathRoot path).isEmpty then .inside [] else .above) (pathParts path)

/-- 改行をそろえる。 -/
def universalNewlines (s : String) : String :=
  let rec go : List Char → List Char
    | '\r' :: '\n' :: r => '\n' :: go r
    | '\r' :: r => '\n' :: go r
    | c :: r => c :: go r
    | [] => []
  String.ofList (go s.toList)

/-- YAML 以外の誤りを失敗にする。 -/
def foreignFault (kind message : String) : Fault :=
  if kind == "ValueError" then .invalidValue message else .other kind message

/-- ファイルを一つの文書として読む。 -/
def loadDocument (w : Workspace) (path : String) : Except Fault Value :=
  let name := pathText path
  match w.lookup path with
  | .missing => .error (.config ("Configuration file not found: " ++ name))
  | .directory =>
    .error (.config ("Failed to load config " ++ name ++ ": [Errno 21] Is a directory: " ++
      quoteText name))
  | .file text =>
    match Yaml.readDocument (universalNewlines text) with
    | .ok (some v) => .ok v
    | .ok none => .error (.config ("Empty configuration file: " ++ name))
    | .error e =>
      match e.render name, e with
      | some msg, _ => .error (.config ("Invalid YAML in " ++ name ++ ": " ++ msg))
      | none, .foreign kind message => .error (foreignFault kind message)
      | none, _ => .error (.other "YAMLError" "")

/-- 設定ファイルを読み、検証の仕組み `V` で検査する。 -/
def loadScannerConfig (V : Validator) (w : Workspace) (path : String) :
    Except Fault ScannerConfig := do
  build V (← loadDocument w path)

/-- プールの一覧のファイルを読み、検証の仕組み `V` で検査する。 -/
def loadPoolSnapshot (V : Validator) (w : Workspace) (path : String) (defaultTimestamp : Float) :
    Except Fault (List PoolState) := do
  parseSnapshot V (← loadDocument w path) defaultTimestamp

end CrossPool.Config
