import CrossPool.Cli.Args
import CrossPool.Runner

/-!
# 走査器のコマンド

引数を読み、設定ファイルとプールの一覧を作業場所から読んで走査を回す。画面に書くものは
標準出力、誤りの文は標準エラー出力に分ける。

1. 引数の誤りや `--help`、`--version` は `parseArgs` のとおりに終える。
2. `--cycles` が 1 未満、`--interval` が負なら設定の誤り（終了の番号 1）。
3. 設定ファイルが読めないか、走査器が作れなければ `❌ Config error: 文`。
4. 回の途中でプールの一覧が読めなければ `❌ Pool snapshot error: 文`。そこまでの出力は残す。
5. 設定の誤りでない失敗（YAML の値の変換の失敗、回の間の待ちの失敗、値が空の列の
   選択肢を使ったときの型の誤りなど）はコマンドの外に出る。そのときは出力は残らない。

ログは選んだ重要度以上のものを、時計の読み `time` の時分秒を付けて標準出力に書く。
時計は止まっているので、プールの一覧の更新時刻の既定も `time`。
-/

namespace CrossPool.Cli

/-- コマンドの結果。終了の番号、標準出力、標準エラー出力。 -/
structure Outcome where
  exit : Nat
  stdout : String
  stderr : String

/-- 出力の列を、ログを閾値で選んで書く。 -/
def renderOutputs (outputs : List Output) (threshold : Log.Level) (time : Float) : String :=
  String.join (outputs.filterMap fun o => match o with
    | .text s => some s
    | .log r => if r.shown threshold then some (r.line time ++ "\n") else none)

/-- 設定の誤りで終える。 -/
def configError (message : String) : Outcome := ⟨1, "", "❌ Config error: " ++ message ++ "\n"⟩

/-- 設定の誤りか。 -/
def isConfigFault : Fault → Bool
  | .invalidConfig .. => true
  | _ => false

/-- 空の列を数と比べた失敗。 -/
def listComparison : Fault :=
  .other "TypeError" "'<' not supported between instances of 'list' and 'int'"

/-- 空の列をファイルの場所として使った失敗。 -/
def listPath : Fault := .other "TypeError" "expected str, bytes or os.PathLike object, not list"

/-- 値が空の列でなければその値、空の列なら失敗 `e`。 -/
def Setting.get {α : Type} (e : Fault) : Setting α → Except Fault α
  | .given x => .ok x
  | .emptyList => .error e

/-- コマンドを実行する。設定ファイルとプールの一覧は検証の仕組み `V` で検査する。失敗は
コマンドの外に出た失敗。重要度、回数、間隔、設定ファイル、プールの一覧の順に値を使うので、
空の列の値はその順に失敗になる。 -/
def command (V : Config.Validator) (argv : List String) (w : Config.Workspace) (time : Float) :
    Except Fault Outcome :=
  match parseArgs argv with
  | .exit code out err => .ok ⟨code, out, err⟩
  | .run o => do
    let level ← o.logLevel.get (.invalidValue "Unknown log level: []")
    let threshold := (Log.Level.parse? level).getD .info
    let cycles ← match o.cycles with
      | some c => some <$> c.get listComparison
      | none => pure none
    let interval ← o.interval.get listComparison
    if cycles.any (· < 1) then return configError "--cycles must be >= 1"
    if interval < 0.0 then return configError "--interval cannot be negative"
    let configPath ← o.config.get listPath
    match Config.loadScannerConfig V w configPath >>= fun c => Runner.create c time with
    | .error e => if isConfigFault e then .ok (configError e.message) else .error e
    | .ok r =>
      let cycles := if o.once then some 1 else cycles.map Int.toNat
      let source : PoolSource := fun _ now => do
        let pools ← (o.pools.getD (.given "")).get listPath
        Config.loadPoolSnapshot V w pools now
      let (r, res) := r.run source cycles interval 0.0 none
      let out := renderOutputs r.outputs threshold time
      match res with
      | .ok _ => .ok ⟨0, out, ""⟩
      | .error e =>
        if isConfigFault e then .ok ⟨1, out, "❌ Pool snapshot error: " ++ e.message ++ "\n"⟩
        else .error e

end CrossPool.Cli
