import Std.Time.Format
import CrossPool.Cli.Command
import CrossPool.Config.Check

/-!
# 走査器の実行ファイル

引数から設定ファイルとプールの一覧のパスを決め、その二つを読んで作業場所にし、
今の時刻で `Cli.command` を行う。結果を標準出力と標準エラー出力に書き、終了の番号を返す。
設定の検査には実行できる検証器 `Check.validator` を使い、検査の誤りの報告に説明の置き場所の
行は書かない。
-/

namespace CrossPool.Cli

/-- パスにあるものを読む。読めないディレクトリはディレクトリとして、ほかの失敗は
ないものとして扱う。 -/
def readEntry (path : String) : IO (Option (String × String) × Option String) := do
  try
    let text ← IO.FS.readFile path
    return (some (path, text), none)
  catch e =>
    match e with
    | .inappropriateType .. => return (none, some path)
    | _ => return (none, none)

/-- 今の時刻（1970 年からの秒）。 -/
def wallClock : IO Float := do
  let ns := (← Std.Time.Timestamp.now).toNanosecondsSinceUnixEpoch.val
  return Binary64.ofInt ns / 1000000000.0

end CrossPool.Cli

open CrossPool CrossPool.Cli in
/-- 走査器のコマンド。 -/
def main (args : List String) : IO UInt32 := do
  let paths := match parseArgs args with
    | .run o => o.paths
    | .exit .. => []
  let entries ← paths.mapM readEntry
  let w : Config.Workspace :=
    { files := entries.filterMap (·.1), directories := entries.filterMap (·.2) }
  match command (Check.validator none) args w (← wallClock) with
  | .ok out =>
    IO.print out.stdout
    IO.eprint out.stderr
    return out.exit.toUInt32
  | .error e =>
    IO.eprintln ("Error: " ++ e.message)
    return 1
