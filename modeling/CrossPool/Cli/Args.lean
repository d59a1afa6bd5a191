import CrossPool.Text.Numeral
import CrossPool.Data.Show

/-!
# コマンドの引数

走査器のコマンドの引数を左から順に読む。

* `--config CONFIG`、`--pools POOLS`（必須）、`--cycles CYCLES`（整数）、
  `--interval INTERVAL`（浮動小数点数）、`--log-level`（`debug`、`info`、`warning`、
  `error` のどれか）は値を一つとる。値は次の引数か、`--cycles=3` の形で `=` の後。
* `--once` は値をとらない。`-h`、`--help` は使い方を、`--version` は版を書いて終える。
* `--` で始まる引数は、ほかと紛れなければ名前の先頭だけでもよい。
* `=` の後の値が `--` だけなら、値は空の列（`Setting.emptyList`）になる。
* `-` で始まる引数は選択肢とみなす。ただし負の数の形と、空白を含むものは値。
  `--` の後はすべて値。
* 誤りは使い方に続けて `run_scanner.py: error: 文` を書き、終了の番号は 2。
  値の誤りはその選択肢を読んだとき、必須の選択肢の欠けと余った引数は最後に
  この順で調べる。
-/

namespace CrossPool.Cli

/-- 選択肢。 -/
inductive Flag where
  | help
  | config
  | pools
  | once
  | cycles
  | interval
  | logLevel
  | version
  deriving BEq

/-- 選択肢の綴り。並びは名前の先頭で引くときの順。 -/
def flagSpellings : List (String × Flag) :=
  [("-h", .help), ("--help", .help), ("--config", .config), ("--pools", .pools),
   ("--once", .once), ("--cycles", .cycles), ("--interval", .interval),
   ("--log-level", .logLevel), ("--version", .version)]

/-- 値をとるか。 -/
def Flag.takesValue : Flag → Bool
  | .config | .pools | .cycles | .interval | .logLevel => true
  | _ => false

/-- 誤りの文に書く名前。 -/
def Flag.label : Flag → String
  | .help => "-h/--help"
  | .config => "--config"
  | .pools => "--pools"
  | .once => "--once"
  | .cycles => "--cycles"
  | .interval => "--interval"
  | .logLevel => "--log-level"
  | .version => "--version"

/-- 記録の重要度の選び方。 -/
def levelChoices : List String := ["debug", "info", "warning", "error"]

/-- 値をとる選択肢の値。`--cycles=--` のように `=` の後が `--` だけのとき、その `--` は
取り除かれて値は空の列になり、型の変換も選び方の検査もされない。 -/
inductive Setting (α : Type) where
  | given (x : α)
  | emptyList

/-- 与えられた値。空の列なら `none`。 -/
def Setting.given? {α : Type} : Setting α → Option α
  | .given x => some x
  | .emptyList => none

/-- 読み取った引数。 -/
structure Options where
  config : Setting String
  pools : Option (Setting String)
  once : Bool
  cycles : Option (Setting Int)
  interval : Setting Float
  logLevel : Setting String

/-- 走査が読むファイルのパス。設定ファイルとプールの一覧の順。 -/
def Options.paths (o : Options) : List String :=
  o.config.given?.toList ++ (o.pools.bind Setting.given?).toList

/-- 何も指定しないときの引数。 -/
def Options.initial : Options :=
  { config := .given "configs/scanner.example.yaml", pools := none, once := false, cycles := none
    interval := .given 5.0, logLevel := .given "info" }

/-- 使い方の一行目からの三行。 -/
def usage : String :=
  "usage: run_scanner.py [-h] [--config CONFIG] --pools POOLS [--once]\n" ++
  "                      [--cycles CYCLES] [--interval INTERVAL]\n" ++
  "                      [--log-level \x7bdebug,info,warning,error\x7d] [--version]\n"

/-- 使い方の全文。 -/
def helpText : String :=
  usage ++ "\n" ++
  "Liquidity-aware DEX pool arbitrage scanner\n\n" ++
  "options:\n" ++
  "  -h, --help            show this help message and exit\n" ++
  "  --config CONFIG       Path to config YAML file (default:\n" ++
  "                        configs/scanner.example.yaml)\n" ++
  "  --pools POOLS         Path to a YAML or JSON pool snapshot, re-read every\n" ++
  "                        cycle\n" ++
  "  --once                Run a single scan and exit (same as --cycles 1)\n" ++
  "  --cycles CYCLES       Number of scans to run (default: until interrupted)\n" ++
  "  --interval INTERVAL   Seconds between scans (default: 5)\n" ++
  "  --log-level \x7bdebug,info,warning,error\x7d\n" ++
  "                        Logging verbosity (default: info)\n" ++
  "  --version             show program's version number and exit\n\n" ++
  "Examples:\n" ++
  "  # Single scan (for testing/CI)\n" ++
  "  python3 run_scanner.py --pools configs/pools.example.yaml --once\n\n" ++
  "  # Ten scans, one every 2 seconds, with debug logging\n" ++
  "  python3 run_scanner.py --pools configs/pools.example.yaml --cycles 10 --interval 2 " ++
  "--log-level debug\n" ++
  "        \n"

/-- 版の表記。 -/
def versionText : String := "Pool-Arbitrage-Scanner 0.3.0\n"

/-- 引数を読んだ結果。実行するか、書いて終えるか。 -/
inductive Parsed where
  | run (o : Options)
  | exit (code : Nat) (stdout stderr : String)

/-- 引数の誤りで終える。 -/
def usageError (message : String) : Parsed :=
  .exit 2 "" (usage ++ "run_scanner.py: error: " ++ message ++ "\n")

/-- 負の数の形か（`-12`、`-1.5`、`-.5`）。数字は ASCII でなくてもよく、末尾の改行一つは
許す。 -/
def looksNegative (s : String) : Bool :=
  let cs := s.toList
  let cs := if cs.getLast? == some '\n' then cs.dropLast else cs
  let isDigit (c : Char) : Bool := (Text.decimalValue? c).isSome
  match cs with
  | '-' :: rest =>
    let ip := rest.takeWhile isDigit
    let after := rest.dropWhile isDigit
    (!ip.isEmpty && after.isEmpty) ||
      (match after with
       | '.' :: fs => !fs.isEmpty && fs.all isDigit
       | _ => false)
  | _ => false

/-- 引数の見かけ。 -/
inductive Shape where
  /-- 値。 -/
  | value
  /-- `--`。この後はすべて値。 -/
  | dashes
  /-- 選択肢。知らない選択肢なら `flag` は `none`。`explicit` は同じ引数の中の値。 -/
  | option (flag : Option Flag) (spelling : String) (explicit : Option String)

/-- 最初の `=` の前と後。 -/
def splitEq (s : String) : String × Option String :=
  match s.splitOn "=" with
  | [a] => (a, none)
  | a :: rest => (a, some ("=".intercalate rest))
  | [] => (s, none)

/-- 綴りの選択肢。 -/
def exactFlag (spelling : String) : Option Flag :=
  (flagSpellings.find? (·.1 == spelling)).map Prod.snd

/-- 名前の先頭で引いた候補。`--` で始まれば `=` の前で引き、`-` 一つなら最初の二文字が
一文字の選択肢の綴りであれば残りをその値とする。 -/
def candidates (arg : String) : List (Flag × String × Option String) :=
  if arg.startsWith "--" then
    let (name, explicit) := splitEq arg
    (flagSpellings.filter (·.1.startsWith name)).map fun (sp, f) => (f, sp, explicit)
  else
    let short := String.ofList (arg.toList.take 2)
    flagSpellings.filterMap fun (sp, f) =>
      if sp == short then some (f, sp, some (String.ofList (arg.toList.drop 2)))
      else if sp.startsWith arg then some (f, sp, none)
      else none

/-- 一つの引数の見かけを決める。紛らわしい名前は誤り。 -/
def classify (arg : String) : Except String Shape :=
  if arg.isEmpty || !arg.startsWith "-" then .ok .value
  else
    match exactFlag arg with
    | some f => .ok (.option (some f) arg none)
    | none =>
      if arg.length == 1 then .ok .value
      else
        let (name, explicit) := splitEq arg
        match explicit.bind fun _ => exactFlag name with
        | some f => .ok (.option (some f) name explicit)
        | none =>
          match candidates arg with
          | [(f, sp, e)] => .ok (.option (some f) sp e)
          | [] =>
            if looksNegative arg || arg.contains ' ' then .ok .value
            else .ok (.option none arg none)
          | many => .error ("ambiguous option: " ++ arg ++ " could match " ++
              ", ".intercalate (many.map (·.2.1)))

/-- すべての引数の見かけを決める。`--` の後はすべて値。 -/
def classifyAll : List String → Except String (List Shape)
  | [] => .ok []
  | arg :: rest =>
    if arg == "--" then .ok (.dashes :: rest.map fun _ => .value)
    else do
      let s ← classify arg
      return s :: (← classifyAll rest)

/-- 値をとらない一文字の選択肢に続く文字を、一文字の選択肢の並びとして読む。読んだ
選択肢と、最後の選択肢がとる値（あれば）を返す。 -/
def chainFlags : Nat → Flag → String → String → Except String (List Flag × Flag × Option String)
  | 0, f, _, e => .error ("argument " ++ f.label ++ ": ignored explicit argument " ++ Data.quoteText e)
  | fuel + 1, f, sp, e =>
    if f.takesValue then .ok ([], f, some e)
    else if (sp.toList.drop 1).head? != some '-' && !e.isEmpty then
      let sp := String.ofList ('-' :: e.toList.take 1)
      match exactFlag sp with
      | some g =>
        if e.length == 1 then .ok ([f], g, none)
        else do
          let (fs, last, v) ← chainFlags fuel g sp (String.ofList (e.toList.drop 1))
          return (f :: fs, last, v)
      | none => .error ("argument " ++ f.label ++ ": ignored explicit argument " ++ Data.quoteText e)
    else .error ("argument " ++ f.label ++ ": ignored explicit argument " ++ Data.quoteText e)

/-- 値が空の列になった選択肢を入れる。 -/
def assignEmpty (o : Options) : Flag → Options
  | .config => { o with config := .emptyList }
  | .pools => { o with pools := some .emptyList }
  | .cycles => { o with cycles := some .emptyList }
  | .interval => { o with interval := .emptyList }
  | .logLevel => { o with logLevel := .emptyList }
  | _ => o

/-- 値を選択肢に入れる。値が `--` だけなら空の列。 -/
def assign (o : Options) (f : Flag) (v : String) : Except String Options :=
  if v == "--" then .ok (assignEmpty o f)
  else
    match f with
    | .config => .ok { o with config := .given v }
    | .pools => .ok { o with pools := some (.given v) }
    | .cycles =>
      match Text.intText? v with
      | some n => .ok { o with cycles := some (.given n) }
      | none => .error ("argument --cycles: invalid int value: " ++ Data.quoteText v)
    | .interval =>
      match Text.floatText? v with
      | some x => .ok { o with interval := .given x }
      | none => .error ("argument --interval: invalid float value: " ++ Data.quoteText v)
    | .logLevel =>
      if levelChoices.contains v then .ok { o with logLevel := .given v }
      else .error ("argument --log-level: invalid choice: " ++ Data.quoteText v ++
        " (choose from " ++ ", ".intercalate (levelChoices.map Data.quoteText) ++ ")")
    | _ => .ok o

/-- 選択肢を一つ行う。終えるなら `none` の代わりに終わり方を返す。 -/
def act (o : Options) (f : Flag) (v : Option String) : Except Parsed Options :=
  match f, v with
  | .help, _ => .error (.exit 0 helpText "")
  | .version, _ => .error (.exit 0 versionText "")
  | .once, _ => .ok { o with once := true }
  | f, some v => (assign o f v).mapError usageError
  | f, none => .error (usageError ("argument " ++ f.label ++ ": expected one argument"))

/-- 見かけを決めた引数を順に読む。値でない引数と知らない選択肢は余りとして集める。 -/
def consume : List (String × Shape) → Options → List String → Parsed
  | [], o, extras =>
    if o.pools.isNone then usageError "the following arguments are required: --pools"
    else if !extras.isEmpty then usageError ("unrecognized arguments: " ++ " ".intercalate extras)
    else .run o
  | (arg, .value) :: rest, o, extras => consume rest o (extras ++ [arg])
  | (arg, .dashes) :: rest, o, extras => consume rest o (extras ++ [arg])
  | (arg, .option none _ _) :: rest, o, extras => consume rest o (extras ++ [arg])
  | (_, .option (some f) sp explicit) :: rest, o, extras =>
    let steps : Except String (List Flag × Flag × Option String) :=
      match explicit with
      | some e => chainFlags (e.length + 1) f sp e
      | none => .ok ([], f, none)
    match steps with
    | .error m => usageError m
    | .ok (before, last, v) =>
      let taken : Except Parsed Options := before.foldlM (fun o g => act o g none) o
      match taken with
      | .error p => p
      | .ok o =>
        match v with
        | some v =>
          match act o last (some v) with
          | .ok o => consume rest o extras
          | .error p => p
        | none =>
          if last.takesValue then
            match _hr : rest with
            | (w, .value) :: rest' =>
              match act o last (some w) with
              | .ok o => consume rest' o extras
              | .error p => p
            | _ => usageError ("argument " ++ last.label ++ ": expected one argument")
          else
            match act o last none with
            | .ok o => consume rest o extras
            | .error p => p
termination_by args => args.length
decreasing_by all_goals (try subst_vars); all_goals (simp only [List.length_cons]; omega)

/-- 引数を読む。まずすべての引数の見かけを決め、次に左から順に行う。 -/
def parseArgs (argv : List String) : Parsed :=
  match classifyAll argv with
  | .error m => usageError m
  | .ok shapes => consume (argv.zip shapes) Options.initial []

end CrossPool.Cli
