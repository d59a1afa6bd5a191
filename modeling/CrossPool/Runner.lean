import CrossPool.Config.Load
import CrossPool.Detector.Scan
import CrossPool.Monitor.Ops
import CrossPool.Report.Grid

/-!
# 走査の繰り返し

走査器は一回ごとに次のことをする。

1. プールの一覧を読み、記録を監視器に書き込む。一覧に記録のない更新時刻は今の時計の読み。
2. 時計の読みで古い記録を取り除く。
3. すべての組を走査する。
4. 時計を `clockStep` だけ進め、結果を表にして書く。

始めに設定の要約を、終わりに計測値の要約（デバッグのログ）を書く。`cycles` 回で
終わるか、止める合図があれば今の回のあとで終わる。回数の指定がなければ
`unboundedCycles` 回まで回る。

回の間では `interval` 秒待つ（`pause`）。待ちは時計を進めないが、待ち時間が
ナノ秒の 64 bit 符号付き整数に収まらなければ失敗する。

画面に出るものは、書いた文字列とログの記録を起きた順に並べた `Output` の列。
-/

namespace CrossPool

/-- 画面に出るもの。 -/
inductive Output where
  | text (s : String)
  | log (r : Log.Record)

/-! ## 端末の文字の飾り -/

namespace Colors

/-- 飾りを戻す。 -/
def reset : String := "\x1b[0m"
/-- 太字。 -/
def bold : String := "\x1b[1m"
/-- 淡色。 -/
def dim : String := "\x1b[2m"
/-- 赤。 -/
def red : String := "\x1b[91m"
/-- 緑。 -/
def green : String := "\x1b[92m"
/-- 黄。 -/
def yellow : String := "\x1b[93m"
/-- 青緑。 -/
def cyan : String := "\x1b[96m"

end Colors

/-- 結果の表の見出し。 -/
def tableHeaders : List String :=
  ["#", "Pair", "Buy", "Sell", "Spread", "Size", "Net", "P(exec)", "EV", "Score", "Confidence"]

/-- プールの一覧の出どころ。何回目の読み込みかと時計の読みを受けて一覧を返す。 -/
abbrev PoolSource := Nat → Float → Except Fault (List PoolState)

/-- 回数の指定がないときの上限。 -/
def unboundedCycles : Nat := 100000

/-- 走査器。`output` は新しいものが先頭。 -/
structure Runner where
  config : Config.ScannerConfig
  monitor : Monitor
  detector : Detector
  output : List Output
  stopped : Bool

namespace Runner

open Colors Monitor

/-- 設定から走査器を作る。時計の読みは `clock` から始める。 -/
def create (c : Config.ScannerConfig) (clock : Float) : Except Fault Runner := do
  let metrics := if c.metricsEnabled then some Metrics.empty else none
  let cache ← PoolCache.create c.cacheShards
  let monitor ← Monitor.create cache c.maxPoolAge clock (Stability.empty (some 20) 0.02) metrics
  let detector ← Detector.create c.pairs c.settings
  return ⟨c, monitor, detector, [], false⟩

/-- 起きた順の出力。 -/
def outputs (r : Runner) : List Output := r.output.reverse

/-- 書いた文字列だけをつないだもの。 -/
def printed (r : Runner) : String :=
  String.join (r.outputs.filterMap fun o => match o with
    | .text s => some s
    | .log _ => none)

/-- 一行書く。 -/
def say (r : Runner) (s : String) : Runner := { r with output := .text (s ++ "\n") :: r.output }

/-- 監視器の操作を行い、その間のログを出力に移す。 -/
def step {α : Type} (r : Runner) (x : Step α) : Runner × Except Fault α :=
  let move (m : Monitor) : Runner :=
    { r with monitor := { m with log := [] }, output := m.log.map .log ++ r.output }
  match x { r.monitor with log := [] } with
  | .ok a m => (move m, .ok a)
  | .error e m => (move m, .error e)

/-- デバッグのログを残す。 -/
def debug (r : Runner) (message : String) : Runner :=
  { r with output := .log ⟨.debug, message⟩ :: r.output }

/-- 設定の要約。 -/
def banner (r : Runner) : Runner :=
  let c := r.config
  let s := c.settings
  let rule := String.ofList (List.replicate 80 '═')
  let r := r.say ("\n" ++ cyan ++ bold ++ rule ++ reset)
  let r := r.say (cyan ++ bold ++ "  POOL ARBITRAGE SCANNER" ++ reset)
  let r := r.say (cyan ++ rule ++ reset ++ "\n")
  let r := r.say ("  " ++ dim ++ "Pairs:" ++ reset ++ " " ++ green ++ toString c.pairs.length ++
    reset ++ " | " ++ dim ++ "Max pool age:" ++ reset ++ " " ++ green ++
    Binary64.toShortString c.maxPoolAge ++ reset ++ " | " ++ dim ++ "Samples:" ++ reset ++ " " ++
    green ++ toString s.tradeSizeSamples ++ " (" ++ s.gridSpacing ++ ")" ++ reset)
  r.say ("  " ++ dim ++ "Min net:" ++ reset ++ " " ++ green ++ s.minNetProfitPct.toSci ++ "%" ++
    reset ++ " | " ++ dim ++ "Min P(exec):" ++ reset ++ " " ++ green ++
    Binary64.toShortString s.minExecutionProb ++ reset ++ " | " ++ dim ++ "Min score:" ++ reset ++
    " " ++ green ++ Binary64.toShortString s.minEvScore ++ reset ++ "\n")

/-- 表を作れないとき（すべての行が区切りの行）の失敗。 -/
def tableFault : Fault := .other "IndexError" "list index out of range"

/-- 一回の結果を書く。表の前で失敗しても、それまでに書いたものは残る。 -/
def printResults (r : Runner) (found : List Opportunity) (n : Nat) : Runner × Except Fault Unit :=
  let st := r.monitor.stats
  let r := r.say ("\n  " ++ bold ++ "Scan #" ++ toString n ++ reset ++ " " ++ dim ++ "(" ++
    toString st.freshPools ++ "/" ++ toString st.totalPools ++ " fresh pools, " ++
    toString st.tokenPairs ++ " pairs)" ++ reset)
  if found.isEmpty then (r.say ("  " ++ dim ++ "(no opportunities above thresholds)" ++ reset), .ok ())
  else
    let table : Except Fault String := do
      match Report.grid tableHeaders (← Opportunity.rows found 10) with
      | some t => pure t
      | none => throw tableFault
    match table with
    | .error e => (r, .error e)
    | .ok t =>
      let r := r.say t
      match found.filterM fun o => r.detector.isExecutable o none none with
      | .error e => (r, .error e)
      | .ok executable =>
        let color := if executable.isEmpty then yellow else green
        (r.say ("  " ++ color ++ toString executable.length ++ " executable of " ++
          toString found.length ++ reset), .ok ())

/-- 一回分の読み込みと走査。 -/
def scanOnce (r : Runner) (source : PoolSource) (i : Nat) :
    Runner × Except Fault (List Opportunity) :=
  let now := r.monitor.clock
  match source i now with
  | .error e => (r, .error e)
  | .ok pools =>
    let (r, res) := r.step (pools.forM fun p => updatePool p)
    match res with
    | .error e => (r, .error e)
    | .ok () =>
      let (r, pruned) := r.step (pruneStale now)
      match pruned with
      | .error e => (r, .error e)
      | .ok pruned =>
        let (r, scanned) := r.step (r.detector.scan none)
        match scanned with
        | .error e => (r, .error e)
        | .ok (d, found) =>
          let r := { r with detector := d }
          let r := r.debug ("Cycle: " ++ toString pools.length ++ " pools loaded, " ++
            toString pruned ++ " pruned, " ++ toString found.length ++ " opportunities in 0.0ms")
          (r, .ok found)

/-- 回の間の待ちを確かめる。正でない待ち時間（NaN を含む）は待たない。正なら
ナノ秒に切り上げて `2^63` 以下でなければならない。ちょうど `2^63` なら 64 bit 符号付き
整数にすると負になり、待ち時間は負とみなされる。さらにマイクロ秒に切り上げて
`(2^63 - 1) / 1000` 以下でなければならない。 -/
def pause (interval : Float) : Except Fault Unit :=
  if !(interval > 0.0) then .ok ()
  else
    let ns := (interval * 1000000000.0).ceil
    if !(ns ≤ 9223372036854775808.0) then
      .error (.outOfRange "timestamp too large to convert to C _PyTime_t")
    else if ns == 9223372036854775808.0 then .error (.invalidValue "timeout value must be positive")
    else
      let us := ((Binary64.truncate? ns).getD 0 + 999) / 1000
      if (Int.pow 2 63 - 1) / 1000 < us then .error (.outOfRange "timeout value is too large")
      else .ok ()

/-- 一回を行う。続けるなら `true`。続けるときは回の間の待ちを確かめる。 -/
def cycle (source : PoolSource) (cycles : Option Nat) (interval clockStep : Float)
    (stopAfter : Option Nat) (r : Runner) (done : Nat) : Runner × Except Fault Bool :=
  let n := done + 1
  match r.scanOnce source done with
  | (r, .error e) => (r, .error e)
  | (r, .ok found) =>
    let r := { r with monitor := { r.monitor with clock := r.monitor.clock + clockStep } }
    let r := if stopAfter == some n then { r with stopped := true } else r
    match r.printResults found n with
    | (r, .error e) => (r, .error e)
    | (r, .ok ()) =>
      if cycles.any (· ≤ n) || r.stopped then (r, .ok false)
      else
        match pause interval with
        | .ok () => (r, .ok true)
        | .error e => (r, .error e)

/-- 回を繰り返し、行った回数を返す。 -/
def loop (source : PoolSource) (cycles : Option Nat) (interval clockStep : Float)
    (stopAfter : Option Nat) : Nat → Runner → Nat → Runner × Except Fault Nat
  | 0, r, done => (r, .ok done)
  | fuel + 1, r, done =>
    if r.stopped then (r, .ok done)
    else
      match cycle source cycles interval clockStep stopAfter r done with
      | (r, .error e) => (r, .error e)
      | (r, .ok true) => loop source cycles interval clockStep stopAfter fuel r (done + 1)
      | (r, .ok false) => (r, .ok (done + 1))

/-- 走査を始めから終わりまで行う。`stopAfter = some 0` なら始める前に止める合図がある。 -/
def run (r : Runner) (source : PoolSource) (cycles : Option Nat) (interval clockStep : Float)
    (stopAfter : Option Nat) : Runner × Except Fault Nat :=
  let r := r.banner
  let r := if stopAfter == some 0 then { r with stopped := true } else r
  match loop source cycles interval clockStep stopAfter (cycles.getD unboundedCycles) r 0 with
  | (r, .error e) => (r, .error e)
  | (r, .ok n) =>
    match r.monitor.metrics with
    | some mt => (r.debug ("Metrics: " ++ mt.summary), .ok n)
    | none => (r, .ok n)

end Runner

end CrossPool
