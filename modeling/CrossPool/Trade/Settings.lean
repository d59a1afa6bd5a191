import CrossPool.Calc

/-!
# 検出の設定と監視するトークンの組

* `Settings` — 検出器の設定。利益と実行確率の閾値、取引量の格子、手数料とガス代、
  期待値の尺度、結果の上限。
* `MonitoredPair` — 操作者が指定するトークンの組。取引量はトークン a の単位で、
  `tradeSizes` があれば生成する格子の代わりにそれを使う。
* `Confidence` — 実行確率と純利益から決める信頼度の段階。
-/

namespace CrossPool

/-- 検出器の設定。 -/
structure Settings where
  minNetProfitPct : Decimal
  minExecutionProb : Float
  minEvScore : Float
  tradeSizeSamples : Int
  gridSpacing : String
  flashLoanFeeRate : Decimal
  baseFee : Decimal
  priorityFee : Decimal
  tipPctOfGross : Decimal
  evFullScale : Decimal
  maxOpportunities : Int
  deriving Inhabited

/-- 既定の設定。 -/
def Settings.default : Settings where
  minNetProfitPct := Calc.lit "0.1"
  minExecutionProb := 0.3
  minEvScore := 10.0
  tradeSizeSamples := 20
  gridSpacing := "linear"
  flashLoanFeeRate := Calc.lit "0.0009"
  baseFee := Calc.lit "0"
  priorityFee := Calc.lit "0"
  tipPctOfGross := Calc.lit "0.10"
  evFullScale := Calc.lit "100"
  maxOpportunities := 100

/-- 監視するトークンの組。許可リストは重複のない昇順の列。 -/
structure MonitoredPair where
  name : String
  tokenA : String
  tokenB : String
  minTradeSize : Decimal
  maxTradeSize : Decimal
  /-- プールのアドレスの許可リスト。検査のない文字列の列なので、単独のサロゲートも入りうる。 -/
  poolAllowlist : Option (List Text.Str)
  tradeSizes : Option (List Decimal)
  deriving Inhabited

/-- プールのアドレスが許可されるか。許可リストがなければすべて許す。 -/
def MonitoredPair.allows (p : MonitoredPair) (address : String) : Bool :=
  match p.poolAllowlist with
  | none => true
  | some l => l.contains (.ofString address)

/-- 信頼度の段階。低いほうから高いほうへ並ぶ。 -/
inductive Confidence where
  | veryLow
  | low
  | medium
  | high
  | veryHigh
  deriving Repr, DecidableEq, Inhabited

/-- 段階の綴り。 -/
def Confidence.value : Confidence → String
  | .veryHigh => "VeryHigh"
  | .high => "High"
  | .medium => "Medium"
  | .low => "Low"
  | .veryLow => "VeryLow"

/-- 段階の順位。`veryLow` が 0。 -/
def Confidence.rank : Confidence → Nat
  | .veryLow => 0
  | .low => 1
  | .medium => 2
  | .high => 3
  | .veryHigh => 4

/--
実行確率 `prob` と純利益率 `net`（百分率）から信頼度を決める。比較はすべて狭義で、
最初に当てはまる段階を取る。
-/
def Confidence.classify (prob net : Float) : Confidence :=
  if prob > 0.8 && net > 1.0 then .veryHigh
  else if prob > 0.6 && net > 0.5 then .high
  else if prob > 0.4 && net > 0.3 then .medium
  else if prob > 0.2 then .low
  else .veryLow

end CrossPool
