import Mathlib
import CrossPool.Proofs.Config.Fields
import CrossPool.Proofs.Detector.WellFormed
import CrossPool.Proofs.Decimal.Monotone
import CrossPool.Proofs.Scan.Faults

/-!
# 受け入れた設定

設定ファイルの検証（`Schema.scannerConfig`）は欄ごとの範囲と組の条件を調べ、組み立て
（`Config.build`）は手数料の bps を比率にする。ここでは、法則 `Validator.Lawful` を満たす
どの検証の仕組みについても、組み立てが受け入れた設定が、走査器を作るときの検査の求めること
（`ScannerConfig.WellFormed`）をすべて満たすことを示す。

* 10 進数の欄は有限で、範囲の端は値の比較になる（`decLt_eq`）。
* 手数料の比率は 0 から 1000 bps を 10000 で割った丸めで、丸めは単調なので `[0, 0.1]` にある
  （`bpsToRate_mem`）。
* 組の名前の重なりは、二度以上現れる名前の一覧が空であることで調べてある。
* 既定値はどれも自分の欄の検査を通る。

そのため走査器が作れないのは格子の計算が 10 進演算の例外条件に当たったときだけで、それは
実際に起こる。最大の取引量が `1E+1000000` の組では、格子の刻みの計算が指数の上限を超える。
-/

namespace CrossPool

namespace Rate

open Decimal in
/-- 0 から 1000 bps の手数料の比率は `[0, 1)` にある。正の値で割る丸めは単調で、1000 bps は 0.1。
符号付きの 0 は 0 のまま。 -/
theorem bpsToRate_mem {fee r : Decimal} (hfin : fee.isFinite = true) (h0 : 0 ≤ fee.value)
    (h1 : fee.value ≤ (Decimal.ofInt 1000).value) (h : bpsToRate fee = .ok r) :
    r.isNan = false ∧ 0 ≤ r.value ∧ r.value < 1 := by
  have hdiv := Calc.liftSignal_eq_ok.mp h
  obtain ⟨neg, c, e⟩ | ⟨⟩ | ⟨⟩ := fee
  · cases neg with
    | false =>
      have hten : Decimal.div Calc.ctx (Decimal.ofInt 1000) (Calc.lit "10000") =
          .ok (.finite false 1 (-1)) := by decide +kernel
      have hpos : 0 < (Calc.lit "10000").value := by
        rw [show Calc.lit "10000" = .finite false 10000 0 from by decide +kernel]
        simp [magnitude]
      obtain ⟨hr, -, hle⟩ := div_plusMono (by decide +kernel) hpos (.finite c e) (.finite 1000 0)
        h1 hdiv hten
      refine ⟨by cases hr <;> rfl, ?_, ?_⟩
      · cases hr with
        | finite c' e' => simpa using magnitude_nonneg c' e'
        | infinity => simp at hle
      · refine hle.trans_lt ?_
        simp [magnitude]
        norm_num
    | true =>
      -- 値が 0 以上の負の符号の有限値は 0 で、割っても 0
      have hc : magnitude c e = 0 := by
        have hneg : (0 : ℚ) ≤ -magnitude c e := by
          rw [show value (.finite true c e) = (((-magnitude c e : ℚ) : WithTop ℚ) :
            WithBot (WithTop ℚ)) from rfl] at h0
          exact_mod_cast h0
        linarith [magnitude_nonneg c e]
      rw [show Calc.lit "10000" = .finite false 10000 0 from by decide +kernel] at hdiv
      obtain ⟨c', e', rfl, hm⟩ :=
        @divFinite_eq_ok Calc.ctx (by decide +kernel) true false c 10000 e 0 r hdiv
      rw [hc, zero_div, Context.round_zero] at hm
      have hv : (Decimal.finite (true != false) c' e').value = 0 := by
        simp [value, signedValue, hm]
      exact ⟨rfl, hv.ge, by rw [hv]; exact zero_lt_one⟩
  · simp [isFinite] at hfin
  · simp [isFinite] at hfin

end Rate

/-! ## 組 -/

namespace Schema

open Data Config

section

variable {V : Validator} (hV : V.Lawful)
include hV

theorem pairRules_eq_ok {v : Value} {p q : PairConfig} (h : pairRules V v p = .ok q) :
    q = p ∧ p.tokenA ≠ p.tokenB ∧ decLt p.maxTradeSize p.minTradeSize = false ∧
      ∀ s ∈ p.tradeSizes.getD [], decLt s p.minTradeSize = false ∧ decLt p.maxTradeSize s = false := by
  unfold pairRules at h
  dsimp only at h
  split at h
  · exact absurd h hV.valueError
  · next htok =>
    split at h
    · exact absurd h hV.valueError
    · next hord =>
      obtain ⟨st, hloop, h⟩ := bind_eq_ok h
      obtain ⟨hin, rfl⟩ := forIn_eq_ok
        (P := fun s => decLt s p.minTradeSize = false ∧ decLt p.maxTradeSize s = false)
        (fun s step hs => by
          split at hs
          · exact absurd hs hV.valueError_bind
          · next hs' => exact ⟨by simpa using hs', (Except.ok.inj hs).symm⟩) hloop
      refine ⟨(Except.ok.inj h).symm, by simpa using htok, by simpa using hord, hin⟩

theorem pairConfig_wellFormed {v : Value} {q : PairConfig} (h : pairConfig V v = .ok q) :
    (Config.toPair q).WellFormed := by
  unfold pairConfig at h
  obtain ⟨kvs, -, h⟩ := bind_eq_ok h
  dsimp only at h
  split at h
  · next _ _ _ _ _ _ _ _ name tokenA tokenB lo hi sizes allow _ htA htB hlo hhi hsizes _ _ =>
    obtain ⟨rfl, hne, hord, hin⟩ := pairRules_eq_ok hV h
    obtain ⟨_, htA⟩ := hV.required htA
    obtain ⟨_, htB⟩ := hV.required htB
    obtain ⟨_, hlo⟩ := hV.required hlo
    obtain ⟨hloFin, -, -, -⟩ := hV.decimal hlo
    obtain ⟨hhiFin, -, -, -⟩ := hV.decimal (hV.required hhi).choose_spec
    have hloNan := Decimal.isNan_eq_false_of_isFinite hloFin
    have hhiNan := Decimal.isNan_eq_false_of_isFinite hhiFin
    dsimp only [Config.toPair]
    refine ⟨hV.nonEmptyStr htA, hV.nonEmptyStr htB, hne, hloNan, hhiNan, ?_, ?_, ?_⟩
    · exact hV.decimal_pos hlo
    · rw [decLt_eq hhiNan hloNan] at hord
      simpa using hord
    · intro xs hxs
      rcases hV.withDefault hsizes with hnone | ⟨x, hx⟩
      · simp [hnone] at hxs
      · replace hxs : sizes = some xs := hxs
        subst hxs
        obtain ⟨hne', hall⟩ := tradeSizesField_eq_ok hV hx
        refine ⟨hne', fun s hs => ?_⟩
        have hsNan := Decimal.isNan_eq_false_of_isFinite (hall s hs).1
        obtain ⟨hlow, hhigh⟩ := hin s hs
        rw [decLt_eq hsNan hloNan] at hlow
        rw [decLt_eq hhiNan hsNan] at hhigh
        exact ⟨hsNan, by simpa using hlow, by simpa using hhigh⟩
  · cases h

end

/-! ## ガス代と検出器の設定 -/

/-- 下限 0 の 10 進数の欄の値は、NaN でなく 0 以上。 -/
theorem nonneg_of_decimal {V : Validator} (hV : V.Lawful) {le : Option Int} {v : Value} {d : Decimal}
    (h : V.decimal none (some 0) le v = .ok d) : d.isNan = false ∧ 0 ≤ d.value :=
  ⟨Decimal.isNan_eq_false_of_isFinite (hV.decimal h).1, hV.decimal_nonneg h⟩

/-- ガス代の欄が検証の範囲にあること。 -/
structure GasConfig.InRange (g : GasConfig) : Prop where
  baseFee : g.baseFee.isNan = false ∧ 0 ≤ g.baseFee.value
  priorityFee : g.priorityFee.isNan = false ∧ 0 ≤ g.priorityFee.value
  tipPctOfGross : g.tipPctOfGross.isNan = false ∧ 0 ≤ g.tipPctOfGross.value

theorem GasConfig.default_inRange : GasConfig.default.InRange := by
  have hzero : (Calc.lit "0").isNan = false ∧ 0 ≤ (Calc.lit "0").value :=
    ⟨rfl, Calc.value_lit_zero.ge⟩
  refine ⟨hzero, hzero, rfl, ?_⟩
  rw [show GasConfig.default.tipPctOfGross = .finite false 10 (-2) from by decide +kernel]
  simpa using Decimal.magnitude_nonneg 10 (-2)

/-- 検出器の設定の欄が検証の範囲にあること。 -/
structure DetectorConfig.InRange (d : DetectorConfig) : Prop where
  minExecutionProb : 0.0 ≤ d.minExecutionProb ∧ d.minExecutionProb ≤ 1.0
  minEvScore : 0.0 ≤ d.minEvScore ∧ d.minEvScore ≤ 100.0
  tradeSizeSamples : 1 ≤ d.tradeSizeSamples
  gridSpacing : d.gridSpacing ∈ Validate.gridSpacings
  flashLoanFeeBps : d.flashLoanFeeBps.isFinite = true ∧ 0 ≤ d.flashLoanFeeBps.value ∧
    d.flashLoanFeeBps.value ≤ (Decimal.ofInt 1000).value
  evFullScale : d.evFullScale.isNan = false ∧ 0 < d.evFullScale.value
  maxOpportunities : 1 ≤ d.maxOpportunities
  gas : d.gas.InRange

theorem DetectorConfig.default_inRange : DetectorConfig.default.InRange := by
  have hfee : DetectorConfig.default.flashLoanFeeBps = .finite false 9 0 := by decide +kernel
  have hscale : DetectorConfig.default.evFullScale = .finite false 100 0 := by decide +kernel
  refine ⟨by decide +kernel, by decide +kernel, by decide, by decide, ?_, ?_, by decide,
    GasConfig.default_inRange⟩
  · rw [hfee, show Decimal.ofInt 1000 = .finite false 1000 0 from rfl]
    refine ⟨rfl, by simpa using Decimal.magnitude_nonneg 9 0, ?_⟩
    rw [Decimal.value_finite_false, Decimal.value_finite_false, Decimal.coe_le_coe_iff]
    norm_num [Decimal.magnitude]
  · rw [hscale]
    refine ⟨rfl, ?_⟩
    simpa using Decimal.magnitude_pos (c := 100) (by norm_num) 0

section

variable {V : Validator} (hV : V.Lawful)
include hV

theorem gasConfig_inRange {v : Value} {g : GasConfig} (h : gasConfig V v = .ok g) : g.InRange := by
  unfold gasConfig at h
  obtain ⟨kvs, -, h⟩ := bind_eq_ok h
  dsimp only at h
  split at h
  · next _ _ _ _ _ _ _ hbase hprio htip _ =>
    cases h
    have dflt := GasConfig.default_inRange
    have hfee : ∀ {le : Option Int} {d a : Decimal} {name : String},
        (d.isNan = false ∧ 0 ≤ d.value) → V.withDefault kvs name (V.decimal none (some 0) le) d = .ok a →
        a.isNan = false ∧ 0 ≤ a.value :=
      fun hd h => hV.withDefault_sat (P := fun x => x.isNan = false ∧ 0 ≤ x.value)
        (fun _ _ hx => nonneg_of_decimal hV hx) hd h
    exact ⟨hfee dflt.baseFee hbase, hfee dflt.priorityFee hprio, hfee dflt.tipPctOfGross htip⟩
  · cases h

theorem detectorConfig_inRange {v : Value} {d : DetectorConfig} (h : detectorConfig V v = .ok d) :
    d.InRange := by
  unfold detectorConfig at h
  obtain ⟨kvs, -, h⟩ := bind_eq_ok h
  dsimp only at h
  split at h
  · next _ _ _ _ _ _ _ _ _ _ _ _ _ _ _ _ _ _ _ _ hprob hscore hsamples hspacing hfee hscale hmax
        hgas _ =>
    cases h
    have dflt := DetectorConfig.default_inRange
    refine ⟨?_, ?_, ?_, ?_, ?_, ?_, ?_, ?_⟩
    · exact hV.withDefault_sat (P := fun x => 0.0 ≤ x ∧ x ≤ 1.0) (fun _ _ hx => hV.float_closed hx)
        dflt.minExecutionProb hprob
    · exact hV.withDefault_sat (P := fun x => 0.0 ≤ x ∧ x ≤ 100.0) (fun _ _ hx => hV.float_closed hx)
        dflt.minEvScore hscore
    · exact hV.withDefault_sat (P := fun x => 1 ≤ x) (fun _ _ hx => hV.int_ge hx)
        dflt.tradeSizeSamples hsamples
    · exact hV.withDefault_sat (P := fun x => x ∈ Validate.gridSpacings)
        (fun _ _ hx => hV.literal hx) dflt.gridSpacing hspacing
    · refine hV.withDefault_sat (P := fun x => x.isFinite = true ∧ 0 ≤ x.value ∧
        x.value ≤ (Decimal.ofInt 1000).value) (fun _ _ hx => ?_) dflt.flashLoanFeeBps hfee
      obtain ⟨hfin, hle, -, -⟩ := hV.decimal hx
      exact ⟨hfin, hV.decimal_nonneg hx, hle _ rfl⟩
    · refine hV.withDefault_sat (P := fun x => x.isNan = false ∧ 0 < x.value) (fun _ _ hx => ?_)
        dflt.evFullScale hscale
      exact ⟨Decimal.isNan_eq_false_of_isFinite (hV.decimal hx).1, hV.decimal_pos hx⟩
    · exact hV.withDefault_sat (P := fun x => 1 ≤ x) (fun _ _ hx => hV.int_ge hx)
        dflt.maxOpportunities hmax
    · exact hV.withDefault_sat (P := GasConfig.InRange) (fun _ _ hx => gasConfig_inRange hV hx)
        dflt.gas hgas
  · cases h

/-! ## 走査器の設定 -/

end


/-- 二度以上現れる名前を集めた一覧が空なら、名前は重ならない。 -/
theorem nodup_of_dups_isEmpty {names : List String}
    (h : (((names.filter fun n => names.count n > 1).eraseDups).mergeSort
      fun a b => decide (a ≤ b)).isEmpty = true) : names.Nodup := by
  rw [List.nodup_iff_count_le_one]
  intro n
  by_contra hn
  have hmem : n ∈ names := List.count_pos_iff.mp (by omega)
  have hdup : n ∈ ((names.filter fun n => names.count n > 1).eraseDups).mergeSort
      fun a b => decide (a ≤ b) :=
    List.mem_mergeSort.mpr (List.mem_eraseDups.mpr (List.mem_filter.mpr ⟨hmem, by simpa using hn⟩))
  simp [List.isEmpty_iff.mp h] at hdup

/-- 検証を通った走査器の設定が満たすこと。 -/
structure ScannerConfigModel.InRange (m : ScannerConfigModel) : Prop where
  maxPoolAge : 0.0 < m.maxPoolAge
  cacheShards : 1 ≤ m.cacheShards
  detector : m.detector.InRange
  pairs : ∀ q ∈ m.pairs, (Config.toPair q).WellFormed
  names : (m.pairs.map (·.name)).Nodup

theorem scannerConfig_inRange {V : Validator} (hV : V.Lawful) {v : Value} {m : ScannerConfigModel}
    (h : scannerConfig V v = .ok m) : m.InRange := by
  unfold scannerConfig at h
  obtain ⟨kvs, -, h⟩ := bind_eq_ok h
  dsimp only at h
  split at h
  · next _ _ _ _ _ _ _ _ _ _ _ _ hage hshards _ hdet hpairs _ =>
    split at h
    · next hdups =>
      cases h
      refine ⟨?_, ?_, ?_, ?_, nodup_of_dups_isEmpty hdups⟩
      · exact hV.withDefault_sat (P := fun x => 0.0 < x) (fun _ _ hx => hV.float_gt hx)
          (by decide +kernel) hage
      · exact hV.withDefault_sat (P := fun x => 1 ≤ x) (fun _ _ hx => hV.int_ge hx)
          (by decide) hshards
      · exact hV.withDefault_sat (P := DetectorConfig.InRange)
          (fun _ _ hx => detectorConfig_inRange hV hx) DetectorConfig.default_inRange hdet
      · obtain ⟨_, hps⟩ := hV.required hpairs
        intro q hq
        obtain ⟨_, hq⟩ := (hV.list hps).2 q hq
        exact pairConfig_wellFormed hV hq
    · exact absurd h hV.valueError
  · cases h

end Schema

namespace Config

open Data Schema

/-- 検証の範囲にある検出器の設定は、検出の設定の検査を通る。 -/
theorem toSettings_wellFormed {d : DetectorConfig} {s : Settings} (hd : d.InRange)
    (h : toSettings d = .ok s) : s.WellFormed := by
  unfold toSettings at h
  obtain ⟨r, hr, h⟩ := bind_eq_ok h
  cases h
  obtain ⟨hfin, h0, h1⟩ := hd.flashLoanFeeBps
  obtain ⟨hnan, hr0, hr1⟩ := Rate.bpsToRate_mem hfin h0 h1 hr
  exact ⟨hd.minExecutionProb, hd.minEvScore, hd.tradeSizeSamples, hd.gridSpacing, hnan, ⟨hr0, hr1⟩,
    hd.gas.baseFee, hd.gas.priorityFee, hd.gas.tipPctOfGross, hd.evFullScale.1, hd.evFullScale.2,
    hd.maxOpportunities⟩

/-- 組み立てが受け入れた設定は、走査器を作るときの検査が求めることをすべて満たす。 -/
theorem build_wellFormed {V : Validator} (hV : V.Lawful) {v : Value} {c : ScannerConfig}
    (h : build V v = .ok c) : c.WellFormed := by
  unfold build at h
  split at h
  · split at h
    · next m hm =>
      have hr := scannerConfig_inRange hV hm
      obtain ⟨s, hs, h⟩ := bind_eq_ok h
      cases h
      refine ⟨toSettings_wellFormed hr.detector hs, ?_, ?_, hr.cacheShards, hr.maxPoolAge⟩
      · simpa using hr.pairs
      · simpa [Function.comp_def, toPair] using hr.names
    · cases h
  · cases h

/--
組み立てが受け入れた設定では、設定と組の検査は入力をそのまま通し、組の名前は重ならず、保管所も
監視器も作れる。走査器は、どの組の格子も作れるときに限って作れ、作れなければその失敗は、
取引量を指定しない組の格子の計算が当たった 10 進演算の例外条件である。
-/
theorem accepted_config_passes_runtime_checks {V : Validator} (hV : V.Lawful) {v : Value}
    {c : ScannerConfig} (h : build V v = .ok c) (clock : Float) :
    Validate.validateSettings c.settings = .ok c.settings ∧
    (∀ p ∈ c.pairs, Validate.validatePair p = .ok p) ∧
    (c.pairs.map (·.name)).Nodup ∧
    (∃ cache, PoolCache.create c.cacheShards = .ok cache) ∧
    (∀ cache stability metrics,
      ∃ m, Monitor.create cache c.maxPoolAge clock stability metrics = .ok m) ∧
    ((∃ r, Runner.create c clock = .ok r) ↔
      ∀ p ∈ c.pairs, ∃ g, Detector.buildGrid c.settings p = .ok g) ∧
    ∀ e, Runner.create c clock = .error e → ∃ p ∈ c.pairs, p.tradeSizes = none ∧
      Grid.tradeSizes p.minTradeSize p.maxTradeSize c.settings.tradeSizeSamples
        c.settings.gridSpacing = .error e ∧ ∃ sig, e = .signal sig := by
  have hc := build_wellFormed hV h
  exact ⟨Validate.validateSettings_eq_ok hc.settings,
    fun p hp => Validate.validatePair_eq_ok (hc.pairs p hp), hc.names,
    ⟨_, PoolCache.create_eq_ok hc.cacheShards⟩,
    fun _ _ _ => ⟨_, Monitor.create_eq_ok hc.maxPoolAge _ _ _ _⟩,
    Runner.create_of_wellFormed hc clock⟩

/-- 取引量が 1 から 10 の組一つだけの設定は、実行できる検証器で受け入れられ、走査器を作るときの
検査を通る。 -/
theorem accepted_config_passes_runtime_checks_one_pair :
    let key := fun s => Value.str (.ofString s)
    let v := Value.map [(key "pairs", .list [.map [(key "name", key "P"), (key "token_a", key "A"),
      (key "token_b", key "B"), (key "min_trade_size", key "1"), (key "max_trade_size", key "10")]])]
    ∃ c, build (Check.validator none) v = .ok c ∧
      Validate.validateSettings c.settings = .ok c.settings ∧
      ∀ p ∈ c.pairs, Validate.validatePair p = .ok p := by
  intro key v
  obtain ⟨c, hb⟩ := exists_eq_ok_of_toBool (x := build (Check.validator none) v) (by decide +kernel)
  obtain ⟨hs, hp, -⟩ := accepted_config_passes_runtime_checks (Check.validator_lawful none) hb 0.0
  exact ⟨c, hb, hs, hp⟩

/-- 最大の取引量が `1E+1000000` の組の設定は実行できる検証器で受け入れられるが、走査器は
作れない。線形の格子の刻み `(max - min) / 19` の計算で、差が指数の上限を超えて桁あふれになる。 -/
theorem accepted_config_with_overflowing_grid :
    let key := fun s => Value.str (.ofString s)
    let v := Value.map [(key "pairs", .list [.map [(key "name", key "P"), (key "token_a", key "A"),
      (key "token_b", key "B"), (key "min_trade_size", key "1"),
      (key "max_trade_size", key "1E+1000000")]])]
    ∃ c, build (Check.validator none) v = .ok c ∧
      Runner.create c 0.0 = .error (.signal .overflow) := by
  intro key v
  obtain ⟨c, hb⟩ := exists_eq_ok_of_toBool (x := build (Check.validator none) v) (by decide +kernel)
  have hfail : (build (Check.validator none) v >>= fun c => Runner.create c 0.0) =
      .error (.signal .overflow) :=
    Detector.eq_of_failsWith (by decide +kernel)
  rw [hb, ok_bind] at hfail
  exact ⟨c, hb, hfail⟩

end Config

end CrossPool
