import CrossPool.Proofs.Detector.Create
import CrossPool.Proofs.Monitor.Reachable

/-!
# 走査が返す機会

作った検出器が届く状態で走査すると、返す機会はどれも監視する組のどれかについて
`Admissible` である（`scan_returns_admissible`）。中断したときも同じ。

* 買うプールと売るプールは、保管所にあって組のトークンを扱い、許可され、新鮮な
  （`Usable`）、アドレスの異なる二つの記録である。価格はその記録の組の向きの価格で、
  評価の前と後で二度求めるが、同じ記録から同じ計算で求めるので一致する。
* 買値は売値より小さい。価格の等しい二つ組は除き、残りは安いほうで買う。
* 取引量は組の格子の点で、組の区間にある。
* 期待値は正で、純利益率と実行確率は閾値以上、実行確率は二つの確率の積で `[0, 1]` に
  ある。点数は `[0, 100]` にあり、信頼度は実行確率と純利益率から決めた段階である。

各段の保証を `Ensures`（監視器の操作）と `Returns`（状態を持たない計算）で述べ、
`bind` と畳み込みの規則で組み立てる。
-/

namespace CrossPool

open Binary64

namespace Monitor

/-- 記録 `r` が組 `P` の見積もりに使える：保管所にあり、組のトークンを扱い、許可され、
読む時計で新鮮。 -/
structure Usable (v : View) (P : MonitoredPair) (r : PoolState) : Prop where
  cached : v.cache.get? r.address = some r
  trades : r.key = pairKey P.tokenA P.tokenB
  allowed : P.allows r.address = true
  fresh : r.isFresh v.clock v.maxPoolAge = true

/-- 組の新鮮なプールは、組の見積もりに使える記録そのもの。 -/
theorem mem_poolsForPair_iff {m : Monitor} (hw : m.cache.WF) {P : MonitoredPair}
    {r : PoolState} :
    r ∈ m.poolsForPair P.tokenA P.tokenB P.poolAllowlist ↔ Usable m.view P r := by
  unfold poolsForPair
  rw [List.mem_filter, hw.mem_poolsForPair, Bool.and_eq_true]
  rcases P with ⟨_, _, _, _, _, _ | _, _⟩ <;>
    exact ⟨fun ⟨⟨hc, hk⟩, hf, ha⟩ => ⟨hc, hk, ha, hf⟩, fun ⟨hc, hk, ha, hf⟩ => ⟨⟨hc, hk⟩, hf, ha⟩⟩

/-- 組の新鮮なプールはアドレスの狭義の昇順に並ぶ。 -/
theorem poolsForPair_sorted {m : Monitor} (hw : m.cache.WF) (P : MonitoredPair) :
    (m.poolsForPair P.tokenA P.tokenB P.poolAllowlist).Pairwise
      fun a b => a.address < b.address :=
  List.pairwise_map.mp ((hw.poolsForPair_sorted _ _).sublist (List.filter_sublist.map _))

end Monitor

namespace Detector

open Monitor

/-! ## 機会が満たすこと -/

/-- 走査が頼る検出器の性質：実行確率の閾値は `[0, 1]` にあり、組の格子の点は組の区間にある。 -/
structure Ready (d : Detector) : Prop where
  minExecutionProb : InUnit d.settings.minExecutionProb
  inRange_of_mem_grid : ∀ P ∈ d.pairs, ∀ x ∈ d.grid P.name, P.InRange x

/-- 設定 `s` の検出器が、読む部分が `v` の監視器で組 `P`（格子 `grid`）について返してよい機会。 -/
structure Admissible (s : Settings) (v : View) (P : MonitoredPair) (grid : List Decimal)
    (o : Opportunity) : Prop where
  pairName : o.pairName = P.name
  distinct : o.buyPool ≠ o.sellPool
  /-- 買うプールは使える記録で、買値はその組の向きの価格。 -/
  buy : ∃ r, r.address = o.buyPool ∧ Usable v P r ∧
    orientedPrice r P.tokenA P.tokenB = .ok o.buyPrice
  /-- 売るプールは使える記録で、売値はその組の向きの価格。 -/
  sell : ∃ r, r.address = o.sellPool ∧ Usable v P r ∧
    orientedPrice r P.tokenA P.tokenB = .ok o.sellPrice
  priceLt : o.buyPrice.value < o.sellPrice.value
  sizeMem : o.optimalTradeSize ∈ grid
  sizeInRange : P.InRange o.optimalTradeSize
  evPos : 0 < o.expectedValue.value
  netMin : s.minNetProfitPct.value ≤ o.netProfitPct.value
  probMin : s.minExecutionProb ≤ o.combinedExecutionProb
  probEq : o.combinedExecutionProb = o.buyExecutionProb * o.sellExecutionProb
  probMax : o.combinedExecutionProb ≤ 1.0
  scoreMin : 0.0 ≤ o.evScore
  scoreMax : o.evScore ≤ 100.0
  /-- 信頼度は、実行確率と、純利益率に最も近い浮動小数点数から決めた段階。 -/
  confidence : ∃ net, Calc.toFloat o.netProfitPct = .ok net ∧
    o.confidence = Confidence.classify o.combinedExecutionProb net

/-- 機会の点数は、期待値を設定の満点で測ったもの。 -/
def Scored (s : Settings) (o : Opportunity) : Prop :=
  evScore o.expectedValue s.evFullScale = .ok o.evScore

/-- 二つの機会が、向きを問わず同じ二つのプールを使う。 -/
def SamePoolPair (o o' : Opportunity) : Prop :=
  (o.buyPool = o'.buyPool ∧ o.sellPool = o'.sellPool) ∨
    (o.buyPool = o'.sellPool ∧ o.sellPool = o'.buyPool)

/-- 格子の探索が返す機会：二つのプールの組の向きの価格で、格子の点を評価した、期待値が正の
標本から作ったもの。 -/
structure Searched (d : Detector) (P : MonitoredPair) (buy sell : PoolState) (o : Opportunity) :
    Prop where
  pairName : o.pairName = P.name
  buyPool : o.buyPool = buy.address
  sellPool : o.sellPool = sell.address
  buyPrice : orientedPrice buy P.tokenA P.tokenB = .ok o.buyPrice
  sellPrice : orientedPrice sell P.tokenA P.tokenB = .ok o.sellPrice
  sizeMem : o.optimalTradeSize ∈ d.grid P.name
  evPos : 0 < o.expectedValue.value
  buyProb : InUnit o.buyExecutionProb
  sellProb : InUnit o.sellExecutionProb
  probEq : o.combinedExecutionProb = o.buyExecutionProb * o.sellExecutionProb
  scoreMin : 0.0 ≤ o.evScore
  scoreMax : o.evScore ≤ 100.0
  score : Scored d.settings o
  confidence : ∃ net, Calc.toFloat o.netProfitPct = .ok net ∧
    o.confidence = Confidence.classify o.combinedExecutionProb net

/-- 取引量の評価の確率：どちらも `[0, 1]` にあり、合わせた確率はその積。 -/
structure ProbOk (e : TradeEvaluation) : Prop where
  buy : InUnit e.buyProb
  sell : InUnit e.sellProb
  combined : e.combinedProb = e.buyProb * e.sellProb

/-- 機会の買うプールと売るプールは、二つ組の二つのプールのどちらかの順。 -/
def SamePools (c : (PoolState × Decimal) × (PoolState × Decimal)) (o : Opportunity) : Prop :=
  (o.buyPool = c.1.1.address ∧ o.sellPool = c.2.1.address) ∨
    (o.buyPool = c.2.1.address ∧ o.sellPool = c.1.1.address)

/-! ## 状態を持たない計算 -/

theorem eq_ok_of_toOption {α : Type} {x : Except Fault α} {a : α} (h : x.toOption = some a) :
    x = .ok a := by
  cases x <;> simp_all [Except.toOption]

theorem executionProbability_mem (m : Monitor) (p : PoolState) (size : Decimal) (aToB : Bool)
    (now : Float) : Returns (m.executionProbability p size aToB now) InUnit := by
  simp [executionProbability, inUnit_zero, inUnit_clamp]

/-- 評価の内訳は取引量と二つの確率をそのまま持ち、合わせた確率はその積。 -/
theorem evaluateTradeSize_spec (size bp sp bi si : Decimal) (bf sf : Int) (pb ps : Float)
    (s : Settings) :
    Returns (evaluateTradeSize size bp sp bi si bf sf pb ps s) fun e =>
      e.tradeSize = size ∧ e.buyProb = pb ∧ e.sellProb = ps ∧ e.combinedProb = pb * ps := by
  simp [evaluateTradeSize]

theorem evScore_mem (ev scale : Decimal) :
    Returns (evScore ev scale) fun x => 0.0 ≤ x ∧ x ≤ 100.0 := by
  have hclamp : ∀ x : Float, 0.0 ≤ clamp x 0.0 100.0 ∧ clamp x 0.0 100.0 ≤ 100.0 := fun _ =>
    clamp_mem comparable_zero (by decide +kernel) (by decide +kernel)
  have hzero : (0.0 : Float) ≤ 0.0 ∧ (0.0 : Float) ≤ 100.0 := ⟨by decide +kernel, by decide +kernel⟩
  simp [evScore, hclamp, hzero]

/-- 期待値の大きいほうを残すと、前の最良か新しい評価のどちらか。 -/
theorem keepBetter_cases (best ev : Option TradeEvaluation) :
    Returns (keepBetter best ev) fun r => r = best ∨ r = ev := by
  unfold keepBetter
  split <;> simp

theorem buildOpportunity_searched {d : Detector} {P : MonitoredPair} {buy sell : PoolState}
    {bp sp : Decimal} {b : TradeEvaluation} (now : Float)
    (hbp : orientedPrice buy P.tokenA P.tokenB = .ok bp)
    (hsp : orientedPrice sell P.tokenA P.tokenB = .ok sp) (hsize : b.tradeSize ∈ d.grid P.name)
    (hprob : ProbOk b) (hev : 0 < b.expectedValue.value) :
    Returns (buildOpportunity d P buy sell bp sp b now) (Searched d P buy sell) := by
  unfold buildOpportunity
  refine Returns.bind (Returns.of_true _) fun _ _ => ?_
  have hscore : Returns (evScore b.expectedValue d.settings.evFullScale) fun score =>
      evScore b.expectedValue d.settings.evFullScale = .ok score ∧ 0.0 ≤ score ∧ score ≤ 100.0 :=
    fun score h => ⟨h, evScore_mem _ _ score h⟩
  refine Returns.bind hscore fun score ⟨hs, hmin, hmax⟩ => ?_
  rw [Returns.bind_iff]
  intro net hnet
  rw [Returns.pure_iff]
  exact ⟨rfl, rfl, rfl, hbp, hsp, hsize, hev, hprob.buy, hprob.sell, hprob.combined, hmin, hmax,
    hs, net, hnet, rfl⟩

/-! ## 監視器の操作 -/

section Steps

variable {v : View}

/-- 値付けは組の向きの価格。読み飛ばせる失敗では `none`。 -/
theorem safePrice_spec (P : MonitoredPair) (pool : PoolState) :
    Ensures v (safePrice P pool) fun r => r = (orientedPrice pool P.tokenA P.tokenB).toOption := by
  unfold safePrice
  split
  · next h => exact Ensures.pure (by rw [h]; rfl)
  · next h =>
    exact Ensures.emit_skip _ _ _ (by rw [h]; rfl)
  · next h =>
    exact Ensures.emit_skip _ _ _ (by rw [h]; rfl)
  · exact Ensures.throw

/-- 一つの取引量の評価は、その取引量で、確率は `[0, 1]` にあり、合わせた確率はその積。 -/
theorem evaluateSize_spec (d : Detector) (size : Decimal) (buy sell : PoolState)
    (bp sp : Decimal) (ba sa : Bool) (now : Float) :
    Ensures v (evaluateSize d size buy sell bp sp ba sa now) fun r =>
      ∀ e, r = some e → e.tradeSize = size ∧ ProbOk e := by
  unfold evaluateSize
  refine Ensures.bind Ensures.get fun m _ => Ensures.bind Ensures.lift fun buyInput _ => ?_
  dsimp only
  split
  · next bi si pb ps hquoted =>
    obtain ⟨_, -, h₁⟩ := bind_eq_ok hquoted
    obtain ⟨_, -, h₂⟩ := bind_eq_ok h₁
    obtain ⟨_, hpb, h₃⟩ := bind_eq_ok h₂
    obtain ⟨_, hps, h₄⟩ := bind_eq_ok h₃
    cases h₄
    have hpb := executionProbability_mem _ _ _ _ _ _ hpb
    have hps := executionProbability_mem _ _ _ _ _ _ hps
    refine Ensures.map Ensures.lift fun e he e' he' => ?_
    cases he'
    obtain ⟨hsize, rfl, rfl, hc⟩ := evaluateTradeSize_spec _ _ _ _ _ _ _ _ _ _ e he
    exact ⟨hsize, hpb, hps, hc⟩
  · exact Ensures.emit_skip _ _ _ (by simp)
  · exact Ensures.emit_skip _ _ _ (by simp)
  · exact Ensures.throw

/-- 格子の探索が返す機会は `Searched`。 -/
theorem searchGrid_searched (d : Detector) (P : MonitoredPair) (buy sell : PoolState)
    (now : Float) :
    Ensures v (searchGrid d P buy sell now) fun r => ∀ o, r = some o → Searched d P buy sell o := by
  unfold searchGrid
  refine Ensures.bind (safePrice_spec P buy) fun bp hbp =>
    Ensures.bind (safePrice_spec P sell) fun sp hsp => ?_
  split
  · next buyPrice sellPrice =>
    have hbuy := eq_ok_of_toOption hbp.symm
    have hsell := eq_ok_of_toOption hsp.symm
    -- 畳み込みの不変量：最良の標本は格子の点を評価したもの
    refine Ensures.bind (Ensures.foldlM (I := fun best =>
        ∀ b, best = some b → b.tradeSize ∈ d.grid P.name ∧ ProbOk b) _ ?_ (by simp))
      fun best hbest => ?_
    · intro best size hsize hI
      refine Ensures.bind (evaluateSize_spec d size buy sell _ _ _ _ now) fun ev hev => Ensures.lift.mono fun r hr b hb => ?_
      rcases keepBetter_cases best ev r hr with rfl | rfl
      · exact hI b hb
      · obtain ⟨rfl, hp⟩ := hev b hb
        exact ⟨hsize, hp⟩
    · split
      · exact Ensures.pure (by simp)
      · next b =>
        obtain ⟨hsize, hprob⟩ := hbest b rfl
        refine Ensures.bind Ensures.lift fun nonpos hnonpos => ?_
        split
        · exact Ensures.pure (by simp)
        · next hpos =>
          have hev : 0 < b.expectedValue.value := by
            obtain ⟨-, -, rfl⟩ := Calc.le_eq_ok.mp hnonpos
            simpa [Calc.value_lit_zero] using hpos
          refine Ensures.map Ensures.lift fun o ho o' h => ?_
          cases h
          exact buildOpportunity_searched now hbuy hsell hsize hprob hev o ho
  · exact Ensures.pure (by simp)

/-- 評価が返す機会は `Searched`。鮮度の確かめは結果を変えない。 -/
theorem evaluate_searched (d : Detector) (buy sell : PoolState) (P : MonitoredPair) :
    Ensures v (evaluate d buy sell P) fun r => ∀ o, r = some o → Searched d P buy sell o := by
  unfold evaluate
  refine Ensures.bind Ensures.get fun m _ => ?_
  dsimp only
  split
  · exact searchGrid_searched d P buy sell _
  · exact Ensures.emit_skip _ _ _ (by simp)
  · exact Ensures.throw

/-- 探索した機会が閾値を通れば、使える二つの記録について許される。 -/
theorem admissible_of_searched {d : Detector} (hd : Ready d) {P : MonitoredPair}
    (hP : P ∈ d.pairs) {buy sell : PoolState} {o : Opportunity} (ho : Searched d P buy sell o)
    (hbuy : Usable v P buy) (hsell : Usable v P sell) (hne : buy.address ≠ sell.address)
    (hlt : o.buyPrice.value < o.sellPrice.value)
    (hnet : Calc.lt o.netProfitPct d.settings.minNetProfitPct = .ok false)
    (hprob : ¬ o.combinedExecutionProb < d.settings.minExecutionProb) :
    Admissible d.settings v P (d.grid P.name) o := by
  have hunit : InUnit o.combinedExecutionProb := ho.probEq ▸ mul_mem_unit ho.buyProb ho.sellProb
  obtain ⟨-, -, hnet'⟩ := Calc.lt_eq_ok.mp hnet
  exact {
    pairName := ho.pairName
    distinct := by rw [ho.buyPool, ho.sellPool]; exact hne
    buy := ⟨buy, ho.buyPool.symm, hbuy, ho.buyPrice⟩
    sell := ⟨sell, ho.sellPool.symm, hsell, ho.sellPrice⟩
    priceLt := hlt
    sizeMem := ho.sizeMem
    sizeInRange := hd.inRange_of_mem_grid P hP _ ho.sizeMem
    evPos := ho.evPos
    netMin := by simpa using hnet'
    probMin := (not_lt_iff_le hunit.comparable hd.minExecutionProb.comparable).mp hprob
    probEq := ho.probEq
    probMax := hunit.2
    scoreMin := ho.scoreMin
    scoreMax := ho.scoreMax
    confidence := ho.confidence }

/-- 価格の等しくない二つの値で `a < b` が偽なら `b < a`。 -/
theorem lt_of_not_eq_not_lt {a b : Decimal} (hsame : Calc.eq a b = .ok false)
    (hlower : Calc.lt a b = .ok false) : b.value < a.value := by
  obtain ⟨ha, hb, hnlt⟩ := Calc.lt_eq_ok.mp hlower
  have hne : a.value ≠ b.value := by
    simpa using (Calc.eq_of_not_nan ha hb).symm.trans hsame
  exact lt_of_le_of_ne (not_lt.mp (by simpa using hnlt)) hne.symm

/-- 値付けした二つのプールの組は、加えるなら許される機会を一つ加える。 -/
theorem considerPair_spec {d : Detector} (hd : Ready d) {P : MonitoredPair} (hP : P ∈ d.pairs)
    (acc : List Opportunity) {c : (PoolState × Decimal) × (PoolState × Decimal)}
    (h₁ : Usable v P c.1.1) (hp₁ : orientedPrice c.1.1 P.tokenA P.tokenB = .ok c.1.2)
    (h₂ : Usable v P c.2.1) (hp₂ : orientedPrice c.2.1 P.tokenA P.tokenB = .ok c.2.2)
    (hne : c.1.1.address ≠ c.2.1.address) :
    Ensures v (considerPair d P acc c) fun acc' => acc' = acc ∨
      ∃ o, acc' = acc ++ [o] ∧ (Admissible d.settings v P (d.grid P.name) o ∧ Scored d.settings o) ∧
        SamePools c o := by
  obtain ⟨⟨pp, prp⟩, ⟨pq, prq⟩⟩ := c
  unfold considerPair
  refine Ensures.bind Ensures.lift fun same hsame => ?_
  split
  · exact Ensures.pure (.inl rfl)
  · next hdiff =>
    refine Ensures.bind Ensures.lift fun lower hlower => ?_
    -- 安いほうで買う。ここから先は買うプールと売るプールの順によらない
    generalize hbs : (if lower = true then (pp, pq) else (pq, pp)) = bs
    obtain ⟨buy, sell⟩ := bs
    obtain ⟨pb, ps, hbuy, hsell, hpb, hps, hlt, hne', hpools⟩ :
        ∃ pb ps, Usable v P buy ∧ Usable v P sell ∧
          orientedPrice buy P.tokenA P.tokenB = .ok pb ∧
          orientedPrice sell P.tokenA P.tokenB = .ok ps ∧ pb.value < ps.value ∧
          buy.address ≠ sell.address ∧
          ((buy = pp ∧ sell = pq) ∨ (buy = pq ∧ sell = pp)) := by
      cases lower
      · simp only [Bool.false_eq_true, if_false, Prod.mk.injEq] at hbs
        obtain ⟨rfl, rfl⟩ := hbs
        have hs : same = false := by simpa using hdiff
        exact ⟨prq, prp, h₂, h₁, hp₂, hp₁, lt_of_not_eq_not_lt (hs ▸ hsame) hlower, hne.symm,
          .inr ⟨rfl, rfl⟩⟩
      · simp only [if_true, Prod.mk.injEq] at hbs
        obtain ⟨rfl, rfl⟩ := hbs
        obtain ⟨-, -, hlt⟩ := Calc.lt_eq_ok.mp hlower
        exact ⟨prp, prq, h₁, h₂, hp₁, hp₂, by simpa using hlt.symm, hne, .inl ⟨rfl, rfl⟩⟩
    refine Ensures.bind (evaluate_searched d buy sell P) fun r hr => ?_
    split
    · exact Ensures.pure (.inl rfl)
    · next o =>
      have ho := hr o rfl
      refine Ensures.bind Ensures.lift fun below hbelow => ?_
      split
      · exact Ensures.pure (.inl rfl)
      · next hnb =>
        split
        · exact Ensures.pure (.inl rfl)
        · next hprob =>
          have hfalse : below = false := by simpa using hnb
          subst hfalse
          have hbp : o.buyPrice = pb := Except.ok.inj (ho.buyPrice.symm.trans hpb)
          have hsp : o.sellPrice = ps := Except.ok.inj (ho.sellPrice.symm.trans hps)
          refine Ensures.bind (Ensures.measure _) fun _ _ =>
            Ensures.pure (.inr ⟨o, rfl, ⟨?_, ho.score⟩, ?_⟩)
          · exact admissible_of_searched hd hP ho hbuy hsell hne' (hbp ▸ hsp ▸ hlt) hbelow hprob
          · rcases hpools with ⟨rfl, rfl⟩ | ⟨rfl, rfl⟩
            · exact .inl ⟨ho.buyPool, ho.sellPool⟩
            · exact .inr ⟨ho.buyPool, ho.sellPool⟩

end Steps

/-! ## 走査 -/

/-- 列の二つ組の要素は、列の中で前後に並ぶ二つ。 -/
theorem mem_pairsOf {α : Type} {R : α → α → Prop} {l : List α} (h : l.Pairwise R)
    {c : α × α} (hc : c ∈ pairsOf l) : c.1 ∈ l ∧ c.2 ∈ l ∧ R c.1 c.2 := by
  induction l with
  | nil => cases hc
  | cons x xs ih =>
    rw [pairsOf, List.mem_append, List.mem_map] at hc
    rcases hc with ⟨y, hy, rfl⟩ | hc
    · exact ⟨List.mem_cons_self .., List.mem_cons_of_mem _ hy, List.rel_of_pairwise_cons h hy⟩
    · obtain ⟨h1, h2, h3⟩ := ih h.of_cons hc
      exact ⟨List.mem_cons_of_mem _ h1, List.mem_cons_of_mem _ h2, h3⟩

/-- 鍵の小さい順に並んだ列では、二つ組の鍵の組はどの二つも異なる。 -/
theorem pairsOf_pairwise_ne {α : Type} (f : α → String) {l : List α}
    (h : l.Pairwise fun a b => f a < f b) :
    (pairsOf l).Pairwise fun c c' => (f c.1, f c.2) ≠ (f c'.1, f c'.2) := by
  induction l with
  | nil => exact List.Pairwise.nil
  | cons x xs ih =>
    obtain ⟨hx, hxs⟩ := List.pairwise_cons.mp h
    rw [pairsOf, List.pairwise_append, List.pairwise_map]
    refine ⟨hxs.imp fun {a b} hlt => ?_, ih hxs, ?_⟩
    · intro heq
      exact ne_of_lt hlt (Prod.mk.inj heq).2
    -- 先頭を含む組と含まない組は、一つ目の鍵が違う
    rintro _ ha c hc heq
    obtain ⟨y, -, rfl⟩ := List.mem_map.mp ha
    exact ne_of_lt (hx c.1 (mem_pairsOf hxs hc).1) (Prod.mk.inj heq).1

/-- 鍵の組の異なる二つの二つ組（どちらもアドレスの小さい順）から作った機会は、同じ二つの
プールを使わない。 -/
theorem not_samePoolPair {c c' : (PoolState × Decimal) × (PoolState × Decimal)}
    {o o' : Opportunity} (h : SamePools c o) (h' : SamePools c' o')
    (hc : c.1.1.address < c.2.1.address) (hc' : c'.1.1.address < c'.2.1.address)
    (hne : (c.1.1.address, c.2.1.address) ≠ (c'.1.1.address, c'.2.1.address)) :
    ¬ SamePoolPair o o' := by
  unfold SamePools at h h'
  unfold SamePoolPair
  grind

section Scan

variable {d : Detector} {v : View}

/-- 一つの組の走査が返す機会は、その組について許され、点数は期待値から決まる。同じ二つの
プールを使う機会は二つない。 -/
theorem scanPair_spec (hd : Ready d) (hw : v.cache.WF) {P : MonitoredPair} (hP : P ∈ d.pairs) :
    Ensures v (scanPair d P) fun os =>
      (∀ o ∈ os, Admissible d.settings v P (d.grid P.name) o ∧ Scored d.settings o) ∧
        os.Pairwise fun o o' => ¬ SamePoolPair o o' := by
  unfold scanPair
  refine Ensures.bind Ensures.get fun m hm => ?_
  subst hm
  dsimp only
  split
  · exact Ensures.bind (Ensures.emit _ _) fun _ _ => Ensures.pure (by simp)
  · refine Ensures.bind (Ensures.filterMapM_eq
      (g := fun pool => (orientedPrice pool P.tokenA P.tokenB).toOption.map (pool, ·))
      fun pool _ => Ensures.bind (safePrice_spec P pool) fun r hr => Ensures.pure (by rw [hr]))
      fun priced hpriced => ?_
    have hmem : ∀ q ∈ priced,
        Usable m.view P q.1 ∧ orientedPrice q.1 P.tokenA P.tokenB = .ok q.2 := by
      rw [hpriced]
      intro q hq
      obtain ⟨pool, hpool, hq⟩ := List.mem_filterMap.mp hq
      obtain ⟨pr, hpr, rfl⟩ := Option.map_eq_some_iff.mp hq
      exact ⟨(mem_poolsForPair_iff hw).mp hpool, eq_ok_of_toOption hpr⟩
    have hsorted : priced.Pairwise fun a b => a.1.address < b.1.address := by
      rw [hpriced]
      refine (poolsForPair_sorted hw P).filterMap _ fun a a' h b hb b' hb' => ?_
      obtain ⟨_, -, rfl⟩ := Option.map_eq_some_iff.mp hb
      obtain ⟨_, -, rfl⟩ := Option.map_eq_some_iff.mp hb'
      exact h
    refine (Ensures.foldlM_append
      (R := fun c o => (Admissible d.settings m.view P (d.grid P.name) o ∧ Scored d.settings o) ∧
        SamePools c o) _
      fun acc c hc => ?_).mono fun res ⟨outs, hsub, hres, hR⟩ => ?_
    · obtain ⟨h1, h2, hlt⟩ := mem_pairsOf hsorted hc
      obtain ⟨hu1, hp1⟩ := hmem _ h1
      obtain ⟨hu2, hp2⟩ := hmem _ h2
      exact considerPair_spec hd hP acc hu1 hp1 hu2 hp2 (Std.ne_of_lt hlt)
    · rw [hres, List.nil_append]
      refine ⟨fun o ho => ?_, ?_⟩
      · obtain ⟨⟨c, o'⟩, hco, rfl⟩ := List.mem_map.mp ho
        exact (hR _ hco).1
      · have hne := (pairsOf_pairwise_ne (fun q : PoolState × Decimal => q.1.address)
          hsorted).sublist hsub
        have hlt : ∀ p ∈ outs, p.1.1.1.address < p.1.2.1.address := fun p hp =>
          (mem_pairsOf hsorted (hsub.subset (List.mem_map_of_mem hp))).2.2
        rw [List.pairwise_map] at hne ⊢
        exact hne.imp_of_mem fun hp hp' hpp =>
          not_samePoolPair (hR _ hp).2 (hR _ hp').2 (hlt _ hp) (hlt _ hp') hpp

/--
組を順に走査する再帰の不変量。`I rest acc` はまだ走査していない組 `rest` と集めた機会 `acc`
の性質で、組 `P` の走査が返す機会（`Q P` を満たす）を後ろに加えても保たれる。中断すれば
そのときの `acc` を返すので、結果はある `rest` について `I` を満たす。
-/
theorem scanPairs_inv {Q : MonitoredPair → List Opportunity → Prop}
    {I : List MonitoredPair → List Opportunity → Prop} (cancelAfter : Option Nat)
    (hpair : ∀ P ∈ d.pairs, Ensures v (d.scanPair P) (Q P))
    (hstep : ∀ P ps acc found, P ∈ d.pairs → I (P :: ps) acc → Q P found → I ps (acc ++ found)) :
    ∀ (ps : List MonitoredPair) (i : Nat) (acc : List Opportunity), (∀ P ∈ ps, P ∈ d.pairs) →
      I ps acc → Ensures v (d.scanPairs cancelAfter ps i acc) fun found => ∃ rest, I rest found
  | [], _, _, _, hacc => Ensures.pure ⟨[], hacc⟩
  | P :: ps, i, acc, hps, hacc => by
    unfold scanPairs
    split
    · exact Ensures.bind (Ensures.emit _ _) fun _ _ =>
        Ensures.bind (Ensures.measure _) fun _ _ => Ensures.pure ⟨_, hacc⟩
    · have hP := hps P (List.mem_cons_self ..)
      refine Ensures.bind (hpair P hP) fun found hfound => ?_
      exact scanPairs_inv cancelAfter hpair hstep ps (i + 1) _
        (fun Q hQ => hps Q (List.mem_cons_of_mem _ hQ)) (hstep P ps acc found hP hacc hfound)

/-- 走査の結果に入ってよい機会：監視する組のどれかについて許される。 -/
def Found (d : Detector) (v : View) (o : Opportunity) : Prop :=
  ∃ P ∈ d.pairs, Admissible d.settings v P (d.grid P.name) o

/-- 組を順に走査して集めた機会は、どれも `Found`。中断しても同じ。 -/
theorem scanPairs_found (hd : Ready d) (hw : v.cache.WF) (cancelAfter : Option Nat) :
    Ensures v (d.scanPairs cancelAfter d.pairs 0 []) fun found => ∀ o ∈ found, Found d v o := by
  refine (scanPairs_inv (I := fun _ acc => ∀ o ∈ acc, Found d v o) cancelAfter
    (fun P hP => scanPair_spec hd hw hP) (fun P _ acc found hP hacc hfound o ho => ?_) d.pairs 0 []
    (fun _ h => h) (by simp)).mono fun _ ⟨_, h⟩ => h
  rcases List.mem_append.mp ho with ho | ho
  · exact hacc o ho
  · exact ⟨P, hP, (hfound.1 o ho).1⟩

theorem mem_of_mem_takeSigned {α : Type} {xs : List α} {k : Int} {x : α}
    (h : x ∈ Opportunity.takeSigned xs k) : x ∈ xs := by
  unfold Opportunity.takeSigned at h
  split at h <;> exact List.mem_of_mem_take h

theorem scan_found (hd : Ready d) (hw : v.cache.WF) (cancelAfter : Option Nat) :
    Ensures v (d.scan cancelAfter) fun r => ∀ o ∈ r.2, Found d v o := by
  unfold scan
  refine Ensures.bind (scanPairs_found hd hw cancelAfter) fun found hfound => ?_
  dsimp only
  refine Ensures.bind (Ensures.measure _) fun _ _ => ?_
  have hkept : ∀ o ∈ Opportunity.takeSigned (rank found) d.settings.maxOpportunities,
      Found d v o := fun o ho =>
    hfound o (List.mem_mergeSort.mp (mem_of_mem_takeSigned ho))
  split <;> exact Ensures.bind (Ensures.emit _ _) fun _ _ => Ensures.pure hkept

end Scan

/-- 作った検出器が届く状態で走査すると、返す機会はどれも、監視する組 `P` とその格子について
許される。 -/
theorem scan_returns_admissible {pairs : List MonitoredPair} {settings : Settings}
    {d : Detector} (hd : create pairs settings = .ok d) {m : Monitor} (hm : Monitor.Reachable m)
    (prev : List Opportunity) (cancelAfter : Option Nat) {d' : Detector} {L : List Opportunity}
    {m' : Monitor} (hs : ({ d with last := prev }).scan cancelAfter m = .ok (d', L) m') :
    ∀ o ∈ L, ∃ P ∈ pairs, ∃ grid, buildGrid settings P = .ok grid ∧
      Admissible settings m.view P grid o := by
  have hv := create_validated pairs settings d hd
  have hready : Ready { d with last := prev } :=
    ⟨hv.settings_eq ▸ hv.minExecutionProb,
      fun P hP _ hx => hv.inRange_of_mem_grid (hv.pairs_eq ▸ hP) hx⟩
  obtain ⟨-, hfound⟩ := scan_found hready hm.wf cancelAfter m (d', L) m' rfl hs
  intro o ho
  obtain ⟨P, hP, hadm⟩ := hfound o ho
  have hP' : P ∈ pairs := hv.pairs_eq ▸ hP
  exact ⟨P, hP', d.grid P.name, hv.buildGrid_eq P hP', hv.settings_eq ▸ hadm⟩

/-- 区間 `[1, 10]` と取引量 5 の組が一つで、保管所が空の監視器。仮定はどれも満たされ、走査は
二つの記録を比べずに終わる。 -/
theorem scan_returns_admissible_on_empty_cache :
    ∃ d m d' L m', create [⟨"SOL/USDC", "SOL", "USDC", Calc.lit "1", Calc.lit "10", none,
        some [Calc.lit "5"]⟩] Settings.default = .ok d ∧ Monitor.Reachable m ∧
      ({ d with last := [] }).scan none m = .ok (d', L) m' ∧
      ∀ o ∈ L, ∃ P ∈ [(⟨"SOL/USDC", "SOL", "USDC", Calc.lit "1", Calc.lit "10", none,
        some [Calc.lit "5"]⟩ : MonitoredPair)], ∃ grid, buildGrid Settings.default P = .ok grid ∧
          Admissible Settings.default m.view P grid o := by
  have hd : create [⟨"SOL/USDC", "SOL", "USDC", Calc.lit "1", Calc.lit "10", none,
      some [Calc.lit "5"]⟩] Settings.default = .ok ⟨Settings.default,
        [⟨"SOL/USDC", "SOL", "USDC", Calc.lit "1", Calc.lit "10", none, some [Calc.lit "5"]⟩],
        [("SOL/USDC", [Calc.lit "5"])], []⟩ := by
    with_unfolding_all rfl
  have hmc : Monitor.create ⟨PoolCache.strHash, [[], []], []⟩ 60.0 1000.0
      (Stability.empty none 0.5) none = .ok ⟨⟨PoolCache.strHash, [[], []], []⟩,
        Stability.empty none 0.5, 60.0, 1000.0, none, []⟩ := by
    unfold Monitor.create
    rw [if_neg (by decide +kernel)]
  have hm := Monitor.Reachable.create (n := 2) rfl hmc
  have hs : Detector.scan ⟨Settings.default,
      [⟨"SOL/USDC", "SOL", "USDC", Calc.lit "1", Calc.lit "10", none, some [Calc.lit "5"]⟩],
      [("SOL/USDC", [Calc.lit "5"])], []⟩ none
      ⟨⟨PoolCache.strHash, [[], []], []⟩, Stability.empty none 0.5, 60.0, 1000.0, none, []⟩ =
      .ok (⟨Settings.default,
        [⟨"SOL/USDC", "SOL", "USDC", Calc.lit "1", Calc.lit "10", none, some [Calc.lit "5"]⟩],
        [("SOL/USDC", [Calc.lit "5"])], []⟩, [])
        ⟨⟨PoolCache.strHash, [[], []], []⟩, Stability.empty none 0.5, 60.0, 1000.0, none,
          [⟨.debug, "Scan found no opportunities in 0.0ms"⟩,
            ⟨.debug, "SOL/USDC: 0 fresh pools, nothing to compare"⟩]⟩ := by
    with_unfolding_all rfl
  exact ⟨_, _, _, _, _, hd, hm, hs, scan_returns_admissible hd hm [] none hs⟩

end Detector

end CrossPool
