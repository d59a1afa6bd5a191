import CrossPool.Proofs.Scan.Ranking
import CrossPool.Proofs.Scan.Faults
import CrossPool.Proofs.Detector.WellFormed

/-!
# 中断した走査

走査は組の前ごとに中断の合図を確かめ、合図があればそれまでに集めた機会で走査を終える。
`k` 個の組のあとで合図が来る走査は、はじめの `k` 個の組だけで作った検出器の、中断しない
走査と同じ列を返す。違うのは計数器だけで、中断を一度数える。

1. 組を順に走査する再帰は、中断しない `k` 個の組の走査に、中断の段を続けたものに分かれる
   （`scanPairs_cancel_split`）。中断の段は、残りの組がなければ何もせず、あれば警告を残して
   中断を数える（`scanPairs_stop`）。
2. 組の走査は検出器の設定とその組の格子だけを読む（`scanPair_congr`）。はじめの `k` 個の組で
   作った検出器は、設定も各組の格子も元の検出器と同じである（`create_take`）。
3. 組の走査は完了と中断の計数器を変えない（`keeps_scanPairs`）。走査を終える段が完了を
   一度数える（`scan_of_scanPairs`）。
-/

namespace CrossPool.Monitor

/-- 前の操作が成功すれば、続けた操作はその値と状態から続く。 -/
theorem bind_run_of_ok {α β : Type} {x : Step α} {f : α → Step β} {m m' : Monitor} {a : α}
    (h : x m = .ok a m') : (x >>= f) m = f a m' := by
  change EStateM.bind x f m = _
  simp only [EStateM.bind, h]

/-! ## 状態の一部を変えない操作 -/

/-- 成功しても失敗しても、状態の射影 `π` を変えない操作。 -/
def Keeps {α γ : Type} (π : Monitor → γ) (x : Step α) : Prop := ∀ m, π (finalState (x m)) = π m

namespace Keeps

variable {α β γ : Type} {π : Monitor → γ}

theorem pure (a : α) : Keeps π (Pure.pure a : Step α) := fun _ => rfl

theorem throw (e : Fault) : Keeps π (throw e : Step α) := fun _ => rfl

theorem bind {x : Step α} {f : α → Step β} (hx : Keeps π x) (hf : ∀ a, Keeps π (f a)) :
    Keeps π (x >>= f) := by
  intro m
  change π (finalState (EStateM.bind x f m)) = _
  unfold EStateM.bind
  have hxm := hx m
  cases h : x m with
  | ok a s =>
    rw [h] at hxm
    exact (hf a s).trans hxm
  | error e s =>
    rw [h] at hxm
    exact hxm

theorem map {x : Step α} (hx : Keeps π x) (f : α → β) : Keeps π (f <$> x) := by
  rw [map_eq_pure_bind]
  exact hx.bind fun a => pure (f a)

theorem get_bind {f : Monitor → Step α} (hf : ∀ m, Keeps π (f m)) :
    Keeps π (MonadState.get >>= f) :=
  fun m => hf m m

theorem modify {g : Monitor → Monitor} (hg : ∀ m, π (g m) = π m) : Keeps π (modify g : Step Unit) :=
  hg

theorem lift (r : Except Fault α) : Keeps π (Monitor.lift r) := by
  cases r with
  | ok a => exact pure a
  | error e => exact throw e

theorem foldlM {f : β → α → Step β} (hf : ∀ b a, Keeps π (f b a)) :
    ∀ (l : List α) (init : β), Keeps π (l.foldlM f init)
  | [], _ => pure _
  | a :: l, init => by
    rw [List.foldlM_cons]
    exact (hf init a).bind fun b => foldlM hf l b

theorem filterMapM {f : α → Step (Option β)} (hf : ∀ a, Keeps π (f a)) (l : List α) :
    Keeps π (l.filterMapM f) := by
  -- 本体は集めた結果 `acc` を引数に持つ再帰
  suffices h : ∀ acc, Keeps π (List.filterMapM.loop f l acc) from h []
  induction l with
  | nil => exact fun _ => pure _
  | cons a l ih =>
    intro acc
    refine (hf a).bind fun b => ?_
    cases b with
    | none => exact ih acc
    | some b => exact ih (b :: acc)

end Keeps

/-! ## 走査の計数器 -/

/-- 完了した走査の数と中断した走査の数。計測しない監視器では `none`。 -/
def scanCounts (m : Monitor) : Option (Float × Float) :=
  m.metrics.map fun x => (x.scans, x.scansCancelled)

theorem keeps_emit (level : Log.Level) (message : String) :
    Keeps scanCounts (emit level message) :=
  Keeps.modify fun _ => rfl

/-- 走査の計数器に触れない計測は、走査の計数器を変えない。 -/
theorem keeps_measure {f : Metrics → Metrics}
    (hf : ∀ x, (f x).scans = x.scans ∧ (f x).scansCancelled = x.scansCancelled) :
    Keeps scanCounts (measure f) := by
  refine Keeps.modify fun m => ?_
  cases h : m.metrics with
  | none => simp [scanCounts, h]
  | some x => simp [scanCounts, h, (hf x).1, (hf x).2]

theorem keeps_recordSkip (reason : String) : Keeps scanCounts (recordSkip reason) :=
  keeps_measure fun _ => ⟨rfl, rfl⟩

/-- 理由を記録して読み飛ばす枝。 -/
theorem keeps_emit_skip {α : Type} (level : Log.Level) (message reason : String) (a : α) :
    Keeps scanCounts (emit level message >>= fun _ =>
      recordSkip reason >>= fun _ => (Pure.pure a : Step α)) :=
  (keeps_emit level message).bind fun _ => (keeps_recordSkip reason).bind fun _ => .pure a

/-- 中断を数えてから完了を数えても、完了を数えてから中断を数えても同じ計測値になる。 -/
theorem recordScan_after_cancel (o : Option Metrics) (best : Float) (c : Prop) [Decidable c] :
    (if c then o.map Metrics.recordScanCancelled else o).map (·.recordScan best) =
      (o.map (·.recordScan best)).map fun x => if c then x.recordScanCancelled else x := by
  -- 二つの記録は別々の計数器を変えるので、入れ替えても同じ
  by_cases hc : c
  · cases o <;> simp [hc]
    rfl
  · simp [hc, Function.comp_def]

/-- 中断を数え（`c` のとき）、完了を数えた計測値の走査の計数器。 -/
theorem counts_after_cancel (o : Option Metrics) (best : Float) (c : Prop) [Decidable c] :
    ((if c then o.map Metrics.recordScanCancelled else o).map (·.recordScan best)).map
        (fun x => (x.scans, x.scansCancelled)) =
      (o.map fun x => (x.scans, x.scansCancelled)).map
        fun n => (n.1 + 1.0, if c then n.2 + 1.0 else n.2) := by
  by_cases hc : c <;> cases o <;> simp [hc] <;> exact ⟨rfl, rfl⟩

end CrossPool.Monitor

namespace CrossPool.Detector

open Monitor

/-! ## 組の走査は走査の計数器を変えない -/

theorem keeps_safePrice (p : MonitoredPair) (pool : PoolState) :
    Keeps scanCounts (safePrice p pool) := by
  unfold safePrice
  split
  · exact .pure _
  · exact keeps_emit_skip _ _ _ _
  · exact keeps_emit_skip _ _ _ _
  · exact .throw _

theorem keeps_evaluateSize (d : Detector) (size : Decimal) (buy sell : PoolState)
    (buyPrice sellPrice : Decimal) (buyAToB sellAToB : Bool) (now : Float) :
    Keeps scanCounts (d.evaluateSize size buy sell buyPrice sellPrice buyAToB sellAToB now) := by
  unfold evaluateSize
  refine Keeps.get_bind fun m => (Keeps.lift _).bind fun _ => ?_
  dsimp only
  split
  · exact (Keeps.lift _).map _
  · exact keeps_emit_skip _ _ _ _
  · exact keeps_emit_skip _ _ _ _
  · exact .throw _

theorem keeps_searchGrid (d : Detector) (p : MonitoredPair) (buy sell : PoolState) (now : Float) :
    Keeps scanCounts (d.searchGrid p buy sell now) := by
  unfold searchGrid
  refine (keeps_safePrice p buy).bind fun _ => (keeps_safePrice p sell).bind fun _ => ?_
  split
  · refine (Keeps.foldlM (fun best size => ?_) _ _).bind fun best => ?_
    · exact (keeps_evaluateSize _ _ _ _ _ _ _ _ _).bind fun _ => Keeps.lift _
    split
    · exact .pure _
    · refine (Keeps.lift _).bind fun _ => ?_
      split
      · exact .pure _
      · exact (Keeps.lift _).map _
  · exact .pure _

theorem keeps_evaluate (d : Detector) (buy sell : PoolState) (p : MonitoredPair) :
    Keeps scanCounts (d.evaluate buy sell p) := by
  unfold evaluate
  refine Keeps.get_bind fun m => ?_
  dsimp only
  split
  · exact keeps_searchGrid d p buy sell _
  · exact keeps_emit_skip _ _ _ _
  · exact .throw _

theorem keeps_considerPair (d : Detector) (p : MonitoredPair) (acc : List Opportunity)
    (c : (PoolState × Decimal) × (PoolState × Decimal)) :
    Keeps scanCounts (d.considerPair p acc c) := by
  obtain ⟨⟨pp, prp⟩, pq, prq⟩ := c
  unfold considerPair
  refine (Keeps.lift _).bind fun _ => ?_
  split
  · exact .pure _
  · refine (Keeps.lift _).bind fun _ => (keeps_evaluate d _ _ p).bind fun o => ?_
    split
    · exact .pure _
    · refine (Keeps.lift _).bind fun _ => ?_
      split
      · exact .pure _
      · split
        · exact .pure _
        · refine (keeps_measure ?_).bind fun _ => .pure _
          exact fun _ => ⟨rfl, rfl⟩

theorem keeps_scanPair (d : Detector) (p : MonitoredPair) : Keeps scanCounts (d.scanPair p) := by
  unfold scanPair
  refine Keeps.get_bind fun m => ?_
  dsimp only
  split
  · exact (keeps_emit _ _).bind fun _ => .pure _
  · refine (Keeps.filterMapM (fun pool =>
      (keeps_safePrice p pool).bind fun _ => .pure _) _).bind fun priced => ?_
    exact Keeps.foldlM (keeps_considerPair d p) _ _

/-- 中断しない走査の組の再帰は、走査の計数器を変えない。 -/
theorem keeps_scanPairs (d : Detector) :
    ∀ (ps : List MonitoredPair) (i : Nat) (acc : List Opportunity),
      Keeps scanCounts (d.scanPairs none ps i acc)
  | [], _, _ => .pure _
  | p :: ps, i, acc => by
    rw [scanPairs, if_neg (by simp)]
    exact (keeps_scanPair d p).bind fun found => keeps_scanPairs d ps (i + 1) (acc ++ found)

/-! ## 組の走査が読む検出器の部分 -/

section Congr

variable {d₁ d₂ : Detector} {p : MonitoredPair} (hs : d₁.settings = d₂.settings)
  (hg : d₁.grid p.name = d₂.grid p.name)
include hs

theorem evaluateSize_congr : d₁.evaluateSize = d₂.evaluateSize := by
  funext size buy sell buyPrice sellPrice buyAToB sellAToB now
  simp only [evaluateSize, hs]

theorem buildOpportunity_congr : d₁.buildOpportunity = d₂.buildOpportunity := by
  funext p buy sell buyPrice sellPrice b now
  simp only [buildOpportunity, hs]

include hg

theorem searchGrid_congr : d₁.searchGrid p = d₂.searchGrid p := by
  funext buy sell now
  simp only [searchGrid, hg, evaluateSize_congr hs, buildOpportunity_congr hs]

theorem evaluate_congr (buy sell : PoolState) : d₁.evaluate buy sell p = d₂.evaluate buy sell p := by
  simp only [evaluate, searchGrid_congr hs hg]

theorem considerPair_congr : d₁.considerPair p = d₂.considerPair p := by
  funext acc c
  simp only [considerPair, evaluate_congr hs hg, hs]

/-- 組の走査は、検出器の設定とその組の格子だけを読む。 -/
theorem scanPair_congr : d₁.scanPair p = d₂.scanPair p := by
  simp only [scanPair, considerPair_congr hs hg]

end Congr

/-- 走査する組の走査が二つの検出器で同じなら、組の再帰も同じ。 -/
theorem scanPairs_congr {d₁ d₂ : Detector} (c : Option Nat) :
    ∀ (ps : List MonitoredPair), (∀ p ∈ ps, d₁.scanPair p = d₂.scanPair p) →
      ∀ (i : Nat) (acc : List Opportunity), d₁.scanPairs c ps i acc = d₂.scanPairs c ps i acc
  | [], _, _, _ => rfl
  | p :: ps, h, i, acc => by
    have hrest := scanPairs_congr c ps fun q hq => h q (List.mem_cons_of_mem _ hq)
    simp only [scanPairs, h p (List.mem_cons_self ..), hrest]

/-! ## はじめの組だけの検出器 -/

/-- `mapM` が成功すれば、先頭の `k` 個の `mapM` は結果の先頭の `k` 個を返す。 -/
theorem mapM_take {α β ε : Type} {f : α → Except ε β} :
    ∀ {l : List α} {r : List β}, l.mapM f = .ok r → ∀ k, (l.take k).mapM f = .ok (r.take k)
  | [], r, h, k => by
    rw [List.mapM_nil] at h
    cases h
    simp only [List.take_nil, List.mapM_nil]
    rfl
  | a :: l, r, h, 0 => rfl
  | a :: l, r, h, k + 1 => by
    rw [List.mapM_cons] at h
    obtain ⟨b, hb, h⟩ := bind_eq_ok h
    obtain ⟨bs, hbs, h⟩ := bind_eq_ok h
    cases h
    rw [List.take_succ_cons, List.mapM_cons, hb, ok_bind, mapM_take hbs k]
    rfl

/-- はじめの `k` 個の組で作った検出器は、元の検出器の組と格子の表の先頭 `k` 個を持つ。 -/
theorem create_take {pairs : List MonitoredPair} {settings : Settings} {d : Detector}
    (h : create pairs settings = .ok d) (k : Nat) :
    create (pairs.take k) settings = .ok ⟨d.settings, d.pairs.take k, d.grids.take k, []⟩ := by
  unfold create createIn at h ⊢
  obtain ⟨s, hs, h⟩ := bind_eq_ok h
  obtain ⟨ps, hps, h⟩ := bind_eq_ok h
  dsimp only at h
  split at h
  · cases h
  · next hlen =>
    obtain ⟨gs, hgs, h⟩ := bind_eq_ok h
    cases h
    have hn : ((ps.take k).map (·.name)).Nodup := by
      simp only [bne_iff_ne, ne_eq, not_not] at hlen
      rw [List.map_take]
      exact (Validate.nodup_of_length_eraseDups hlen).sublist (List.take_sublist _ _)
    rw [hs, ok_bind, mapM_take hps k, ok_bind]
    dsimp only
    rw [if_neg (by simpa using length_eraseDups_of_nodup hn), mapM_take hgs k]
    rfl

/-! ## 組の再帰を分ける -/

/--
`k` 個の組のあとで合図が来る再帰は、番号 `i ≤ k` の組から始めると、中断しないで先頭の
`k - i` 個の組を走査し、残りの組を番号 `k` から走査する（すぐに中断する）ことに分かれる。
-/
theorem scanPairs_cancel_split (d : Detector) (k : Nat) :
    ∀ (ps : List MonitoredPair) (i : Nat) (acc : List Opportunity), i ≤ k →
      d.scanPairs (some k) ps i acc =
        d.scanPairs none (ps.take (k - i)) i acc >>= d.scanPairs (some k) (ps.drop (k - i)) k
  | [], i, acc, _ => by simp [scanPairs]
  | p :: ps, i, acc, hi => by
    rcases Nat.eq_or_lt_of_le hi with rfl | hlt
    · simp [scanPairs]
    · obtain ⟨j, hj⟩ : ∃ j, k - i = j + 1 := ⟨k - i - 1, by omega⟩
      have hj' : k - (i + 1) = j := by omega
      rw [hj, List.take_succ_cons, List.drop_succ_cons, scanPairs, scanPairs,
        if_neg (by simp; omega), if_neg (by simp), bind_assoc]
      congr 1
      funext found
      rw [scanPairs_cancel_split d k ps (i + 1) (acc ++ found) hlt, hj']

/-- 番号 `k` の組の前で合図が来る段。残りの組がなければ何もせず、あれば警告を残して中断を
数え、集めた機会をそのまま返す。 -/
theorem scanPairs_stop (d : Detector) (k : Nat) (ps : List MonitoredPair) (acc : List Opportunity)
    (m : Monitor) :
    ∃ l, d.scanPairs (some k) ps k acc m = .ok acc
      { m with metrics := if ps.isEmpty then m.metrics else m.metrics.map Metrics.recordScanCancelled,
               log := l } := by
  cases ps with
  | nil => exact ⟨m.log, rfl⟩
  | cons p ps =>
    rw [scanPairs, if_pos (by simp)]
    exact ⟨_, rfl⟩

/-! ## 走査を終える段 -/

/-- 組の再帰が失敗すれば、走査も同じ失敗で終わる。 -/
theorem scan_of_scanPairs_error {d : Detector} {c : Option Nat} {m m₁ : Monitor} {e : Fault}
    (h : d.scanPairs c d.pairs 0 [] m = .error e m₁) : d.scan c m = .error e m₁ := by
  unfold scan
  exact bind_eq_error h

/-- 組の再帰が機会の列を返せば、走査はそれを並べて上限の数だけ残し、完了を一度数える。 -/
theorem scan_of_scanPairs {d : Detector} {c : Option Nat} {m m₁ : Monitor}
    {found : List Opportunity} (h : d.scanPairs c d.pairs 0 [] m = .ok found m₁) :
    let kept := Opportunity.takeSigned (rank found) d.settings.maxOpportunities
    ∃ l, d.scan c m = .ok ({ d with last := kept }, kept)
      { m₁ with metrics := m₁.metrics.map (·.recordScan ((kept.head?.map (·.evScore)).getD 0.0)),
                log := l } := by
  intro kept
  unfold scan
  rw [bind_run_of_ok h]
  dsimp only
  split <;> exact ⟨_, rfl⟩

/-! ## 主定理 -/

/--
`k` 個の組のあとで中断の合図が来る走査（`k` が組の数なら合図は来ない）は、はじめの `k` 個の
組だけで作った検出器の中断しない走査と、同じ機会の列を返す（または同じ失敗で終わる）。
成功すれば、その列を `last` に残し、読む部分（保管所、安定度、鮮度の上限、時計）も同じ状態で
終わる。計測値の違いは、組が残っていたときに中断を一度数えることだけで、走査の前と比べると
完了を一度、中断を組が残っていたときだけ一度数える。
-/
theorem scan_cancelled_matches_prefix_scan {pairs : List MonitoredPair} {settings : Settings}
    {d : Detector} (hd : create pairs settings = .ok d) {k : Nat} (hk : k ≤ pairs.length)
    (m : Monitor) :
    ∃ d', create (pairs.take k) settings = .ok d' ∧
      (outcome (d.scan (some k) m)).map Prod.snd = (outcome (d'.scan none m)).map Prod.snd ∧
      ∀ d₁ L m₁, d.scan (some k) m = .ok (d₁, L) m₁ →
        d₁ = { d with last := L } ∧
        ∃ m₂, d'.scan none m = .ok ({ d' with last := L }, L) m₂ ∧ m₁.view = m₂.view ∧
          m₁.metrics =
            m₂.metrics.map (fun x => if k < pairs.length then x.recordScanCancelled else x) ∧
          m₁.metrics.map (fun x => (x.scans, x.scansCancelled)) =
            m.metrics.map fun x => (x.scans + 1.0,
              if k < pairs.length then x.scansCancelled + 1.0 else x.scansCancelled) := by
  have hv := create_validated pairs settings d hd
  have hcreate := create_take hd k
  have hv' := create_validated _ _ _ hcreate
  -- はじめの `k` 個の組は、どちらの検出器でも同じ格子で走査する
  have hsame : ∀ p ∈ d.pairs.take k,
      (⟨d.settings, d.pairs.take k, d.grids.take k, []⟩ : Detector).scanPair p = d.scanPair p := by
    intro p hp
    rw [hv.pairs_eq] at hp
    have hgrid := (hv'.buildGrid_eq p hp).symm.trans (hv.buildGrid_eq p (List.mem_of_mem_take hp))
    exact scanPair_congr rfl (Except.ok.inj hgrid)
  have hpre := scanPairs_congr none _ hsame 0 []
  have hsplit := scanPairs_cancel_split d k d.pairs 0 [] (Nat.zero_le k)
  rw [Nat.sub_zero] at hsplit
  refine ⟨_, hcreate, ?_⟩
  cases hrun : d.scanPairs none (d.pairs.take k) 0 [] m with
  | error e m₁ =>
    have h₁ : d.scan (some k) m = .error e m₁ :=
      scan_of_scanPairs_error (by rw [hsplit]; exact bind_eq_error hrun)
    have h₂ := scan_of_scanPairs_error (d := ⟨d.settings, d.pairs.take k, d.grids.take k, []⟩)
      (c := none) (by rw [hpre]; exact hrun)
    refine ⟨by rw [h₁, h₂], fun d₁ L m₁' h => ?_⟩
    rw [h₁] at h
    cases h
  | ok found m₁ =>
    obtain ⟨l₀, hstop⟩ := scanPairs_stop d k (d.pairs.drop k) found m₁
    obtain ⟨l₁, h₁⟩ := scan_of_scanPairs (c := some k) (by rw [hsplit, bind_run_of_ok hrun]; exact hstop)
    obtain ⟨l₂, h₂⟩ := scan_of_scanPairs (d := ⟨d.settings, d.pairs.take k, d.grids.take k, []⟩)
      (c := none) (by rw [hpre]; exact hrun)
    refine ⟨by rw [h₁, h₂]; rfl, fun d₁ L m₁' h => ?_⟩
    rw [h₁] at h
    cases h
    have hdrop : (d.pairs.drop k).isEmpty = true ↔ ¬k < pairs.length := by
      rw [hv.pairs_eq, List.isEmpty_iff, List.drop_eq_nil_iff]
      omega
    have hkeep := keeps_scanPairs d (d.pairs.take k) 0 [] m
    rw [hrun] at hkeep
    have hmetrics : (if (d.pairs.drop k).isEmpty = true then m₁.metrics
        else m₁.metrics.map Metrics.recordScanCancelled) =
        if k < pairs.length then m₁.metrics.map Metrics.recordScanCancelled else m₁.metrics := by
      by_cases hlt : k < pairs.length <;> simp [hdrop, hlt]
    refine ⟨rfl, _, h₂, rfl, ?_, ?_⟩
    · dsimp only
      rw [hmetrics, recordScan_after_cancel]
    · dsimp only
      rw [hmetrics, counts_after_cancel]
      simp only [scanCounts, finalState] at hkeep
      rw [hkeep, Option.map_map]
      rfl

/-- 区間 `[1, 10]` と取引量 5 の組が一つの検出器と、計測する空の監視器。最初の組の前で合図が
来る走査は、組のない検出器の中断しない走査と同じ列を返し、中断を一度数える。 -/
theorem scan_cancelled_before_only_pair :
    let pair : MonitoredPair :=
      ⟨"SOL/USDC", "SOL", "USDC", Calc.lit "1", Calc.lit "10", none, some [Calc.lit "5"]⟩
    let m : Monitor := ⟨⟨PoolCache.strHash, [[], []], []⟩, Stability.empty none 0.5, 60.0, 1000.0,
      some Metrics.empty, []⟩
    ∃ d, create [pair] Settings.default = .ok d ∧ 0 ≤ [pair].length ∧
      ∃ d', create ([pair].take 0) Settings.default = .ok d' ∧
        (outcome (d.scan (some 0) m)).map Prod.snd = (outcome (d'.scan none m)).map Prod.snd ∧
        ∀ d₁ L m₁, d.scan (some 0) m = .ok (d₁, L) m₁ →
          d₁ = { d with last := L } ∧
          ∃ m₂, d'.scan none m = .ok ({ d' with last := L }, L) m₂ ∧ m₁.view = m₂.view ∧
            m₁.metrics =
              m₂.metrics.map (fun x => if 0 < [pair].length then x.recordScanCancelled else x) ∧
            m₁.metrics.map (fun x => (x.scans, x.scansCancelled)) =
              m.metrics.map fun x => (x.scans + 1.0,
                if 0 < [pair].length then x.scansCancelled + 1.0 else x.scansCancelled) := by
  intro pair m
  have hd : create [pair] Settings.default =
      .ok ⟨Settings.default, [pair], [("SOL/USDC", [Calc.lit "5"])], []⟩ := by
    with_unfolding_all rfl
  exact ⟨_, hd, Nat.zero_le _, scan_cancelled_matches_prefix_scan hd (Nat.zero_le _) m⟩

end CrossPool.Detector
