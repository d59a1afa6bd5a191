import Mathlib
import CrossPool.Proofs.Detector.Grid
import CrossPool.Proofs.Detector.WellFormed
import CrossPool.Proofs.Monitor.Update

/-!
# thread の context が届くところ

10 進演算の context は thread ごとにある。走査と評価はどの組でも `decimal_context()` に
入り、精度を 50 に固定してから計算する。だから走査の定義は標準 context `Calc.ctx` だけを
使い、呼んだ thread の context を引数にとらない。

`decimal_context()` の外で計算するのは二か所だけである。

* 検出器を作るときの取引量の格子（`Detector.createIn`）。
* 記録を書くときの値付け（`Monitor.updatePoolIn`）。その価格が安定度の窓に入る。

ここでは、この二か所で context が届く範囲を示す（`thread_context_reaches_only_computed_values`）。
取引量を指定した組だけの検出器はどの thread で作っても同じで、値付けに足りない記録の書き込みも
同じ。書き込みはどの thread でも同じ記録を保管所に入れる。

届く範囲では結果は変わる。新しい thread の既定の精度 28 では、`[1, 2]` を 3 等分する格子の
内側の点が 28 桁に丸められ、主 thread の 50 桁の格子と違う（`grid_depends_on_thread_precision`）。
-/

namespace CrossPool

open Monitor

namespace Grid

/-- `linear` の格子で、区間に収めた点がすでに値の狭義の昇順なら、格子はその点の列。 -/
theorem tradeSizesIn_linear_of_sorted (c : Decimal.Context) {lo hi : Decimal} {n : Int}
    {ys : List Decimal} (hn : 1 < n) (hrev : Calc.lt hi lo = .ok false)
    (heq : Calc.eq lo hi = .ok false)
    (hys : (do
      let step ← Calc.divIn c (← Calc.subIn c hi lo) (Calc.ofInt (n - 1))
      let points ← (List.range n.toNat).mapM (linearPoint c lo step)
      (lo :: (points.drop 1).dropLast ++ [hi]).mapM fun x => Calc.clamp x lo hi) = .ok ys)
    (hs : ys.Pairwise fun a b => Decimal.cmpValue a b = .lt) (hnan : ∀ y ∈ ys, y.isNan = false) :
    tradeSizesIn c lo hi n "linear" = .ok ys := by
  have hlt : ys.Pairwise fun a b => a.value < b.value := hs.imp_of_mem fun ha hb h => by
    rwa [Decimal.cmpValue_eq_compare (hnan _ ha) (hnan _ hb), compare_lt_iff_lt] at h
  obtain ⟨d, hd, hys⟩ := bind_eq_ok hys
  obtain ⟨step, hstep, hys⟩ := bind_eq_ok hys
  obtain ⟨points, hpoints, hys⟩ := bind_eq_ok hys
  unfold tradeSizesIn
  rw [if_neg (by omega), hrev, ok_bind, if_neg Bool.false_ne_true]
  dsimp only
  rw [if_neg (by simpa using hn.ne'), heq, ok_bind, if_neg Bool.false_ne_true,
    if_pos (beq_self_eq_true _), hd,
    ok_bind, hstep, ok_bind, hpoints, ok_bind, hys, ok_bind, sortDistinct_of_lt hlt hnan]
  rfl

end Grid

namespace Detector

/-- 取引量を指定した組の格子は、context によらず、指定された取引量を値の順に並べたもの。 -/
theorem buildGridIn_of_listed (c : Decimal.Context) (s : Settings) {p : MonitoredPair}
    {xs : List Decimal} (h : p.tradeSizes = some xs) : buildGridIn c s p = .ok (Grid.sortDistinct xs) := by
  unfold buildGridIn
  rw [h]

theorem buildGridIn_of_computed {c : Decimal.Context} {s : Settings} {p : MonitoredPair}
    {xs : List Decimal} (h : p.tradeSizes = none)
    (hg : Grid.tradeSizesIn c p.minTradeSize p.maxTradeSize s.tradeSizeSamples s.gridSpacing = .ok xs) :
    buildGridIn c s p = .ok xs := by
  unfold buildGridIn
  rw [h]
  dsimp only
  rw [hg]

/-- 組の格子が context によらなければ、検出器も context によらない。検証は比較だけで、
組を変えない。 -/
theorem createIn_congr {c c' : Decimal.Context} {pairs : List MonitoredPair} (s : Settings)
    (h : ∀ q ∈ pairs, ∀ s', buildGridIn c s' q = buildGridIn c' s' q) :
    createIn c pairs s = createIn c' pairs s := by
  unfold createIn
  refine bind_congr_of_ok fun s' _ => bind_congr_of_ok fun ps hps => ?_
  obtain rfl := Validate.mapM_validatePair_eq hps
  have hg : (ps.mapM fun q => do return (q.name, ← buildGridIn c s' q)) =
      ps.mapM fun q => do return (q.name, ← buildGridIn c' s' q) :=
    mapM_congr_mem fun q hq => by rw [h q hq s']
  simp only [hg]

theorem createIn_grid {c : Decimal.Context} {pairs : List MonitoredPair} {s : Settings} {d : Detector}
    (h : createIn c pairs s = .ok d) {P : MonitoredPair} (hP : P ∈ pairs) :
    buildGridIn c s P = .ok (d.grid P.name) := by
  obtain ⟨-, -, -, -, -, -, hgrid⟩ := createIn_validated c pairs s d h
  exact hgrid P hP

theorem grid_eq_of_buildGridIn {c : Decimal.Context} {pairs : List MonitoredPair} {s : Settings}
    {d : Detector} (h : createIn c pairs s = .ok d) {P : MonitoredPair} (hP : P ∈ pairs)
    {xs : List Decimal} (hg : buildGridIn c s P = .ok xs) : d.grid P.name = xs :=
  Except.ok.inj ((createIn_grid h hP).symm.trans hg)

end Detector

namespace Monitor

/-- 値付けに足りない記録の書き込みは、価格を求めないので context によらない。 -/
theorem updatePoolIn_of_unenriched_eq (c : Decimal.Context) {p : PoolState}
    (he : p.isEnriched = false) (m : Monitor) : updatePoolIn c p m = updatePool p m := by
  rw [updatePoolIn_of_unenriched c he, updatePool_of_unenriched he]

end Monitor

/--
thread の context は、格子を計算する組と値付けする記録にしか届かない。

* 取引量を指定した組だけの検出器は、どの context で作っても主 thread で作ったものと同じ。
* 値付けに足りない記録の書き込みは、どの context でも主 thread と同じ。
* 書き込みは、どの context でも、値付けに失敗しても、記録を入れた保管所を残す。
-/
theorem thread_context_reaches_only_computed_values (c : Decimal.Context) :
    (∀ (pairs : List MonitoredPair) (s : Settings), (∀ q ∈ pairs, q.tradeSizes.isSome = true) →
      Detector.createIn c pairs s = Detector.create pairs s) ∧
    (∀ (p : PoolState) (m : Monitor), p.isEnriched = false → updatePoolIn c p m = updatePool p m) ∧
    (∀ (p : PoolState) (m : Monitor), (finalState (updatePoolIn c p m)).cache = (m.cache.upsert p).1) := by
  refine ⟨fun pairs s hl => ?_, fun p m he => updatePoolIn_of_unenriched_eq c he m,
    cache_updatePoolIn c⟩
  refine Detector.createIn_congr s fun q hq s' => ?_
  obtain ⟨xs, hxs⟩ := Option.isSome_iff_exists.mp (hl q hq)
  rw [Detector.buildGridIn_of_listed c s' hxs, Detector.buildGridIn_of_listed Calc.ctx s' hxs]

/-- 精度 6 の thread で、取引量を指定した組の検出器を作っても主 thread と同じ。 -/
theorem thread_context_reaches_only_computed_values_at_six :
    (∀ q ∈ [(⟨"P", "A", "B", Calc.lit "1", Calc.lit "2", none, some [Calc.lit "1.5"]⟩ : MonitoredPair)],
        q.tradeSizes.isSome = true) ∧
      Detector.createIn (Calc.threadCtx 6)
          [⟨"P", "A", "B", Calc.lit "1", Calc.lit "2", none, some [Calc.lit "1.5"]⟩] Settings.default =
        Detector.create [⟨"P", "A", "B", Calc.lit "1", Calc.lit "2", none, some [Calc.lit "1.5"]⟩]
          Settings.default := by
  have hl : ∀ q ∈ [(⟨"P", "A", "B", Calc.lit "1", Calc.lit "2", none, some [Calc.lit "1.5"]⟩ : MonitoredPair)],
      q.tradeSizes.isSome = true := by simp
  exact ⟨hl, (thread_context_reaches_only_computed_values (Calc.threadCtx 6)).1 _ _ hl⟩

/-- 新しい thread の既定の精度 28 では、`[1, 2]` を 3 等分する格子の内側の点は 28 桁に
丸められ、主 thread（精度 50）の格子と違う。 -/
theorem grid_depends_on_thread_precision :
    (∃ d, Detector.createIn (Calc.threadCtx 28) [⟨"P", "A", "B", Calc.lit "1", Calc.lit "2", none, none⟩]
        { Settings.default with tradeSizeSamples := 4 } = .ok d ∧
      d.grid "P" = [Calc.lit "1", .finite false 1333333333333333333333333333 (-27),
        .finite false 1666666666666666666666666667 (-27), Calc.lit "2"]) ∧
    (∃ d, Detector.create [⟨"P", "A", "B", Calc.lit "1", Calc.lit "2", none, none⟩]
        { Settings.default with tradeSizeSamples := 4 } = .ok d ∧
      d.grid "P" = [Calc.lit "1", .finite false 13333333333333333333333333333333333333333333333333 (-49),
        .finite false 16666666666666666666666666666666666666666666666667 (-49), Calc.lit "2"]) := by
  obtain ⟨d28, hd28⟩ := exists_eq_ok_of_toBool (x := Detector.createIn (Calc.threadCtx 28)
    [⟨"P", "A", "B", Calc.lit "1", Calc.lit "2", none, none⟩]
    { Settings.default with tradeSizeSamples := 4 }) (by decide +kernel)
  obtain ⟨d50, hd50⟩ := exists_eq_ok_of_toBool (x := Detector.create
    [⟨"P", "A", "B", Calc.lit "1", Calc.lit "2", none, none⟩]
    { Settings.default with tradeSizeSamples := 4 }) (by decide +kernel)
  refine ⟨⟨d28, hd28, Detector.grid_eq_of_buildGridIn hd28 List.mem_cons_self ?_⟩,
    ⟨d50, hd50, Detector.grid_eq_of_buildGridIn hd50 List.mem_cons_self ?_⟩⟩
  -- どちらの格子も、各段を評価すれば点がすでに昇順なので並べ替えは何もしない
  all_goals exact Detector.buildGridIn_of_computed rfl (Grid.tradeSizesIn_linear_of_sorted _
    (by decide) (eq_ok_of_toOption (by decide +kernel)) (eq_ok_of_toOption (by decide +kernel))
    (eq_ok_of_toOption (by decide +kernel)) (by decide +kernel) (by decide +kernel))

end CrossPool
