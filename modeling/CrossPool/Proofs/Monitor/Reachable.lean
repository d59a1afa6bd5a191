import Mathlib
import CrossPool.Proofs.Cache.Map
import CrossPool.Proofs.Monitor.Step

/-!
# 監視器の届く状態

監視器を作ってから、記録の書き込み（`updatePool`）と古い記録の取り除き（`pruneStale`）を
重ね、時計を進めて届く状態を `Reachable` とする。書き込みは値付けに失敗しても保管所に
残るので、失敗で終わった操作の状態も届く状態に数える。

届く状態の保管所は、作った保管所から `upsert` と `removeWhere` を重ねたものである
（`Reachable.tracks`）。だから保管所の不変量を満たす（`Reachable.wf`）。
-/

namespace CrossPool.Monitor

/-- 操作の終わりの状態。成功でも失敗でも。 -/
def finalState {α : Type} : EStateM.Result Fault Monitor α → Monitor
  | .ok _ m => m
  | .error _ m => m

/-! ## 保管所を変えない操作 -/

/-- 成功しても失敗しても保管所を変えない操作。 -/
def KeepsCache {α : Type} (x : Step α) : Prop := ∀ m, (finalState (x m)).cache = m.cache

namespace KeepsCache

variable {α β : Type}

theorem pure (a : α) : KeepsCache (Pure.pure a : Step α) := fun _ => rfl

theorem bind {x : Step α} {f : α → Step β} (hx : KeepsCache x) (hf : ∀ a, KeepsCache (f a)) :
    KeepsCache (x >>= f) := by
  intro m
  change (finalState (EStateM.bind x f m)).cache = _
  unfold EStateM.bind
  have hxm := hx m
  cases h : x m with
  | ok a s =>
    rw [h] at hxm
    exact (hf a s).trans hxm
  | error e s =>
    rw [h] at hxm
    exact hxm

theorem get : KeepsCache (MonadState.get : Step Monitor) := fun _ => rfl

theorem modify {f : Monitor → Monitor} (hf : ∀ m, (f m).cache = m.cache) :
    KeepsCache (modify f : Step Unit) := hf

theorem throw (e : Fault) : KeepsCache (throw e : Step α) := fun _ => rfl

theorem lift (r : Except Fault α) : KeepsCache (Monitor.lift r) := by
  cases r with
  | ok a => exact pure a
  | error e => exact throw e

theorem emit (level : Log.Level) (message : String) : KeepsCache (Monitor.emit level message) :=
  modify fun _ => rfl

theorem measure (f : Metrics → Metrics) : KeepsCache (Monitor.measure f) := modify fun _ => rfl

theorem apply {x : Step α} (h : KeepsCache x) {m : Monitor} {c : PoolCache} (hm : m.cache = c) :
    (finalState (x m)).cache = c :=
  (h m).trans hm

end KeepsCache

section Run

variable {β : Type} (k : PUnit → Step β) (m : Monitor)

theorem finalState_get_bind (k : Monitor → Step β) :
    finalState ((get >>= k) m) = finalState (k m m) := rfl

theorem finalState_set_bind (s : Monitor) : finalState ((set s >>= k) m) = finalState (k ⟨⟩ s) :=
  rfl

theorem finalState_modify_bind (f : Monitor → Monitor) :
    finalState ((modify f >>= k) m) = finalState (k ⟨⟩ (f m)) := rfl

end Run

/-- 価格を窓に加えても保管所は変わらない。 -/
theorem KeepsCache.observe (address : String) (pr : Decimal) :
    KeepsCache (observe address pr) := by
  intro m
  unfold Monitor.observe
  rw [finalState_get_bind]
  dsimp only
  rw [finalState_set_bind]
  exact KeepsCache.lift _ _

/-! ## 保管所を変える操作 -/

/-- 主 thread の値付けは標準 context での値付け。 -/
theorem priceIn_ctx : priceIn Calc.ctx = price := rfl

/-- 書き込みは、どの thread の context でも、値付けに失敗しても、記録を入れた保管所を残す。 -/
theorem cache_updatePoolIn (c : Decimal.Context) (p : PoolState) (m : Monitor) :
    (finalState (updatePoolIn c p m)).cache = (m.cache.upsert p).1 := by
  unfold updatePoolIn
  rw [finalState_modify_bind]
  refine KeepsCache.apply ?_ rfl
  -- 書いたあとは安定度、ログ、計測値だけを変える。最後の計測はどの枝にも続く
  have hlast : KeepsCache (get >>= fun m : Monitor =>
      measure fun mt => (mt.recordPoolUpdate p.kind.value).updateCachedPools m.cache.size) :=
    KeepsCache.bind KeepsCache.get fun _ => KeepsCache.measure _
  split
  · split
    · exact KeepsCache.bind (KeepsCache.observe _ _) fun _ => hlast
    · split
      · exact KeepsCache.bind (KeepsCache.emit _ _) fun _ => hlast
      · exact KeepsCache.bind (KeepsCache.throw _) fun _ => hlast
  · exact hlast

theorem cache_updatePool (p : PoolState) (m : Monitor) :
    (finalState (updatePool p m)).cache = (m.cache.upsert p).1 :=
  cache_updatePoolIn Calc.ctx p m

/-- 古い記録の取り除きは、読んだ時点の鮮度の上限で古い記録を除いた保管所を残す。 -/
theorem cache_pruneStale (now : Float) (m : Monitor) :
    (finalState (pruneStale now m)).cache =
      (m.cache.removeWhere fun p => p.age now > m.maxPoolAge).1 := by
  unfold pruneStale
  simp only [bind, EStateM.bind, get, getThe, MonadStateOf.get, EStateM.get, set, EStateM.set,
    measure, emit, modify, modifyGet, MonadStateOf.modifyGet, pure]
  split <;> rfl

/-! ## 届く状態 -/

/-- 監視器を作ってから、書き込み、古い記録の取り除き、時計の進みを重ねて届く状態。 -/
inductive Reachable : Monitor → Prop
  | create {n : Int} {cache : PoolCache} {maxPoolAge clock : Float} {stability : Stability}
      {metrics : Option Metrics} {m : Monitor} :
      PoolCache.create n = .ok cache → Monitor.create cache maxPoolAge clock stability metrics = .ok m →
      Reachable m
  | updatePool {m : Monitor} (p : PoolState) : Reachable m → Reachable (finalState (updatePool p m))
  | pruneStale {m : Monitor} (now : Float) : Reachable m → Reachable (finalState (pruneStale now m))
  | setClock {m : Monitor} (t : Float) : Reachable m → Reachable { m with clock := t }

theorem cache_create {cache : PoolCache} {maxPoolAge clock : Float} {stability : Stability}
    {metrics : Option Metrics} {m : Monitor}
    (h : Monitor.create cache maxPoolAge clock stability metrics = .ok m) : m.cache = cache := by
  unfold Monitor.create at h
  split at h
  · cases h
  · cases h
    rfl

/-- 届く状態の保管所は、作った保管所から書き込みと取り除きを重ねたもの。 -/
theorem Reachable.tracks {m : Monitor} (h : Reachable m) : ∃ M, PoolCache.Tracks m.cache M := by
  induction h with
  | create hc hm =>
    rw [cache_create hm]
    exact ⟨_, .create hc⟩
  | updatePool p _ ih =>
    obtain ⟨M, hM⟩ := ih
    rw [cache_updatePool]
    exact ⟨_, hM.upsert p⟩
  | pruneStale now _ ih =>
    obtain ⟨M, hM⟩ := ih
    rw [cache_pruneStale]
    exact ⟨_, hM.removeWhere _⟩
  | setClock t _ ih => exact ih

theorem Reachable.wf {m : Monitor} (h : Reachable m) : m.cache.WF :=
  let ⟨_, hM⟩ := h.tracks
  hM.wf.1

end CrossPool.Monitor
