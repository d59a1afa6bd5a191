import Mathlib
import CrossPool.Proofs.Monitor.Reachable
import CrossPool.Proofs.Binary64.Order

/-!
# 古い記録の取り除き

`pruneStale now` は、時刻 `now` での経過時間が鮮度の上限を超える記録（`isStale`）を保管所から
取り除き、そのアドレスの窓を捨てて、取り除いた数を返す。失敗はしない（`pruneStale_eq`）。

届く状態では次のことが言える（`pruneStale_removes_stale`）。

* 保管所は古い記録ちょうどを失い、ほかの記録はそのまま残る。
* 返す数は取り除いた記録の数で、残った記録の数と足すと前の数になる。
* 窓を捨てるのは、取り除いたアドレスちょうど。
* 経過時間と上限がどちらも NaN でない記録では、古いことは新鮮でないことと同じ
  （`isStale_eq_not_isFresh`）。だから取り除くのは新鮮でない記録ちょうどである。

取り除きは `age > 上限`、新鮮さは `age ≤ 上限` で調べるので、経過時間が NaN の記録
（更新時刻が NaN、あるいは時計と更新時刻がどちらも無限大）はどちらの条件も満たさない。
そのような記録は取り除かれずに、新鮮でないまま残る（`prune_keeps_record_of_unknown_age`）。
-/

namespace CrossPool

open Binary64

/-- 時刻 `now` での経過時間が `maxAge` を超える。取り除く記録の条件。 -/
def PoolState.isStale (p : PoolState) (now maxAge : Float) : Bool := p.age now > maxAge

/-- 経過時間と上限が NaN でなければ、古いことは新鮮でないことと同じ。 -/
theorem PoolState.isStale_eq_not_isFresh {p : PoolState} {now maxAge : Float}
    (ha : Comparable (p.age now)) (hb : Comparable maxAge) :
    p.isStale now maxAge = !p.isFresh now maxAge := by
  have h := not_lt_iff_le hb ha
  unfold isStale isFresh
  by_cases hlt : maxAge < p.age now
  · have hnle : ¬ p.age now ≤ maxAge := fun hle => h.mpr hle hlt
    simp [hlt, hnle]
  · simp [hlt, h.mp hlt]

/-! ## 窓を捨てる -/

namespace Stability

theorem window?_forget (s : Stability) (a b : String) :
    (s.forget a).window? b = if b = a then none else s.window? b := by
  unfold forget window?
  rw [List.find?_filter]
  split
  · next h =>
    subst h
    simp
  · next h =>
    congr 2
    funext e
    by_cases he : e.1 = b <;> simp [he, h]

@[simp] theorem windowSize_forget (s : Stability) (a : String) :
    (s.forget a).windowSize = s.windowSize := rfl

/-- 記録の列のアドレスの窓を順に捨てると、窓が残るのは列にないアドレスだけ。 -/
theorem window?_foldl_forget (rs : List PoolState) (s : Stability) (b : String) :
    (rs.foldl (fun st p => st.forget p.address) s).window? b =
      if b ∈ rs.map (·.address) then none else s.window? b := by
  induction rs generalizing s with
  | nil => simp
  | cons r rs ih =>
    rw [List.foldl_cons, ih, window?_forget]
    by_cases hb : b = r.address <;> by_cases hm : b ∈ rs.map (·.address) <;> simp [hb, hm]

theorem windowSize_foldl_forget (rs : List PoolState) (s : Stability) :
    (rs.foldl (fun st p => st.forget p.address) s).windowSize = s.windowSize := by
  induction rs generalizing s with
  | nil => rfl
  | cons r rs ih => rw [List.foldl_cons, ih, windowSize_forget]

end Stability

/-! ## 保管所から取り除く -/

namespace PoolCache

variable {c : PoolCache} {f : PoolState → Bool}

theorem snapshot_removeWhere : (c.removeWhere f).1.snapshot = c.snapshot.filter fun p => !f p :=
  List.filter_flatten.symm

theorem length_removeWhere_add_size : (c.removeWhere f).2.length + (c.removeWhere f).1.size = c.size := by
  rw [size_eq_length_snapshot, size_eq_length_snapshot, removeWhere_snd, snapshot_removeWhere]
  exact (List.length_eq_length_filter_add f).symm

/-- 取り除いた記録のアドレスは、条件に合う記録が入っていたアドレスちょうど。 -/
theorem WF.mem_removeWhere_addresses (hw : c.WF) (a : String) :
    a ∈ (c.removeWhere f).2.map (·.address) ↔ (c.get? a).any f = true := by
  rw [List.mem_map]
  constructor
  · rintro ⟨r, hr, rfl⟩
    obtain ⟨hg, hf⟩ := hw.mem_removeWhere_snd.mp hr
    simp [hg, hf]
  · intro h
    obtain ⟨r, hg, hf⟩ := (Option.any_eq_true f _).mp h
    have ha : r.address = a := (hw.get?_eq_some_iff.mp hg).2
    exact ⟨r, hw.mem_removeWhere_snd.mpr ⟨ha ▸ hg, hf⟩, ha⟩

end PoolCache

/-! ## 一回の取り除き -/

namespace Monitor

/-- 取り除きは失敗しない。保管所から古い記録を除き、その窓を捨て、ログと計測値を書いて、
取り除いた数を返す。 -/
theorem pruneStale_eq (now : Float) (m : Monitor) :
    ∃ log metrics, pruneStale now m =
      .ok (m.cache.removeWhere (·.isStale now m.maxPoolAge)).2.length
        { m with cache := (m.cache.removeWhere (·.isStale now m.maxPoolAge)).1
                 stability := (m.cache.removeWhere (·.isStale now m.maxPoolAge)).2.foldl
                   (fun st p => st.forget p.address) m.stability
                 log, metrics } := by
  unfold pruneStale
  simp only [bind, EStateM.bind, get, getThe, MonadStateOf.get, EStateM.get, set, EStateM.set,
    measure, emit, modify, modifyGet, MonadStateOf.modifyGet, pure]
  split <;> exact ⟨_, _, rfl⟩

/-- 時刻 `now` で取り除く前の状態 `m`、後の状態 `m'` と、返した数 `n` の関係。 -/
structure Pruned (m : Monitor) (now : Float) (n : Nat) (m' : Monitor) : Prop where
  /-- 古い記録ちょうどを取り除き、ほかの記録はそのまま残す。 -/
  get? : ∀ a, m'.cache.get? a = (m.cache.get? a).filter fun r => !r.isStale now m.maxPoolAge
  /-- 返すのは取り除いた記録の数。 -/
  count : n = (m.cache.snapshot.filter (·.isStale now m.maxPoolAge)).length
  /-- 取り除いた数と残った数の和は前の数。 -/
  total : n + m'.cache.size = m.cache.size
  /-- 窓を捨てるのは、取り除いたアドレスちょうど。 -/
  window? : ∀ a, m'.stability.window? a =
    if (m.cache.get? a).any (·.isStale now m.maxPoolAge) then none else m.stability.window? a
  /-- 経過時間と上限が NaN でない記録は、新鮮でないときちょうど取り除く。 -/
  removed_iff_not_fresh : ∀ r, m.cache.get? r.address = some r → Comparable (r.age now) →
    Comparable m.maxPoolAge → (m'.cache.get? r.address = none ↔ r.isFresh now m.maxPoolAge = false)
  /-- 残った記録は新鮮か、経過時間か上限が NaN。 -/
  kept : ∀ r ∈ m'.cache.snapshot,
    r.isFresh now m.maxPoolAge = true ∨ ¬ (Comparable (r.age now) ∧ Comparable m.maxPoolAge)

theorem not_isStale_of_mem_snapshot {m : Monitor} (hw : m.cache.WF) {now : Float} {r : PoolState}
    (hr : r ∈ (m.cache.removeWhere (·.isStale now m.maxPoolAge)).1.snapshot) :
    m.cache.get? r.address = some r ∧ r.isStale now m.maxPoolAge = false := by
  have hg := hw.removeWhere.mem_snapshot.mp hr
  rw [hw.get?_removeWhere] at hg
  obtain ⟨hg, hs⟩ := Option.filter_eq_some_iff.mp hg
  exact ⟨hg, by simpa using hs⟩

/-- 届く状態での取り除き。保管所、返す数、窓が `Pruned` のとおりに変わる。 -/
theorem pruneStale_removes_stale {m : Monitor} (h : Reachable m) (now : Float) :
    ∃ n m', pruneStale now m = .ok n m' ∧ Pruned m now n m' := by
  have hw := h.wf
  obtain ⟨log, metrics, heq⟩ := pruneStale_eq now m
  refine ⟨_, _, heq, ?_⟩
  have hget : ∀ a, (m.cache.removeWhere (·.isStale now m.maxPoolAge)).1.get? a =
      (m.cache.get? a).filter fun r => !r.isStale now m.maxPoolAge := hw.get?_removeWhere
  refine ⟨hget, by rw [PoolCache.removeWhere_snd], PoolCache.length_removeWhere_add_size,
    fun a => ?_, fun r hr ha hb => ?_, fun r hr => ?_⟩
  · rw [Stability.window?_foldl_forget]
    exact if_congr (hw.mem_removeWhere_addresses a) rfl rfl
  · simp only [hget, hr, Option.filter_some, PoolState.isStale_eq_not_isFresh ha hb]
    cases r.isFresh now m.maxPoolAge <;> simp
  · obtain ⟨-, hs⟩ := not_isStale_of_mem_snapshot hw hr
    by_cases hc : Comparable (r.age now) ∧ Comparable m.maxPoolAge
    · left
      rw [PoolState.isStale_eq_not_isFresh hc.1 hc.2] at hs
      simpa using hs
    · exact .inr hc

/-- 空の保管所を一つの区画で作り、上限 30 秒、時計 1000 秒で作った監視器。 -/
theorem create_thirty_seconds :
    Monitor.create ⟨PoolCache.strHash, [[]], []⟩ 30.0 1000.0 (Stability.empty (some 20) 0.02) none =
      .ok ⟨⟨PoolCache.strHash, [[]], []⟩, Stability.empty (some 20) 0.02, 30.0, 1000.0, none, []⟩ := by
  unfold Monitor.create
  rw [if_neg (by decide +kernel)]

/-- 作ったばかりの監視器に更新時刻が NaN の記録を一つ書いた状態は届く状態で、時刻 1000 秒で
取り除いても `Pruned` のとおり。 -/
theorem pruneStale_removes_stale_after_create :
    Reachable (finalState (updatePool
        { (default : PoolState) with address := "n", lastUpdate := 0.0 / 0.0 }
        ⟨⟨PoolCache.strHash, [[]], []⟩, Stability.empty (some 20) 0.02, 30.0, 1000.0, none, []⟩)) ∧
    ∃ n m', pruneStale 1000.0 (finalState (updatePool
        { (default : PoolState) with address := "n", lastUpdate := 0.0 / 0.0 }
        ⟨⟨PoolCache.strHash, [[]], []⟩, Stability.empty (some 20) 0.02, 30.0, 1000.0, none, []⟩)) =
        .ok n m' ∧
      Pruned (finalState (updatePool
        { (default : PoolState) with address := "n", lastUpdate := 0.0 / 0.0 }
        ⟨⟨PoolCache.strHash, [[]], []⟩, Stability.empty (some 20) 0.02, 30.0, 1000.0, none, []⟩))
        1000.0 n m' := by
  have h0 := Reachable.create (n := 1) rfl create_thirty_seconds
  have h1 := Reachable.updatePool { (default : PoolState) with address := "n", lastUpdate := 0.0 / 0.0 } h0
  exact ⟨h1, pruneStale_removes_stale h1 1000.0⟩

/-- 更新時刻が NaN の記録を書いた届く状態。時刻 1000 秒で取り除いても記録は保管所に残り、
新鮮でない。 -/
theorem prune_keeps_record_of_unknown_age :
    Reachable (finalState (updatePool
        { (default : PoolState) with address := "n", lastUpdate := 0.0 / 0.0 }
        ⟨⟨PoolCache.strHash, [[]], []⟩, Stability.empty (some 20) 0.02, 30.0, 1000.0, none, []⟩)) ∧
    ∃ n m', pruneStale 1000.0 (finalState (updatePool
        { (default : PoolState) with address := "n", lastUpdate := 0.0 / 0.0 }
        ⟨⟨PoolCache.strHash, [[]], []⟩, Stability.empty (some 20) 0.02, 30.0, 1000.0, none, []⟩)) =
        .ok n m' ∧
      m'.cache.get? "n" = some { (default : PoolState) with address := "n", lastUpdate := 0.0 / 0.0 } ∧
      ({ (default : PoolState) with address := "n", lastUpdate := 0.0 / 0.0 } : PoolState).isFresh
        1000.0 30.0 = false := by
  have h0 := Reachable.create (n := 1) rfl create_thirty_seconds
  have h1 := Reachable.updatePool { (default : PoolState) with address := "n", lastUpdate := 0.0 / 0.0 } h0
  obtain ⟨log, metrics, hrun⟩ := pruneStale_eq 1000.0 _
  refine ⟨h1, _, _, hrun, ?_, by decide +kernel⟩
  show PoolCache.get? (PoolCache.removeWhere _ _).1 "n" = _
  rw [h1.wf.get?_removeWhere, cache_updatePool, PoolCache.get?_upsert_eq_update h0.wf.shards_pos]
  simp only [Function.update_self, Option.filter_some]
  rw [if_pos (by decide +kernel)]

end Monitor

end CrossPool
