import Mathlib.Data.Finset.Card
import Mathlib.Data.List.GetD
import CrossPool.Proofs.Cache.Index

/-!
# 区画に分けた保管所は一つの写像のように振る舞う

保管所は記録を区画に分け、トークンの組の索引を別に持つ。それでも外から見ると、
アドレスから記録への一つの写像 `M` と同じに振る舞う。区画の数（1 以上）と hash は
何でもよい。

やり方は三段である。

1. **不変量** `WF`：区画は 1 つ以上あり、どの記録もアドレスの区画にあり、区画の中で
   アドレスは重ならず、索引は `get?` の組の鍵をちょうど表す（`IndexExact`）。
2. **一歩ごと**：`upsert` と `removeWhere` は `WF` を保ち、`get?` を写像の書き込みと
   削除のとおりに変える（`get?_upsert`、`get?_removeWhere`）。
3. **観測**：`WF` のもとで、一覧、記録の数、組ごとの一覧、組の数はどれも `get?` だけで
   決まる。

`Tracks c M` は、作った保管所から書き込みを重ねて届く状態 `c` と、同じ書き込みを
写像に施した `M` の組である。`tracked_cache_behaves_as_map` がこの節の主定理になる。
-/

namespace CrossPool.PoolCache

/-! ## 区画の中の辞書 -/

section Bucket

variable {d : List PoolState} {p q : PoolState} {a : String}

theorem lookup_eq_some (h : lookup d a = some p) : p ∈ d ∧ p.address = a :=
  ⟨List.mem_of_find?_eq_some h, by simpa using List.find?_some h⟩

theorem lookup_of_mem (hd : (d.map (·.address)).Nodup) (hp : p ∈ d) :
    lookup d p.address = some p := by
  cases hf : lookup d p.address with
  | none => exact absurd (List.find?_eq_none.mp hf p hp) (by simp)
  | some q =>
    obtain ⟨hq, hqa⟩ := lookup_eq_some hf
    rw [List.inj_on_of_nodup_map hd hq hp hqa]

theorem lookup_eq_some_iff (hd : (d.map (·.address)).Nodup) :
    lookup d a = some p ↔ p ∈ d ∧ p.address = a :=
  ⟨lookup_eq_some, fun ⟨hp, ha⟩ => ha ▸ lookup_of_mem hd hp⟩

theorem lookup_store (d : List PoolState) (p : PoolState) (a : String) :
    lookup (store d p) a = if p.address = a then some p else lookup d a := by
  unfold store lookup
  split
  · rename_i hany
    have hg : ((·.address == a) ∘ fun q : PoolState =>
        if q.address == p.address then p else q) = (·.address == a) := by
      funext q
      by_cases hq : q.address = p.address <;> simp [hq]
    rw [List.find?_map, hg]
    cases hf : d.find? (·.address == a) with
    | none =>
      split
      · rename_i ha
        obtain ⟨q, hq, hqa⟩ := List.any_eq_true.mp hany
        exact absurd (by simpa [← ha] using hqa) (List.find?_eq_none.mp hf q hq)
      · rfl
    | some q =>
      have hqa : q.address = a := by simpa using List.find?_some hf
      by_cases ha : p.address = a
      · simp [hqa, ha]
      · have hqp : q.address ≠ p.address := by rw [hqa]; exact Ne.symm ha
        simp [hqp, ha]
  · rename_i hany
    rw [List.find?_append]
    by_cases ha : p.address = a
    · have hn : d.find? (·.address == a) = none := by
        rw [List.find?_eq_none]
        intro q hq hqa
        exact hany (List.any_eq_true.mpr ⟨q, hq, by simpa [ha] using hqa⟩)
      simp [hn, ha]
    · simp [ha]

theorem mem_store (h : q ∈ store d p) : q = p ∨ q ∈ d := by
  unfold store at h
  split at h
  · obtain ⟨q₀, hq₀, rfl⟩ := List.mem_map.mp h
    by_cases hq : q₀.address = p.address
    · exact .inl (by simp [hq])
    · exact .inr (by simpa [hq] using hq₀)
  · rcases List.mem_append.mp h with h | h
    · exact .inr h
    · exact .inl (List.mem_singleton.mp h)

theorem store_nodup (hd : (d.map (·.address)).Nodup) :
    ((store d p).map (·.address)).Nodup := by
  unfold store
  split
  · have hg : ((·.address) ∘ fun q : PoolState => if q.address == p.address then p else q) =
        (·.address) := by
      funext q
      by_cases hq : q.address = p.address <;> simp [hq]
    rw [List.map_map, hg]
    exact hd
  · rename_i hany
    rw [List.map_append]
    refine List.nodup_append.mpr ⟨hd, List.nodup_singleton _, ?_⟩
    intro x hx y hy hxy
    simp only [List.map_cons, List.map_nil, List.mem_singleton] at hy
    obtain ⟨q, hq, rfl⟩ := List.mem_map.mp hx
    exact hany (List.any_eq_true.mpr ⟨q, hq, by simp [hxy, hy]⟩)

theorem lookup_filter (hd : (d.map (·.address)).Nodup) (f : PoolState → Bool) :
    lookup (d.filter f) a = (lookup d a).filter f := by
  have hdf : ((d.filter f).map (·.address)).Nodup := hd.sublist (List.filter_sublist.map _)
  cases hl : lookup d a with
  | none =>
    rw [Option.filter_none, lookup, List.find?_filter]
    rw [lookup, List.find?_eq_none] at hl
    rw [List.find?_eq_none]
    intro q hq hc
    exact hl q hq (by simp at hc; simp [hc.2])
  | some r =>
    obtain ⟨hr, rfl⟩ := lookup_eq_some hl
    by_cases hf : f r = true
    · rw [Option.filter_some, if_pos hf]
      exact lookup_of_mem hdf (List.mem_filter.mpr ⟨hr, hf⟩)
    · rw [Option.filter_some, if_neg hf]
      cases hl' : lookup (d.filter f) r.address with
      | none => rfl
      | some q =>
        -- 同じアドレスの記録は `r` だけで、それは条件から外れている
        obtain ⟨hq, hqa⟩ := lookup_eq_some hl'
        have hqr := List.inj_on_of_nodup_map hd (List.mem_filter.mp hq).1 hr hqa
        exact absurd (hqr ▸ (List.mem_filter.mp hq).2) hf

end Bucket

/-! ## 区画の選び方 -/

section Slot

variable {c : PoolCache}

theorem slot_lt (h : 0 < c.shards.length) (a : String) : c.slot a < c.shards.length := by
  unfold slot
  have h0 := Int.emod_nonneg (c.hash a) (b := c.shards.length) (by omega)
  have h1 := Int.emod_lt_of_pos (c.hash a) (b := (c.shards.length : Int)) (by omega)
  omega

/-- 区画の列の `i` 番目。範囲の外は空。 -/
theorem mem_getD_iff {ds : List (List PoolState)} {p : PoolState} :
    p ∈ ds.flatten ↔ ∃ i, p ∈ ds.getD i [] := by
  rw [List.mem_flatten]
  constructor
  · rintro ⟨d, hd, hp⟩
    obtain ⟨i, hi, rfl⟩ := List.mem_iff_getElem.mp hd
    exact ⟨i, by rw [List.getD_eq_getElem _ _ hi]; exact hp⟩
  · rintro ⟨i, hp⟩
    by_cases hi : i < ds.length
    · rw [List.getD_eq_getElem _ _ hi] at hp
      exact ⟨_, List.getElem_mem hi, hp⟩
    · rw [List.getD_eq_default _ _ (by omega)] at hp
      cases hp

theorem getD_modify {ds : List (List PoolState)} {i : Nat} (f : List PoolState → List PoolState)
    (hi : i < ds.length) (j : Nat) :
    (ds.modify i f).getD j [] = if i = j then f (ds.getD j []) else ds.getD j [] := by
  rw [List.getD_eq_getElem?_getD, List.getD_eq_getElem?_getD, List.getElem?_modify]
  cases hj : ds[j]? with
  | none =>
    have : ds.length ≤ j := List.getElem?_eq_none_iff.mp hj
    have hij : i ≠ j := by omega
    simp [hij]
  | some d => by_cases hij : i = j <;> simp [hij]

theorem getD_map_filter (ds : List (List PoolState)) (f : PoolState → Bool) (j : Nat) :
    (ds.map (List.filter f)).getD j [] = (ds.getD j []).filter f := by
  rw [List.getD_eq_getElem?_getD, List.getD_eq_getElem?_getD, List.getElem?_map]
  cases ds[j]? <;> rfl

end Slot

/-! ## 不変量 -/

/-- 保管所の不変量。区画は 1 つ以上あり、どの記録もそのアドレスの区画にあり、区画の中で
アドレスは重ならず、索引は `get?` の組の鍵をちょうど表す。 -/
structure WF (c : PoolCache) : Prop where
  shards_pos : 0 < c.shards.length
  placed : ∀ i, ∀ p ∈ c.shards.getD i [], c.slot p.address = i
  nodup : ∀ i, ((c.shards.getD i []).map (·.address)).Nodup
  index : IndexExact c.index c.get?

namespace WF

variable {c : PoolCache}

theorem get?_eq_some_iff (hw : c.WF) {a : String} {p : PoolState} :
    c.get? a = some p ↔ p ∈ c.snapshot ∧ p.address = a := by
  rw [get?, shardOf, lookup_eq_some_iff (hw.nodup _), snapshot, mem_getD_iff]
  constructor
  · rintro ⟨hp, ha⟩
    exact ⟨⟨_, hp⟩, ha⟩
  · rintro ⟨⟨i, hp⟩, rfl⟩
    rw [hw.placed i p hp]
    exact ⟨hp, rfl⟩

theorem mem_snapshot (hw : c.WF) {p : PoolState} : p ∈ c.snapshot ↔ c.get? p.address = some p := by
  rw [hw.get?_eq_some_iff]
  simp

/-- 区画をまたいでもアドレスは重ならない。区画はアドレスで決まるからである。 -/
theorem snapshot_nodup (hw : c.WF) : (c.snapshot.map (·.address)).Nodup := by
  unfold snapshot
  rw [List.map_flatten]
  refine List.nodup_flatten.mpr ⟨?_, ?_⟩
  · intro l hl
    obtain ⟨d, hd, rfl⟩ := List.mem_map.mp hl
    obtain ⟨i, hi, rfl⟩ := List.mem_iff_getElem.mp hd
    have := hw.nodup i
    rwa [List.getD_eq_getElem _ _ hi] at this
  · rw [List.pairwise_map, List.pairwise_iff_getElem]
    intro i j hi hj hij x hx hx'
    obtain ⟨p, hp, rfl⟩ := List.mem_map.mp hx
    obtain ⟨q, hq, hqp⟩ := List.mem_map.mp hx'
    have h1 := hw.placed i p (by rw [List.getD_eq_getElem _ _ hi]; exact hp)
    have h2 := hw.placed j q (by rw [List.getD_eq_getElem _ _ hj]; exact hq)
    rw [hqp] at h2
    omega

end WF

/-! ## 記録を入れる -/

section Upsert

variable {c : PoolCache} {p : PoolState}

@[simp] theorem hash_upsert : (c.upsert p).1.hash = c.hash := rfl

@[simp] theorem upsert_snd : (c.upsert p).2 = c.get? p.address := rfl

theorem length_upsert : (c.upsert p).1.shards.length = c.shards.length := by
  simp [upsert]

theorem slot_upsert (a : String) : (c.upsert p).1.slot a = c.slot a := by
  simp [slot, length_upsert]

theorem getD_upsert (h : 0 < c.shards.length) (j : Nat) :
    (c.upsert p).1.shards.getD j [] =
      if c.slot p.address = j then store (c.shards.getD j []) p else c.shards.getD j [] :=
  getD_modify _ (slot_lt h _) j

theorem get?_upsert (h : 0 < c.shards.length) (a : String) :
    (c.upsert p).1.get? a = if p.address = a then some p else c.get? a := by
  rw [get?, shardOf, slot_upsert, getD_upsert h]
  split
  · rw [lookup_store]
    rfl
  · rename_i hs
    have ha : p.address ≠ a := fun e => hs (e ▸ rfl)
    rw [if_neg ha]
    rfl

theorem get?_upsert_eq_update (h : 0 < c.shards.length) :
    (c.upsert p).1.get? = Function.update c.get? p.address (some p) := by
  funext a
  rw [get?_upsert h, Function.update_apply]
  by_cases ha : a = p.address
  · simp [ha]
  · simp [ha, Ne.symm ha]

theorem WF.upsert (hw : c.WF) : (c.upsert p).1.WF where
  shards_pos := by rw [length_upsert]; exact hw.shards_pos
  placed i q hq := by
    rw [slot_upsert]
    rw [getD_upsert hw.shards_pos] at hq
    split at hq
    · rename_i hs
      rcases mem_store hq with rfl | hq
      · exact hs
      · exact hw.placed i q hq
    · exact hw.placed i q hq
  nodup i := by
    rw [getD_upsert hw.shards_pos]
    split
    · exact store_nodup (hw.nodup i)
    · exact hw.nodup i
  index := by
    rw [get?_upsert_eq_update hw.shards_pos]
    unfold PoolCache.upsert
    cases hprev : c.get? p.address with
    | none => exact hw.index.insertAt hprev
    | some old =>
      have hold : old.address = p.address := (lookup_eq_some hprev).2
      dsimp only
      split
      · rename_i hk
        refine hw.index.of_key_eq fun a => ?_
        rw [Function.update_apply]
        split
        · rename_i ha
          rw [ha, hprev]
          simpa using (beq_iff_eq.mp hk).symm
        · rfl
      · rw [hold, ← @Function.update_idem _ _ (fun _ => Option PoolState) p.address none (some p)
          c.get?]
        have hu := hw.index.unindex hprev
        exact hu.insertAt (by simp)

end Upsert

/-! ## 条件に合う記録を取り除く -/

section Remove

variable {c : PoolCache} {f : PoolState → Bool}

/-- 取り除いた記録を一つずつ索引から除く。索引が途中の写像 `S` を表していれば、除き終えた
索引は残った写像 `K` を表す。`S` は、まだ除いていない記録では元の記録を、それ以外では
`K` を返す。 -/
theorem IndexExact.foldl_unindex {K : String → Option PoolState} :
    ∀ (rs : List PoolState) {idx : PairIndex} {S : String → Option PoolState},
      IndexExact idx S → (∀ r ∈ rs, S r.address = some r ∧ K r.address = none) →
      (rs.map (·.address)).Nodup → (∀ a, a ∉ rs.map (·.address) → S a = K a) →
      IndexExact (rs.foldl (fun idx p =>
        if (K p.address).isNone then PoolCache.unindex idx p.key p.address else idx) idx) K
  | [], _, _, h, _, _, hS => h.of_key_eq fun a => by rw [hS a (by simp)]
  | r :: rs, _, S, h, hrs, hnd, hS => by
    obtain ⟨hr, hK⟩ := hrs r (by simp)
    rw [List.foldl_cons, hK, Option.isNone_none, if_pos rfl]
    have hr' : r.address ∉ rs.map (·.address) := (List.nodup_cons.mp hnd).1
    refine foldl_unindex rs (h.unindex hr) (fun r' hr'' => ?_) (List.nodup_cons.mp hnd).2
      (fun a ha => ?_)
    · have hne : r'.address ≠ r.address := fun e => hr' (e ▸ List.mem_map_of_mem hr'')
      rw [Function.update_of_ne hne]
      exact hrs r' (List.mem_cons_of_mem _ hr'')
    · rw [Function.update_apply]
      split
      · rename_i he
        rw [he, hK]
      · rename_i he
        exact hS a (by simp [he, ha])

@[simp] theorem hash_removeWhere : (c.removeWhere f).1.hash = c.hash := rfl

theorem removeWhere_snd : (c.removeWhere f).2 = c.snapshot.filter f :=
  List.filter_flatten.symm

theorem length_removeWhere : (c.removeWhere f).1.shards.length = c.shards.length := by
  simp [removeWhere]

theorem slot_removeWhere (a : String) : (c.removeWhere f).1.slot a = c.slot a := by
  simp [slot, length_removeWhere]

theorem getD_removeWhere (j : Nat) :
    (c.removeWhere f).1.shards.getD j [] = (c.shards.getD j []).filter fun p => !f p :=
  getD_map_filter _ _ j

/-- `removeWhere` は条件に合う記録を写像から消す。 -/
theorem WF.get?_removeWhere (hw : c.WF) (a : String) :
    (c.removeWhere f).1.get? a = (c.get? a).filter fun r => !f r := by
  rw [get?, shardOf, slot_removeWhere, getD_removeWhere, lookup_filter (hw.nodup _)]
  rfl

/-- 取り除いた記録は、写像のうち条件に合う記録ちょうどである。 -/
theorem WF.mem_removeWhere_snd (hw : c.WF) {r : PoolState} :
    r ∈ (c.removeWhere f).2 ↔ c.get? r.address = some r ∧ f r = true := by
  rw [removeWhere_snd, List.mem_filter, hw.mem_snapshot]

theorem WF.removeWhere_snd_nodup (hw : c.WF) : ((c.removeWhere f).2.map (·.address)).Nodup := by
  rw [removeWhere_snd]
  exact hw.snapshot_nodup.sublist (List.filter_sublist.map _)

theorem WF.removeWhere (hw : c.WF) : (c.removeWhere f).1.WF where
  shards_pos := by rw [length_removeWhere]; exact hw.shards_pos
  placed i q hq := by
    rw [slot_removeWhere]
    rw [getD_removeWhere] at hq
    exact hw.placed i q (List.mem_filter.mp hq).1
  nodup i := by
    rw [getD_removeWhere]
    exact (hw.nodup i).sublist (List.filter_sublist.map _)
  index := by
    have hK : (c.removeWhere f).1.get? = fun a => (c.get? a).filter fun r => !f r :=
      funext (hw.get?_removeWhere)
    show IndexExact ((c.removeWhere f).2.foldl _ c.index) _
    -- 区画から消したあとの保管所で確かめるので、除いた記録はどれも見つからない
    refine IndexExact.foldl_unindex _ hw.index (fun r hr => ?_) hw.removeWhere_snd_nodup
      (fun a ha => ?_)
    · obtain ⟨hr, hf⟩ := hw.mem_removeWhere_snd.mp hr
      refine ⟨hr, ?_⟩
      show (c.removeWhere f).1.get? r.address = none
      rw [hK]
      simp [hr, hf]
    · show c.get? a = (c.removeWhere f).1.get? a
      rw [hK]
      dsimp only
      cases hg : c.get? a with
      | none => rfl
      | some r =>
        have hra : r.address = a := (hw.get?_eq_some_iff.mp hg).2
        have hf : f r = false := by
          by_contra hf
          refine ha (List.mem_map.mpr ⟨r, hw.mem_removeWhere_snd.mpr ⟨?_, ?_⟩, hra⟩)
          · rw [hra]; exact hg
          · simpa using hf
        simp [Option.filter_some, hf]

end Remove

/-! ## 観測 -/

section Observe

variable {c : PoolCache}

theorem size_eq_length_snapshot (c : PoolCache) : c.size = c.snapshot.length := by
  -- 区画ごとの長さを足していく畳み込みは、途中の和に残りの区画の合計の長さを足したもの
  have h : ∀ (ds : List (List PoolState)) (n : Nat),
      ds.foldl (fun n d => n + d.length) n = n + ds.flatten.length := by
    intro ds
    induction ds with
    | nil => intro n; rfl
    | cons d ds ih =>
      intro n
      rw [List.foldl_cons, ih, List.flatten_cons, List.length_append]
      omega
  rw [size, snapshot, h, Nat.zero_add]

theorem poolsForPair_comm (c : PoolCache) (a b : String) :
    c.poolsForPair a b = c.poolsForPair b a := by
  unfold poolsForPair PoolState.tradesPair
  rw [pairKey_comm a b]

theorem sortStrings_perm (xs : List String) : (sortStrings xs).Perm xs :=
  List.mergeSort_perm xs _

theorem sortStrings_lt {xs : List String} (hxs : xs.Nodup) : (sortStrings xs).Pairwise (· < ·) := by
  have htrans : ∀ a b c : String, decide (a ≤ b) = true → decide (b ≤ c) = true →
      decide (a ≤ c) = true := by
    intro a b c hab hbc
    simp only [decide_eq_true_eq] at *
    exact String.le_trans hab hbc
  have htotal : ∀ a b : String, (decide (a ≤ b) || decide (b ≤ a)) = true := by
    intro a b
    simpa using String.le_total a b
  have hle : (sortStrings xs).Pairwise fun x y => decide (x ≤ y) = true :=
    List.pairwise_mergeSort htrans htotal xs
  have hne : (sortStrings xs).Pairwise (· ≠ ·) :=
    List.nodup_iff_pairwise_ne.mp ((sortStrings_perm xs).nodup_iff.mpr hxs)
  exact (hle.and hne).imp fun ⟨h, hne⟩ => Std.lt_of_le_of_ne (by simpa using h) hne

namespace WF

theorem mem_poolsForPair (hw : c.WF) {a b : String} {r : PoolState} :
    r ∈ c.poolsForPair a b ↔ c.get? r.address = some r ∧ r.key = pairKey a b := by
  unfold poolsForPair
  rw [List.mem_filterMap]
  constructor
  · rintro ⟨x, -, hx⟩
    obtain ⟨hg, ht⟩ := Option.filter_eq_some_iff.mp hx
    have hra : r.address = x := (hw.get?_eq_some_iff.mp hg).2
    refine ⟨hra ▸ hg, ?_⟩
    simpa [PoolState.tradesPair] using ht
  · rintro ⟨hg, hk⟩
    refine ⟨r.address, ?_, Option.filter_eq_some_iff.mpr ⟨hg, by simp [PoolState.tradesPair, hk]⟩⟩
    rw [sortStrings, List.mem_mergeSort, hw.index.mem_members, hg, ← hk]
    rfl

/-- 組ごとの一覧はアドレスの狭義の昇順に並ぶ。索引の集合に重なりがないからである。 -/
theorem poolsForPair_sorted (hw : c.WF) (a b : String) :
    ((c.poolsForPair a b).map (·.address)).Pairwise (· < ·) := by
  rw [List.pairwise_map]
  refine (sortStrings_lt (hw.index.members_nodup _)).filterMap _ ?_
  intro x y hxy r hr r' hr'
  have hx : r.address = x := (hw.get?_eq_some_iff.mp (Option.filter_eq_some_iff.mp hr).1).2
  have hy : r'.address = y := (hw.get?_eq_some_iff.mp (Option.filter_eq_some_iff.mp hr').1).2
  rw [hx, hy]
  exact hxy

/-- 組の数は、記録の組の鍵の種類の数である。 -/
theorem pairCount_eq (hw : c.WF) : c.pairCount = (c.snapshot.map (·.key)).toFinset.card := by
  have hkeys : (c.index.map (·.1)).toFinset = (c.snapshot.map (·.key)).toFinset := by
    ext k
    simp only [List.mem_toFinset, hw.index.mem_keys]
    constructor
    · rintro ⟨a, ha⟩
      obtain ⟨r, hr, rfl⟩ := Option.map_eq_some_iff.mp ha
      exact List.mem_map.mpr ⟨r, (hw.get?_eq_some_iff.mp hr).1, rfl⟩
    · intro hk
      obtain ⟨r, hr, rfl⟩ := List.mem_map.mp hk
      exact ⟨r.address, by rw [hw.mem_snapshot.mp hr]; rfl⟩
  rw [pairCount, ← List.length_map (·.1), ← List.toFinset_card_of_nodup hw.index.keys_nodup, hkeys]

end WF

end Observe

/-! ## 作ってから書き込みを重ねる -/

theorem getD_replicate_nil (n i : Nat) :
    (List.replicate n ([] : List PoolState)).getD i [] = [] := by
  by_cases hi : i < n
  · exact List.getD_replicate _ hi
  · exact List.getD_eq_default _ _ (by simpa using hi)

/-- 作ったばかりの保管所は空で、不変量を満たす。 -/
theorem WF.createWith {hash : String → Int} {n : Int} {c : PoolCache}
    (h : createWith hash n = .ok c) : c.WF ∧ c.get? = fun _ => none := by
  unfold PoolCache.createWith at h
  split at h
  · cases h
  · rename_i hn
    cases h
    have hget : get? ⟨hash, List.replicate n.toNat [], []⟩ = fun _ => none := by
      funext a
      rw [get?, shardOf, getD_replicate_nil]
      rfl
    refine ⟨⟨by simp; omega, fun i p hp => ?_, fun i => ?_, ?_⟩, hget⟩
    · rw [getD_replicate_nil] at hp
      cases hp
    · rw [getD_replicate_nil]
      exact List.nodup_nil
    · rw [hget]
      exact ⟨List.nodup_nil, by simp, by simp, by simp [members]⟩

/-- 作った保管所から書き込みを重ねて届く状態 `c` と、同じ書き込みを施した写像 `M`。
区画の数と hash は何でもよい。 -/
inductive Tracks : PoolCache → (String → Option PoolState) → Prop
  | create {hash : String → Int} {n : Int} {c : PoolCache} :
      createWith hash n = .ok c → Tracks c fun _ => none
  | upsert {c : PoolCache} {M : String → Option PoolState} (p : PoolState) :
      Tracks c M → Tracks (c.upsert p).1 (Function.update M p.address (some p))
  | removeWhere {c : PoolCache} {M : String → Option PoolState} (pred : PoolState → Bool) :
      Tracks c M → Tracks (c.removeWhere pred).1 fun a => (M a).filter fun r => !pred r

/-- 届く状態はどれも不変量を満たし、`get?` は写像そのものである。 -/
theorem Tracks.wf {c : PoolCache} {M : String → Option PoolState} (h : Tracks c M) :
    c.WF ∧ c.get? = M := by
  induction h with
  | create h => exact WF.createWith h
  | upsert p _ ih =>
    obtain ⟨hw, rfl⟩ := ih
    exact ⟨hw.upsert, get?_upsert_eq_update hw.shards_pos⟩
  | removeWhere pred _ ih =>
    obtain ⟨hw, rfl⟩ := ih
    exact ⟨hw.removeWhere, funext hw.get?_removeWhere⟩

/-- 保管所 `c` が写像 `M` と同じに振る舞うこと。読み出し、書き込み、取り除き、一覧、
記録の数、組ごとの一覧、組の数、索引のどれも `M` で決まる。 -/
structure BehavesAsMap (c : PoolCache) (M : String → Option PoolState) : Prop where
  get? : ∀ a, c.get? a = M a
  contains : ∀ a, c.contains a = (M a).isSome
  upsert_prev : ∀ p, (c.upsert p).2 = M p.address
  upsert_get? : ∀ p a, (c.upsert p).1.get? a = Function.update M p.address (some p) a
  removeWhere_get? : ∀ pred a, (c.removeWhere pred).1.get? a = (M a).filter fun r => !pred r
  mem_removed : ∀ pred r, r ∈ (c.removeWhere pred).2 ↔ M r.address = some r ∧ pred r = true
  removed_nodup : ∀ pred, ((c.removeWhere pred).2.map (·.address)).Nodup
  mem_snapshot : ∀ r, r ∈ c.snapshot ↔ M r.address = some r
  snapshot_nodup : (c.snapshot.map (·.address)).Nodup
  size : c.size = c.snapshot.length
  poolsForPair_comm : ∀ a b, c.poolsForPair a b = c.poolsForPair b a
  poolsForPair_sorted : ∀ a b, ((c.poolsForPair a b).map (·.address)).Pairwise (· < ·)
  mem_poolsForPair : ∀ a b r, r ∈ c.poolsForPair a b ↔ M r.address = some r ∧ r.key = pairKey a b
  pairCount : c.pairCount = (c.snapshot.map (·.key)).toFinset.card
  mem_index : ∀ k a, a ∈ members c.index k ↔ ∃ r, M a = some r ∧ r.key = k
  index_nonempty : ∀ e ∈ c.index, e.2 ≠ []

theorem tracked_cache_behaves_as_map {c : PoolCache} {M : String → Option PoolState}
    (h : Tracks c M) : BehavesAsMap c M := by
  obtain ⟨hw, rfl⟩ := h.wf
  exact {
    get? := fun _ => rfl
    contains := fun _ => rfl
    upsert_prev := fun _ => rfl
    upsert_get? := fun _ a => by rw [get?_upsert_eq_update hw.shards_pos]
    removeWhere_get? := fun _ a => hw.get?_removeWhere a
    mem_removed := fun _ _ => hw.mem_removeWhere_snd
    removed_nodup := fun _ => hw.removeWhere_snd_nodup
    mem_snapshot := fun _ => hw.mem_snapshot
    snapshot_nodup := hw.snapshot_nodup
    size := size_eq_length_snapshot c
    poolsForPair_comm := poolsForPair_comm c
    poolsForPair_sorted := hw.poolsForPair_sorted
    mem_poolsForPair := fun _ _ _ => hw.mem_poolsForPair
    pairCount := hw.pairCount_eq
    mem_index := fun k a => by rw [hw.index.mem_members, Option.map_eq_some_iff]
    index_nonempty := hw.index.nonempty }

/-- 区画 2 つの保管所に一つ書いた状態。 -/
theorem tracked_two_shards_behaves_as_map :
    BehavesAsMap (upsert ⟨fun _ => 0, [[], []], []⟩ { (default : PoolState) with address := "A" }).1
      (Function.update (fun _ => none) "A" (some { (default : PoolState) with address := "A" })) :=
  tracked_cache_behaves_as_map
    (.upsert { (default : PoolState) with address := "A" } (@Tracks.create (fun _ => 0) 2 _ rfl))

end CrossPool.PoolCache
