import Mathlib.Data.List.Nodup
import Mathlib.Logic.Function.Basic
import CrossPool.Pool.Cache

/-!
# トークンの組の索引の性質

索引 `idx` が写像 `M`（アドレスから記録へ）の組の鍵をちょうど表すことを
`IndexExact idx M` と書く。鍵は重複せず、集合は空でも重複してもいない。アドレス `a` が
鍵 `k` の集合にあるのは、`M a` の記録の鍵が `k` のときちょうどである。

索引を書き換える二つの操作について、

* `members_insertAt`、`members_unindex` — 書き換えたあとの集合。どの索引でも成り立つ。
* `IndexExact.insertAt` — 記録のないアドレスを加えると、写像にその記録を書いたものを表す。
* `IndexExact.unindex` — 記録のあるアドレスを除くと、写像からその記録を消したものを表す。
* `IndexExact.of_key_eq` — 索引は記録の鍵しか見ないので、鍵の変わらない書き換えでは
  そのまま使える。
-/

namespace CrossPool.PoolCache

/-- 索引が写像の組の鍵をちょうど表す。 -/
structure IndexExact (idx : PairIndex) (M : String → Option PoolState) : Prop where
  keys_nodup : (idx.map (·.1)).Nodup
  nonempty : ∀ e ∈ idx, e.2 ≠ []
  nodup : ∀ e ∈ idx, e.2.Nodup
  mem_members : ∀ k a, a ∈ members idx k ↔ (M a).map PoolState.key = some k

/-! ## 鍵の集合 -/

/-- 鍵を変えない書き換えのあとの集合。 -/
theorem members_map {idx : PairIndex} {g : (String × String) × List String →
    (String × String) × List String} (hg : ∀ e, (g e).1 = e.1) (k : String × String) :
    members (idx.map g) k = ((idx.find? (·.1 == k)).map fun e => (g e).2).getD [] := by
  have hp : ((fun e : (String × String) × List String => e.1 == k) ∘ g) = (·.1 == k) := by
    funext e
    simp [hg e]
  simp only [members, List.find?_map, hp, Option.map_map]
  rfl

theorem members_of_find? {idx : PairIndex} {k : String × String} {e}
    (h : idx.find? (·.1 == k) = some e) : members idx k = e.2 := by
  simp [members, h]

theorem members_of_find?_none {idx : PairIndex} {k : String × String}
    (h : idx.find? (·.1 == k) = none) : members idx k = [] := by
  simp [members, h]

/-- 鍵の集合は索引のどれかの項目の集合か、空。 -/
theorem members_mem_or_nil (idx : PairIndex) (k : String × String) :
    (∃ e ∈ idx, e.1 = k ∧ members idx k = e.2) ∨ members idx k = [] := by
  cases h : idx.find? (·.1 == k) with
  | none => exact .inr (members_of_find?_none h)
  | some e =>
    exact .inl ⟨e, List.mem_of_find?_eq_some h, by simpa using List.find?_some h,
      members_of_find? h⟩

/-- 鍵が重ならなければ、項目の集合はその鍵の集合。 -/
theorem members_of_mem {idx : PairIndex} (hk : (idx.map (·.1)).Nodup) {e}
    (he : e ∈ idx) : members idx e.1 = e.2 := by
  cases hf : idx.find? (·.1 == e.1) with
  | none => exact absurd (List.find?_eq_none.mp hf e he) (by simp)
  | some e' =>
    have hk' : e'.1 = e.1 := by simpa using List.find?_some hf
    rw [members_of_find? hf, List.inj_on_of_nodup_map hk (List.mem_of_find?_eq_some hf) he hk']

theorem find?_key_eq_none {idx : PairIndex} {k : String × String}
    (h : idx.any (·.1 == k) = false) : idx.find? (·.1 == k) = none := by
  rw [List.find?_eq_none]
  intro e he hk
  have : idx.any (·.1 == k) = true := List.any_eq_true.mpr ⟨e, he, hk⟩
  simp [this] at h

theorem members_insertAt (idx : PairIndex) (k k' : String × String) (a : String) :
    members (insertAt idx k a) k' =
      if k' = k then (if a ∈ members idx k then members idx k else members idx k ++ [a])
      else members idx k' := by
  unfold insertAt
  split
  · rename_i hany
    rw [members_map (by intro e; split <;> rfl)]
    cases hf : idx.find? (·.1 == k') with
    | none =>
      by_cases h : k' = k
      · subst h
        obtain ⟨e, he, hk⟩ := List.any_eq_true.mp hany
        exact absurd hk (List.find?_eq_none.mp hf e he)
      · simp [members_of_find?_none hf, h]
    | some e =>
      have hk : e.1 = k' := by simpa using List.find?_some hf
      simp only [Option.map_some, Option.getD_some, members_of_find? hf]
      by_cases h : k' = k
      · subst h
        simp [hk, members_of_find? hf]
      · have hne : e.1 ≠ k := by rw [hk]; exact h
        simp [hne, h]
  · rename_i hany
    simp only [Bool.not_eq_true] at hany
    have hn := find?_key_eq_none hany
    by_cases h : k' = k
    · subst h
      simp [members, List.find?_append, hn]
    · have hne : k ≠ k' := Ne.symm h
      simp [members, List.find?_append, hne, h]

theorem find?_filter_key_self (idx : PairIndex) (k : String × String) :
    (idx.filter (·.1 != k)).find? (·.1 == k) = none := by
  rw [List.find?_eq_none]
  intro e he hk
  have := (List.mem_filter.mp he).2
  simp_all

theorem find?_filter_key_ne (idx : PairIndex) {k k' : String × String} (h : k' ≠ k) :
    (idx.filter (·.1 != k)).find? (·.1 == k') = idx.find? (·.1 == k') := by
  induction idx with
  | nil => rfl
  | cons e idx ih =>
    rw [List.filter_cons]
    by_cases h1 : e.1 = k
    · have h2 : (e.1 == k') = false := by simp [h1, Ne.symm h]
      have hb : (e.1 != k) = false := by simp [h1]
      rw [if_neg (by simp [hb]), List.find?_cons, h2, ih]
    · have hb : (e.1 != k) = true := by simp [h1]
      rw [if_pos hb, List.find?_cons, List.find?_cons, ih]

theorem members_unindex (idx : PairIndex) (k k' : String × String) (a : String) :
    members (unindex idx k a) k' = if k' = k then (members idx k).erase a else members idx k' := by
  unfold unindex
  cases hf : idx.find? (·.1 == k) with
  | none =>
    by_cases h : k' = k
    · subst h
      simp [members_of_find?_none hf]
    · simp [h]
  | some e =>
    obtain ⟨k₀, addresses⟩ := e
    have hm : members idx k = addresses := members_of_find? hf
    simp only
    by_cases hr : (addresses.erase a).isEmpty = true
    · rw [if_pos hr]
      by_cases h : k' = k
      · subst h
        have hnil : addresses.erase a = [] := List.isEmpty_iff.mp hr
        rw [members_of_find?_none (find?_filter_key_self idx k'), hm, hnil, if_pos rfl]
      · simp only [members, find?_filter_key_ne idx h, if_neg h]
    · rw [if_neg hr, members_map (by intro e; split <;> rfl)]
      cases hf' : idx.find? (·.1 == k') with
      | none =>
        by_cases h : k' = k
        · subst h
          simp [hf] at hf'
        · simp [h, members_of_find?_none hf']
      | some e' =>
        have hk : e'.1 = k' := by simpa using List.find?_some hf'
        by_cases h : k' = k
        · subst h
          simp [hk, hm]
        · have hne : e'.1 ≠ k := by rw [hk]; exact h
          simp [hne, h, members_of_find? hf']

/-! ## 項目と鍵の並び -/

theorem keys_insertAt (idx : PairIndex) (k : String × String) (a : String) :
    (insertAt idx k a).map (·.1) =
      if k ∈ idx.map (·.1) then idx.map (·.1) else idx.map (·.1) ++ [k] := by
  unfold insertAt
  split
  · rename_i hany
    obtain ⟨e, he, hk⟩ := List.any_eq_true.mp hany
    have hmem : k ∈ idx.map (·.1) := List.mem_map.mpr ⟨e, he, by simpa using hk⟩
    rw [if_pos hmem, List.map_map]
    apply List.map_congr_left
    intro e _
    simp only [Function.comp]
    split <;> rfl
  · rename_i hany
    have hmem : k ∉ idx.map (·.1) := by
      intro hk
      obtain ⟨e, he, rfl⟩ := List.mem_map.mp hk
      exact hany (List.any_eq_true.mpr ⟨e, he, by simp⟩)
    simp [hmem]

theorem keys_unindex_sublist (idx : PairIndex) (k : String × String) (a : String) :
    ((unindex idx k a).map (·.1)).Sublist (idx.map (·.1)) := by
  unfold unindex
  split
  · exact List.Sublist.refl _
  · rename_i k₀ addresses _
    dsimp only
    split
    · exact (List.filter_sublist).map _
    · have hkey : ∀ e : (String × String) × List String,
          (if (e.1 == k) = true then (e.1, addresses.erase a) else e).1 = e.1 := by
        intro e
        split <;> rfl
      simp only [List.map_map, Function.comp_def, hkey]
      exact List.Sublist.refl _

/-- `insertAt` の項目は元の項目か、鍵 `k` の集合に `a` を加えたもの。 -/
theorem mem_insertAt {idx : PairIndex} {k : String × String} {a : String}
    {e : (String × String) × List String} (he : e ∈ insertAt idx k a) :
    e ∈ idx ∨ ∃ s, e = (k, if a ∈ s then s else s ++ [a]) ∧ ((k, s) ∈ idx ∨ s = []) := by
  unfold insertAt at he
  split at he
  · obtain ⟨e₀, he₀, rfl⟩ := List.mem_map.mp he
    by_cases hk : e₀.1 = k
    · refine .inr ⟨e₀.2, ?_, .inl (by rw [← hk]; exact he₀)⟩
      simp [hk]
    · left
      simpa [hk] using he₀
  · rcases List.mem_append.mp he with h | h
    · exact .inl h
    · refine .inr ⟨[], ?_, .inr rfl⟩
      simpa using h

/-- `unindex` の項目は元の項目か、鍵 `k` の空でない集合から `a` を除いたもの。 -/
theorem mem_unindex {idx : PairIndex} {k : String × String} {a : String}
    {e : (String × String) × List String} (he : e ∈ unindex idx k a) :
    e ∈ idx ∨ ∃ s, e = (k, s.erase a) ∧ (k, s) ∈ idx ∧ s.erase a ≠ [] := by
  unfold unindex at he
  split at he
  · exact .inl he
  · rename_i k₀ addresses hf
    have hk₀ : k₀ = k := by simpa using List.find?_some hf
    dsimp only at he
    split at he
    · exact .inl (List.mem_filter.mp he).1
    · rename_i hr
      obtain ⟨e₀, he₀, rfl⟩ := List.mem_map.mp he
      by_cases hk : e₀.1 = k
      · -- 鍵が重なっていても、書き換えた項目の集合は見つけた集合から作る
        refine .inr ⟨addresses, ?_, ?_, by simpa using hr⟩
        · simp [hk]
        · rw [← hk₀]; exact List.mem_of_find?_eq_some hf
      · left
        simpa [hk] using he₀

/-! ## 写像を表す索引 -/

namespace IndexExact

variable {idx : PairIndex} {M : String → Option PoolState}

theorem members_nodup (h : IndexExact idx M) (k : String × String) : (members idx k).Nodup := by
  rcases members_mem_or_nil idx k with ⟨e, he, -, hm⟩ | hm
  · rw [hm]
    exact h.nodup e he
  · rw [hm]
    exact List.nodup_nil

/-- 鍵が索引にあるのは、その鍵の記録があるときちょうど。 -/
theorem mem_keys (h : IndexExact idx M) (k : String × String) :
    k ∈ idx.map (·.1) ↔ ∃ a, (M a).map PoolState.key = some k := by
  constructor
  · intro hk
    obtain ⟨e, he, rfl⟩ := List.mem_map.mp hk
    obtain ⟨a, ha⟩ := List.exists_mem_of_ne_nil _ (h.nonempty e he)
    refine ⟨a, (h.mem_members e.1 a).mp ?_⟩
    rw [members_of_mem h.keys_nodup he]
    exact ha
  · rintro ⟨a, ha⟩
    rcases members_mem_or_nil idx k with ⟨e, he, hk, -⟩ | hm
    · exact List.mem_map.mpr ⟨e, he, hk⟩
    · have := (h.mem_members k a).mpr ha
      rw [hm] at this
      cases this

/-- 索引は記録の鍵しか見ない。 -/
theorem of_key_eq (h : IndexExact idx M) {M' : String → Option PoolState}
    (hk : ∀ a, (M' a).map PoolState.key = (M a).map PoolState.key) : IndexExact idx M' where
  keys_nodup := h.keys_nodup
  nonempty := h.nonempty
  nodup := h.nodup
  mem_members k a := by rw [hk a]; exact h.mem_members k a

/-- 記録のないアドレスを加えた索引は、写像にその記録を書いたものを表す。 -/
theorem insertAt (h : IndexExact idx M) {p : PoolState} (hp : M p.address = none) :
    IndexExact (PoolCache.insertAt idx p.key p.address)
      (Function.update M p.address (some p)) where
  keys_nodup := by
    rw [keys_insertAt]
    split
    · exact h.keys_nodup
    · rename_i hk
      exact List.nodup_append.mpr ⟨h.keys_nodup, List.nodup_singleton _,
        fun x hx y hy => by rw [List.mem_singleton.mp hy]; exact fun e => hk (e ▸ hx)⟩
  nonempty e he := by
    rcases mem_insertAt he with he | ⟨s, rfl, -⟩
    · exact h.nonempty e he
    · dsimp only
      split
      · rename_i ha
        exact List.ne_nil_of_mem ha
      · simp
  nodup e he := by
    rcases mem_insertAt he with he | ⟨s, rfl, hs⟩
    · exact h.nodup e he
    · have hsn : s.Nodup := by
        rcases hs with hs | rfl
        · exact h.nodup _ hs
        · exact List.nodup_nil
      dsimp only
      split
      · exact hsn
      · rename_i ha
        exact List.nodup_append.mpr ⟨hsn, List.nodup_singleton _,
          fun x hx y hy => by rw [List.mem_singleton.mp hy]; exact fun e => ha (e ▸ hx)⟩
  mem_members k x := by
    rw [members_insertAt]
    by_cases hx : x = p.address
    · subst hx
      have hm : p.address ∉ members idx k := by
        rw [h.mem_members, hp]
        simp
      by_cases hk : k = p.key
      · subst hk
        have hm' : p.address ∉ members idx p.key := by rw [h.mem_members, hp]; simp
        simp [hm']
      · simp [hk, hm, Ne.symm hk]
    · rw [Function.update_of_ne hx]
      by_cases hk : k = p.key
      · subst hk
        have hm : p.address ∉ members idx p.key := by rw [h.mem_members, hp]; simp
        rw [if_pos rfl, if_neg hm, List.mem_append, h.mem_members]
        simp [hx]
      · simp [hk, h.mem_members]

/-- 記録のあるアドレスを除いた索引は、写像からその記録を消したものを表す。 -/
theorem unindex (h : IndexExact idx M) {a : String} {p : PoolState} (hp : M a = some p) :
    IndexExact (PoolCache.unindex idx p.key a) (Function.update M a none) where
  keys_nodup := h.keys_nodup.sublist (keys_unindex_sublist idx p.key a)
  nonempty e he := by
    rcases mem_unindex he with he | ⟨s, rfl, -, hne⟩
    · exact h.nonempty e he
    · exact hne
  nodup e he := by
    rcases mem_unindex he with he | ⟨s, rfl, hs, -⟩
    · exact h.nodup e he
    · exact (h.nodup _ hs).erase a
  mem_members k x := by
    rw [members_unindex]
    by_cases hx : x = a
    · subst hx
      split
      · simp [(h.members_nodup _).mem_erase_iff]
      · rename_i hk
        rw [h.mem_members, hp]
        simp [Ne.symm hk]
    · rw [Function.update_of_ne hx]
      split
      · rename_i hk
        subst hk
        rw [(h.members_nodup _).mem_erase_iff, h.mem_members]
        simp [hx]
      · exact h.mem_members k x

end IndexExact

end CrossPool.PoolCache
