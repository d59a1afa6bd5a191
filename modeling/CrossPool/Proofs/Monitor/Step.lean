import Mathlib.Data.List.Forall2
import CrossPool.Monitor.Ops

/-!
# 監視器の操作が保つもの

走査と値付けは、監視器のログと計測値を書くだけで、保管所、安定度、鮮度の上限、時計は
読むだけである。この読む部分を `View` にまとめる。

`Ensures v x Q` は、読む部分が `v` の状態から操作 `x` が成功すれば、読む部分は `v` の
ままで、結果が `Q` を満たすことを言う。失敗については何も言わない。`bind`、畳み込み、
`filterMapM` の規則で、長い操作の保証をその部分の保証から組み立てる。状態を持たない計算
については `Returns x P` が同じことを言い、`bind` と `if` の `↔` で `simp` が計算をたどる。

* 結果が状態によらない計算は、`filterMapM` の結果を `List.filterMap` で言える
  （`filterMapM_eq`）。
* 畳み込みの各段が累積に高々一つ加えるなら、結果は入力の部分列から一つずつ作った値を
  並べたものである（`foldlM_append`）。
-/

namespace CrossPool

/-! ## 失敗しうる計算の結果 -/

/-- 続けた計算が成功すれば、前の計算も成功している。 -/
theorem bind_eq_ok {ε α β : Type} {x : Except ε α} {f : α → Except ε β} {b : β}
    (h : x >>= f = .ok b) : ∃ a, x = .ok a ∧ f a = .ok b := by
  cases x with
  | error e => cases h
  | ok a => exact ⟨a, rfl, h⟩

theorem ok_bind {ε α β : Type} (a : α) (f : α → Except ε β) : (Except.ok a >>= f) = f a := rfl

/-- 前の計算が成功したときの続きが一致すれば、つないだ計算も一致する。 -/
theorem bind_congr_of_ok {ε α β : Type} {x : Except ε α} {f g : α → Except ε β}
    (h : ∀ a, x = .ok a → f a = g a) : x >>= f = x >>= g := by
  cases x with
  | error e => rfl
  | ok a => exact h a rfl

/-- 成功の印が真なら、計算は成功している。具体的な計算を評価して確かめるのに使う。 -/
theorem exists_eq_ok_of_toBool {ε α : Type} {x : Except ε α} (h : x.toBool = true) :
    ∃ a, x = .ok a := by
  cases x with
  | error e => cases h
  | ok a => exact ⟨a, rfl⟩

/-- 成功した値を読み出せれば、計算はその値で成功している。具体的な計算を評価して確かめるのに
使う。 -/
theorem eq_ok_of_toOption {ε α : Type} {x : Except ε α} {a : α} (h : x.toOption = some a) :
    x = .ok a := by
  cases x with
  | error e => cases h
  | ok a' => cases h; rfl

/-- 計算 `x` が成功すれば、その値は `P` を満たす。 -/
def Returns {α : Type} (x : Except Fault α) (P : α → Prop) : Prop := ∀ a, x = .ok a → P a

namespace Returns

variable {α β : Type} {P Q : α → Prop}

theorem mono {x : Except Fault α} (h : Returns x P) (hq : ∀ a, P a → Q a) : Returns x Q :=
  fun a ha => hq a (h a ha)

@[simp] theorem pure_iff (a : α) : Returns (Pure.pure a : Except Fault α) P ↔ P a :=
  ⟨fun h => h a rfl, fun h b hb => by cases hb; exact h⟩

@[simp] theorem ok_iff (a : α) : Returns (Except.ok a : Except Fault α) P ↔ P a := pure_iff a

@[simp] theorem error (e : Fault) : Returns (Except.error e : Except Fault α) P := by
  intro a h
  cases h

@[simp] theorem throw (e : Fault) : Returns (MonadExcept.throw e : Except Fault α) P := error e

@[simp] theorem bind_iff {x : Except Fault α} {f : α → Except Fault β} {P : β → Prop} :
    Returns (x >>= f) P ↔ Returns x fun a => Returns (f a) P := by
  cases x with
  | error e => exact ⟨fun _ => error e, fun _ => error e⟩
  | ok a => exact ⟨fun h => (ok_iff a).mpr h, fun h => (ok_iff a).mp h⟩

theorem bind {x : Except Fault α} {f : α → Except Fault β} {Q : β → Prop} (hx : Returns x P)
    (hf : ∀ a, P a → Returns (f a) Q) : Returns (x >>= f) Q :=
  bind_iff.mpr (hx.mono hf)

@[simp] theorem map_iff {x : Except Fault α} {f : α → β} {P : β → Prop} :
    Returns (f <$> x) P ↔ Returns x fun a => P (f a) := by
  cases x with
  | error e => exact ⟨fun _ => error e, fun _ => error e⟩
  | ok a => exact ⟨fun h => (ok_iff a).mpr (h (f a) rfl), fun h b hb => by cases hb; exact h a rfl⟩

@[simp] theorem ite_iff {c : Prop} [Decidable c] {x y : Except Fault α} :
    Returns (if c then x else y) P ↔ (c → Returns x P) ∧ (¬c → Returns y P) := by
  by_cases hc : c <;> simp [hc]

@[simp] theorem of_true (x : Except Fault α) : Returns x fun _ => True := fun _ _ => trivial

/-- 各要素の計算が `R a` を保証すれば、`mapM` の結果は入力と `R` で一つずつ対応する。 -/
theorem mapM {f : α → Except Fault β} {R : α → β → Prop} :
    ∀ {l : List α}, (∀ a ∈ l, Returns (f a) (R a)) → Returns (l.mapM f) (List.Forall₂ R l)
  | [], _ => by simp
  | a :: l, hf => by
    rw [List.mapM_cons, bind_iff]
    refine (hf a (List.mem_cons_self ..)).mono fun b hb => ?_
    rw [bind_iff]
    refine (mapM fun x hx => hf x (List.mem_cons_of_mem _ hx)).mono fun bs hbs => ?_
    exact (pure_iff _).mpr (List.Forall₂.cons hb hbs)

/-- 各要素の計算の値が `P` を満たせば、`mapM` の値の要素はみな `P` を満たす。 -/
theorem mapM_forall {f : α → Except Fault β} {P : β → Prop} {l : List α}
    (hf : ∀ a ∈ l, Returns (f a) P) : Returns (l.mapM f) fun bs => ∀ b ∈ bs, P b := by
  refine (mapM (R := fun _ => P) hf).mono fun bs h => ?_
  clear hf
  induction h with
  | nil => simp
  | cons hb _ ih => exact List.forall_mem_cons.mpr ⟨hb, ih⟩

/-- `filterM` の述語はどの要素でも成功し、真を返した要素は結果に入る。 -/
theorem filterM {p : α → Except Fault Bool} (l : List α) :
    Returns (l.filterM p) fun out => ∀ a ∈ l, ∃ b, p a = .ok b ∧ (b = true → a ∈ out) := by
  -- 本体は選んだ要素を逆順に `acc` へ積む再帰。積んだ要素は結果に残る
  suffices h : ∀ acc, Returns (List.filterAuxM p l acc) fun out =>
      (∀ a ∈ acc, a ∈ out) ∧ ∀ a ∈ l, ∃ b, p a = .ok b ∧ (b = true → a ∈ out) by
    rw [List.filterM, bind_iff]
    exact (h []).mono fun out hout => (pure_iff _).mpr fun a ha => by
      simpa using hout.2 a ha
  induction l with
  | nil => intro acc; simp [List.filterAuxM]
  | cons x l ih =>
    intro acc
    rw [List.filterAuxM, bind_iff]
    cases hx : p x with
    | error e => exact error e
    | ok b =>
      refine (ok_iff b).mpr ((ih (cond b (x :: acc) acc)).mono fun out ⟨hacc, hl⟩ => ?_)
      refine ⟨fun a ha => hacc a (by cases b <;> simp [ha]), fun a ha => ?_⟩
      rcases List.mem_cons.mp ha with rfl | ha
      · exact ⟨b, hx, fun hb => hacc a (by simp [hb])⟩
      · exact hl a ha

end Returns

namespace Monitor

/-- 監視器のうち、走査と値付けが読む部分。 -/
structure View where
  cache : PoolCache
  stability : Stability
  maxPoolAge : Float
  clock : Float

/-- 監視器の読む部分。 -/
def view (m : Monitor) : View := ⟨m.cache, m.stability, m.maxPoolAge, m.clock⟩

/-- 読む部分が `v` の状態から `x` が成功すれば、読む部分は `v` のままで、結果は `Q` を満たす。 -/
def Ensures {α : Type} (v : View) (x : Step α) (Q : α → Prop) : Prop :=
  ∀ m a m', m.view = v → x m = .ok a m' → m'.view = v ∧ Q a

namespace Ensures

variable {α β : Type} {v : View} {x : Step α} {Q Q' : α → Prop}

theorem mono (h : Ensures v x Q) (hq : ∀ a, Q a → Q' a) : Ensures v x Q' := by
  intro m a m' hv hx
  obtain ⟨hv', hq'⟩ := h m a m' hv hx
  exact ⟨hv', hq a hq'⟩

theorem pure {a : α} (h : Q a) : Ensures v (Pure.pure a : Step α) Q := by
  intro m b m' hv hx
  cases hx
  exact ⟨hv, h⟩

theorem bind {f : α → Step β} {R : β → Prop} (hx : Ensures v x Q)
    (hf : ∀ a, Q a → Ensures v (f a) R) : Ensures v (x >>= f) R := by
  intro m b m'' hv h
  change EStateM.bind x f m = _ at h
  unfold EStateM.bind at h
  cases hxm : x m with
  | ok a m' =>
    rw [hxm] at h
    obtain ⟨hv', hq⟩ := hx m a m' hv hxm
    exact hf a hq m' b m'' hv' h
  | error e s =>
    rw [hxm] at h
    cases h

theorem map {f : α → β} {R : β → Prop} (hx : Ensures v x Q) (hf : ∀ a, Q a → R (f a)) :
    Ensures v (f <$> x) R := by
  intro m b m' hv h
  change EStateM.map f x m = _ at h
  unfold EStateM.map at h
  cases hxm : x m with
  | ok a s =>
    obtain ⟨hv', hq⟩ := hx m a s hv hxm
    rw [hxm] at h
    cases h
    exact ⟨hv', hf a hq⟩
  | error e s =>
    rw [hxm] at h
    cases h

theorem get : Ensures v (MonadState.get : Step Monitor) fun m => m.view = v := by
  intro m a m' hv h
  cases h
  exact ⟨hv, hv⟩

theorem modify {f : Monitor → Monitor} (hf : ∀ m, (f m).view = m.view) :
    Ensures v (modify f : Step Unit) fun _ => True := by
  intro m a m' hv h
  cases h
  exact ⟨(hf m).trans hv, trivial⟩

theorem throw {e : Fault} : Ensures v (throw e : Step α) Q := by
  intro m a m' hv h
  cases h

theorem lift {r : Except Fault α} : Ensures v (Monitor.lift r) fun a => r = .ok a := by
  cases r with
  | ok a => exact pure rfl
  | error e => exact throw

theorem emit (level : Log.Level) (message : String) :
    Ensures v (Monitor.emit level message) fun _ => True :=
  modify fun _ => rfl

theorem measure (f : Metrics → Metrics) : Ensures v (Monitor.measure f) fun _ => True :=
  modify fun _ => rfl

theorem recordSkip (reason : String) : Ensures v (Monitor.recordSkip reason) fun _ => True :=
  measure _

/-- 理由を記録して読み飛ばす枝。 -/
theorem emit_skip (level : Log.Level) (message reason : String) {a : α} (h : Q a) :
    Ensures v (Monitor.emit level message >>= fun _ =>
      Monitor.recordSkip reason >>= fun _ => (Pure.pure a : Step α)) Q :=
  bind (emit level message) fun _ _ => bind (recordSkip reason) fun _ _ => pure h

/-- 畳み込みは、各段が保つ不変量を保つ。 -/
theorem foldlM {f : β → α → Step β} {I : β → Prop} :
    ∀ (l : List α) {init : β}, (∀ b a, a ∈ l → I b → Ensures v (f b a) I) → I init →
      Ensures v (l.foldlM f init) I
  | [], _, _, hi => pure hi
  | a :: l, init, hf, hi => by
    rw [List.foldlM_cons]
    exact bind (hf init a (List.mem_cons_self ..) hi) fun b hb =>
      foldlM l (fun b' a' ha' => hf b' a' (List.mem_cons_of_mem _ ha')) hb

/--
各段が累積を変えないか一つ加えるだけの畳み込み。結果は、入力の部分列の各要素から一つずつ
作った値を、初めの累積の後ろに順に並べたものになる。
-/
theorem foldlM_append {γ : Type} {f : List γ → α → Step (List γ)} {R : α → γ → Prop} :
    ∀ (l : List α) {init : List γ},
      (∀ acc a, a ∈ l → Ensures v (f acc a) fun acc' => acc' = acc ∨ ∃ o, acc' = acc ++ [o] ∧ R a o) →
      Ensures v (l.foldlM f init) fun res =>
        ∃ outs : List (α × γ), (outs.map Prod.fst).Sublist l ∧ res = init ++ outs.map Prod.snd ∧
          ∀ p ∈ outs, R p.1 p.2
  | [], init, _ => pure ⟨[], List.Sublist.slnil, by simp, by simp⟩
  | a :: l, init, hf => by
    rw [List.foldlM_cons]
    refine bind (hf init a (List.mem_cons_self ..)) fun acc h => ?_
    refine (foldlM_append l fun acc' a' ha' => hf acc' a' (List.mem_cons_of_mem _ ha')).mono ?_
    rintro res ⟨outs, hsub, rfl, hR⟩
    rcases h with rfl | ⟨o, rfl, ho⟩
    · exact ⟨outs, hsub.cons a, rfl, hR⟩
    · refine ⟨(a, o) :: outs, hsub.cons_cons a, by simp, fun p hp => ?_⟩
      rcases List.mem_cons.mp hp with rfl | hp
      · exact ho
      · exact hR p hp

/-- 結果が状態によらず `g` で決まる計算の `filterMapM` は `filterMap g`。 -/
theorem filterMapM_eq {f : α → Step (Option β)} {g : α → Option β} {l : List α}
    (hf : ∀ a ∈ l, Ensures v (f a) fun r => r = g a) :
    Ensures v (l.filterMapM f) fun bs => bs = l.filterMap g := by
  -- 本体は集めた結果 `acc` を逆順に持つ再帰
  suffices h : ∀ acc, Ensures v (List.filterMapM.loop f l acc) fun bs =>
      bs = acc.reverse ++ l.filterMap g by
    exact h []
  induction l with
  | nil => exact fun acc => pure (by simp)
  | cons a l ih =>
    intro acc
    refine bind (hf a (List.mem_cons_self ..)) fun r hr => ?_
    subst hr
    have ih' := ih fun b hb => hf b (List.mem_cons_of_mem _ hb)
    cases hg : g a with
    | none => exact (ih' acc).mono fun bs h => by simp [h, hg]
    | some b => exact (ih' (b :: acc)).mono fun bs h => by simp [h, hg]

end Ensures

end Monitor

end CrossPool
