import Mathlib
import CrossPool.Proofs.Monitor.Windows

/-!
# 窓は呼び出しの履歴で決まる

空の `Stability` に観測の追加（`add`）と窓の破棄（`forget`）を順に施すと、状態は呼び出しの
列だけで決まる。アドレス `a` の履歴 `history calls a` は、最後に `forget a` を呼んでから
`add a` に渡した価格の列で、そのあと `add a` を呼んでいなければ `none` である。

窓を作れる長さ `W`（無制限か、0 以上で 64 bit 符号付き整数に収まる長さ）では
（`windows_follow_calls`）、

* 窓があるのは履歴のあるアドレスちょうどで、窓は履歴の価格のうち浮動小数点数にできるもの
  （`observed`）の末尾で、観測数は `min W n` 個。
* 窓の数は履歴のあるアドレスの数で、長さ 0 の窓も数える。
* 標準偏差と点数は、観測が 2 個未満のときちょうど `none`。

浮動小数点数にできない価格は sNaN だけで、これを加えると値の誤りで止まるが、窓はできたまま
残る。だからその呼び出しは窓の数には効き、観測数には効かない
（`failed_adds_leave_the_count_behind`）。

作れない長さでは、どの `add` も窓を作れずに失敗し、状態は空のまま変わらない。負の長さは値の
誤りで、64 bit 符号付き整数に収まらない長さは範囲の誤りである。

証明は不変量 `Mirrors` による：窓の長さは `W` のまま、窓の鍵は重複せず、各アドレスの窓は
履歴から決まる。一つの呼び出しが不変量を保つこと（`Mirrors.apply`）から、列全体について言う。
-/

namespace CrossPool

namespace Stability

/-- 安定度への呼び出し。 -/
inductive Call where
  /-- 価格を観測として加える。 -/
  | add (address : String) (price : Decimal)
  /-- アドレスの窓を捨てる。 -/
  | forget (address : String)

namespace Call

/-- 呼び出しの相手のアドレス。 -/
def address : Call → String
  | add a _ => a
  | forget a => a

/-- 呼び出しを施した状態。観測を加えることに失敗しても、そのときの状態が残る。 -/
def apply (s : Stability) : Call → Stability
  | add a x => (s.add a x).1
  | forget a => s.forget a

/-- 呼び出しのあとの履歴。`add a x` は `a` の履歴の末尾に `x` を加え、`forget a` は `a` の
履歴を消す。 -/
def record (H : String → Option (List Decimal)) : Call → String → Option (List Decimal)
  | add a x => Function.update H a (some ((H a).getD [] ++ [x]))
  | forget a => Function.update H a none

end Call

/-- 空の安定度に呼び出しを順に施した状態。 -/
def run (W : Option Int) (cv : Float) (calls : List Call) : Stability :=
  calls.foldl Call.apply (empty W cv)

/-- 各アドレスの履歴：最後に捨ててから加えた価格を、加えた順に。加えていなければ `none`。 -/
def history (calls : List Call) : String → Option (List Decimal) :=
  calls.foldl Call.record fun _ => none

/-- 価格の列のうち浮動小数点数にできるものを、浮動小数点数にして並べたもの。 -/
def observed (ps : List Decimal) : List Float := ps.filterMap fun x => (Calc.toFloat x).toOption

/-- 長さ `W` の窓が呼び出しの列 `calls` のとおりに見える：観測数は `min W n`（`n` は履歴の
観測の数）、窓は履歴の観測の末尾の観測数個、窓の数は履歴のあるアドレスの数、標準偏差と点数は
観測が 2 個未満のときちょうど `none`。 -/
structure FollowsCalls (W : Option Int) (calls : List Call) (s : Stability) : Prop where
  count : ∀ a, s.count a =
    W.elim (observed ((history calls a).getD [])).length
      fun w => min w.toNat (observed ((history calls a).getD [])).length
  window : ∀ a, s.window? a = (history calls a).map fun ps => (observed ps).rtake (s.count a)
  size : s.size = ((calls.map Call.address).toFinset.filter fun b => (history calls b).isSome).card
  sigma : ∀ a, s.sigma a = .ok none ↔ s.count a < 2
  score : ∀ a, s.score a = .ok none ↔ s.count a < 2

/-! ## 窓の並びと観測 -/

@[simp] theorem observed_nil : observed [] = [] := rfl

theorem observed_append_of_ok {ps : List Decimal} {x : Decimal} {f : Float}
    (h : Calc.toFloat x = .ok f) : observed (ps ++ [x]) = observed ps ++ [f] := by
  simp [observed, List.filterMap_append, h, Except.toOption]

theorem observed_append_of_error {ps : List Decimal} {x : Decimal} {e : Fault}
    (h : Calc.toFloat x = .error e) : observed (ps ++ [x]) = observed ps := by
  simp [observed, List.filterMap_append, h, Except.toOption]

@[simp] theorem keepLast_nil (W : Option Int) : keepLast W [] = [] := by
  cases W <;> simp [keepLast, List.rtake_nil]

theorem length_keepLast (W : Option Int) (xs : List Float) :
    (keepLast W xs).length = W.elim xs.length fun w => min w.toNat xs.length := by
  cases W with
  | none => rfl
  | some w =>
    show (xs.drop (xs.length - w.toNat)).length = _
    rw [List.length_drop]
    simp only [Option.elim]
    omega

/-- 窓は、観測の列の末尾を窓の長さだけ取ったもの。 -/
theorem keepLast_eq_rtake (W : Option Int) (xs : List Float) :
    keepLast W xs = xs.rtake (keepLast W xs).length := by
  rw [length_keepLast]
  cases W with
  | none => simp [keepLast, List.rtake]
  | some w =>
    show xs.drop (xs.length - w.toNat) = xs.drop (xs.length - min w.toNat xs.length)
    congr 1
    omega

/-- 窓の鍵の列に入るのは、窓のあるアドレスちょうど。 -/
theorem mem_keys_iff (s : Stability) (a : String) :
    a ∈ s.windows.map Prod.fst ↔ (s.window? a).isSome := by
  simp [window?, List.find?_isSome]

theorem keys_putWindow (s : Stability) (a : String) (w : List Float) :
    (s.putWindow a w).windows.map Prod.fst =
      if s.windows.any (·.1 == a) then s.windows.map Prod.fst else s.windows.map Prod.fst ++ [a] := by
  unfold putWindow
  split
  · rw [List.map_map]
    congr 1
    funext p
    by_cases hp : p.1 = a <;> simp [hp]
  · simp

theorem keys_nodup_putWindow {s : Stability} (hs : (s.windows.map Prod.fst).Nodup) (a : String)
    (w : List Float) : ((s.putWindow a w).windows.map Prod.fst).Nodup := by
  rw [keys_putWindow]
  split
  · exact hs
  · next hany =>
    refine List.nodup_append.mpr ⟨hs, List.nodup_singleton a, ?_⟩
    intro b hb c hc
    rw [List.mem_singleton] at hc
    subst hc
    obtain ⟨e, he, rfl⟩ := List.mem_map.mp hb
    exact fun h => hany (List.any_eq_true.mpr ⟨e, he, by simp [h]⟩)

/-! ## 観測を一つ加える -/

section Add

variable {s : Stability} {a : String} {x : Decimal}

/-- 作れる長さでは、浮動小数点数にできない価格を加えると、窓はそのまま書き戻される
（なければ空の窓ができる）。 -/
theorem add_of_error (hv : validSize s.windowSize = true) {e : Fault}
    (he : Calc.toFloat x = .error e) :
    (s.add a x).1 = s.putWindow a ((s.window? a).getD []) := by
  unfold add
  cases hw : s.window? a with
  | some w => simp only [he, Option.getD_some]
  | none =>
    cases hs : s.windowSize with
    | none => simp only [he, Option.getD_none]
    | some n =>
      rw [hs] at hv
      obtain ⟨h0, h1⟩ : 0 ≤ n ∧ n < Int.pow 2 63 := by simpa [validSize] using hv
      have hbig : (decide (n < -Int.pow 2 63) || decide (Int.pow 2 63 ≤ n)) = false := by
        have : (0 : Int) ≤ Int.pow 2 63 := by decide
        simp only [Bool.or_eq_false_iff, decide_eq_false_iff_not]
        omega
      simp only [hbig, he, Bool.false_eq_true, if_false, not_lt.mpr h0, Option.getD_none]

/-- 作れる長さでは、加えたあとのアドレス `a` の窓は、前の窓（なければ空）に観測を加えたもの。 -/
theorem window?_add_self_of_ok (hv : validSize s.windowSize = true) {f : Float}
    (hf : Calc.toFloat x = .ok f) :
    (s.add a x).1.window? a = some (keepLast s.windowSize ((s.window? a).getD [] ++ [f])) := by
  cases hw : s.window? a with
  | some w => rw [add_of_window hw hf, window?_putWindow, if_pos rfl, push_eq_keepLast, Option.getD_some]
  | none => rw [add_of_new hw hv hf, window?_putWindow, if_pos rfl, push_eq_keepLast, Option.getD_none]

theorem window?_add_self_of_error (hv : validSize s.windowSize = true) {e : Fault}
    (he : Calc.toFloat x = .error e) : (s.add a x).1.window? a = some ((s.window? a).getD []) := by
  rw [add_of_error hv he, window?_putWindow, if_pos rfl]

theorem keys_nodup_add (hs : (s.windows.map Prod.fst).Nodup) (x : Decimal) :
    ((s.add a x).1.windows.map Prod.fst).Nodup := by
  rcases add_fst_cases s a x with h | ⟨w, h⟩ <;> rw [h]
  · exact hs
  · exact keys_nodup_putWindow hs a w

end Add

/-! ## 標準偏差と点数がないとき -/

/-- 観測が 2 個以上あれば、平均と標準偏差は求まるか、計算が失敗する。`none` にはならない。 -/
theorem meanSigma_ne_none {obs : List Float} (h : ¬ obs.length < 2) : meanSigma obs ≠ .ok none := by
  unfold meanSigma
  rw [if_neg h]
  cases hq : squares obs (total obs / obs.length.toFloat) with
  | error e => simp [hq, bind, Except.bind]
  | ok q =>
    cases hp : Binary64.power (total q / obs.length.toFloat) 0.5 <;>
      simp [hq, hp, bind, Except.bind, pure, Except.pure]

theorem meanSigma_eq_none_iff (obs : List Float) : meanSigma obs = .ok none ↔ obs.length < 2 := by
  by_cases h : obs.length < 2
  · simp only [h, iff_true]
    unfold meanSigma
    rw [if_pos h]
    rfl
  · simp only [h, iff_false]
    exact meanSigma_ne_none h

theorem sigma_eq_none_iff (s : Stability) (a : String) : s.sigma a = .ok none ↔ s.count a < 2 := by
  rw [count, ← meanSigma_eq_none_iff]
  unfold sigma
  cases meanSigma ((s.window? a).getD []) with
  | error e => simp [bind, Except.bind]
  | ok r => cases r <;> simp [bind, Except.bind, pure, Except.pure]

theorem score_eq_none_iff (s : Stability) (a : String) : s.score a = .ok none ↔ s.count a < 2 := by
  rw [count, ← meanSigma_eq_none_iff]
  unfold score
  cases meanSigma ((s.window? a).getD []) with
  | error e => simp [bind, Except.bind]
  | ok r =>
    rcases r with _ | ⟨mean, sd⟩
    · simp [bind, Except.bind, pure, Except.pure]
    · -- 平均と標準偏差が求まれば、点数は 0 か、比の計算が失敗するか、`[0, 1]` に収めた値
      simp only [bind, Except.bind]
      split
      · simp [pure, Except.pure]
      · cases Binary64.divide (sd / mean) s.cvCeiling <;> simp [pure, Except.pure]

/-! ## 履歴を映す不変量 -/

/-- 安定度が履歴 `H` を映す：窓の長さは `W` のまま、窓の鍵は重複せず、窓があるのは履歴の
あるアドレスちょうどで、窓は履歴の観測の末尾 `W` 個。 -/
structure Mirrors (W : Option Int) (H : String → Option (List Decimal)) (s : Stability) : Prop where
  windowSize : s.windowSize = W
  keys_nodup : (s.windows.map Prod.fst).Nodup
  window? : ∀ a, s.window? a = (H a).map fun ps => keepLast W (observed ps)

namespace Mirrors

variable {W : Option Int} {H : String → Option (List Decimal)} {s : Stability}

theorem empty (cv : Float) : Mirrors W (fun _ => none) (Stability.empty W cv) :=
  ⟨rfl, List.nodup_nil, fun _ => rfl⟩

/-- 作れる長さの窓に観測を加えると、そのアドレスの履歴の末尾に価格が加わる。 -/
theorem add (hm : Mirrors W H s) (hv : validSize W = true) (a : String) (x : Decimal) :
    Mirrors W (Call.record H (.add a x)) (s.add a x).1 := by
  have hv' : validSize s.windowSize = true := hm.windowSize ▸ hv
  refine ⟨(windowSize_add s a x).trans hm.windowSize, keys_nodup_add hm.keys_nodup x, fun b => ?_⟩
  simp only [Call.record]
  by_cases hb : b = a
  · subst hb
    rw [Function.update_self, Option.map_some]
    -- 前の窓は履歴の観測の末尾。履歴がなければ窓もなく、どちらも空から始まる
    have hprev : (s.window? b).getD [] = keepLast W (observed ((H b).getD [])) := by
      rw [hm.window? b]
      cases H b <;> simp
    cases hx : Calc.toFloat x with
    | ok f =>
      rw [window?_add_self_of_ok hv' hx, hprev, hm.windowSize, keepLast_keepLast_append,
        observed_append_of_ok hx]
    | error e =>
      rw [window?_add_self_of_error hv' hx, hprev, observed_append_of_error hx]
  · rw [Function.update_of_ne hb, window?_add_of_ne _ _ hb]
    exact hm.window? b

/-- 窓を捨てると、そのアドレスの履歴が消える。 -/
theorem forget (hm : Mirrors W H s) (a : String) :
    Mirrors W (Call.record H (.forget a)) (s.forget a) := by
  refine ⟨hm.windowSize, hm.keys_nodup.sublist (List.filter_sublist.map _), fun b => ?_⟩
  simp only [Call.record]
  rw [window?_forget]
  by_cases hb : b = a
  · subst hb
    simp
  · rw [if_neg hb, Function.update_of_ne hb]
    exact hm.window? b

/-- 一つの呼び出しは不変量を保つ。 -/
theorem apply (hm : Mirrors W H s) (hv : validSize W = true) (c : Call) :
    Mirrors W (Call.record H c) (Call.apply s c) := by
  cases c with
  | add a x => exact hm.add hv a x
  | forget a => exact hm.forget a

/-- 呼び出しの列は不変量を保つ。 -/
theorem foldl (hm : Mirrors W H s) (hv : validSize W = true) (calls : List Call) :
    Mirrors W (calls.foldl Call.record H) (calls.foldl Call.apply s) := by
  induction calls generalizing H s with
  | nil => exact hm
  | cons c calls ih => exact ih (hm.apply hv c)

/-- 窓の数は、履歴のあるアドレスの数。`A` は履歴のあるアドレスをすべて含む有限集合。 -/
theorem size_eq_card (hm : Mirrors W H s) {A : Finset String} (hA : ∀ a, (H a).isSome → a ∈ A) :
    s.size = (A.filter fun a => (H a).isSome).card := by
  have hkeys : (s.windows.map Prod.fst).toFinset = A.filter fun a => (H a).isSome := by
    ext a
    rw [List.mem_toFinset, mem_keys_iff, hm.window? a, Finset.mem_filter, Option.isSome_map]
    exact ⟨fun h => ⟨hA a h, h⟩, And.right⟩
  rw [← hkeys, List.toFinset_card_of_nodup hm.keys_nodup, List.length_map, size]

end Mirrors

/-! ## 呼び出しの列 -/

/-- 履歴を持つアドレスは、どこかの呼び出しの相手。 -/
theorem mem_addresses_of_record (calls : List Call) (H : String → Option (List Decimal)) (a : String)
    (h : (calls.foldl Call.record H a).isSome) : (H a).isSome ∨ a ∈ calls.map Call.address := by
  induction calls generalizing H with
  | nil => exact .inl h
  | cons c calls ih =>
    rcases ih _ h with h' | h'
    · by_cases ha : a = c.address
      · exact .inr (ha ▸ List.mem_cons_self ..)
      · -- 相手でないアドレスの履歴は、呼び出しの前のまま
        left
        cases c with
        | add b x =>
          have hab : a ≠ b := ha
          rwa [Call.record, Function.update_of_ne hab] at h'
        | forget b =>
          have hab : a ≠ b := ha
          rwa [Call.record, Function.update_of_ne hab] at h'
    · exact .inr (List.mem_cons_of_mem _ h')

theorem mem_addresses_of_history {calls : List Call} {a : String}
    (h : (history calls a).isSome) : a ∈ calls.map Call.address :=
  (mem_addresses_of_record calls _ a h).resolve_left (by simp)

/-- 作れない長さでは、空の安定度はどの呼び出しでも変わらない。 -/
theorem apply_empty_of_invalid {W : Option Int} (hv : validSize W = false) (cv : Float) (c : Call) :
    Call.apply (empty W cv) c = empty W cv := by
  cases c with
  | add a x => exact add_of_invalid rfl hv
  | forget a => rfl

theorem run_of_invalid {W : Option Int} (hv : validSize W = false) (cv : Float) (calls : List Call) :
    run W cv calls = empty W cv := by
  unfold run
  induction calls with
  | nil => rfl
  | cons c calls ih => rw [List.foldl_cons, apply_empty_of_invalid hv, ih]

/-- 作れない長さの空の安定度に観測を加えると、何も変えずに失敗する。負の長さは値の誤り、
64 bit 符号付き整数に収まらない長さは範囲の誤り。 -/
theorem add_empty_of_invalid {w : Int} (hv : validSize (some w) = false) (cv : Float) (a : String)
    (x : Decimal) :
    (empty (some w) cv).add a x = (empty (some w) cv, .error
      (if w < -Int.pow 2 63 ∨ Int.pow 2 63 ≤ w then .outOfRange "Python int too large to convert to C ssize_t"
      else .invalidValue "maxlen must be non-negative")) := by
  have hneg : ¬ (0 ≤ w ∧ w < Int.pow 2 63) := by simpa [validSize] using hv
  have hwin : (empty (some w) cv).window? a = none := rfl
  have hws : (empty (some w) cv).windowSize = some w := rfl
  unfold add
  by_cases hbig : w < -Int.pow 2 63 ∨ Int.pow 2 63 ≤ w
  · have hb : (decide (w < -Int.pow 2 63) || decide (Int.pow 2 63 ≤ w)) = true := by simpa using hbig
    simp only [hwin, hws, hb, if_pos hbig, if_true]
  · have hb : (decide (w < -Int.pow 2 63) || decide (Int.pow 2 63 ≤ w)) = false := by simpa using hbig
    have hw : w < 0 := by omega
    simp only [hwin, hws, hb, if_neg hbig, Bool.false_eq_true, if_false, hw, if_true]

/--
空の安定度に呼び出しを順に施した状態について。

* 作れる長さ `W` では、窓は呼び出しの履歴のとおりに見える（`FollowsCalls`）。
* 作れない長さでは、どの呼び出しのあとでも、観測の追加は状態を空のまま変えずに失敗する。
  負で 64 bit 符号付き整数に収まる長さは値の誤り、それ以外は範囲の誤りである。
-/
theorem windows_follow_calls (cv : Float) (calls : List Call) :
    (∀ W, validSize W = true → FollowsCalls W calls (run W cv calls)) ∧
    (∀ w : Int, validSize (some w) = false → ∀ a x,
      (run (some w) cv calls).add a x = (empty (some w) cv, .error
        (if w < -Int.pow 2 63 ∨ Int.pow 2 63 ≤ w then .outOfRange "Python int too large to convert to C ssize_t"
        else .invalidValue "maxlen must be non-negative"))) := by
  refine ⟨fun W hv => ?_, fun w hv a x => ?_⟩
  · have hm : Mirrors W (history calls) (run W cv calls) := (Mirrors.empty cv).foldl hv calls
    have hcount : ∀ a, (run W cv calls).count a = (keepLast W (observed ((history calls a).getD []))).length := by
      intro a
      rw [count, hm.window? a]
      cases history calls a <;> simp
    refine ⟨fun a => by rw [hcount, length_keepLast], fun a => ?_, ?_, sigma_eq_none_iff _, score_eq_none_iff _⟩
    · rw [hm.window? a, hcount]
      cases history calls a with
      | none => rfl
      | some ps => rw [Option.map_some, Option.map_some, Option.getD_some, ← keepLast_eq_rtake]
    · exact hm.size_eq_card fun a h => List.mem_toFinset.mpr (mem_addresses_of_history h)
  · rw [run_of_invalid hv]
    exact add_empty_of_invalid hv cv a x

/-- 長さ 2 の窓で `p` に三つの価格を加え、`q` の窓を捨てる。長さ -1 の窓は作れない。 -/
theorem windows_follow_calls_on_three_adds :
    validSize (some 2) = true ∧
      FollowsCalls (some 2) [.add "p" (.finite false 1 0), .add "p" (.finite false 2 0), .forget "q",
        .add "p" (.finite false 3 0)] (run (some 2) 0.02 [.add "p" (.finite false 1 0),
          .add "p" (.finite false 2 0), .forget "q", .add "p" (.finite false 3 0)]) ∧
      validSize (some (-1)) = false ∧
      ∀ a x, (run (some (-1)) 0.02 [.add "p" (.finite false 1 0), .add "p" (.finite false 2 0),
          .forget "q", .add "p" (.finite false 3 0)]).add a x = (empty (some (-1)) 0.02, .error
        (if (-1 : Int) < -Int.pow 2 63 ∨ Int.pow 2 63 ≤ -1 then
          .outOfRange "Python int too large to convert to C ssize_t"
        else .invalidValue "maxlen must be non-negative")) :=
  ⟨rfl, (windows_follow_calls 0.02 _).1 (some 2) rfl, rfl, (windows_follow_calls 0.02 _).2 (-1) rfl⟩

/-- 窓の長さ 20 で `p` に sNaN を一度加えると、窓はできる（窓の数 1）が観測数は 0 で、
`add` の回数 1 と食い違う。長さ `2^63` の窓は作れず、観測数は 0 のまま。長さ `-2^63 - 1` の
窓では、観測の追加は値の誤りでなく範囲の誤りで失敗する。 -/
theorem failed_adds_leave_the_count_behind :
    (history [.add "p" (.nan false true 0)] "p").map List.length = some 1 ∧
      (run (some 20) 0.02 [.add "p" (.nan false true 0)]).count "p" = 0 ∧
      (run (some 20) 0.02 [.add "p" (.nan false true 0)]).size = 1 ∧
      (run (some (Int.pow 2 63)) 0.02 [.add "p" (.finite false 1 0)]).count "p" = 0 ∧
      ((empty (some (-Int.pow 2 63 - 1)) 0.02).add "p" (.finite false 1 0)).2 =
        .error (.outOfRange "Python int too large to convert to C ssize_t") :=
  ⟨rfl, by decide, by decide, by decide, rfl⟩

end Stability

end CrossPool
