import Mathlib.Data.ENat.Lattice
import Mathlib.Order.CompletePartialOrder
import WeatherRelay.Proofs.Dispatch.Steps

/-!
# What a drain waits for

A drain waits for what runs, in the order of the ends, at most for the grace period (`Dispatcher.wait`). A delivery that
is left less time than the period ends by itself, one that is left more is stopped (`mem_drain_ended`,
`mem_drain_stopped`), and the wait is as long as the longest of them, but no longer than the period (`drain_waited`).
-/

namespace WeatherRelay

variable {α ε : Type}

namespace Fate

/-- The milliseconds until the end, without bound if there is none. -/
def remaining (f : Fate ε) : ℕ∞ :=
  match f.left with
  | none => ⊤
  | some t => t

theorem isSooner_iff {a b : Fate ε} : a.isSooner b = true ↔ a.remaining ≤ b.remaining := by
  unfold isSooner remaining
  cases a.left with
  | none => cases b.left <;> simp
  | some s => cases b.left <;> simp

end Fate

namespace Wait

/-- That deliveries are in the order of their ends. -/
def InOrder (xs : List (Delivery α × Fate ε)) : Prop := xs.Pairwise fun x y => x.2.remaining ≤ y.2.remaining

/-- What it comes to that a wait goes on to a delivery: it waits for it if that takes no longer than the
period, and else it is over. -/
theorem upTo_cons_cases (period elapsed : Nat) (x : Delivery α × Fate ε) (rest : List (Delivery α × Fate ε)) :
    (∃ t : Nat, x.2.remaining = t ∧ t ≤ period ∧
      upTo period elapsed (x :: rest) =
        ⟨(upTo period t rest).length, x :: (upTo period t rest).ended, (upTo period t rest).left⟩) ∨
      ((period : ℕ∞) < x.2.remaining ∧ upTo period elapsed (x :: rest) = ⟨period, [], x :: rest⟩) := by
  rw [upTo, Fate.remaining]
  cases x.2.left with
  | none => exact Or.inr ⟨ENat.natCast_lt_top period, rfl⟩
  | some t =>
    by_cases ht : t ≤ period
    · exact Or.inl ⟨t, rfl, ht, if_pos ht⟩
    · exact Or.inr ⟨ENat.natCast_lt_natCast.mpr (Nat.lt_of_not_le ht), if_neg ht⟩

/-- What ends by itself ends within the period. -/
theorem ended_le (period elapsed : Nat) (xs : List (Delivery α × Fate ε)) :
    ∀ x ∈ (upTo period elapsed xs).ended, x.2.remaining ≤ period := by
  induction xs generalizing elapsed with
  | nil => exact fun _ hx => nomatch hx
  | cons y rest ih =>
    intro x hx
    rcases upTo_cons_cases period elapsed y rest with ⟨t, hy, ht, heq⟩ | ⟨-, heq⟩
    · rw [heq] at hx
      rcases List.mem_cons.mp hx with rfl | hx
      · exact hy ▸ ENat.natCast_le_natCast.mpr ht
      · exact ih t x hx
    · rw [heq] at hx
      nomatch hx

/-- What is left after a wait in the order of the ends would end after the period. -/
theorem lt_left {period elapsed : Nat} {xs : List (Delivery α × Fate ε)} (h : InOrder xs) :
    ∀ x ∈ (upTo period elapsed xs).left, (period : ℕ∞) < x.2.remaining := by
  induction xs generalizing elapsed with
  | nil => exact fun _ hx => nomatch hx
  | cons y rest ih =>
    intro x hx
    obtain ⟨hfirst, hrest⟩ := List.pairwise_cons.mp h
    rcases upTo_cons_cases period elapsed y rest with ⟨t, -, -, heq⟩ | ⟨hlong, heq⟩
    · rw [heq] at hx
      exact ih hrest x hx
    · rw [heq] at hx
      rcases List.mem_cons.mp hx with rfl | hx
      · exact hlong
      · exact hlong.trans_le (hfirst x hx)

/-- A wait in the order of the ends is as long as the longest delivery, but no longer than the period. -/
theorem length_upTo {period elapsed : Nat} {xs : List (Delivery α × Fate ε)} (h : InOrder xs) (hperiod : elapsed ≤ period)
    (hlater : ∀ x ∈ xs, (elapsed : ℕ∞) ≤ x.2.remaining) :
    ((upTo period elapsed xs).length : ℕ∞) = min (period : ℕ∞) (max (elapsed : ℕ∞) (⨆ x ∈ xs, x.2.remaining)) := by
  induction xs generalizing elapsed with
  | nil => simp [upTo, hperiod]
  | cons y rest ih =>
    obtain ⟨hfirst, hrest⟩ := List.pairwise_cons.mp h
    have hlongest : ⨆ x ∈ y :: rest, x.2.remaining = max y.2.remaining (⨆ x ∈ rest, x.2.remaining) := by
      simp only [List.mem_cons, iSup_or, iSup_sup_eq, iSup_iSup_eq_left]
    have hnext := hlater y List.mem_cons_self
    rw [hlongest, ← max_assoc, max_eq_right hnext]
    rcases upTo_cons_cases period elapsed y rest with ⟨t, hy, ht, heq⟩ | ⟨hlong, heq⟩
    · rw [heq, ih hrest ht (hy ▸ hfirst), hy]
    · rw [heq, min_eq_left (hlong.le.trans (le_max_left _ _))]

end Wait

namespace Dispatcher

variable (d : Dispatcher α) (fate : Delivery α → Fate ε)

/-- The deliveries that run, in the order of their ends. -/
def order : List (Delivery α × Fate ε) := (d.running.map fun x => (x, fate x)).mergeSort fun a b => a.2.isSooner b.2

/-- The grace period in milliseconds. -/
def period : Nat := d.grace * 1000

/-- The wait of a drain. -/
def wait : Wait α ε := .upTo d.period 0 (d.order fate)

theorem mem_order {x : Delivery α × Fate ε} : x ∈ d.order fate ↔ x.1 ∈ d.running ∧ fate x.1 = x.2 := by
  rw [order, (List.mergeSort_perm _ _).mem_iff, List.mem_map]
  constructor
  · rintro ⟨y, hy, rfl⟩
    exact ⟨hy, rfl⟩
  · rintro ⟨hx, hfate⟩
    exact ⟨x.1, hx, Prod.ext rfl hfate⟩

theorem order_inOrder : Wait.InOrder (d.order fate) := by
  refine (List.pairwise_mergeSort ?_ ?_ _).imp Fate.isSooner_iff.mp
  · intro x y z hxy hyz
    exact Fate.isSooner_iff.mpr ((Fate.isSooner_iff.mp hxy).trans (Fate.isSooner_iff.mp hyz))
  · intro x y
    rw [Bool.or_eq_true, Fate.isSooner_iff, Fate.isSooner_iff]
    exact le_total _ _

/-- What a drain waits for and what it stops are what its wait ends with, also when nothing runs. -/
theorem drain_wait :
    (d.drain fate).waited = (d.wait fate).length ∧ (d.drain fate).ended = (d.wait fate).ended ∧
      (d.drain fate).stopped = (d.wait fate).left.map (·.1) := by
  unfold drain
  split
  · rename_i hidle
    have hnone : d.order fate = [] := by
      rw [order, List.isEmpty_iff.mp hidle, List.map_nil, List.mergeSort_nil]
    rw [wait, hnone]
    exact ⟨rfl, rfl, rfl⟩
  · exact ⟨rfl, rfl, rfl⟩

variable {d fate}

/-- What ends by itself in a drain runs, ends as it would, and within the period. -/
theorem of_mem_drain_ended {x : Delivery α × Fate ε} (h : x ∈ (d.drain fate).ended) :
    x.1 ∈ d.running ∧ fate x.1 = x.2 ∧ (fate x.1).remaining ≤ d.period := by
  rw [(d.drain_wait fate).2.1] at h
  have hmem : x ∈ d.order fate := by
    rw [← Wait.upTo_append d.period 0 (d.order fate)]
    exact List.mem_append_left _ h
  obtain ⟨hruns, hfate⟩ := (d.mem_order fate).mp hmem
  exact ⟨hruns, hfate, hfate ▸ Wait.ended_le _ _ _ x h⟩

/-- What is stopped in a drain runs and would end after the period. -/
theorem of_mem_drain_stopped {x : Delivery α} (h : x ∈ (d.drain fate).stopped) :
    x ∈ d.running ∧ (d.period : ℕ∞) < (fate x).remaining := by
  rw [(d.drain_wait fate).2.2] at h
  obtain ⟨y, hy, rfl⟩ := List.mem_map.mp h
  have hmem : y ∈ d.order fate := by
    rw [← Wait.upTo_append d.period 0 (d.order fate)]
    exact List.mem_append_right _ hy
  obtain ⟨hruns, hfate⟩ := (d.mem_order fate).mp hmem
  exact ⟨hruns, hfate ▸ Wait.lt_left (d.order_inOrder fate) y hy⟩

/-- What runs ends by itself in a drain if it is left no more than the period. -/
theorem mem_drain_ended {x : Delivery α} (hx : x ∈ d.running) (h : (fate x).remaining ≤ d.period) :
    (x, fate x) ∈ (d.drain fate).ended := by
  rcases List.mem_append.mp ((d.drain_running fate).mem_iff.mp hx) with hended | hstopped
  · obtain ⟨y, hy, rfl⟩ := List.mem_map.mp hended
    obtain ⟨-, hfate, -⟩ := of_mem_drain_ended hy
    rwa [hfate]
  · exact absurd (of_mem_drain_stopped hstopped).2 h.not_gt

/-- What runs is stopped in a drain if it is left more than the period. -/
theorem mem_drain_stopped {x : Delivery α} (hx : x ∈ d.running) (h : (d.period : ℕ∞) < (fate x).remaining) :
    x ∈ (d.drain fate).stopped := by
  rcases List.mem_append.mp ((d.drain_running fate).mem_iff.mp hx) with hended | hstopped
  · obtain ⟨y, hy, rfl⟩ := List.mem_map.mp hended
    exact absurd (of_mem_drain_ended hy).2.2 h.not_ge
  · exact hstopped

/-- And does not end by itself then. -/
theorem not_mem_drain_ended {x : Delivery α} (h : (d.period : ℕ∞) < (fate x).remaining) :
    x ∉ (d.drain fate).ended.map (·.1) := by
  intro hx
  obtain ⟨y, hy, rfl⟩ := List.mem_map.mp hx
  exact absurd (of_mem_drain_ended hy).2.2 h.not_ge

theorem drain_waited (d : Dispatcher α) (fate : Delivery α → Fate ε) :
    ((d.drain fate).waited : ℕ∞) = min (d.period : ℕ∞) (⨆ x ∈ d.running, (fate x).remaining) := by
  have hlongest : ⨆ x ∈ d.order fate, x.2.remaining = ⨆ x ∈ d.running, (fate x).remaining := by
    refine le_antisymm (iSup₂_le fun x hx => ?_) (iSup₂_le fun x hx => ?_)
    · obtain ⟨hruns, hfate⟩ := (d.mem_order fate).mp hx
      exact hfate ▸ le_iSup₂_of_le x.1 hruns le_rfl
    · exact le_iSup₂_of_le (x, fate x) ((d.mem_order fate).mpr ⟨hx, rfl⟩) le_rfl
  have hlength := Wait.length_upTo (d.order_inOrder fate) (Nat.zero_le d.period) fun _ _ => zero_le
  rw [(d.drain_wait fate).1, wait, hlength, hlongest]
  simp

/-- A drain waits for what ends by itself. -/
theorem remaining_le_waited {x : Delivery α × Fate ε} (h : x ∈ (d.drain fate).ended) :
    (fate x.1).remaining ≤ (d.drain fate).waited := by
  obtain ⟨hruns, -, hleft⟩ := of_mem_drain_ended h
  rw [drain_waited]
  exact le_min hleft (le_iSup₂_of_le x.1 hruns le_rfl)

end Dispatcher

end WeatherRelay
