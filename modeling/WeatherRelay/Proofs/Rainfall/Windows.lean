import Mathlib.Data.List.DropRight
import WeatherRelay.Proofs.Calendar
import WeatherRelay.Proofs.Rainfall.Run

/-!
# What a window sums

A window knows only its sum and when it was last added to, and begins anew whenever an amount falls in another period
than the one before it. So its sum is that of the longest suffix of the amounts that lies in the period of the last one,
and when the clock never goes back this is the rain of that whole period.
-/

namespace WeatherRelay.Rainfall

variable {α : Type}

/-- The longest suffix of a list whose elements all have a property. -/
structure IsLongestSuffix {β : Type} (good : β → Prop) (s xs : List β) : Prop where
  isSuffix : s <:+ xs
  all_good : ∀ x ∈ s, good x
  longest : ∀ t, t <:+ xs → (∀ x ∈ t, good x) → t <:+ s

/-- Dropping from the right what fails leaves the longest suffix. -/
theorem isLongestSuffix_rtakeWhile {β : Type} (p : β → Bool) (xs : List β) :
    IsLongestSuffix (fun x => p x = true) (xs.rtakeWhile p) xs := by
  refine ⟨List.rtakeWhile_suffix _ _, fun x hx => List.mem_rtakeWhile_imp hx, ?_⟩
  induction xs using List.reverseRecOn with
  | nil =>
    intro t ht _
    simpa using ht
  | append_singleton xs x ih =>
    intro t ht hgood
    rcases List.eq_nil_or_concat t with rfl | ⟨u, y, rfl⟩
    · exact List.nil_suffix
    · obtain ⟨w, hw⟩ := ht
      rw [List.concat_eq_append] at hgood hw ⊢
      rw [← List.append_assoc] at hw
      obtain ⟨hxs, rfl⟩ : w ++ u = xs ∧ y = x := by simpa using List.append_inj' hw rfl
      rw [List.rtakeWhile_concat_pos _ _ _ (hgood y (by simp))]
      have hu := ih u ⟨w, hxs⟩ fun z hz => hgood z (by simp [hz])
      obtain ⟨v, hv⟩ := hu
      exact ⟨v, by rw [← hv, List.append_assoc]⟩

/-- The latest amounts that share a period with a moment. -/
def stretch (p : Period) (now : Moment) (rains : List (Rain α)) : List (Rain α) :=
  rains.rtakeWhile fun r => p.same r.time now

/-- An amount of the period goes on with its stretch. -/
theorem stretch_snoc (p : Period) (now : Moment) (rains : List (Rain α)) (r : Rain α) (h : p.same r.time now = true) :
    stretch p now (rains ++ [r]) = stretch p now rains ++ [r] :=
  List.rtakeWhile_concat_pos _ _ _ h

/-- An amount of another period cuts the stretch off. -/
theorem stretch_snoc_of_not (p : Period) (now : Moment) (rains : List (Rain α)) (r : Rain α) (h : ¬p.same r.time now = true) :
    stretch p now (rains ++ [r]) = [] :=
  List.rtakeWhile_concat_neg _ _ _ h

/-- Two moments of a period have one stretch. -/
theorem stretch_congr (p : Period) {a b : Moment} (h : p.same a b = true) (rains : List (Rain α)) :
    stretch p a rains = stretch p b rains := by
  have hab : (fun r : Rain α => p.same r.time a) = fun r => p.same r.time b := by
    funext r
    rw [Bool.eq_iff_iff]
    exact ⟨fun hr => p.same_trans hr h, fun hr => p.same_trans hr (p.same_symm h)⟩
  simp only [stretch, hab]

/-- While the clock does not go back, the stretch is all the rain of the period. -/
theorem stretch_eq_filter (p : Period) (now : Moment) (rains : List (Rain α)) (hnow : ∀ r ∈ rains, r.time ≤ now)
    (h : rains.Pairwise (·.time ≤ ·.time)) : stretch p now rains = rains.filter fun r => p.same r.time now := by
  induction rains using List.reverseRecOn with
  | nil => rfl
  | append_singleton rains r ih =>
    obtain ⟨hbefore, -, hle⟩ := List.pairwise_append.mp h
    have hr : r.time ≤ now := hnow r (by simp)
    rw [List.filter_append]
    by_cases hsame : p.same r.time now = true
    · rw [stretch_snoc _ _ _ _ hsame, ih (fun q hq => hnow q (by simp [hq])) hbefore]
      simp [hsame]
    · -- what came before `r` and shared the period of `now` would hold `r` in it
      rw [stretch_snoc_of_not _ _ _ _ hsame]
      have hnone : rains.filter (fun q => p.same q.time now) = [] := by
        rw [List.filter_eq_nil_iff]
        intro q hq hqnow
        have hqr := p.same_of_between (hle q hq r (by simp)) hr hqnow
        exact hsame (p.same_trans (p.same_symm hqr) hqnow)
      simp [hnone, hsame]

variable [Scalar α]

/-- An amount of the period of the last one is added to the sum; any other takes its place. -/
theorem Window.add_mk (sum amount : α) (last now : Moment) (p : Period) :
    Window.add ⟨sum, some last⟩ p amount now = ⟨if p.same last now = true then sum + amount else amount, some now⟩ := rfl

namespace Accumulator

/-- A window holds the sum of the stretch that ends with the last amount. -/
theorem window_addAll (before : List (Rain α)) (last : Rain α) (p : Period) :
    ((empty : Accumulator α).addAll (before ++ [last])).windows.get p =
      ⟨rainSum (stretch p last.time (before ++ [last])), some last.time⟩ := by
  induction before using List.reverseRecOn generalizing last with
  | nil =>
    have hs : stretch p last.time ([] ++ [last]) = [last] := stretch_snoc p _ [] last (p.same_refl _)
    rw [addAll_snoc, add_window, hs]
    simp [addAll, empty_window, Window.add, Window.covers, Window.empty, rainSum_singleton]
  | append_singleton before r ih =>
    rw [addAll_snoc, add_window, ih r, Window.add_mk, stretch_snoc p _ _ last (p.same_refl _)]
    by_cases h : p.same r.time last.time = true
    · have hne : stretch p last.time (before ++ [r]) ≠ [] := by simp [stretch_snoc _ _ _ _ h]
      rw [if_pos h, stretch_congr p h, rainSum_snoc hne]
    · rw [if_neg h, stretch_snoc_of_not _ _ _ _ h]
      rfl

/-- What a period's sum is after rain that came in any order. The sum that the last amount returns is that of the longest
suffix of the amounts in the period of the last one, added from the left; while the clock does not go back this is all the
rain of the period. From then on the sum reads the same at every moment of that period, and nothing at any other. -/
theorem windows_sum_their_period (before : List (Rain α)) (last : Rain α) (p : Period) :
    let a := (empty : Accumulator α).addAll (before ++ [last])
    let total := (a.totalsAt last.time).windows.get p
    (∃ s, IsLongestSuffix (fun r => p.same r.time last.time = true) s (before ++ [last]) ∧ total = rainSum s) ∧
      ((before ++ [last]).Pairwise (·.time ≤ ·.time) →
        total = rainSum ((before ++ [last]).filter fun r => p.same r.time last.time)) ∧
      ∀ t, (a.totalsAt t).windows.get p = if p.same last.time t = true then total else 0 := by
  intro a total
  have hread : ∀ t, (a.totalsAt t).windows.get p =
      if p.same last.time t = true then rainSum (stretch p last.time (before ++ [last])) else 0 := by
    intro t
    rw [totalsAt_window, window_addAll]
    rfl
  have htotal : total = rainSum (stretch p last.time (before ++ [last])) := by
    have h := hread last.time
    rwa [if_pos (p.same_refl _)] at h
  refine ⟨⟨stretch p last.time (before ++ [last]), isLongestSuffix_rtakeWhile _ _, htotal⟩, ?_, ?_⟩
  · intro htimes
    have hle : ∀ r ∈ before ++ [last], r.time ≤ last.time := by
      intro r hr
      rcases List.mem_append.mp hr with hr | hr
      · exact (List.pairwise_append.mp htimes).2.2 r hr last (by simp)
      · rw [List.mem_singleton.mp hr]
    rw [htotal, stretch_eq_filter p last.time _ hle htimes]
  · intro t
    rw [htotal]
    exact hread t

/-- Rain shortly before midnight on a leap day. -/
def leapDayRain : Rain Float := ⟨4.0, (Moment.of? 2024 2 29 23 58 0).getD default⟩

/-- Rain shortly after that midnight. -/
def marchRain : Rain Float := ⟨0.5, (Moment.of? 2024 3 1 0 0 30).getD default⟩

/-- After midnight the month holds what fell since, the year what fell before too. -/
theorem windows_sum_at_month_end :
    let totals := ((empty : Accumulator Float).addAll [leapDayRain, marchRain]).totalsAt marchRain.time
    [leapDayRain, marchRain].Pairwise (·.time ≤ ·.time) ∧ totals.windows.get .month = 0.5 ∧
      totals.windows.get .year = 4.5 := by
  intro totals
  have htimes : ([leapDayRain] ++ [marchRain]).Pairwise (·.time ≤ ·.time) := by decide
  refine ⟨htimes, ?_, ?_⟩
  · exact ((windows_sum_their_period [leapDayRain] marchRain .month).2.1 htimes).trans (by decide)
  · exact ((windows_sum_their_period [leapDayRain] marchRain .year).2.1 htimes).trans (by decide)

end Accumulator

end WeatherRelay.Rainfall
