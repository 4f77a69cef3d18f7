import Mathlib.Data.List.Infix
import WeatherRelay.Pressure
import WeatherRelay.Proofs.Doubles
import WeatherRelay.Word

/-!
# The samples of the trend window

A history takes the difference of a new sample's time and that of each older one, from the oldest on, until it comes to
one that is within the window (`compared`). Times are 64-bit numbers, and so are their differences. As long as they fit
(`InRange`), the history holds exactly the samples of the window, of those since the clock was last set back
(`samples_recordAll`). A difference that does not fit is that with the oldest sample. In a release build it is wrapped
around, and the sample stays (`within_record_iff`); a build with overflow checks panics then, and only then
(`recordAllChecked_eq`).
-/

namespace WeatherRelay

namespace PressureSample

/-- How many seconds older a sample is than a new one, whatever fits into 64 bits. -/
def age (old new : PressureSample) : Int := new.epoch.toInt - old.epoch.toInt

/-- That the times of samples never go back. -/
def InOrder (samples : List PressureSample) : Prop := samples.Pairwise fun a b => a.epoch.toInt ≤ b.epoch.toInt

/-- That samples end with a run in order, and with none that is longer. -/
structure IsLatestRun (run samples : List PressureSample) : Prop where
  isSuffix : run <:+ samples
  inOrder : InOrder run
  longest : ∀ other, other <:+ samples → InOrder other → other <:+ run

theorem age_self (s : PressureSample) : s.age s = 0 := Int.sub_self _

theorem inOrder_nil : InOrder [] := List.Pairwise.nil

theorem inOrder_singleton (s : PressureSample) : InOrder [s] := List.pairwise_singleton _ _

/-- A sample that is not before the newest goes on with what is in order. -/
theorem InOrder.concat {samples : List PressureSample} {newest s : PressureSample} (h : InOrder samples)
    (hnewest : samples.getLast? = some newest) (hs : newest.epoch.toInt ≤ s.epoch.toInt) : InOrder (samples ++ [s]) := by
  obtain ⟨earlier, rfl⟩ := List.getLast?_eq_some_iff.mp hnewest
  refine List.pairwise_append.mpr ⟨h, List.pairwise_singleton _ _, ?_⟩
  intro a ha b hb
  rw [List.mem_singleton.mp hb]
  rcases List.mem_append.mp ha with ha | ha
  · have hle := (List.pairwise_append.mp h).2.2 a ha newest (List.mem_singleton_self _)
    exact Int.le_trans hle hs
  · rwa [List.mem_singleton.mp ha]

/-- What is before a sample in order is not younger. -/
theorem InOrder.age_nonneg {samples : List PressureSample} {s : PressureSample} (h : InOrder (samples ++ [s])) :
    ∀ old ∈ samples ++ [s], 0 ≤ old.age s := by
  intro old hold
  rcases List.mem_append.mp hold with hold | hold
  · have hle := (List.pairwise_append.mp h).2.2 old hold s (List.mem_singleton_self _)
    exact Int.sub_nonneg_of_le hle
  · rw [List.mem_singleton.mp hold, age_self]

namespace IsLatestRun

variable {run other samples : List PressureSample} {newest s : PressureSample}

/-- There is one latest run. -/
theorem unique (h : IsLatestRun run samples) (h' : IsLatestRun other samples) : run = other :=
  (h'.longest run h.isSuffix h.inOrder).eq_of_length_le (h.longest other h'.isSuffix h'.inOrder).length_le

/-- A single sample is in order. -/
theorem singleton (s : PressureSample) : IsLatestRun [s] [s] :=
  ⟨List.suffix_refl _, inOrder_singleton s, fun _ h _ => h⟩

/-- The latest run ends with the newest sample. -/
theorem getLast? (h : IsLatestRun run (samples ++ [newest])) : run.getLast? = some newest := by
  have hone := h.longest [newest] (List.suffix_append _ _) (inOrder_singleton newest)
  obtain ⟨earlier, rfl⟩ := hone
  exact List.getLast?_concat

/-- A sample that is not before the newest goes on with the latest run. -/
theorem goes_on (h : IsLatestRun run (samples ++ [newest])) (hs : newest.epoch.toInt ≤ s.epoch.toInt) :
    IsLatestRun (run ++ [s]) (samples ++ [newest] ++ [s]) := by
  refine ⟨?_, h.inOrder.concat h.getLast? hs, ?_⟩
  · obtain ⟨earlier, hearlier⟩ := h.isSuffix
    exact ⟨earlier, by rw [← hearlier, List.append_assoc]⟩
  · intro other hother horder
    rcases List.suffix_concat_iff.mp hother with rfl | ⟨before, rfl, hbefore⟩
    · exact List.nil_suffix
    · obtain ⟨earlier, hearlier⟩ := h.longest before hbefore (List.pairwise_append.mp horder).1
      exact ⟨earlier, by rw [← hearlier, List.append_assoc]⟩

/-- A sample from before the newest begins a run. -/
theorem begins (hs : s.epoch.toInt < newest.epoch.toInt) : IsLatestRun [s] (samples ++ [newest] ++ [s]) := by
  refine ⟨List.suffix_append _ _, inOrder_singleton s, ?_⟩
  intro other hother horder
  rcases List.suffix_concat_iff.mp hother with rfl | ⟨before, rfl, hbefore⟩
  · exact List.nil_suffix
  · rcases List.suffix_concat_iff.mp hbefore with rfl | ⟨earlier, rfl, -⟩
    · exact List.suffix_refl _
    · have hle := (List.pairwise_append.mp horder).2.2 newest (by simp) s (List.mem_singleton_self _)
      omega

end IsLatestRun

end PressureSample

namespace PressureHistory

open PressureSample (InOrder IsLatestRun)

variable {h : PressureHistory} {s old : PressureSample}

/-! ## One sample -/

/-- Whether the difference of two times, which wraps where it does not fit, is beyond the window. -/
def isStale (s old : PressureSample) : Bool := decide (window < s.epoch - old.epoch)

/-- The samples with whose times that of a new one is compared, of some: those that are dropped, and
the first that stays. -/
def comparedOf (s : PressureSample) (samples : List PressureSample) : List PressureSample :=
  samples.takeWhile (isStale s) ++ (samples.dropWhile (isStale s)).take 1

/-- The samples with whose times that of a new one is compared, itself among them. -/
def compared (h : PressureHistory) (s : PressureSample) : List PressureSample := comparedOf s (h.carried s ++ [s])

/-- A release build drops the samples that are stale. -/
theorem dropStale_wrapping (s : PressureSample) (samples : List PressureSample) :
    Id.run (dropStale (fun a b => pure (a - b)) s.epoch samples) = samples.dropWhile (isStale s) := by
  induction samples with
  | nil => rfl
  | cons old rest ih =>
    have hloop : Id.run (dropStale (fun a b => pure (a - b)) s.epoch (old :: rest)) =
        if isStale s old = true then Id.run (dropStale (fun a b => pure (a - b)) s.epoch rest) else old :: rest := by
      simp only [dropStale, isStale, decide_eq_true_iff]
      rfl
    rw [hloop, ih, List.dropWhile_cons]

/-- So does a build with overflow checks as long as the differences fit; else it panics. -/
theorem dropStale_checked (s : PressureSample) (samples : List PressureSample) :
    dropStale Word.checkedSub s.epoch samples =
      if ∀ old ∈ comparedOf s samples, Word.Fits64 (old.age s) then .ok (samples.dropWhile (isStale s))
      else .error Word.overflow := by
  induction samples with
  | nil => rfl
  | cons old rest ih =>
    have hfirst : old ∈ comparedOf s (old :: rest) := by
      cases hstale : isStale s old <;> simp [comparedOf, hstale]
    by_cases hfit : Word.Fits64 (old.age s)
    · have hsub : Word.checkedSub s.epoch old.epoch = .ok (s.epoch - old.epoch) := if_pos hfit
      have hloop : dropStale Word.checkedSub s.epoch (old :: rest) =
          if isStale s old = true then dropStale Word.checkedSub s.epoch rest else .ok (old :: rest) := by
        simp only [dropStale, hsub, isStale, decide_eq_true_iff]
        rfl
      rw [hloop]
      cases hstale : isStale s old with
      | true =>
        have hcompared : comparedOf s (old :: rest) = old :: comparedOf s rest := by simp [comparedOf, hstale]
        rw [if_pos rfl, ih, hcompared, List.dropWhile_cons_of_pos hstale]
        simp only [List.forall_mem_cons, hfit, true_and]
      | false =>
        have hcompared : comparedOf s (old :: rest) = [old] := by simp [comparedOf, hstale]
        rw [if_neg (by decide), hcompared, List.dropWhile_cons_of_neg (by simp [hstale])]
        simp only [List.forall_mem_singleton, hfit, if_true]
    · have hsub : Word.checkedSub s.epoch old.epoch = .error Word.overflow := if_neg hfit
      rw [if_neg fun h => hfit (h old hfirst), dropStale, hsub]
      rfl

theorem record_samples (h : PressureHistory) (s : PressureSample) :
    (h.record s).samples = (h.carried s ++ [s]).dropWhile (isStale s) := dropStale_wrapping s _

theorem recordChecked_eq (h : PressureHistory) (s : PressureSample) :
    h.recordChecked s =
      if ∀ old ∈ h.compared s, Word.Fits64 (old.age s) then .ok (h.record s) else .error Word.overflow := by
  have hrecord : h.record s = ⟨(h.carried s ++ [s]).dropWhile (isStale s)⟩ := congrArg mk (h.record_samples s)
  unfold recordChecked
  rw [dropStale_checked, hrecord]
  unfold compared
  split <;> rfl

theorem carried_of_none (hnone : h.samples.getLast? = none) : h.carried s = [] := by
  rw [carried, hnone]

theorem carried_of_le {newest : PressureSample} (hnewest : h.samples.getLast? = some newest)
    (hs : newest.epoch.toInt ≤ s.epoch.toInt) : h.carried s = h.samples := by
  have hnot : ¬s.epoch < newest.epoch := by
    rw [Int64.lt_iff_toInt_lt]
    omega
  simp only [carried, hnewest, if_neg hnot]

theorem carried_of_lt {newest : PressureSample} (hnewest : h.samples.getLast? = some newest)
    (hs : s.epoch.toInt < newest.epoch.toInt) : h.carried s = [] := by
  simp only [carried, hnewest, if_pos (Int64.lt_iff_toInt_lt.mpr hs)]

/-- What stays beside a new sample was held. -/
theorem carried_sublist (h : PressureHistory) (s : PressureSample) : (h.carried s).Sublist h.samples := by
  unfold carried
  split
  · split
    · exact List.nil_sublist _
    · exact List.Sublist.refl _
  · exact List.nil_sublist _

/-- The difference with an older sample is beyond the window if it fits and the sample is older than the window. -/
theorem isStale_iff (hold : 0 ≤ old.age s) : isStale s old = true ↔ 10800 < old.age s ∧ old.age s ≤ Word.maxInt64 := by
  have hwindow : window.toInt = 10800 := by decide
  have hs := s.epoch.toInt_lt
  have hs' := s.epoch.le_toInt
  have hold' := old.epoch.le_toInt
  have hold'' := old.epoch.toInt_lt
  simp only [PressureSample.age] at *
  rw [isStale, decide_eq_true_iff, Int64.lt_iff_toInt_lt, hwindow, Int64.toInt_sub, Int.bmod_def, Word.maxInt64]
  split <;> omega

/-- No sample is stale beside itself. -/
theorem isStale_self (s : PressureSample) : isStale s s = false := by
  rw [Bool.eq_false_iff, ne_eq, isStale_iff s.age_self.ge, s.age_self]
  omega

/-- The new sample is held, behind those of the others that stay. -/
theorem record_concat (h : PressureHistory) (s : PressureSample) :
    (h.record s).samples = (h.carried s).dropWhile (isStale s) ++ [s] := by
  rw [record_samples, List.dropWhile_append]
  split
  · rename_i hnone
    rw [List.isEmpty_iff.mp hnone, List.nil_append, List.dropWhile_cons_of_neg (by simp [isStale_self])]
  · rfl

theorem getLast?_record (h : PressureHistory) (s : PressureSample) : (h.record s).samples.getLast? = some s := by
  rw [record_concat, List.getLast?_concat]

/-- What stays beside a new sample is in order with it. -/
theorem inOrder_carried (horder : InOrder h.samples) (s : PressureSample) : InOrder (h.carried s ++ [s]) := by
  cases hnewest : h.samples.getLast? with
  | none =>
    rw [carried_of_none hnewest]
    exact PressureSample.inOrder_singleton s
  | some newest =>
    by_cases hs : newest.epoch.toInt ≤ s.epoch.toInt
    · rw [carried_of_le hnewest hs]
      exact horder.concat hnewest hs
    · rw [carried_of_lt hnewest (Int.not_le.mp hs)]
      exact PressureSample.inOrder_singleton s

theorem inOrder_record (horder : InOrder h.samples) (s : PressureSample) : InOrder (h.record s).samples := by
  rw [record_samples]
  exact (inOrder_carried horder s).sublist (List.dropWhile_sublist _)

/-- Of the samples beside a new one, the new one among them, one is the oldest, and it is always compared. -/
theorem exists_oldest (horder : InOrder h.samples) (s : PressureSample) :
    ∃ oldest rest, h.carried s ++ [s] = oldest :: rest ∧ oldest ∈ h.compared s ∧
      ∀ old ∈ h.carried s ++ [s], 0 ≤ old.age s ∧ old.age s ≤ oldest.age s := by
  have hall := inOrder_carried horder s
  have hnonneg := hall.age_nonneg
  have hcompared : h.compared s =
      (h.carried s ++ [s]).takeWhile (isStale s) ++ ((h.carried s ++ [s]).dropWhile (isStale s)).take 1 := rfl
  cases hfirst : h.carried s ++ [s] with
  | nil => simp at hfirst
  | cons oldest rest =>
    rw [hfirst] at hall hnonneg hcompared
    refine ⟨oldest, rest, rfl, ?_, fun old hold => ⟨hnonneg old hold, ?_⟩⟩
    · rw [hcompared]
      cases hstale : isStale s oldest <;> simp [hstale]
    · rcases List.mem_cons.mp hold with rfl | hold
      · exact Int.le_refl _
      · have hle := (List.pairwise_cons.mp hall).1 old hold
        simp only [PressureSample.age]
        omega

/-- What is compared stays beside the new sample before any is dropped. -/
theorem compared_sublist (h : PressureHistory) (s : PressureSample) : (h.compared s).Sublist (h.carried s ++ [s]) := by
  conv_rhs => rw [← List.takeWhile_append_dropWhile (p := isStale s) (l := h.carried s ++ [s])]
  exact (List.Sublist.refl _).append (List.take_sublist _ _)

/-- On samples that grow younger, dropping the stale ones from the front leaves all that are not stale. -/
theorem dropWhile_eq_filter {α : Type} {p : α → Bool} {xs : List α} (h : xs.Pairwise fun a b => p b = true → p a = true) :
    xs.dropWhile p = xs.filter (!p ·) := by
  induction xs with
  | nil => rfl
  | cons x rest ih =>
    obtain ⟨hx, hrest⟩ := List.pairwise_cons.mp h
    cases hp : p x with
    | true => rw [List.dropWhile_cons_of_pos hp, ih hrest, List.filter_cons_of_neg (by simp [hp])]
    | false =>
      have hall : ∀ y ∈ x :: rest, (!p y) = true := by
        intro y hy
        rcases List.mem_cons.mp hy with rfl | hy
        · simp [hp]
        · have hback := hx y hy
          rw [hp] at hback
          simpa using hback
      rw [List.dropWhile_cons_of_neg (by simp [hp]), List.filter_eq_self.mpr hall]

/-- Where all differences fit, the samples of the window stay. -/
theorem record_of_fits (horder : InOrder h.samples) (s : PressureSample)
    (hfit : ∀ old ∈ h.carried s ++ [s], old.age s ≤ Word.maxInt64) :
    (h.record s).samples = (h.carried s ++ [s]).filter fun old => decide (old.age s ≤ 10800) := by
  have hall := inOrder_carried horder s
  have hnonneg := hall.age_nonneg
  have hstale : ∀ old ∈ h.carried s ++ [s], isStale s old = true ↔ ¬old.age s ≤ 10800 := by
    intro old hold
    rw [isStale_iff (hnonneg old hold), and_iff_left (hfit old hold), Int.not_le]
  rw [record_samples, dropWhile_eq_filter]
  · refine List.filter_congr fun old hold => ?_
    rw [Bool.eq_iff_iff, Bool.not_eq_true', Bool.eq_false_iff, ne_eq, hstale old hold, not_not, decide_eq_true_iff]
  · refine List.Pairwise.imp_of_mem ?_ hall
    intro a b ha hb hle hstaleb
    rw [hstale b hb] at hstaleb
    rw [hstale a ha]
    simp only [PressureSample.age] at hstaleb ⊢
    omega

/-- No difference is out of range exactly if that with the oldest sample is not. -/
theorem fits_compared_iff (horder : InOrder h.samples) (s : PressureSample) :
    (∀ old ∈ h.compared s, Word.Fits64 (old.age s)) ↔ ∀ old ∈ h.carried s ++ [s], old.age s ≤ Word.maxInt64 := by
  obtain ⟨oldest, rest, -, hcompared, hages⟩ := exists_oldest horder s
  constructor
  · intro hfit old hold
    have holdest := hfit oldest hcompared
    exact Int.le_trans (hages old hold).2 holdest.2
  · intro hfit old hold
    have hmem := (h.compared_sublist s).mem hold
    have hnonneg := (hages old hmem).1
    refine ⟨?_, hfit old hmem⟩
    rw [Word.minInt64]
    omega

/-- Where the difference with the oldest sample does not fit, nothing is dropped. -/
theorem record_of_not_fits (horder : InOrder h.samples) (s : PressureSample)
    (hover : ¬∀ old ∈ h.compared s, Word.Fits64 (old.age s)) :
    (h.record s).samples = h.samples ++ [s] ∧ ∃ old ∈ h.samples, Word.maxInt64 < old.age s := by
  obtain ⟨oldest, rest, hfirst, -, hages⟩ := exists_oldest horder s
  have hmem : oldest ∈ h.carried s ++ [s] := hfirst ▸ List.mem_cons_self
  have hlong : Word.maxInt64 < oldest.age s := by
    rw [fits_compared_iff horder] at hover
    exact Int.not_le.mp fun hle => hover fun old hold => Int.le_trans (hages old hold).2 hle
  have hcarried : oldest ∈ h.carried s := by
    rcases List.mem_append.mp hmem with hmem | hmem
    · exact hmem
    · rw [List.mem_singleton.mp hmem, PressureSample.age_self] at hlong
      exact absurd hlong (by decide)
  have hsame : h.carried s = h.samples := by
    cases hnewest : h.samples.getLast? with
    | none => exact absurd hcarried (by simp [carried_of_none hnewest])
    | some newest =>
      by_cases hs : newest.epoch.toInt ≤ s.epoch.toInt
      · exact carried_of_le hnewest hs
      · exact absurd hcarried (by simp [carried_of_lt hnewest (Int.not_le.mp hs)])
  have hstays : isStale s oldest = false := by
    rw [Bool.eq_false_iff, ne_eq, isStale_iff (hages oldest hmem).1]
    omega
  refine ⟨?_, oldest, hsame ▸ hcarried, hlong⟩
  rw [record_samples, hfirst, List.dropWhile_cons_of_neg (by simp [hstays]), ← hfirst, hsame]

/-- A difference that does not fit is all that lets a sample stay beyond the window. -/
theorem within_record_iff (horder : InOrder h.samples) (s : PressureSample) :
    (∀ old ∈ (h.record s).samples, old.age s ≤ 10800) ↔ ∀ old ∈ h.compared s, Word.Fits64 (old.age s) := by
  constructor
  · intro hwithin
    by_contra hover
    obtain ⟨hall, old, hold, hlong⟩ := record_of_not_fits horder s hover
    have hle := hwithin old (hall ▸ List.mem_append_left _ hold)
    rw [Word.maxInt64] at hlong
    omega
  · intro hfit old hold
    rw [record_of_fits horder s ((fits_compared_iff horder s).mp hfit)] at hold
    exact of_decide_eq_true (List.mem_filter.mp hold).2

/-! ## Any number of samples -/

/-- The history after samples. -/
def recordAll (h : PressureHistory) (samples : List PressureSample) : PressureHistory := samples.foldl record h

theorem recordAll_append (h : PressureHistory) (samples more : List PressureSample) :
    h.recordAll (samples ++ more) = (h.recordAll samples).recordAll more :=
  List.foldl_append ..

theorem recordAll_concat (h : PressureHistory) (samples : List PressureSample) (s : PressureSample) :
    h.recordAll (samples ++ [s]) = (h.recordAll samples).record s :=
  List.foldl_concat ..

theorem inOrder_recordAll (samples : List PressureSample) : InOrder (({} : PressureHistory).recordAll samples).samples := by
  induction samples using List.reverseRecOn with
  | nil => exact PressureSample.inOrder_nil
  | append_singleton samples s ih =>
    rw [recordAll_concat]
    exact inOrder_record ih s

theorem getLast?_recordAll (samples : List PressureSample) (s : PressureSample) :
    (({} : PressureHistory).recordAll (samples ++ [s])).samples.getLast? = some s := by
  rw [recordAll_concat, getLast?_record]

/-- What is held came in. -/
theorem recordAll_sublist (samples : List PressureSample) :
    (({} : PressureHistory).recordAll samples).samples.Sublist samples := by
  induction samples using List.reverseRecOn with
  | nil => exact List.Sublist.refl _
  | append_singleton samples s ih =>
    rw [recordAll_concat, record_concat]
    have hstay := (List.dropWhile_sublist (isStale s)).trans (carried_sublist (recordAll {} samples) s)
    exact (hstay.trans ih).append (List.Sublist.refl _)

/-- That no difference of times is out of range while samples come in one after another. -/
def InRange (samples : List PressureSample) : Prop :=
  ∀ before s, before ++ [s] <+: samples → ∀ old ∈ (({} : PressureHistory).recordAll before).compared s, Word.Fits64 (old.age s)

theorem inRange_nil : InRange [] := by
  intro before s h
  simp at h

theorem inRange_concat {samples : List PressureSample} {s : PressureSample} :
    InRange (samples ++ [s]) ↔
      InRange samples ∧ ∀ old ∈ (({} : PressureHistory).recordAll samples).compared s, Word.Fits64 (old.age s) := by
  constructor
  · intro h
    exact ⟨fun before t ht => h before t (ht.trans (List.prefix_append _ _)), h samples s (List.prefix_refl _)⟩
  · rintro ⟨hbefore, hs⟩ before t ht
    rcases List.prefix_concat_iff.mp ht with heq | ht
    · obtain ⟨rfl, hlast⟩ := List.append_inj' heq rfl
      obtain rfl := List.singleton_inj.mp hlast
      exact hs
    · exact hbefore before t ht

/-- So it is when the difference of each time and each earlier one fits. -/
theorem inRange_of_fits {samples : List PressureSample} (h : samples.Pairwise fun a b => Word.Fits64 (a.age b)) :
    InRange samples := by
  intro before s hprefix old hold
  rcases List.mem_append.mp ((compared_sublist _ s).mem hold) with hold | hold
  · have hmem := ((carried_sublist _ s).trans (recordAll_sublist before)).mem hold
    have hpairs := h.sublist hprefix.sublist
    exact (List.pairwise_append.mp hpairs).2.2 old hmem s (List.mem_singleton_self _)
  · rw [List.mem_singleton.mp hold, PressureSample.age_self]
    decide

/-- The history after samples, in a build with overflow checks. -/
def recordAllChecked (h : PressureHistory) (samples : List PressureSample) : Unwinding PressureHistory :=
  samples.foldlM recordChecked h

theorem recordAllChecked_cons (h : PressureHistory) (s : PressureSample) (rest : List PressureSample) :
    h.recordAllChecked (s :: rest) = h.recordChecked s >>= (·.recordAllChecked rest) :=
  List.foldlM_cons

theorem recordAllChecked_append (h : PressureHistory) (samples more : List PressureSample) :
    h.recordAllChecked (samples ++ more) = h.recordAllChecked samples >>= (·.recordAllChecked more) :=
  List.foldlM_append

/-- Where a build with overflow checks does not panic, it does what a release build does. -/
theorem recordAllChecked_ok {h after : PressureHistory} {samples : List PressureSample}
    (hok : h.recordAllChecked samples = .ok after) : after = h.recordAll samples := by
  induction samples generalizing h with
  | nil => exact (Except.ok.inj hok).symm
  | cons s rest ih =>
    rw [recordAllChecked_cons, recordChecked_eq] at hok
    split at hok
    · exact ih hok
    · nomatch hok

/-- A build with overflow checks panics exactly if a difference is out of range, and else does what
a release build does. -/
theorem recordAllChecked_eq (samples : List PressureSample) :
    (InRange samples → ({} : PressureHistory).recordAllChecked samples = .ok (({} : PressureHistory).recordAll samples)) ∧
      (¬InRange samples → ({} : PressureHistory).recordAllChecked samples = .error Word.overflow) := by
  induction samples using List.reverseRecOn with
  | nil => exact ⟨fun _ => rfl, fun h => absurd inRange_nil h⟩
  | append_singleton samples s ih =>
    obtain ⟨hfits, hpanics⟩ := ih
    rw [inRange_concat, recordAllChecked_append, recordAll_concat]
    by_cases hsamples : InRange samples
    · have hlast : ({} : PressureHistory).recordAllChecked samples >>= (·.recordAllChecked [s]) =
          (({} : PressureHistory).recordAll samples).recordChecked s := by
        rw [hfits hsamples]
        exact bind_pure ((recordAll {} samples).recordChecked s)
      rw [hlast, recordChecked_eq]
      exact ⟨fun h => if_pos h.2, fun h => if_neg fun hs => h ⟨hsamples, hs⟩⟩
    · rw [hpanics hsamples]
      exact ⟨fun h => absurd h.1 hsamples, fun _ => rfl⟩

/-- As long as no difference is out of range, the samples held are those of the window, in the latest run. -/
theorem samples_recordAll {samples : List PressureSample} {last : PressureSample} (h : InRange (samples ++ [last])) :
    ∃ run, IsLatestRun run (samples ++ [last]) ∧
      (({} : PressureHistory).recordAll (samples ++ [last])).samples = run.filter fun s => decide (s.age last ≤ 10800) := by
  induction samples using List.reverseRecOn generalizing last with
  | nil => exact ⟨[last], .singleton last, by simp [recordAll, record_concat, carried, PressureSample.age_self]⟩
  | append_singleton earlier newest ih =>
    obtain ⟨hbefore, hfit⟩ := inRange_concat.mp h
    obtain ⟨run, hrun, hheld⟩ := ih hbefore
    have horder := inOrder_recordAll (earlier ++ [newest])
    have hnewest := getLast?_recordAll earlier newest
    rw [recordAll_concat, record_of_fits horder last ((fits_compared_iff horder last).mp hfit)]
    by_cases hlast : newest.epoch.toInt ≤ last.epoch.toInt
    · -- what is of the window now was of the window before
      refine ⟨run ++ [last], hrun.goes_on hlast, ?_⟩
      rw [carried_of_le hnewest hlast, hheld, List.filter_append, List.filter_append, List.filter_filter]
      congr 1
      refine List.filter_congr fun s _ => ?_
      rw [← Bool.decide_and, decide_eq_decide]
      simp only [PressureSample.age]
      omega
    · refine ⟨[last], .begins (Int.not_le.mp hlast), ?_⟩
      rw [carried_of_lt hnewest (Int.not_le.mp hlast), List.nil_append]

/-- No difference is out of range exactly if every sample that is not before the one ahead of it fits with those of the
window then, in their run. -/
theorem inRange_iff {samples : List PressureSample} :
    InRange samples ↔ ∀ before newest s run, before ++ [newest] ++ [s] <+: samples → newest.epoch.toInt ≤ s.epoch.toInt →
      IsLatestRun run (before ++ [newest]) → ∀ old ∈ run, old.age newest ≤ 10800 → old.age s ≤ Word.maxInt64 := by
  constructor
  · intro h before newest s run hprefix hs hrun old hold hwithin
    have hbefore : InRange (before ++ [newest]) :=
      fun earlier t ht => h earlier t (ht.trans ((List.prefix_append _ _).trans hprefix))
    obtain ⟨run', hrun', hheld⟩ := samples_recordAll hbefore
    obtain rfl := hrun.unique hrun'
    have hfit := (fits_compared_iff (inOrder_recordAll _) s).mp (h _ s hprefix)
    rw [carried_of_le (getLast?_recordAll before newest) hs, hheld] at hfit
    exact hfit old (List.mem_append_left _ (List.mem_filter.mpr ⟨hold, decide_eq_true hwithin⟩))
  · intro h
    induction samples using List.reverseRecOn with
    | nil => exact inRange_nil
    | append_singleton samples s ih =>
      have hsamples : InRange samples :=
        ih fun before newest t run ht => h before newest t run (ht.trans (List.prefix_append _ _))
      refine inRange_concat.mpr ⟨hsamples, (fits_compared_iff (inOrder_recordAll samples) s).mpr ?_⟩
      have hself : s.age s ≤ Word.maxInt64 := by
        rw [PressureSample.age_self]
        decide
      intro old hold
      rcases List.mem_append.mp hold with hold | hold
      · -- something is carried only if the clock was not set back
        rcases List.eq_nil_or_concat samples with rfl | ⟨before, newest, rfl⟩
        · exact absurd ((carried_sublist _ s).mem hold) List.not_mem_nil
        · rw [List.concat_eq_append] at h hsamples hold
          have hnewest := getLast?_recordAll before newest
          by_cases hs : newest.epoch.toInt ≤ s.epoch.toInt
          · obtain ⟨run, hrun, hheld⟩ := samples_recordAll hsamples
            rw [carried_of_le hnewest hs, hheld] at hold
            obtain ⟨hmem, hwithin⟩ := List.mem_filter.mp hold
            exact h before newest s run (List.prefix_refl _) hs hrun old hmem (of_decide_eq_true hwithin)
          · rw [carried_of_lt hnewest (Int.not_le.mp hs)] at hold
            exact absurd hold List.not_mem_nil
      · rwa [List.mem_singleton.mp hold]

/-! ## The trend -/

/-- No change is both a rise and a fall. -/
theorem not_rising_and_falling {change : Float} (h : 1.0 < change) : ¬change < -1.0 := by
  intro hfalls
  have hcross : (1.0 : Float) < -1.0 := Double.lt_of_le_of_lt (Double.le_of_lt h) hfalls
  exact absurd hcross (by decide)

theorem trend_eq_rising_iff (h : PressureHistory) : h.trend = .rising ↔ 1.0 < h.delta := by
  unfold trend threshold
  split
  · rename_i hrises
    exact iff_of_true rfl hrises
  · rename_i hnot
    refine iff_of_false ?_ hnot
    split <;> decide

theorem trend_eq_falling_iff (h : PressureHistory) : h.trend = .falling ↔ h.delta < -1.0 := by
  unfold trend threshold
  split
  · rename_i hrises
    exact iff_of_false (by decide) (not_rising_and_falling hrises)
  · split
    · rename_i hfalls
      exact iff_of_true rfl hfalls
    · rename_i hnot
      exact iff_of_false (by decide) hnot

theorem trend_eq_steady_iff (h : PressureHistory) : h.trend = .steady ↔ ¬1.0 < h.delta ∧ ¬h.delta < -1.0 := by
  rw [← trend_eq_rising_iff, ← trend_eq_falling_iff]
  cases h.trend <;> decide

/-- A fresh history into which samples have come whose times are apart by no more than 64 bits holds those of the last
three hours, of the longest run in order that the samples end with. So it holds one at least, in order, and the change
is from the oldest of the window to the last; it rises or falls beyond one millibar. -/
theorem holds_trend_window (samples : List PressureSample) (last : PressureSample)
    (hfit : (samples ++ [last]).Pairwise fun a b => Word.Fits64 (a.age b)) :
    let h := ({} : PressureHistory).recordAll (samples ++ [last])
    (∃ run, IsLatestRun run (samples ++ [last]) ∧
      h.samples = run.filter fun s => decide (last.epoch.toInt - 10800 ≤ s.epoch.toInt)) ∧
      h.samples ≠ [] ∧ InOrder h.samples ∧
      (∃ oldest, h.samples.head? = some oldest ∧ h.delta = last.pressure - oldest.pressure) ∧
      (h.trend = .rising ↔ 1.0 < h.delta) ∧ (h.trend = .falling ↔ h.delta < -1.0) ∧
      (h.trend = .steady ↔ ¬1.0 < h.delta ∧ ¬h.delta < -1.0) := by
  intro h
  have hnewest : h.samples.getLast? = some last := getLast?_recordAll samples last
  refine ⟨?_, ?_, inOrder_recordAll _, ?_, trend_eq_rising_iff h, trend_eq_falling_iff h, trend_eq_steady_iff h⟩
  · obtain ⟨run, hrun, hheld⟩ := samples_recordAll (inRange_of_fits hfit)
    refine ⟨run, hrun, hheld.trans (List.filter_congr fun s _ => ?_)⟩
    rw [decide_eq_decide, PressureSample.age]
    omega
  · intro hnone
    rw [hnone] at hnewest
    nomatch hnewest
  · cases holdest : h.samples.head? with
    | none =>
      rw [List.head?_eq_none_iff.mp holdest] at hnewest
      nomatch hnewest
    | some oldest =>
      refine ⟨oldest, rfl, ?_⟩
      rw [delta, holdest, hnewest]

/-- A clock that is set back, two samples of one second, and a sample three hours later. -/
def afterSetBack : List PressureSample := [⟨1000, 1000.0⟩, ⟨500, 1005.0⟩, ⟨500, 1001.0⟩]

/-- Samples that are three hours old are of the window and those from before the clock was set back are not,
so the pressure falls. -/
theorem falling_after_set_back :
    let last : PressureSample := ⟨11300, 1003.5⟩
    let h := ({} : PressureHistory).recordAll (afterSetBack ++ [last])
    (afterSetBack ++ [last]).Pairwise (fun a b => Word.Fits64 (a.age b)) ∧ h.samples.map (·.epoch) = [500, 500, 11300] ∧
      h.trend = .falling := by
  intro last h
  have hfit : (afterSetBack ++ [last]).Pairwise fun a b => Word.Fits64 (a.age b) := by decide
  obtain ⟨-, -, -, -, -, hfalling, -⟩ := holds_trend_window afterSetBack last hfit
  exact ⟨hfit, by decide +kernel, hfalling.mpr (by decide +kernel)⟩

end PressureHistory

end WeatherRelay
