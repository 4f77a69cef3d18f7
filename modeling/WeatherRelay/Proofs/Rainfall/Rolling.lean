import Mathlib.Algebra.BigOperators.Group.Finset.Piecewise
import Mathlib.Algebra.Field.Rat
import WeatherRelay.Proofs.Calendar
import WeatherRelay.Proofs.Rainfall.Run

/-!
# What a rolling total counts

A ring of `n` slots is addressed by stamps (counts of minutes or hours) modulo `n`, and a stamp that comes to a slot of
another one drives it out. So at any time the slots hold a part of the rain (`held`), of one stamp in each slot, and a
total counts the part of that which lies in the span. Nothing is counted twice, whatever the clock does; and while the
clock does not go back, whatever was driven out had left the span already, so nothing is missing either.
-/

namespace WeatherRelay.Rainfall

variable {α : Type}

/-! ## What the slots hold -/

/-- Whether rain drives out what a slot held before: it has the same slot and another stamp. -/
def displaces (n : Nat) (stamp : Moment → Int) (r old : Rain α) : Bool :=
  stamp old.time % n = stamp r.time % n ∧ stamp old.time ≠ stamp r.time

/-- The rain that a ring of slots still holds, in the order in which it came. -/
def held (n : Nat) (stamp : Moment → Int) (rains : List (Rain α)) : List (Rain α) :=
  rains.foldl (fun kept r => kept.filter (fun old => !displaces n stamp r old) ++ [r]) []

theorem held_snoc (n : Nat) (stamp : Moment → Int) (rains : List (Rain α)) (r : Rain α) :
    held n stamp (rains ++ [r]) = (held n stamp rains).filter (fun old => !displaces n stamp r old) ++ [r] := by
  simp [held]

/-- What is held has come in, each amount at most once. -/
theorem held_sublist (n : Nat) (stamp : Moment → Int) (rains : List (Rain α)) : (held n stamp rains).Sublist rains := by
  induction rains using List.reverseRecOn with
  | nil => exact List.Sublist.slnil
  | append_singleton rains r ih =>
    rw [held_snoc]
    exact (List.filter_sublist.trans ih).append (List.Sublist.refl _)

/-- A slot holds rain of one stamp. -/
theorem held_one_stamp (n : Nat) (stamp : Moment → Int) (rains : List (Rain α)) :
    ∀ x ∈ held n stamp rains, ∀ y ∈ held n stamp rains,
      stamp x.time % n = stamp y.time % n → stamp x.time = stamp y.time := by
  induction rains using List.reverseRecOn with
  | nil => intro x hx; simp [held] at hx
  | append_singleton rains r ih =>
    intro x hx y hy hxy
    rw [held_snoc, List.mem_append, List.mem_filter, List.mem_singleton] at hx hy
    simp only [displaces, Bool.not_eq_true', decide_eq_false_iff_not, not_and, not_not] at hx hy
    rcases hx with ⟨hx, hxr⟩ | rfl
    · rcases hy with ⟨hy, -⟩ | rfl
      · exact ih x hx y hy hxy
      · exact hxr hxy
    · rcases hy with ⟨-, hyr⟩ | rfl
      · exact (hyr hxy.symm).symm
      · rfl

/-- The rain of a slot. -/
def inSlot (n : Nat) (stamp : Moment → Int) (k : Nat) (rains : List (Rain α)) : List (Rain α) :=
  rains.filter fun r => stamp r.time % n = (k : Int)

theorem inSlot_one_stamp (n : Nat) (stamp : Moment → Int) (k : Nat) (rains : List (Rain α)) :
    ∀ x ∈ inSlot n stamp k (held n stamp rains), ∀ y ∈ inSlot n stamp k (held n stamp rains),
      stamp x.time = stamp y.time := by
  intro x hx y hy
  simp only [inSlot, List.mem_filter, decide_eq_true_eq] at hx hy
  exact held_one_stamp n stamp rains x hx.1 y hy.1 (hx.2.trans hy.2.symm)

/-- The rain whose stamp is among the last `n` that end with a moment's. -/
def inSpan (n : Nat) (stamp : Moment → Int) (now : Moment) (rains : List (Rain α)) : List (Rain α) :=
  rains.filter fun r => stamp now - n < stamp r.time ∧ stamp r.time ≤ stamp now

theorem mem_inSpan {n : Nat} {stamp : Moment → Int} {now : Moment} {rains : List (Rain α)} {r : Rain α} :
    r ∈ inSpan n stamp now rains ↔ r ∈ rains ∧ stamp now - n < stamp r.time ∧ stamp r.time ≤ stamp now := by
  simp [inSpan]

/-- Stamps of one slot are the same or at least `n` apart. -/
theorem eq_of_emod_eq {a b n : Int} (h : a % n = b % n) (hab : a ≤ b) (hlt : b < a + n) : a = b := by
  have hdvd : n ∣ b - a := Int.dvd_of_emod_eq_zero (Int.emod_eq_emod_iff_emod_sub_eq_zero.mp h.symm)
  have hzero := Int.eq_zero_of_dvd_of_nonneg_of_lt (by omega) (by omega) hdvd
  omega

/-- While stamps do not fall, what was driven out has left the span: what is held in the span is all rain of the span. -/
theorem inSpan_held (n : Nat) (stamp : Moment → Int) (rains : List (Rain α))
    (h : rains.Pairwise (stamp ·.time ≤ stamp ·.time)) (now : Moment) (hnow : ∀ r ∈ rains, stamp r.time ≤ stamp now) :
    inSpan n stamp now (held n stamp rains) = inSpan n stamp now rains := by
  induction rains using List.reverseRecOn with
  | nil => rfl
  | append_singleton rains r ih =>
    obtain ⟨hbefore, -, hle⟩ := List.pairwise_append.mp h
    have hr : stamp r.time ≤ stamp now := hnow r (by simp)
    have hkept : inSpan n stamp now ((held n stamp rains).filter fun old => !displaces n stamp r old) =
        inSpan n stamp now (held n stamp rains) := by
      simp only [inSpan, List.filter_filter]
      apply List.filter_congr
      intro old hold
      have hmem := (held_sublist n stamp rains).subset hold
      have hor := hle old hmem r (by simp)
      rw [Bool.and_eq_left_iff_imp]
      intro hspan
      simp only [decide_eq_true_eq] at hspan
      simp only [displaces, Bool.not_eq_true', decide_eq_false_iff_not, not_and, not_not]
      intro hslot
      exact eq_of_emod_eq hslot hor (by omega)
    rw [held_snoc]
    simp only [inSpan, List.filter_append] at hkept ih ⊢
    rw [hkept, ih hbefore fun q hq => hnow q (by simp [hq])]

/-! ## What a slot is -/

variable [Scalar α]

/-- The slot that holds some rain of one stamp. -/
def Slot.of (stamp : Moment → Int) (rains : List (Rain α)) : Slot α :=
  ⟨rainSum rains, rains.getLast?.map fun r => stamp r.time⟩

/-- Rain joins what its slot holds of its own stamp, and drives out what it holds of another. -/
theorem Slot.add_of (stamp : Moment → Int) (rains : List (Rain α)) (r : Rain α)
    (hone : ∀ x ∈ rains, ∀ y ∈ rains, stamp x.time = stamp y.time) :
    (Slot.of stamp rains).add r.amount (stamp r.time) =
      Slot.of stamp ((rains.filter fun x => stamp x.time = stamp r.time) ++ [r]) := by
  rcases List.eq_nil_or_concat rains with rfl | ⟨before, q, rfl⟩
  · simp [Slot.of, Slot.add, rainSum_singleton]
  · rw [List.concat_eq_append] at hone ⊢
    have hall : ∀ x ∈ before ++ [q], stamp x.time = stamp q.time := fun x hx => hone x hx q (by simp)
    by_cases hq : stamp q.time = stamp r.time
    · have hfilter : (before ++ [q]).filter (fun x => stamp x.time = stamp r.time) = before ++ [q] := by
        rw [List.filter_eq_self]
        intro x hx
        simp [hall x hx, hq]
      have hne : before ++ [q] ≠ [] := by simp
      rw [hfilter, Slot.of, Slot.of, rainSum_snoc hne]
      simp [Slot.add, hq]
    · have hfilter : (before ++ [q]).filter (fun x => stamp x.time = stamp r.time) = [] := by
        rw [List.filter_eq_nil_iff]
        intro x hx
        simp [hall x hx, hq]
      rw [hfilter]
      simp [Slot.of, Slot.add, hq, rainSum_singleton]

/-- That the slots of a ring hold, each in its place, what is held of the rain that came in. -/
def Represents (n : Nat) (stamp : Moment → Int) (slots : Vector (Slot α) n) (rains : List (Rain α)) : Prop :=
  ∀ (k : Nat) (hk : k < n), slots[k] = Slot.of stamp (inSlot n stamp k (held n stamp rains))

/-- That a ring took rain in: the slot of its stamp was added to, the others were left alone. -/
def Takes (n : Nat) (stamp : Moment → Int) (r : Rain α) (slots slots' : Vector (Slot α) n) : Prop :=
  ∀ (k : Nat) (hk : k < n), slots'[k] =
    if stamp r.time % n = k then slots[k].add r.amount (stamp r.time) else slots[k]

theorem represents_empty (n : Nat) (stamp : Moment → Int) : Represents n stamp (.replicate n (Slot.empty : Slot α)) [] := by
  intro k hk
  simp [Slot.of, inSlot, held, rainSum, leftSum, Slot.empty]

/-- A ring takes rain in by adding it to the slot that its stamp addresses. -/
theorem takes_set {n : Nat} {stamp : Moment → Int} {r : Rain α} (slots : Vector (Slot α) n) (place : Fin n)
    (hplace : stamp r.time % n = place) :
    Takes n stamp r slots (slots.set place ((slots.get place).add r.amount (stamp r.time))) := by
  intro k hk
  rw [Vector.getElem_set, hplace]
  by_cases h : (place : Nat) = k
  · subst h
    rw [if_pos rfl, if_pos rfl]
    rfl
  · rw [if_neg h, if_neg (by omega)]

/-- Taking rain in keeps a ring in step with the rain that came in. -/
theorem Takes.represents {n : Nat} {stamp : Moment → Int} {r : Rain α} {slots slots' : Vector (Slot α) n}
    {rains : List (Rain α)} (ht : Takes n stamp r slots slots') (h : Represents n stamp slots rains) :
    Represents n stamp slots' (rains ++ [r]) := by
  intro k hk
  rw [ht k hk, h k hk, held_snoc]
  by_cases hslot : stamp r.time % n = k
  · rw [if_pos hslot, Slot.add_of stamp _ r (inSlot_one_stamp n stamp k rains)]
    congr 1
    simp only [inSlot, List.filter_append, List.filter_filter]
    congr 1
    · apply List.filter_congr
      intro x _
      simp only [displaces]
      by_cases hx : stamp x.time % n = k <;> simp [hx, hslot]
    · simp [hslot]
  · rw [if_neg hslot]
    congr 1
    simp only [inSlot, List.filter_append, List.filter_filter]
    have hr : [r].filter (fun x => stamp x.time % n = (k : Int)) = [] := by simp [hslot]
    rw [hr, List.append_nil]
    apply List.filter_congr
    intro x _
    simp only [displaces]
    by_cases hx : stamp x.time % n = k
    · have hxr : ¬(k : Int) = stamp r.time % n := fun h => hslot h.symm
      simp [hx, hxr]
    · simp [hx]

/-! ## What a total is -/

/-- The sums of the slots that hold any of some rain, added in slot order. -/
def slotwiseSum (n : Nat) (stamp : Moment → Int) (rains : List (Rain α)) : α :=
  Scalar.sum ((((List.range n).map fun k => inSlot n stamp k rains).filter (!·.isEmpty)).map rainSum)

/-- A slot counts in full or not at all, where stamps are not too far apart. -/
theorem inSlot_inSpan (n : Nat) {stamp : Moment → Int} (hfits : ∀ a b, Word.Fits64 (stamp a - stamp b)) (now : Moment) (k : Nat)
    (rains : List (Rain α)) :
    inSlot n stamp k (inSpan n stamp now (held n stamp rains)) =
      if Slot.within n (stamp now) (Slot.of stamp (inSlot n stamp k (held n stamp rains))) then
        inSlot n stamp k (held n stamp rains)
      else [] := by
  have hone := inSlot_one_stamp n stamp k rains
  have hcomm : inSlot n stamp k (inSpan n stamp now (held n stamp rains)) =
      inSpan n stamp now (inSlot n stamp k (held n stamp rains)) := by
    simp only [inSlot, inSpan, List.filter_filter, Bool.and_comm]
  rw [hcomm]
  generalize inSlot n stamp k (held n stamp rains) = mine at hone ⊢
  rcases List.eq_nil_or_concat mine with rfl | ⟨before, q, rfl⟩
  · simp [inSpan]
  · rw [List.concat_eq_append] at hone ⊢
    have hall : ∀ x ∈ before ++ [q], stamp x.time = stamp q.time := fun x hx => hone x hx q (by simp)
    simp only [Slot.of, Slot.within, List.getLast?_append, List.getLast?_singleton, Option.some_or, Option.map_some,
      Option.any_some, Word.wrap64_of_fits (hfits now q.time)]
    split
    · rename_i hin
      simp only [decide_eq_true_eq] at hin
      rw [inSpan, List.filter_eq_self]
      intro x hx
      simp only [hall x hx, decide_eq_true_eq]
      omega
    · rename_i hout
      simp only [decide_eq_true_eq] at hout
      rw [inSpan, List.filter_eq_nil_iff]
      intro x hx
      simp only [hall x hx, decide_eq_true_eq]
      omega

theorem Slot.ne_nil_of_within {n : Nat} {now : Int} {stamp : Moment → Int} {rains : List (Rain α)}
    (h : Slot.within n now (Slot.of stamp rains) = true) : rains ≠ [] := by
  rintro rfl
  simp [Slot.of, Slot.within] at h

/-- The total of a ring is the slotwise sum of what is held in the span. -/
theorem Represents.total {n : Nat} {stamp : Moment → Int} {slots : Vector (Slot α) n} {rains : List (Rain α)}
    (h : Represents n stamp slots rains) (hfits : ∀ a b, Word.Fits64 (stamp a - stamp b)) (now : Moment) :
    Slot.total n (stamp now) slots.toList = slotwiseSum n stamp (inSpan n stamp now (held n stamp rains)) := by
  have hslots : slots.toList = (List.range n).map fun k => Slot.of stamp (inSlot n stamp k (held n stamp rains)) := by
    apply List.ext_getElem (by simp)
    intro k hk hk'
    have hkn : k < n := by simpa using hk
    simpa using h k hkn
  rw [Slot.total, slotwiseSum, hslots]
  congr 1
  simp only [List.filter_map, List.map_map, inSlot_inSpan n hfits]
  -- the slots within the span are those whose part of the span is not empty
  have hfilter : (List.range n).filter
        (Slot.within n (stamp now) ∘ fun k => Slot.of stamp (inSlot n stamp k (held n stamp rains))) =
      (List.range n).filter ((!·.isEmpty) ∘ fun k =>
        if Slot.within n (stamp now) (Slot.of stamp (inSlot n stamp k (held n stamp rains))) then
          inSlot n stamp k (held n stamp rains)
        else []) := by
    apply List.filter_congr
    intro k _
    by_cases hw : Slot.within n (stamp now) (Slot.of stamp (inSlot n stamp k (held n stamp rains))) = true
    · simp [hw, Slot.ne_nil_of_within hw]
    · simp [hw]
  rw [hfilter]
  apply List.map_congr_left
  intro k hk
  rw [← hfilter, List.mem_filter] at hk
  simp only [Function.comp_apply] at hk ⊢
  rw [if_pos hk.2]
  rfl

/-! ## Exact numbers -/

theorem rainSum_rat (rains : List (Rain Rat)) : rainSum rains = (rains.map (·.amount)).sum := by
  rw [rainSum, List.sum_eq_foldl]
  cases rains.map (·.amount) with
  | nil => rfl
  | cons x rest =>
    rw [List.foldl_cons, zero_add]
    rfl

/-- Added exactly, slots without rain make no difference. -/
theorem slotwiseSum_eq_sum (n : Nat) (stamp : Moment → Int) (rains : List (Rain Rat)) :
    slotwiseSum n stamp rains = ∑ k ∈ Finset.range n, ((inSlot n stamp k rains).map (·.amount)).sum := by
  have hzero : (((List.range n).filter fun k => ¬(!(inSlot n stamp k rains).isEmpty) = true).map
      fun k => ((inSlot n stamp k rains).map (·.amount)).sum).sum = 0 := by
    apply List.sum_eq_zero
    intro x hx
    obtain ⟨k, hk, rfl⟩ := List.mem_map.mp hx
    have hnil : inSlot n stamp k rains = [] := by simpa using (List.mem_filter.mp hk).2
    rw [hnil]
    rfl
  have hsplit := List.sum_map_filter_add_sum_map_filter_not (fun k => (!(inSlot n stamp k rains).isEmpty) = true)
    (fun k => ((inSlot n stamp k rains).map (·.amount)).sum) (List.range n)
  rw [hzero, add_zero] at hsplit
  refine Eq.trans ?_ hsplit
  rw [slotwiseSum, List.filter_map, List.map_map, List.sum_eq_foldl]
  simp only [Function.comp_def, rainSum_rat, Bool.decide_eq_true]
  rfl

/-- All rain is in one slot or another. -/
theorem sum_inSlot {n : Nat} (hn : 0 < n) (stamp : Moment → Int) (rains : List (Rain Rat)) :
    ∑ k ∈ Finset.range n, ((inSlot n stamp k rains).map (·.amount)).sum = (rains.map (·.amount)).sum := by
  induction rains with
  | nil => simp [inSlot]
  | cons r rest ih =>
    have hpos := Int.emod_nonneg (stamp r.time) (b := n) (by omega)
    have hlt := Int.emod_lt_of_pos (stamp r.time) (b := n) (by omega)
    have hstep : ∀ k : Nat, ((inSlot n stamp k (r :: rest)).map (·.amount)).sum =
        (if k = (stamp r.time % n).toNat then r.amount else 0) + ((inSlot n stamp k rest).map (·.amount)).sum := by
      intro k
      have hiff : stamp r.time % n = (k : Int) ↔ k = (stamp r.time % n).toNat := by omega
      by_cases hk : k = (stamp r.time % n).toNat
      · rw [if_pos hk]
        simp [inSlot, hiff.mpr hk]
      · rw [if_neg hk]
        simp [inSlot, hiff.not.mpr hk]
    simp only [hstep, Finset.sum_add_distrib, ih, List.map_cons, List.sum_cons, Finset.sum_ite_eq']
    rw [if_pos (Finset.mem_range.mpr (by omega))]

/-- Added exactly, the sums of the slots make the sum of all the rain. -/
theorem slotwiseSum_rat {n : Nat} (hn : 0 < n) (stamp : Moment → Int) (rains : List (Rain Rat)) :
    slotwiseSum n stamp rains = (rains.map (·.amount)).sum :=
  (slotwiseSum_eq_sum n stamp rains).trans (sum_inSlot hn stamp rains)

/-! ## What a total counts -/

/-- That a total is the sum of a part of the rain: of each amount at most once, and of none outside the span that ends
with a moment. While the clock does not go back, the part is all rain of the span. -/
def Counts (n : Nat) (stamp : Moment → Int) (sumOf : List (Rain α) → α) (rains : List (Rain α)) (now : Moment)
    (total : α) : Prop :=
  ∃ part : List (Rain α), part.Sublist rains ∧
    (∀ r ∈ part, stamp now - n < stamp r.time ∧ stamp r.time ≤ stamp now) ∧ total = sumOf part ∧
    (rains.Pairwise (·.time ≤ ·.time) → part = inSpan n stamp now rains)

omit [Scalar α] in
theorem Counts.congr {n : Nat} {stamp : Moment → Int} {sumOf sumOf' : List (Rain α) → α} {rains : List (Rain α)}
    {now : Moment} {total : α} (h : Counts n stamp sumOf rains now total) (hsum : ∀ part, sumOf part = sumOf' part) :
    Counts n stamp sumOf' rains now total := by
  obtain ⟨part, hsub, hspan, htotal, hall⟩ := h
  exact ⟨part, hsub, hspan, htotal.trans (hsum part), hall⟩

/-- The total of a ring, at the moment of the last rain, counts what is held in the span. -/
theorem Represents.counts {n : Nat} {stamp : Moment → Int} {slots : Vector (Slot α) n} {before : List (Rain α)}
    {last : Rain α} (h : Represents n stamp slots (before ++ [last]))
    (hmono : ∀ a b : Moment, a ≤ b → stamp a ≤ stamp b) (hfits : ∀ a b, Word.Fits64 (stamp a - stamp b)) :
    Counts n stamp (slotwiseSum n stamp) (before ++ [last]) last.time
      (Slot.total n (stamp last.time) slots.toList) := by
  refine ⟨inSpan n stamp last.time (held n stamp (before ++ [last])), ?_, ?_, h.total hfits last.time, ?_⟩
  · exact List.filter_sublist.trans (held_sublist n stamp _)
  · intro r hr
    exact (mem_inSpan.mp hr).2
  · intro htimes
    have hstamps : (before ++ [last]).Pairwise (stamp ·.time ≤ stamp ·.time) := htimes.imp fun h => hmono _ _ h
    apply inSpan_held n stamp _ hstamps
    intro r hr
    rcases List.mem_append.mp hr with hr | hr
    · exact (List.pairwise_append.mp hstamps).2.2 r hr last (by simp)
    · rw [List.mem_singleton.mp hr]

/-! ## The accumulator's rings -/

namespace Accumulator

theorem add_minuteSlots (a : Accumulator α) (r : Rain α) :
    Takes 60 Moment.minuteIndex r a.minuteSlots (a.add r.amount r.time).minuteSlots :=
  takes_set a.minuteSlots ⟨r.time.minute, r.time.isTime.2.1⟩ r.time.minuteIndex_emod

theorem add_hourSlots (a : Accumulator α) (r : Rain α) :
    Takes 24 Moment.hourIndex r a.hourSlots (a.add r.amount r.time).hourSlots :=
  takes_set a.hourSlots ⟨r.time.hour, r.time.isTime.1⟩ r.time.hourIndex_emod

/-- After any rain both rings hold what is held of it. -/
theorem represents_addAll (rains : List (Rain α)) :
    Represents 60 Moment.minuteIndex ((empty : Accumulator α).addAll rains).minuteSlots rains ∧
      Represents 24 Moment.hourIndex ((empty : Accumulator α).addAll rains).hourSlots rains := by
  induction rains using List.reverseRecOn with
  | nil => exact ⟨represents_empty _ _, represents_empty _ _⟩
  | append_singleton rains r ih =>
    rw [addAll_snoc]
    exact ⟨(add_minuteSlots _ r).represents ih.1, (add_hourSlots _ r).represents ih.2⟩

/-- Both rolling totals count what is held in their spans. -/
theorem counts_rolling (before : List (Rain α)) (last : Rain α) :
    let totals := ((empty : Accumulator α).addAll (before ++ [last])).totalsAt last.time
    Counts 60 Moment.minuteIndex (slotwiseSum 60 Moment.minuteIndex) (before ++ [last]) last.time totals.last60 ∧
      Counts 24 Moment.hourIndex (slotwiseSum 24 Moment.hourIndex) (before ++ [last]) last.time totals.last24 := by
  obtain ⟨hminutes, hhours⟩ := represents_addAll (before ++ [last])
  have hlast60 := hminutes.counts (fun _ _ => Moment.minuteIndex_mono) Moment.fits_minuteIndex_sub
  have hlast24 := hhours.counts (fun _ _ => Moment.hourIndex_mono) Moment.fits_hourIndex_sub
  rw [addAll_snoc] at hlast60 hlast24 ⊢
  exact ⟨hlast60, hlast24⟩

/-- The rolling totals that the last rain returns. Whatever the order of the times, they count rain of the 60 minutes and
the 24 hours that end with the last, each amount at most once; while the clock does not go back they count all of it. The
sums are made slot by slot, in the order in which rain came to a slot and then in slot order, and of exact numbers they are
the sum of all that is counted. -/
theorem rolling_totals_exact :
    (∀ (α : Type) [Scalar α] (before : List (Rain α)) (last : Rain α),
      let totals := ((empty : Accumulator α).addAll (before ++ [last])).totalsAt last.time
      Counts 60 Moment.minuteIndex (slotwiseSum 60 Moment.minuteIndex) (before ++ [last]) last.time totals.last60 ∧
        Counts 24 Moment.hourIndex (slotwiseSum 24 Moment.hourIndex) (before ++ [last]) last.time totals.last24) ∧
    ∀ (before : List (Rain Rat)) (last : Rain Rat),
      let totals := ((empty : Accumulator Rat).addAll (before ++ [last])).totalsAt last.time
      Counts 60 Moment.minuteIndex (fun part => (part.map (·.amount)).sum) (before ++ [last]) last.time totals.last60 ∧
        Counts 24 Moment.hourIndex (fun part => (part.map (·.amount)).sum) (before ++ [last]) last.time totals.last24 := by
  refine ⟨fun α _ => counts_rolling, fun before last => ?_⟩
  obtain ⟨hlast60, hlast24⟩ := counts_rolling before last
  exact ⟨hlast60.congr (slotwiseSum_rat (by decide) _), hlast24.congr (slotwiseSum_rat (by decide) _)⟩

/-- Rain in the morning. -/
def morningRain : Rain Float := ⟨5.0, (Moment.of? 2024 6 12 10 30 0).getD default⟩

/-- Rain more than an hour later. -/
def noonRain : Rain Float := ⟨1.0, (Moment.of? 2024 6 12 12 15 0).getD default⟩

/-- At noon the morning's rain has left the rolling hour, but not the rolling day. -/
theorem rolling_totals_at_noon :
    let totals := ((empty : Accumulator Float).addAll [morningRain, noonRain]).totalsAt noonRain.time
    [morningRain, noonRain].Pairwise (·.time ≤ ·.time) ∧ totals.last60 = 1.0 ∧ totals.last24 = 6.0 := by
  intro totals
  have htimes : ([morningRain] ++ [noonRain]).Pairwise (·.time ≤ ·.time) := by decide
  obtain ⟨⟨hour, -, -, hourTotal, hourAll⟩, ⟨day, -, -, dayTotal, dayAll⟩⟩ :=
    rolling_totals_exact.1 Float [morningRain] noonRain
  refine ⟨htimes, hourTotal.trans ?_, dayTotal.trans ?_⟩
  · rw [hourAll htimes]
    decide +kernel
  · rw [dayAll htimes]
    decide +kernel

end Accumulator

end WeatherRelay.Rainfall
