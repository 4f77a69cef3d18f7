import Mathlib.Data.List.TakeWhile
import WeatherRelay.Proofs.Service.Shutdown
import WeatherRelay.Publish.Publisher

/-!
# The gate

A configuration is used only if nothing is wrong with it (`Config.Passes`); else the first of its faults is told, in a
fixed order. What is built from a configuration that has passed relies on it: the limit of the dispatcher is the one
that is configured, the queue has room, a drain is over within the longest grace period, and each service becomes a
destination, which takes part if its tag names a kind of service (`gate_guards_the_service`).
-/

namespace WeatherRelay

/-! ## Blank texts -/

/-- A text is blank exactly if nothing is left of it without the white space at its ends. -/
theorem Text.isAllBlank_iff (s : String) : isAllBlank s = true ↔ trim s = "" := by
  have hempty : trim s = "" ↔ trimmed s.toList = [] := String.ofList_eq_empty_iff
  rw [isAllBlank, hempty, trimmed, List.reverse_eq_nil_iff, List.dropWhile_eq_nil_iff, List.all_eq_true]
  constructor
  · intro h c hc
    exact h c ((List.dropWhile_sublist _).subset (List.mem_reverse.mp hc))
  · intro h
    -- what is left after the white space at the front would begin with something else
    have hnone : s.toList.dropWhile isBlank = [] := by
      by_contra hsome
      have hfirst := h _ (List.mem_reverse.mpr (List.head_mem hsome))
      rw [List.head_dropWhile_not isBlank hsome] at hfirst
      nomatch hfirst
    exact List.dropWhile_eq_nil_iff.mp hnone

/-! ## Tags -/

namespace ServiceKind

/-- That a tag names a kind of service: without the white space at its ends, and whatever the case of its letters, it is
the tag of the kind, or `database` for the kind that keeps one. -/
def Names (tag : String) (k : ServiceKind) : Prop :=
  folded (Text.trim tag) = folded k.tag ∨ k = .sqlite ∧ folded (Text.trim tag) = "database"

theorem mem_all (k : ServiceKind) : k ∈ all := by cases k <;> decide

/-- No two kinds have one tag. -/
theorem folded_tag_inj {k k' : ServiceKind} (h : folded k.tag = folded k'.tag) : k = k' := by
  have hnodup : (all.map fun k => folded k.tag).Nodup := by decide +kernel
  exact List.inj_on_of_nodup_map hnodup k.mem_all k'.mem_all h

/-- The second tag of the table is that of no kind. -/
theorem folded_tag_ne_database (k : ServiceKind) : folded k.tag ≠ "database" := by
  have hall : ∀ k ∈ all, folded k.tag ≠ "database" := by decide +kernel
  exact hall k k.mem_all

/-- A tag names one kind at most. -/
theorem Names.unique {tag : String} {k k' : ServiceKind} (h : Names tag k) (h' : Names tag k') : k = k' := by
  rcases h with h | ⟨rfl, h⟩
  · rcases h' with h' | ⟨-, h'⟩
    · exact folded_tag_inj (h.symm.trans h')
    · exact absurd (h.symm.trans h') k.folded_tag_ne_database
  · rcases h' with h' | ⟨rfl, -⟩
    · exact absurd (h'.symm.trans h) k'.folded_tag_ne_database
    · rfl

/-- The kind of a tag is the one that it names. -/
theorem ofTag?_eq_some_iff {tag : String} {k : ServiceKind} : ofTag? tag = some k ↔ Names tag k := by
  have hnamed : ∀ k, ofTag? tag = some k → Names tag k := by
    intro k h
    unfold ofTag? at h
    dsimp only at h
    split at h
    case isTrue hdatabase => exact Or.inr ⟨(Option.some.inj h).symm, hdatabase⟩
    case isFalse =>
      have htag := List.find?_some h
      exact Or.inl (beq_iff_eq.mp htag).symm
  refine ⟨hnamed k, fun h => ?_⟩
  have hsome : (ofTag? tag).isSome = true := by
    unfold ofTag?
    dsimp only
    split
    case isTrue => rfl
    case isFalse hnot =>
      rw [List.find?_isSome]
      exact ⟨k, k.mem_all, beq_iff_eq.mpr (h.resolve_right fun hdatabase => hnot hdatabase.2).symm⟩
  obtain ⟨k', hk'⟩ := Option.isSome_iff_exists.mp hsome
  rw [hk', (hnamed k' hk').unique h]

end ServiceKind

/-! ## Faults -/

namespace Config

/-- That nothing is wrong with a configuration. -/
structure Passes (c : Config) : Prop where
  listens : ∃ a, Net.Address.of? c.listen = some a
  grace : c.graceSeconds ≤ 300
  inFlight : 1 ≤ c.maxInFlight
  depth : 1 ≤ c.queueDepth
  named : ∀ s ∈ c.services, Text.trim s.service ≠ ""

/-- The services without a name, by their places. -/
def unnamed (services : List DestinationConfig) : List Nat :=
  (services.zipIdx.filter fun s => Text.trim s.1.service = "").map (·.2)

/-- All that is wrong with a configuration, in the order in which it is told. -/
def faults (c : Config) : List ConfigError :=
  (if (Net.Address.of? c.listen).isSome then [] else [.listen c.listen]) ++
    (if c.graceSeconds ≤ 300 then [] else [.grace c.graceSeconds]) ++
    (if 1 ≤ c.maxInFlight then [] else [.bounds]) ++
    (if 1 ≤ c.queueDepth then [] else [.bounds]) ++
    (unnamed c.services).map .unnamedService

theorem findIdx?_blank (services : List DestinationConfig) :
    (services.findIdx? fun s => Text.isAllBlank s.service) = (unnamed services).head? := by
  have hblank : ∀ s : DestinationConfig, decide (Text.trim s.service = "") = Text.isAllBlank s.service := by
    intro s
    rw [Bool.eq_iff_iff, decide_eq_true_iff, Text.isAllBlank_iff]
  simp only [unnamed, List.head?_map, List.head?_filter, hblank]
  exact List.findIdx?_eq_fst_find?_zipIdx

/-- A check that is met tells nothing, and one that is not comes before the rest. -/
theorem head?_check (p : Prop) [Decidable p] (e : ConfigError) (rest : List ConfigError) :
    ((if p then [] else [e]) ++ rest).head? = if p then rest.head? else some e := by
  split <;> rfl

/-- The gate tells the first fault. -/
theorem validate_eq (c : Config) : c.validate = c.faults.head?.elim (.ok ()) .error := by
  unfold validate faults
  simp only [List.append_assoc, head?_check, findIdx?_blank, address?]
  by_cases hlisten : (Net.Address.of? c.listen).isSome = true
  case neg => rw [if_neg hlisten, if_pos (by simpa using hlisten), Option.elim_some]
  rw [if_pos hlisten, if_neg (by simpa [Option.isSome_iff_ne_none] using hlisten)]
  by_cases hgrace : c.graceSeconds ≤ 300
  case neg => rw [if_neg hgrace, if_pos (by rw [maxGrace]; omega), Option.elim_some]
  rw [if_pos hgrace, if_neg (by rw [maxGrace]; omega)]
  by_cases hflight : 1 ≤ c.maxInFlight
  case neg => rw [if_neg hflight, if_pos (by omega), Option.elim_some]
  rw [if_pos hflight]
  by_cases hdepth : 1 ≤ c.queueDepth
  case neg => rw [if_neg hdepth, if_pos (by omega), Option.elim_some]
  rw [if_pos hdepth, if_neg (by omega), List.head?_map]
  cases (unnamed c.services).head? with
  | none => rfl
  | some i => rfl

theorem unnamed_eq_nil_iff (services : List DestinationConfig) :
    unnamed services = [] ↔ ∀ s ∈ services, Text.trim s.service ≠ "" := by
  rw [← List.head?_eq_none_iff, ← findIdx?_blank, List.findIdx?_eq_none_iff]
  refine forall₂_congr fun s _ => ?_
  rw [← Bool.not_eq_true, Text.isAllBlank_iff]

theorem faults_eq_nil_iff (c : Config) : c.faults = [] ↔ c.Passes := by
  have check (p : Prop) [Decidable p] (e : ConfigError) : (if p then [] else [e]) = [] ↔ p := by
    by_cases hp : p <;> simp [hp]
  simp only [faults, List.append_eq_nil_iff, check, List.map_eq_nil_iff, unnamed_eq_nil_iff, Option.isSome_iff_exists, and_assoc]
  constructor
  · rintro ⟨hlisten, hgrace, hflight, hdepth, hnamed⟩
    exact ⟨hlisten, hgrace, hflight, hdepth, hnamed⟩
  · rintro ⟨hlisten, hgrace, hflight, hdepth, hnamed⟩
    exact ⟨hlisten, hgrace, hflight, hdepth, hnamed⟩

/-- The gate is passed exactly by configurations without faults. -/
theorem validate_eq_ok_iff (c : Config) : c.validate = .ok () ↔ c.Passes := by
  rw [validate_eq, ← faults_eq_nil_iff]
  cases c.faults with
  | nil => simp
  | cons e rest => simp

theorem validate_eq_error_iff (c : Config) (e : ConfigError) : c.validate = .error e ↔ c.faults.head? = some e := by
  rw [validate_eq]
  cases c.faults.head? with
  | none => simp
  | some e' => simp

/-- What is read from a text has passed the gate. -/
theorem passes_of_parse {text : String} {c : Config} (h : parse text = .ok c) : c.Passes := by
  unfold parse at h
  split at h
  · nomatch h
  · rename_i c' _
    cases hgate : c'.validate with
    | error e =>
      rw [hgate] at h
      nomatch h
    | ok u =>
      rw [hgate] at h
      obtain rfl : c' = c := Except.ok.inj h
      exact (validate_eq_ok_iff c').mp hgate

end Config

/-! ## What relies on the gate -/

/-- No wait of a drain is longer than the grace period. -/
theorem Dispatcher.waited_le {α ε : Type} [ToString ε] (d : Dispatcher α) (fate : Delivery α → Fate ε) :
    (d.drain fate).waited ≤ d.period := by
  rw [← ENat.natCast_le_natCast, d.drain_waited fate]
  exact min_le_left _ _

section

variable {P : Type} (create : ServiceKind → P) (station : StationInfo)

/-- A destination keeps how it is configured, and takes part exactly if it is enabled there and its tag names a kind. -/
theorem Destination.ofConfig_spec (config : DestinationConfig) :
    (ofConfig create station config).1.config = config ∧
      ((ofConfig create station config).1.isEnabled = true ↔
        config.enabled = true ∧ ∃ k, ServiceKind.Names config.service k) := by
  have hnames : (∃ k, ServiceKind.Names config.service k) ↔ (ServiceKind.ofTag? config.service).isSome = true := by
    rw [Option.isSome_iff_exists]
    exact exists_congr fun k => ServiceKind.ofTag?_eq_some_iff.symm
  rw [hnames]
  unfold ofConfig
  cases ServiceKind.ofTag? config.service with
  | none => simp
  | some kind => simp

/-- Each configured service becomes a destination. -/
theorem Registry.config_ofConfig (services : List DestinationConfig) :
    (ofConfig create station services).1.map (·.config) = services := by
  simp only [ofConfig, List.map_map]
  exact (List.map_congr_left fun config _ => (Destination.ofConfig_spec create station config).1).trans (List.map_id services)

theorem Registry.isEnabled_ofConfig {services : List DestinationConfig} {d : Destination P}
    (h : d ∈ (ofConfig create station services).1) :
    d.isEnabled = true ↔ d.config.enabled = true ∧ ∃ k, ServiceKind.Names d.config.service k := by
  obtain ⟨made, hmade, rfl⟩ := List.mem_map.mp h
  obtain ⟨config, -, rfl⟩ := List.mem_map.mp hmade
  obtain ⟨hconfig, henabled⟩ := Destination.ofConfig_spec create station config
  rwa [hconfig]

end

namespace Service

variable {P S ε : Type} [ToString ε]

/-- The service at the beginning of a run has the limits of its configuration. -/
theorem start_limits (b : Behavior P S ε) (create : ServiceKind → P) (c : Config) :
    Action.Yields (start b create c) fun s =>
      s.dispatcher = .ofLimit c.maxInFlight c.graceSeconds ∧ s.intake.queue.depth = c.queueDepth :=
  fun _ => ⟨rfl, rfl⟩

/-- What the gate lets through, and what relies on it.

The gate is passed exactly by the configurations with which nothing is wrong, and else the first fault is told. A
configuration that is read from a text has passed. So, whatever the publishers do and whatever happens, the dispatcher
has the limit that is configured, the queue has room, and no drain at the end waits longer than five minutes. Of each
service there is a destination, in the order of the configuration, which takes part exactly if it is enabled and its tag
names a kind, and no tag names two. -/
theorem gate_guards_the_service :
    (∀ c : Config, (c.validate = .ok () ↔ c.Passes) ∧ ∀ e, c.validate = .error e ↔ c.faults.head? = some e) ∧
    (∀ text c, Config.parse text = .ok c → c.Passes ∧
      ∀ (b : Behavior P S ε) (create : ServiceKind → P) (events : List Event) (scene : Scene S),
        let begun := (start b create c).run scene
        let served := (begun.1.steps b events).run begun.2
        let closed := (served.1.close b).run served.2
        let made := (Registry.ofConfig create c.station c.services).1
        begun.1.dispatcher.limit = c.maxInFlight ∧ begun.1.intake.queue.depth = c.queueDepth ∧ 1 ≤ begun.1.intake.queue.depth ∧
          (∀ fate : Delivery Snapshot → Fate ε, (closed.1.dispatcher.drain fate).waited ≤ 300 * 1000) ∧
          made.map (·.config) = c.services ∧
          ∀ d ∈ made, d.isEnabled = true ↔ d.config.enabled = true ∧ ∃ k, ServiceKind.Names d.config.service k) ∧
    ∀ tag k k', ServiceKind.Names tag k → ServiceKind.Names tag k' → k = k' := by
  refine ⟨fun c => ⟨c.validate_eq_ok_iff, c.validate_eq_error_iff⟩, ?_, fun tag k k' h h' => h.unique h'⟩
  intro text c hparse
  have hpasses := Config.passes_of_parse hparse
  refine ⟨hpasses, ?_⟩
  intro b create events scene begun served closed made
  obtain ⟨hdispatcher, hdepth⟩ := start_limits b create c scene
  refine ⟨?_, hdepth, ?_, ?_, Registry.config_ofConfig create c.station c.services, ?_⟩
  · rw [hdispatcher]
    exact max_eq_left hpasses.inFlight
  · rw [hdepth]
    exact hpasses.depth
  · intro fate
    have hsame := (begun.1.steps_same b events begun.2).trans (served.1.close_same b served.2)
    have hgrace : closed.1.dispatcher.grace = c.graceSeconds := hsame.grace.trans (congrArg Dispatcher.grace hdispatcher)
    calc (closed.1.dispatcher.drain fate).waited
      _ ≤ closed.1.dispatcher.period := closed.1.dispatcher.waited_le fate
      _ = c.graceSeconds * 1000 := by rw [Dispatcher.period, hgrace]
      _ ≤ 300 * 1000 := Nat.mul_le_mul_right 1000 hpasses.grace
  · intro d hd
    exact Registry.isEnabled_ofConfig create c.station hd

/-- A configuration of one service, whose tag is another one for the kind that keeps a database. -/
def oneTable : String := "services: [\x7bservice: ' DataBase '\x7d]"

/-- It passes, with a queue for four, for a service whose only destination takes part. -/
theorem gate_lets_second_tag_in :
    ∃ c, Config.parse oneTable = .ok c ∧ c.Passes ∧
      let begun := (start Publisher.behavior Publisher.ofKind c).run
        { now := .start1970, outside := { network := { reach := fun _ _ => .silent } } }
      begun.1.dispatcher.limit = 64 ∧ begun.1.intake.queue.depth = 4 ∧
        ∃ d, (Registry.ofConfig Publisher.ofKind c.station c.services).1 = [d] ∧ d.isEnabled = true := by
  have hread : ((Config.parse oneTable).toOption.map fun c => (c.maxInFlight, c.queueDepth, c.services)) =
      some (64, 4, [{ service := " DataBase " }]) := by decide +kernel
  obtain ⟨c, hsome, hc⟩ := Option.map_eq_some_iff.mp hread
  obtain ⟨hlimit, hdepth, hservices⟩ := Prod.mk.inj hc |>.imp_right Prod.mk.inj
  have hparse : Config.parse oneTable = .ok c := by
    cases hresult : Config.parse oneTable with
    | error e =>
      rw [hresult] at hsome
      nomatch hsome
    | ok c' =>
      rw [hresult] at hsome
      exact congrArg Except.ok (Option.some.inj hsome)
  obtain ⟨hpasses, hused⟩ := (gate_guards_the_service (P := Publisher) (S := Outside) (ε := PublishError)).2.1 oneTable c hparse
  obtain ⟨hbegun, hqueue, -, -, hconfig, henabled⟩ := hused Publisher.behavior Publisher.ofKind []
    { now := .start1970, outside := { network := { reach := fun _ _ => .silent } } }
  obtain ⟨d, hmade, hd⟩ := List.map_eq_singleton_iff.mp (hconfig.trans hservices)
  refine ⟨c, hparse, hpasses, hbegun.trans hlimit, hqueue.trans hdepth, d, hmade, (henabled d ?_).mpr ?_⟩
  · rw [hmade]
    exact List.mem_singleton_self d
  · rw [hd]
    exact ⟨rfl, .sqlite, Or.inr ⟨rfl, by decide +kernel⟩⟩

end Service

end WeatherRelay
