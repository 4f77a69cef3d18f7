import Mathlib.Data.List.Forall2
import Mathlib.Data.Option.Basic
import WeatherRelay.Packet

/-!
# The grammar of packets

A packet is read from few places: its `type`, for some types the serial number, and for the types with readings the
array under one key, of which fixed positions count. `layout?` is the table of those places. Read in order they give the
list of all faults (`faults`), and decoding fails with the first of them and otherwise gives what the places hold
(`ofValue_reads`). So a packet is accepted exactly if it is well-formed (`faults_eq_nil_iff`), and only the places of
the table matter (`SameUsed`).
-/

namespace WeatherRelay

open Json

/-- That a reading fails with the first of the faults, and gives the value when there is none. -/
def Reads {ε α : Type} (reading : Except ε α) (faults : List ε) (value : α) : Prop :=
  reading = match faults with
    | [] => .ok value
    | fault :: _ => .error fault

namespace Reads

variable {ε α β : Type}

theorem pure (value : α) : Reads (Pure.pure value : Except ε α) [] value := rfl

/-- One reading after another: what the second gives counts only where the first has no fault. -/
theorem bind_of_nil {reading : Except ε α} {next : α → Except ε β} {faults more : List ε} {value : α} {result : β}
    (h : Reads reading faults value) (hnext : faults = [] → Reads (next value) more result) :
    Reads (reading >>= next) (faults ++ more) result := by
  unfold Reads at h
  subst h
  cases faults with
  | nil => exact hnext rfl
  | cons fault rest => rfl

theorem bind {reading : Except ε α} {next : α → Except ε β} {faults more : List ε} {value : α} {result : β}
    (h : Reads reading faults value) (hnext : Reads (next value) more result) :
    Reads (reading >>= next) (faults ++ more) result :=
  h.bind_of_nil fun _ => hnext

/-- What is made of a value adds no fault. -/
theorem map {reading : Except ε α} {faults : List ε} {value : α} (h : Reads reading faults value) (make : α → β) :
    Reads (reading >>= fun x => Pure.pure (make x)) faults (make value) := by
  have hread : Reads (reading >>= fun x => Pure.pure (make x)) (faults ++ []) (make value) := h.bind (Reads.pure (make value))
  rwa [List.append_nil] at hread

/-- A list is read item by item. -/
theorem mapM {γ : Type} {read : γ → Except ε α} {faultsOf : γ → List ε} {valueOf : γ → α}
    (h : ∀ item, Reads (read item) (faultsOf item) (valueOf item)) (items : List γ) :
    Reads (items.mapM read) (items.flatMap faultsOf) (items.map valueOf) := by
  induction items with
  | nil => exact Reads.pure []
  | cons item rest ih =>
    rw [List.mapM_cons, List.flatMap_cons, List.map_cons]
    exact (h item).bind (ih.map (valueOf item :: ·))

variable {reading : Except ε α} {faults : List ε} {value : α}

theorem eq_error_iff (h : Reads reading faults value) (e : ε) : reading = .error e ↔ faults.head? = some e := by
  rw [h]
  cases faults <;> simp

theorem eq_ok_of_nil (h : Reads reading faults value) (hfaults : faults = []) : reading = .ok value := by
  rw [h, hfaults]

theorem succeeds_iff (h : Reads reading faults value) : (∃ x, reading = .ok x) ↔ faults = [] := by
  rw [h]
  cases faults <;> simp

end Reads

namespace Packet

/-- Where a type of packet has its readings: the key of their array, whether the array is a table, which holds the rows,
or is the one row itself, and the positions of a row that are used. -/
structure Layout where
  key : String
  isTable : Bool
  positions : List Nat

/-- The layouts of the types that have readings. -/
def layout? : String → Option Layout
  | "obs_air" => some ⟨"obs", true, [0, 1, 2, 3, 4, 5]⟩
  | "obs_sky" => some ⟨"obs", true, [0, 1, 2, 3, 5, 6, 7, 10]⟩
  | "obs_tower" => some ⟨"obs", true, [0, 2, 3]⟩
  | "rapid_wind" => some ⟨"ob", false, [0, 1, 2]⟩
  | "evt_strike" => some ⟨"evt", false, [0, 1, 2]⟩
  | "evt_precip" => some ⟨"evt", false, [0]⟩
  | _ => none

/-- Whether packets of a type are read for the sender. -/
def namesSender (type : String) : Bool := type ∈ ["obs_air", "obs_sky", "obs_tower", "device_status", "hub_status"]

/-- That a value is an object whose `type` is a text. -/
def HasType (packet : Value) (type : String) : Prop :=
  ∃ members, packet = .object members ∧ packet.get? "type" = some (.text type)

/-! ### What is accepted -/

/-- That a row holds numbers at positions. -/
def HoldsNumbers (positions : List Nat) (row : List Value) : Prop := ∀ i ∈ positions, ∃ n, row[i]? = some (.number n)

/-- That the items of an array are what a layout wants of them. -/
def Layout.Fits (layout : Layout) (items : List Value) : Prop :=
  if layout.isTable then ∀ item ∈ items, ∃ row, item = .array row ∧ HoldsNumbers layout.positions row
  else HoldsNumbers layout.positions items

/-- That a packet has the array its type wants; a type without readings wants none. -/
def IsWellFormed (type : String) (packet : Value) : Prop :=
  ∀ layout, layout? type = some layout → ∃ items, packet.get? layout.key = some (.array items) ∧ layout.Fits items

/-! ### What is read -/

/-- The number at a position of a row that has one there. -/
def numberIn (row : List Value) (i : Nat) : Float := ((row[i]?).bind Value.float?).getD 0

/-- The items of the array under a key of a packet that has one there. -/
def itemsIn (packet : Value) (key : String) : List Value := ((packet.get? key).bind Value.items?).getD []

/-- The rows of a table, one for each item. -/
def rowsIn (packet : Value) (key : String) : List (List Value) := (itemsIn packet key).map (·.items?.getD [])

/-- The air row with the numbers of a row. -/
def airRowOf (row : List Value) : AirRow where
  epoch := epochOf (numberIn row 0)
  pressure := numberIn row 1
  temperature := numberIn row 2
  humidity := numberIn row 3
  strikes := (Scalar.truncate 0 Word.maxNat32 (numberIn row 4)).toNat
  strikeDistance := numberIn row 5

/-- The sky row with the numbers of a row. -/
def skyRowOf (row : List Value) : SkyRow where
  epoch := epochOf (numberIn row 0)
  illumination := numberIn row 1
  uv := numberIn row 2
  rain := numberIn row 3
  windSpeed := numberIn row 5
  gustSpeed := numberIn row 6
  windDirection := numberIn row 7
  solar := numberIn row 10

/-- The tower row with the numbers of a row. -/
def towerRowOf (row : List Value) : TowerRow where
  epoch := epochOf (numberIn row 0)
  temperature := numberIn row 2
  humidity := numberIn row 3

/-- The wind sample with the numbers of a row. -/
def windSampleOf (row : List Value) : WindSample where
  epoch := epochOf (numberIn row 0)
  speed := numberIn row 1
  direction := numberIn row 2

/-- The strike with the numbers of a row. -/
def strikeIn (row : List Value) : Packet := .strike (epochOf (numberIn row 0)) (numberIn row 1) (numberIn row 2)

/-- The beginning of rain with the number of a row. -/
def rainStartIn (row : List Value) : Packet := .rainStart (epochOf (numberIn row 0))

/-- The packet that a well-formed value of a type stands for. -/
def meaning (type : String) (packet : Value) : Packet :=
  match type with
  | "obs_air" => .air (serialOf packet) ((rowsIn packet "obs").map airRowOf)
  | "obs_sky" => .sky (serialOf packet) ((rowsIn packet "obs").map skyRowOf)
  | "obs_tower" => .tower (serialOf packet) ((rowsIn packet "obs").map towerRowOf)
  | "rapid_wind" => .rapidWind (windSampleOf (itemsIn packet "ob"))
  | "evt_strike" => strikeIn (itemsIn packet "evt")
  | "evt_precip" => rainStartIn (itemsIn packet "evt")
  | "device_status" => .deviceStatus (serialOf packet)
  | "hub_status" => .hubStatus (serialOf packet)
  | other => .unknown other

/-! ### What is at fault -/

/-- What is wrong at a position of a row: nothing is there, or something that is no number. -/
def positionFaults (type : String) (row : List Value) (i : Nat) : List PacketError :=
  match row[i]? with
  | none => [.missingField type (.position i)]
  | some (.number _) => []
  | some _ => [.notNumber type (.position i)]

/-- What is wrong with a row, position by position. -/
def rowFaults (type : String) (positions : List Nat) (row : List Value) : List PacketError :=
  positions.flatMap (positionFaults type row)

/-- What is wrong with an item of a table, when it is no array. -/
def itemFaults (type : String) (item : Value × Nat) : List PacketError :=
  match item.1 with
  | .array _ => []
  | _ => [.missingField type (.row item.2)]

/-- What is wrong with the items of an array: in a table every item is to be an array, and then the rows are looked at. -/
def Layout.itemsFaults (layout : Layout) (type : String) (items : List Value) : List PacketError :=
  if layout.isTable then
    items.zipIdx.flatMap (itemFaults type) ++ (items.filterMap Value.items?).flatMap (rowFaults type layout.positions)
  else rowFaults type layout.positions items

/-- What is wrong with what is under the key of a layout. -/
def Layout.faults (layout : Layout) (type : String) : Option Value → List PacketError
  | some (.array items) => layout.itemsFaults type items
  | _ => [.missingField type (.key layout.key)]

/-- All that is wrong with a packet of a type, in reading order. -/
def faults (type : String) (packet : Value) : List PacketError :=
  match layout? type with
  | none => []
  | some layout => layout.faults type (packet.get? layout.key)

/-! ### What counts -/

/-- That two rows hold the same at positions, or nothing in both. -/
def AgreeAt (positions : List Nat) (row row' : List Value) : Prop := ∀ i ∈ positions, row'[i]? = row[i]?

/-- That two values are the same, or rows that agree at the positions that are used. -/
def SameRow (positions : List Nat) (v v' : Value) : Prop :=
  v' = v ∨ ∃ row row', v = .array row ∧ v' = .array row' ∧ AgreeAt positions row row'

/-- That two values are the same, or tables of as many items with the same rows. -/
def SameTable (positions : List Nat) (v v' : Value) : Prop :=
  v' = v ∨ ∃ items items', v = .array items ∧ v' = .array items' ∧ List.Forall₂ (SameRow positions) items items'

/-- That two values are the same in what a layout uses of them. -/
def Layout.Same (layout : Layout) : Value → Value → Prop :=
  if layout.isTable then SameTable layout.positions else SameRow layout.positions

/-- That two packets are the same in what is used of a packet of a type. -/
structure SameUsed (type : String) (packet packet' : Value) : Prop where
  type_eq : HasType packet' type
  sender_eq : namesSender type → serialOf packet' = serialOf packet
  readings : ∀ layout, layout? type = some layout →
    Option.Rel layout.Same (packet.get? layout.key) (packet'.get? layout.key)

/-! ### Decoding reads the places of the table -/

theorem numberAt_reads (type : String) (row : List Value) (i : Nat) :
    Reads (numberAt type row i) (positionFaults type row i) (numberIn row i) := by
  unfold Reads numberAt positionFaults numberIn
  cases row[i]? with
  | none => rfl
  | some v => cases v <;> rfl

theorem airRow_reads (row : List Value) :
    Reads (airRow row) (rowFaults "obs_air" [0, 1, 2, 3, 4, 5] row) (airRowOf row) := by
  simp only [rowFaults, List.flatMap_cons, List.flatMap_nil]
  exact (numberAt_reads ..).bind <| (numberAt_reads ..).bind <| (numberAt_reads ..).bind <| (numberAt_reads ..).bind <|
    (numberAt_reads ..).bind <| (numberAt_reads ..).bind <| Reads.pure (airRowOf row)

theorem skyRow_reads (row : List Value) :
    Reads (skyRow row) (rowFaults "obs_sky" [0, 1, 2, 3, 5, 6, 7, 10] row) (skyRowOf row) := by
  simp only [rowFaults, List.flatMap_cons, List.flatMap_nil]
  exact (numberAt_reads ..).bind <| (numberAt_reads ..).bind <| (numberAt_reads ..).bind <| (numberAt_reads ..).bind <|
    (numberAt_reads ..).bind <| (numberAt_reads ..).bind <| (numberAt_reads ..).bind <| (numberAt_reads ..).bind <|
    Reads.pure (skyRowOf row)

theorem towerRow_reads (row : List Value) :
    Reads (towerRow row) (rowFaults "obs_tower" [0, 2, 3] row) (towerRowOf row) := by
  simp only [rowFaults, List.flatMap_cons, List.flatMap_nil]
  exact (numberAt_reads ..).bind <| (numberAt_reads ..).bind <| (numberAt_reads ..).bind <| Reads.pure (towerRowOf row)

theorem windSample_reads (row : List Value) :
    Reads (windSample row) (rowFaults "rapid_wind" [0, 1, 2] row) (windSampleOf row) := by
  simp only [rowFaults, List.flatMap_cons, List.flatMap_nil]
  exact (numberAt_reads ..).bind <| (numberAt_reads ..).bind <| (numberAt_reads ..).bind <| Reads.pure (windSampleOf row)

theorem strikeOf_reads (row : List Value) :
    Reads (strikeOf row) (rowFaults "evt_strike" [0, 1, 2] row) (strikeIn row) := by
  simp only [rowFaults, List.flatMap_cons, List.flatMap_nil]
  exact (numberAt_reads ..).bind <| (numberAt_reads ..).bind <| (numberAt_reads ..).bind <| Reads.pure (strikeIn row)

theorem rainStartOf_reads (row : List Value) :
    Reads (rainStartOf row) (rowFaults "evt_precip" [0] row) (rainStartIn row) := by
  simp only [rowFaults, List.flatMap_cons, List.flatMap_nil]
  exact (numberAt_reads ..).bind <| Reads.pure (rainStartIn row)

theorem arrays_reads (type : String) (start : Nat) (items : List Value) :
    Reads (arrays type start items) ((items.zipIdx start).flatMap (itemFaults type)) (items.map (·.items?.getD [])) := by
  induction items generalizing start with
  | nil => rfl
  | cons item rest ih =>
    rw [List.zipIdx_cons, List.flatMap_cons]
    cases item with
    | array row => exact (ih (start + 1)).map (row :: ·)
    | _ => rfl

/-- Where every item is an array, the arrays among the items are one for each. -/
theorem filterMap_items_of_nil {type : String} {items : List Value} {start : Nat}
    (h : (items.zipIdx start).flatMap (itemFaults type) = []) :
    items.filterMap Value.items? = items.map (·.items?.getD []) := by
  induction items generalizing start with
  | nil => rfl
  | cons item rest ih =>
    rw [List.zipIdx_cons, List.flatMap_cons, List.append_eq_nil_iff] at h
    obtain ⟨hitem, hrest⟩ := h
    cases item with
    | array row => simp [Value.items?, ih hrest]
    | _ => simp [itemFaults] at hitem

theorem faults_of_layout {type : String} {layout : Layout} (packet : Value) (hlayout : layout? type = some layout) :
    faults type packet = layout.faults type (packet.get? layout.key) := by
  rw [faults, hlayout]

/-- A report that is a table is read row by row, after a look at every item. -/
theorem table_reads {γ : Type} (type : String) (positions : List Nat) (packet : Value)
    {read : List Value → Except PacketError γ} {valueOf : List Value → γ} (make : List γ → Packet)
    (hlayout : layout? type = some ⟨"obs", true, positions⟩)
    (hread : ∀ row, Reads (read row) (rowFaults type positions row) (valueOf row)) :
    Reads (do return make (← (← rows type packet).mapM read)) (faults type packet)
      (make ((rowsIn packet "obs").map valueOf)) := by
  rw [faults_of_layout packet hlayout]
  unfold rows arrayAt rowsIn itemsIn
  dsimp only
  cases packet.get? "obs" with
  | none => rfl
  | some v =>
    cases v with
    | array items =>
      refine (arrays_reads type 0 items).bind_of_nil fun hitems => ?_
      rw [filterMap_items_of_nil hitems]
      exact (Reads.mapM hread _).map make
    | _ => rfl

/-- A report that is one row is read at once. -/
theorem row_reads (type key : String) (positions : List Nat) (packet : Value) {read : List Value → Except PacketError Packet}
    {valueOf : List Value → Packet} (hlayout : layout? type = some ⟨key, false, positions⟩)
    (hread : ∀ row, Reads (read row) (rowFaults type positions row) (valueOf row)) :
    Reads (arrayAt type packet key >>= read) (faults type packet) (valueOf (itemsIn packet key)) := by
  rw [faults_of_layout packet hlayout]
  unfold arrayAt itemsIn
  dsimp only
  cases packet.get? key with
  | none => rfl
  | some v =>
    cases v with
    | array items => exact hread items
    | _ => rfl

/-- Only an object has members, so a value with a `type` that is a text is one. -/
theorem hasType_of_text {packet : Value} {type : String} (h : (packet.get? "type").bind Value.text? = some type) :
    HasType packet type := by
  obtain ⟨v, hv, htext⟩ := Option.bind_eq_some_iff.mp h
  cases v with
  | text s =>
    cases htext
    cases packet with
    | object members => exact ⟨members, rfl, hv⟩
    | _ => cases hv
  | _ => cases htext

/-- Decoding reads the places of the table: it fails with the first fault, and gives the meaning of a
value without faults. -/
theorem ofValue_reads {packet : Value} {type : String} (h : HasType packet type) :
    Reads (ofValue packet) (faults type packet) (meaning type packet) := by
  obtain ⟨-, -, htype⟩ := h
  unfold ofValue
  rw [htype]
  simp only [Option.bind_some, Value.text?]
  split
  case h_1 heq => cases heq
  case h_2 heq =>
    cases heq
    exact table_reads "obs_air" _ packet (.air (serialOf packet)) rfl airRow_reads
  case h_3 heq =>
    cases heq
    exact table_reads "obs_sky" _ packet (.sky (serialOf packet)) rfl skyRow_reads
  case h_4 heq =>
    cases heq
    exact table_reads "obs_tower" _ packet (.tower (serialOf packet)) rfl towerRow_reads
  case h_5 heq =>
    cases heq
    exact row_reads "rapid_wind" "ob" _ packet rfl fun row => (windSample_reads row).map Packet.rapidWind
  case h_6 heq =>
    cases heq
    exact row_reads "evt_strike" "evt" [0, 1, 2] packet rfl strikeOf_reads
  case h_7 heq =>
    cases heq
    exact row_reads "evt_precip" "evt" [0] packet rfl rainStartOf_reads
  case h_8 heq =>
    cases heq
    rfl
  case h_9 heq =>
    cases heq
    rfl
  case h_10 other _ _ _ _ _ _ _ _ heq =>
    cases heq
    simp [Reads, faults, meaning, layout?, *]

-- The second item is no array, which is found before the first one is looked at for its numbers.
example : ofValue (.object [("type", .text "obs_tower"), ("obs", .array [.array [], .null])]) =
    .error (.missingField "obs_tower" (.row 1)) := rfl

/-! ### Nothing is at fault with a well-formed packet -/

theorem positionFaults_eq_nil_iff (type : String) (row : List Value) (i : Nat) :
    positionFaults type row i = [] ↔ ∃ n, row[i]? = some (.number n) := by
  unfold positionFaults
  split <;> simp_all

theorem rowFaults_eq_nil_iff (type : String) (positions : List Nat) (row : List Value) :
    rowFaults type positions row = [] ↔ HoldsNumbers positions row := by
  simp only [rowFaults, HoldsNumbers, List.flatMap_eq_nil_iff, positionFaults_eq_nil_iff]

theorem itemFaults_eq_nil_iff (type : String) (item : Value × Nat) :
    itemFaults type item = [] ↔ ∃ row, item.1 = .array row := by
  unfold itemFaults
  split <;> simp_all

theorem Layout.itemsFaults_eq_nil_iff (layout : Layout) (type : String) (items : List Value) :
    layout.itemsFaults type items = [] ↔ layout.Fits items := by
  unfold Layout.itemsFaults Layout.Fits
  split
  · simp only [List.append_eq_nil_iff, List.flatMap_eq_nil_iff, itemFaults_eq_nil_iff, rowFaults_eq_nil_iff,
      List.mem_filterMap]
    constructor
    · rintro ⟨hitems, hrows⟩ item hitem
      obtain ⟨i, hi⟩ := List.mem_iff_getElem?.mp hitem
      obtain ⟨row, rfl⟩ := hitems (item, i) (List.mem_zipIdx_iff_getElem?.mpr hi)
      exact ⟨row, rfl, hrows row ⟨_, hitem, rfl⟩⟩
    · intro hfits
      refine ⟨fun item hitem => ?_, ?_⟩
      · obtain ⟨row, hrow, -⟩ := hfits item.1 (List.fst_mem_of_mem_zipIdx hitem)
        exact ⟨row, hrow⟩
      · rintro row ⟨item, hitem, hrow⟩
        obtain ⟨row', rfl, hnumbers⟩ := hfits item hitem
        cases hrow
        exact hnumbers
  · exact rowFaults_eq_nil_iff ..

theorem Layout.faults_eq_nil_iff (layout : Layout) (type : String) (value : Option Value) :
    layout.faults type value = [] ↔ ∃ items, value = some (.array items) ∧ layout.Fits items := by
  cases value with
  | none => simp [Layout.faults]
  | some v =>
    cases v with
    | array items => simp [Layout.faults, Layout.itemsFaults_eq_nil_iff]
    | _ => simp [Layout.faults]

theorem faults_eq_nil_iff (type : String) (packet : Value) : faults type packet = [] ↔ IsWellFormed type packet := by
  unfold faults IsWellFormed
  cases layout? type with
  | none => simp
  | some layout => simp [Layout.faults_eq_nil_iff]

/-! ### Every fault is one of the type's -/

/-- That a fault is one of a packet of a type. -/
def IsFaultOf (type : String) (fault : PacketError) : Prop :=
  ∃ place, fault = .missingField type place ∨ fault = .notNumber type place

theorem isFaultOf_of_mem_rowFaults {type : String} {positions : List Nat} {row : List Value} {fault : PacketError}
    (h : fault ∈ rowFaults type positions row) : IsFaultOf type fault := by
  obtain ⟨i, -, hfault⟩ := List.mem_flatMap.mp h
  unfold positionFaults at hfault
  split at hfault <;> simp only [List.mem_singleton, List.not_mem_nil] at hfault
  · exact ⟨_, Or.inl hfault⟩
  · exact ⟨_, Or.inr hfault⟩

theorem isFaultOf_of_mem_itemFaults {type : String} {item : Value × Nat} {fault : PacketError}
    (h : fault ∈ itemFaults type item) : IsFaultOf type fault := by
  unfold itemFaults at h
  split at h <;> simp only [List.mem_singleton, List.not_mem_nil] at h
  exact ⟨_, Or.inl h⟩

theorem isFaultOf_of_mem_itemsFaults {type : String} {layout : Layout} {items : List Value} {fault : PacketError}
    (h : fault ∈ layout.itemsFaults type items) : IsFaultOf type fault := by
  unfold Layout.itemsFaults at h
  split at h
  · rcases List.mem_append.mp h with h | h
    · obtain ⟨item, -, hitem⟩ := List.mem_flatMap.mp h
      exact isFaultOf_of_mem_itemFaults hitem
    · obtain ⟨row, -, hrow⟩ := List.mem_flatMap.mp h
      exact isFaultOf_of_mem_rowFaults hrow
  · exact isFaultOf_of_mem_rowFaults h

/-- Every fault of a packet names its type. -/
theorem isFaultOf_of_mem_faults {type : String} {packet : Value} {fault : PacketError} (h : fault ∈ faults type packet) :
    IsFaultOf type fault := by
  unfold faults Layout.faults at h
  split at h
  · cases h
  · split at h
    · exact isFaultOf_of_mem_itemsFaults h
    · exact ⟨_, Or.inl (List.mem_singleton.mp h)⟩

/-! ### Only the places of the table count -/

theorem rowFaults_congr (type : String) {positions : List Nat} {row row' : List Value} (h : AgreeAt positions row row') :
    rowFaults type positions row' = rowFaults type positions row := by
  simp only [rowFaults, List.flatMap_def]
  congr 1
  refine List.map_congr_left fun i hi => ?_
  rw [positionFaults, positionFaults, h i hi]

theorem airRowOf_congr {row row' : List Value} (h : AgreeAt [0, 1, 2, 3, 4, 5] row row') : airRowOf row' = airRowOf row := by
  simp only [AgreeAt, List.forall_mem_cons] at h
  simp only [airRowOf, numberIn, h]

theorem skyRowOf_congr {row row' : List Value} (h : AgreeAt [0, 1, 2, 3, 5, 6, 7, 10] row row') :
    skyRowOf row' = skyRowOf row := by
  simp only [AgreeAt, List.forall_mem_cons] at h
  simp only [skyRowOf, numberIn, h]

theorem towerRowOf_congr {row row' : List Value} (h : AgreeAt [0, 2, 3] row row') : towerRowOf row' = towerRowOf row := by
  simp only [AgreeAt, List.forall_mem_cons] at h
  simp only [towerRowOf, numberIn, h]

theorem windSampleOf_congr {row row' : List Value} (h : AgreeAt [0, 1, 2] row row') : windSampleOf row' = windSampleOf row := by
  simp only [AgreeAt, List.forall_mem_cons] at h
  simp only [windSampleOf, numberIn, h]

theorem strikeIn_congr {row row' : List Value} (h : AgreeAt [0, 1, 2] row row') : strikeIn row' = strikeIn row := by
  simp only [AgreeAt, List.forall_mem_cons] at h
  simp only [strikeIn, numberIn, h]

theorem rainStartIn_congr {row row' : List Value} (h : AgreeAt [0] row row') : rainStartIn row' = rainStartIn row := by
  simp only [AgreeAt, List.forall_mem_cons] at h
  simp only [rainStartIn, numberIn, h]

variable {type key : String} {positions : List Nat} {packet packet' : Value}

/-- What is made of the one row of a packet, where only positions that are used count. -/
theorem itemsIn_congr {γ : Type} {f : List Value → γ} (hf : ∀ row row', AgreeAt positions row row' → f row' = f row)
    (h : Option.Rel (SameRow positions) (packet.get? key) (packet'.get? key)) :
    f (itemsIn packet' key) = f (itemsIn packet key) := by
  unfold itemsIn
  generalize packet.get? key = o, packet'.get? key = o' at h
  cases h with
  | none => rfl
  | some hsame =>
    obtain rfl | ⟨row, row', rfl, rfl, hagree⟩ := hsame
    · rfl
    · exact hf row row' hagree

/-- What is made of the rows of a table, where only positions that are used count. -/
theorem rowsIn_congr {γ : Type} {f : List Value → γ} (hf : ∀ row row', AgreeAt positions row row' → f row' = f row)
    (h : Option.Rel (SameTable positions) (packet.get? key) (packet'.get? key)) :
    (rowsIn packet' key).map f = (rowsIn packet key).map f := by
  unfold rowsIn itemsIn
  generalize packet.get? key = o, packet'.get? key = o' at h
  cases h with
  | none => rfl
  | some hsame =>
    obtain rfl | ⟨items, items', rfl, rfl, hrows⟩ := hsame
    · rfl
    · simp only [Option.bind_some, Value.items?, Option.getD_some]
      induction hrows with
      | nil => rfl
      | cons hrow _ ih =>
        rw [List.map_cons, List.map_cons, List.map_cons, List.map_cons, ih]
        obtain rfl | ⟨row, row', rfl, rfl, hagree⟩ := hrow
        · rfl
        · simp only [Option.getD_some, hf row row' hagree]

theorem meaning_congr (h : SameUsed type packet packet') : meaning type packet' = meaning type packet := by
  obtain ⟨-, hsender, hreadings⟩ := h
  unfold meaning
  split
  · rw [hsender rfl, rowsIn_congr (fun _ _ => airRowOf_congr) (hreadings _ rfl)]
  · rw [hsender rfl, rowsIn_congr (fun _ _ => skyRowOf_congr) (hreadings _ rfl)]
  · rw [hsender rfl, rowsIn_congr (fun _ _ => towerRowOf_congr) (hreadings _ rfl)]
  · rw [itemsIn_congr (fun _ _ => windSampleOf_congr) (hreadings _ rfl)]
  · exact itemsIn_congr (fun _ _ => strikeIn_congr) (hreadings _ rfl)
  · exact itemsIn_congr (fun _ _ => rainStartIn_congr) (hreadings _ rfl)
  · rw [hsender rfl]
  · rw [hsender rfl]
  · rfl

theorem zipIdx_itemFaults_congr (start : Nat) {items items' : List Value}
    (h : List.Forall₂ (SameRow positions) items items') :
    (items'.zipIdx start).flatMap (itemFaults type) = (items.zipIdx start).flatMap (itemFaults type) := by
  induction h generalizing start with
  | nil => rfl
  | cons hitem _ ih =>
    rw [List.zipIdx_cons, List.zipIdx_cons, List.flatMap_cons, List.flatMap_cons, ih]
    obtain rfl | ⟨row, row', rfl, rfl, -⟩ := hitem <;> rfl

theorem flatMap_rowFaults_congr {items items' : List Value} (h : List.Forall₂ (SameRow positions) items items') :
    (items'.filterMap Value.items?).flatMap (rowFaults type positions) =
      (items.filterMap Value.items?).flatMap (rowFaults type positions) := by
  induction h with
  | nil => rfl
  | cons hitem _ ih =>
    obtain rfl | ⟨row, row', rfl, rfl, hagree⟩ := hitem
    · simp only [List.filterMap_cons]
      split
      · exact ih
      · rw [List.flatMap_cons, List.flatMap_cons, ih]
    · simp only [List.filterMap_cons, Value.items?, List.flatMap_cons, ih, rowFaults_congr type hagree]

theorem Layout.faults_congr (layout : Layout) (type : String) {value value' : Option Value}
    (h : Option.Rel layout.Same value value') : layout.faults type value' = layout.faults type value := by
  cases h with
  | none => rfl
  | some hsame =>
    unfold Layout.Same at hsame
    split at hsame
    case isTrue htable =>
      obtain rfl | ⟨items, items', rfl, rfl, hrows⟩ := hsame
      · rfl
      · simp only [Layout.faults, Layout.itemsFaults, if_pos htable, zipIdx_itemFaults_congr 0 hrows,
          flatMap_rowFaults_congr hrows]
    case isFalse hrow =>
      obtain rfl | ⟨row, row', rfl, rfl, hagree⟩ := hsame
      · rfl
      · simp only [Layout.faults, Layout.itemsFaults, if_neg hrow, rowFaults_congr type hagree]

theorem faults_congr (h : SameUsed type packet packet') : faults type packet' = faults type packet := by
  unfold faults
  cases hlayout : layout? type with
  | none => rfl
  | some layout => exact layout.faults_congr type (h.readings layout hlayout)

/-- The packets that are accepted, what they are accepted as, why the others are not, and what does not count. A value
without a type is refused as such. A value of a type is accepted exactly if it is well-formed, and then as what it
means; otherwise it is refused with the first of its faults in reading order. Nothing that is not used of a packet of
the type makes a difference. -/
theorem ofValue_follows_grammar (packet : Value) :
    (ofValue packet = .error .missingType ↔ ¬ ∃ type, HasType packet type) ∧
      ∀ type, HasType packet type →
        ((∃ p, ofValue packet = .ok p) ↔ IsWellFormed type packet) ∧
          (IsWellFormed type packet → ofValue packet = .ok (meaning type packet)) ∧
          (∀ e, ofValue packet = .error e ↔ (faults type packet).head? = some e) ∧
          ∀ packet', SameUsed type packet packet' → ofValue packet' = ofValue packet := by
  refine ⟨⟨?_, ?_⟩, fun type htype => ?_⟩
  · rintro hmissing ⟨type, htype⟩
    have hfirst := ((ofValue_reads htype).eq_error_iff _).mp hmissing
    obtain ⟨place, hplace | hplace⟩ := isFaultOf_of_mem_faults (List.mem_of_mem_head? hfirst) <;> cases hplace
  · intro hnone
    cases htype : (packet.get? "type").bind Value.text? with
    | none => simp only [ofValue, htype]
    | some type => exact absurd ⟨type, hasType_of_text htype⟩ hnone
  · have hreads := ofValue_reads htype
    refine ⟨?_, ?_, hreads.eq_error_iff, fun packet' hsame => ?_⟩
    · rw [hreads.succeeds_iff, faults_eq_nil_iff]
    · rw [← faults_eq_nil_iff]
      exact hreads.eq_ok_of_nil
    · rw [hreads, ofValue_reads hsame.type_eq, faults_congr hsame, meaning_congr hsame]

/-- A whole number as a JSON value. -/
def wholeNumber (n : UInt64) : Value := .number (.natural n)

/-- A report of one air row, with what its sender says of its battery at positions that are not used. -/
def airReport (battery : List Value) : Value :=
  .object [("type", .text "obs_air"), ("obs", .array [.array ([1704067260, 1000, 5, 80, 0, 0].map wholeNumber ++ battery)])]

/-- An air row without a battery is accepted, and a battery makes no difference. -/
theorem battery_is_not_read :
    (∃ p, ofValue (airReport []) = .ok p) ∧ ofValue (airReport [wholeNumber 3, .null]) = ofValue (airReport []) := by
  have htype : ∀ battery, HasType (airReport battery) "obs_air" := fun battery => ⟨_, rfl, rfl⟩
  obtain ⟨haccepted, -, -, hsame⟩ := (ofValue_follows_grammar (airReport [])).2 "obs_air" (htype [])
  refine ⟨haccepted.mpr ?_, hsame _ ⟨htype _, fun _ => rfl, ?_⟩⟩
  · intro layout hlayout
    cases hlayout
    refine ⟨_, rfl, fun item hitem => ⟨_, List.mem_singleton.mp hitem, fun i hi => ?_⟩⟩
    simp only [List.mem_cons, List.not_mem_nil, or_false] at hi
    rcases hi with rfl | rfl | rfl | rfl | rfl | rfl <;> exact ⟨_, rfl⟩
  · intro layout hlayout
    cases hlayout
    refine .some (Or.inr ⟨_, _, rfl, rfl, .cons (Or.inr ⟨_, _, rfl, rfl, fun i hi => ?_⟩) .nil⟩)
    simp only [List.mem_cons, List.not_mem_nil, or_false] at hi
    rcases hi with rfl | rfl | rfl | rfl | rfl | rfl <;> rfl

end Packet

end WeatherRelay
