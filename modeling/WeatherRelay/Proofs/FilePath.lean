import Mathlib.Data.List.TakeWhile
import WeatherRelay.Proofs.Files

/-!
# Names, siblings, and what stands at a path

A path that may be written ends in a name (`exists_endsIn`). The path with another extension ends in another name after
the same text, so it leads to another place in the same directory, unless it is the same path (`withExtension_path_ne`).
A file that is put elsewhere does not show in what stands at a path (`standing?_put`).
-/

namespace WeatherRelay

namespace Text

variable {p : Char → Bool}

theorem cut_ne_nil (cs : List Char) : cut p cs ≠ [] := by
  cases cs with
  | nil => simp [cut]
  | cons c rest =>
    unfold cut
    split
    · simp
    · split <;> simp

/-- A text is cut where its parts are and in between. -/
theorem cut_append_cons {c : Char} (hc : p c = true) (cs rest : List Char) :
    cut p (cs ++ c :: rest) = cut p cs ++ cut p rest := by
  induction cs with
  | nil => simp [cut, hc]
  | cons d cs ih =>
    rw [List.cons_append, cut, cut, ih]
    split
    · rfl
    · cases hcut : cut p cs with
      | nil => exact absurd hcut (cut_ne_nil cs)
      | cons first more => rfl

theorem cut_of_forall_not {cs : List Char} (h : ∀ c ∈ cs, p c = false) : cut p cs = [cs] := by
  induction cs with
  | nil => rfl
  | cons c cs ih =>
    rw [cut, ih fun d hd => h d (List.mem_cons_of_mem c hd)]
    simp [h c List.mem_cons_self]

end Text

namespace Files

/-! ## Names -/

/-- That a path is a text, which is empty or ends in a slash, and a name after it. -/
structure EndsIn (path : String) (lead name : List Char) : Prop where
  split : path.toList = lead ++ name
  lead_slash : lead = [] ∨ ∃ before, lead = before ++ ['/']
  name_ne_nil : name ≠ []
  noSlash : '/' ∉ name

namespace EndsIn

variable {path path' : String} {lead name name' : List Char}

theorem steps (h : EndsIn path lead name) :
    Files.steps path = Files.steps (String.ofList lead) ++ [String.ofList name] := by
  have hname : Text.cut (· == '/') name = [name] :=
    Text.cut_of_forall_not fun c hc => by simpa using fun e : c = '/' => h.noSlash (e ▸ hc)
  have hne : String.ofList name ≠ "" := by simpa using h.name_ne_nil
  obtain hlead | ⟨before, hlead⟩ := h.lead_slash
  · simp [Files.steps, h.split, hlead, hname, hne, Text.cut]
  · have hcut (rest : List Char) := Text.cut_append_cons (p := (· == '/')) (c := '/') rfl before rest
    simp [Files.steps, h.split, hlead, hcut, hname, hne, Text.cut]

theorem startsWith_iff (h : EndsIn path lead name) : path.startsWith "/" = true ↔ lead.head? = some '/' := by
  rw [String.startsWith_string_iff, h.split]
  cases lead with
  | nil =>
    have hprefix : ¬"/".toList <+: name := fun hp => h.noSlash (hp.subset (by simp))
    simpa using hprefix
  | cons c rest => simp [eq_comm]

/-- Paths with the same text before the name start from the same directory. -/
theorem origin_eq (h : EndsIn path lead name) (h' : EndsIn path' lead name') (fs : Files) :
    fs.origin path' = fs.origin path := by
  have hstart : path'.startsWith "/" = path.startsWith "/" := by
    rw [Bool.eq_iff_iff, h'.startsWith_iff, h.startsWith_iff]
  rw [Files.origin, Files.origin, hstart]

/-- Where a path leads that ends in a name. -/
theorem place_eq (h : EndsIn path lead name) {fs : Files} {p : FilePlace} (hp : fs.place path = .ok p) :
    (Files.steps (String.ofList lead)).foldlM fs.enter (fs.origin path) = .ok p.directory ∧
      p.last = if String.ofList name = "." then .stay else if String.ofList name = ".." then .back
        else .name (String.ofList name) := by
  unfold Files.place at hp
  split at hp
  · cases hp
  · split at hp
    · cases hp
    · split at hp
      · cases hp
      · rw [h.steps] at hp
        simp only [List.getLast?_concat, List.dropLast_concat] at hp
        cases hd : (Files.steps (String.ofList lead)).foldlM fs.enter (fs.origin path) with
        | error e =>
          rw [hd] at hp
          cases hp
        | ok directory =>
          rw [hd] at hp
          obtain rfl := Except.ok.inj hp
          exact ⟨rfl, rfl⟩

end EndsIn

/-- The two parts that a path is taken apart into at its last slash. -/
theorem endsIn_of_name_ne {path : String} (hname : (path.toList.reverse.takeWhile (· ≠ '/')).reverse ≠ []) :
    EndsIn path (path.toList.reverse.dropWhile (· ≠ '/')).reverse (path.toList.reverse.takeWhile (· ≠ '/')).reverse where
  split := by rw [← List.reverse_append, List.takeWhile_append_dropWhile, List.reverse_reverse]
  lead_slash := by
    cases h : path.toList.reverse.dropWhile (· ≠ '/') with
    | nil => exact Or.inl rfl
    | cons c rest =>
      have hc := List.head?_dropWhile_not (· ≠ '/') path.toList.reverse
      rw [h] at hc
      exact Or.inr ⟨rest.reverse, by simpa using hc⟩
  name_ne_nil := hname
  noSlash := by
    intro h
    simpa using List.mem_takeWhile_imp (List.mem_reverse.mp h)

/-- A path that leads somewhere is not empty, and its place tells whether a slash ends it. -/
theorem place_hasSlash {fs : Files} {path : String} {p : FilePlace} (hp : fs.place path = .ok p) :
    path ≠ "" ∧ p.hasSlash = path.endsWith "/" := by
  unfold Files.place at hp
  split at hp
  · cases hp
  · split at hp
    · cases hp
    · rename_i hne
      split at hp
      · cases hp
      · refine ⟨hne, ?_⟩
        dsimp only at hp
        split at hp
        · obtain rfl := Except.ok.inj hp
          rfl
        · cases hd : (steps path).dropLast.foldlM fs.enter (fs.origin path) with
          | error e =>
            rw [hd] at hp
            cases hp
          | ok directory =>
            rw [hd] at hp
            obtain rfl := Except.ok.inj hp
            rfl

theorem endsWith_slash_iff (path : String) : path.endsWith "/" = true ↔ path.toList.reverse.head? = some '/' := by
  rw [String.endsWith_eq_endsWith_toSlice, String.Slice.endsWith_string_iff, String.copy_toSlice, List.head?_reverse]
  constructor
  · rintro ⟨before, hbefore⟩
    rw [← hbefore]
    simp
  · intro h
    obtain ⟨before, hbefore⟩ := List.getLast?_eq_some_iff.mp h
    exact ⟨before, by simp [hbefore]⟩

/-- A path that leads to a name, with no slash behind it, ends in that name. -/
theorem exists_endsIn {fs : Files} {path : String} {p : FilePlace} {name : String} (hp : fs.place path = .ok p)
    (hlast : p.last = .name name) (hslash : p.hasSlash = false) :
    ∃ lead, EndsIn path lead name.toList ∧ name ≠ "." ∧ name ≠ ".." := by
  obtain ⟨hne, hends⟩ := place_hasSlash hp
  have hname : (path.toList.reverse.takeWhile (· ≠ '/')).reverse ≠ [] := by
    have hhead : path.toList.reverse.head? ≠ some '/' := by
      rw [ne_eq, ← endsWith_slash_iff, ← hends, hslash]
      exact Bool.false_ne_true
    cases hrev : path.toList.reverse with
    | nil => exact absurd (by simpa using hrev) hne
    | cons c rest =>
      rw [hrev] at hhead
      have hc : c ≠ '/' := by simpa using hhead
      simp [hc]
  have h := endsIn_of_name_ne hname
  have hl := (h.place_eq hp).2
  rw [hlast] at hl
  split at hl
  · cases hl
  · split at hl
    · cases hl
    · obtain rfl := LastStep.name.inj hl
      exact ⟨_, by simpa only [String.toList_ofList] using h, by assumption, by assumption⟩

/-! ## Siblings -/

namespace EndsIn

variable {path path' : String} {lead name : List Char}

theorem dropStays_reverse (h : EndsIn path lead name) (hstay : name ≠ ['.']) :
    dropStays path.toList.reverse = path.toList.reverse := by
  have hslash : ∀ c ∈ name.reverse, c ≠ '/' := fun c hc e => h.noSlash (e ▸ List.mem_reverse.mp hc)
  have hne : name.reverse ≠ [] := by simpa using h.name_ne_nil
  have hdot : name.reverse ≠ ['.'] := fun e => hstay (by simpa using congrArg List.reverse e)
  rw [h.split, List.reverse_append]
  generalize name.reverse = eman at *
  cases eman with
  | nil => exact absurd rfl hne
  | cons c more =>
    unfold dropStays
    split
    · rename_i heq
      exact absurd (List.cons.inj heq).1 (hslash c List.mem_cons_self)
    · rename_i heq
      obtain ⟨rfl, hmore⟩ := List.cons.inj heq
      cases more with
      | nil => exact absurd rfl hdot
      | cons d more => exact absurd (List.cons.inj hmore).1 (hslash d (by simp))
    · rfl

theorem takeWhile_reverse (h : EndsIn path lead name) :
    (path.toList.reverse.takeWhile (· ≠ '/')).reverse = name := by
  have hname : ∀ c ∈ name.reverse, decide (c ≠ '/') = true := fun c hc =>
    decide_eq_true fun e => h.noSlash (e ▸ List.mem_reverse.mp hc)
  have hlead : lead.reverse.takeWhile (· ≠ '/') = [] := by
    obtain rfl | ⟨before, rfl⟩ := h.lead_slash <;> simp
  rw [h.split, List.reverse_append, List.takeWhile_append_of_pos hname, hlead, List.append_nil, List.reverse_reverse]

/-- The path with another extension has another name after the same text. -/
theorem withExtension (h : EndsIn path lead name) (hstay : name ≠ ['.']) (hback : name ≠ ['.', '.']) {ext : String}
    (hext : '/' ∉ ext.toList) :
    EndsIn (withExtension path ext) lead (name.take (stemLength name) ++ '.' :: ext.toList) := by
  have hsplit : (WeatherRelay.withExtension path ext).toList = lead ++ (name.take (stemLength name) ++ '.' :: ext.toList) := by
    have hlead : path.toList.take (path.toList.length - name.length) = lead := by simp [h.split]
    unfold WeatherRelay.withExtension
    simp only [h.dropStays_reverse hstay, List.reverse_reverse, h.takeWhile_reverse]
    rw [if_neg (by simp [h.name_ne_nil, hstay, hback]), hlead]
    simp
  refine ⟨hsplit, h.lead_slash, by simp, ?_⟩
  simp only [List.mem_append, List.mem_cons, not_or]
  exact ⟨fun hmem => h.noSlash (List.mem_of_mem_take hmem), by decide, hext⟩

end EndsIn

/-- The path with another extension leads to another place, unless it is the same path. -/
theorem withExtension_path_ne {fs : Files} {path ext name name' : String} {p q : FilePlace} (hext : '/' ∉ ext.toList)
    (hp : fs.place path = .ok p) (hlast : p.last = .name name) (hslash : p.hasSlash = false)
    (hq : fs.place (withExtension path ext) = .ok q) (hlast' : q.last = .name name') (hne : withExtension path ext ≠ path) :
    p.path ≠ q.path := by
  obtain ⟨lead, h, hstay, hback⟩ := exists_endsIn hp hlast hslash
  have h' := h.withExtension (by simpa [← String.toList_inj] using hstay) (by simpa [← String.toList_inj] using hback) hext
  obtain ⟨hdirectory, -⟩ := h.place_eq hp
  obtain ⟨hdirectory', hl⟩ := h'.place_eq hq
  rw [h.origin_eq h', hdirectory] at hdirectory'
  have hsame : p.directory = q.directory := Except.ok.inj hdirectory'
  have hname' : name' = String.ofList (name.toList.take (stemLength name.toList) ++ '.' :: ext.toList) := by
    rw [hlast'] at hl
    split at hl
    · cases hl
    · split at hl
      · cases hl
      · exact LastStep.name.inj hl
  intro hpath
  rw [FilePlace.path, FilePlace.path, hlast, hlast', hsame] at hpath
  have hnames : name = name' := by simpa using hpath
  refine hne (String.toList_inj.mp ?_)
  rw [h'.split, h.split, ← String.toList_ofList (l := name.toList.take _ ++ _), ← hname', hnames]

/-! ## What stands at a path -/

/-- What stands at a path, if anything does and the path leads there. -/
def standing? (fs : Files) (path : String) : Option FileNode := (fs.lookUp path).toOption

/-- A file that is put somewhere makes no directory. -/
theorem keepsDirectories_of_put {fs : Files} {q : List String} (hq : fs.node? q ≠ some .directory) (content : ByteArray) :
    KeepsDirectories (fs.put q (.file content)) fs := by
  have hroot : q ≠ [] := by
    rintro rfl
    exact hq rfl
  refine ⟨rfl, fun r hr => ?_⟩
  by_cases hrq : r = q
  · rw [hrq, node?_put_self fs hroot] at hr
    cases hr
  · rwa [node?_put_of_ne fs hrq] at hr

/-- A file that is put where a path does not lead does not show in what stands at the path. Nor does it where the path
leads there with a slash behind it, as such a path is none of a file. -/
theorem standing?_put {fs : Files} {q : List String} (hq : fs.node? q ≠ some .directory) (content : ByteArray)
    {path : String} (hother : ∀ p name, fs.place path = .ok p → p.last = .name name → p.hasSlash = false → p.path ≠ q) :
    (fs.put q (.file content)).standing? path = fs.standing? path := by
  have hroot : q ≠ [] := by
    rintro rfl
    exact hq rfl
  have hkeeps := keepsDirectories_put hq (.file content)
  have hkept := keepsDirectories_of_put hq content
  unfold standing? lookUp
  cases hp : fs.place path with
  | error e =>
    cases hp' : (fs.put q (.file content)).place path with
    | error e' => rfl
    | ok p =>
      rw [hkept.place hp'] at hp
      cases hp
  | ok p =>
    rw [hkeeps.place hp]
    have hnode (hne : p.path ≠ q) : (fs.put q (.file content)).nodeAt p = fs.nodeAt p := by
      simp only [nodeAt, node?_put_of_ne fs hne]
    by_cases hne : p.path = q
    · cases hlast : p.last with
      | back => simp only [Except.bind, nodeAt, hlast]
      | stay => simp only [Except.bind, nodeAt, hlast]
      | name name =>
        have hslash : p.hasSlash = true := by
          by_contra hslash
          exact hother p name hp hlast (by simpa using hslash) hne
        by_cases hlong : longestName < name.utf8ByteSize
        · simp only [Except.bind, nodeAt, hlast, if_pos hlong]
        · simp only [Except.bind, nodeAt, hlast, if_neg hlong, hne, node?_put_self fs hroot, hslash, if_true]
          cases hold : fs.node? q with
          | none => rfl
          | some old =>
            cases old with
            | directory => exact absurd hold hq
            | file _ => rfl
    · simp only [Except.bind, hnode hne]

/-- What is written to a path is what the path holds. -/
theorem lookUp_of_write {fs fs' : Files} {path : String} {content : ByteArray} (h : fs.write path content = .ok fs') :
    fs'.lookUp path = .ok (.file content) := by
  obtain ⟨p, hp, rfl⟩ := write_eq_ok h
  have hself := node?_put_self fs hp.path_ne_nil (.file content)
  exact (hp.keeps (keepsDirectories_put hp.noDirectory _) (by rw [hself]; simp)).lookUp hself

/-- A file that is there can be written. -/
theorem exists_write_of_lookUp {fs : Files} {path : String} {old : ByteArray} (h : fs.lookUp path = .ok (.file old))
    (content : ByteArray) : ∃ fs', fs.write path content = .ok fs' := by
  unfold lookUp at h
  unfold write openFile
  cases hp : fs.place path with
  | error e => simp [hp, Except.bind] at h
  | ok p =>
    cases hn : fs.nodeAt p with
    | error e => simp [hp, hn, Except.bind] at h
    | ok node =>
      cases hslash : p.hasSlash with
      | true => rcases node with _ | ⟨_ | _⟩ <;> simp [hp, hn, hslash, Except.bind] at h
      | false =>
        rcases node with _ | ⟨_ | _⟩
        · simp [hp, hn, Except.bind] at h
        · simp [hp, hn, Except.bind] at h
        · exact ⟨_, by simp [Except.bind, hn, hslash, Except.map]; rfl⟩

end Files

end WeatherRelay
