import WeatherRelay.Files

/-!
# What the file operations keep

A write and a rename touch files only, so a path that led somewhere leads there still (`KeepsDirectories`). From this
follows the one fact that saving rests on: what is written beside a file and renamed to it is read back from it.
-/

namespace WeatherRelay

theorem FilePlace.path_ne_nil {p : FilePlace} {s : String} (h : p.last = .name s) : p.path ≠ [] := by
  simp [FilePlace.path, h]

namespace Files

/-! ## Nodes -/

@[simp] theorem node?_put_self (fs : Files) {path : List String} (h : path ≠ []) (n : FileNode) :
    (fs.put path n).node? path = some n := by
  simp [node?, put, h]

@[simp] theorem node?_remove_of_ne (fs : Files) {path q : List String} (h : q ≠ path) :
    (fs.remove path).node? q = fs.node? q := by
  have hfind : (fs.nodes.filter (·.1 != path)).find? (·.1 == q) = fs.nodes.find? (·.1 == q) := by
    rw [List.find?_filter]
    congr 1
    funext x
    by_cases hx : x.1 = q
    · simp [hx, h]
    · simp [hx]
  simp only [node?, remove, hfind]

@[simp] theorem node?_remove_self (fs : Files) {path : List String} (h : path ≠ []) : (fs.remove path).node? path = none := by
  simp [node?, remove, h]

@[simp] theorem node?_put_of_ne (fs : Files) {path q : List String} (h : q ≠ path) (n : FileNode) :
    (fs.put path n).node? q = fs.node? q := by
  have hne : (path == q) = false := by simpa using Ne.symm h
  have hrest := node?_remove_of_ne fs h
  simp only [node?, remove, put, List.find?_cons, hne] at hrest ⊢
  exact hrest

/-! ## Paths -/

/-- That every directory of a tree is one of another. -/
structure KeepsDirectories (fs fs' : Files) : Prop where
  working : fs'.working = fs.working
  directory : ∀ q, fs.node? q = some .directory → fs'.node? q = some .directory

theorem KeepsDirectories.trans {fs fs' fs'' : Files} (h : KeepsDirectories fs fs') (h' : KeepsDirectories fs' fs'') :
    KeepsDirectories fs fs'' :=
  ⟨h'.working.trans h.working, fun q hq => h'.directory q (h.directory q hq)⟩

theorem keepsDirectories_put {fs : Files} {path : List String} (h : fs.node? path ≠ some .directory) (n : FileNode) :
    KeepsDirectories fs (fs.put path n) := by
  refine ⟨rfl, fun q hq => ?_⟩
  have hne : q ≠ path := fun e => h (e ▸ hq)
  rwa [node?_put_of_ne fs hne]

theorem keepsDirectories_remove {fs : Files} {path : List String} (h : fs.node? path ≠ some .directory) :
    KeepsDirectories fs (fs.remove path) := by
  refine ⟨rfl, fun q hq => ?_⟩
  have hne : q ≠ path := fun e => h (e ▸ hq)
  rwa [node?_remove_of_ne fs hne]

/-- A step that led to a directory leads to it still. -/
theorem KeepsDirectories.enter {fs fs' : Files} (h : KeepsDirectories fs fs') {directory next : List String} {step : String}
    (he : fs.enter directory step = .ok next) : fs'.enter directory step = .ok next := by
  unfold Files.enter at he ⊢
  split
  · simpa [*] using he
  · split
    · simpa [*] using he
    · split
      · simp [*] at he
      · rw [if_neg (by assumption), if_neg (by assumption), if_neg (by assumption)] at he
        split at he
        · cases he
        · cases he
        · rename_i hd
          rw [h.directory _ hd]
          exact he

theorem KeepsDirectories.foldlM_enter {fs fs' : Files} (h : KeepsDirectories fs fs') (steps : List String)
    {origin last : List String} (he : steps.foldlM fs.enter origin = .ok last) :
    steps.foldlM fs'.enter origin = .ok last := by
  induction steps generalizing origin with
  | nil => exact he
  | cons step rest ih =>
    rw [List.foldlM_cons] at he ⊢
    cases hs : fs.enter origin step with
    | error e =>
      rw [hs] at he
      cases he
    | ok next =>
      rw [hs] at he
      rw [h.enter hs]
      exact ih he

/-- A text that named a place names it still. -/
theorem KeepsDirectories.place {fs fs' : Files} (h : KeepsDirectories fs fs') {text : String} {p : FilePlace}
    (hp : fs.place text = .ok p) : fs'.place text = .ok p := by
  have horigin : fs'.origin text = fs.origin text := by simp only [origin, h.working]
  unfold Files.place at hp ⊢
  rw [horigin]
  split at hp
  · cases hp
  · split at hp
    · cases hp
    · split at hp
      · cases hp
      · rw [if_neg (by assumption), if_neg (by assumption), if_neg (by assumption)]
        dsimp only at hp ⊢
        split at hp
        · exact hp
        · cases hd : (steps text).dropLast.foldlM fs.enter (fs.origin text) with
          | error e =>
            rw [hd] at hp
            cases hp
          | ok directory =>
            rw [hd] at hp
            rw [h.foldlM_enter _ hd]
            exact hp

/-! ## Files -/

/-- That a text names a file or a place for one: a name in a directory, without a slash behind it,
where no directory stands. -/
structure NamesFile (fs : Files) (text : String) (p : FilePlace) : Prop where
  place : fs.place text = .ok p
  name : ∃ s, p.last = .name s ∧ ¬longestName < s.utf8ByteSize
  noSlash : p.hasSlash = false
  noDirectory : fs.node? p.path ≠ some .directory

theorem NamesFile.path_ne_nil {fs : Files} {text : String} {p : FilePlace} (h : fs.NamesFile text p) : p.path ≠ [] := by
  obtain ⟨s, hs, -⟩ := h.name
  exact FilePlace.path_ne_nil hs

theorem NamesFile.nodeAt {fs : Files} {text : String} {p : FilePlace} (h : fs.NamesFile text p) :
    fs.nodeAt p = .ok (fs.node? p.path) := by
  obtain ⟨s, hs, hlen⟩ := h.name
  simp only [Files.nodeAt, hs, if_neg hlen]

theorem NamesFile.keeps {fs fs' : Files} {text : String} {p : FilePlace} (h : fs.NamesFile text p)
    (hk : KeepsDirectories fs fs') (hd : fs'.node? p.path ≠ some .directory) : fs'.NamesFile text p :=
  ⟨hk.place h.place, h.name, h.noSlash, hd⟩

/-- A file that a text names is found under it. -/
theorem NamesFile.lookUp {fs : Files} {text : String} {p : FilePlace} {content : ByteArray} (h : fs.NamesFile text p)
    (hn : fs.node? p.path = some (.file content)) : fs.lookUp text = .ok (.file content) := by
  simp [Files.lookUp, h.place, h.nodeAt, hn, h.noSlash, Except.bind]

/-- The name of a place that may be written is not too long, and no directory stands there. -/
theorem nodeAt_file_or_none {fs : Files} {p : FilePlace} {old : Option FileNode} (h : fs.nodeAt p = .ok old)
    (hd : old ≠ some .directory) :
    (∃ s, p.last = .name s ∧ ¬longestName < s.utf8ByteSize) ∧ fs.node? p.path = old := by
  unfold Files.nodeAt at h
  split at h
  · rename_i s hs
    split at h
    · cases h
    · rename_i hlen
      exact ⟨⟨s, hs, hlen⟩, Except.ok.inj h⟩
  · exact absurd (Except.ok.inj h).symm hd

/-- What a write that succeeds has done. -/
theorem write_eq_ok {fs fs' : Files} {text : String} {content : ByteArray} (h : fs.write text content = .ok fs') :
    ∃ p, fs.NamesFile text p ∧ fs' = fs.put p.path (.file content) := by
  unfold Files.write openFile at h
  cases hp : fs.place text with
  | error e => simp [hp, Except.bind, Except.map] at h
  | ok p =>
    cases hslash : p.hasSlash with
    | true => simp [hp, hslash, Except.bind, Except.map] at h
    | false =>
      cases hn : fs.nodeAt p with
      | error e => simp [hp, hslash, hn, Except.bind, Except.map] at h
      | ok old =>
        have hold : old ≠ some .directory ∧ fs' = fs.put p.path (.file content) := by
          rcases old with _ | ⟨_ | old⟩ <;> simp_all [Except.bind, Except.map]
        obtain ⟨hname, hnode⟩ := nodeAt_file_or_none hn hold.1
        exact ⟨p, ⟨hp, hname, hslash, hnode ▸ hold.1⟩, hold.2⟩

/-- What a rename that succeeds has done. -/
theorem rename_eq_ok {fs fs' : Files} {source target : String} (h : fs.rename source target = .ok fs') :
    ∃ src dst content, fs.NamesFile source src ∧ fs.NamesFile target dst ∧
      fs.node? src.path = some (.file content) ∧ fs' = (fs.remove src.path).put dst.path (.file content) := by
  unfold Files.rename at h
  cases hsrc : fs.place source with
  | error e => simp [hsrc, Except.bind] at h
  | ok src =>
    cases hdst : fs.place target with
    | error e => simp [hsrc, hdst, Except.bind] at h
    | ok dst =>
      simp only [hsrc, hdst, Except.bind] at h
      split at h
      · cases hn : fs.nodeAt src with
        | error e => simp [hn] at h
        | ok old =>
          rcases old with _ | ⟨_ | content⟩
          · simp [hn] at h
          · simp [hn] at h
          · cases hm : fs.nodeAt dst with
            | error e => simp [hn, hm] at h
            | ok there =>
              simp only [hn, hm] at h
              split at h
              · cases h
              · rename_i hslash
                simp only [not_or, Bool.not_eq_true] at hslash
                have hthere : there ≠ some .directory := by
                  rintro rfl
                  simp at h
                obtain ⟨hname, hnode⟩ := nodeAt_file_or_none hn (by simp)
                obtain ⟨hname', hnode'⟩ := nodeAt_file_or_none hm hthere
                have hfs : fs' = (fs.remove src.path).put dst.path (.file content) := by
                  rcases there with _ | ⟨_ | _⟩ <;> simp_all
                exact ⟨src, dst, content, ⟨hsrc, hname, hslash.1, by simp [hnode]⟩,
                  ⟨hdst, hname', hslash.2, by rwa [hnode']⟩, hnode, hfs⟩
      · cases h

/-- What is written to one path and then renamed to another is what the other holds. -/
theorem lookUp_of_write_rename {fs fs' fs'' : Files} {source target : String} {content : ByteArray}
    (hw : fs.write source content = .ok fs') (hr : fs'.rename source target = .ok fs'') :
    fs''.lookUp target = .ok (.file content) := by
  obtain ⟨p, hp, rfl⟩ := write_eq_ok hw
  obtain ⟨src, dst, content', hsrc, hdst, hnode, rfl⟩ := rename_eq_ok hr
  -- the rename finds the very place that was written
  have hplace : src = p := by
    have h := (keepsDirectories_put hp.noDirectory (.file content)).place hp.place
    rw [hsrc.place] at h
    exact Except.ok.inj h
  have hcontent : content' = content := by
    rw [hplace, node?_put_self fs hp.path_ne_nil] at hnode
    simpa using hnode.symm
  subst hplace hcontent
  have hremove := keepsDirectories_remove hsrc.noDirectory
  have hgone : ((fs.put src.path (.file content')).remove src.path).node? dst.path ≠ some .directory := by
    by_cases hd : dst.path = src.path
    · rw [hd, node?_remove_self _ hsrc.path_ne_nil]
      simp
    · rw [node?_remove_of_ne _ hd]
      exact hdst.noDirectory
  have hself := node?_put_self ((fs.put src.path (.file content')).remove src.path) hdst.path_ne_nil (.file content')
  have hkept := hremove.trans (keepsDirectories_put hgone (.file content'))
  exact (hdst.keeps hkept (by rw [hself]; simp)).lookUp hself

/-- A file of text that a lookup finds is there and can be read. -/
theorem readText_of_lookUp {fs : Files} {path text : String} (h : fs.lookUp path = .ok (.file text.toUTF8)) :
    fs.exists? path = true ∧ fs.readText path = .ok text := by
  have hdecode : String.fromUTF8? text.toUTF8 = some text := by
    rw [String.toUTF8_eq_toByteArray, String.fromUTF8?, dif_pos text.isValidUTF8]
    rfl
  constructor
  · rw [exists?, h]
  · rw [readText, read, h]
    simp only [Except.bind, hdecode]

/-- What can be read is there. -/
theorem exists_of_readText {fs : Files} {path text : String} (h : fs.readText path = .ok text) : fs.exists? path = true := by
  unfold readText read at h
  cases hlook : fs.lookUp path with
  | error e => simp [hlook, Except.bind] at h
  | ok node => simp [exists?, hlook]

end Files

end WeatherRelay
