import WeatherRelay.Yaml.Token

/-!
# YAML nodes

Tokens become one document: a tree of scalars, sequences, mappings and aliases, with the nodes that were given an
anchor. The collections that are still open are kept in a stack.
-/

namespace WeatherRelay.Yaml

/-- A node. An alias holds the number of an anchor; an empty text has no node at all, which is `absent`. -/
inductive Node where
  | scalar (text : String) (style : Style) (tag : Option String)
  | sequence (items : List Node)
  | mapping (pairs : List (Node × Node))
  | alias (number : Nat)
  | absent

/-- A node without text, which stands where nothing is written. -/
def Node.empty : Node := .scalar "" .plain none

/-- The names of anchors. A name gets as its number how many names were known before it; a name given again takes the
number that the next new name would get. -/
structure Anchors where
  names : List (String × Nat) := []
  given : Nat := 0

/-- Gives a name to a node; the second number tells in which order nodes were named. -/
def Anchors.give (a : Anchors) (name : String) : (Nat × Nat) × Anchors :=
  let number := a.names.length
  ((number, a.given), ⟨(name, number) :: a.names.filter (·.1 != name), a.given + 1⟩)

/-- The number of a name. -/
def Anchors.number? (a : Anchors) (name : String) : Option Nat := (a.names.find? (·.1 == name)).map (·.2)

/-- A document: its node, and the nodes with anchors, each with its number and with the order of its naming. -/
structure Document where
  root : Node
  anchored : List ((Nat × Nat) × Node) := []

/-- The node that an alias stands for: of several nodes with its number the one that was named last. -/
def Document.target? (d : Document) (number : Nat) : Option Node :=
  (d.anchored.foldl (fun (best : Option ((Nat × Nat) × Node)) entry =>
    if entry.1.1 ≠ number then best
    else match best with
      | none => some entry
      | some b => if b.1.2 < entry.1.2 then some entry else best) none).map (·.2)

namespace Document

/-- The kinds of collections: block sequences, sequences in a mapping that are not indented, block mappings, sequences
and mappings in brackets, and a single pair in a sequence in brackets. -/
inductive Shape where
  | blockSequence
  | indentless
  | blockMapping
  | flowSequence
  | flowPair
  | flowMapping
deriving DecidableEq

/-- A collection that is still open: its items or pairs so far, last first, the key whose value is awaited, whether that
key was written without a question mark or a colon, whether nothing was read of it yet, and its anchor. -/
structure Frame where
  shape : Shape
  anchor : Option (Nat × Nat)
  items : List Node := []
  pairs : List (Node × Node) := []
  key : Option Node := none
  bare : Bool := false
  first : Bool := true

/-- What is to be done next: to read a node (in block context or not, and whether an indentless sequence may be it), to
go on with the innermost collection, or nothing. -/
inductive Goal where
  | node (block indentless : Bool)
  | resume
  | done

/-- A document that is being read. -/
structure Reader where
  tokens : List Token
  handles : List (String × String) := []
  frames : List Frame := []
  goal : Goal
  anchors : Anchors := {}
  anchored : List ((Nat × Nat) × Node) := []
  root : Node := .absent

namespace Reader

/-- The node that a finished collection makes. -/
def nodeOf (f : Frame) : Node :=
  match f.shape with
  | .blockSequence | .indentless | .flowSequence => .sequence f.items.reverse
  | .blockMapping | .flowPair | .flowMapping => .mapping f.pairs.reverse

/-- Puts a node into the innermost collection: as an item, as a key, or as the value of the key. -/
def put (r : Reader) (n : Node) : Reader :=
  match r.frames with
  | [] => { r with root := n, goal := .done }
  | f :: outer =>
    let f := match f.shape, f.key with
      | .blockSequence, _ | .indentless, _ | .flowSequence, _ => { f with items := n :: f.items }
      | _, none => { f with key := some n }
      | _, some k => { f with pairs := (k, n) :: f.pairs, key := none, bare := false }
    { r with frames := f :: outer, goal := .resume }

/-- Remembers a node with its anchor. -/
def name (r : Reader) (anchor : Option (Nat × Nat)) (n : Node) : Reader :=
  match anchor with
  | none => r
  | some a => { r with anchored := (a, n) :: r.anchored }

/-- Ends the innermost collection. -/
def finish (r : Reader) : Reader :=
  match r.frames with
  | [] => r
  | f :: outer => (({ r with frames := outer }).name f.anchor (nodeOf f)).put (nodeOf f)

/-- Opens a collection. -/
def enter (r : Reader) (shape : Shape) (anchor : Option (Nat × Nat)) : Reader :=
  { r with frames := { shape, anchor } :: r.frames, goal := .resume }

/-- Goes on after a token: an empty node if a token of a certain kind follows, else a node is read. -/
def orEmpty (r : Reader) (stop : Token → Bool) (rest : List Token) (block indentless : Bool) : Reader :=
  let r := { r with tokens := rest }
  if rest.head?.all stop then r.put .empty else { r with goal := .node block indentless }

/-- The anchor and the tag before a node, in either order. -/
def properties : List Token → Option String × Option (String × String) × List Token
  | .anchor a :: .tag h s :: rest => (some a, some (h, s), rest)
  | .tag h s :: .anchor a :: rest => (some a, some (h, s), rest)
  | .anchor a :: rest => (some a, none, rest)
  | .tag h s :: rest => (none, some (h, s), rest)
  | rest => (none, none, rest)

/-- A tag in full. A handle has to be one that is known. -/
def fullTag? (r : Reader) : Option (String × String) → Option (Option String)
  | none => some none
  | some ("", suffix) => some (some suffix)
  | some (handle, suffix) => (r.handles.find? (·.1 == handle)).map fun d => some (d.2 ++ suffix)

/-- Reads a node. -/
def node? (r : Reader) (block indentless : Bool) : Option Reader :=
  match r.tokens with
  | .alias name :: rest => (r.anchors.number? name).map fun n => ({ r with tokens := rest }).put (.alias n)
  | tokens =>
    let (anchor, tag, rest) := properties tokens
    (r.fullTag? tag).bind fun tag =>
      let (number, anchors) := match anchor with
        | none => (none, r.anchors)
        | some name => let (n, a) := r.anchors.give name; (some n, a)
      let r := { r with anchors }
      let leaf (n : Node) (rest : List Token) : Reader := (({ r with tokens := rest }).name number n).put n
      let collection (shape : Shape) (rest : List Token) : Reader := ({ r with tokens := rest }).enter shape number
      match rest with
      | .scalar s style :: rest => some (leaf (.scalar s style tag) rest)
      | .flowSequenceStart :: rest => some (collection .flowSequence rest)
      | .flowMappingStart :: rest => some (collection .flowMapping rest)
      | .blockEntry :: _ =>
        if indentless then some (collection .indentless rest)
        else if anchor.isSome || tag.isSome then some (leaf (.scalar "" .plain tag) rest)
        else none
      | t :: after =>
        if block && t == .blockSequenceStart then some (collection .blockSequence after)
        else if block && t == .blockMappingStart then some (collection .blockMapping after)
        else if anchor.isSome || tag.isSome then some (leaf (.scalar "" .plain tag) rest)
        else none
      | [] => none

/-- Whether a token ends an entry of a block sequence without content. -/
def endsItem : Token → Bool
  | .blockEntry | .blockEnd => true
  | _ => false

/-- Whether a token ends a key or a value of a block mapping without content. -/
def endsPart : Token → Bool
  | .key | .value | .blockEnd => true
  | _ => false

/-- Whether a token ends an entry of a sequence that is not indented. -/
def endsIndentless (t : Token) : Bool := t == .blockEntry || endsPart t

/-- Whether a token ends a part of a pair inside square brackets. -/
def endsPair : Token → Bool
  | .flowEntry | .flowSequenceEnd => true
  | _ => false

/-- Whether a token ends a value inside curly brackets. -/
def endsMember : Token → Bool
  | .flowEntry | .flowMappingEnd => true
  | _ => false

/-- Goes on with a block sequence. -/
def blockSequence? (r : Reader) : Option Reader :=
  match r.tokens with
  | .blockEntry :: rest => some (r.orEmpty endsItem rest true false)
  | .blockEnd :: rest => some ({ r with tokens := rest }).finish
  | _ => none

/-- Goes on with a sequence that is not indented; it ends where no dash follows. -/
def indentless (r : Reader) : Reader :=
  match r.tokens with
  | .blockEntry :: rest => r.orEmpty endsIndentless rest true false
  | _ => r.finish

/-- Goes on with a block mapping. -/
def blockMapping? (r : Reader) (f : Frame) : Option Reader :=
  match f.key, r.tokens with
  | none, .key :: rest => some (r.orEmpty endsPart rest true true)
  | none, .blockEnd :: rest => some ({ r with tokens := rest }).finish
  | none, _ => none
  | some _, .value :: rest => some (r.orEmpty endsPart rest true true)
  | some _, _ => some (r.put .empty)

/-- The tokens after the comma that has to stand before every entry but the first. -/
def afterComma? (f : Frame) : List Token → Option (List Token)
  | .flowEntry :: rest => if f.first then some (.flowEntry :: rest) else some rest
  | tokens => if f.first then some tokens else none

/-- Marks the innermost collection as begun. -/
def begun (r : Reader) : Reader :=
  match r.frames with
  | [] => r
  | f :: outer => { r with frames := { f with first := false } :: outer }

/-- Goes on with a sequence in brackets. -/
def flowSequence? (r : Reader) (f : Frame) : Option Reader :=
  match r.tokens with
  | .flowSequenceEnd :: rest => some ({ r with tokens := rest }).finish
  | tokens => (afterComma? f tokens).map fun tokens =>
    let r := r.begun
    match tokens with
    | .flowSequenceEnd :: rest => ({ r with tokens := rest }).finish
    | .key :: rest => ({ r with tokens := rest }).enter .flowPair none
    | tokens => { r with tokens, goal := .node false false }

/-- Goes on with a pair inside square brackets. Where its key is empty the token after the question mark is passed over. -/
def flowPair (r : Reader) (f : Frame) : Reader :=
  match f.key, f.pairs with
  | none, [] =>
    match r.tokens with
    | t :: rest =>
      if t == .value || endsPair t then ({ r with tokens := rest }).put .empty else { r with goal := .node false false }
    | [] => r.put .empty
  | none, _ => r.finish
  | some _, _ =>
    match r.tokens with
    | .value :: rest => r.orEmpty endsPair rest false false
    | _ => r.put .empty

/-- Goes on with a mapping in brackets. -/
def flowMapping? (r : Reader) (f : Frame) : Option Reader :=
  match f.key with
  | none =>
    match r.tokens with
    | .flowMappingEnd :: rest => some ({ r with tokens := rest }).finish
    | tokens => (afterComma? f tokens).map fun tokens =>
      let r := r.begun
      match tokens with
      | .flowMappingEnd :: rest => ({ r with tokens := rest }).finish
      | .key :: rest => r.orEmpty (fun t => t == .value || endsMember t) rest false false
      | tokens =>
        let frames := match r.frames with
          | [] => []
          | f :: outer => { f with bare := true } :: outer
        { r with tokens, frames, goal := .node false false }
  | some _ =>
    match f.bare, r.tokens with
    | false, .value :: rest => some (r.orEmpty endsMember rest false false)
    | _, _ => some (r.put .empty)

/-- Goes on with the innermost collection. -/
def resume? (r : Reader) : Option Reader :=
  match r.frames with
  | [] => none
  | f :: _ =>
    match f.shape with
    | .blockSequence => r.blockSequence?
    | .indentless => some r.indentless
    | .blockMapping => r.blockMapping? f
    | .flowSequence => r.flowSequence? f
    | .flowPair => some (r.flowPair f)
    | .flowMapping => r.flowMapping? f

/-- Reads on until the node of the document is complete. -/
def run? : Nat → Reader → Option Reader
  | 0, _ => none
  | fuel + 1, r =>
    match r.goal with
    | .done => some r
    | .node block indentless => (r.node? block indentless).bind (run? fuel)
    | .resume => r.resume?.bind (run? fuel)

end Reader

/-- The handles that are known without a directive. -/
def knownHandles : List (String × String) := [("!", "!"), ("!!", "tag:yaml.org,2002:")]

/-- Reads directives: one version at most, which is 1.1 or 1.2, and no handle twice. -/
def directives? : Bool → List (String × String) → List Token → Option (List (String × String) × List Token)
  | seen, handles, .version major minor :: rest =>
    if seen || major ≠ 1 || (minor ≠ 1 && minor ≠ 2) then none else directives? true handles rest
  | seen, handles, .tagDirective handle lead :: rest =>
    if handles.any (·.1 == handle) then none else directives? seen (handles ++ [(handle, lead)]) rest
  | _, handles, tokens => some (handles ++ knownHandles, tokens)

/-- Whether a token stands before or after a document. -/
def isOutside : Token → Bool
  | .version .. | .tagDirective .. | .documentStart | .documentEnd | .streamEnd => true
  | _ => false

/-- Whether nothing but marks of the end is left. -/
def isOver : List Token → Bool
  | .documentEnd :: rest => isOver rest
  | [.streamEnd] => true
  | _ => false

/-- Reads the node of a document. -/
def content? (handles : List (String × String)) (tokens : List Token) : Option Document :=
  (Reader.run? (10 * (tokens.length + 1)) { tokens, handles, goal := .node true false }).bind fun r =>
    if isOver r.tokens then some ⟨r.root, r.anchored⟩ else none

/-- The document of a text, which may hold one at most. -/
def ofTokens? (tokens : List Token) : Option Document :=
  match tokens with
  | [.streamEnd] => some ⟨.absent, []⟩
  | t :: _ =>
    if !isOutside t || t == .documentEnd then content? knownHandles tokens
    else
      (directives? false [] tokens).bind fun (handles, tokens) =>
        match tokens with
        | .documentStart :: rest =>
          if rest.head?.all isOutside then (if isOver rest then some ⟨.empty, []⟩ else none) else content? handles rest
        | _ => none
  | [] => none

/-- The document of a text. -/
def of? (text : String) : Option Document := (tokens? text).bind ofTokens?

end Document

end WeatherRelay.Yaml
