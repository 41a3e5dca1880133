import ImageGate.Yaml.Token

/-!
# YAML documents

A document is a tree of scalars, sequences and mappings. It is read from tokens by descent. Where
the tokens break off or do not fit, every open collection is closed with what it holds by then, and
the document is marked as incomplete: what stands before a fault can be judged before the fault is.
-/

namespace ImageGate.Yaml

/-- A node of a document. Aliases are replaced by the nodes they stand for. -/
inductive Node where
  | scalar (tag : Option String) (style : Style) (text : String)
  | seq (tag : Option String) (items : List Node)
  | map (tag : Option String) (entries : List (Node × Node))
  /-- No node: the text breaks off here, or a node would contain itself. -/
  | broken
deriving Repr, Inhabited

/-- The scalar that stands where nothing is written. -/
def Node.nothing : Node :=
  .scalar none .plain ""

structure Document where
  /-- The root; a text without any node has none. -/
  root : Option Node
  /-- Nothing is wrong with the text. -/
  complete : Bool

/-! ## State -/

/-- What is known while a document is read. -/
structure Build where
  rest : List Token
  /-- The anchored nodes in the order of their anchors; a node that is still being read has no
  value. -/
  anchors : Array (List Char × Option Node) := #[]
  /-- What tag handles stand for. -/
  prefixes : List (List Char × List Char) := []
  /-- No fault so far. -/
  sound : Bool := true

namespace Build

def fail (b : Build) : Node × Build :=
  (.broken, { b with sound := false })

def skip (b : Build) : Build :=
  { b with rest := b.rest.drop 1 }

/-- Declare an anchor whose node is about to be read; gives its number. -/
def declare (b : Build) (anchor : Option (List Char)) : Build × Nat :=
  match anchor with
  | some name => ({ b with anchors := b.anchors.push (name, none) }, b.anchors.size)
  | none => (b, b.anchors.size)

/-- Give an anchor its node. -/
def define (b : Build) (anchor : Option (List Char)) (number : Nat) (n : Node) : Build :=
  match anchor with
  | some name => { b with anchors := b.anchors.setIfInBounds number (name, some n) }
  | none => b

/-- The latest node with an anchor; `none` if there is no such anchor. -/
def anchored? (b : Build) (name : List Char) : Option Node :=
  (b.anchors.toList.reverse.find? (·.1 == name)).map fun a => a.2.getD .broken

def tagText? (b : Build) (handle suffix : List Char) : Option String :=
  if handle.isEmpty then some (String.ofList suffix)
  else (b.prefixes.find? (·.1 == handle)).map fun p => String.ofList (p.2 ++ suffix)

end Build

/-- Read the anchor and the tag of a node, in either order. `none` if the tag has no meaning. -/
def readProperties (b : Build) : Option (Option (List Char) × Option String × Build) :=
  match b.rest with
  | .anchor a :: .tag h s :: rest => do
    some (some a, some (← b.tagText? h s), { b with rest })
  | .tag h s :: .anchor a :: rest => do
    some (some a, some (← b.tagText? h s), { b with rest })
  | .anchor a :: rest => some (some a, none, { b with rest })
  | .tag h s :: rest => do
    some (none, some (← b.tagText? h s), { b with rest })
  | _ => some (none, none, b)

/-! ## Descent -/

mutual

/-- Read a node. `block` admits block collections, and `indentless` a block sequence that is not
indented. -/
def readNode : Nat → Bool → Bool → Build → Node × Build
  | 0, _, _, b => b.fail
  | fuel + 1, block, indentless, b =>
    match b.rest with
    | .alias name :: _ =>
      match b.anchored? name with
      | some n => (n, b.skip)
      | none => b.fail
    | _ =>
      match readProperties b with
      | none => b.fail
      | some (anchor, tag, b) =>
        let (b, number) := b.declare anchor
        let (n, b) := readContent fuel block indentless (anchor.isSome || tag.isSome) tag b
        (n, b.define anchor number n)

/-- Read what a node consists of behind its anchor and tag. -/
def readContent : Nat → Bool → Bool → Bool → Option String → Build → Node × Build
  | 0, _, _, _, _, b => b.fail
  | fuel + 1, block, indentless, hasProperty, tag, b =>
    let ofSeq (r : List Node × Build) : Node × Build := (.seq tag r.1, r.2)
    let ofMap (r : List (Node × Node) × Build) : Node × Build := (.map tag r.1, r.2)
    match b.rest, block, indentless with
    | .blockEntry :: _, _, true => ofSeq (readBlockItems fuel true b)
    | .scalar style text :: _, _, _ => (.scalar tag style (String.ofList text), b.skip)
    | .flowSeqStart :: _, _, _ => ofSeq (readFlowItems fuel true b.skip)
    | .flowMapStart :: _, _, _ => ofMap (readFlowEntries fuel true b.skip)
    | .blockSeqStart :: _, true, _ => ofSeq (readBlockItems fuel false b.skip)
    | .blockMapStart :: _, true, _ => ofMap (readBlockEntries fuel b.skip)
    | _ :: _, _, _ => if hasProperty then (.scalar tag .plain "", b) else b.fail
    | [], _, _ => b.fail

def readBlockItems : Nat → Bool → Build → List Node × Build
  | 0, _, b => ([], { b with sound := false })
  | fuel + 1, indentless, b =>
    match b.rest with
    | .blockEntry :: next =>
      let b := b.skip
      let (n, b) :=
        match next, indentless with
        | .blockEntry :: _, _ | .blockEnd :: _, _ | .key :: _, true | .value :: _, true =>
          (Node.nothing, b)
        | _, _ => readNode fuel true false b
      if b.sound then
        let (items, b) := readBlockItems fuel indentless b
        (n :: items, b)
      else ([n], b)
    | .blockEnd :: _ => if indentless then ([], b) else ([], b.skip)
    | _ :: _ => ([], if indentless then b else { b with sound := false })
    | [] => ([], { b with sound := false })

def readBlockEntries : Nat → Build → List (Node × Node) × Build
  | 0, b => ([], { b with sound := false })
  | fuel + 1, b =>
    match b.rest with
    | .blockEnd :: _ => ([], b.skip)
    | .key :: _ =>
      let (k, b) := readBlockPart fuel b.skip
      if !b.sound then ([], b)
      else
        let (v, b) :=
          match b.rest with
          | .value :: _ => readBlockPart fuel b.skip
          | [] => b.fail
          | _ => (Node.nothing, b)
        if b.sound then
          let (entries, b) := readBlockEntries fuel b
          ((k, v) :: entries, b)
        else ([(k, v)], b)
    | _ => ([], { b with sound := false })

/-- Read a key or a value of a block mapping, which may be missing. -/
def readBlockPart : Nat → Build → Node × Build
  | 0, b => b.fail
  | fuel + 1, b =>
    match b.rest with
    | .key :: _ | .value :: _ | .blockEnd :: _ => (Node.nothing, b)
    | _ => readNode fuel true true b

/-- Read the items of a flow sequence; a key among them opens a mapping with a single entry. -/
def readFlowItems : Nat → Bool → Build → List Node × Build
  | 0, _, b => ([], { b with sound := false })
  | fuel + 1, first, b =>
    match b.rest with
    | .flowSeqEnd :: _ => ([], b.skip)
    | [] => ([], { b with sound := false })
    | t :: _ =>
      if !first && t != .flowEntry then ([], { b with sound := false })
      else
        let b := if first then b else b.skip
        match b.rest with
        | .flowSeqEnd :: _ => ([], b.skip)
        | .key :: _ =>
          let (k, v, b) := readFlowPair fuel b.skip
          let n := Node.map none [(k, v)]
          if b.sound then
            let (items, b) := readFlowItems fuel false b
            (n :: items, b)
          else ([n], b)
        | _ =>
          let (n, b) := readNode fuel false false b
          if b.sound then
            let (items, b) := readFlowItems fuel false b
            (n :: items, b)
          else ([n], b)

/-- Read the single entry of a mapping in a flow sequence, behind its key marker. -/
def readFlowPair : Nat → Build → Node × Node × Build
  | 0, b => (.broken, .broken, { b with sound := false })
  | fuel + 1, b =>
    let (k, b) :=
      match b.rest with
      | .value :: _ | .flowEntry :: _ | .flowSeqEnd :: _ => (Node.nothing, b.skip)
      | _ => readNode fuel false false b
    if !b.sound then (k, .broken, b)
    else
      match b.rest with
      | .value :: .flowEntry :: _ | .value :: .flowSeqEnd :: _ => (k, Node.nothing, b.skip)
      | .value :: _ =>
        let (v, b) := readNode fuel false false b.skip
        (k, v, b)
      | [] => (k, .broken, { b with sound := false })
      | _ => (k, Node.nothing, b)

def readFlowEntries : Nat → Bool → Build → List (Node × Node) × Build
  | 0, _, b => ([], { b with sound := false })
  | fuel + 1, first, b =>
    match b.rest with
    | .flowMapEnd :: _ => ([], b.skip)
    | [] => ([], { b with sound := false })
    | t :: _ =>
      if !first && t != .flowEntry then ([], { b with sound := false })
      else
        let b := if first then b else b.skip
        match b.rest with
        | .flowMapEnd :: _ => ([], b.skip)
        | .key :: _ =>
          let (k, b) := readFlowPart fuel b.skip
          if !b.sound then ([], b)
          else
            let (v, b) :=
              match b.rest with
              | .value :: _ => readFlowPart fuel b.skip
              | [] => b.fail
              | _ => (Node.nothing, b)
            if b.sound then
              let (entries, b) := readFlowEntries fuel false b
              ((k, v) :: entries, b)
            else ([(k, v)], b)
        | _ =>
          let (k, b) := readNode fuel false false b
          if b.sound then
            let (entries, b) := readFlowEntries fuel false b
            ((k, Node.nothing) :: entries, b)
          else ([], b)

/-- Read a key or a value of a flow mapping, which may be missing. -/
def readFlowPart : Nat → Build → Node × Build
  | 0, b => b.fail
  | fuel + 1, b =>
    match b.rest with
    | .value :: _ | .flowEntry :: _ | .flowMapEnd :: _ => (Node.nothing, b)
    | _ => readNode fuel false false b

end

/-! ## Documents -/

/-- Read the directives in front of a document. `none` if they contradict each other or ask for
another version. -/
def readDirectives : Nat → Bool → List (List Char × List Char) → List Token →
    Option (List (List Char × List Char) × List Token)
  | 0, _, _, _ => none
  | fuel + 1, versioned, prefixes, tokens =>
    match tokens with
    | .version major minor :: rest =>
      if versioned || major != 1 || (minor != 1 && minor != 2) then none
      else readDirectives fuel true prefixes rest
    | .tagPrefix handle expansion :: rest =>
      if prefixes.any (·.1 == handle) then none
      else readDirectives fuel versioned (prefixes ++ [(handle, expansion)]) rest
    | rest => some (prefixes, rest)

/-- The tag handles that need no directive. -/
def defaultPrefixes : List (List Char × List Char) :=
  [(['!'], ['!']), (['!', '!'], "tag:yaml.org,2002:".toList)]

/-- Read the root of a document behind its start marker, if it has one. -/
def readRoot (marked : Bool) (b : Build) : Node × Build :=
  match b.rest, marked with
  | .version _ _ :: _, true | .tagPrefix _ _ :: _, true | .documentStart :: _, true
  | .documentEnd :: _, true | .streamEnd :: _, true => (Node.nothing, b)
  | _, _ => readNode (4 * b.rest.length + 4) true false b

/-- The document that the tokens hold. -/
def documentOf (ts : List Token) : Node × Build :=
  match readDirectives (ts.length + 1) false [] ts with
  | none => ({ rest := [] } : Build).fail
  | some (prefixes, rest) =>
    let b : Build := { rest, prefixes := prefixes ++ defaultPrefixes }
    match rest with
    | .documentStart :: rest => readRoot true { b with rest }
    | _ => if rest.length = ts.length then readRoot false b else b.fail

/-- Read a text that holds a single document. -/
def read (text : List Char) : Document :=
  let (ts, sound) := tokens text
  match ts with
  | [.streamEnd] => { root := none, complete := true }
  | ts =>
    let (n, b) := documentOf ts
    { root := some n
      complete := sound && b.sound && b.rest.dropWhile (· == .documentEnd) == [.streamEnd] }

end ImageGate.Yaml
