import Sift.Yaml.Scan

/-! The documents of a YAML text as trees.

A node is a scalar as it was written, a sequence or a mapping, each with the tag it
may carry. An alias is replaced by the node that its anchor names, so trees have
neither. A node can be left out in many places and stands for an empty plain scalar
then. -/
namespace Sift.Yaml

inductive Node where
  | scalar (tag : Option String) (style : Style) (text : String)
  | sequence (tag : Option String) (items : List Node)
  | mapping (tag : Option String) (members : List (Node × Node))
  deriving Repr, Inhabited

namespace Node

/-- What a node that is left out stands for. -/
def missing : Node := .scalar none .plain ""

mutual

/-- How many collections are nested. -/
def depth : Node → Nat
  | .scalar .. => 0
  | .sequence _ items => depthItems items + 1
  | .mapping _ members => depthMembers members + 1

def depthItems : List Node → Nat
  | [] => 0
  | n :: rest => max n.depth (depthItems rest)

def depthMembers : List (Node × Node) → Nat
  | [] => 0
  | (k, v) :: rest => max (max k.depth v.depth) (depthMembers rest)

end

end Node

/-! ### Properties of nodes -/

/-- What tag handles stand for. -/
abbrev Handles := List (String × String)

def coreTags : String := "tag:yaml.org,2002:"

def defaultHandles : Handles := [("!", "!"), ("!!", coreTags)]

def resolveTag (handles : Handles) (handle suffix : String) : Option String :=
  if handle.isEmpty then some suffix
  else (handles.lookup handle).map (· ++ suffix)

/-- The nodes that anchors name, the last one first. An anchor whose node is still
being read names none. -/
abbrev Anchors := List (String × Option Node)

/-- What stands in front of a node. -/
structure Properties where
  anchor : Option String
  tag : Option String

namespace Properties

/-- The tag of a scalar; a lone exclamation mark is none. -/
def scalarTag (p : Properties) : Option String := p.tag.filter (· != "!")

def isEmpty (p : Properties) : Bool := p.anchor.isNone && p.tag.isNone

/-- The anchor is taken from here on, but its node is not known. -/
def declare (p : Properties) (anchors : Anchors) : Anchors :=
  match p.anchor with
  | some a => (a, none) :: anchors
  | none => anchors

/-- The anchor names `node` from here on. -/
def define (p : Properties) (node : Node) (anchors : Anchors) : Anchors :=
  match p.anchor with
  | some a => (a, some node) :: anchors
  | none => anchors

end Properties

/-- The anchor and the tag of a node, in either order. -/
def properties (handles : Handles) : List Token → Option (Properties × List Token)
  | .anchor a :: .tag h s :: rest | .tag h s :: .anchor a :: rest =>
    (resolveTag handles h s).map fun t => (⟨some a, some t⟩, rest)
  | .anchor a :: rest => some (⟨some a, none⟩, rest)
  | .tag h s :: rest => (resolveTag handles h s).map fun t => (⟨none, some t⟩, rest)
  | ts => some (⟨none, none⟩, ts)

/-! ### Reading nodes

`fuel` bounds the calls; two for each token and two more are enough. -/

/-- Where a node stands decides what may come there: no block collection inside of
a flow collection, and dashes without indentation only below a key. -/
inductive Place where
  | block
  | belowKey
  | flow
  deriving DecidableEq

namespace Token

def isDash : Token → Bool
  | .dash => true
  | _ => false

def isKeyOrValue : Token → Bool
  | .key | .value => true
  | _ => false

def isBlockEnd : Token → Bool
  | .blockEnd => true
  | _ => false

/-- No node stands in front of these in a flow collection. -/
def endsFlow : Token → Bool
  | .comma | .closeSequence | .closeMapping => true
  | _ => false

end Token

/-- A node with what it has named, and the tokens after it. -/
abbrev Parsed (α : Type) := α × Anchors × List Token

/-- A node that may be left out in front of some tokens. -/
def orMissing (ends : Token → Bool) (read : Anchors → List Token → Option (Parsed Node))
    (anchors : Anchors) (ts : List Token) : Option (Parsed Node) :=
  if ts.head?.any ends then some (.missing, anchors, ts) else read anchors ts

/-- The value after a key, if there is one. -/
def valueAfter (ends : Token → Bool) (read : Anchors → List Token → Option (Parsed Node))
    (anchors : Anchors) : List Token → Option (Parsed Node)
  | .value :: rest => orMissing ends read anchors rest
  | ts => some (.missing, anchors, ts)

mutual

/-- The node at the front of the tokens. -/
def readNode (handles : Handles) (place : Place) :
    Nat → Anchors → List Token → Option (Parsed Node)
  | 0, _, _ => none
  | _, anchors, .alias name :: rest => do
    let n ← (anchors.lookup name).join
    some (n, anchors, rest)
  | fuel + 1, anchors, ts => do
    let (p, ts) ← properties handles ts
    let named := p.declare anchors
    let sequence := fun (items : List Node) (anchors : Anchors) (rest : List Token) =>
      let n := Node.sequence p.tag items
      (n, p.define n anchors, rest)
    let mapping := fun (members : List (Node × Node)) (anchors : Anchors) (rest : List Token) =>
      let n := Node.mapping p.tag members
      (n, p.define n anchors, rest)
    match ts with
    | .scalar style text :: rest =>
      let n := Node.scalar p.scalarTag style text
      some (n, p.define n anchors, rest)
    | .openSequence :: rest => do
      let (items, anchors, rest) ← readFlowItems handles true fuel named rest
      some (sequence items anchors rest)
    | .openMapping :: rest => do
      let (members, anchors, rest) ← readFlowMembers handles true fuel named rest
      some (mapping members anchors rest)
    | ts =>
      match place, ts with
      | .belowKey, .dash :: _ => do
        let (items, anchors, rest) ← readBareItems handles fuel named ts
        some (sequence items anchors rest)
      | .belowKey, .blockSequence :: rest | .block, .blockSequence :: rest => do
        let (items, anchors, rest) ← readBlockItems handles fuel named rest
        some (sequence items anchors rest)
      | .belowKey, .blockMapping :: rest | .block, .blockMapping :: rest => do
        let (members, anchors, rest) ← readBlockMembers handles fuel named rest
        some (mapping members anchors rest)
      | _, ts =>
        if p.isEmpty then none
        else
          let n := Node.scalar p.scalarTag .plain ""
          some (n, p.define n anchors, ts)

/-- The items of a block sequence, up to and over its end. -/
def readBlockItems (handles : Handles) : Nat → Anchors → List Token → Option (Parsed (List Node))
  | 0, _, _ => none
  | _, anchors, .blockEnd :: rest => some ([], anchors, rest)
  | fuel + 1, anchors, .dash :: rest => do
    let (item, anchors, rest) ←
      orMissing (fun t => t.isDash || t.isBlockEnd) (readNode handles .block fuel) anchors rest
    let (items, anchors, rest) ← readBlockItems handles fuel anchors rest
    some (item :: items, anchors, rest)
  | _, _, _ => none

/-- The items of a sequence that is not indented further than the key above it. -/
def readBareItems (handles : Handles) : Nat → Anchors → List Token → Option (Parsed (List Node))
  | 0, _, _ => none
  | fuel + 1, anchors, .dash :: rest => do
    let (item, anchors, rest) ←
      orMissing (fun t => t.isDash || t.isKeyOrValue || t.isBlockEnd) (readNode handles .block fuel)
        anchors rest
    let (items, anchors, rest) ← readBareItems handles fuel anchors rest
    some (item :: items, anchors, rest)
  | _, anchors, rest => some ([], anchors, rest)

/-- The members of a block mapping, up to and over its end. -/
def readBlockMembers (handles : Handles) :
    Nat → Anchors → List Token → Option (Parsed (List (Node × Node)))
  | 0, _, _ => none
  | _, anchors, .blockEnd :: rest => some ([], anchors, rest)
  | fuel + 1, anchors, .key :: rest => do
    let ends := fun (t : Token) => t.isKeyOrValue || t.isBlockEnd
    let (key, anchors, rest) ← orMissing ends (readNode handles .belowKey fuel) anchors rest
    let (value, anchors, rest) ← valueAfter ends (readNode handles .belowKey fuel) anchors rest
    let (members, anchors, rest) ← readBlockMembers handles fuel anchors rest
    some ((key, value) :: members, anchors, rest)
  | _, _, _ => none

/-- The items of a flow sequence, up to and over its end. A key makes a mapping with
one member. -/
def readFlowItems (handles : Handles) (first : Bool) :
    Nat → Anchors → List Token → Option (Parsed (List Node))
  | 0, _, _ => none
  | _, anchors, .closeSequence :: rest => some ([], anchors, rest)
  | fuel + 1, anchors, ts => do
    let ts ← if first then some ts else match ts with
      | .comma :: rest => some rest
      | _ => none
    match ts with
    | .closeSequence :: rest => some ([], anchors, rest)
    | .key :: rest =>
      let (key, anchors, rest) ←
        if rest.head?.any fun t => t == .value || t.endsFlow then
          some (.missing, anchors, rest.drop 1)
        else readNode handles .flow fuel anchors rest
      let (value, anchors, rest) ←
        valueAfter Token.endsFlow (readNode handles .flow fuel) anchors rest
      let (items, anchors, rest) ← readFlowItems handles false fuel anchors rest
      some (.mapping none [(key, value)] :: items, anchors, rest)
    | ts =>
      let (item, anchors, rest) ← readNode handles .flow fuel anchors ts
      let (items, anchors, rest) ← readFlowItems handles false fuel anchors rest
      some (item :: items, anchors, rest)

/-- The members of a flow mapping, up to and over its end. -/
def readFlowMembers (handles : Handles) (first : Bool) :
    Nat → Anchors → List Token → Option (Parsed (List (Node × Node)))
  | 0, _, _ => none
  | _, anchors, .closeMapping :: rest => some ([], anchors, rest)
  | fuel + 1, anchors, ts => do
    let ts ← if first then some ts else match ts with
      | .comma :: rest => some rest
      | _ => none
    match ts with
    | .closeMapping :: rest => some ([], anchors, rest)
    | .key :: rest =>
      let (key, anchors, rest) ← orMissing (fun t => t == .value || t.endsFlow)
        (readNode handles .flow fuel) anchors rest
      let (value, anchors, rest) ←
        valueAfter Token.endsFlow (readNode handles .flow fuel) anchors rest
      let (members, anchors, rest) ← readFlowMembers handles false fuel anchors rest
      some ((key, value) :: members, anchors, rest)
    | ts =>
      let (key, anchors, rest) ← readNode handles .flow fuel anchors ts
      let (members, anchors, rest) ← readFlowMembers handles false fuel anchors rest
      some ((key, .missing) :: members, anchors, rest)

end

/-! ### Documents -/

/-- The directives in front of a document: the handles they declare, and the rest.
`versioned` says that the version of the language is given already. -/
def readDirectives (versioned : Bool) (declared : Handles) :
    List Token → Option (Handles × List Token)
  | .directive words :: rest =>
    match words with
    | ["YAML", version] =>
      if versioned || !(["1.1", "1.2"].contains version) then none
      else readDirectives true declared rest
    | ["TAG", handle, start] =>
      if (declared.lookup handle).isSome || !handle.startsWith "!" || !handle.endsWith "!" then none
      else readDirectives versioned ((handle, start) :: declared) rest
    | _ => none
  | ts => some (declared ++ defaultHandles, ts)

/-- The first document may start without a mark. -/
def startsBare : List Token → Bool
  | [] | .documentStart :: _ | .directive _ :: _ => false
  | _ => true

/-- A document is over without a node. -/
def endsDocument : List Token → Bool
  | [] | .documentStart :: _ | .documentEnd :: _ | .directive _ :: _ => true
  | _ => false

def isDocumentEnd : Token → Bool
  | .documentEnd => true
  | _ => false

/-- A node on its own, with the marks that may end its document. -/
def readRoot (handles : Handles) (fuel : Nat) (ts : List Token) :
    Option (Node × List Token) :=
  (readNode handles .block fuel [] ts).map fun (n, _, rest) => (n, rest.dropWhile isDocumentEnd)

/-- The same for a document that has been marked, which may be empty. -/
def readMarkedRoot (handles : Handles) (fuel : Nat) (ts : List Token) :
    Option (Node × List Token) :=
  if endsDocument ts then some (.missing, ts.dropWhile isDocumentEnd)
  else readRoot handles fuel ts

/-- Documents that each start with a mark. -/
def readDocuments : Nat → List Token → Option (List Node)
  | _, [] => some []
  | 0, _ => none
  | fuel + 1, ts => do
    let (handles, ts) ← readDirectives false [] ts
    match ts with
    | .documentStart :: rest =>
      let (n, rest) ← readMarkedRoot handles fuel rest
      let more ← readDocuments fuel rest
      some (n :: more)
    | _ => none

/-- How deep collections may be nested. -/
def depthLimit : Nat := 128

/-- The documents of a text. A text without any stands for one that is empty. -/
def documents? (text : String) : Option (List Node) := do
  let ts ← tokens? text
  let fuel := 2 * ts.length + 2
  let nodes ←
    if startsBare ts then do
      let (n, rest) ← readRoot defaultHandles fuel ts
      let more ← readDocuments fuel rest
      some (n :: more)
    else readDocuments fuel ts
  if nodes.any (depthLimit < ·.depth) then none
  else some (if nodes.isEmpty then [.missing] else nodes)

/-- The document of a text that has no other. -/
def document? (text : String) : Option Node := do
  match ← documents? text with
  | [n] => some n
  | _ => none

end Sift.Yaml
