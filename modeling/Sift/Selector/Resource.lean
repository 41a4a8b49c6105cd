import Sift.Condition.Build
import Sift.Selector.Registry
import Sift.Text.Ascii
import Sift.Text.Visible
import Sift.Value.Printer
import Sift.Yaml.Content

/-! Resource files: documents that selectors are loaded from.

A file holds any number of documents. A list counts as the documents in it, and an
empty document as none. Only selectors of a known version are built; one that cannot
be built is reported and does not disturb the others. -/
namespace Sift

structure Resource where
  apiVersion : String
  kind : String
  name : String
  annotations : List (String × String)
  tags : List (String × String)
  spec : Value
  deriving Repr

/-- Why a file cannot be read at all. -/
inductive ReadError where
  | yaml
  /-- A document is not a resource. -/
  | resource
  deriving DecidableEq, Repr

namespace Resource

/-! ### Reading -/

/-- Names with texts; there are none where the entry is left out. -/
def labels? : Option Value → Option (List (String × String))
  | none => some []
  | some (.object members) => members.mapM fun (name, v) => v.text?.map fun s => (name, s)
  | some _ => none

/-- The entries of a record: the members of these names, or in their order the items
of a list that is no longer than them. -/
def entries? (names : List String) : Value → Option (List (Option Value))
  | .object members => some (names.map (Value.member? members))
  | .array items =>
    if items.length ≤ names.length then
      some ((List.range names.length).map fun i => items[i]?)
    else none
  | _ => none

/-- The name, the annotations and the tags of a resource. -/
def metadata? (v : Value) :
    Option (String × List (String × String) × List (String × String)) := do
  match ← entries? ["name", "annotations", "tags"] v with
  | [name, annotations, tags] =>
    let name ← name.bind Value.text?
    let annotations ← labels? annotations
    let tags ← labels? tags
    some (name, annotations, tags)
  | _ => none

def ofValue? (v : Value) : Option Resource := do
  match ← entries? ["apiVersion", "kind", "metadata", "spec"] v with
  | [apiVersion, kind, metadata, spec] =>
    let apiVersion ← apiVersion.bind Value.text?
    let kind ← kind.bind Value.text?
    let (name, annotations, tags) ← metadata.bind metadata?
    some ⟨apiVersion, kind, name, annotations, tags, spec.getD .null⟩
  | _ => none

/-- What a document adds to the resources of a file. -/
def parts : Value → List Value
  | .null => []
  | .array items => items
  | v => [v]

/-- The resources of a file. -/
def parseAll (content : String) : Except ReadError (List Resource) :=
  match (Yaml.documents? content).bind fun nodes => nodes.mapM Yaml.Node.value? with
  | none => .error .yaml
  | some documents =>
    match (documents.flatMap parts).mapM ofValue? with
    | some resources => .ok resources
    | none => .error .resource

/-! ### Selectors -/

def isSelector (r : Resource) : Bool := Text.sameAscii r.kind "Selector"

/-- The versions that can be loaded. -/
def apiVersions : List String :=
  ["github.com/microsoft/PSRule/v1", "github.com/microsoft/PSRule/2025-01-01"]

def isSupported (r : Resource) : Bool := apiVersions.contains r.apiVersion

end Resource

/-- Why a selector has no condition. -/
inductive SpecError where
  | missing
  | notRecord (found : Value)
  /-- A list that does not hold one item. -/
  | length (n : Nat)
  deriving Repr

namespace SpecError

/-- What a value is, and its text. -/
def describe : Value → String
  | .null => "null"
  | .bool b => s!"boolean \x60{(Value.bool b).compact}\x60"
  | .int n => s!"integer \x60{n}\x60"
  | .float x => s!"floating point \x60{(Value.float x).compact}\x60"
  | .text s => "string " ++ Text.visible s
  | .array _ => "sequence"
  | .object _ => "map"

def message : SpecError → String
  | .missing => "missing field \x60if\x60"
  | .notRecord found => s!"invalid type: {describe found}, expected struct SelectorSpec"
  | .length 0 => "invalid length 0, expected struct SelectorSpec with 1 element"
  | .length n => s!"invalid length {n}, expected fewer elements in array"

end SpecError

/-- The condition of a selector, as a document. -/
def Resource.condition (r : Resource) : Except SpecError Value :=
  match r.spec with
  | .object members =>
    match Value.member? members "if" with
    | some condition => .ok condition
    | none => .error .missing
  | .array [condition] => .ok condition
  | .array items => .error (.length items.length)
  | v => .error (.notRecord v)

/-! ### Loading -/

/-- Why a selector was not loaded. -/
inductive LoadError where
  | spec (e : SpecError)
  | build (e : BuildError)
  deriving Repr

def LoadError.message : LoadError → String
  | .spec e => e.message
  | .build e => e.message

structure LoadFailure where
  name : String
  error : LoadError
  deriving Repr

def LoadFailure.message (f : LoadFailure) : String := s!"selector '{f.name}': {f.error.message}"

structure Loaded where
  selectors : List Selector
  failures : List LoadFailure

namespace Loaded

def loadOne (b : Builder) (r : Resource) : Except LoadFailure Selector :=
  match r.condition with
  | .error e => .error ⟨r.name, .spec e⟩
  | .ok document =>
    match b.build document with
    | .ok condition => .ok ⟨r.name, condition⟩
    | .error e => .error ⟨r.name, .build e⟩

def empty : Loaded := ⟨[], []⟩

/-- Goes on with a resource. One that is no selector, or of an unknown version, is passed over. -/
def add (b : Builder) (loaded : Loaded) (r : Resource) : Loaded :=
  if !r.isSelector then loaded
  else if !r.isSupported then loaded
  else
    match loadOne b r with
    | .ok s => { loaded with selectors := loaded.selectors ++ [s] }
    | .error f => { loaded with failures := loaded.failures ++ [f] }

/-- The selectors among some resources. -/
def ofResources (b : Builder) (resources : List Resource) : Loaded :=
  resources.foldl (add b) empty

/-- The selectors of a file. -/
def parse (b : Builder) (content : String) : Except ReadError Loaded :=
  (Resource.parseAll content).map (ofResources b)

end Loaded

/-- Registers the selectors of a file, and tells which ones failed. -/
def SelectorRegistry.load (r : SelectorRegistry) (b : Builder) (content : String) :
    Except ReadError (List LoadFailure) × SelectorRegistry :=
  match Loaded.parse b content with
  | .ok loaded => (.ok loaded.failures, r.registerAll loaded.selectors)
  | .error e => (.error e, r)

end Sift
