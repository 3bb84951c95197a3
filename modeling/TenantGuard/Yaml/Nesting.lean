import TenantGuard.Yaml.Layout
import TenantGuard.Yaml.Node

/-!
# From parts to trees

The parts are taken one after another.  Collections that are still open form a
stack; a part either adds to the innermost of them or ends it.  Where a node is
due and the part begins none, an empty scalar takes its place.
-/

namespace TenantGuard.Yaml

/-- A collection that is still open, its last item first.  A mapping holds the
key whose value is due. -/
inductive Frame where
  /-- Entries with dashes, deeper than what they stand in. -/
  | block (properties : Properties) (items : List Node)
  /-- Entries with dashes, as deep as the mapping that they stand in. -/
  | level (properties : Properties) (items : List Node)
  | blockMapping (properties : Properties) (entries : List (Node × Node)) (key : Option Node)
  | bracketSequence (properties : Properties) (items : List Node)
  | bracketMapping (properties : Properties) (entries : List (Node × Node)) (key : Option Node)
  /-- A key in curly brackets that is not announced and has no value. -/
  | bareKey
  /-- A single entry of a mapping in square brackets. -/
  | pair (key : Option Node)

inductive Due where
  /-- A node, of which the properties may have been read. -/
  | node (properties : Properties)
  /-- In brackets: an item or the closing bracket. -/
  | item
  /-- What separates or ends: a dash, a key, a colon, a comma or an end. -/
  | sign
  deriving Inhabited

/-- A document as far as its parts have been taken. -/
structure Nesting where
  handles : List (String × String)
  /-- The open collections, innermost first. -/
  frames : List Frame := []
  due : Due := .node {}
  root : Option Node := none
  anchors : List (String × Nat) := []

namespace Frame

def admitsBlocks : Frame → Bool
  | .block .. | .level .. | .blockMapping .. => true
  | .bracketSequence .. | .bracketMapping .. | .bareKey | .pair .. => false

def admitsLevel : Frame → Bool
  | .blockMapping .. => true
  | _ => false

end Frame

namespace Nesting

/-- Hand a finished node to the innermost collection, or make it the root. -/
def deliverTo (node : Node) : List Frame → List Frame × Option Node
  | [] => ([], some node)
  | .block properties items :: rest => (.block properties (node :: items) :: rest, none)
  | .level properties items :: rest => (.level properties (node :: items) :: rest, none)
  | .blockMapping properties entries none :: rest =>
      (.blockMapping properties entries (some node) :: rest, none)
  | .blockMapping properties entries (some key) :: rest =>
      (.blockMapping properties ((key, node) :: entries) none :: rest, none)
  | .bracketSequence properties items :: rest =>
      (.bracketSequence properties (node :: items) :: rest, none)
  | .bracketMapping properties entries none :: rest =>
      (.bracketMapping properties entries (some node) :: rest, none)
  | .bracketMapping properties entries (some key) :: rest =>
      (.bracketMapping properties ((key, node) :: entries) none :: rest, none)
  | .bareKey :: .bracketMapping properties entries _ :: rest =>
      (.bracketMapping properties ((node, Node.empty {}) :: entries) none :: rest, none)
  | .bareKey :: rest => (rest, none)
  | .pair none :: rest => (.pair (some node) :: rest, none)
  | .pair (some key) :: rest => deliverTo (.mapping {} [(key, node)]) rest

def deliver (node : Node) (nesting : Nesting) : Nesting :=
  let (frames, root) := deliverTo node nesting.frames
  { nesting with frames, due := .sign, root := nesting.root <|> root }

def push (frame : Frame) (due : Due) (nesting : Nesting) : Nesting :=
  { nesting with frames := frame :: nesting.frames, due }

def close (node : Node) (nesting : Nesting) : Nesting :=
  { nesting with frames := nesting.frames.tail }.deliver node

/-- Whether a part is the first of a node whose properties have been read. -/
def begins (nesting : Nesting) (properties : Properties) : Token → Bool
  | .scalar .. | .openSequence | .openMapping => true
  | .alias _ => properties.anchor.isNone && properties.tag.isNone
  | .anchor _ => properties.anchor.isNone
  | .tag _ => properties.tag.isNone
  | .blockSequence | .blockMapping => nesting.frames.head?.all Frame.admitsBlocks
  | .entry => nesting.frames.head?.any Frame.admitsLevel
  | _ => false

def settleNode (token : Token) (nesting : Nesting) : Nesting :=
  match nesting.due with
  | .node properties =>
      if nesting.begins properties token then nesting
      else nesting.deliver (Node.empty properties)
  | _ => nesting

def settleLevel (token : Token) (nesting : Nesting) : Nesting :=
  match nesting.due, nesting.frames with
  | .sign, .level properties items :: _ =>
      if token = .entry then nesting else nesting.close (.sequence properties items.reverse)
  | _, _ => nesting

def settleValue (token : Token) (nesting : Nesting) : Nesting :=
  match nesting.due, nesting.frames with
  | .sign, .blockMapping _ _ (some _) :: _
  | .sign, .bracketMapping _ _ (some _) :: _
  | .sign, .pair (some _) :: _ =>
      if token = .value then nesting else nesting.deliver (Node.empty {})
  | _, _ => nesting

/-- Let everything end that is not written out and that a part cannot continue:
an empty node, entries as deep as their mapping, a key without a value. -/
def settle (token : Token) (nesting : Nesting) : Nesting :=
  nesting.settleNode token |>.settleLevel token |>.settleValue token

/-- The number of an anchor is how many names are known. -/
def define (name : String) (nesting : Nesting) : Nat × Nesting :=
  let number := nesting.anchors.length
  let others := nesting.anchors.filter fun known => known.1 ≠ name
  (number, { nesting with anchors := (name, number) :: others })

def expand (name : TagName) (nesting : Nesting) : Reading String :=
  if name.handle.isEmpty then .ok name.suffix
  else
    match nesting.handles.lookup name.handle with
    | some stem => .ok (stem ++ name.suffix)
    | none => .error (.unknownHandle name.handle)

/-- The tag of a scalar.  An exclamation mark alone says nothing about it. -/
def scalarTag (properties : Properties) : Properties :=
  if properties.tag = some "!" then { properties with tag := none } else properties

def takeNode (properties : Properties) (token : Token) (nesting : Nesting) :
    Reading Nesting := do
  match token with
  | .anchor name =>
      let (number, nesting) := nesting.define name
      return { nesting with due := .node { properties with anchor := some number } }
  | .tag name =>
      let tag ← nesting.expand name
      return { nesting with due := .node { properties with tag := some tag } }
  | .alias name =>
      match nesting.anchors.lookup name with
      | some number => return nesting.deliver (.alias number)
      | none => .error (.unknownAnchor name)
  | .scalar style text => return nesting.deliver (.scalar (scalarTag properties) style text)
  | .openSequence => return nesting.push (.bracketSequence properties []) .item
  | .openMapping => return nesting.push (.bracketMapping properties [] none) .item
  | .blockSequence => return nesting.push (.block properties []) .sign
  | .blockMapping => return nesting.push (.blockMapping properties [] none) .sign
  | .entry => return nesting.push (.level properties []) (.node {})
  | _ => .error .unexpectedPart

def takeItem (token : Token) (nesting : Nesting) : Reading Nesting :=
  match nesting.frames, token with
  | .bracketSequence properties items :: _, .closeSequence =>
      .ok (nesting.close (.sequence properties items.reverse))
  | .bracketMapping properties entries _ :: _, .closeMapping =>
      .ok (nesting.close (.mapping properties entries.reverse))
  | .bracketSequence .. :: _, .key => .ok (nesting.push (.pair none) (.node {}))
  | .bracketMapping .. :: _, .key => .ok { nesting with due := .node {} }
  | .bracketSequence .. :: _, token =>
      if nesting.begins {} token then takeNode {} token nesting else .error .unexpectedPart
  | .bracketMapping .. :: _, token =>
      let inner := nesting.push .bareKey (.node {})
      if inner.begins {} token then takeNode {} token inner else .error .unexpectedPart
  | _, _ => .error .unexpectedPart

def takeSign (token : Token) (nesting : Nesting) : Reading Nesting :=
  match nesting.frames, token with
  | .block .. :: _, .entry
  | .level .. :: _, .entry
  | .blockMapping _ _ none :: _, .key
  | .blockMapping _ _ (some _) :: _, .value
  | .bracketMapping _ _ (some _) :: _, .value
  | .pair (some _) :: _, .value => .ok { nesting with due := .node {} }
  | .bracketSequence .. :: _, .comma
  | .bracketMapping _ _ none :: _, .comma => .ok { nesting with due := .item }
  | .block properties items :: _, .blockEnd
  | .bracketSequence properties items :: _, .closeSequence =>
      .ok (nesting.close (.sequence properties items.reverse))
  | .blockMapping properties entries none :: _, .blockEnd
  | .bracketMapping properties entries none :: _, .closeMapping =>
      .ok (nesting.close (.mapping properties entries.reverse))
  | _, _ => .error .unexpectedPart

/-- Whether a part stands for the missing key of an entry in square brackets. -/
def standsForKey (nesting : Nesting) (token : Token) : Bool :=
  match nesting.due, nesting.frames with
  | .node ⟨none, none⟩, .pair none :: _ =>
      token = .value || token = .comma || token = .closeSequence
  | _, _ => false

def take (nesting : Nesting) (token : Token) : Reading Nesting :=
  if nesting.standsForKey token then .ok (nesting.deliver (Node.empty {}))
  else
    let nesting := nesting.settle token
    match nesting.due with
    | .node properties => nesting.takeNode properties token
    | .item => nesting.takeItem token
    | .sign => nesting.takeSign token

end Nesting

namespace Document

/-- The handles that need no directive. -/
def usualHandles : List (String × String) :=
  [("!", "!"), ("!!", "tag:yaml.org,2002:")]

def isDirective : Token → Bool
  | .version .. | .handle .. => true
  | _ => false

/-- The handles that directives define, each of which stands once. -/
def handlesOf (directives : List Token) : Reading (List (String × String)) := do
  let versions := directives.filter fun | .version .. => true | _ => false
  let handles := directives.filterMap fun | .handle name stem => some (name, stem) | _ => none
  let known := versions.all fun
    | .version major minor => major = 1 && (minor = 1 || minor = 2)
    | _ => false
  if !known then .error .unknownVersion
  else if versions.length > 1 || !(handles.map Prod.fst).Nodup then .error .repeatedDirective
  else return handles ++ usualHandles

/-- The tree of the parts of one document, which may be followed by markers of
its end. -/
def ofContent (handles : List (String × String)) (content : List Token) :
    Reading Document := do
  let nesting := { handles }
  let inner := content.takeWhile (· ≠ .documentEnd)
  let rest := content.dropWhile (· ≠ .documentEnd)
  let taken ← inner.foldlM Nesting.take nesting
  match (taken.settle .documentEnd).root, (taken.settle .documentEnd).frames with
  | some root, [] =>
      if rest.all (· = .documentEnd) then return ⟨some root⟩ else .error .severalDocuments
  | _, _ => .error .unexpectedPart

/-- The tree of a list of parts.  Directives need a marker behind them, and
without any marker there may be no content at all. -/
def ofTokens (tokens : List Token) : Reading Document := do
  let directives := tokens.takeWhile isDirective
  let handles ← handlesOf directives
  match directives, tokens.dropWhile isDirective with
  | [], [] => return ⟨none⟩
  | _, .documentStart :: content => ofContent handles content
  | [], .documentEnd :: _ => .error .unexpectedPart
  | [], content => ofContent handles content
  | _ :: _, _ => .error .unexpectedPart

def ofText (text : String) : Reading Document := do
  let tokens ← Token.ofText text
  ofTokens tokens

end Document

end TenantGuard.Yaml
