import SlashChat.Yaml.Lexer
import SlashChat.Yaml.Node

/-!
# From tokens to a document

Reads the structure that a list of tokens describes.  `Reading.ofText` reads a whole text.  If it is
one well-formed document the reading has no fault; otherwise it has the first one, and the document
up to there.

A fault ends the reading: behind it nothing comes in sight any more, so every collection that is
still open gets `Node.cut` as its last item or key, and is closed.  A node counts as read once the
tokens that decide what it is are there.

Anchors are numbered by how many different names stand in front of them; a name that is set again
therefore takes the number of the next new name, and an alias stands for the latest node with its
name's number.
-/

set_option autoImplicit false

namespace SlashChat.Yaml

/-- A list of tokens that has been read up to a place. -/
structure Parser where
  tokens : List Token
  /-- What is wrong behind these tokens. -/
  stop : Option Fault := none
  /-- The first fault that has been met. -/
  fault : Option Fault := none
  /-- The meanings of tag handles. -/
  handles : List (String × String) := []
  /-- The number of each anchor's name. -/
  slots : List (String × Nat) := []
  /-- The latest definition with each number. -/
  latest : List (Nat × Nat) := []
  /-- How many anchors have been set. -/
  defined : Nat := 0
  /-- The nodes of the definitions, as far as they are complete. -/
  nodes : List (Nat × Node) := []

/-- What a reader sees in front of it. -/
inductive Sight
  | token (token : Token)
  /-- The end of the text. -/
  | finish
  /-- A fault. -/
  | broken
deriving DecidableEq, Repr, Inhabited

/-- Reading with the tokens that are left as state. -/
abbrev Parse := StateM Parser

namespace Parse

/-- The value that a key has in a list of pairs, the front one first. -/
def lookup {α β : Type} [BEq α] (key : α) (pairs : List (α × β)) : Option β :=
  (pairs.find? fun pair => pair.1 == key).map Prod.snd

/-- Meets a fault; only the first counts. -/
def fail (fault : Fault) : Parse Unit :=
  modify fun parser => { parser with fault := parser.fault.or (some fault) }

/-- Meets a fault in place of a node. -/
def failNode (fault : Fault) : Parse Node := do
  fail fault
  return .cut

/-- What comes next. -/
def peek : Parse Sight := do
  let parser ← get
  if parser.fault.isSome then return .broken
  else
    match parser.tokens, parser.stop with
    | token :: _, _ => return .token token
    | [], none => return .finish
    | [], some fault =>
      fail fault
      return .broken

/-- Moves behind the next token. -/
def next : Parse Unit := modify fun parser => { parser with tokens := parser.tokens.drop 1 }

/-- Whether the next token is one of these. -/
def at? (some_ : List Token) : Parse Bool := do
  match ← peek with
  | .token token => return some_.contains token
  | _ => return false

/-- What stands for something that is left out: nothing, unless the text breaks off here. -/
def leftOut : Parse Node := do
  match ← peek with
  | .broken => return .cut
  | _ => return Node.empty

/-- The alias of an anchor with this name, which stands in front of it. -/
def aliasOf (name : String) : Parse Node := do
  match lookup name (← get).slots with
  | some slot => return .alias slot
  | none => failNode .unknownAnchor

/-- Sets an anchor, whose node is still to come. -/
def define (name : String) : Parse Nat := do
  let parser ← get
  let slot := parser.slots.length
  let kept := parser.slots.filter fun pair => pair.1 != name
  set { parser with
    slots := (name, slot) :: kept
    latest := (slot, parser.defined) :: parser.latest
    defined := parser.defined + 1 }
  return parser.defined

/-- Keeps the node of a definition. -/
def complete (definition : Nat) (node : Node) : Parse Unit :=
  modify fun parser => { parser with nodes := (definition, node) :: parser.nodes }

/-- Reads a node for the anchor in front of it, if there is one. -/
def anchored (anchor : Option String) (read : Parse Node) : Parse Node := do
  match anchor with
  | none => read
  | some name =>
    let definition ← define name
    let node ← read
    complete definition node
    return node

/-- The tag that a handle and a suffix make. -/
def tagOf (handle suffix : String) : Parse (Option String) := do
  if handle == "" then return some suffix
  else
    match lookup handle (← get).handles with
    | some meaning => return some (meaning ++ suffix)
    | none =>
      fail .badTag
      return none

/-- Reads a tag, if there is one. -/
def tag? : Parse (Option String) := do
  match ← peek with
  | .token (.tag handle suffix) =>
    next
    tagOf handle suffix
  | _ => return none

/-- Reads an anchor, if there is one. -/
def anchor? : Parse (Option String) := do
  match ← peek with
  | .token (.anchor name) =>
    next
    return some name
  | _ => return none

/-- Reads the anchor and the tag of a node, in either order. -/
def properties : Parse (Option String × Option String) := do
  match ← anchor? with
  | some name => return (some name, ← tag?)
  | none =>
    match ← tag? with
    | some tag => return (← anchor?, some tag)
    | none => return (none, none)

mutual

/-- Reads a node.  Inside brackets no block collection may start; in a mapping a sequence may start
with a dash that is not indented. -/
def node (fuel : Nat) (block loose : Bool) : Parse Node :=
  match fuel with
  | 0 => failNode .exhausted
  | fuel + 1 => do
    match ← peek with
    | .token (.alias name) =>
      next
      aliasOf name
    | _ =>
      let (anchor, tag) ← properties
      content fuel block loose anchor tag

/-- Reads what follows the properties of a node; if there are any, it may be nothing. -/
def content (fuel : Nat) (block loose : Bool) (anchor tag : Option String) : Parse Node :=
  match fuel with
  | 0 => failNode .exhausted
  | fuel + 1 => do
    let nothing : Parse Node :=
      if anchor.isSome || tag.isSome then anchored anchor (return .scalar tag .plain "")
      else failNode .unexpectedToken
    match ← peek with
    | .token (.scalar style text) =>
      next
      anchored anchor (return .scalar tag style text)
    | .token .flowSequence =>
      next
      anchored anchor (return .sequence (← flowItems fuel true))
    | .token .flowMapping =>
      next
      anchored anchor (return .mapping (← flowEntries fuel true))
    | .token .dash =>
      if loose then anchored anchor (return .sequence (← looseItems fuel)) else nothing
    | .token .blockSequence =>
      if block then
        next
        anchored anchor (return .sequence (← blockItems fuel))
      else nothing
    | .token .blockMapping =>
      if block then
        next
        anchored anchor (return .mapping (← blockEntries fuel))
      else nothing
    | .broken => return .cut
    | _ => nothing

/-- Reads a node, or nothing if one of these tokens comes next. -/
def nodeUnless (fuel : Nat) (stops : List Token) (block loose : Bool) : Parse Node :=
  match fuel with
  | 0 => failNode .exhausted
  | fuel + 1 => do if ← at? stops then return Node.empty else node fuel block loose

/-- Reads the entries of a block sequence and its end. -/
def blockItems (fuel : Nat) : Parse (List Node) :=
  match fuel with
  | 0 => return [← failNode .exhausted]
  | fuel + 1 => do
    match ← peek with
    | .token .dash =>
      next
      let item ← nodeUnless fuel [.dash, .blockEnd] true false
      return item :: (← blockItems fuel)
    | .token .blockEnd =>
      next
      return []
    | _ => return [← failNode .unexpectedToken]

/-- Reads the entries of a sequence that is not indented; it ends where its dashes do. -/
def looseItems (fuel : Nat) : Parse (List Node) :=
  match fuel with
  | 0 => return [← failNode .exhausted]
  | fuel + 1 => do
    match ← peek with
    | .token .dash =>
      next
      let item ← nodeUnless fuel [.dash, .key, .value, .blockEnd] true false
      return item :: (← looseItems fuel)
    | .broken => return [.cut]
    | _ => return []

/-- Reads the entries of a block mapping and its end. -/
def blockEntries (fuel : Nat) : Parse (List (Node × Node)) :=
  match fuel with
  | 0 => return [(← failNode .exhausted, .cut)]
  | fuel + 1 => do
    match ← peek with
    | .token .key =>
      next
      let key ← nodeUnless fuel [.key, .value, .blockEnd] true true
      let value ← valueOf fuel [.key, .value, .blockEnd] true
      return (key, value) :: (← blockEntries fuel)
    | .token .blockEnd =>
      next
      return []
    | _ => return [(← failNode .unexpectedToken, .cut)]

/-- Reads the value of a key, which may be left out; it is nothing if one of these tokens comes
next. -/
def valueOf (fuel : Nat) (stops : List Token) (block : Bool) : Parse Node :=
  match fuel with
  | 0 => failNode .exhausted
  | fuel + 1 => do
    match ← peek with
    | .token .value =>
      next
      nodeUnless fuel stops block block
    | _ => leftOut

/-- Reads the entries of a sequence in brackets and the closing bracket.  An entry may be a single
pair, which stands for a mapping. -/
def flowItems (fuel : Nat) (first : Bool) : Parse (List Node) :=
  match fuel with
  | 0 => return [← failNode .exhausted]
  | fuel + 1 => do
    if ← at? [.flowSequenceEnd] then
      next
      return []
    else
      if !first then
        if ← at? [.comma] then next else fail .unexpectedToken
      match ← peek with
      | .token .key =>
        next
        let stops := [.comma, .flowSequenceEnd]
        let key ←
          if ← at? (.value :: stops) then do next; pure Node.empty else node fuel false false
        let value ← valueOf fuel stops false
        let more ← match ← peek with
          | .broken => pure [Node.cutEntry]
          | _ => pure []
        return .mapping ((key, value) :: more) :: (← flowItems fuel false)
      | .token .flowSequenceEnd =>
        next
        return []
      | .broken => return [.cut]
      | _ =>
        let item ← node fuel false false
        return item :: (← flowItems fuel false)

/-- Reads the entries of a mapping in braces and the closing brace.  A key may stand alone. -/
def flowEntries (fuel : Nat) (first : Bool) : Parse (List (Node × Node)) :=
  match fuel with
  | 0 => return [(← failNode .exhausted, .cut)]
  | fuel + 1 => do
    if ← at? [.flowMappingEnd] then
      next
      return []
    else
      if !first then
        if ← at? [.comma] then next else fail .unexpectedToken
      match ← peek with
      | .token .key =>
        next
        let stops := [.comma, .flowMappingEnd]
        let key ← nodeUnless fuel (.value :: stops) false false
        let value ← valueOf fuel stops false
        return (key, value) :: (← flowEntries fuel false)
      | .token .flowMappingEnd =>
        next
        return []
      | .broken => return [Node.cutEntry]
      | _ =>
        let key ← node fuel false false
        let value ← leftOut
        return (key, value) :: (← flowEntries fuel false)

end

/-- The meanings that tag handles have without a directive. -/
def standardHandles : List (String × String) := [("!", "!"), ("!!", "tag:yaml.org,2002:")]

/-- Reads the directives of a document: a version that can be read, at most once, and the meanings
of tag handles, each at most once. -/
def directives (versioned : Bool) : List Token → Parse Unit
  | .version major minor :: rest =>
    if versioned || major != 1 || (minor != 1 && minor != 2) then fail .badDirective
    else do
      next
      directives true rest
  | .tagHandle handle meaning :: rest => do
    if (lookup handle (← get).handles).isSome then fail .badDirective
    else
      modify fun parser => { parser with handles := parser.handles ++ [(handle, meaning)] }
      next
      directives versioned rest
  | _ => modify fun parser => { parser with handles := parser.handles ++ standardHandles }

/-- Reads the root of a document, which a marker opens if directives stand before it. -/
def root (fuel : Nat) : Parse (Option Node) := do
  let tokens := (← get).tokens
  directives false tokens
  match tokens with
  | [] =>
    match ← peek with
    | .broken => return some .cut
    | _ => return none
  | .version .. :: _ | .tagHandle .. :: _ | .documentStart :: _ =>
    if ← at? [.documentStart] then
      next
      match ← peek with
      | .finish | .token (.version ..) | .token (.tagHandle ..) | .token .documentStart
      | .token .documentEnd => return some Node.empty
      | _ => return some (← node fuel true false)
    else return some (← failNode .unexpectedToken)
  | _ => return some (← node fuel true false)

/-- Reads a document and looks for a second one.  Whether a document ends behind its root shows at
the next token; whatever comes behind its end, even a fault, belongs to a second document. -/
def document (fuel : Nat) : Parse (Option Node) := do
  let root ← root fuel
  match ← peek with
  | .broken => return root
  | _ =>
    let parser ← get
    if !(parser.tokens.dropWhile (· == .documentEnd)).isEmpty || parser.stop.isSome then
      fail .secondDocument
    return root

end Parse

/-- What a text describes as far as it can be read, and its first fault. -/
structure Reading where
  document : Document
  fault : Option Fault

namespace Reading

/-- What tokens describe. -/
def ofTokens (lexed : Lexed) : Reading :=
  let fuel := 4 * lexed.tokens.length + 8
  let (root, parser) := (Parse.document fuel).run { tokens := lexed.tokens, stop := lexed.fault }
  { document := {
      root
      target := fun slot =>
        (Parse.lookup slot parser.latest).bind fun definition =>
          Parse.lookup definition parser.nodes }
    fault := parser.fault }

/-- What a text describes. -/
def ofText (text : String) : Reading := ofTokens (tokens text)

end Reading

end SlashChat.Yaml
