import SqlppBench.Yaml.Node
import SqlppBench.Yaml.Plain

/-! # From nodes to values

References are replaced by what they refer to, tags and plain scalars get their meaning. Two limits
keep small texts from having huge values: collections are nested at most 128 deep, and references
are followed at most a hundred times for each event of the text.
-/

namespace SqlppBench.Yaml

/-- The number of references that were followed, and what may go wrong. -/
abbrev Loading := StateT Nat (Except Fault)

/-- What is known of a text while its nodes are loaded. -/
structure Anchors where
  /-- The nodes that have anchors, with the numbers of these, in the order of the text. -/
  nodes : List (Nat × Node Nat)
  /-- How many references may be followed. -/
  limit : Nat

/-- The node that a number means: the last one that has it. -/
def Anchors.find? (a : Anchors) (n : Nat) : Option (Node Nat) :=
  ((a.nodes.filter fun (m, _) => m == n).getLast?).map Prod.snd

/-- The node itself, or the one that it refers to. -/
def Anchors.follow (a : Anchors) : Node Nat → Loading (Node Nat)
  | .alias n => do
    let followed := (← get) + 1
    if followed > a.limit then throw .repetition
    set followed
    match a.find? n with
    | some node => return node
    | none => throw .anchor
  | node => return node

namespace Value

/-- The part of a tag that is a name of its own: what is behind the exclamation mark it begins
with. -/
def ownTag? (tag : String) : Option (List Char) :=
  match tag.toList with
  | '!' :: '!' :: c :: name => some (c :: name)
  | '!' :: name => some name
  | _ => none

/-- Puts a tag on a value. A tag that is no name of its own says nothing about a collection. -/
def withTag (tag : Option String) (v : Value) : Except Fault Value :=
  match tag.bind ownTag? with
  | none => .ok v
  | some [] => .error .scalar
  | some name => .ok (.tagged (String.ofList name) v)

/-- The value of a scalar. -/
def ofScalar (tag : Option String) (text : String) (isPlain : Bool) : Except Fault Value :=
  let written := if isPlain then ofPlain text else .ok (.string text)
  match tag with
  | none => written
  | some t =>
    match ownTag? t with
    | some _ => written.bind (withTag tag)
    | none => (ofTyped? t text).getD (.ok (.string text))

/-- Adds an entry to a mapping, if its key is a new one. -/
def addEntry (key value : Loading Value) (entries : List (Value × Value)) :
    Loading (List (Value × Value)) := do
  let key ← key
  if hasKey entries key then throw .duplicateKey
  return entries ++ [(key, ← value)]

/-- The value of a node in which collections are nested at most `depth` deep. -/
def ofNode (a : Anchors) (depth : Nat) (node : Node Nat) : Loading Value := do
  match ← a.follow node, depth with
  | .scalar p text isPlain, _ => ofScalar p.tag text isPlain
  | .sequence p items, inner + 1 => withTag p.tag (.sequence (← items.mapM (ofNode a inner)))
  | .mapping p entries, inner + 1 =>
    let entries ← entries.foldlM
      (fun before (key, value) => addEntry (ofNode a inner key) (ofNode a inner value) before) []
    withTag p.tag (.mapping entries)
  | .alias _, _ => throw .anchor
  | _, 0 => throw .depth

/-- How deep collections may be nested. -/
def depthLimit : Nat := 128

/-- The value of the one document of a text. -/
def ofText (s : String) : Except Fault Value := do
  let (node, _) ← Node.number (← Node.ofTokens (← tokens s)) []
  let a : Anchors := ⟨node.anchored, 100 * node.events⟩
  let (v, _) ← (ofNode a depthLimit node).run 0
  return v

end Value

end SqlppBench.Yaml
