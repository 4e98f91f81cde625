import SqlppBench.Json.Value
import SqlppBench.Yaml.Layout

/-! # Nodes of a YAML text

The tokens of a text, put together to a tree. Nodes may be named by anchors and referred to by these
names; what the names mean is settled later, so the type of a reference is a parameter.
-/

namespace SqlppBench.Yaml

/-- The properties of a node. -/
structure Properties (ρ : Type) where
  anchor : Option ρ := none
  tag : Option String := none
deriving Inhabited

/-- A node. -/
inductive Node (ρ : Type) where
  | alias (target : ρ)
  /-- A scalar, and whether it is written plainly. -/
  | scalar (properties : Properties ρ) (text : String) (plain : Bool)
  | sequence (properties : Properties ρ) (items : List (Node ρ))
  | mapping (properties : Properties ρ) (entries : List (Node ρ × Node ρ))

namespace Node

variable {ρ : Type}

/-- The node that stands where nothing is written. -/
def nothing : Node ρ := .scalar {} "" true

/-! ## Tags -/

/-- What the handles of tags stand for. -/
abbrev Handles := List (String × String)

/-- The handles that need no directive. -/
def usualHandles : Handles := [("!", "!"), ("!!", "tag:yaml.org,2002:")]

/-- The tag that a handle and what is behind it stand for. -/
def tagOf (handles : Handles) (handle suffix : String) : Except Fault String :=
  if handle.isEmpty then .ok suffix
  else
    match Members.get? handle handles with
    | some meaning => .ok (meaning ++ suffix)
    | none => .error .grammar

/-- Reads an anchor and a tag, in either order, and neither twice. -/
def properties (handles : Handles) : List Token → Except Fault (Properties String × List Token)
  | .anchor a :: .tag h s :: ts => (tagOf handles h s).map fun t => (⟨some a, some t⟩, ts)
  | .tag h s :: .anchor a :: ts => (tagOf handles h s).map fun t => (⟨some a, some t⟩, ts)
  | .anchor a :: ts => .ok (⟨some a, none⟩, ts)
  | .tag h s :: ts => (tagOf handles h s).map fun t => (⟨none, some t⟩, ts)
  | ts => .ok ({}, ts)

/-- The properties of a scalar. The tag that is just a mark says nothing about one, but forbids to
take it for anything but a string only where it is in quotes. -/
def scalarProperties (p : Properties ρ) : Properties ρ :=
  if p.tag == some "!" then { p with tag := none } else p

/-! ## Grammar -/

/-- Whether no entry of a block sequence stands here. -/
def endsBlockItem : List Token → Bool
  | .blockEntry :: _ | .blockEnd :: _ => true
  | _ => false

/-- Whether no key or value of a block mapping stands here. -/
def endsBlockPart : List Token → Bool
  | .key :: _ | .value :: _ | .blockEnd :: _ => true
  | _ => false

/-- Whether no item of a sequence without indentation stands here. -/
def endsBareItem : List Token → Bool
  | .blockEntry :: _ => true
  | ts => endsBlockPart ts

/-- Whether no key of a flow mapping stands here. -/
def endsFlowKey : List Token → Bool
  | .value :: _ | .flowEntry :: _ | .flowMappingEnd :: _ => true
  | _ => false

/-- Whether no value of a flow mapping stands here. -/
def endsFlowValue : List Token → Bool
  | .flowEntry :: _ | .flowMappingEnd :: _ => true
  | _ => false

/-- Whether no key of a pair within a flow sequence stands here. -/
def endsPairKey : List Token → Bool
  | .value :: _ | .flowEntry :: _ | .flowSequenceEnd :: _ => true
  | _ => false

/-- Whether no value of a pair within a flow sequence stands here. -/
def endsPairValue : List Token → Bool
  | .flowEntry :: _ | .flowSequenceEnd :: _ => true
  | _ => false

/-- The result of reading something from tokens. -/
abbrev Reading (α : Type) := Except Fault (α × List Token)

/-- Goes behind the comma between two items of a flow collection; the first has none before it. -/
def afterComma (first : Bool) : List Token → Except Fault (List Token)
  | .flowEntry :: ts => if first then .ok (.flowEntry :: ts) else .ok ts
  | ts => if first then .ok ts else .error .grammar

mutual

/-- Reads a node: any in a block context, and one without block collections in a flow context. A
sequence whose entries are not indented may only be the value of an entry of a mapping. -/
def read (handles : Handles) (inBlock bare : Bool) (ts : List Token) : Nat → Reading (Node String)
  | 0 => .error .grammar
  | steps + 1 =>
    match ts with
    | .alias name :: ts => .ok (.alias name, ts)
    | _ =>
      match properties handles ts with
      | .error f => .error f
      | .ok (p, ts) =>
        match ts with
        | .scalar text plain :: ts => .ok (.scalar (scalarProperties p) text plain, ts)
        | .flowSequenceStart :: ts =>
          (flowItems handles true ts steps).map fun (items, ts) => (.sequence p items, ts)
        | .flowMappingStart :: ts =>
          (flowEntries handles true ts steps).map fun (entries, ts) => (.mapping p entries, ts)
        | .blockEntry :: _ =>
          if bare then (bareItems handles ts steps).map fun (items, ts) => (.sequence p items, ts)
          else unwritten p ts
        | .blockSequenceStart :: rest =>
          if inBlock then
            (blockItems handles rest steps).map fun (items, ts) => (.sequence p items, ts)
          else unwritten p ts
        | .blockMappingStart :: rest =>
          if inBlock then
            (blockEntries handles rest steps).map fun (entries, ts) => (.mapping p entries, ts)
          else unwritten p ts
        | _ => unwritten p ts
where
  /-- A node of which only the properties are written. -/
  unwritten (p : Properties String) (ts : List Token) : Reading (Node String) :=
    if p.anchor.isNone && p.tag.isNone then .error .grammar
    else .ok (.scalar (scalarProperties p) "" true, ts)

/-- Reads a node, or nothing where one of the tokens stands that `ends` tells. -/
def readUnless (ends : List Token → Bool) (handles : Handles) (inBlock bare : Bool)
    (ts : List Token) : Nat → Reading (Node String)
  | 0 => .error .grammar
  | steps + 1 => if ends ts then .ok (nothing, ts) else read handles inBlock bare ts steps

/-- Reads the entries of a block sequence. -/
def blockItems (handles : Handles) (ts : List Token) : Nat → Reading (List (Node String))
  | 0 => .error .grammar
  | steps + 1 =>
    match ts with
    | .blockEntry :: ts =>
      match readUnless endsBlockItem handles true false ts steps with
      | .error f => .error f
      | .ok (item, ts) => (blockItems handles ts steps).map fun (items, ts) => (item :: items, ts)
    | .blockEnd :: ts => .ok ([], ts)
    | _ => .error .grammar

/-- Reads the entries of a sequence that is not indented. -/
def bareItems (handles : Handles) (ts : List Token) : Nat → Reading (List (Node String))
  | 0 => .error .grammar
  | steps + 1 =>
    match ts with
    | .blockEntry :: ts =>
      match readUnless endsBareItem handles true false ts steps with
      | .error f => .error f
      | .ok (item, ts) => (bareItems handles ts steps).map fun (items, ts) => (item :: items, ts)
    | _ => .ok ([], ts)

/-- Reads the entries of a block mapping. -/
def blockEntries (handles : Handles) (ts : List Token) :
    Nat → Reading (List (Node String × Node String))
  | 0 => .error .grammar
  | steps + 1 =>
    match ts with
    | .key :: ts =>
      match readUnless endsBlockPart handles true true ts steps with
      | .error f => .error f
      | .ok (key, .value :: ts) =>
        match readUnless endsBlockPart handles true true ts steps with
        | .error f => .error f
        | .ok (value, ts) =>
          (blockEntries handles ts steps).map fun (entries, ts) => ((key, value) :: entries, ts)
      | .ok (key, ts) =>
        (blockEntries handles ts steps).map fun (entries, ts) => ((key, nothing) :: entries, ts)
    | .blockEnd :: ts => .ok ([], ts)
    | _ => .error .grammar

/-- Reads the items of a flow sequence. -/
def flowItems (handles : Handles) (first : Bool) (ts : List Token) :
    Nat → Reading (List (Node String))
  | 0 => .error .grammar
  | steps + 1 =>
    match ts with
    | .flowSequenceEnd :: ts => .ok ([], ts)
    | _ =>
      match afterComma first ts with
      | .error f => .error f
      | .ok (.flowSequenceEnd :: ts) => .ok ([], ts)
      | .ok ts =>
        match flowItem handles ts steps with
        | .error f => .error f
        | .ok (item, ts) =>
          (flowItems handles false ts steps).map fun (items, ts) => (item :: items, ts)

/-- Reads an item of a flow sequence, which may be a pair. -/
def flowItem (handles : Handles) (ts : List Token) : Nat → Reading (Node String)
  | 0 => .error .grammar
  | steps + 1 =>
    match ts with
    | .key :: ts =>
      -- where the key is missing, the token in its place is passed over
      let read :=
        if endsPairKey ts then .ok (nothing, ts.tail) else read handles false false ts steps
      match read with
      | .error f => .error f
      | .ok (key, .value :: ts) =>
        (readUnless endsPairValue handles false false ts steps).map fun (value, ts) =>
          (.mapping {} [(key, value)], ts)
      | .ok (key, ts) => .ok (.mapping {} [(key, nothing)], ts)
    | _ => read handles false false ts steps

/-- Reads the entries of a flow mapping. -/
def flowEntries (handles : Handles) (first : Bool) (ts : List Token) :
    Nat → Reading (List (Node String × Node String))
  | 0 => .error .grammar
  | steps + 1 =>
    match ts with
    | .flowMappingEnd :: ts => .ok ([], ts)
    | _ =>
      match afterComma first ts with
      | .error f => .error f
      | .ok (.flowMappingEnd :: ts) => .ok ([], ts)
      | .ok ts =>
        match flowEntry handles ts steps with
        | .error f => .error f
        | .ok (entry, ts) =>
          (flowEntries handles false ts steps).map fun (entries, ts) => (entry :: entries, ts)

/-- Reads an entry of a flow mapping: a key with a value, or a node that is a key without one. -/
def flowEntry (handles : Handles) (ts : List Token) : Nat → Reading (Node String × Node String)
  | 0 => .error .grammar
  | steps + 1 =>
    match ts with
    | .key :: ts =>
      match readUnless endsFlowKey handles false false ts steps with
      | .error f => .error f
      | .ok (key, .value :: ts) =>
        (readUnless endsFlowValue handles false false ts steps).map fun (value, ts) =>
          ((key, value), ts)
      | .ok (key, ts) => .ok ((key, nothing), ts)
    | _ => (read handles false false ts steps).map fun (key, ts) => ((key, nothing), ts)

end

/-! ## Documents -/

/-- Reads the directives before a document: at most one version, which must be known, and no handle
twice. -/
def directives (versionSeen : Bool) (given : Handles) : List Token → Reading Handles
  | .version major minor :: ts =>
    if versionSeen || major != 1 || !(minor == 1 || minor == 2) then .error .grammar
    else directives true given ts
  | .tagHandle handle meaning :: ts =>
    if (Members.get? handle given).isSome then .error .grammar
    else directives versionSeen (given ++ [(handle, meaning)]) ts
  | ts => .ok (given ++ usualHandles, ts)

/-- Whether there is nothing in a document that has begun. -/
def isEmptyDocument : List Token → Bool
  | [] | .version _ _ :: _ | .tagHandle _ _ :: _ | .documentStart :: _ | .documentEnd :: _ => true
  | _ => false

/-- What is enough of steps for the tokens. -/
def enoughSteps (ts : List Token) : Nat :=
  4 * ts.length + 8

/-- Checks that no document follows. -/
def noMore (node : Node String) (ts : List Token) : Except Fault (Node String) :=
  if ts.all (· == .documentEnd) then .ok node else .error .documents

/-- Reads the one document that the tokens make up; no tokens are an empty one. -/
def ofTokens (ts : List Token) : Except Fault (Node String) :=
  match ts with
  | [] => .ok nothing
  | .version _ _ :: _ | .tagHandle _ _ :: _ | .documentStart :: _ =>
    match directives false [] ts with
    | .error f => .error f
    | .ok (handles, .documentStart :: ts) =>
      if isEmptyDocument ts then noMore nothing ts
      else (read handles true false ts (enoughSteps ts)).bind fun (node, ts) => noMore node ts
    | .ok _ => .error .grammar
  | _ =>
    (read usualHandles true false ts (enoughSteps ts)).bind fun (node, ts) => noMore node ts

/-! ## References -/

/-- The numbers of anchors, under their names. -/
abbrev Names := List (String × Nat)

/-- Gives a number to an anchor: how many names there were before it. A name that is given again
leaves their count as it is, so a later anchor may get the same number. -/
def numberAnchor (p : Properties String) (names : Names) : Properties Nat × Names :=
  match p.anchor with
  | none => (⟨none, p.tag⟩, names)
  | some name => (⟨some names.length, p.tag⟩, Members.insert name names.length names)

mutual

/-- Puts numbers in the place of the names, in the order of the text. A reference means the anchor
of its name that was given last. -/
def number : Node String → Names → Except Fault (Node Nat × Names)
  | .alias name, names =>
    match Members.get? name names with
    | some n => .ok (.alias n, names)
    | none => .error .anchor
  | .scalar p text plain, names =>
    let (p, names) := numberAnchor p names
    .ok (.scalar p text plain, names)
  | .sequence p items, names =>
    let (p, names) := numberAnchor p names
    (numberItems items names).map fun (items, names) => (.sequence p items, names)
  | .mapping p entries, names =>
    let (p, names) := numberAnchor p names
    (numberEntries entries names).map fun (entries, names) => (.mapping p entries, names)

/-- Puts numbers in the place of the names in items. -/
def numberItems : List (Node String) → Names → Except Fault (List (Node Nat) × Names)
  | [], names => .ok ([], names)
  | node :: rest, names =>
    match number node names with
    | .error f => .error f
    | .ok (node, names) => (numberItems rest names).map fun (rest, names) => (node :: rest, names)

/-- Puts numbers in the place of the names in entries. -/
def numberEntries :
    List (Node String × Node String) → Names → Except Fault (List (Node Nat × Node Nat) × Names)
  | [], names => .ok ([], names)
  | (key, value) :: rest, names =>
    match number key names with
    | .error f => .error f
    | .ok (key, names) =>
      match number value names with
      | .error f => .error f
      | .ok (value, names) =>
        (numberEntries rest names).map fun (rest, names) => ((key, value) :: rest, names)

end

mutual

/-- The nodes with anchors, with their numbers, in the order of the text. -/
def anchored : Node Nat → List (Nat × Node Nat)
  | .alias _ => []
  | .scalar p text plain => (p.anchor.map fun n => (n, .scalar p text plain)).toList
  | .sequence p items =>
    (p.anchor.map fun n => (n, .sequence p items)).toList ++ anchoredItems items
  | .mapping p entries =>
    (p.anchor.map fun n => (n, .mapping p entries)).toList ++ anchoredEntries entries

/-- The nodes with anchors within items. -/
def anchoredItems : List (Node Nat) → List (Nat × Node Nat)
  | [] => []
  | node :: rest => anchored node ++ anchoredItems rest

/-- The nodes with anchors within entries. -/
def anchoredEntries : List (Node Nat × Node Nat) → List (Nat × Node Nat)
  | [] => []
  | (key, value) :: rest => anchored key ++ anchored value ++ anchoredEntries rest

end

mutual

/-- The number of events that a node is read as: one for a scalar or a reference, and two more than
its parts for a collection. -/
def events : Node ρ → Nat
  | .alias _ => 1
  | .scalar .. => 1
  | .sequence _ items => 2 + itemEvents items
  | .mapping _ entries => 2 + entryEvents entries

/-- The number of events of items. -/
def itemEvents : List (Node ρ) → Nat
  | [] => 0
  | node :: rest => events node + itemEvents rest

/-- The number of events of entries. -/
def entryEvents : List (Node ρ × Node ρ) → Nat
  | [] => 0
  | (key, value) :: rest => events key + events value + entryEvents rest

end

end Node

end SqlppBench.Yaml
