import SqlBench.Yaml.Token

set_option autoImplicit false

namespace SqlBench.Yaml

inductive Node where
  | scalar (tag : Option String) (text : String) (style : Style)
  | list (tag : Option String) (items : List Node)
  | map (tag : Option String) (entries : List (Node × Node))
  -- An alias of a node; `jumps` is how many aliases are followed to read all of it.
  | shared (jumps : Nat) (target : Node)
  -- An alias of a node around it.
  | endless
  | broken
  deriving Inhabited

namespace Node

def blank : Node := .scalar none "" .plain

mutual

def jumps : Node → Nat
  | .scalar .. => 0
  | .list _ items => jumpsOfItems items
  | .map _ entries => jumpsOfEntries entries
  | .shared n _ => n
  | .endless => 1
  | .broken => 0

def jumpsOfItems : List Node → Nat
  | [] => 0
  | n :: rest => n.jumps + jumpsOfItems rest

def jumpsOfEntries : List (Node × Node) → Nat
  | [] => 0
  | (k, v) :: rest => k.jumps + v.jumps + jumpsOfEntries rest

end

mutual

def size : Node → Nat
  | .list _ items => 2 + sizeOfItems items
  | .map _ entries => 2 + sizeOfEntries entries
  | _ => 1

def sizeOfItems : List Node → Nat
  | [] => 0
  | n :: rest => n.size + sizeOfItems rest

def sizeOfEntries : List (Node × Node) → Nat
  | [] => 0
  | (k, v) :: rest => k.size + v.size + sizeOfEntries rest

end

end Node

-- The tokens ahead, the handles of tags, and the anchored nodes, latest first: none while the node
-- is being read.
structure Reading where
  tokens : List Token
  handles : List (String × String)
  anchors : List (String × Nat)
  nodes : List (Nat × Option Node)

namespace Reading

def drop (r : Reading) (n : Nat) : Reading :=
  { r with tokens := r.tokens.drop n }

def openAnchor (r : Reading) (name : String) : Reading :=
  let number := r.nodes.length
  { r with anchors := (name, number) :: r.anchors, nodes := (number, none) :: r.nodes }

def closeAnchor (r : Reading) (number : Nat) (n : Node) : Reading :=
  { r with nodes := (number, some n) :: r.nodes.filter fun e => e.1 != number }

def follow (r : Reading) (name : String) : Option Node :=
  match r.anchors.lookup name with
  | none => none
  | some number =>
    match r.nodes.lookup number with
    | some (some n) => some (.shared (n.jumps + 1) n)
    | _ => some .endless

def resolveTag (r : Reading) (handle suffix : String) : Option String :=
  if handle.isEmpty then some suffix
  else
    match r.handles.lookup handle with
    | some target => some (target ++ suffix)
    | none =>
      if handle == "!" then some ("!" ++ suffix)
      else if handle == "!!" then some ("tag:yaml.org,2002:" ++ suffix)
      else none

-- The anchor and the tag before a node, in any order: their names and the tokens behind. A tag with
-- an unknown handle is a fault.
def properties (r : Reading) : Option (Option String × Option String × Reading) :=
  match r.tokens with
  | .anchor name :: .tag handle suffix :: _ =>
    (r.resolveTag handle suffix).map fun t => (some name, some t, r.drop 2)
  | .tag handle suffix :: .anchor name :: _ =>
    (r.resolveTag handle suffix).map fun t => (some name, some t, r.drop 2)
  | .anchor name :: _ => some (some name, none, r.drop 1)
  | .tag handle suffix :: _ =>
    (r.resolveTag handle suffix).map fun t => (none, some t, r.drop 1)
  | _ => some (none, none, r)

def settle (anchor : Option String) (number : Nat) (result : Node × Option Reading) :
    Node × Option Reading :=
  match anchor, result with
  | some _, (n, some r) => (n, some (r.closeAnchor number n))
  | _, result => result

end Reading

mutual

-- Reads a node. `block` tells whether indented collections may stand here, and `dashes` whether
-- items may stand at the indentation of their key. Without a rest the tokens broke off.
def readNode : Nat → Bool → Bool → Reading → Node × Option Reading
  | 0, _, _, _ => (.broken, none)
  | fuel + 1, block, dashes, r =>
    match r.tokens with
    | .alias name :: _ =>
      match r.follow name with
      | some n => (n, some (r.drop 1))
      | none => (.broken, none)
    | _ =>
      match r.properties with
      | none => (.broken, none)
      | some (anchor, tag, r) =>
        let number := r.nodes.length
        let r :=
          match anchor with
          | some name => r.openAnchor name
          | none => r
        let settle := Reading.settle anchor number
        let listOf (read : List Node × Option Reading) : Node × Option Reading :=
          settle (.list tag read.1, read.2)
        let mapOf (read : List (Node × Node) × Option Reading) : Node × Option Reading :=
          settle (.map tag read.1, read.2)
        match r.tokens with
        | [] => (.broken, none)
        | t :: _ =>
          if dashes && t == .blockEntry then listOf (readDashes fuel r)
          else
            match t with
            | .scalar text style =>
              let tag := tag.filter fun t => t != "!"
              settle (.scalar tag text style, some (r.drop 1))
            | .flowSequenceStart => listOf (readFlowItems fuel true (r.drop 1))
            | .flowMappingStart => mapOf (readFlowEntries fuel true (r.drop 1))
            | t =>
              if block && t == .blockSequenceStart then listOf (readItems fuel (r.drop 1))
              else if block && t == .blockMappingStart then mapOf (readEntries fuel (r.drop 1))
              else if anchor.isSome || tag.isSome then
                settle (.scalar (tag.filter fun t => t != "!") "" .plain, some r)
              else (.broken, none)

def readItems : Nat → Reading → List Node × Option Reading
  | 0, _ => ([.broken], none)
  | fuel + 1, r =>
    match r.tokens with
    | .blockEnd :: _ => ([], some (r.drop 1))
    | .blockEntry :: rest =>
      match rest with
      | .blockEntry :: _ =>
        let (items, r) := readItems fuel (r.drop 1)
        (.blank :: items, r)
      | .blockEnd :: _ =>
        let (items, r) := readItems fuel (r.drop 1)
        (.blank :: items, r)
      | _ =>
        match readNode fuel true false (r.drop 1) with
        | (n, none) => ([n], none)
        | (n, some r) =>
          let (items, r) := readItems fuel r
          (n :: items, r)
    | _ => ([.broken], none)

def readDashes : Nat → Reading → List Node × Option Reading
  | 0, _ => ([.broken], none)
  | fuel + 1, r =>
    match r.tokens with
    | [] => ([.broken], none)
    | .blockEntry :: rest =>
      let isBlank :=
        match rest with
        | .blockEntry :: _ => true
        | .key :: _ => true
        | .value :: _ => true
        | .blockEnd :: _ => true
        | _ => false
      if isBlank then
        let (items, r) := readDashes fuel (r.drop 1)
        (.blank :: items, r)
      else
        match readNode fuel true false (r.drop 1) with
        | (n, none) => ([n], none)
        | (n, some r) =>
          let (items, r) := readDashes fuel r
          (n :: items, r)
    | _ => ([], some r)

def readSide : Nat → Reading → Node × Option Reading
  | 0, _ => (.broken, none)
  | fuel + 1, r =>
    match r.tokens with
    | .key :: _ => (.blank, some r)
    | .value :: _ => (.blank, some r)
    | .blockEnd :: _ => (.blank, some r)
    | _ => readNode fuel true true r

def readValue : Nat → Reading → Node × Option Reading
  | 0, _ => (.broken, none)
  | fuel + 1, r =>
    match r.tokens with
    | [] => (.broken, none)
    | .value :: _ => readSide fuel (r.drop 1)
    | _ => (.blank, some r)

def readEntries : Nat → Reading → List (Node × Node) × Option Reading
  | 0, _ => ([(.broken, .broken)], none)
  | fuel + 1, r =>
    match r.tokens with
    | .blockEnd :: _ => ([], some (r.drop 1))
    | .key :: _ =>
      match readSide fuel (r.drop 1) with
      | (k, none) => ([(k, .broken)], none)
      | (k, some r) =>
        match readValue fuel r with
        | (v, none) => ([(k, v)], none)
        | (v, some r) =>
          let (entries, r) := readEntries fuel r
          ((k, v) :: entries, r)
    | .value :: _ => ([(.broken, .broken)], none)
    | _ => ([(.broken, .broken)], none)

def readFlowItems : Nat → Bool → Reading → List Node × Option Reading
  | 0, _, _ => ([.broken], none)
  | fuel + 1, first, r =>
    match r.tokens with
    | .flowSequenceEnd :: _ => ([], some (r.drop 1))
    | t :: _ =>
      if !first && t != .flowEntry then ([.broken], none)
      else
        let r := if first then r else r.drop 1
        match r.tokens with
        | [] => ([.broken], none)
        | .flowSequenceEnd :: _ => ([], some (r.drop 1))
        | .key :: _ =>
          match readPair fuel (r.drop 1) with
          | (n, none) => ([n], none)
          | (n, some r) =>
            let (items, r) := readFlowItems fuel false r
            (n :: items, r)
        | _ =>
          match readNode fuel false false r with
          | (n, none) => ([n], none)
          | (n, some r) =>
            let (items, r) := readFlowItems fuel false r
            (n :: items, r)
    | [] => ([.broken], none)

def readPair : Nat → Reading → Node × Option Reading
  | 0, _ => (.broken, none)
  | fuel + 1, r =>
    let (k, afterKey) : Node × Option Reading :=
      match r.tokens with
      | [] => (.broken, none)
      | .value :: _ => (.blank, some (r.drop 1))
      | .flowEntry :: _ => (.blank, some (r.drop 1))
      | .flowSequenceEnd :: _ => (.blank, some (r.drop 1))
      | _ => readNode fuel false false r
    match afterKey with
    | none => (.map none [(k, .broken)], none)
    | some r =>
      let (v, rest) : Node × Option Reading :=
        match r.tokens with
        | [] => (.broken, none)
        | .value :: more =>
          match more with
          | .flowEntry :: _ => (.blank, some (r.drop 1))
          | .flowSequenceEnd :: _ => (.blank, some (r.drop 1))
          | _ => readNode fuel false false (r.drop 1)
        | _ => (.blank, some r)
      (.map none [(k, v)], rest)

def readFlowEntries : Nat → Bool → Reading → List (Node × Node) × Option Reading
  | 0, _, _ => ([(.broken, .broken)], none)
  | fuel + 1, first, r =>
    match r.tokens with
    | .flowMappingEnd :: _ => ([], some (r.drop 1))
    | t :: _ =>
      if !first && t != .flowEntry then ([(.broken, .broken)], none)
      else
        let r := if first then r else r.drop 1
        match r.tokens with
        | [] => ([(.broken, .broken)], none)
        | .flowMappingEnd :: _ => ([], some (r.drop 1))
        | .key :: _ =>
          let r := r.drop 1
          let (k, afterKey) : Node × Option Reading :=
            match r.tokens with
            | .value :: _ => (.blank, some r)
            | .flowEntry :: _ => (.blank, some r)
            | .flowMappingEnd :: _ => (.blank, some r)
            | _ => readNode fuel false false r
          match afterKey with
          | none => ([(k, .broken)], none)
          | some r =>
            let (v, afterValue) : Node × Option Reading :=
              match r.tokens with
              | [] => (.broken, none)
              | .value :: more =>
                match more with
                | .flowEntry :: _ => (.blank, some (r.drop 1))
                | .flowMappingEnd :: _ => (.blank, some (r.drop 1))
                | _ => readNode fuel false false (r.drop 1)
              | _ => (.blank, some r)
            match afterValue with
            | none => ([(k, v)], none)
            | some r =>
              let (entries, r) := readFlowEntries fuel false r
              ((k, v) :: entries, r)
        | _ =>
          match readNode fuel false false r with
          | (k, none) => ([(k, .broken)], none)
          | (k, some r) =>
            match r.tokens with
            | [] => ([(k, .broken)], none)
            | _ =>
              let (entries, r) := readFlowEntries fuel false r
              ((k, .blank) :: entries, r)
    | [] => ([(.broken, .broken)], none)

end

structure Document where
  root : Node
  isWhole : Bool

namespace Document

def readDirectives : List Token → Bool → List (String × String) →
    Option (List (String × String) × List Token)
  | .versionDirective major minor :: rest, seen, handles =>
    if seen || major != 1 || (minor != 1 && minor != 2) then none
    else readDirectives rest true handles
  | .tagDirective handle target :: rest, seen, handles =>
    if (handles.lookup handle).isSome then none
    else readDirectives rest seen ((handle, target) :: handles)
  | rest, _, handles => some (handles, rest)

def endsStream : List Token → Bool
  | [.streamEnd] => true
  | .documentEnd :: rest => endsStream rest
  | _ => false

def ofTokens (tokens : List Token) (handles : List (String × String)) (isWhole : Bool) :
    Document :=
  match readNode (2 * tokens.length + 2) true false ⟨tokens, handles, [], []⟩ with
  | (root, some r) => ⟨root, isWhole && endsStream r.tokens⟩
  | (root, none) => ⟨root, false⟩

def isBlank : List Token → Bool
  | .versionDirective .. :: _ => true
  | .tagDirective .. :: _ => true
  | .documentStart :: _ => true
  | .documentEnd :: _ => true
  | .streamEnd :: _ => true
  | _ => false

def read (text : String) : Document :=
  let (tokens, isWhole) := scan text
  match tokens with
  | [] => ⟨.broken, false⟩
  | [.streamEnd] => ⟨.blank, isWhole⟩
  | first :: _ =>
    if isBlank tokens && first != .documentEnd then
      match readDirectives tokens false [] with
      | some (handles, .documentStart :: rest) =>
        if isBlank rest then ⟨.blank, isWhole && endsStream rest⟩
        else ofTokens rest handles isWhole
      | _ => ⟨.broken, false⟩
    else ofTokens tokens [] isWhole

end Document

end SqlBench.Yaml
