import Curriculum.Yaml.Node
import Curriculum.Yaml.Token

/-! # YAML documents from tokens

A text holds one document of block and flow collections. A node that is missing where one is
expected is void.

The first argument of the readers bounds their steps. Every reader takes a token or leaves the rest
to one that does, and no reader does the latter three times in a row. -/

namespace Curriculum.Yaml

namespace Node

mutual
/-- The node at the start of some tokens, and what follows it. `block` admits blocks. Below a key
the items of a sequence may do without a block of their own, which `hanging` admits. -/
def read : Nat → Bool → Bool → List Token → Option (Node × List Token)
  | 0, _, _, _ => none
  | steps + 1, block, hanging, tokens =>
    match tokens with
    | .scalar text quoted :: rest => some (.scalar text quoted, rest)
    | .openSequence :: rest => do
      let (items, rest) ← readFlowItems steps true rest
      some (.sequence items, rest)
    | .openMapping :: rest => do
      let (entries, rest) ← readFlowEntries steps true rest
      some (.mapping entries, rest)
    | .sequenceStart :: rest =>
      if block then do
        let (items, rest) ← readItems steps rest
        some (.sequence items, rest)
      else none
    | .mappingStart :: rest =>
      if block then do
        let (entries, rest) ← readEntries steps rest
        some (.mapping entries, rest)
      else none
    | .entry :: _ =>
      if hanging then do
        let (items, rest) ← readHangingItems steps tokens
        some (.sequence items, rest)
      else none
    | _ => none

/-- The node at the start of some tokens, or a void one in front of a token that ends the place. -/
def readPlace : Nat → Bool → Bool → List Token → List Token → Option (Node × List Token)
  | 0, _, _, _, _ => none
  | steps + 1, block, hanging, ends, tokens =>
    if tokens.head?.any ends.contains then some (.void, tokens)
    else read steps block hanging tokens

def readItems : Nat → List Token → Option (List Node × List Token)
  | 0, _ => none
  | steps + 1, tokens =>
    match tokens with
    | .blockEnd :: rest => some ([], rest)
    | .entry :: rest => do
      let (item, rest) ← readPlace steps true false [.entry, .blockEnd] rest
      let (items, rest) ← readItems steps rest
      some (item :: items, rest)
    | _ => none

/-- The items of a sequence without a block of its own. -/
def readHangingItems : Nat → List Token → Option (List Node × List Token)
  | 0, _ => none
  | steps + 1, tokens =>
    match tokens with
    | .entry :: rest => do
      let (item, rest) ← readPlace steps true false [.entry, .key, .value, .blockEnd] rest
      let (items, rest) ← readHangingItems steps rest
      some (item :: items, rest)
    | _ => some ([], tokens)

/-- The value of an entry that may lack it. A value is followed by one of `ends` at the latest. -/
def readValue : Nat → Bool → List Token → List Token → Option (Node × List Token)
  | 0, _, _, _ => none
  | steps + 1, block, ends, tokens =>
    match tokens with
    | .value :: rest => readPlace steps block block ends rest
    | _ => some (.void, tokens)

def readEntries : Nat → List Token → Option (List (Node × Node) × List Token)
  | 0, _ => none
  | steps + 1, tokens =>
    match tokens with
    | .blockEnd :: rest => some ([], rest)
    | .key :: rest => do
      let (key, rest) ← readPlace steps true true [.key, .value, .blockEnd] rest
      let (value, rest) ← readValue steps true [.key, .value, .blockEnd] rest
      let (entries, rest) ← readEntries steps rest
      some ((key, value) :: entries, rest)
    | _ => none

/-- The items of a sequence in brackets, through the closing one. Each but the first follows a
comma, and one comma may precede the closing bracket. A key makes an item a mapping of one entry; a
key that is missing takes the mark in its place with it. -/
def readFlowItems : Nat → Bool → List Token → Option (List Node × List Token)
  | 0, _, _ => none
  | steps + 1, first, tokens =>
    match tokens with
    | .closeSequence :: rest => some ([], rest)
    | .comma :: rest =>
      if first then none
      else match rest with
        | .comma :: _ => none
        | _ => readFlowItems steps true rest
    | .key :: rest =>
      if first then do
        let (key, rest) ← match rest with
          | .value :: rest | .comma :: rest | .closeSequence :: rest => some (.void, rest)
          | _ => read steps false false rest
        let (value, rest) ← readValue steps false [.comma, .closeSequence] rest
        let (items, rest) ← readFlowItems steps false rest
        some (.mapping [(key, value)] :: items, rest)
      else none
    | _ =>
      if first then do
        let (item, rest) ← read steps false false tokens
        let (items, rest) ← readFlowItems steps false rest
        some (item :: items, rest)
      else none

/-- The entries of a mapping in braces, through the closing one. What is no key is the key of an
entry without a value. -/
def readFlowEntries : Nat → Bool → List Token → Option (List (Node × Node) × List Token)
  | 0, _, _ => none
  | steps + 1, first, tokens =>
    match tokens with
    | .closeMapping :: rest => some ([], rest)
    | .comma :: rest =>
      if first then none
      else match rest with
        | .comma :: _ => none
        | _ => readFlowEntries steps true rest
    | .key :: rest =>
      if first then do
        let (key, rest) ← readPlace steps false false [.value, .comma, .closeMapping] rest
        let (value, rest) ← readValue steps false [.comma, .closeMapping] rest
        let (entries, rest) ← readFlowEntries steps false rest
        some ((key, value) :: entries, rest)
      else none
    | _ =>
      if first then do
        let (key, rest) ← read steps false false tokens
        let (entries, rest) ← readFlowEntries steps false rest
        some ((key, .void) :: entries, rest)
      else none
end

/-- The one document that some tokens make up. End markers may follow it, and it is void when there
is nothing at all. -/
def ofTokens? (tokens : List Token) : Option Node := do
  let steps := 3 * tokens.length + 3
  let (node, rest) ← match tokens with
    | [] => some (.void, [])
    | .documentStart :: rest =>
      if rest.head?.all [.documentStart, .documentEnd].contains then some (.void, rest)
      else read steps true false rest
    | _ => read steps true false tokens
  if rest.all (· = .documentEnd) then some node else none

def isAllowed (c : Char) : Bool :=
  c = '\t' || c = '\n' || (' ' ≤ c && c ≤ '~') || ('\u00A0' ≤ c && c ≤ '\uFFFD') ||
    0x10000 ≤ c.toNat

/-- Every end of a line of its own kind becomes a line feed, but the two separators stay. -/
def unifyBreaks : Text → Text
  | [] => []
  | '\r' :: '\n' :: rest => '\n' :: unifyBreaks rest
  | '\r' :: rest => '\n' :: unifyBreaks rest
  | '\u0085' :: rest => '\n' :: unifyBreaks rest
  | c :: rest => c :: unifyBreaks rest

def parse? (t : Text) : Option Node :=
  let t := unifyBreaks t
  if t.all isAllowed then (Token.ofText? t).bind ofTokens? else none

end Node

end Curriculum.Yaml
