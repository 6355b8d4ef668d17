import PathSchema.Document
import PathSchema.Yaml.Node
import PathSchema.Yaml.Sense
import PathSchema.Yaml.Token.Scanning

/-!
# Documents of YAML text

An alias stands for the node with its name.  A name that is given anew takes the
number of names known so far, and an alias refers to the last node of its number.  A
node that refers to itself has no document, so a misfit stands in its place; and a
document may not grow too far beyond what was written.
-/

namespace PathSchema

namespace Yaml

namespace Node

mutual

/-- Numbers the names of a node, given the numbers of the names that stand before it. -/
def number : Node String → List (String × Nat) → Option (Node Nat × List (String × Nat))
  | .scalar tag plain text, known => some (.scalar tag plain text, known)
  | .list tag items, known =>
    (numberItems items known).map fun (items, known) => (.list tag items, known)
  | .mapping tag entries, known =>
    (numberEntries entries known).map fun (entries, known) => (.mapping tag entries, known)
  | .anchored name node, known =>
    let n := known.length
    (number node ((name, n) :: known.filter (·.1 != name))).map fun (node, known) =>
      (.anchored n node, known)
  | .alias name, known => (known.lookup name).map fun n => (.alias n, known)

def numberItems : List (Node String) → List (String × Nat) →
    Option (List (Node Nat) × List (String × Nat))
  | [], known => some ([], known)
  | item :: rest, known =>
    (number item known).bind fun (item, known) =>
      (numberItems rest known).map fun (rest, known) => (item :: rest, known)

def numberEntries : List (Node String × Node String) → List (String × Nat) →
    Option (List (Node Nat × Node Nat) × List (String × Nat))
  | [], known => some ([], known)
  | (key, value) :: rest, known =>
    (number key known).bind fun (key, known) =>
      (number value known).bind fun (value, known) =>
        (numberEntries rest known).map fun (rest, known) => ((key, value) :: rest, known)

end

mutual

/-- The nodes that have a number, in the order of their beginnings. -/
def anchors : Node Nat → List (Nat × Node Nat)
  | .scalar .. => []
  | .list _ items => anchorsOfItems items
  | .mapping _ entries => anchorsOfEntries entries
  | .anchored n node => (n, node) :: anchors node
  | .alias _ => []

def anchorsOfItems : List (Node Nat) → List (Nat × Node Nat)
  | [] => []
  | item :: rest => anchors item ++ anchorsOfItems rest

def anchorsOfEntries : List (Node Nat × Node Nat) → List (Nat × Node Nat)
  | [] => []
  | (key, value) :: rest => anchors key ++ anchors value ++ anchorsOfEntries rest

end

mutual

def sumOfAliases (cost : Nat → Nat) : Node Nat → Nat
  | .scalar .. => 0
  | .list _ items => sumOfItems cost items
  | .mapping _ entries => sumOfEntries cost entries
  | .anchored _ node => sumOfAliases cost node
  | .alias n => cost n

def sumOfItems (cost : Nat → Nat) : List (Node Nat) → Nat
  | [] => 0
  | item :: rest => sumOfAliases cost item + sumOfItems cost rest

def sumOfEntries (cost : Nat → Nat) : List (Node Nat × Node Nat) → Nat
  | [] => 0
  | (key, value) :: rest =>
    sumOfAliases cost key + sumOfAliases cost value + sumOfEntries cost rest

end

mutual

/-- How much is written for a node; brackets count twice. -/
def size : Node Nat → Nat
  | .scalar .. => 1
  | .list _ items => sizeOfItems items + 2
  | .mapping _ entries => sizeOfEntries entries + 2
  | .anchored _ node => size node
  | .alias _ => 1

def sizeOfItems : List (Node Nat) → Nat
  | [] => 0
  | item :: rest => size item + sizeOfItems rest

def sizeOfEntries : List (Node Nat × Node Nat) → Nat
  | [] => 0
  | (key, value) :: rest => size key + size value + sizeOfEntries rest

end

/-- A document with the tag of its node, unless the tag is a standard one. -/
def withTag (tag : Option String) (document : Document) : Document :=
  match tag with
  | some tag => if tag.startsWith "!" then .tagged tag document else document
  | none => document

mutual

/-- The document of a node; `enter` gives those of its aliases. -/
def expand (enter : Nat → Document) : Node Nat → Document
  | .scalar tag plain text =>
    match tag.filter fun tag => !tag.startsWith "!" with
    | some declared => .scalar text (declaredSense declared text)
    | none => withTag tag (.scalar text (if plain then plainSense text else .text))
  | .list tag items => withTag tag (.list (expandItems enter items))
  | .mapping tag entries => withTag tag (.mapping (expandEntries enter entries))
  | .anchored _ node => expand enter node
  | .alias n => enter n

def expandItems (enter : Nat → Document) : List (Node Nat) → List Document
  | [] => []
  | item :: rest => expand enter item :: expandItems enter rest

def expandEntries (enter : Nat → Document) :
    List (Node Nat × Node Nat) → List (Document × Document)
  | [] => []
  | (key, value) :: rest => (expand enter key, expand enter value) :: expandEntries enter rest

end

/-- What stands for an alias, if aliases are nested to a certain depth at most. -/
def target (nodes : List (Node Nat)) : Nat → Nat → Document
  | 0, _ => .scalar "" (.misfit "alias")
  | depth + 1, n => (nodes[n]?.map (expand (target nodes depth))).getD .null

/-- How many aliases are followed in a node, up to a limit. -/
def expansions (nodes : List (Node Nat)) (limit : Nat) (node : Node Nat) : Nat :=
  let follow := fun (costs : Array Nat) (n : Nat) => costs[n]?.getD 0 + 1
  let round := fun (costs : Array Nat) =>
    (nodes.map fun node => min limit (sumOfAliases (follow costs) node)).toArray
  sumOfAliases (follow (nodes.foldl (fun costs _ => round costs) #[])) node

/-- The document of a node with names, if its aliases have nodes and it does not grow
beyond a hundred aliases for everything that is written. -/
def toDocument? (node : Node String) : Option Document :=
  (number node []).bind fun (node, _) =>
    let numbered := anchors node
    let last := fun (n : Nat) => ((numbered.reverse.lookup n)).getD absent
    let nodes := (List.range numbered.length).map last
    let limit := 100 * node.size
    if expansions nodes (limit + 1) node > limit then none
    else some (expand (target nodes nodes.length) node)

end Node

def read? (text : String) : Option (List Document) :=
  ((Token.scan text).bind Node.ofTokens).bind fun nodes => nodes.mapM Node.toDocument?

end Yaml

end PathSchema
