import SmartPlaylist.Yaml.Node

/-!
# YAML: anchors and references

An anchor gets as its number how many names are anchored before it, whether its
own name is among them or not.  A reference takes the number that its name has
where it stands, and means the last node of that number in the whole document.
So a name that is anchored once means its node, and one that is anchored again
may share its number with a name that comes later.

## Main definitions

* `Naming` — the names so far.
* `Node.number` — replaces the names of references by numbers.
* `Node.anchored` — the nodes that have an anchor, in order.
* `Numbered` — a document whose references are numbers, with what they mean.
-/

namespace SmartPlaylist.Yaml

/-- The names so far. -/
structure Naming where
  /-- The number that each name has now. -/
  numbers : List (String × Nat)
  /-- The number of each anchor, in order. -/
  assigned : List Nat
  deriving Inhabited

/-- Gives a node's anchor its number. -/
def Naming.addAnchor (p : Properties) (names : Naming) : Naming :=
  match p.anchor with
  | none => names
  | some name =>
    let number := names.numbers.length
    let others := names.numbers.filter fun entry => entry.1 ≠ name
    ⟨(name, number) :: others, names.assigned ++ [number]⟩

namespace Node

mutual

/-- Replaces the names of references by numbers; an unknown name is refused. -/
def number (names : Naming) : Node String → Option (Node Nat × Naming)
  | .reference name => (names.numbers.lookup name).map fun n => (.reference n, names)
  | .scalar p isPlain text => some (.scalar p isPlain text, names.addAnchor p)
  | .sequence p items => do
    let (items, names) ← numberItems (names.addAnchor p) items
    some (.sequence p items, names)
  | .mapping p pairs => do
    let (pairs, names) ← numberPairs (names.addAnchor p) pairs
    some (.mapping p pairs, names)

/-- `number` on one item after another. -/
def numberItems (names : Naming) : List (Node String) → Option (List (Node Nat) × Naming)
  | [] => some ([], names)
  | item :: rest => do
    let (item, names) ← number names item
    let (rest, names) ← numberItems names rest
    some (item :: rest, names)

/-- `number` on the key and the value of one pair after another. -/
def numberPairs (names : Naming) :
    List (Node String × Node String) → Option (List (Node Nat × Node Nat) × Naming)
  | [] => some ([], names)
  | (key, value) :: rest => do
    let (key, names) ← number names key
    let (value, names) ← number names value
    let (rest, names) ← numberPairs names rest
    some ((key, value) :: rest, names)

end

mutual

/-- The nodes that have an anchor, each before those inside it. -/
def anchored {α : Type} : Node α → List (Node α)
  | .reference _ => []
  | .scalar p isPlain text => if p.anchor.isSome then [.scalar p isPlain text] else []
  | .sequence p items =>
    (if p.anchor.isSome then [.sequence p items] else []) ++ anchoredItems items
  | .mapping p pairs =>
    (if p.anchor.isSome then [.mapping p pairs] else []) ++ anchoredPairs pairs

/-- The anchored nodes of items. -/
def anchoredItems {α : Type} : List (Node α) → List (Node α)
  | [] => []
  | item :: rest => anchored item ++ anchoredItems rest

/-- The anchored nodes of pairs. -/
def anchoredPairs {α : Type} : List (Node α × Node α) → List (Node α)
  | [] => []
  | (key, value) :: rest => anchored key ++ anchored value ++ anchoredPairs rest

end

mutual

/-- How many steps it takes to tell a node: one for a text or a reference, and two for a collection
besides what is in it. -/
def size {α : Type} : Node α → Nat
  | .reference _ => 1
  | .scalar _ _ _ => 1
  | .sequence _ items => 2 + sizeItems items
  | .mapping _ pairs => 2 + sizePairs pairs

/-- The size of items. -/
def sizeItems {α : Type} : List (Node α) → Nat
  | [] => 0
  | item :: rest => size item + sizeItems rest

/-- The size of pairs. -/
def sizePairs {α : Type} : List (Node α × Node α) → Nat
  | [] => 0
  | (key, value) :: rest => size key + size value + sizePairs rest

end

end Node

/-- A document whose references are numbers. -/
structure Numbered where
  root : Node Nat
  /-- The anchored nodes with their numbers, the last first. -/
  targets : List (Nat × Node Nat)

/-- Numbers the references of a document. -/
def Numbered.ofNode? (node : Node String) : Option Numbered := do
  let (root, names) ← node.number default
  some ⟨root, (names.assigned.zip root.anchored).reverse⟩

/-- The node that a number means. -/
def Numbered.target? (d : Numbered) (n : Nat) : Option (Node Nat) := d.targets.lookup n

end SmartPlaylist.Yaml
