import Mathlib

/-!
# YAML nodes

The tree that a YAML document stands for, over any type of text.

* `Node`                       the nodes;
* `Node.nested`                induction over a node, with its items and entries;
* `Node.paths`, `Node.pathsIn` the nodes that are reached through maps only, each behind the keys
  that lead to it, in the order of the document;
* `Node.get`                   what is behind a key;
* `Library`, `Library.Lawful`  the functions of a library that reads and writes nodes.
-/

set_option linter.unusedVariables false

namespace KitServer
namespace Yaml

inductive Node (S : Type) where
  | null
  | scalar (s : S)
  | sequence (xs : List (Node S))
  | map (kvs : List (Node S × Node S))

namespace Node
variable {S : Type}

theorem nested {P : Node S → Prop} (hnull : P .null) (hscalar : ∀ s, P (.scalar s))
    (hsequence : ∀ xs, (∀ x ∈ xs, P x) → P (.sequence xs))
    (hmap : ∀ kvs, (∀ kv ∈ kvs, P kv.1 ∧ P kv.2) → P (.map kvs)) : (n : Node S) → P n
  | .null => hnull
  | .scalar s => hscalar s
  | .sequence xs => hsequence xs fun x hx => nested hnull hscalar hsequence hmap x
  | .map kvs =>
    hmap kvs fun kv hkv =>
      ⟨nested hnull hscalar hsequence hmap kv.1, nested hnull hscalar hsequence hmap kv.2⟩
termination_by n => sizeOf n
decreasing_by
  · have hlt := List.sizeOf_lt_of_mem hx
    simp only [sequence.sizeOf_spec]
    omega
  · have hlt := List.sizeOf_lt_of_mem hkv
    have hkv : sizeOf kv = 1 + sizeOf kv.1 + sizeOf kv.2 := rfl
    simp only [map.sizeOf_spec]
    omega
  · have hlt := List.sizeOf_lt_of_mem hkv
    have hkv : sizeOf kv = 1 + sizeOf kv.1 + sizeOf kv.2 := rfl
    simp only [map.sizeOf_spec]
    omega

/-- the text of a scalar, and `empty` for any other node -/
def scalarOr (empty : S) : Node S → S
  | .scalar s => s
  | _ => empty

mutual

def paths (empty : S) : Node S → List (List S × Node S)
  | .map kvs => pathsIn empty kvs
  | _ => []

def pathsIn (empty : S) : List (Node S × Node S) → List (List S × Node S)
  | [] => []
  | (k, v) :: kvs =>
    ([k.scalarOr empty], v)
      :: ((paths empty v).map fun p => (k.scalarOr empty :: p.1, p.2)) ++ pathsIn empty kvs

end

theorem paths_ne_nil (empty : S) (node : Node S) : ∀ p ∈ node.paths empty, p.1 ≠ [] := by
  have hin : ∀ kvs : List (Node S × Node S), ∀ p ∈ pathsIn empty kvs, p.1 ≠ [] := by
    intro kvs
    induction kvs with
    | nil =>
      intro p hp
      cases hp
    | cons kv kvs ih =>
      intro p hp
      rw [pathsIn, List.cons_append, List.mem_cons, List.mem_append, List.mem_map] at hp
      rcases hp with rfl | ⟨q, _, rfl⟩ | hp
      · exact List.cons_ne_nil _ _
      · exact List.cons_ne_nil _ _
      · exact ih p hp
  cases node with
  | map kvs => exact hin kvs
  | _ =>
    intro p hp
    cases hp

/-- `node[key]`: none if the node is a scalar, which is an exception, else the value of the first
entry with the key, if there is one -/
def get [DecidableEq S] (key : S) : Node S → Option (Option (Node S))
  | .scalar _ => none
  | .map kvs =>
    some ((kvs.find? fun kv =>
      match kv.1 with
      | .scalar s => s = key
      | _ => false).map Prod.snd)
  | _ => some none

def fields (kvs : List (S × Node S)) : Node S := .map (kvs.map fun kv => (.scalar kv.1, kv.2))

theorem get_fields [DecidableEq S] (key : S) (kvs : List (S × Node S)) :
    (fields kvs).get key = some ((kvs.find? fun kv => kv.1 = key).map Prod.snd) := by
  rw [fields, get, List.find?_map, Option.map_map]
  rfl

end Node

/-! ## what a program uses of a library -/

structure Library (S : Type) where
  /-- `YAML::Load`; none is an exception -/
  load : S → Option (Node S)
  /-- what `operator<<` writes -/
  emit : Node S → S
  /-- what `operator<<` writes of a node that was given no value -/
  unset : S
  /-- `as<std::string>()`; none is an exception -/
  asString : Node S → Option S
  /-- what `operator<<` writes of `node[i]`, for `i` below `node.size()` -/
  items : Node S → List S
  /-- what `operator<<` writes of `it->first` and `it->second`; none is an exception -/
  pairs : Node S → Option (List (S × S))

/-- `Load` and `operator<<` are inverse, and the nodes are read as they are documented -/
structure Library.Lawful {S : Type} (lib : Library S) : Prop where
  load_emit : ∀ n, lib.load (lib.emit n) = some n
  load_unset : lib.load lib.unset = some .null
  asString_scalar : ∀ s, lib.asString (.scalar s) = some s
  items_null : lib.items .null = []
  items_sequence : ∀ xs, lib.items (.sequence xs) = xs.map lib.emit
  pairs_null : lib.pairs .null = some []
  pairs_map : ∀ kvs, lib.pairs (.map kvs) = some (kvs.map fun kv => (lib.emit kv.1, lib.emit kv.2))

end Yaml
end KitServer
