import CqlWriter.Settings.Table
import CqlWriter.Yaml.Decode

/-!
# Tables in YAML

A mapping is read as a table. Inside a mapping, keys may be scalars of any kind, which are told
apart by kind and value until the mapping is complete; then their texts are the keys.
-/

namespace CqlWriter.Settings

open Yaml

/-- The value of a scalar. -/
def Value.ofScalar : Scalar → Value
  | .null => .null
  | .bool b => .flag b
  | .int n => if n < power 2 63 then .int n else .word n.toNat
  | .float x => .float x
  | .timestamp t => .timestamp t
  | .text t => .text t

mutual

/-- The value that is read. -/
def Value.ofLoose : Loose → Value
  | .scalar s => .ofScalar s
  | .list items => .list (Value.ofLooseItems items)
  | .map true entries => .map (Table.ofLoose [] entries)
  | .map false entries => .mixed (Table.ofLoose [] entries)

/-- The values of the items of a list. -/
def Value.ofLooseItems : List Loose → List Value
  | [] => []
  | v :: rest => Value.ofLoose v :: Value.ofLooseItems rest

/-- A table with further entries. The texts of the keys are the keys. -/
def Table.ofLoose (t : Table) : List (Scalar × Loose) → Table
  | [] => t
  | (key, v) :: rest => Table.ofLoose (t.set (Value.ofScalar key).toText (Value.ofLoose v)) rest

end

/-- The name of the kind of a whole table. -/
def tableTypeName : Text := "map[string]interface \x7b\x7d"

/-- Read a node as a table whose keys are texts. A null is an empty table. -/
def readTable (n : Node) : Decode Table := do
  match n with
  | .mapping _ _ entries =>
    if ← Decode.noteRepeated entries then return []
    let g ← readEntries true entries {}
    let g ← readMerge true (keysOf entries) entries g
    pure (.ofLoose [] g.entries)
  | _ => do
    let _ ← Decode.scalar tableTypeName (fun _ _ => (none : Option Unit)) n
    pure []

/-- The table in a YAML stream; an empty stream has none. -/
def Table.ofYaml (bytes : Text) : Except Failure Table := do
  match ← Node.ofBytes bytes with
  | none => pure []
  | some root => (Decode.document readTable root).run

end CqlWriter.Settings
