import CqlWriter.Settings.Value

/-!
# Tables of settings

A table is a map from keys to values, some of which are tables again. A path of keys leads through
them. Keys are in lower case.
-/

namespace CqlWriter.Settings

/-- A table of settings. -/
abbrev Table := List (Text × Value)

/-- The parts of a key, which points divide. -/
def keyPath (key : Text) : List Text :=
  Text.split (Text.byte '.') key

/-- The key with the given parts. -/
def pathKey (path : List Text) : Text :=
  Text.join "." path

/-- The keys of the tables on the way to a key, the outermost first. -/
def parentKeys (path : List Text) : List Text :=
  (List.range path.length).tail.map fun n => pathKey (path.take n)

namespace Table

/-- Set the value of a key. -/
def set (t : Table) (key : Text) (v : Value) : Table :=
  if t.any (·.1 = key) then t.map fun e => if e.1 = key then (key, v) else e
  else t ++ [(key, v)]

/-- Set the value at the end of a path. A value on the way is replaced by a table. -/
def assign (t : Table) (v : Value) : (path : List Text) → Table
  | [] => t
  | [key] => t.set key v
  | key :: rest =>
    let inner : Table := match t.lookup key with
      | some (.map entries) => entries
      | _ => []
    t.set key (.map (assign inner v rest))

/-- The value at the end of a path. A null counts as no value. -/
def search (t : Table) : (path : List Text) → Option Value
  | [] => some (.map t)
  | [key] =>
    match t.lookup key with
    | some .null | none => none
    | some v => some v
  | key :: rest =>
    match t.lookup key with
    | some (.map entries) => search entries rest
    | _ => none

/-- Whether a value that is no table lies on the way to the end of a path. -/
def shadows (t : Table) : (path : List Text) → Bool
  | [] | [_] => false
  | key :: rest =>
    match t.lookup key with
    | some (.map entries) => shadows entries rest
    | some .null | none => false
    | some _ => true

mutual

/-- Add the keys of a table to those found before, where `above` is the key of the table. Keys below
one that is found already are left out. -/
def keys (found : List Text) (above : Text) : Table → List Text
  | [] => found
  | (key, v) :: rest => keys (valueKeys found (above ++ key) v) above rest

/-- Add the key of a value, or the keys of a table. -/
def valueKeys (found : List Text) (key : Text) : Value → List Text
  | .map entries =>
    if found.contains key then found else keys found (key ++ ".") entries
  | _ => if found.contains key then found else found ++ [key]

end

/-- Add keys that are written in full, except those below a key that is found already. -/
def flatKeys (found flat : List Text) : List Text :=
  flat.foldl (fun found key =>
    if found.contains key || (parentKeys (keyPath key)).any found.contains then found
    else found ++ [key]) found

end Table

/-! ### Files of settings -/

/-- The item of a list that a number in decimal digits names. -/
def itemAt? (items : List Value) (key : Text) : Option Value :=
  match Integer.ofDigits? 10 key with
  | some n => if 0 ≤ n then items[n.toNat]? else none
  | none => none

mutual

/-- The value at the end of a path in a file, where a key may be several parts long and a number is
the place of an item in a list. Longer keys come first. A null counts as no value. -/
def Value.dig : (fuel : Nat) → Value → (path : List Text) → Option Value
  | 0, _, _ => none
  | _ + 1, v, [] =>
    match v with
    | .null => none
    | v => some v
  | fuel + 1, v, path => Value.digFrom fuel v path path.length

/-- The value at the end of a path whose first key is at most `n` parts long. -/
def Value.digFrom : (fuel : Nat) → Value → (path : List Text) → (n : Nat) → Option Value
  | 0, _, _, _ => none
  | _ + 1, _, _, 0 => none
  | fuel + 1, v, path, n + 1 =>
    let key := pathKey (path.take (n + 1))
    let next := match v with
      | .map entries | .mixed entries => entries.lookup key
      | .list items => itemAt? items key
      | _ => none
    (next.bind fun inner => Value.dig fuel inner (path.drop (n + 1))).or
      (Value.digFrom fuel v path n)

end

/-- The value at the end of a path in the table of a file. -/
def Table.dig (t : Table) (path : List Text) : Option Value :=
  Value.dig (2 * (path.length + 1) * (path.length + 1)) (.map t) path

end CqlWriter.Settings
