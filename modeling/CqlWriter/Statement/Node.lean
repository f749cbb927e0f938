import CqlWriter.Statement.Basic

/-!
# Nodes of a statement

Every part of a statement that has a text of its own is a node, and the nodes of a statement form a
tree. The tree is walked from the root with each node before its children and the children in the
order in which they are written; holes are passed over.
-/

namespace CqlWriter

/-- The kind of a node; a code that belongs to no kind is kept as it is. -/
inductive NodeKind where
  | invalid
  | alterTable
  | createIndex
  | insert
  | alteration
  | indexTarget
  | insertValues
  | batch
  | usage
  | withItem
  | identifier
  | tableName
  | columnDefinition
  | dataType
  | operand
  | other (code : Int)
  deriving DecidableEq, Repr

namespace NodeKind

/-- The kind with a given code. -/
def ofCode : Int → NodeKind
  | 0 => invalid
  | 1 => alterTable
  | 2 => createIndex
  | 3 => insert
  | 4 => alteration
  | 5 => indexTarget
  | 6 => insertValues
  | 7 => batch
  | 8 => usage
  | 9 => withItem
  | 10 => identifier
  | 11 => tableName
  | 12 => columnDefinition
  | 13 => dataType
  | 14 => operand
  | n => other n

/-- The name of a kind. -/
def name : NodeKind → Text
  | invalid => "T_Invalid"
  | alterTable => "T_AlterTable"
  | createIndex => "T_CreateIndex"
  | insert => "T_Insert"
  | alteration => "T_AlterTableOperation"
  | indexTarget => "T_IndexColumnType"
  | insertValues => "T_InsertValues"
  | batch => "T_BeginBatch"
  | usage => "T_TtlTimestamp"
  | withItem => "T_WithItem"
  | identifier => "T_Identifier"
  | tableName => "T_FQName"
  | columnDefinition => "T_ColumnDefinition"
  | dataType => "T_DataType"
  | operand => "T_Operand"
  | other n => "NodeTag(" ++ Text.ofInt n ++ ")"

end NodeKind

/-- A part of a statement, or a whole one. -/
inductive Statement.Node where
  | statement (s : Statement)
  | alteration (a : Alteration)
  | indexTarget (t : IndexTarget)
  | insertValues (v : InsertValues)
  | batch (b : Batch)
  | usage (u : Usage)
  | withItem (w : WithItem)
  | identifier (i : Identifier)
  | tableName (t : TableName)
  | columnDefinition (c : ColumnDefinition)
  | dataType (d : DataType)
  | operand (o : Operand)
  deriving Repr

namespace Statement.Node

/-- The kind of a node. -/
def kind : Statement.Node → NodeKind
  | statement (.alterTable _) => .alterTable
  | statement (.createIndex _) => .createIndex
  | statement (.insert _) => .insert
  | alteration _ => .alteration
  | indexTarget _ => .indexTarget
  | insertValues _ => .insertValues
  | batch _ => .batch
  | usage _ => .usage
  | withItem _ => .withItem
  | identifier _ => .identifier
  | tableName _ => .tableName
  | columnDefinition _ => .columnDefinition
  | dataType _ => .dataType
  | operand _ => .operand

/-- The CQL text of a node. -/
def cql : Statement.Node → Text
  | statement s => s.cql
  | alteration a => a.cql
  | indexTarget t => t.cql
  | insertValues v => v.cql
  | batch b => b.cql
  | usage u => u.cql
  | withItem w => w.cql
  | identifier i => i.cql
  | tableName t => t.cql
  | columnDefinition c => c.cql
  | dataType d => d.cql
  | operand o => o.cql

/-- A description of a node for logs. -/
def describe : Statement.Node → Text
  | statement s => s.describe
  | alteration a => a.describe
  | indexTarget t => t.describe
  | insertValues v => v.describe
  | batch b => b.describe
  | usage u => u.describe
  | withItem w => w.describe
  | identifier i => i.describe
  | tableName t => t.describe
  | columnDefinition c => c.describe
  | dataType d => d.describe
  | operand o => o.describe

end Statement.Node

/-- A tree whose nodes carry labels. -/
inductive Tree (α : Type) where
  | node (label : α) (children : List (Tree α))

namespace Tree

variable {α : Type}

mutual

/-- The labels met on a walk that goes below a node only where `descend` allows it. -/
def walk (descend : α → Bool) : Tree α → List α
  | node a children => a :: if descend a then walkAll descend children else []

/-- The labels met on a walk through one tree after another. -/
def walkAll (descend : α → Bool) : List (Tree α) → List α
  | [] => []
  | t :: ts => walk descend t ++ walkAll descend ts

end

mutual

/-- The labels of a tree that satisfy `wanted`, in the order of a full walk. -/
def find (wanted : α → Bool) : Tree α → List α
  | node a children => if wanted a then a :: findAll wanted children else findAll wanted children

/-- The labels that satisfy `wanted` in one tree after another. -/
def findAll (wanted : α → Bool) : List (Tree α) → List α
  | [] => []
  | t :: ts => find wanted t ++ findAll wanted ts

end

/-- A tree of one node. -/
def leaf (a : α) : Tree α :=
  node a []

end Tree

namespace Identifier

/-- The tree of an identifier. -/
def tree (i : Identifier) : Tree Statement.Node :=
  .leaf (.identifier i)

end Identifier

namespace TableName

/-- The tree of a table name: the keyspace, then the name. -/
def tree (t : TableName) : Tree Statement.Node :=
  .node (.tableName t) ((t.keyspace.map Identifier.tree).toList ++ [t.name.tree])

end TableName

namespace ColumnDefinition

/-- The tree of a column definition: the name, then the type. -/
def tree (c : ColumnDefinition) : Tree Statement.Node :=
  .node (.columnDefinition c) [c.name.tree, .leaf (.dataType c.type)]

end ColumnDefinition

namespace WithItem

/-- The tree of a table option, which has no children. -/
def forest : WithItem → List (Tree Statement.Node)
  | hole => []
  | item => [.leaf (.withItem item)]

end WithItem

namespace Operand

mutual

/-- The tree of an operand, or nothing for a hole. -/
def forest : Operand → List (Tree Statement.Node)
  | hole => []
  | column name => [.node (.operand (column name)) [name.tree]]
  | call name args => [.node (.operand (call name args)) (forestList args)]
  | tuple elements => [.node (.operand (tuple elements)) (forestList elements)]
  | collection kind elements =>
    [.node (.operand (collection kind elements)) (forestElements elements)]
  | o => [.leaf (.operand o)]

/-- The trees of the operands of a list. -/
def forestList : List Operand → List (Tree Statement.Node)
  | [] => []
  | o :: os => forest o ++ forestList os

/-- The trees of the elements of a collection, each key before its value. -/
def forestElements : List (Operand × Operand) → List (Tree Statement.Node)
  | [] => []
  | (k, v) :: es => forest k ++ forest v ++ forestElements es

end

end Operand

namespace Alteration

/-- The tree of an alteration, or nothing for a hole. -/
def forest : Alteration → List (Tree Statement.Node)
  | hole => []
  | add columns => [.node (.alteration (add columns)) (columns.map ColumnDefinition.tree)]
  | drop columns => [.node (.alteration (drop columns)) (columns.map Identifier.tree)]
  | dropCompactStorage => [.leaf (.alteration dropCompactStorage)]
  | rename source target =>
    [.node (.alteration (rename source target)) [source.tree, target.tree]]
  | options items => [.node (.alteration (options items)) (items.flatMap WithItem.forest)]

end Alteration

namespace IndexTarget

/-- The tree of an index target, or nothing for a hole. -/
def forest : IndexTarget → List (Tree Statement.Node)
  | hole => []
  | column kind name => [.node (.indexTarget (column kind name)) [name.tree]]

end IndexTarget

namespace InsertValues

/-- The tree of a row, or nothing for a hole. -/
def forest : InsertValues → List (Tree Statement.Node)
  | hole => []
  | operands values => [.node (.insertValues (operands values)) (Operand.forestList values)]
  | json text => [.leaf (.insertValues (json text))]

end InsertValues

namespace Statement

/-- The trees below the root of a statement. -/
def children : Statement → List (Tree Statement.Node)
  | alterTable a => a.table.tree :: a.alteration.forest
  | createIndex c => (c.name.map Identifier.tree).toList ++ c.table.tree :: c.target.forest
  | insert i =>
    (i.batch.map fun b => Tree.leaf (.batch b)).toList ++ i.table.tree
      :: i.columns.map Identifier.tree ++ i.values.forest
      ++ (i.usage.map fun u => Tree.leaf (.usage u)).toList

/-- The tree of a statement. -/
def tree (s : Statement) : Tree Statement.Node :=
  .node (.statement s) s.children

end Statement

namespace Statement.Node

/-- The tree below and including a node; a hole has none. -/
def forest : Statement.Node → List (Tree Statement.Node)
  | statement s => [s.tree]
  | alteration a => a.forest
  | indexTarget t => t.forest
  | insertValues v => v.forest
  | batch b => [.leaf (.batch b)]
  | usage u => [.leaf (.usage u)]
  | withItem w => w.forest
  | identifier i => [i.tree]
  | tableName t => [t.tree]
  | columnDefinition c => [c.tree]
  | dataType d => [.leaf (.dataType d)]
  | operand o => o.forest

/-- The nodes met on a walk from `root` that goes below a node only where `descend` allows it. -/
def walk (descend : Statement.Node → Bool) (root : Statement.Node) : List Statement.Node :=
  Tree.walkAll descend root.forest

/-- All nodes of the given kind below and including `root`, in the order of a full walk. -/
def find (kind : NodeKind) (root : Statement.Node) : List Statement.Node :=
  Tree.findAll (fun n => n.kind = kind) root.forest

end Statement.Node

end CqlWriter
