import ODataBrowser.Column.Type

/-!
# The type map of a resource

Types are only ever added while a resource stays active: once a column has a type, it keeps it.
-/

namespace ODataBrowser.ColumnTypes

/-- The type of a column. -/
def type? (types : ColumnTypes) (column : Scalar) : Option ColumnType :=
  (types.find? fun entry => entry.1.same column).map (·.2)

/-- Whether the column has a type. -/
def knows (types : ColumnTypes) (column : Scalar) : Bool :=
  (types.type? column).isSome

/-- Gives a column a type unless it has one. -/
def insertIfNew (types : ColumnTypes) (column : Scalar) (type : ColumnType) : ColumnTypes :=
  if types.knows column then types else types ++ [(column, type)]

/-- Adds the types of columns that have none yet. -/
def merge (types new : ColumnTypes) : ColumnTypes :=
  new.foldl (fun types (column, type) => types.insertIfNew column type) types

/-- The columns of the rows that have no type yet. -/
def unknownIn (types : ColumnTypes) (rows : List Value) : List Scalar :=
  ((columnNames rows).map .textual).filter fun column => !types.knows column

/-- Adds the types that the rows give to columns without one, if there are such columns. -/
def observe (types : ColumnTypes) (rows : List Value) : ColumnTypes :=
  let unknown := types.unknownIn rows
  if unknown.isEmpty then types else types.merge (inferColumnTypes unknown rows)

end ODataBrowser.ColumnTypes
