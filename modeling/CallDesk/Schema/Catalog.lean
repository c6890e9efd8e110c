import CallDesk.Schema.Basic

/-! # Catalogs

What a database knows about its objects: each belongs to a schema, and one schema is the current
one. `knows` is what the questions to the catalog mean.
-/

namespace CallDesk.Schema

/-- The objects of a database, each with the schema it belongs to. -/
structure Catalog where
  /-- The schema that names without one are looked for in. -/
  current : String
  objects : List (String × Object)

/-- Whether a catalog has an object, as the questions to it ask: a column, a table or an index in
the current schema, a trigger in any schema. -/
def Catalog.knows (c : Catalog) : Object → Bool
  | .trigger table name => c.objects.any (·.2 == .trigger table name)
  | o => c.objects.contains (c.current, o)

end CallDesk.Schema
