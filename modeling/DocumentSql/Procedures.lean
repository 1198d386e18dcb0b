/-
The procedures of the server that compiled statements call.
-/

namespace DocumentSql

/-- The names of the procedures of the server. -/
structure Procedures where
  /-- The procedure that calls a predicate function on the values of a row. -/
  dispatch : String
  /-- The procedure that fetches the documents related to a row. -/
  relations : String
deriving DecidableEq, Inhabited

/-- The usual names. -/
def Procedures.standard : Procedures := ⟨"call_func", "get_documents"⟩

end DocumentSql
