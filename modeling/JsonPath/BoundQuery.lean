import JsonPath.Evaluation.Basic
import JsonPath.Query.Parser
import JsonPath.Query.Tagged

/-!
# Queries with their functions

A bound query is a query together with the registry that its calls refer to, ready to be checked
and to be applied to documents.
-/

namespace JsonPath

/-- A query and the registry of its functions. -/
structure BoundQuery where
  query : Query
  registry : Registry

/-- Why a query text is refused. -/
inductive QueryError where
  | config (error : ConfigError)
  /-- The text is no query; the report is about `text`. -/
  | parse (report : FailureReport) (text : String)

namespace QueryError

/-- The message of an error. -/
def message : QueryError → String
  | .config e => e.message
  | .parse report text => report.message text

end QueryError

namespace BoundQuery

/-- A reader of query text. -/
abbrev Reader := String → Except FailureReport Query

/-- Reads a text with any reader of queries. -/
def ofTextUsing (reader : Reader) (r : Registry) (text : String) :
    Except QueryError BoundQuery :=
  match reader text with
  | .ok q => .ok ⟨q, r⟩
  | .error report => .error (.parse report text)

/-- Reads a text under a configuration, which is validated first.  Also returns what has been
reported. -/
def ofTextWith (r : Registry) (c : ParserConfig) (text : String) :
    Except QueryError BoundQuery × List Diagnostic :=
  match c.validate with
  | .error e => (.error (.config e), [])
  | .ok () =>
    let (result, diagnostics) := Query.parse r c text
    (ofTextUsing (fun text => result.mapError (·.report text)) r text, diagnostics)

/-- Reads a text with the built-in functions and the default configuration. -/
def ofText (text : String) : Except QueryError BoundQuery × List Diagnostic :=
  ofTextWith .standard {} text

/-- A query with the built-in functions. -/
def ofQuery (q : Query) : BoundQuery := ⟨q, .standard⟩

/-- Reads a tagged query with the built-in functions. -/
def ofTagged (tagged : Json) : Except TaggedError BoundQuery :=
  (Query.ofTagged tagged).map ofQuery

/-- The query with other functions. -/
def withRegistry (b : BoundQuery) (r : Registry) : BoundQuery := { b with registry := r }

/-- The nodes of a document that the query selects. -/
def apply (b : BoundQuery) (document : Json) : Reported NodeList :=
  b.registry.apply b.query document

/-- The type errors of the filters of the query. -/
def check (b : BoundQuery) : List Diagnostic := (b.registry.checkQuery b.query).diagnostics

end BoundQuery

end JsonPath
