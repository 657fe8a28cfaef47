import WideColumn.Level
import WideColumn.Value

/-!
# Statements

What is sent to the cluster: a text or a prepared handle, the values bound to its markers, and how
it is to be sent. A `Request` is a statement on its way, as the library keeps it until it is sent.
-/

namespace WideColumn

/-- A statement prepared by the cluster. -/
structure Prepared where
  id : Nat
  query : String
deriving Repr, DecidableEq

/-- Whether a character can start the name of a named marker. -/
def startsMarkerName (c : Char) : Bool := c.isAlpha || c = '_'

/-- The number of markers outside quoted literals: every question mark, and every colon before a
character that can start a name. `quoted` says whether the text starts inside a literal. -/
def countMarkers (quoted : Bool) : List Char → Nat
  | [] => 0
  | c :: rest =>
    if c = '\'' then countMarkers (!quoted) rest
    else if quoted then countMarkers quoted rest
    else if c = '?' then 1 + countMarkers quoted rest
    else if c = ':' && rest.head?.any startsMarkerName then 1 + countMarkers quoted rest
    else countMarkers quoted rest

/-- The number of values that the statement takes. -/
def Prepared.markerCount (p : Prepared) : Nat := countMarkers false p.query.toList

/-- What a statement executes. -/
inductive StatementBody where
  | query (text : String)
  | prepared (p : Prepared)
deriving Repr, DecidableEq

/-- One statement as the cluster receives it. -/
structure Statement where
  body : StatementBody
  values : List Value
  level : Level
  /-- Rows per page. -/
  fetchSize : Option Nat
  timestamp : Option Int

namespace Statement

/-- The text of the statement. -/
def query (s : Statement) : String :=
  match s.body with
  | .query text => text
  | .prepared p => p.query

/-- Whether the statement was prepared. -/
def isPrepared (s : Statement) : Bool :=
  match s.body with
  | .query _ => false
  | .prepared _ => true

/-- The statement sent at another level. -/
def withLevel (s : Statement) (level : Level) : Statement := { s with level }

end Statement

/-- A kind of group that is applied as a whole. -/
inductive BatchKind where
  /-- Regular writes, all or none. -/
  | logged
  /-- Counter writes, which cannot share a group with regular ones. -/
  | counter
deriving Repr, DecidableEq

/-- The name of the kind in the query language. -/
def BatchKind.name : BatchKind → String
  | .logged => "LOGGED"
  | .counter => "COUNTER"

/-- Where the text of a request comes from. -/
inductive RequestSource where
  | bound (p : Prepared)
  /-- A text made for this request; it may ask for a page size. -/
  | regular (query : String) (fetchSize : Option Nat)
deriving Repr, DecidableEq

/-- A statement on its way to the cluster. -/
structure Request where
  source : RequestSource
  values : List Value
  level : Level
  timestamp : Option Int

namespace Request

/-- A request for a prepared statement. -/
def bound (p : Prepared) (values : List Value) (level : Level) : Request :=
  { source := .bound p, values, level, timestamp := none }

/-- A request for a text. -/
def regular (query : String) (values : List Value) (level : Level) : Request :=
  { source := .regular query none, values, level, timestamp := none }

/-- Ask for a page size; prepared statements have none. -/
def withFetchSize (r : Request) (fetchSize : Option Nat) : Request :=
  match r.source with
  | .bound _ => r
  | .regular query _ => { r with source := .regular query fetchSize }

/-- The request with another write timestamp. -/
def withTimestamp (r : Request) (timestamp : Option Int) : Request := { r with timestamp }

/-- The request at another level. -/
def withLevel (r : Request) (level : Level) : Request := { r with level }

/-- The text of the statement. -/
def query (r : Request) : String :=
  match r.source with
  | .bound p => p.query
  | .regular query _ => query

/-- The page size asked for. -/
def fetchSize (r : Request) : Option Nat :=
  match r.source with
  | .bound _ => none
  | .regular _ fetchSize => fetchSize

/-- What the log calls this sort of request. -/
def label (r : Request) : String :=
  match r.source with
  | .bound _ => "Prepared statement"
  | .regular .. => "Simple query"

/-- The statement to send. -/
def statement (r : Request) : Statement :=
  { body := match r.source with
      | .bound p => .prepared p
      | .regular query _ => .query query
    values := r.values
    level := r.level
    fetchSize := r.fetchSize
    timestamp := r.timestamp }

/-- The statement has the text of the request. -/
theorem query_statement (r : Request) : r.statement.query = r.query := by
  obtain ⟨source, _, _, _⟩ := r
  cases source <;> rfl

end Request

/-- A line of the log of statements. -/
inductive LogLine where
  | sent (request : Request)
  | batchStart (kind : BatchKind) (count : Nat)
  | batchEnd (kind : BatchKind) (level : Level)

/-- The text of a log line. -/
def LogLine.message : LogLine → String
  | .sent r => s!"{r.label} : [{r.query}] with consistency level [{r.level.name}]"
  | .batchStart .. => "******BATCH START******"
  | .batchEnd _ level => s!"******BATCH END with consistency level [{level.name}] ******"

end WideColumn
