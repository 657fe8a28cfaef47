import WideColumn.Entity
import WideColumn.Statement

/-!
# Sessions

The connection to the cluster, as far as the library uses it: it prepares statements, executes
them, and applies groups of them. A session is a state with three step functions, so anything it
answers, failures included, is a function of the calls before.
-/

namespace WideColumn

/-- Why an operation ended without a result. -/
inductive Stop where
  | failed (error : Error)
  | cancelled (reason : String)
  | panicked (message : String)
deriving Repr, DecidableEq

/-- The answers of a session with states in `σ`. -/
class Session (σ : Type) where
  prepare : σ → String → Except Stop Prepared × σ
  /-- The rows of a read; a write has none. -/
  execute : σ → Statement → Except Stop (List Row) × σ
  /-- Apply a group of statements as a whole, at one level. -/
  executeBatch : σ → BatchKind → List Statement → Level → Except Stop Unit × σ

/-- Which entity of a workspace is meant. -/
structure Handle where
  index : Nat
deriving Repr, DecidableEq

/-- One thing that an operation did. -/
inductive Act where
  /-- A write was handed to the outbox, which sends it or keeps it. -/
  | pushed (kind : BatchKind) (request : Request)
  | prepared (text : String)
  | executed (statement : Statement)
  | sentBatch (kind : BatchKind) (statements : List Statement) (level : Level)
  /-- An interceptor ran on the entity of the handle. -/
  | intercepted (handle : Handle) (notice : Notice)
  | logged (line : LogLine)

end WideColumn
