import Dialogue.Program
import Dialogue.Storage.Row
import Dialogue.Storage.Statement

/-!
# Working with a database

Work executes statements one after another and ends with a result or with a failure. A transaction
is started, worked in, and committed or rolled back as the work says. One that was started and
neither committed nor rolled back, because the work or its ending failed, is rolled back last; what
the database says to that does not count.
-/

namespace Dialogue

/-- What a statement brings: rows, and the number of rows that it changed. -/
structure ResultSet where
  rows : List Row
  affected : Nat
  deriving DecidableEq, Repr

/-- The steps of a transaction. -/
inductive TransactionStep where
  | start
  | commit
  | rollback
  deriving DecidableEq, Repr

/-- The text of a step. -/
def TransactionStep.sql : TransactionStep → String
  | .start => "BEGIN"
  | .commit => "COMMIT"
  | .rollback => "ROLLBACK"

/-- What the database is asked. -/
inductive DatabaseRequest where
  | execute (statement : Statement)
  | transaction (step : TransactionStep)
  deriving DecidableEq, Repr

namespace DatabaseRequest

/-- What the database answers; a failure is a message. -/
abbrev Answer : DatabaseRequest → Type
  | .execute _ => Except String ResultSet
  | .transaction _ => Except String Unit

def toJson : DatabaseRequest → Json
  | .execute s =>
    .object [("sql", .str s.sql), ("params", .arr (s.params.map SqlValue.toJson))]
  | .transaction step => .object [("sql", .str step.sql)]

end DatabaseRequest

/-- Work with the database that may fail in its own way. -/
abbrev StoreWork (ε α : Type) := ExceptT ε (Program DatabaseRequest DatabaseRequest.Answer) α

/-- Work with the database. -/
abbrev DatabaseWork (α : Type) := StoreWork DatabaseError α

namespace DatabaseWork

/-- Work that is done. -/
def settled (r : Except ε α) : StoreWork ε α := ExceptT.mk (.done r)

/-- Executes a statement. -/
def execute (s : Statement) : DatabaseWork ResultSet :=
  ExceptT.mk (.ask (.execute s) fun r => .done (r.mapError .refused))

/-- Takes a step of a transaction. -/
def step (t : TransactionStep) : DatabaseWork Unit :=
  ExceptT.mk (.ask (.transaction t) fun r => .done (r.mapError .refused))

/-- All rows of a statement. -/
def fetchAll (s : Statement) (read : RowReader α) : DatabaseWork (List α) := do
  let r ← execute s
  settled (r.rows.mapM read)

/-- The first row of a statement, if there is one. -/
def fetchOptional (s : Statement) (read : RowReader α) : DatabaseWork (Option α) := do
  match (← execute s).rows with
  | [] => return none
  | row :: _ => return some (← settled (read row))

/-- The first row of a statement. -/
def fetchOne (s : Statement) (read : RowReader α) : DatabaseWork α := do
  match (← execute s).rows with
  | [] => throw .noRow
  | row :: _ => settled (read row)

/-- How a transaction ends. -/
inductive Closing where
  | commit
  | rollback
  deriving DecidableEq, Repr

/-- The step that ends a transaction. -/
def Closing.step : Closing → TransactionStep
  | .commit => .commit
  | .rollback => .rollback

/-- Rolls back and fails, whatever the database says. -/
def abandon (e : DatabaseError) : DatabaseWork α :=
  ExceptT.mk (.ask (.transaction .rollback) fun _ => .done (.error e))

/-- Works in a transaction and ends it as the work says. -/
def inTransaction (work : DatabaseWork (Closing × α)) : DatabaseWork α := do
  step .start
  tryCatch (do
    let (closing, a) ← work
    step closing.step
    return a) abandon

end DatabaseWork

end Dialogue
