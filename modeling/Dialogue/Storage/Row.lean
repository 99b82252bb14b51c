import Dialogue.Storage.Value
import Dialogue.Text.Integer

/-!
# Rows

A row is read column by column, and the first column that is missing, or holds something else than
is wanted, is the failure of the row. Only then is a thing made of what was read: a value of the
right type may still be no identifier or no status.
-/

namespace Dialogue

/-- A row: its columns in order. -/
abbrev Row := List (String × SqlValue)

/-- A failure of the database, or of what it brought. -/
inductive DatabaseError where
  | refused (message : String)
  | noRow
  | noColumn (name : String)
  | badColumn (name : String)
  | noValue
  | badValue
  | invalid (what value reason : String)
  deriving DecidableEq, Repr

/-- The failure in words. -/
def DatabaseError.message : DatabaseError → String
  | .refused message => "error returned from database: " ++ message
  | .noRow => "no rows returned by a query that expected to return at least one row"
  | .noColumn name => "no column found for name: " ++ name
  | .badColumn name => "error occurred while decoding column \"" ++ name ++ "\": decode_error"
  | .noValue => "column index out of bounds: the len is 0, but the index is 0"
  | .badValue => "error occurred while decoding column 0: decode_error"
  | .invalid what value reason =>
    "error occurred while decoding: invalid " ++ what ++ " '" ++ value ++ "': " ++ reason

/-- What can be taken out of a value. -/
abbrev Extractor (α : Type) := SqlValue → Option α

namespace SqlValue

def boolean? : Extractor Bool
  | .boolean b => some b
  | _ => none

def smallint? : Extractor Int16
  | .smallint n => some n
  | _ => none

def integer? : Extractor Int32
  | .integer n => some n
  | _ => none

def bigint? : Extractor Int64
  | .bigint n => some n
  | _ => none

def text? : Extractor String
  | .text s => some s
  | _ => none

def document? : Extractor Json
  | .document j => some j
  | _ => none

def date? : Extractor Date
  | .date d => some d
  | _ => none

def time? : Extractor TimeOfDay
  | .time t => some t
  | _ => none

def timestamp? : Extractor Instant
  | .timestamp i => some i
  | _ => none

/-- A value that null leaves out. -/
def nullable? (f : Extractor α) : Extractor (Option α)
  | .null => some none
  | v => (f v).map some

end SqlValue

/-- Reads a row. -/
abbrev RowReader (α : Type) := ReaderT Row (Except DatabaseError) α

namespace RowReader

/-- The value of a named column. -/
def column (name : String) (f : Extractor α) : RowReader α := fun row =>
  match row.lookup name with
  | none => .error (.noColumn name)
  | some v => match f v with
    | some a => .ok a
    | none => .error (.badColumn name)

/-- The value of the first column. -/
def scalar (f : Extractor α) : RowReader α := fun row =>
  match row with
  | [] => .error .noValue
  | (_, v) :: _ => match f v with
    | some a => .ok a
    | none => .error .badValue

end RowReader

/-- Reads the text of an identifier. -/
def readId (kind : IdKind) (what text : String) : Except DatabaseError (Id kind) :=
  match Id.parse kind text with
  | .ok id => .ok id
  | .error e => .error (.invalid what text e.message)

/-- Reads the text of an account's identifier. -/
def readAccount (text : String) : Except DatabaseError AccountId :=
  readId .account "account id" text

end Dialogue
