import Dialogue.Json.Record
import Dialogue.Storage.Database

/-!
# A scripted database

A database that knows no tables: it notes what it is asked and answers every statement with the
next reply of its script, and with nothing found and nothing changed when none is left. The steps
of a transaction succeed unless the script lets them fail.
-/

namespace Dialogue

/-- A script and what has been asked so far. -/
structure Script where
  replies : List (Except String ResultSet)
  failing : List (String × String)
  asked : List DatabaseRequest

namespace Script

/-- The columns of truth values, of numbers, of documents, of times, of dates and of instants. -/
def columnKinds : List (List String × (Json → Option SqlValue)) :=
  [(["weekday"], fun j => (j.integer? .signed16).map fun n => .smallint (.ofInt n)),
    (["capacity"], fun j => (j.integer? .signed32).map fun n => .integer (.ofInt n)),
    (["department_id", "staff_id", "slot_id", "count"], fun j => j.int64?.map .bigint),
    (["is_active", "is_authorized"], fun j => j.bool?.map .boolean),
    (["graph_data", "context"], fun j => some (.document j)),
    (["start_time", "booking_time"], fun j =>
      (j.str?.bind Calendar.time?).map fun t => .time t.toMicrosecond),
    (["booking_date", "last_message_date"], fun j => (j.str?.bind Calendar.date?).map .date),
    (["created_at", "updated_at", "sent_at", "last_message_at"], fun j =>
      (j.str?.bind Calendar.instant?).map fun i => .timestamp i.toMicrosecond)]

/-- The value of a column; `id` is a number unless identifiers are texts, and every column that is
not known holds text. -/
def value (textIds : Bool) (name : String) (j : Json) : SqlValue :=
  if j.isNull then .null
  else
    let read : Json → Option SqlValue :=
      if name == "id" && !textIds then fun j => j.int64?.map .bigint
      else match columnKinds.find? fun k => k.1.contains name with
        | some k => k.2
        | none => fun j => j.str?.map .text
    (read j).getD .null

/-- Reads a row. -/
def row (textIds : Bool) : Json → Row
  | .obj m => m.map fun p => (p.1, value textIds p.1 p.2)
  | _ => []

/-- Whether the identifiers of rows are texts: those of the first row are. -/
def hasTextIds (rows : List Json) : Bool :=
  match rows.head?.bind (Json.get? "id") with
  | some (.str _) => true
  | _ => false

/-- Reads a reply: rows, a number of rows that changed, or a failure. -/
def reply (j : Json) : Except String ResultSet :=
  match (j.get? "error").bind Json.str?, (j.get? "rows").bind Json.arr? with
  | some message, _ => .error message
  | none, some rows => .ok ⟨rows.map (row (hasTextIds rows)), rows.length⟩
  | none, none =>
    .ok ⟨[], ((j.get? "affected").bind (Json.integer? .unsigned64)).elim 0 Int.toNat⟩

/-- Reads a script: its replies, and the failures of the steps of transactions. -/
def ofJson (j : Json) : Script where
  replies := (((j.get? "replies").bind Json.arr?).getD []).map reply
  failing := match j.get? "failing" with
    | some (.obj m) => m.filterMap fun p => p.2.str?.map fun message => (p.1, message)
    | _ => []
  asked := []

/-- Answers what the database is asked. -/
def answer : (r : DatabaseRequest) → Script → r.Answer × Script
  | .execute s, script =>
    let noted := { script with asked := script.asked ++ [.execute s] }
    match script.replies with
    | [] => (.ok ⟨[], 0⟩, noted)
    | r :: rest => (r, { noted with replies := rest })
  | .transaction step, script =>
    let noted := { script with asked := script.asked ++ [.transaction step] }
    match script.failing.lookup step.sql with
    | some message => (.error message, noted)
    | none => (.ok (), noted)

/-- Runs work against a script. -/
def run (script : Script) (work : StoreWork ε α) : Except ε α × Script :=
  Program.run answer work.run script

end Script

end Dialogue
