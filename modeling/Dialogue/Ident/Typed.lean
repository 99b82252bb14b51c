import Dialogue.Ident.Ulid
import Dialogue.Json.Record
import Dialogue.Text.Blank

/-!
# Identifiers of the things that are stored

Accounts, workflows, channels and execution logs have identifiers of their own types. In text an
identifier has its type's mark and an underscore in front, which may be left out when it is read;
in documents it stands without the mark. Departments, staff, slots and bookings are numbered.
-/

namespace Dialogue

/-- What an identifier identifies. -/
inductive IdKind where
  | account
  | workflow
  | channel
  | executionLog
  deriving DecidableEq, Repr

namespace IdKind

/-- What stands in front of the identifiers of a kind. -/
def mark : IdKind → String
  | .account => "acct"
  | .workflow => "wf"
  | .channel => "chan"
  | .executionLog => "xlog"

/-- The name of the type in errors. -/
def typeName : IdKind → String
  | .account => "AccountId"
  | .workflow => "WorkflowId"
  | .channel => "ChannelId"
  | .executionLog => "ExecutionLogId"

end IdKind

/-- An identifier of one kind of thing. -/
structure Id (kind : IdKind) where
  ulid : Ulid
  deriving DecidableEq, Repr, Inhabited

abbrev AccountId := Id .account

abbrev WorkflowId := Id .workflow

abbrev ChannelId := Id .channel

abbrev ExecutionLogId := Id .executionLog

/-- A text that is no identifier of a kind. -/
structure IdError where
  kind : IdKind
  fault : Ulid.Fault
  deriving DecidableEq, Repr

/-- What a reader of the error sees. -/
def IdError.message (e : IdError) : String :=
  "failed to parse " ++ e.kind.typeName ++ ": " ++ e.fault.message

namespace Id

variable {kind : IdKind}

/-- The characters in front of the digits. -/
def lead (kind : IdKind) : List Char := kind.mark.toList ++ ['_']

/-- The mark, an underscore and the digits. -/
def text (id : Id kind) : String := kind.mark ++ "_" ++ id.ulid.text

/-- Reads an identifier with or without its mark. -/
def parse (kind : IdKind) (s : String) : Except IdError (Id kind) :=
  let digits := match Text.afterLead? (lead kind) s.toList with
    | some r => String.ofList r
    | none => s
  match Ulid.parse digits with
  | .ok u => .ok ⟨u⟩
  | .error fault => .error ⟨kind, fault⟩

/-- The form in documents. -/
def toJson (id : Id kind) : Json := .str id.ulid.text

/-- Reads the form in documents. -/
def ofJson? (kind : IdKind) : Json → Option (Id kind)
  | .str s => (Ulid.parse s).toOption.map Id.mk
  | _ => none

/-- The order of identifiers. -/
def order (a b : Id kind) : Ordering := compare a.ulid.bits.toNat b.ulid.bits.toNat

end Id

/-- The number of a department. -/
structure DepartmentId where
  number : Int64
  deriving DecidableEq, Repr, Inhabited

/-- The number of a member of staff. -/
structure StaffId where
  number : Int64
  deriving DecidableEq, Repr, Inhabited

/-- The number of a weekly slot. -/
structure SlotId where
  number : Int64
  deriving DecidableEq, Repr, Inhabited

/-- The number of a booking. -/
structure BookingId where
  number : Int64
  deriving DecidableEq, Repr, Inhabited

/-- Reads the number of a thing. -/
def readNumber (s : String) : Except Text.IntegerError Int64 :=
  (Text.readInteger .signed64 s).map Int64.ofInt

/-- The decimal text of the number of a thing. -/
def numberText (n : Int64) : String := Text.intText n.toInt

end Dialogue
