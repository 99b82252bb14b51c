import Dialogue.Booking.Table
import Dialogue.Conversation.Record
import Dialogue.Storage.Value

/-!
# Statements

Everything that is asked of the database. A statement knows its text, in which parameters are
numbered, and the values of its parameters. Locking statements hold the rows they find until the
transaction ends.
-/

namespace Dialogue

/-- A statement of the database. -/
inductive Statement where
  | workflowsByToken (account : AccountId) (token : String)
  | workflowsWithEntry (account : AccountId)
  | putWorkflow (workflow : Workflow)
  | conversation (key : ConversationKey)
  | putConversation (conversation : Conversation)
  | recordMessage (message : SentMessage)
  | findMessage (messageId : String)
  | claimDay (claim : DayClaim)
  | appendLog (entry : LogEntry)
  | usableChannel (account : AccountId)
  | setting (key : String)
  | departments (account : AccountId)
  | department (account : AccountId) (id : DepartmentId)
  | staffOf (account : AccountId) (department : DepartmentId)
  | staffMember (account : AccountId) (id : StaffId)
  | slotsOf (account : AccountId) (staff : StaffId)
  | slot (account : AccountId) (id : SlotId)
  | capacity (staff : StaffId) (weekday : Weekday) (time : TimeOfDay)
  | lockSlot (id : SlotId)
  | lockBooking (account : AccountId) (id : BookingId)
  | countConfirmed (staff : StaffId) (date : Date) (time : TimeOfDay)
      (excluding : Option BookingId)
  | insertBooking (request : BookingRequest)
  | moveBooking (account : AccountId) (id : BookingId) (slot : TimeSlot) (date : Date)
  | bookingsFrom (account : AccountId) (phone : String) (date : Date)
  | booking (account : AccountId) (id : BookingId)
  | cancelBooking (account : AccountId) (id : BookingId)
  deriving DecidableEq, Repr

namespace Statement

/-- The columns of a workflow. -/
def workflowColumns : String :=
  "id, account_id, name, is_active, entry_node_id, webhook_token, graph_data, created_at, " ++
    "updated_at"

/-- The columns of a conversation. -/
def conversationColumns : String :=
  "workflow_id, phone, current_node_id, context, last_message_at, last_message_date, " ++
    "created_at, updated_at"

/-- The columns of a department. -/
def departmentColumns : String := "id, account_id, name, description, is_active"

/-- The columns of a member of staff. -/
def staffColumns : String := "id, account_id, department_id, name, is_active"

/-- The columns of a slot. -/
def slotColumns : String :=
  "id, account_id, staff_id, weekday, start_time, capacity, is_active"

/-- The columns that make a booking, but for its number, its status and when it was made. -/
def requestColumns : String :=
  "account_id, department_id, staff_id, slot_id, phone, customer_name, booking_date, " ++
    "booking_time, custom_answer_1, custom_answer_2"

/-- The columns of a booking. -/
def bookingColumns : String := "id, " ++ requestColumns ++ ", status, created_at"

/-- The clauses of a statement. -/
def clauses : Statement → List String
  | workflowsByToken _ _ =>
    ["SELECT", workflowColumns, "FROM workflows",
      "WHERE account_id = $1 AND webhook_token = $2 AND is_active ORDER BY created_at, id"]
  | workflowsWithEntry _ =>
    ["SELECT", workflowColumns, "FROM workflows",
      "WHERE account_id = $1 AND is_active AND entry_node_id IS NOT NULL ORDER BY created_at, id"]
  | putWorkflow _ =>
    ["INSERT INTO workflows (" ++ workflowColumns ++ ")",
      "VALUES ($1, $2, $3, $4, $5, $6, $7, $8, $9) ON CONFLICT (id) DO UPDATE",
      "SET name = EXCLUDED.name, is_active = EXCLUDED.is_active,",
      "entry_node_id = EXCLUDED.entry_node_id, webhook_token = EXCLUDED.webhook_token,",
      "graph_data = EXCLUDED.graph_data, updated_at = EXCLUDED.updated_at"]
  | conversation _ =>
    ["SELECT", conversationColumns, "FROM conversation_states",
      "WHERE workflow_id = $1 AND phone = $2"]
  | putConversation _ =>
    ["INSERT INTO conversation_states (" ++ conversationColumns ++ ")",
      "VALUES ($1, $2, $3, $4, $5, $6, $7, NOW()) ON CONFLICT (workflow_id, phone) DO UPDATE",
      "SET current_node_id = EXCLUDED.current_node_id, context = EXCLUDED.context,",
      "last_message_at = EXCLUDED.last_message_at,",
      "last_message_date = EXCLUDED.last_message_date, updated_at = NOW()"]
  | recordMessage _ =>
    ["INSERT INTO sent_messages (provider_message_id, workflow_id, phone, message_kind, sent_at)",
      "VALUES ($1, $2, $3, $4, $5) ON CONFLICT (provider_message_id) DO NOTHING"]
  | findMessage _ =>
    ["SELECT workflow_id, provider_message_id, phone, message_kind, sent_at FROM sent_messages",
      "WHERE provider_message_id = $1"]
  | claimDay _ =>
    ["INSERT INTO daily_first_messages (account_id, phone, local_date, claimed_at)",
      "VALUES ($1, $2, $3, NOW()) ON CONFLICT (account_id, phone, local_date) DO NOTHING"]
  | appendLog _ =>
    ["INSERT INTO workflow_execution_logs",
      "(id, workflow_id, phone, message_kind, trigger, responses, status, error, created_at)",
      "VALUES ($1, $2, $3, $4, $5, $6, $7, $8, $9)"]
  | usableChannel _ =>
    ["SELECT id, account_id, token, is_active, is_authorized FROM channels",
      "WHERE account_id = $1 AND is_active AND is_authorized ORDER BY created_at, id LIMIT 1"]
  | setting _ => ["SELECT value FROM settings WHERE key = $1"]
  | departments _ =>
    ["SELECT", departmentColumns, "FROM booking_departments",
      "WHERE account_id = $1 AND is_active ORDER BY id"]
  | department _ _ =>
    ["SELECT", departmentColumns, "FROM booking_departments",
      "WHERE id = $1 AND account_id = $2 AND is_active"]
  | staffOf _ _ =>
    ["SELECT", staffColumns, "FROM booking_staff",
      "WHERE account_id = $1 AND department_id = $2 AND is_active ORDER BY id"]
  | staffMember _ _ =>
    ["SELECT", staffColumns, "FROM booking_staff",
      "WHERE id = $1 AND account_id = $2 AND is_active"]
  | slotsOf _ _ =>
    ["SELECT", slotColumns, "FROM booking_slots",
      "WHERE account_id = $1 AND staff_id = $2 AND is_active ORDER BY weekday, start_time, id"]
  | slot _ _ =>
    ["SELECT", slotColumns, "FROM booking_slots",
      "WHERE id = $1 AND account_id = $2 AND is_active"]
  | capacity _ _ _ =>
    ["SELECT capacity FROM booking_slots",
      "WHERE staff_id = $1 AND weekday = $2 AND start_time = $3 AND is_active",
      "ORDER BY id LIMIT 1"]
  | lockSlot _ =>
    ["SELECT staff_id, weekday, start_time, capacity FROM booking_slots",
      "WHERE id = $1 AND is_active FOR UPDATE"]
  | lockBooking _ _ =>
    ["SELECT id FROM bookings",
      "WHERE id = $1 AND account_id = $2 AND status = 'confirmed' FOR UPDATE"]
  | countConfirmed _ _ _ _ =>
    ["SELECT COUNT(*) FROM bookings",
      "WHERE staff_id = $1 AND booking_date = $2 AND booking_time = $3",
      "AND status = 'confirmed' AND ($4::BIGINT IS NULL OR id <> $4)"]
  | insertBooking _ =>
    ["INSERT INTO bookings (" ++ requestColumns ++ ", status, created_at)",
      "VALUES ($1, $2, $3, $4, $5, $6, $7, $8, $9, $10, 'confirmed', NOW())",
      "RETURNING", bookingColumns]
  | moveBooking _ _ _ _ =>
    ["UPDATE bookings",
      "SET slot_id = $3, staff_id = $4, booking_date = $5, booking_time = $6",
      "WHERE id = $1 AND account_id = $2 RETURNING", bookingColumns]
  | bookingsFrom _ _ _ =>
    ["SELECT", bookingColumns, "FROM bookings",
      "WHERE account_id = $1 AND phone = $2 AND status = 'confirmed' AND booking_date >= $3",
      "ORDER BY booking_date, booking_time, id"]
  | booking _ _ =>
    ["SELECT", bookingColumns, "FROM bookings WHERE id = $1 AND account_id = $2"]
  | cancelBooking _ _ =>
    ["UPDATE bookings SET status = 'cancelled'",
      "WHERE id = $1 AND account_id = $2 AND status = 'confirmed'"]

/-- The text of a statement. -/
def sql (s : Statement) : String := " ".intercalate s.clauses

/-- An identifier as a parameter. -/
def ofId (id : Id kind) : SqlValue := .text id.text

/-- A time as a parameter. -/
def ofTime (t : TimeOfDay) : SqlValue := .time t.toMicrosecond

/-- An instant as a parameter. -/
def ofInstant (i : Instant) : SqlValue := .timestamp i.toMicrosecond

/-- The number of a weekday; Monday is 0. -/
def weekdayNumber (d : Weekday) : Int16 := .ofNat d.index

/-- The parameters of a workflow. -/
def workflowParams (w : Workflow) : List SqlValue :=
  [ofId w.id, ofId w.accountId, .text w.name, .boolean w.isActive, .ofOption .text w.entryNodeId,
    .text w.webhookToken, .document w.graph.toJson, ofInstant w.createdAt, ofInstant w.updatedAt]

/-- The parameters of a conversation. -/
def conversationParams (c : Conversation) : List SqlValue :=
  [ofId c.workflowId, .text c.phone, .ofOption .text c.currentNodeId,
    .document c.context.toJson, .ofOption ofInstant c.lastMessageAt,
    .ofOption .date c.lastMessageDate, ofInstant c.createdAt]

/-- The parameters of an entry of the execution log. -/
def logParams (e : LogEntry) : List SqlValue :=
  [ofId e.id, ofId e.workflowId, .text e.phone, .text e.messageKind.name, .document e.trigger,
    .document (.arr (e.responses.map SentResponse.toJson)), .text e.status.name,
    .ofOption .text e.error, ofInstant e.createdAt]

/-- The parameters of a booking that is made. -/
def requestParams (r : BookingRequest) : List SqlValue :=
  [ofId r.accountId, .bigint r.departmentId.number, .bigint r.staffId.number,
    .bigint r.slotId.number, .text r.phone, .ofOption .text r.customerName, .date r.date,
    ofTime r.time, .ofOption .text r.customAnswer1, .ofOption .text r.customAnswer2]

/-- The parameters of a statement in the order of their numbers. -/
def params : Statement → List SqlValue
  | workflowsByToken account token => [ofId account, .text token]
  | workflowsWithEntry account => [ofId account]
  | putWorkflow w => workflowParams w
  | conversation key => [ofId key.workflowId, .text key.phone]
  | putConversation c => conversationParams c
  | recordMessage m =>
    [.text m.messageId, ofId m.workflowId, .text m.phone, .text m.nodeKind, ofInstant m.sentAt]
  | findMessage messageId => [.text messageId]
  | claimDay c => [ofId c.accountId, .text c.phone, .date c.date]
  | appendLog e => logParams e
  | usableChannel account => [ofId account]
  | setting key => [.text key]
  | departments account => [ofId account]
  | department account id => [.bigint id.number, ofId account]
  | staffOf account id => [ofId account, .bigint id.number]
  | staffMember account id => [.bigint id.number, ofId account]
  | slotsOf account staff => [ofId account, .bigint staff.number]
  | slot account id => [.bigint id.number, ofId account]
  | capacity staff weekday time =>
    [.bigint staff.number, .smallint (weekdayNumber weekday), ofTime time]
  | lockSlot id => [.bigint id.number]
  | lockBooking account id => [.bigint id.number, ofId account]
  | countConfirmed staff date time excluding =>
    [.bigint staff.number, .date date, ofTime time,
      .ofOption (fun id => .bigint id.number) excluding]
  | insertBooking r => requestParams r
  | moveBooking account id new date =>
    [.bigint id.number, ofId account, .bigint new.id.number, .bigint new.staffId.number,
      .date date, ofTime new.startTime]
  | bookingsFrom account phone date => [ofId account, .text phone, .date date]
  | booking account id => [.bigint id.number, ofId account]
  | cancelBooking account id => [.bigint id.number, ofId account]

end Statement

end Dialogue
