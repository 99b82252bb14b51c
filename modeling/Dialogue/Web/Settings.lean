import Dialogue.Json.Basic
import Dialogue.Web.Environment

/-!
# Settings of the server

What the server is told by its environment. Only the address of the database has no standard.
-/

namespace Dialogue

/-- The settings of the server. -/
structure ServerSettings where
  databaseUrl : String
  bindAddress : String
  maxConnections : Int
  utcOffsetMinutes : Int
  httpTimeoutMs : Int
  httpMaxResponseBytes : Int
  bookingDaysAhead : Int
  messagingBaseUrl : String
  messagingTimeoutMs : Int
  deriving DecidableEq, Repr

namespace ServerSettings

open EnvironmentValue

/-- The address of the messaging provider, unless another one is set. -/
def standardProvider : String := "https://gate.whapi.cloud"

/-- A text of the environment. -/
def text? (e : Environment) (path : List String) (standard : Option String) : Option String :=
  e.setting? path standard fun v => some v.asText

/-- A whole number of the environment that is not negative. -/
def count? (e : Environment) (path : List String) (range : Text.Range) (standard : Int) :
    Option Int :=
  e.setting? path (some standard) (asInteger? .unsigned64 range)

/-- Reads the settings. A group of settings is no setting itself. -/
def ofEnvironment? (e : Environment) : Option ServerSettings := do
  let databaseUrl ← text? e ["database_url"] none
  let bindAddress ← text? e ["bind_addr"] (some "0.0.0.0:8080")
  let maxConnections ← count? e ["max_connections"] .unsigned32 10
  guard ((e.value? ["engine"]).isNone && (e.value? ["messaging"]).isNone)
  let utcOffsetMinutes ← e.setting? ["engine", "utc_offset_minutes"] (some 330)
    (asInteger? .signed64 .signed32)
  let httpTimeoutMs ← count? e ["engine", "http_timeout_ms"] .unsigned64 10000
  let httpMaxResponseBytes ←
    count? e ["engine", "http_max_response_bytes"] .unsigned64 5242880
  let bookingDaysAhead ← count? e ["engine", "booking_days_ahead"] .unsigned32 7
  let messagingBaseUrl ← text? e ["messaging", "base_url"] (some standardProvider)
  let messagingTimeoutMs ← count? e ["messaging", "timeout_ms"] .unsigned64 15000
  return ⟨databaseUrl, bindAddress, maxConnections, utcOffsetMinutes, httpTimeoutMs,
    httpMaxResponseBytes, bookingDaysAhead, messagingBaseUrl, messagingTimeoutMs⟩

def toJson (s : ServerSettings) : Json :=
  .object [("database_url", .str s.databaseUrl), ("bind_addr", .str s.bindAddress),
    ("max_connections", .int s.maxConnections), ("utc_offset_minutes", .int s.utcOffsetMinutes),
    ("http_timeout_ms", .int s.httpTimeoutMs),
    ("http_max_response_bytes", .int s.httpMaxResponseBytes),
    ("booking_days_ahead", .int s.bookingDaysAhead),
    ("messaging_base_url", .str s.messagingBaseUrl),
    ("messaging_timeout_ms", .int s.messagingTimeoutMs)]

end ServerSettings

end Dialogue
