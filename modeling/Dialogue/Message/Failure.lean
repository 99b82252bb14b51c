import Dialogue.Ident.Typed

/-!
# What sending depends on

An account sends through a channel, which has to be active and authorized. Sending a message, and
looking a channel or a setting up, can fail.
-/

namespace Dialogue

/-- A channel that an account sends through. -/
structure Channel where
  id : ChannelId
  accountId : AccountId
  token : String
  isActive : Bool
  isAuthorized : Bool
  deriving DecidableEq, Repr

/-- Whether messages can be sent through a channel. -/
def Channel.isUsable (c : Channel) : Bool := c.isActive && c.isAuthorized

def Channel.toJson (c : Channel) : Json :=
  .object [("id", c.id.toJson), ("account_id", c.accountId.toJson), ("token", .str c.token),
    ("is_active", .bool c.isActive), ("is_authorized", .bool c.isAuthorized),
    ("usable", .bool c.isUsable)]

/-- Channels in the order they were connected. -/
abbrev ChannelList := List Channel

/-- The first usable channel of an account. -/
def ChannelList.active? (l : ChannelList) (account : AccountId) : Option Channel :=
  l.find? fun c => c.accountId == account && c.isUsable

/-- A failure to look a channel up. -/
structure ChannelError where
  reason : String
  deriving DecidableEq, Repr

/-- The failure in words. -/
def ChannelError.message (e : ChannelError) : String := "channel lookup failed: " ++ e.reason

/-- The settings that are looked up. -/
inductive Setting where
  | allowedDomains
  | messageDelay
  deriving DecidableEq, Repr

/-- The key of a setting. -/
def Setting.key : Setting → String
  | .allowedDomains => "http_action_allowed_domains"
  | .messageDelay => "chain_message_delay_ms"

/-- A failure to look a setting up. -/
structure SettingError where
  key : String
  reason : String
  deriving DecidableEq, Repr

/-- The failure in words. -/
def SettingError.message (e : SettingError) : String :=
  "failed to read setting '" ++ e.key ++ "': " ++ e.reason

/-- A failure to send a message. -/
inductive MessagingError where
  | provider (status : Nat) (details : String)
  | transport (details : String)
  | invalidResponse (details : String)
  deriving DecidableEq, Repr

/-- The failure in words. -/
def MessagingError.message : MessagingError → String
  | .provider status details =>
    "messaging provider returned " ++ toString status ++ ": " ++ details
  | .transport details => "messaging provider unreachable: " ++ details
  | .invalidResponse details => "invalid messaging provider response: " ++ details

end Dialogue
