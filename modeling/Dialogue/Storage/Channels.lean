import Dialogue.Message.Failure
import Dialogue.Storage.Database

/-!
# Stored channels and settings

The first usable channel of an account, and the text of a setting.
-/

namespace Dialogue

open RowReader DatabaseWork

namespace Storage

/-- Reads the columns of a channel. -/
def channelRow : RowReader (Except DatabaseError Channel) := do
  let id ← column "id" SqlValue.text?
  let account ← column "account_id" SqlValue.text?
  let token ← column "token" SqlValue.text?
  let isActive ← column "is_active" SqlValue.boolean?
  let isAuthorized ← column "is_authorized" SqlValue.boolean?
  return do
    let channelId ← readId .channel "channel id" id
    let accountId ← readAccount account
    return ⟨channelId, accountId, token, isActive, isAuthorized⟩

/-- The usable channel of an account. -/
def usableChannel (account : AccountId) : StoreWork ChannelError (Option Channel) :=
  ExceptT.adapt (fun e => ⟨e.message⟩) do
    let row ← fetchOptional (.usableChannel account) channelRow
    settled (row.mapM id)

/-- The text of a setting. -/
def setting (key : String) : StoreWork SettingError (Option String) :=
  ExceptT.adapt (fun e => ⟨key, e.message⟩) (fetchOptional (.setting key) (scalar SqlValue.text?))

end Storage

end Dialogue
