import Dialogue.Graph.Node
import Dialogue.Proofs.Json.Record

/-!
# What nodes say and ask is read back

Contents, calls and settings that were written are read back as they were, part by part: a header,
a button or a row first, then the message that holds it.
-/

namespace Dialogue

open FieldReader Json

@[simp]
theorem MediaType.ofJson?_name (t : MediaType) : ofJson? (.str t.name) = some t := by
  cases t <;> rfl

-- The rules for fields are about binds, so the last field of a reader must not become a map.
theorem TextContent.ofJson?_toJson (c : TextContent) : ofJson? c.toJson = some c :=
  record?_obj (by simp [fields, -bind_pure_comp])

theorem MediaContent.ofJson?_toJson (c : MediaContent) : ofJson? c.toJson = some c :=
  record?_obj (by simp [fields, -bind_pure_comp])

theorem LocationContent.ofJson?_toJson (c : LocationContent) : ofJson? c.toJson = some c :=
  record?_obj (by simp [fields, -bind_pure_comp])

/-! ## Messages that are replied to -/

theorem MediaHeader.ofJson?_toJson (h : MediaHeader) : ofJson? h.toJson = some h :=
  record?_obj (by simp [fields, -bind_pure_comp])

@[simp]
theorem MediaHeader.elim_nullable? (h : Option MediaHeader) :
    h.elim (some none) (nullable? ofJson? ∘ toJson) = some h :=
  Json.elim_nullable? ofJson?_toJson (fun _ => rfl) h

theorem ReplyButton.ofJson?_toJson (b : ReplyButton) : ofJson? b.toJson = some b :=
  record?_obj (by simp [fields, -bind_pure_comp])

theorem QuickReply.ofJson?_toJson (c : QuickReply) : ofJson? c.toJson = some c :=
  record?_obj (by simp [fields, -bind_pure_comp, list?_map ReplyButton.ofJson?_toJson])

theorem ListRow.ofJson?_toJson (r : ListRow) : ofJson? r.toJson = some r :=
  record?_obj (by simp [fields, -bind_pure_comp])

theorem ListSection.ofJson?_toJson (s : ListSection) : ofJson? s.toJson = some s :=
  record?_obj (by simp [fields, -bind_pure_comp, list?_map ListRow.ofJson?_toJson])

theorem ListMessage.ofJson?_toJson (c : ListMessage) : ofJson? c.toJson = some c :=
  record?_obj (by simp [fields, -bind_pure_comp, list?_map ListSection.ofJson?_toJson])

theorem ActionButton.ofJson?_toJson (b : ActionButton) : ofJson? b.toJson = some b := by
  obtain ⟨id, title, action⟩ := b
  cases action with
  | quickReply =>
    have tagged :
        (toJson ⟨id, title, .quickReply⟩).splitTag? "type" = some ("quick_reply", _) :=
      splitTag?_object (by simp [actionMembers])
    simp only [ofJson?, tagged, Option.bind_eq_bind, Option.bind_some]
    exact record?_obj (by simp [fields, actionMembers, -bind_pure_comp])
  | call phone =>
    have tagged : (toJson ⟨id, title, .call phone⟩).splitTag? "type" = some ("call", _) :=
      splitTag?_object (by simp [actionMembers])
    simp only [ofJson?, tagged, Option.bind_eq_bind, Option.bind_some]
    exact record?_obj (by simp [fields, actionMembers, -bind_pure_comp])
  | url url =>
    have tagged : (toJson ⟨id, title, .url url⟩).splitTag? "type" = some ("url", _) :=
      splitTag?_object (by simp [actionMembers])
    simp only [ofJson?, tagged, Option.bind_eq_bind, Option.bind_some]
    exact record?_obj (by simp [fields, actionMembers, -bind_pure_comp])
  | copy code =>
    have tagged : (toJson ⟨id, title, .copy code⟩).splitTag? "type" = some ("copy", _) :=
      splitTag?_object (by simp [actionMembers])
    simp only [ofJson?, tagged, Option.bind_eq_bind, Option.bind_some]
    exact record?_obj (by simp [fields, actionMembers, -bind_pure_comp])

theorem ButtonsMessage.ofJson?_toJson (c : ButtonsMessage) : ofJson? c.toJson = some c :=
  record?_obj (by simp [fields, -bind_pure_comp, list?_map ActionButton.ofJson?_toJson])

theorem CarouselCard.ofJson?_toJson (c : CarouselCard) : ofJson? c.toJson = some c :=
  record?_obj (by simp [fields, -bind_pure_comp, list?_map ActionButton.ofJson?_toJson])

theorem Carousel.ofJson?_toJson (c : Carousel) : ofJson? c.toJson = some c :=
  record?_obj (by simp [fields, -bind_pure_comp, list?_map CarouselCard.ofJson?_toJson])

/-! ## Calls -/

@[simp]
theorem HttpMethod.ofJson?_name (m : HttpMethod) : ofJson? (.str m.name) = some m := by
  cases m <;> rfl

theorem KeyValue.ofJson?_toJson (p : KeyValue) : ofJson? p.toJson = some p :=
  record?_obj (by simp [fields, -bind_pure_comp])

@[simp]
theorem HttpAuth.ofJson?_toJson (a : HttpAuth) : ofJson? a.toJson = some a := by
  cases a with
  | none => rfl
  | bearer token =>
    have tagged : (toJson (.bearer token)).splitTag? "type" = some ("bearer", _) :=
      splitTag?_object (by simp)
    simp only [ofJson?, tagged, Option.bind_eq_bind, Option.bind_some]
    exact record?_obj (by simp [-bind_pure_comp])
  | basic username password =>
    have tagged : (toJson (.basic username password)).splitTag? "type" = some ("basic", _) :=
      splitTag?_object (by simp)
    simp only [ofJson?, tagged, Option.bind_eq_bind, Option.bind_some]
    exact record?_obj (by simp [-bind_pure_comp])

@[simp]
theorem HttpBody.ofJson?_toJson (b : HttpBody) : ofJson? b.toJson = some b := by
  cases b with
  | none => rfl
  | json content =>
    have tagged : (toJson (.json content)).splitTag? "type" = some ("json", _) :=
      splitTag?_object (by simp)
    simp only [ofJson?, tagged, Option.bind_eq_bind, Option.bind_some]
    exact record?_obj (by simp [-bind_pure_comp])
  | form fields =>
    have tagged : (toJson (.form fields)).splitTag? "type" = some ("form", _) :=
      splitTag?_object (by simp)
    simp only [ofJson?, tagged, Option.bind_eq_bind, Option.bind_some]
    exact record?_obj (by simp [-bind_pure_comp, list?_map KeyValue.ofJson?_toJson])

theorem ResponseMapping.ofJson?_toJson (m : ResponseMapping) : ofJson? m.toJson = some m :=
  record?_obj (by simp [fields, -bind_pure_comp])

theorem HttpCall.ofJson?_toJson (c : HttpCall) : ofJson? c.toJson = some c :=
  record?_obj (by simp [fields, -bind_pure_comp, list?_map KeyValue.ofJson?_toJson,
    list?_map ResponseMapping.ofJson?_toJson, Json.elim_nullable? uint64?_ofUInt64 fun _ => rfl])

/-! ## Bookings -/

theorem BookAppointment.ofJson?_toJson (c : BookAppointment) : ofJson? c.toJson = some c :=
  record?_obj (by simp [fields, -bind_pure_comp, Json.elim_nullable? uint32?_ofUInt32 fun _ => rfl])

theorem CheckBookings.ofJson?_toJson (c : CheckBookings) : ofJson? c.toJson = some c :=
  record?_obj (by simp [fields, -bind_pure_comp, Json.elim_nullable? uint32?_ofUInt32 fun _ => rfl])

end Dialogue
