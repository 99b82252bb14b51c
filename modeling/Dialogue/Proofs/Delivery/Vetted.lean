import Dialogue.Delivery.Event
import Dialogue.Proofs.Json.Fields
import Dialogue.Proofs.Text.Trimming

/-!
# What stands behind an event

A text or a reply is made of a message that is not ours, belongs to no group's chat and has digits
for a phone (`FromParticipant`). Which of the two it is depends on the pressed identifier alone
(`pressedId?`): with one it is a reply, whatever else the message holds (`ofJson_vetted`).
-/

namespace Dialogue

open Json

namespace InboundEvent

/-! ## What stands in a message -/

/-- The chat: that of the message, or else its sender. -/
def chatOf (raw : Json) : String :=
  ((raw.under 3 ["chat_id"]).str?.or (raw.under 4 ["from"]).str?).getD ""

/-- The body as the provider wrote it. -/
def bodyOf (raw : Json) : String := (raw.under 7 ["text"]).textAt 0 ["body"]

/-- The identifier of the option that the reply's announced type stands for. -/
def announcedId (reply : Json) : String :=
  if reply.textAt 0 ["type"] = "buttons_reply" then
    (reply.under 1 ["buttons_reply"]).textAt 0 ["id"]
  else if reply.textAt 0 ["type"] = "list_reply" then
    (reply.under 2 ["list_reply"]).textAt 0 ["id"]
  else ""

/-- A text, if there is anything to it. -/
def given (s : String) : Option String := if s = "" then none else some s

/-- The identifier that was pressed: that of the announced option, or else that of the single
button of older messages. -/
def pressedId? (raw : Json) : Option String :=
  (given (announcedId (raw.under 8 ["reply"]))).or
    (given ((raw.under 9 ["button"]).textAt 0 ["id", "payload"]))

/-- The message is one of a participant, with digits for a phone. -/
structure FromParticipant (raw : Json) (phone : String) : Prop where
  notOurs : raw.under 1 ["from_me"] ≠ .bool true
  noGroup : ¬ "@g.us".toList <:+ (chatOf raw).toList
  nonempty : phone ≠ ""
  digits : ∀ c ∈ phone.toList, c.isDigit = true

end InboundEvent

namespace ProviderMessage

open InboundEvent

/-! ## Reading it -/

theorem of_text? {j : Json} {s : String} (read : text? j = some s) : s = j.textAt 0 ["body"] := by
  rw [text?, record?_eq_reading, ← bind_pure (FieldReader.withDefault _ _ _)] at read
  obtain ⟨body, hbody, read⟩ := of_reading_withDefault_bind read
  rw [← of_reading_pure read]
  exact (str?_of_elim hbody).symm

theorem of_pressed? {j : Json} {p : PressedOption} (read : pressed? j = some p) :
    p.id = j.textAt 0 ["id"] := by
  rw [pressed?, record?_eq_reading] at read
  obtain ⟨id, hid, read⟩ := of_reading_withDefault_bind read
  obtain ⟨title, -, read⟩ := of_reading_withDefault_bind read
  rw [← of_reading_pure read]
  exact (str?_of_elim hid).symm

/-- The identifier of the announced option, empty where there is none. -/
def idIn (r : ReplyContent) : String := ((announced r).2.map PressedOption.id).getD ""

theorem of_reply? {j : Json} {r : ReplyContent} (read : reply? j = some r) :
    idIn r = announcedId j := by
  rw [reply?, record?_eq_reading] at read
  obtain ⟨kind, hkind, read⟩ := of_reading_withDefault_bind read
  obtain ⟨button, hbutton, read⟩ := of_reading_withDefault_bind read
  obtain ⟨row, hrow, read⟩ := of_reading_withDefault_bind read
  have announces : kind = j.textAt 0 ["type"] := (str?_of_elim hkind).symm
  rw [← of_reading_pure read, announcedId, ← announces, idIn, announced]
  dsimp only
  split
  · exact map_getD_of_elim_nullable? PressedOption.id of_pressed? rfl hbutton
  · split
    · exact map_getD_of_elim_nullable? PressedOption.id of_pressed? rfl hrow
    · rfl

theorem of_button? {j : Json} {b : OldButton} (read : button? j = some b) :
    b.id.getD "" = j.textAt 0 ["id", "payload"] := by
  rw [button?, record?_eq_reading] at read
  obtain ⟨id, hid, read⟩ := of_reading_withDefault_bind read
  obtain ⟨title, -, read⟩ := of_reading_withDefault_bind read
  rw [← of_reading_pure read]
  exact congrArg (Option.getD · "") (str?_of_elim_nullable? hid).symm

/-- The pressed identifier of what was read. -/
theorem option?_map_id (m : ProviderMessage) : m.option?.map (fun o => o.2.id)
    = (given ((m.reply.map idIn).getD "")).or
      (given ((m.button.map fun b => b.id.getD "").getD "")) := by
  have reply : m.replyOption?.map (fun o => o.2.id)
      = given ((m.reply.map idIn).getD "") := by
    unfold replyOption?
    rcases m.reply with _ | r
    · rfl
    · rcases h : (announced r).2 with _ | p
      · simp [idIn, h, given]
      · by_cases empty : p.id = "" <;> simp [idIn, h, given, empty]
  have button : m.buttonOption?.map (fun o => o.2.id)
      = given ((m.button.map fun b => b.id.getD "").getD "") := by
    unfold buttonOption?
    rcases m.button with _ | ⟨_ | id, title⟩
    · rfl
    · rfl
    · by_cases empty : id = "" <;> simp [given, empty]
  rw [option?, Option.map_or, reply, button]

/-- The message holds what stands in the fields of the value. -/
structure ReadOff (raw : Json) (m : ProviderMessage) : Prop where
  fromMe : m.fromMe = false → raw.under 1 ["from_me"] ≠ .bool true
  chat : m.chat = (chatOf raw).toList
  body : m.body.getD "" = bodyOf raw
  pressed : m.option?.map (fun o => o.2.id) = pressedId? raw

theorem readOff_of_ofJson? {raw : Json} {m : ProviderMessage} (read : ofJson? raw = some m) :
    ReadOff raw m := by
  -- Only what the event is made of is looked at: the other fields are read, and passed over.
  rw [ofJson?, record?_eq_reading] at read
  obtain ⟨id, -, read⟩ := of_reading_withDefault_bind read
  obtain ⟨fromMe, hfromMe, read⟩ := of_reading_withDefault_bind read
  obtain ⟨kind, -, read⟩ := of_reading_withDefault_bind read
  obtain ⟨chatId, hchat, read⟩ := of_reading_withDefault_bind read
  obtain ⟨sender, hsender, read⟩ := of_reading_withDefault_bind read
  obtain ⟨name, -, read⟩ := of_reading_withDefault_bind read
  obtain ⟨timestamp, -, read⟩ := of_reading_withDefault_bind read
  obtain ⟨body, hbody, read⟩ := of_reading_withDefault_bind read
  obtain ⟨reply, hreply, read⟩ := of_reading_withDefault_bind read
  obtain ⟨button, hbutton, read⟩ := of_reading_withDefault_bind read
  obtain ⟨quoted, -, read⟩ := of_reading_withDefault_bind read
  obtain rfl := of_reading_pure read
  refine ⟨fun others marked => ?_, ?_, ?_, ?_⟩
  · -- The mark is read as false where it stands as false or not at all.
    obtain rfl : fromMe = false := others
    unfold under at marked
    cases h : raw.field? 1 ["from_me"] with
    | none => rw [h] at marked; cases marked
    | some j =>
      rw [h] at marked hfromMe
      obtain rfl : j = .bool true := marked
      cases hfromMe
  · exact congrArg₂ (fun a b : Option String => ((a.or b).getD "").toList)
      (str?_of_elim_nullable? hchat).symm (str?_of_elim_nullable? hsender).symm
  · have written := map_getD_of_elim_nullable? (fun s => s) of_text? rfl hbody
    rwa [Option.map_id'] at written
  · rw [option?_map_id, pressedId?]
    exact congrArg₂ (fun a b => (given a).or (given b))
      (map_getD_of_elim_nullable? idIn of_reply? rfl hreply)
      (map_getD_of_elim_nullable? (fun b => b.id.getD "") of_button? rfl hbutton)

/-! ## Classifying it -/

/-- A message is ignored, or it is of a participant and makes an event. -/
theorem classify_eq_ignorable_or (m : ProviderMessage) (receivedAt : Instant) :
    (∃ reason, m.classify receivedAt = .ignorable reason)
      ∨ m.fromMe = false ∧ ¬ groupMark <:+ m.chat ∧ participant m.chat ≠ ""
        ∧ m.classify receivedAt = m.eventOf (participant m.chat) (m.instant receivedAt) := by
  unfold classify
  split_ifs with ours nothing group unsent
  · exact .inl ⟨_, rfl⟩
  · exact .inl ⟨_, rfl⟩
  · exact .inl ⟨_, rfl⟩
  · exact .inl ⟨_, rfl⟩
  · exact .inr ⟨Bool.eq_false_iff.2 ours, fun h => group (List.isSuffixOf_iff_suffix.2 h),
      fun h => unsent (String.isEmpty_iff.2 h), rfl⟩

theorem isDigit_of_mem_participant {chat : List Char} :
    ∀ c ∈ (participant chat).toList, c.isDigit = true := by
  intro c hc
  rw [participant, String.toList_ofList] at hc
  exact (List.mem_filter.1 hc).2

/-- The content is the trimmed body, which is not empty. -/
theorem of_content? {m : ProviderMessage} {body : String} (h : m.content? = some body) :
    body = Text.trim (m.body.getD "") ∧ body ≠ "" := by
  obtain ⟨trimmed, notEmpty⟩ := Option.filter_eq_some_iff.1 h
  obtain ⟨b, hb, rfl⟩ := Option.map_eq_some_iff.1 trimmed
  rw [hb]
  exact ⟨rfl, fun empty => by simp [empty] at notEmpty⟩

end ProviderMessage

/-! ## Events -/

/-- A reply's identifier is what stands after the last colon, or all there is. -/
theorem logicalReplyId_spec (rawId : String) : ':' ∉ (logicalReplyId rawId).toList
    ∧ ∃ space, rawId = space ++ logicalReplyId rawId ∧ (space = "" ∨ ∃ s, space = s ++ ":") := by
  have chars : (logicalReplyId rawId).toList = rawId.toList.rtakeWhile (· != ':') :=
    String.toList_ofList
  have parts : rawId.toList.rdropWhile (· != ':') ++ (logicalReplyId rawId).toList
      = rawId.toList := by
    rw [chars, List.rdropWhile_append_rtakeWhile]
  refine ⟨fun mem => ?_, String.ofList (rawId.toList.rdropWhile (· != ':')), ?_, ?_⟩
  · rw [chars] at mem
    exact absurd (List.mem_rtakeWhile_imp mem) (by decide)
  · apply String.toList_injective
    rw [String.toList_append, String.toList_ofList, parts]
  · by_cases none_ : rawId.toList.rdropWhile (· != ':') = []
    · rw [none_]
      exact .inl rfl
    · have last : (rawId.toList.rdropWhile (· != ':')).getLast none_ = ':' := by
        simpa using List.rdropWhile_last_not (· != ':') rawId.toList none_
      refine .inr ⟨.ofList (rawId.toList.rdropWhile (· != ':')).dropLast, ?_⟩
      apply String.toList_injective
      rw [String.toList_append, String.toList_ofList, String.toList_ofList,
        ← List.dropLast_append_getLast none_, last, List.dropLast_concat]
      rfl

namespace InboundEvent

/-- A text or a reply is of a participant. It is a reply, under the identifier that was pressed, if
there is one, and the logical identifier is what stands after the last colon. A text has a body,
without blanks around it. -/
theorem ofJson_vetted (raw : Json) (receivedAt : Instant) :
    match ofJson raw receivedAt with
    | .ignorable _ => True
    | .text e => FromParticipant raw e.phone ∧ pressedId? raw = none
      ∧ e.body = Text.trim (bodyOf raw) ∧ e.body ≠ "" ∧ Text.Bare Text.isBlank e.body.toList
    | .reply e => FromParticipant raw e.phone ∧ pressedId? raw = some e.rawId
      ∧ ':' ∉ e.replyId.toList
      ∧ ∃ space, e.rawId = space ++ e.replyId ∧ (space = "" ∨ ∃ s, space = s ++ ":") := by
  unfold ofJson
  cases read : ProviderMessage.ofJson? raw with
  | none => trivial
  | some m =>
    have told := ProviderMessage.readOff_of_ofJson? read
    obtain ⟨reason, ignored⟩ | ⟨others, noGroup, sent, made⟩ :=
      m.classify_eq_ignorable_or receivedAt
    · dsimp only
      rw [ignored]
      trivial
    · have participates : FromParticipant raw (ProviderMessage.participant m.chat) :=
        ⟨told.fromMe others, told.chat ▸ noGroup, sent,
          ProviderMessage.isDigit_of_mem_participant⟩
      have pressed := told.pressed
      dsimp only
      rw [made, ProviderMessage.eventOf]
      rcases hoption : m.option? with _ | ⟨kind, p⟩
      · rw [hoption] at pressed
        rcases hcontent : m.content? with _ | body
        · trivial
        · obtain ⟨rfl, notEmpty⟩ := ProviderMessage.of_content? hcontent
          rw [told.body] at notEmpty ⊢
          refine ⟨participates, pressed.symm, rfl, notEmpty, ?_⟩
          rw [Text.trim, String.toList_ofList]
          exact ⟨Text.head_trimChars _, Text.last_trimChars _⟩
      · rw [hoption] at pressed
        exact ⟨participates, pressed.symm, logicalReplyId_spec p.id⟩

/-- A pressed button goes before the text beside it. -/
example (now : Instant) :
    ofJson (.object [("from", .str "919800000001@s.whatsapp.net"),
      ("text", .object [("body", .str "Call us")]),
      ("button", .object [("payload", .str "ButtonsV3:call")])]) now
      = .reply ⟨"919800000001", .buttonReply, "ButtonsV3:call", "call", none, none, now⟩ :=
  rfl

end InboundEvent

end Dialogue
