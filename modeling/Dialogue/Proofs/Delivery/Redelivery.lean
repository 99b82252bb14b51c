import Dialogue.Proofs.Booking.Changes
import Dialogue.Proofs.Delivery.AfterBooking
import Dialogue.Rehearsal.World

/-!
# What a redelivery finds

A provider delivers an event again if it was not confirmed. An event that made or moved a booking
must then find a conversation that is no longer in the middle of it. `holds_iff_namesFail` says
exactly when that is not so: one of the two look-ups of names that follow the booking failed, and
with it the step, whose conversation is then not saved.

An event reaches a booking as an `Offer`, a text and a reply alike. `Offer.settles` follows one
offer from the exchange that wrote the booking to its end. `Settling` carries what it says through
the locks, the loads and the workflows that a delivery goes through.
-/

namespace Dialogue

open ConversationTable DeliveryWork

/-- A conversation was loaded, and since then only the store of appointments was asked. -/
def Applied (h : History) (c : Conversation) : Prop :=
  ∃ g₁ g₂, h = g₁ ++ ⟨.loadConversation c.key, .ok (some c)⟩ :: g₂
    ∧ ∀ y ∈ g₂, ∃ q, y.1 = .booking q

/-- The conversation of a key is in the middle of a booking. -/
def ConversationTable.Holds (t : ConversationTable) (key : ConversationKey)
    (p : BookingProgress) : Prop :=
  ∃ c, t.find? key = some c ∧ c.context.booking = some p

/-- What was stored under the key of a conversation after a booking was written: what it was in the
middle of, if and only if a look-up of a name failed right after it. -/
def Settles (t : ConversationTable) (c : Conversation) (h₁ : History)
    (x : Exchange Request.Answer) (h₂ : History) : Prop :=
  ∃ p, c.context.booking = some p
    ∧ ((t.stored (h₁ ++ x :: h₂)).Holds c.key p ↔ NamesFail h₂)

theorem NamesFail.append {h : History} (hf : NamesFail h) (g : History) : NamesFail (h ++ g) := by
  cases hf with
  | department account id e h => exact .department account id e _
  | staff account id d id' e h => exact .staff account id d id' e _

/-- Work that wrote a booking fails exactly if a look-up of a name fails. -/
theorem Announced.outcome {α : Type} {kind : α → Prop} {g : List BookingExchange}
    {s : Except BookingError α × Context} (ha : Announced kind g s) :
    (∃ err, s.1 = .error err ∧ NamesFail (g.map BookingExchange.inService))
      ∨ ∃ a, s.1 = .ok a ∧ kind a ∧ s.2.booking = none
        ∧ ∀ h, ¬ NamesFail (g.map BookingExchange.inService ++ h) := by
  cases ha with
  | department account id e c => exact .inl ⟨e, rfl, .department account id e []⟩
  | staff account id d id' e c => exact .inl ⟨e, rfl, .staff account id d id' e []⟩
  | named account id d id' s a c ka hc => exact .inr ⟨a, rfl, ka, hc, fun h hf => by cases hf⟩

namespace EventScope

variable (e : EventScope)

/-- A way to offer an event to a booking in progress: its result is a failure, a step that goes on
as a chain, or something that selects nothing further. -/
structure Offer (w : Workflow) {α : Type} (kind : α → Prop) (work : BookingWork α)
    (rest : Except BookingError α × Conversation → DeliveryWork Bool) : Prop where
  writes : ∀ c g₁ y g₂ s, (work c).Runs (g₁ ++ y :: g₂) s → BookingExchange.Writes y →
    (∃ p, c.booking = some p ∧ ¬ p.step.IsFirst) ∧ Announced kind g₂ s
  fails : ∀ err c, ∃ id, rest (.error err, c) = (do
    e.finishBooking w c id err
    pure true)
  takes : ∀ a c, kind a → ∃ id step, rest (.ok a, c) = (do
    e.runChain w (e.arrive c) (.flowStep id step)
    pure true)
  selectless : ∀ s, Selectless (rest s)

variable {e}

theorem taken_of_runs {v : DeliveryWork Unit} {h : History} {r : Except DeliveryError Bool}
    (run : Program.Runs (do
      v
      pure true : DeliveryWork Bool) h r) : r ≠ .ok false ∧ ∃ s, Program.Runs v h s := by
  obtain ⟨s, run', rfl⟩ := runs_then_true run
  refine ⟨?_, s, run'⟩
  cases s <;> nofun

theorem not_saves_inService_map {g : List BookingExchange} :
    ∀ x ∈ g.map BookingExchange.inService, ¬ Saves x := by
  intro x hx
  obtain ⟨y, -, rfl⟩ := List.mem_map.1 hx
  exact not_saves_inService y

theorem Offer.settles {w : Workflow} {α : Type} {kind : α → Prop} {work : BookingWork α}
    {rest : Except BookingError α × Conversation → DeliveryWork Bool}
    (o : Offer e w kind work rest) {c : Conversation} {t : ConversationTable}
    {h₁ h₂ : History} {x : Exchange Request.Answer} {r : Except DeliveryError Bool}
    (hx : Books x) (faithful : t.Faithful (h₁ ++ x :: h₂)) (loaded : t.find? c.key = some c)
    (run : Program.Runs (booking c work >>= rest : DeliveryWork Bool) (h₁ ++ x :: h₂) r) :
    (∀ y ∈ h₁, ∃ q, y.1 = .booking q) ∧ Settles t c h₁ x h₂ ∧ r ≠ .ok false := by
  rw [bind_eq] at run
  rcases Program.runs_bind_at run with ⟨a, k₁, k₂, rfl, run₁, run₂⟩ | ⟨a, k₁, k₂, rfl, -, run₂⟩
  · obtain ⟨⟨s, d⟩, rfl, run₃⟩ := runs_booking run₁
    obtain ⟨g₁, y, g₂, rfl, hy, rfl, run₄⟩ := runs_ofBooking_at run₃ hx
    obtain ⟨⟨p, hp, hfirst⟩, announced⟩ := o.writes c.context g₁ y g₂ (s, d) run₄ hy
    have hbooking : ∀ y ∈ g₁.map BookingExchange.inService, ∃ q, y.1 = .booking q := by
      intro y hy
      obtain ⟨z, -, rfl⟩ := List.mem_map.1 hy
      exact ⟨z.1, rfl⟩
    have hkept : ∀ k, t.stored (g₁.map BookingExchange.inService ++
        x :: (g₂.map BookingExchange.inService ++ k)) = t.stored k := by
      intro k
      rw [stored_append, stored_of_not_saves not_saves_inService_map, stored_cons,
        next_of_not_saves hx.not_saves, stored_append, stored_of_not_saves not_saves_inService_map]
    rcases announced.outcome with ⟨err, rfl, hfail⟩ | ⟨a, rfl, ka, hnone, hnames⟩
    · obtain ⟨id, hrest⟩ := o.fails err { c with context := d }
      dsimp only at run₂
      rw [hrest] at run₂
      obtain ⟨hr, _, run₅⟩ := taken_of_runs run₂
      obtain ⟨hk, -⟩ := e.not_saves_finishBooking run₅
      refine ⟨hbooking, ⟨p, hp, ⟨fun _ => hfail.append k₂, fun _ => ⟨c, ?_, hp⟩⟩⟩, hr⟩
      rw [hkept, stored_of_not_saves hk]
      exact loaded
    · obtain ⟨id, step, hrest⟩ := o.takes a { c with context := d } ka
      dsimp only at run₂
      rw [hrest] at run₂
      obtain ⟨hr, _, run₅⟩ := taken_of_runs run₂
      have hfaithful : t.Faithful k₂ := by
        have h := (faithful_append.1 faithful).2.2
        rw [faithful_append] at h
        rw [stored_of_not_saves not_saves_inService_map, next_of_not_saves hx.not_saves,
          stored_of_not_saves not_saves_inService_map] at h
        exact h.2
      obtain ⟨b, hb, hfresh⟩ := e.fresh_stored_runChain hnone hfaithful run₅
      refine ⟨hbooking, ⟨p, hp, ⟨?_, fun hf => absurd hf (hnames k₂)⟩⟩, hr⟩
      rintro ⟨b', hb', hp'⟩
      rw [hkept] at hb'
      obtain rfl : b = b' := Option.some.inj (hb.symm.trans hb')
      exact absurd (hfresh p hp') hfirst
  · cases a with
    | ok s => exact absurd hx (not_books_of_selectless (o.selectless s) run₂ x (by simp))
    | error err =>
      obtain ⟨h, -⟩ := run₂
      simp at h

/-! ## Offering to one workflow -/

/-- What is done with the result of offering a text. -/
def afterText (e : EventScope) (w : Workflow) (p : BookingProgress) :
    Except BookingError (Option FlowStep) × Conversation → DeliveryWork Bool
  | (.ok none, _) => pure false
  | (.ok (some step), c) => do
    e.runChain w (e.arrive c) (.flowStep p.nodeId step)
    pure true
  | (.error err, c) => do
    e.finishBooking w c p.nodeId err
    pure true

theorem captureIn_eq (e : EventScope) (w : Workflow) (text : String) (c : Conversation)
    (p : BookingProgress) : e.captureIn w text c p
      = booking c ((e.chain w).visit.takeText text) >>= e.afterText w p := by
  refine congrArg (bind (booking c ((e.chain w).visit.takeText text))) (funext ?_)
  rintro ⟨_ | _ | step, d⟩ <;> rfl

theorem offer_text (e : EventScope) (w : Workflow) (text : String) (p : BookingProgress) :
    Offer e w (fun o => ∃ step, o = some step) ((e.chain w).visit.takeText text)
      (e.afterText w p) where
  writes _ _ _ _ _ run hy := (e.chain w).visit.writing_takeText run hy
  fails _ _ := ⟨p.nodeId, rfl⟩
  takes := by
    rintro _ c ⟨step, rfl⟩
    exact ⟨p.nodeId, step, rfl⟩
  selectless := by
    rintro ⟨_ | _ | step, c⟩
    · exact asks_bind (e.selectless_finish w _ c) fun _ => asks_pure
    · exact asks_pure
    · exact asks_bind (e.selectless_runChain w _ _) fun _ => asks_pure

theorem offer_reply (e : EventScope) (w : Workflow) (replyId : String) (p : BookingProgress) :
    Offer e w (fun o => ∃ step, o = .handled step) ((e.chain w).visit.takeReply replyId)
      (e.afterReply w replyId p) where
  writes _ _ _ _ _ run hy := (e.chain w).visit.writing_takeReply run hy
  fails _ _ := ⟨p.nodeId, rfl⟩
  takes := by
    rintro _ c ⟨step, rfl⟩
    exact ⟨p.nodeId, step, rfl⟩
  selectless := by
    rintro ⟨_ | _ | _ | step, c⟩
    · exact asks_bind (e.selectless_finish w _ c) fun _ => asks_pure
    · exact e.selectless_routeByGraph w replyId c
    · exact asks_bind (selectless_save c) fun _ => e.selectless_routeByGraph w replyId c
    · exact asks_bind (e.selectless_runChain w _ _) fun _ => asks_pure

end EventScope

/-! ## Settling along a history -/

/-- The conversation that an event was applied to when a booking was written settles. -/
def Settled (t : ConversationTable) (h₁ : History) (x : Exchange Request.Answer) (h₂ : History) :
    Prop :=
  ∃ c, Applied h₁ c ∧ Settles t c h₁ x h₂

theorem Settled.prepend {t : ConversationTable} {g h₁ h₂ : History} {x : Exchange Request.Answer}
    (hs : Settled (t.stored g) h₁ x h₂) : Settled t (g ++ h₁) x h₂ := by
  obtain ⟨c, ⟨g₁, g₂, rfl, hg⟩, p, hp, hholds⟩ := hs
  refine ⟨c, ⟨g ++ g₁, g₂, (List.append_assoc _ _ _).symm, hg⟩, p, hp, ?_⟩
  rwa [List.append_assoc, stored_append]

theorem namesFail_append_unlock {h : History} {key : ConversationKey} {r : Unit} :
    NamesFail (h ++ [⟨.unlock key, r⟩]) ↔ NamesFail h := by
  refine ⟨fun hf => ?_, fun hf => hf.append _⟩
  generalize hg : h ++ [(⟨.unlock key, r⟩ : Exchange Request.Answer)] = g at hf
  cases hf with
  | department account id e k =>
    rcases List.append_eq_cons_iff.1 hg with ⟨rfl, hu⟩ | ⟨h, rfl, -⟩
    · cases hu
    · exact .department account id e h
  | staff account id d id' e k =>
    rcases List.append_eq_cons_iff.1 hg with ⟨rfl, hu⟩ | ⟨h, rfl, hk⟩
    · cases hu
    · rcases List.append_eq_cons_iff.1 hk.symm with ⟨rfl, hu⟩ | ⟨h, rfl, -⟩
      · cases hu
      · exact .staff account id d id' e h

theorem Settled.unlock {t : ConversationTable} {h₁ h₂ : History} {x : Exchange Request.Answer}
    {key : ConversationKey} {r : Unit} (hs : Settled t h₁ x h₂) :
    Settled t h₁ x (h₂ ++ [⟨.unlock key, r⟩]) := by
  obtain ⟨c, happ, p, hp, hholds⟩ := hs
  refine ⟨c, happ, p, hp, ?_⟩
  rw [namesFail_append_unlock, ← hholds, ← List.cons_append, ← List.append_assoc, stored_append]
  rfl

/-- Work in which every booking that is written settles, and which then ends with a result of a
kind. -/
def Settling {α : Type} (kind : Except DeliveryError α → Prop) (w : DeliveryWork α) : Prop :=
  ∀ t h₁ x h₂ r, Books x → ConversationTable.Faithful t (h₁ ++ x :: h₂) →
    Program.Runs w (h₁ ++ x :: h₂) r → Settled t h₁ x h₂ ∧ kind r

section Settling

variable {α β : Type} {kind : Except DeliveryError α → Prop} {kind' : Except DeliveryError β → Prop}
  {w : DeliveryWork α} {f : α → DeliveryWork β}

theorem settling_of_selectless (hw : Selectless w) : Settling kind w :=
  fun _ _ x _ _ hx _ run => absurd hx (not_books_of_selectless hw run x (by simp))

theorem Settling.bind (hw : Settling kind w) (hf : ∀ a, Settling kind' (f a))
    (hk : ∀ a, kind (.ok a) → ∃ b, f a = pure b ∧ kind' (.ok b))
    (he : ∀ err, kind' (.error err)) : Settling kind' (w >>= f) := by
  intro t h₁ x h₂ r hx faithful run
  rw [bind_eq] at run
  rcases Program.runs_bind_at run with ⟨a, g₁, g₂, rfl, run₁, run₂⟩ | ⟨a, g₁, g₂, rfl, -, run₂⟩
  · have hpre : t.Faithful (h₁ ++ x :: g₁) := by
      rw [← List.cons_append, ← List.append_assoc] at faithful
      exact (faithful_append.1 faithful).1
    obtain ⟨settled, ha⟩ := hw t h₁ x g₁ a hx hpre run₁
    cases a with
    | ok a =>
      obtain ⟨b, hb, hkind⟩ := hk a ha
      dsimp only at run₂
      rw [hb] at run₂
      obtain ⟨rfl, rfl⟩ := run₂
      exact ⟨by rwa [List.append_nil], hkind⟩
    | error err =>
      obtain ⟨rfl, rfl⟩ := run₂
      exact ⟨by rwa [List.append_nil], he err⟩
  · rw [List.append_assoc, faithful_append] at faithful
    cases a with
    | ok a =>
      obtain ⟨settled, hr⟩ := hf a _ g₂ x h₂ r hx faithful.2 run₂
      exact ⟨settled.prepend, hr⟩
    | error err =>
      obtain ⟨h, -⟩ := run₂
      simp at h

/-- What comes before work that writes may read and save as it likes. -/
theorem Settling.after (hw : Selectless w) (hf : ∀ a, Settling kind' (f a))
    (he : ∀ err, kind' (.error err)) : Settling kind' (w >>= f) := by
  have hw' : Settling (fun _ => False) w := settling_of_selectless hw
  exact hw'.bind hf (fun _ h => h.elim) he

theorem Settling.withLock {key : ConversationKey} (hw : Settling kind w) :
    Settling kind (withLock key w) := by
  intro t h₁ x h₂ r hx faithful run
  obtain ⟨a, b, g, hg, run'⟩ := runs_withLock run
  rcases List.append_eq_cons_iff.1 hg with ⟨rfl, hg⟩ | ⟨k, rfl, hk⟩
  · obtain ⟨rfl, rfl⟩ := List.cons.inj hg
    exact hx.selects.elim
  · have hunlock : x ≠ ⟨.unlock key, b⟩ := fun hb => by
      rw [hb] at hx
      exact hx.selects.elim
    rcases List.append_eq_append_iff.1 hk with ⟨l, -, hl⟩ | ⟨l, rfl, hl⟩
    · have hmem : x ∈ [(⟨.unlock key, b⟩ : Exchange Request.Answer)] := hl ▸ by simp
      exact absurd (List.mem_singleton.1 hmem) hunlock
    · rcases List.cons_eq_append_iff.1 hl with ⟨rfl, hl⟩ | ⟨l, rfl, rfl⟩
      · exact absurd (List.cons.inj hl).1 hunlock
      · have hpre : t.Faithful ((k ++ x :: l) ++ [⟨.unlock key, b⟩]) := by
          rw [hk]
          exact faithful.2
        obtain ⟨settled, hr⟩ := hw t k x l r hx (faithful_append.1 hpre).1 run'
        exact ⟨settled.unlock.prepend (g := [⟨.lock key, a⟩]), hr⟩

end Settling

namespace EventScope

variable (e : EventScope)

/-- Work for a conversation that selects nothing, or offers the event to its booking. -/
def OffersTo (w : Workflow) (c : Conversation) (v : DeliveryWork Bool) : Prop :=
  Selectless v ∨ ∃ (α : Type) (kind : α → Prop) (work : BookingWork α)
    (rest : Except BookingError α × Conversation → DeliveryWork Bool),
      Offer e w kind work rest ∧ v = booking c work >>= rest

/-- An event is applied to the conversation that is stored. -/
theorem settling_load {w : Workflow} {f : Option Conversation → DeliveryWork Bool}
    (hnone : Selectless (f none)) (hsome : ∀ c, e.OffersTo w c (f (some c))) :
    Settling (fun r => r ≠ .ok false) (e.load w >>= f) := by
  rintro t h₁ x h₂ r hx faithful ⟨a, h, hh, run⟩
  rcases List.append_eq_cons_iff.1 hh with ⟨rfl, hh⟩ | ⟨k, rfl, rfl⟩
  · obtain ⟨rfl, rfl⟩ := List.cons.inj hh
    exact hx.selects.elim
  · obtain ⟨answers, faithful⟩ := faithful
    obtain rfl : a = .ok (t.find? (e.key w)) := answers
    cases hfind : t.find? (e.key w) with
    | none =>
      rw [hfind] at run
      exact absurd hx (not_books_of_selectless hnone run x (by simp))
    | some c =>
      rw [hfind] at run
      have hkey := key_of_find? hfind
      rcases hsome c with hs | ⟨α, kind, work, rest, offer, hf⟩
      · exact absurd hx (not_books_of_selectless hs run x (by simp))
      · have run' : Program.Runs (booking c work >>= rest : DeliveryWork Bool) (k ++ x :: h₂) r :=
          hf ▸ run
        obtain ⟨hk, hs, hr⟩ := offer.settles hx faithful (hkey ▸ hfind) run'
        refine ⟨⟨c, ⟨[], k, ?_, hk⟩, hs⟩, hr⟩
        rw [hkey]
        rfl

theorem settling_capture (text : String) (w : Workflow) :
    Settling (fun r => r ≠ .ok false) (e.capture text w) := by
  refine Settling.withLock (e.settling_load asks_pure fun c => ?_)
  dsimp only
  cases waiting? c with
  | none => exact .inl asks_pure
  | some p => exact .inr ⟨_, _, _, _, e.offer_text w text p, e.captureIn_eq w text c p⟩

theorem settling_route (replyId : String) (w : Workflow) :
    Settling (fun r => r ≠ .ok false) (e.route replyId w) := by
  unfold route
  rw [loadOrNew_bind]
  refine Settling.withLock (e.settling_load ?_ fun c => ?_)
  · exact e.selectless_routeByGraph w replyId _
  · dsimp only [Option.getD]
    cases c.context.booking with
    | none => exact .inl (e.selectless_routeByGraph w replyId c)
    | some p =>
      exact .inr ⟨_, _, _, _, e.offer_reply w replyId p, e.routeInBooking_eq w replyId c p⟩

/-! ## A whole delivery -/

theorem settling_anyTakes {offer : Workflow → DeliveryWork Bool}
    (h : ∀ w, Settling (fun r => r ≠ .ok false) (offer w)) : ∀ workflows : List Workflow,
      Settling (fun r => r ≠ .ok false) (anyTakes offer workflows)
  | [] => settling_of_selectless asks_pure
  | w :: r => by
    refine (h w).bind (fun taken => ?_) (fun taken hk => ?_) fun _ => nofun
    · cases taken with
      | true => exact settling_of_selectless asks_pure
      | false => exact settling_anyTakes h r
    · cases taken with
      | true => exact ⟨true, rfl, nofun⟩
      | false => exact absurd rfl hk

theorem settling_handleText (account : AccountId) (workflows : List Workflow) (body : String) :
    Settling (fun _ => True) (e.handleText account workflows body) := by
  unfold handleText
  refine (settling_anyTakes (e.settling_capture body) workflows).bind (fun taken => ?_)
    (fun taken hk => ?_) fun _ => trivial
  · cases taken with
    | true => exact settling_of_selectless asks_pure
    | false =>
      refine settling_of_selectless ?_
      refine asks_bind (asks_persisting (DayDecision.selectless_decide _ _ _)) fun decision => ?_
      cases decision with
      | inquiry => exact asks_pure
      | first starting => exact e.selectless_startDay starting
  · cases taken with
    | true => exact ⟨.captured, rfl, trivial⟩
    | false => exact absurd rfl hk

theorem settling_handleReply (workflows : List Workflow) (record : Option SentMessage)
    (replyId : String) : Settling (fun _ => True) (e.handleReply workflows record replyId) := by
  unfold handleReply
  refine (settling_anyTakes (e.settling_route replyId) _).bind (fun taken => ?_)
    (fun taken hk => ?_) fun _ => trivial
  · cases taken <;> exact settling_of_selectless asks_pure
  · cases taken with
    | true => exact ⟨.ok, rfl, trivial⟩
    | false => exact absurd rfl hk

end EventScope

namespace ServiceSettings

variable (s : ServiceSettings)

theorem settling_handleEvent (account : AccountId) (workflows : List Workflow) (raw : Json)
    (now : Instant) (event : InboundEvent) :
    Settling (fun _ => True) (s.handleEvent account workflows raw now event) := by
  cases event with
  | ignorable reason => exact settling_of_selectless asks_pure
  | text event =>
    dsimp only [handleEvent]
    split
    · exact EventScope.settling_handleText _ account workflows event.body
    · exact settling_of_selectless asks_throw
  | reply event =>
    dsimp only [handleEvent]
    refine .after (asks_persisting (Ownership.selectless_find _)) (fun record => ?_)
      fun _ => trivial
    split
    · exact EventScope.settling_handleReply _ workflows record event.replyId
    · exact settling_of_selectless asks_throw

/-- A delivery of one message. -/
theorem settling_handle {d : Delivery} {raw : Json}
    (one : InboundEvent.messages d.payload = [raw]) : Settling (fun _ => True) (s.handle d) := by
  unfold handle
  refine .after (asks_persisting (.ask fun _ => id)) (fun workflows => ?_) fun _ => trivial
  split
  · exact settling_of_selectless asks_throw
  · rw [one]
    exact (s.settling_handleEvent d.account workflows raw d.receivedAt _).bind
      (fun _ => settling_of_selectless asks_pure) (fun _ _ => ⟨_, rfl, trivial⟩) fun _ => trivial

/-- If a delivery of one message made or moved a booking, and the store of conversations did not
fail, the event was applied to a stored conversation in the middle of a booking. Afterwards the
conversation is still in the middle of it, so that a redelivery would book again, if and only if
one of the two look-ups of names right after the booking failed. -/
theorem holds_iff_namesFail {d : Delivery} {raw : Json} {t : ConversationTable} {h₁ h₂ : History}
    {x : Exchange Request.Answer} {r : Except DeliveryError DeliveryOutcome}
    (one : InboundEvent.messages d.payload = [raw])
    (run : Program.Runs (s.handle d) (h₁ ++ x :: h₂) r)
    (faithful : t.Faithful (h₁ ++ x :: h₂)) (hx : Books x) :
    ∃ c p, Applied h₁ c ∧ c.context.booking = some p
      ∧ ((t.stored (h₁ ++ x :: h₂)).Holds c.key p ↔ NamesFail h₂) := by
  obtain ⟨⟨c, happ, p, hp, hholds⟩, -⟩ := s.settling_handle one t h₁ x h₂ r hx faithful run
  exact ⟨c, p, happ, hp, hholds⟩

/-! A text that completes a booking while nobody of the staff can be looked up. -/

namespace NamelessStaff

def account : AccountId := ⟨⟨1⟩⟩

def now : Instant := (Instant.ofSeconds? 1773023400).get rfl

def settings : ServiceSettings := ⟨⟨0, by decide, by decide⟩, 7, .standard⟩

def workflow : Workflow :=
  ⟨⟨⟨2⟩⟩, account, "Bookings", true, none, "token", .empty, now, now⟩

/-- Everything is known about the appointment but the name. -/
def progress : BookingProgress :=
  ⟨.enterName, "book", .book .standard, some ⟨1⟩, some ⟨2⟩, some ⟨3⟩, Date.ofDay? 20521, none⟩

def conversation : Conversation :=
  { Conversation.new workflow.id "919800000001" now with
    context := ⟨[], some progress, some (.start "book" [⟨"name", "Name?"⟩])⟩ }

def tables : BookingTables :=
  BookingTables.empty.changeAll [.addDepartment account "Dental" none,
    .addStaff account ⟨1⟩ "Dr. Rao",
    .addSlot account ⟨2⟩ .monday (.ofSecond 43200) 2]

def world : World :=
  { World.empty with
    workflows := [workflow]
    conversations := [conversation]
    stage := { BookingStage.empty with tables := tables, faults := ⟨["get_staff"], []⟩ } }

def message : Json :=
  .obj [("chat_id", .str "919800000001@s.whatsapp.net"), ("text", .obj [("body", .str "Ann")])]

def delivery : Delivery := ⟨account, "token", .obj [("messages", .arr [message])], now⟩

def asked : History := (settings.handle delivery).history (World.answer now) world

theorem faithful_asked : ConversationTable.Faithful [conversation] asked :=
  ⟨trivial, trivial, rfl, trivial, trivial, trivial, trivial, trivial, trivial, trivial, trivial,
    trivial⟩

theorem asked_eq : ∃ h₁ r b d e h₂, asked = h₁ ++ ⟨.booking (.create r), .ok (.created b)⟩ ::
    ⟨.booking (.getDepartment account ⟨1⟩), .ok d⟩ ::
      ⟨.booking (.getStaff account ⟨2⟩), .error e⟩ :: h₂ :=
  ⟨asked.take 5, _, _, _, _, asked.drop 8, rfl⟩

end NamelessStaff

open NamelessStaff in
theorem holds_namelessStaff : ∃ h₁ x h₂, asked = h₁ ++ x :: h₂ ∧ Books x
    ∧ ConversationTable.Faithful [conversation] asked
    ∧ ∃ c p, Applied h₁ c ∧ c.context.booking = some p
      ∧ (ConversationTable.stored [conversation] asked).Holds c.key p := by
  obtain ⟨h₁, r, b, d, e, h₂, hasked⟩ := asked_eq
  have one : InboundEvent.messages delivery.payload = [message] := rfl
  have hx : Books ⟨.booking (.create r), .ok (.created b)⟩ :=
    ⟨⟨.create r, .ok (.created b)⟩, trivial, rfl⟩
  have run := Program.runs_history (World.answer now) (settings.handle delivery) world
  change Program.Runs _ asked _ at run
  have faithful := faithful_asked
  refine ⟨h₁, _, _, hasked, hx, faithful, ?_⟩
  rw [hasked] at run faithful
  obtain ⟨c, p, happ, hp, hholds⟩ := settings.holds_iff_namesFail one run faithful hx
  rw [hasked]
  exact ⟨c, p, happ, hp, hholds.2 (.staff account ⟨1⟩ d ⟨2⟩ e h₂)⟩

end ServiceSettings

end Dialogue
