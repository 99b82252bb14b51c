import Dialogue.Proofs.Conversation.Stored
import Dialogue.Proofs.Delivery.Histories

/-!
# After a booking

Once a booking was made or moved its step either fails, by a look-up of a name, or goes on as a
chain. A chain behind it saves the conversation at least once, and whatever it saves is in the
middle of nothing or at the first step of a flow (`fresh_stored_runChain`). A step that fails saves
nothing (`not_saves_finishBooking`).
-/

namespace Dialogue

open ConversationTable

/-- A booking was made or moved. -/
def Books (x : Exchange Request.Answer) : Prop :=
  ∃ y : BookingExchange, y.Writes ∧ x = y.inService

/-- A history starts with the look-ups of the names of a booking, of which one fails. -/
inductive NamesFail : History → Prop
  | department (account : AccountId) (id : DepartmentId) (e : BookingError) (h : History) :
    NamesFail (⟨.booking (.getDepartment account id), .error e⟩ :: h)
  | staff (account : AccountId) (id : DepartmentId) (d : Option Department) (id' : StaffId)
    (e : BookingError) (h : History) :
    NamesFail (⟨.booking (.getDepartment account id), .ok d⟩ ::
      ⟨.booking (.getStaff account id'), .error e⟩ :: h)

theorem Books.selects {x : Exchange Request.Answer} (h : Books x) : x.1.Selects := by
  obtain ⟨⟨q, r⟩, hy, rfl⟩ := h
  cases q <;> first | exact hy.elim | trivial

theorem not_books_of_selectless {α : Type} {p : Service α} (hp : Selectless p) {h : History} {a : α}
    (run : p.Runs h a) : ∀ x ∈ h, ¬ Books x :=
  fun x hx hb => (hp h a run).1 x hx hb.selects

/-- Where a booking was written through a service, it was written in the booking's own history. -/
theorem runs_ofBooking_at {α : Type}
    {p : Program BookingQuery (fun q => Except BookingError q.Answer) α} {h₁ h₂ : History}
    {x : Exchange Request.Answer} {a : α} (run : (Service.ofBooking p).Runs (h₁ ++ x :: h₂) a)
    (hx : Books x) : ∃ g₁ y g₂, h₁ = g₁.map BookingExchange.inService ∧ y.Writes
      ∧ h₂ = g₂.map BookingExchange.inService ∧ p.Runs (g₁ ++ y :: g₂) a := by
  obtain ⟨g, hg, run'⟩ := runs_ofBooking.1 run
  obtain ⟨g₁, g', rfl, rfl, hg'⟩ := List.map_eq_append_iff.1 hg.symm
  obtain ⟨y, g₂, rfl, rfl, rfl⟩ := List.map_eq_cons_iff.1 hg'
  obtain ⟨z, hz, hyz⟩ := hx
  obtain rfl := inService_injective hyz
  exact ⟨g₁, y, g₂, rfl, hz, rfl, run'⟩

theorem Books.not_saves {x : Exchange Request.Answer} (h : Books x) : ¬ Saves x := by
  obtain ⟨y, -, rfl⟩ := h
  rintro ⟨c, ⟨⟩⟩

theorem not_saves_inService (x : BookingExchange) : ¬ Saves x.inService := by
  rintro ⟨c, ⟨⟩⟩

/-! ## A chain behind a booking -/

/-- The context is in the middle of nothing, or at the first step of a flow. -/
def Context.Fresh (c : Context) : Prop := ∀ p, c.booking = some p → p.step.IsFirst

theorem BookingProgress.Starting.isFirst {p : BookingProgress} (h : p.Starting) :
    p.step.IsFirst := by
  obtain ⟨id, ⟨settings, rfl⟩ | ⟨settings, rfl⟩⟩ := h
  · exact .inl rfl
  · exact .inr rfl

theorem Context.booking_set (c : Context) (key : String) (value : Json) :
    (c.set key value).booking = c.booking := by
  unfold Context.set
  split <;> rfl

/-- Executing nodes keeps a conversation fresh, and saves it only so. -/
def ChainScope.fresh (e : ChainScope) (key : ConversationKey) : NodeContract e where
  conversation c := c.key = key ∧ c.context.Fresh
  exchange x := ¬ x.1.Selects ∧ SavesOnly key (fun c => c.context.Fresh) x
  failure _ := True
  advance _ _ h := h
  set c k v h := ⟨h.1, fun p hp => h.2 p (by rwa [Context.booking_set] at hp)⟩
  clear _ h := ⟨h.1, fun _ hp => by cases hp⟩
  start _ p hp h := ⟨h.1, fun q hq => by cases hq; exact hp.isFirst⟩
  ask x hx := by
    refine ⟨e.selectless.ask x hx, fun c hc => ?_⟩
    rw [hc] at hx
    exact hx.elim
  save _ _ h := ⟨id, fun _ hc => by cases hc; exact h⟩
  fail _ _ := trivial

/-- A chain that starts with the step of a node that the graph does not have does nothing. -/
theorem ChainScope.run_flowStep_of_none {e : ChainScope} {c : Conversation} {id : NodeId}
    {step : FlowStep} (gone : e.workflow.graph.node? id = none) :
    e.run c (.flowStep id step) = .done (⟨[], none⟩, c) := by
  unfold ChainScope.run
  dsimp only [ChainScope.drive]
  rw [gone]
  rfl

namespace EventScope

open DeliveryWork

variable (e : EventScope) {h : History}

theorem saves_flowStep {s : ChainScope} {node : Node} {id : NodeId} {step : FlowStep}
    (hn : s.workflow.graph.node? id = some node) {c : Conversation}
    {r : ChainReport × Conversation} (run : (s.run c (.flowStep id step)).Runs h r) :
    ∃ x ∈ h, Saves x := by
  unfold ChainScope.run at run
  dsimp only [ChainScope.drive] at run
  rw [hn] at run
  obtain ⟨r, h', rfl, -⟩ := run
  exact ⟨_, List.mem_cons_self, _, rfl⟩

theorem saves_finish {w : Workflow} {report : ChainReport} {c : Conversation}
    (hr : report.error = none) {r : Except DeliveryError Unit}
    (run : Program.Runs (e.finish w report c) h r) : ∃ x ∈ h, Saves x := by
  unfold finish at run
  rw [hr] at run
  obtain ⟨id, h, rfl, a, h', rfl, b, h'', rfl, -⟩ := run
  exact ⟨⟨.saveConversation c, b⟩, by simp, c, rfl⟩

/-- Behind a booking the chain saves the conversation or ends well, and then it is saved at the
end. -/
theorem saves_runChain {w : Workflow} {c : Conversation} {id : NodeId} {step : FlowStep}
    {r : Except DeliveryError Unit}
    (run : Program.Runs (e.runChain w c (.flowStep id step)) h r) : ∃ x ∈ h, Saves x := by
  unfold runChain at run
  rcases runs_bind run with ⟨h₁, a, h₂, rfl, run₁, run₂⟩ | ⟨err, run₁, rfl⟩
  · obtain ⟨_, ⟨⟩, run₁⟩ := runs_lift run₁
    cases hn : (e.chain w).workflow.graph.node? id with
    | none =>
      rw [ChainScope.run_flowStep_of_none hn] at run₁
      obtain ⟨rfl, rfl⟩ := run₁
      obtain ⟨x, hx, hs⟩ := e.saves_finish rfl run₂
      exact ⟨x, List.mem_append_right _ hx, hs⟩
    | some node =>
      obtain ⟨x, hx, hs⟩ := saves_flowStep hn run₁
      exact ⟨x, List.mem_append_left _ hx, hs⟩
  · obtain ⟨_, ⟨⟩, -⟩ := runs_lift run₁

/-- A step that fails is logged and saves nothing. -/
theorem not_saves_finishBooking {w : Workflow} {c : Conversation} {node : NodeId}
    {err : BookingError} {r : Except DeliveryError Unit}
    (run : Program.Runs (e.finishBooking w c node err) h r) :
    (∀ x ∈ h, ¬ Saves x) ∧ r = .ok () := by
  unfold finishBooking finish at run
  obtain ⟨id, h, rfl, a, h', rfl, rfl, rfl⟩ := run
  refine ⟨fun x hx => ?_, rfl⟩
  simp only [List.mem_cons, List.not_mem_nil, or_false] at hx
  rcases hx with rfl | rfl <;> rintro ⟨c, ⟨⟩⟩

/-- A chain behind a booking leaves no conversation that is behind a first step. -/
theorem fresh_stored_runChain {w : Workflow} {c : Conversation} {id : NodeId} {step : FlowStep}
    {r : Except DeliveryError Unit} {t : ConversationTable} (hc : c.context.booking = none)
    (faithful : t.Faithful h) (run : Program.Runs (e.runChain w c (.flowStep id step)) h r) :
    ∃ d, (t.stored h).find? c.key = some d ∧ d.context.Fresh := by
  have hfresh : c.context.Fresh := fun p hp => by rw [hc] at hp; cases hp
  have asks := e.asks_runChain ((e.chain w).fresh c.key) (fun _ => trivial)
    (fun _ => ⟨fun hs => hs, fun _ hd => by cases hd⟩)
    (fun _ _ _ => ⟨fun hs => hs, fun _ hd => by cases hd⟩) ⟨rfl, hfresh⟩ (.flowStep id step)
  exact stored_of_saves faithful (fun x hx => ((asks h r run).1 x hx).2) (e.saves_runChain run)

end EventScope

end Dialogue
