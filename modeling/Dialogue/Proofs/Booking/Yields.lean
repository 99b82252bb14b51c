import Dialogue.Proofs.Booking.Served

/-!
# Work on tables that answer

Tables in memory never fail, so on them work of a booking always comes to a result. `Yields` says
what the result is, with the context and the tables that are left; it goes through the work question
by question (`yields_ask`, `yields_read`).
-/

namespace Dialogue

namespace BookingTables

variable {α β : Type}

/-- On the tables, work ends well, with a result, a context and tables that `post` relates. -/
def Yields (t : BookingTables) (now : Instant) (w : BookingWork α) (c : Context)
    (post : α → Context → BookingTables → Prop) : Prop :=
  ∃ a c' t', (w c).run (reply now) t = ((.ok a, c'), t') ∧ post a c' t'

variable {t : BookingTables} {now : Instant} {c : Context}
  {post : β → Context → BookingTables → Prop}

theorem yields_pure {b : β} (h : post b c t) : t.Yields now (pure b) c post := ⟨b, c, t, rfl, h⟩

/-- What is said of a result only if there is one. -/
theorem yields_some {b : β} (h : post b c t) :
    t.Yields now (pure (some b)) c fun o c' t' => ∀ b, o = some b → post b c' t' := by
  refine yields_pure ?_
  rintro _ ⟨⟩
  exact h

theorem yields_ask {q : BookingQuery} {f : q.Answer → BookingWork β}
    (h : (answer now q t).2.Yields now (f (answer now q t).1) c post) :
    t.Yields now (BookingWork.ask q >>= f) c post := h

/-- What only reads leaves the tables as they are. -/
theorem yields_read {q : BookingQuery} {f : q.Answer → BookingWork β} (hq : q.changes = false)
    (h : t.Yields now (f (answer now q t).1) c post) :
    t.Yields now (BookingWork.ask q >>= f) c post := by
  refine yields_ask ?_
  rw [answer_of_not_changes now hq t]
  exact h

theorem yields_clear {f : PUnit → BookingWork β}
    (h : t.Yields now (f ⟨⟩) c.clearProgress post) :
    t.Yields now (BookingWork.clear >>= f) c post := h

theorem yields_keep {p : BookingProgress} {f : PUnit → BookingWork β}
    (h : t.Yields now (f ⟨⟩) { c with booking := some p } post) :
    t.Yields now (BookingWork.keep p >>= f) c post := h

theorem yields_keepQuestions {q : Questionnaire} {f : PUnit → BookingWork β}
    (h : t.Yields now (f ⟨⟩) { c with capture := some q } post) :
    t.Yields now (BookingWork.keepQuestions q >>= f) c post := h

theorem Yields.bind {w : BookingWork α} {f : α → BookingWork β}
    {mid : α → Context → BookingTables → Prop} (hw : t.Yields now w c mid)
    (hf : ∀ a c' t', mid a c' t' → t'.Yields now (f a) c' post) :
    t.Yields now (w >>= f) c post := by
  obtain ⟨a, c', t', run, h⟩ := hw
  obtain ⟨b, c'', t'', run', h'⟩ := hf a c' t' h
  refine ⟨b, c'', t'', ?_, h'⟩
  rw [Work.bind_apply, Program.run_bind, run]
  exact run'

theorem Yields.mono {w : BookingWork β} {post' : β → Context → BookingTables → Prop}
    (h : t.Yields now w c post) (weaken : ∀ b c' t', post b c' t' → post' b c' t') :
    t.Yields now w c post' := by
  obtain ⟨b, c', t', run, h⟩ := h
  exact ⟨b, c', t', run, weaken b c' t' h⟩

end BookingTables

end Dialogue
