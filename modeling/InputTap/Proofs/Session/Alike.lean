import InputTap.Proofs.Session.Trace

/-!
# Sessions with consumers that answer alike

What happens at a call of a session does not depend on who listens (`Session.onCall_delivers`), and
a trace shows of a consumer nothing but its answers. So two sessions in the same phase, with the
same tracking and with consumers that answer alike, stay that way and have the same traces
(`Session.alike_onCall`), however different the consumers are inside.
-/

set_option autoImplicit false

namespace InputTap.Capture

variable {σ τ : Type}

namespace Consumer

variable {c : Consumer σ} {d : Consumer τ}

/-- The consumers give the same answers to whatever they receive from now on. -/
def Alike (c : Consumer σ) (d : Consumer τ) : Prop := ∀ es, c.replies es = d.replies es

theorem Alike.fed (h : c.Alike d) (es : List Event) : (c.fed es).Alike (d.fed es) := by
  intro fs
  have both := h (es ++ fs)
  rw [replies_append, replies_append, h es] at both
  exact List.append_cancel_left both

theorem Alike.verdictOn (h : c.Alike d) (e : Event) : c.verdictOn e = d.verdictOn e := by
  have first : (c.answer e c.state).1 = (d.answer e d.state).1 :=
    congrArg Prod.snd (List.cons.inj (h [e])).1
  exact congrArg Answer.verdict first

theorem Alike.verdictOnLead (h : c.Alike d) (x : Delivery) :
    c.verdictOnLead x = d.verdictOnLead x := by
  unfold Consumer.verdictOnLead
  cases x.lead with
  | none => rfl
  | some e => exact h.verdictOn e

end Consumer

namespace Dispatcher

variable {c : Consumer σ} {d : Consumer τ}

theorem trace_deliver_alike (h : c.Alike d) (x : Delivery) :
    ((register c).deliver x).2 = ((register d).deliver x).2 := by
  rw [trace_deliver_register, trace_deliver_register, h.verdictOnLead, h]

/-- Consumers that answer alike do so after a delivery. -/
theorem deliver_alike (h : c.Alike d) (x : Delivery) :
    ∃ (c' : Consumer σ) (d' : Consumer τ), ((register c).deliver x).1 = register c' ∧
      ((register d).deliver x).1 = register d' ∧ c'.Alike d' := by
  refine ⟨_, _, deliver_register c x, deliver_register d x, ?_⟩
  rw [trace_deliver_alike h]
  exact h.fed _

end Dispatcher

namespace Session

/-- The sessions are in the same phase with the same tracking, and their consumers answer alike. -/
structure Alike (s : Session σ) (t : Session τ) : Prop where
  phase : s.phase = t.phase
  tracking : s.normalizer.tracking = t.normalizer.tracking
  consumers : ∃ (c : Consumer σ) (d : Consumer τ), s.normalizer.dispatcher = .register c ∧
    t.normalizer.dispatcher = .register d ∧ c.Alike d

/-- Sessions that are alike stay alike, and their calls come to the same. -/
theorem alike_onCall {s : Session σ} {t : Session τ} (h : s.Alike t) (x : Surroundings × Call) :
    (s.onCall x).1.Alike (t.onCall x).1 ∧ (s.onCall x).2 = (t.onCall x).2 := by
  obtain ⟨phase, tracking, ds⟩ := s
  obtain ⟨_, _, dt⟩ := t
  obtain ⟨rfl, rfl, c, d, rfl, rfl, alike⟩ := h
  obtain ⟨delivery, phase', tracking', fault, delivers⟩ := onCall_delivers phase tracking x
  rw [delivers, delivers]
  constructor
  · exact ⟨rfl, rfl, Dispatcher.deliver_alike alike delivery⟩
  · rw [Dispatcher.trace_deliver_alike alike]

end Session

end InputTap.Capture
