import InputTap.Proofs.Replay.Loop
import InputTap.Proofs.Session.Alike

/-!
# Runs of sessions that are alike

A run sees of a session only what its calls come to. Runs of sessions that are alike take the same
signals, record the same verdicts, leave the same queue and end in the same way
(`Replay.run_alike`).
-/

set_option autoImplicit false

namespace InputTap.Capture

variable {σ τ : Type}

/-- Two queues have been taken equally far. -/
structure Drained.Alike (d : Drained σ) (e : Drained τ) : Prop where
  session : d.session.Alike e.session
  rest : d.rest = e.rest
  time : d.time = e.time
  verdicts : d.verdicts = e.verdicts
  trace : d.trace = e.trace
  restartFault : d.restartFault = e.restartFault
  result : d.result = e.result

/-- Two runs have come to the same. -/
structure RunEnd.Alike (d : RunEnd σ) (e : RunEnd τ) : Prop where
  session : d.session.Alike e.session
  replay : d.replay = e.replay
  trace : d.trace = e.trace
  result : d.result = e.result

namespace Session.Alike

variable {s : Session σ} {t : Session τ} (h : s.Alike t)

include h

theorem handle (w : Surroundings) (raw : RawInput) :
    (s.handle w raw).1.Alike (t.handle w raw).1 ∧ (s.handle w raw).2 = (t.handle w raw).2 := by
  obtain ⟨alike, same⟩ := alike_onCall h (w, .handle raw)
  exact ⟨alike, congrArg Reply.trace same⟩

theorem beginRestart :
    s.beginRestart.1.Alike t.beginRestart.1 ∧ s.beginRestart.2 = t.beginRestart.2 := by
  obtain ⟨alike, same⟩ := alike_onCall h ({}, .beginRestart)
  exact ⟨alike, congrArg Reply.trace same⟩

theorem finishRestart (w : Surroundings) :
    (s.finishRestart w).1.Alike (t.finishRestart w).1 ∧
      (s.finishRestart w).2 = (t.finishRestart w).2 := by
  obtain ⟨alike, same⟩ := alike_onCall h (w, .finishRestart)
  exact ⟨alike, congrArg Reply.trace same⟩

theorem stop (w : Surroundings) (time : Millis) :
    (s.stop w time).1.Alike (t.stop w time).1 ∧ (s.stop w time).2 = (t.stop w time).2 := by
  obtain ⟨alike, same⟩ := alike_onCall h (w, .stop time)
  exact ⟨alike, congrArg Reply.trace same⟩

end Session.Alike

/-- Sessions that are alike are closed alike. -/
theorem Drained.Alike.close {d : Drained σ} {e : Drained τ} (h : d.Alike e) (w : Surroundings) :
    (d.close w).1.Alike (e.close w).1 ∧ (d.close w).2 = (e.close w).2 := by
  unfold Drained.close
  rw [h.result, h.time]
  cases e.result with
  | none => exact ⟨h.session, rfl⟩
  | some result => exact h.session.stop w e.time

namespace Replay

/-- From sessions that are alike the same signals are taken. -/
theorem drain_alike (r : Replay) (w : Surroundings) (signals : List Signal) (owed : Nat)
    {s : Session σ} {t : Session τ} (h : s.Alike t) (time : Millis) :
    (r.drain w signals owed s time).Alike (r.drain w signals owed t time) := by
  induction signals generalizing owed s t time with
  | nil => cases owed <;> exact ⟨h, rfl, rfl, rfl, rfl, rfl, rfl⟩
  | cons x signals ih =>
    cases x with
    | stop => exact ⟨h, rfl, rfl, rfl, rfl, rfl, rfl⟩
    | restart =>
      obtain ⟨begun, noted⟩ := h.beginRestart
      unfold drain
      cases armed : r.restartFault with
      | some reason => exact ⟨begun, rfl, rfl, rfl, noted, rfl, rfl⟩
      | none =>
        obtain ⟨finished, renoted⟩ := begun.finishRestart w
        obtain ⟨session, rest, last, verdicts, trace, restartFault, result⟩ := ih owed finished time
        refine ⟨session, rest, last, verdicts, ?_, restartFault, result⟩
        show s.beginRestart.2 ++ _ ++ _ = t.beginRestart.2 ++ _ ++ _
        rw [noted, renoted, trace]
    | input raw =>
      -- Equal traces ask for equally many stops, so both queues grow alike.
      obtain ⟨handled, same⟩ := h.handle w raw
      obtain ⟨session, rest, last, verdicts, trace, restartFault, result⟩ :=
        ih (owed + r.granted (t.handle w raw).2.stops) handled raw.time
      simp only [drain, same]
      refine ⟨session, rest, last, ?_, ?_, restartFault, result⟩
      · exact congrArg ((t.handle w raw).2.verdict :: ·) verdicts
      · exact congrArg ((t.handle w raw).2 ++ ·) trace

/-- Runs of sessions that are alike come to the same. -/
theorem run_alike (r : Replay) (w : Surroundings) {s : Session σ} {t : Session τ}
    (h : s.Alike t) : (r.run w s).Alike (r.run w t) := by
  unfold run
  cases r.setupFault with
  | some reason => exact ⟨h, rfl, rfl, rfl⟩
  | none =>
    by_cases idle : s.phase = .idle
    · obtain ⟨started, same⟩ := Session.alike_onCall h (w, .start r.startTime)
      have taken := drain_alike r w r.queue
        (r.granted (t.onCall (w, .start r.startTime)).2.trace.stops) started r.startTime
      rw [Session.start_of_idle idle, Session.start_of_idle (h.phase ▸ idle)]
      simp only [same]
      generalize r.drain w r.queue _ (s.onCall (w, .start r.startTime)).1 r.startTime = d at taken ⊢
      generalize r.drain w r.queue _ (t.onCall (w, .start r.startTime)).1 r.startTime = e at taken ⊢
      obtain ⟨closed, ended⟩ := taken.close w
      obtain ⟨-, rest, -, verdicts, trace, restartFault, result⟩ := taken
      simp only [ended, rest, verdicts, trace, restartFault, result]
      exact ⟨closed, rfl, rfl, rfl⟩
    · rw [Session.start_of_ne_idle idle, Session.start_of_ne_idle (h.phase ▸ idle)]
      exact ⟨h, rfl, rfl, rfl⟩

end Replay

end InputTap.Capture
