import InputTap.Proofs.Key.Typed
import InputTap.Proofs.Normalizer.Events
import InputTap.Proofs.Normalizer.Locks
import InputTap.Proofs.Session.Received

/-!
# What a session types

A session reads its locks from the live keys when it starts and at the end of a restart, and in
between a lock switches at each handled press of its key that finds it up: `lockOn` is what the
calls of a session say of a lock, and the locks that the session follows are those
(`toggled_final`). What a press types then depends on the held keys and on caps lock as `TypesAs`
says (`types_by_shift_and_caps_lock`).
-/

set_option autoImplicit false

namespace InputTap.Capture

open Mask (isLock keyOf)

variable {σ : Type}

/-- The characters of the typed events that the consumer received. -/
def Trace.typed (t : Trace) : List (Option Char) :=
  (t.eventsOf [.key .typed]).map fun e => e.kind.keyData?.bind KeyData.char

/-- A consumer that passes everything hears of every character that a press types. -/
theorem Normalizer.typed_onInput {n : Normalizer σ} {c : Consumer σ}
    (hc : n.dispatcher = .register c) (passes : c.PassesAll) (w : Surroundings) (vk : VirtualKey)
    (extended : Bool) (time : Millis) :
    (n.onInput (w, .keyDown vk extended time)).2.typed =
      (w.layout.typed vk
        (n.tracking.step w (.keyDown vk extended time)).1.keys.typingMask).map some := by
  have events := n.events_onInput_of_passesAll hc passes w (.keyDown vk extended time)
  unfold Trace.typed Trace.eventsOf
  rw [events]
  show ((_ :: ((w.layout.typed vk _).map _).map _).filter _).map _ = _
  rw [List.filter_cons_of_neg Bool.false_ne_true, List.map_map, List.filter_eq_self.2]
  · rw [List.map_map]
    rfl
  · intro e he
    obtain ⟨ch, -, rfl⟩ := List.mem_map.1 he
    rfl

namespace Session

/-- The locks that the session takes to be on. -/
def toggled (s : Session σ) : Mask := s.normalizer.toggled

/-- The live keys that a call read, at a start or at the end of a restart. -/
def liveKeys? (st : CallStep σ) : Option SystemState :=
  match st.before.phase, st.input with
  | .idle, (w, .start _) | .restarting, (w, .finishRestart) => some w.system
  | _, _ => none

/-- How a call set the lock of a bit; a bit that is no lock's is never on. -/
def setsLock? (i : Fin 16) (st : CallStep σ) : Option Bool :=
  (liveKeys? st).map fun system => isLock i && system.isToggled (keyOf i)

/-- The call handled an input that switches the lock of a bit. -/
def switching (i : Fin 16) (st : CallStep σ) : Bool :=
  match st.before.phase, st.input.2 with
  | .running, .handle raw => st.before.normalizer.tracking.switches i raw
  | _, _ => false

/-- A lock is on as the live keys showed it last, switched over once for each later press, handled
while the session was running, that found its key up. -/
def lockOn (i : Fin 16) (sts : List (CallStep σ)) : Bool :=
  Run.switchAt (setsLock? i) (switching i) false sts

theorem has_toggled_reread (n : Normalizer σ) (system : SystemState) (i : Fin 16) :
    (n.reread system).toggled.has i = (isLock i && system.isToggled (keyOf i)) :=
  Mask.has_collect_lockKeys system.isToggled i

section Steps

variable {s : Session σ} (w : Surroundings) (i : Fin 16)

theorem lock_of_not_accepts {x : Surroundings × Call} (h : accepts s.phase x.2 = false) :
    setsLock? i (Run.stepOf onCall s x) = none ∧ switching i (Run.stepOf onCall s x) = false := by
  obtain ⟨phase, n⟩ := s
  obtain ⟨w, call⟩ := x
  cases call <;> cases phase <;> cases h <;> exact ⟨rfl, rfl⟩

theorem lock_start (h : s.phase = .idle) (time : Millis) :
    setsLock? i (Run.stepOf onCall s (w, .start time)) =
      some (isLock i && w.system.isToggled (keyOf i)) := by
  obtain ⟨phase, n⟩ := s
  subst h
  rfl

theorem lock_finishRestart (h : s.phase = .restarting) :
    setsLock? i (Run.stepOf onCall s (w, .finishRestart)) =
      some (isLock i && w.system.isToggled (keyOf i)) := by
  obtain ⟨phase, n⟩ := s
  subst h
  rfl

theorem lock_handle (h : s.phase = .running) (raw : RawInput) :
    setsLock? i (Run.stepOf onCall s (w, .handle raw)) = none ∧
      switching i (Run.stepOf onCall s (w, .handle raw)) =
        s.normalizer.tracking.switches i raw := by
  obtain ⟨phase, n⟩ := s
  subst h
  exact ⟨rfl, rfl⟩

theorem lock_beginRestart :
    setsLock? i (Run.stepOf onCall s (w, .beginRestart)) = none ∧
      switching i (Run.stepOf onCall s (w, .beginRestart)) = false := by
  obtain ⟨phase, n⟩ := s
  cases phase <;> exact ⟨rfl, rfl⟩

theorem lock_stop (time : Millis) :
    setsLock? i (Run.stepOf onCall s (w, .stop time)) = none ∧
      switching i (Run.stepOf onCall s (w, .stop time)) = false := by
  obtain ⟨phase, n⟩ := s
  cases phase <;> exact ⟨rfl, rfl⟩

end Steps

/-- A call sets a lock or switches it over as it says, and leaves the others. -/
theorem has_toggled_onCall (s : Session σ) (x : Surroundings × Call) (i : Fin 16) :
    (s.onCall x).1.toggled.has i =
      (setsLock? i (Run.stepOf onCall s x)).getD
        (Bool.xor (s.toggled.has i) (switching i (Run.stepOf onCall s x))) := by
  have kept : setsLock? i (Run.stepOf onCall s x) = none ∧
        switching i (Run.stepOf onCall s x) = false →
      (s.onCall x).1.toggled = s.toggled → (s.onCall x).1.toggled.has i =
        (setsLock? i (Run.stepOf onCall s x)).getD
          (Bool.xor (s.toggled.has i) (switching i (Run.stepOf onCall s x))) := by
    rintro ⟨unset, unswitched⟩ same
    simp [same, unset, unswitched]
  by_cases accepted : accepts s.phase x.2 = true
  · obtain ⟨w, call⟩ := x
    cases call with
    | start time =>
      have idle : s.phase = .idle := beq_iff_eq.1 accepted
      rw [lock_start w i idle, onCall_start w idle]
      exact has_toggled_reread s.normalizer w.system i
    | handle raw =>
      have running : s.phase = .running := beq_iff_eq.1 accepted
      obtain ⟨unset, switched⟩ := lock_handle w i running raw
      rw [unset, switched, onCall_handle w running]
      exact s.normalizer.tracking.has_toggled_step w raw i
    | beginRestart =>
      apply kept (lock_beginRestart w i)
      rw [onCall_beginRestart w (beq_iff_eq.1 accepted)]
      rfl
    | finishRestart =>
      have restarting : s.phase = .restarting := beq_iff_eq.1 accepted
      obtain ⟨ns, h⟩ := onCall_finishRestart w restarting
      rw [lock_finishRestart w i restarting, h]
      exact has_toggled_reread s.normalizer w.system i
    | stop time =>
      apply kept (lock_stop w i time)
      by_cases idle : s.phase = .idle
      · rw [onCall_stop_idle w idle]
        rfl
      · rw [onCall_stop w (isActive_of_stop accepted idle)]
        rfl
  · have ignored : accepts s.phase x.2 = false := Bool.not_eq_true _ ▸ accepted
    apply kept (lock_of_not_accepts i ignored)
    rw [(onCall_of_not_accepts ignored).1]

/-- The locks of a session are on as its calls say. -/
theorem toggled_final (d : Dispatcher σ) (calls : List (Surroundings × Call)) (i : Fin 16) :
    (Run.final onCall (new d) calls).toggled.has i =
      lockOn i (Run.steps onCall (new d) calls) := by
  have start : (new d).toggled.has i = false := Mask.has_empty i
  have history := Run.switch_final (setsLock? i) (switching i)
    (fun s : Session σ => s.toggled.has i) (fun s x => has_toggled_onCall s x i) (new d) calls
  rw [history, start]
  rfl

/-- Only locks are ever on. -/
theorem toggled_of_not_lock (d : Dispatcher σ) (calls : List (Surroundings × Call)) {i : Fin 16}
    (other : isLock i = false) : (Run.final onCall (new d) calls).toggled.has i = false := by
  have start : (new d).toggled.has i = false := Mask.has_empty i
  refine Run.final_of_invariant (f := onCall)
    (fun s : Session σ => s.toggled.has i = false) ?_ start calls
  intro s x off
  have unset : (setsLock? i (Run.stepOf onCall s x)).getD false = false := by
    unfold setsLock?
    cases liveKeys? (Run.stepOf onCall s x) <;> simp [other]
  have unswitched : switching i (Run.stepOf onCall s x) = false := by
    unfold switching
    split
    · simp [Tracking.switches, other]
    · rfl
  rw [has_toggled_onCall, off, unswitched]
  exact unset

/-- What a press of a key types under the held keys, while caps lock is on or off. -/
structure TypesAs (vk : VirtualKey) (held : Mask) (capsLock : Bool) (typed : List (Option Char)) :
    Prop where
  chord : held.hasAny Mask.chordBits = true → typed = []
  /-- A letter key types its letter, in upper case if either shift or caps lock asks for it. -/
  letter : held.hasAny Mask.chordBits = false → 0x41 ≤ vk → vk ≤ 0x5A →
    ∃ ch, typed = [some ch] ∧ ch.toUpper = Char.ofNat vk.toNat ∧
      (ch.isUpper = true ↔ held.hasAny Mask.shiftBits ≠ capsLock)
  /-- Any other key types at most one character, which hangs on shift alone. -/
  other : held.hasAny Mask.chordBits = false → ¬ (0x41 ≤ vk ∧ vk ≤ 0x5A) →
    typed = (Layout.symbol? vk (held.hasAny Mask.shiftBits)).toList.map some

theorem typesAs_standard {vk : VirtualKey} {held mask : Mask} {capsLock : Bool}
    (chord : mask.hasAny Mask.chordBits = held.hasAny Mask.chordBits)
    (shift : mask.hasAny Mask.shiftBits = held.hasAny Mask.shiftBits)
    (caps : Layout.isLetter vk = true → mask.has Mask.capsLockBit = capsLock) :
    TypesAs vk held capsLock ((Layout.standard.typed vk mask).map some) := by
  rw [Layout.typed_standard, chord, shift]
  constructor
  case chord =>
    intro held
    rw [if_pos held]
    rfl
  case letter =>
    intro free low high
    have isLetter : Layout.isLetter vk = true := Layout.isLetter_iff.2 ⟨low, high⟩
    rw [if_neg (by rw [free]; exact Bool.false_ne_true), if_pos isLetter, caps isLetter]
    obtain ⟨own, upper⟩ := Layout.letter_cases isLetter (held.hasAny Mask.shiftBits != capsLock)
    refine ⟨_, rfl, own, ?_⟩
    rw [upper]
    exact bne_iff_ne
  case other =>
    intro free other
    have notLetter : ¬ Layout.isLetter vk = true := fun h => other (Layout.isLetter_iff.1 h)
    rw [if_neg (by rw [free]; exact Bool.false_ne_true), if_neg notLetter]

/-- A session whose consumer passes everything keeps such a consumer. -/
theorem passing_final {c : Consumer σ} (passes : c.PassesAll)
    (calls : List (Surroundings × Call)) :
    ∃ c', (Run.final onCall (new (.register c)) calls).normalizer.dispatcher = .register c' ∧
      c'.PassesAll := by
  refine Run.final_of_invariant (f := onCall)
    (fun s : Session σ => ∃ c', s.normalizer.dispatcher = .register c' ∧ c'.PassesAll) ?_
    ⟨c, rfl, passes⟩ calls
  rintro s x ⟨c', hc, passes'⟩
  exact ⟨_, dispatcher_onCall hc x, passes'.fed _⟩

section TypingMask

variable {t : Tracking} (off : ∀ i, isLock i = false → t.keys.toggled.has i = false)
  (w : Surroundings) (vk : VirtualKey) (extended : Bool) (time : Millis)

include off in
/-- Apart from the locks, characters are looked up with the held keys. -/
theorem has_typingMask_of_not_lock {i : Fin 16} (other : isLock i = false) :
    (t.step w (.keyDown vk extended time)).1.keys.typingMask.has i =
      (t.step w (.keyDown vk extended time)).1.keys.held.has i := by
  have unswitched : t.switches i (.keyDown vk extended time) = false := by
    simp [Tracking.switches, other]
  have still := t.has_toggled_step w (.keyDown vk extended time) i
  rw [off i other, unswitched] at still
  rw [HeldKeys.has_typingMask, still, other]
  simp

/-- A letter key is not that of caps lock, so its press looks up characters with caps lock as it
stands. -/
theorem has_typingMask_capsLock (letter : Layout.isLetter vk = true) :
    (t.step w (.keyDown vk extended time)).1.keys.typingMask.has Mask.capsLockBit =
      t.keys.toggled.has Mask.capsLockBit := by
  have other : vk ≠ keyOf Mask.capsLockBit := by
    rintro rfl
    exact absurd letter (by decide)
  have unswitched : t.switches Mask.capsLockBit (.keyDown vk extended time) = false := by
    simp [Tracking.switches, RawInput.isDownOf, other]
  have lock : isLock Mask.capsLockBit = true := by decide
  rw [HeldKeys.has_typingMask, t.has_toggled_step, unswitched, lock]
  simp

include off in
/-- A press types by the keys that it leaves held and by caps lock as it stands. -/
theorem typesAs_keyDown :
    TypesAs vk (t.step w (.keyDown vk extended time)).1.keys.held
      (t.keys.toggled.has Mask.capsLockBit)
      ((Layout.standard.typed vk
        (t.step w (.keyDown vk extended time)).1.keys.typingMask).map some) := by
  have apart : ∀ i ∈ Mask.chordBits ++ Mask.shiftBits, isLock i = false := by decide
  apply typesAs_standard
  · apply Mask.hasAny_congr
    intro i hi
    exact has_typingMask_of_not_lock off w vk extended time (apart i (List.mem_append_left _ hi))
  · apply Mask.hasAny_congr
    intro i hi
    exact has_typingMask_of_not_lock off w vk extended time (apart i (List.mem_append_right _ hi))
  · exact has_typingMask_capsLock w vk extended time

end TypingMask

/-- **Typed letters follow shift and caps lock.** In every life of a session whose consumer passes
everything, a key that goes down while the session is running types nothing under a held chord key.
Otherwise a letter key types its letter, in upper case exactly if either a shift key is held or caps
lock is on, and every other key types what it does with or without shift. Caps lock is on as the
last start or restart read it, switched over by each later press that found its key up, and it makes
no difference whether that key is held. -/
theorem types_by_shift_and_caps_lock {c : Consumer σ} (passes : c.PassesAll)
    (calls : List (Surroundings × Call)) (w : Surroundings) (vk : VirtualKey) (extended : Bool)
    (time : Millis) (running : (Run.final onCall (new (.register c)) calls).phase = .running) :
    let input := ({ w with layout := .standard }, Call.handle (.keyDown vk extended time))
    let answer := (Run.final onCall (new (.register c)) calls).onCall input
    TypesAs vk answer.1.held
      (lockOn Mask.capsLockBit (Run.steps onCall (new (.register c)) calls))
      answer.2.trace.typed := by
  intro input answer
  obtain ⟨c', registered, passes'⟩ := passing_final passes calls
  have handled := onCall_handle input.1 running (.keyDown vk extended time)
  have typed := Normalizer.typed_onInput registered passes' input.1 vk extended time
  have locks := toggled_final (.register c) calls Mask.capsLockBit
  show TypesAs vk (Session.onCall _ input).1.held _ (Session.onCall _ input).2.trace.typed
  rw [handled, ← locks]
  show TypesAs vk _ _ (Normalizer.onInput _ _).2.typed
  rw [typed]
  apply typesAs_keyDown
  intro i other
  exact toggled_of_not_lock (.register c) calls other

/-- Caps lock was off at the start, its press switches it on, and the repetition of that press does
not switch it back: the letter key types an upper case letter, though caps lock is still held. -/
theorem types_upper_case_while_caps_lock_repeats :
    let calls : List (Surroundings × Call) :=
      [({}, .start 0), ({}, .handle (.keyDown VirtualKey.capsLock false 1)),
        ({}, .handle (.keyDown VirtualKey.capsLock false 2))]
    let session := Run.final onCall (new (.register Consumer.passing)) calls
    let answer := session.onCall ({}, .handle (.keyDown 0x41 false 3))
    Consumer.passing.PassesAll ∧ session.phase = .running ∧
      lockOn Mask.capsLockBit (Run.steps onCall (new (.register Consumer.passing)) calls) = true ∧
      TypesAs 0x41 answer.1.held true answer.2.trace.typed ∧
      answer.2.trace.typed = [some 'A'] := by
  intro calls session answer
  have on : lockOn Mask.capsLockBit (Run.steps onCall (new (.register Consumer.passing)) calls) =
      true := by decide
  have types := types_by_shift_and_caps_lock Consumer.passesAll_passing calls {} 0x41 false 3 rfl
  rw [on] at types
  exact ⟨Consumer.passesAll_passing, rfl, on, types, by decide⟩

end Session

end InputTap.Capture
