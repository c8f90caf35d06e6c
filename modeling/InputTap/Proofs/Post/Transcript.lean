import InputTap.Proofs.Post.Records
import Mathlib.Data.List.Infix

/-!
# What an injector sees of a run of posts

Events that are posted one after the other until the first error are one stream of records to the
injector: those of the events before the first that has none (`Poster.stream`). `postAll_eq` is the
equation: posting submits the stream, and it ends with the refusal that the submission ended with,
if there was none with the fault of that first event, and otherwise well. A recorded injector keeps
what was submitted with the answers, and `submitAll_recorded` describes the transcript for answers
of any kind.
-/

set_option autoImplicit false

namespace InputTap.Post

variable {τ : Type}

/-- Records in the order of their submission, each with the answer to it. -/
abbrev Transcript : Type := List (Record × Except InjectionFault Unit)

/-- The records that were accepted. -/
def Transcript.accepted (t : Transcript) : List Record :=
  (t.filter fun s => s.2.isOk).map Prod.fst

/-- Records are submitted in order until the first refusal: their transcript, and the refusal. -/
inductive Submission : List Record → Transcript → Option (Record × InjectionFault) → Prop
  | done : Submission [] [] none
  | accepted (r : Record) {rs : List Record} {t : Transcript}
      {refusal : Option (Record × InjectionFault)} :
      Submission rs t refusal → Submission (r :: rs) ((r, .ok ()) :: t) refusal
  | refused (r : Record) (rs : List Record) (f : InjectionFault) :
      Submission (r :: rs) [(r, .error f)] (some (r, f))

namespace Submission

variable {rs : List Record} {t : Transcript} {refusal : Option (Record × InjectionFault)}

theorem submitted_isPrefix (h : Submission rs t refusal) : t.map Prod.fst <+: rs := by
  induction h with
  | done => exact List.prefix_rfl
  | accepted r _ ih => exact (List.prefix_cons_inj r).2 ih
  | refused r rs f => exact (List.prefix_cons_inj r).2 rs.nil_prefix

theorem accepted_isPrefix (h : Submission rs t refusal) : t.accepted <+: rs := by
  induction h with
  | done => exact List.prefix_rfl
  | accepted r _ ih => exact (List.prefix_cons_inj r).2 ih
  | refused r rs f => exact List.nil_prefix

/-- Every record is accepted exactly if there is no refusal. -/
theorem accepted_eq_iff (h : Submission rs t refusal) : t.accepted = rs ↔ refusal = none := by
  induction h with
  | done => exact iff_of_true rfl rfl
  | accepted r _ ih => exact (List.cons_inj_right r).trans ih
  | refused r rs f => exact iff_of_false (List.cons_ne_nil r rs).symm (Option.some_ne_none _)

/-- The refused record is the last that was submitted, and all before it were accepted. -/
theorem of_refusal {r : Record} {f : InjectionFault} (h : Submission rs t (some (r, f))) :
    t = t.accepted.map (·, .ok ()) ++ [(r, .error f)] := by
  generalize refused : some (r, f) = refusal at h
  induction h with
  | done => cases refused
  | accepted r' _ ih => exact congrArg ((r', .ok ()) :: ·) (ih refused)
  | refused r' rs f' =>
    cases refused
    rfl

/-- Whatever was refused is what the submission ended with. -/
theorem refusal_of_mem {r : Record} {f : InjectionFault} (h : Submission rs t refusal)
    (refused : (r, .error f) ∈ t) : refusal = some (r, f) := by
  induction h with
  | done => cases refused
  | accepted r' _ ih =>
    rcases List.mem_cons.1 refused with same | later
    · cases same
    · exact ih later
  | refused r' rs f' =>
    cases List.mem_singleton.1 refused
    rfl

end Submission

namespace Injector

/-- The injector with a transcript of what is submitted to it, after what is already there. -/
def recorded (i : Injector τ) (t : Transcript) : Injector (τ × Transcript) where
  submit r s := ((i.submit r s.1).1, (i.submit r s.1).2, s.2 ++ [(r, (i.submit r s.1).1)])
  state := (i.state, t)

section Answers

variable {i : Injector τ} {r : Record} {s : τ} (rs : List Record)

theorem submitAll_of_ok (h : i.submit r i.state = (.ok (), s)) :
    i.submitAll (r :: rs) = submitAll { i with state := s } rs := by
  rw [submitAll, h]

theorem submitAll_of_error {f : InjectionFault} (h : i.submit r i.state = (.error f, s)) :
    i.submitAll (r :: rs) = ({ i with state := s }, some (r, f)) := by
  rw [submitAll, h]

end Answers

/-- The transcript adds nothing and hides nothing: the submission goes as it does without one. -/
theorem submitAll_recorded (i : Injector τ) (t : Transcript) (rs : List Record) :
    ∃ t', Submission rs t' (i.submitAll rs).2 ∧
      (i.recorded t).submitAll rs =
        ((i.submitAll rs).1.recorded (t ++ t'), (i.submitAll rs).2) := by
  induction rs generalizing i t with
  | nil => exact ⟨[], .done, by rw [List.append_nil]; rfl⟩
  | cons r rs ih =>
    have noted : (i.recorded t).submit r (i.recorded t).state =
        ((i.submit r i.state).1, (i.submit r i.state).2, t ++ [(r, (i.submit r i.state).1)]) := rfl
    rcases answer : i.submit r i.state with ⟨f | _, s⟩
    · rw [answer] at noted
      rw [submitAll_of_error rs answer, submitAll_of_error rs noted]
      exact ⟨[(r, .error f)], .refused r rs f, rfl⟩
    · rw [answer] at noted
      rw [submitAll_of_ok rs answer, submitAll_of_ok rs noted]
      obtain ⟨t', submission, run⟩ := ih { i with state := s } (t ++ [(r, .ok ())])
      rw [List.append_assoc] at run
      exact ⟨(r, .ok ()) :: t', .accepted r submission, run⟩

/-- The second half of the records is submitted if none of the first half is refused. -/
theorem submitAll_append (i : Injector τ) (rs ss : List Record) :
    i.submitAll (rs ++ ss) =
      if (i.submitAll rs).2 = none then (i.submitAll rs).1.submitAll ss else i.submitAll rs := by
  induction rs generalizing i with
  | nil => rfl
  | cons r rs ih =>
    rw [List.cons_append]
    rcases answer : i.submit r i.state with ⟨f | _, s⟩
    · rw [submitAll_of_error rs answer, submitAll_of_error (rs ++ ss) answer]
      rfl
    · rw [submitAll_of_ok rs answer, submitAll_of_ok (rs ++ ss) answer, ih]

/-- An injector with a limit accepts records until it is reached and refuses the next one. -/
theorem submitAll_limited (n : Nat) (accepted rs : List Record) :
    (submitAll { limited (some n) with state := accepted } rs).1.state =
        accepted ++ rs.take (n - accepted.length) ∧
      ((submitAll { limited (some n) with state := accepted } rs).2 = none ↔
        rs.length ≤ n - accepted.length) := by
  induction rs generalizing accepted with
  | nil => simp [submitAll]
  | cons r rs ih =>
    by_cases full : n ≤ accepted.length
    · have refused : (limited (some n)).submit r accepted =
          (.error (.rejected "mock failure"), accepted) := by
        simp [limited, full]
      rw [submitAll_of_error rs refused]
      simp [Nat.sub_eq_zero_of_le full]
    · have room : n - accepted.length = n - (accepted ++ [r]).length + 1 := by
        rw [List.length_append, List.length_singleton]
        omega
      have taken : (limited (some n)).submit r accepted = (.ok (), accepted ++ [r]) := by
        simp [limited, full]
      obtain ⟨kept, ends⟩ := ih (accepted ++ [r])
      rw [submitAll_of_ok rs taken, room, List.take_succ_cons, List.length_cons,
        Nat.add_le_add_iff_right]
      exact ⟨kept.trans (List.append_assoc accepted [r] _), ends⟩

end Injector

namespace Poster

variable (p : Poster)

/-- Why an event has no records, if it has none. -/
def buildFault? (e : Event × Bool) : Option PostFault :=
  match p.records e.1 e.2 with
  | .ok _ => none
  | .error f => some f

/-- The records of the events before the first that has none, one after the other. -/
def stream (events : List (Event × Bool)) : List Record :=
  (events.takeWhile fun e => (p.buildFault? e).isNone).flatMap fun e => p.built e.1 e.2

/-- How a run of posts ends: with the refusal of a record, if there is none with the fault of an
event, and otherwise well. -/
def ending : Option (Record × InjectionFault) → Option PostFault → Except PostFault Unit
  | some (r, f), _ => .error (.injectionFailed r f)
  | none, some f => .error f
  | none, none => .ok ()

theorem ending_eq_ok_iff {refusal : Option (Record × InjectionFault)} {fault : Option PostFault} :
    ending refusal fault = .ok () ↔ refusal = none ∧ fault = none := by
  rcases refusal with _ | ⟨r, f⟩ <;> cases fault <;> simp [ending]

theorem buildFault?_eq_some_iff {e : Event × Bool} {f : PostFault} :
    p.buildFault? e = some f ↔ p.records e.1 e.2 = .error f := by
  unfold buildFault?
  cases p.records e.1 e.2 <;> simp

theorem buildFault?_eq_none_iff {e : Event × Bool} :
    p.buildFault? e = none ↔ ∃ rs, p.records e.1 e.2 = .ok rs := by
  unfold buildFault?
  cases p.records e.1 e.2 <;> simp

/-- That an event has no records is never put down to a refusal. -/
theorem buildFault?_ne_injectionFailed (e : Event × Bool) (r : Record) (f : InjectionFault) :
    p.buildFault? e ≠ some (.injectionFailed r f) := by
  rw [Ne, buildFault?_eq_some_iff]
  obtain ⟨⟨time, mask, kind⟩, moving⟩ := e
  have key : ∀ code up, ((p.keyRecord mask code up).map fun r => [r]) ≠
      .error (.injectionFailed r f) := by
    intro code up
    unfold keyRecord
    cases p.layout.virtual? code <;> simp [Except.map]
  have button : ∀ d up, p.buttonRecords moving d up ≠ .error (.injectionFailed r f) := by
    intro d up
    unfold buttonRecords
    cases d.button <;> simp
  cases kind with
  | hookEnabled => simp [records]
  | hookDisabled => simp [records]
  | key action d =>
    cases action with
    | pressed => exact key d.code false
    | released => exact key d.code true
    | typed => simp [records]
  | mouse action d =>
    cases action with
    | clicked => simp [records]
    | pressed => exact button d false
    | released => exact button d true
    | moved => simp [records]
    | dragged => simp [records]
  | wheel d => simp [records]

/-- A run ends with a refusal exactly if a record was refused. -/
theorem ending_eq_injectionFailed_iff (refusal : Option (Record × InjectionFault))
    (events : List (Event × Bool)) :
    (∃ r f, ending refusal (events.findSome? p.buildFault?) = .error (.injectionFailed r f)) ↔
      refusal ≠ none := by
  rcases refusal with _ | ⟨r, f⟩
  · refine iff_of_false ?_ (fun h => h rfl)
    rintro ⟨r, f, h⟩
    cases first : events.findSome? p.buildFault? with
    | none =>
      rw [first] at h
      cases h
    | some fault =>
      obtain ⟨e, -, own⟩ := List.exists_of_findSome?_eq_some first
      rw [first] at h
      cases h
      exact p.buildFault?_ne_injectionFailed e r f own
  · exact iff_of_true ⟨r, f, rfl⟩ (Option.some_ne_none _)

/-- An event that has no records leaves the injector as it was. -/
theorem post_of_fault (i : Injector τ) {e : Event × Bool} {f : PostFault}
    (h : p.records e.1 e.2 = .error f) :
    (p.post i e.1 e.2).injector = i ∧ (p.post i e.1 e.2).result = .error f := by
  rw [post, h]
  exact ⟨rfl, rfl⟩

/-- An event that has records submits them. -/
theorem post_of_built (i : Injector τ) {e : Event × Bool} {rs : List Record}
    (h : p.records e.1 e.2 = .ok rs) :
    (p.post i e.1 e.2).injector = (i.submitAll rs).1 ∧
      (p.post i e.1 e.2).result = ending (i.submitAll rs).2 none := by
  rw [post, h]
  dsimp only
  rcases i.submitAll rs with ⟨j, _ | ⟨r, f⟩⟩ <;> exact ⟨rfl, rfl⟩

/-- Posting events until the first error submits their stream, and a fault counts only if no record
of the stream was refused. -/
theorem postAll_eq (i : Injector τ) (events : List (Event × Bool)) :
    (p.postAll i events).injector = (i.submitAll (p.stream events)).1 ∧
      (p.postAll i events).result =
        ending (i.submitAll (p.stream events)).2 (events.findSome? p.buildFault?) := by
  induction events generalizing i with
  | nil => exact ⟨rfl, rfl⟩
  | cons e events ih =>
    unfold postAll
    -- The stream ends at an event without records, and goes on behind the records of any other.
    rcases records : p.records e.1 e.2 with f | rs
    · obtain ⟨same, result⟩ := p.post_of_fault i records
      have fault := p.buildFault?_eq_some_iff.2 records
      simp only [result, same, stream, List.takeWhile_cons, List.findSome?_cons, fault]
      exact ⟨rfl, rfl⟩
    · obtain ⟨submitted, result⟩ := p.post_of_built i records
      have fault := p.buildFault?_eq_none_iff.2 ⟨rs, records⟩
      have stream : p.stream (e :: events) = rs ++ p.stream events := by
        simp only [Poster.stream, List.takeWhile_cons, fault, Option.isNone_none, if_true,
          List.flatMap_cons, built, records]
      simp only [result, submitted, stream, List.findSome?_cons, fault,
        Injector.submitAll_append]
      rcases i.submitAll rs with ⟨j, _ | ⟨r, f⟩⟩
      · exact ih j
      · exact ⟨rfl, rfl⟩

/-- What is submitted by posting events until the first error, with the answers. -/
def transcript (i : Injector τ) (events : List (Event × Bool)) : Transcript :=
  (p.postAll (i.recorded []) events).injector.state.2

/-- What a run of posts that stops at the first error submits, and how it ends. -/
structure AllOrPrefix (i : Injector τ) (events : List (Event × Bool)) : Prop where
  /-- An event without records submits nothing. -/
  unbuilt : ∀ (e : Event × Bool) f, p.records e.1 e.2 = .error f →
    (p.post i e.1 e.2).injector = i ∧ (p.post i e.1 e.2).result = .error f
  /-- The records of any other event are submitted until the first refusal. -/
  built : ∀ (e : Event × Bool) rs, p.records e.1 e.2 = .ok rs → ∃ refusal,
    Submission rs (p.post (i.recorded []) e.1 e.2).injector.state.2 refusal ∧
      (p.post i e.1 e.2).result = ending refusal none
  /-- Keeping a transcript changes nothing. -/
  faithful :
    (p.postAll (i.recorded []) events).injector =
        (p.postAll i events).injector.recorded (p.transcript i events) ∧
      (p.postAll (i.recorded []) events).result = (p.postAll i events).result
  /-- The whole stream is submitted until the first refusal. -/
  submission : ∃ refusal, Submission (p.stream events) (p.transcript i events) refusal ∧
    (p.postAll i events).result = ending refusal (events.findSome? p.buildFault?)
  submitted : (p.transcript i events).map Prod.fst <+: p.stream events
  accepted : (p.transcript i events).accepted <+: p.stream events
  /-- Nothing is submitted after a refusal. -/
  refused : ∀ r f, (r, .error f) ∈ p.transcript i events →
    p.transcript i events = (p.transcript i events).accepted.map (·, .ok ()) ++ [(r, .error f)] ∧
      (p.postAll i events).result = .error (.injectionFailed r f)
  ok_iff : (p.postAll i events).result = .ok () ↔
    (∀ e ∈ events, ∃ rs, p.records e.1 e.2 = .ok rs) ∧
      (p.transcript i events).accepted = p.stream events

theorem allOrPrefix (i : Injector τ) (events : List (Event × Bool)) :
    p.AllOrPrefix i events := by
  obtain ⟨t, submission, recorded⟩ := i.submitAll_recorded [] (p.stream events)
  obtain ⟨injector, result⟩ := p.postAll_eq i events
  obtain ⟨injector', result'⟩ := p.postAll_eq (i.recorded []) events
  rw [recorded] at injector' result'
  have transcript : p.transcript i events = t := by
    rw [Poster.transcript, injector']
    rfl
  constructor
  case unbuilt => exact fun e f h => p.post_of_fault i h
  case built =>
    intro e rs h
    obtain ⟨t, submission, recorded⟩ := i.submitAll_recorded [] rs
    refine ⟨_, ?_, (p.post_of_built i h).2⟩
    rw [(p.post_of_built (i.recorded []) h).1, recorded]
    exact submission
  case faithful =>
    rw [injector', result', transcript, injector, result]
    exact ⟨rfl, rfl⟩
  case submission => exact ⟨_, transcript ▸ submission, result⟩
  case submitted => exact transcript ▸ submission.submitted_isPrefix
  case accepted => exact transcript ▸ submission.accepted_isPrefix
  case refused =>
    rw [transcript]
    intro r f h
    have refusal := submission.refusal_of_mem h
    rw [refusal] at submission
    rw [result, refusal]
    exact ⟨submission.of_refusal, rfl⟩
  case ok_iff =>
    rw [result, ending_eq_ok_iff, transcript, submission.accepted_eq_iff,
      List.findSome?_eq_none_iff, and_comm]
    simp only [buildFault?_eq_none_iff]

/-- An injector that accepts some number of records has accepted that many of the stream. -/
theorem postAll_limited (n : Nat) (events : List (Event × Bool)) :
    (p.postAll (.limited (some n)) events).injector.state =
        (p.stream events).take (min n (p.stream events).length) ∧
      ((∃ r f, (p.postAll (.limited (some n)) events).result = .error (.injectionFailed r f)) ↔
        n < (p.stream events).length) := by
  obtain ⟨kept, ends⟩ := Injector.submitAll_limited n [] (p.stream events)
  obtain ⟨injector, result⟩ := p.postAll_eq (.limited (some n)) events
  rw [injector, result, p.ending_eq_injectionFailed_iff, ← List.take_eq_take_min]
  exact ⟨kept, (not_congr ends).trans Nat.not_le⟩

/-- **Posting is all or a prefix.** For every poster, every injector and every list of events, what
is submitted is the stream of the events up to the first refusal (`AllOrPrefix`). An injector that
accepts `n` records in all has then accepted the first `n` of the stream, and the run ends with a
refusal exactly if there are more. -/
theorem postAll_all_or_prefix (i : Injector τ) (events : List (Event × Bool)) :
    p.AllOrPrefix i events ∧
      ∀ n, (p.postAll (.limited (some n)) events).injector.state =
          (p.stream events).take (min n (p.stream events).length) ∧
        ((∃ r f, (p.postAll (.limited (some n)) events).result =
            .error (.injectionFailed r f)) ↔ n < (p.stream events).length) :=
  ⟨p.allOrPrefix i events, fun n => p.postAll_limited n events⟩

end Poster

end InputTap.Post
