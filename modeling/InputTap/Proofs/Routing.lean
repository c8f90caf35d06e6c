import InputTap.Proofs.Delivery
import InputTap.Proofs.Run

/-!
# Routing

Consumers come and go at a dispatcher, and events go to the one that is registered. What the
consumers know is a state that they all share: one with a state of its own uses a part of it that no
other touches, and `signed` has each of them put every event that it receives on a common `ledger`,
under the place of the call that registered it. The ledger then tells who received what, in order,
and `routes_to_registered` compares it with the calls.
-/

set_option autoImplicit false

namespace InputTap.Capture.Routing

variable {ω : Type}

/-- What a consumer makes of an event in view of what the consumers share. -/
abbrev Reaction (ω : Type) : Type := Event → ω → Answer × ω

/-- One call on a dispatcher. -/
inductive Call (ω : Type)
  | register (reaction : Reaction ω)
  | clear
  | dispatch (event : Event)

namespace Call

def isDispatch : Call ω → Bool
  | .dispatch _ => true
  | _ => false

/-- The event of a dispatch. -/
def event? : Call ω → Option Event
  | .dispatch e => some e
  | _ => none

end Call

/-- A dispatcher, and what the consumers share. -/
structure Desk (ω : Type) where
  dispatcher : Dispatcher ω := {}
  shared : ω

namespace Desk

/-- Carries out a call. A consumer takes over what is shared as the others have left it; only a
dispatch emits something. -/
def onCall (d : Desk ω) : Call ω → Desk ω × Option Emission
  | .register reaction => ({ d with dispatcher := .register ⟨reaction, d.shared⟩ }, none)
  | .clear => ({ d with dispatcher := .cleared }, none)
  | .dispatch e =>
    let r := d.dispatcher.dispatch e
    (⟨r.1, r.1.consumer?.elim d.shared Consumer.state⟩, some r.2)

end Desk

/-- The desk after a history of calls on a new dispatcher. -/
def after (start : ω) (calls : List (Call ω)) : Desk ω :=
  Run.final Desk.onCall { shared := start } calls

theorem after_append_singleton (start : ω) (calls : List (Call ω)) (c : Call ω) :
    after start (calls ++ [c]) = ((after start calls).onCall c).1 :=
  Run.final_append _ calls [c]

/-! ## Who is registered -/

/-- Who is registered from a call on, if that is up to the call: the consumer with its place, or no
one. -/
def settles? : Call ω × Nat → Option (Option (Nat × Reaction ω))
  | (.register reaction, place) => some (some (place, reaction))
  | (.clear, _) => some none
  | (.dispatch _, _) => none

/-- The consumer that is registered after a history, with the place of the call that registered it:
the one of the last registration, if it has not been cleared since. -/
def registered? (calls : List (Call ω)) : Option (Nat × Reaction ω) :=
  (calls.zipIdx.filterMap settles?).getLast?.join

theorem registered?_append_singleton (calls : List (Call ω)) (c : Call ω) :
    registered? (calls ++ [c]) = (settles? (c, calls.length)).getD (registered? calls) := by
  unfold registered?
  rw [List.zipIdx_append, List.filterMap_append, List.getLast?_append]
  cases c <;> simp [settles?]

/-- A consumer that is registered was registered by the call at its place. -/
theorem getElem?_of_registered? {calls : List (Call ω)} {r : Nat × Reaction ω}
    (h : registered? calls = some r) : calls[r.1]? = some (.register r.2) := by
  induction calls using List.reverseRecOn with
  | nil => cases h
  | append_singleton calls c ih =>
    rw [registered?_append_singleton] at h
    cases c with
    | register reaction =>
      obtain rfl := Option.some.inj h
      exact List.getElem?_concat_length
    | clear => cases h
    | dispatch e =>
      have earlier := ih h
      rw [List.getElem?_append_left (List.getElem?_eq_some_iff.1 earlier).1]
      exact earlier

/-- A consumer stays registered as long as events are dispatched; afterwards it is another one, from
a later place, if any. -/
theorem registered?_of_register (before : List (Call ω)) (reaction : Reaction ω)
    (later : List (Call ω)) :
    if later.all Call.isDispatch then
      registered? (before ++ .register reaction :: later) = some (before.length, reaction)
    else
      ∀ r, registered? (before ++ .register reaction :: later) = some r → before.length < r.1 := by
  induction later using List.reverseRecOn with
  | nil =>
    rw [registered?_append_singleton]
    rfl
  | append_singleton later c ih =>
    rw [← List.cons_append, ← List.append_assoc, registered?_append_singleton, List.all_append]
    cases c with
    | register other =>
      rw [if_neg (by simp [Call.isDispatch])]
      rintro r h
      obtain rfl := Option.some.inj h
      rw [List.length_append]
      exact Nat.lt_add_of_pos_right (Nat.succ_pos _)
    | clear =>
      rw [if_neg (by simp [Call.isDispatch])]
      exact nofun
    | dispatch e =>
      rw [show [Call.dispatch e].all Call.isDispatch = true from rfl, Bool.and_true]
      exact ih

/-! ## What a dispatch does -/

section Desks

variable (start : ω) (calls : List (Call ω))

/-- The dispatcher has the consumer that the history leaves registered, in the state that the
consumers share. -/
theorem dispatcher_after :
    (after start calls).dispatcher =
      ⟨(registered? calls).map fun r => ⟨r.2, (after start calls).shared⟩⟩ := by
  induction calls using List.reverseRecOn with
  | nil => rfl
  | append_singleton calls c ih =>
    rw [after_append_singleton, registered?_append_singleton]
    cases c with
    | register reaction => rfl
    | clear => rfl
    | dispatch e =>
      unfold Desk.onCall
      rw [ih]
      cases found : registered? calls <;> rfl

/-- A dispatch goes to the consumer that is registered, or nowhere. -/
theorem emission_dispatch (e : Event) :
    ((after start calls).onCall (.dispatch e)).2 =
      some ((registered? calls).elim (.dropped e) fun r =>
        .dispatched e (r.2 e (after start calls).shared).1) := by
  unfold Desk.onCall
  rw [dispatcher_after]
  cases registered? calls <;> rfl

/-- What is shared changes by a dispatch alone, as the consumer that is registered changes it. -/
theorem shared_append_singleton (c : Call ω) :
    (after start (calls ++ [c])).shared =
      match c, registered? calls with
      | .dispatch e, some r => (r.2 e (after start calls).shared).2
      | _, _ => (after start calls).shared := by
  rw [after_append_singleton]
  cases c with
  | register reaction => rfl
  | clear => rfl
  | dispatch e =>
    unfold Desk.onCall
    rw [dispatcher_after]
    cases registered? calls <;> rfl

end Desks

/-! ## The ledger -/

/-- Which events were received, in order, each under the place of the call that registered the
consumer. -/
abbrev Ledger : Type := List (Nat × Event)

/-- The consumer does what it did, and puts every event on the ledger. -/
def signedReaction (place : Nat) (reaction : Reaction ω) : Reaction (ω × Ledger) :=
  fun e s => ((reaction e s.1).1, (reaction e s.1).2, s.2 ++ [(place, e)])

def Call.signed (place : Nat) : Call ω → Call (ω × Ledger)
  | .register reaction => .register (signedReaction place reaction)
  | .clear => .clear
  | .dispatch e => .dispatch e

/-- The calls with consumers that put what they receive on the ledger. -/
def signed (calls : List (Call ω)) : List (Call (ω × Ledger)) :=
  calls.zipIdx.map fun c => c.1.signed c.2

theorem signed_append_singleton (calls : List (Call ω)) (c : Call ω) :
    signed (calls ++ [c]) = signed calls ++ [c.signed calls.length] := by
  unfold signed
  rw [List.zipIdx_append, List.map_append, Nat.zero_add]
  rfl

theorem length_signed (calls : List (Call ω)) : (signed calls).length = calls.length := by
  unfold signed
  rw [List.length_map, List.length_zipIdx]

theorem registered?_signed (calls : List (Call ω)) :
    registered? (signed calls) =
      (registered? calls).map fun r => (r.1, signedReaction r.1 r.2) := by
  induction calls using List.reverseRecOn with
  | nil => rfl
  | append_singleton calls c ih =>
    rw [signed_append_singleton, registered?_append_singleton, registered?_append_singleton,
      length_signed, ih]
    cases c <;> rfl

/-- What the consumers have put on the ledger. -/
def ledger (start : ω) (calls : List (Call ω)) : Ledger :=
  (after (start, []) (signed calls)).shared.2

/-- What the ledger has of one consumer. -/
def Ledger.under (l : Ledger) (place : Nat) : List Event :=
  l.filterMap fun r => if r.1 = place then some r.2 else none

/-- The entry that a call makes. -/
def receipt? (calls : List (Call ω)) (c : Call ω) : Option (Nat × Event) :=
  c.event?.bind fun e => (registered? calls).map fun r => (r.1, e)

section Ledgers

variable (start : ω) (calls : List (Call ω))

theorem ledger_append_singleton (c : Call ω) :
    ledger start (calls ++ [c]) = ledger start calls ++ (receipt? calls c).toList := by
  unfold ledger receipt?
  rw [signed_append_singleton, shared_append_singleton, registered?_signed]
  cases c with
  | register reaction => exact (List.append_nil _).symm
  | clear => exact (List.append_nil _).symm
  | dispatch e =>
    cases registered? calls with
    | none => exact (List.append_nil _).symm
    | some r => rfl

/-- Signing changes nothing of what the consumers share besides. -/
theorem shared_signed :
    (after (start, []) (signed calls)).shared.1 = (after start calls).shared := by
  induction calls using List.reverseRecOn with
  | nil => rfl
  | append_singleton calls c ih =>
    rw [signed_append_singleton, shared_append_singleton, shared_append_singleton,
      registered?_signed, ← ih]
    cases c with
    | register reaction => rfl
    | clear => rfl
    | dispatch e => cases registered? calls <;> rfl

/-- Signing changes nothing of what a call emits. -/
theorem emission_signed (c : Call ω) :
    ((after (start, []) (signed calls)).onCall (c.signed calls.length)).2 =
      ((after start calls).onCall c).2 := by
  cases c with
  | register reaction => rfl
  | clear => rfl
  | dispatch e =>
    show ((after (start, []) (signed calls)).onCall (.dispatch e)).2 = _
    rw [emission_dispatch, emission_dispatch, registered?_signed, ← shared_signed start calls]
    cases registered? calls <;> rfl

/-- What is on the ledger was received by a consumer that was registered. -/
theorem getElem?_of_mem_ledger {r : Nat × Event} (h : r ∈ ledger start calls) :
    ∃ reaction, calls[r.1]? = some (.register reaction) := by
  induction calls using List.reverseRecOn with
  | nil => cases h
  | append_singleton calls c ih =>
    have known : ∃ reaction, calls[r.1]? = some (.register reaction) := by
      rw [ledger_append_singleton] at h
      rcases List.mem_append.1 h with earlier | now
      · exact ih earlier
      · obtain ⟨e, -, entry⟩ := Option.bind_eq_some_iff.1 (Option.mem_toList.1 now)
        obtain ⟨s, found, rfl⟩ := Option.map_eq_some_iff.1 entry
        exact ⟨_, getElem?_of_registered? found⟩
    obtain ⟨reaction, found⟩ := known
    exact ⟨reaction, (List.getElem?_append_left (List.getElem?_eq_some_iff.1 found).1).trans found⟩

theorem under_ledger_append_singleton (c : Call ω) (place : Nat) :
    (ledger start (calls ++ [c])).under place =
      (ledger start calls).under place ++
        if (registered? calls).any fun r => r.1 = place then c.event?.toList else [] := by
  unfold Ledger.under
  rw [ledger_append_singleton, List.filterMap_append]
  congr 1
  unfold receipt?
  cases c.event? with
  | none => simp
  | some e =>
    cases registered? calls with
    | none => rfl
    | some r => by_cases own : r.1 = place <;> simp [own]

/-- Nobody has signed for a place that no call has yet. -/
theorem under_ledger_of_length_le {place : Nat} (h : calls.length ≤ place) :
    (ledger start calls).under place = [] := by
  refine List.filterMap_eq_nil_iff.2 fun r mem => ?_
  obtain ⟨reaction, found⟩ := getElem?_of_mem_ledger start calls mem
  have placed := (List.getElem?_eq_some_iff.1 found).1
  exact if_neg (by omega)

/-- A consumer receives what is dispatched from its registration on, until the next call that is no
dispatch. -/
theorem under_ledger_of_register (reaction : Reaction ω) (later : List (Call ω)) :
    (ledger start (calls ++ .register reaction :: later)).under calls.length =
      (later.takeWhile Call.isDispatch).filterMap Call.event? := by
  induction later using List.reverseRecOn with
  | nil =>
    rw [under_ledger_append_singleton, under_ledger_of_length_le _ _ (Nat.le_refl _)]
    exact ite_self []
  | append_singleton later c ih =>
    -- One more call tells something only while the consumer is still the one registered.
    have holder := registered?_of_register calls reaction later
    rw [← List.cons_append, ← List.append_assoc, under_ledger_append_singleton, ih,
      List.takeWhile_append]
    by_cases all : later.all Call.isDispatch = true
    · have during : later.takeWhile Call.isDispatch = later :=
        List.takeWhile_eq_self_iff.2 (List.all_eq_true.1 all)
      rw [if_pos all] at holder
      have present : (registered? (calls ++ .register reaction :: later)).any
          (fun r => r.1 = calls.length) = true := by
        rw [holder]
        exact decide_eq_true rfl
      rw [during, if_pos rfl, if_pos present, List.filterMap_append]
      cases c <;> rfl
    · have ended : (later.takeWhile Call.isDispatch).length ≠ later.length := fun same =>
        all (List.all_eq_true.2 (List.takeWhile_eq_self_iff.1
          ((List.takeWhile_sublist _).eq_of_length same)))
      have replaced : (registered? (calls ++ .register reaction :: later)).any
          (fun r => r.1 = calls.length) = false := by
        rw [if_neg all] at holder
        exact (Option.any_eq_false _ _).2 fun r found =>
          decide_eq_false (Nat.ne_of_gt (holder r found))
      rw [if_neg ended, replaced]
      exact List.append_nil _

end Ledgers

/-- The events that are dispatched while a consumer is registered. -/
def heard (calls : List (Call ω)) : List Event :=
  calls.zipIdx.filterMap fun c =>
    if (registered? (calls.take c.2)).isSome then c.1.event? else none

theorem heard_append_singleton (calls : List (Call ω)) (c : Call ω) :
    heard (calls ++ [c]) =
      heard calls ++ (if (registered? calls).isSome then c.event? else none).toList := by
  unfold heard
  rw [List.zipIdx_append, List.filterMap_append]
  congr 1
  · refine List.filterMap_congr fun p mem => ?_
    have earlier : p.2 ≤ calls.length := Nat.le_of_lt (List.snd_lt_of_mem_zipIdx mem)
    rw [List.take_append_of_le_length earlier]
  · have whole : (calls ++ [c]).take (0 + calls.length) = calls := by
      rw [Nat.zero_add, List.take_left]
    rw [List.zipIdx_singleton, List.filterMap_cons, whole]
    cases (if (registered? calls).isSome then c.event? else none : Option Event) <;> rfl

theorem map_event_ledger (start : ω) (calls : List (Call ω)) :
    (ledger start calls).map Prod.snd = heard calls := by
  induction calls using List.reverseRecOn with
  | nil => rfl
  | append_singleton calls c ih =>
    rw [ledger_append_singleton, heard_append_singleton, List.map_append, ih]
    unfold receipt?
    cases c.event? with
    | none => simp
    | some e => cases registered? calls <;> rfl

theorem heard_sublist (calls : List (Call ω)) :
    (heard calls).Sublist (calls.filterMap Call.event?) := by
  induction calls using List.reverseRecOn with
  | nil => exact .slnil
  | append_singleton calls c ih =>
    rw [heard_append_singleton, List.filterMap_append]
    refine ih.append ?_
    have own : [c].filterMap Call.event? = c.event?.toList := by
      rw [List.filterMap_cons]
      cases c.event? <;> rfl
    rw [own]
    split
    · exact .refl _
    · exact List.nil_sublist _

/-- The laws of routing, for consumers that start from something shared. -/
structure Routes (start : ω) (calls : List (Call ω)) : Prop where
  /-- A consumer receives what is dispatched from its registration to the next registration or
  clearing, in order and once each, and nothing later. -/
  received : ∀ before reaction later, calls = before ++ .register reaction :: later →
    (ledger start calls).under before.length =
      (later.takeWhile Call.isDispatch).filterMap Call.event?
  /-- Nobody else receives anything. -/
  by_registered : ∀ r ∈ ledger start calls, ∃ reaction, calls[r.1]? = some (.register reaction)
  /-- The verdict on an event is that of the one consumer registered, and to pass if there is
  none. -/
  verdict : ∀ before e later, calls = before ++ .dispatch e :: later →
    ((after start before).onCall (.dispatch e)).2.map Emission.verdict =
      some ((registered? before).elim .pass fun r =>
        (r.2 e (after start before).shared).1.verdict)
  /-- The next answer comes from what that consumer makes of the shared state, and the other calls
  leave it as it is. -/
  shared : ∀ before c later, calls = before ++ c :: later →
    (after start (before ++ [c])).shared =
      match c, registered? before with
      | .dispatch e, some r => (r.2 e (after start before).shared).2
      | _, _ => (after start before).shared
  /-- All receive together what is dispatched while someone is registered. -/
  merged : (ledger start calls).map Prod.snd = heard calls
  /-- No event is received twice. -/
  once : (heard calls).Sublist (calls.filterMap Call.event?)
  /-- The ledger only watches. -/
  watched : (after (start, []) (signed calls)).shared.1 = (after start calls).shared ∧
    ∀ before c later, calls = before ++ c :: later →
      ((after (start, []) (signed before)).onCall (c.signed before.length)).2 =
        ((after start before).onCall c).2

/-- **Events go to the consumer that is registered, and to no other.** Whatever consumers come and
go at a dispatcher, and whatever they make of what they share, each receives exactly the events that
are dispatched between its registration and the next change, in order; each dispatch answers with
the verdict of the consumer that is registered at that moment; and what all receive together is what
was dispatched while someone was registered, nothing twice. -/
theorem routes_to_registered (start : ω) (calls : List (Call ω)) : Routes start calls where
  received := by
    rintro before reaction later rfl
    exact under_ledger_of_register start before reaction later
  by_registered _ mem := getElem?_of_mem_ledger start calls mem
  verdict := by
    rintro before e later rfl
    rw [emission_dispatch]
    cases registered? before <;> rfl
  shared := by
    rintro before c later rfl
    exact shared_append_singleton start before c
  merged := map_event_ledger start calls
  once := heard_sublist calls
  watched := by
    refine ⟨shared_signed start calls, ?_⟩
    rintro before c later rfl
    exact emission_signed start before c

/-- The second consumer takes over from the first, and an event finds no one before the first or
after the second. -/
example (f g : Reaction ω) (start : ω) (a b c d e : Event) :
    ledger start [.dispatch a, .register f, .dispatch b, .dispatch c, .register g, .dispatch d,
      .clear, .dispatch e] = [(1, b), (1, c), (4, d)] := rfl

end InputTap.Capture.Routing
