import InputTap.Post.Poster
import InputTap.Proofs.Key.Places
import InputTap.Proofs.Run

/-!
# What posting submits

`Poster.built` lists the records of an event, none when it cannot be posted, and `Poster.outcome`
tells whether it can. `Injector.fed` is an injector after it has taken in some records, and for an
injector that accepts everything posting comes to just that: `onEvent_of_acceptsAll` for one event,
`final_onEvent` and `outputs_onEvent` for events posted one after the other, whether they fail or
not. With the standard layout a key has a record unless it is undefined
(`keyRecord_of_toVirtual?`, `keyRecord_undefined`).
-/

set_option autoImplicit false

namespace InputTap.Post

variable {τ : Type}

namespace Injector

/-- The injector after it has taken in some records. -/
def fed (i : Injector τ) (rs : List Record) : Injector τ :=
  { i with state := rs.foldl (fun s r => (i.submit r s).2) i.state }

/-- The injector refuses nothing. -/
def AcceptsAll (i : Injector τ) : Prop := ∀ r s, (i.submit r s).1 = .ok ()

theorem AcceptsAll.fed {i : Injector τ} (h : i.AcceptsAll) (rs : List Record) :
    (i.fed rs).AcceptsAll := h

theorem fed_fed (i : Injector τ) (rs ss : List Record) : (i.fed rs).fed ss = i.fed (rs ++ ss) := by
  unfold Injector.fed
  rw [List.foldl_append]

theorem submitAll_of_acceptsAll {i : Injector τ} (h : i.AcceptsAll) (rs : List Record) :
    i.submitAll rs = (i.fed rs, none) := by
  induction rs generalizing i with
  | nil => rfl
  | cons r rs ih =>
    unfold submitAll
    have accepted : i.submit r i.state = (.ok (), (i.submit r i.state).2) :=
      Prod.ext (h r i.state) rfl
    rw [accepted]
    exact ih h

theorem acceptsAll_limited : (limited none).AcceptsAll := fun _ _ => rfl

/-- Without a limit the injector keeps all that it takes in. -/
theorem state_fed_limited (rs : List Record) : ((limited none).fed rs).state = rs := by
  have kept : ∀ accepted, rs.foldl (fun s r => ((limited none).submit r s).2) accepted =
      accepted ++ rs := by
    induction rs with
    | nil => exact fun accepted => (List.append_nil accepted).symm
    | cons r rs ih =>
      intro accepted
      rw [List.foldl_cons, ih]
      exact List.append_assoc accepted [r] rs
  exact kept []

end Injector

namespace Poster

/-- The records of an event, none when it cannot be posted. -/
def built (p : Poster) (e : Event) (moving : Bool) : List Record :=
  match p.records e moving with
  | .ok rs => rs
  | .error _ => []

/-- Whether an event can be posted. -/
def outcome (p : Poster) (e : Event) (moving : Bool) : Except PostFault Unit :=
  (p.records e moving).map fun _ => ()

/-- Posts one event; the step function of posting events whether the earlier ones failed or not. -/
def onEvent (p : Poster) (moving : Bool) (i : Injector τ) (e : Event) :
    Injector τ × Except PostFault Unit :=
  ((p.post i e moving).injector, (p.post i e moving).result)

section Accepting

variable (p : Poster) (moving : Bool) {i : Injector τ} (accepts : i.AcceptsAll)

include accepts

/-- An injector that accepts everything takes in the records of an event. -/
theorem onEvent_of_acceptsAll (e : Event) :
    p.onEvent moving i e = (i.fed (p.built e moving), p.outcome e moving) := by
  unfold onEvent post built outcome
  cases p.records e moving with
  | error f => rfl
  | ok rs =>
    simp only [Injector.submitAll_of_acceptsAll accepts]
    rfl

/-- Going on after errors, the records of all events that can be posted are taken in, in order. -/
theorem final_onEvent (events : List Event) :
    Run.final (p.onEvent moving) i events =
      i.fed (events.flatMap fun e => p.built e moving) := by
  induction events generalizing i with
  | nil => rfl
  | cons e events ih =>
    rw [Run.final_cons, onEvent_of_acceptsAll p moving accepts, ih (accepts.fed _),
      Injector.fed_fed, List.flatMap_cons]

/-- Each event is posted or not by itself, whatever became of the earlier ones. -/
theorem outputs_onEvent (events : List Event) :
    (Run.steps (p.onEvent moving) i events).map Run.Step.output =
      events.map fun e => p.outcome e moving := by
  induction events generalizing i with
  | nil => rfl
  | cons e events ih =>
    rw [Run.steps_cons, List.map_cons, List.map_cons, onEvent_of_acceptsAll p moving accepts,
      ih (accepts.fed _)]
    show (p.onEvent moving i e).2 :: _ = _
    rw [onEvent_of_acceptsAll p moving accepts]

end Accepting

end Poster

/-- The action of a key going down or up. -/
def keyAction (up : Bool) : KeyAction := if up then .released else .pressed

theorem records_keyAction (p : Poster) (time : Millis) (mask : Mask) (up : Bool) (d : KeyData)
    (moving : Bool) :
    p.records ⟨time, mask, .key (keyAction up) d⟩ moving =
      (p.keyRecord mask d.code up).map fun r => [r] := by
  cases up <;> rfl

section Standard

variable (desktop : Desktop) (extendedKeys : List KeyCode)

/-- A poster with the standard layout. -/
abbrev standardPoster : Poster := { layout := .standard, desktop, extendedKeys }

theorem keyRecord_of_toVirtual? {code : KeyCode} {vk : VirtualKey}
    (h : code.toVirtual? = some vk) (mask : Mask) (up : Bool) :
    (standardPoster desktop extendedKeys).keyRecord mask code up =
      .ok (.key { key := vk, up, extended := mask.meets Mask.shift && code ∈ extendedKeys }) := by
  have mapped : Layout.standard.virtual? code = some vk := h
  simp only [Poster.keyRecord, mapped]

theorem keyRecord_undefined (mask : Mask) (up : Bool) :
    (standardPoster desktop extendedKeys).keyRecord mask .undefined up =
      .error (.unmappedKey .undefined) := rfl

/-- A key is refused exactly if it has no place. -/
theorem outcome_keyAction (time : Millis) (mask : Mask) (up : Bool) (d : KeyData) :
    (standardPoster desktop extendedKeys).outcome ⟨time, mask, .key (keyAction up) d⟩ false =
      if d.code = .undefined then .error (.unmappedKey .undefined) else .ok () := by
  unfold Poster.outcome
  rw [records_keyAction]
  rcases KeyCode.undefined_or_toVirtual? d.code with undefined | ⟨vk, mapped⟩
  · rw [if_pos undefined, undefined, keyRecord_undefined]
    rfl
  · have defined : d.code ≠ .undefined := fun h => by
      rw [h] at mapped
      cases mapped
    rw [if_neg defined, keyRecord_of_toVirtual? desktop extendedKeys mapped]
    rfl

end Standard

end InputTap.Post
