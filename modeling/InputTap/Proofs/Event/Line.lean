import InputTap.Event.Line
import InputTap.Proofs.Key.Names
import InputTap.Proofs.Normalizer.WellFormed
import InputTap.Proofs.Text.Spelling

/-!
# What a report line tells

A line is cut at its commas into the pieces of its fields (`splitOn_line`). Every field is one piece
but for the character of a typed event (`isPlain_payloadFields`), and that one stands between fields
that are. So each field can be recovered from the pieces, and from a field what it spells: two
events have the same line exactly if they agree on everything that a line shows of them
(`line_eq_iff_shownAlike`). This holds of events such as a hook makes (`IsReportable`), which those
of a normalizer are (`isReportable_onInput`).
-/

set_option autoImplicit false

namespace InputTap

open Text (CommaFree)
open Text.Numeral (LetterCase decimal integer hex)

/-! ## Fields and pieces -/

namespace Event

/-- A field as a line has it. -/
def written (f : String × String) : List Char := (f.1 ++ "=" ++ f.2).toList

/-- What is left of some fields when they are cut at every comma. -/
def pieces (fs : Fields) : List (List Char) := fs.flatMap fun f => (written f).splitOn ','

/-- There is no comma in the fields. -/
def IsPlain (fs : Fields) : Prop := ∀ f ∈ fs, CommaFree f.1 ∧ CommaFree f.2

theorem written_inj {name s t : String} : written (name, s) = written (name, t) ↔ s = t := by
  refine ⟨fun same => ?_, fun same => same ▸ rfl⟩
  have chars : (name ++ "=").toList ++ s.toList = (name ++ "=").toList ++ t.toList := by
    rw [← String.toList_append, ← String.toList_append]
    exact same
  exact String.toList_inj.1 (List.append_cancel_left chars)

theorem pieces_append (fs gs : Fields) : pieces (fs ++ gs) = pieces fs ++ pieces gs :=
  List.flatMap_append

/-- Fields without a comma are one piece each. -/
theorem pieces_of_isPlain {fs : Fields} (plain : IsPlain fs) : pieces fs = fs.map written := by
  induction fs with
  | nil => rfl
  | cons f fs ih =>
    obtain ⟨⟨name, value⟩, rest⟩ := List.forall_mem_cons.1 plain
    have whole : ',' ∉ written f := (name.append (by decide)).append value
    show (written f).splitOn ',' ++ pieces fs = written f :: fs.map written
    rw [List.splitOn_eq_singleton whole, ih rest]
    rfl

theorem splitOn_intercalate (f : String × String) (fs : Fields) :
    ([','].intercalate ((f :: fs).map written)).splitOn ',' = pieces (f :: fs) := by
  induction fs generalizing f with
  | nil => simp [pieces]
  | cons g fs ih =>
    rw [List.map_cons, List.map_cons, List.intercalate_cons_cons, List.append_assoc,
      List.singleton_append, List.splitOn_append_cons_self, ← List.map_cons, ih]
    rfl

theorem commaFree_hexText (letters : LetterCase) (n : Nat) :
    CommaFree ("0x" ++ hex letters n) :=
  CommaFree.append (by decide) (Text.Numeral.commaFree_hex letters n)

theorem hexText_injective (letters : LetterCase) :
    Function.Injective fun n => "0x" ++ hex letters n := by
  intro m n same
  have chars := congrArg String.toList same
  simp only [String.toList_append] at chars
  exact Text.Numeral.hex_injective letters (String.toList_inj.1 (List.append_cancel_left chars))

theorem isPlain_headFields (e : Event) : IsPlain e.headFields := by
  unfold IsPlain headFields
  simp only [List.forall_mem_cons]
  exact ⟨⟨by decide, Text.Numeral.commaFree_decimal _⟩,
    ⟨by decide, Text.Numeral.commaFree_decimal _⟩, ⟨by decide, commaFree_hexText _ _⟩, nofun⟩

theorem splitOn_line (e : Event) :
    e.line.toList.splitOn ',' = e.headFields.map written ++ pieces (payloadFields e.kind) := by
  unfold line
  rw [String.toList_intercalate, List.map_map, ← pieces_of_isPlain e.isPlain_headFields,
    ← pieces_append]
  exact splitOn_intercalate _ _

end Event

/-! ## What a line shows -/

/-- The kind is as a hook makes it: a typed event has a character, and a button is the one that its
number names. -/
def EventKind.IsReportable : EventKind → Prop
  | .key .typed d => d.char.isSome
  | .mouse _ d => ∀ b, d.button = some b → Button.ofNumber? b.number = some b
  | _ => True

/-- What a normalizer makes of an input can be reported. -/
theorem EventKind.WellFormed.isReportable {raw : Capture.RawInput} {mask : Mask} {k : EventKind}
    (h : k.WellFormed raw mask) : k.IsReportable := by
  cases k with
  | hookEnabled | hookDisabled | wheel d => trivial
  | key action d =>
    cases action with
    | typed =>
      obtain ⟨-, c, char⟩ := h
      exact Option.isSome_iff_exists.2 ⟨c, char⟩
    | pressed | released => trivial
  | mouse action d =>
    intro b button
    cases action with
    | pressed | released | clicked =>
      obtain ⟨⟨b', own, numbered⟩, -⟩ := h
      obtain rfl : b = b' := Option.some.inj (button.symm.trans own)
      exact numbered.1
    | moved | dragged => exact absurd (button.symm.trans h.1) (Option.some_ne_none b)

theorem Capture.Normalizer.isReportable_onInput {σ : Type} (n : Normalizer σ)
    (i : Surroundings × RawInput) {e : Event} (h : e ∈ (n.onInput i).2.offered) :
    e.kind.IsReportable :=
  (n.wellFormed_onInput i h).isReportable

/-- Two kinds of one type that agree on all that a line shows of their payload. -/
inductive EventKind.ShownAlike : EventKind → EventKind → Prop
  | hookEnabled : ShownAlike .hookEnabled .hookEnabled
  | hookDisabled : ShownAlike .hookDisabled .hookDisabled
  | typed {d d' : KeyData} (char : d.char = d'.char) (rawCode : d.rawCode = d'.rawCode) :
      ShownAlike (.key .typed d) (.key .typed d')
  | key {action : KeyAction} {d d' : KeyData} (untyped : action ≠ .typed) (code : d.code = d'.code)
      (rawCode : d.rawCode = d'.rawCode) : ShownAlike (.key action d) (.key action d')
  | mouse {action : MouseAction} {d d' : MouseData} (x : d.x = d'.x) (y : d.y = d'.y)
      (button : d.button = d'.button) (clicks : d.clicks = d'.clicks) :
      ShownAlike (.mouse action d) (.mouse action d')
  | wheel {d d' : WheelData} (scroll : d.scroll = d'.scroll) (amount : d.amount = d'.amount)
      (rotation : d.rotation = d'.rotation) (axis : d.axis = d'.axis) :
      ShownAlike (.wheel d) (.wheel d')

theorem EventType.mem_all (t : EventType) : t ∈ all := by
  cases t with
  | hookEnabled | hookDisabled | wheel => decide
  | key action => cases action <;> decide
  | mouse action => cases action <;> decide

theorem EventType.id_injective : Function.Injective EventType.id := by
  have apart : (all.map EventType.id).Nodup := by decide
  intro a b same
  exact List.inj_on_of_nodup_map apart (mem_all a) (mem_all b) same

theorem ScrollUnit.id_injective : Function.Injective ScrollUnit.id := by
  intro a b same
  cases a <;> cases b <;> first | rfl | cases same

theorem WheelAxis.id_injective : Function.Injective WheelAxis.id := by
  intro a b same
  cases a <;> cases b <;> first | rfl | cases same

theorem KeyCode.commaFree_name (k : KeyCode) : CommaFree k.name := by
  have listed : ∀ j ∈ undefined :: all, CommaFree j.name := by decide +kernel
  exact listed k (mem_undefined_cons_all k)

/-- A button that its number names is told by that number, and no button by zero. -/
theorem Button.ofNumber?_shown {p : Option Button}
    (h : ∀ b, p = some b → ofNumber? b.number = some b) :
    ofNumber? (.ofNat (p.elim 0 fun b => b.number.toNat)) = p := by
  cases p with
  | none => rfl
  | some b =>
    show ofNumber? (.ofNat b.number.toNat) = some b
    rw [UInt16.ofNat_toNat]
    exact h b rfl

namespace Event

/-! ## What a payload tells -/

theorem payloadFields_key {action : KeyAction} (untyped : action ≠ .typed) (d : KeyData) :
    payloadFields (.key action d) = [("keycode", d.code.name), rawCodeField d.rawCode] := by
  cases action with
  | typed => exact absurd rfl untyped
  | pressed | released => rfl

theorem isPlain_rawCode (vk : VirtualKey) : IsPlain [rawCodeField vk] :=
  List.forall_mem_singleton.2 ⟨(by decide : CommaFree "rawcode"), commaFree_hexText _ _⟩

/-- Only a character that was typed may be a comma. -/
theorem isPlain_payloadFields {k : EventKind} (untyped : k.type ≠ .key .typed) :
    IsPlain (payloadFields k) := by
  unfold IsPlain
  cases k with
  | hookEnabled | hookDisabled => exact nofun
  | key action d =>
    rw [payloadFields_key fun typed => untyped (congrArg EventType.key typed)]
    have name : CommaFree "keycode" := by decide
    exact List.forall_mem_cons.2 ⟨⟨name, d.code.commaFree_name⟩, isPlain_rawCode d.rawCode⟩
  | mouse action d =>
    simp only [payloadFields, positionFields, List.cons_append, List.nil_append,
      List.forall_mem_cons]
    exact ⟨⟨by decide, Text.Numeral.commaFree_integer _⟩,
      ⟨by decide, Text.Numeral.commaFree_integer _⟩,
      ⟨by decide, Text.Numeral.commaFree_decimal _⟩,
      ⟨by decide, Text.Numeral.commaFree_decimal _⟩, nofun⟩
  | wheel d =>
    simp only [payloadFields, List.forall_mem_cons]
    exact ⟨⟨by decide, Text.Numeral.commaFree_decimal _⟩,
      ⟨by decide, Text.Numeral.commaFree_decimal _⟩,
      ⟨by decide, Text.Numeral.commaFree_integer _⟩,
      ⟨by decide, Text.Numeral.commaFree_decimal _⟩, nofun⟩

theorem rawCode_inj {a b : VirtualKey} (h : written (rawCodeField a) = written (rawCodeField b)) :
    a = b :=
  UInt16.toNat_inj.1 (hexText_injective .upper (written_inj.1 h))

/-- The pieces of a typed event tell the character, which may be a comma itself: what follows it is
one piece, and the pieces before that are those of the character. -/
theorem typed_of_pieces {d d' : KeyData}
    (same : pieces (payloadFields (.key .typed d)) = pieces (payloadFields (.key .typed d'))) :
    d.char.getD replacementChar = d'.char.getD replacementChar ∧ d.rawCode = d'.rawCode := by
  have split (d : KeyData) : pieces (payloadFields (.key .typed d)) =
      (written ("keychar", Text.CharLiteral.text (d.char.getD replacementChar))).splitOn ',' ++
        [written (rawCodeField d.rawCode)] :=
    congrArg _ (pieces_of_isPlain (isPlain_rawCode d.rawCode))
  rw [split, split] at same
  obtain ⟨literal, raw⟩ := List.append_inj' same rfl
  have joined := congrArg [','].intercalate literal
  rw [List.intercalate_splitOn, List.intercalate_splitOn] at joined
  exact ⟨Text.CharLiteral.text_injective (written_inj.1 joined),
    rawCode_inj (List.singleton_inj.1 raw)⟩

/-- The pieces of a payload tell what a line shows of it. -/
theorem shownAlike_of_pieces {a b : EventKind} (ha : a.IsReportable) (hb : b.IsReportable)
    (type : a.type = b.type) (same : pieces (payloadFields a) = pieces (payloadFields b)) :
    a.ShownAlike b := by
  have plain (untyped : a.type ≠ .key .typed) :
      (payloadFields a).map written = (payloadFields b).map written := by
    rw [← pieces_of_isPlain (isPlain_payloadFields untyped),
      ← pieces_of_isPlain (isPlain_payloadFields (type ▸ untyped)), same]
  cases a with
  | hookEnabled => cases b <;> first | exact .hookEnabled | cases type
  | hookDisabled => cases b <;> first | exact .hookDisabled | cases type
  | key action d =>
    cases b with
    | key action' d' =>
      obtain rfl : action = action' := EventType.key.inj type
      by_cases typed : action = .typed
      · subst typed
        obtain ⟨shown, rawCode⟩ := typed_of_pieces same
        obtain ⟨c, char⟩ := Option.isSome_iff_exists.1 ha
        obtain ⟨c', char'⟩ := Option.isSome_iff_exists.1 hb
        rw [char, char'] at shown
        exact .typed (char.trans ((congrArg some shown).trans char'.symm)) rawCode
      · have fields := plain fun h => typed (EventType.key.inj h)
        rw [payloadFields_key typed, payloadFields_key typed] at fields
        simp only [List.map_cons, List.cons.injEq] at fields
        obtain ⟨code, rawCode, -⟩ := fields
        exact .key typed (KeyCode.name_injective (written_inj.1 code)) (rawCode_inj rawCode)
    | _ => cases type
  | mouse action d =>
    cases b with
    | mouse action' d' =>
      obtain rfl : action = action' := EventType.mouse.inj type
      have fields := plain nofun
      simp only [payloadFields, positionFields, List.cons_append, List.nil_append, List.map_cons,
        List.cons.injEq, written_inj] at fields
      obtain ⟨x, y, button, clicks, -⟩ := fields
      have number := Text.Numeral.decimal_injective button
      have same_button : d.button = d'.button := by
        rw [← Button.ofNumber?_shown ha, number, Button.ofNumber?_shown hb]
      exact .mouse (Int16.toInt_inj.1 (Text.Numeral.integer_injective x))
        (Int16.toInt_inj.1 (Text.Numeral.integer_injective y)) same_button
        (Text.Numeral.decimal_injective clicks)
    | _ => cases type
  | wheel d =>
    cases b with
    | wheel d' =>
      have fields := plain nofun
      simp only [payloadFields, List.map_cons, List.cons.injEq, written_inj] at fields
      obtain ⟨scroll, amount, rotation, axis, -⟩ := fields
      exact .wheel (ScrollUnit.id_injective (Text.Numeral.decimal_injective scroll))
        (UInt16.toNat_inj.1 (Text.Numeral.decimal_injective amount))
        (Int16.toInt_inj.1 (Text.Numeral.integer_injective rotation))
        (WheelAxis.id_injective (Text.Numeral.decimal_injective axis))
    | _ => cases type

theorem payloadFields_of_shownAlike {a b : EventKind} (h : a.ShownAlike b) :
    payloadFields a = payloadFields b := by
  cases h with
  | hookEnabled => rfl
  | hookDisabled => rfl
  | typed char rawCode => simp only [payloadFields, char, rawCode]
  | key untyped code rawCode =>
    rw [payloadFields_key untyped, payloadFields_key untyped, code, rawCode]
  | mouse x y button clicks => simp only [payloadFields, x, y, button, clicks]
  | wheel scroll amount rotation axis => simp only [payloadFields, scroll, amount, rotation, axis]

/-- Two events that agree on all that a line shows. -/
structure ShownAlike (a b : Event) : Prop where
  type : a.type = b.type
  time : a.time = b.time
  mask : a.mask = b.mask
  payload : a.kind.ShownAlike b.kind

/-- **A report line tells what it shows.** Two events such as a hook makes have the same line
exactly if they are of one type, time and mask and agree on every field that a line of that type
has, whatever character was typed and wherever the pointer was. -/
theorem line_eq_iff_shownAlike {a b : Event} (ha : a.kind.IsReportable)
    (hb : b.kind.IsReportable) : a.line = b.line ↔ a.ShownAlike b := by
  constructor
  · intro same
    have split := congrArg (fun s : String => s.toList.splitOn ',') same
    simp only [splitOn_line, headFields, List.map_cons, List.map_nil, List.cons_append,
      List.nil_append, List.cons.injEq, written_inj] at split
    obtain ⟨id, time, mask, payload⟩ := split
    have type : a.type = b.type := EventType.id_injective (Text.Numeral.decimal_injective id)
    have bits : a.mask.bits = b.mask.bits := BitVec.toNat_inj.1 (hexText_injective .lower mask)
    exact
      { type := type
        time := Text.Numeral.decimal_injective time
        mask := congrArg Mask.mk bits
        payload := shownAlike_of_pieces ha hb type payload }
  · rintro ⟨type, time, mask, payload⟩
    unfold line headFields
    rw [type, time, mask, payloadFields_of_shownAlike payload]

/-- A typed comma is told from a typed quote. -/
theorem line_comma_ne_line_quote :
    let typed (c : Char) : Event := ⟨1210, .empty, .key .typed ⟨.undefined, 0xBC, some c⟩⟩
    (typed ',').kind.IsReportable ∧ (typed '\x27').kind.IsReportable ∧
      (typed ',').line ≠ (typed '\x27').line := by
  intro typed
  refine ⟨rfl, rfl, fun same => ?_⟩
  have shown := ((@line_eq_iff_shownAlike (typed ',') (typed '\x27') rfl rfl).1 same).payload
  cases shown with
  | typed char rawCode => exact absurd char (by decide)
  | key untyped code rawCode => exact untyped rfl

/-- The line of a typed comma. -/
example : Event.line ⟨1210, .empty, .key .typed ⟨.undefined, 0xBC, some ','⟩⟩ =
    "id=3,when=1210,mask=0x0,keychar=',',rawcode=0xBC" := by
  decide +kernel

end Event

end InputTap
