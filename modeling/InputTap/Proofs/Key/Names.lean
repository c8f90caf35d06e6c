import InputTap.Key.Code
import Mathlib.Data.List.Forall2
import Mathlib.Data.List.Nodup

/-!
# Key names

The names of the defined keys stay apart when letters are compared without regard to their case
(`nodup_folded`). A search for a name then finds the key that the string spells, in whichever order
the keys are searched (`find?_folded_eq_some_iff`), so that what is read as a key are exactly the
spellings of its name, and anything else is refused as it stands (`parses_spellings`).
-/

set_option autoImplicit false

namespace InputTap

/-- The characters are the same, or the two cases of one letter from `A` to `Z`. -/
def SameButForCase (c d : Char) : Prop :=
  c = d ∨ ∃ i < 26,
    c.toNat = 'A'.toNat + i ∧ d.toNat = 'a'.toNat + i ∨
      c.toNat = 'a'.toNat + i ∧ d.toNat = 'A'.toNat + i

theorem toNat_toLower (c : Char) :
    c.toLower.toNat = if 65 ≤ c.toNat ∧ c.toNat ≤ 90 then c.toNat + 32 else c.toNat := by
  unfold Char.toLower
  split
  · next upper =>
    have bounds : 65 ≤ c.toNat ∧ c.toNat ≤ 90 :=
      ⟨UInt32.le_iff_toNat_le.1 upper.1, UInt32.le_iff_toNat_le.1 upper.2⟩
    rw [if_pos bounds]
    show (c.val + 32).toNat = c.val.toNat + 32
    rw [UInt32.toNat_add]
    show (c.toNat + 32) % 4294967296 = c.toNat + 32
    omega
  · next other =>
    have beyond : ¬ (65 ≤ c.toNat ∧ c.toNat ≤ 90) := fun bounds =>
      other ⟨UInt32.le_iff_toNat_le.2 bounds.1, UInt32.le_iff_toNat_le.2 bounds.2⟩
    rw [if_neg beyond]

/-- Lower case forgets the case of a letter and nothing else. -/
theorem toLower_eq_toLower_iff {c d : Char} : c.toLower = d.toLower ↔ SameButForCase c d := by
  have capital : 'A'.toNat = 65 := rfl
  have small : 'a'.toNat = 97 := rfl
  unfold SameButForCase
  rw [← Char.toNat_inj, ← Char.toNat_inj, toNat_toLower, toNat_toLower, capital, small]
  constructor
  · intro same
    by_cases equal : c.toNat = d.toNat
    · exact .inl equal
    · refine .inr ?_
      split at same <;> split at same
      · omega
      · exact ⟨c.toNat - 65, by omega, .inl (by omega)⟩
      · exact ⟨d.toNat - 65, by omega, .inr (by omega)⟩
      · omega
  · rintro (equal | ⟨i, bound, ⟨hc, hd⟩ | ⟨hc, hd⟩⟩)
    · rw [equal]
    · rw [if_pos (by omega), if_neg (by omega)]
      omega
    · rw [if_neg (by omega), if_pos (by omega)]
      omega

namespace KeyCode

/-- The string is the name of the key, each ASCII letter in either case. -/
def Spells (s : String) (k : KeyCode) : Prop := List.Forall₂ SameButForCase s.toList k.name.toList

theorem folded_eq_iff_spells {s : String} {k : KeyCode} :
    folded k.name = folded s ↔ Spells s k := by
  unfold folded Spells
  rw [eq_comm, ← List.forall₂_eq_eq_eq, List.forall₂_map_left_iff, List.forall₂_map_right_iff]
  simp only [toLower_eq_toLower_iff]

theorem mem_undefined_cons_all (k : KeyCode) : k ∈ .undefined :: all := by
  by_cases defined : k = .undefined
  · exact defined ▸ List.mem_cons_self
  · exact List.mem_cons_of_mem _ ((mem_all_iff k).2 defined)

/-- No two keys have names that differ in the case of letters alone. -/
theorem nodup_folded : ((.undefined :: all).map fun k => folded k.name).Nodup := by
  -- Written as numbers the names are quicker to compare.
  refine List.Nodup.of_map (fun cs => cs.foldl (fun n c => n * 128 + c.toNat) 0) ?_
  rw [List.map_map]
  decide +kernel

theorem folded_name_injective {j k : KeyCode} (h : folded j.name = folded k.name) : j = k :=
  List.inj_on_of_nodup_map nodup_folded (mem_undefined_cons_all j) (mem_undefined_cons_all k) h

theorem name_injective : Function.Injective name :=
  fun _ _ same => folded_name_injective (congrArg folded same)

/-- In whichever order the defined keys are searched, the one that the string spells is found. -/
theorem find?_folded_eq_some_iff {table : List KeyCode} (order : table.Perm all) {s : String}
    {k : KeyCode} :
    (table.find? fun k => folded k.name == folded s) = some k ↔ k ≠ .undefined ∧ Spells s k := by
  rw [← mem_all_iff, ← order.mem_iff, ← folded_eq_iff_spells]
  constructor
  · intro found
    exact ⟨List.mem_of_find?_eq_some found, beq_iff_eq.1 (List.find?_some found :)⟩
  · rintro ⟨mem, same⟩
    have some_found : (table.find? fun k => folded k.name == folded s).isSome :=
      List.find?_isSome.2 ⟨k, mem, beq_iff_eq.2 same⟩
    obtain ⟨j, found⟩ := Option.isSome_iff_exists.1 some_found
    have same_j : folded j.name = folded s := beq_iff_eq.1 (List.find?_some found :)
    rw [found, folded_name_injective (same_j.trans same.symm)]

/-- Reads a name by searching a table of keys. -/
def parseBy (table : List KeyCode) (s : String) : Except UnknownName KeyCode :=
  match table.find? fun k => folded k.name == folded s with
  | some k => .ok k
  | none => .error ⟨s⟩

/-- The order in which the keys are searched does not matter. -/
theorem parseBy_of_perm {table : List KeyCode} (order : table.Perm all) (s : String) :
    parseBy table s = parse s := by
  have found : (table.find? fun k => folded k.name == folded s) = ofName? s := by
    refine Option.ext fun k => ?_
    exact (find?_folded_eq_some_iff order).trans (find?_folded_eq_some_iff (.refl all)).symm
  unfold parseBy
  rw [found]
  rfl

theorem parse_eq_ok_iff (s : String) (k : KeyCode) :
    parse s = .ok k ↔ k ≠ .undefined ∧ Spells s k := by
  have found : ofName? s = some k ↔ k ≠ .undefined ∧ Spells s k :=
    find?_folded_eq_some_iff (.refl all)
  rw [← found]
  unfold parse
  cases ofName? s with
  | none => exact ⟨nofun, nofun⟩
  | some j => rw [Except.ok.injEq, Option.some.injEq]

theorem parse_eq_error_iff (s : String) (e : UnknownName) :
    parse s = .error e ↔ (∀ k, k ≠ .undefined → ¬ Spells s k) ∧ e = ⟨s⟩ := by
  have found (k : KeyCode) : ofName? s = some k ↔ k ≠ .undefined ∧ Spells s k :=
    find?_folded_eq_some_iff (.refl all)
  unfold parse
  cases named : ofName? s with
  | some k =>
    obtain ⟨defined, spelt⟩ := (found k).1 named
    exact ⟨nofun, fun h => absurd spelt (h.1 k defined)⟩
  | none =>
    have unspelt : ∀ k, k ≠ .undefined → ¬ Spells s k := fun k defined spelt =>
      Option.some_ne_none k (((found k).2 ⟨defined, spelt⟩).symm.trans named)
    rw [Except.error.injEq, eq_comm]
    exact (and_iff_right unspelt).symm

/-- **What is read as a key are exactly the spellings of its name.** Every string is read as the
defined key whose name it spells, each ASCII letter in either case, and there is one such key at
most; a string that spells none is refused, and the refusal carries it unchanged. The order in which
the keys are searched has no part in this. -/
theorem parses_spellings (s : String) :
    (∀ k, parse s = .ok k ↔ k ≠ .undefined ∧ Spells s k) ∧
      (∀ e, parse s = .error e ↔ (∀ k, k ≠ .undefined → ¬ Spells s k) ∧ e = ⟨s⟩) ∧
      (∀ j k, j ≠ .undefined → k ≠ .undefined → Spells s j → Spells s k → j = k) ∧
      ∀ table : List KeyCode, table.Perm all → parseBy table s = parse s := by
  refine ⟨parse_eq_ok_iff s, parse_eq_error_iff s, ?_, fun table order => parseBy_of_perm order s⟩
  intro j k defined_j defined_k spelt_j spelt_k
  have read : parse s = .ok j := (parse_eq_ok_iff s j).2 ⟨defined_j, spelt_j⟩
  rw [(parse_eq_ok_iff s k).2 ⟨defined_k, spelt_k⟩] at read
  exact (Except.ok.inj read).symm

/-- A name may begin with another one. -/
example : parse "f1" = .ok .f1 ∧ parse "F12" = .ok .f12 ∧ parse "f" = .error ⟨"f"⟩ := by
  decide +kernel

end KeyCode

end InputTap
