/-!
# Session identifiers

A session is identified by 128 random bits of which six are fixed: the version, four bits that say
how the others were made, and the variant. `ofRandom` sets them, and `version_ofRandom` reads the
version back.
-/

set_option autoImplicit false

namespace InputTap.Capture

/-- The identifier of a session. -/
structure SessionId where
  bits : BitVec 128
deriving DecidableEq, Inhabited

namespace SessionId

/-- The identifier made from random bits. -/
def ofRandom (random : BitVec 128) : SessionId :=
  ⟨(random &&& ~~~(0xF000C000000000000000 : BitVec 128)) |||
    (0x40008000000000000000 : BitVec 128)⟩

/-- The version field of an identifier. -/
def version (id : SessionId) : Nat := (id.bits.extractLsb' 76 4).toNat

theorem version_ofRandom (random : BitVec 128) : (ofRandom random).version = 4 := by
  have h : (ofRandom random).bits.extractLsb' 76 4 = 4#4 := by
    apply BitVec.eq_of_getLsbD_eq
    intro i hi
    have : i = 0 ∨ i = 1 ∨ i = 2 ∨ i = 3 := by omega
    rcases this with rfl | rfl | rfl | rfl <;>
      simp [ofRandom]
  rw [version, h]
  rfl

end SessionId

end InputTap.Capture
