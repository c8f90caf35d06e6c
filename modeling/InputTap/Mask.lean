import InputTap.Text.Numeral

/-!
# Modifier masks

A `Mask` holds the modifiers, pointer buttons and lock keys that are down, one bit each. Its
operations are those of a set of bits, and `has` is the view through which they are described:
`has_union`, `has_diff` and `ext_has`. `shift`, `control`, `alt`, `option` and `buttons` collect the
bits of one kind.
-/

set_option autoImplicit false

namespace InputTap

/-- A set of held modifiers, buttons and lock keys. -/
structure Mask where
  bits : BitVec 16
deriving DecidableEq

namespace Mask

def empty : Mask := ⟨0x0000⟩

instance : Inhabited Mask := ⟨empty⟩

/-- Bit `i` of the mask is set. -/
def has (m : Mask) (i : Nat) : Bool := m.bits.getLsbD i

theorem ext_has {a b : Mask} (h : ∀ i, a.has i = b.has i) : a = b := by
  obtain ⟨a⟩ := a
  obtain ⟨b⟩ := b
  exact congrArg Mask.mk (BitVec.eq_of_getLsbD_eq fun i _ => h i)

@[simp] theorem has_empty (i : Nat) : empty.has i = false := by
  simp [has, empty]

/-- The bits of both masks. -/
def union (a b : Mask) : Mask := ⟨a.bits ||| b.bits⟩

/-- The bits of `a` that `b` lacks. -/
def diff (a b : Mask) : Mask := ⟨a.bits &&& ~~~b.bits⟩

/-- The bits common to both masks. -/
def inter (a b : Mask) : Mask := ⟨a.bits &&& b.bits⟩

/-- The bits that exactly one of the masks holds. -/
def symmDiff (a b : Mask) : Mask := ⟨a.bits ^^^ b.bits⟩

instance : OrOp Mask := ⟨union⟩
instance : AndOp Mask := ⟨inter⟩
instance : SDiff Mask := ⟨diff⟩
instance : XorOp Mask := ⟨symmDiff⟩

@[simp] theorem has_union (a b : Mask) (i : Nat) : (a ||| b).has i = (a.has i || b.has i) :=
  BitVec.getLsbD_or

@[simp] theorem has_inter (a b : Mask) (i : Nat) : (a &&& b).has i = (a.has i && b.has i) :=
  BitVec.getLsbD_and

@[simp] theorem has_symmDiff (a b : Mask) (i : Nat) :
    (a ^^^ b).has i = Bool.xor (a.has i) (b.has i) :=
  BitVec.getLsbD_xor

@[simp] theorem has_diff (a b : Mask) (i : Nat) : (a \ b).has i = (a.has i && !b.has i) := by
  show (a.bits &&& ~~~b.bits).getLsbD i = (a.bits.getLsbD i && !b.bits.getLsbD i)
  rw [BitVec.getLsbD_and, BitVec.getLsbD_not]
  by_cases hi : i < 16
  · simp [hi]
  · simp [BitVec.getLsbD_of_ge a.bits i (by omega)]

/-- No bit is set. -/
def isEmpty (m : Mask) : Bool := m.bits == 0

/-- All bits of `other` are set in `m`. -/
def contains (m other : Mask) : Bool := m &&& other == other

/-- Some bit of `other` is set in `m`. -/
def meets (m other : Mask) : Bool := !(m &&& other).isEmpty

def shiftLeft : Mask := ⟨0x0001⟩
def controlLeft : Mask := ⟨0x0002⟩
def metaLeft : Mask := ⟨0x0004⟩
def altLeft : Mask := ⟨0x0008⟩
def shiftRight : Mask := ⟨0x0010⟩
def controlRight : Mask := ⟨0x0020⟩
def metaRight : Mask := ⟨0x0040⟩
def altRight : Mask := ⟨0x0080⟩
def button1 : Mask := ⟨0x0100⟩
def button2 : Mask := ⟨0x0200⟩
def button3 : Mask := ⟨0x0400⟩
def button4 : Mask := ⟨0x0800⟩
def button5 : Mask := ⟨0x1000⟩
def numLock : Mask := ⟨0x2000⟩
def capsLock : Mask := ⟨0x4000⟩
def scrollLock : Mask := ⟨0x8000⟩

/-- Either shift key. -/
def shift : Mask := shiftLeft ||| shiftRight

/-- Either control key. -/
def control : Mask := controlLeft ||| controlRight

/-- Either alt key. -/
def alt : Mask := altLeft ||| altRight

/-- Either meta key. -/
def metaKeys : Mask := metaLeft ||| metaRight

/-- The five pointer buttons that have a bit. -/
def buttons : Mask := button1 ||| button2 ||| button3 ||| button4 ||| button5

/-- The three lock keys. -/
def locks : Mask := numLock ||| capsLock ||| scrollLock

/-- The bits of a mask as four hexadecimal digits. -/
def hexText (m : Mask) : String := Text.Numeral.hexPadded .upper 4 m.bits.toNat

/-- A mask in logs. -/
def text (m : Mask) : String := "ModifierMask(" ++ m.hexText ++ ")"

end Mask

end InputTap
