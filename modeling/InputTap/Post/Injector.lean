import InputTap.Post.Record

/-!
# Injecting records

An `Injector` takes records into the desktop one at a time and may refuse any of them. The injector
`limited` accepts a given number of records and keeps what it accepted.
-/

set_option autoImplicit false

namespace InputTap.Post

/-- A refusal of the injector. -/
inductive InjectionFault
  | rejected (reason : String)
  | unsupported (platform : String)
deriving DecidableEq, Inhabited

/-- The message of a refusal. -/
def InjectionFault.message : InjectionFault → String
  | .rejected reason => "input injection rejected by the platform: " ++ reason
  | .unsupported platform => "input injection is not supported on " ++ platform

/-- Where records are submitted, with its present state. -/
structure Injector (τ : Type) where
  submit : Record → τ → Except InjectionFault Unit × τ
  state : τ

namespace Injector

variable {τ : Type}

/-- Submits records in order until the first refusal, which is returned with its record. -/
def submitAll (i : Injector τ) : List Record → Injector τ × Option (Record × InjectionFault)
  | [] => (i, none)
  | r :: rs =>
    match i.submit r i.state with
    | (.ok _, s) => submitAll { i with state := s } rs
    | (.error f, s) => ({ i with state := s }, some (r, f))

/-- The injector that accepts up to a number of records, all of them without a limit. Its state is
what it accepted. -/
def limited (limit : Option Nat) : Injector (List Record) where
  submit r accepted :=
    if limit.any fun n => n ≤ accepted.length then (.error (.rejected "mock failure"), accepted)
    else (.ok (), accepted ++ [r])
  state := []

end Injector

end InputTap.Post
