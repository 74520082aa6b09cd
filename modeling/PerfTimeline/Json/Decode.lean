import PerfTimeline.Json.Fault
import PerfTimeline.Json.Value

/-!
# Reading values

Readers for the simple types. A value of the wrong kind is only reported as such when it has no flaw itself;
lists and objects are reported unseen. `Value.float`, `Value.integer`, `Value.string` and `Value.boolean` read
the simple values, `Value.optional` and `Value.listOf` build on other readers.
-/

namespace PerfTimeline.Json

/-- The outcome of reading. -/
abbrev Read (α : Type) := Except Fault α

/-- A flaw met while reading. -/
def Read.ofFlaw {α : Type} : Except Flaw α → Read α
  | .ok a => .ok a
  | .error f => .error (.flaw f)

namespace Value

/-- The value of a numeral. One that is too great for a number is malformed. -/
def numberOf : Except Flaw Numeral → Read Number
  | .error f => .error (.flaw f)
  | .ok n =>
    match n.number? with
    | some x => .ok x
    | none => .error (.flaw .malformed)

/-- What a value is, seen from a reader that expects something else. -/
def found : Value → Read Found
  | missing f => .error (.flaw f)
  | word _ f => .error (.flaw f)
  | null => .ok .null
  | bool b => .ok (.bool b)
  | number n => (numberOf n).map .number
  | text t => (Read.ofFlaw t.read).map .text
  | array _ _ => .ok .sequence
  | object _ _ => .ok .map
  | oddObject _ => .ok .map

/-- Fail because the value is not what is expected. -/
def mismatch {α : Type} (v : Value) (expected : String) : Read α :=
  match v.found with
  | .error f => .error f
  | .ok found => .error (.cause (.wrongKind found expected))

/-! ### Simple values -/

/-- Read any number in floating point. -/
def float : Value → Read Float
  | number n => (numberOf n).map Number.toFloat
  | v => v.mismatch "f64"

/-- Read a whole number of at most `limit`. A number written with a point or an exponent is none. -/
def integer (limit : Nat) (expected : String) : Value → Read Nat
  | number n =>
    match numberOf n with
    | .error f => .error f
    | .ok (.nat k) =>
      if k ≤ limit then .ok k else .error (.cause (.outOfRange (.number (.nat k)) expected))
    | .ok (.negative k) => .error (.cause (.outOfRange (.number (.negative k)) expected))
    | .ok (.real x) => .error (.cause (.wrongKind (.number (.real x)) expected))
  | v => v.mismatch expected

/-- Read a size of 64 bits. -/
def size : Value → Read Nat := integer 0xffffffffffffffff "usize"

/-- Read a whole number of 32 bits. -/
def word32 (v : Value) : Read UInt32 := (integer 0xffffffff "u32" v).map UInt32.ofNat

/-- Read a whole number of 16 bits. -/
def word16 (v : Value) : Read UInt16 := (integer 0xffff "u16" v).map UInt16.ofNat

/-- Read a string. -/
def string : Value → Read String
  | text t => Read.ofFlaw t.read
  | v => v.mismatch "a string"

/-- Read a truth value. -/
def boolean : Value → Read Bool
  | bool b => .ok b
  | v => v.mismatch "a boolean"

/-! ### Built values -/

/-- Read `null` as nothing and any other value with `read`. What begins like `null` must be it. -/
def optional {α : Type} (read : Value → Read α) : Value → Read (Option α)
  | null => .ok none
  | word 'n' f => .error (.flaw f)
  | v => (read v).map some

/-- Read the items of a list in turn. -/
def listOf {α : Type} (read : Value → Read α) : Value → Read (List α)
  | array items stop => do
    let values ← items.mapM read
    Read.ofFlaw stop.check
    return values
  | v => v.mismatch "a sequence"

/-- Read one of some names: a string, or an object that has the name as its only key, with `null`. A value
of any other kind is malformed, and so is a key that is no string, as in every object. -/
def oneOf {α : Type} (ofName? : String → Option α) (allowed : List String) : Value → Read α
  | missing f => .error (.flaw f)
  | text t => do choose (← Read.ofFlaw t.read)
  | oddObject key => .error (.flaw key.keyFlaw)
  | object [] _ => .error (.flaw .malformed)
  | object ((key, v) :: more) stop => do
    let a ← choose (← Read.ofFlaw key.read)
    match v with
    | null => pure ()
    | v => v.mismatch "unit"
    match more, stop with
    | [], .closed => return a
    | [], .broken f => throw (.flaw f)
    | _, _ => throw (.flaw .malformed)
  | _ => .error (.flaw .malformed)
where
  choose (name : String) : Read α :=
    match ofName? name with
    | some a => .ok a
    | none => .error (.cause (.unknownName name allowed))

end Value

end PerfTimeline.Json
