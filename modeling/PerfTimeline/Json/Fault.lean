import PerfTimeline.Json.Numeral
import PerfTimeline.Json.Flaw
import PerfTimeline.Text.Quoted

/-!
# Faults of a value

Reading a text as a value of some type fails because the text has a flaw or because it says the wrong thing.
`Cause` lists the wrong things, and `Cause.message` words them.
-/

namespace PerfTimeline.Json

/-- What a text holds in a place where something else is expected. -/
inductive Found where
  | null
  | bool (b : Bool)
  | number (n : Number)
  | text (s : String)
  | sequence
  | map
deriving DecidableEq

/-- Something wrong that a text says. -/
inductive Cause where
  /-- A value of the wrong kind. -/
  | wrongKind (found : Found) (expected : String)
  /-- A value of the right kind that is out of range. -/
  | outOfRange (found : Found) (expected : String)
  /-- A name that is none of those allowed. -/
  | unknownName (name : String) (allowed : List String)
  | repeatedMember (name : String)
  | missingMember (name : String)
  /-- A list that ends before all members have a value. -/
  | tooShort (length : Nat) (expected : String)
deriving DecidableEq

/-- Why a text cannot be read as a value. -/
inductive Fault where
  | flaw (f : Flaw)
  | cause (c : Cause)
deriving DecidableEq

/-- A part of a message that quotes the text. -/
def ticked (s : String) : String := "`" ++ s ++ "`"

/-- What was found, in words. -/
def Found.describe : Found → String
  | null => "null"
  | bool b => "boolean " ++ ticked (if b then "true" else "false")
  | number (.real x) => "floating point " ++ ticked (Number.real x).text
  | number n => "integer " ++ ticked n.text
  | text s => "string " ++ Text.quote s
  | sequence => "sequence"
  | map => "map"

/-- What is wrong, in words. -/
def Cause.message : Cause → String
  | wrongKind found expected => "invalid type: " ++ found.describe ++ ", expected " ++ expected
  | outOfRange found expected => "invalid value: " ++ found.describe ++ ", expected " ++ expected
  | unknownName name allowed =>
    "unknown variant " ++ ticked name ++ ", expected one of " ++ ", ".intercalate (allowed.map ticked)
  | repeatedMember name => "duplicate field " ++ ticked name
  | missingMember name => "missing field " ++ ticked name
  | tooShort length expected =>
    "invalid length " ++ String.ofList (Numeral.ofNat length).print ++ ", expected " ++ expected

end PerfTimeline.Json
