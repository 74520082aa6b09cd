import PerfTimeline.Json.Numeral
import PerfTimeline.Json.Text

/-!
# JSON as it is written

`Value` is a JSON text taken apart, with everything that its readers may tell apart: numbers and strings as
they are written, and members in their order, repetitions included. A text that breaks off is taken apart up
to its flaw. So a reader that walks a value in text order meets the flaw exactly where the text has it, after
everything in front of it; what stands behind a flaw is never looked at.
-/

namespace PerfTimeline.Json

/-- How a list of items or members ends. -/
inductive Stop where
  /-- With its bracket. -/
  | closed
  /-- With a flaw where a comma or the bracket should stand. -/
  | broken (flaw : Flaw)
  /-- With a flaw behind a comma. -/
  | dangling (flaw : Flaw)
deriving DecidableEq

/-- A JSON value as it is written. -/
inductive Value where
  /-- No value begins here. -/
  | missing (flaw : Flaw)
  /-- A literal that begins with `opening` and breaks off. -/
  | word (opening : Char) (flaw : Flaw)
  | null
  | bool (b : Bool)
  | number (n : Except Flaw Numeral)
  | text (t : RawText)
  | array (items : List Value) (stop : Stop)
  | object (members : List (RawText × Value)) (stop : Stop)
  /-- An object whose first key is no string but `key`. -/
  | oddObject (key : Value)

/-- A whole text. -/
structure Document where
  root : Value
  /-- Whether anything but blanks follows the value. -/
  trailing : Bool

/-- The end of a list as its reader meets it. -/
def Stop.check : Stop → Except Flaw Unit
  | closed => .ok ()
  | broken f => .error f
  | dangling f => .error f

namespace Value

/-! ### Making values -/

/-- A string. -/
def ofString (s : String) : Value := .text (.ofString s)

/-- A whole number. -/
def ofNat (n : Nat) : Value := .number (.ok (.ofNat n))

/-- A floating-point number; only finite ones can be written, the others are `null`. -/
def ofFloat (x : Float) : Value := if isFinite x then .number (.ok (.ofFloat x)) else .null

/-- `null` for a value that is not given. -/
def ofOption {α : Type} (f : α → Value) : Option α → Value
  | none => .null
  | some a => f a

/-- A list of values. -/
def ofList (items : List Value) : Value := .array items .closed

/-- An object with these members. -/
def ofMembers (members : List (String × Value)) : Value :=
  .object (members.map fun (key, v) => (.ofString key, v)) .closed

/-! ### Passing over a value -/

/-- What is wrong with a value that stands for a key and is no string: it is malformed, unless the text ends
where the key should begin. -/
def keyFlaw : Value → Flaw
  | .missing f => f
  | _ => .malformed

mutual

/-- Pass over a value of any depth: only its flaws matter. A number that breaks off at the end of the text
counts as malformed here. -/
def skip : Value → Except Flaw Unit
  | .missing f => .error f
  | .word _ f => .error f
  | .null => .ok ()
  | .bool _ => .ok ()
  | .number (.ok _) => .ok ()
  | .number (.error _) => .error .malformed
  | .text t => t.skip
  | .array items stop => do skipItems items; stop.check
  | .object members stop => do skipMembers members; stop.check
  | .oddObject key => .error key.keyFlaw

/-- Pass over items. -/
def skipItems : List Value → Except Flaw Unit
  | [] => .ok ()
  | v :: vs => do skip v; skipItems vs

/-- Pass over members. -/
def skipMembers : List (RawText × Value) → Except Flaw Unit
  | [] => .ok ()
  | (key, v) :: ms => do key.skip; skip v; skipMembers ms

end

mutual

/-- Check a value that is put aside to be read later: its strings must say something, its numbers must have
a value, and it may nest `depth` levels at most. -/
def hold (depth : Nat) : Value → Except Flaw Unit
  | .missing f => .error f
  | .word _ f => .error f
  | .null => .ok ()
  | .bool _ => .ok ()
  | .number (.error f) => .error f
  | .number (.ok n) => if n.number?.isSome then .ok () else .error .malformed
  | .text t => do let _ ← t.read
  | .array items stop =>
    match depth with
    | 0 => .error .malformed
    | depth + 1 => do holdItems depth items; stop.check
  | .object members stop =>
    match depth with
    | 0 => .error .malformed
    | depth + 1 => do holdMembers depth members; stop.check
  | .oddObject key =>
    match depth with
    | 0 => .error .malformed
    | _ + 1 => .error key.keyFlaw

/-- Check items that are put aside. -/
def holdItems (depth : Nat) : List Value → Except Flaw Unit
  | [] => .ok ()
  | v :: vs => do hold depth v; holdItems depth vs

/-- Check members that are put aside. -/
def holdMembers (depth : Nat) : List (RawText × Value) → Except Flaw Unit
  | [] => .ok ()
  | (key, v) :: ms => do let _ ← key.read; hold depth v; holdMembers depth ms

end

/-! ### Writing -/

mutual

/-- The characters of a value, without blanks. -/
def print : Value → List Char
  | .missing _ => []
  | .word _ _ => []
  | .null => "null".toList
  | .bool true => "true".toList
  | .bool false => "false".toList
  | .number (.ok n) => n.print
  | .number (.error _) => []
  | .text t => t.print
  | .array items _ => '[' :: printItems items
  | .object members _ => '{' :: printMembers members
  | .oddObject _ => []

/-- The characters of items up to the closing bracket. -/
def printItems : List Value → List Char
  | [] => [']']
  | [v] => print v ++ [']']
  | v :: vs => print v ++ ',' :: printItems vs

/-- The characters of members up to the closing bracket. -/
def printMembers : List (RawText × Value) → List Char
  | [] => ['}']
  | [(key, v)] => key.print ++ ':' :: print v ++ ['}']
  | (key, v) :: ms => key.print ++ ':' :: print v ++ ',' :: printMembers ms

end

/-- The text of a value. -/
def render (v : Value) : String := String.ofList v.print

end Value

end PerfTimeline.Json
