import PerfTimeline.Json.Decode

/-!
# Reading objects of known members

A `MemberReader` says how one member is read into a draft. An object is read member by member: a known
member may come only once, unknown ones are passed over. The draft can also be read from a list of the
members' values in the order of the readers, where members that need no value may be missing at the end.
-/

namespace PerfTimeline.Json

/-- How a member is read into a draft. -/
structure MemberReader (δ : Type) where
  name : String
  /-- Whether a list must have a value for the member. -/
  required : Bool
  /-- Whether the draft has the member already. -/
  isGiven : δ → Bool
  read : Value → δ → Read δ

namespace MemberReader

variable {δ : Type}

/-! ### Objects -/

/-- Take a member by its name, before its value is looked at; `other` takes an unknown one. -/
def readNamed (readers : List (MemberReader δ)) (other : String → Value → δ → Read δ) (name : String)
    (v : Value) (draft : δ) : Read δ :=
  match readers.find? (·.name == name) with
  | none => other name v draft
  | some reader =>
    if reader.isGiven draft then .error (.cause (.repeatedMember name)) else reader.read v draft

/-- Take the members of an object in turn. -/
def readMembers (readers : List (MemberReader δ)) (other : String → Value → δ → Read δ) :
    List (RawText × Value) → δ → Read δ
  | [], draft => .ok draft
  | (key, v) :: members, draft => do
    let name ← Read.ofFlaw key.read
    let draft ← readNamed readers other name v draft
    readMembers readers other members draft

/-- Pass over an unknown member. -/
def ignore (_ : String) (v : Value) (draft : δ) : Read δ := do
  Read.ofFlaw v.skip
  return draft

/-! ### Lists -/

/-- Take the items of a list, one for each reader. A list with more items than that is malformed. -/
def readItems (title : String) (stop : Stop) :
    List (MemberReader δ) → Nat → List Value → δ → Read δ
  | [], _, [], draft =>
    match stop with
    | .closed => .ok draft
    | .broken f => .error (.flaw f)
    | .dangling _ => .error (.flaw .malformed)
  | [], _, _ :: _, _ => .error (.flaw .malformed)
  | reader :: readers, i, [], draft =>
    match stop with
    | .closed =>
      if reader.required then .error (.cause (.tooShort i title))
      else readItems title stop readers (i + 1) [] draft
    | .broken f => .error (.flaw f)
    | .dangling f => .error (.flaw f)
  | reader :: readers, i, v :: items, draft => do
    let draft ← reader.read v draft
    readItems title stop readers (i + 1) items draft

/-- The title of a type that is read from a list, with its number of elements. -/
def listTitle (title : String) (n : Nat) : String :=
  title ++ " with " ++ String.ofList (Numeral.ofNat n).print ++
    (if n = 1 then " element" else " elements")

/-! ### Drafts -/

/-- Read a draft from an object or a list. `title` names the type in messages. -/
def readDraft (title : String) (readers : List (MemberReader δ)) (empty : δ) : Value → Read δ
  | .object members stop => do
    let draft ← readMembers readers ignore members empty
    Read.ofFlaw stop.check
    return draft
  | .oddObject key => .error (.flaw key.keyFlaw)
  | .array items stop => readItems (listTitle title readers.length) stop readers 0 items empty
  | v => v.mismatch title

/-- The value of a member that must be given. -/
def require {α : Type} (name : String) : Option α → Read α
  | some a => .ok a
  | none => .error (.cause (.missingMember name))

end MemberReader

/-- Read a whole text. What the value says comes before anything behind it. -/
def Document.read {α : Type} (d : Document) (read : Value → Read α) : Read α := do
  let a ← read d.root
  if d.trailing then throw (.flaw .malformed) else return a

end PerfTimeline.Json
