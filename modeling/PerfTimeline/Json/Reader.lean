import PerfTimeline.Json.Value

/-!
# Taking a text apart

The reader goes through a text character by character, with a stack of the arrays and objects that are open.
`Reader.step` takes one character, `Reader.finish` the end of the text. At the first flaw the reader halts:
the value read so far, with the flaw in its place, closes everything that is open, and the rest of the text is
left alone.
-/

namespace PerfTimeline.Json

/-! ### Numbers in progress -/

/-- Where in a number the reader is. -/
inductive NumberPart where
  /-- Behind the minus sign. -/
  | sign
  /-- Behind a leading zero. -/
  | zero
  | whole
  /-- Behind the point. -/
  | point
  | fraction
  /-- Behind the `e`. -/
  | mark
  /-- Behind the sign of the exponent. -/
  | exponentSign
  | exponent
deriving DecidableEq

/-- A number in progress. -/
structure PartialNumber where
  numeral : Numeral
  part : NumberPart
deriving DecidableEq

/-- What a character does to a number in progress. -/
inductive NumberStep where
  | more (n : PartialNumber)
  /-- The number ended in front of the character. -/
  | ended (n : Numeral)
  | flawed

namespace PartialNumber

/-- Put a digit behind the exponent. -/
def addExponentDigit (n : Numeral) (d : Digit) : Numeral :=
  { n with exponent := n.exponent.map fun e => { e with digits := e.digits ++ [d] } }

/-- Whether the number may end here. -/
def isComplete (p : PartialNumber) : Bool :=
  match p.part with
  | .zero | .whole | .fraction | .exponent => true
  | .sign | .point | .mark | .exponentSign => false

/-- Take a digit. -/
def digit (p : PartialNumber) (d : Digit) : NumberStep :=
  let n := p.numeral
  match p.part with
  | .sign => .more ⟨{ n with whole := [d] }, if d.val = 0 then .zero else .whole⟩
  | .zero => .flawed
  | .whole => .more ⟨{ n with whole := n.whole ++ [d] }, .whole⟩
  | .point | .fraction => .more ⟨{ n with fraction := n.fraction ++ [d] }, .fraction⟩
  | .mark | .exponentSign | .exponent => .more ⟨addExponentDigit n d, .exponent⟩

/-- End the number, if it may end. -/
def stop (p : PartialNumber) : NumberStep := if p.isComplete then .ended p.numeral else .flawed

/-- Take a character. -/
def step (p : PartialNumber) (c : Char) : NumberStep :=
  match Digit.ofChar? c with
  | some d => p.digit d
  | none =>
    let n := p.numeral
    match p.part, c with
    | .zero, '.' | .whole, '.' => .more ⟨n, .point⟩
    | .zero, 'e' | .zero, 'E' | .whole, 'e' | .whole, 'E' | .fraction, 'e' | .fraction, 'E' =>
      .more ⟨{ n with exponent := some ⟨false, []⟩ }, .mark⟩
    | .mark, '+' => .more ⟨n, .exponentSign⟩
    | .mark, '-' => .more ⟨{ n with exponent := some ⟨true, []⟩ }, .exponentSign⟩
    | _, _ => p.stop

end PartialNumber

/-! ### The reader -/

/-- Something that is open, with its finished parts in reverse. -/
inductive Frame where
  | items (done : List Value)
  | members (done : List (RawText × Value))
  /-- An object whose member `key` awaits its value. -/
  | member (done : List (RawText × Value)) (key : RawText)
  /-- An object whose first key is no string. -/
  | oddKey

/-- What the reader expects next. -/
inductive Mode where
  /-- A value. -/
  | value
  /-- The first item of an array, or its end. -/
  | firstItem
  /-- An item behind a comma. -/
  | nextItem
  /-- A comma or the end of an array. -/
  | afterItem
  /-- The first key of an object, or its end. -/
  | firstKey
  /-- A key behind a comma. -/
  | nextKey
  | colon
  /-- A comma or the end of an object. -/
  | afterMember
  /-- The rest of a literal that begins with `opening`. -/
  | word (opening : Char) (rest : List Char) (v : Value)
  | number (n : PartialNumber)
  /-- A string, its finished pieces in reverse; `isKey` tells keys from values. -/
  | text (isKey : Bool) (done : List Piece)
  /-- The letter behind a backslash. -/
  | escape (isKey : Bool) (done : List Piece)
  /-- The rest of the four bytes behind `\u`. -/
  | unit (isKey : Bool) (done : List Piece) (digits : List Char)
  /-- Blanks behind the whole value. -/
  | done (v : Value) (trailing : Bool)
  /-- Nothing any more: there was a flaw. -/
  | halted (v : Value)

/-- The state of the reader. -/
structure Reader where
  stack : List Frame := []
  mode : Mode := .value

/-- The four blanks of JSON. -/
def isBlank (c : Char) : Bool := c == ' ' || c == '\n' || c == '\t' || c == '\r'

namespace Reader

/-- Close everything that is open around a value that holds the flaw. -/
def collapse (v : Value) : List Frame → Value
  | [] => v
  | .items done :: stack => collapse (.array (v :: done).reverse (.broken .malformed)) stack
  | .members done :: stack => collapse (.object done.reverse (.broken .malformed)) stack
  | .member done key :: stack =>
    collapse (.object ((key, v) :: done).reverse (.broken .malformed)) stack
  | .oddKey :: stack => collapse (.oddObject v) stack

/-- Halt with a value that holds the flaw. -/
def halt (stack : List Frame) (v : Value) : Reader := ⟨[], .halted (collapse v stack)⟩

/-- Halt because the innermost array or object ends with a flaw. -/
def haltList (stack : List Frame) (stop : Stop) : Reader :=
  match stack with
  | .items done :: outer => halt outer (.array done.reverse stop)
  | .members done :: outer => halt outer (.object done.reverse stop)
  | _ => halt stack (.missing .malformed)

/-- Hand a finished value to what it is part of. -/
def complete (stack : List Frame) (v : Value) : Reader :=
  match stack with
  | [] => ⟨[], .done v false⟩
  | .items done :: outer => ⟨.items (v :: done) :: outer, .afterItem⟩
  | .member done key :: outer => ⟨.members ((key, v) :: done) :: outer, .afterMember⟩
  | .members _ :: _ | .oddKey :: _ => halt stack v

/-- Hand a finished string to what it is part of: a value, or the key of a member. -/
def completeText (stack : List Frame) (isKey : Bool) (done : List Piece) : Reader :=
  let t : RawText := { pieces := done.reverse }
  match isKey, stack with
  | true, .members members :: outer => ⟨.member members t :: outer, .colon⟩
  | _, _ => complete stack (.text t)

/-- Halt inside a string. -/
def haltText (stack : List Frame) (isKey : Bool) (done : List Piece) (flaw : Flaw) : Reader :=
  let t : RawText := ⟨done.reverse, flaw⟩
  match isKey, stack with
  | true, .members members :: outer => halt (.member members t :: outer) (.missing flaw)
  | _, _ => halt stack (.text t)

/-- Begin a value with its first character. -/
def start (stack : List Frame) (c : Char) : Reader :=
  match Digit.ofChar? c with
  | some d => ⟨stack, .number ⟨{ whole := [d] }, if d.val = 0 then .zero else .whole⟩⟩
  | none =>
    match c with
    | 'n' => ⟨stack, .word 'n' "ull".toList .null⟩
    | 't' => ⟨stack, .word 't' "rue".toList (.bool true)⟩
    | 'f' => ⟨stack, .word 'f' "alse".toList (.bool false)⟩
    | '-' => ⟨stack, .number ⟨{ negative := true, whole := [] }, .sign⟩⟩
    | '"' => ⟨stack, .text false []⟩
    | '[' => ⟨.items [] :: stack, .firstItem⟩
    | '{' => ⟨.members [] :: stack, .firstKey⟩
    | _ => halt stack (.missing .malformed)

/-- Take a character behind a finished value. -/
def settled (r : Reader) (c : Char) : Reader :=
  match r.mode, r.stack with
  | .afterItem, .items done :: outer =>
    if isBlank c then r
    else if c = ',' then ⟨r.stack, .nextItem⟩
    else if c = ']' then complete outer (.array done.reverse .closed)
    else haltList r.stack (.broken .malformed)
  | .afterMember, .members done :: outer =>
    if isBlank c then r
    else if c = ',' then ⟨r.stack, .nextKey⟩
    else if c = '}' then complete outer (.object done.reverse .closed)
    else haltList r.stack (.broken .malformed)
  | .done v trailing, _ => ⟨r.stack, .done v (trailing || !isBlank c)⟩
  | _, _ => r

/-- Take a character of a string. -/
def textStep (stack : List Frame) (isKey : Bool) (done : List Piece) (c : Char) : Reader :=
  if c = '"' then completeText stack isKey done
  else if c = '\\' then ⟨stack, .escape isKey done⟩
  else if c.toNat < 0x20 then haltText stack isKey done .malformed
  else ⟨stack, .text isKey (.plain c :: done)⟩

/-- Take the letter of an escape. -/
def escapeStep (stack : List Frame) (isKey : Bool) (done : List Piece) (c : Char) : Reader :=
  if c = 'u' then ⟨stack, .unit isKey done []⟩
  else match escapedBy? c with
    | some e => ⟨stack, .text isKey (.escaped e :: done)⟩
    | none => haltText stack isKey done .malformed

/-- Take a character of the four bytes behind `\u`. They are looked at when all four are there. -/
def unitStep (stack : List Frame) (isKey : Bool) (done : List Piece) (digits : List Char) (c : Char) :
    Reader :=
  let digits := digits ++ [c]
  if byteCount digits < 4 then ⟨stack, .unit isKey done digits⟩
  else match hexNumber? digits with
    | some n => ⟨stack, .text isKey (.unit n :: done)⟩
    | none => haltText stack isKey done .malformed

/-- Take a character. -/
def step (r : Reader) (c : Char) : Reader :=
  match r.mode with
  | .value => if isBlank c then r else start r.stack c
  | .firstItem =>
    if isBlank c then r
    else if c = ']' then complete r.stack.tail (.array [] .closed)
    else start r.stack c
  | .nextItem =>
    if isBlank c then r
    else if c = ']' then haltList r.stack (.dangling .malformed)
    else start r.stack c
  | .firstKey =>
    if isBlank c then r
    else if c = '}' then complete r.stack.tail (.object [] .closed)
    else if c = '"' then ⟨r.stack, .text true []⟩
    else start (.oddKey :: r.stack.tail) c
  | .nextKey =>
    if isBlank c then r
    else if c = '"' then ⟨r.stack, .text true []⟩
    else haltList r.stack (.dangling .malformed)
  | .colon =>
    if isBlank c then r
    else if c = ':' then ⟨r.stack, .value⟩
    else halt r.stack (.missing .malformed)
  | .afterItem | .afterMember | .done _ _ => r.settled c
  | .word opening rest v =>
    match rest with
    | [] => halt r.stack (.word opening .malformed)
    | w :: rest =>
      if c ≠ w then halt r.stack (.word opening .malformed)
      else if rest = [] then complete r.stack v
      else ⟨r.stack, .word opening rest v⟩
  | .number n =>
    match n.step c with
    | .more n => ⟨r.stack, .number n⟩
    | .ended n => (complete r.stack (.number (.ok n))).settled c
    | .flawed => halt r.stack (.number (.error .malformed))
  | .text isKey done => textStep r.stack isKey done c
  | .escape isKey done => escapeStep r.stack isKey done c
  | .unit isKey done digits => unitStep r.stack isKey done digits c
  | .halted _ => r

/-- The reader at the end of the text, where no value is in progress. -/
def finishSettled (r : Reader) : Reader :=
  match r.mode with
  | .value | .colon => halt r.stack (.missing .truncated)
  | .firstItem | .afterItem | .afterMember => haltList r.stack (.broken .truncated)
  | .nextItem | .nextKey => haltList r.stack (.dangling .truncated)
  | .firstKey => halt (.oddKey :: r.stack.tail) (.missing .truncated)
  | .word opening _ _ => halt r.stack (.word opening .truncated)
  | .text isKey done | .escape isKey done | .unit isKey done _ => haltText r.stack isKey done .truncated
  | .number _ => halt r.stack (.number (.error .truncated))
  | .done _ _ | .halted _ => r

/-- Take the end of the text. -/
def finish (r : Reader) : Reader :=
  match r.mode with
  | .number n =>
    if n.isComplete then (complete r.stack (.number (.ok n.numeral))).finishSettled
    else r.finishSettled
  | _ => r.finishSettled

/-- The document that a finished reader has read. -/
def document (r : Reader) : Document :=
  match r.mode with
  | .done v trailing => ⟨v, trailing⟩
  | .halted v => ⟨v, false⟩
  | _ => ⟨.missing .malformed, false⟩

end Reader

/-- Take a text apart. -/
def Document.ofString (s : String) : Document := (s.toList.foldl Reader.step {}).finish.document

end PerfTimeline.Json
