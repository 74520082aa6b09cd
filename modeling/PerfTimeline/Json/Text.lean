import PerfTimeline.Json.Flaw

/-!
# Strings as they are written

A written string is a list of pieces: characters that stand for themselves, short escapes, and `\u` escapes,
each of which is one UTF-16 unit. Two units may make up one character, so what a string says is only known
from its pieces together. The text of a string may break off with a flaw.
-/

namespace PerfTimeline.Json

/-- A part of a written string. -/
inductive Piece where
  /-- A character that stands for itself. -/
  | plain (c : Char)
  /-- A character written as a backslash and a letter. -/
  | escaped (c : Char)
  /-- A UTF-16 unit, written as four hexadecimal digits. -/
  | unit (n : Nat)
deriving DecidableEq

/-- A string as it is written, and the flaw it breaks off with, if any. -/
structure RawText where
  pieces : List Piece
  flaw : Option Flaw := none
deriving DecidableEq

/-! ### Short escapes -/

/-- The characters that have a short escape, each with its letter. -/
def shortEscapes : List (Char × Char) :=
  [('"', '"'), ('\\', '\\'), ('/', '/'), ('\x08', 'b'), ('\x0c', 'f'), ('\n', 'n'), ('\r', 'r'), ('\t', 't')]

/-- The character that an escape letter stands for. -/
def escapedBy? (letter : Char) : Option Char := (shortEscapes.find? (·.2 == letter)).map (·.1)

/-- The letter that escapes a character. -/
def escapeLetter (c : Char) : Char := ((shortEscapes.find? (·.1 == c)).map (·.2)).getD c

/-! ### Hexadecimal digits -/

/-- The value of a hexadecimal digit of either case. -/
def hexValue? (c : Char) : Option Nat :=
  if '0' ≤ c ∧ c ≤ '9' then some (c.toNat - 48)
  else if 'a' ≤ c ∧ c ≤ 'f' then some (c.toNat - 87)
  else if 'A' ≤ c ∧ c ≤ 'F' then some (c.toNat - 55)
  else none

/-- The value of hexadecimal digits; nothing where one of them is none. -/
def hexNumber? (cs : List Char) : Option Nat :=
  cs.foldlM (fun n c => (hexValue? c).map (16 * n + ·)) 0

/-- The lower-case hexadecimal digit of a number below sixteen. -/
def hexDigit (n : Nat) : Char := Char.ofNat (if n < 10 then 48 + n else 87 + n)

/-- A UTF-16 unit as four hexadecimal digits. -/
def hexUnit (n : Nat) : List Char :=
  [hexDigit (n / 4096 % 16), hexDigit (n / 256 % 16), hexDigit (n / 16 % 16), hexDigit (n % 16)]

theorem hexValue?_hexDigit {n : Nat} (h : n < 16) : hexValue? (hexDigit n) = some n := by
  revert n; decide

/-- Four digits give a unit back. -/
theorem hexNumber?_hexUnit {n : Nat} (h : n < 65536) : hexNumber? (hexUnit n) = some n := by
  have digit (k : Nat) : hexValue? (hexDigit (k % 16)) = some (k % 16) :=
    hexValue?_hexDigit (Nat.mod_lt k (by decide))
  simp only [hexNumber?, hexUnit, List.foldlM_cons, List.foldlM_nil, digit, Option.map_some,
    bind, Option.bind, pure]
  congr 1; omega

/-- An escape letter gives its character back. -/
theorem escapedBy?_escapeLetter {c : Char} (h : c ∈ shortEscapes.map (·.1)) :
    escapedBy? (escapeLetter c) = some c := by
  simp only [shortEscapes, List.map_cons, List.map_nil, List.mem_cons, List.not_mem_nil, or_false] at h
  rcases h with rfl | rfl | rfl | rfl | rfl | rfl | rfl | rfl <;> decide

/-- The number of bytes that characters take in UTF-8. -/
def byteCount : List Char → Nat
  | [] => 0
  | c :: cs => c.utf8Size + byteCount cs

/-! ### What a string says -/

/-- Whether a unit is the first of two that make up a character. -/
def isLeading (n : Nat) : Bool := 0xd800 ≤ n && n < 0xdc00

/-- Whether a unit is the second of two that make up a character. -/
def isTrailing (n : Nat) : Bool := 0xdc00 ≤ n && n < 0xe000

/-- The character of two units. -/
def joinUnits (first second : Nat) : Char :=
  Char.ofNat (0x10000 + (first - 0xd800) * 0x400 + (second - 0xdc00))

/-- The characters that pieces stand for. A unit of a pair must stand beside the other; `rest` is what
follows the pieces. -/
def readPieces (rest : Option Flaw) : List Piece → Except Flaw (List Char)
  | [] => match rest with
    | none => .ok []
    | some f => .error f
  | .plain c :: ps => (readPieces rest ps).map (c :: ·)
  | .escaped c :: ps => (readPieces rest ps).map (c :: ·)
  | .unit n :: ps =>
    if isTrailing n then .error .malformed
    else if isLeading n then
      match ps with
      | .unit m :: ps =>
        if isTrailing m then (readPieces rest ps).map (joinUnits n m :: ·) else .error .malformed
      | [] => .error (rest.getD .malformed)
      | _ :: _ => .error .malformed
    else (readPieces rest ps).map (Char.ofNat n :: ·)

namespace RawText

/-- What the string says. -/
def read (t : RawText) : Except Flaw String := (readPieces t.flaw t.pieces).map String.ofList

/-- Pass over the string. Units of pairs may stand alone here. -/
def skip (t : RawText) : Except Flaw Unit :=
  match t.flaw with
  | none => .ok ()
  | some f => .error f

/-! ### Writing -/

/-- How a character is written: quotes, backslashes and control characters are escaped, all else stands
for itself. -/
def pieceOf (c : Char) : Piece :=
  if c = '"' ∨ c = '\\' ∨ c = '\x08' ∨ c = '\x0c' ∨ c = '\n' ∨ c = '\r' ∨ c = '\t' then .escaped c
  else if c.toNat < 0x20 then .unit c.toNat
  else .plain c

/-- The written form of a string. -/
def ofString (s : String) : RawText := { pieces := s.toList.map pieceOf }

theorem readPieces_pieceOf (cs : List Char) : readPieces none (cs.map pieceOf) = .ok cs := by
  induction cs with
  | nil => rfl
  | cons c cs ih =>
    have hc : pieceOf c = .escaped c ∨ (pieceOf c = .unit c.toNat ∧ c.toNat < 32) ∨
        pieceOf c = .plain c := by
      unfold pieceOf
      split
      · exact .inl rfl
      · split
        · exact .inr (.inl ⟨rfl, ‹_›⟩)
        · exact .inr (.inr rfl)
    rw [List.map_cons]
    obtain he | ⟨he, hlt⟩ | he := hc
    · rw [he, readPieces, ih]; rfl
    · have ht : isTrailing c.toNat = false := by simp only [isTrailing]; grind
      have hl : isLeading c.toNat = false := by simp only [isLeading]; grind
      rw [he, readPieces.eq_def]
      simp [ht, hl, ih, Except.map]
    · rw [he, readPieces, ih]; rfl

/-- A written string says what was written. -/
theorem read_ofString (s : String) : (ofString s).read = .ok s := by
  simp [read, ofString, readPieces_pieceOf, Except.map]

/-- The characters of a piece. -/
def printPiece : Piece → List Char
  | .plain c => [c]
  | .escaped c => ['\\', escapeLetter c]
  | .unit n => '\\' :: 'u' :: hexUnit n

/-- The characters of a written string, with its quotes. -/
def print (t : RawText) : List Char := '"' :: (t.pieces.flatMap printPiece ++ ['"'])

end RawText

end PerfTimeline.Json
