import PerfTimeline.Json.Reader

/-!
# Taking apart what was written

A value that has no flaw, and whose strings and numbers are written as JSON writes them, is taken apart from
its own text as it was, and nothing is left behind it (`Document.ofString_render`).

The proof goes through the text with the reader. Wherever a value may begin, the characters of a value bring
the reader to the state `Settles` describes: the value is handed to what it is part of. Only a number is
still open there, since it is the next character that ends it.
-/

namespace PerfTimeline.Json

/-! ### Values in proper form -/

/-- A piece that a text can have. -/
def Piece.IsProper : Piece → Prop
  | .plain c => c ≠ '"' ∧ c ≠ '\\' ∧ 0x20 ≤ c.toNat
  | .escaped c => c ∈ shortEscapes.map (·.1)
  | .unit n => n < 0x10000

/-- A string that does not break off. -/
structure RawText.IsProper (t : RawText) : Prop where
  flawless : t.flaw = none
  pieces : ∀ p ∈ t.pieces, p.IsProper

theorem RawText.IsProper.eq {t : RawText} (h : t.IsProper) : ({ pieces := t.pieces } : RawText) = t := by
  obtain ⟨pieces, flaw⟩ := t
  have hflaw : flaw = none := h.flawless
  rw [hflaw]

/-- A numeral as JSON allows it: no zero in front of other digits, and no exponent without digits. -/
structure Numeral.IsProper (n : Numeral) : Prop where
  whole : n.whole = [0] ∨ ∃ d ds, n.whole = d :: ds ∧ d ≠ 0
  exponent : ∀ e, n.exponent = some e → e.digits ≠ []

namespace Value

mutual

/-- A value without a flaw anywhere, in proper form. -/
def IsProper : Value → Prop
  | .null => True
  | .bool _ => True
  | .number (.ok n) => n.IsProper
  | .text t => t.IsProper
  | .array items .closed => AllProper items
  | .object members .closed => MembersProper members
  | _ => False

def AllProper : List Value → Prop
  | [] => True
  | v :: vs => v.IsProper ∧ AllProper vs

def MembersProper : List (RawText × Value) → Prop
  | [] => True
  | (key, v) :: ms => key.IsProper ∧ v.IsProper ∧ MembersProper ms

end

end Value

/-! ### Numbers -/

namespace Reader

variable {stack : List Frame}

theorem step_digit {p : PartialNumber} {d : Digit} {q : PartialNumber} (h : p.digit d = .more q) :
    step ⟨stack, .number p⟩ d.toChar = ⟨stack, .number q⟩ := by
  simp [step, PartialNumber.step, Digit.ofChar?_toChar, h]

theorem foldl_digits {part : NumberPart} {add : Numeral → Digit → Numeral}
    (hadd : ∀ n d, PartialNumber.digit ⟨n, part⟩ d = .more ⟨add n d, part⟩) (ds : List Digit)
    (n : Numeral) :
    (Numeral.digitChars ds).foldl step ⟨stack, .number ⟨n, part⟩⟩ =
      ⟨stack, .number ⟨ds.foldl add n, part⟩⟩ := by
  induction ds generalizing n with
  | nil => rfl
  | cons d ds ih =>
    show (Numeral.digitChars ds).foldl step (step _ d.toChar) = _
    rw [step_digit (hadd n d), ih, List.foldl_cons]

theorem foldl_whole (ds : List Digit) (n : Numeral) :
    (Numeral.digitChars ds).foldl step ⟨stack, .number ⟨n, .whole⟩⟩ =
      ⟨stack, .number ⟨{ n with whole := n.whole ++ ds }, .whole⟩⟩ := by
  rw [foldl_digits (fun _ _ => rfl)]
  congr 3
  induction ds generalizing n with
  | nil => simp
  | cons d ds ih => rw [List.foldl_cons, ih]; simp

theorem foldl_fraction (ds : List Digit) (n : Numeral) :
    (Numeral.digitChars ds).foldl step ⟨stack, .number ⟨n, .fraction⟩⟩ =
      ⟨stack, .number ⟨{ n with fraction := n.fraction ++ ds }, .fraction⟩⟩ := by
  rw [foldl_digits (fun _ _ => rfl)]
  congr 3
  induction ds generalizing n with
  | nil => simp
  | cons d ds ih => rw [List.foldl_cons, ih]; simp

theorem foldl_exponent (ds : List Digit) (n : Numeral) (e : Exponent) :
    (Numeral.digitChars ds).foldl step ⟨stack, .number ⟨{ n with exponent := some e }, .exponent⟩⟩ =
      ⟨stack, .number
        ⟨{ n with exponent := some { e with digits := e.digits ++ ds } }, .exponent⟩⟩ := by
  rw [foldl_digits (fun _ _ => rfl)]
  congr 3
  induction ds generalizing e with
  | nil => simp
  | cons d ds ih => rw [List.foldl_cons]; simp [PartialNumber.addExponentDigit, ih]

theorem start_digit (d : Digit) :
    start stack d.toChar = ⟨stack, .number ⟨{ whole := [d] }, if d.val = 0 then .zero else .whole⟩⟩ := by
  simp [start, Digit.ofChar?_toChar]

theorem toChar_ne (d : Digit) : isBlank d.toChar = false ∧ d.toChar ≠ ']' := by
  revert d; decide

theorem foldl_sign_whole (stack : List Frame) {n : Numeral} (h : n.IsProper) :
    ∃ part, (part = .zero ∨ part = .whole) ∧
      ((if n.negative then ['-'] else []) ++ Numeral.digitChars n.whole).foldl step
        ⟨stack, .value⟩ =
      ⟨stack, .number ⟨{ negative := n.negative, whole := n.whole }, part⟩⟩ := by
  -- the first digit decides whether others may follow
  have hfirst (d : Digit) (ds : List Digit) : (Numeral.digitChars (d :: ds)).foldl step
        ((if n.negative then ['-'] else []).foldl step ⟨stack, .value⟩) =
      (Numeral.digitChars ds).foldl step ⟨stack, .number
        ⟨{ negative := n.negative, whole := [d] }, if d.val = 0 then .zero else .whole⟩⟩ := by
    show (Numeral.digitChars ds).foldl step (step _ d.toChar) = _
    congr 1
    cases n.negative with
    | false =>
      show step ⟨stack, .value⟩ d.toChar = _
      rw [step, if_neg (by simp [(toChar_ne d).1]), start_digit]
    | true => exact step_digit rfl
  rw [List.foldl_append]
  obtain hz | ⟨d, ds, hd, hne⟩ := h.whole
  · exact ⟨.zero, .inl rfl, by rw [hz, hfirst]; rfl⟩
  · have hval : d.val ≠ 0 := fun h => hne (Fin.ext h)
    exact ⟨.whole, .inr rfl, by rw [hd, hfirst, if_neg hval, foldl_whole]; rfl⟩

theorem foldl_point (stack : List Frame) (ds : List Digit) {n : Numeral} {part : NumberPart}
    (hn : n.fraction = []) (hpart : part = .zero ∨ part = .whole) :
    ∃ part', (part' = .zero ∨ part' = .whole ∨ part' = .fraction) ∧
      (if ds = [] then [] else '.' :: Numeral.digitChars ds).foldl step ⟨stack, .number ⟨n, part⟩⟩ =
      ⟨stack, .number ⟨{ n with fraction := ds }, part'⟩⟩ := by
  cases ds with
  | nil =>
    have hsame : n = { n with fraction := [] } := by rw [← hn]
    exact ⟨part, by grind, by rw [← hsame]; rfl⟩
  | cons d ds =>
    refine ⟨.fraction, .inr (.inr rfl), ?_⟩
    show (Numeral.digitChars ds).foldl step (step (step ⟨stack, .number ⟨n, part⟩⟩ '.') d.toChar) = _
    have hpoint : step ⟨stack, .number ⟨n, part⟩⟩ '.' = ⟨stack, .number ⟨n, .point⟩⟩ := by
      obtain rfl | rfl := hpart <;> rfl
    rw [hpoint, step_digit rfl, foldl_fraction, hn]
    rfl

theorem foldl_mark (stack : List Frame) (exponent : Option Exponent)
    (he : ∀ e, exponent = some e → e.digits ≠ []) {n : Numeral} {part : NumberPart} (hn : n.exponent = none)
    (hpart : part = .zero ∨ part = .whole ∨ part = .fraction) :
    ∃ part', PartialNumber.isComplete ⟨{ n with exponent }, part'⟩ = true ∧
      (match exponent with
        | none => []
        | some e => 'e' :: (if e.negative then '-' else '+') :: Numeral.digitChars e.digits).foldl step
        ⟨stack, .number ⟨n, part⟩⟩ = ⟨stack, .number ⟨{ n with exponent }, part'⟩⟩ := by
  cases exponent with
  | none =>
    have hsame : n = { n with exponent := none } := by rw [← hn]
    refine ⟨part, ?_, by rw [← hsame]; rfl⟩
    obtain rfl | rfl | rfl := hpart <;> rfl
  | some e =>
    obtain ⟨negative, digits⟩ := e
    refine ⟨.exponent, rfl, ?_⟩
    cases digits with
    | nil => exact absurd rfl (he _ rfl)
    | cons d ds =>
      have hmark : step ⟨stack, .number ⟨n, part⟩⟩ 'e' =
          ⟨stack, .number ⟨{ n with exponent := some ⟨false, []⟩ }, .mark⟩⟩ := by
        obtain rfl | rfl | rfl := hpart <;> rfl
      have hsign : step ⟨stack, .number ⟨{ n with exponent := some ⟨false, []⟩ }, .mark⟩⟩
            (if negative then '-' else '+') =
          ⟨stack, .number ⟨{ n with exponent := some ⟨negative, []⟩ }, .exponentSign⟩⟩ := by
        cases negative <;> rfl
      show (Numeral.digitChars ds).foldl step
        (step (step (step ⟨stack, .number ⟨n, part⟩⟩ 'e') (if negative then '-' else '+')) d.toChar) = _
      rw [hmark, hsign, step_digit rfl]
      exact foldl_exponent ds n ⟨negative, [d]⟩

theorem foldl_numeral (stack : List Frame) {n : Numeral} (h : n.IsProper) :
    ∃ part, PartialNumber.isComplete ⟨n, part⟩ = true ∧
      n.print.foldl step ⟨stack, .value⟩ = ⟨stack, .number ⟨n, part⟩⟩ := by
  obtain ⟨part₁, hpart₁, h₁⟩ := foldl_sign_whole stack h
  obtain ⟨part₂, hpart₂, h₂⟩ := foldl_point stack n.fraction
    (n := { negative := n.negative, whole := n.whole }) rfl hpart₁
  obtain ⟨part₃, hpart₃, h₃⟩ := foldl_mark stack n.exponent h.exponent
    (n := { negative := n.negative, whole := n.whole, fraction := n.fraction }) rfl hpart₂
  refine ⟨part₃, hpart₃, ?_⟩
  unfold Numeral.print
  rw [List.foldl_append, List.foldl_append, h₁, h₂]
  exact h₃

/-! ### Strings -/

theorem utf8Size_hexDigit {n : Nat} (h : n < 16) : (hexDigit n).utf8Size = 1 := by
  revert n; decide

theorem escapeLetter_ne {c : Char} (h : c ∈ shortEscapes.map (·.1)) : escapeLetter c ≠ 'u' := by
  simp only [shortEscapes, List.map_cons, List.map_nil, List.mem_cons, List.not_mem_nil, or_false] at h
  rcases h with rfl | rfl | rfl | rfl | rfl | rfl | rfl | rfl <;> decide

theorem foldl_hexUnit {n : Nat} (h : n < 0x10000) (isKey : Bool) (done : List Piece) :
    (hexUnit n).foldl step ⟨stack, .unit isKey done []⟩ =
      ⟨stack, .text isKey (.unit n :: done)⟩ := by
  -- the digits are looked at together, when the last of them is there
  have size (k : Nat) : (hexDigit (k % 16)).utf8Size = 1 := utf8Size_hexDigit (Nat.mod_lt k (by decide))
  have value := hexNumber?_hexUnit h
  unfold hexUnit at value
  simp [hexUnit, step, unitStep, byteCount, size, value]

theorem foldl_piece {p : Piece} (h : p.IsProper) (isKey : Bool) (done : List Piece) :
    (RawText.printPiece p).foldl step ⟨stack, .text isKey done⟩ =
      ⟨stack, .text isKey (p :: done)⟩ := by
  cases p with
  | plain c =>
    obtain ⟨hquote, hslash, hcontrol⟩ := h
    show textStep stack isKey done c = _
    rw [textStep, if_neg hquote, if_neg hslash, if_neg (by omega)]
  | escaped c =>
    show escapeStep stack isKey done (escapeLetter c) = _
    rw [escapeStep, if_neg (escapeLetter_ne h), escapedBy?_escapeLetter h]
  | unit n =>
    rw [RawText.printPiece, List.foldl_cons, List.foldl_cons]
    exact foldl_hexUnit h isKey done

theorem foldl_pieces {ps : List Piece} (h : ∀ p ∈ ps, p.IsProper) (isKey : Bool) (done : List Piece) :
    (ps.flatMap RawText.printPiece).foldl step ⟨stack, .text isKey done⟩ =
      ⟨stack, .text isKey (ps.reverse ++ done)⟩ := by
  induction ps generalizing done with
  | nil => rfl
  | cons p ps ih =>
    have hp := h p List.mem_cons_self
    have hps := fun q hq => h q (List.mem_cons_of_mem p hq)
    rw [List.flatMap_cons, List.foldl_append, foldl_piece hp, ih hps]
    simp

theorem foldl_text {t : RawText} (h : t.IsProper) (isKey : Bool) :
    (t.pieces.flatMap RawText.printPiece ++ ['"']).foldl step ⟨stack, .text isKey []⟩ =
      completeText stack isKey t.pieces.reverse := by
  rw [List.foldl_append, foldl_pieces h.pieces, List.append_nil]
  rfl

theorem foldl_key {t : RawText} (h : t.IsProper) {done : List (RawText × Value)} {mode : Mode}
    (hmode : mode = .firstKey ∨ mode = .nextKey) :
    t.print.foldl step ⟨.members done :: stack, mode⟩ = ⟨.member done t :: stack, .colon⟩ := by
  have hquote : step ⟨.members done :: stack, mode⟩ '"' =
      ⟨.members done :: stack, .text true []⟩ := by
    obtain rfl | rfl := hmode <;> rfl
  show (t.pieces.flatMap RawText.printPiece ++ ['"']).foldl step (step _ '"') = _
  rw [hquote, foldl_text h]
  show (⟨.member done { pieces := t.pieces.reverse.reverse } :: stack, .colon⟩ : Reader) = _
  rw [List.reverse_reverse, h.eq]

/-! ### Values -/

/-- The reader behind the characters of a value. -/
inductive Settles (stack : List Frame) : Value → Reader → Prop where
  | complete (v : Value) : Settles stack v (complete stack v)
  /-- A number may go on. -/
  | number {p : PartialNumber} (h : p.isComplete = true) :
    Settles stack (.number (.ok p.numeral)) ⟨stack, .number p⟩

theorem step_complete (stack : List Frame) (v : Value) (c : Char) :
    (complete stack v).step c = (complete stack v).settled c := by
  cases stack with
  | nil => rfl
  | cons frame stack => cases frame <;> rfl

/-- A comma or a bracket ends a number like any other value. -/
theorem Settles.step {v : Value} {r : Reader} (h : Settles stack v r) {c : Char}
    (hc : c = ',' ∨ c = ']' ∨ c = '}') : r.step c = (Reader.complete stack v).settled c := by
  cases h with
  | complete => exact step_complete stack v c
  | @number p hp =>
    obtain ⟨n, part⟩ := p
    have hstop : PartialNumber.step ⟨n, part⟩ c = .ended n := by
      obtain rfl | rfl | rfl := hc <;> cases part <;> first | rfl | cases hp
    simp [Reader.step, hstop]

theorem Settles.document {v : Value} {r : Reader} (h : Settles [] v r) :
    r.finish.document = ⟨v, false⟩ := by
  cases h with
  | complete => rfl
  | @number p hp =>
    have hfinish : finish ⟨[], .number p⟩ =
        (Reader.complete [] (.number (.ok p.numeral))).finishSettled := by
      simp [finish, hp]
    rw [hfinish]
    rfl

/-! ### Nested values -/

theorem print_eq_cons {v : Value} (h : v.IsProper) :
    ∃ c cs, v.print = c :: cs ∧ isBlank c = false ∧ c ≠ ']' := by
  cases v with
  | null => exact ⟨'n', _, rfl, by decide, by decide⟩
  | bool b => cases b <;> exact ⟨_, _, rfl, by decide, by decide⟩
  | number n =>
    cases n with
    | error f => cases h
    | ok n =>
      obtain ⟨d, ds, hd⟩ : ∃ d ds, n.whole = d :: ds := by
        obtain hz | ⟨d, ds, hd, -⟩ := Numeral.IsProper.whole h
        · exact ⟨0, [], hz⟩
        · exact ⟨d, ds, hd⟩
      rw [Value.print, Numeral.print, hd]
      cases n.negative with
      | true => exact ⟨'-', _, rfl, by decide, by decide⟩
      | false => exact ⟨d.toChar, _, rfl, toChar_ne d⟩
  | text t => exact ⟨'"', _, rfl, by decide, by decide⟩
  | array items stop => exact ⟨'[', _, by rw [Value.print], by decide, by decide⟩
  | object members stop => exact ⟨'{', _, by rw [Value.print], by decide, by decide⟩
  | missing f => cases h
  | word c f => cases h
  | oddObject key => cases h

/-- An item begins as any value does, the first one as well as those behind a comma. -/
theorem foldl_item {v : Value} (h : v.IsProper) (rest : List Char) {mode : Mode}
    (hmode : mode = .firstItem ∨ mode = .nextItem) :
    (v.print ++ rest).foldl step ⟨stack, mode⟩ = (v.print ++ rest).foldl step ⟨stack, .value⟩ := by
  obtain ⟨c, cs, hc, hblank, hend⟩ := print_eq_cons h
  have hstep : step ⟨stack, mode⟩ c = step ⟨stack, .value⟩ c := by
    obtain rfl | rfl := hmode <;> simp [step, hblank, hend]
  rw [hc, List.cons_append, List.foldl_cons, List.foldl_cons, hstep]

-- One induction over the value: what its items and members need is said where an item or a key may begin,
-- with whatever was read before in reverse.
mutual

theorem settles_print : (v : Value) → v.IsProper → (stack : List Frame) →
    Settles stack v (v.print.foldl step ⟨stack, .value⟩)
  | .null, _, _ => .complete _
  | .bool true, _, _ => .complete _
  | .bool false, _, _ => .complete _
  | .number (.ok n), h, stack => by
    obtain ⟨part, hpart, hread⟩ := foldl_numeral stack (n := n) h
    rw [Value.print, hread]
    exact .number hpart
  | .text t, h, stack => by
    have hread : (Value.text t).print.foldl step ⟨stack, .value⟩ =
        completeText stack false t.pieces.reverse := foldl_text h false
    rw [hread]
    show Settles stack _ (complete stack (.text { pieces := t.pieces.reverse.reverse }))
    rw [List.reverse_reverse, RawText.IsProper.eq h]
    exact .complete _
  | .array [] .closed, _, _ => .complete _
  | .array (v :: vs) .closed, h, stack => by
    have hread := foldl_printItems (v :: vs) h (by simp) stack [] (.inl rfl)
    have hprint : (Value.array (v :: vs) .closed).print.foldl step ⟨stack, .value⟩ =
        (Value.printItems (v :: vs)).foldl step ⟨.items [] :: stack, .firstItem⟩ := by
      rw [Value.print]; rfl
    rw [hprint, hread]
    exact .complete _
  | .object [] .closed, _, _ => .complete _
  | .object (m :: ms) .closed, h, stack => by
    have hread := foldl_printMembers (m :: ms) h (by simp) stack [] (.inl rfl)
    have hprint : (Value.object (m :: ms) .closed).print.foldl step ⟨stack, .value⟩ =
        (Value.printMembers (m :: ms)).foldl step ⟨.members [] :: stack, .firstKey⟩ := by
      rw [Value.print]; rfl
    rw [hprint, hread]
    exact .complete _

theorem foldl_printItems : (vs : List Value) → Value.AllProper vs → vs ≠ [] →
    (stack : List Frame) → (done : List Value) → {mode : Mode} →
    (mode = .firstItem ∨ mode = .nextItem) →
    (Value.printItems vs).foldl step ⟨.items done :: stack, mode⟩ =
      complete stack (.array (done.reverse ++ vs) .closed)
  | [], _, hne, _, _, _, _ => absurd rfl hne
  | [v], h, _, stack, done, mode, hmode => by
    have hv := settles_print v h.1 (.items done :: stack)
    rw [Value.printItems, foldl_item h.1 _ hmode, List.foldl_append]
    show step (v.print.foldl step _) ']' = _
    -- the bracket ends the item first, and then the array
    rw [hv.step (.inr (.inl rfl))]
    show complete stack (.array (v :: done).reverse .closed) = _
    rw [List.reverse_cons]
  | v :: w :: vs, h, _, stack, done, mode, hmode => by
    have hv := settles_print v h.1 (.items done :: stack)
    have hrest := foldl_printItems (w :: vs) h.2 (by simp) stack (v :: done) (.inr rfl)
    rw [Value.printItems.eq_3 _ _ (by simp), foldl_item h.1 _ hmode, List.foldl_append,
      List.foldl_cons, hv.step (.inl rfl)]
    show (Value.printItems (w :: vs)).foldl step ⟨.items (v :: done) :: stack, .nextItem⟩ = _
    rw [hrest, List.reverse_cons, List.append_assoc]
    rfl

theorem foldl_printMembers : (ms : List (RawText × Value)) → Value.MembersProper ms → ms ≠ [] →
    (stack : List Frame) → (done : List (RawText × Value)) → {mode : Mode} →
    (mode = .firstKey ∨ mode = .nextKey) →
    (Value.printMembers ms).foldl step ⟨.members done :: stack, mode⟩ =
      complete stack (.object (done.reverse ++ ms) .closed)
  | [], _, hne, _, _, _, _ => absurd rfl hne
  | [(key, v)], h, _, stack, done, mode, hmode => by
    have hv := settles_print v h.2.1 (.member done key :: stack)
    rw [Value.printMembers, List.append_assoc, List.foldl_append, foldl_key h.1 hmode]
    show (v.print ++ ['}']).foldl step ⟨.member done key :: stack, .value⟩ = _
    rw [List.foldl_append]
    show step (v.print.foldl step _) '}' = _
    rw [hv.step (.inr (.inr rfl))]
    show complete stack (.object ((key, v) :: done).reverse .closed) = _
    rw [List.reverse_cons]
  | (key, v) :: m :: ms, h, _, stack, done, mode, hmode => by
    have hv := settles_print v h.2.1 (.member done key :: stack)
    have hrest := foldl_printMembers (m :: ms) h.2.2 (by simp) stack ((key, v) :: done) (.inr rfl)
    rw [Value.printMembers.eq_3 _ _ _ (by simp), List.append_assoc, List.foldl_append, foldl_key h.1 hmode]
    show (v.print ++ ',' :: Value.printMembers (m :: ms)).foldl step
      ⟨.member done key :: stack, .value⟩ = _
    rw [List.foldl_append, List.foldl_cons, hv.step (.inl rfl)]
    show (Value.printMembers (m :: ms)).foldl step
      ⟨.members ((key, v) :: done) :: stack, .nextKey⟩ = _
    rw [hrest, List.reverse_cons, List.append_assoc]
    rfl

end

end Reader

/-- A value in proper form is taken apart from its own text as it was. -/
theorem Document.ofString_render {v : Value} (h : v.IsProper) :
    Document.ofString v.render = ⟨v, false⟩ := by
  have hread := (Reader.settles_print v h []).document
  unfold Document.ofString Value.render
  rw [String.toList_ofList]
  exact hread

end PerfTimeline.Json
