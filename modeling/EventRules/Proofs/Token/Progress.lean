import EventRules.Proofs.Token.Run

/-!
# How a lexer goes on

A lexer may be called any number of times, errors or not (`Lexer.after`). It never goes back
(`after_passes`), so that it stands at some place of its source, and each call answers for what lies
behind that place (`Lexer.Answers`).
-/

namespace EventRules

namespace Lexer

/-- The lexer after a number of calls, whatever they gave. -/
def after (l : Lexer) : (calls : Nat) → Lexer
  | 0 => l
  | calls + 1 => (l.after calls).next.2

variable {l : Lexer} {t : Token}

/-- Any number of calls pass a part of the text. -/
lemma after_passes (l : Lexer) (calls : Nat) : ∃ used, Cursor.Passes used l.toCursor (l.after calls).toCursor := by
  induction calls with
  | zero => exact ⟨[], .refl _⟩
  | succ calls ih =>
    obtain ⟨used, hpass⟩ := ih
    obtain ⟨more, hmore⟩ := (l.after calls).next_passes
    exact ⟨used ++ more, hpass.trans hmore⟩

/-- Calls after calls are so many calls. -/
lemma after_add (l : Lexer) (calls more : Nat) : (l.after calls).after more = l.after (calls + more) := by
  induction more with
  | zero => rfl
  | succ more ih => exact congrArg (fun l => l.next.2) ih

/-- Some calls after one. -/
lemma after_next (l : Lexer) (calls : Nat) : l.next.2.after calls = l.after (calls + 1) := by
  rw [Nat.add_comm]
  exact l.after_add 1 calls

/-- Where nothing is left, every call gives the end of the input. -/
lemma next_nil (h : l.rest = []) :
    l.next.1 = .ok (.eof l.position) ∧ l.next.2.rest = [] ∧ l.next.2.position = l.position := by
  obtain ⟨⟨rest, position⟩, afterOperand⟩ := l
  cases h
  exact ⟨rfl, rfl, rfl⟩

/-- At the end of the text a lexer stays where it is. -/
lemma after_nil (h : l.rest = []) (calls : Nat) :
    (l.after calls).rest = [] ∧ (l.after calls).position = l.position := by
  induction calls with
  | zero => exact ⟨h, rfl⟩
  | succ calls ih =>
    obtain ⟨-, hrest, hposition⟩ := next_nil ih.1
    exact ⟨hrest, hposition.trans ih.2⟩

/-- A token does not lie before the place where the call began. -/
lemma position_le_offset (h : l.next.1 = .ok t) : l.position ≤ t.offset := by
  have hsteps := l.next_steps
  generalize l.next = result at h hsteps
  cases hsteps with
  | token _ _ hgap hoffset _ =>
    cases h
    rw [hoffset, hgap.position]
    exact Nat.le_add_right _ _
  | eof heof _ hpass _ =>
    cases h
    rw [heof]
    exact hpass.position ▸ Nat.le_add_right _ _
  | error => cases h

/-- Every token but the end takes a character at least. -/
lemma offset_lt_position (h : l.next.1 = .ok t) (hkind : t.kind ≠ .eof) : t.offset < l.next.2.position := by
  have hsteps := l.next_steps
  generalize l.next = result at h hsteps
  cases hsteps with
  | token _ _ _ hoffset hused =>
    cases h
    rw [hoffset, hused.position]
    exact Nat.lt_add_of_pos_right (Nat.succ_pos _)
  | eof heof _ _ _ =>
    cases h
    exact (hkind (heof ▸ rfl)).elim
  | error => cases h

/-- What a call of a lexer that stands in a text may answer. A token other than the end of the input
starts behind filler and lies where the call passed over it. The end of the input comes where only
filler is left, and again from every later call. An error names a character of the text. -/
inductive Answers (text : List Char) (l : Lexer) : Prop
  | token {t : Token} : l.next.1 = .ok t → t.kind ≠ .eof → l.position ≤ t.offset → t.offset < l.next.2.position →
    Filler False ((text.take t.offset).drop l.position) → Answers text l
  | eof : Filler True (text.drop l.position) → (∀ later, (l.after later).next.1 = .ok (.eof text.length)) →
    Answers text l
  | error {offset : Nat} {fault : LexFault} (h : offset < text.length) :
    l.next.1 = .error (.lex offset text[offset] fault) → Answers text l

/-- From every place of a text a lexer answers for what lies behind. -/
lemma answers {text before : List Char} (h : Cursor.Passes before ⟨text, 0⟩ l.toCursor) : l.Answers text := by
  have hposition : l.position = before.length := by rw [h.position, Nat.zero_add]
  have htext : text = before ++ l.rest := h.rest
  have hsteps := l.next_steps
  generalize hnext : l.next = result at hsteps
  cases hsteps with
  | token hkind hfiller hgap hoffset hused =>
    have hfirst := congrArg Prod.fst hnext
    refine .token hfirst hkind (position_le_offset hfirst) (offset_lt_position hfirst hkind) ?_
    rw [htext, hgap.rest, hoffset, hgap.position, hposition, ← List.append_assoc, ← List.length_append,
      List.take_left, List.drop_left]
    exact hfiller
  | @eof t l' heof hfiller hpass hrest =>
    have hend : l'.position = text.length := by rw [hpass.position, hposition, htext, List.length_append]
    refine .eof (by rwa [htext, hposition, List.drop_left]) fun later => ?_
    cases later with
    | zero => rw [after, hnext, heof, hend]
    | succ later =>
      obtain ⟨hlast, hposition⟩ := after_nil hrest later
      rw [← after_next, hnext, (next_nil hlast).1, hposition, hend]
  | error hpoints hpass =>
    obtain ⟨offset, found, fault, rfl, hfound⟩ := hpoints.of_passes h
    obtain ⟨hlt, rfl⟩ := List.getElem?_eq_some_iff.1 hfound
    exact .error hlt (by rw [hnext, Nat.zero_add])

/-- The tokens that are given lie one behind the other. -/
lemma Gives.offsets {result : Except Error (List Token)} (h : l.Gives result) {ts : List Token}
    (hts : result = .ok ts) : (∀ t ∈ ts, l.position ≤ t.offset) ∧ ts.Pairwise (·.offset < ·.offset) := by
  induction h generalizing ts with
  | @token l l' t result hnext hkind hrest ih =>
    cases result with
    | error e => cases hts
    | ok more =>
      cases hts
      obtain ⟨hle, hpairwise⟩ := ih rfl
      have hstart := position_le_offset (congrArg Prod.fst hnext)
      have hend := offset_lt_position (congrArg Prod.fst hnext) hkind
      rw [hnext] at hend
      have hlt : ∀ t' ∈ more, t.offset < t'.offset := fun t' ht' => Nat.lt_of_lt_of_le hend (hle t' ht')
      refine ⟨List.forall_mem_cons.2 ⟨hstart, fun t' ht' => Nat.le_trans hstart (Nat.le_of_lt (hlt t' ht'))⟩, ?_⟩
      exact List.pairwise_cons.2 ⟨hlt, hpairwise⟩
  | eof hnext hkind =>
    cases hts
    simpa using position_le_offset (congrArg Prod.fst hnext)
  | error => cases hts

end Lexer

/-- A lexer that is called any number of times, also after errors, never goes back and never leaves
its source, and each of its calls answers for what it passed over. No token starts where an earlier
one did. So to read all tokens ends, with offsets that increase. -/
theorem tokenize_progress (source : String) :
    (∀ calls, let l := (Lexer.ofSource source).after calls
      l.position ≤ l.next.2.position ∧ l.next.2.position ≤ source.length ∧ l.Answers source.toList) ∧
    (∀ calls later t t', ((Lexer.ofSource source).after calls).next.1 = .ok t → t.kind ≠ .eof →
      ((Lexer.ofSource source).after (calls + 1 + later)).next.1 = .ok t' → t.offset < t'.offset) ∧
    (Lexer.ofSource source).Gives (tokenize source) ∧
    ∀ ts, tokenize source = .ok ts → ts.Pairwise (·.offset < ·.offset) := by
  refine ⟨fun calls => ?_, fun calls later t t' ht hkind ht' => ?_, Lexer.tokenize_gives source, fun ts hts => ?_⟩
  · obtain ⟨before, hbefore⟩ := (Lexer.ofSource source).after_passes calls
    obtain ⟨used, hused⟩ := ((Lexer.ofSource source).after calls).next_passes
    have hlength := (hbefore.trans hused).position_le_length
    rw [show (Lexer.ofSource source).rest.length = source.length from String.length_toList] at hlength
    exact ⟨hused.position_le, Nat.zero_add source.length ▸ hlength, Lexer.answers hbefore⟩
  · obtain ⟨used, hpass⟩ := ((Lexer.ofSource source).after (calls + 1)).after_passes later
    rw [Lexer.after_add] at hpass
    calc t.offset < ((Lexer.ofSource source).after (calls + 1)).position := Lexer.offset_lt_position ht hkind
      _ ≤ ((Lexer.ofSource source).after (calls + 1 + later)).position := hpass.position_le
      _ ≤ t'.offset := Lexer.position_le_offset ht'
  · exact ((Lexer.tokenize_gives source).offsets hts).2

end EventRules
