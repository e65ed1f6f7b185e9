import EventRules.Token.Lexer
import Mathlib.Tactic.Lemma

/-!
# Between the tokens

How a lexer passes over what stands between two tokens. `Cursor.Passes` says which text lies between
two places of a source, and `Error.PointsInto` that an error names a character of what is still to
be read. `Filler` is text of blanks and complete comments; the last line comment may lack its end
only where the input ends. What `Lexer.skipGap` passes over is filler (`skipGap_ok`), and it passes
over all filler (`skipGap_filler`).
-/

namespace EventRules

namespace Cursor

/-- The text `used` lies between two places of a source. -/
structure Passes (used : List Char) (here stop : Cursor) : Prop where
  rest : here.rest = used ++ stop.rest
  position : stop.position = here.position + used.length

namespace Passes

variable {here mid stop : Cursor} {used more : List Char}

/-- From a place to itself there is no text. -/
lemma refl (here : Cursor) : Passes [] here here :=
  ⟨rfl, rfl⟩

/-- Texts that are passed one after the other are passed as one. -/
lemma trans (h : Passes used here mid) (h' : Passes more mid stop) : Passes (used ++ more) here stop where
  rest := by rw [h.rest, h'.rest, List.append_assoc]
  position := by rw [h'.position, h.position, List.length_append, Nat.add_assoc]

/-- Nothing that is passed lies behind. -/
lemma position_le (h : Passes used here stop) : here.position ≤ stop.position :=
  h.position ▸ Nat.le_add_right _ _

/-- No place lies behind the end of the text. -/
lemma position_le_length (h : Passes used here stop) : stop.position ≤ here.position + here.rest.length := by
  rw [h.position, h.rest, List.length_append]
  exact Nat.add_le_add_left (Nat.le_add_right _ _) _

/-- The first character is passed in one step. -/
lemma one {c : Char} {cs : List Char} {position : Nat} : Passes [c] ⟨c :: cs, position⟩ ⟨cs, position + 1⟩ :=
  ⟨rfl, rfl⟩

/-- A step over one character goes before what lies after it. -/
lemma cons {c : Char} {cs : List Char} {position : Nat} (h : Passes used ⟨cs, position + 1⟩ stop) :
    Passes (c :: used) ⟨c :: cs, position⟩ stop :=
  one.trans h

/-- A step over one character goes after what was passed over before. -/
lemma next {c : Char} {cs : List Char} {position : Nat} (h : Passes used here ⟨c :: cs, position⟩) :
    Passes (used ++ [c]) here ⟨cs, position + 1⟩ :=
  h.trans one

end Passes

/-- To advance is to pass over the next characters, if there are so many. -/
lemma passes_advance (here : Cursor) {n : Nat} (h : n ≤ here.rest.length) :
    Passes (here.rest.take n) here (here.advance n) where
  rest := (List.take_append_drop n here.rest).symm
  position := by rw [List.length_take_of_le h]; rfl

end Cursor

/-- The error is that of a malformed token, and names a character that is still to be read, with its
place in the source. -/
def Error.PointsInto (e : Error) (here : Cursor) : Prop :=
  ∃ k found fault, e = .lex (here.position + k) found fault ∧ here.rest[k]? = some found

/-- An error may name the next character. -/
lemma Error.PointsInto.head {c : Char} {cs : List Char} {position : Nat} {fault : LexFault} :
    (Error.lex position c fault).PointsInto ⟨c :: cs, position⟩ :=
  ⟨0, c, fault, rfl, rfl⟩

/-- What an error points to from a later place lies ahead of an earlier one. -/
lemma Error.PointsInto.of_passes {e : Error} {here stop : Cursor} {used : List Char} (h : e.PointsInto stop)
    (hpass : Cursor.Passes used here stop) : e.PointsInto here := by
  obtain ⟨k, found, fault, rfl, hk⟩ := h
  refine ⟨used.length + k, found, fault, by rw [hpass.position, Nat.add_assoc], ?_⟩
  rw [hpass.rest, List.getElem?_append_right (Nat.le_add_right _ _), Nat.add_sub_cancel_left, hk]

/-- An error may point past the next character. -/
lemma Error.PointsInto.cons {e : Error} {c : Char} {cs : List Char} {position : Nat}
    (h : e.PointsInto ⟨cs, position + 1⟩) : e.PointsInto ⟨c :: cs, position⟩ :=
  h.of_passes .one

/-- Blanks and complete comments. A line comment ends with its line, and `atEnd` also where the text
does. -/
inductive Filler (atEnd : Prop) : List Char → Prop
  | nil : Filler atEnd []
  | blank {c : Char} {cs : List Char} : Text.isBlank c → Filler atEnd cs → Filler atEnd (c :: cs)
  | line {body cs : List Char} : '\n' ∉ body → Filler atEnd cs → Filler atEnd ('/' :: '/' :: (body ++ '\n' :: cs))
  | lastLine {body : List Char} : atEnd → '\n' ∉ body → Filler atEnd ('/' :: '/' :: body)
  | block {body cs : List Char} : ¬ ['*', '/'] <:+: body → Filler atEnd cs →
    Filler atEnd ('/' :: '*' :: (body ++ '*' :: '/' :: cs))

/-- A filler that has to end before the end may also end at it. -/
lemma Filler.mono {atEnd atEnd' : Prop} {cs : List Char} (h : Filler atEnd cs) (hend : atEnd → atEnd') :
    Filler atEnd' cs := by
  induction h with
  | nil => exact .nil
  | blank hc _ ih => exact .blank hc ih
  | line hbody _ ih => exact .line hbody ih
  | lastLine h hbody => exact .lastLine (hend h) hbody
  | block hbody _ ih => exact .block hbody ih

namespace Lexer

variable {atEnd : Prop} {c : Char} {cs used : List Char} {position : Nat} {stop : Cursor}

/-- Neither a blank nor a comment starts the text. -/
def Settled : List Char → Prop
  | [] => True
  | c :: cs => Text.isBlank c = false ∧ (c = '/' → cs.head? ≠ some '/' ∧ cs.head? ≠ some '*')

/-- A blank is skipped. -/
lemma skipGap_blank (h : Text.isBlank c) : skipGap .blank position (c :: cs) = skipGap .blank (position + 1) cs := by
  have hc : c ≠ '/' := by
    rintro rfl
    revert h
    decide
  rw [skipGap]
  · exact if_pos h
  · exact fun _ h => (hc h).elim
  · exact fun _ h => (hc h).elim

/-- Where a token begins or the text ends, nothing is skipped. -/
lemma skipGap_settled (h : Settled cs) : skipGap .blank position cs = (.ok (), ⟨cs, position⟩) := by
  cases cs with
  | nil => rfl
  | cons c cs =>
    rw [skipGap]
    · exact if_neg (Bool.eq_false_iff.1 h.1)
    · rintro rest hc rfl
      exact (h.2 hc).1 rfl
    · rintro rest hc rfl
      exact (h.2 hc).2 rfl

/-- In a block comment whatever does not end it is skipped. -/
lemma skipGap_blockComment {start : Nat} (h : ∀ rest, c = '*' → cs ≠ '/' :: rest) :
    skipGap (.blockComment start) position (c :: cs) = skipGap (.blockComment start) (position + 1) cs := by
  rw [skipGap]
  exact fun rest hc hcs => h rest hc hcs

/-- The text completes the gap in which it begins, and is filler after that. -/
def Gap.Closes (atEnd : Prop) : Gap → List Char → Prop
  | .blank, cs => Filler atEnd cs
  | .lineComment, cs => (∃ body rest, cs = body ++ '\n' :: rest ∧ '\n' ∉ body ∧ Filler atEnd rest) ∨ atEnd ∧ '\n' ∉ cs
  | .blockComment _, cs => ∃ body rest, cs = body ++ '*' :: '/' :: rest ∧ ¬ ['*', '/'] <:+: body ∧ Filler atEnd rest

/-- Two slashes and what closes a line comment are a filler. -/
lemma Gap.Closes.of_lineComment (h : Gap.lineComment.Closes atEnd cs) : Filler atEnd ('/' :: '/' :: cs) := by
  rcases h with ⟨body, rest, rfl, hbody, hrest⟩ | ⟨hend, hcs⟩
  · exact .line hbody hrest
  · exact .lastLine hend hcs

/-- A slash, a star and what closes a block comment are a filler. -/
lemma Gap.Closes.of_blockComment {start : Nat} (h : (Gap.blockComment start).Closes atEnd cs) :
    Filler atEnd ('/' :: '*' :: cs) := by
  obtain ⟨body, rest, rfl, hbody, hrest⟩ := h
  exact .block hbody hrest

/-- Every character but a line break goes on with a line comment. -/
lemma Gap.Closes.lineComment_cons (h : Gap.lineComment.Closes atEnd cs) (hc : c ≠ '\n') :
    Gap.lineComment.Closes atEnd (c :: cs) := by
  rcases h with ⟨body, rest, rfl, hbody, hrest⟩ | ⟨hend, hcs⟩
  · exact .inl ⟨c :: body, rest, rfl, by simp [hc.symm, hbody], hrest⟩
  · exact .inr ⟨hend, by simp [hc.symm, hcs]⟩

/-- A character of a block comment that does not end it, with what comes after it, goes before the
end. -/
lemma Gap.Closes.blockComment_cons {start : Nat} (h : (Gap.blockComment start).Closes atEnd cs)
    (hc : ∀ rest, c = '*' → cs ≠ '/' :: rest) : (Gap.blockComment start).Closes atEnd (c :: cs) := by
  obtain ⟨body, rest, rfl, hbody, hrest⟩ := h
  refine ⟨c :: body, rest, rfl, fun hinfix => ?_, hrest⟩
  rcases List.infix_cons_iff.1 hinfix with ⟨more, hmore⟩ | hinfix
  · obtain ⟨rfl, rfl⟩ := List.cons.inj hmore
    exact hc _ rfl rfl
  · exact hbody hinfix

/-- What lies between two tokens is filler. -/
lemma skipGap_ok {gap : Gap} (h : skipGap gap position cs = (.ok (), stop)) :
    ∃ used, Cursor.Passes used ⟨cs, position⟩ stop ∧ gap.Closes (stop.rest = []) used := by
  fun_induction skipGap gap position cs with
  | case1 => cases h
  | case2 position cs ih =>
    obtain ⟨used, hpass, hused⟩ := ih h
    exact ⟨_, .cons (.cons hpass), hused.of_lineComment⟩
  | case3 position cs ih =>
    obtain ⟨used, hpass, hused⟩ := ih h
    exact ⟨_, .cons (.cons hpass), hused.of_blockComment⟩
  | case4 position c cs _ _ hblank ih =>
    obtain ⟨used, hpass, hused⟩ := ih h
    exact ⟨_, .cons hpass, .blank hblank hused⟩
  | case5 position c cs =>
    cases h
    exact ⟨[], .refl _, .nil⟩
  | case6 position c cs ih =>
    obtain ⟨used, hpass, hused⟩ := ih h
    refine ⟨_, .cons hpass, ?_⟩
    split at hused
    -- The line break ends the comment, and what is skipped behind it is a filler by itself.
    next hc =>
      subst hc
      exact .inl ⟨[], used, rfl, by simp, hused⟩
    next hc => exact hused.lineComment_cons hc
  | case7 start position cs ih =>
    obtain ⟨used, hpass, hused⟩ := ih h
    exact ⟨_, .cons (.cons hpass), [], used, rfl, by simp, hused⟩
  | case8 start position c cs hend ih =>
    obtain ⟨used, hpass, hused⟩ := ih h
    refine ⟨_, .cons hpass, hused.blockComment_cons ?_⟩
    rintro rest hc rfl
    exact hend (rest ++ stop.rest) hc hpass.rest
  | case9 gap position hgap =>
    cases h
    refine ⟨[], .refl _, ?_⟩
    -- At the end of the text only a block comment would be left open, and that is an error.
    cases gap with
    | blank => exact .nil
    | lineComment => exact .inr ⟨rfl, by simp⟩
    | blockComment start => exact (hgap start rfl).elim

/-- Where a block comment has no end, the rest of the text is read, and the error names the start of
the comment. -/
lemma skipGap_error {gap : Gap} {e : Error} (h : skipGap gap position cs = (.error e, stop)) :
    Cursor.Passes cs ⟨cs, position⟩ stop ∧
      ((∃ start, gap = .blockComment start ∧ e = .lex start '/' .unterminatedComment) ∨
        e.PointsInto ⟨cs, position⟩) := by
  fun_induction skipGap gap position cs with
  | case1 start position =>
    cases h
    exact ⟨.refl _, .inl ⟨start, rfl, rfl⟩⟩
  | case2 position cs ih =>
    -- An error from inside of what was skipped is one of a later place, or of a block comment that began
    -- there.
    obtain ⟨hpass, ⟨_, hgap, _⟩ | hpoints⟩ := ih h
    · cases hgap
    · exact ⟨.cons (.cons hpass), .inr hpoints.cons.cons⟩
  | case3 position cs ih =>
    obtain ⟨hpass, ⟨start, hgap, rfl⟩ | hpoints⟩ := ih h
    · cases hgap
      exact ⟨.cons (.cons hpass), .inr .head⟩
    · exact ⟨.cons (.cons hpass), .inr hpoints.cons.cons⟩
  | case4 position c cs _ _ _ ih =>
    obtain ⟨hpass, ⟨_, hgap, _⟩ | hpoints⟩ := ih h
    · cases hgap
    · exact ⟨.cons hpass, .inr hpoints.cons⟩
  | case5 => cases h
  | case6 position c cs ih =>
    obtain ⟨hpass, ⟨_, hgap, _⟩ | hpoints⟩ := ih h
    · split at hgap <;> cases hgap
    · exact ⟨.cons hpass, .inr hpoints.cons⟩
  | case7 start position cs ih =>
    obtain ⟨hpass, ⟨_, hgap, _⟩ | hpoints⟩ := ih h
    · cases hgap
    · exact ⟨.cons (.cons hpass), .inr hpoints.cons.cons⟩
  | case8 start position c cs _ ih =>
    obtain ⟨hpass, hpoints⟩ := ih h
    exact ⟨.cons hpass, hpoints.imp_right fun hpoints => hpoints.cons⟩
  | case9 => cases h

/-- A line comment is skipped up to its line break. -/
lemma skipGap_line {body : List Char} (hbody : '\n' ∉ body) :
    skipGap .lineComment position (body ++ '\n' :: cs) = skipGap .blank (position + (body.length + 1)) cs := by
  induction body generalizing position with
  | nil => rfl
  | cons c body ih =>
    obtain ⟨hc, hbody⟩ := not_or.1 (mt List.mem_cons.2 hbody)
    rw [List.cons_append, skipGap, if_neg (Ne.symm hc), ih hbody, List.length_cons]
    congr 1
    omega

/-- A line comment at the end of the text needs no line break. -/
lemma skipGap_lastLine {body : List Char} (hbody : '\n' ∉ body) :
    skipGap .lineComment position body = (.ok (), ⟨[], position + body.length⟩) := by
  induction body generalizing position with
  | nil => rfl
  | cons c body ih =>
    obtain ⟨hc, hbody⟩ := not_or.1 (mt List.mem_cons.2 hbody)
    rw [skipGap, if_neg (Ne.symm hc), ih hbody, List.length_cons, Nat.add_assoc, Nat.add_comm 1]

/-- A block comment is skipped up to the first star that has a slash behind it. -/
lemma skipGap_block {start : Nat} {body : List Char} (hbody : ¬ ['*', '/'] <:+: body) :
    skipGap (.blockComment start) position (body ++ '*' :: '/' :: cs) =
      skipGap .blank (position + (body.length + 2)) cs := by
  induction body generalizing position with
  | nil => rfl
  | cons c body ih =>
    have hstar : ∀ rest, c = '*' → body ++ '*' :: '/' :: cs ≠ '/' :: rest := by
      rintro rest rfl hrest
      cases body with
      | nil => cases hrest
      | cons d body =>
        cases hrest
        exact hbody ⟨[], body, rfl⟩
    rw [List.cons_append, skipGap_blockComment hstar, ih fun h => hbody (List.infix_cons h), List.length_cons]
    congr 1
    omega

/-- Filler is passed over up to its end. -/
lemma skipGap_filler (h : Filler True cs) :
    skipGap .blank position cs = (.ok (), ⟨[], position + cs.length⟩) := by
  have moved {p q : Nat} (hp : p = q) : ((.ok (), ⟨[], p⟩) : Except Error Unit × Cursor) = (.ok (), ⟨[], q⟩) := by
    rw [hp]
  induction h generalizing position with
  | nil => rfl
  | blank hc _ ih =>
    rw [skipGap_blank hc, ih]
    exact moved (by simp only [List.length_cons]; omega)
  | line hbody _ ih =>
    rw [skipGap, skipGap_line hbody, ih]
    exact moved (by simp only [List.length_cons, List.length_append]; omega)
  | lastLine _ hbody =>
    rw [skipGap, skipGap_lastLine hbody]
    exact moved (by simp only [List.length_cons]; omega)
  | block hbody _ ih =>
    rw [skipGap, skipGap_block hbody, ih]
    exact moved (by simp only [List.length_cons, List.length_append]; omega)

end Lexer

end EventRules
