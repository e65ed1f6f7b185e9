import EventRules.Proofs.Json.Members
import EventRules.Proofs.Text.Search
import EventRules.Transformation.Fields
import Mathlib.Data.List.Forall2
import Mathlib.Tactic.Lemma

/-!
# The two forms of a transformation

A transformation is written as an object of expressions by field or as an array of lines `field := expression`.
A line is cut at its first `:=` and blanks are taken off both sides, so that a field may end with a colon and an
expression may hold the sign again. The two forms of the same assignments are the same transformation, and either
form is refused as a whole for any member that writes no assignment (`Transformation.ofDocument_forms`).
-/

namespace EventRules

namespace Transformation

variable {α β : Type} {f : α → Except Error β} {xs : List α} {ys : List β} {a : String × String} {line : Document}
  {member : String × Document}

/-- The text holds no characters but blanks. -/
def Blank (w : String) : Prop :=
  ∀ c ∈ w.toList, Text.isBlank c

/-- An assignment that keeps what it is on a line: no blanks at the ends of its parts, and no `:=` in the field. -/
structure Plain (a : String × String) : Prop where
  field : Text.trim a.1 = a.1
  expression : Text.trim a.2 = a.2
  separator : ¬":=".toList <:+: a.1.toList

/-- The lines that write an assignment, with any blanks around the field and the expression. -/
inductive WrittenAs (a : String × String) : Document → Prop
  | line {w₁ w₂ w₃ w₄ : String} : Blank w₁ → Blank w₂ → Blank w₃ → Blank w₄ →
    WrittenAs a (.string (w₁ ++ a.1 ++ w₂ ++ ":=" ++ (w₃ ++ a.2 ++ w₄)))

/-- The assignments as the members of an object. -/
def object (as : List (String × String)) : Document :=
  .object (Members.ofPairs (as.map fun a => (a.1, .string a.2)))

/-- Blanks around a text that has none at its ends are taken off. -/
lemma trim_append {s w v : String} (hw : Blank w) (hv : Blank v) (hs : Text.trim s = s) :
    Text.trim (w ++ s ++ v) = s := by
  have hchars : Text.trimChars (w ++ s ++ v).toList = Text.trimChars s.toList := by
    rw [String.toList_append, String.toList_append]
    exact Text.trimChars_append hw hv
  rw [Text.trim, hchars]
  exact hs

/-- Blanks around a field make no `:=`. -/
lemma Plain.not_isInfix {w v : String} (h : Plain a) (hw : Blank w) (hv : Blank v) :
    ¬[':', '='] <:+: (w ++ a.1 ++ v).toList := by
  have hcolon : ':' ∉ w.toList := fun hmem => absurd (hw _ hmem) (by decide)
  have hequals : '=' ∉ v.toList.reverse := fun hmem => absurd (hv _ (List.mem_reverse.1 hmem)) (by decide)
  intro hinfix
  rw [String.toList_append, String.toList_append, List.append_assoc] at hinfix
  have hback := List.reverse_infix.2 (Text.infix_of_infix_append hcolon hinfix)
  rw [List.reverse_append] at hback
  exact h.separator (List.reverse_infix.1 (Text.infix_of_infix_append hequals hback))

/-- A line that writes an assignment is read as that, since the first sign is the one between field and
expression. -/
lemma assignmentOfLine_written (h : Plain a) (hline : WrittenAs a line) : assignmentOfLine line = .ok a := by
  cases hline with
  | @line w₁ w₂ w₃ w₄ h₁ h₂ h₃ h₄ =>
    have hcut : Text.splitOnce? (w₁ ++ a.1 ++ w₂ ++ ":=" ++ (w₃ ++ a.2 ++ w₄)) ":=" =
        some (w₁ ++ a.1 ++ w₂, w₃ ++ a.2 ++ w₄) := by
      have hchars : Text.cut? [':', '='] ((w₁ ++ a.1 ++ w₂).toList ++ ':' :: '=' :: (w₃ ++ a.2 ++ w₄).toList) =
          some ((w₁ ++ a.1 ++ w₂).toList, (w₃ ++ a.2 ++ w₄).toList) :=
        Text.cut?_pair (by decide) (h.not_isInfix h₁ h₂)
      rw [Text.splitOnce?, String.toList_append, String.toList_append]
      show (Text.cut? [':', '='] ((w₁ ++ a.1 ++ w₂).toList ++ [':', '='] ++ (w₃ ++ a.2 ++ w₄).toList)).map _ = _
      rw [List.append_assoc, List.cons_append, List.cons_append, List.nil_append]
      rw [hchars, Option.map_some, String.ofList_toList, String.ofList_toList]
    simp only [assignmentOfLine, Document.string?, Option.bind_some, hcut]
    rw [trim_append h₁ h₂ h.field, trim_append h₃ h₄ h.expression]

/-- A member is refused just if it is no text. -/
lemma assignmentOfMember_error :
    (∃ fault, assignmentOfMember member = .error (.invalidConfig fault)) ↔ ∀ text, member.2 ≠ .string text := by
  unfold assignmentOfMember
  split
  case h_1 text heq => exact ⟨nofun, fun h => absurd heq (h text)⟩
  case h_2 hother => exact ⟨fun _ => hother, fun _ => ⟨_, rfl⟩⟩

/-- A line is refused just if it is no text or has no sign of an assignment in it. -/
lemma assignmentOfLine_error :
    (∃ fault, assignmentOfLine line = .error (.invalidConfig fault)) ↔
      ∀ text, line = .string text → ¬":=".toList <:+: text.toList := by
  unfold assignmentOfLine
  split
  case h_1 found heq =>
    refine ⟨nofun, fun h => ?_⟩
    obtain ⟨text, htext, hcut⟩ := Option.bind_eq_some_iff.1 heq
    cases line with
    | string s =>
      cases htext
      cases (Text.splitOnce?_eq_none.2 (h _ rfl)).symm.trans hcut
    | _ => cases htext
  case h_2 heq =>
    refine ⟨fun _ text htext => ?_, fun _ => ⟨_, rfl⟩⟩
    subst htext
    exact Text.splitOnce?_eq_none.1 heq

/-- The results of computations that all succeed. -/
lemma mapM_ok (h : List.Forall₂ (fun x y => f x = .ok y) xs ys) : xs.mapM f = .ok ys := by
  induction h with
  | nil => rfl
  | cons hx _ ih =>
    rw [List.mapM_cons, hx, ih]
    rfl

/-- Computations fail together if any of them does. -/
lemma mapM_error (hf : ∀ x e, f x = .error e → ∃ fault, e = .invalidConfig fault) :
    (∃ fault, xs.mapM f = .error (.invalidConfig fault)) ↔ ∃ x ∈ xs, ∃ fault, f x = .error (.invalidConfig fault) := by
  induction xs with
  | nil => simp [pure, Except.pure]
  | cons x xs ih =>
    rw [List.mapM_cons, List.exists_mem_cons_iff]
    cases hx : f x with
    | error e =>
      obtain ⟨fault, rfl⟩ := hf x e hx
      exact ⟨fun _ => .inl ⟨fault, rfl⟩, fun _ => ⟨fault, rfl⟩⟩
    | ok y =>
      rw [← ih]
      cases hxs : xs.mapM f <;> simp [bind, Except.bind, pure, Except.pure]

/-- A member is refused as a configuration that is invalid. -/
lemma invalidConfig_of_assignmentOfMember {e : Error} (h : assignmentOfMember member = .error e) :
    ∃ fault, e = .invalidConfig fault := by
  unfold assignmentOfMember at h
  split at h
  case h_1 => cases h
  case h_2 =>
    cases h
    exact ⟨_, rfl⟩

/-- A line is refused as a configuration that is invalid. -/
lemma invalidConfig_of_assignmentOfLine {e : Error} (h : assignmentOfLine line = .error e) :
    ∃ fault, e = .invalidConfig fault := by
  unfold assignmentOfLine at h
  split at h
  case h_1 => cases h
  case h_2 =>
    cases h
    exact ⟨_, rfl⟩

/-- An object is read member by member. -/
lemma ofDocument_object {members : Members} :
    ofDocument (.object members) = (members.mapM assignmentOfMember).map Transformation.mk := by
  rw [ofDocument]
  cases members.mapM assignmentOfMember <;> rfl

/-- An array is read line by line. -/
lemma ofDocument_array {lines : List Document} :
    ofDocument (.array lines) = (lines.mapM assignmentOfLine).map Transformation.mk := by
  rw [ofDocument]
  cases lines.mapM assignmentOfLine <;> rfl

/-- A configuration is refused as what its assignments come to is. -/
lemma map_error {result : Except Error (List (String × String))} :
    (∃ fault, result.map Transformation.mk = .error (.invalidConfig fault)) ↔
      ∃ fault, result = .error (.invalidConfig fault) := by
  cases result <;> simp [Except.map]

/-- An object is read as its members, in their order. -/
lemma ofDocument_fields {as : List (String × String)} (h : (as.map (·.1)).Nodup) :
    ofDocument (object as) = .ok ⟨as⟩ := by
  have hdistinct : Members.Distinct (as.map fun a => (a.1, .string a.2)) := by
    rw [Members.Distinct, List.map_map]
    exact h
  have hall : List.Forall₂ (fun member a => assignmentOfMember member = .ok a)
      (as.map fun a => (a.1, Document.string a.2)) as := by
    rw [List.forall₂_map_left_iff, List.forall₂_same]
    exact fun _ _ => rfl
  rw [object, Members.ofPairs_eq hdistinct, ofDocument_object, mapM_ok hall]
  rfl

/-- Lines are read as the assignments that they write. -/
lemma ofDocument_lines {as : List (String × String)} {lines : List Document} (h : ∀ a ∈ as, Plain a)
    (hlines : List.Forall₂ WrittenAs as lines) : ofDocument (.array lines) = .ok ⟨as⟩ := by
  have hall : List.Forall₂ (fun line a => assignmentOfLine line = .ok a) lines as := by
    refine List.Forall₂.flip (((List.forall₂_and_left _ _).2 ⟨h, hlines⟩).imp ?_)
    exact fun a line ⟨ha, hline⟩ => assignmentOfLine_written ha hline
  rw [ofDocument_array, mapM_ok hall]
  rfl

/-- Assignments to different fields are the same transformation as the members of an object and as lines, however
blanks are put around their parts. An object is refused if any member is no text, and an array if any line is no text
with a `:=`. -/
theorem ofDocument_forms :
    (∀ (as : List (String × String)) (lines : List Document), (as.map (·.1)).Nodup → (∀ a ∈ as, Plain a) →
      List.Forall₂ WrittenAs as lines →
      ofDocument (object as) = .ok ⟨as⟩ ∧ ofDocument (.array lines) = .ok ⟨as⟩) ∧
    (∀ members : Members, (∃ fault, ofDocument (.object members) = .error (.invalidConfig fault)) ↔
      ∃ member ∈ members, ∀ text, member.2 ≠ .string text) ∧
    ∀ lines : List Document, (∃ fault, ofDocument (.array lines) = .error (.invalidConfig fault)) ↔
      ∃ line ∈ lines, ∀ text, line = .string text → ¬":=".toList <:+: text.toList := by
  refine ⟨fun as lines hdistinct hplain hlines => ?_, fun members => ?_, fun lines => ?_⟩
  · exact ⟨ofDocument_fields hdistinct, ofDocument_lines hplain hlines⟩
  · rw [ofDocument_object, map_error, mapM_error fun _ _ => invalidConfig_of_assignmentOfMember]
    simp only [assignmentOfMember_error]
  · rw [ofDocument_array, map_error, mapM_error fun _ _ => invalidConfig_of_assignmentOfLine]
    simp only [assignmentOfLine_error]

/-- A field that ends with a colon comes right before the sign, and an expression holds the sign in a text. -/
theorem ofDocument_forms_colon :
    let as := [("a:", "'x := y'"), ("b", "")]
    let lines := [Document.string "\t a::= 'x := y' ", .string "b :="]
    (as.map (·.1)).Nodup ∧ (∀ a ∈ as, Plain a) ∧ List.Forall₂ WrittenAs as lines ∧
      ofDocument (object as) = .ok ⟨as⟩ ∧ ofDocument (.array lines) = .ok ⟨as⟩ := by
  intro as lines
  have hdistinct : (as.map (·.1)).Nodup := by decide
  have hplain : ∀ a ∈ as, Plain a := by
    refine List.forall_mem_cons.2 ⟨⟨rfl, rfl, by decide⟩, List.forall_mem_singleton.2 ⟨rfl, rfl, by decide⟩⟩
  have hlines : List.Forall₂ WrittenAs as lines := by
    have hnone : Blank "" := List.forall_mem_nil _
    have hspace : Blank " " := List.forall_mem_singleton.2 rfl
    have htab : Blank "\t " := List.forall_mem_cons.2 ⟨rfl, List.forall_mem_singleton.2 rfl⟩
    exact .cons (.line htab hnone hspace hspace) (.cons (.line hnone hspace hnone hnone) .nil)
  exact ⟨hdistinct, hplain, hlines, ofDocument_forms.1 as lines hdistinct hplain hlines⟩

end Transformation

end EventRules
