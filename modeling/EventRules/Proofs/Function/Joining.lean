import EventRules.Function.Text
import EventRules.Proofs.Text.Search

/-!
# Splitting and joining

What is split at a delimiter and joined with it is the text that it was, also where the delimiter is empty, overlaps
itself or stands at an end. Joined texts are told apart again by a character that none of them has.
-/

namespace EventRules.TextFunctions

/-- `SPLIT` of two texts is the list of the parts. -/
lemma split_strings (s delimiter : String) :
    split [.string s, .string delimiter] = .ok (.list ((Text.split s delimiter).map .string)) := rfl

/-- `JOIN` of texts puts the delimiter between them. -/
lemma join_strings (texts : List String) (delimiter : String) :
    join [.list (texts.map .string), .string delimiter] = .ok (.string (delimiter.intercalate texts)) := by
  have htexts : (texts.map Value.string).filterMap Arguments.text? = texts := by
    rw [List.filterMap_map]
    exact List.filterMap_some
  show Except.ok (Value.string (delimiter.intercalate ((texts.map Value.string).filterMap Arguments.text?))) = _
  rw [htexts]

/-- Splitting and joining undo each other. No part has the delimiter in it, and there are several parts where the
text has it. -/
theorem join_split :
    (∀ s delimiter : String, ∃ parts : List String,
      split [.string s, .string delimiter] = .ok (.list (parts.map .string)) ∧
      join [.list (parts.map .string), .string delimiter] = .ok (.string s) ∧
      (delimiter ≠ "" → (∀ part ∈ parts, ¬delimiter.toList <:+: part.toList) ∧
        (1 < parts.length ↔ delimiter.toList <:+: s.toList))) ∧
    ∀ (texts : List String) (c : Char), texts ≠ [] → (∀ text ∈ texts, c ∉ text.toList) → ∃ joined : String,
      join [.list (texts.map .string), .string (String.singleton c)] = .ok (.string joined) ∧
      split [.string joined, .string (String.singleton c)] = .ok (.list (texts.map .string)) := by
  constructor
  · intro s delimiter
    refine ⟨Text.split s delimiter, split_strings s delimiter, ?_, fun hne => ⟨?_, ?_⟩⟩
    · rw [join_strings, Text.intercalate_split]
    · exact Text.not_isInfix_of_mem_split hne
    · exact Text.one_lt_length_split hne
  · intro texts c hne hc
    refine ⟨(String.singleton c).intercalate texts, join_strings texts _, ?_⟩
    rw [split_strings, Text.split_intercalate hne hc]

/-- A delimiter that overlaps itself is found at its first place, and empty texts at both ends come back. -/
theorem join_split_overlap :
    split [.string "baaab", .string "aa"] = .ok (.list [.string "b", .string "ab"]) ∧
      join [.list [.string "b", .string "ab"], .string "aa"] = .ok (.string "baaab") ∧
      "aa" ≠ "" ∧ ¬"aa".toList <:+: "ab".toList ∧ "aa".toList <:+: "baaab".toList ∧
    ["", "b", ""] ≠ [] ∧ (∀ text ∈ ["", "b", ""], ',' ∉ text.toList) ∧ ∃ joined : String,
      join [.list [.string "", .string "b", .string ""], .string (String.singleton ',')] = .ok (.string joined) ∧
      split [.string joined, .string (String.singleton ',')] = .ok (.list [.string "", .string "b", .string ""]) := by
  have hne : ["", "b", ""] ≠ [] := by decide
  have hc : ∀ text ∈ ["", "b", ""], ',' ∉ text.toList := by decide
  have hdelimiter : "aa" ≠ "" := by decide
  have hcut : Text.split "baaab" "aa" = ["b", "ab"] := by decide +kernel
  obtain ⟨parts, hsplit, hjoin, hparts⟩ := join_split.1 "baaab" "aa"
  obtain rfl : parts = ["b", "ab"] := by
    have hmap := hsplit.symm.trans (split_strings "baaab" "aa")
    rw [hcut, Except.ok.injEq, Value.list.injEq] at hmap
    exact List.map_injective_iff.2 (fun _ _ => Value.string.inj) hmap
  obtain ⟨hfree, hseveral⟩ := hparts hdelimiter
  exact ⟨hsplit, hjoin, hdelimiter, hfree "ab" (by decide), hseveral.1 (by decide), hne, hc, join_split.2 _ ',' hne hc⟩

end EventRules.TextFunctions
