import EventRules.Text.Search
import Mathlib.Data.List.Infix
import Mathlib.Data.List.TakeWhile
import Mathlib.Tactic.Lemma

/-!
# Pieces of a text

A text is cut at the first place of a separator, and not at all if there is none. With the separator between them, the
pieces are the text again (`intercalate_split`); no piece holds the separator, so the pieces of texts without a
character, put together with that character, are those texts (`split_intercalate`).
-/

namespace EventRules.Text

variable {needle separator cs w v before after : List Char} {c d : Char} {s t : String}

/-! ## The first place -/

/-- The text is cut around a place before which there is none. -/
lemma of_cut? (h : cut? needle cs = some (before, after)) :
    cs = before ++ needle ++ after ∧ ∀ b a, cs = b ++ needle ++ a → before.length ≤ b.length := by
  induction cs generalizing before with
  | nil =>
    rw [cut?] at h
    split at h
    case isTrue hbegins =>
      cases h
      exact ⟨(List.prefix_iff_eq_append.1 (List.isPrefixOf_iff_prefix.1 hbegins)).symm, fun _ _ _ => Nat.zero_le _⟩
    case isFalse => cases h
  | cons d rest ih =>
    rw [cut?] at h
    split at h
    case isTrue hbegins =>
      cases h
      exact ⟨(List.prefix_iff_eq_append.1 (List.isPrefixOf_iff_prefix.1 hbegins)).symm, fun _ _ _ => Nat.zero_le _⟩
    case isFalse hbegins =>
      obtain ⟨⟨front, back⟩, hrest, heq⟩ := Option.map_eq_some_iff.1 h
      cases heq
      obtain ⟨hsplit, hfirst⟩ := ih hrest
      refine ⟨by rw [hsplit]; rfl, fun b a hplace => ?_⟩
      cases b with
      | nil => exact absurd (List.isPrefixOf_iff_prefix.2 ⟨a, hplace.symm⟩) hbegins
      | cons e b =>
        obtain ⟨-, hplace⟩ := List.cons.inj hplace
        exact Nat.succ_le_succ (hfirst b a hplace)

/-- A text is not cut just if the separator is not in it. -/
lemma cut?_eq_none : cut? needle cs = none ↔ ¬needle <:+: cs := by
  induction cs with
  | nil =>
    rw [cut?, List.infix_nil, ← List.prefix_nil, ← List.isPrefixOf_iff_prefix]
    split <;> simp_all
  | cons d rest ih =>
    rw [cut?, List.infix_cons_iff, ← List.isPrefixOf_iff_prefix]
    split
    case isTrue hbegins => simp [hbegins]
    case isFalse hbegins => rw [Option.map_eq_none_iff, ih, not_or, and_iff_right hbegins]

/-- Before the first place there is no other. -/
lemma not_isInfix_before (hne : needle ≠ []) (h : cut? needle cs = some (before, after)) : ¬needle <:+: before := by
  obtain ⟨hsplit, hfirst⟩ := of_cut? h
  rintro ⟨x, y, hxy⟩
  have hle : before.length ≤ x.length := by
    apply hfirst x (y ++ needle ++ after)
    rw [hsplit, ← hxy]
    simp only [List.append_assoc]
  have hlength := congrArg List.length hxy
  have hpos := List.length_pos_of_ne_nil hne
  simp only [List.length_append] at hlength
  omega

/-- A text whose first character is not in `w` lies behind `w`. -/
lemma infix_of_infix_append (hc : c ∉ w) (h : c :: needle <:+: w ++ cs) : c :: needle <:+: cs := by
  induction w with
  | nil => exact h
  | cons e w ih =>
    obtain ⟨hce, hw⟩ := not_or.1 (mt List.mem_cons.2 hc)
    rw [List.cons_append, List.infix_cons_iff] at h
    refine ih hw (h.resolve_left fun hbegins => ?_)
    exact hce (List.cons_prefix_cons.1 hbegins).1

/-- A sign of two characters that is nowhere in the text before it has its first place there. -/
lemma cut?_pair (hne : c ≠ d) (h : ¬[c, d] <:+: before) :
    cut? [c, d] (before ++ c :: d :: after) = some (before, after) := by
  induction before with
  | nil =>
    have hbegins : [c, d].isPrefixOf (c :: d :: after) = true :=
      List.isPrefixOf_iff_prefix.2 (List.prefix_append [c, d] after)
    rw [List.nil_append, cut?, if_pos hbegins]
    rfl
  | cons e rest ih =>
    obtain ⟨hhere, hrest⟩ := not_or.1 (mt List.infix_cons_iff.2 h)
    have hbegins : ¬[c, d].isPrefixOf (e :: (rest ++ c :: d :: after)) = true := by
      rw [List.isPrefixOf_iff_prefix, List.cons_prefix_cons]
      rintro ⟨rfl, hplace⟩
      cases rest with
      | nil =>
        -- The sign would end with its own first character.
        exact hne (List.cons_prefix_cons.1 hplace).1.symm
      | cons f rest =>
        obtain ⟨rfl, -⟩ := List.cons_prefix_cons.1 hplace
        exact hhere ⟨rest, rfl⟩
    rw [List.cons_append, cut?, if_neg hbegins]
    show (cut? [c, d] (rest ++ c :: d :: after)).map _ = _
    rw [ih hrest]
    rfl

/-- A text is cut at the first place of a single character. -/
lemma cut?_singleton (h : c ∉ before) : cut? [c] (before ++ c :: after) = some (before, after) := by
  induction before with
  | nil =>
    have hbegins : [c].isPrefixOf (c :: after) = true := List.isPrefixOf_iff_prefix.2 (List.prefix_append [c] after)
    rw [List.nil_append, cut?, if_pos hbegins]
    rfl
  | cons d rest ih =>
    obtain ⟨hcd, hrest⟩ := not_or.1 (mt List.mem_cons.2 h)
    have hbegins : ¬[c].isPrefixOf (d :: (rest ++ c :: after)) = true := by
      rw [List.isPrefixOf_iff_prefix, List.singleton_prefix_cons_iff]
      exact hcd
    rw [List.cons_append, cut?, if_neg hbegins]
    show (cut? [c] (rest ++ c :: after)).map _ = _
    rw [ih hrest]
    rfl

/-! ## Blanks at the ends -/

/-- Blanks before and after a text are taken off, whatever is taken off the text itself. -/
lemma trimChars_append (hw : ∀ c ∈ w, isBlank c) (hv : ∀ c ∈ v, isBlank c) :
    trimChars (w ++ cs ++ v) = trimChars cs := by
  have hfront : (w ++ cs ++ v).dropWhile isBlank = (cs ++ v).dropWhile isBlank := by
    rw [List.append_assoc, List.dropWhile_append_of_pos hw]
  have hback (us : List Char) : (us ++ v).reverse.dropWhile isBlank = us.reverse.dropWhile isBlank := by
    rw [List.reverse_append, List.dropWhile_append_of_pos fun c hc => hv c (List.mem_reverse.1 hc)]
  rw [trimChars, trimChars, hfront, List.dropWhile_append]
  split
  case isTrue hempty =>
    have hall : v.dropWhile isBlank = [] := List.dropWhile_eq_nil_iff.2 hv
    rw [hall, List.isEmpty_iff.1 hempty]
  case isFalse => rw [hback]

/-! ## All pieces -/

/-- There is one piece at least. -/
lemma pieces_ne_nil (separator : List Char) (fuel : Nat) (cs : List Char) : pieces separator fuel cs ≠ [] := by
  cases fuel with
  | zero => exact List.cons_ne_nil _ _
  | succ fuel =>
    rw [pieces]
    split <;> exact List.cons_ne_nil _ _

/-- With the separator between them the pieces are the text again, whatever the fuel is. -/
lemma intercalate_pieces (separator : List Char) (fuel : Nat) (cs : List Char) :
    separator.intercalate (pieces separator fuel cs) = cs := by
  induction fuel generalizing cs with
  | zero => exact List.intercalate_singleton
  | succ fuel ih =>
    rw [pieces]
    split
    case h_1 => exact List.intercalate_singleton
    case h_2 before after hcut =>
      obtain ⟨piece, rest, hrest⟩ := List.exists_cons_of_ne_nil (pieces_ne_nil separator fuel after)
      rw [hrest, List.intercalate_cons_cons, ← hrest, ih]
      exact (of_cut? hcut).1.symm

/-- With a cut for each character the text is cut at all places. -/
lemma not_isInfix_of_mem_pieces {fuel : Nat} (hne : separator ≠ []) (hfuel : cs.length < fuel) :
    ∀ piece ∈ pieces separator fuel cs, ¬separator <:+: piece := by
  induction fuel generalizing cs with
  | zero => exact absurd hfuel (Nat.not_lt_zero _)
  | succ fuel ih =>
    rw [pieces]
    split
    case h_1 hcut =>
      intro piece hpiece
      rw [List.mem_singleton.1 hpiece]
      exact cut?_eq_none.1 hcut
    case h_2 before after hcut =>
      have hlength := congrArg List.length (of_cut? hcut).1
      have hpos := List.length_pos_of_ne_nil hne
      simp only [List.length_append] at hlength
      exact List.forall_mem_cons.2 ⟨not_isInfix_before hne hcut, ih (by omega)⟩

/-- There are two pieces or more just if the separator is in the text. -/
lemma one_lt_length_pieces {fuel : Nat} : 1 < (pieces separator (fuel + 1) cs).length ↔ separator <:+: cs := by
  rw [pieces]
  split
  case h_1 hcut => simpa using cut?_eq_none.1 hcut
  case h_2 before after hcut =>
    have hinfix : separator <:+: cs := ⟨before, after, (of_cut? hcut).1.symm⟩
    have hpos := List.length_pos_of_ne_nil (pieces_ne_nil separator fuel after)
    rw [List.length_cons]
    exact ⟨fun _ => hinfix, fun _ => by omega⟩

/-- Pieces without the separator come back from the text that is made of them. -/
lemma pieces_intercalate {parts : List (List Char)} {fuel : Nat} (hne : parts ≠ []) (h : ∀ part ∈ parts, c ∉ part)
    (hfuel : parts.length ≤ fuel + 1) : pieces [c] fuel ([c].intercalate parts) = parts := by
  induction parts generalizing fuel with
  | nil => exact absurd rfl hne
  | cons part rest ih =>
    obtain ⟨hpart, hrest⟩ := List.forall_mem_cons.1 h
    cases rest with
    | nil =>
      rw [List.intercalate_singleton]
      cases fuel with
      | zero => rfl
      | succ fuel =>
        have hnone : cut? [c] part = none := cut?_eq_none.2 (mt (List.singleton_infix_iff c part).1 hpart)
        rw [pieces, hnone]
    | cons next rest =>
      cases fuel with
      | zero => exact absurd hfuel (by simp)
      | succ fuel =>
        rw [List.intercalate_cons_cons, List.append_assoc, List.singleton_append, pieces, cut?_singleton hpart]
        show part :: pieces [c] fuel _ = _
        rw [ih (List.cons_ne_nil _ _) hrest (Nat.le_of_succ_le_succ hfuel)]

/-- There is a separator between any two texts. -/
lemma length_le_intercalate (c : Char) (parts : List (List Char)) :
    parts.length ≤ ([c].intercalate parts).length + 1 := by
  induction parts with
  | nil => exact Nat.zero_le _
  | cons part rest ih =>
    cases rest with
    | nil => exact Nat.le_add_left 1 _
    | cons next rest =>
      rw [List.intercalate_cons_cons, List.length_append, List.length_append, List.length_cons]
      rw [List.length_singleton]
      omega

/-! ## Texts -/

/-- The two parts and the separator between them are the text. -/
lemma of_splitOnce? {start rest : String} (h : splitOnce? s t = some (start, rest)) : s = start ++ t ++ rest := by
  obtain ⟨⟨before, after⟩, hcut, heq⟩ := Option.map_eq_some_iff.1 h
  cases heq
  rw [← String.toList_inj, (of_cut? hcut).1]
  simp

/-- A text is not split just if the separator is not in it. -/
lemma splitOnce?_eq_none : splitOnce? s t = none ↔ ¬t.toList <:+: s.toList := by
  rw [splitOnce?, Option.map_eq_none_iff, cut?_eq_none]

/-- Before the first place of a character stands a text without it. -/
lemma splitOnce?_singleton {rest : String} (ht : t.toList = [c]) (hs : c ∉ s.toList) :
    splitOnce? (s ++ t ++ rest) t = some (s, rest) := by
  have hcut : cut? [c] (s ++ t ++ rest).toList = some (s.toList, rest.toList) := by
    rw [String.toList_append, String.toList_append, ht, List.append_assoc]
    exact cut?_singleton hs
  rw [splitOnce?, ht, hcut, Option.map_some, String.ofList_toList, String.ofList_toList]

/-- By a separator that is not empty a text is split into its pieces. -/
lemma split_of_ne_empty (ht : t ≠ "") :
    split s t = (pieces t.toList (s.toList.length + 1) s.toList).map String.ofList := by
  rw [split, if_neg (by simpa using ht)]

/-- With the separator between them, the pieces are the text again. -/
theorem intercalate_split (s separator : String) : separator.intercalate (split s separator) = s := by
  by_cases hempty : separator = ""
  · rw [split, if_pos (by simpa using hempty)]
    rfl
  · have htexts (parts : List (List Char)) : (parts.map String.ofList).map String.toList = parts := by simp
    rw [← String.toList_inj, String.toList_intercalate, split_of_ne_empty hempty, htexts]
    exact intercalate_pieces _ _ _

/-- No piece holds the separator. -/
theorem not_isInfix_of_mem_split (ht : t ≠ "") : ∀ piece ∈ split s t, ¬t.toList <:+: piece.toList := by
  intro piece hpiece
  rw [split_of_ne_empty ht] at hpiece
  obtain ⟨cs, hcs, rfl⟩ := List.mem_map.1 hpiece
  rw [String.toList_ofList]
  exact not_isInfix_of_mem_pieces (String.toList_eq_nil_iff.not.2 ht) (Nat.lt_succ_self _) cs hcs

/-- There is a cut if the separator is somewhere in the text. -/
theorem one_lt_length_split (ht : t ≠ "") : 1 < (split s t).length ↔ t.toList <:+: s.toList := by
  rw [split_of_ne_empty ht, List.length_map]
  exact one_lt_length_pieces

/-- Texts without a character, put together with that character, are the pieces of what they make. -/
theorem split_intercalate {texts : List String} (hne : texts ≠ []) (h : ∀ text ∈ texts, c ∉ text.toList) :
    split ((String.singleton c).intercalate texts) (String.singleton c) = texts := by
  have hc : String.singleton c ≠ "" := by
    rw [ne_eq, ← String.toList_inj, String.toList_singleton]
    exact List.cons_ne_nil _ _
  have hparts : ∀ part ∈ texts.map String.toList, c ∉ part := by
    intro part hpart
    obtain ⟨text, htext, rfl⟩ := List.mem_map.1 hpart
    exact h text htext
  have htexts : (texts.map String.toList).map String.ofList = texts := by simp
  rw [split_of_ne_empty hc, String.toList_intercalate, String.toList_singleton,
    pieces_intercalate (mt List.map_eq_nil_iff.1 hne) hparts (Nat.le_succ_of_le (length_le_intercalate c _)), htexts]

end EventRules.Text
