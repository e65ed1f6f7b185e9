import EventRules.Proofs.Token.Accessor
import Mathlib.Data.List.TakeWhile

/-!
# Paths in a source

A path is written as a base name with accessors behind it: names after dots, and indices and quoted keys
in brackets. The lexer reads the dotted names first and the brackets after them. A path in which no name
comes after a bracket is therefore one token, and in every other path the lexer stops at the dot of the
first such name (`tokenize_writePath`).
-/

namespace EventRules

/-- A character of a name: a letter, a digit or an underscore. -/
def isWordChar (c : Char) : Bool :=
  Text.isAlphanumeric c || c == '_'

/-- A letter or an underscore, and then letters, digits and underscores. -/
def IsBaseName (name : String) : Prop :=
  ∃ c cs, name.toList = c :: cs ∧ (Text.isAlphabetic c || c == '_') ∧ ∀ d ∈ cs, isWordChar d

/-- What stands behind the base name of a path: a name after a dot, or an index or a key in brackets. -/
inductive Accessor where
  | name (text : String)
  | index (digits : String)
  | key (text : String)
  deriving DecidableEq, Repr

namespace Accessor

/-- The accessor as it is written. -/
def text : Accessor → String
  | name text => "." ++ text
  | index digits => "[" ++ digits ++ "]"
  | key text => "['" ++ text ++ "']"

/-- Whether the accessor is a name after a dot. -/
def isName : Accessor → Bool
  | name _ => true
  | _ => false

/-- Names are of letters, digits and underscores, indices of one digit or more, and no key has a quote in it. -/
def WellFormed : Accessor → Prop
  | name text => ∀ c ∈ text.toList, isWordChar c
  | index digits => digits.toList ≠ [] ∧ ∀ c ∈ digits.toList, c.isDigit
  | key text => '\'' ∉ text.toList

/-- Whether an accessor is well-formed is seen from its text. -/
instance : DecidablePred WellFormed
  | name text => decidable_of_iff (text.toList.all isWordChar = true) List.all_eq_true
  | index digits =>
    decidable_of_iff (digits.toList ≠ [] ∧ digits.toList.all Char.isDigit = true) (and_congr_right' List.all_eq_true)
  | key text => inferInstanceAs (Decidable ('\'' ∉ text.toList))

/-- No name comes after a bracket. -/
def NamesFirst (accessors : List Accessor) : Prop :=
  accessors.Pairwise fun a b => b.isName → a.isName

/-- Whether names come first is seen from the accessors. -/
instance (accessors : List Accessor) : Decidable (NamesFirst accessors) :=
  inferInstanceAs (Decidable (List.Pairwise _ _))

/-- The names at the start, and the brackets right after them. -/
def opening (accessors : List Accessor) : List Accessor :=
  accessors.takeWhile isName ++ (accessors.dropWhile isName).takeWhile (!isName ·)

end Accessor

/-- A base name with accessors behind it. -/
def writePath (base : String) (accessors : List Accessor) : String :=
  accessors.foldl (fun text a => text ++ a.text) base

variable {base : String} {accessors names brackets rest : List Accessor} {a : Accessor}

/-- The text of a path, character by character. -/
lemma toList_writePath (base : String) (accessors : List Accessor) :
    (writePath base accessors).toList = base.toList ++ accessors.flatMap (·.text.toList) := by
  induction accessors generalizing base with
  | nil => simp [writePath]
  | cons a accessors ih =>
    have hstep := ih (base ++ a.text)
    rw [String.toList_append, List.append_assoc] at hstep
    exact hstep

namespace Accessor

/-- Accessors are names, brackets and what follows: nothing, or a name after a bracket. -/
lemma opening_append (accessors : List Accessor) :
    ∃ names brackets rest, accessors = names ++ brackets ++ rest ∧ opening accessors = names ++ brackets ∧
      (∀ a ∈ names, a.isName) ∧ (∀ a ∈ brackets, a.isName = false) ∧ ∀ a ∈ rest.head?, a.isName ∧ brackets ≠ [] := by
  refine ⟨accessors.takeWhile isName, (accessors.dropWhile isName).takeWhile (!isName ·),
    (accessors.dropWhile isName).dropWhile (!isName ·), ?_, rfl, fun a ha => List.mem_takeWhile_imp ha, ?_, ?_⟩
  · rw [List.append_assoc, List.takeWhile_append_dropWhile, List.takeWhile_append_dropWhile]
  · intro a ha
    simpa using List.mem_takeWhile_imp ha
  · intro a ha
    have hname := List.head?_dropWhile_not (!isName ·) (accessors.dropWhile isName)
    simp only [Option.mem_def.1 ha, Bool.not_eq_false'] at hname
    refine ⟨hname, fun hnil => ?_⟩
    -- Without a bracket the names at the start would go on with this one.
    have hsame := List.takeWhile_append_dropWhile (p := (!isName ·)) (l := accessors.dropWhile isName)
    rw [hnil, List.nil_append] at hsame
    have hbracket := List.head?_dropWhile_not isName accessors
    rw [← hsame] at hbracket
    simp [Option.mem_def.1 ha, hname] at hbracket

/-- No name comes after a bracket just if nothing follows the brackets after the first names. -/
lemma namesFirst_iff (hnames : ∀ a ∈ names, a.isName) (hbrackets : ∀ a ∈ brackets, a.isName = false)
    (hrest : ∀ a ∈ rest.head?, a.isName ∧ brackets ≠ []) : NamesFirst (names ++ brackets ++ rest) ↔ rest = [] := by
  constructor
  · intro h
    cases rest with
    | nil => rfl
    | cons a rest =>
      obtain ⟨hname, hne⟩ := hrest a rfl
      obtain ⟨b, brackets, rfl⟩ := List.exists_cons_of_ne_nil hne
      have hlater := (List.pairwise_append.1 h).2.2 b (by simp) a List.mem_cons_self hname
      rw [hbrackets b List.mem_cons_self] at hlater
      cases hlater
  · rintro rfl
    rw [List.append_nil, NamesFirst, List.pairwise_append]
    refine ⟨List.pairwise_of_forall_mem_list fun a ha _ _ _ => hnames a ha, ?_, fun a ha _ _ _ => hnames a ha⟩
    refine List.pairwise_of_forall_mem_list fun _ _ b hb hname => ?_
    rw [hbrackets b hb] at hname
    cases hname

/-- An accessor that is a name has a text. -/
lemma text_name (ha : a.isName) : ∃ text, a = .name text := by
  cases a with
  | name text => exact ⟨text, rfl⟩
  | _ => cases ha

/-- A name is written behind a dot. -/
lemma toList_name (text : String) : (name text).text.toList = '.' :: text.toList := by
  simp [Accessor.text]

/-- An accessor that is no name begins with a bracket. -/
lemma toList_bracket (ha : a.isName = false) : ∃ more, a.text.toList = '[' :: more := by
  cases a with
  | name text => cases ha
  | index digits => exact ⟨digits.toList ++ [']'], by simp [text]⟩
  | key text => exact ⟨'\'' :: (text.toList ++ ['\'', ']']), by simp [Accessor.text]⟩

/-- Every accessor takes a character. -/
lemma length_le_text (accessors : List Accessor) :
    accessors.length ≤ (accessors.flatMap (·.text.toList)).length := by
  induction accessors with
  | nil => exact Nat.le_refl _
  | cons a accessors ih =>
    have hone : 1 ≤ a.text.toList.length := by cases a <;> simp [text]
    rw [List.flatMap_cons, List.length_append, List.length_cons]
    omega

/-- There is a dot or a bracket in a path with accessors. -/
lemma exists_mark (base : String) (hne : accessors ≠ []) :
    ∃ mark, Path.startsSegment mark ∧ mark ∈ (writePath base accessors).toList := by
  obtain ⟨a, accessors, rfl⟩ := List.exists_cons_of_ne_nil hne
  rw [toList_writePath, List.flatMap_cons]
  cases hname : a.isName with
  | true =>
    obtain ⟨text, rfl⟩ := text_name hname
    exact ⟨'.', rfl, by simp [toList_name]⟩
  | false =>
    obtain ⟨more, hmore⟩ := toList_bracket hname
    exact ⟨'[', rfl, by simp [hmore]⟩

/-- A well-formed accessor in brackets is read as one, whatever follows it. -/
lemma accessor?_text (h : a.WellFormed) (ha : a.isName = false) (more : List Char) :
    Lexer.accessor? (a.text.toList ++ more) = some a.text.toList := by
  cases a with
  | name text => cases ha
  | index digits =>
    obtain ⟨hne, hdigits⟩ := h
    obtain ⟨d, ds, hds⟩ := List.exists_cons_of_ne_nil hne
    have htext : (index digits).text.toList = '[' :: d :: (ds ++ [']']) := by simp [text, hds]
    rw [hds] at hdigits
    have hd : d.isDigit := hdigits d List.mem_cons_self
    have hquote : ¬ (d = '\'' ∨ d = '"') := by
      rintro (rfl | rfl) <;> cases hd
    have htake : (ds ++ ']' :: more).takeWhile Char.isDigit = ds :=
      takeWhile_stop (fun c hc => hdigits c (List.mem_cons_of_mem _ hc)) rfl
    have hinside : Lexer.inside? d (ds ++ ']' :: more) = some (d :: ds) := by
      rw [Lexer.inside?, if_neg hquote, if_pos hd, htake]
    rw [htext, List.cons_append, List.cons_append, List.append_assoc, List.singleton_append, Lexer.accessor?_eq,
      hinside, Option.bind_some, if_pos]
    · simp
    · simp
  | key text =>
    have htext : (key text).text.toList = '[' :: '\'' :: (text.toList ++ ['\'', ']']) := by simp [Accessor.text]
    rw [htext, List.cons_append, List.cons_append, List.append_assoc]
    exact Lexer.accessor?_key h more

/-- The brackets at the start of a text are all read, up to something that is no bracket. -/
lemma accessors_text {tail : List Char} (h : ∀ a ∈ brackets, a.WellFormed ∧ a.isName = false)
    (htail : tail.head? ≠ some '[') {fuel : Nat} (hfuel : brackets.length ≤ fuel) :
    Lexer.accessors fuel (brackets.flatMap (·.text.toList) ++ tail) = brackets.flatMap (·.text.toList) := by
  induction brackets generalizing fuel with
  | nil =>
    have hnone : Lexer.accessor? tail = none := by
      rcases tail with _ | ⟨c, tail⟩
      · rfl
      · simp only [List.head?_cons, ne_eq, Option.some.injEq] at htail
        rcases tail with _ | ⟨d, tail⟩ <;> simp [Lexer.accessor?, htail]
    cases fuel with
    | zero => rfl
    | succ fuel =>
      rw [List.flatMap_nil, List.nil_append, Lexer.accessors, hnone]
  | cons a brackets ih =>
    obtain ⟨hwell, ha⟩ := h a List.mem_cons_self
    cases fuel with
    | zero => cases hfuel
    | succ fuel =>
      have hrest := ih (fun b hb => h b (List.mem_cons_of_mem _ hb)) (Nat.le_of_succ_le_succ hfuel)
      rw [List.flatMap_cons, List.append_assoc, Lexer.accessors, accessor?_text hwell ha]
      simp only [List.drop_left, hrest]

end Accessor

namespace Lexer

/-- Characters of words may be in an identifier. -/
lemma isIdentifierChar_of_wordChar {c : Char} (hc : isWordChar c) : isIdentifierChar c := by
  rw [isIdentifierChar, show (Text.isAlphanumeric c || c == '_') = true from hc, Bool.true_or]

/-- The dotted part of a path is its base name with the names after it. -/
lemma isIdentifierChar_names (hbase : IsBaseName base) (hnames : ∀ a ∈ names, a.WellFormed ∧ a.isName) :
    ∀ c ∈ (writePath base names).toList, isIdentifierChar c := by
  intro c hc
  rw [toList_writePath, List.mem_append] at hc
  obtain hc | hc := hc
  · obtain ⟨d, ds, hds, hd, hrest⟩ := hbase
    rw [hds] at hc
    obtain rfl | hc := List.mem_cons.1 hc
    · exact isIdentifierChar_of_word hd
    · exact isIdentifierChar_of_wordChar (hrest c hc)
  · obtain ⟨a, ha, hc⟩ := List.mem_flatMap.1 hc
    obtain ⟨hwell, hname⟩ := hnames a ha
    obtain ⟨text, rfl⟩ := Accessor.text_name hname
    rw [Accessor.text, String.toList_append] at hc
    obtain hc | hc := List.mem_append.1 hc
    · obtain rfl := List.mem_singleton.1 hc
      decide
    · exact isIdentifierChar_of_wordChar (hwell c hc)

/-- What is read of a path as an identifier goes up to the first name after a bracket. -/
lemma identifier_writePath (hbase : IsBaseName base) (hnames : ∀ a ∈ names, a.WellFormed ∧ a.isName)
    (hbrackets : ∀ a ∈ brackets, a.WellFormed ∧ a.isName = false)
    (hrest : ∀ a ∈ rest.head?, a.isName ∧ brackets ≠ []) :
    identifier (writePath base (names ++ brackets ++ rest)).toList = (writePath base (names ++ brackets)).toList := by
  let bracketText := brackets.flatMap (·.text.toList)
  let restText := rest.flatMap (·.text.toList)
  have htext : (writePath base (names ++ brackets ++ rest)).toList =
      (writePath base names).toList ++ (bracketText ++ restText) := by
    simp [toList_writePath, bracketText, restText]
  have hrestText : restText.head? ≠ some '[' := by
    cases rest with
    | nil => nofun
    | cons a rest =>
      obtain ⟨text, rfl⟩ := Accessor.text_name (hrest a rfl).1
      simp [restText, Accessor.toList_name]
  -- The dotted part ends with the text or at a bracket.
  have hstop : ∀ d ∈ (bracketText ++ restText).head?, isIdentifierChar d = false := by
    intro d hd
    cases brackets with
    | nil =>
      cases rest with
      | nil => cases hd
      | cons a rest => exact ((hrest a rfl).2 rfl).elim
    | cons b brackets =>
      obtain ⟨more, hmore⟩ := Accessor.toList_bracket (hbrackets b List.mem_cons_self).2
      simp only [bracketText, List.flatMap_cons, hmore, List.cons_append, List.head?_cons] at hd
      cases hd
      decide
  have hdotted : (writePath base (names ++ brackets ++ rest)).toList.takeWhile isIdentifierChar =
      (writePath base names).toList := by
    rw [htext]
    exact takeWhile_head? (isIdentifierChar_names hbase hnames) hstop
  have hfuel : brackets.length ≤ (bracketText ++ restText).length := by
    have hlength := Accessor.length_le_text brackets
    rw [List.length_append]
    exact Nat.le_add_right_of_le hlength
  simp only [identifier, hdotted]
  rw [htext, List.drop_left, Accessor.accessors_text hbrackets hrestText hfuel]
  simp [toList_writePath]

variable {c : Char} {cs : List Char} {position : Nat}

/-- No token begins with a dot. -/
lemma next_dot (afterOperand : Bool) :
    (startAt ('.' :: cs) position afterOperand).next =
      (.error (.lex position '.' .badCharacter), startAt ('.' :: cs) position afterOperand) := by
  have hsettled : Settled ('.' :: cs) := ⟨by decide, nofun⟩
  refine next_error (skipGap_settled hsettled) ?_
  show scan afterOperand ⟨'.' :: cs, position⟩ = _
  rw [scan_cons, if_neg (by decide), if_neg (by simp [show '.'.isDigit = false from rfl]), if_neg (by decide)]
  rfl

/-- A path up to the first name after a bracket is one token. -/
lemma next_writePath (hbase : IsBaseName base) (hnames : ∀ a ∈ names, a.WellFormed ∧ a.isName)
    (hbrackets : ∀ a ∈ brackets, a.WellFormed ∧ a.isName = false)
    (hrest : ∀ a ∈ rest.head?, a.isName ∧ brackets ≠ []) (hne : names ++ brackets ≠ []) :
    let t : Token := ⟨.identifier, writePath base (names ++ brackets), 0⟩
    (ofSource (writePath base (names ++ brackets ++ rest))).next =
      (.ok t, startAt (rest.flatMap (·.text.toList)) t.text.length t.endsOperand) := by
  intro t
  have hidentifier := identifier_writePath hbase hnames hbrackets hrest
  have htext : (writePath base (names ++ brackets ++ rest)).toList =
      t.text.toList ++ rest.flatMap (·.text.toList) := by simp [t, toList_writePath]
  obtain ⟨c, cs, hcs, hc, -⟩ := hbase
  obtain ⟨more, hmore⟩ : ∃ more, (writePath base (names ++ brackets ++ rest)).toList = c :: more :=
    ⟨_, by rw [toList_writePath, hcs, List.cons_append]⟩
  obtain ⟨mark, hmark, hmem⟩ := Accessor.exists_mark base hne
  have hword : wordToken t.text.toList 0 = t := by
    rw [wordToken, String.ofList_toList, wordOperator?_mark hmark hmem]
  refine next_ok.2 ⟨⟨(writePath base (names ++ brackets ++ rest)).toList, 0⟩, ?_, ?_, rfl⟩
  · have hsettled : Settled (writePath base (names ++ brackets ++ rest)).toList := hmore ▸ settled_letter hc
    exact skipGap_settled hsettled
  · show scan false ⟨(writePath base (names ++ brackets ++ rest)).toList, 0⟩ = _
    rw [hmore] at hidentifier htext ⊢
    rw [scan_letter hc, hidentifier, hword, Cursor.advance, htext, List.drop_left, String.length_toList, Nat.zero_add]
    rfl

end Lexer

/-- A path is one token just if no name in it comes after a bracket; otherwise the lexer stops at the dot of the first
such name. -/
theorem tokenize_writePath (hbase : IsBaseName base) (haccessors : ∀ a ∈ accessors, a.WellFormed)
    (hne : accessors ≠ []) :
    tokenize (writePath base accessors) =
      if Accessor.NamesFirst accessors then
        .ok [⟨.identifier, writePath base accessors, 0⟩, .eof (writePath base accessors).length]
      else .error (.lex (writePath base (Accessor.opening accessors)).length '.' .badCharacter) := by
  obtain ⟨names, brackets, rest, rfl, hopening, hnames, hbrackets, hrest⟩ := Accessor.opening_append accessors
  have hread : names ++ brackets ≠ [] := by
    intro hnil
    obtain ⟨rfl, rfl⟩ := List.append_eq_nil_iff.1 hnil
    cases rest with
    | nil => exact hne rfl
    | cons a rest => exact (hrest a rfl).2 rfl
  have hwell : ∀ a ∈ names ++ brackets, a.WellFormed := fun a ha => haccessors a (List.mem_append_left _ ha)
  have hfirst := Lexer.next_writePath hbase (fun a ha => ⟨hwell a (List.mem_append_left _ ha), hnames a ha⟩)
    (fun a ha => ⟨hwell a (List.mem_append_right _ ha), hbrackets a ha⟩) hrest hread
  have hiff := Accessor.namesFirst_iff hnames hbrackets hrest
  rw [hopening]
  cases rest with
  | nil =>
    rw [if_pos (hiff.2 rfl), List.append_nil]
    rw [List.append_nil] at hfirst
    exact tokenize_eq_of_gives (.token hfirst nofun (.eof rfl rfl))
  | cons a rest =>
    obtain ⟨text, rfl⟩ := Accessor.text_name (hrest a rfl).1
    rw [if_neg (mt hiff.1 (List.cons_ne_nil _ _))]
    rw [List.flatMap_cons, Accessor.toList_name, List.cons_append] at hfirst
    exact tokenize_eq_of_gives (.token hfirst nofun (.error (Lexer.next_dot _)))

/-- Names, and then an index and a key, are one token with their base name. -/
theorem tokenize_writePath_brackets :
    let accessors : List Accessor := [.name "geo_2", .name "city", .index "07", .key "src"]
    IsBaseName "_event" ∧ (∀ a ∈ accessors, a.WellFormed) ∧ accessors ≠ [] ∧
      tokenize "_event.geo_2.city[07]['src']" = .ok [⟨.identifier, "_event.geo_2.city[07]['src']", 0⟩, .eof 28] := by
  intro accessors
  have hbase : IsBaseName "_event" := ⟨'_', "event".toList, by decide, by decide, List.all_eq_true.1 (by decide)⟩
  have haccessors : ∀ a ∈ accessors, a.WellFormed := by decide
  have hne : accessors ≠ [] := by decide
  have hwritten : writePath "_event" accessors = "_event.geo_2.city[07]['src']" := by decide +kernel
  have htokens := tokenize_writePath hbase haccessors hne
  rw [if_pos (by decide), hwritten] at htokens
  exact ⟨hbase, haccessors, hne, htokens⟩

/-- A name after brackets is part of the path that the resolver takes the text for, and no token begins with its dot. -/
theorem tokenize_name_after_bracket :
    writePath "event" [.key "src", .index "1", .name "port"] = "event['src'][1].port" ∧
      Path.ofName "event['src'][1].port" = .ok ⟨"event", [.key "src", .index 1, .key "port"]⟩ ∧
      tokenize "event['src'][1].port" = .error (.lex 15 '.' .badCharacter) ∧
      tokenize "event['src'][1].port" ≠ .ok [⟨.identifier, "event['src'][1].port", 0⟩, .eof 20] := by
  decide +kernel

end EventRules
