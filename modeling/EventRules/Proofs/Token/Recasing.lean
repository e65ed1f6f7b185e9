import EventRules.Proofs.Token.LetterCase
import EventRules.Proofs.Token.Progress

/-!
# Tokens of a text in other letters

Two lexers that stand at the same place of two texts with the same small letters (`Lexer.SamePlace`) give tokens
that differ in the case of letters only, and stand at the same place again. A token ends where its word does, so
a letter of a word lies in no other token: where the texts differ in letters of some words only, all other tokens
are the same (`tokenize_recased`).
-/

namespace EventRules

namespace Lexer

variable {c : Char} {here stop : Cursor} {t : Token}

/-- No symbol is an identifier. -/
lemma symbol_ne_identifier {next : Option Char} {kind : TokenKind} {text : List Char}
    (h : symbol c next = .ok (kind, text)) : kind ≠ .identifier := by
  rintro rfl
  unfold symbol at h
  split at h
  next hkind =>
    cases h
    unfold punctuation? at hkind
    split at hkind <;> cases hkind
  next => split_ifs at h <;> cases h

/-- A token that is a word takes the word. -/
lemma scan_word {afterOperand : Bool} {t : Token} (h : scan afterOperand here = (.ok t, stop))
    (hword : t.kind = .identifier ∨ t.kind = .operator ∧ here.rest.head?.any Text.isAlphabetic) :
    stop.position = here.position + (identifier here.rest).length := by
  obtain ⟨_ | ⟨c, cs⟩, position⟩ := here
  · cases h
    simp [Token.eof] at hword
  · rw [scan_cons] at h
    split at h
    next =>
      obtain ⟨text, -, rfl⟩ := literal_ok h
      simp at hword
    next =>
    split at h
    next =>
      obtain ⟨text, -, rfl⟩ := literal_ok h
      simp at hword
    next =>
    split at h
    next => cases h; rfl
    next hletter =>
      cases hresult : symbol c cs.head? with
      | error fault => rw [hresult] at h; cases congrArg Prod.fst h
      | ok result =>
        rw [hresult] at h
        cases h
        obtain hkind | ⟨-, hfirst⟩ := hword
        · exact (symbol_ne_identifier hresult hkind).elim
        · exact (hletter (by rw [show Text.isAlphabetic c = true from hfirst, Bool.true_or])).elim

end Lexer

/-- Where the word ends that stands in a source where a token does. -/
def Token.wordEnd (source : List Char) (t : Token) : Nat :=
  t.offset + (Lexer.identifier (source.drop t.offset)).length

/-- The token is a word of the source: an identifier, or an operator that is spelled with letters there. -/
def Token.IsWordOf (source : List Char) (t : Token) : Prop :=
  t.kind = .identifier ∨ t.kind = .operator ∧ source[t.offset]?.any Text.isAlphabetic

namespace Lexer

variable {cs ds : List Char} {here stop : Cursor} {t : Token} {l l' m : Lexer}

/-- Two lexers at the same place of two texts with the same small letters. -/
structure SamePlace (cs ds : List Char) (l l' : Lexer) : Prop where
  rest : l.rest = cs.drop l.position
  rest' : l'.rest = ds.drop l.position
  position : l'.position = l.position
  afterOperand : l'.afterOperand = l.afterOperand

/-- What lies behind a place that has been passed over is what is left of the text. -/
lemma rest_of_passes {text used : List Char} {here stop : Cursor} (h : Cursor.Passes used here stop)
    (hrest : here.rest = text.drop here.position) : stop.rest = text.drop stop.position := by
  rw [h.position, ← List.drop_drop, ← hrest, h.rest, List.drop_left]

/-- A token starts where scanning does, and scanning goes forward from there. -/
lemma scan_passes {afterOperand : Bool} (h : scan afterOperand here = (.ok t, stop)) :
    t.offset = here.position ∧ ∃ used, Cursor.Passes used here stop := by
  have hscan := scan_scanned afterOperand here
  rw [h] at hscan
  cases hscan with
  | eof => exact ⟨rfl, [], .refl _⟩
  | token _ hoffset hpass => exact ⟨hoffset, _, hpass⟩

/-- Texts that agree between two positions have the same part there. -/
lemma take_drop_congr {p q : Nat} (h : ∀ i, p ≤ i → i < q → ds[i]? = cs[i]?) :
    (ds.drop p).take (q - p) = (cs.drop p).take (q - p) := by
  refine List.ext_getElem? fun n => ?_
  by_cases hn : n < q - p
  · rw [List.getElem?_take_of_lt hn, List.getElem?_take_of_lt hn, List.getElem?_drop, List.getElem?_drop]
    exact h _ (Nat.le_add_right _ _) (by omega)
  · rw [List.getElem?_take_eq_none (Nat.not_lt.1 hn), List.getElem?_take_eq_none (Nat.not_lt.1 hn)]

/-- Lexers at the same place give tokens that differ in the case of letters only, and come to the same place. -/
lemma SamePlace.next (h : SamePlace cs ds l l') (hlower : ds.map Char.toLower = cs.map Char.toLower)
    (hnext : l.next = (.ok t, m))
    (hkept : t.kind = .string ∨ t.kind = .number → ∀ i, t.offset ≤ i → i < m.position → ds[i]? = cs[i]?) :
    ∃ t' m', l'.next = (.ok t', m') ∧ SamePlace cs ds m m' ∧ t.Recased t' ∧
      ((∀ i, t.offset ≤ i → i < m.position → ds[i]? = cs[i]?) → t' = t) := by
  obtain ⟨here, hgap, hscan, hoperand⟩ := next_ok.1 hnext
  have hgaps : ((skipGap .blank l'.position l'.rest).1, (skipGap .blank l'.position l'.rest).2.lower) =
      ((.ok (), here.lower) : Except Error Unit × Cursor) := by
    rw [← skipGap_lower, h.position, h.rest', List.map_drop, hlower, ← List.map_drop, ← h.rest, skipGap_lower, hgap]
  rcases hgap' : skipGap .blank l'.position l'.rest with ⟨result, here'⟩
  rw [hgap'] at hgaps
  obtain ⟨rfl, hhere⟩ := Prod.mk.inj hgaps
  have hposition : here'.position = here.position := Cursor.position_of_lower hhere
  obtain ⟨_, hpass, -⟩ := skipGap_ok hgap
  obtain ⟨_, hpass', -⟩ := skipGap_ok hgap'
  have hrest : here.rest = cs.drop here.position := rest_of_passes hpass h.rest
  have hrest' : here'.rest = ds.drop here'.position := rest_of_passes hpass' (h.position.symm ▸ h.rest')
  obtain ⟨hoffset, _, hused⟩ := scan_passes hscan
  have htake (hsame : ∀ i, t.offset ≤ i → i < m.position → ds[i]? = cs[i]?) :
      here'.rest.take (m.position - here.position) = here.rest.take (m.position - here.position) := by
    rw [hrest, hrest', hposition, ← hoffset]
    exact take_drop_congr hsame
  have hreread := scan_recased hhere hscan rfl fun hkind => htake (hkept hkind)
  generalize hscan' : scan l.afterOperand here' = result at hreread
  cases hreread with
  | @token t' stop' hrecased hstop hsame =>
    obtain ⟨_, _, hused'⟩ := scan_passes hscan'
    have hstop' : stop'.position = m.position := Cursor.position_of_lower hstop
    refine ⟨t', { toCursor := stop', afterOperand := t'.endsOperand }, ?_, ?_, hrecased, hsame ∘ htake⟩
    · refine next_ok.2 ⟨here', hgap', ?_, rfl⟩
      rwa [h.afterOperand]
    · exact
        { rest := rest_of_passes hused hrest
          rest' := hstop' ▸ rest_of_passes hused' hrest'
          position := hstop'
          afterOperand := hrecased.endsOperand.trans hoperand.symm }

/-- A token that is a word ends where the word does. -/
lemma next_wordEnd (hl : l.rest = cs.drop l.position) (hnext : l.next = (.ok t, m)) (hword : t.IsWordOf cs) :
    m.position = t.wordEnd cs := by
  obtain ⟨here, hgap, hscan, -⟩ := next_ok.1 hnext
  obtain ⟨_, hpass, -⟩ := skipGap_ok hgap
  have hrest : here.rest = cs.drop here.position := rest_of_passes hpass hl
  obtain ⟨hoffset, -⟩ := scan_passes hscan
  rw [Token.IsWordOf, hoffset, ← List.head?_drop, ← hrest] at hword
  rw [Token.wordEnd, hoffset, ← hrest]
  exact scan_word hscan hword

/-- Lexers at the same place give tokens that differ in the case of letters only, if the texts differ in letters
of words only. Every character that differs lies in a token of `Q`; other tokens are the same. -/
lemma Gives.recased {Q : Token → Prop} {result : Except Error (List Token)} {ts : List Token} (h : l.Gives result)
    (hts : result = .ok ts) (hlower : ds.map Char.toLower = cs.map Char.toLower) (hplace : SamePlace cs ds l l')
    (hword : ∀ t ∈ ts, Q t → t.IsWordOf cs)
    (hchanged : ∀ i, l.position ≤ i → ds[i]? ≠ cs[i]? → ∃ t ∈ ts, Q t ∧ t.offset ≤ i ∧ i < t.wordEnd cs) :
    ∃ ts', l'.Gives (.ok ts') ∧ List.Forall₂ (fun t t' => t.Recased t' ∧ (¬ Q t → t' = t)) ts ts' := by
  induction h generalizing ts l' with
  | @token l m t result hnext hkind hrest ih =>
    cases result with
    | error e => cases hts
    | ok more =>
      cases hts
      have hstart : l.position ≤ t.offset := position_le_offset (congrArg Prod.fst hnext)
      have hend : t.offset < m.position := by
        simpa [hnext] using offset_lt_position (congrArg Prod.fst hnext) hkind
      -- the other tokens lie behind this one
      have hmore : ∀ t ∈ more, m.position ≤ t.offset := (hrest.offsets rfl).1
      have hsame (hQ : ¬ Q t) (i : Nat) (hle : t.offset ≤ i) (hlt : i < m.position) : ds[i]? = cs[i]? := by
        by_contra hne
        obtain ⟨u, hu, hQu, hule, -⟩ := hchanged i (by omega) hne
        rcases List.mem_cons.1 hu with rfl | hu
        · exact hQ hQu
        · have := hmore u hu
          omega
      have hkept (hkind : t.kind = .string ∨ t.kind = .number) : ¬ Q t := by
        intro hQ
        obtain hother | ⟨hother, -⟩ := hword t List.mem_cons_self hQ <;> simp [hother] at hkind
      obtain ⟨t', m', hnext', hplace', hrecased, hkeep⟩ := hplace.next hlower hnext fun hkind => hsame (hkept hkind)
      obtain ⟨more', hgives, hrecased'⟩ := ih rfl hplace' (fun u hu => hword u (List.mem_cons_of_mem _ hu))
        fun i hi hne => by
          obtain ⟨u, hu, hQu, hule, hlt⟩ := hchanged i (by omega) hne
          rcases List.mem_cons.1 hu with rfl | hu
          · have := next_wordEnd hplace.rest hnext (hword u List.mem_cons_self hQu)
            omega
          · exact ⟨u, hu, hQu, hule, hlt⟩
      exact ⟨t' :: more', .token hnext' (by rwa [hrecased.kind]) hgives,
        .cons ⟨hrecased, fun hQ => hkeep (hsame hQ)⟩ hrecased'⟩
  | @eof l m t hnext hkind =>
    cases hts
    obtain ⟨t', m', hnext', -, hrecased, -⟩ := hplace.next hlower hnext (by simp [hkind])
    exact ⟨[t'], .eof hnext' (by rwa [hrecased.kind]),
      .cons ⟨hrecased, fun _ => hrecased.eq (by simp [hkind])⟩ .nil⟩
  | error => cases hts

end Lexer

/-- A text that differs from a source in the case of letters only, and in that only within tokens of `Q`, all of
them words, has tokens that differ in the case of letters only, and those not of `Q` in nothing. -/
lemma tokenize_recased {Q : Token → Prop} {source source' : String} {ts : List Token}
    (hlower : Text.toLowerAscii source' = Text.toLowerAscii source) (hts : tokenize source = .ok ts)
    (hword : ∀ t ∈ ts, Q t → t.IsWordOf source.toList)
    (hchanged : ∀ i, source'.toList[i]? ≠ source.toList[i]? →
      ∃ t ∈ ts, Q t ∧ t.offset ≤ i ∧ i < t.wordEnd source.toList) :
    ∃ ts', tokenize source' = .ok ts' ∧ List.Forall₂ (fun t t' => t.Recased t' ∧ (¬ Q t → t' = t)) ts ts' := by
  have hletters : source'.toList.map Char.toLower = source.toList.map Char.toLower := by
    simpa [Text.toLowerAscii] using congrArg String.toList hlower
  have hgives := Lexer.tokenize_gives source
  rw [hts] at hgives
  have hplace : Lexer.SamePlace source.toList source'.toList (.ofSource source) (.ofSource source') :=
    ⟨rfl, rfl, rfl, rfl⟩
  obtain ⟨ts', hgives', hrecased⟩ := hgives.recased rfl hletters hplace hword fun i _ => hchanged i
  exact ⟨ts', tokenize_eq_of_gives hgives', hrecased⟩

end EventRules
