import EventRules.Proofs.Parser.Place

/-!
# Items and entries

Arguments, the items of a list and the entries of a map read back up to their closing token, if
every expression among them reads back. `Parser.ReadsBack` says this of an expression: the parser of
every place reads its spelling in that place. The items are nested one level deeper, and whatever
follows one of them, a comma or the closing token, ends it.
-/

namespace EventRules.Parser

variable {stop t u : Token} {limit room fuel : Nat} {ts rest : List Token} {e : Expr} {item : Parser Expr}
  {close : TokenKind} {what : Expected} {key : String}

/-- The parser of every place reads back the spelling of the expression in that place. -/
def ReadsBack (stop : Token) (limit : Nat) (e : Expr) : Prop :=
  ∀ (room : Nat) (place : Level) (ts : List Token), ts.map Token.lexeme = e.spellingAt place →
    ts.length ≤ room → Reads stop limit room place place ts e

/-- The parser of a nested expression reads what reads at the loosest level. -/
lemma Reads.nested (h : Reads stop limit room .conditional .conditional ts e)
    (hr : Level.Ends .conditional (front stop rest)) :
    (descend stop limit (room + 1) .expression).run (ts ++ rest) = .ok (e, rest) :=
  h rest hr

/-- An expression reads back as a nested one before any token that ends a nested expression. -/
lemma ReadsBack.nested (h : ReadsBack stop limit e) (hts : ts.map Token.lexeme = e.spelling)
    (hroom : ts.length ≤ room) (hr : Level.Ends .conditional (front stop rest)) :
    (descend stop limit (room + 1) .expression).run (ts ++ rest) = .ok (e, rest) :=
  (h room .conditional ts (by rwa [Expr.spellingAt_conditional]) hroom).nested hr

/-- Every further item takes a comma at least. -/
lemma length_le_spellingItemsRest (items : List Expr) :
    items.length ≤ (Expr.spellingItemsRest items).length := by
  induction items with
  | nil => exact Nat.le_refl _
  | cons a items ih =>
    simp only [Expr.spellingItemsRest, List.length_cons, List.length_append]
    omega

/-- Further items begin with a comma. -/
lemma head_spellingItemsRest (items : List Expr) :
    ∀ l ∈ (Expr.spellingItemsRest items).head?, l = .comma := by
  cases items <;> simp [Expr.spellingItemsRest]

/-- What comes after an item is a comma or the closing token, and either ends the item. -/
lemma ends_of_comma {ls : List Lexeme} (hts : ts.map Token.lexeme = ls) (hls : ∀ l ∈ ls.head?, l = .comma)
    (hu : u.kind ∉ [.lparen, .operator, .identifier]) (place : Level) :
    place.Ends (front stop (ts ++ u :: rest)) := by
  subst hts
  cases ts with
  | nil => exact .of_kind hu
  | cons t ts =>
    have hk : t.kind = .comma := congrArg Lexeme.kind (hls t.lexeme rfl)
    exact .of_kind (by simp [hk])

/-- What closes arguments or a list is no parenthesis that opens, no operator and no name. -/
lemma closing_ends (hclose : close ∈ [.rparen, .rbracket]) (hu : u.kind = close) :
    u.kind ∉ [.lparen, .operator, .identifier] := by
  rw [hu]
  revert hclose
  cases close <;> decide

/-- Further items read back up to the closing token. -/
lemma run_delimitedRest {items : List Expr} (hitems : ∀ a ∈ items, ReadsBack stop limit a)
    (hu : u.kind = close) (hclose : close ∈ [.rparen, .rbracket])
    (hts : ts.map Token.lexeme = Expr.spellingItemsRest items) (hroom : ts.length ≤ room)
    (hfuel : items.length < fuel) :
    (delimitedRest stop (descend stop limit (room + 1) .expression) close what fuel).run
      (ts ++ u :: rest) = .ok (items, rest) := by
  induction items generalizing ts fuel with
  | nil =>
    obtain rfl := List.map_eq_nil_iff.1 hts
    obtain ⟨fuel, rfl⟩ := Nat.exists_eq_succ_of_ne_zero (Nat.ne_of_gt hfuel)
    have hcomma : close ≠ .comma := by
      rintro rfl
      exact absurd hclose (by decide)
    simp [delimitedRest, hu, hcomma, run_expect hu]
  | cons a items ih =>
    obtain ⟨fuel, rfl⟩ := Nat.exists_eq_succ_of_ne_zero (Nat.ne_of_gt (Nat.zero_lt_of_lt hfuel))
    obtain ⟨t, tail, rfl, ht, htail⟩ := List.map_eq_cons_iff.1 hts
    obtain ⟨ts₁, ts₂, rfl, h₁, h₂⟩ := List.map_eq_append_iff.1 htail
    have hcomma : t.kind = .comma := congrArg Lexeme.kind ht
    simp only [List.length_cons, List.length_append] at hroom hfuel
    have hitem : (descend stop limit (room + 1) .expression).run (ts₁ ++ (ts₂ ++ u :: rest)) =
        .ok (a, ts₂ ++ u :: rest) :=
      (hitems a List.mem_cons_self).nested h₁ (by omega)
        (ends_of_comma h₂ (head_spellingItemsRest items) (closing_ends hclose hu) .conditional)
    have hrest := ih (fun b hb => hitems b (List.mem_cons_of_mem _ hb)) h₂ (by omega)
      (Nat.lt_of_succ_lt_succ hfuel)
    simp [delimitedRest, hcomma, hitem, hrest]

/-- Items read back up to the closing token. -/
lemma run_delimited {items : List Expr} (hw : ∀ a ∈ items, a.Writable)
    (hitems : ∀ a ∈ items, ReadsBack stop limit a) (hu : u.kind = close)
    (hclose : close ∈ [.rparen, .rbracket]) (hts : ts.map Token.lexeme = Expr.spellingItems items)
    (hroom : ts.length ≤ room) :
    (delimited stop (descend stop limit (room + 1) .expression) close what).run (ts ++ u :: rest) =
      .ok (items, rest) := by
  cases items with
  | nil =>
    obtain rfl := List.map_eq_nil_iff.1 hts
    simp [delimited, hu]
  | cons a items =>
    obtain ⟨ts₁, ts₂, rfl, h₁, h₂⟩ := List.map_eq_append_iff.1 hts
    rw [List.length_append] at hroom
    have hitem : (descend stop limit (room + 1) .expression).run (ts₁ ++ (ts₂ ++ u :: rest)) =
        .ok (a, ts₂ ++ u :: rest) :=
      (hitems a List.mem_cons_self).nested h₁ (by omega)
        (ends_of_comma h₂ (head_spellingItemsRest items) (closing_ends hclose hu) .conditional)
    have hlen := length_le_spellingItemsRest items
    rw [← h₂, List.length_map] at hlen
    have hfuel : items.length < (ts₂ ++ u :: rest).length + 1 := by
      rw [List.length_append]
      omega
    have hrest : (delimitedRest stop (descend stop limit (room + 1) .expression) close what
        ((ts₂ ++ u :: rest).length + 1)).run (ts₂ ++ u :: rest) = .ok (items, rest) :=
      run_delimitedRest (fun b hb => hitems b (List.mem_cons_of_mem _ hb)) hu hclose h₂ (by omega) hfuel
    -- The list is taken for empty if its first token closes it, but no expression begins with that.
    obtain ⟨l, ls, hl, hb⟩ := Expr.spelling_begins (hw a List.mem_cons_self)
    obtain ⟨t, tail, rfl, rfl, -⟩ := List.map_eq_cons_iff.1 (h₁.trans hl)
    have hopen : t.kind ≠ close := by
      rintro rfl
      have := hb.opens
      revert hclose this
      simp only [Token.lexeme]
      cases t.kind <;> decide
    rw [List.length_append, List.length_cons] at hrest
    simp only [List.cons_append, List.append_assoc] at hitem ⊢
    simp [delimited, hopen, hitem, hrest]

/-- Every further entry takes a comma at least. -/
lemma length_le_spellingEntriesRest (entries : List (String × Expr)) :
    entries.length ≤ (Expr.spellingEntriesRest entries).length := by
  induction entries with
  | nil => exact Nat.le_refl _
  | cons p entries ih =>
    simp only [Expr.spellingEntriesRest, List.length_cons, List.length_append]
    omega

/-- Further entries begin with a comma. -/
lemma head_spellingEntriesRest (entries : List (String × Expr)) :
    ∀ l ∈ (Expr.spellingEntriesRest entries).head?, l = .comma := by
  cases entries <;> simp [Expr.spellingEntriesRest]

/-- An entry is a text, a colon and what its item reads. -/
lemma run_mapEntry (ht : t.lexeme = ⟨.string, key⟩) (hu : u.kind = .colon)
    (h : item.run ts = .ok (e, rest)) :
    (mapEntry stop item).run (t :: u :: ts) = .ok ((key, e), rest) := by
  obtain ⟨hk, hkey⟩ := Token.lexeme_eq_iff.1 ht
  simp [mapEntry, mapKey, hk, hkey, run_expect hu, h]

/-- Further entries read back up to the closing brace. -/
lemma run_mapRest {entries : List (String × Expr)} (hentries : ∀ p ∈ entries, ReadsBack stop limit p.2)
    (hu : u.kind = .rbrace) (hts : ts.map Token.lexeme = Expr.spellingEntriesRest entries)
    (hroom : ts.length ≤ room) (hfuel : entries.length < fuel) :
    (mapRest stop (descend stop limit (room + 1) .expression) fuel).run (ts ++ u :: rest) =
      .ok (entries, rest) := by
  induction entries generalizing ts fuel with
  | nil =>
    obtain rfl := List.map_eq_nil_iff.1 hts
    obtain ⟨fuel, rfl⟩ := Nat.exists_eq_succ_of_ne_zero (Nat.ne_of_gt hfuel)
    simp [mapRest, hu, run_expect hu]
  | cons p entries ih =>
    obtain ⟨key, value⟩ := p
    obtain ⟨fuel, rfl⟩ := Nat.exists_eq_succ_of_ne_zero (Nat.ne_of_gt (Nat.zero_lt_of_lt hfuel))
    obtain ⟨t, tail, rfl, ht, htail⟩ := List.map_eq_cons_iff.1 hts
    obtain ⟨k, tail, rfl, hk, htail⟩ := List.map_eq_cons_iff.1 htail
    obtain ⟨c, tail, rfl, hc, htail⟩ := List.map_eq_cons_iff.1 htail
    obtain ⟨ts₁, ts₂, rfl, h₁, h₂⟩ := List.map_eq_append_iff.1 htail
    have hcomma : t.kind = .comma := congrArg Lexeme.kind ht
    have hcolon : c.kind = .colon := congrArg Lexeme.kind hc
    simp only [List.length_cons, List.length_append] at hroom hfuel
    have hvalue : (descend stop limit (room + 1) .expression).run (ts₁ ++ (ts₂ ++ u :: rest)) =
        .ok (value, ts₂ ++ u :: rest) :=
      (hentries _ List.mem_cons_self).nested h₁ (by omega)
        (ends_of_comma h₂ (head_spellingEntriesRest entries) (by simp [hu]) .conditional)
    have hrest := ih (fun q hq => hentries q (List.mem_cons_of_mem _ hq)) h₂ (by omega)
      (Nat.lt_of_succ_lt_succ hfuel)
    simp [mapRest, hcomma, run_mapEntry hk hcolon hvalue, hrest]

/-- The entries of a map read back up to the brace that closes it. -/
lemma run_mapEntries {entries : List (String × Expr)}
    (hentries : ∀ p ∈ entries, ReadsBack stop limit p.2) (hu : u.kind = .rbrace)
    (hts : ts.map Token.lexeme = Expr.spellingEntries entries) (hroom : ts.length ≤ room) :
    (mapEntries stop (descend stop limit (room + 1) .expression)).run (ts ++ u :: rest) =
      .ok (entries, rest) := by
  cases entries with
  | nil =>
    obtain rfl := List.map_eq_nil_iff.1 hts
    simp [mapEntries, hu]
  | cons p entries =>
    obtain ⟨key, value⟩ := p
    obtain ⟨k, tail, rfl, hk, htail⟩ := List.map_eq_cons_iff.1 hts
    obtain ⟨c, tail, rfl, hc, htail⟩ := List.map_eq_cons_iff.1 htail
    obtain ⟨ts₁, ts₂, rfl, h₁, h₂⟩ := List.map_eq_append_iff.1 htail
    have hcolon : c.kind = .colon := congrArg Lexeme.kind hc
    -- A map is taken for empty if a brace comes first, but every entry begins with its key.
    have hopen : k.kind ≠ .rbrace := by
      rw [show k.kind = .string from congrArg Lexeme.kind hk]
      decide
    simp only [List.length_cons, List.length_append] at hroom
    have hvalue : (descend stop limit (room + 1) .expression).run (ts₁ ++ (ts₂ ++ u :: rest)) =
        .ok (value, ts₂ ++ u :: rest) :=
      (hentries _ List.mem_cons_self).nested h₁ (by omega)
        (ends_of_comma h₂ (head_spellingEntriesRest entries) (by simp [hu]) .conditional)
    have hlen := length_le_spellingEntriesRest entries
    rw [← h₂, List.length_map] at hlen
    have hrest : (mapRest stop (descend stop limit (room + 1) .expression)
        ((ts₂ ++ u :: rest).length + 1)).run (ts₂ ++ u :: rest) = .ok (entries, rest) := by
      refine run_mapRest (fun q hq => hentries q (List.mem_cons_of_mem _ hq)) hu h₂ (by omega) ?_
      rw [List.length_append]
      omega
    rw [List.length_append, List.length_cons] at hrest
    simp [mapEntries, hopen, run_mapEntry hk hcolon hvalue, hrest]

end EventRules.Parser
