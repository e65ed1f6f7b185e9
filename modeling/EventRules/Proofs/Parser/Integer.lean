import EventRules.Proofs.Parser.Parentheses
import EventRules.Proofs.Token.Integer

/-!
# Integers from source to tree

Lexer and parser read the same digits, and agree on which of them are a 64-bit integer. The integer is the value of
the literal; its sign is a part of it where no operand stands before it, and behind parentheses it is a subtraction
(`Expression.parse_integer`).
-/

namespace EventRules

namespace Parser

variable {stop t u : Token} {limit room room' : Nat} {ls rs : List Token} {left right : Expr} {follow place : Level}
  {digits : List Char} {negative : Bool} {n : Int64}

/-- A number token is read as the literal of its value. -/
lemma reads_number {v : Value} (ht : t.kind = .number) (hv : numberValue? t.text = some v) :
    Reads stop limit room .primary follow [t] (.literal v) := by
  intro rest _
  show (call stop _).run (t :: rest) = _
  rw [run_call_other (by simp [ht]), run_primary_number ht hv]

/-- Two operands with an operator between them are a chain of its level. -/
lemma Reads.binary {op : BinaryOp} (hleft : Reads stop limit room op.level.next op.level.next ls left)
    (ht : t.lexeme = .operator op.symbol)
    (hright : Reads stop limit room op.level.next op.level.next rs right) :
    Reads stop limit room op.level op.level (ls ++ t :: rs) (.binary op left right) := by
  have hnext : op.level < op.level.next := by cases op <;> decide
  obtain ⟨hk, htext⟩ := Token.lexeme_eq_iff.1 ht
  have hop : op.level.operator? t.text = some op := by rw [htext, Level.operator?_symbol, if_pos rfl]
  intro rest hrest
  have hfirst := hleft (t :: (rs ++ rest)) (.of_symbol ht hnext)
  have hsecond := hright rest (hrest.mono (Nat.le_of_lt hnext))
  rw [List.append_assoc, List.cons_append, Level.parser_eq_chain, run_chain hfirst, List.length_cons,
    run_chainRest_op hk hop hsecond]
  exact run_chainRest_stop (hrest.no_operator _ (Nat.le_refl _)) _

/-- The value of a number token with these digits is the integer that they write. -/
lemma numberValue?_signed (hne : digits ≠ []) (hdigits : ∀ c ∈ digits, c.isDigit) (negative : Bool) :
    numberValue? (String.ofList (signed negative digits)) =
      (Decimal.int64Of? (signedValue negative digits)).map .int := by
  have hfloat : (signed negative digits).any (fun c => c == '.' || c == 'e' || c == 'E') = false := by
    rw [List.any_eq_false]
    intro c hc
    have hd : c = '-' ∨ c.isDigit := by
      cases negative with
      | true => exact (List.mem_cons.1 hc).imp_right (hdigits c)
      | false => exact .inr (hdigits c hc)
    intro h
    simp only [Bool.or_eq_true, beq_iff_eq] at h
    rcases h with (rfl | rfl) | rfl <;> revert hd <;> decide
  simp only [numberValue?, String.toList_ofList, hfloat, Decimal.readInt64?_signed hne hdigits]
  rfl

/-- In every place a number token with these digits is the literal of the integer. -/
lemma reads_signed (hne : digits ≠ []) (hdigits : ∀ c ∈ digits, c.isDigit) (ht : t.kind = .number)
    (htext : t.text = String.ofList (signed negative digits))
    (hn : Decimal.int64Of? (signedValue negative digits) = some n) (hfollow : follow ≤ place) :
    Reads stop limit room place follow [t] (.literal (.int n)) := by
  have hvalue : numberValue? t.text = some (.int n) := by
    rw [htext, numberValue?_signed hne hdigits, hn]
    rfl
  exact (reads_number ht hvalue).loosen (.of_kind _ (by simp [Token.lexeme, ht])) (by cases place <;> decide) hfollow

/-- Tokens that read as an expression are an operand in parentheses, one level deeper. -/
lemma ReadsWithin.operand (h : ReadsWithin room ls left) (ht : t.kind = .lparen) (hu : u.kind = .rparen)
    (hstop : stop.kind = .eof) (hroom : room < room') (hfollow : follow ≤ place) :
    Reads stop limit room' place follow (t :: (ls ++ [u])) left := by
  obtain ⟨room', rfl⟩ := Nat.exists_eq_succ_of_ne_zero (Nat.ne_of_gt (Nat.zero_lt_of_lt hroom))
  have hparens := reads_parens ht hu (h.reads hstop limit (Nat.le_of_lt_succ hroom)) follow
  exact hparens.loosen (.of_kind _ (by simp [Token.lexeme, ht])) (by cases place <;> decide) hfollow

end Parser

namespace IsInteger

variable {digits suffix : String}

/-- An integer has a digit. -/
lemma ne_nil (h : IsInteger digits suffix) : digits.toList ≠ [] :=
  fun hnil => h.nonempty (String.toList_eq_nil_iff.1 hnil)

/-- The letter of an integer is `L`, `l` or nothing. -/
lemma toList_suffix (h : IsInteger digits suffix) : suffix.toList ∈ [[], ['L'], ['l']] := by
  have hmem := List.mem_map_of_mem (f := String.toList) h.suffix_mem
  exact hmem

end IsInteger

namespace Expression

variable {digits suffix source x : String} {negative : Bool} {ts : List Token} {e : Expr} {n room limit : Nat}
  {X : Expression}

/-- What the grammar reads from all tokens of a source is what parsing gives for the source. -/
lemma parse_of_reads (htokens : tokenize source = .ok (ts ++ [Token.eof n]))
    (h : Parser.Reads (Token.eof n) (room + 1) room .conditional .conditional ts e) :
    parse source (room + 1) = .ok ⟨source, e⟩ := by
  have hrun := h [] (.of_kind (by simp [Parser.front, Token.eof]))
  rw [List.append_nil] at hrun
  exact parse_of_run htokens hrun

/-- An integer by itself is a literal if it is in range, and otherwise an error at its first character. -/
lemma parse_signed (h : IsInteger digits suffix)
    (hsource : source.toList = signed negative digits.toList ++ suffix.toList) (room : Nat) :
    if SizeInRange negative digits.toList then
      ∃ n : Int64, n.toInt = signedValue negative digits.toList ∧
        parse source (room + 1) = .ok ⟨source, .literal (.int n)⟩
    else parse source (room + 1) =
      .error (.lex 0 ((signed negative digits.toList).headD '-') .integerOutOfRange) := by
  have hgives : (Lexer.startAt (signed negative digits.toList ++ suffix.toList) 0 false).Gives _ :=
    .integer h.ne_nil h.isDigit h.toList_suffix fun _ => rfl
  rw [← hsource] at hgives
  have htokens : tokenize source = _ := tokenize_eq_of_gives hgives
  split
  case isTrue hrange =>
    obtain ⟨n, hn, hvalue⟩ := Decimal.int64Of?_signedValue hrange
    rw [Lexer.integerText, if_pos hrange] at htokens
    have htokens : tokenize source =
        .ok ([⟨.number, String.ofList (signed negative digits.toList), 0⟩] ++ [_]) := htokens
    exact ⟨n, hn, parse_of_reads htokens (Parser.reads_signed h.ne_nil h.isDigit rfl rfl hvalue (Nat.le_refl _))⟩
  case isFalse hrange =>
    rw [Lexer.integerText, if_neg hrange] at htokens
    rw [parse, htokens]
    rfl

/-- A negative integer behind a source on a line of its own. -/
lemma tokenize_behind_minus (h : IsInteger digits suffix) (hx : tokenize x = .ok (ts ++ [Token.eof n])) :
    tokenize (x ++ "\n" ++ ("-" ++ digits ++ suffix)) =
      if ts.getLast?.any Token.endsOperand then
        (Lexer.integerText false digits.toList (x.length + 2)).map fun text =>
          ts ++ [⟨.operator, "-", x.length + 1⟩, ⟨.number, text, x.length + 2⟩,
            .eof (x ++ "\n" ++ ("-" ++ digits ++ suffix)).length]
      else
        (Lexer.integerText true digits.toList (x.length + 1)).map fun text =>
          ts ++ [⟨.number, text, x.length + 1⟩, .eof (x ++ "\n" ++ ("-" ++ digits ++ suffix)).length] := by
  have hline : ("-" ++ digits ++ suffix).toList = '-' :: (digits.toList ++ suffix.toList) := by simp
  have hlength : (x ++ "\n" ++ ("-" ++ digits ++ suffix)).length =
      x.length + 2 + (digits.toList ++ suffix.toList).length := by
    simp only [← String.length_toList, String.toList_append, hline, List.length_append, List.length_cons]
    simp
    omega
  rw [hlength]
  split
  case isTrue hoperand =>
    have hnumber : (Lexer.startAt (signed false digits.toList ++ suffix.toList) (x.length + 2) false).Gives _ :=
      .integer h.ne_nil h.isDigit h.toList_suffix nofun
    have hgives := Lexer.Gives.minus hnumber
    rw [signed, if_neg Bool.false_ne_true, ← hline, ← hoperand] at hgives
    rw [tokenize_behind hx hgives]
    cases Lexer.integerText false digits.toList (x.length + 2) <;> rfl
  case isFalse hoperand =>
    have hgives : (Lexer.startAt (signed true digits.toList ++ suffix.toList) (x.length + 1) false).Gives _ :=
      .integer h.ne_nil h.isDigit h.toList_suffix fun _ => rfl
    rw [signed, if_pos rfl, List.cons_append, ← hline, ← Bool.eq_false_iff.2 hoperand] at hgives
    rw [tokenize_behind hx hgives]
    cases Lexer.integerText true digits.toList (x.length + 1) with
    | ok text =>
      have hend : x.length + 1 + ("-" ++ digits ++ suffix).toList.length =
          x.length + 2 + (digits.toList ++ suffix.toList).length := by
        rw [hline, List.length_cons]
        omega
      rw [hend]
      rfl
    | error e => rfl

/-- Behind an operand the minus sign is an operator, and the digits are a number by themselves. -/
lemma tokenize_closing_minus (h : IsInteger digits suffix) (hrange : SizeInRange false digits.toList) :
    tokenize (") -" ++ digits ++ suffix) =
      .ok ([⟨.rparen, ")", 0⟩, ⟨.operator, "-", 2⟩, ⟨.number, digits, 3⟩] ++
        [Token.eof (3 + (digits.toList ++ suffix.toList).length)]) := by
  have hnumber : (Lexer.startAt (signed false digits.toList ++ suffix.toList) 3 false).Gives _ :=
    .integer h.ne_nil h.isDigit h.toList_suffix nofun
  have htext : String.ofList (signed false digits.toList) = digits := String.ofList_toList
  rw [Lexer.integerText, if_pos hrange, htext] at hnumber
  have hgives : (Lexer.startAt (')' :: ' ' :: '-' :: (digits.toList ++ suffix.toList)) 0 false).Gives _ :=
    (Lexer.Gives.minus hnumber).blank.rparen
  have hline : (") -" ++ digits ++ suffix).toList = ')' :: ' ' :: '-' :: (digits.toList ++ suffix.toList) := by simp
  rw [← hline] at hgives
  exact tokenize_eq_of_gives hgives

/-- Behind a source in parentheses the minus sign subtracts. -/
lemma parse_subtract (h : IsInteger digits suffix) (hrange : SizeInRange false digits.toList)
    (hx : parse x limit = .ok X) :
    ∃ n : Int64, n.toInt = signedValue false digits.toList ∧ ∀ limit' > limit,
      parse ("(" ++ x ++ "\n) -" ++ digits ++ suffix) limit' =
        .ok ⟨"(" ++ x ++ "\n) -" ++ digits ++ suffix, .binary .subtract X.root (.literal (.int n))⟩ := by
  obtain ⟨n, hn, hvalue⟩ := Decimal.int64Of?_signedValue hrange
  refine ⟨n, hn, fun limit' hlimit => ?_⟩
  obtain ⟨room, ts, m, rfl, htokens, hreads⟩ := readsWithin_of_parse hx
  obtain ⟨room', rfl⟩ := Nat.exists_eq_succ_of_ne_zero (Nat.ne_of_gt (Nat.zero_lt_of_lt hlimit))
  obtain ⟨j, k, l, hall⟩ := tokenize_enclosed opens_paren htokens (tokenize_closing_minus h hrange) (by simp)
  have hleft : Parser.Reads (Token.eof l) (room' + 1) room' .multiplicative .multiplicative
      (⟨.lparen, "(", 0⟩ :: (ts.map (Token.shift j) ++ [Token.shift k ⟨.rparen, ")", 0⟩])) X.root :=
    (hreads.shift j).operand rfl rfl rfl (Nat.lt_of_succ_lt_succ hlimit) (Nat.le_refl _)
  have hright : Parser.Reads (Token.eof l) (room' + 1) room' .multiplicative .multiplicative
      [Token.shift k ⟨.number, digits, 3⟩] (.literal (.int n)) :=
    Parser.reads_signed h.ne_nil h.isDigit rfl String.ofList_toList.symm hvalue (Nat.le_refl _)
  have hminus : (Token.shift k ⟨.operator, "-", 2⟩).lexeme = .operator BinaryOp.subtract.symbol := rfl
  have hchain := (hleft.binary hminus hright).follow_mono (show Level.conditional ≤ _ by decide)
  have hsource : "(" ++ x ++ "\n) -" ++ digits ++ suffix = "(" ++ (x ++ "\n" ++ (") -" ++ digits ++ suffix)) := by
    rw [show "\n) -" = "\n" ++ ") -" from rfl]
    simp only [String.append_assoc]
  rw [hsource]
  refine parse_of_reads ?_ (hchain.loosen (.of_kind _ (by decide)) (by decide) (Nat.le_refl _))
  rw [hall]
  simp

/-- Integers are exact from source to tree. Digits with the letter of an integer or nothing behind them parse to the
number that they write if it is less than `2 ^ 63`, with a minus sign before them if it is not more; otherwise there is
an error at the first character. On the line behind any source that has tokens the minus sign belongs to the number
unless the last of the tokens ends an operand; there it is an operator, and the digits behind it are an integer of
their own. Behind a source in parentheses it subtracts the integer from what the source parses to. -/
theorem parse_integer (h : IsInteger digits suffix) :
    let size := Decimal.digitsValue digits.toList
    (∀ room, let source := digits ++ suffix
      if size ≤ 2 ^ 63 - 1 then ∃ n : Int64, n.toInt = size ∧ parse source (room + 1) = .ok ⟨source, .literal (.int n)⟩
      else ∃ first ∈ digits.toList.head?, parse source (room + 1) = .error (.lex 0 first .integerOutOfRange)) ∧
    (∀ room, let source := "-" ++ digits ++ suffix
      if size ≤ 2 ^ 63 then ∃ n : Int64, n.toInt = -size ∧ parse source (room + 1) = .ok ⟨source, .literal (.int n)⟩
      else parse source (room + 1) = .error (.lex 0 '-' .integerOutOfRange)) ∧
    (∀ x tokens, tokenize x = .ok tokens → ∃ ts m, tokens = ts ++ [Token.eof m] ∧
      let source := x ++ "\n" ++ ("-" ++ digits ++ suffix)
      if ts.getLast?.any Token.endsOperand then
        if size ≤ 2 ^ 63 - 1 then tokenize source = .ok (ts ++
          [⟨.operator, "-", x.length + 1⟩, ⟨.number, digits, x.length + 2⟩, .eof source.length])
        else ∃ first ∈ digits.toList.head?, tokenize source = .error (.lex (x.length + 2) first .integerOutOfRange)
      else if size ≤ 2 ^ 63 then tokenize source = .ok (ts ++
        [⟨.number, "-" ++ digits, x.length + 1⟩, .eof source.length])
      else tokenize source = .error (.lex (x.length + 1) '-' .integerOutOfRange)) ∧
    ∀ x limit X, parse x limit = .ok X → size ≤ 2 ^ 63 - 1 → ∃ n : Int64, n.toInt = size ∧
      ∀ limit' > limit, let source := "(" ++ x ++ "\n) -" ++ digits ++ suffix
        parse source limit' = .ok ⟨source, .binary .subtract X.root (.literal (.int n))⟩ := by
  obtain ⟨first, more, hdigits⟩ := List.exists_cons_of_ne_nil h.ne_nil
  have hhead : digits.toList.head? = some first := by rw [hdigits]; rfl
  have htext : String.ofList (signed true digits.toList) = "-" ++ digits := by
    rw [← String.toList_inj]
    simp [signed]
  have hunsigned : String.ofList (signed false digits.toList) = digits := String.ofList_toList
  refine ⟨fun room => ?_, fun room => ?_, fun x tokens hx => ?_, fun x limit X hx hrange => ?_⟩
  · have hsource : (digits ++ suffix).toList = signed false digits.toList ++ suffix.toList := String.toList_append
    have hparse := parse_signed h hsource room
    split
    case isTrue hrange =>
      rw [if_pos (show SizeInRange false digits.toList from hrange)] at hparse
      exact hparse
    case isFalse hrange =>
      rw [if_neg (show ¬ SizeInRange false digits.toList from hrange), hdigits] at hparse
      exact ⟨first, hhead, hparse⟩
  · have hsource : ("-" ++ digits ++ suffix).toList = signed true digits.toList ++ suffix.toList := by simp [signed]
    have hparse := parse_signed h hsource room
    split
    case isTrue hrange =>
      rw [if_pos (show SizeInRange true digits.toList from hrange)] at hparse
      exact hparse
    case isFalse hrange =>
      rw [if_neg (show ¬ SizeInRange true digits.toList from hrange)] at hparse
      exact hparse
  · obtain ⟨ts, m, rfl, -⟩ := tokenize_ends hx
    refine ⟨ts, m, rfl, ?_⟩
    have htokens := tokenize_behind_minus h hx
    split
    case isTrue hoperand =>
      rw [if_pos hoperand, Lexer.integerText] at htokens
      split
      case isTrue hrange =>
        rw [if_pos (show SizeInRange false digits.toList from hrange), hunsigned] at htokens
        exact htokens
      case isFalse hrange =>
        rw [if_neg (show ¬ SizeInRange false digits.toList from hrange), hdigits] at htokens
        exact ⟨first, hhead, htokens⟩
    case isFalse hoperand =>
      rw [if_neg hoperand, Lexer.integerText] at htokens
      split
      case isTrue hrange =>
        rw [if_pos (show SizeInRange true digits.toList from hrange), htext] at htokens
        exact htokens
      case isFalse hrange =>
        rw [if_neg (show ¬ SizeInRange true digits.toList from hrange)] at htokens
        exact htokens
  · exact parse_subtract h hrange hx

/-- The least integer is a number with its minus sign, and no number without it, also behind an operand. -/
theorem parse_integer_least :
    let digits := "9223372036854775808"
    IsInteger digits "L" ∧ IsInteger "007" "" ∧
      parse ("-" ++ digits ++ "L") 1 = .ok ⟨"-9223372036854775808L", .literal (.int Int64.minValue)⟩ ∧
      parse (digits ++ "L") 1 = .error (.lex 0 '9' .integerOutOfRange) ∧
      tokenize ("a[" ++ "\n" ++ ("-" ++ digits ++ "L")) =
        .ok [⟨.identifier, "a", 0⟩, ⟨.lbracket, "[", 1⟩, ⟨.number, "-" ++ digits, 3⟩, .eof 24] ∧
      tokenize ("a" ++ "\n" ++ ("-" ++ digits ++ "L")) = .error (.lex 3 '9' .integerOutOfRange) ∧
      parse "a // why" 1 = .ok ⟨"a // why", .variable "a"⟩ ∧
      parse ("(" ++ "a // why" ++ "\n) -" ++ "007" ++ "") 2 =
        .ok ⟨"(a // why\n) -007", .binary .subtract (.variable "a") (.literal (.int 7))⟩ := by
  intro digits
  have hleast : IsInteger digits "L" := ⟨by simp [digits], by simp [digits], by simp⟩
  have hseven : IsInteger "007" "" := ⟨by simp, by simp, by simp⟩
  have hsize : Decimal.digitsValue digits.toList = 2 ^ 63 := by simp [digits, Decimal.digitsValue]
  have hover : ¬ Decimal.digitsValue digits.toList ≤ 2 ^ 63 - 1 := by
    rw [hsize]
    decide
  have hvariable : parse "a // why" 1 = .ok ⟨"a // why", .variable "a"⟩ := by
    have htokens : tokenize "a // why" = .ok [⟨.identifier, "a", 0⟩, .eof 8] := rfl
    rw [parse, htokens]
    rfl
  obtain ⟨hplain, hminus, hbehind, -⟩ := parse_integer hleast
  obtain ⟨n, hn, hnegative⟩ : ∃ n : Int64, n.toInt = -2 ^ 63 ∧ parse ("-" ++ digits ++ "L") 1 = _ := by
    have h := hminus 0
    dsimp only at h
    rw [if_pos (Nat.le_of_eq hsize), hsize] at h
    exact h
  have hn : n = Int64.minValue := Int64.toInt_inj.1 hn
  have hfirst : digits.toList.head? = some '9' := by simp [digits]
  obtain ⟨c, hc, hpositive⟩ : ∃ c ∈ digits.toList.head?, parse (digits ++ "L") 1 = _ := by
    have h := hplain 0
    dsimp only at h
    rw [if_neg hover] at h
    exact h
  cases hfirst.symm.trans hc
  obtain ⟨ts, m, hts, hindex⟩ := hbehind "a[" [⟨.identifier, "a", 0⟩, ⟨.lbracket, "[", 1⟩, .eof 2] rfl
  obtain ⟨rfl, -⟩ : [⟨.identifier, "a", 0⟩, ⟨.lbracket, "[", 1⟩] = ts ∧ [Token.eof 2] = [Token.eof m] :=
    List.append_inj' hts rfl
  dsimp only at hindex
  rw [if_neg (by decide), if_pos (Nat.le_of_eq hsize)] at hindex
  obtain ⟨us, l, hus, hoperand⟩ := hbehind "a" [⟨.identifier, "a", 0⟩, .eof 1] rfl
  obtain ⟨rfl, -⟩ : [⟨.identifier, "a", 0⟩] = us ∧ [Token.eof 1] = [Token.eof l] := List.append_inj' hus rfl
  dsimp only at hoperand
  rw [if_pos (by decide), if_neg hover] at hoperand
  obtain ⟨d, hd, hoperand⟩ := hoperand
  cases hfirst.symm.trans hd
  obtain ⟨-, -, -, hsubtract⟩ := parse_integer hseven
  obtain ⟨seven, hseven', hparse⟩ := hsubtract "a // why" 1 _ hvariable (by simp [Decimal.digitsValue])
  have hvalue : seven = 7 := Int64.toInt_inj.1 (hseven'.trans (by simp [Decimal.digitsValue]))
  refine ⟨hleast, hseven, hn ▸ hnegative, hpositive, ?_, hoperand, hvariable, hvalue ▸ hparse 2 (by decide)⟩
  have hlength : ("a[" ++ "\n" ++ ("-" ++ digits ++ "L")).length = 24 := by simp [← String.length_toList, digits]
  rw [hindex, hlength]
  rfl

end Expression

end EventRules
