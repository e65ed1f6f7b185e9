import EventRules.Expr.Parser
import Mathlib.Tactic.Lemma

/-!
# Runs of the small parsers

Where the stream of a list of tokens ends, what the parsers that take single tokens answer, and how
a chain of operands goes on. Every lemma on parsers is about a run on a list of tokens; `front` is
the token that such a run sees first, the end of the input where the list is empty. Parsers of larger
parts are run by these lemmas and never unfolded together.
-/

namespace EventRules

namespace TokenStream

/-- The stop token of a stream is an end of the input. -/
lemma kind_stop (ts : List Token) : (ofTokens ts).stop.kind = .eof := by
  unfold ofTokens
  cases h : ts.find? (·.kind = .eof) with
  | none => rfl
  | some t => simpa using List.find?_some h

/-- A stream stops where the end of the input first comes. -/
lemma tokens_append {ts after : List Token} (hts : ∀ t ∈ ts, t.kind ≠ .eof)
    (hafter : ∀ t ∈ after.head?, t.kind = .eof) : (ofTokens (ts ++ after)).tokens = ts := by
  unfold ofTokens
  rw [List.takeWhile_append_of_pos (by simpa using hts)]
  cases after with
  | nil => simp
  | cons t after => simp [hafter t rfl]

/-- A stream ends with the first end of the input. -/
lemma stop_append {ts : List Token} {stop : Token} (hts : ∀ t ∈ ts, t.kind ≠ .eof) (hstop : stop.kind = .eof)
    (more : List Token) : (ofTokens (ts ++ stop :: more)).stop = stop := by
  have hnone : ts.find? (·.kind = .eof) = none := by simpa using hts
  simp [ofTokens, List.find?_append, hnone, hstop]

/-- A stream is what comes before the first end of the input, and that end. -/
lemma ofTokens_append {ts : List Token} {stop : Token} (hts : ∀ t ∈ ts, t.kind ≠ .eof) (hstop : stop.kind = .eof)
    (more : List Token) : ofTokens (ts ++ stop :: more) = ⟨ts, stop⟩ :=
  congr (congrArg mk (tokens_append hts (by simpa using hstop))) (stop_append hts hstop more)

end TokenStream

namespace Parser

variable {α β : Type} {stop t : Token} {ts rest : List Token}
  {op? : String → Option BinaryOp} {operand : Parser Expr} {left right : Expr} {op : BinaryOp}
  {kind : TokenKind} {what : Expected}

/-- The token at the front, the end of the input where none is left. -/
def front (stop : Token) (ts : List Token) : Token :=
  ts.headD stop

/-- At the end the token that ends the stream is at the front. -/
@[simp] lemma front_nil : front stop [] = stop := rfl

/-- Before the end the first token is at the front. -/
@[simp] lemma front_cons : front stop (t :: ts) = t := rfl

/-- A computation that has a value goes on with it. -/
@[simp] lemma ok_bind (a : α) (f : α → Except Error β) : (Except.ok a >>= f) = f a := rfl

/-- A function of a value is applied. -/
@[simp] lemma map_ok (a : α) (f : α → β) : f <$> (Except.ok a : Except Error α) = .ok (f a) := rfl

/-- To give a value is to have it. -/
@[simp] lemma pure_eq_ok (a : α) : (pure a : Except Error α) = .ok a := rfl

/-- To look at the token at the front leaves all tokens. -/
@[simp] lemma run_current : (current stop).run ts = .ok (front stop ts, ts) := rfl

/-- To take the token at the front leaves the others. -/
@[simp] lemma run_advance : (advance stop).run ts = .ok (front stop ts, ts.tail) := rfl

/-- To drop the token at the front leaves the others. -/
@[simp] lemma run_discard : (discard (advance stop)).run ts = .ok ((), ts.tail) := rfl

/-- A token of the kind asked for is taken. -/
lemma run_expect (h : t.kind = kind) : (expect stop kind what).run (t :: ts) = .ok ((), ts) := by
  simp [expect, h]

/-- No operator that `op?` knows stands at a token. -/
def Misses (op? : String → Option BinaryOp) (t : Token) : Prop :=
  t.kind = .operator → op? t.text = none

/-- A known operator at the front is taken. -/
lemma run_operator?_some (hk : t.kind = .operator) (ho : op? t.text = some op) :
    (operator? stop op?).run (t :: ts) = .ok (some op, ts) := by
  simp [operator?, hk, ho]

/-- Without a known operator at the front nothing is taken. -/
lemma run_operator?_none (h : Misses op? (front stop ts)) :
    (operator? stop op?).run ts = .ok (none, ts) := by
  simp only [operator?, StateT.run_bind, run_current, ok_bind]
  split
  case h_1 op ho =>
    split at ho
    case isTrue hk => exact absurd (ho.symm.trans (h hk)) nofun
    case isFalse => cases ho
  case h_2 => rfl

/-- A chain goes on from its first operand with as much fuel as tokens are left. -/
lemma run_chain (h : operand.run ts = .ok (left, rest)) :
    (chain stop op? operand).run ts = (chainRest stop op? operand rest.length left).run rest := by
  simp [chain, h]

/-- A chain ends where no operator of its level follows. -/
lemma run_chainRest_stop (h : Misses op? (front stop ts)) (fuel : Nat) :
    (chainRest stop op? operand fuel left).run ts = .ok (left, ts) := by
  cases fuel with
  | zero => rfl
  | succ fuel => simp [chainRest, run_operator?_none h]

/-- A chain goes on over an operator of its level and the operand after it. -/
lemma run_chainRest_op (hk : t.kind = .operator) (ho : op? t.text = some op)
    (h : operand.run ts = .ok (right, rest)) (fuel : Nat) :
    (chainRest stop op? operand (fuel + 1) left).run (t :: ts) =
      (chainRest stop op? operand fuel (.binary op left right)).run rest := by
  simp [chainRest, run_operator?_some hk ho, h]

end Parser

/-- Tokens write the expression that the parser of whole expressions gives on their stream. -/
lemma Expr.ofTokens_eq (tokens : List Token) (maxDepth : Nat) :
    let stream := TokenStream.ofTokens tokens
    ofTokens tokens maxDepth = ((Parser.whole stream.stop maxDepth).run stream.tokens).map Prod.fst := rfl

end EventRules
