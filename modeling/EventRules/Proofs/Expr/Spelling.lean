import EventRules.Proofs.Expr.Induction
import EventRules.Token.Basic

/-!
# Spelling of expressions

The tokens that write an expression with as few parentheses as the precedence of its operators
allows. The spelling leaves out where a token stands: it is a list of lexemes, kinds of tokens with
their texts. Every part of an expression stands in a place of some `Level`; a part that is looser
than its place gets parentheses. The left operand of a binary operator has a place of the operator's
own level and the right operand one that is a level tighter, so chains group to the left without
parentheses.
-/

namespace EventRules

/-- A level of precedence, from the loosest to the tightest. -/
inductive Level where
  | conditional
  | or
  | and
  | not
  | comparison
  | additive
  | multiplicative
  | unary
  | primary
  deriving DecidableEq, Repr

namespace Level

/-- The place of the level in the order. -/
def rank : Level → Nat
  | conditional => 0
  | or => 1
  | and => 2
  | not => 3
  | comparison => 4
  | additive => 5
  | multiplicative => 6
  | unary => 7
  | primary => 8

/-- A level is below another one if it is looser. -/
instance : LE Level := ⟨fun a b => a.rank ≤ b.rank⟩

/-- A level is strictly below another one if it is looser and not the same. -/
instance : LT Level := ⟨fun a b => a.rank < b.rank⟩

/-- The ranks are compared. -/
instance (a b : Level) : Decidable (a ≤ b) := inferInstanceAs (Decidable (a.rank ≤ b.rank))

/-- The ranks are compared strictly. -/
instance (a b : Level) : Decidable (a < b) := inferInstanceAs (Decidable (a.rank < b.rank))

/-- The next tighter level; nothing is tighter than a primary. -/
def next : Level → Level
  | conditional => or
  | or => and
  | and => not
  | not => comparison
  | comparison => additive
  | additive => multiplicative
  | multiplicative => unary
  | unary => primary
  | primary => primary

end Level

/-- The level of a binary operator. -/
def BinaryOp.level : BinaryOp → Level
  | or => .or
  | and => .and
  | equal | notEqual | less | lessEq | greater | greaterEq | isIn => .comparison
  | add | subtract => .additive
  | multiply | divide | modulo => .multiplicative

/-- The level of a prefix operator. -/
def UnaryOp.level : UnaryOp → Level
  | not => .not
  | negate | «exists» => .unary

/-- The spelling of a prefix operator. -/
def UnaryOp.symbol : UnaryOp → String
  | not => "!"
  | negate => "-"
  | «exists» => "exists"

/-- A token without its place in the source. -/
structure Lexeme where
  kind : TokenKind
  text : String
  deriving DecidableEq, Repr

/-- What a token writes. -/
def Token.lexeme (t : Token) : Lexeme :=
  ⟨t.kind, t.text⟩

/-- A token writes a lexeme when it has its kind and its text. -/
lemma Token.lexeme_eq_iff {t : Token} {kind : TokenKind} {text : String} :
    t.lexeme = ⟨kind, text⟩ ↔ t.kind = kind ∧ t.text = text := by
  rw [Token.lexeme, Lexeme.mk.injEq]

namespace Lexeme

/-- A word of the language or a name. -/
def word (text : String) : Lexeme := ⟨.identifier, text⟩

/-- An operator by its sign. -/
def operator (text : String) : Lexeme := ⟨.operator, text⟩

def lparen : Lexeme := ⟨.lparen, "("⟩

def rparen : Lexeme := ⟨.rparen, ")"⟩

def lbracket : Lexeme := ⟨.lbracket, "["⟩

def rbracket : Lexeme := ⟨.rbracket, "]"⟩

def lbrace : Lexeme := ⟨.lbrace, "\x7b"⟩

def rbrace : Lexeme := ⟨.rbrace, "\x7d"⟩

def comma : Lexeme := ⟨.comma, ","⟩

def colon : Lexeme := ⟨.colon, ":"⟩

end Lexeme

/-- The tokens of a literal: a word, an integer with its sign, or a text. Other values are not
written. -/
def Value.spelling : Value → List Lexeme
  | .null => [.word "null"]
  | .bool b => [.word (if b then "true" else "false")]
  | .int n => [⟨.number, toString n.toInt⟩]
  | .string s => [⟨.string, s⟩]
  | .float _ | .list _ | .map _ => []

namespace Expr

/-- How tightly the outermost construct of an expression binds. -/
def level : Expr → Level
  | .binary op _ _ => op.level
  | .unary op _ => op.level
  | .ifThen _ _ | .ifElse _ _ _ => .conditional
  | .literal _ | .variable _ | .call _ _ | .list _ | .map _ => .primary

/-- Puts the tokens `ls` of an expression in a place of a level, in parentheses where the expression
is looser. -/
def placed (e : Expr) (place : Level) (ls : List Lexeme) : List Lexeme :=
  if e.level < place then .lparen :: (ls ++ [.rparen]) else ls

mutual

/-- The tokens of an expression that stands by itself. -/
def spelling : Expr → List Lexeme
  | .literal v => v.spelling
  | .variable name => [.word name]
  | .call name args => .word name :: .lparen :: (spellingItems args ++ [.rparen])
  | .binary op left right =>
    left.placed op.level (spelling left) ++
      .operator op.symbol :: right.placed op.level.next (spelling right)
  | .unary op operand => .operator op.symbol :: operand.placed op.level (spelling operand)
  | .ifThen c t => .word "if" :: (spelling c ++ .word "then" :: spelling t)
  | .ifElse c t e => c.placed .or (spelling c) ++ .operator "?" :: (spelling t ++ .colon :: spelling e)
  | .list items => .lbracket :: (spellingItems items ++ [.rbracket])
  | .map entries => .lbrace :: (spellingEntries entries ++ [.rbrace])

/-- The tokens of expressions with commas between them. -/
def spellingItems : List Expr → List Lexeme
  | [] => []
  | item :: rest => spelling item ++ spellingItemsRest rest

/-- The tokens of further expressions, a comma before each. -/
def spellingItemsRest : List Expr → List Lexeme
  | [] => []
  | item :: rest => .comma :: (spelling item ++ spellingItemsRest rest)

/-- The tokens of map entries with commas between them; every key is a text. -/
def spellingEntries : List (String × Expr) → List Lexeme
  | [] => []
  | (key, value) :: rest => ⟨.string, key⟩ :: .colon :: (spelling value ++ spellingEntriesRest rest)

/-- The tokens of further map entries, a comma before each. -/
def spellingEntriesRest : List (String × Expr) → List Lexeme
  | [] => []
  | (key, value) :: rest =>
    .comma :: ⟨.string, key⟩ :: .colon :: (spelling value ++ spellingEntriesRest rest)

end

/-- The tokens of an expression in a place of the given level. -/
def spellingAt (place : Level) (e : Expr) : List Lexeme :=
  e.placed place e.spelling

/-- Whether the spelling of a node tells it from all others: its literal is one that is written, and
its name is no word of the grammar in that place. -/
def isWritableNode : Expr → Bool
  | .literal v =>
    match v with
    | .null | .bool _ | .int _ | .string _ => true
    | .float _ | .list _ | .map _ => false
  | .variable name => !(["true", "false", "null", "if"].contains (Text.toLowerAscii name))
  | .call name _ => Text.toLowerAscii name ≠ "if"
  | _ => true

/-- All literals are null, booleans, integers or texts; no variable is named like a literal word or
`if`, and no function like `if`, in letters of either case. -/
def Writable (e : Expr) : Prop :=
  ∀ node ∈ e.nodes, node.isWritableNode

/-- A tree has finitely many nodes to look at. -/
instance (e : Expr) : Decidable e.Writable :=
  inferInstanceAs (Decidable (∀ node ∈ e.nodes, node.isWritableNode))

namespace Writable

variable {name : String} {op : BinaryOp} {left right c t f : Expr}

/-- The arguments of a call are parts of it. -/
lemma of_call {args : List Expr} (h : (call name args).Writable) : ∀ a ∈ args, a.Writable :=
  fun a ha node hn => h node (List.mem_cons_of_mem _ (mem_nodesOfItems.2 ⟨a, ha, hn⟩))

/-- The operands of an operator are parts of it. -/
lemma of_binary (h : (binary op left right).Writable) : left.Writable ∧ right.Writable :=
  ⟨fun node hn => h node (by simp [nodes, hn]), fun node hn => h node (by simp [nodes, hn])⟩

/-- The operand of a prefix operator is a part of it. -/
lemma of_unary {op : UnaryOp} (h : (unary op c).Writable) : c.Writable :=
  fun node hn => h node (List.mem_cons_of_mem _ hn)

/-- The condition and the consequence are parts of a conditional. -/
lemma of_ifThen (h : (ifThen c t).Writable) : c.Writable ∧ t.Writable :=
  ⟨fun node hn => h node (by simp [nodes, hn]), fun node hn => h node (by simp [nodes, hn])⟩

/-- The condition and both branches are parts of a conditional with an alternative. -/
lemma of_ifElse (h : (ifElse c t f).Writable) : c.Writable ∧ t.Writable ∧ f.Writable :=
  ⟨fun node hn => h node (by simp [nodes, hn]), fun node hn => h node (by simp [nodes, hn]),
    fun node hn => h node (by simp [nodes, hn])⟩

/-- The items of a list are parts of it. -/
lemma of_list {items : List Expr} (h : (list items).Writable) : ∀ a ∈ items, a.Writable :=
  fun a ha node hn => h node (List.mem_cons_of_mem _ (mem_nodesOfItems.2 ⟨a, ha, hn⟩))

/-- The values of a map are parts of it. -/
lemma of_map {entries : List (String × Expr)} (h : (map entries).Writable) :
    ∀ p ∈ entries, p.2.Writable :=
  fun p hp node hn => h node (List.mem_cons_of_mem _ (mem_nodesOfEntries.2 ⟨p, hp, hn⟩))

end Writable

/-- An expression by itself stands in a place of the loosest level. -/
@[simp] lemma spellingAt_conditional (e : Expr) : e.spellingAt .conditional = e.spelling := by
  have h : ¬ e.level < .conditional := Nat.not_lt_zero _
  simp [spellingAt, placed, h]

/-- An expression has no parentheses in a place that is no tighter than itself. -/
lemma spellingAt_of_le {e : Expr} {place : Level} (h : place ≤ e.level) :
    e.spellingAt place = e.spelling := by
  have h' : ¬ e.level < place := Nat.not_lt.2 h
  simp [spellingAt, placed, h']

/-- An expression has parentheses in a place that is tighter than itself. -/
lemma spellingAt_of_lt {e : Expr} {place : Level} (h : e.level < place) :
    e.spellingAt place = .lparen :: (e.spelling ++ [.rparen]) := by
  simp [spellingAt, placed, h]

/-- A lexeme that can stand at the start of an expression of the given level: no lexeme that closes
or divides, no `!` where a negation is too loose, and no operator where only primaries stand. -/
structure Begins (l : Lexeme) (level : Level) : Prop where
  opens : l.kind ∈ [.identifier, .number, .string, .operator, .lparen, .lbracket, .lbrace]
  no_not : .not < level → l ≠ .operator "!"
  no_operator : level = .primary → l.kind ≠ .operator

/-- A lexeme that is neither an operator nor closes or divides anything begins an expression of any
level. -/
lemma Begins.of_kind {l : Lexeme} (level : Level)
    (h : l.kind ∈ [.identifier, .number, .string, .lparen, .lbracket, .lbrace]) : Begins l level where
  opens := by grind
  no_not := by
    rintro _ rfl
    exact absurd h (by decide)
  no_operator := by
    intro _ ho
    rw [ho] at h
    exact absurd h (by decide)

/-- What may begin a tight place may begin a looser one. -/
lemma Begins.mono {l : Lexeme} {place level : Level} (h : Begins l level) (hle : place ≤ level) :
    Begins l place where
  opens := h.opens
  no_not hlt := h.no_not (Nat.lt_of_lt_of_le hlt hle)
  no_operator hp := by
    subst hp
    cases level <;> first | exact h.no_operator rfl | exact absurd hle (by decide)

/-- In a place an expression begins as the place asks, with its own first lexeme or a parenthesis. -/
lemma Begins.spellingAt {e : Expr} (h : ∃ l ls, e.spelling = l :: ls ∧ Begins l e.level) (place : Level) :
    ∃ l ls, e.spellingAt place = l :: ls ∧ Begins l place := by
  rcases Nat.lt_or_ge e.level.rank place.rank with hlt | hge
  · exact ⟨_, _, spellingAt_of_lt hlt, .of_kind _ (by decide)⟩
  · obtain ⟨l, ls, hl, hb⟩ := h
    exact ⟨l, ls, (spellingAt_of_le hge).trans hl, hb.mono hge⟩

/-- The spelling of a writable expression begins as its level allows. -/
lemma spelling_begins {e : Expr} (h : e.Writable) :
    ∃ l ls, e.spelling = l :: ls ∧ Begins l e.level := by
  induction e using Expr.induction with
  | literal v =>
    have hv := h (.literal v) (by simp [nodes])
    cases v <;> simp [isWritableNode] at hv <;> exact ⟨_, _, rfl, .of_kind _ (by simp [Lexeme.word])⟩
  | var name => exact ⟨_, _, rfl, .of_kind _ (by simp [Lexeme.word])⟩
  | call name args => exact ⟨_, _, rfl, .of_kind _ (by simp [Lexeme.word])⟩
  | list items => exact ⟨_, _, rfl, .of_kind _ (by decide)⟩
  | map entries => exact ⟨_, _, rfl, .of_kind _ (by decide)⟩
  -- A prefix operator is the negation only at its own level, and is no name or literal.
  | unary op operand _ =>
    refine ⟨_, _, rfl, ⟨by simp [Lexeme.operator], ?_, ?_⟩⟩
    · show .not < op.level → Lexeme.operator op.symbol ≠ .operator "!"
      cases op <;> decide
    · show op.level = .primary → TokenKind.operator ≠ .operator
      cases op <;> decide
  | ifThen c t _ _ => exact ⟨_, _, rfl, .of_kind _ (by decide)⟩
  -- The last two begin with their first part, in its place.
  | ifElse c t f ihc _ _ =>
    obtain ⟨l, ls, hl, hb⟩ := Begins.spellingAt (ihc h.of_ifElse.1) .or
    exact ⟨l, _, by rw [spelling, ← Expr.spellingAt, hl, List.cons_append], hb.mono (Nat.zero_le _)⟩
  | binary op left right ihl _ =>
    obtain ⟨l, ls, hl, hb⟩ := Begins.spellingAt (ihl h.of_binary.1) op.level
    exact ⟨l, _, by rw [spelling, ← Expr.spellingAt, hl, List.cons_append], hb⟩

/-- No token is the end of the input. -/
def EndFree (ls : List Lexeme) : Prop :=
  ∀ l ∈ ls, l.kind ≠ .eof

/-- No token is no end of the input. -/
@[simp] lemma endFree_nil : EndFree [] := nofun

/-- One token after the other is looked at. -/
@[simp] lemma endFree_cons {l : Lexeme} {ls : List Lexeme} :
    EndFree (l :: ls) ↔ l.kind ≠ .eof ∧ EndFree ls :=
  List.forall_mem_cons

/-- Tokens in a row are looked at in both parts. -/
@[simp] lemma endFree_append {ls ms : List Lexeme} : EndFree (ls ++ ms) ↔ EndFree ls ∧ EndFree ms :=
  List.forall_mem_append

/-- Parentheses are no end of the input. -/
lemma EndFree.placed {e : Expr} {ls : List Lexeme} (h : EndFree ls) (place : Level) :
    EndFree (e.placed place ls) := by
  unfold Expr.placed
  split
  · simp [h, Lexeme.lparen, Lexeme.rparen]
  · exact h

/-- The items of a list bring no end of the input, nor do the commas between them. -/
lemma endFree_items {items : List Expr} (h : ∀ a ∈ items, EndFree a.spelling) :
    EndFree (spellingItems items) := by
  have rest : ∀ items : List Expr, (∀ a ∈ items, EndFree a.spelling) →
      EndFree (spellingItemsRest items) := by
    intro items h
    induction items with
    | nil => exact endFree_nil
    | cons a rest ih =>
      have ih := ih fun b hb => h b (List.mem_cons_of_mem _ hb)
      simp [spellingItemsRest, Lexeme.comma, h a List.mem_cons_self, ih]
  cases items with
  | nil => exact endFree_nil
  | cons a items =>
    have hrest := rest items fun b hb => h b (List.mem_cons_of_mem _ hb)
    simp [spellingItems, h a List.mem_cons_self, hrest]

/-- The entries of a map bring no end of the input either. -/
lemma endFree_entries {entries : List (String × Expr)} (h : ∀ p ∈ entries, EndFree p.2.spelling) :
    EndFree (spellingEntries entries) := by
  have rest : ∀ entries : List (String × Expr), (∀ p ∈ entries, EndFree p.2.spelling) →
      EndFree (spellingEntriesRest entries) := by
    intro entries h
    induction entries with
    | nil => exact endFree_nil
    | cons p rest ih =>
      have ih := ih fun q hq => h q (List.mem_cons_of_mem _ hq)
      simp [spellingEntriesRest, Lexeme.comma, Lexeme.colon, h p List.mem_cons_self, ih]
  cases entries with
  | nil => exact endFree_nil
  | cons p entries =>
    have hrest := rest entries fun q hq => h q (List.mem_cons_of_mem _ hq)
    simp [spellingEntries, Lexeme.colon, h p List.mem_cons_self, hrest]

/-- No token of a spelling is the end of the input. -/
lemma endFree_spelling (e : Expr) : EndFree e.spelling := by
  induction e using Expr.induction with
  | literal v => cases v <;> simp [spelling, Value.spelling, Lexeme.word]
  | var name => simp [spelling, Lexeme.word]
  | call name args ih =>
    simp [spelling, Lexeme.word, Lexeme.lparen, Lexeme.rparen, endFree_items ih]
  | list items ih => simp [spelling, Lexeme.lbracket, Lexeme.rbracket, endFree_items ih]
  | map entries ih => simp [spelling, Lexeme.lbrace, Lexeme.rbrace, endFree_entries ih]
  | unary op operand ih => simp [spelling, Lexeme.operator, ih.placed]
  | binary op left right ihl ihr => simp [spelling, Lexeme.operator, ihl.placed, ihr.placed]
  | ifThen c t ihc iht => simp [spelling, Lexeme.word, ihc, iht]
  | ifElse c t f ihc iht ihf =>
    simp [spelling, Lexeme.operator, Lexeme.colon, ihc.placed, iht, ihf]

end Expr

end EventRules
