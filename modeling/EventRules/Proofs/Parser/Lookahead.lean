import EventRules.Proofs.Parser.Limit
import EventRules.Proofs.Parser.Steps

/-!
# How far the parser looks ahead

A parser looks at the tokens that it takes and at the one after them, and at nothing else.
`Parser.LocalAt` says so of two runs. The first one is on some tokens, the second on those that the first
has taken, at other offsets and with other tokens behind them (`Parser.Change`). Where the first gives a
result, the second gives the same if what is behind is the same token as before or one that ends every
expression. Where the first fails, the second fails at the same token with the same error, and other tokens
in place of that one make it succeed. The parsers of the levels are gone through once, on the assumption
that the ways to the next deeper level look no further; the induction is then on the room for nesting.
-/

namespace EventRules

/-- The token at another offset. -/
def Token.relocate (move : Nat → Nat) (t : Token) : Token :=
  { t with offset := move t.offset }

namespace Parser

variable {α β : Type}

/-- Wherever an expression may end after it, the parser has a way to succeed: `more` is enough, and begins
with a token that ends an expression. -/
def Completes (stop : Token) (y : Parser α) : Prop :=
  ∃ more b, (∀ t ∈ more, t.kind ≠ .eof) ∧ ∀ rest, Level.Ends .conditional (front stop rest) →
    Level.Ends .conditional (front stop (more ++ rest)) ∧ y.run (more ++ rest) = .ok (b, rest)

namespace Completes

variable {stop t : Token} {x y : Parser α} {f : α → Parser β} {b : α}

/-- Nothing more is needed where a parser ends. -/
lemma stay (h : ∀ rest, Level.Ends .conditional (front stop rest) → y.run rest = .ok (b, rest)) : Completes stop y :=
  ⟨[], b, nofun, fun rest hrest => ⟨hrest, h rest hrest⟩⟩

/-- A result that is given is complete. -/
lemma pure (b : α) : Completes stop (Pure.pure b) :=
  stay fun _ _ => rfl

/-- A token that is taken first may be put in front of what completes the rest. -/
lemma cons (hends : Level.Ends .conditional t) (hk : t.kind ≠ .eof) (hrun : ∀ ts, y.run (t :: ts) = x.run ts)
    (h : Completes stop x) : Completes stop y := by
  obtain ⟨more, b, hmore, hx⟩ := h
  refine ⟨t :: more, b, List.forall_mem_cons.2 ⟨hk, hmore⟩, fun rest hrest => ⟨hends, ?_⟩⟩
  obtain ⟨-, hx⟩ := hx rest hrest
  exact (hrun _).trans hx

/-- What completes the first step has to leave a place in which the second can be completed. -/
lemma bind (h : Completes stop x) (hf : ∀ a, Completes stop (f a)) : Completes stop (x >>= f) := by
  obtain ⟨first, a, hfirst, hx⟩ := h
  obtain ⟨second, b, hsecond, hfa⟩ := hf a
  refine ⟨first ++ second, b, List.forall_mem_append.2 ⟨hfirst, hsecond⟩, fun rest hrest => ?_⟩
  obtain ⟨hends, hsecondRun⟩ := hfa rest hrest
  obtain ⟨hfirstEnds, hfirstRun⟩ := hx _ hends
  rw [List.append_assoc]
  refine ⟨hfirstEnds, ?_⟩
  rw [StateT.run_bind, hfirstRun]
  exact hsecondRun

end Completes

/-- A change of what is behind the tokens that a parser takes, and of where these stand. -/
structure Change where
  /-- The end of the input before the change. -/
  stop : Token
  /-- The end of the input after it. -/
  stop' : Token
  /-- The offsets after the change. -/
  move : Nat → Nat
  /-- Whether there is more room for nesting than before. -/
  deepens : Prop
  stop_eof : stop.kind = .eof
  stop'_eof : stop'.kind = .eof

namespace Change

variable {c : Change} {ts us used rest rest' : List Token}

/-- The tokens after the change. -/
def moved (c : Change) (ts : List Token) : List Token :=
  ts.map (Token.relocate c.move)

/-- After the change the same token is seen first. -/
def SameFront (c : Change) (ts us : List Token) : Prop :=
  front c.stop' us = (front c.stop ts).relocate c.move

/-- What comes behind an expression after the change: the same token, or one that ends every expression. -/
def Follows (c : Change) (rest rest' : List Token) : Prop :=
  c.SameFront rest rest' ∨ Level.Ends .conditional (front c.stop' rest')

/-- The tokens at the front have the same kind. -/
lemma SameFront.kind (h : c.SameFront ts us) : (front c.stop' us).kind = (front c.stop ts).kind := by
  rw [SameFront] at h
  rw [h]
  rfl

/-- The tokens at the front have the same text. -/
lemma SameFront.text (h : c.SameFront ts us) : (front c.stop' us).text = (front c.stop ts).text := by
  rw [SameFront] at h
  rw [h]
  rfl

/-- The tokens at the front are the same words. -/
lemma SameFront.isWord (h : c.SameFront ts us) (word : String) :
    (front c.stop' us).isWord word = (front c.stop ts).isWord word := by
  rw [SameFront] at h
  rw [h]
  rfl

/-- The tokens at the front are the same operators. -/
lemma SameFront.isOperator (h : c.SameFront ts us) (op : String) :
    (front c.stop' us).isOperator op = (front c.stop ts).isOperator op := by
  rw [SameFront] at h
  rw [h]
  rfl

/-- Tokens that are taken hide what is behind them. -/
lemma sameFront_append (h : used ≠ []) (rest rest' : List Token) :
    c.SameFront (used ++ rest) (c.moved used ++ rest') := by
  cases used with
  | nil => exact absurd rfl h
  | cons t used => rfl

end Change

/-- A run of `x` on the tokens, and runs of `y` on those that it takes, which are at least `least`, after a
change of what is behind them. -/
inductive LocalAt (c : Change) (least : Nat) (x y : Parser α) (ts : List Token) : Prop
  | ok {a : α} {used rest : List Token} : ts = used ++ rest → least ≤ used.length → x.run ts = .ok (a, rest) →
    (∀ rest', c.Follows rest rest' → y.run (c.moved used ++ rest') = .ok (a, rest')) → LocalAt c least x y ts
  | error {used rest : List Token} {fault : SyntaxFault} : ts = used ++ rest → (∀ limit, fault ≠ .tooDeep limit) →
    x.run ts = .error (errorAt (front c.stop rest) fault) →
    (∀ rest', c.SameFront rest rest' → y.run (c.moved used ++ rest') = .error (errorAt (front c.stop' rest') fault)) →
    (c.deepens → used ≠ [] → ∃ more b, (∀ t ∈ more, t.kind ≠ .eof) ∧
      ∀ rest', Level.Ends .conditional (front c.stop' rest') →
        y.run (c.moved used ++ (more ++ rest')) = .ok (b, rest')) →
    LocalAt c least x y ts
  | refused {err : Error} {limit : Nat} : x.run ts = .error err → err.TooDeep limit → LocalAt c least x y ts

/-- The runs of two parsers are local on all tokens, and the second has a way to succeed. -/
structure Local (c : Change) (least : Nat) (x y : Parser α) : Prop where
  run : ∀ ts, LocalAt c least x y ts
  completes : c.deepens → Completes c.stop' y

variable {c : Change} {least : Nat} {t : Token} {ts us : List Token} {x y x' y' : Parser α} {a : α}

namespace LocalAt

/-- To take something is more than is asked. -/
lemma mono (h : LocalAt c least x y ts) : LocalAt c 0 x y ts := by
  cases h with
  | ok hts _ hx hy => exact .ok hts (Nat.zero_le _) hx hy
  | error hts hfault hx hy hmore => exact .error hts hfault hx hy hmore
  | refused hx herr => exact .refused hx herr

/-- A result without reading is local. -/
lemma pure (a : α) : LocalAt c 0 (Pure.pure a) (Pure.pure a) ts :=
  .ok (List.nil_append ts).symm (Nat.zero_le _) rfl fun _ _ => rfl

/-- A parser that is done takes nothing, whatever ends its expression. -/
lemma stay (hx : x.run ts = .ok (a, ts)) (hy : ∀ us, c.Follows ts us → y.run us = .ok (a, us)) : LocalAt c 0 x y ts :=
  .ok (List.nil_append ts).symm (Nat.zero_le _) hx hy

/-- A parser fails at the token that it sees first. -/
lemma fail {fault : SyntaxFault} (hx : x.run ts = .error (errorAt (front c.stop ts) fault))
    (hy : ∀ us, c.SameFront ts us → y.run us = .error (errorAt (front c.stop' us) fault))
    (hfault : ∀ limit, fault ≠ .tooDeep limit) : LocalAt c least x y ts :=
  .error (List.nil_append ts).symm hfault hx hy fun _ hused => absurd rfl hused

/-- Parsers that take a token are known by what they do on the token that they see first. -/
lemma of_front (h : LocalAt c 1 x y ts) (hx : x'.run ts = x.run ts)
    (hy : ∀ us, c.SameFront ts us → y'.run us = y.run us) :
    LocalAt c 1 x' y' ts := by
  cases h with
  | @ok a used rest hts hleast hx' hy' =>
    subst hts
    have hused : used ≠ [] := List.ne_nil_of_length_pos hleast
    exact .ok rfl hleast (hx.trans hx') fun rest' hrest =>
      (hy _ (Change.sameFront_append hused rest rest')).trans (hy' rest' hrest)
  | @error used rest fault hts hfault hx' hy' hmore =>
    subst hts
    refine .error rfl hfault (hx.trans hx') (fun rest' hrest => ?_) fun hdeepens hused => ?_
    · refine (hy _ ?_).trans (hy' rest' hrest)
      cases used with
      | nil => exact hrest
      | cons => rfl
    · obtain ⟨more, b, hfree, hok⟩ := hmore hdeepens hused
      exact ⟨more, b, hfree, fun rest' hrest =>
        (hy _ (Change.sameFront_append hused rest _)).trans (hok rest' hrest)⟩
  | refused hx' herr => exact .refused (hx.trans hx') herr

/-- Parsers that take some tokens go on as others do behind them. -/
lemma prepend {taken : List Token} (htaken : taken ≠ []) (hx : x.run (taken ++ ts) = x'.run ts)
    (hy : ∀ us, y.run (c.moved taken ++ us) = y'.run us) (h : LocalAt c 0 x' y' ts)
    (hy' : c.deepens → Completes c.stop' y') : LocalAt c 1 x y (taken ++ ts) := by
  have onward (used us : List Token) : y.run (c.moved (taken ++ used) ++ us) = y'.run (c.moved used ++ us) := by
    rw [Change.moved, List.map_append, List.append_assoc]
    exact hy _
  cases h with
  | @ok a used rest hts _ hx' hy' =>
    subst hts
    refine .ok (List.append_assoc ..).symm ?_ (hx.trans hx')
      fun rest' hrest => (onward used rest').trans (hy' rest' hrest)
    rw [List.length_append]
    exact Nat.le_add_right_of_le (List.length_pos_of_ne_nil htaken)
  | @error used rest fault hts hfault hx' hy'' hmore =>
    subst hts
    refine .error (List.append_assoc ..).symm hfault (hx.trans hx') (fun rest' hrest =>
      (onward used rest').trans (hy'' rest' hrest)) fun hdeepens _ => ?_
    cases used with
    | nil =>
      obtain ⟨more, b, hfree, hok⟩ := hy' hdeepens
      exact ⟨more, b, hfree, fun rest' hrest => (onward [] _).trans (hok rest' hrest).2⟩
    | cons t used =>
      obtain ⟨more, b, hfree, hok⟩ := hmore hdeepens (List.cons_ne_nil t used)
      exact ⟨more, b, hfree, fun rest' hrest => (onward _ _).trans (hok rest' hrest)⟩
  | refused hx' herr => exact .refused (hx.trans hx') herr

/-- A token that is taken is the same on both sides but for its place. -/
lemma cons (hx : x.run (t :: ts) = x'.run ts) (hy : ∀ us, y.run (t.relocate c.move :: us) = y'.run us)
    (h : LocalAt c 0 x' y' ts) (hy' : c.deepens → Completes c.stop' y') : LocalAt c 1 x y (t :: ts) :=
  prepend (List.cons_ne_nil t []) hx hy h hy'

/-- Sequences are local where their steps are, the later one behind what the first has taken. -/
lemma bind {f g : α → Parser β} (h : LocalAt c least x y ts)
    (hf : ∀ a used rest, ts = used ++ rest → LocalAt c 0 (f a) (g a) rest)
    (hg : c.deepens → ∀ a, Completes c.stop' (g a)) : LocalAt c least (x >>= f) (y >>= g) ts := by
  have failed {z : Parser α} {k : α → Parser β} {err : Error} {us : List Token} (hz : z.run us = .error err) :
      (z >>= k).run us = .error err := by
    rw [StateT.run_bind, hz]
    rfl
  have onward {z : Parser α} {k : α → Parser β} {us mid : List Token} {a : α} (hz : z.run us = .ok (a, mid)) :
      (z >>= k).run us = (k a).run mid := by
    rw [StateT.run_bind, hz]
    rfl
  cases h with
  | @ok a used mid hts hleast hx hy =>
    -- What the second step takes is behind the first, or else what is behind the second is.
    have step {second us rest' : List Token} (hmid : mid = second ++ us) (hrest : c.Follows us rest') :
        c.Follows mid (c.moved second ++ rest') := by
      subst hmid
      cases second with
      | nil => exact hrest
      | cons => exact .inl rfl
    have both (second rest' : List Token) (hfollows : c.Follows mid (c.moved second ++ rest')) :
        (y >>= g).run (c.moved (used ++ second) ++ rest') = (g a).run (c.moved second ++ rest') := by
      rw [Change.moved, List.map_append, List.append_assoc]
      exact onward (hy _ hfollows)
    cases hf a used mid hts with
    | @ok b second rest hmid _ hfa hga =>
      have hall : ts = (used ++ second) ++ rest := by rw [hts, hmid, List.append_assoc]
      refine .ok hall ?_ ((onward hx).trans hfa) fun rest' hrest => ?_
      · rw [List.length_append]
        exact Nat.le_add_right_of_le hleast
      · exact (both second rest' (step hmid hrest)).trans (hga rest' hrest)
    | @error second rest fault hmid hfault hfa hga hmore =>
      have hall : ts = (used ++ second) ++ rest := by rw [hts, hmid, List.append_assoc]
      refine .error hall hfault ((onward hx).trans hfa) (fun rest' hrest => ?_) fun hdeepens _ => ?_
      · exact (both second rest' (step hmid (.inl hrest))).trans (hga rest' hrest)
      · cases second with
        | nil =>
          obtain ⟨more, b, hfree, hok⟩ := hg hdeepens a
          refine ⟨more, b, hfree, fun rest' hrest => ?_⟩
          obtain ⟨hends, hrun⟩ := hok rest' hrest
          rw [List.append_nil]
          exact (onward (hy _ (.inr hends))).trans hrun
        | cons t second =>
          obtain ⟨more, b, hfree, hok⟩ := hmore hdeepens (List.cons_ne_nil t second)
          refine ⟨more, b, hfree, fun rest' hrest => ?_⟩
          have hfollows : c.Follows mid (c.moved (t :: second) ++ (more ++ rest')) := by
            rw [hmid]
            exact .inl rfl
          exact (both (t :: second) _ hfollows).trans (hok rest' hrest)
    | refused hfa herr => exact .refused ((onward hx).trans hfa) herr
  | @error used rest fault hts hfault hx hy hmore =>
    refine .error hts hfault (failed hx) (fun rest' hrest => failed (hy rest' hrest)) fun hdeepens hused => ?_
    obtain ⟨first, a, hfirst, hok⟩ := hmore hdeepens hused
    obtain ⟨second, b, hsecond, hrun⟩ := hg hdeepens a
    refine ⟨first ++ second, b, List.forall_mem_append.2 ⟨hfirst, hsecond⟩, fun rest' hrest => ?_⟩
    obtain ⟨hends, hrun⟩ := hrun rest' hrest
    rw [List.append_assoc]
    exact (onward (hok _ hends)).trans hrun
  | refused hx herr => exact .refused (failed hx) herr

end LocalAt

namespace Local

/-- To take something everywhere is more than is asked. -/
lemma mono (h : Local c least x y) : Local c 0 x y :=
  ⟨fun ts => (h.run ts).mono, h.completes⟩

/-- A result without reading is local everywhere. -/
lemma pure (a : α) : Local c 0 (Pure.pure a) (Pure.pure a) :=
  ⟨fun _ => .pure a, fun _ => .pure a⟩

/-- A sequence is local if its steps are. -/
lemma bind {f g : α → Parser β} (h : Local c least x y) (hf : ∀ a, Local c 0 (f a) (g a)) :
    Local c least (x >>= f) (y >>= g) where
  run ts := (h.run ts).bind (fun a _ rest _ => (hf a).run rest) fun hdeepens a => (hf a).completes hdeepens
  completes hdeepens := (h.completes hdeepens).bind fun a => (hf a).completes hdeepens

end Local

end Parser

end EventRules
