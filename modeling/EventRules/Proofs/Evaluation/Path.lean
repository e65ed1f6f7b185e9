import EventRules.Proofs.Decimal.Numeral
import EventRules.Proofs.Run
import EventRules.Proofs.Token.Accessor
import EventRules.Proofs.Value.Order
import Mathlib.Data.List.TakeWhile

/-!
# Walks along paths

A name that has no value of its own is taken for a path: a base name and steps, written as names after dots, as
indices in brackets and as keys between quotes in brackets (`Path.Step`, `Path.written`). Its value is what the steps
lead to from the value of the base name, through maps and lists, and null where one of them leads nowhere
(`Path.walk`). A dot outside brackets with no name after it, or a mark at the start, makes the name no path.

A key in brackets is cut one byte before the bracket that closes it, where the second quote should stand. Another
character may stand there, and if it takes more than a byte, the reading breaks off (`Path.Breaks`). So does the
look-up of any name without a value of its own in which a key like that is come to, be the name a path or none
(`Resolver.lookup_written`).
-/

namespace EventRules

namespace Path

/-- A step of a path as it is written. -/
inductive Step where
  | name (text : String)
  | index (digits : String)
  | key (quote : Char) (text : String)
  deriving DecidableEq, Repr

namespace Step

/-- The text of a step, with its mark. -/
def text : Step → String
  | name text => "." ++ text
  | index digits => "[" ++ digits ++ "]"
  | key quote text => "[" ++ String.singleton quote ++ text ++ String.singleton quote ++ "]"

/-- Names are not empty and have neither dots nor opening brackets in them, indices are below 2^64, and keys have no
closing bracket in them. -/
def WellFormed : Step → Prop
  | name text => text ≠ "" ∧ ∀ c ∈ text.toList, !startsSegment c
  | index digits => digits ≠ "" ∧ (∀ c ∈ digits.toList, c.isDigit) ∧ Decimal.digitsValue digits.toList < Nat.pow 2 64
  | key quote text => (quote = '\'' ∨ quote = '"') ∧ ']' ∉ text.toList

/-- What the step leads to: at a map the entry with the name or key, or with the decimal of the index, and at a list
the item of the index. -/
def follow? : Step → Value → Option Value
  | name text, .map entries => Keyed.get? entries text
  | key _ text, .map entries => Keyed.get? entries text
  | index digits, .map entries => Keyed.get? entries (toString (Decimal.digitsValue digits.toList))
  | index digits, .list items => items[Decimal.digitsValue digits.toList]?
  | _, _ => none

/-- The segment that the step is read as. -/
def segment : Step → Segment
  | name text => .key text
  | index digits => .index (Decimal.digitsValue digits.toList)
  | key _ text => .key text

end Step

/-- A base name with steps behind it. -/
def written (base : String) (steps : List Step) : String :=
  steps.foldl (fun text s => text ++ s.text) base

/-- What the steps lead to from a value; the walk ends with null at the first that leads nowhere. -/
def walk : Value → List Step → Value
  | v, [] => v
  | v, s :: steps =>
    match s.follow? v with
    | some w => walk w steps
    | none => .null

/-- Text in which every bracket that opens is closed, by the first closing one behind it. -/
inductive Outside : List Char → Prop
  | nil : Outside []
  | char {c : Char} {cs : List Char} : c ≠ '[' → Outside cs → Outside (c :: cs)
  | bracket {inner cs : List Char} : ']' ∉ inner → Outside cs → Outside ('[' :: (inner ++ ']' :: cs))

/-- Outside brackets there is a dot with no name after it. -/
def LacksName (name : String) : Prop :=
  ∃ before after, name.toList = before ++ '.' :: after ∧ Outside before ∧ ∀ c ∈ after.head?, startsSegment c

/-- A quoted key in brackets with more than one byte where its second quote should stand. -/
def Broken (inner : List Char) : Prop :=
  ∃ quote cs last, (quote = '\'' ∨ quote = '"') ∧ inner = quote :: (cs ++ [last]) ∧ last.utf8Size ≠ 1

/-- In a text that begins with a mark, a broken key comes behind segments that can be read. -/
inductive BreaksAt : List Char → (inner : String) → Prop
  | here {inner more : List Char} : ']' ∉ inner → Broken inner →
      BreaksAt ('[' :: (inner ++ ']' :: more)) (String.ofList inner)
  | name {cs more : List Char} {key : String} : cs ≠ [] → (∀ c ∈ cs, !startsSegment c) → BreaksAt more key →
      BreaksAt ('.' :: (cs ++ more)) key
  | bracket {inner more : List Char} {segment : Segment} {key : String} : ']' ∉ inner →
      Segment.ofBracket inner = .ok segment → BreaksAt more key → BreaksAt ('[' :: (inner ++ ']' :: more)) key

/-- From the first mark of the name on, a broken key comes behind segments that can be read. -/
def Breaks (name inner : String) : Prop :=
  BreaksAt (name.toList.drop (name.toList.takeWhile (!startsSegment ·)).length) inner

variable {base name key : String} {steps : List Step} {s : Step} {v : Value}
  {cs before after more inner : List Char} {quote last : Char} {fuel : Nat} {path : Path}

/-- The text of a path, character by character. -/
lemma toList_written (base : String) (steps : List Step) :
    (written base steps).toList = base.toList ++ steps.flatMap (·.text.toList) := by
  induction steps generalizing base with
  | nil => simp [written]
  | cons s steps ih =>
    have hstep := ih (base ++ s.text)
    rw [String.toList_append, List.append_assoc] at hstep
    exact hstep

/-! ## Steps as segments -/

/-- A name goes up to the next mark, or to the end of the text. -/
lemma segmentsOf_name (hne : cs ≠ []) (hcs : ∀ c ∈ cs, !startsSegment c) (hmore : ∀ c ∈ more.head?, startsSegment c) :
    segmentsOf (fuel + 1) ('.' :: (cs ++ more)) = (segmentsOf fuel more).map (.key (String.ofList cs) :: ·) := by
  have htake : (cs ++ more).takeWhile (!startsSegment ·) = cs :=
    takeWhile_head? hcs fun c hc => by simp [hmore c hc]
  rw [segmentsOf, htake, List.isEmpty_eq_false_iff.2 hne, List.drop_left]
  rfl

/-- A bracket is read up to the first closing one. -/
lemma segmentsOf_bracket (hinner : ']' ∉ inner) (fuel : Nat) :
    segmentsOf (fuel + 1) ('[' :: (inner ++ ']' :: more)) =
      Segment.ofBracket inner >>= fun segment => (segmentsOf fuel more).map (segment :: ·) := by
  have htake : (inner ++ ']' :: more).takeWhile (· ≠ ']') = inner :=
    takeWhile_stop (fun c hc => decide_eq_true fun h => hinner (h ▸ hc)) rfl
  have hdrop : (inner ++ ']' :: more).drop (inner.length + 1) = more := by
    rw [← List.drop_drop, List.drop_left, List.drop_one, List.tail_cons]
  rw [segmentsOf, htake, if_neg (by simp), hdrop]
  refine bind_congr fun segment => ?_
  cases segmentsOf fuel more <;> rfl

/-- A bracket that is read goes before the segments behind it. -/
lemma segmentsOf_segment {segment : Segment} (hinner : ']' ∉ inner) (h : Segment.ofBracket inner = .ok segment) :
    segmentsOf (fuel + 1) ('[' :: (inner ++ ']' :: more)) = (segmentsOf fuel more).map (segment :: ·) := by
  rw [segmentsOf_bracket hinner, h]
  rfl

/-- Digits in brackets are an index. -/
lemma ofBracket_digits (hne : cs ≠ []) (hcs : ∀ c ∈ cs, c.isDigit) (hbound : Decimal.digitsValue cs < Nat.pow 2 64) :
    Segment.ofBracket cs = .ok (.index (Decimal.digitsValue cs)) := by
  have hindex : Segment.ofIndex cs = .ok (.index (Decimal.digitsValue cs)) := by
    rw [Segment.ofIndex, Decimal.readNatBelow?_digits hne hcs hbound]
  unfold Segment.ofBracket
  split
  next first second rest =>
    have hquote : ¬ (first = '\'' ∨ first = '"') := by
      have hdigit := hcs first List.mem_cons_self
      rintro (rfl | rfl) <;> cases hdigit
    rw [if_neg hquote, hindex]
  next => exact hindex

/-- Behind the quote a key goes up to the last character, whatever that is, as long as it takes one byte. -/
lemma ofBracket_quoted (hquote : quote = '\'' ∨ quote = '"') (cs : List Char) (last : Char) :
    Segment.ofBracket (quote :: (cs ++ [last])) =
      if last.utf8Size = 1 then .ok (.key (String.ofList cs))
      else .error (.brokenKey (String.ofList (quote :: (cs ++ [last])))) := by
  cases cs with
  | nil =>
    rw [List.nil_append, Segment.ofBracket, if_pos hquote]
    rfl
  | cons c cs =>
    rw [List.cons_append, Segment.ofBracket, if_pos hquote]
    simp only [← List.cons_append, List.getLast_concat, List.dropLast_concat]

/-- Between brackets and quotes of either kind stands a key. -/
lemma ofBracket_quotes (hquote : quote = '\'' ∨ quote = '"') (cs : List Char) :
    Segment.ofBracket (quote :: (cs ++ [quote])) = .ok (.key (String.ofList cs)) := by
  rw [ofBracket_quoted hquote, if_pos]
  obtain rfl | rfl := hquote <;> rfl

/-- A step begins with a mark. -/
lemma Step.exists_mark (s : Step) : ∃ c cs, s.text.toList = c :: cs ∧ startsSegment c := by
  cases s with
  | name text => exact ⟨'.', text.toList, by simp [Step.text], rfl⟩
  | index digits => exact ⟨'[', digits.toList ++ [']'], by simp [Step.text], rfl⟩
  | key quote text => exact ⟨'[', quote :: (text.toList ++ [quote, ']']), by simp [Step.text], rfl⟩

/-- Whatever comes behind a step begins with a mark, if anything comes. -/
lemma startsSegment_of_steps : ∀ c ∈ (steps.flatMap (·.text.toList)).head?, startsSegment c := by
  cases steps with
  | nil => nofun
  | cons s steps =>
    obtain ⟨d, cs, htext, hd⟩ := s.exists_mark
    rintro c hc
    rw [List.flatMap_cons, htext] at hc
    cases hc
    exact hd

/-- A well-formed step is read as its segment, whatever steps follow it. -/
lemma segmentsOf_step (h : s.WellFormed) (hmore : ∀ c ∈ more.head?, startsSegment c) :
    segmentsOf (fuel + 1) (s.text.toList ++ more) = (segmentsOf fuel more).map (s.segment :: ·) := by
  cases s with
  | name text =>
    obtain ⟨hne, htext⟩ := h
    have hread : segmentsOf (fuel + 1) ('.' :: (text.toList ++ more)) = _ :=
      segmentsOf_name (mt String.toList_eq_nil_iff.1 hne) htext hmore
    rw [String.ofList_toList] at hread
    simpa [Step.text, Step.segment] using hread
  | index digits =>
    obtain ⟨hne, hdigits, hbound⟩ := h
    have hclosing : ']' ∉ digits.toList := fun hmem => by cases hdigits ']' hmem
    have hread : segmentsOf (fuel + 1) ('[' :: (digits.toList ++ ']' :: more)) = _ :=
      segmentsOf_segment hclosing (ofBracket_digits (mt String.toList_eq_nil_iff.1 hne) hdigits hbound)
    simpa [Step.text, Step.segment] using hread
  | key quote text =>
    obtain ⟨hquote, htext⟩ := h
    have hclosing : ']' ∉ quote :: (text.toList ++ [quote]) := by
      obtain rfl | rfl := hquote <;> simp [htext]
    have hread : segmentsOf (fuel + 1) ('[' :: (quote :: (text.toList ++ [quote]) ++ ']' :: more)) = _ :=
      segmentsOf_segment hclosing (ofBracket_quotes hquote _)
    rw [String.ofList_toList] at hread
    simpa [Step.text, Step.segment] using hread

/-- Steps are read as their segments, one for each. -/
lemma segmentsOf_steps (h : ∀ s ∈ steps, s.WellFormed) (hfuel : steps.length ≤ fuel) :
    segmentsOf fuel (steps.flatMap (·.text.toList)) = .ok (steps.map Step.segment) := by
  induction steps generalizing fuel with
  | nil => cases fuel <;> rfl
  | cons s steps ih =>
    obtain ⟨fuel, rfl⟩ := Nat.exists_eq_add_of_le' (Nat.le_trans (Nat.succ_pos steps.length) hfuel)
    rw [List.flatMap_cons, segmentsOf_step (h s List.mem_cons_self) startsSegment_of_steps,
      ih (fun t ht => h t (List.mem_cons_of_mem _ ht)) (Nat.le_of_succ_le_succ hfuel)]
    rfl

/-- Every step takes a character. -/
lemma length_le_steps (steps : List Step) : steps.length ≤ (steps.flatMap (·.text.toList)).length := by
  induction steps with
  | nil => exact Nat.le_refl _
  | cons s steps ih =>
    obtain ⟨c, cs, htext, -⟩ := s.exists_mark
    simp only [List.flatMap_cons, htext, List.length_append, List.length_cons]
    omega

/-- A base name with well-formed steps is the path of their segments. -/
lemma ofName_written (hne : base ≠ "") (hbase : ∀ c ∈ base.toList, !startsSegment c)
    (h : ∀ s ∈ steps, s.WellFormed) :
    ofName (written base steps) = .ok ⟨base, steps.map Step.segment⟩ := by
  have htake : (written base steps).toList.takeWhile (!startsSegment ·) = base.toList := by
    rw [toList_written]
    exact takeWhile_head? hbase fun c hc => by simp [startsSegment_of_steps c hc]
  have hfuel : steps.length ≤ (written base steps).toList.length := by
    have hlength := length_le_steps steps
    rw [toList_written, List.length_append]
    omega
  have hbase : base.toList.isEmpty = false := List.isEmpty_eq_false_iff.2 (mt String.toList_eq_nil_iff.1 hne)
  have hread := segmentsOf_steps h hfuel
  simp only [ofName, htake]
  rw [show (written base steps).toList.drop base.toList.length = steps.flatMap (·.text.toList) by
    rw [toList_written, List.drop_left], hread, hbase, String.ofList_toList]
  rfl

/-- To take the step of a segment is to follow the step. -/
lemma step_segment (v : Value) (s : Step) : Segment.step v s.segment = (s.follow? v).getD .null := by
  cases s <;> cases v <;> rfl

/-- Nothing leads on from null. -/
lemma foldl_step_null (segments : List Segment) : segments.foldl Segment.step .null = .null := by
  induction segments with
  | nil => rfl
  | cons segment segments ih => exact ih

/-- Null leads nowhere, so the segments of the steps lead to the end of the walk. -/
lemma foldl_segments (v : Value) (steps : List Step) :
    (steps.map Step.segment).foldl Segment.step v = walk v steps := by
  induction steps generalizing v with
  | nil => rfl
  | cons s steps ih =>
    rw [List.map_cons, List.foldl_cons, step_segment, walk]
    cases s.follow? v with
    | none => exact foldl_step_null _
    | some w => exact ih w

/-! ## Names that are no paths -/

/-- A character before the first mark can be left out. -/
lemma Outside.of_cons {c : Char} (h : Outside (c :: cs)) (hc : !startsSegment c) : Outside cs := by
  generalize hall : c :: cs = all at h
  cases h with
  | nil => cases hall
  | char _ h =>
    cases hall
    exact h
  | bracket =>
    cases hall
    cases hc

/-- All characters before the first mark can be left out. -/
lemma Outside.of_append (h : Outside (cs ++ more)) (hcs : ∀ c ∈ cs, !startsSegment c) : Outside more := by
  induction cs with
  | nil => exact h
  | cons c cs ih =>
    exact ih (h.of_cons (hcs c List.mem_cons_self)) fun d hd => hcs d (List.mem_cons_of_mem _ hd)

/-- From the first mark on, the dot without a name still comes behind closed brackets. -/
lemma Outside.exists_drop (h : Outside before) (after : List Char) :
    ∃ left, Outside left ∧ (before ++ '.' :: after).drop
      ((before ++ '.' :: after).takeWhile (!startsSegment ·)).length = left ++ '.' :: after := by
  have hplain : ∀ c ∈ before.takeWhile (!startsSegment ·), !startsSegment c := fun c hc =>
    List.mem_takeWhile_imp (p := (!startsSegment ·)) hc
  have hsplit : before.takeWhile (!startsSegment ·) ++ before.dropWhile (!startsSegment ·) = before :=
    List.takeWhile_append_dropWhile
  have hmark : ∀ c ∈ (before.dropWhile (!startsSegment ·) ++ '.' :: after).head?, startsSegment c := by
    intro c hc
    have hhead := List.head?_dropWhile_not (!startsSegment ·) before
    cases hrest : before.dropWhile (!startsSegment ·) with
    | nil =>
      rw [hrest] at hc
      cases hc
      rfl
    | cons d rest =>
      rw [hrest] at hc hhead
      cases hc
      simpa using hhead
  have hall : before ++ '.' :: after =
      before.takeWhile (!startsSegment ·) ++ (before.dropWhile (!startsSegment ·) ++ '.' :: after) := by
    rw [← List.append_assoc, hsplit]
  have htake : (before ++ '.' :: after).takeWhile (!startsSegment ·) = before.takeWhile (!startsSegment ·) := by
    rw [hall]
    exact takeWhile_head? hplain fun c hc => by simp [hmark c hc]
  refine ⟨before.dropWhile (!startsSegment ·), (hsplit.symm ▸ h).of_append hplain, ?_⟩
  rw [htake, hall, List.drop_left]

/-- No segments are read across a dot without a name. -/
lemma segmentsOf_gap (h : Outside before) (hafter : ∀ c ∈ after.head?, startsSegment c) (fuel : Nat)
    (segments : List Segment) : segmentsOf fuel (before ++ '.' :: after) ≠ .ok segments := by
  induction fuel generalizing before segments with
  | zero => cases before <;> nofun
  | succ fuel ih =>
    cases h with
    | nil =>
      have htake : ([] ++ after).takeWhile (!startsSegment ·) = [] :=
        takeWhile_head? (by simp) fun c hc => by simp [hafter c hc]
      rw [List.nil_append] at htake
      rw [List.nil_append, segmentsOf, htake]
      nofun
    | @char c before hc h =>
      by_cases hdot : c = '.'
      · subst hdot
        -- If the name behind this dot is there, the dot without one still comes behind it.
        obtain ⟨left, hleft, hdrop⟩ := h.exists_drop after
        rw [List.cons_append, segmentsOf, hdrop]
        split
        · nofun
        · intro hread
          obtain ⟨more, hmore, -⟩ := map_eq_ok.1 hread
          exact ih hleft more hmore
      · rw [List.cons_append, segmentsOf]
        · nofun
        · exact Nat.succ_ne_zero _
        · exact List.cons_ne_nil _ _
        · exact fun _ _ _ h => hdot (List.cons.inj h).1
        · exact fun _ _ _ h => hc (List.cons.inj h).1
    | @bracket inner before hinner h =>
      rw [List.cons_append, List.append_assoc, List.cons_append, segmentsOf_bracket hinner]
      intro hread
      obtain ⟨segment, -, hrest⟩ := bind_eq_ok.1 hread
      obtain ⟨more, hmore, -⟩ := map_eq_ok.1 hrest
      exact ih h more hmore

/-- The segments of a path are those behind its base name, which is not empty. -/
lemma of_ofName (h : ofName name = .ok path) :
    segmentsOf name.toList.length (name.toList.drop (name.toList.takeWhile (!startsSegment ·)).length) =
        .ok path.segments ∧
      name.toList.takeWhile (!startsSegment ·) ≠ [] := by
  simp only [ofName] at h
  split at h
  next segments hread =>
    split at h
    · cases h
    · next hbase =>
      cases h
      exact ⟨hread, mt List.isEmpty_iff.2 hbase⟩
  next => cases h

/-- A name with a dot that no name follows is no path. -/
lemma ofName_lacksName (h : LacksName name) (path : Path) : ofName name ≠ .ok path := by
  intro hpath
  obtain ⟨before, after, hname, houtside, hafter⟩ := h
  obtain ⟨left, hleft, hdrop⟩ := houtside.exists_drop after
  have hread := (of_ofName hpath).1
  rw [hname, hdrop] at hread
  exact segmentsOf_gap hleft hafter _ _ hread

/-- A mark at the start leaves no base name. -/
lemma ofName_mark (h : name.toList.head?.any startsSegment) (path : Path) : ofName name ≠ .ok path := by
  intro hpath
  refine (of_ofName hpath).2 ?_
  cases hname : name.toList with
  | nil => rfl
  | cons c cs =>
    rw [hname] at h
    rw [List.takeWhile_cons_of_neg (by simpa using h)]

/-! ## Broken keys -/

/-- A pair of brackets breaks the reading off for no other reason than a broken key in it. -/
lemma ofBracket_eq_broken : Segment.ofBracket inner = .error (.brokenKey key) ↔
    Path.Broken inner ∧ key = String.ofList inner := by
  have hindex (cs : List Char) : Segment.ofIndex cs ≠ .error (.brokenKey key) := by
    unfold Segment.ofIndex
    split <;> nofun
  constructor
  · intro h
    unfold Segment.ofBracket at h
    split at h
    next first second rest =>
      split at h
      next hquote =>
        split at h
        · cases h
        next hlast =>
          cases h
          refine ⟨⟨first, (second :: rest).dropLast, _, hquote, ?_, hlast⟩, rfl⟩
          rw [List.dropLast_concat_getLast]
      next => exact absurd h (hindex _)
    next => exact absurd h (hindex _)
  · rintro ⟨⟨quote, cs, last, hquote, rfl, hlast⟩, rfl⟩
    rw [ofBracket_quoted hquote, if_neg hlast]

/-- A text that breaks begins with a mark. -/
lemma BreaksAt.mark (h : BreaksAt cs key) : ∀ c ∈ cs.head?, startsSegment c := by
  cases h with
  | here => simp [startsSegment]
  | name => simp [startsSegment]
  | bracket => simp [startsSegment]

/-- The segments before a broken key are read, and then the reading breaks off. -/
lemma BreaksAt.segmentsOf_eq (h : BreaksAt cs key) (hfuel : cs.length ≤ fuel) :
    segmentsOf fuel cs = .error (.brokenKey key) := by
  induction h generalizing fuel with
  | here hinner hbroken =>
    obtain ⟨fuel, rfl⟩ := Nat.exists_eq_add_of_le' (Nat.le_trans (Nat.succ_pos _) hfuel)
    rw [segmentsOf_bracket hinner, ofBracket_eq_broken.2 ⟨hbroken, rfl⟩]
    rfl
  | name hne hcs hmore ih =>
    obtain ⟨fuel, rfl⟩ := Nat.exists_eq_add_of_le' (Nat.le_trans (Nat.succ_pos _) hfuel)
    simp only [List.length_cons, List.length_append] at hfuel
    rw [segmentsOf_name hne hcs hmore.mark, ih (by omega)]
    rfl
  | bracket hinner hsegment _ ih =>
    obtain ⟨fuel, rfl⟩ := Nat.exists_eq_add_of_le' (Nat.le_trans (Nat.succ_pos _) hfuel)
    simp only [List.length_cons, List.length_append] at hfuel
    rw [segmentsOf_segment hinner hsegment, ih (by omega)]
    rfl

/-- Where the reading breaks off, there is a broken key behind the segments that were read. -/
lemma breaksAt_of_segmentsOf (h : segmentsOf fuel cs = .error (.brokenKey key)) : BreaksAt cs key := by
  induction fuel generalizing cs with
  | zero => cases cs <;> cases h
  | succ fuel ih =>
    have hread := h
    unfold segmentsOf at h
    split at h
    · cases h
    · cases h
    next rest heq =>
      cases heq
      dsimp only at h
      split at h
      · cases h
      next hname =>
        have htext : rest.takeWhile (!startsSegment ·) ++ rest.drop (rest.takeWhile (!startsSegment ·)).length = rest :=
          List.prefix_iff_eq_append.1 (List.takeWhile_prefix _)
        have hplain : ∀ c ∈ rest.takeWhile (!startsSegment ·), !startsSegment c := fun c hc =>
          List.mem_takeWhile_imp (p := (!startsSegment ·)) hc
        rw [← htext]
        exact .name (mt List.isEmpty_iff.2 hname) hplain (ih (map_eq_error.1 h))
    next rest heq =>
      cases heq
      by_cases hclosing : ']' ∈ rest
      · obtain ⟨inner, more, rfl, hinner⟩ := List.eq_append_cons_of_mem hclosing
        rw [segmentsOf_bracket hinner] at hread
        rcases bind_eq_error.1 hread with hcut | ⟨segment, hsegment, hmore⟩
        · obtain ⟨hbroken, rfl⟩ := ofBracket_eq_broken.1 hcut
          exact .here hinner hbroken
        · exact .bracket hinner hsegment (ih (map_eq_error.1 hmore))
      · -- The bracket is not closed, so that nothing in it is read.
        have htake : rest.takeWhile (· ≠ ']') = rest :=
          List.takeWhile_eq_self_iff.2 fun c hc => decide_eq_true fun h => hclosing (h ▸ hc)
        rw [htake, if_pos rfl] at h
        cases h
    next => cases h

/-- The reading of a name as a path breaks off at a key just if the name breaks there. -/
lemma ofName_eq_broken : ofName name = .error (.brokenKey key) ↔ Breaks name key := by
  have hread : ofName name = .error (.brokenKey key) ↔
      segmentsOf name.toList.length (name.toList.drop (name.toList.takeWhile (!startsSegment ·)).length) =
        .error (.brokenKey key) := by
    simp only [ofName]
    split
    next segments hsegments =>
      rw [hsegments]
      split <;> simp
    next fault hfault => rw [hfault]; simp
  rw [hread]
  exact ⟨breaksAt_of_segmentsOf, fun h => h.segmentsOf_eq (by simp)⟩

/-- A text that breaks has a character outside ASCII. -/
lemma BreaksAt.exists_wide (h : BreaksAt cs key) : ∃ c ∈ cs, c.utf8Size ≠ 1 := by
  induction h with
  | here _ hbroken =>
    obtain ⟨quote, cs, last, -, rfl, hlast⟩ := hbroken
    exact ⟨last, by simp, hlast⟩
  | name _ _ _ ih =>
    obtain ⟨c, hc, hwide⟩ := ih
    exact ⟨c, by simp [hc], hwide⟩
  | bracket _ _ _ ih =>
    obtain ⟨c, hc, hwide⟩ := ih
    exact ⟨c, by simp [hc], hwide⟩

/-- Only a name with a character outside of ASCII breaks. -/
lemma Breaks.exists_wide (h : Breaks name key) : ∃ c ∈ name.toList, c.utf8Size ≠ 1 := by
  obtain ⟨c, hc, hwide⟩ := BreaksAt.exists_wide h
  exact ⟨c, List.mem_of_mem_drop hc, hwide⟩

/-- A name of ASCII characters does not break. -/
lemma not_breaks_of_ascii (h : name.toList.all (·.utf8Size == 1)) (key : String) : ¬ Breaks name key := by
  intro hbreaks
  obtain ⟨c, hc, hwide⟩ := hbreaks.exists_wide
  exact hwide (eq_of_beq (List.all_eq_true.1 h c hc))

/-- A name that breaks has a mark in it. -/
lemma Breaks.mark (h : Breaks name key) : name.toList.any startsSegment := by
  unfold Breaks at h
  cases hrest : name.toList.drop (name.toList.takeWhile (!startsSegment ·)).length with
  | nil =>
    rw [hrest] at h
    cases h
  | cons c cs =>
    rw [hrest] at h
    have hc : c ∈ name.toList := List.mem_of_mem_drop (hrest ▸ List.mem_cons_self)
    exact List.any_eq_true.2 ⟨c, hc, h.mark c rfl⟩

end Path

namespace Resolver

variable {r : Resolver} {base name inner : String} {steps : List Path.Step} {path : Path}

/-- A value of the name itself comes first. -/
lemma lookup_direct (h : r name ≠ .null) : r.lookup name = .ok (r name) := by
  have hnull : (r name).isNull = false := by
    rw [Bool.eq_false_iff]
    exact fun hnull => h (Value.eq_null_of_isNull hnull)
  simp only [lookup, hnull, Bool.not_false, Bool.true_or, if_true]

/-- A name without a value of its own stands for what its path leads to. -/
lemma lookup_ofName (h : Path.ofName name = .ok path) (hdirect : r name = .null)
    (hname : name.toList.any Path.startsSegment) : r.lookup name = .ok (path.resolve r) := by
  simp only [lookup, hdirect, hname, h]
  rfl

/-- The look-up breaks off at a broken key, unless the name has a value of its own. -/
lemma lookup_broken (h : Path.Breaks name inner) (hdirect : r name = .null) :
    r.lookup name = .error (.brokenKey inner) := by
  simp only [lookup, hdirect, h.mark, Path.ofName_eq_broken.2 h]
  rfl

/-- A name that is no path has no value but its own. -/
lemma lookup_none (h : ∀ path, Path.ofName name ≠ .ok path) (hbroken : ∀ inner, ¬ Path.Breaks name inner)
    (hdirect : r name = .null) : r.lookup name = .ok .null := by
  rw [lookup, hdirect]
  split
  · rfl
  · cases hread : Path.ofName name with
    | ok path => exact absurd hread (h path)
    | error fault =>
      cases fault with
      | malformed => rfl
      | brokenKey inner => exact absurd (Path.ofName_eq_broken.1 hread) (hbroken inner)

/-- A look-up breaks off only at a broken key of a name without a value of its own. -/
lemma lookup_eq_error {p : Panic} :
    r.lookup name = .error p ↔ r name = .null ∧ ∃ inner, Path.Breaks name inner ∧ p = .brokenKey inner := by
  constructor
  · intro h
    have hdirect : r name = .null := by
      by_contra hne
      rw [lookup_direct hne] at h
      cases h
    rw [lookup] at h
    split at h
    · cases h
    · split at h
      · cases h
      · cases h
      next inner hread =>
        cases h
        exact ⟨hdirect, inner, Path.ofName_eq_broken.1 hread, rfl⟩
  · rintro ⟨hdirect, inner, hbreaks, rfl⟩
    exact lookup_broken hbreaks hdirect

/-- A path has the value to which its steps lead. -/
lemma lookup_steps (hne : base ≠ "") (hbase : ∀ c ∈ base.toList, !Path.startsSegment c)
    (h : ∀ s ∈ steps, s.WellFormed) (hdirect : r (Path.written base steps) = .null) :
    r.lookup (Path.written base steps) = .ok (Path.walk (r base) steps) := by
  rw [lookup, hdirect, Path.ofName_written hne hbase h]
  split
  next hplain =>
    -- Without a step there is no mark in the name, and the walk stays where it began.
    cases steps with
    | nil => exact congrArg Except.ok hdirect.symm
    | cons s steps =>
      obtain ⟨c, cs, htext, hc⟩ := s.exists_mark
      have hany : (Path.written base (s :: steps)).toList.any Path.startsSegment :=
        List.any_eq_true.2 ⟨c, by simp [Path.toList_written, htext], hc⟩
      rw [hany] at hplain
      cases hplain
  next => exact congrArg Except.ok (Path.foldl_segments _ _)

/-- A name stands for its own value if it has one. Otherwise it stands for what its steps lead to from the value of its
base name, if it is written as a path. And if a name is missing behind a dot outside brackets, or a mark is the first
character, it stands for null, unless a broken key is come to. The look-up of a name without a value of its own breaks
off at the broken keys, and at nothing else. -/
theorem lookup_written (r : Resolver) :
    (∀ name, r name ≠ .null → r.lookup name = .ok (r name)) ∧
    (∀ base steps, base ≠ "" → (∀ c ∈ base.toList, c ≠ '.' ∧ c ≠ '[') → (∀ s ∈ steps, Path.Step.WellFormed s) →
      r (Path.written base steps) = .null → r.lookup (Path.written base steps) = .ok (Path.walk (r base) steps)) ∧
    (∀ name, Path.LacksName name ∨ name.toList.head?.any Path.startsSegment →
      (∀ inner, ¬ Path.Breaks name inner) → r name = .null → r.lookup name = .ok .null) ∧
    ∀ name p, r.lookup name = .error p ↔
      r name = .null ∧ ∃ inner, Path.Breaks name inner ∧ p = .brokenKey inner := by
  refine ⟨fun name => lookup_direct, fun base steps hne hbase h => lookup_steps hne (fun c hc => ?_) h, ?_,
    fun name p => lookup_eq_error⟩
  · simp [Path.startsSegment, hbase c hc]
  · rintro name (hname | hname) hbroken
    · exact lookup_none (Path.ofName_lacksName hname) hbroken
    · exact lookup_none (Path.ofName_mark hname) hbroken

/-- At the map behind the key the index is a key itself, at the list it is a place, and a dot at the end is no step.
Behind a broken key, though, the dot is not come to. -/
theorem lookup_written_mixed :
    let items : Value := .list [.null, .map [("é.x", .bool true)]]
    let r : Resolver := ofEntries [("a b", .map [("k[", .map [("7", items)])]), ("s.t", .string "own")]
    let steps : List Path.Step := [.key '"' "k[", .index "007", .index "1", .key '\'' "é.x"]
    r "s.t" ≠ .null ∧ r.lookup "s.t" = .ok (.string "own") ∧
      ("a b" ≠ "" ∧ (∀ c ∈ "a b".toList, c ≠ '.' ∧ c ≠ '[') ∧ (∀ s ∈ steps, Path.Step.WellFormed s) ∧
        r (Path.written "a b" steps) = .null) ∧
      r.lookup "a b[\"k[\"][007][1]['é.x']" = .ok (.bool true) ∧
      (Path.LacksName "a b['k['].." ∧ (∀ inner, ¬ Path.Breaks "a b['k['].." inner) ∧ r "a b['k['].." = .null) ∧
      r.lookup "a b['k['].." = .ok .null := by
  intro items r steps
  obtain ⟨hdirect, hsteps, hgap, -⟩ := lookup_written r
  have hown : r "s.t" ≠ .null := nofun
  have hbase : ∀ c ∈ "a b".toList, c ≠ '.' ∧ c ≠ '[' := by simp
  have hwell : ∀ s ∈ steps, Path.Step.WellFormed s := by
    rw [List.forall_mem_cons, List.forall_mem_cons, List.forall_mem_cons, List.forall_mem_singleton]
    exact ⟨⟨.inr rfl, by simp⟩, ⟨by simp, by simp, by decide⟩, ⟨by simp, by simp, by decide⟩, ⟨.inl rfl, by simp⟩⟩
  have hwalk : Path.walk (r "a b") steps = .bool true := rfl
  have hvalue := hsteps "a b" steps (by decide) hbase hwell rfl
  rw [hwalk] at hvalue
  have hlacks : Path.LacksName "a b['k['].." := by
    have hclosed : Path.Outside ('[' :: ("'k['".toList ++ ']' :: [])) := .bracket (by simp) .nil
    have houtside : Path.Outside "a b['k[']".toList :=
      .char (by decide) (.char (by decide) (.char (by decide) hclosed))
    exact ⟨"a b['k[']".toList, ['.'], by simp, houtside, by simp [Path.startsSegment]⟩
  have hbroken := @Path.not_breaks_of_ascii "a b['k['].." (by decide)
  exact ⟨hown, hdirect "s.t" hown, ⟨by decide, hbase, hwell, rfl⟩, hvalue, ⟨hlacks, hbroken, rfl⟩,
    hgap _ (.inl hlacks) hbroken rfl⟩

/-- A mark is the first character, and still the name does not stand for null. -/
theorem lookup_written_broken :
    let name := "['é]"
    name.toList.head?.any Path.startsSegment ∧ empty name = .null ∧ empty.lookup name ≠ .ok .null ∧
      empty.lookup name = .error (.brokenKey "'é") := by
  intro name
  have hbroken : Path.Broken ['\'', 'é'] := ⟨'\'', [], 'é', .inl rfl, rfl, by decide⟩
  have hat : Path.BreaksAt ('[' :: (['\'', 'é'] ++ ']' :: [])) (String.ofList ['\'', 'é']) := .here (by simp) hbroken
  have hbreaks : Path.Breaks name "'é" := by
    simpa [Path.Breaks, name, Path.startsSegment] using hat
  have hlookup := lookup_broken (r := empty) hbreaks rfl
  refine ⟨by decide, rfl, ?_, hlookup⟩
  rw [hlookup]
  intro h
  cases h

end Resolver

end EventRules
