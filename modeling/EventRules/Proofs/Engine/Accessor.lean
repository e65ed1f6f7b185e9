import EventRules.Proofs.Engine.Transparency
import EventRules.Proofs.Evaluation.Path
import EventRules.Proofs.Parser.RoundTrip

/-!
# Members of an object in an event

A source that is a name with a quoted key is read by two scanners: the lexer takes the key up to its quote and the
bracket after it, and the resolver cuts the name at its first closing bracket. They agree on every key without a
closing bracket, and for such a key the source has the value of the member. A closing bracket in the key hides the
member, and the source is null; or the resolver even breaks off, which takes a character outside ASCII in the key
besides.
-/

namespace EventRules

variable {name key : String}

/-! ## The name as a path -/

namespace Path

variable {inner more : List Char}

/-- The path of a name with a bracket begins with what stands in the bracket. -/
lemma ofName_bracket {text : String} (hname : IsPlainName name) (hinner : ']' ∉ inner)
    (htext : text.toList = name.toList ++ '[' :: (inner ++ ']' :: more)) :
    ofName text = Segment.ofBracket inner >>= fun segment =>
      (segmentsOf (text.length - 1) more).map fun segments => ⟨name, segment :: segments⟩ := by
  have hbase : text.toList.takeWhile (!startsSegment ·) = name.toList := by
    rw [htext]
    exact takeWhile_stop hname.startsSegment (by decide)
  have hlength : text.toList.length = text.length - 1 + 1 := by
    rw [← String.length_toList, htext, List.length_append, List.length_cons]
    omega
  obtain ⟨c, cs, hcs, -⟩ := hname.head
  have hnonempty : name.toList.isEmpty = false := by rw [hcs, List.isEmpty_cons]
  simp only [ofName, hbase]
  rw [hlength, htext, List.drop_left, segmentsOf_bracket hinner, String.ofList_toList, hnonempty]
  cases Segment.ofBracket inner with
  | error fault => rfl
  | ok segment => cases segmentsOf (text.length - 1) more <;> simp [bind, Except.bind, Except.map]

/-- Without a closing bracket in it, the key is the only segment. -/
lemma ofName_withKey (hname : IsPlainName name) (hkey : ']' ∉ key.toList) :
    ofName (withKey name key) = .ok ⟨name, [.key key]⟩ := by
  have hinner : ']' ∉ '\'' :: (key.toList ++ ['\'']) := by simp [hkey]
  have htext : (withKey name key).toList = name.toList ++ '[' :: ('\'' :: (key.toList ++ ['\'']) ++ ']' :: []) := by
    simp [toList_withKey]
  rw [ofName_bracket hname hinner htext, ofBracket_quotes (.inl rfl), segmentsOf, String.ofList_toList]
  rfl

/-- A key with a closing bracket in it is cut short. -/
lemma ofName_withKey_cut (hname : IsPlainName name) (hkey : ']' ∈ key.toList) {path : Path}
    (h : ofName (withKey name key) = .ok path) :
    path.base = name ∧ ∃ cut segments, path.segments = .key cut :: segments ∧ cut.length < key.length := by
  obtain ⟨before, after, hsplit, hbefore⟩ := List.eq_append_cons_of_mem hkey
  have hinner : ']' ∉ '\'' :: before := by simp [hbefore]
  have htext : (withKey name key).toList = name.toList ++ '[' :: ('\'' :: before ++ ']' :: (after ++ ['\'', ']'])) := by
    simp [toList_withKey, hsplit]
  rw [ofName_bracket hname hinner htext] at h
  obtain ⟨segment, hsegment, hmore⟩ := bind_eq_ok.1 h
  obtain ⟨segments, -, rfl⟩ := map_eq_ok.1 hmore
  obtain rfl | ⟨cut, last, rfl⟩ := List.eq_nil_or_concat before
  · cases hsegment
  · rw [List.concat_eq_append, ofBracket_quoted (.inl rfl)] at hsegment
    split at hsegment
    · cases hsegment
      refine ⟨rfl, _, segments, rfl, ?_⟩
      rw [← String.length_toList, ← String.length_toList, hsplit]
      simp
    · cases hsegment

/-- For a broken key to be come to, the key has to have a closing bracket in it, and a character outside ASCII. -/
lemma Breaks.of_withKey {inner : String} (hname : IsPlainName name) (h : Breaks (withKey name key) inner) :
    ']' ∈ key.toList ∧ ∃ c ∈ key.toList, c.utf8Size ≠ 1 := by
  constructor
  · by_contra hkey
    have hpath := ofName_eq_broken.2 h
    rw [ofName_withKey hname hkey] at hpath
    cases hpath
  · obtain ⟨c, hc, hwide⟩ := h.exists_wide
    rw [toList_withKey, List.mem_append] at hc
    obtain hc | hc := hc
    · exact absurd (hname.utf8Size hc) hwide
    · refine ⟨c, ?_, hwide⟩
      simp only [List.mem_cons, List.mem_append, List.not_mem_nil, or_false] at hc
      rcases hc with rfl | rfl | hc | rfl | rfl
      · exact absurd rfl hwide
      · exact absurd rfl hwide
      · exact hc
      · exact absurd rfl hwide
      · exact absurd rfl hwide

end Path

/-- In an event with one member, an object with one member, the name of the first with the key of the second has the
value there. A closing bracket in the key cuts it short, and then there is no value, or the look-up breaks off. -/
lemma Resolver.lookup_withKey (hname : IsPlainName name) (key : String) (v : Document) :
    let r := ofEvent [(name, .object [(key, v)])]
    ((∀ inner, ¬ Path.Breaks (withKey name key) inner) →
      r.lookup (withKey name key) = .ok (if ']' ∈ key.toList then .null else Value.ofDocument v)) ∧
    ∀ inner, Path.Breaks (withKey name key) inner → r.lookup (withKey name key) = .error (.brokenKey inner) := by
  intro r
  have hne : (withKey name key == name) = false := by
    refine beq_eq_false_iff_ne.2 fun h => ?_
    have hlength := congrArg (fun text : String => text.toList.length) h
    simp [toList_withKey] at hlength
  have hdirect : r (withKey name key) = .null := by
    simp [r, ofEvent, Members.get?, List.lookup_cons, hne]
  have hbase : r name = .map [(key, Value.ofDocument v)] := by
    simp [r, ofEvent, Members.get?, Value.ofDocument, Value.ofMembers, Keyed.insert]
  have hmark : (withKey name key).toList.any Path.startsSegment := List.any_eq_true.2 ⟨_, bracket_mem_withKey, rfl⟩
  refine ⟨fun hbroken => ?_, fun inner hbreaks => lookup_broken hbreaks hdirect⟩
  by_cases hbracket : ']' ∈ key.toList
  · rw [if_pos hbracket]
    cases hofName : Path.ofName (withKey name key) with
    | error fault =>
      have hfault (path : Path) : Path.ofName (withKey name key) ≠ .ok path := by
        rw [hofName]
        intro h
        cases h
      exact lookup_none hfault hbroken hdirect
    | ok path =>
      obtain ⟨hpathbase, cut, segments, hsegments, hcut⟩ := Path.ofName_withKey_cut hname hbracket hofName
      have hcutkey : (cut == key) = false := by
        refine beq_eq_false_iff_ne.2 ?_
        rintro rfl
        exact Nat.lt_irrefl _ hcut
      have hstep : Segment.step (.map [(key, Value.ofDocument v)]) (.key cut) = .null := by
        simp [Segment.step, Keyed.get?, List.lookup_cons, hcutkey]
      rw [lookup_ofName hofName hdirect hmark, Path.resolve, hpathbase, hsegments, hbase, List.foldl_cons, hstep,
        Path.foldl_step_null]
  · rw [if_neg hbracket, lookup_ofName (Path.ofName_withKey hname hbracket) hdirect hmark]
    simp [Path.resolve, hbase, Segment.step, Keyed.get?]

/-! ## The name as a source -/

/-- An identifier by itself that is no word of the grammar is a variable at every limit of nesting. -/
lemma Expr.ofTokens_variable {t : Token} {finish maxDepth : Nat} (hdepth : 1 ≤ maxDepth) (ht : t.kind = .identifier)
    (htext : Text.toLowerAscii t.text ∉ ["true", "false", "null", "if"]) :
    ofTokens [t, .eof finish] maxDepth = .ok (.variable t.text) := by
  cases maxDepth with
  | zero => cases hdepth
  | succ room =>
    rw [← List.singleton_append]
    refine ofTokens_of_reads (by simp [ht]) (by simp [Token.eof]) fun stop => ?_
    have hprimary : Parser.Reads stop (room + 1) room .primary .conditional [t] (.variable t.text) :=
      Parser.reads_variable ht htext .conditional
    exact hprimary.loosen (.of_kind _ (by simp [Token.lexeme, ht])) (by decide) (Nat.le_refl _)

/-- A name with a quoted key parses to the variable of that text. -/
lemma Expression.parse_withKey {maxDepth : Nat} (hdepth : 1 ≤ maxDepth) (hname : IsPlainName name)
    (hkey : '\'' ∉ key.toList) :
    Expression.parse (withKey name key) maxDepth = .ok ⟨withKey name key, .variable (withKey name key)⟩ := by
  have hword : Text.toLowerAscii (withKey name key) ∉ ["true", "false", "null", "if"] := by
    simp only [List.mem_cons, List.not_mem_nil, or_false, not_or]
    exact ⟨toLowerAscii_ne rfl bracket_mem_withKey (by decide), toLowerAscii_ne rfl bracket_mem_withKey (by decide),
      toLowerAscii_ne rfl bracket_mem_withKey (by decide), toLowerAscii_ne rfl bracket_mem_withKey (by decide)⟩
  have hvariable : Expr.ofTokens [⟨.identifier, withKey name key, 0⟩, .eof (withKey name key).length] maxDepth =
      .ok (.variable (withKey name key)) := Expr.ofTokens_variable hdepth rfl hword
  rw [Expression.parse, Lexer.tokenize_withKey hname hkey, Parser.ok_bind, hvariable]
  rfl

namespace Engine

/-- What comes of looking a variable up comes of evaluating a source that parses to it. -/
lemma evaluate_variable {e : Engine} {x : Expression} {text source : String} (vars : Resolver) (h : e.Sound)
    (hparse : Expression.parse source e.config.maxDepth = .ok x) (hx : x.root = .variable text) :
    (evaluate source vars e).1 = liftM (vars.lookup text) := by
  have hrun := h.parse source
  rw [hparse] at hrun
  cases hp : parse source e with
  | mk result next =>
    rw [hp] at hrun
    cases hrun
    rw [evaluate_ok hp]
    show (x.root.evaluate Registry.calls vars next.registry).1 = _
    rw [hx, Expr.evaluate]
    rfl

/-- In an event with one member, which is an object with one member, the name of the first with the quoted key of the
second has the value of that member, whatever the engine did before, if there is no closing bracket in the key. With
one in it the source has no value; and if a broken key is come to, for which a character outside ASCII is needed
besides, the evaluation breaks off. -/
theorem evaluate_withKey {config : EngineConfig} (hcapacity : 1 ≤ config.cacheCapacity)
    (hdepth : 1 ≤ config.maxDepth) (registry : Registry) (ops : List Operation) (hname : IsPlainName name)
    (hkey : '\'' ∉ key.toList) (v : Document) :
    ∃ e₀, create config registry = .ok e₀ ∧
      let answer := (evaluate (withKey name key) (Resolver.ofEvent [(name, .object [(key, v)])]) (e₀.performAll ops)).1
      ((∀ inner, ¬ Path.Breaks (withKey name key) inner) →
        answer = .ok (if ']' ∈ key.toList then .null else Value.ofDocument v)) ∧
      ∀ inner, Path.Breaks (withKey name key) inner →
        ']' ∈ key.toList ∧ (∃ c ∈ key.toList, c.utf8Size ≠ 1) ∧ answer = .error (.panic (.brokenKey inner)) := by
  obtain ⟨e₀, he₀, rfl, -, hsound⟩ := create_ok hcapacity hdepth registry
  have hrun := hsound.alike.performAll ops
  have hanswer := evaluate_variable (Resolver.ofEvent [(name, .object [(key, v)])]) hrun.sound_left
    (Expression.parse_withKey (hrun.depth_left ▸ hdepth) hname hkey) rfl
  obtain ⟨hvalue, hbroken⟩ := Resolver.lookup_withKey hname key v
  refine ⟨e₀, he₀, fun hnone => ?_, fun inner hbreaks => ?_⟩
  · rw [hanswer, hvalue hnone]
    rfl
  · obtain ⟨hclosing, hwide⟩ := hbreaks.of_withKey hname
    refine ⟨hclosing, hwide, ?_⟩
    rw [hanswer, hbroken inner hbreaks]
    rfl

/-- Dots, opening brackets, blanks and backslashes in a key do no harm. -/
theorem evaluate_withKey_marks :
    let config : EngineConfig := {}
    let event : Members := [("m", .object [("a.b[0 \\c", .integer 7)])]
    1 ≤ config.cacheCapacity ∧ 1 ≤ config.maxDepth ∧ IsPlainName "m" ∧ '\'' ∉ "a.b[0 \\c".toList ∧
      (∀ inner, ¬ Path.Breaks "m['a.b[0 \\c']" inner) ∧
      ∃ e₀, create config {} = .ok e₀ ∧
        (evaluate "m['a.b[0 \\c']" (Resolver.ofEvent event) e₀).1 = .ok (.int 7) := by
  intro config event
  have hcapacity : 1 ≤ config.cacheCapacity := by decide
  have hdepth : 1 ≤ config.maxDepth := by decide
  have hname : IsPlainName "m" := by decide
  have hkey : '\'' ∉ "a.b[0 \\c".toList := by decide
  have hclosing : ']' ∉ "a.b[0 \\c".toList := by decide
  have hnone (inner : String) : ¬ Path.Breaks (withKey "m" "a.b[0 \\c") inner := fun hbreaks =>
    hclosing (hbreaks.of_withKey hname).1
  obtain ⟨e₀, he₀, hvalue, -⟩ := evaluate_withKey hcapacity hdepth {} [] hname hkey (.integer 7)
  exact ⟨hcapacity, hdepth, hname, hkey, hnone, e₀, he₀, hvalue hnone⟩

/-- A closing bracket in the key hides the member, though the event has it. -/
theorem evaluate_withKey_closing :
    let event : Members := [("m", .object [("a]b", .integer 1)])]
    ∃ e₀, create {} {} = .ok e₀ ∧ (evaluate "m['a]b']" (Resolver.ofEvent event) e₀).1 = .ok .null ∧
      Value.ofDocument (.integer 1) ≠ .null := by
  intro event
  have hname : IsPlainName "m" := by decide
  have hkey : '\'' ∉ "a]b".toList := by decide
  have hnone := @Path.not_breaks_of_ascii (withKey "m" "a]b") (by decide)
  obtain ⟨e₀, he₀, hconfig, -, hsound⟩ := @create_ok {} (by decide) (by decide) {}
  have hdepth : 1 ≤ e₀.config.maxDepth := by
    rw [hconfig]
    decide
  have hparse := Expression.parse_withKey hdepth hname hkey
  have hnull : (Resolver.ofEvent event).lookup (withKey "m" "a]b") = .ok .null :=
    (Resolver.lookup_withKey hname "a]b" (.integer 1)).1 hnone
  refine ⟨e₀, he₀, ?_, ?_⟩
  · have hanswer := evaluate_variable (Resolver.ofEvent event) hsound hparse rfl
    rw [hnull] at hanswer
    exact hanswer
  · rw [show Value.ofDocument (.integer 1) = .int 1 from rfl]
    nofun

end Engine

end EventRules
