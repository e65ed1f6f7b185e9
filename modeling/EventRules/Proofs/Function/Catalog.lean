import EventRules.Function.Catalog
import EventRules.Proofs.Evaluation.Operators

/-!
# Results of the functions of the catalog

A function of the catalog fails only because of its arguments, because there is no value, or because it
is not ready. A look-up passes on the errors of the source that it asks for records, too, and a date that
is to be written in a format for reading alone makes the function break off (`Function.Ends`). The values
of these functions are made of scalars, of what is in their arguments and of the records they are given,
so a property of values that is `Value.Closed` survives them.
-/

namespace EventRules

/-- Whether the error is one of a function that exists: of its arguments, of its types, of its
computation or of its setting up. -/
def Error.isRuntime : Error → Bool
  | .arity .. | .type _ | .evaluation _ | .initialization .. => true
  | _ => false

/-- The faults that a built-in may report are among the errors of functions. -/
lemma Error.isRuntime_of_isFault (err : Error) (h : err.isFault = true) : err.isRuntime = true := by
  cases err <;> first | rfl | cases h

/-- How a function with the given name may end without a value in certain surroundings. With an error of functions
any of them may; with one of the source of records, those that ask for records; and breaking off, the one that writes
dates, when it is given a format with an offset that has no text. -/
inductive Function.Ends (context : Context) (name : String) : Halt → Prop
  | runtime {err : Error} : err.isRuntime = true → Ends context name (.failure err)
  | source {store : RecordSource} {type indicator : String} {err : Error} :
      name ∈ ["ENRICHMENT_GET", "ENRICHMENT_EXISTS"] → context.store = some store →
      store.get type indicator = .error err → Ends context name (.failure err)
  | format {format : String} {items : List Calendar.Item} : name = "DATE_FORMAT" →
      Calendar.format? format = some items → .offset .anyOf ∈ items →
      Ends context name (.panic (.unwritableFormat format))

/-- Whatever the function does at some place, it is set up or fails with an error of functions; and when it is applied,
it ends in certain ways, or makes values with a property of such values. -/
structure Function.Regular (V : Value → Prop) (E : Halt → Prop) (f : Function) (s : Situation) : Prop where
  setUp : Yields (fun _ => True) (·.isRuntime = true) (f.setUp s)
  apply : ∀ args, (∀ v ∈ args, V v) → Yields V E (f.apply s args)

/-- The records that can be asked for have the property. -/
def Context.Holds (V : Value → Prop) (context : Context) : Prop :=
  ∀ store, context.store = some store →
    ∀ type indicator record, store.get type indicator = .ok (some record) → V (.map record)

variable {V : Value → Prop} {args : List Value}

/-- A function of its arguments that fails with errors of functions alone is regular under every name. -/
lemma Function.Regular.ofArgs {name : String} {f : List Value → Except Error Value} {s : Situation}
    (h : ∀ args, (∀ v ∈ args, V v) → Yields V (·.isRuntime = true) (f args)) :
    (Function.ofArgs fun args => liftM (f args)).Regular V (Ends s.context name) s :=
  ⟨.ok trivial, fun args hargs => ((h args hargs).mono (fun _ hv => hv) fun _ => .runtime).failure⟩

/-! ## Arguments -/

namespace Value.Closed

/-- Null is a scalar, so it has the property. -/
lemma null (h : Closed V) : V .null :=
  h.scalar .null rfl

/-- Null stands in for a value that is missing. -/
lemma getD (h : Closed V) {x? : Option Value} (hx : ∀ v, x? = some v → V v) : V (x?.getD .null) := by
  cases x? with
  | none => exact h.null
  | some v => exact hx v rfl

/-- Null also stands in where a value is made of something that is missing. -/
lemma map_getD {α : Type} (h : Closed V) {x? : Option α} {f : α → Value} (hf : ∀ a, V (f a)) :
    V ((x?.map f).getD .null) := by
  cases x? with
  | none => exact h.null
  | some a => exact hf a

/-- An argument has the property even where it was left out. -/
lemma argument (h : Closed V) (hargs : ∀ v ∈ args, V v) (i : Nat) : V (Arguments.get args i) :=
  h.getD fun v hv => hargs v (List.mem_of_getElem? hv)

end Value.Closed

namespace Arguments

/-- A count of arguments that is not allowed is an error of functions. -/
lemma checkArity_yields (function : String) (args : List Value) (least : Nat) (most : Option Nat) :
    Yields (fun _ => True) (·.isRuntime = true) (checkArity function args least most) := by
  unfold checkArity
  split
  · exact .ok trivial
  · exact .error rfl

/-- An argument that should be text fails with nothing but an error of types. -/
lemma string?_yields (function : String) (args : List Value) (i : Nat) :
    Yields (fun _ => True) (·.isRuntime = true) (string? function args i) := by
  unfold string?
  split <;> first | exact .ok trivial | exact .error rfl

/-- The reading of an integer fails with nothing but an error of types. -/
lemma int?_yields (function : String) (args : List Value) (i : Nat) :
    Yields (fun _ => True) (·.isRuntime = true) (int? function args i) := by
  unfold int?
  split
  · exact .ok trivial
  · exact .ok trivial
  · split
    · exact .ok trivial
    · exact .error rfl
  · split
    · exact .ok trivial
    · exact .error rfl
  · exact .error rfl

end Arguments

open Arguments

/-! ## Functions on text -/

namespace TextFunctions

/-- A function that maps a text gives a text or null, whatever the map is. -/
lemma mapText_yields (hV : Value.Closed V) (function : String) (f : String → String) :
    Yields V (·.isRuntime = true) (mapText function f args) := by
  refine (checkArity_yields _ _ _ _).bind fun _ _ => ?_
  exact .ok (hV.map_getD fun s => hV.scalar _ rfl)

/-- `LENGTH` gives an integer, and fails for what has no length. -/
lemma length_yields (hV : Value.Closed V) : Yields V (·.isRuntime = true) (length args) := by
  refine (checkArity_yields _ _ _ _).bind fun _ _ => ?_
  dsimp only
  split <;> first | exact .ok (hV.scalar _ rfl) | exact .error rfl

/-- `IS_EMPTY` gives a boolean whenever the count of arguments is right. -/
lemma isEmpty_yields (hV : Value.Closed V) : Yields V (·.isRuntime = true) (isEmpty args) := by
  refine (checkArity_yields _ _ _ _).bind fun _ _ => ?_
  exact .ok (hV.scalar _ rfl)

/-- `STARTS_WITH` and `ENDS_WITH` are tests of two texts and give a boolean. -/
lemma affix_yields (hV : Value.Closed V) (function : String) (test : String → String → Bool) :
    Yields V (·.isRuntime = true) (affix function test args) := by
  refine (checkArity_yields _ _ _ _).bind fun _ _ => ?_
  refine (string?_yields _ _ _).bind fun _ _ => ?_
  split <;> exact .ok (hV.scalar _ rfl)

/-- `SPLIT` gives a list of texts, and a list has the property with its items. -/
lemma split_yields (hV : Value.Closed V) : Yields V (·.isRuntime = true) (split args) := by
  refine (checkArity_yields _ _ _ _).bind fun _ _ => ?_
  split
  · exact .ok hV.null
  · refine (string?_yields _ _ _).bind fun _ _ => ?_
    refine .ok ((hV.list _).2 fun v hv => ?_)
    obtain ⟨s, -, rfl⟩ := List.mem_map.1 hv
    exact hV.scalar _ rfl

/-- `JOIN` gives text, or null for null, and fails for what is no list. -/
lemma join_yields (hV : Value.Closed V) : Yields V (·.isRuntime = true) (join args) := by
  refine (checkArity_yields _ _ _ _).bind fun _ _ => ?_
  split
  · exact .ok hV.null
  · exact (string?_yields _ _ _).bind fun _ _ => .ok (hV.scalar _ rfl)
  · exact .error rfl

/-- The functions of text keep the property, and none of them reads the surroundings. -/
lemma catalog_regular (hV : Value.Closed V) (s : Situation) :
    ∀ b ∈ catalog, b.function.Regular V (Function.Ends s.context b.info.name) s := by
  simp only [catalog, List.forall_mem_cons]
  exact ⟨.ofArgs fun _ _ => mapText_yields hV _ _, .ofArgs fun _ _ => mapText_yields hV _ _,
    .ofArgs fun _ _ => mapText_yields hV _ _, .ofArgs fun _ _ => length_yields hV,
    .ofArgs fun _ _ => isEmpty_yields hV, .ofArgs fun _ _ => affix_yields hV _ _,
    .ofArgs fun _ _ => affix_yields hV _ _, .ofArgs fun _ _ => split_yields hV,
    .ofArgs fun _ _ => join_yields hV, nofun⟩

end TextFunctions

/-! ## Conversions -/

namespace ConversionFunctions

/-- `TO_STRING` fails only for a wrong count of arguments. -/
lemma toText_yields (hV : Value.Closed V) : Yields V (·.isRuntime = true) (toText args) := by
  refine (checkArity_yields _ _ _ _).bind fun _ _ => ?_
  exact .ok (hV.map_getD fun s => hV.scalar _ rfl)

/-- `TO_INTEGER` gives an integer or null. -/
lemma toInteger_yields (hV : Value.Closed V) : Yields V (·.isRuntime = true) (toInteger args) := by
  refine (checkArity_yields _ _ _ _).bind fun _ _ => ?_
  exact .ok (hV.map_getD fun n => hV.scalar _ rfl)

/-- `TO_DOUBLE` gives a number or null. -/
lemma toDouble_yields (hV : Value.Closed V) : Yields V (·.isRuntime = true) (toDouble args) := by
  refine (checkArity_yields _ _ _ _).bind fun _ _ => ?_
  exact .ok (hV.map_getD fun x => hV.scalar _ rfl)

/-- `TO_BOOLEAN` gives a boolean or null. -/
lemma toBoolean_yields (hV : Value.Closed V) : Yields V (·.isRuntime = true) (toBoolean args) := by
  refine (checkArity_yields _ _ _ _).bind fun _ _ => ?_
  split
  · exact .ok (hV.scalar _ rfl)
  · exact .ok (hV.scalar _ rfl)
  · split <;> exact .ok (hV.scalar _ rfl)
  · exact .ok hV.null

/-- The conversions keep the property, since all that they make is scalar. -/
lemma catalog_regular (hV : Value.Closed V) (s : Situation) :
    ∀ b ∈ catalog, b.function.Regular V (Function.Ends s.context b.info.name) s := by
  simp only [catalog, List.forall_mem_cons]
  exact ⟨.ofArgs fun _ _ => toText_yields hV, .ofArgs fun _ _ => toInteger_yields hV,
    .ofArgs fun _ _ => toInteger_yields hV, .ofArgs fun _ _ => toDouble_yields hV,
    .ofArgs fun _ _ => toDouble_yields hV, .ofArgs fun _ _ => toBoolean_yields hV, nofun⟩

end ConversionFunctions

/-! ## Functions on lists and maps -/

namespace CollectionFunctions

/-- What is in a list that is an argument has the property with the list. -/
lemma listArgument_yields (hV : Value.Closed V) (hargs : ∀ v ∈ args, V v) (function : String) :
    Yields (fun items => ∀ v ∈ items, V v) (·.isRuntime = true) (listArgument function args) := by
  have hfirst := hV.argument hargs 0
  unfold listArgument
  split
  case h_1 => exact .ok nofun
  case h_2 items hitems =>
    rw [hitems] at hfirst
    exact .ok ((hV.list items).1 hfirst)
  case h_3 => exact .error rfl

/-- `GET` gives an item of its list, or null where there is none. -/
lemma item_yields (hV : Value.Closed V) (hargs : ∀ v ∈ args, V v) : Yields V (·.isRuntime = true) (item args) := by
  refine (checkArity_yields _ _ _ _).bind fun _ _ => ?_
  refine (listArgument_yields hV hargs _).bind fun items hitems => ?_
  refine (int?_yields _ _ _).bind fun _ _ => ?_
  split
  · refine .ok ?_
    split
    · exact hV.null
    · exact hV.getD fun v hv => hitems v (List.mem_of_getElem? hv)
  · exact .ok hV.null

/-- `GET_FIRST` gives the first item, which has the property with the list. -/
lemma first_yields (hV : Value.Closed V) (hargs : ∀ v ∈ args, V v) : Yields V (·.isRuntime = true) (first args) := by
  refine (checkArity_yields _ _ _ _).bind fun _ _ => ?_
  refine (listArgument_yields hV hargs _).bind fun items hitems => ?_
  exact .ok (hV.getD fun v hv => hitems v (List.mem_of_mem_head? hv))

/-- `GET_LAST` gives the last item, which has the property with the list. -/
lemma last_yields (hV : Value.Closed V) (hargs : ∀ v ∈ args, V v) : Yields V (·.isRuntime = true) (last args) := by
  refine (checkArity_yields _ _ _ _).bind fun _ _ => ?_
  refine (listArgument_yields hV hargs _).bind fun items hitems => ?_
  exact .ok (hV.getD fun v hv => hitems v (List.mem_of_mem_getLast? hv))

/-- `LIST_ADD` makes a list of items that have the property, and of an argument. -/
lemma add_yields (hV : Value.Closed V) (hargs : ∀ v ∈ args, V v) : Yields V (·.isRuntime = true) (add args) := by
  refine (checkArity_yields _ _ _ _).bind fun _ _ => ?_
  refine (listArgument_yields hV hargs _).bind fun items hitems => ?_
  refine .ok ((hV.list _).2 (List.forall_mem_append.2 ⟨hitems, fun v hv => ?_⟩))
  rw [List.mem_singleton.1 hv]
  exact hV.argument hargs 1

/-- `MAP_GET` gives an entry of its map, or else the default among its arguments. -/
lemma mapGet_yields (hV : Value.Closed V) (hargs : ∀ v ∈ args, V v) :
    Yields V (·.isRuntime = true) (mapGet args) := by
  -- Both the default and the map are arguments. An entry of a map has the property with the map.
  have hdefault := hV.argument hargs 2
  have hmap := hV.argument hargs 1
  refine (checkArity_yields _ _ _ _).bind fun _ _ => ?_
  refine (string?_yields _ _ _).bind fun _ _ => ?_
  split
  · exact .ok hdefault
  · split
    case h_1 => exact .ok hdefault
    case h_2 key _ entries hentries =>
      rw [hentries] at hmap
      cases hget : Keyed.get? entries key with
      | none => exact .ok hdefault
      | some v => exact .ok (hV.entry entries key v hmap hget)
    case h_3 => exact .error rfl

/-- `MAP_EXISTS` gives a boolean, or fails for a key that is no text. -/
lemma mapHas_yields (hV : Value.Closed V) : Yields V (·.isRuntime = true) (mapHas args) := by
  refine (checkArity_yields _ _ _ _).bind fun _ _ => ?_
  refine (string?_yields _ _ _).bind fun _ _ => ?_
  split <;> exact .ok (hV.scalar _ rfl)

/-- The functions of lists and maps keep the property by what it is closed under. -/
lemma catalog_regular (hV : Value.Closed V) (s : Situation) :
    ∀ b ∈ catalog, b.function.Regular V (Function.Ends s.context b.info.name) s := by
  simp only [catalog, List.forall_mem_cons]
  exact ⟨.ofArgs fun _ h => item_yields hV h, .ofArgs fun _ h => first_yields hV h,
    .ofArgs fun _ h => last_yields hV h, .ofArgs fun _ h => add_yields hV h, .ofArgs fun _ h => mapGet_yields hV h,
    .ofArgs fun _ _ => mapHas_yields hV, nofun⟩

end CollectionFunctions

/-! ## Functions on numbers -/

namespace NumericFunctions

/-- `ABS` gives a number, or fails at the least integer. -/
lemma abs_yields (hV : Value.Closed V) : Yields V (·.isRuntime = true) (abs args) := by
  refine (checkArity_yields _ _ _ _).bind fun _ _ => ?_
  split
  · exact .ok hV.null
  · exact (exactInt_yields _ _).mono hV.scalar Error.isRuntime_of_isFault
  · exact .ok (hV.scalar _ rfl)
  · exact .error rfl

/-- The candidates for an extreme are arguments, or items of the one list among them. -/
lemma candidates_closed (hV : Value.Closed V) (hargs : ∀ v ∈ args, V v) : ∀ v ∈ candidates args, V v := by
  unfold candidates
  split
  case h_1 items => exact (hV.list items).1 (hargs _ List.mem_cons_self)
  case h_2 => exact hargs

/-- The extreme of values is one of them. -/
lemma extreme_yields (hV : Value.Closed V) (hargs : ∀ v ∈ args, V v) (function : String) (wanted : Ordering) :
    Yields V (·.isRuntime = true) (extreme function wanted args) := by
  refine (checkArity_yields _ _ _ _).bind fun _ _ => ?_
  have hvalues (v : Value) (hv : v ∈ (candidates args).filter (!·.isNull)) : V v :=
    candidates_closed hV hargs v (List.mem_filter.1 hv).1
  split
  case h_1 => exact .ok hV.null
  case h_2 first rest heq =>
    rw [heq] at hvalues
    obtain ⟨hfirst, hrest⟩ := List.forall_mem_cons.1 hvalues
    -- The invariant of the fold is that the best value so far has the property.
    clear heq hvalues
    induction rest generalizing first with
    | nil => exact .ok hfirst
    | cons v rest ih =>
      obtain ⟨hv, hrest⟩ := List.forall_mem_cons.1 hrest
      rw [List.foldlM_cons]
      have hbetter : Yields V (·.isRuntime = true) (better function wanted first v) := by
        unfold better
        split
        · refine .ok ?_
          split
          · exact hv
          · exact hfirst
        · exact .error rfl
      exact hbetter.bind fun best hbest => ih best hbest hrest

/-- The functions of numbers keep the property, as an extreme is one of the candidates. -/
lemma catalog_regular (hV : Value.Closed V) (s : Situation) :
    ∀ b ∈ catalog, b.function.Regular V (Function.Ends s.context b.info.name) s := by
  simp only [catalog, List.forall_mem_cons]
  exact ⟨.ofArgs fun _ _ => abs_yields hV, .ofArgs fun _ h => extreme_yields hV h _ _,
    .ofArgs fun _ h => extreme_yields hV h _ _, nofun⟩

end NumericFunctions

/-! ## Look-ups -/

namespace LookupFunctions

/-- A function that asks for records is set up just where there is a source of them. -/
lemma store_yields (function : String) (fault : InitializationFault) (s : Situation) :
    Yields (fun store => s.context.store = some store) (·.isRuntime = true) (store function fault s) := by
  unfold store
  split
  case h_1 store hstore => exact .ok hstore
  case h_2 => exact .error rfl

/-- The answer of a look-up is made of a record, or there is none; or an error says why not. -/
lemma answer_yields {function : String} {absent : Value} {found : Option Entries → Value} {s : Situation}
    (habsent : V absent)
    (hfound : ∀ store, s.context.store = some store →
      ∀ type indicator record?, store.get type indicator = .ok record? → V (found record?)) (args : List Value) :
    Yields V (fun err => err.isRuntime = true ∨ ∃ store type indicator, s.context.store = some store ∧
      store.get type indicator = .error err) (answer function absent found s args) := by
  have hruntime {α : Type} {P : α → Prop} {x : Except Error α} (h : Yields P (·.isRuntime = true) x) :
      Yields P (fun err => err.isRuntime = true ∨ ∃ store type indicator, s.context.store = some store ∧
        store.get type indicator = .error err) x :=
    h.mono (fun _ ha => ha) fun _ => .inl
  refine (hruntime (checkArity_yields _ _ _ _)).bind fun _ _ => ?_
  refine (hruntime (store_yields _ _ s)).bind fun store hstore => ?_
  refine (hruntime (string?_yields _ _ _)).bind fun _ _ => ?_
  refine (hruntime (string?_yields _ _ _)).bind fun _ _ => ?_
  split
  next type indicator =>
    cases hget : store.get type indicator with
    | ok record? => exact .ok (hfound store hstore type indicator record? hget)
    | error err => exact .error (.inr ⟨store, type, indicator, hstore, hget⟩)
  next => exact .ok habsent

/-- A look-up that is set up may fail with an error of the source, and under its own name alone. -/
lemma lookup_regular {function : String} {absent : Value} {found : Option Entries → Value} {s : Situation}
    (hname : function ∈ ["ENRICHMENT_GET", "ENRICHMENT_EXISTS"]) (habsent : V absent)
    (hfound : ∀ store, s.context.store = some store →
      ∀ type indicator record?, store.get type indicator = .ok record? → V (found record?)) :
    (lookup function absent found).Regular V (Function.Ends s.context function) s where
  setUp := (store_yields _ _ s).map fun _ _ => trivial
  apply args _ := by
    refine ((answer_yields habsent hfound args).mono (fun _ hv => hv) ?_).failure
    rintro err (hruntime | ⟨store, type, indicator, hstore, hget⟩)
    · exact .runtime hruntime
    · exact .source hname hstore hget

/-- The look-ups keep the property as far as the records in the surroundings have it. -/
lemma catalog_regular (hV : Value.Closed V) {s : Situation} (hs : s.context.Holds V) :
    ∀ b ∈ catalog, b.function.Regular V (Function.Ends s.context b.info.name) s := by
  simp only [catalog, List.forall_mem_cons]
  refine ⟨lookup_regular (by simp) hV.null fun store hstore type indicator record? hget => ?_,
    lookup_regular (by simp) (hV.scalar _ rfl) fun _ _ _ _ _ _ => hV.scalar _ rfl, nofun⟩
  cases record? with
  | none => exact hV.null
  | some record => exact hs store hstore type indicator record hget

end LookupFunctions

/-! ## Functions on addresses -/

namespace NetworkFunctions

open Network

/-- `IS_IP` gives a boolean. -/
lemma isAddress_yields (hV : Value.Closed V) : Yields V (·.isRuntime = true) (isAddress args) := by
  refine (checkArity_yields _ _ _ _).bind fun _ _ => ?_
  split
  · exact .ok (hV.scalar _ rfl)
  · exact (string?_yields _ _ _).bind fun _ _ => .ok (hV.scalar _ rfl)

/-- The blocks are looked at in order, and the first that is no text is an error of types. -/
lemma inSomeSubnet_yields (address : Address) (i : Nat) (blocks : List Value) :
    Yields (fun _ => True) (·.isRuntime = true) (inSomeSubnet address i blocks) := by
  induction blocks generalizing i with
  | nil => exact .ok trivial
  | cons block rest ih =>
    cases block with
    | null => exact ih (i + 1)
    | string s =>
      rw [inSomeSubnet]
      split
      · exact .ok trivial
      · exact ih (i + 1)
    | _ => exact .error rfl

/-- `IN_SUBNET` gives a boolean, or fails for a block that is no text. -/
lemma inSubnet_yields (hV : Value.Closed V) : Yields V (·.isRuntime = true) (inSubnet args) := by
  refine (checkArity_yields _ _ _ _).bind fun _ _ => ?_
  split
  · exact .ok (hV.scalar _ rfl)
  · exact (inSomeSubnet_yields _ _ _).bind fun _ _ => .ok (hV.scalar _ rfl)

/-- The parts of an address on the web are texts, and null where they are missing. -/
lemma urlPart_yields (hV : Value.Closed V) (function : String) (part : Url → Option String) :
    Yields V (·.isRuntime = true) (urlPart function part args) := by
  refine (checkArity_yields _ _ _ _).bind fun _ _ => ?_
  refine (string?_yields _ _ _).bind fun _ _ => ?_
  exact .ok (hV.map_getD fun s => hV.scalar _ rfl)

/-- The functions of the network keep the property. -/
lemma catalog_regular (hV : Value.Closed V) (s : Situation) :
    ∀ b ∈ catalog, b.function.Regular V (Function.Ends s.context b.info.name) s := by
  simp only [catalog, List.forall_mem_cons]
  exact ⟨.ofArgs fun _ _ => isAddress_yields hV, .ofArgs fun _ _ => inSubnet_yields hV,
    .ofArgs fun _ _ => urlPart_yields hV _ _, .ofArgs fun _ _ => urlPart_yields hV _ _, nofun⟩

end NetworkFunctions

/-! ## Functions on patterns -/

namespace PatternFunctions

/-- A pattern that cannot be read is an error of the computation. -/
lemma compile_yields (function pattern text : String) :
    Yields (fun _ => True) (·.isRuntime = true) (compile function pattern text) := by
  unfold compile
  split
  · exact .ok trivial
  · exact .error rfl

/-- `REGEXP_MATCH` gives a boolean, null among its arguments aside. -/
lemma isMatch_yields (hV : Value.Closed V) : Yields V (·.isRuntime = true) (isMatch args) := by
  refine (checkArity_yields _ _ _ _).bind fun _ _ => ?_
  refine (string?_yields _ _ _).bind fun _ _ => ?_
  split
  · exact (compile_yields _ _ _).bind fun _ _ => .ok (hV.scalar _ rfl)
  · exact .ok (hV.scalar _ rfl)

/-- `REGEXP_GROUP_VAL` gives the text of a group, and null for a group without one. -/
lemma groupValue_yields (hV : Value.Closed V) : Yields V (·.isRuntime = true) (groupValue args) := by
  refine (checkArity_yields _ _ _ _).bind fun _ _ => ?_
  split
  · exact .ok hV.null
  · exact .ok hV.null
  · refine (string?_yields _ _ _).bind fun _ _ => ?_
    split
    · refine (int?_yields _ _ _).bind fun _ _ => ?_
      split
      · refine (compile_yields _ _ _).bind fun _ _ => ?_
        split
        · exact .ok hV.null
        · exact .ok (hV.map_getD fun span => hV.scalar _ rfl)
      · exact .ok hV.null
    · exact .ok hV.null

/-- `REGEXP_REPLACE` gives text, null among its arguments aside. -/
lemma replace_yields (hV : Value.Closed V) : Yields V (·.isRuntime = true) (replace args) := by
  refine (checkArity_yields _ _ _ _).bind fun _ _ => ?_
  split
  · exact .ok hV.null
  · refine (string?_yields _ _ _).bind fun _ _ => ?_
    refine (string?_yields _ _ _).bind fun _ _ => ?_
    split
    · exact (compile_yields _ _ _).bind fun _ _ => .ok (hV.scalar _ rfl)
    · exact .ok (hV.scalar _ rfl)

/-- The functions of patterns keep the property. -/
lemma catalog_regular (hV : Value.Closed V) (s : Situation) :
    ∀ b ∈ catalog, b.function.Regular V (Function.Ends s.context b.info.name) s := by
  simp only [catalog, List.forall_mem_cons]
  exact ⟨.ofArgs fun _ _ => isMatch_yields hV, .ofArgs fun _ _ => groupValue_yields hV,
    .ofArgs fun _ _ => replace_yields hV, nofun⟩

end PatternFunctions

/-! ## Functions on dates -/

namespace TimeFunctions

/-- `TO_EPOCH_TIMESTAMP` gives an integer, or null for a date that cannot be read. -/
lemma toEpoch_yields (hV : Value.Closed V) : Yields V (·.isRuntime = true) (toEpoch args) := by
  refine (checkArity_yields _ _ _ _).bind fun _ _ => ?_
  refine (string?_yields _ _ _).bind fun _ _ => ?_
  refine (string?_yields _ _ _).bind fun _ _ => ?_
  split
  · exact .ok (hV.map_getD fun m => hV.scalar _ rfl)
  · exact .ok hV.null

open Calendar

/-- An item without a text is an offset that may be told in several ways. -/
lemma itemText?_eq_none {m : Moment} {item : Item} : itemText? m item = none ↔ item = .offset .anyOf := by
  constructor
  · intro h
    unfold itemText? at h
    split at h
    case h_6 half => split at h <;> cases h
    all_goals first | rfl | cases h
  · rintro rfl
    rfl

/-- A moment has a text in a format exactly if the format has no such offset. -/
lemma format?_eq_none {m : Moment} {items : List Item} : m.format? items = none ↔ .offset .anyOf ∈ items := by
  rw [Moment.format?, Option.map_eq_none_iff]
  induction items with
  | nil => simp
  | cons item items ih =>
    rw [List.mapM_cons, List.mem_cons, ← ih]
    cases hitem : itemText? m item with
    | none => simp [itemText?_eq_none.1 hitem]
    | some text =>
      have hne : item ≠ .offset .anyOf := fun h => by simp [itemText?_eq_none.2 h] at hitem
      cases items.mapM (itemText? m) <;> simp [hne.symm]

/-- `DATE_FORMAT` is the one function that may break off, and does at the format it was given. -/
lemma formatDate_yields (hV : Value.Closed V) (context : Context) :
    Yields V (Function.Ends context "DATE_FORMAT") (formatDate args) := by
  have hruntime {α : Type} {x : Except Error α} (h : Yields (fun _ => True) (·.isRuntime = true) x) :
      Yields (fun _ => True) (Function.Ends context "DATE_FORMAT") (liftM x : Except Halt α) :=
    (h.mono (fun _ ha => ha) fun _ => .runtime).failure
  refine (hruntime (checkArity_yields _ _ _ _)).bind fun _ _ => ?_
  refine (hruntime (string?_yields _ _ _)).bind fun _ _ => ?_
  refine (hruntime (int?_yields _ _ _)).bind fun _ _ => ?_
  split
  · split
    next m items _ hitems =>
      -- A date that can be written in the format is text. Otherwise an item of the format is for reading
      -- alone.
      cases htext : m.format? items with
      | some text => exact .ok (hV.scalar _ rfl)
      | none => exact .error (.format rfl hitems (format?_eq_none.1 htext))
    next => exact .ok (hV.scalar _ rfl)
  · exact .ok hV.null

/-- The functions of time keep the property; for `DATE_FORMAT` the way it may break off is allowed by its name.
-/
lemma catalog_regular (hV : Value.Closed V) (s : Situation) :
    ∀ b ∈ catalog, b.function.Regular V (Function.Ends s.context b.info.name) s := by
  simp only [catalog, List.forall_mem_cons]
  exact ⟨.ofArgs fun _ _ => toEpoch_yields hV, ⟨.ok trivial, fun _ _ => formatDate_yields hV s.context⟩, nofun⟩

end TimeFunctions

/-- Every function of the catalog is regular, where the records that it can ask for have the property. -/
theorem catalog_regular (hV : Value.Closed V) {s : Situation} (hs : s.context.Holds V) :
    ∀ b ∈ catalog, b.function.Regular V (Function.Ends s.context b.info.name) s := by
  simp only [catalog, List.forall_mem_append]
  exact ⟨⟨⟨⟨⟨⟨⟨TextFunctions.catalog_regular hV s, ConversionFunctions.catalog_regular hV s⟩,
    CollectionFunctions.catalog_regular hV s⟩, NumericFunctions.catalog_regular hV s⟩,
    LookupFunctions.catalog_regular hV hs⟩, NetworkFunctions.catalog_regular hV s⟩,
    PatternFunctions.catalog_regular hV s⟩, TimeFunctions.catalog_regular hV s⟩

end EventRules
