import EventRules.Value.Document
import EventRules.Proofs.Evaluation.Operators
import EventRules.Proofs.Keyed

/-!
# Values as documents and back

A value whose maps are in order is the value of its document, unless a float in it is not finite: such
a float has no document. The value of a document always has its maps in order, and so has whatever
evaluation makes of such values.
-/

namespace EventRules.Value

/-- The keys of every map in the value increase. -/
inductive WellFormed : Value → Prop
  | scalar {v : Value} : v.isScalar = true → WellFormed v
  | list {items : List Value} : (∀ v ∈ items, WellFormed v) → WellFormed (.list items)
  | map {entries : Entries} : Keyed.Sorted entries → (∀ p ∈ entries, WellFormed p.2) → WellFormed (.map entries)

/-- No float in the value is infinite or NaN. -/
inductive Finite : Value → Prop
  | null : Finite .null
  | bool (b : Bool) : Finite (.bool b)
  | int (n : Int64) : Finite (.int n)
  | float {x : Float} : (FloatParts.ofFloat x).isFinite = true → Finite (.float x)
  | string (s : String) : Finite (.string s)
  | list {items : List Value} : (∀ v ∈ items, Finite v) → Finite (.list items)
  | map {entries : Entries} : (∀ p ∈ entries, Finite p.2) → Finite (.map entries)

/-- The items of a well-formed list are well-formed. -/
lemma WellFormed.items {items : List Value} (h : WellFormed (.list items)) : ∀ v ∈ items, WellFormed v := by
  cases h with
  | scalar hscalar => cases hscalar
  | list hitems => exact hitems

/-- The entries of a well-formed map are in order, and their values are well-formed. -/
lemma WellFormed.entries {entries : Entries} (h : WellFormed (.map entries)) :
    Keyed.Sorted entries ∧ ∀ p ∈ entries, WellFormed p.2 := by
  cases h with
  | scalar hscalar => cases hscalar
  | map hsorted hentries => exact ⟨hsorted, hentries⟩

/-- Whatever evaluation makes of values keeps their maps in order. -/
lemma closed_wellFormed : Closed WellFormed where
  scalar _ h := .scalar h
  list _ := ⟨WellFormed.items, .list⟩
  map pairs h := by
    obtain ⟨hsorted, hmem⟩ := Keyed.foldl_insert pairs (show Keyed.Sorted ([] : Entries) from List.Pairwise.nil)
    refine .map hsorted fun p hp => ?_
    rcases hmem p hp with hp | hp
    · exact h p hp
    · cases hp
  entry entries key v h hget := by
    obtain ⟨front, back, hsplit, -⟩ := List.lookup_eq_some_iff.1 hget
    refine h.entries.2 (key, v) ?_
    rw [hsplit]
    exact List.mem_append_right _ List.mem_cons_self

/-! ## Values of documents -/

/-- An integer of a document is a scalar, be it in the range or a float. -/
lemma isScalar_ofInteger (n : Int) : (ofInteger n).isScalar = true := by
  unfold ofInteger
  split <;> rfl

mutual

/-- The value of a document has its maps in order. -/
theorem wellFormed_ofDocument : (d : Document) → WellFormed (ofDocument d)
  | .null => .scalar rfl
  | .bool _ => .scalar rfl
  | .integer n => by
    rw [ofDocument]
    exact .scalar (isScalar_ofInteger n)
  | .float _ => .scalar rfl
  | .string _ => .scalar rfl
  | .array items => by
    rw [ofDocument]
    exact .list (wellFormed_ofItems items)
  | .object members => by
    rw [ofDocument]
    exact wellFormed_ofMembers members (.map List.Pairwise.nil nofun)

/-- What is made of the items of an array is well-formed. -/
theorem wellFormed_ofItems : (items : List Document) → ∀ v ∈ ofItems items, WellFormed v
  | [] => nofun
  | item :: rest => by
    rw [ofItems]
    exact List.forall_mem_cons.2 ⟨wellFormed_ofDocument item, wellFormed_ofItems rest⟩

/-- To put the members of an object into a map keeps the map well-formed. -/
theorem wellFormed_ofMembers {entries : Entries} : (members : List (String × Document)) →
    WellFormed (.map entries) → WellFormed (.map (ofMembers entries members))
  | [], h => h
  | (key, d) :: rest, h => by
    rw [ofMembers]
    refine wellFormed_ofMembers rest (.map (h.entries.1.insert key _) fun p hp => ?_)
    rcases Keyed.mem_insert hp with rfl | hp
    · exact wellFormed_ofDocument d
    · exact h.entries.2 p hp

end

/-! ## There and back -/

/-- An integer that was written is read as itself. -/
lemma ofInteger_toInt (n : Int64) : ofInteger n.toInt = .int n := by
  have hmin : Int64.minValue.toInt ≤ n.toInt := Int64.le_iff_toInt_le.1 (Int64.minValue_le n)
  have hmax : n.toInt ≤ Int64.maxValue.toInt := Int64.le_iff_toInt_le.1 (Int64.le_maxValue n)
  rw [ofInteger, if_pos ⟨hmin, hmax⟩, Int64.ofInt_toInt]

/-- The items of a list come back if each of them does. -/
lemma ofItems_toItems {items : List Value} (h : ∀ v ∈ items, ofDocument (toDocument v) = v) :
    ofItems (toItems items) = items := by
  induction items with
  | nil => rfl
  | cons v rest ih =>
    rw [toItems, ofItems, h v List.mem_cons_self, ih fun w hw => h w (List.mem_cons_of_mem _ hw)]

/-- The members of a map in order are read into entries before it. -/
lemma ofMembers_toMembers {done entries : Entries} (hsorted : Keyed.Sorted (done ++ entries))
    (h : ∀ p ∈ entries, ofDocument (toDocument p.2) = p.2) : ofMembers done (toMembers entries) = done ++ entries := by
  induction entries generalizing done with
  | nil =>
    rw [toMembers, ofMembers, List.append_nil]
  | cons p rest ih =>
    obtain ⟨key, v⟩ := p
    have hlast : ∀ q ∈ done, q.1 < key := fun q hq =>
      (List.pairwise_append.1 hsorted).2.2 q hq (key, v) List.mem_cons_self
    -- The next key is beyond all that were read, so its entry goes last.
    rw [toMembers, ofMembers, h (key, v) List.mem_cons_self, Keyed.insert_last hlast]
    rw [List.append_cons] at hsorted
    rw [ih hsorted fun q hq => h q (List.mem_cons_of_mem _ hq), ← List.append_cons]

/-- A value with its maps in order and without infinite floats is the value of its document. -/
theorem ofDocument_toDocument {v : Value} (h : WellFormed v) (hfinite : Finite v) : ofDocument (toDocument v) = v := by
  induction h with
  | scalar hscalar =>
    cases hfinite with
    | null => rfl
    | bool b => rfl
    | int n => rw [toDocument, ofDocument, ofInteger_toInt]
    | float hx => rw [toDocument, if_pos hx, ofDocument]
    | string s => rfl
    | list _ => cases hscalar
    | map _ => cases hscalar
  | list _ ih =>
    cases hfinite with
    | list hitems => rw [toDocument, ofDocument, ofItems_toItems fun v hv => ih v hv (hitems v hv)]
  | map hsorted _ ih =>
    cases hfinite with
    | map hentries =>
      have hmembers := ofMembers_toMembers (show Keyed.Sorted ([] ++ _) from hsorted) fun p hp => ih p hp (hentries p hp)
      rw [toDocument, ofDocument, hmembers]
      rfl

end EventRules.Value
