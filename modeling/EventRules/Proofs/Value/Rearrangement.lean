import EventRules.Proofs.Json.Members
import EventRules.Proofs.Value.RoundTrip

/-!
# Documents as values and back

The document of the value of a document is that document with the members of its objects put in order
(`document_roundTrip`), if no key comes twice in an object, the integers fit in 64 bits and the floats are finite.
-/

namespace EventRules

namespace Document

/-- Two members with one key and related documents. -/
inductive SameKey (R : Document → Document → Prop) : String × Document → String × Document → Prop
  | mk {key : String} {d d' : Document} : R d d' → SameKey R (key, d) (key, d')

/-- The documents differ in the order of the members of their objects only, at whatever depth. -/
inductive Rearranged : Document → Document → Prop
  | refl (d : Document) : Rearranged d d
  | array {items items' : List Document} :
    List.Forall₂ Rearranged items items' → Rearranged (.array items) (.array items')
  | object {members members' ordered : Members} :
    List.Forall₂ (SameKey Rearranged) members members' → members'.Perm ordered →
    Rearranged (.object members) (.object ordered)

/-- The keys of every object in the document increase. -/
inductive Ordered : Document → Prop
  | null : Ordered .null
  | bool (b : Bool) : Ordered (.bool b)
  | integer (n : Int) : Ordered (.integer n)
  | float (x : Float) : Ordered (.float x)
  | string (s : String) : Ordered (.string s)
  | array {items : List Document} : (∀ d ∈ items, Ordered d) → Ordered (.array items)
  | object {members : Members} :
    members.Pairwise (fun p q => p.1 < q.1) → (∀ p ∈ members, Ordered p.2) → Ordered (.object members)

/-- In every object of the document no key comes twice, the integers fit in 64 bits with a sign, and no float is
infinite or NaN. -/
inductive Regular : Document → Prop
  | null : Regular .null
  | bool (b : Bool) : Regular (.bool b)
  | integer {n : Int} : Int64.minValue.toInt ≤ n → n ≤ Int64.maxValue.toInt → Regular (.integer n)
  | float {x : Float} : (FloatParts.ofFloat x).isFinite = true → Regular (.float x)
  | string (s : String) : Regular (.string s)
  | array {items : List Document} : (∀ d ∈ items, Regular d) → Regular (.array items)
  | object {members : Members} : members.Distinct → (∀ p ∈ members, Regular p.2) → Regular (.object members)

end Document

namespace Value

open Document

variable {v : Value} {d : Document}

/-! ## Order of the members -/

/-- The members of an object are the entries of the map in their order, each as a document. -/
lemma toMembers_eq (entries : Entries) : toMembers entries = entries.map fun p => (p.1, toDocument p.2) := by
  induction entries with
  | nil => rfl
  | cons p rest ih => rw [toMembers, List.map_cons, ih]

/-- What holds for the document of every item holds for the items of the array. -/
lemma forall_mem_toItems {items : List Value} {P : Document → Prop} (h : ∀ v ∈ items, P (toDocument v)) :
    ∀ d ∈ toItems items, P d := by
  induction items with
  | nil => nofun
  | cons v rest ih =>
    obtain ⟨hv, hrest⟩ := List.forall_mem_cons.1 h
    rw [toItems]
    exact List.forall_mem_cons.2 ⟨hv, ih hrest⟩

/-- The document of a value has the order of the maps in it. -/
theorem ordered_toDocument (h : v.WellFormed) : (toDocument v).Ordered := by
  induction h with
  | @scalar v hscalar =>
    cases v with
    | null => exact .null
    | bool b => exact .bool b
    | int n => exact .integer n.toInt
    | float x =>
      rw [toDocument]
      split
      · exact .float x
      · exact .null
    | string s => exact .string s
    | list _ => cases hscalar
    | map _ => cases hscalar
  | list _ ih =>
    rw [toDocument]
    exact .array (forall_mem_toItems ih)
  | map hsorted _ ih =>
    rw [toDocument, toMembers_eq]
    refine .object (List.pairwise_map.2 hsorted) fun p hp => ?_
    obtain ⟨q, hq, rfl⟩ := List.mem_map.1 hp
    exact ih q hq

/-! ## The same members -/

/-- The entries read from members with different keys are those of the members. -/
lemma ofMembers_perm {members : Members} {entries : Entries} (hdistinct : members.Distinct)
    (hnew : ∀ p ∈ members, p.1 ∉ Keyed.keys entries) :
    (ofMembers entries members).Perm (members.map (fun p => (p.1, ofDocument p.2)) ++ entries) := by
  induction members generalizing entries with
  | nil => exact .refl _
  | cons p rest ih =>
    obtain ⟨key, d⟩ := p
    obtain ⟨hfirst, hrest⟩ := List.nodup_cons.1 hdistinct
    obtain ⟨hkey, hnew⟩ := List.forall_mem_cons.1 hnew
    have hstill : ∀ p ∈ rest, p.1 ∉ Keyed.keys (Keyed.insert entries key (ofDocument d)) := by
      intro p hp hmem
      obtain ⟨q, hq, heq⟩ := List.mem_map.1 hmem
      rcases Keyed.mem_insert hq with rfl | hq
      · exact hfirst (List.mem_map.2 ⟨p, hp, heq.symm⟩)
      · exact hnew p hp (List.mem_map.2 ⟨q, hq, heq⟩)
    rw [ofMembers]
    exact (ih hrest hstill).trans (((Keyed.insert_perm hkey).append_left _).trans List.perm_middle)

/-- The items of an array are rearranged one by one. -/
lemma forall₂_toItems {items : List Document} (h : ∀ d ∈ items, Rearranged d (toDocument (ofDocument d))) :
    List.Forall₂ Rearranged items (toItems (ofItems items)) := by
  induction items with
  | nil => exact .nil
  | cons d rest ih =>
    obtain ⟨hd, hrest⟩ := List.forall_mem_cons.1 h
    rw [ofItems, toItems]
    exact .cons hd (ih hrest)

/-- The members of an object are rearranged one by one, under their keys. -/
lemma forall₂_members {members : Members} (h : ∀ p ∈ members, Rearranged p.2 (toDocument (ofDocument p.2))) :
    List.Forall₂ (SameKey Rearranged) members (members.map fun p => (p.1, toDocument (ofDocument p.2))) := by
  induction members with
  | nil => exact .nil
  | cons p rest ih =>
    obtain ⟨hp, hrest⟩ := List.forall_mem_cons.1 h
    exact .cons (.mk hp) (ih hrest)

/-- A regular document comes back up to the order of members. -/
theorem rearranged_toDocument (h : d.Regular) : Rearranged d (toDocument (ofDocument d)) := by
  induction h with
  | null => exact .refl _
  | bool b => exact .refl _
  | @integer n hmin hmax =>
    have hback : (Int64.ofInt n).toInt = n := Int64.toInt_ofInt_of_le hmin (Int.lt_of_le_sub_one hmax)
    rw [ofDocument, ofInteger, if_pos ⟨hmin, hmax⟩, toDocument, hback]
    exact .refl _
  | @float x hx =>
    rw [ofDocument, toDocument, if_pos hx]
    exact .refl _
  | string s => exact .refl _
  | array _ ih =>
    rw [ofDocument, toDocument]
    exact .array (forall₂_toItems ih)
  | @object members hdistinct _ ih =>
    rw [ofDocument, toDocument, toMembers_eq]
    refine .object (forall₂_members ih) ?_
    have hnew : ∀ p ∈ members, p.1 ∉ Keyed.keys ([] : Entries) := fun _ _ => List.not_mem_nil
    have hperm := (ofMembers_perm hdistinct hnew).symm.map fun p => (p.1, toDocument p.2)
    rw [List.append_nil, List.map_map] at hperm
    exact hperm

/-- A value with its maps in order and without infinite floats is the value of its document, and a regular document
is that of its value with the members of its objects put in order. -/
theorem document_roundTrip :
    (∀ v : Value, v.WellFormed → v.Finite → ofDocument (toDocument v) = v) ∧
    ∀ d : Document, d.Regular → Rearranged d (toDocument (ofDocument d)) ∧ (toDocument (ofDocument d)).Ordered :=
  ⟨fun _ => ofDocument_toDocument, fun d h => ⟨rearranged_toDocument h, ordered_toDocument (wellFormed_ofDocument d)⟩⟩

/-- A whole float beside an integer stays a float, and members out of order come back in order. -/
theorem document_roundTrip_float :
    (WellFormed (.map [("a", .list [.int 2, .float 2.0])]) ∧ Finite (.map [("a", .list [.int 2, .float 2.0])]) ∧
      ofDocument (toDocument (.map [("a", .list [.int 2, .float 2.0])])) = .map [("a", .list [.int 2, .float 2.0])]) ∧
    Regular (.object [("b", .float 2.0), ("a", .array [.integer (-5)])]) ∧
      toDocument (ofDocument (.object [("b", .float 2.0), ("a", .array [.integer (-5)])])) =
        .object [("a", .array [.integer (-5)]), ("b", .float 2.0)] ∧
      Rearranged (.object [("b", .float 2.0), ("a", .array [.integer (-5)])])
        (.object [("a", .array [.integer (-5)]), ("b", .float 2.0)]) := by
  have hwhole : (FloatParts.ofFloat 2.0).isFinite = true := by decide +kernel
  have hwell : WellFormed (.map [("a", .list [.int 2, .float 2.0])]) := by
    refine .map (List.pairwise_singleton _ _) (List.forall_mem_singleton.2 (.list ?_))
    exact List.forall_mem_cons.2 ⟨.scalar rfl, List.forall_mem_singleton.2 (.scalar rfl)⟩
  have hfinite : Finite (.map [("a", .list [.int 2, .float 2.0])]) := by
    refine .map (List.forall_mem_singleton.2 (.list ?_))
    exact List.forall_mem_cons.2 ⟨.int 2, List.forall_mem_singleton.2 (.float hwhole)⟩
  have hregular : Regular (.object [("b", .float 2.0), ("a", .array [.integer (-5)])]) := by
    refine .object (by decide) (List.forall_mem_cons.2 ⟨.float hwhole, List.forall_mem_singleton.2 (.array ?_)⟩)
    exact List.forall_mem_singleton.2 (.integer (by decide) (by decide))
  have hback : toDocument (ofDocument (.object [("b", .float 2.0), ("a", .array [.integer (-5)])])) =
      .object [("a", .array [.integer (-5)]), ("b", .float 2.0)] := rfl
  exact ⟨⟨hwell, hfinite, document_roundTrip.1 _ hwell hfinite⟩, hregular, hback,
    hback ▸ (document_roundTrip.2 _ hregular).1⟩

end Value

end EventRules
