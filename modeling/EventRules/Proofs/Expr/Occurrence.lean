import EventRules.Proofs.Expr.Address

/-!
# The order of occurrences

The nodes of an expression with their addresses, a whole before its parts and the parts from left to
right. In this order an address that is read from the root is followed by those that begin with it,
and then by those that turn to a later part: it is the lexicographic order. The names that an
expression lists are those that occur in it, each where it comes first (`Expr.Lists`).
-/

namespace EventRules.Expr

variable {e a b : Expr} {node other : Address} {i j : Nat}

/-- The nodes of an expression that stands at an address, each with its own address. -/
def occurrences (e : Expr) (node : Address) : List (Address × Expr) :=
  (node, e) :: e.parts.zipIdx.attach.flatMap fun ⟨p, h⟩ =>
    have := sizeOf_lt_of_mem_parts (mem_parts_of_mem_zipIdx h)
    p.1.occurrences (p.2 :: node)
termination_by e

/-- The occurrences of an expression are itself and those of its parts, one after the other. -/
lemma occurrences_eq (e : Expr) (node : Address) :
    e.occurrences node = (node, e) :: e.parts.zipIdx.flatMap fun p => p.1.occurrences (p.2 :: node) := by
  rw [occurrences]
  congr 1
  rw [List.flatMap_subtype (g := fun p => p.1.occurrences (p.2 :: node)) fun _ _ => rfl, List.unattach_attach]

/-- The nodes of an expression, in this order. -/
lemma nodes_eq_flatMap (e : Expr) : e.nodes = e :: e.parts.flatMap nodes := by
  have items (items : List Expr) : nodesOfItems items = items.flatMap nodes := by
    induction items with
    | nil => rfl
    | cons a items ih => rw [nodesOfItems, ih, List.flatMap_cons]
  have entries (entries : List (String × Expr)) : nodesOfEntries entries = (entries.map (·.2)).flatMap nodes := by
    induction entries with
    | nil => rfl
    | cons p entries ih => rw [nodesOfEntries, ih, List.map_cons, List.flatMap_cons]
  cases e with
  | map _ => rw [nodes, entries, parts]
  | _ => simp [nodes, parts, items]

/-- Without their addresses the occurrences are the nodes. -/
lemma map_occurrences (e : Expr) (node : Address) : (e.occurrences node).map Prod.snd = e.nodes := by
  induction e using parts_induction generalizing node with
  | h e ih =>
    rw [occurrences_eq, nodes_eq_flatMap, List.map_cons, List.map_flatMap]
    congr 1
    have hparts : e.parts.zipIdx.flatMap (fun p => (p.1.occurrences (p.2 :: node)).map Prod.snd) =
        e.parts.zipIdx.flatMap (fun p => p.1.nodes) :=
      List.flatMap_congr fun p hp => ih p.1 (mem_parts_of_mem_zipIdx hp) _
    rw [hparts, ← List.flatMap_map, List.zipIdx_map_fst]

/-- What occurs in an expression has an address at or below its own. -/
lemma suffix_of_mem_occurrences (h : (other, b) ∈ e.occurrences node) : node <:+ other := by
  induction e using parts_induction generalizing node with
  | h e ih =>
    rw [occurrences_eq] at h
    cases h with
    | head => exact List.suffix_rfl
    | tail _ h =>
      obtain ⟨p, hp, hmem⟩ := List.mem_flatMap.1 h
      exact (List.suffix_cons _ _).trans (ih p.1 (mem_parts_of_mem_zipIdx hp) hmem)

/-- A node comes before whatever lies below it. -/
lemma lt_of_suffix (h : i :: node <:+ other) : node.reverse < other.reverse := by
  obtain ⟨above, rfl⟩ := h
  rw [List.reverse_append, List.reverse_cons, List.append_assoc]
  have hlt : node.reverse ++ [] < node.reverse ++ ([i] ++ above.reverse) := List.append_left_lt (List.nil_lt_cons _ _)
  rwa [List.append_nil] at hlt

/-- What lies below a part comes before whatever lies below a later part. -/
lemma lt_of_positions {another : Address} (hi : i :: node <:+ other) (hj : j :: node <:+ another) (hij : i < j) :
    other.reverse < another.reverse := by
  obtain ⟨above, rfl⟩ := hi
  obtain ⟨above', rfl⟩ := hj
  simp only [List.reverse_append, List.reverse_cons, List.append_assoc]
  exact List.append_left_lt (List.cons_lt_cons_iff.2 (.inl hij))

/-- Addresses read from the root are in the order of the alphabet. -/
theorem pairwise_occurrences (e : Expr) (node : Address) :
    (e.occurrences node).Pairwise fun p q => p.1.reverse < q.1.reverse := by
  induction e using parts_induction generalizing node with
  | h e ih =>
    rw [occurrences_eq, List.pairwise_cons]
    refine ⟨fun q hq => ?_, ?_⟩
    · obtain ⟨p, -, hmem⟩ := List.mem_flatMap.1 hq
      exact lt_of_suffix (suffix_of_mem_occurrences hmem)
    · rw [List.pairwise_flatMap]
      refine ⟨fun p hp => ih p.1 (mem_parts_of_mem_zipIdx hp) _, ?_⟩
      have hpositions : (e.parts.zipIdx.map Prod.snd).Pairwise (· < ·) := by
        rw [List.zipIdx_map_snd]
        exact List.pairwise_lt_range'
      rw [List.pairwise_map] at hpositions
      refine hpositions.imp fun hlt x hx y hy => ?_
      exact lt_of_positions (suffix_of_mem_occurrences hx) (suffix_of_mem_occurrences hy) hlt

/-- The nodes of a part are nodes of the whole. -/
lemma occurrences_at? (h : e.at? node = some a) : a.occurrences node ⊆ e.occurrences [] := by
  induction node generalizing a with
  | nil =>
    cases h
    exact List.Subset.refl _
  | cons i node ih =>
    obtain ⟨above, habove, hpart⟩ := at?_cons.1 h
    intro other hmem
    refine ih habove ?_
    rw [occurrences_eq]
    refine List.mem_cons_of_mem _ (List.mem_flatMap.2 ⟨(a, i), ?_, hmem⟩)
    rw [List.mem_zipIdx_iff_getElem?]
    exact hpart

/-- What occurs in a part is found in the whole under its address. -/
lemma at?_of_mem_occurrences (h : e.at? node = some a) (hmem : (other, b) ∈ a.occurrences node) :
    e.at? other = some b := by
  induction a using parts_induction generalizing node with
  | h a ih =>
    rw [occurrences_eq] at hmem
    cases hmem with
    | head => exact h
    | tail _ hmem =>
      obtain ⟨p, hp, hmem⟩ := List.mem_flatMap.1 hmem
      have hpart : a.parts[p.2]? = some p.1 := List.mem_zipIdx_iff_getElem?.1 hp
      exact ih p.1 (mem_parts_of_mem_zipIdx hp) (at?_cons.2 ⟨a, h, hpart⟩) hmem

/-- The occurrences are the nodes and where they stand. -/
theorem mem_occurrences : (node, a) ∈ e.occurrences [] ↔ e.at? node = some a := by
  constructor
  · exact at?_of_mem_occurrences rfl
  · intro h
    refine occurrences_at? h ?_
    rw [occurrences_eq]
    exact List.mem_cons_self

/-! ## Names in the order of their first use -/

/-- In a list without its repetitions, what comes before something comes first before all of its
occurrences. -/
lemma pairwise_eraseDups {α β : Type} [BEq β] [LawfulBEq β] {R : α → α → Prop} {l : List α} (h : l.Pairwise R)
    (f : α → Option β) :
    (l.filterMap f).eraseDups.Pairwise fun x y => ∃ p ∈ l, f p = some x ∧ ∀ q ∈ l, f q = some y → R p q := by
  induction l generalizing f with
  | nil => exact .nil
  | cons p l ih =>
    obtain ⟨hp, hl⟩ := List.pairwise_cons.1 h
    cases hname : f p with
    | none =>
      rw [List.filterMap_cons_none hname]
      refine (ih hl f).imp ?_
      rintro x y ⟨q, hq, hqx, hqy⟩
      refine ⟨q, List.mem_cons_of_mem _ hq, hqx, List.forall_mem_cons.2 ⟨fun hy => ?_, hqy⟩⟩
      cases hname.symm.trans hy
    | some name =>
      rw [List.filterMap_cons_some hname, List.eraseDups_cons, List.filter_filterMap, List.pairwise_cons]
      -- The rest of the list is searched for other names.
      have hother {q : α} {y : β} : (f q).filter (fun x => !x == name) = some y ↔ f q = some y ∧ y ≠ name := by
        rw [Option.filter_eq_some_iff]
        simp
      constructor
      · intro y hy
        obtain ⟨q, -, hqy⟩ := List.mem_filterMap.1 (List.mem_eraseDups.1 hy)
        obtain ⟨-, hne⟩ := hother.1 hqy
        refine ⟨p, List.mem_cons_self, hname, List.forall_mem_cons.2 ⟨fun hy => ?_, fun r hr _ => hp r hr⟩⟩
        exact absurd (Option.some.inj (hy.symm.trans hname)) hne
      · refine List.Pairwise.imp_of_mem ?_ (ih hl fun q => (f q).filter fun x => !x == name)
        rintro x y - hy ⟨q, hq, hqx, hqy⟩
        obtain ⟨r, -, hry⟩ := List.mem_filterMap.1 (List.mem_eraseDups.1 hy)
        obtain ⟨-, hne⟩ := hother.1 hry
        refine ⟨q, List.mem_cons_of_mem _ hq, (hother.1 hqx).1, List.forall_mem_cons.2 ⟨fun hy => ?_, fun r hr hy => ?_⟩⟩
        · exact absurd (Option.some.inj (hy.symm.trans hname)) hne
        · exact hqy r hr (hother.2 ⟨hy, hne⟩)

/-- The list has the names that nodes of the expression have, each once, in the order in which they
are first met: a whole before its parts, and the parts from left to right. -/
structure Lists (e : Expr) (name? : Expr → Option String) (names : List String) : Prop where
  nodup : names.Nodup
  mem : ∀ name, name ∈ names ↔ ∃ node a, e.at? node = some a ∧ name? a = some name
  ordered : names.Pairwise fun x y => ∃ node a, e.at? node = some a ∧ name? a = some x ∧
    ∀ other b, e.at? other = some b → name? b = some y → node.reverse < other.reverse

/-- The names in the order of their first occurrences are a list of them. -/
theorem lists_eraseDups (e : Expr) (name? : Expr → Option String) :
    e.Lists name? (e.nodes.filterMap name?).eraseDups := by
  have hnames : e.nodes.filterMap name? = (e.occurrences []).filterMap fun p => name? p.2 := by
    rw [← map_occurrences e [], List.filterMap_map]
    rfl
  have hordered := pairwise_eraseDups (pairwise_occurrences e []) fun p => name? p.2
  rw [← hnames] at hordered
  have hordered : (e.nodes.filterMap name?).eraseDups.Pairwise fun x y => ∃ node a, e.at? node = some a ∧
      name? a = some x ∧ ∀ other b, e.at? other = some b → name? b = some y → node.reverse < other.reverse := by
    refine hordered.imp ?_
    rintro x y ⟨⟨node, a⟩, hmem, hx, hy⟩
    exact ⟨node, a, mem_occurrences.1 hmem, hx, fun other b hb => hy (other, b) (mem_occurrences.2 hb)⟩
  refine ⟨hordered.imp ?_, fun name => ?_, hordered⟩
  · rintro x _ ⟨node, a, ha, hx, hfirst⟩ rfl
    exact absurd (hfirst node a ha hx) (List.lt_irrefl _)
  · rw [List.mem_eraseDups, hnames, List.mem_filterMap]
    constructor
    · rintro ⟨⟨node, a⟩, hmem, hname⟩
      exact ⟨node, a, mem_occurrences.1 hmem, hname⟩
    · rintro ⟨node, a, ha, hname⟩
      exact ⟨(node, a), mem_occurrences.2 ha, hname⟩

end EventRules.Expr
