import EventRules.Keyed
import Mathlib.Data.String.Basic

/-!
# Maps from texts

What a lookup finds after an insertion, for which the order of the keys does not matter, and that
insertions keep the keys in order.
-/

namespace EventRules.Keyed

universe u

variable {α : Type u} {entries : Keyed α} {key : String} {value : α}

/-- Lookup asks the first entry and then the others. -/
lemma get?_cons (k : String) (v : α) (entries : Keyed α) (key : String) :
    get? ((k, v) :: entries) key = if key = k then some v else get? entries key := by
  unfold get?
  rw [List.lookup_cons]
  by_cases h : key = k
  · simp [h]
  · simp [h, beq_false_of_ne h]

/-- An insertion changes what is found under its key, and nothing else. -/
lemma get?_insert (entries : Keyed α) (key : String) (value : α) (other : String) :
    get? (insert entries key value) other = if other = key then some value else get? entries other := by
  induction entries with
  | nil => exact get?_cons key value [] other
  | cons entry entries ih =>
    obtain ⟨k, v⟩ := entry
    rw [insert]
    split
    case isTrue => rw [get?_cons key]
    case isFalse =>
      split
      case isTrue hk =>
        subst hk
        rw [get?_cons, get?_cons]
        split <;> rfl
      case isFalse hk =>
        rw [get?_cons, ih, get?_cons]
        by_cases ho : other = k
        · have hne : other ≠ key := fun h => hk (h.symm.trans ho)
          rw [if_pos ho, if_neg hne, if_pos ho]
        · rw [if_neg ho, if_neg ho]

/-- A key that is found is among the keys. -/
lemma mem_keys (h : get? entries key = some value) : key ∈ keys entries := by
  unfold get? at h
  obtain ⟨l₁, l₂, rfl, -⟩ := List.lookup_eq_some_iff.1 h
  simp [keys]

/-- The keys increase, so that each comes once. -/
def Sorted (entries : Keyed α) : Prop :=
  entries.Pairwise fun p q => p.1 < q.1

/-- What is in a map after an insertion is the new entry or was there before. -/
lemma mem_insert {p : String × α} (h : p ∈ insert entries key value) : p = (key, value) ∨ p ∈ entries := by
  induction entries with
  | nil => exact .inl (List.mem_singleton.1 h)
  | cons entry rest ih =>
    obtain ⟨k, v⟩ := entry
    rw [insert] at h
    split at h
    · exact List.mem_cons.1 h
    · split at h
      · rcases List.mem_cons.1 h with h | h
        · exact .inl h
        · exact .inr (List.mem_cons_of_mem _ h)
      · rcases List.mem_cons.1 h with h | h
        · exact .inr (h ▸ List.mem_cons_self)
        · exact (ih h).imp_right (List.mem_cons_of_mem _)

/-- Of a sorted map every entry is found. -/
lemma Sorted.get?_of_mem (h : Sorted entries) (hmem : (key, value) ∈ entries) : get? entries key = some value := by
  induction entries with
  | nil => cases hmem
  | cons entry rest ih =>
    obtain ⟨k, v⟩ := entry
    obtain ⟨hfirst, hrest⟩ := List.pairwise_cons.1 h
    rw [get?_cons]
    cases hmem with
    | head => rw [if_pos rfl]
    | tail _ hmem => rw [if_neg (ne_of_gt (hfirst _ hmem)), ih hrest hmem]

/-- Insertion keeps the keys in order. -/
lemma Sorted.insert (h : Sorted entries) (key : String) (value : α) : Sorted (Keyed.insert entries key value) := by
  induction entries with
  | nil => exact List.pairwise_singleton _ _
  | cons entry rest ih =>
    obtain ⟨k, v⟩ := entry
    obtain ⟨hfirst, hrest⟩ := List.pairwise_cons.1 h
    rw [Keyed.insert]
    split
    case isTrue hlt =>
      refine List.pairwise_cons.2 ⟨fun q hq => ?_, h⟩
      rcases List.mem_cons.1 hq with rfl | hq
      · exact hlt
      · exact lt_trans hlt (hfirst q hq)
    case isFalse hge =>
      split
      case isTrue heq =>
        subst heq
        exact List.pairwise_cons.2 ⟨hfirst, hrest⟩
      case isFalse hne =>
        refine List.pairwise_cons.2 ⟨fun q hq => ?_, ih hrest⟩
        rcases mem_insert hq with rfl | hq
        · exact lt_of_le_of_ne (not_lt.1 hge) (Ne.symm hne)
        · exact hfirst q hq

/-- A key beyond all others goes last. -/
lemma insert_last (h : ∀ p ∈ entries, p.1 < key) : insert entries key value = entries ++ [(key, value)] := by
  induction entries with
  | nil => rfl
  | cons entry rest ih =>
    obtain ⟨k, v⟩ := entry
    have hlt : k < key := h (k, v) List.mem_cons_self
    rw [insert, if_neg (lt_asymm hlt), if_neg (ne_of_gt hlt), ih fun p hp => h p (List.mem_cons_of_mem _ hp)]
    rfl

/-- A new key adds its entry to those that are there. -/
lemma insert_perm (h : key ∉ keys entries) : (insert entries key value).Perm ((key, value) :: entries) := by
  induction entries with
  | nil => exact .refl _
  | cons entry rest ih =>
    obtain ⟨k, v⟩ := entry
    obtain ⟨hne, hrest⟩ := not_or.1 (mt List.mem_cons.2 h)
    have hne : key ≠ k := hne
    rw [insert, if_neg hne]
    split
    case isTrue => exact .refl _
    case isFalse => exact ((ih hrest).cons _).trans (.swap _ _ _)

/-- What comes out of insertions is sorted, and all its entries were there or were inserted. -/
lemma foldl_insert (pairs : List (String × α)) (h : Sorted entries) :
    Sorted (pairs.foldl (fun done p => insert done p.1 p.2) entries) ∧
      ∀ p ∈ pairs.foldl (fun done p => insert done p.1 p.2) entries, p ∈ pairs ∨ p ∈ entries := by
  induction pairs generalizing entries with
  | nil => exact ⟨h, fun p hp => .inr hp⟩
  | cons pair pairs ih =>
    obtain ⟨hsorted, hmem⟩ := ih (h.insert pair.1 pair.2)
    refine ⟨hsorted, fun p hp => ?_⟩
    rcases hmem p hp with hp | hp
    · exact .inl (List.mem_cons_of_mem _ hp)
    · rcases mem_insert hp with rfl | hp
      · exact .inl List.mem_cons_self
      · exact .inr hp

/-- A map made of pairs is in order. -/
lemma sorted_ofPairs (pairs : List (String × α)) : Sorted (ofPairs pairs) :=
  (foldl_insert pairs List.Pairwise.nil).1

end EventRules.Keyed
