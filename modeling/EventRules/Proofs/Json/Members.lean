import EventRules.Json.Document
import Mathlib.Data.List.Induction
import Mathlib.Data.List.Nodup

/-!
# Members of an object

What is found under a key after a member was written or removed, and that no key comes twice then if
none did before.
-/

namespace EventRules.Members

variable {members : Members} {key other : String} {value : Document}

/-- No key comes twice. -/
def Distinct (members : Members) : Prop :=
  (members.map (·.1)).Nodup

/-- Whether a key comes twice is seen from the keys. -/
instance (members : Members) : Decidable (Distinct members) :=
  inferInstanceAs (Decidable (List.Nodup _))

/-- The first member hides what stands under its key behind it. -/
lemma get?_cons (k : String) (d : Document) (rest : Members) (key : String) :
    get? ((k, d) :: rest) key = if key = k then some d else get? rest key := by
  unfold get?
  rw [List.lookup_cons]
  by_cases h : key = k
  · simp [h]
  · simp [h, beq_false_of_ne h]

/-- Under a key that no member has nothing is found. -/
lemma get?_eq_none (h : key ∉ members.map (·.1)) : get? members key = none := by
  refine List.lookup_eq_none_iff.2 fun p hp => ?_
  have hne : key ≠ p.1 := fun heq => h (heq ▸ List.mem_map_of_mem hp)
  simpa using hne

/-- Where no key comes twice, what is found is what is there. -/
lemma get?_eq_some (h : Distinct members) : get? members key = some value ↔ (key, value) ∈ members := by
  induction members with
  | nil => simp [get?]
  | cons member rest ih =>
    obtain ⟨k, d⟩ := member
    obtain ⟨hfirst, hrest⟩ := List.nodup_cons.1 h
    rw [get?_cons, List.mem_cons, ← ih hrest]
    split
    case isTrue hk =>
      subst hk
      rw [get?_eq_none hfirst]
      simp [eq_comm]
    case isFalse hk => simp [hk]

/-- The order of members does not matter to what is found. -/
lemma get?_perm {members' : Members} (h : Distinct members) (hperm : members.Perm members') (key : String) :
    get? members key = get? members' key := by
  have h' : Distinct members' := (hperm.map _).nodup_iff.1 h
  refine Option.ext fun value => ?_
  rw [get?_eq_some h, get?_eq_some h']
  exact hperm.mem_iff

/-- Objects under whose keys the same is found differ in the order of their members only. -/
lemma perm_of_get? {members' : Members} (h : Distinct members) (h' : Distinct members')
    (hget : ∀ key, get? members key = get? members' key) : members.Perm members' := by
  refine (List.perm_ext_iff_of_nodup (List.Nodup.of_map _ h) (List.Nodup.of_map _ h')).2 fun p => ?_
  obtain ⟨key, value⟩ := p
  rw [← get?_eq_some h, ← get?_eq_some h', hget]

/-- After a member was written there are no others than it and those of before. -/
lemma mem_insert {p : String × Document} (h : p ∈ insert members key value) : p = (key, value) ∨ p ∈ members := by
  induction members with
  | nil => exact .inl (List.mem_singleton.1 h)
  | cons member rest ih =>
    obtain ⟨k, d⟩ := member
    rw [insert] at h
    split at h
    · rcases List.mem_cons.1 h with h | h
      · exact .inl h
      · exact .inr (List.mem_cons_of_mem _ h)
    · rcases List.mem_cons.1 h with h | h
      · exact .inr (h ▸ List.mem_cons_self)
      · exact (ih h).imp_right (List.mem_cons_of_mem _)

/-- Under the key that was written is the new value, and under all others what was there. -/
lemma get?_insert (members : Members) (key : String) (value : Document) (other : String) :
    get? (insert members key value) other = if other = key then some value else get? members other := by
  induction members with
  | nil => exact get?_cons key value [] other
  | cons member rest ih =>
    obtain ⟨k, d⟩ := member
    rw [insert]
    split
    case isTrue hk =>
      subst hk
      rw [get?_cons, get?_cons]
      split <;> rfl
    case isFalse hk =>
      rw [get?_cons, ih, get?_cons]
      by_cases ho : other = k
      · have hne : other ≠ key := fun h => hk (ho.symm.trans h)
        rw [if_pos ho, if_neg hne, if_pos ho]
      · rw [if_neg ho, if_neg ho]

/-- To write a member makes no key come twice. -/
lemma Distinct.insert (h : Distinct members) (key : String) (value : Document) :
    Distinct (Members.insert members key value) := by
  induction members with
  | nil => exact List.nodup_singleton _
  | cons member rest ih =>
    obtain ⟨k, d⟩ := member
    obtain ⟨hfirst, hrest⟩ := List.nodup_cons.1 h
    rw [Members.insert]
    split
    case isTrue hk =>
      subst hk
      exact List.nodup_cons.2 ⟨hfirst, hrest⟩
    case isFalse hk =>
      refine List.nodup_cons.2 ⟨fun hmem => ?_, ih hrest⟩
      obtain ⟨p, hp, hkey⟩ := List.mem_map.1 hmem
      rcases mem_insert hp with rfl | hp
      · exact hk hkey.symm
      · exact hfirst (hkey ▸ List.mem_map_of_mem hp)

/-- There is nothing to remove where no member has the key. -/
lemma remove_absent (h : key ∉ members.map (·.1)) : remove members key = members := by
  induction members with
  | nil => rfl
  | cons member rest ih =>
    obtain ⟨k, d⟩ := member
    obtain ⟨hk, hrest⟩ := not_or.1 (mt List.mem_cons.2 h)
    rw [remove, if_neg (Ne.symm hk), ih hrest]

/-- To remove a key that is there takes away its member and rearranges the others. -/
lemma remove_perm (h : key ∈ members.map (·.1)) : ∃ value, members.Perm ((key, value) :: remove members key) := by
  induction members with
  | nil => cases h
  | cons member rest ih =>
    obtain ⟨k, d⟩ := member
    rw [remove]
    split
    case isTrue hk =>
      subst hk
      refine ⟨d, List.Perm.cons _ ?_⟩
      -- The last member takes the place of the one that goes.
      cases hlast : rest.getLast? with
      | none => rw [List.getLast?_eq_none_iff.1 hlast]
      | some last =>
        obtain ⟨front, rfl⟩ := List.getLast?_eq_some_iff.1 hlast
        rw [List.dropLast_concat]
        exact List.perm_append_singleton last front
    case isFalse hk =>
      obtain ⟨value, hrest⟩ := ih ((List.mem_cons.1 h).resolve_left (Ne.symm hk))
      exact ⟨value, (hrest.cons _).trans (List.Perm.swap _ _ _)⟩

/-- To remove a member makes no key come twice, although the last one moves into its place. -/
lemma Distinct.remove (h : Distinct members) (key : String) : Distinct (Members.remove members key) := by
  by_cases hkey : key ∈ members.map (·.1)
  · obtain ⟨value, hperm⟩ := remove_perm hkey
    exact (List.nodup_cons.1 ((hperm.map _).nodup_iff.1 h)).2
  · rw [remove_absent hkey]
    exact h

/-- Under the key that was removed nothing is left, and under all others what was there. -/
lemma get?_remove (h : Distinct members) (key other : String) :
    get? (remove members key) other = if other = key then none else get? members other := by
  by_cases hkey : key ∈ members.map (·.1)
  · obtain ⟨value, hperm⟩ := remove_perm hkey
    rw [get?_perm h hperm, get?_cons]
    split
    case isTrue ho =>
      subst ho
      exact get?_eq_none (List.nodup_cons.1 ((hperm.map _).nodup_iff.1 h)).1
    case isFalse => rfl
  · rw [remove_absent hkey]
    split
    case isTrue ho => exact get?_eq_none (ho ▸ hkey)
    case isFalse => rfl

/-- A member with a new key comes last. -/
lemma insert_last (h : key ∉ members.map (·.1)) :
    insert members key value = members ++ [(key, value)] := by
  induction members with
  | nil => rfl
  | cons member rest ih =>
    obtain ⟨k, v⟩ := member
    obtain ⟨hk, hrest⟩ := not_or.1 (mt List.mem_cons.2 h)
    have hk : k ≠ key := fun heq => hk heq.symm
    rw [insert, if_neg hk, ih hrest]
    rfl

/-- Members with different keys are the members of an object as they are. -/
lemma ofPairs_eq {pairs : List (String × Document)} (h : Distinct pairs) : ofPairs pairs = pairs := by
  induction pairs using List.reverseRecOn with
  | nil => rfl
  | append_singleton pairs pair ih =>
    have hnodup : (pairs.map (·.1) ++ [pair.1]).Nodup := by simpa [Distinct] using h
    obtain ⟨hpairs, -, hnew⟩ := List.nodup_append.1 hnodup
    have hlast : pair.1 ∉ pairs.map (·.1) := fun hmem => hnew _ hmem _ (List.mem_singleton_self _) rfl
    have hstep : ofPairs (pairs ++ [pair]) = insert (ofPairs pairs) pair.1 pair.2 := List.foldl_concat ..
    rw [hstep, ih hpairs, insert_last hlast]

end EventRules.Members
