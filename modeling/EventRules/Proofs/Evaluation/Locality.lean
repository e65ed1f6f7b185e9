import EventRules.Proofs.Evaluation.Order

/-!
# Events at one node

All that happens at a node or below it is an unbroken piece of the trace of the whole expression, and
that piece is the trace of the node. So what holds of a call or of a test by itself holds of it within
every expression.
-/

namespace EventRules.Expr

variable {σ φ : Type} {calls : Calls σ φ} {vars : Resolver} {e a : Expr} {s t : σ} {node other : Address} {i : Nat}
  {events inner front back : List (Event φ)} {x y ev : Event φ}

/-- Something happens at the node or below it. -/
def Entered (events : List (Event φ)) (node : Address) : Prop :=
  ∃ ev ∈ events, node <:+ ev.node

/-- Wherever `y` happens, `x` has happened before. -/
def Before (events : List (Event φ)) (x y : Event φ) : Prop :=
  ∀ before after, events = before ++ y :: after → x ∈ before

/-- What is in the front part comes before what is not. -/
lemma Before.of_mem (hx : x ∈ front) (hy : y ∉ front) : Before (front ++ back) x y := by
  intro start rest h
  rcases List.append_eq_append_iff.1 h with ⟨more, rfl, -⟩ | ⟨more, rfl, hmore⟩
  · exact List.mem_append_left _ hx
  · cases more with
    | nil => simpa using hx
    | cons z more =>
      obtain ⟨rfl, -⟩ := List.cons.inj hmore
      exact absurd (List.mem_append_right _ List.mem_cons_self) hy

/-- Later events do not come before an event that is not among them. -/
lemma Before.append_right (h : Before events x y) (hy : y ∉ back) : Before (events ++ back) x y := by
  intro start rest heq
  rcases List.append_eq_append_iff.1 heq with ⟨more, rfl, hmore⟩ | ⟨more, rfl, hmore⟩
  · rw [hmore] at hy
    exact absurd (List.mem_append_right _ List.mem_cons_self) hy
  · cases more with
    | nil =>
      rw [← List.nil_append back, ← hmore] at hy
      exact absurd List.mem_cons_self hy
    | cons z more =>
      obtain ⟨rfl, -⟩ := List.cons.inj hmore
      exact h start more rfl

/-- Earlier events leave the order of the others, if the second one is not among them. -/
lemma Before.append_left (h : Before events x y) (hy : y ∉ front) : Before (front ++ events) x y := by
  intro start rest heq
  rcases List.append_eq_append_iff.1 heq with ⟨more, rfl, hmore⟩ | ⟨more, rfl, hmore⟩
  · exact List.mem_append_right _ (h more rest hmore)
  · cases more with
    | nil => simpa using h [] rest hmore.symm
    | cons z more =>
      obtain ⟨rfl, -⟩ := List.cons.inj hmore
      exact absurd (List.mem_append_right _ List.mem_cons_self) hy

/-- All that happens at a node or below it is an unbroken piece of the events. -/
inductive Surrounds (node : Address) : List (Event φ) → List (Event φ) → Prop
  | intro {front inner back : List (Event φ)} :
    ¬Entered front node → ¬Entered back node → Surrounds node (front ++ inner ++ back) inner

namespace Surrounds

/-- A trace surrounds itself. -/
lemma refl (node : Address) (events : List (Event φ)) : Surrounds node events events := by
  have h : Surrounds node ([] ++ events ++ []) events := .intro (by simp [Entered]) (by simp [Entered])
  simpa using h

/-- Whatever happens at the node or below is in the piece. -/
lemma mem_iff (h : Surrounds node events inner) (hev : node <:+ ev.node) : ev ∈ events ↔ ev ∈ inner := by
  cases h with
  | intro hfront hback =>
    constructor
    · intro hmem
      simp only [List.mem_append] at hmem
      rcases hmem with (hmem | hmem) | hmem
      · exact absurd ⟨ev, hmem, hev⟩ hfront
      · exact hmem
      · exact absurd ⟨ev, hmem, hev⟩ hback
    · intro hmem
      exact List.mem_append_left _ (List.mem_append_right _ hmem)

/-- A node below is entered just if it is in the piece. -/
lemma entered_iff (h : Surrounds node events inner) (hother : node <:+ other) :
    Entered events other ↔ Entered inner other := by
  constructor
  · rintro ⟨ev, hmem, hev⟩
    exact ⟨ev, (h.mem_iff (hother.trans hev)).1 hmem, hev⟩
  · rintro ⟨ev, hmem, hev⟩
    exact ⟨ev, (h.mem_iff (hother.trans hev)).2 hmem, hev⟩

/-- What comes first in the piece comes first in the trace. -/
lemma before (h : Surrounds node events inner) (hy : node <:+ y.node) (hbefore : Before inner x y) :
    Before events x y := by
  cases h with
  | intro hfront hback =>
    refine (hbefore.append_left ?_).append_right ?_
    · exact fun hmem => hfront ⟨y, hmem, hy⟩
    · exact fun hmem => hback ⟨y, hmem, hy⟩

/-- A piece of a piece is a piece of the trace. -/
lemma trans (h : Surrounds node events inner) (hother : node <:+ other) {innermost : List (Event φ)}
    (h' : Surrounds other inner innermost) : Surrounds other events innermost := by
  cases h with
  | @intro front inner back hfront hback =>
    cases h' with
    | @intro front' inner' back' hfront' hback' =>
      have houter {piece : List (Event φ)} (hpiece : ¬Entered piece node) : ¬Entered piece other := by
        rintro ⟨ev, hmem, hev⟩
        exact hpiece ⟨ev, hmem, hother.trans hev⟩
      have hboth {piece piece' : List (Event φ)} (hpiece : ¬Entered piece other) (hpiece' : ¬Entered piece' other) :
          ¬Entered (piece ++ piece') other := by
        rintro ⟨ev, hmem, hev⟩
        rcases List.mem_append.1 hmem with hmem | hmem
        · exact hpiece ⟨ev, hmem, hev⟩
        · exact hpiece' ⟨ev, hmem, hev⟩
      have heq : front ++ (front' ++ innermost ++ back') ++ back =
          (front ++ front') ++ innermost ++ (back' ++ back) := by
        simp only [List.append_assoc]
      rw [heq]
      exact .intro (hboth (houter hfront) hfront') (hboth hback' (houter hback))

end Surrounds

/-! ## A part within its whole -/

/-- No address is below itself. -/
lemma not_suffix_self (i : Nat) (node : Address) : ¬i :: node <:+ node :=
  fun h => absurd h.length_le (Nat.not_succ_le_self _)

/-- A trace begins at its own node. -/
lemma began_mem_trace (e : Expr) (node : Address) (s : σ) : .began node ∈ e.trace calls vars node s := by
  rw [trace_eq]
  exact List.mem_cons_self

/-- A trace ends at its own node. -/
lemma ended_mem_trace (e : Expr) (node : Address) (s : σ) :
    .ended node (e.evaluate calls vars s).1 ∈ e.trace calls vars node s := by
  rw [trace_eq]
  exact List.mem_cons_of_mem _ (List.mem_append_right _ List.mem_cons_self)

/-- What the visits tell is at their nodes or below. -/
lemma mem_traces {vs : List (Visit σ)} (h : ev ∈ traces calls vars node vs) :
    ∃ v ∈ vs, v.position :: node <:+ ev.node := by
  obtain ⟨v, hv, hmem⟩ := List.mem_flatMap.1 h
  exact ⟨v, hv, suffix_of_mem_trace hmem⟩

/-- What the trace of a visited part tells is told by the trace of the node. -/
lemma mem_trace_of_visit {v : Visit σ} (hv : v ∈ visits calls vars e s)
    (h : ev ∈ v.part.trace calls vars (v.position :: node) v.start) : ev ∈ e.trace calls vars node s := by
  rw [trace_eq]
  refine List.mem_cons_of_mem _ (List.mem_append_left _ (List.mem_append_left _ (List.mem_append_right _ ?_)))
  exact List.mem_flatMap.2 ⟨v, hv, h⟩

/-- What happens below a part happens while the part is evaluated. -/
lemma mem_trace_part (h : ev ∈ e.trace calls vars node s) (hbelow : i :: node <:+ ev.node) :
    ∃ v ∈ visits calls vars e s, v.position = i ∧ ev ∈ v.part.trace calls vars (i :: node) v.start := by
  rcases mem_trace h with hnode | ⟨v, hv, hmem⟩
  · rw [hnode] at hbelow
    exact absurd hbelow (not_suffix_self i node)
  · obtain rfl := position_unique (suffix_of_mem_trace hmem) hbelow
    exact ⟨v, hv, rfl, hmem⟩

/-- Something happens at a part exactly if the part is evaluated. -/
lemma entered_trace : Entered (e.trace calls vars node s) (i :: node) ↔
    ∃ v ∈ visits calls vars e s, v.position = i := by
  constructor
  · rintro ⟨ev, hmem, hev⟩
    obtain ⟨v, hv, hposition, -⟩ := mem_trace_part hmem hev
    exact ⟨v, hv, hposition⟩
  · rintro ⟨v, hv, rfl⟩
    exact ⟨.began (v.position :: node), mem_trace_of_visit hv (began_mem_trace _ _ _), List.suffix_rfl⟩

/-- Parts are visited once each. -/
lemma visits_positions (calls : Calls σ φ) (vars : Resolver) (e : Expr) (s : σ) :
    ((visits calls vars e s).map Visit.position).Nodup := by
  have hsub := (visits_sublist calls vars e s).map Prod.snd
  rw [List.map_map, List.zipIdx_map_snd] at hsub
  exact hsub.nodup List.nodup_range'

/-- A part is evaluated once or not at all. -/
lemma part_surrounds (h : e.parts[i]? = some a) (hentered : Entered (e.trace calls vars node s) (i :: node)) :
    ∃ t, Surrounds (i :: node) (e.trace calls vars node s) (a.trace calls vars (i :: node) t) := by
  obtain ⟨v, hv, rfl⟩ := entered_trace.1 hentered
  have hpart : v.part = a := by
    have hmem := (visits_sublist calls vars e s).subset (List.mem_map_of_mem (f := fun v => (v.part, v.position)) hv)
    rw [List.mem_zipIdx_iff_getElem?, h] at hmem
    exact (Option.some.inj hmem).symm
  refine ⟨v.start, ?_⟩
  obtain ⟨vs, vs', hsplit⟩ := List.append_of_mem hv
  have hnodup := visits_positions calls vars e s
  rw [hsplit, List.map_append, List.map_cons, List.nodup_middle, List.nodup_cons, List.mem_append] at hnodup
  -- No other visit has the position of this one.
  have hothers {piece : List (Visit σ)} (hpiece : v.position ∉ piece.map Visit.position) :
      ¬Entered (traces calls vars node piece) (v.position :: node) := by
    rintro ⟨ev, hmem, hev⟩
    obtain ⟨w, hw, hbelow⟩ := mem_traces hmem
    exact hpiece (List.mem_map.2 ⟨w, hw, position_unique hbelow hev⟩)
  -- Nothing before the visit is at its node or below: the opening is at the node above, other visits are
  -- elsewhere.
  have hstart : ¬Entered (.began node :: (opening calls node e s ++ traces calls vars node vs))
      (v.position :: node) := by
    rintro ⟨ev, hmem, hev⟩
    simp only [List.mem_cons, List.mem_append] at hmem
    rcases hmem with rfl | hmem | hmem
    · exact not_suffix_self _ _ hev
    · rw [node_of_mem_opening hmem] at hev
      exact not_suffix_self _ _ hev
    · exact hothers (fun hw => hnodup.1 (.inl hw)) ⟨ev, hmem, hev⟩
  have hrest : ¬Entered (traces calls vars node vs' ++ closing calls vars node e s ++
      [.ended node (e.evaluate calls vars s).1]) (v.position :: node) := by
    rintro ⟨ev, hmem, hev⟩
    simp only [List.mem_cons, List.mem_append, List.not_mem_nil, or_false] at hmem
    rcases hmem with (hmem | hmem) | rfl
    · exact hothers (fun hw => hnodup.1 (.inr hw)) ⟨ev, hmem, hev⟩
    · rw [node_of_mem_closing hmem] at hev
      exact not_suffix_self _ _ hev
    · exact not_suffix_self _ _ hev
  have hsurrounds : Surrounds (v.position :: node) _ (v.part.trace calls vars (v.position :: node) v.start) :=
    .intro hstart hrest
  rw [trace_eq, hsplit, ← hpart]
  simpa [traces] using hsurrounds

/-- What happens at a node and below it is the trace of the node, unless nothing happens there. -/
theorem trace_surrounds (h : e.at? node = some a) (hentered : Entered (e.trace calls vars [] s) node) :
    ∃ t, Surrounds node (e.trace calls vars [] s) (a.trace calls vars node t) := by
  induction node generalizing a with
  | nil =>
    cases h
    exact ⟨s, .refl _ _⟩
  | cons i node ih =>
    obtain ⟨above, habove, hpart⟩ := at?_cons.1 h
    have hbelow : node <:+ i :: node := List.suffix_cons _ _
    have habovein : Entered (e.trace calls vars [] s) node := by
      obtain ⟨ev, hmem, hev⟩ := hentered
      exact ⟨ev, hmem, hbelow.trans hev⟩
    obtain ⟨t, hsurrounds⟩ := ih habove habovein
    obtain ⟨u, hsurrounds'⟩ := part_surrounds hpart ((hsurrounds.entered_iff hbelow).1 hentered)
    exact ⟨u, hsurrounds.trans hbelow hsurrounds'⟩

/-- Whatever happens, happens at a node of the expression. -/
lemma exists_at?_of_mem_trace (h : e.at? node = some a) (hmem : ev ∈ a.trace calls vars node s) :
    ∃ b, e.at? ev.node = some b := by
  induction a using parts_induction generalizing node s with
  | h a ih =>
    rcases mem_trace hmem with hnode | ⟨v, hv, hmem⟩
    · rw [hnode]
      exact ⟨a, h⟩
    · have hpart := (visits_sublist calls vars a s).subset (List.mem_map_of_mem (f := fun v => (v.part, v.position)) hv)
      rw [List.mem_zipIdx_iff_getElem?] at hpart
      exact ih v.part (mem_parts_of_mem_visits hv) (at?_cons.2 ⟨a, h, hpart⟩) hmem

end EventRules.Expr
