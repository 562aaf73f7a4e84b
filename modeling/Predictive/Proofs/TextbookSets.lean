import Predictive.Proofs.FollowContext

/-!
# FIRST and FOLLOW by derivations

In the textbook, FIRST of a symbol holds the terminals that start what the symbol derives, and
FOLLOW the terminals that come after it in what a non-terminal derives, with the end marker for what
ends a form derived from a start symbol. Main statement: in the grammars in which one leading symbol
is enough, the sets computed are these (`first_follow_iff_derives`).

A symbol that inheritance reaches derives a form that ends with the symbol where inheritance started
(`exists_derives_of_inherits`), so what it gathers comes after that symbol; the converse is
`mem_followMembers_of_adjacent`.
-/

namespace Predictive.Grammar

open Relation (ReflTransGen TransGen)

/-- The end marker is no symbol of the rules. -/
structure EndReserved (g : Grammar) : Prop where
  /-- The end marker has no rule. -/
  isTerminal : g.isTerminal endMarker = true
  /-- The end marker is in no alternative. -/
  occursNowhere : g.OccursNowhere endMarker

variable {g : Grammar} {s t : Symbol}

/-- Only the end marker leads to the end marker. -/
theorem EndReserved.eq_of_leads (hend : g.EndReserved) (h : ReflTransGen g.LeadsTo s endMarker) :
    s = endMarker := by
  rcases h.cases_tail with heq | ⟨a, -, r, hr, p, hp, hlead⟩
  · exact heq.symm
  · have hocc : g.Occurs a [] endMarker p.rest :=
      ⟨p, hasAlternative_of_rule? hr hp, by rw [← hlead]; rfl⟩
    exact absurd hocc (hend.occursNowhere a [] p.rest)

namespace LeadExact

/-- A place of a symbol is a place in a form that the owner derives. -/
theorem derives_of_occurs (hg : g.LeadExact) {owner : Symbol} {before after : List Symbol}
    (h : g.Occurs owner before s after) (hs : s ≠ epsilon) :
    g.Derives [owner] (before ++ s :: after) := by
  obtain ⟨p, hp, hsymbols⟩ := h
  have hmem : s ∈ p.symbols := by rw [hsymbols]; simp
  rw [← hsymbols, ← hg.body_of_mem hp hmem hs]
  exact derives_body hp

/-- A symbol next to another is not the token for the empty string, and neither is the other. -/
theorem ne_epsilon_of_occurs (hg : g.LeadExact) {owner next : Symbol} {before rest : List Symbol}
    (h : g.Occurs owner before s (next :: rest)) : s ≠ epsilon ∧ next ≠ epsilon := by
  obtain ⟨p, hp, hsymbols⟩ := h
  have hnot : epsilon ∉ p.symbols := by
    intro he
    have hlen := congrArg List.length (hsymbols.symm.trans (hg.epsilon_alone owner p hp he))
    simp only [List.length_append, List.length_cons, List.length_nil] at hlen
    omega
  rw [hsymbols] at hnot
  constructor
  · rintro rfl
    exact hnot (by simp)
  · rintro rfl
    exact hnot (by simp)

/-- An owner that a symbol inherits from derives a form that ends with the symbol. -/
theorem exists_derives_of_inherits_step (hg : g.LeadExact) {owner : Symbol}
    (h : g.Inherits s owner) (hs : s ≠ epsilon) : ∃ before, g.Derives [owner] (before ++ [s]) := by
  rcases h with ⟨before, hocc, -⟩ | ⟨before, next, rest, hocc, hnext⟩
  · exact ⟨before, hg.derives_of_occurs hocc hs⟩
  · obtain ⟨set, hset, hmem⟩ := hnext
    have hlead : ReflTransGen g.LeadsTo next epsilon := (mem_of_firstFrom_eq_ok hset).1 hmem |>.1
    have hempty : g.Derives [next] [] :=
      hg.derives_nil_of_leads_epsilon hlead (hg.ne_epsilon_of_occurs hocc).2
    obtain rfl : rest = [] := by
      obtain ⟨p, hp, hsymbols⟩ := hocc
      refine hg.emptyLast_symbols owner p hp (before ++ [s]) next rest ?_ hempty
      rw [hsymbols, List.append_assoc, List.singleton_append]
    refine ⟨before, (hg.derives_of_occurs hocc hs).trans ?_⟩
    have h := derives_append (u := before ++ [s]) .refl hempty
    rwa [List.append_nil, List.append_assoc, List.singleton_append] at h

/-- A symbol that inheritance reaches derives a form that ends with the symbol where it started. -/
theorem exists_derives_of_inherits (hg : g.LeadExact) {x : Symbol}
    (h : ReflTransGen g.Inherits s x) (hs : s ≠ epsilon) :
    ∃ before, g.Derives [x] (before ++ [s]) := by
  induction h using ReflTransGen.head_induction_on with
  | refl => exact ⟨[], .refl⟩
  | @head a owner howner _ ih =>
    obtain ⟨p, hp⟩ : ∃ p, g.HasAlternative owner p := by
      rcases howner with ⟨_, ⟨p, hp, -⟩, -⟩ | ⟨_, _, _, ⟨p, hp, -⟩, -⟩ <;> exact ⟨p, hp⟩
    obtain ⟨before, hbefore⟩ := ih (hg.ne_epsilon hp)
    obtain ⟨between, hbetween⟩ := hg.exists_derives_of_inherits_step howner hs
    refine ⟨before ++ between, hbefore.trans ?_⟩
    rw [List.append_assoc]
    exact derives_append .refl hbetween

/-- A terminal is in FOLLOW of a symbol exactly when it comes next to the symbol in a form that a
non-terminal derives. -/
theorem mem_followMembers_iff_derives (hg : g.LeadExact)
    (hfirst : ∀ s, ∃ set, g.first s = .ok set) (hs : s ≠ epsilon) (ht : g.isTerminal t = true)
    (hte : t ≠ epsilon) (htm : t ≠ endMarker) :
    t ∈ g.followMembers s ↔ ∃ a before after, g.isNonTerminal a = true ∧
      g.Derives [a] (before ++ s :: t :: after) := by
  constructor
  · intro hmem
    obtain ⟨set, hset⟩ := exists_follow_eq_ok hfirst s
    obtain ⟨x, hx, hgathers⟩ := (mem_followMembers_iff hset).1 hmem
    rcases hgathers with ⟨-, htm'⟩ | ⟨owner, before, next, rest, hocc, hnext, -⟩
    · exact absurd htm' htm
    obtain ⟨nextFirst, hnf⟩ := hfirst next
    obtain ⟨w, hw⟩ :=
      hg.exists_derives_cons_of_leads ((mem_firstMembers_iff hnf).1 hnext).1 hte
    obtain ⟨between, hbetween⟩ := hg.exists_derives_of_inherits hx hs
    have howner : g.isNonTerminal owner = true := by
      obtain ⟨p, hp, -⟩ := hocc
      rw [isNonTerminal, isTerminal_eq_false_of_hasAlternative hp]
      rfl
    have hderives : g.Derives [owner] (before ++ ((between ++ [s]) ++ ((t :: w) ++ rest))) := by
      refine (hg.derives_of_occurs hocc (hg.ne_epsilon_of_occurs hocc).1).trans ?_
      exact derives_append .refl (derives_append (u := [x]) hbetween
        (derives_append (u := [next]) hw .refl))
    refine ⟨owner, before ++ between, w ++ rest, howner, ?_⟩
    simpa using hderives
  · rintro ⟨a, before, after, -, h⟩
    rcases eq_or_exists_spans_body h with hlen | ⟨p, trees, hp, htrees⟩
    · have hlen := congrArg List.length hlen
      simp only [List.length_append, List.length_cons, List.length_nil] at hlen
      omega
    · exact mem_followMembers_of_adjacent hg hfirst (isTail_body hp) htrees ht hte

/-- The end marker is in FOLLOW of a symbol exactly when the symbol ends a form that is derived from
a symbol that occurs nowhere. -/
theorem endMarker_mem_followMembers_iff (hg : g.LeadExact) (hend : g.EndReserved)
    (hfirst : ∀ s, ∃ set, g.first s = .ok set) (hs : s ≠ epsilon) :
    endMarker ∈ g.followMembers s ↔ ∃ a before, g.OccursNowhere a ∧
      g.Derives [a] (before ++ [s]) := by
  constructor
  · intro hmem
    obtain ⟨set, hset⟩ := exists_follow_eq_ok hfirst s
    obtain ⟨x, hx, hgathers⟩ := (mem_followMembers_iff hset).1 hmem
    rcases hgathers with ⟨hnowhere, -⟩ | ⟨owner, before, next, rest, hocc, hnext, -⟩
    · obtain ⟨before, hbefore⟩ := hg.exists_derives_of_inherits hx hs
      exact ⟨x, before, hnowhere, hbefore⟩
    · -- The end marker would stand next to a symbol.
      obtain ⟨nextFirst, hnf⟩ := hfirst next
      obtain rfl := hend.eq_of_leads ((mem_firstMembers_iff hnf).1 hnext).1
      obtain ⟨p, hp, hsymbols⟩ := hocc
      refine absurd ⟨p, hp, ?_⟩ (hend.occursNowhere owner (before ++ [x]) rest)
      rw [hsymbols, List.append_assoc, List.singleton_append]
  · rintro ⟨a, before, hnowhere, h⟩
    have ha : endMarker ∈ g.followMembers a :=
      mem_followMembers_of_gathers hfirst (.inl ⟨hnowhere, rfl⟩)
    rcases eq_or_exists_spans_body h with heq | ⟨p, trees, hp, htrees⟩
    · have heq : before ++ [s] = [] ++ [a] := heq
      obtain ⟨-, hsa⟩ := List.append_inj' heq rfl
      rw [(List.cons.inj hsa).1]
      exact ha
    · exact followMembers_subset_of_last hg hfirst (isTail_body hp) htrees ha

end LeadExact

/-- In a grammar in which one leading symbol is enough, whose leading symbols form no cycle and in
which the end marker is reserved, FIRST and FOLLOW of a symbol are there. A terminal is in FIRST
exactly when the symbol derives a form that starts with it, and the token for the empty string when
the symbol derives the empty string. A terminal is in FOLLOW exactly when it comes next to the
symbol in a form that a non-terminal derives, and the end marker when the symbol ends a form that is
derived from a symbol that occurs nowhere. -/
theorem first_follow_iff_derives (hg : g.LeadExact) (hend : g.EndReserved)
    (hacyclic : ∀ x, ¬ TransGen g.LeadsTo x x) (hs : s ≠ epsilon) :
    ∃ first follow, g.first s = .ok first ∧ (g.follow s).outcome = .ok follow ∧
      (∀ t, g.isTerminal t = true → t ≠ epsilon → t ≠ endMarker →
        (t ∈ first ↔ ∃ w, g.Derives [s] (t :: w)) ∧
          (t ∈ follow ↔ ∃ a before after, g.isNonTerminal a = true ∧
            g.Derives [a] (before ++ s :: t :: after))) ∧
      (epsilon ∈ first ↔ g.Derives [s] []) ∧
      (endMarker ∈ follow ↔ ∃ a before, g.OccursNowhere a ∧ g.Derives [a] (before ++ [s])) := by
  have hfirst := exists_first_eq_ok hacyclic
  obtain ⟨first, hf⟩ := hfirst s
  obtain ⟨follow, hfol⟩ := exists_follow_eq_ok hfirst s
  have hmem : ∀ t, t ∈ follow ↔ t ∈ g.followMembers s := fun t =>
    (mem_followMembers_of_eq_ok hfol).symm
  refine ⟨first, follow, hf, hfol, fun t ht hte htm => ⟨?_, ?_⟩, ?_, ?_⟩
  · rw [mem_of_firstFrom_eq_ok hf, hg.leads_iff_derives_cons hte]
    exact and_iff_left ht
  · rw [hmem, hg.mem_followMembers_iff_derives hfirst hs ht hte htm]
  · rw [mem_of_firstFrom_eq_ok hf, hg.leads_epsilon_iff hs]
    exact and_iff_left hg.epsilon_isTerminal
  · rw [hmem, hg.endMarker_mem_followMembers_iff hend hfirst hs]

/-- The end marker is reserved in sums. -/
theorem endReserved_sums : sums.EndReserved :=
  ⟨by decide, occurrences_eq_nil_iff.1 (by decide)⟩

/-- FIRST and FOLLOW of the terms of a sum, of which the last is followed by a symbol that may be
empty, are those of the textbook. -/
theorem first_follow_iff_derives_sums :
    sums.LeadExact ∧ sums.EndReserved ∧ (∀ x, ¬ TransGen sums.LeadsTo x x) ∧ "T" ≠ epsilon ∧
    ∃ first follow, sums.first "T" = .ok first ∧ (sums.follow "T").outcome = .ok follow ∧
      (∀ t, sums.isTerminal t = true → t ≠ epsilon → t ≠ endMarker →
        (t ∈ first ↔ ∃ w, sums.Derives ["T"] (t :: w)) ∧
          (t ∈ follow ↔ ∃ a before after, sums.isNonTerminal a = true ∧
            sums.Derives [a] (before ++ "T" :: t :: after))) ∧
      (epsilon ∈ first ↔ sums.Derives ["T"] []) ∧
      (endMarker ∈ follow ↔ ∃ a before, sums.OccursNowhere a ∧
        sums.Derives [a] (before ++ ["T"])) :=
  have hacyclic : ∀ x, ¬ TransGen sums.LeadsTo x x :=
    not_transGen_leadsTo_of_leftSides (by decide +kernel)
  ⟨leadExact_sums, endReserved_sums, hacyclic, by decide,
    first_follow_iff_derives leadExact_sums endReserved_sums hacyclic (by decide)⟩

end Predictive.Grammar
