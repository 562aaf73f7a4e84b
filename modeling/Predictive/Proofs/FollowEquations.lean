import Mathlib.Order.Bounds.Basic
import Predictive.Proofs.FollowReach

/-!
# The FOLLOW equations

FOLLOW sets solve a system of equations, one for each symbol, in which FOLLOW of a symbol is the
union of what its places give and of FOLLOW of some owners. The equations may refer to one another
in circles. Main statement: where all FIRST sets are there, all FOLLOW sets are, and they are the
least solution (`follow_isLeast`).
-/

namespace Predictive.Grammar

open Relation (ReflTransGen)

/-- The members of FOLLOW of a symbol, of which there are none where FOLLOW fails. -/
def followMembers (g : Grammar) (s : Symbol) : Set Symbol :=
  {t | ∃ set, (g.follow s).outcome = .ok set ∧ t ∈ set}

/-- The right-hand sides of the FOLLOW equations, in a family of sets for the unknowns: the end
marker for a symbol that stands nowhere; FIRST of each next symbol without the token for the empty
string; FOLLOW of the other owners of places at the end; and FOLLOW of the owners of places before
a symbol that may be empty. -/
def followEquations (g : Grammar) (F : Symbol → Set Symbol) (s : Symbol) : Set Symbol :=
  {t | g.OccursNowhere s ∧ t = endMarker} ∪
    {t | ∃ owner before next rest, g.Occurs owner before s (next :: rest) ∧
      t ∈ g.firstMembers next ∧ t ≠ epsilon} ∪
    {t | ∃ owner before, g.Occurs owner before s [] ∧ owner ≠ s ∧ t ∈ F owner} ∪
    {t | ∃ owner before next rest, g.Occurs owner before s (next :: rest) ∧
      epsilon ∈ g.firstMembers next ∧ t ∈ F owner}

variable {g : Grammar} {s t : Symbol}

/-- An equation joins what the symbol gathers and the sets of the owners that it inherits from. -/
theorem mem_followEquations_iff {F : Symbol → Set Symbol} :
    t ∈ g.followEquations F s ↔ g.Gathers s t ∨ ∃ owner, g.Inherits s owner ∧ t ∈ F owner := by
  constructor
  · rintro (((ht | ht) | ⟨owner, before, hocc, hne, ht⟩) |
      ⟨owner, before, next, rest, hocc, he, ht⟩)
    · exact .inl (.inl ht)
    · exact .inl (.inr ht)
    · exact .inr ⟨owner, .inl ⟨before, hocc, hne⟩, ht⟩
    · exact .inr ⟨owner, .inr ⟨before, next, rest, hocc, he⟩, ht⟩
  · rintro ((ht | ht) | ⟨owner, ⟨before, hocc, hne⟩ | ⟨before, next, rest, hocc, he⟩, ht⟩)
    · exact .inl (.inl (.inl ht))
    · exact .inl (.inl (.inr ht))
    · exact .inl (.inr ⟨owner, before, hocc, hne, ht⟩)
    · exact .inr ⟨owner, before, next, rest, hocc, he, ht⟩

/-- Where all FIRST sets are there, all FOLLOW sets are. -/
theorem exists_follow_eq_ok (h : ∀ s, ∃ set, g.first s = .ok set) (s : Symbol) :
    ∃ set, (g.follow s).outcome = .ok set := by
  have hnext : ∀ x, g.NextFirstDefined x := fun _ _ _ next _ _ => h next
  exact (exists_followFrom_eq_ok_iff List.not_mem_nil).2 fun x _ => hnext x

/-- The members of FOLLOW of a symbol whose FOLLOW set is there. -/
theorem mem_followMembers_of_eq_ok {set : SymbolSet} (h : (g.follow s).outcome = .ok set) :
    t ∈ g.followMembers s ↔ t ∈ set :=
  exists_mem_of_eq_ok_iff h

/-- Outside the empty stack there is all inheritance. -/
theorem inheritsOutside_nil : g.InheritsOutside [] = g.Inherits := by
  funext a b
  simp [InheritsOutside]

/-- FOLLOW of a symbol is there exactly when FIRST is for every symbol next to one that inheritance
reaches. -/
theorem exists_follow_eq_ok_iff :
    (∃ set, (g.follow s).outcome = .ok set) ↔
      ∀ x, ReflTransGen g.Inherits s x → g.NextFirstDefined x := by
  rw [follow, exists_followFrom_eq_ok_iff List.not_mem_nil, inheritsOutside_nil]

/-- A symbol of a FOLLOW set is gathered by a symbol that inheritance reaches. -/
theorem mem_followMembers_iff {set : SymbolSet} (h : (g.follow s).outcome = .ok set) :
    t ∈ g.followMembers s ↔ ∃ x, ReflTransGen g.Inherits s x ∧ g.Gathers x t := by
  rw [mem_followMembers_of_eq_ok h, mem_followFrom_iff List.not_mem_nil h, inheritsOutside_nil]

/-- The FOLLOW sets solve the equations. -/
theorem followMembers_eq (h : ∀ s, ∃ set, g.first s = .ok set) :
    g.followMembers = g.followEquations g.followMembers := by
  funext s
  ext t
  obtain ⟨set, hset⟩ := exists_follow_eq_ok h s
  rw [mem_followMembers_iff hset, mem_followEquations_iff]
  constructor
  · rintro ⟨x, hx, ht⟩
    rcases hx.cases_head with rfl | ⟨owner, howner, hx⟩
    · exact .inl ht
    · obtain ⟨part, hpart⟩ := exists_follow_eq_ok h owner
      have hmem : t ∈ g.followMembers owner := (mem_followMembers_iff hpart).2 ⟨x, hx, ht⟩
      exact .inr ⟨owner, howner, hmem⟩
  · rintro (ht | ⟨owner, howner, ht⟩)
    · exact ⟨s, .refl, ht⟩
    · obtain ⟨part, hpart⟩ := exists_follow_eq_ok h owner
      obtain ⟨x, hx, ht⟩ := (mem_followMembers_iff hpart).1 ht
      exact ⟨x, .head howner hx, ht⟩

/-- FOLLOW of a symbol holds what the symbol gathers. -/
theorem mem_followMembers_of_gathers (h : ∀ s, ∃ set, g.first s = .ok set) (ht : g.Gathers s t) :
    t ∈ g.followMembers s := by
  rw [followMembers_eq h]
  exact mem_followEquations_iff.2 (.inl ht)

/-- FOLLOW of a symbol holds FOLLOW of the owners that the symbol inherits from. -/
theorem followMembers_subset_of_inherits (h : ∀ s, ∃ set, g.first s = .ok set) {owner : Symbol}
    (howner : g.Inherits s owner) : g.followMembers owner ⊆ g.followMembers s := by
  intro t ht
  rw [followMembers_eq h]
  exact mem_followEquations_iff.2 (.inr ⟨owner, howner, ht⟩)

/-- A solution of the equations holds what is gathered by the symbols that inheritance reaches. -/
theorem mem_of_eq_followEquations {F : Symbol → Set Symbol} (hF : F = g.followEquations F)
    {x : Symbol} (hx : ReflTransGen g.Inherits s x) (ht : g.Gathers x t) : t ∈ F s := by
  induction hx using ReflTransGen.head_induction_on with
  | refl =>
    rw [hF]
    exact mem_followEquations_iff.2 (.inl ht)
  | @head a owner howner _ ih =>
    rw [hF]
    exact mem_followEquations_iff.2 (.inr ⟨owner, howner, ih⟩)

/-- No symbol gathers the token for the empty string. -/
theorem ne_epsilon_of_gathers (h : g.Gathers s t) : t ≠ epsilon := by
  rcases h with ⟨-, rfl⟩ | ⟨_, _, _, _, _, _, ht⟩
  · decide
  · exact ht

/-- No FOLLOW set holds the token for the empty string. -/
theorem epsilon_notMem_followMembers : epsilon ∉ g.followMembers s := by
  rintro ⟨set, hset, he⟩
  obtain ⟨x, -, hx⟩ := (mem_followMembers_iff hset).1 ⟨set, hset, he⟩
  exact ne_epsilon_of_gathers hx rfl

/-- Where all FIRST sets are there, all FOLLOW sets are; they are the least family of sets that
solves the FOLLOW equations, however the equations refer to one another; and none of them holds the
token for the empty string. -/
theorem follow_isLeast (h : ∀ s, ∃ set, g.first s = .ok set) :
    (∀ s, ∃ set, (g.follow s).outcome = .ok set) ∧
      IsLeast {F : Symbol → Set Symbol | F = g.followEquations F} g.followMembers ∧
      ∀ s, epsilon ∉ g.followMembers s := by
  refine ⟨exists_follow_eq_ok h, ⟨followMembers_eq h, fun F hF s t ht => ?_⟩,
    fun s => epsilon_notMem_followMembers⟩
  obtain ⟨set, hset⟩ := exists_follow_eq_ok h s
  obtain ⟨x, hx, ht⟩ := (mem_followMembers_iff hset).1 ht
  exact mem_of_eq_followEquations hF hx ht

/-- A grammar in which `A` and `B` inherit from each other, `A` before an end that may be empty. -/
def mutualTails : Grammar :=
  ⟨[⟨"goal", [⟨"A", ["d"]⟩], "", by simp⟩, ⟨"A", [⟨"b", ["B"]⟩], "", by simp⟩,
    ⟨"B", [⟨"c", ["A", "N"]⟩, ⟨"c", []⟩], "", by simp⟩,
    ⟨"N", [⟨"n", []⟩, ⟨"epsilon", []⟩], "", by simp⟩]⟩

/-- The FOLLOW sets of a grammar whose equations form a circle are their least solution. -/
theorem follow_isLeast_mutualTails :
    (∀ s, ∃ set, mutualTails.first s = .ok set) ∧
      (∀ s, ∃ set, (mutualTails.follow s).outcome = .ok set) ∧
      IsLeast {F : Symbol → Set Symbol | F = mutualTails.followEquations F}
        mutualTails.followMembers ∧
      ∀ s, epsilon ∉ mutualTails.followMembers s :=
  have h : ∀ s, ∃ set, mutualTails.first s = .ok set :=
    exists_first_eq_ok_of_leftSides (by decide +kernel)
  ⟨h, follow_isLeast h⟩

/-- Both symbols of the circle are followed by what follows either of them. -/
example : (mutualTails.follow "B").outcome.toOption.map SymbolSet.toList = some ["d", "n"] := by
  decide +kernel

end Predictive.Grammar
