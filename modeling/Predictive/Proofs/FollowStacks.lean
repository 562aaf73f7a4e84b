import Predictive.Proofs.FollowReach
import Predictive.Proofs.LeftRecursion

/-!
# FOLLOW and the symbols in progress

FOLLOW can be asked for with any symbols on the stack, whether or not a computation would have put
them there. They are a border: inheritance that comes to one of them goes no further. Main
statement: what FOLLOW of a symbol is under a stack, when it fails, and that it depends on which
symbols are on the stack only, of which more can only take members away (`followFrom_stacked`).
-/

namespace Predictive.Grammar

open Relation (ReflTransGen)

/-- The symbols that inheritance reaches from `s` without coming to a symbol on the stack; `s` is one
of them. -/
def reachedOutside (g : Grammar) (stack : List Symbol) (s : Symbol) : Set Symbol :=
  {x | ReflTransGen (g.InheritsOutside stack) s x}

/-- A symbol that is reached outside the stack stands before one whose FIRST set is not defined. -/
def MeetsLeftRecursion (g : Grammar) (stack : List Symbol) (s : Symbol) : Prop :=
  ∃ x ∈ g.reachedOutside stack s, ∃ owner before next rest,
    g.Occurs owner before x (next :: rest) ∧ g.first next = .error .leftRecursion

/-- What FOLLOW of a symbol is under a stack. -/
structure Stacked (g : Grammar) (stack : List Symbol) (s : Symbol) : Prop where
  /-- FOLLOW of a symbol on the stack is empty. -/
  of_mem : s ∈ stack → (g.followFrom stack s).outcome = .ok ∅
  /-- FOLLOW of any other symbol fails exactly when a symbol that is reached outside the stack
  stands before one whose FIRST set is not defined. -/
  fails_iff : s ∉ stack →
    ((g.followFrom stack s).outcome = .error .leftRecursion ↔ g.MeetsLeftRecursion stack s)
  /-- Otherwise it holds FIRST, without the token for the empty string, of every symbol that stands
  next to one that is reached, and the end marker if one of these stands nowhere. -/
  exists_set : s ∉ stack → ¬ g.MeetsLeftRecursion stack s →
    ∃ set, (g.followFrom stack s).outcome = .ok set ∧ ∀ t, t ∈ set ↔
      (∃ x ∈ g.reachedOutside stack s, ∃ owner before next rest,
        g.Occurs owner before x (next :: rest) ∧ t ∈ g.firstMembers next ∧ t ≠ epsilon) ∨
      t = endMarker ∧ ∃ x ∈ g.reachedOutside stack s, g.OccursNowhere x
  /-- Neither the order nor the number of the symbols on the stack matters. -/
  outcome_eq : ∀ stack', (∀ x, x ∈ stack' ↔ x ∈ stack) →
    (g.followFrom stack' s).outcome = (g.followFrom stack s).outcome
  /-- With more symbols on the stack FOLLOW is there where it was, and has no other members. -/
  exists_subset : ∀ stack', stack ⊆ stack' → ∀ set, (g.followFrom stack s).outcome = .ok set →
    ∃ part, (g.followFrom stack' s).outcome = .ok part ∧ ∀ t ∈ part, t ∈ set

variable {g : Grammar} {stack stack' : List Symbol} {s t x : Symbol} {set : SymbolSet}

/-- More symbols on the stack leave fewer symbols to be reached. -/
theorem reachedOutside_subset (h : stack ⊆ stack') (s : Symbol) :
    g.reachedOutside stack' s ⊆ g.reachedOutside stack s :=
  fun _ hx => ReflTransGen.mono (fun _ _ hab => hab.of_subset h) _ _ hx

/-- FIRST fails for a symbol next to `x` exactly where it is not there for all of them. -/
theorem not_nextFirstDefined_iff :
    ¬ g.NextFirstDefined x ↔ ∃ owner before next rest,
      g.Occurs owner before x (next :: rest) ∧ g.first next = .error .leftRecursion := by
  simp only [NextFirstDefined, eq_error_iff_not_exists_eq_ok, not_forall, exists_prop]

/-- FOLLOW of a symbol that is not on the stack is there exactly when no left recursion is met. -/
theorem exists_followFrom_eq_ok_iff_not_meets (h : s ∉ stack) :
    (∃ set, (g.followFrom stack s).outcome = .ok set) ↔ ¬ g.MeetsLeftRecursion stack s := by
  rw [exists_followFrom_eq_ok_iff h]
  simp only [MeetsLeftRecursion, ← not_nextFirstDefined_iff, not_exists, not_and, not_not]
  rfl

/-- The members of FOLLOW of a symbol that is not on the stack, by where they come from. -/
theorem mem_followFrom_iff_next_or_nowhere (h : s ∉ stack)
    (hset : (g.followFrom stack s).outcome = .ok set) :
    t ∈ set ↔
      (∃ x ∈ g.reachedOutside stack s, ∃ owner before next rest,
        g.Occurs owner before x (next :: rest) ∧ t ∈ g.firstMembers next ∧ t ≠ epsilon) ∨
      t = endMarker ∧ ∃ x ∈ g.reachedOutside stack s, g.OccursNowhere x := by
  rw [mem_followFrom_iff h hset]
  constructor
  · rintro ⟨x, hx, ⟨hnowhere, ht⟩ | hnext⟩
    · exact .inr ⟨ht, x, hx, hnowhere⟩
    · exact .inl ⟨x, hx, hnext⟩
  · rintro (⟨x, hx, hnext⟩ | ⟨ht, x, hx, hnowhere⟩)
    · exact ⟨x, hx, .inr hnext⟩
    · exact ⟨x, hx, .inl ⟨hnowhere, ht⟩⟩

/-- With more symbols on the stack FOLLOW is there where it was, and has no other members. -/
theorem exists_followFrom_subset (h : stack ⊆ stack')
    (hset : (g.followFrom stack s).outcome = .ok set) :
    ∃ part, (g.followFrom stack' s).outcome = .ok part ∧ ∀ t ∈ part, t ∈ set := by
  by_cases hs : s ∈ stack'
  · exact ⟨∅, outcome_followFrom_of_mem hs, fun t ht => absurd ht (SymbolSet.not_mem_empty t)⟩
  · have hs' : s ∉ stack := fun hmem => hs (h hmem)
    have hdefined := (exists_followFrom_eq_ok_iff hs').1 ⟨set, hset⟩
    obtain ⟨part, hpart⟩ := (exists_followFrom_eq_ok_iff hs).2
      fun x hx => hdefined x (reachedOutside_subset h s hx)
    refine ⟨part, hpart, fun t ht => ?_⟩
    obtain ⟨x, hx, hxt⟩ := (mem_followFrom_iff hs hpart).1 ht
    exact (mem_followFrom_iff hs' hset).2 ⟨x, reachedOutside_subset h s hx, hxt⟩

/-- What FOLLOW is under one stack, it is under any other with the same symbols on it. -/
theorem followFrom_eq_ok_of_mem_iff (h : ∀ x, x ∈ stack' ↔ x ∈ stack)
    (hset : (g.followFrom stack s).outcome = .ok set) :
    (g.followFrom stack' s).outcome = .ok set := by
  -- Each set is part of the other, for each stack is part of the other.
  obtain ⟨part, hpart, hsub⟩ := exists_followFrom_subset (fun x hx => (h x).2 hx) hset
  obtain ⟨set', hset', hsub'⟩ := exists_followFrom_subset (fun x hx => (h x).1 hx) hpart
  rw [hset] at hset'
  cases hset'
  rw [hpart, Except.ok.injEq]
  exact SymbolSet.ext fun t => ⟨hsub t, hsub' t⟩

/-- FOLLOW is the same under two stacks with the same symbols on them. -/
theorem outcome_followFrom_eq_of_mem_iff (h : ∀ x, x ∈ stack' ↔ x ∈ stack) :
    (g.followFrom stack' s).outcome = (g.followFrom stack s).outcome := by
  cases hset : (g.followFrom stack s).outcome with
  | ok set => exact followFrom_eq_ok_of_mem_iff h hset
  | error e =>
    -- A set under the one stack would be one under the other.
    rw [eq_error_iff_not_exists_eq_ok]
    rintro ⟨set, hset'⟩
    rw [followFrom_eq_ok_of_mem_iff (fun x => (h x).symm) hset'] at hset
    cases hset

/-- FOLLOW of a symbol is defined, under any stack, by what is reached outside the stack. -/
theorem followFrom_stacked (g : Grammar) (stack : List Symbol) (s : Symbol) :
    g.Stacked stack s := by
  constructor
  case of_mem => exact outcome_followFrom_of_mem
  case fails_iff =>
    intro hs
    rw [eq_error_iff_not_exists_eq_ok, exists_followFrom_eq_ok_iff_not_meets hs, not_not]
  case exists_set =>
    intro hs hmeets
    obtain ⟨set, hset⟩ := (exists_followFrom_eq_ok_iff_not_meets hs).2 hmeets
    exact ⟨set, hset, fun t => mem_followFrom_iff_next_or_nowhere hs hset⟩
  case outcome_eq => exact fun stack' h => outcome_followFrom_eq_of_mem_iff h
  case exists_subset => exact fun stack' h set hset => exists_followFrom_subset h hset

-- What follows `A` is inherited by `B` unless `A` is on the stack.
example :
    let g : Grammar := ⟨[⟨"S", [⟨"A", ["b"]⟩], "", by simp⟩, ⟨"A", [⟨"B", []⟩], "", by simp⟩]⟩
    (g.followFrom [] "B").outcome = .ok ⟨["b"], by decide⟩ ∧
      (g.followFrom ["A"] "B").outcome = .ok ∅ := by
  decide +kernel

end Predictive.Grammar
