import Predictive.Proofs.LeadingSymbols
import Predictive.Proofs.Occurrences

/-!
# FOLLOW under a stack of symbols in progress

FOLLOW of a symbol gathers symbols at the symbol's own places and inherits FOLLOW of owners. The
recursion of `followFrom` puts each symbol that it comes to on a stack and gives nothing for a
symbol that is on it, so what it gives for the owners on its way is not FOLLOW of them. Main
statements: none the less it gives what is gathered by the symbols that inheritance reaches outside
the stack (`mem_followFrom_iff`), and it fails only where FIRST of a symbol next to one of these
does (`exists_followFrom_eq_ok_iff`).

Both go by induction on the recursion. A walk outside the stack may come back to the symbol that
the recursion starts from; what is left after its last visit there is a walk outside the longer
stack (`reaches_or_reaches_of_append`), which is why cutting cycles loses nothing.
-/

namespace Predictive.Grammar

open Relation (ReflTransGen)

/-- FOLLOW of `s` holds FOLLOW of `owner`: `s` ends an alternative of another symbol, or the symbol
after it may be empty. -/
def Inherits (g : Grammar) (s owner : Symbol) : Prop :=
  (∃ before, g.Occurs owner before s [] ∧ owner ≠ s) ∨
    ∃ before next rest, g.Occurs owner before s (next :: rest) ∧ epsilon ∈ g.firstMembers next

/-- FOLLOW of `s` holds `t` for a place of `s` itself, because `t` may come first after it, or for
the lack of places. -/
def Gathers (g : Grammar) (s t : Symbol) : Prop :=
  (g.OccursNowhere s ∧ t = endMarker) ∨
    ∃ owner before next rest, g.Occurs owner before s (next :: rest) ∧ t ∈ g.firstMembers next ∧
      t ≠ epsilon

/-- FIRST is there for every symbol that stands next to `s`. -/
def NextFirstDefined (g : Grammar) (s : Symbol) : Prop :=
  ∀ owner before next rest, g.Occurs owner before s (next :: rest) →
    ∃ set, g.first next = .ok set

/-- Inheritance to an owner outside a stack. -/
def InheritsOutside (g : Grammar) (stack : List Symbol) (s owner : Symbol) : Prop :=
  g.Inherits s owner ∧ owner ∉ stack

/-- What FOLLOW of a symbol takes from a place with this owner and this next symbol, given FOLLOW of
the owners. -/
def placePart (g : Grammar) (s : Symbol) (ownerFollow : Symbol → Except LeftRecursion SymbolSet)
    (owner : Symbol) : Option Symbol → Except LeftRecursion SymbolSet
  | none => if owner = s then .ok ∅ else ownerFollow owner
  | some next => do
    let nextFirst ← g.first next
    if epsilon ∈ nextFirst then return nextFirst.erase epsilon ∪ (← ownerFollow owner)
    else return nextFirst

variable {g : Grammar} {stack : List Symbol} {s t owner next : Symbol}
  {F : Symbol → Except LeftRecursion SymbolSet}

/-- FOLLOW of a symbol in progress is empty. -/
theorem outcome_followFrom_of_mem (h : s ∈ stack) : (g.followFrom stack s).outcome = .ok ∅ := by
  rw [followFrom, dif_pos h, Traced.outcome_bind]
  rfl

/-- FOLLOW of a symbol that stands nowhere is the end marker. -/
theorem outcome_followFrom_of_occursNowhere (h : s ∉ stack) (ho : g.OccursNowhere s) :
    (g.followFrom stack s).outcome = .ok {endMarker} := by
  rw [followFrom, dif_neg h, dif_pos (occurrences_eq_nil_iff.2 ho)]
  rfl

/-- FOLLOW of a symbol that stands somewhere joins the parts of its places. -/
theorem outcome_followFrom (h : s ∉ stack) (ho : ¬ g.OccursNowhere s) :
    (g.followFrom stack s).outcome =
      unionOver (fun o => g.placePart s (fun y => (g.followFrom (stack ++ [s]) y).outcome)
        o.owner o.next?) (g.occurrences s) := by
  rw [followFrom, dif_neg h, dif_neg (fun hn => ho (occurrences_eq_nil_iff.1 hn)),
    outcome_unionOver]
  congr 1
  funext o
  cases o.next? with
  | none =>
    by_cases hs : o.owner = s <;> simp [placePart, hs]
  | some next =>
    rw [placePart, Traced.outcome_bind, Traced.outcome_ofExcept]
    congr 1
    funext nextFirst
    split
    · rw [Traced.outcome_bind]
      rfl
    · rfl

/-- A place at the end of a production of the symbol itself adds nothing, and one at the end of
another's adds FOLLOW of the owner. -/
theorem placePart_none :
    g.placePart s F owner none = if owner = s then .ok ∅ else F owner := rfl

/-- A place before another symbol has a part where FIRST of that symbol is there and FOLLOW of the
owner is, if it is asked for. -/
theorem exists_placePart_some_eq_ok_iff :
    (∃ part, g.placePart s F owner (some next) = .ok part) ↔
      (∃ set, g.first next = .ok set) ∧
        (epsilon ∈ g.firstMembers next → ∃ part, F owner = .ok part) := by
  rw [placePart]
  cases hf : g.first next with
  | error e => simp [bind, Except.bind]
  | ok nextFirst =>
    simp only [bind, Except.bind, mem_firstMembers_of_eq_ok hf]
    by_cases he : epsilon ∈ nextFirst
    · cases hF : F owner <;> simp [he, pure, Except.pure]
    · simp [he, pure, Except.pure]

/-- The part of a place before another symbol. -/
theorem mem_placePart_some_iff {part : SymbolSet}
    (h : g.placePart s F owner (some next) = .ok part) :
    t ∈ part ↔ (t ∈ g.firstMembers next ∧ t ≠ epsilon) ∨
      (epsilon ∈ g.firstMembers next ∧ ∃ set, F owner = .ok set ∧ t ∈ set) := by
  obtain ⟨⟨nextFirst, hf⟩, -⟩ := exists_placePart_some_eq_ok_iff.1 ⟨part, h⟩
  rw [placePart, hf] at h
  simp only [bind, Except.bind, mem_firstMembers_of_eq_ok hf] at h ⊢
  by_cases he : epsilon ∈ nextFirst
  · cases hF : F owner with
    | error e => simp [he, hF] at h
    | ok followers =>
      simp only [he, hF, if_true, pure, Except.pure, Except.ok.injEq] at h
      rw [← h, SymbolSet.mem_union, SymbolSet.mem_erase]
      simp [he]
  · simp only [he, if_false, pure, Except.pure, Except.ok.injEq] at h
    rw [← h]
    simp only [he, false_and, or_false]
    exact ⟨fun ht => ⟨ht, fun hte => he (hte ▸ ht)⟩, And.left⟩

/-- A symbol that stands nowhere inherits nothing. -/
theorem not_inherits_of_occursNowhere (h : g.OccursNowhere s) : ¬ g.Inherits s owner := by
  rintro (⟨before, hocc, -⟩ | ⟨before, next, rest, hocc, -⟩)
  · exact h owner before [] hocc
  · exact h owner before (next :: rest) hocc

/-- A symbol that inherits is one of the grammar's. -/
theorem mem_symbols_of_inherits (h : g.Inherits s owner) : s ∈ g.symbols :=
  mem_symbols_of_occurrences_ne_nil fun hn =>
    not_inherits_of_occursNowhere (occurrences_eq_nil_iff.1 hn) h

/-- Induction along the recursion of `followFrom`: a symbol goes on the stack before the owners that
it inherits from are looked at. -/
theorem followFrom_induction {motive : List Symbol → Symbol → Prop}
    (mem : ∀ stack s, s ∈ stack → motive stack s)
    (step : ∀ stack s, s ∉ stack → (∀ owner, g.Inherits s owner → motive (stack ++ [s]) owner) →
      motive stack s) (stack : List Symbol) (s : Symbol) : motive stack s := by
  induction hn : remaining g.symbols stack using Nat.strongRecOn generalizing stack s with
  | ind n ih =>
    by_cases hs : s ∈ stack
    · exact mem stack s hs
    · refine step stack s hs fun owner howner => ?_
      have hlt : remaining g.symbols (stack ++ [s]) < remaining g.symbols stack :=
        remaining_lt (List.subset_append_left stack [s]) (mem_symbols_of_inherits howner) hs
          (List.mem_append_right stack List.mem_cons_self)
      exact ih _ (hn ▸ hlt) (stack ++ [s]) owner rfl

/-- The places of a symbol have parts where FIRST of the symbols next to it is there, and FOLLOW of
the owners that it inherits from. -/
theorem forall_exists_placePart_iff :
    (∀ owner before after, g.Occurs owner before s after →
        ∃ part, g.placePart s F owner after.head? = .ok part) ↔
      g.NextFirstDefined s ∧ ∀ owner, g.Inherits s owner → ∃ set, F owner = .ok set := by
  constructor
  · intro hall
    constructor
    · intro owner before next rest hocc
      have hpart := hall owner before (next :: rest) hocc
      exact (exists_placePart_some_eq_ok_iff.1 hpart).1
    · rintro owner (⟨before, hocc, hne⟩ | ⟨before, next, rest, hocc, he⟩)
      · have hpart := hall owner before [] hocc
        rwa [List.head?_nil, placePart_none, if_neg hne] at hpart
      · have hpart := hall owner before (next :: rest) hocc
        exact (exists_placePart_some_eq_ok_iff.1 hpart).2 he
  · rintro ⟨hfirst, hinherits⟩ owner before after hocc
    cases after with
    | nil =>
      rw [List.head?_nil, placePart_none]
      by_cases hs : owner = s
      · exact ⟨∅, if_pos hs⟩
      · rw [if_neg hs]
        exact hinherits owner (.inl ⟨before, hocc, hs⟩)
    | cons next rest =>
      have hnext := hfirst owner before next rest hocc
      have howner : epsilon ∈ g.firstMembers next → ∃ set, F owner = .ok set :=
        fun he => hinherits owner (.inr ⟨before, next, rest, hocc, he⟩)
      exact exists_placePart_some_eq_ok_iff.2 ⟨hnext, howner⟩

/-- The places of a symbol that stands somewhere hold what the symbol gathers, and FOLLOW of the
owners that it inherits from. -/
theorem exists_mem_placePart_iff (ho : ¬ g.OccursNowhere s)
    (hparts : ∀ owner before after, g.Occurs owner before s after →
      ∃ part, g.placePart s F owner after.head? = .ok part) :
    (∃ owner before after, g.Occurs owner before s after ∧
        ∃ part, g.placePart s F owner after.head? = .ok part ∧ t ∈ part) ↔
      g.Gathers s t ∨ ∃ owner, g.Inherits s owner ∧ ∃ set, F owner = .ok set ∧ t ∈ set := by
  constructor
  · rintro ⟨owner, before, after, hocc, part, hpart, ht⟩
    cases after with
    | nil =>
      rw [List.head?_nil, placePart_none] at hpart
      by_cases hs : owner = s
      · rw [if_pos hs] at hpart
        cases hpart
        exact absurd ht (SymbolSet.not_mem_empty t)
      · rw [if_neg hs] at hpart
        exact .inr ⟨owner, .inl ⟨before, hocc, hs⟩, part, hpart, ht⟩
    | cons next rest =>
      rcases (mem_placePart_some_iff hpart).1 ht with ⟨hn, hte⟩ | ⟨he, followers, hfol, ht⟩
      · exact .inl (.inr ⟨owner, before, next, rest, hocc, hn, hte⟩)
      · exact .inr ⟨owner, .inr ⟨before, next, rest, hocc, he⟩, followers, hfol, ht⟩
  · rintro ((⟨hn, -⟩ | ⟨owner, before, next, rest, hocc, hn, hte⟩) |
      ⟨owner, ⟨before, hocc, hne⟩ | ⟨before, next, rest, hocc, he⟩, followers, hfol, ht⟩)
    · exact absurd hn ho
    · obtain ⟨part, hpart⟩ := hparts owner before _ hocc
      have ht : t ∈ part := (mem_placePart_some_iff hpart).2 (.inl ⟨hn, hte⟩)
      exact ⟨owner, before, _, hocc, part, hpart, ht⟩
    · refine ⟨owner, before, [], hocc, followers, ?_, ht⟩
      rw [List.head?_nil, placePart_none, if_neg hne, hfol]
    · obtain ⟨part, hpart⟩ := hparts owner before _ hocc
      have ht : t ∈ part := (mem_placePart_some_iff hpart).2 (.inr ⟨he, followers, hfol, ht⟩)
      exact ⟨owner, before, _, hocc, part, hpart, ht⟩

/-- One step of the recursion: FOLLOW of a symbol is there when FIRST of the symbols next to it is,
and FOLLOW of the owners that it inherits from. -/
theorem exists_followFrom_eq_ok_step (h : s ∉ stack) :
    (∃ set, (g.followFrom stack s).outcome = .ok set) ↔
      g.NextFirstDefined s ∧
        ∀ owner, g.Inherits s owner →
          ∃ set, (g.followFrom (stack ++ [s]) owner).outcome = .ok set := by
  by_cases ho : g.OccursNowhere s
  · have hfirst : g.NextFirstDefined s := fun owner before next rest hocc =>
      absurd hocc (ho owner before (next :: rest))
    have hinherits : ∀ owner, ¬ g.Inherits s owner := fun _ => not_inherits_of_occursNowhere ho
    rw [outcome_followFrom_of_occursNowhere h ho]
    constructor
    · exact fun _ => ⟨hfirst, fun owner howner => absurd howner (hinherits owner)⟩
    · exact fun _ => ⟨{endMarker}, rfl⟩
  · rw [outcome_followFrom h ho, exists_unionOver_eq_ok_iff,
      forall_mem_occurrences_iff (P := fun owner next? => ∃ part, g.placePart s
        (fun y => (g.followFrom (stack ++ [s]) y).outcome) owner next? = .ok part)]
    exact forall_exists_placePart_iff

/-- One step of the recursion: FOLLOW of a symbol holds what the symbol gathers, and FOLLOW of the
owners that it inherits from. -/
theorem mem_followFrom_step (h : s ∉ stack) {set : SymbolSet}
    (hset : (g.followFrom stack s).outcome = .ok set) :
    t ∈ set ↔ g.Gathers s t ∨
      ∃ owner, g.Inherits s owner ∧
        ∃ part, (g.followFrom (stack ++ [s]) owner).outcome = .ok part ∧ t ∈ part := by
  by_cases ho : g.OccursNowhere s
  · rw [outcome_followFrom_of_occursNowhere h ho] at hset
    cases hset
    rw [SymbolSet.mem_singleton]
    constructor
    · exact fun ht => .inl (.inl ⟨ho, ht⟩)
    · rintro ((⟨-, ht⟩ | ⟨owner, before, next, rest, hocc, -⟩) | ⟨owner, howner, -⟩)
      · exact ht
      · exact absurd hocc (ho owner before (next :: rest))
      · exact absurd howner (not_inherits_of_occursNowhere ho)
  · have hparts := (exists_followFrom_eq_ok_step h).1 ⟨set, hset⟩
    rw [outcome_followFrom h ho] at hset
    rw [mem_of_unionOver_eq_ok hset,
      exists_mem_occurrences_iff (P := fun owner next? => ∃ part, g.placePart s
        (fun y => (g.followFrom (stack ++ [s]) y).outcome) owner next? = .ok part ∧ t ∈ part)]
    exact exists_mem_placePart_iff ho (forall_exists_placePart_iff.2 hparts)

/-- A walk outside a stack that comes back to `s` can be cut there: what is left is a walk outside
the stack with `s` on it. -/
theorem reaches_or_reaches_of_append {a x : Symbol}
    (h : ReflTransGen (g.InheritsOutside stack) a x) :
    ReflTransGen (g.InheritsOutside (stack ++ [s])) a x ∨
      ReflTransGen (g.InheritsOutside (stack ++ [s])) s x := by
  induction h using ReflTransGen.head_induction_on with
  | refl => exact .inl .refl
  | @head a b hab _ ih =>
    rcases ih with hbx | hsx
    · by_cases hbs : b = s
      · exact .inr (hbs ▸ hbx)
      · exact .inl (.head ⟨hab.1, by simp [hab.2, hbs]⟩ hbx)
    · exact .inr hsx

/-- What is outside a stack is outside a stack with fewer symbols. -/
theorem InheritsOutside.of_subset {stack' : List Symbol} (hstack : stack ⊆ stack')
    (h : g.InheritsOutside stack' s owner) : g.InheritsOutside stack s owner :=
  ⟨h.1, fun hmem => h.2 (hstack hmem)⟩

/-- Outside a stack, a symbol reaches itself and what the owners that it inherits from reach outside
the stack with the symbol on it. -/
theorem reaches_iff {x : Symbol} :
    ReflTransGen (g.InheritsOutside stack) s x ↔
      x = s ∨ ∃ owner, g.InheritsOutside (stack ++ [s]) s owner ∧
        ReflTransGen (g.InheritsOutside (stack ++ [s])) owner x := by
  constructor
  · intro h
    rcases (or_self_iff.1 (reaches_or_reaches_of_append (s := s) h)).cases_head with hs | hsx
    · exact .inl hs.symm
    · exact .inr hsx
  · rintro (rfl | ⟨owner, howner, hx⟩)
    · exact .refl
    · have hmono : ∀ a b, g.InheritsOutside (stack ++ [s]) a b → g.InheritsOutside stack a b :=
        fun _ _ hab => hab.of_subset (List.subset_append_left stack [s])
      exact .head (hmono _ _ howner) (ReflTransGen.mono hmono _ _ hx)

/-- FOLLOW under a stack is there exactly when FIRST is for every symbol next to one that is reached
outside the stack. -/
theorem exists_followFrom_eq_ok_iff (h : s ∉ stack) :
    (∃ set, (g.followFrom stack s).outcome = .ok set) ↔
      ∀ x, ReflTransGen (g.InheritsOutside stack) s x → g.NextFirstDefined x := by
  induction stack, s using followFrom_induction (g := g) with
  | mem stack s hs => exact absurd hs h
  | step stack s hs ih =>
    rw [exists_followFrom_eq_ok_step hs]
    constructor
    · rintro ⟨hfirst, hinherits⟩ x hx
      rcases reaches_iff.1 hx with rfl | ⟨owner, howner, hx⟩
      · exact hfirst
      · exact (ih owner howner.1 howner.2).1 (hinherits owner howner.1) x hx
    · intro hall
      refine ⟨hall s .refl, fun owner howner => ?_⟩
      by_cases ho : owner ∈ stack ++ [s]
      · exact ⟨∅, outcome_followFrom_of_mem ho⟩
      · refine (ih owner howner ho).2 fun x hx => ?_
        have hsx : ReflTransGen (g.InheritsOutside stack) s x :=
          reaches_iff.2 (.inr ⟨owner, ⟨howner, ho⟩, hx⟩)
        exact hall x hsx

/-- FOLLOW under a stack holds what is gathered by the symbols that are reached outside the
stack. -/
theorem mem_followFrom_iff (h : s ∉ stack) {set : SymbolSet}
    (hset : (g.followFrom stack s).outcome = .ok set) :
    t ∈ set ↔ ∃ x, ReflTransGen (g.InheritsOutside stack) s x ∧ g.Gathers x t := by
  induction stack, s using followFrom_induction (g := g) generalizing set with
  | mem stack s hs => exact absurd hs h
  | step stack s hs ih =>
    rw [mem_followFrom_step hs hset]
    constructor
    · rintro (ht | ⟨owner, howner, part, hpart, ht⟩)
      · exact ⟨s, .refl, ht⟩
      · by_cases ho : owner ∈ stack ++ [s]
        · -- An owner on the stack has an empty part.
          rw [outcome_followFrom_of_mem ho] at hpart
          cases hpart
          exact absurd ht (SymbolSet.not_mem_empty t)
        · obtain ⟨x, hx, hxt⟩ := (ih owner howner ho hpart).1 ht
          exact ⟨x, reaches_iff.2 (.inr ⟨owner, ⟨howner, ho⟩, hx⟩), hxt⟩
    · rintro ⟨x, hx, hxt⟩
      rcases reaches_iff.1 hx with rfl | ⟨owner, howner, hx⟩
      · exact .inl hxt
      · have hinherits := ((exists_followFrom_eq_ok_step hs).1 ⟨set, hset⟩).2
        obtain ⟨part, hpart⟩ := hinherits owner howner.1
        have ht : t ∈ part := (ih owner howner.1 howner.2 hpart).2 ⟨x, hx, hxt⟩
        exact .inr ⟨owner, howner.1, part, hpart, ht⟩

end Predictive.Grammar
