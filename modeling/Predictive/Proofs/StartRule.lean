import Predictive.Proofs.Dependence

/-!
# Adding a start rule

A symbol that stands nowhere is followed by the end marker. A new rule `goal ::= s` gives `s` a
place and takes the marker away from it, if it had it, and gives it back through `goal`, which
stands nowhere. Inheritance in the new grammar is that of the old one with a step from `s` to `goal`
and no step from there (`StartRule.reaches_iff`). Main statement: FIRST sets stay as they are, and a
FOLLOW set gets the end marker exactly when inheritance leads from its symbol to `s`
(`follow_startRule`).
-/

namespace Predictive.Grammar

open Relation (ReflTransGen)

/-- The other grammar has the rules of `g` and, at some place among them, the rule `goal ::= s` for
a symbol that is new. -/
structure StartRule (g g' : Grammar) (goal s : Symbol) : Prop where
  /-- There is one more rule. -/
  exists_rules : ∃ before r after, g.rules = before ++ after ∧ g'.rules = before ++ r :: after ∧
    r.definition = (goal, [⟨s, []⟩])
  /-- The new symbol is none of the grammar's. -/
  goal_notMem : goal ∉ g.symbols
  /-- The new symbol does not derive itself. -/
  goal_ne : goal ≠ s

/-- The other grammar has the FIRST and FOLLOW sets of `g`, but for the end marker in FOLLOW of the
symbols that inherit from `s`. -/
structure PassesEndMarker (g g' : Grammar) (goal s : Symbol) : Prop where
  /-- FIRST of every other symbol is the same, or fails in both. -/
  first_eq : ∀ x, x ≠ goal → g'.first x = g.first x
  /-- FOLLOW of every other symbol has the same members, and the end marker if inheritance leads
  from the symbol to `s`. -/
  follow_eq : ∀ x, x ≠ goal → ∀ set, (g.follow x).outcome = .ok set →
    ∃ set', (g'.follow x).outcome = .ok set' ∧
      ∀ t, t ∈ set' ↔ t ∈ set ∨ t = endMarker ∧ ReflTransGen g.Inherits x s
  /-- FOLLOW of no other symbol changes if `s` stood nowhere. -/
  follow_eq_of_occursNowhere : g.OccursNowhere s → ∀ x, x ≠ goal →
    (g'.follow x).outcome = (g.follow x).outcome
  /-- FOLLOW of the new symbol is the end marker. -/
  follow_goal : (g'.follow goal).outcome = .ok {endMarker}

variable {g g' : Grammar} {goal s x y t owner next : Symbol} {next? : Option Symbol}

namespace StartRule

/-! ## Look-ups and places -/

/-- Look-ups of other symbols find the same rules. -/
theorem rule?_eq (h : StartRule g g' goal s) (hx : x ≠ goal) : g'.rule? x = g.rule? x := by
  obtain ⟨before, r, after, hrules, hrules', hr⟩ := h.exists_rules
  have hne : r.nonTerminal ≠ x := by
    rw [show r.nonTerminal = goal from congrArg Prod.fst hr]
    exact hx.symm
  rw [rule?, rule?, hrules, hrules', List.find?_append, List.find?_append,
    List.find?_cons_of_neg (by simpa using hne)]

/-- Other symbols lead to the same symbols. -/
theorem leadsTo_iff (h : StartRule g g' goal s) (hx : x ≠ goal) (y : Symbol) :
    g'.LeadsTo x y ↔ g.LeadsTo x y := by
  rw [LeadsTo, LeadsTo, h.rule?_eq hx]

/-- There is one more alternative. -/
theorem hasAlternative_iff (h : StartRule g g' goal s) {p : Production} :
    g'.HasAlternative owner p ↔ g.HasAlternative owner p ∨ owner = goal ∧ p = ⟨s, []⟩ := by
  obtain ⟨before, r, after, hrules, hrules', hr⟩ := h.exists_rules
  obtain ⟨hgoal, halternatives⟩ := Prod.mk.inj hr
  simp only [HasAlternative, hrules, hrules', List.mem_append, List.mem_cons]
  constructor
  · rintro ⟨r', hbefore | rfl | hafter, howner, hp⟩
    · exact .inl ⟨r', .inl hbefore, howner, hp⟩
    · rw [halternatives, List.mem_singleton] at hp
      exact .inr ⟨howner.symm.trans hgoal, hp⟩
    · exact .inl ⟨r', .inr hafter, howner, hp⟩
  · rintro (⟨r', hbefore | hafter, howner, hp⟩ | ⟨rfl, rfl⟩)
    · exact ⟨r', .inl hbefore, howner, hp⟩
    · exact ⟨r', .inr (.inr hafter), howner, hp⟩
    · exact ⟨r, .inr (.inl rfl), hgoal, by rw [halternatives]; exact List.mem_cons_self⟩

/-- There is one more place. -/
theorem hasPlace_iff (h : StartRule g g' goal s) :
    g'.HasPlace owner x next? ↔
      g.HasPlace owner x next? ∨ owner = goal ∧ x = s ∧ next? = none := by
  have hsymbols : ∀ before after, (⟨s, []⟩ : Production).symbols = before ++ x :: after ↔
      before = [] ∧ x = s ∧ after = [] := by
    intro before after
    simp [Production.symbols, List.singleton_eq_append_iff]
  simp only [HasPlace, Occurs, h.hasAlternative_iff]
  constructor
  · rintro ⟨before, after, ⟨p, hp | ⟨rfl, rfl⟩, hplace⟩, hnext⟩
    · exact .inl ⟨before, after, ⟨p, hp, hplace⟩, hnext⟩
    · obtain ⟨-, hx, rfl⟩ := (hsymbols before after).1 hplace
      exact .inr ⟨rfl, hx, hnext.symm⟩
  · rintro (⟨before, after, ⟨p, hp, hplace⟩, hnext⟩ | ⟨howner, hx, hnext⟩)
    · exact ⟨before, after, ⟨p, .inl hp, hplace⟩, hnext⟩
    · exact ⟨[], [], ⟨_, .inr ⟨howner, rfl⟩, (hsymbols [] []).2 ⟨rfl, hx, rfl⟩⟩, hnext.symm⟩

/-- The new place is at an end. -/
theorem hasPlace_some_iff (h : StartRule g g' goal s) :
    g'.HasPlace owner x (some next) ↔ g.HasPlace owner x (some next) := by
  simp [h.hasPlace_iff]

/-- Only `s` has got a place. -/
theorem occursNowhere_iff (h : StartRule g g' goal s) :
    g'.OccursNowhere x ↔ g.OccursNowhere x ∧ x ≠ s := by
  simp only [occursNowhere_iff_not_hasPlace, h.hasPlace_iff]
  grind

/-- The new symbol stands nowhere in the old grammar. -/
theorem occursNowhere_goal (h : StartRule g g' goal s) : g.OccursNowhere goal := by
  rintro owner before after ⟨p, hp, hplace⟩
  exact h.goal_notMem (mem_symbols_of_hasAlternative hp (by simp [hplace]))

/-! ## FIRST -/

/-- The grammars lead alike from the symbols other than the new one, which they do not lead to. -/
theorem leadsAlike (h : StartRule g g' goal s) : LeadsAlike g g' {x | x ≠ goal} where
  mem_of_leadsTo a _ b hab := by
    obtain ⟨r, hr, p, hp, rfl⟩ := hab
    rintro rfl
    exact h.goal_notMem
      (mem_symbols_of_hasAlternative (hasAlternative_of_rule? hr hp) List.mem_cons_self)
  leadsTo_iff _ ha b := h.leadsTo_iff ha b

/-- FIRST of a symbol after another one is the same. -/
theorem first_eq_of_hasPlace (h : StartRule g g' goal s) (hplace : g.HasPlace owner x (some next)) :
    g'.first next = g.first next := by
  refine h.leadsAlike.first_eq ?_
  rintro rfl
  obtain ⟨before, rest, p, hp, hsymbols⟩ := Grammar.hasPlace_some_iff.1 hplace
  exact h.goal_notMem (mem_symbols_of_hasAlternative hp (by simp [hsymbols]))

/-! ## FOLLOW -/

/-- FOLLOW of a symbol asks for the same FIRST sets. -/
theorem nextFirstDefined_iff (h : StartRule g g' goal s) :
    g'.NextFirstDefined x ↔ g.NextFirstDefined x := by
  simp only [nextFirstDefined_iff_hasPlace, h.hasPlace_some_iff]
  refine forall_congr' fun owner => forall_congr' fun next => forall_congr' fun hplace => ?_
  rw [h.first_eq_of_hasPlace hplace]

/-- What may come first after a symbol is the same. -/
theorem hasPlace_and_mem_firstMembers_iff (h : StartRule g g' goal s) :
    g'.HasPlace owner x (some next) ∧ t ∈ g'.firstMembers next ↔
      g.HasPlace owner x (some next) ∧ t ∈ g.firstMembers next := by
  rw [h.hasPlace_some_iff]
  refine and_congr_right fun hplace => ?_
  rw [firstMembers, firstMembers, h.first_eq_of_hasPlace hplace]

/-- There is one more step of inheritance. -/
theorem inherits_iff (h : StartRule g g' goal s) :
    g'.Inherits x owner ↔ g.Inherits x owner ∨ x = s ∧ owner = goal := by
  have hgoal := h.goal_ne
  have hend : g'.HasPlace owner x none ∧ owner ≠ x ↔
      g.HasPlace owner x none ∧ owner ≠ x ∨ x = s ∧ owner = goal := by
    rw [h.hasPlace_iff]
    grind
  simp only [inherits_iff_hasPlace, h.hasPlace_and_mem_firstMembers_iff, hend, or_right_comm]

/-- Nothing is inherited by the new symbol. -/
theorem not_inherits_goal (h : StartRule g g' goal s) : ¬ g'.Inherits goal owner :=
  not_inherits_of_occursNowhere (h.occursNowhere_iff.2 ⟨h.occursNowhere_goal, h.goal_ne⟩)

/-- Inheritance reaches what it did, and the new symbol where it reached `s`. -/
theorem reaches_iff (h : StartRule g g' goal s) :
    ReflTransGen g'.Inherits x y ↔
      ReflTransGen g.Inherits x y ∨ y = goal ∧ ReflTransGen g.Inherits x s := by
  have hstep : ∀ a b, g.Inherits a b → g'.Inherits a b := fun _ _ hab => h.inherits_iff.2 (.inl hab)
  constructor
  · -- The new symbol inherits nothing, so a walk that gets there came from `s` and ends.
    intro hxy
    induction hxy with
    | refl => exact .inl .refl
    | @tail b c _ hbc ih =>
      rcases ih with hxb | ⟨rfl, -⟩
      · rcases h.inherits_iff.1 hbc with hbc | ⟨rfl, hc⟩
        · exact .inl (hxb.tail hbc)
        · exact .inr ⟨hc, hxb⟩
      · exact absurd hbc h.not_inherits_goal
  · rintro (hxy | ⟨rfl, hxs⟩)
    · exact ReflTransGen.mono hstep _ _ hxy
    · exact (ReflTransGen.mono hstep _ _ hxs).tail (h.inherits_iff.2 (.inr ⟨rfl, rfl⟩))

/-- What a symbol gathers, it gathered before. -/
theorem gathers_of (h : StartRule g g' goal s) (ht : g'.Gathers x t) : g.Gathers x t := by
  simp only [gathers_iff_hasPlace, ← and_assoc, h.hasPlace_and_mem_firstMembers_iff,
    h.occursNowhere_iff] at ht ⊢
  exact ht.imp_left fun ⟨⟨hnowhere, _⟩, ht⟩ => ⟨hnowhere, ht⟩

/-- What a symbol gathered, it gathers still, but for the end marker that `s` may have had. -/
theorem gathers_or (h : StartRule g g' goal s) (ht : g.Gathers x t) :
    g'.Gathers x t ∨ x = s ∧ t = endMarker := by
  simp only [gathers_iff_hasPlace, ← and_assoc, h.hasPlace_and_mem_firstMembers_iff,
    h.occursNowhere_iff] at ht ⊢
  grind

/-- The new symbol gathers the end marker, and nothing else. -/
theorem gathers_goal_iff (h : StartRule g g' goal s) : g'.Gathers goal t ↔ t = endMarker := by
  have hnowhere : g'.OccursNowhere goal := h.occursNowhere_iff.2 ⟨h.occursNowhere_goal, h.goal_ne⟩
  constructor
  · rintro (⟨-, ht⟩ | ⟨owner, before, next, rest, hocc, -⟩)
    · exact ht
    · exact absurd hocc (hnowhere owner before (next :: rest))
  · exact fun ht => .inl ⟨hnowhere, ht⟩

/-- What is gathered by the symbols that inheritance reaches is what was, and the end marker where
inheritance reached `s`. -/
theorem exists_reaches_gathers_iff (h : StartRule g g' goal s) :
    (∃ y, ReflTransGen g'.Inherits x y ∧ g'.Gathers y t) ↔
      (∃ y, ReflTransGen g.Inherits x y ∧ g.Gathers y t) ∨
        t = endMarker ∧ ReflTransGen g.Inherits x s := by
  constructor
  · rintro ⟨y, hy, ht⟩
    rcases h.reaches_iff.1 hy with hy | ⟨rfl, hs⟩
    · exact .inl ⟨y, hy, h.gathers_of ht⟩
    · exact .inr ⟨h.gathers_goal_iff.1 ht, hs⟩
  · have hgoal : ReflTransGen g.Inherits x s → t = endMarker →
        ∃ y, ReflTransGen g'.Inherits x y ∧ g'.Gathers y t :=
      fun hs ht => ⟨goal, h.reaches_iff.2 (.inr ⟨rfl, hs⟩), h.gathers_goal_iff.2 ht⟩
    rintro (⟨y, hy, ht⟩ | ⟨ht, hs⟩)
    · rcases h.gathers_or ht with ht | ⟨rfl, ht⟩
      · exact ⟨y, h.reaches_iff.2 (.inl hy), ht⟩
      · exact hgoal hy ht
    · exact hgoal hs ht

/-- FOLLOW of a symbol is there in both grammars or in neither. -/
theorem exists_follow_eq_ok_iff (h : StartRule g g' goal s) :
    (∃ set, (g'.follow x).outcome = .ok set) ↔ ∃ set, (g.follow x).outcome = .ok set := by
  rw [Grammar.exists_follow_eq_ok_iff, Grammar.exists_follow_eq_ok_iff]
  simp only [h.nextFirstDefined_iff]
  constructor
  · exact fun hall y hy => hall y (h.reaches_iff.2 (.inl hy))
  · intro hall y hy
    rcases h.reaches_iff.1 hy with hy | ⟨rfl, -⟩
    · exact hall y hy
    · exact fun owner before next rest hocc =>
        absurd hocc (h.occursNowhere_goal owner before (next :: rest))

/-- FOLLOW of a symbol has the members that it had, and the end marker if inheritance leads from the
symbol to `s`. -/
theorem mem_follow_iff (h : StartRule g g' goal s) {set set' : SymbolSet}
    (hset : (g.follow x).outcome = .ok set) (hset' : (g'.follow x).outcome = .ok set') :
    t ∈ set' ↔ t ∈ set ∨ t = endMarker ∧ ReflTransGen g.Inherits x s := by
  rw [← mem_followMembers_of_eq_ok hset', ← mem_followMembers_of_eq_ok hset,
    mem_followMembers_iff hset', mem_followMembers_iff hset, h.exists_reaches_gathers_iff]

/-- FOLLOW of a symbol does not change if `s` stood nowhere, for then it had the end marker
already. -/
theorem follow_eq_ok_of_occursNowhere (h : StartRule g g' goal s) (hs : g.OccursNowhere s)
    {set set' : SymbolSet} (hset : (g.follow x).outcome = .ok set)
    (hset' : (g'.follow x).outcome = .ok set') : set' = set := by
  ext t
  rw [h.mem_follow_iff hset hset', or_iff_left_iff_imp]
  rintro ⟨ht, hxs⟩
  rw [← mem_followMembers_of_eq_ok hset, mem_followMembers_iff hset]
  exact ⟨s, hxs, .inl ⟨hs, ht⟩⟩

end StartRule

/-- A new start rule `goal ::= s` leaves FIRST sets as they are, and passes the end marker on to
FOLLOW of the symbols that inherit from `s`, of which `s` is one; if `s` stood nowhere, they had it
before. -/
theorem follow_startRule (h : StartRule g g' goal s) : PassesEndMarker g g' goal s where
  first_eq _ hx := h.leadsAlike.first_eq hx
  follow_eq x _ set hset := by
    obtain ⟨set', hset'⟩ := h.exists_follow_eq_ok_iff.2 ⟨set, hset⟩
    exact ⟨set', hset', fun t => h.mem_follow_iff hset hset'⟩
  follow_eq_of_occursNowhere hs x _ := by
    refine eq_of_forall_eq_ok_iff fun set => ⟨fun hset' => ?_, fun hset => ?_⟩
    · obtain ⟨set', hset⟩ := h.exists_follow_eq_ok_iff.1 ⟨set, hset'⟩
      rw [hset, h.follow_eq_ok_of_occursNowhere hs hset hset']
    · obtain ⟨set', hset'⟩ := h.exists_follow_eq_ok_iff.2 ⟨set, hset⟩
      rw [hset', h.follow_eq_ok_of_occursNowhere hs hset hset']
  follow_goal := outcome_followFrom_of_occursNowhere List.not_mem_nil
    (h.occursNowhere_iff.2 ⟨h.occursNowhere_goal, h.goal_ne⟩)

/-- Nested sums, of which nothing says that one stands by itself. -/
def nested : Grammar :=
  ⟨[⟨"E", [⟨"(", ["E", ")"]⟩, ⟨"n", ["T"]⟩], "", by simp⟩,
    ⟨"T", [⟨"+", ["E"]⟩, ⟨epsilon, []⟩], "", by simp⟩]⟩

/-- Nested sums, with a rule for the whole text between the other two. -/
def nestedWhole : Grammar :=
  ⟨[⟨"E", [⟨"(", ["E", ")"]⟩, ⟨"n", ["T"]⟩], "", by simp⟩, ⟨"whole", [⟨"E", []⟩], "", by simp⟩,
    ⟨"T", [⟨"+", ["E"]⟩, ⟨epsilon, []⟩], "", by simp⟩]⟩

/-- The rule for the whole text passes the end marker on. -/
theorem follow_startRule_nested :
    StartRule nested nestedWhole "whole" "E" ∧ PassesEndMarker nested nestedWhole "whole" "E" :=
  have h : StartRule nested nestedWhole "whole" "E" :=
    ⟨⟨[_], _, [_], rfl, rfl, rfl⟩, by decide +kernel, by decide⟩
  ⟨h, follow_startRule h⟩

/-- `T` stands at an end of `E`, and gets the marker. -/
example : (nested.follow "T").outcome.toOption = some (.ofList [")"]) ∧
    (nestedWhole.follow "T").outcome.toOption = some (.ofList [")", endMarker]) := by
  decide +kernel

end Predictive.Grammar
