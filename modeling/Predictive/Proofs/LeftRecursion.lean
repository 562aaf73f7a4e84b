import Predictive.Proofs.LeadingSymbols

/-!
# Left recursion

FIRST could be computed by following leading symbols without looking at the way; that recursion goes
on for ever where leading symbols form a cycle. `first` watches its way and fails there, and
`firstWithin` is the plain recursion, cut off at a depth. Main statements: the two agree
(`exists_firstWithin_eq_ok_iff`), and a depth above the number of rules is enough
(`firstWithin_of_first_eq_ok`); FIRST fails exactly for the symbols that lead into a cycle, while
FIRST of any other symbol is the set of the terminals that it leads to, of which there is one at
least (`first_iff_leads`).
-/

namespace Predictive

/-- More calls would be inside one another than are allowed. -/
inductive DepthExceeded where
  | depthExceeded
  deriving DecidableEq, Repr

instance : Subsingleton DepthExceeded := ⟨fun _ _ => rfl⟩
instance : Subsingleton LeftRecursion := ⟨fun _ _ => rfl⟩

namespace Grammar

open Relation (ReflTransGen TransGen)

/-- FIRST of a symbol, computed without regard to the way to the symbol, with at most `depth` calls
inside one another. -/
def firstWithin (g : Grammar) : Nat → Symbol → Except DepthExceeded SymbolSet
  | 0, _ => .error .depthExceeded
  | depth + 1, s =>
    match g.rule? s with
    | none => .ok {s}
    | some r => unionOver (fun p => g.firstWithin depth p.lead) r.alternatives

/-- Leading symbols lead from `s` to a symbol that leads back to itself. -/
def LeadsIntoCycle (g : Grammar) (s : Symbol) : Prop :=
  ∃ x, ReflTransGen g.LeadsTo s x ∧ TransGen g.LeadsTo x x

variable {g : Grammar} {path : List Symbol} {s t : Symbol} {depth : Nat} {set : SymbolSet}

/-- FIRST of a terminal takes one call. -/
theorem firstWithin_of_rule?_eq_none (hr : g.rule? s = none) :
    g.firstWithin (depth + 1) s = .ok {s} := by
  rw [firstWithin, hr]

/-- FIRST of a non-terminal takes one call more than FIRST of the leading symbols of its
alternatives. -/
theorem firstWithin_of_rule?_eq_some {r : Rule} (hr : g.rule? s = some r) :
    g.firstWithin (depth + 1) s =
      unionOver (fun p => g.firstWithin depth p.lead) r.alternatives := by
  rw [firstWithin, hr]

/-- Where the plain recursion ends, every walk along leading symbols does. -/
theorem acc_of_firstWithin_eq_ok (h : g.firstWithin depth s = .ok set) :
    Acc (fun b a => g.LeadsTo a b) s := by
  induction depth generalizing s set with
  | zero => cases h
  | succ depth ih =>
    refine ⟨s, ?_⟩
    rintro b ⟨r, hr, p, hp, rfl⟩
    rw [firstWithin_of_rule?_eq_some hr] at h
    obtain ⟨part, hpart⟩ := exists_unionOver_eq_ok_iff.1 ⟨set, h⟩ p hp
    exact ih hpart

/-- What the plain recursion gives, the recursion that watches its way gives too. -/
theorem firstFrom_of_firstWithin_eq_ok (h : g.firstWithin depth s = .ok set)
    (hpath : ∀ x ∈ path, TransGen g.LeadsTo x s) : g.firstFrom path s = .ok set := by
  induction depth generalizing path s set with
  | zero => cases h
  | succ depth ih =>
    have hacc : Acc (fun b a => g.LeadsTo a b) s := acc_of_firstWithin_eq_ok h
    have hs : s ∉ path := fun hs => not_transGen_leadsTo_self hacc (hpath s hs)
    cases hr : g.rule? s with
    | none =>
      rw [firstWithin_of_rule?_eq_none hr] at h
      cases h
      exact firstFrom_of_rule?_eq_none hs hr
    | some r =>
      rw [firstWithin_of_rule?_eq_some hr] at h
      rw [firstFrom_of_rule?_eq_some hs hr]
      refine unionOver_eq_ok_of_forall (fun p hp part hpart => ?_) h
      exact ih hpart (transGen_leadsTo_cons hpath ⟨r, hr, p, hp, rfl⟩)

/-- What the recursion that watches its way gives, the plain recursion gives within as many calls as
there are left-hand sides that are not on the way, and one more. -/
theorem firstWithin_of_firstFrom_eq_ok (h : g.firstFrom path s = .ok set)
    (hdepth : remaining g.leftSides path < depth) : g.firstWithin depth s = .ok set := by
  induction path, s using firstFrom.induct g generalizing depth set with
  | case1 path s hp =>
    rw [firstFrom_of_mem hp] at h
    cases h
  | case2 path s hp hr =>
    rw [firstFrom_of_rule?_eq_none hp hr] at h
    cases h
    obtain ⟨depth, rfl⟩ := Nat.exists_eq_add_one.2 (Nat.zero_lt_of_lt hdepth)
    exact firstWithin_of_rule?_eq_none hr
  | case3 path s hp r hr ih =>
    rw [firstFrom_of_rule?_eq_some hp hr] at h
    obtain ⟨depth, rfl⟩ := Nat.exists_eq_add_one.2 (Nat.zero_lt_of_lt hdepth)
    rw [firstWithin_of_rule?_eq_some hr]
    -- The symbol joins the way, so one left-hand side fewer remains for the calls inside.
    have hlt : remaining g.leftSides (s :: path) < remaining g.leftSides path :=
      remaining_lt (List.subset_cons_self s path) (mem_leftSides_of_rule? hr) hp
        List.mem_cons_self
    exact unionOver_eq_ok_of_forall (fun p _ part hpart => ih p hpart (by omega)) h

/-- A depth above the number of rules is enough for the plain recursion wherever FIRST is there. -/
theorem firstWithin_of_first_eq_ok (h : g.first s = .ok set) (hdepth : g.rules.length < depth) :
    g.firstWithin depth s = .ok set := by
  have hle : remaining g.leftSides [] ≤ g.rules.length := by
    have hcount : remaining g.leftSides [] ≤ g.leftSides.length := List.countP_le_length
    simpa [leftSides] using hcount
  exact firstWithin_of_firstFrom_eq_ok h (by omega)

/-- The plain recursion ends, at some depth, exactly where FIRST is there, and with the same set. -/
theorem exists_firstWithin_eq_ok_iff :
    (∃ depth, g.firstWithin depth s = .ok set) ↔ g.first s = .ok set := by
  constructor
  · rintro ⟨depth, h⟩
    exact firstFrom_of_firstWithin_eq_ok h (by simp)
  · intro h
    exact ⟨g.rules.length + 1, firstWithin_of_first_eq_ok h (Nat.lt_succ_self _)⟩

/-- Where every walk along leading symbols ends, so does every walk from a symbol on the way. -/
theorem acc_of_leads (h : Acc (fun b a => g.LeadsTo a b) s) (hst : ReflTransGen g.LeadsTo s t) :
    Acc (fun b a => g.LeadsTo a b) t := by
  induction hst with
  | refl => exact h
  | tail _ hbt ih => exact ih.inv hbt

/-- Where every walk along leading symbols ends, no cycle is reached. -/
theorem not_leadsIntoCycle_of_acc (h : Acc (fun b a => g.LeadsTo a b) s) :
    ¬ g.LeadsIntoCycle s := by
  rintro ⟨x, hsx, hxx⟩
  exact not_transGen_leadsTo_self (acc_of_leads h hsx) hxx

/-- A symbol leads to a terminal where every walk along leading symbols ends. -/
theorem exists_leads_isTerminal_of_acc (h : Acc (fun b a => g.LeadsTo a b) s) :
    ∃ t, ReflTransGen g.LeadsTo s t ∧ g.isTerminal t = true := by
  induction h with
  | intro s _ ih =>
    cases hr : g.rule? s with
    | none => exact ⟨s, .refl, rule?_eq_none_iff.1 hr⟩
    | some r =>
      -- A rule has an alternative, and every alternative a leading symbol.
      obtain ⟨p, hp⟩ := List.exists_mem_of_ne_nil _ r.alternatives_ne_nil
      have hlead : g.LeadsTo s p.lead := ⟨r, hr, p, hp, rfl⟩
      obtain ⟨t, ht, hterminal⟩ := ih p.lead hlead
      exact ⟨t, .head hlead ht, hterminal⟩

/-- FIRST of a symbol is there exactly when the symbol leads into no cycle. -/
theorem exists_first_eq_ok_iff : (∃ set, g.first s = .ok set) ↔ ¬ g.LeadsIntoCycle s := by
  constructor
  · exact fun h => not_leadsIntoCycle_of_acc (exists_first_eq_ok_iff_acc.1 h)
  · intro h
    refine Classical.byContradiction fun hfail => h ?_
    exact exists_cycle_of_firstFrom hfail (by simp)

/-- FIRST of a symbol, computed without regard to the way, goes on for ever exactly when a cycle of
leading symbols can be reached from the symbol; `first` fails then, and else it gives what the plain
recursion gives. That is the set of the symbols without a rule that can be reached, and it has a
member. -/
theorem first_iff_leads (g : Grammar) (s : Symbol) :
    ((∀ depth, g.firstWithin depth s = .error .depthExceeded) ↔ g.LeadsIntoCycle s) ∧
      (g.first s = .error .leftRecursion ↔ g.LeadsIntoCycle s) ∧
      (∀ set, (∃ depth, g.firstWithin depth s = .ok set) ↔ g.first s = .ok set) ∧
      (∀ set, g.first s = .ok set ↔ ¬ g.LeadsIntoCycle s ∧
        ∀ t, t ∈ set ↔ ReflTransGen g.LeadsTo s t ∧ g.isTerminal t = true) ∧
      g.first s ≠ .ok ∅ := by
  have hfails : g.first s = .error .leftRecursion ↔ g.LeadsIntoCycle s := by
    rw [← Classical.not_not (a := g.LeadsIntoCycle s), ← exists_first_eq_ok_iff]
    exact eq_error_iff_not_exists_eq_ok
  have hendless : (∀ depth, g.firstWithin depth s = .error .depthExceeded) ↔
      ¬ ∃ set, g.first s = .ok set := by
    simp only [eq_error_iff_not_exists_eq_ok, ← exists_firstWithin_eq_ok_iff, not_exists]
    exact forall_comm
  refine ⟨?_, hfails, fun set => exists_firstWithin_eq_ok_iff, fun set => ⟨fun h => ?_, ?_⟩, ?_⟩
  · rw [hendless, exists_first_eq_ok_iff, Classical.not_not]
  · exact ⟨exists_first_eq_ok_iff.1 ⟨set, h⟩, fun t => mem_of_firstFrom_eq_ok h⟩
  · rintro ⟨hcycle, hmem⟩
    obtain ⟨set', hset'⟩ := exists_first_eq_ok_iff.2 hcycle
    have heq : set' = set := by
      ext t
      rw [hmem, mem_of_firstFrom_eq_ok hset']
    rw [← heq]
    exact hset'
  · intro h
    obtain ⟨t, ht⟩ := exists_leads_isTerminal_of_acc (exists_first_eq_ok_iff_acc.1 ⟨∅, h⟩)
    exact SymbolSet.not_mem_empty t ((mem_of_firstFrom_eq_ok h).2 ht)

end Grammar

end Predictive
