import Predictive.Proofs.Derivation
import Predictive.Proofs.LeadingSymbols

/-!
# Grammars whose leading symbols tell what comes first

FIRST looks at the leading symbol of an alternative only. That is enough in a grammar where a symbol
that may be empty never has anything after it; `LeadExact` collects this with what a non-terminal
and the token for the empty string may be. Main statements: in such a grammar a symbol leads to a
terminal exactly when it derives a form that starts with it (`leads_iff_derives_cons`), and to the
token for the empty string exactly when it derives the empty string (`leads_epsilon_iff`).

Where trees stand over a list in which only the last symbol may be empty (`EmptyLast`), what their
first leaf is depends on the first of them alone. The body of an alternative is such a list, and so
is a list of one symbol.
-/

namespace Predictive.Grammar

open Relation (ReflTransGen)

/-- A symbol of the list that derives the empty string has nothing after it. -/
def EmptyLast (g : Grammar) (u : List Symbol) : Prop :=
  ∀ before s after, u = before ++ s :: after → g.Derives [s] [] → after = []

/-- The grammars in which one leading symbol is enough: each non-terminal has one rule, the token
for the empty string is a terminal and stands alone, and what may be empty stands last. -/
structure LeadExact (g : Grammar) : Prop where
  /-- The left-hand sides are distinct. -/
  leftSides_nodup : g.leftSides.Nodup
  /-- The token for the empty string has no rule. -/
  epsilon_isTerminal : g.isTerminal epsilon = true
  /-- The token for the empty string is the only symbol of an alternative that it stands in. -/
  epsilon_alone : ∀ s p, g.HasAlternative s p → epsilon ∈ p.symbols → p.symbols = [epsilon]
  /-- A symbol that derives the empty string is the last one of an alternative. -/
  emptyLast_symbols : ∀ s p, g.HasAlternative s p → g.EmptyLast p.symbols

variable {g : Grammar} {s t owner : Symbol} {u w : List Symbol} {trees : List DerivationTree}

/-- Nothing stands after the only symbol of a list. -/
theorem emptyLast_singleton (g : Grammar) (s : Symbol) : g.EmptyLast [s] := by
  intro before x after h _
  have hlen := congrArg List.length h
  simp only [List.length_append, List.length_cons, List.length_nil] at hlen
  exact List.length_eq_zero_iff.1 (by omega)

/-- What holds of the symbols of a list holds of those at its end. -/
theorem EmptyLast.of_append (h : g.EmptyLast (w ++ u)) : g.EmptyLast u :=
  fun before s after hu => h (w ++ before) s after (by rw [hu, List.append_assoc])

/-- Nothing stands after a first symbol that may be empty. -/
theorem EmptyLast.eq_nil (h : g.EmptyLast (s :: u)) (hs : g.Derives [s] []) : u = [] :=
  h [] s u rfl hs

namespace LeadExact

/-- An alternative puts in its own symbols, unless it is the token for the empty string. -/
theorem body_eq (hg : g.LeadExact) {p : Production} (hp : g.HasAlternative s p) :
    p.body = p.symbols ∧ epsilon ∉ p.symbols ∨ p.body = [] ∧ p.symbols = [epsilon] := by
  by_cases he : epsilon ∈ p.symbols
  · have halone := hg.epsilon_alone s p hp he
    exact .inr ⟨if_pos halone, halone⟩
  · have hne : p.symbols ≠ [epsilon] := fun h => he (h ▸ List.mem_singleton_self epsilon)
    exact .inl ⟨if_neg hne, he⟩

/-- An alternative in which another symbol stands puts in its own symbols. -/
theorem body_of_mem (hg : g.LeadExact) {p : Production} (hp : g.HasAlternative owner p)
    (hs : s ∈ p.symbols) (hne : s ≠ epsilon) : p.body = p.symbols := by
  rcases hg.body_eq hp with ⟨hbody, -⟩ | ⟨-, halone⟩
  · exact hbody
  · rw [halone, List.mem_singleton] at hs
    exact absurd hs hne

/-- The token for the empty string is in no body. -/
theorem epsilon_notMem_body (hg : g.LeadExact) {p : Production} (hp : g.HasAlternative s p) :
    epsilon ∉ p.body := by
  rcases hg.body_eq hp with ⟨hbody, hnot⟩ | ⟨hnil, -⟩
  · rw [hbody]
    exact hnot
  · rw [hnil]
    exact List.not_mem_nil

/-- In the body of an alternative, only the last symbol may be empty. -/
theorem emptyLast_body (hg : g.LeadExact) {p : Production} (hp : g.HasAlternative s p) :
    g.EmptyLast p.body := by
  rcases hg.body_eq hp with ⟨hbody, -⟩ | ⟨hnil, -⟩
  · rw [hbody]
    exact hg.emptyLast_symbols s p hp
  · rw [hnil]
    intro before x after h
    simp at h

/-- A symbol with an alternative is not the token for the empty string. -/
theorem ne_epsilon (hg : g.LeadExact) {p : Production} (hp : g.HasAlternative s p) :
    s ≠ epsilon := by
  rintro rfl
  exact not_hasAlternative_of_isTerminal hg.epsilon_isTerminal p hp

/-- A symbol leads to the leading symbols of its alternatives. -/
theorem leadsTo_lead (hg : g.LeadExact) {p : Production} (hp : g.HasAlternative s p) :
    g.LeadsTo s p.lead := by
  obtain ⟨r, hr, hpr⟩ := exists_rule?_of_hasAlternative hg.leftSides_nodup hp
  exact ⟨r, hr, p, hpr, rfl⟩

/-- The leading symbol of an alternative is the first of its body. -/
theorem lead_of_body (hg : g.LeadExact) {p : Production} (hp : g.HasAlternative s p)
    (hbody : p.body = t :: u) : p.lead = t := by
  rcases hg.body_eq hp with ⟨heq, -⟩ | ⟨hnil, -⟩
  · exact (List.cons.inj (heq.symm.trans hbody)).1
  · rw [hnil] at hbody
    cases hbody

/-- An alternative with an empty body is the token for the empty string. -/
theorem lead_of_body_eq_nil (hg : g.LeadExact) {p : Production} (hp : g.HasAlternative s p)
    (hbody : p.body = []) : p.lead = epsilon := by
  rcases hg.body_eq hp with ⟨heq, -⟩ | ⟨-, halone⟩
  · rw [heq] at hbody
    cases hbody
  · exact (List.cons.inj halone).1

/-- A symbol leads to the first symbols of the bodies of its alternatives. -/
theorem leadsTo_of_body (hg : g.LeadExact) {p : Production} (hp : g.HasAlternative s p)
    (hbody : p.body = t :: u) : g.LeadsTo s t :=
  hg.lead_of_body hp hbody ▸ hg.leadsTo_lead hp

/-- Trees without leaves stand over one symbol at most, which leads to the token for the empty
string. -/
theorem leads_epsilon_of_spans (hg : g.LeadExact) (hu : g.EmptyLast u) (h : g.Spans u trees []) :
    u = [] ∨ ∃ y, u = [y] ∧ ReflTransGen g.LeadsTo y epsilon := by
  generalize hw : ([] : List Symbol) = w at h
  induction h with
  | nil => exact .inl rfl
  | leaf s _ _ => cases hw
  | @node s p children v u trees w hp hbelow _ ih _ =>
    obtain ⟨rfl, rfl⟩ := List.append_eq_nil_iff.1 hw.symm
    obtain rfl := hu.eq_nil (derives_of_node hp hbelow)
    refine .inr ⟨s, rfl, ?_⟩
    rcases ih (hg.emptyLast_body hp) rfl with hnil | ⟨y, hbody, hlead⟩
    · exact .single (hg.lead_of_body_eq_nil hp hnil ▸ hg.leadsTo_lead hp)
    · exact .head (hg.leadsTo_of_body hp hbody) hlead

/-- The first leaf comes from the first root. -/
theorem leads_of_spans_cons (hg : g.LeadExact) (hu : g.EmptyLast u)
    (h : g.Spans u trees (t :: w)) :
    ∃ y rest, u = y :: rest ∧ ReflTransGen g.LeadsTo y t := by
  generalize hx : t :: w = x at h
  induction h generalizing w with
  | nil => cases hx
  | @leaf s u _ _ _ _ =>
    obtain ⟨rfl, -⟩ := List.cons.inj hx
    exact ⟨t, u, rfl, .refl⟩
  | @node s p children v u trees w' hp hbelow hlater ih _ =>
    refine ⟨s, u, rfl, ?_⟩
    cases v with
    | nil =>
      -- The first root is empty, so it is the last one and there are no leaves.
      obtain rfl := hu.eq_nil (derives_of_node hp hbelow)
      rw [eq_nil_of_spans_nil hlater] at hx
      cases hx
    | cons c v =>
      obtain ⟨rfl, -⟩ := List.cons.inj hx
      obtain ⟨y, rest, hbody, hlead⟩ := ih (hg.emptyLast_body hp) rfl
      exact .head (hg.leadsTo_of_body hp hbody) hlead

/-- A symbol that leads to a terminal derives a form that starts with it. -/
theorem exists_derives_cons_of_leads (hg : g.LeadExact) (h : ReflTransGen g.LeadsTo s t)
    (ht : t ≠ epsilon) : ∃ w, g.Derives [s] (t :: w) := by
  induction h using ReflTransGen.head_induction_on with
  | refl => exact ⟨[], .refl⟩
  | @head a b hab hbt ih =>
    obtain ⟨w, hw⟩ := ih
    obtain ⟨r, hr, p, hpr, rfl⟩ := hab
    have hp := hasAlternative_of_rule? hr hpr
    have hlead : p.lead ≠ epsilon := by
      intro hlead
      rw [hlead] at hbt
      exact ht (eq_of_leadsTo_of_isTerminal hg.epsilon_isTerminal hbt)
    have hbody : p.body = [p.lead] ++ p.rest := hg.body_of_mem hp List.mem_cons_self hlead
    have hrest : g.Derives p.rest p.rest := .refl
    refine ⟨w ++ p.rest, (derives_body hp).trans ?_⟩
    rw [hbody]
    exact derives_append hw hrest

/-- A symbol that leads to the token for the empty string derives the empty string. -/
theorem derives_nil_of_leads_epsilon (hg : g.LeadExact) (h : ReflTransGen g.LeadsTo s epsilon)
    (hs : s ≠ epsilon) : g.Derives [s] [] := by
  induction h using ReflTransGen.head_induction_on with
  | refl => exact absurd rfl hs
  | @head a b hab _ ih =>
    obtain ⟨r, hr, p, hpr, rfl⟩ := hab
    have hp := hasAlternative_of_rule? hr hpr
    by_cases hlead : p.lead = epsilon
    · have halone : p.symbols = [epsilon] :=
        hg.epsilon_alone a p hp (hlead ▸ List.mem_cons_self)
      have hbody : p.body = [] := if_pos halone
      exact hbody ▸ derives_body hp
    · have hbody : p.body = p.lead :: p.rest := hg.body_of_mem hp List.mem_cons_self hlead
      have hrest : p.rest = [] := (hg.emptyLast_symbols a p hp).eq_nil (ih hlead)
      rw [hrest] at hbody
      exact (hbody ▸ derives_body hp).trans (ih hlead)

/-- A symbol leads to a terminal exactly when it derives a form that starts with it. -/
theorem leads_iff_derives_cons (hg : g.LeadExact) (ht : t ≠ epsilon) :
    ReflTransGen g.LeadsTo s t ↔ ∃ w, g.Derives [s] (t :: w) := by
  refine ⟨fun h => hg.exists_derives_cons_of_leads h ht, fun ⟨w, hw⟩ => ?_⟩
  obtain ⟨trees, htrees⟩ := exists_spans_of_derives hw
  obtain ⟨y, rest, hy, hlead⟩ := hg.leads_of_spans_cons (emptyLast_singleton g s) htrees
  obtain ⟨rfl, -⟩ := List.cons.inj hy
  exact hlead

/-- A symbol leads to the token for the empty string exactly when it derives the empty string. -/
theorem leads_epsilon_iff (hg : g.LeadExact) (hs : s ≠ epsilon) :
    ReflTransGen g.LeadsTo s epsilon ↔ g.Derives [s] [] := by
  refine ⟨fun h => hg.derives_nil_of_leads_epsilon h hs, fun h => ?_⟩
  obtain ⟨trees, htrees⟩ := exists_spans_of_derives h
  rcases hg.leads_epsilon_of_spans (emptyLast_singleton g s) htrees with hnil | ⟨y, hy, hlead⟩
  · cases hnil
  · obtain ⟨rfl, -⟩ := List.cons.inj hy
    exact hlead

/-- A list that holds the owner of every alternative over it holds the roots of trees without
leaves. -/
theorem forall_mem_of_spans {nullable : List Symbol}
    (hclosed : ∀ s p, g.HasAlternative s p → (∀ x ∈ p.body, x ∈ nullable) → s ∈ nullable)
    (h : g.Spans u trees w) (hw : w = []) : ∀ x ∈ u, x ∈ nullable := by
  induction h with
  | nil => simp
  | leaf _ _ _ => cases hw
  | @node s p children v u trees w hp _ _ ihbelow ihlater =>
    obtain ⟨hv, hw⟩ := List.append_eq_nil_iff.1 hw
    exact List.forall_mem_cons.2 ⟨hclosed s p hp (ihbelow hv), ihlater hw⟩

/-- A test for grammars in which one leading symbol is enough, given the symbols that may be empty
or more. -/
theorem of_nullable (nullable : List Symbol) (hnodup : g.leftSides.Nodup)
    (heps : g.isTerminal epsilon = true)
    (h : ∀ r ∈ g.rules, ∀ p ∈ r.alternatives,
      (epsilon ∈ p.symbols → p.symbols = [epsilon]) ∧
        ((∀ x ∈ p.body, x ∈ nullable) → r.nonTerminal ∈ nullable) ∧
        ∀ x ∈ p.symbols.dropLast, x ∉ nullable) : g.LeadExact where
  leftSides_nodup := hnodup
  epsilon_isTerminal := heps
  epsilon_alone := by
    rintro s p ⟨r, hr, rfl, hp⟩
    exact (h r hr p hp).1
  emptyLast_symbols := by
    rintro s p ⟨r, hr, rfl, hp⟩ before x after hsymbols hx
    obtain ⟨trees, htrees⟩ := exists_spans_of_derives hx
    have hnullable : ∀ y ∈ [x], y ∈ nullable := by
      refine forall_mem_of_spans ?_ htrees rfl
      rintro s p ⟨r, hr, rfl, hp⟩
      exact (h r hr p hp).2.1
    refine Classical.byContradiction fun hafter =>
      (h r hr p hp).2.2 x ?_ (hnullable x List.mem_cons_self)
    rw [hsymbols, List.dropLast_append_of_ne_nil (List.cons_ne_nil x after),
      List.dropLast_cons_of_ne_nil hafter]
    exact List.mem_append_right before List.mem_cons_self

end LeadExact

/-- Sums: terms with signs between them, of which the ones after the first are optional. -/
def sums : Grammar :=
  ⟨[⟨"E", [⟨"T", ["R"]⟩], "", by simp⟩, ⟨"R", [⟨"+", ["T", "R"]⟩, ⟨"epsilon", []⟩], "", by simp⟩,
    ⟨"T", [⟨"num", []⟩], "", by simp⟩]⟩

/-- One leading symbol is enough for sums. -/
theorem leadExact_sums : sums.LeadExact :=
  .of_nullable ["R"] (by decide) (by decide) (by decide)

/-- The derivation tree of a sum of two terms. -/
def twoTerms : DerivationTree :=
  let term := .node "T" ⟨"num", []⟩ [.leaf "num"]
  .node "E" ⟨"T", ["R"]⟩
    [term, .node "R" ⟨"+", ["T", "R"]⟩ [.leaf "+", term, .node "R" ⟨"epsilon", []⟩ []]]

/-- The tree of a sum of two terms has its tokens at the leaves. -/
theorem isTree_twoTerms : sums.IsTree "E" twoTerms ["num", "+", "num"] := by
  have hsum : sums.HasAlternative "E" ⟨"T", ["R"]⟩ := ⟨_, .head _, rfl, .head _⟩
  have hmore : sums.HasAlternative "R" ⟨"+", ["T", "R"]⟩ := ⟨_, .tail _ (.head _), rfl, .head _⟩
  have hnone : sums.HasAlternative "R" ⟨"epsilon", []⟩ :=
    ⟨_, .tail _ (.head _), rfl, .tail _ (.head _)⟩
  have hterm : sums.HasAlternative "T" ⟨"num", []⟩ :=
    ⟨_, .tail _ (.tail _ (.head _)), rfl, .head _⟩
  have hnum : sums.Spans ["num"] [.leaf "num"] ["num"] := .leaf "num" .nil
  have hlast : sums.Spans ["R"] [.node "R" ⟨"epsilon", []⟩ []] [] := .node hnone .nil .nil
  exact .node hsum (.node hterm hnum (.node hmore (.leaf "+" (.node hterm hnum hlast)) .nil)) .nil

end Predictive.Grammar
