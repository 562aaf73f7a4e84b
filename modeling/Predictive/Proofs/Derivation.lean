import Mathlib.Logic.Relation
import Predictive.Proofs.Occurrences

/-!
# Derivations

A sentential form derives another by putting alternatives in the place of non-terminals; an
alternative that is only the token for the empty string puts nothing in. `Derives` takes one step
after the other, and a derivation tree shows all of them at once. Main statement: a form derives
another exactly when trees with the one at their roots have the other at their leaves
(`derives_iff_exists_spans`). Later proofs go by induction on `Spans`, whose cases are those of one
symbol: it stays, or it is expanded.
-/

namespace Predictive

open Relation (ReflTransGen)

/-- The symbols that an alternative puts in the place of its non-terminal: its own, or none if it is
the token for the empty string alone. -/
def Production.body (p : Production) : List Symbol :=
  if p.symbols = [epsilon] then [] else p.symbols

/-- A derivation tree: a symbol that is left as it is, or a symbol with an alternative and a tree
for each symbol of its body. -/
inductive DerivationTree where
  | leaf (s : Symbol)
  | node (s : Symbol) (p : Production) (children : List DerivationTree)

namespace Grammar

/-- One step of a derivation: a symbol gives way to the body of one of its alternatives. -/
def Rewrites (g : Grammar) (u v : List Symbol) : Prop :=
  ∃ before s after p, g.HasAlternative s p ∧ u = before ++ s :: after ∧
    v = before ++ p.body ++ after

/-- Any number of steps of a derivation. -/
def Derives (g : Grammar) : List Symbol → List Symbol → Prop := ReflTransGen g.Rewrites

/-- Derivation trees with the symbols `u` at their roots and the symbols `w` at their leaves, from
left to right. -/
inductive Spans (g : Grammar) : List Symbol → List DerivationTree → List Symbol → Prop
  | nil : Spans g [] [] []
  | leaf (s : Symbol) {u trees w} (later : Spans g u trees w) :
    Spans g (s :: u) (.leaf s :: trees) (s :: w)
  | node {s p children v u trees w} (alternative : g.HasAlternative s p)
    (below : Spans g p.body children v) (later : Spans g u trees w) :
    Spans g (s :: u) (.node s p children :: trees) (v ++ w)

/-- A derivation tree of `w` from `s`. -/
def IsTree (g : Grammar) (s : Symbol) (tree : DerivationTree) (w : List Symbol) : Prop :=
  g.Spans [s] [tree] w

variable {g : Grammar} {s : Symbol} {u u' v v' w : List Symbol}
  {trees trees' : List DerivationTree}

/-- A symbol derives the body of each of its alternatives. -/
theorem derives_body {p : Production} (h : g.HasAlternative s p) : g.Derives [s] p.body :=
  .single ⟨[], s, [], p, h, rfl, by simp⟩

/-- A derivation goes on in any context. -/
theorem derives_context (h : g.Derives u v) (before after : List Symbol) :
    g.Derives (before ++ u ++ after) (before ++ v ++ after) := by
  induction h with
  | refl => exact .refl
  | tail _ hstep ih =>
    obtain ⟨b, s, a, p, hp, rfl, rfl⟩ := hstep
    exact ih.tail ⟨before ++ b, s, a ++ after, p, hp, by simp, by simp⟩

/-- Derivations side by side. -/
theorem derives_append (h : g.Derives u v) (h' : g.Derives u' v') :
    g.Derives (u ++ u') (v ++ v') := by
  have hleft : g.Derives (u ++ u') (v ++ u') := by simpa using derives_context h [] u'
  have hright : g.Derives (v ++ u') (v ++ v') := by simpa using derives_context h' v []
  exact hleft.trans hright

/-- Symbols that are left as they are. -/
theorem spans_leaves (w : List Symbol) : g.Spans w (w.map .leaf) w := by
  induction w with
  | nil => exact .nil
  | cons s w ih => exact .leaf s ih

/-- Trees side by side. -/
theorem spans_append (h : g.Spans u trees v) (h' : g.Spans u' trees' v') :
    g.Spans (u ++ u') (trees ++ trees') (v ++ v') := by
  induction h with
  | nil => exact h'
  | leaf s _ ih => exact .leaf s ih
  | @node s p children v u trees w hp hbelow _ _ ih =>
    rw [List.append_assoc]
    exact .node hp hbelow ih

/-- Trees over two lists of roots are trees over the one next to trees over the other. -/
theorem exists_spans_of_append (h : g.Spans (u ++ u') trees w) :
    ∃ left right v v', trees = left ++ right ∧ w = v ++ v' ∧ g.Spans u left v ∧
      g.Spans u' right v' := by
  induction u generalizing trees w with
  | nil => exact ⟨[], trees, [], w, rfl, rfl, .nil, h⟩
  | cons s u ih =>
    cases h with
    | leaf _ hlater =>
      obtain ⟨left, right, v, v', rfl, rfl, hleft, hright⟩ := ih hlater
      exact ⟨.leaf s :: left, right, s :: v, v', rfl, rfl, .leaf s hleft, hright⟩
    | @node _ p children x _ _ _ hp hbelow hlater =>
      obtain ⟨left, right, v, v', rfl, rfl, hleft, hright⟩ := ih hlater
      exact ⟨.node s p children :: left, right, x ++ v, v', rfl, by simp,
        .node hp hbelow hleft, hright⟩

/-- The roots of trees derive the leaves. -/
theorem derives_of_spans (h : g.Spans u trees w) : g.Derives u w := by
  induction h with
  | nil => exact .refl
  | leaf s _ ih => exact derives_append (u := [s]) .refl ih
  | node hp _ _ ihbelow ihlater =>
    exact derives_append (u := [_]) ((derives_body hp).trans ihbelow) ihlater

/-- A derivation has trees. -/
theorem exists_spans_of_derives (h : g.Derives u w) : ∃ trees, g.Spans u trees w := by
  induction h using ReflTransGen.head_induction_on with
  | refl => exact ⟨w.map .leaf, spans_leaves w⟩
  | head hstep _ ih =>
    obtain ⟨before, s, after, p, hp, rfl, rfl⟩ := hstep
    obtain ⟨trees, htrees⟩ := ih
    obtain ⟨rest, right, x, x₃, rfl, rfl, hrest, hright⟩ := exists_spans_of_append htrees
    obtain ⟨left, middle, x₁, x₂, rfl, rfl, hleft, hmiddle⟩ := exists_spans_of_append hrest
    -- The trees over the body become the children of one node.
    refine ⟨left ++ .node s p middle :: right, ?_⟩
    rw [List.append_assoc]
    exact spans_append hleft (.node hp hmiddle hright)

/-- A form derives another exactly when trees lead from the one to the other. -/
theorem derives_iff_exists_spans : g.Derives u w ↔ ∃ trees, g.Spans u trees w :=
  ⟨exists_spans_of_derives, fun ⟨_, h⟩ => derives_of_spans h⟩

/-- No roots have no leaves. -/
theorem eq_nil_of_spans_nil (h : g.Spans [] trees w) : w = [] := by
  cases h
  rfl

/-- The root of a node derives what is at the leaves of the trees below it. -/
theorem derives_of_node {p : Production} (hp : g.HasAlternative s p)
    (h : g.Spans p.body trees w) : g.Derives [s] w :=
  (derives_body hp).trans (derives_of_spans h)

/-- A symbol derives itself and what the bodies of its alternatives derive. -/
theorem eq_or_exists_spans_body (h : g.Derives [s] w) :
    w = [s] ∨ ∃ p trees, g.HasAlternative s p ∧ g.Spans p.body trees w := by
  obtain ⟨trees, htrees⟩ := exists_spans_of_derives h
  cases htrees with
  | leaf _ hlater =>
    rw [eq_nil_of_spans_nil hlater]
    exact .inl rfl
  | node hp hbelow hlater =>
    rw [eq_nil_of_spans_nil hlater, List.append_nil]
    exact .inr ⟨_, _, hp, hbelow⟩

end Grammar

end Predictive
