import Mathlib.Data.List.Forall2
import Predictive.Analysis.Follow

/-!
# When a sequence of computations succeeds

A computation made of others in order succeeds with what the parts gave, when all of them succeed.
The lemmas of this module open the success of a composition (`bind_eq_ok_iff`), of a computation for
each member of a list (`outcome_mapM_eq_ok_iff`), and of a union over a list
(`exists_unionOver_eq_ok_iff`, `mem_of_unionOver_eq_ok`).
-/

namespace Predictive

variable {ω ε α β : Type}

/-- What comes after a success goes on with what it gave. -/
theorem ok_bind (a : α) (f : α → Except ε β) : (Except.ok a >>= f) = f a := rfl

/-- A composition succeeds exactly when both parts do. -/
theorem bind_eq_ok_iff {x : Except ε α} {f : α → Except ε β} {b : β} :
    (x >>= f) = .ok b ↔ ∃ a, x = .ok a ∧ f a = .ok b := by
  cases x with
  | error e => simp [bind, Except.bind]
  | ok a => simp [bind, Except.bind]

/-- A computation that can fail in one way fails exactly when it gives nothing. -/
theorem eq_error_iff_not_exists_eq_ok [Subsingleton ε] {x : Except ε α} {e : ε} :
    x = .error e ↔ ¬ ∃ a, x = .ok a := by
  cases x with
  | error e' => simp [Subsingleton.elim e' e]
  | ok a => simp

/-- Computations that can fail in one way and give the same things have the same outcome. -/
theorem eq_of_forall_eq_ok_iff [Subsingleton ε] {x y : Except ε α}
    (h : ∀ a, x = .ok a ↔ y = .ok a) : x = y := by
  cases hx : x with
  | ok a => exact ((h a).1 hx).symm
  | error e =>
    symm
    rw [eq_error_iff_not_exists_eq_ok]
    rintro ⟨a, ha⟩
    rw [(h a).2 ha] at hx
    cases hx

/-- A computation for each member of a list succeeds exactly when each of them does. -/
theorem outcome_mapM_eq_ok_iff {f : α → Traced ω ε β} {l : List α} {bs : List β} :
    (l.mapM f).outcome = .ok bs ↔ List.Forall₂ (fun a b => (f a).outcome = .ok b) l bs := by
  induction l generalizing bs with
  | nil =>
    rw [List.mapM_nil, Traced.outcome_pure, List.forall₂_nil_left_iff, Except.ok.injEq]
    exact eq_comm
  | cons a l ih =>
    rw [List.mapM_cons, Traced.outcome_bind, bind_eq_ok_iff, List.forall₂_cons_left_iff]
    constructor
    · rintro ⟨b, hb, h⟩
      rw [Traced.outcome_bind, bind_eq_ok_iff] at h
      obtain ⟨later, hlater, h⟩ := h
      cases h
      exact ⟨b, later, hb, ih.1 hlater, rfl⟩
    · rintro ⟨b, later, hb, hlater, rfl⟩
      refine ⟨b, hb, ?_⟩
      rw [Traced.outcome_bind, bind_eq_ok_iff]
      exact ⟨later, ih.2 hlater, rfl⟩

/-- A computation for each member of a list gives something exactly when each of them does. -/
theorem exists_outcome_mapM_eq_ok_iff {f : α → Traced ω ε β} {l : List α} :
    (∃ bs, (l.mapM f).outcome = .ok bs) ↔ ∀ a ∈ l, ∃ b, (f a).outcome = .ok b := by
  simp only [outcome_mapM_eq_ok_iff]
  induction l with
  | nil => simp
  | cons a l ih =>
    rw [List.forall_mem_cons, ← ih]
    constructor
    · rintro ⟨_, h⟩
      obtain ⟨b, bs, hab, hbs, -⟩ := List.forall₂_cons_left_iff.1 h
      exact ⟨⟨b, hab⟩, ⟨bs, hbs⟩⟩
    · rintro ⟨⟨b, hab⟩, ⟨bs, hbs⟩⟩
      exact ⟨b :: bs, .cons hab hbs⟩

/-- Computations for the members of a list that have the same outcomes have the same outcome
together. -/
theorem outcome_mapM_congr {f f' : α → Traced ω ε β} {l : List α}
    (h : ∀ a ∈ l, (f' a).outcome = (f a).outcome) :
    (l.mapM f').outcome = (l.mapM f).outcome := by
  induction l with
  | nil => rfl
  | cons a l ih =>
    rw [List.forall_mem_cons] at h
    simp only [List.mapM_cons, Traced.outcome_bind, Traced.outcome_pure, h.1, ih h.2]

/-- A member of the first of two lists that are related place by place has a relative in the
second. -/
theorem exists_mem_of_forall₂ {R : α → β → Prop} {l : List α} {bs : List β}
    (h : List.Forall₂ R l bs) {a : α} (ha : a ∈ l) : ∃ b ∈ bs, R a b := by
  induction h with
  | nil => exact absurd ha List.not_mem_nil
  | cons hab _ ih =>
    rcases List.mem_cons.1 ha with rfl | ha
    · exact ⟨_, List.mem_cons_self, hab⟩
    · obtain ⟨b, hb, hR⟩ := ih ha
      exact ⟨b, List.mem_cons_of_mem _ hb, hR⟩

/-- What holds of any two members of a list, one after the other, holds of their relatives in a list
that is related place by place. -/
theorem pairwise_of_forall₂ {R : α → β → Prop} {S : β → β → Prop} {S' : α → α → Prop}
    (hS : ∀ a a' b b', R a b → R a' b' → S b b' → S' a a') {l : List α} {bs : List β}
    (h : List.Forall₂ R l bs) (hbs : bs.Pairwise S) : l.Pairwise S' := by
  induction h with
  | nil => exact .nil
  | @cons a b l bs hab hl ih =>
    obtain ⟨hb, hbs⟩ := List.pairwise_cons.1 hbs
    refine List.pairwise_cons.2 ⟨fun a' ha' => ?_, ih hbs⟩
    obtain ⟨b', hb', hR⟩ := exists_mem_of_forall₂ hl ha'
    exact hS a a' b b' hab hR (hb b' hb')

/-- What holds of any two members of a list, one after the other, holds of any two members at
different places, if it does not matter which of the two comes first. -/
theorem pairwise_iff_of_ne {R : α → α → Prop} (hR : ∀ a b, R a b → R b a) {l : List α} :
    l.Pairwise R ↔ ∀ (i j : Nat) a b, i ≠ j → l[i]? = some a → l[j]? = some b → R a b := by
  rw [List.pairwise_iff_getElem]
  constructor
  · intro h i j a b hij ha hb
    obtain ⟨hi, rfl⟩ := List.getElem?_eq_some_iff.1 ha
    obtain ⟨hj, rfl⟩ := List.getElem?_eq_some_iff.1 hb
    rcases Nat.lt_or_gt_of_ne hij with hlt | hgt
    · exact h i j hi hj hlt
    · exact hR _ _ (h j i hj hi hgt)
  · intro h i j hi hj hlt
    exact h i j _ _ (Nat.ne_of_lt hlt) (List.getElem?_eq_getElem hi) (List.getElem?_eq_getElem hj)

/-- What relates the members of a list to others relates those of another list to them, if it
depends only on what a function gives and that is the same for both lists. -/
theorem forall₂_of_map_eq {γ : Type} {R : α → β → Prop} {f : α → γ}
    (hR : ∀ a a' b, f a = f a' → R a b → R a' b) {l l' : List α} {bs : List β}
    (heq : l.map f = l'.map f) (h : List.Forall₂ R l bs) : List.Forall₂ R l' bs := by
  induction h generalizing l' with
  | nil =>
    rw [List.map_eq_nil_iff.1 heq.symm]
    exact .nil
  | @cons a b l bs hab _ ih =>
    obtain ⟨a', l', rfl, ha, hl⟩ := List.map_eq_cons_iff.1 heq.symm
    exact .cons (hR a a' b ha.symm hab) (ih hl.symm)

/-- Where the members of two lists are related place by place, and any two relatives have something
that is related to both, there is a list of it. -/
theorem exists_forall₂_of_forall₂ {γ : Type} {R : α → β → Prop} {S : α → γ → Prop}
    {T : β → γ → Prop} (hR : ∀ a b, R a b → ∃ c, S a c ∧ T b c) {l : List α} {bs : List β}
    (h : List.Forall₂ R l bs) : ∃ cs, List.Forall₂ S l cs ∧ List.Forall₂ T bs cs := by
  induction h with
  | nil => exact ⟨[], .nil, .nil⟩
  | @cons a b _ _ hab _ ih =>
    obtain ⟨c, hac, hbc⟩ := hR a b hab
    obtain ⟨cs, hl, hbs⟩ := ih
    exact ⟨c :: cs, .cons hac hl, .cons hbc hbs⟩

/-- Lists of what a function gives for the relatives of the members of a list. -/
theorem exists_map_iff_forall₂ {γ : Type} {R : α → β → Prop} {f : β → γ} {l : List α}
    {cs : List γ} :
    (∃ bs, List.Forall₂ R l bs ∧ bs.map f = cs) ↔
      List.Forall₂ (fun a c => ∃ b, R a b ∧ f b = c) l cs := by
  constructor
  · rintro ⟨bs, h, rfl⟩
    exact List.forall₂_map_right_iff.2 (h.imp fun a b hab => ⟨b, hab, rfl⟩)
  · intro h
    induction h with
    | nil => exact ⟨[], .nil, rfl⟩
    | cons hac _ ih =>
      obtain ⟨b, hab, rfl⟩ := hac
      obtain ⟨bs, hbs, rfl⟩ := ih
      exact ⟨b :: bs, .cons hab hbs, rfl⟩

/-- Lists that are put together from another list and its relatives place by place. -/
theorem exists_zipWith_iff_forall₂ {γ : Type} {R : α → β → Prop} {f : β → α → γ} {l : List α}
    {cs : List γ} :
    (∃ bs, List.Forall₂ R l bs ∧ cs = bs.zipWith f l) ↔
      List.Forall₂ (fun a c => ∃ b, R a b ∧ c = f b a) l cs := by
  induction l generalizing cs with
  | nil => simp
  | cons a l ih =>
    rw [List.forall₂_cons_left_iff]
    constructor
    · rintro ⟨bs, h, rfl⟩
      obtain ⟨b, bs, hab, hbs, rfl⟩ := List.forall₂_cons_left_iff.1 h
      exact ⟨f b a, bs.zipWith f l, ⟨b, hab, rfl⟩, ih.1 ⟨bs, hbs, rfl⟩, rfl⟩
    · rintro ⟨c, cs, ⟨b, hab, rfl⟩, h, rfl⟩
      obtain ⟨bs, hbs, rfl⟩ := ih.2 h
      exact ⟨b :: bs, .cons hab hbs, rfl⟩

/-- What is in the set that a computation gives is in the one that it is known to give. -/
theorem exists_mem_of_eq_ok_iff {x : Except ε SymbolSet} {set : SymbolSet} (h : x = .ok set)
    {t : Symbol} : (∃ set', x = .ok set' ∧ t ∈ set') ↔ t ∈ set := by
  constructor
  · rintro ⟨set', h', ht⟩
    rw [h] at h'
    cases h'
    exact ht
  · exact fun ht => ⟨set, h, ht⟩

/-- A union over a list with a first member. -/
theorem unionOver_cons_eq_ok_iff {action : α → Except ε SymbolSet} {a : α} {l : List α}
    {set : SymbolSet} :
    unionOver action (a :: l) = .ok set ↔
      ∃ part, action a = .ok part ∧ ∃ others, unionOver action l = .ok others ∧
        part ∪ others = set := by
  rw [unionOver, bind_eq_ok_iff]
  simp only [bind_eq_ok_iff, pure, Except.pure, Except.ok.injEq]

/-- There is a union over a list exactly when the action gives a set for every member. -/
theorem exists_unionOver_eq_ok_iff {action : α → Except ε SymbolSet} {l : List α} :
    (∃ set, unionOver action l = .ok set) ↔ ∀ a ∈ l, ∃ part, action a = .ok part := by
  induction l with
  | nil => exact ⟨fun _ a ha => absurd ha List.not_mem_nil, fun _ => ⟨∅, rfl⟩⟩
  | cons a l ih =>
    rw [List.forall_mem_cons, ← ih]
    constructor
    · rintro ⟨set, h⟩
      obtain ⟨part, hpart, others, hothers, -⟩ := unionOver_cons_eq_ok_iff.1 h
      exact ⟨⟨part, hpart⟩, ⟨others, hothers⟩⟩
    · rintro ⟨⟨part, hpart⟩, ⟨others, hothers⟩⟩
      exact ⟨part ∪ others, unionOver_cons_eq_ok_iff.2 ⟨part, hpart, others, hothers, rfl⟩⟩

/-- A union over a list is there, and is the same, for an action that gives at least the sets that
another gives. -/
theorem unionOver_eq_ok_of_forall {ε' : Type} {action : α → Except ε SymbolSet}
    {action' : α → Except ε' SymbolSet} {l : List α} {set : SymbolSet}
    (h : ∀ a ∈ l, ∀ part, action a = .ok part → action' a = .ok part)
    (hset : unionOver action l = .ok set) : unionOver action' l = .ok set := by
  induction l generalizing set with
  | nil =>
    cases hset
    rfl
  | cons a l ih =>
    obtain ⟨ha, hl⟩ := List.forall_mem_cons.1 h
    obtain ⟨part, hpart, others, hothers, hunion⟩ := unionOver_cons_eq_ok_iff.1 hset
    exact unionOver_cons_eq_ok_iff.2 ⟨part, ha part hpart, others, ih hl hothers, hunion⟩

/-- The members of a union over a list are those of the parts. -/
theorem mem_of_unionOver_eq_ok {action : α → Except ε SymbolSet} {l : List α} {set : SymbolSet}
    (h : unionOver action l = .ok set) (t : Symbol) :
    t ∈ set ↔ ∃ a ∈ l, ∃ part, action a = .ok part ∧ t ∈ part := by
  induction l generalizing set with
  | nil =>
    cases h
    simp
  | cons a l ih =>
    obtain ⟨part, hpart, others, hothers, rfl⟩ := unionOver_cons_eq_ok_iff.1 h
    rw [SymbolSet.mem_union, ih hothers]
    simp [hpart]

end Predictive
