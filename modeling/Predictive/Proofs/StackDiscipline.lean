import Mathlib.Data.Finset.Card
import Mathlib.Data.Finset.Dedup
import Predictive.Proofs.Dependence

/-!
# The stack of symbols in progress, step by step

All calls of FOLLOW in a computation share one stack. A call that asks for FOLLOW of an owner puts
its symbol on the stack before, and takes it off after, whether the other call succeeds or fails; a
call for a symbol that is on the stack ends at once. In this module the computation goes in single
steps from state to state, and the stack is a part of the state that steps change
(`FollowState.next?`). It comes to an end with what `followFrom` gives (`computes`).

Main statement: the stack is kept in order (`stack_disciplined`). What holds of the calls that wait
(`Nested`) is kept by each step (`Orderly.of_next?`): their symbols are what stands on the stack
above the symbols that were there at the start, each once, and all but the first are left-hand
sides. So not many calls can wait, and when none does the stack is what it was.
-/

namespace Predictive

/-- A call of FOLLOW under way. -/
structure FollowCall where
  symbol : Symbol
  /-- The places of the symbol that have not been looked at. -/
  places : List Occurrence
  /-- What has been found at the others. -/
  gathered : SymbolSet

/-- What the newest call is at. -/
inductive FollowPhase where
  /-- FOLLOW of a symbol has been asked for, and nothing has been done yet. -/
  | asked (s : Symbol)
  /-- The call goes through the places of its symbol. -/
  | running (call : FollowCall)
  /-- The call has succeeded or failed. -/
  | ended (outcome : Except LeftRecursion SymbolSet)

/-- A moment in a computation of FOLLOW. -/
structure FollowState where
  phase : FollowPhase
  /-- The symbols in progress, the newest last. There is one such list for all calls. -/
  stack : List Symbol
  /-- The calls that wait for one that they asked for, the newest first. -/
  waiting : List FollowCall
  /-- What has been noted. -/
  noted : List Event

/-- A call that waited goes on with what it asked for, unless that failed. -/
def FollowCall.resume (call : FollowCall) : Except LeftRecursion SymbolSet → FollowPhase
  | .ok set => .running { call with gathered := call.gathered ∪ set }
  | .error e => .ended (.error e)

namespace FollowState

/-- FOLLOW of a symbol is asked for, and no call has begun. -/
def start (stack : List Symbol) (s : Symbol) : FollowState := ⟨.asked s, stack, [], []⟩

/-- The newest call puts its symbol on the stack and asks for FOLLOW of an owner. -/
def ask (state : FollowState) (call : FollowCall) (owner : Symbol) : FollowState :=
  { state with
    phase := .asked owner, stack := state.stack ++ [call.symbol], waiting := call :: state.waiting }

/-- The state after a single step, unless the outermost call has ended. -/
def next? (g : Grammar) (state : FollowState) : Option FollowState :=
  match state.phase with
  | .asked s =>
    if s ∈ state.stack then
      some { state with
        phase := .ended (.ok ∅), noted := state.noted ++ [.followCycle s state.stack] }
    else if g.occurrences s = [] then some { state with phase := .ended (.ok {endMarker}) }
    else some { state with phase := .running ⟨s, g.occurrences s, ∅⟩ }
  | .running ⟨_, [], gathered⟩ => some { state with phase := .ended (.ok gathered) }
  | .running ⟨s, o :: places, gathered⟩ =>
    match o.next? with
    | none =>
      if o.owner = s then some { state with phase := .running ⟨s, places, gathered⟩ }
      else some (state.ask ⟨s, places, gathered⟩ o.owner)
    | some next =>
      match g.first next with
      | .error e => some { state with phase := .ended (.error e) }
      | .ok nextFirst =>
        let call := ⟨s, places, gathered ∪ nextFirst.erase epsilon⟩
        if epsilon ∈ nextFirst then some (state.ask call o.owner)
        else some { state with phase := .running call }
  | .ended outcome =>
    match state.waiting with
    | [] => none
    | call :: older =>
      -- The newest symbol goes off the stack whatever the outcome.
      some { state with
        phase := call.resume outcome, stack := state.stack.dropLast, waiting := older }

end FollowState

namespace Grammar

open Relation (ReflTransGen)
open FollowState

/-- One state of a computation comes at or after another. -/
abbrev FollowReaches (g : Grammar) : FollowState → FollowState → Prop :=
  ReflTransGen fun a b => next? g a = some b

/-- What FOLLOW takes from a place of `s`. -/
def followPlace (g : Grammar) (stack : List Symbol) (s : Symbol) (o : Occurrence) :
    Traced Event LeftRecursion SymbolSet := do
  match o.next? with
  | none => if o.owner = s then return ∅ else g.followFrom (stack ++ [s]) o.owner
  | some next =>
    let nextFirst ← Traced.ofExcept (g.first next)
    if epsilon ∈ nextFirst then
      return nextFirst.erase epsilon ∪ (← g.followFrom (stack ++ [s]) o.owner)
    else return nextFirst

/-- When FOLLOW of `s` is asked for with this stack, the computation comes to the end of the call
with what `followFrom` gives and notes, and with the stack and the calls that wait as they were. -/
def Computes (g : Grammar) (stack : List Symbol) (s : Symbol) : Prop :=
  ∀ waiting noted, g.FollowReaches ⟨.asked s, stack, waiting, noted⟩
    ⟨.ended (g.followFrom stack s).outcome, stack, waiting,
      noted ++ (g.followFrom stack s).trace⟩

variable {g : Grammar} {stack : List Symbol} {s t owner : Symbol} {o : Occurrence}
  {places : List Occurrence} {gathered : SymbolSet} {waiting : List FollowCall}
  {noted : List Event}

/-! ## The computation comes to its end -/

/-- FOLLOW of a symbol that stands somewhere joins what its places give. -/
theorem followFrom_eq_unionOver (h : s ∉ stack) (ho : g.occurrences s ≠ []) :
    g.followFrom stack s = unionOver (g.followPlace stack s) (g.occurrences s) := by
  rw [followFrom, dif_neg h, dif_neg ho]
  rfl

/-- What is joined with the empty set stays as it is. -/
theorem empty_union_map (x : Except LeftRecursion SymbolSet) : (∅ ∪ ·) <$> x = x := by
  simp only [SymbolSet.empty_union]
  exact id_map x

/-- Sets can be joined one after another. -/
theorem union_map_union_map (a b : SymbolSet) (x : Except LeftRecursion SymbolSet) :
    (a ∪ ·) <$> (b ∪ ·) <$> x = (a ∪ b ∪ ·) <$> x := by
  simp only [SymbolSet.union_assoc]
  exact (comp_map _ _ x).symm

/-- A call that has asked for FOLLOW of an owner goes on with it, and the stack is as it was. -/
theorem reaches_resume (call : FollowCall)
    (howner : g.Computes (stack ++ [call.symbol]) owner) :
    g.FollowReaches ⟨.asked owner, stack ++ [call.symbol], call :: waiting, noted⟩
      ⟨call.resume (g.followFrom (stack ++ [call.symbol]) owner).outcome, stack, waiting,
        noted ++ (g.followFrom (stack ++ [call.symbol]) owner).trace⟩ := by
  refine (howner (call :: waiting) noted).tail ?_
  simp only [next?, List.dropLast_concat]

/-- What an owner gives can be joined with the rest of the part of its place before or after. -/
theorem resume_union (part : SymbolSet) (x : Traced Event LeftRecursion SymbolSet) :
    FollowCall.resume ⟨s, places, gathered⟩ ((part ∪ ·) <$> x).outcome =
      FollowCall.resume ⟨s, places, gathered ∪ part⟩ x.outcome := by
  rw [Traced.outcome_map]
  cases x.outcome with
  | error e => rfl
  | ok set =>
    exact congrArg (FollowPhase.running ⟨s, places, ·⟩) (SymbolSet.union_assoc ..).symm

/-- The call for a symbol takes what a place gives, or fails with it. -/
theorem reaches_place (howner : ∀ owner, g.Inherits s owner → g.Computes (stack ++ [s]) owner)
    (ho : o ∈ g.occurrences s) (places : List Occurrence) (gathered : SymbolSet)
    (waiting : List FollowCall) (noted : List Event) :
    g.FollowReaches ⟨.running ⟨s, o :: places, gathered⟩, stack, waiting, noted⟩
      ⟨FollowCall.resume ⟨s, places, gathered⟩ (g.followPlace stack s o).outcome, stack, waiting,
        noted ++ (g.followPlace stack s o).trace⟩ := by
  have hplace := hasPlace_of_mem_occurrences ho
  cases hnext : o.next? with
  | none =>
    rw [hnext] at hplace
    by_cases hs : o.owner = s
    · have hpart : g.followPlace stack s o = pure ∅ := by simp [followPlace, hnext, hs]
      refine .single ?_
      simp [next?, hnext, hs, hpart, FollowCall.resume, SymbolSet.union_empty]
    · have hpart : g.followPlace stack s o = g.followFrom (stack ++ [s]) o.owner := by
        simp [followPlace, hnext, hs]
      have hinherits : g.Inherits s o.owner := inherits_iff_hasPlace.2 (.inl ⟨hplace, hs⟩)
      rw [hpart]
      refine .head ?_ (reaches_resume ⟨s, places, gathered⟩ (howner _ hinherits))
      simp [next?, hnext, hs, ask]
  | some next =>
    rw [hnext] at hplace
    cases hfirst : g.first next with
    | error e =>
      have hpart : g.followPlace stack s o = Traced.fail e := by
        simp [followPlace, hnext, hfirst, Traced.ofExcept_error_bind]
      refine .single ?_
      simp [next?, hnext, hfirst, hpart, FollowCall.resume]
    | ok nextFirst =>
      by_cases he : epsilon ∈ nextFirst
      · have hpart : g.followPlace stack s o =
            (nextFirst.erase epsilon ∪ ·) <$> g.followFrom (stack ++ [s]) o.owner := by
          simp [followPlace, hnext, hfirst, he, Traced.ofExcept_ok]
        have hinherits : g.Inherits s o.owner :=
          inherits_iff_hasPlace.2 (.inr ⟨next, hplace, (mem_firstMembers_of_eq_ok hfirst).2 he⟩)
        rw [hpart, resume_union, Traced.trace_map]
        refine .head ?_ (reaches_resume ⟨s, places, _⟩ (howner _ hinherits))
        simp [next?, hnext, hfirst, he, ask]
      · have hpart : g.followPlace stack s o = pure nextFirst := by
          simp [followPlace, hnext, hfirst, he, Traced.ofExcept_ok]
        refine .single ?_
        simp [next?, hnext, hfirst, he, hpart, FollowCall.resume, SymbolSet.erase_of_not_mem he]

/-- The call for a symbol goes through all its places, or fails with one of them. -/
theorem reaches_places (howner : ∀ owner, g.Inherits s owner → g.Computes (stack ++ [s]) owner)
    (hplaces : places ⊆ g.occurrences s) (gathered : SymbolSet) (waiting : List FollowCall)
    (noted : List Event) :
    g.FollowReaches ⟨.running ⟨s, places, gathered⟩, stack, waiting, noted⟩
      ⟨.ended ((gathered ∪ ·) <$> (unionOver (g.followPlace stack s) places).outcome), stack,
        waiting, noted ++ (unionOver (g.followPlace stack s) places).trace⟩ := by
  induction places generalizing gathered noted with
  | nil =>
    refine .single ?_
    simp [next?, unionOver, SymbolSet.union_empty]
  | cons o places ih =>
    obtain ⟨ho, hrest⟩ := List.cons_subset.1 hplaces
    have hplace := reaches_place howner ho places gathered waiting noted
    have hcons : unionOver (g.followPlace stack s) (o :: places) =
        g.followPlace stack s o >>= fun set =>
          (set ∪ ·) <$> unionOver (g.followPlace stack s) places := by
      simp [unionOver]
    rw [hcons]
    cases hpart : (g.followPlace stack s o).outcome with
    | error e =>
      rw [Traced.outcome_bind, Traced.trace_bind_error hpart, hpart]
      rw [hpart] at hplace
      exact hplace
    | ok set =>
      rw [Traced.outcome_bind, Traced.trace_bind_ok hpart, hpart, ok_bind, Traced.trace_map,
        Traced.outcome_map, ← List.append_assoc, union_map_union_map]
      rw [hpart] at hplace
      exact hplace.trans (ih hrest _ _)

/-- The computation of FOLLOW comes to its end with what `followFrom` gives, whatever the stack. -/
theorem computes (g : Grammar) (stack : List Symbol) (s : Symbol) : g.Computes stack s := by
  induction stack, s using followFrom_induction (g := g) with
  | mem stack s hs =>
    intro waiting noted
    refine .single ?_
    rw [followFrom, dif_pos hs]
    simp [next?, hs]
  | step stack s hs ih =>
    intro waiting noted
    by_cases ho : g.occurrences s = []
    · refine .single ?_
      rw [followFrom, dif_neg hs, dif_pos ho]
      simp [next?, hs, ho]
    · rw [followFrom_eq_unionOver hs ho]
      have hplaces := reaches_places ih (List.Subset.refl (g.occurrences s)) ∅ waiting noted
      rw [empty_union_map] at hplaces
      refine .head ?_ hplaces
      simp [next?, hs, ho]

/-! ## What waits stands on the stack -/

/-- The symbols that the calls that wait have put on the stack, the newest last. -/
def standing (waiting : List FollowCall) : List Symbol := (waiting.map FollowCall.symbol).reverse

/-- The outermost call is for `s`, and any other for an owner. -/
def AskedFor (g : Grammar) (s : Symbol) : List FollowCall → Symbol → Prop
  | [], t => t = s
  | _ :: _, t => t ∈ g.leftSides

/-- Each call was asked for by the one before it, at one of the places of its symbol, when neither
the stack at the start nor those before it had the symbol. -/
inductive Nested (g : Grammar) (stack : List Symbol) (s : Symbol) : List FollowCall → Prop
  | nil : Nested g stack s []
  | cons {call older} (askedFor : g.AskedFor s older call.symbol)
    (notMem : call.symbol ∉ stack ++ standing older)
    (places_subset : call.places ⊆ g.occurrences call.symbol) (nested : Nested g stack s older) :
    Nested g stack s (call :: older)

/-- The stack holds what was there at the start and the symbols of the calls that wait. -/
structure Orderly (g : Grammar) (stack : List Symbol) (s : Symbol) (state : FollowState) :
    Prop where
  stack_eq : state.stack = stack ++ standing state.waiting
  nested : Nested g stack s state.waiting
  /-- FOLLOW is asked for as it should be. -/
  askedFor : ∀ t, state.phase = .asked t → g.AskedFor s state.waiting t
  /-- A call that has begun has a symbol that is not on the stack. -/
  running : ∀ call, state.phase = .running call → Nested g stack s (call :: state.waiting)

theorem standing_cons (call : FollowCall) (older : List FollowCall) :
    standing (call :: older) = standing older ++ [call.symbol] := by
  simp [standing]

/-- A call can have seen more of its places. -/
theorem Nested.of_subset {places' : List Occurrence} {gathered' : SymbolSet}
    (h : Nested g stack s (⟨t, places, gathered⟩ :: waiting)) (hsub : places' ⊆ places) :
    Nested g stack s (⟨t, places', gathered'⟩ :: waiting) := by
  cases h with
  | cons askedFor notMem places_subset nested =>
    exact .cons askedFor notMem (List.Subset.trans hsub places_subset) nested

namespace Orderly

variable {state state' : FollowState} {outcome : Except LeftRecursion SymbolSet}

/-- Nothing is on the stack yet but what was there at the start. -/
theorem of_start (g : Grammar) (stack : List Symbol) (s : Symbol) :
    g.Orderly stack s (start stack s) where
  stack_eq := (List.append_nil stack).symm
  nested := .nil
  askedFor := by
    rintro t ⟨⟩
    rfl
  running := nofun

/-- A call may end. -/
theorem ended (h : g.Orderly stack s state) (outcome : Except LeftRecursion SymbolSet)
    (noted : List Event) :
    g.Orderly stack s { state with phase := .ended outcome, noted := noted } where
  stack_eq := h.stack_eq
  nested := h.nested
  askedFor := nofun
  running := nofun

/-- A call may begin with all places of its symbol, if that is not on the stack. -/
theorem begun (h : g.Orderly stack s state) (hphase : state.phase = .asked t)
    (ht : t ∉ state.stack) :
    g.Orderly stack s { state with phase := .running ⟨t, g.occurrences t, ∅⟩ } where
  stack_eq := h.stack_eq
  nested := h.nested
  askedFor := nofun
  running := by
    rintro call ⟨⟩
    exact .cons (h.askedFor t hphase) (h.stack_eq ▸ ht) (List.Subset.refl _) h.nested

/-- A call may go on to later places. -/
theorem moved {places' : List Occurrence} (h : g.Orderly stack s state)
    (hphase : state.phase = .running ⟨t, places, gathered⟩) (hsub : places' ⊆ places)
    (gathered' : SymbolSet) :
    g.Orderly stack s { state with phase := .running ⟨t, places', gathered'⟩ } where
  stack_eq := h.stack_eq
  nested := h.nested
  askedFor := nofun
  running := by
    rintro call ⟨⟩
    exact (h.running _ hphase).of_subset hsub

/-- A call may put its symbol on the stack and ask for the owner of its next place. -/
theorem asked (h : g.Orderly stack s state)
    (hphase : state.phase = .running ⟨t, o :: places, gathered⟩) (gathered' : SymbolSet) :
    g.Orderly stack s (state.ask ⟨t, places, gathered'⟩ o.owner) where
  stack_eq := by
    rw [ask, standing_cons, ← List.append_assoc, ← h.stack_eq]
  nested := (h.running _ hphase).of_subset (List.subset_cons_self o places)
  askedFor := by
    rintro owner ⟨⟩
    cases h.running _ hphase with
    | cons _ _ places_subset _ =>
      obtain ⟨⟨r, hr, howner, -⟩, -⟩ := mem_occurrences_iff.1 (places_subset List.mem_cons_self)
      exact List.mem_map.2 ⟨r, hr, howner⟩
  running := nofun

/-- A call that waited may go on, with its symbol off the stack. -/
theorem resumed {call : FollowCall} {older : List FollowCall} (h : g.Orderly stack s state)
    (hwaiting : state.waiting = call :: older) (outcome : Except LeftRecursion SymbolSet) :
    g.Orderly stack s { state with
      phase := call.resume outcome, stack := state.stack.dropLast, waiting := older } := by
  have hstack : state.stack.dropLast = stack ++ standing older := by
    rw [h.stack_eq, hwaiting, standing_cons, ← List.append_assoc, List.dropLast_concat]
  have hnested := h.nested
  rw [hwaiting] at hnested
  have holder : g.Nested stack s older := by
    cases hnested with
    | cons _ _ _ nested => exact nested
  cases outcome with
  | ok set =>
    refine ⟨hstack, holder, nofun, ?_⟩
    rintro _ ⟨⟩
    exact hnested.of_subset (List.Subset.refl _)
  | error e => exact ⟨hstack, holder, nofun, nofun⟩

/-- A single step keeps the stack in order. -/
theorem of_next? (h : g.Orderly stack s state) (hnext : next? g state = some state') :
    g.Orderly stack s state' := by
  revert hnext
  fun_cases next? g state with
  | case1 | case2 | case4 | case7 =>
    rintro ⟨⟩
    exact h.ended _ _
  | case3 t hphase ht ho =>
    rintro ⟨⟩
    exact h.begun hphase ht
  | case5 o places gathered hnone hphase | case9 t o places gathered hphase =>
    rintro ⟨⟩
    exact h.moved hphase (List.subset_cons_self o places) _
  | case6 t o places gathered hphase | case8 t o places gathered hphase =>
    rintro ⟨⟩
    exact h.asked hphase _
  | case10 => nofun
  | case11 outcome hphase call older hwaiting =>
    rintro ⟨⟩
    exact h.resumed hwaiting outcome

/-- A computation keeps the stack in order. -/
theorem of_reaches (h : g.FollowReaches (start stack s) state) : g.Orderly stack s state := by
  induction h with
  | refl => exact .of_start g stack s
  | tail _ hstep ih => exact ih.of_next? hstep

end Orderly

/-- The symbols of the calls that wait are distinct, and new to the stack. The first is that of the
outermost call, and the others are left-hand sides. -/
theorem Nested.exists_standing (h : g.Nested stack s waiting) (hne : waiting ≠ []) :
    ∃ later, standing waiting = s :: later ∧ (s :: later).Nodup ∧ (∀ x ∈ s :: later, x ∉ stack) ∧
      later ⊆ g.leftSides := by
  induction h with
  | nil => exact absurd rfl hne
  | @cons call older askedFor notMem _ _ ih =>
    rw [List.mem_append, not_or] at notMem
    obtain ⟨hstack, hstanding⟩ := notMem
    rw [standing_cons]
    cases older with
    | nil =>
      obtain rfl : call.symbol = s := askedFor
      exact ⟨[], rfl, List.nodup_singleton _, by simpa using hstack, List.nil_subset _⟩
    | cons before older =>
      obtain ⟨later, hlater, hnodup, hnew, hsides⟩ := ih (List.cons_ne_nil _ _)
      rw [hlater] at hstanding ⊢
      refine ⟨later ++ [call.symbol], rfl, ?_, ?_, ?_⟩
      · rw [← List.cons_append, ← List.concat_eq_append]
        exact hnodup.concat hstanding
      · rw [← List.cons_append]
        intro x hx
        rcases List.mem_append.1 hx with hx | hx
        · exact hnew x hx
        · exact List.mem_singleton.1 hx ▸ hstack
      · exact List.append_subset.2 ⟨hsides, List.cons_subset.2 ⟨askedFor, List.nil_subset _⟩⟩

/-- There are not many calls that wait. -/
theorem Nested.length_standing_le (h : g.Nested stack s waiting) :
    (standing waiting).length ≤ 1 + g.leftSides.toFinset.card := by
  by_cases hne : waiting = []
  · simp [hne, standing]
  obtain ⟨later, hlater, hnodup, -, hsides⟩ := h.exists_standing hne
  have hcard : later.toFinset.card = later.length :=
    List.toFinset_card_of_nodup (List.nodup_cons.1 hnodup).2
  have hle : later.toFinset.card ≤ g.leftSides.toFinset.card :=
    Finset.card_le_card fun x hx => List.mem_toFinset.2 (hsides (List.mem_toFinset.1 hx))
  rw [hlater, List.length_cons]
  omega

/-! ## Ends and failures -/

/-- Nothing comes after a state without a next one. -/
theorem eq_of_reaches_of_ended {a b c : FollowState} (hab : g.FollowReaches a b)
    (hac : g.FollowReaches a c) (hb : next? g b = none) (hc : next? g c = none) : b = c := by
  induction hab using ReflTransGen.head_induction_on with
  | refl =>
    rcases hac.cases_head with hbc | ⟨_, hstep, -⟩
    · exact hbc
    · rw [hb] at hstep
      cases hstep
  | @head a a' hstep _ ih =>
    rcases hac.cases_head with rfl | ⟨a'', hstep', hrest⟩
    · rw [hc] at hstep
      cases hstep
    · rw [hstep] at hstep'
      cases hstep'
      exact ih hrest

/-- A computation that comes to a state without a next one does not go on for ever. -/
theorem not_exists_run {a b : FollowState} (h : g.FollowReaches a b) (hb : next? g b = none) :
    ¬ ∃ run : ℕ → FollowState, run 0 = a ∧ ∀ n, next? g (run n) = some (run (n + 1)) := by
  induction h using ReflTransGen.head_induction_on with
  | refl =>
    rintro ⟨run, rfl, hrun⟩
    rw [hrun 0] at hb
    cases hb
  | @head a a' hstep _ ih =>
    rintro ⟨run, rfl, hrun⟩
    rw [hrun 0] at hstep
    cases hstep
    exact ih ⟨fun n => run (n + 1), rfl, fun n => hrun (n + 1)⟩

/-- The call that has failed, or one that it asked for, has failed at a place before a symbol for
which FIRST does. -/
theorem exists_failing_place {state : FollowState} {e : LeftRecursion}
    (h : g.FollowReaches (start stack s) state) (hphase : state.phase = .ended (.error e)) :
    ∃ earlier t o places gathered next, g.FollowReaches (start stack s) earlier ∧
      earlier.phase = .running ⟨t, o :: places, gathered⟩ ∧ o.next? = some next ∧
      g.first next = .error e := by
  induction h with
  | refl => cases hphase
  | @tail before state hbefore hstep ih =>
    revert hstep
    fun_cases next? g before with
    | case7 t o places gathered hrunning next hnext e' hfirst =>
      rintro ⟨⟩
      cases hphase
      exact ⟨before, t, o, places, gathered, next, hbefore, hrunning, hnext, hfirst⟩
    | case11 outcome hended call older hwaiting =>
      rintro ⟨⟩
      cases outcome with
      | ok set => cases hphase
      | error e' =>
        cases hphase
        exact ih hended
    | case10 => nofun
    | _ =>
      rintro ⟨⟩
      cases hphase

/-- What the stack is during a computation of FOLLOW of a symbol, and at its end. -/
structure StackDisciplined (g : Grammar) (stack : List Symbol) (s : Symbol) : Prop where
  /-- When a call asks for FOLLOW of an owner, the stack holds what it held at the start, and above
  it distinct symbols that it did not hold, the first of them `s` and the others left-hand sides. -/
  entry : ∀ state t, g.FollowReaches (start stack s) state → state.phase = .asked t →
    state.waiting ≠ [] → ∃ later, state.stack = stack ++ s :: later ∧ (s :: later).Nodup ∧
      (∀ x ∈ s :: later, x ∉ stack) ∧ later ⊆ g.leftSides
  /-- At any time there are at most as many symbols above those of the start as there are left-hand
  sides, and one. -/
  bounded : ∀ state, g.FollowReaches (start stack s) state →
    ∃ above, state.stack = stack ++ above ∧ above.length ≤ 1 + g.leftSides.toFinset.card
  /-- Nor are more calls under way, besides the outermost one: as many as there are calls that
  wait. -/
  waiting_bounded : ∀ state, g.FollowReaches (start stack s) state →
    state.waiting.length ≤ 1 + g.leftSides.toFinset.card
  /-- The computation does not go on for ever. -/
  ends : ¬ ∃ run : ℕ → FollowState, run 0 = start stack s ∧
    ∀ n, next? g (run n) = some (run (n + 1))
  /-- At its end, which it comes to, it has the outcome and the notes of `followFrom`, and the stack
  is what it was at the start. -/
  end_iff : ∀ state, g.FollowReaches (start stack s) state ∧ next? g state = none ↔
    state = ⟨.ended (g.followFrom stack s).outcome, stack, [], (g.followFrom stack s).trace⟩
  /-- A failure comes from FIRST of a symbol next to one for which FOLLOW has been asked. -/
  failure : ∀ e, (g.followFrom stack s).outcome = .error e →
    ∃ state t o places gathered next, g.FollowReaches (start stack s) state ∧
      state.phase = .running ⟨t, o :: places, gathered⟩ ∧ o.next? = some next ∧
      g.first next = .error e

/-- The stack is kept in order in every computation of FOLLOW, whatever it holds at the start, and
is at the end what it was, whether the computation succeeds or fails. -/
theorem stack_disciplined (g : Grammar) (stack : List Symbol) (s : Symbol) :
    g.StackDisciplined stack s := by
  have hend : g.FollowReaches (start stack s) ⟨.ended (g.followFrom stack s).outcome, stack, [],
      (g.followFrom stack s).trace⟩ := g.computes stack s [] []
  constructor
  case entry =>
    intro state t hreaches _ hwaiting
    have h := Orderly.of_reaches hreaches
    obtain ⟨later, hlater, hrest⟩ := h.nested.exists_standing hwaiting
    exact ⟨later, hlater ▸ h.stack_eq, hrest⟩
  case bounded =>
    intro state hreaches
    have h := Orderly.of_reaches hreaches
    exact ⟨_, h.stack_eq, h.nested.length_standing_le⟩
  case waiting_bounded =>
    intro state hreaches
    have hle := (Orderly.of_reaches hreaches).nested.length_standing_le
    rwa [standing, List.length_reverse, List.length_map] at hle
  case ends => exact not_exists_run hend rfl
  case end_iff =>
    intro state
    constructor
    · rintro ⟨hreaches, hnone⟩
      exact eq_of_reaches_of_ended hreaches hend hnone rfl
    · rintro rfl
      exact ⟨hend, rfl⟩
  case failure =>
    intro e he
    exact exists_failing_place hend (congrArg FollowPhase.ended he)

-- `A` stands before a symbol that may be empty in a rule of its own, so it is asked for while it is
-- on the stack.
example :
    let g : Grammar := ⟨[⟨"A", [⟨"A", ["B"]⟩, ⟨"c", []⟩], "", by simp⟩,
      ⟨"B", [⟨epsilon, []⟩], "", by simp⟩]⟩
    (g.followFrom ["S"] "A").trace = [.followCycle "A" ["S", "A"]] := by
  decide +kernel

end Grammar

end Predictive
