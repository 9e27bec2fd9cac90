import Mathlib.Tactic.Common
import TagSearch.Proofs.OnDemand

/-!
# What a session does with its resolver

A session builds its resolver when a step first needs it.  That it is built on demand can be seen
from the cell that holds it, and from nothing else: every step is answered as if the resolver had
been there from the start.  The steps that need the resolver are those that look something up, and
those that work on a search whose parse is loaded and has a phrase; what else they do, and whether
they fail, makes no difference.

Everything follows from one lemma about a step (`step_eq`), which gives its answer and the session
after it in closed form.  A run keeps the configuration, replaces the parser by the last one that
was loaded, and has forced the resolver when one of its steps needed it (`snd_run`).
-/

namespace TagSearch.Session

open OnDemand

/-! ### What a step needs and answers -/

/-- The parser that a step loads. -/
def Step.loaded? : Step → Option Preparsed
  | .load parser => some parser
  | _ => none

/-- Whether a step needs the resolver, when the given parser is loaded. -/
def Step.needsResolver (parser : Option Preparsed) : Step → Bool
  | .load _ => false
  | .parse _ => false
  | .construct search _ => parser.any fun p => p.needsResolver search
  | .repair search => parser.any fun p => p.needsResolver search
  | .resolve _ => true
  | .suggest _ => true
  | .get => true
  | .config => false

/-- What a step is answered when the given parser is loaded and the resolver is there already. -/
def Step.answer (resolver : Resolver) (config : Config) (parser : Option Preparsed) :
    Step → Answer
  | .load parser => .loaded parser.search
  | .parse search => parser.elim .noParser fun p =>
    match p.parse search with
    | .ok parsed => .parsed parsed
    | .error e => .failed (.parse e)
  | .construct search comment => parser.elim .noParser fun p =>
    match Document.construct resolver config p search comment with
    | .ok document => .document document
    | .error e => .failed e
  | .repair search => parser.elim .noParser fun p => .repair (Repair.repair resolver p search)
  | .resolve phrase => .resolution (resolver.resolve phrase)
  | .suggest phrase => .suggestion (resolver.suggest phrase)
  | .get => .done
  | .config => .config config

/-! ### One step -/

/-- The resolver of a session after it has been asked for, if it has been. -/
def askedIf (asks : Bool) (s : Session) : Session :=
  { s with resolver := if asks then s.resolver.force.2 else s.resolver }

/-- A computation that reads the resolver, run in a session. -/
lemma onResolver_eq {α : Type} {x : StateM (OnDemand Resolver) α} {asks : Bool} {f : Resolver → α}
    (h : Reads x asks f) (s : Session) :
    s.onResolver x = (f s.resolver.force.1, s.askedIf asks) := by
  unfold onResolver
  rw [h.run_eq]
  rfl

/-- A step is answered as if the resolver were there already.  It keeps the configuration, asks for
the resolver exactly when it needs it, and replaces the parser if it loads one. -/
lemma step_eq (s : Session) (x : Step) :
    s.step x = (x.answer s.resolver.force.1 s.config s.parser,
      { s.askedIf (x.needsResolver s.parser) with parser := x.loaded?.or s.parser }) := by
  obtain ⟨config, resolver, parser⟩ := s
  cases x with
  | load parser => rfl
  | config => rfl
  | get => rfl
  | resolve phrase => rfl
  | suggest phrase => rfl
  | parse search =>
    cases parser with
    | none => rfl
    | some p =>
      simp only [step, withParser, Step.answer, Option.elim_some]
      cases p.parse search <;> rfl
  | construct search comment =>
    cases parser with
    | none => rfl
    | some p =>
      simp only [step, withParser, onResolver_eq (reads_construct config p search comment),
        Step.answer, Option.elim_some]
      cases Document.construct resolver.force.1 config p search comment <;> rfl
  | repair search =>
    cases parser with
    | none => rfl
    | some p =>
      simp only [step, withParser, onResolver_eq (reads_repair p search)]
      rfl

/-! ### Runs -/

/-- The parser that is loaded after steps: the last one that they load, or else the one from
before. -/
def parserAfter (parser : Option Preparsed) (steps : List Step) : Option Preparsed :=
  (steps.filterMap Step.loaded?).getLast?.or parser

/-- The parser after a step and further ones is that after the further ones. -/
lemma parserAfter_cons (parser : Option Preparsed) (x : Step) (steps : List Step) :
    parserAfter parser (x :: steps) = parserAfter (x.loaded?.or parser) steps := by
  unfold parserAfter
  rw [List.filterMap_cons]
  cases x.loaded? with
  | none => rfl
  | some p =>
    rw [List.getLast?_cons]
    cases (steps.filterMap Step.loaded?).getLast? <;> rfl

/-- Whether one of the steps needs the resolver, when the given parser is loaded before them. -/
def anyNeedsResolver (parser : Option Preparsed) : List Step → Bool
  | [] => false
  | x :: steps => x.needsResolver parser || anyNeedsResolver (x.loaded?.or parser) steps

/-- A step that needs the resolver does so with the parser that the steps before it leave. -/
lemma anyNeedsResolver_iff {parser : Option Preparsed} {steps : List Step} :
    anyNeedsResolver parser steps = true ↔
      ∃ before x after, steps = before ++ x :: after ∧
        x.needsResolver (parserAfter parser before) = true := by
  induction steps generalizing parser with
  | nil => simp [anyNeedsResolver]
  | cons x steps ih =>
    rw [anyNeedsResolver, Bool.or_eq_true, ih]
    constructor
    · rintro (hx | ⟨before, y, after, rfl, hy⟩)
      · exact ⟨[], x, steps, rfl, hx⟩
      · refine ⟨x :: before, y, after, rfl, ?_⟩
        rw [parserAfter_cons]
        exact hy
    · rintro ⟨before, y, after, hsteps, hy⟩
      cases before with
      | nil =>
        obtain ⟨rfl, _⟩ := List.cons.inj hsteps
        exact .inl hy
      | cons z before =>
        obtain ⟨rfl, rfl⟩ := List.cons.inj hsteps
        rw [parserAfter_cons] at hy
        exact .inr ⟨before, y, after, rfl, hy⟩

/-- A run is its first step followed by a run of the others. -/
lemma run_cons (s : Session) (x : Step) (steps : List Step) :
    s.run (x :: steps) = ((s.step x).1 :: ((s.step x).2.run steps).1, ((s.step x).2.run steps).2) :=
  rfl

/-- A run can be interrupted and continued. -/
lemma run_append (s : Session) (before after : List Step) :
    s.run (before ++ after) = ((s.run before).1 ++ ((s.run before).2.run after).1,
      ((s.run before).2.run after).2) := by
  induction before generalizing s with
  | nil => rfl
  | cons x before ih =>
    rw [List.cons_append, run_cons, run_cons, ih]
    rfl

/-- There is one answer for each step. -/
lemma length_fst_run (s : Session) (steps : List Step) : (s.run steps).1.length = steps.length := by
  induction steps generalizing s with
  | nil => rfl
  | cons x steps ih => rw [run_cons, List.length_cons, List.length_cons, ih]

/-- What is left of a session after steps. -/
lemma snd_run (s : Session) (steps : List Step) :
    (s.run steps).2 = { s.askedIf (anyNeedsResolver s.parser steps) with
      parser := parserAfter s.parser steps } := by
  induction steps generalizing s with
  | nil => rfl
  | cons x steps ih =>
    rw [run_cons, step_eq, ih, parserAfter_cons, anyNeedsResolver]
    cases x.needsResolver s.parser with
    | false => rfl
    | true =>
      -- the first step has forced the resolver, so the others leave it as it is
      simp [askedIf, force_force]

/-- Asking for the resolver does not change what it is. -/
lemma fst_force_askedIf (s : Session) (asks : Bool) :
    (s.askedIf asks).resolver.force.1 = s.resolver.force.1 := by
  cases asks with
  | false => rfl
  | true => exact congrArg Prod.fst (force_force s.resolver)

/-- A step is answered with the parser that the steps before it leave, and as if the resolver were
there already. -/
lemma getElem?_fst_run (s : Session) (before : List Step) (x : Step) (after : List Step) :
    (s.run (before ++ x :: after)).1[before.length]? =
      some (x.answer s.resolver.force.1 s.config (parserAfter s.parser before)) := by
  have hlength : (s.run before).1.length = before.length := length_fst_run s before
  rw [run_append, List.getElem?_append_right hlength.le, hlength, Nat.sub_self, run_cons,
    List.getElem?_cons_zero, step_eq, snd_run, fst_force_askedIf]
  rfl

/-- Sessions that differ only in whether the resolver has been built give the same answers. -/
lemma fst_run_askedIf (s : Session) (asks : Bool) (steps : List Step) :
    ((s.askedIf asks).run steps).1 = (s.run steps).1 := by
  apply List.ext_getElem?
  intro i
  rcases Nat.lt_or_ge i steps.length with hi | hi
  · -- an answer is determined by the steps up to it
    have hsteps : steps = steps.take i ++ steps[i] :: steps.drop (i + 1) := by
      rw [List.getElem_cons_drop, List.take_append_drop]
    have hlength : (steps.take i).length = i := List.length_take_of_le hi.le
    have hasked := getElem?_fst_run (s.askedIf asks) (steps.take i) steps[i] (steps.drop (i + 1))
    have hplain := getElem?_fst_run s (steps.take i) steps[i] (steps.drop (i + 1))
    rw [hlength, ← hsteps] at hasked hplain
    rw [hasked, hplain, fst_force_askedIf]
    rfl
  · rw [List.getElem?_eq_none_iff.mpr, List.getElem?_eq_none_iff.mpr]
    · rwa [length_fst_run]
    · rwa [length_fst_run]

/-! ### Sessions that start without a resolver -/

/-- A session whose resolver has not been built yet. -/
def unbuilt (config : Config) (build : Unit → Resolver) (parser : Option Preparsed) : Session :=
  { config, resolver := { build }, parser }

/-- A session whose resolver has been built in advance. -/
def prebuilt (config : Config) (build : Unit → Resolver) (parser : Option Preparsed) : Session :=
  { config, resolver := { build, value := some (build ()), builds := 1 }, parser }

section

variable (config : Config) (build : Unit → Resolver) (parser : Option Preparsed)
  (steps : List Step)

/-- The resolver after steps has been forced, if one of them needed it. -/
lemma resolver_run_unbuilt :
    ((unbuilt config build parser).run steps).2.resolver =
      if anyNeedsResolver parser steps then { build, value := some (build ()), builds := 1 }
      else { build } := by
  rw [snd_run]
  rfl

/-- The resolver has been built exactly when one of the steps needed it. -/
lemma isBuilt_run_unbuilt :
    ((unbuilt config build parser).run steps).2.resolver.isBuilt =
      anyNeedsResolver parser steps := by
  rw [resolver_run_unbuilt]
  cases anyNeedsResolver parser steps <;> rfl

/-- The resolver has been built once if it has been built at all. -/
lemma builds_run_unbuilt :
    ((unbuilt config build parser).run steps).2.resolver.builds =
      (anyNeedsResolver parser steps).toNat := by
  rw [resolver_run_unbuilt]
  cases anyNeedsResolver parser steps <;> rfl

/-- In a session that starts without a resolver, the resolver is built at most once, and is there
exactly when it has been built once, which it then stays; every step gets the answer that it gets
with a resolver built in advance; and the resolver has been built exactly when a step looked
something up, or worked on the search of the parser that was loaded at that point and that has a
phrase. -/
theorem run_builds_once_when_needed :
    (∀ before after, steps = before ++ after →
      ((unbuilt config build parser).run before).2.resolver.builds ≤ 1 ∧
      (((unbuilt config build parser).run before).2.resolver.isBuilt = true ↔
        ((unbuilt config build parser).run before).2.resolver.builds = 1) ∧
      (((unbuilt config build parser).run before).2.resolver.isBuilt = true →
        ((unbuilt config build parser).run steps).2.resolver.isBuilt = true)) ∧
    ((unbuilt config build parser).run steps).1 = ((prebuilt config build parser).run steps).1 ∧
    (∀ before x after, steps = before ++ x :: after →
      ((unbuilt config build parser).run steps).1[before.length]? =
        some (x.answer (build ()) config (parserAfter parser before))) ∧
    (((unbuilt config build parser).run steps).2.resolver.isBuilt = true ↔
      ∃ before x after, steps = before ++ x :: after ∧
        x.needsResolver (parserAfter parser before) = true) := by
  refine ⟨?_, ?_, ?_, ?_⟩
  · rintro before after rfl
    rw [builds_run_unbuilt, isBuilt_run_unbuilt, isBuilt_run_unbuilt]
    refine ⟨Bool.toNat_le _, Bool.toNat_eq_one.symm, fun hbefore => ?_⟩
    obtain ⟨first, x, rest, rfl, hx⟩ := anyNeedsResolver_iff.mp hbefore
    exact anyNeedsResolver_iff.mpr ⟨first, x, rest ++ after, by simp, hx⟩
  · exact (fst_run_askedIf (unbuilt config build parser) true steps).symm
  · rintro before x after rfl
    exact getElem?_fst_run (unbuilt config build parser) before x after
  · rw [isBuilt_run_unbuilt]
    exact anyNeedsResolver_iff

end

/-- Steps that load a parser for a phrase, work on another search, then on its own one, and look the
phrase up. -/
def barSteps : List Step :=
  [.load ⟨"Bar", ⟨.leaf (.phrase "Bar"), .global⟩⟩, .construct "Pub" none, .repair "Bar",
    .resolve "Bar"]

/-- The repair is the first of the steps that needs the resolver, and the lookup does not build it
again. -/
theorem run_builds_once_when_needed_bar :
    ((unbuilt {} (fun _ => .ofLists [] []) none).run barSteps).2.resolver.isBuilt = true ∧
    ((unbuilt {} (fun _ => .ofLists [] []) none).run barSteps).2.resolver.builds = 1 ∧
    ((unbuilt {} (fun _ => .ofLists [] []) none).run barSteps).1[2]? = some (.repair none) := by
  obtain ⟨honce, _, hanswer, hbuilt⟩ :=
    run_builds_once_when_needed {} (fun _ => .ofLists [] []) none barSteps
  have hisBuilt := hbuilt.mpr ⟨barSteps.take 2, .repair "Bar", [.resolve "Bar"], rfl, by decide⟩
  have hbuilds := (honce barSteps [] (List.append_nil _).symm).2.1.mp hisBuilt
  exact ⟨hisBuilt, hbuilds, hanswer (barSteps.take 2) (.repair "Bar") [.resolve "Bar"] rfl⟩

end TagSearch.Session
