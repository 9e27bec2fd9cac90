import Mathlib.Tactic.Common
import TagSearch.Proofs.AssemblyFaults
import TagSearch.Proofs.RepairAccount
import TagSearch.Session

/-!
# Computations that ask for a value built on demand

A computation on a value that is built on demand can do two things with it: ask for it, which builds
it unless it is there, or leave it alone.  `Reads x asks f` says that `x` does nothing else, and
which of the two it does.  Its result is `f` of the value, whether this has to be built first or
not; the value is asked for exactly when `asks` holds; and a computation that does not ask has the
same result for all values.  So three things follow at once from such a fact: that building on
demand cannot be seen in the results, when the value is built, and when it does not matter.

Reading is kept by doing one computation after the other (`Reads.bind`), also where the first one
may fail (`Reads.bindExcept`), and by going through a list (`Reads.mapM`).  A failure cuts off what
follows, so whether the value is asked for would depend on where a failure occurs; but what fails
without having asked fails for every value, and for searches this never happens: only phrases fail,
and a phrase asks first.

With this, each stage of writing a document and of repairing a search is described by one lemma.  In
the end, either asks for the resolver exactly when the parse is for the search and holds a phrase.
-/

namespace TagSearch

/-! ### Reading -/

namespace OnDemand

variable {α β γ ι ε : Type}

/-- A value that has been asked for is not changed by being asked for again. -/
lemma force_force (cell : OnDemand α) : cell.force.2.force = cell.force := by
  unfold force
  cases hvalue : cell.value with
  | none => rfl
  | some a => simp only [hvalue]

/-- The computation `x` gives `f` of a value built on demand, asks for the value exactly when `asks`
holds, and depends on it only then. -/
structure Reads (x : StateM (OnDemand α) β) (asks : Bool) (f : α → β) : Prop where
  run_eq : ∀ cell, x.run cell = (f cell.force.1, if asks then cell.force.2 else cell)
  eq_of_not_asks : asks = false → ∀ a a', f a = f a'

namespace Reads

/-- A result that is known asks for nothing. -/
lemma pure (b : β) : Reads (Pure.pure b : StateM (OnDemand α) β) false fun _ => b :=
  ⟨fun _ => rfl, fun _ _ _ => rfl⟩

/-- Asking for the value gives the value. -/
lemma get : Reads (OnDemand.get : StateM (OnDemand α) α) true id :=
  ⟨fun _ => rfl, nofun⟩

/-- What is done with a result does not ask again. -/
lemma map {x : StateM (OnDemand α) β} {asks : Bool} {f : α → β} (g : β → γ) (hx : Reads x asks f) :
    Reads (g <$> x) asks fun a => g (f a) := by
  refine ⟨fun cell => ?_, fun hasks a a' => congrArg g (hx.eq_of_not_asks hasks a a')⟩
  have hrun : (g <$> x).run cell = (g (x.run cell).1, (x.run cell).2) := rfl
  rw [hrun, hx.run_eq cell]

/-- Two computations in a row ask for the value when one of them does.  Whether the second one asks
may depend on the result of the first, as long as this makes no difference. -/
lemma bind {x : StateM (OnDemand α) β} {k : β → StateM (OnDemand α) γ} {first asks : Bool}
    {second : β → Bool} {f : α → β} {g : β → α → γ} (hx : Reads x first f)
    (hk : ∀ b, Reads (k b) (second b) (g b)) (hasks : ∀ a, (first || second (f a)) = asks) :
    Reads (x >>= k) asks fun a => g (f a) a := by
  constructor
  · intro cell
    have hrun : (x >>= k).run cell = (k (x.run cell).1).run (x.run cell).2 := rfl
    rw [hrun, hx.run_eq cell, ← hasks cell.force.1]
    cases first with
    | false => exact (hk (f cell.force.1)).run_eq cell
    | true =>
      -- the value is there now, and asking for it again changes nothing
      have hrest := (hk (f cell.force.1)).run_eq cell.force.2
      rw [force_force, ite_self] at hrest
      exact hrest
  · rintro rfl a a'
    obtain ⟨hfirst, hsecond⟩ := Bool.or_eq_false_iff.mp (hasks a)
    have hf : f a = f a' := hx.eq_of_not_asks hfirst a a'
    rw [← hf]
    exact (hk (f a)).eq_of_not_asks hsecond a a'

/-- What is done with the result of a computation that may fail does not ask again. -/
lemma mapExcept {x : ExceptT ε (StateM (OnDemand α)) β} {asks : Bool} {f : α → Except ε β}
    (g : β → γ) (hx : Reads x.run asks f) :
    Reads (x >>= fun b => (Pure.pure (g b) : ExceptT ε _ γ)).run asks
      fun a => f a >>= fun b => .ok (g b) := by
  have hcont : ∀ b : Except ε β,
      Reads (ExceptT.bindCont (fun b => (Pure.pure (g b) : ExceptT ε _ γ)) b) false
        fun _ : α => b >>= fun b => .ok (g b) := by
    intro b
    cases b with
    | error e => exact Reads.pure _
    | ok b => exact Reads.pure _
  exact Reads.bind hx hcont fun _ => Bool.or_false asks

/-- Two computations in a row, of which the first may fail and does not fail without asking for the
value. -/
lemma bindExcept {x : ExceptT ε (StateM (OnDemand α)) β}
    {k : β → ExceptT ε (StateM (OnDemand α)) γ} {first second : Bool} {f : α → Except ε β}
    {g : β → α → Except ε γ} (hx : Reads x.run first f) (hk : ∀ b, Reads (k b).run second (g b))
    (hok : first = false → ∀ a, ∃ b, f a = .ok b) :
    Reads (x >>= k).run (first || second) fun a => f a >>= fun b => g b a := by
  have hcont : ∀ b : Except ε β, Reads (ExceptT.bindCont k b) (b.isOk && second)
      fun a => b >>= fun b => g b a := by
    intro b
    cases b with
    | error e => exact Reads.pure _
    | ok b => exact hk b
  refine Reads.bind hx hcont fun a => ?_
  cases first with
  | true => rfl
  | false =>
    obtain ⟨b, hb⟩ := hok rfl a
    rw [hb]
    rfl

/-- Going through a list asks for the value when one of the items does, if no item fails without
asking for it. -/
lemma mapM {k : ι → ExceptT ε (StateM (OnDemand α)) β} {asks : ι → Bool}
    {f : α → ι → Except ε β} (hk : ∀ i, Reads (k i).run (asks i) fun a => f a i)
    (hok : ∀ a i, asks i = false → ∃ b, f a i = .ok b) (is : List ι) :
    Reads (is.mapM k).run (is.any asks) fun a => is.mapM (f a) := by
  induction is with
  | nil => exact Reads.pure _
  | cons i is ih =>
    simp only [List.mapM_cons]
    exact Reads.bindExcept (hk i) (fun b => ih.mapExcept (b :: ·)) fun hi a => hok a i hi

/-- Passing a result on inside a computation that may fail asks for nothing. -/
lemma ofExcept (b : Except ε β) :
    Reads (MonadExcept.ofExcept b : ExceptT ε (StateM (OnDemand α)) β).run false fun _ => b := by
  cases b with
  | error e => exact Reads.pure _
  | ok b => exact Reads.pure _

end Reads

end OnDemand

/-! ### Trees with phrases -/

/-- Whether a tree has a phrase at one of its leaves. -/
def SearchTree.hasPhrase (t : SearchTree) : Bool :=
  t.leaves.any Condition.isPhrase

namespace SearchTree

/-- The terms of a tree hold a phrase exactly when its leaves do. -/
lemma any_terms_isPhrase (t : SearchTree) :
    (t.terms.any fun term => term.any Condition.isPhrase) = t.hasPhrase := by
  rw [← List.any_flatten, Bool.eq_iff_iff, hasPhrase, List.any_eq_true, List.any_eq_true]
  refine exists_congr fun c => and_congr_left fun _ => ?_
  exact mem_termConditions_iff

/-- A tree has phrases in its terms exactly when it has one at its leaves. -/
lemma isEmpty_phrases (t : SearchTree) : (Repair.phrases t).isEmpty = !t.hasPhrase := by
  rw [← any_terms_isPhrase, ← List.any_flatten, Repair.phrases, termConditions]
  induction t.terms.flatten with
  | nil => rfl
  | cons c cs ih =>
    rw [List.filterMap_cons, List.any_cons, Condition.isPhrase]
    cases c.phrase? with
    | none => exact ih
    | some phrase => rfl

end SearchTree

/-! ### Conditions, terms and documents -/

namespace Condition

/-- What a condition contributes that is no phrase is known without looking anything up. -/
lemma part_eq_ofExcept {m : Type → Type} [Monad m] [MonadExceptOf ClauseError m] {c : Condition}
    (h : c.isPhrase = false) (resolve : String → m (Option Resolution)) :
    c.part resolve = MonadExcept.ofExcept c.plainPart := by
  cases c with
  | phrase text => cases h
  | _ => rfl

/-- A condition that is no phrase has no fault. -/
lemma fault?_of_not_isPhrase {c : Condition} (h : c.isPhrase = false) (resolver : Resolver) :
    c.fault? resolver = none := by
  cases c with
  | phrase text => cases h
  | _ => rfl

end Condition

namespace OnDemand

/-- Looking a phrase up in a resolver that is built on demand, which never fails. -/
abbrev lookUp (phrase : String) :
    ExceptT ClauseError (StateM (OnDemand Resolver)) (Option Resolution) :=
  ExceptT.lift (resolve phrase)

/-- Looking a phrase up asks for the resolver. -/
lemma reads_resolve (phrase : String) : Reads (resolve phrase) true fun r => r.resolve phrase :=
  Reads.get.map fun r : Resolver => r.resolve phrase

/-- Asking for a suggestion asks for the resolver. -/
lemma reads_suggest (phrase : String) : Reads (suggest phrase) true fun r => r.suggest phrase :=
  Reads.get.map fun r : Resolver => r.suggest phrase

/-- The contribution of a condition asks for the resolver when the condition is a phrase. -/
lemma reads_part (c : Condition) :
    Reads (c.part lookUp).run c.isPhrase fun r => c.part r.lookUp := by
  cases hphrase : c.isPhrase with
  | false =>
    simp only [Condition.part_eq_ofExcept hphrase, ofExcept_eq_self]
    exact Reads.ofExcept _
  | true =>
    cases c with
    | phrase text =>
      simp only [Condition.part_phrase]
      have hlookUp : Reads (lookUp text).run true fun r => r.lookUp text :=
        (reads_resolve text).map Except.ok
      exact Reads.bindExcept hlookUp (fun meaning => Reads.ofExcept _) nofun
    | _ => cases hphrase

/-- The part for a term asks for the resolver when the term holds a phrase. -/
lemma reads_termPart (term : Term) :
    Reads (termPart lookUp term).run (term.any Condition.isPhrase)
      fun r => termPart r.lookUp term := by
  refine Reads.mapExcept QueryPart.all (Reads.mapM reads_part ?_ term)
  intro r c hc
  rw [← errorOf?_eq_none_iff, Condition.errorOf?_part, Condition.fault?_of_not_isPhrase hc]

/-- The parts for a tree ask for the resolver when the tree has a phrase. -/
lemma reads_parts (t : SearchTree) :
    Reads (t.parts lookUp).run t.hasPhrase fun r => t.parts r.lookUp := by
  rw [← SearchTree.any_terms_isPhrase]
  refine Reads.mapM reads_termPart ?_ t.terms
  intro r term hterm
  rw [← errorOf?_eq_none_iff, errorOf?_termPart, List.findSome?_eq_none_iff]
  intro c hc
  exact Condition.fault?_of_not_isPhrase (Bool.eq_false_iff.mpr (List.any_eq_false.mp hterm c hc)) r

end OnDemand

/-- Whether a search cannot be worked on without the resolver: the parse is for this search, and
holds a phrase. -/
def Preparsed.needsResolver (p : Preparsed) (search : String) : Bool :=
  decide (search = p.search) && p.parsed.query.hasPhrase

/-- The document for a search, where phrases mean what the resolver says. -/
def Document.construct (resolver : Resolver) (config : Config) (parser : Preparsed)
    (search : String) (comment : Option String) : Except CompileError Document :=
  match parser.parse search with
  | .error e => .error (.parse e)
  | .ok parsed => (assemble resolver config search comment parsed).mapError .clause

namespace OnDemand

/-- Writing the document for a search gives what it gives with a resolver that is there already, and
asks for the resolver exactly when it is needed. -/
lemma reads_construct (config : Config) (parser : Preparsed) (search : String)
    (comment : Option String) :
    Reads (construct config parser search comment) (parser.needsResolver search)
      fun r => Document.construct r config parser search comment := by
  unfold construct Document.constructWith Document.construct Preparsed.needsResolver Preparsed.parse
  by_cases hsearch : search = parser.search
  · rw [if_pos hsearch, decide_eq_true hsearch, Bool.true_and]
    exact ((reads_parts parser.parsed.query).mapExcept _).map (Except.mapError CompileError.clause)
  · rw [if_neg hsearch, decide_eq_false hsearch, Bool.false_and]
    exact Reads.pure _

end OnDemand

/-! ### Repairs -/

/-- The corrections for phrases are that for the first one and those for the others. -/
lemma Repair.corrections_cons (resolver : Resolver) (phrase : String) (phrases : List String) :
    corrections resolver (phrase :: phrases) =
      ((correction resolver phrase).map (phrase, ·)).toList ++ corrections resolver phrases := by
  unfold corrections
  rw [List.filterMap_cons]
  cases correction resolver phrase <;> rfl

namespace OnDemand

/-- The correction for a phrase asks for the resolver. -/
lemma reads_correctionWith (phrase : String) :
    Reads (Repair.correctionWith resolve suggest phrase) true
      fun r => Repair.correction r phrase := by
  have hcorrection : ∀ r : Resolver, Repair.correction r phrase =
      (r.resolve phrase).elim (r.suggest phrase) fun _ => none := by
    intro r
    unfold Repair.correction
    cases r.resolve phrase <;> rfl
  -- what follows the lookup, for each of its results
  have hsuggest : ∀ meaning : Option Resolution,
      Reads (Repair.correctionWith (fun _ => pure meaning) suggest phrase) meaning.isNone
        fun r => meaning.elim (r.suggest phrase) fun _ => none := by
    intro meaning
    cases meaning with
    | none => exact reads_suggest phrase
    | some meaning => exact Reads.pure none
  simp only [hcorrection]
  exact Reads.bind (reads_resolve phrase) hsuggest fun _ => rfl

/-- The corrections for phrases ask for the resolver unless there is no phrase. -/
lemma reads_correctionsWith (phrases : List String) :
    Reads (Repair.correctionsWith resolve suggest phrases) (!phrases.isEmpty)
      fun r => Repair.corrections r phrases := by
  induction phrases with
  | nil => exact Reads.pure []
  | cons phrase phrases ih =>
    have hrest : ∀ correction : Option String, Reads
        (Repair.correctionsWith resolve suggest phrases >>= fun corrections =>
          pure ((correction.map (phrase, ·)).toList ++ corrections)) (!phrases.isEmpty)
        fun r => (correction.map (phrase, ·)).toList ++ Repair.corrections r phrases :=
      fun correction => ih.map _
    simp only [Repair.corrections_cons]
    exact Reads.bind (reads_correctionWith phrase) hrest fun _ => rfl

/-- Repairing a search gives what it gives with a resolver that is there already, and asks for the
resolver exactly when it is needed. -/
lemma reads_repair (parser : Preparsed) (search : String) :
    Reads (repair parser search) (parser.needsResolver search)
      fun r => Repair.repair r parser search := by
  unfold repair Repair.repair Repair.repairParsedBy Repair.repairWith Preparsed.needsResolver
    Preparsed.parse
  by_cases hsearch : search = parser.search
  · rw [if_pos hsearch, decide_eq_true hsearch, Bool.true_and]
    simp only [Id.run_bind, Id.run_pure, Repair.correctionsWith_pure]
    have hphrases : (!(Repair.phrases parser.parsed.query).isEmpty) =
        parser.parsed.query.hasPhrase := by
      rw [SearchTree.isEmpty_phrases, Bool.not_not]
    rw [← hphrases]
    exact (reads_correctionsWith _).map fun corrections => Repair.fragments? corrections search
  · rw [if_neg hsearch, decide_eq_false hsearch, Bool.false_and]
    exact Reads.pure none

end OnDemand

end TagSearch
