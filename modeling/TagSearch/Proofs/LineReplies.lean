import Mathlib.Tactic.Common
import TagSearch.Proofs.OnDemand
import TagSearch.Repl

/-!
# What the program replies to its lines

The program keeps one thing from line to line: the resolver, which loads the presets when a phrase
is first looked up.  Because that cannot be seen in what is printed, each line has a reply of its
own, which depends on the line, the configuration and the presets and not on the lines before it.
What is printed are the replies one after the other, up to the first line that asks to quit.  Where
no request has a phrase, the presets are not looked at, and it does not matter which they are or
whether they can be loaded.
-/

namespace TagSearch.Repl

open OnDemand

/-! ### Replies -/

/-- What the program has to say about a line. -/
inductive Reply where
  /-- The form of requests. -/
  | help
  /-- The line is no request. -/
  | unreadable (error : ReadError)
  /-- The document for a request. -/
  | document (document : Document)
  /-- There is no document for a request; a repaired search may be offered. -/
  | failed (error : CompileError) (repaired : Option (List Fragment))

/-- What is printed for a reply. -/
def Reply.printed : Reply → List String
  | help => ["示例请求:\n" ++ exampleRequest]
  | unreadable e => [Repl.unreadable e]
  | document d => [d.render]
  | failed e repaired => failureReport e :: (repaired.map repairOffer).toList

/-- The reply to a request. -/
def requestReply (resolver : Resolver) (config : Config) (request : Request) : Reply :=
  let parser : Preparsed := ⟨request.search, request.parsed⟩
  match Document.construct resolver config parser request.search request.comment with
  | .ok document => .document document
  | .error e => .failed e (Repair.repair resolver parser request.search)

/-- The reply to a line without blanks at its ends. -/
def replyTo (resolver : Resolver) (config : Config) (line : String) : Reply :=
  if line = ":help" then .help
  else match Request.ofText line with
    | .ok request => requestReply resolver config request
    | .error e => .unreadable e

/-- Whether the reply to a line needs the resolver: the line is a request with a phrase. -/
def needsResolver (line : String) : Bool :=
  if line = ":help" then false
  else match Request.ofText line with
    | .ok request => request.parsed.query.hasPhrase
    | .error _ => false

/-! ### One line -/

/-- Explaining a failure asks for the resolver exactly when the search needs it. -/
lemma reads_explain (parser : Preparsed) (search : String) (e : CompileError) :
    Reads (explain parser search e) (parser.needsResolver search)
      fun r => (Reply.failed e (Repair.repair r parser search)).printed :=
  (reads_repair parser search).map fun fragments => (Reply.failed e fragments).printed

/-- A request gets its reply, and asks for the resolver exactly when it has a phrase. -/
lemma reads_handle (config : Config) (request : Request) :
    Reads (handle config request) request.parsed.query.hasPhrase
      fun r => (requestReply r config request).printed := by
  generalize hparser : (⟨request.search, request.parsed⟩ : Preparsed) = parser
  have hneeds : parser.needsResolver request.search = request.parsed.query.hasPhrase := by
    simp [Preparsed.needsResolver, ← hparser]
  have hreply : ∀ result : Except CompileError Document,
      Reads (match result with
        | .ok document => pure [document.render]
        | .error e => explain parser request.search e)
        (!result.isOk && request.parsed.query.hasPhrase)
        fun r => Reply.printed (match result with
          | .ok document => .document document
          | .error e => .failed e (Repair.repair r parser request.search)) := by
    intro result
    cases result with
    | ok document => exact Reads.pure _
    | error e =>
      rw [← hneeds]
      exact reads_explain parser request.search e
  have hconstruct := reads_construct config parser request.search request.comment
  rw [hneeds] at hconstruct
  unfold handle requestReply
  rw [hparser]
  refine Reads.bind hconstruct hreply fun r => ?_
  cases request.parsed.query.hasPhrase <;> simp

/-! ### All lines -/

/-- Whether a line, without the blanks at its ends, asks to quit. -/
def isQuit (line : String) : Bool :=
  line = ":quit" || line = ":q"

/-- The lines that get a reply, without the blanks at their ends: those that are not empty, before
the first that asks to quit. -/
def liveLines (lines : List String) : List String :=
  ((lines.map Text.trim).takeWhile fun line => !isQuit line).filter fun line => line ≠ ""

/-- The lines before the first that is no text. -/
def texts : List (Option String) → List String
  | some line :: lines => line :: texts lines
  | _ => []

/-- The exit status after lines: a line that is no text is an error, if it is reached. -/
def exitStatus : List (Option String) → Nat
  | [] => 0
  | none :: _ => 1
  | some line :: lines => if isQuit (Text.trim line) then 0 else exitStatus lines

/-- Lines that are texts are all there. -/
lemma texts_map_some (lines : List String) : texts (lines.map some) = lines := by
  induction lines with
  | nil => rfl
  | cons line lines ih => rw [List.map_cons, texts, ih]

/-- Lines that are texts are no error. -/
lemma exitStatus_map_some (lines : List String) : exitStatus (lines.map some) = 0 := by
  induction lines with
  | nil => rfl
  | cons line lines ih => rw [List.map_cons, exitStatus, ih, ite_self]

/-- A line that asks to quit is the last one that matters. -/
lemma liveLines_cons_of_isQuit {line : String} (h : isQuit (Text.trim line) = true)
    (lines : List String) : liveLines (line :: lines) = [] := by
  simp [liveLines, h]

/-- An empty line gets no reply. -/
lemma liveLines_cons_of_eq_empty {line : String} (h : Text.trim line = "") (lines : List String) :
    liveLines (line :: lines) = liveLines lines := by
  simp [liveLines, h, isQuit]

/-- Any other line gets its reply before the lines that follow. -/
lemma liveLines_cons {line : String} (hquit : isQuit (Text.trim line) = false)
    (hempty : Text.trim line ≠ "") (lines : List String) :
    liveLines (line :: lines) = Text.trim line :: liveLines lines := by
  simp [liveLines, hquit, hempty]

/-- The meaning of a line, read off the line without the blanks at its ends. -/
lemma ofLine_eq (line : String) :
    Command.ofLine line =
      if Text.trim line = "" then .nothing
      else if isQuit (Text.trim line) then .quit
      else if Text.trim line = ":help" then .help
      else .request (Text.trim line) := by
  unfold Command.ofLine isQuit
  split <;> simp_all

/-- A line gets its reply, and asks for the resolver exactly when the reply needs it. -/
lemma reads_answer (config : Config) {line : String} (hquit : isQuit (Text.trim line) = false)
    (hempty : Text.trim line ≠ "") :
    Reads (answer config (Command.ofLine line)) (needsResolver (Text.trim line))
      fun r => (replyTo r config (Text.trim line)).printed := by
  rw [ofLine_eq, if_neg hempty, hquit, if_neg Bool.false_ne_true]
  unfold replyTo needsResolver
  by_cases hhelp : Text.trim line = ":help"
  · simp only [if_pos hhelp]
    exact Reads.pure _
  · simp only [if_neg hhelp, answer]
    cases Request.ofText (Text.trim line) with
    | error e => exact Reads.pure _
    | ok request => exact reads_handle config request

/-- The first line is answered before the others, unless it asks to quit. -/
lemma runLines_cons (config : Config) {line : String} (h : Command.ofLine line ≠ .quit)
    (lines : List (Option String)) :
    runLines config (some line :: lines) = do
      let printed ← answer config (Command.ofLine line)
      let rest ← runLines config lines
      return { rest with printed := printed ++ rest.printed } := by
  rw [runLines]
  split
  next hquit => exact absurd hquit h
  next => rfl

/-- Lines get their replies one after the other, and ask for the resolver exactly when one of the
replies needs it. -/
lemma reads_runLines (config : Config) (lines : List (Option String)) :
    Reads (runLines config lines) ((liveLines (texts lines)).any needsResolver)
      fun r => ⟨(liveLines (texts lines)).flatMap fun line => (replyTo r config line).printed,
        exitStatus lines⟩ := by
  induction lines with
  | nil => exact Reads.pure _
  | cons line lines ih =>
    cases line with
    | none => exact Reads.pure _
    | some line =>
      rw [texts, exitStatus]
      cases hquit : isQuit (Text.trim line) with
      | true =>
        have hempty : Text.trim line ≠ "" := by
          intro hempty
          rw [hempty] at hquit
          cases hquit
        have hcommand : Command.ofLine line = .quit := by
          rw [ofLine_eq, if_neg hempty, if_pos hquit]
        rw [runLines, hcommand, liveLines_cons_of_isQuit hquit]
        exact Reads.pure _
      | false =>
        have hrest : ∀ printed : List String, Reads (do
            let rest ← runLines config lines
            return { rest with printed := printed ++ rest.printed })
            ((liveLines (texts lines)).any needsResolver) fun r =>
              (⟨printed ++ (liveLines (texts lines)).flatMap fun line =>
                (replyTo r config line).printed, exitStatus lines⟩ : Transcript) :=
          fun printed => ih.map fun rest : Transcript =>
            ({ rest with printed := printed ++ rest.printed } : Transcript)
        by_cases hempty : Text.trim line = ""
        · have hcommand : Command.ofLine line = .nothing := by
            rw [ofLine_eq, if_pos hempty]
          rw [runLines_cons config (by simp [hcommand]), hcommand,
            liveLines_cons_of_eq_empty hempty]
          exact hrest []
        · have hcommand : Command.ofLine line ≠ .quit := by
            rw [ofLine_eq, if_neg hempty, hquit, if_neg Bool.false_ne_true]
            split <;> simp
          rw [runLines_cons config hcommand, liveLines_cons hquit hempty]
          exact Reads.bind (reads_answer config hquit hempty) hrest fun _ => rfl

/-! ### Whole runs -/

/-- What a run prints are the start-up lines and the replies, with the presets loaded in advance. -/
lemma run_eq (configFile presetsFile : DataFile) (lines : List (Option String)) :
    run configFile presetsFile lines =
      ⟨banner (startConfig configFile).2 ++ (liveLines (texts lines)).flatMap fun line =>
        (replyTo (startPresets presetsFile).resolver (startConfig configFile).1 line).printed,
        exitStatus lines⟩ := by
  unfold run
  generalize startConfig configFile = start
  obtain ⟨config, configLine⟩ := start
  have hrun := (reads_runLines config lines).run_eq (startResolver presetsFile)
  simp only [hrun]
  rfl

/-- A line that is no request with a phrase does not need the resolver. -/
lemma needsResolver_eq_false {line : String}
    (h : ∀ request, Request.ofText line = .ok request →
      request.parsed.query.hasPhrase = false) : needsResolver line = false := by
  unfold needsResolver
  split
  · rfl
  · split
    next request hrequest => exact h request hrequest
    next => rfl

/-- Lines whose replies do not need the resolver do not depend on the presets. -/
lemma run_eq_run_of_not_needsResolver (configFile : DataFile) {lines : List (Option String)}
    (h : ∀ line ∈ liveLines (texts lines), needsResolver line = false)
    (presetsFile presetsFile' : DataFile) :
    run configFile presetsFile lines = run configFile presetsFile' lines := by
  have hneeds : (liveLines (texts lines)).any needsResolver = false := by
    rw [List.any_eq_false]
    intro line hline
    rw [h line hline]
    exact Bool.false_ne_true
  have hreads := reads_runLines (startConfig configFile).1 lines
  have hsame := congrArg Transcript.printed (hreads.eq_of_not_asks hneeds
    (startPresets presetsFile).resolver (startPresets presetsFile').resolver)
  rw [run_eq, run_eq]
  exact congrArg (fun printed => (⟨banner _ ++ printed, _⟩ : Transcript)) hsame

/-- Each line gets a reply of its own, which depends on the line, the configuration and the presets
and on nothing else; what a run prints are the start-up lines and then these replies, for the lines
that are not empty and stand before the first that asks to quit.  If no request among these lines
has a phrase, the run does not depend on the file of the presets at all. -/
theorem run_replies_line_by_line (configFile : DataFile) (lines : List String) :
    (∀ presetsFile, run configFile presetsFile (lines.map some) =
      ⟨banner (startConfig configFile).2 ++ (liveLines lines).flatMap fun line =>
        (replyTo (startPresets presetsFile).resolver (startConfig configFile).1 line).printed, 0⟩) ∧
    ((∀ line ∈ liveLines lines, ∀ request, Request.ofText line = .ok request →
        request.parsed.query.hasPhrase = false) →
      ∀ presetsFile presetsFile', run configFile presetsFile (lines.map some) =
        run configFile presetsFile' (lines.map some)) := by
  constructor
  · intro presetsFile
    rw [run_eq, texts_map_some, exitStatus_map_some]
  · intro hphrase presetsFile presetsFile'
    apply run_eq_run_of_not_needsResolver
    rw [texts_map_some]
    intro line hline
    exact needsResolver_eq_false (hphrase line hline)

/-- The line of a request for one condition of the given kind on a text without escapes. -/
def requestLine (kind text : String) : String :=
  "[\"" ++ text ++ "\",\x7b\"query\":[\"" ++ kind ++ "\",\"" ++ text ++
    "\"],\"bounds\":\"global\"\x7d]"

/-- Lines with a request for a key, and one for a phrase after the line that asks to quit. -/
def shopLines : List String :=
  ["  " ++ requestLine "key" "shop", "", ":q ", requestLine "free form" "Bar"]

/-- Only the request for the key gets a reply, which is the same without presets and with presets
that cannot be read. -/
theorem run_replies_line_by_line_shop :
    liveLines shopLines = [requestLine "key" "shop"] ∧
    run .missing .missing (shopLines.map some) = run .missing .directory (shopLines.map some) := by
  have hlive : liveLines shopLines = [requestLine "key" "shop"] := by
    decide +kernel
  have hrequest : Request.ofText (requestLine "key" "shop") =
      .ok ⟨"shop", ⟨.leaf (.hasKey "shop"), .global⟩, none⟩ := by
    decide +kernel
  refine ⟨hlive, (run_replies_line_by_line .missing shopLines).2 ?_ _ _⟩
  intro line hline request hok
  rw [hlive, List.mem_singleton] at hline
  rw [hline, hrequest] at hok
  cases hok
  rfl

end TagSearch.Repl
