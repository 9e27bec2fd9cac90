import Mathlib.Tactic.Common
import TagSearch.Proofs.LineReplies
import TagSearch.Proofs.Messages
import TagSearch.Proofs.PresetPhrases

/-!
# Why requests fail

A request brings its own parse, and presets mean conditions that have clauses.  So the only thing
that can go wrong with a request that has been read is that one of its phrases names no preset, and
a request whose phrases all name presets gets its document.

This can be seen in what a run prints.  No other text of the program begins like the report of a
failure, and a report tells its error; hence the reports among the printed texts are those of
unknown phrases.
-/

namespace TagSearch.Repl

variable {table : PresetTable} {resolver : Resolver} {config : Config} {line : String}
  {request : Request} {e : CompileError} {repaired : Option (List Fragment)}

/-! ### Requests -/

/-- The parse of a request is for its search. -/
lemma construct_request (resolver : Resolver) (config : Config) (request : Request) :
    Document.construct resolver config ⟨request.search, request.parsed⟩ request.search
        request.comment =
      (Document.assemble resolver config request.search request.comment
        request.parsed).mapError .clause := by
  rw [Document.construct, Preparsed.parse, if_pos rfl]

/-- A request gets its document, if there is one. -/
lemma requestReply_of_assemble_eq_ok {document : Document}
    (h : Document.assemble resolver config request.search request.comment request.parsed =
      .ok document) :
    requestReply resolver config request = .document document := by
  rw [requestReply, construct_request, h]
  rfl

/-- A request gets the error of its clauses, if there is no document. -/
lemma requestReply_of_assemble_eq_error {error : ClauseError}
    (h : Document.assemble resolver config request.search request.comment request.parsed =
      .error error) :
    requestReply resolver config request = .failed (.clause error)
      (Repair.repair resolver ⟨request.search, request.parsed⟩ request.search) := by
  rw [requestReply, construct_request, h]
  rfl

/-- A request for which there is no document gets an error of its clauses. -/
lemma exists_assemble_eq_error
    (h : requestReply resolver config request = .failed e repaired) :
    ∃ error, e = .clause error ∧ Document.assemble resolver config request.search request.comment
      request.parsed = .error error := by
  cases hassemble : Document.assemble resolver config request.search request.comment
      request.parsed with
  | ok document =>
    rw [requestReply_of_assemble_eq_ok hassemble] at h
    cases h
  | error error =>
    rw [requestReply_of_assemble_eq_error hassemble] at h
    cases h
    exact ⟨error, rfl, rfl⟩

/-- A line that can be read as a request is not the one that asks for help. -/
lemma replyTo_of_ofText_eq_ok (h : Request.ofText line = .ok request) :
    replyTo resolver config line = requestReply resolver config request := by
  have hhelp : line ≠ ":help" := by
    rintro rfl
    have herror : Request.ofText ":help" = .error .malformed := by decide +kernel
    rw [herror] at h
    cases h
  rw [replyTo, if_neg hhelp, h]

/-- A failure is reported for requests only. -/
lemma exists_request_of_replyTo
    (h : replyTo resolver config line = .failed e repaired) :
    ∃ request, Request.ofText line = .ok request ∧
      requestReply resolver config request = .failed e repaired := by
  unfold replyTo at h
  split at h
  · cases h
  · split at h
    next request hrequest => exact ⟨request, hrequest, h⟩
    next => cases h

/-! ### Reports -/

/-- The first characters of a text: enough to tell a report of a failure from all other texts. -/
def opening (text : String) : List Char :=
  text.toList.take 3

/-- How a report of a failure begins. -/
@[simp]
lemma opening_failureReport (e : CompileError) : opening (failureReport e) = ['✗', ' ', '编'] := by
  unfold opening failureReport
  generalize e.message = message
  simp

/-- A document begins with a comment. -/
@[simp]
lemma opening_render (d : Document) : opening d.render = ['<', '!', '-'] := by
  have hlines : ∃ line lines, d.lines = "<!--" :: line :: lines := by
    unfold Document.lines Document.openingLines
    cases d.remark <;> exact ⟨_, _, rfl⟩
  obtain ⟨line, lines, hlines⟩ := hlines
  rw [opening, Document.render, hlines, String.intercalate_cons_cons]
  simp

/-- How an offer of a repaired search begins. -/
@[simp]
lemma opening_repairOffer (fragments : List Fragment) :
    opening (repairOffer fragments) = ['你', '是', '不'] := by
  unfold opening repairOffer
  generalize Repair.repairedSearch fragments = search
  simp

/-- How the report of a line that is no request begins. -/
@[simp]
lemma opening_unreadable (e : ReadError) : opening (unreadable e) = ['✗', ' ', '无'] := by
  unfold opening unreadable
  generalize e.message?.getD _ = message
  simp

/-- Errors are told apart by their reports. -/
lemma failureReport_injective : Function.Injective failureReport := fun _ _ h =>
  CompileError.message_injective ((String.append_right_inj _).mp h)

/-- No text printed at the start is a report of a failure. -/
lemma failureReport_notMem_banner (e : CompileError) (file : DataFile) :
    failureReport e ∉ banner (startConfig file).2 := by
  have hstart : opening (startConfig file).2 ≠ ['✗', ' ', '编'] := by
    unfold startConfig
    split <;> simp [opening]
  have hbanner : ∀ text ∈ banner (startConfig file).2, opening text ≠ ['✗', ' ', '编'] := by
    intro text htext
    simp only [banner, List.mem_cons, List.not_mem_nil, or_false] at htext
    rcases htext with rfl | rfl | rfl
    · simp [opening]
    · exact hstart
    · simp [opening]
  intro h
  exact hbanner _ h (opening_failureReport e)

/-- A reply that holds the report of a failure is the one for this failure. -/
lemma Reply.eq_failed_of_mem_printed {reply : Reply} (h : failureReport e ∈ reply.printed) :
    ∃ repaired, reply = .failed e repaired := by
  cases reply with
  | failed e' repaired =>
    rcases List.mem_cons.mp h with heq | hoffer
    · exact ⟨repaired, by rw [failureReport_injective heq]⟩
    · obtain ⟨fragments, _, heq⟩ := Option.mem_toList.mp hoffer |> Option.map_eq_some_iff.mp
      have hopening := congrArg opening heq
      simp at hopening
  | help =>
    have hopening := congrArg opening (List.mem_singleton.mp h)
    rw [opening_failureReport] at hopening
    simp [opening] at hopening
  | unreadable error =>
    have hopening := congrArg opening (List.mem_singleton.mp h)
    simp at hopening
  | document document =>
    have hopening := congrArg opening (List.mem_singleton.mp h)
    simp at hopening

/-! ### Whole runs -/

/-- Whether an error is an unknown phrase of the request on a line: a phrase of its tree that is not
equal, in lower case, to any name of any preset. -/
def IsUnknownPhraseOf (table : PresetTable) (line : String) (e : CompileError) : Prop :=
  ∃ request phrase, Request.ofText line = .ok request ∧ e = .clause (.unresolved phrase) ∧
    Condition.phrase phrase ∈ request.parsed.query.leaves ∧
    ∀ preset ∈ table.presets, ∀ name ∈ preset.names, Text.lowercase name ≠ Text.lowercase phrase

/-- A line fails for an unknown phrase of its request. -/
lemma isUnknownPhraseOf_of_replyTo
    (h : replyTo table.resolver config line = .failed e repaired) :
    IsUnknownPhraseOf table line e := by
  obtain ⟨request, hrequest, hfailed⟩ := exists_request_of_replyTo h
  obtain ⟨error, rfl, hassemble⟩ := exists_assemble_eq_error hfailed
  obtain ⟨phrase, hphrase, hunknown, rfl⟩ := PresetTable.unresolved_of_assemble hassemble
  exact ⟨request, phrase, hrequest, rfl, hphrase, PresetTable.resolve_eq_none_iff.mp hunknown⟩

/-- A request whose phrases all name presets gets its document. -/
lemma exists_replyTo_eq_document (hrequest : Request.ofText line = .ok request)
    (hknown : ∀ phrase, Condition.phrase phrase ∈ request.parsed.query.leaves →
      ∃ preset ∈ table.presets, ∃ name ∈ preset.names,
        Text.lowercase name = Text.lowercase phrase) :
    ∃ document, replyTo table.resolver config line = .document document := by
  have hresolve : ∀ phrase, Condition.phrase phrase ∈ request.parsed.query.leaves →
      (table.resolve phrase).isSome = true := by
    intro phrase hphrase
    obtain ⟨preset, hpreset, name, hname, heq⟩ := hknown phrase hphrase
    rw [Option.isSome_iff_ne_none]
    intro hnone
    exact PresetTable.resolve_eq_none_iff.mp hnone preset hpreset name hname heq
  obtain ⟨document, hdocument⟩ := PresetTable.exists_assemble_eq_ok_iff.mpr hresolve
  refine ⟨document, ?_⟩
  rw [replyTo_of_ofText_eq_ok hrequest, requestReply_of_assemble_eq_ok hdocument]

/-- A report of an error is printed for a line only if the line fails for this error. -/
lemma exists_replyTo_of_mem_printed {configFile presetsFile : DataFile}
    {lines : List (Option String)}
    (h : failureReport e ∈ (run configFile presetsFile lines).printed) :
    ∃ line ∈ liveLines (texts lines), ∃ repaired,
      replyTo (startPresets presetsFile).resolver (startConfig configFile).1 line =
        .failed e repaired := by
  rw [run_eq, List.mem_append] at h
  rcases h with hbanner | hreplies
  · exact absurd hbanner (failureReport_notMem_banner e configFile)
  · obtain ⟨line, hline, hprinted⟩ := List.mem_flatMap.mp hreplies
    exact ⟨line, hline, Reply.eq_failed_of_mem_printed hprinted⟩

/-- The failures of a run are unknown phrases.  What is printed are the start-up lines and the
replies to the lines; a line fails only for an unknown phrase of its request, and a request whose
phrases all are names of presets gets a document.  Accordingly, the report of an error is among the
printed texts only if the error is an unknown phrase of one of the requests: it is never that of a
search without a parse or of a condition without a clause. -/
theorem run_fails_only_for_unknown_phrases (configFile presetsFile : DataFile)
    (lines : List (Option String)) :
    ((run configFile presetsFile lines).printed =
      banner (startConfig configFile).2 ++ (liveLines (texts lines)).flatMap fun line =>
        (replyTo (startPresets presetsFile).resolver (startConfig configFile).1 line).printed) ∧
    (∀ line ∈ liveLines (texts lines), ∀ e repaired,
      replyTo (startPresets presetsFile).resolver (startConfig configFile).1 line =
          .failed e repaired →
        IsUnknownPhraseOf (startPresets presetsFile) line e) ∧
    (∀ line ∈ liveLines (texts lines), ∀ request, Request.ofText line = .ok request →
      (∀ phrase, Condition.phrase phrase ∈ request.parsed.query.leaves →
        ∃ preset ∈ (startPresets presetsFile).presets, ∃ name ∈ preset.names,
          Text.lowercase name = Text.lowercase phrase) →
      ∃ document, replyTo (startPresets presetsFile).resolver (startConfig configFile).1 line =
        .document document) ∧
    (∀ e, failureReport e ∈ (run configFile presetsFile lines).printed →
      ∃ line ∈ liveLines (texts lines), IsUnknownPhraseOf (startPresets presetsFile) line e) ∧
    (∀ error, failureReport (.parse error) ∉ (run configFile presetsFile lines).printed) ∧
    (∀ display, failureReport (.clause (.unsupported display)) ∉
      (run configFile presetsFile lines).printed) := by
  have hreport : ∀ e, failureReport e ∈ (run configFile presetsFile lines).printed →
      ∃ line ∈ liveLines (texts lines), IsUnknownPhraseOf (startPresets presetsFile) line e := by
    intro e h
    obtain ⟨line, hline, repaired, hfailed⟩ := exists_replyTo_of_mem_printed h
    exact ⟨line, hline, isUnknownPhraseOf_of_replyTo hfailed⟩
  refine ⟨by rw [run_eq], fun line _ e repaired => isUnknownPhraseOf_of_replyTo,
    fun line _ request => exists_replyTo_eq_document, hreport, ?_, ?_⟩
  · intro error h
    obtain ⟨line, _, request, phrase, _, herror, _⟩ := hreport _ h
    cases herror
  · intro display h
    obtain ⟨line, _, request, phrase, _, herror, _⟩ := hreport _ h
    cases herror

/-- A file of presets with one preset. -/
def pubPresets : DataFile :=
  .ofText "\x7b\"presets\":[[\"Pub\",[\"Bar\"],\x7b\"amenity\":\"pub\"\x7d]]\x7d"

/-- Lines with requests for a misspelled term of the preset, and for the term in another case. -/
def barLines : List String :=
  [requestLine "free form" "Bra", requestLine "free form" "bAR"]

/-- The misspelled term fails, and the term in another case gets a document. -/
theorem run_fails_only_for_unknown_phrases_bar :
    (∃ repaired, replyTo (startPresets pubPresets).resolver (startConfig .missing).1
        (requestLine "free form" "Bra") = .failed (.clause (.unresolved "Bra")) repaired) ∧
    IsUnknownPhraseOf (startPresets pubPresets) (requestLine "free form" "Bra")
      (.clause (.unresolved "Bra")) ∧
    ∃ document, replyTo (startPresets pubPresets).resolver (startConfig .missing).1
      (requestLine "free form" "bAR") = .document document := by
  obtain ⟨_, hfailed, hdocument, _⟩ :=
    run_fails_only_for_unknown_phrases .missing pubPresets (barLines.map some)
  rw [texts_map_some] at hfailed hdocument
  have hlive : liveLines barLines = barLines := by
    decide +kernel
  rw [hlive] at hfailed hdocument
  have hrequest : ∀ phrase ∈ ["Bra", "bAR"], Request.ofText (requestLine "free form" phrase) =
      .ok ⟨phrase, ⟨.leaf (.phrase phrase), .global⟩, none⟩ := by
    decide +kernel
  have hassemble : Document.assemble (startPresets pubPresets).resolver (startConfig .missing).1
      "Bra" none ⟨.leaf (.phrase "Bra"), .global⟩ = .error (.unresolved "Bra") := by
    decide +kernel
  have hreply := (replyTo_of_ofText_eq_ok (hrequest "Bra" (by simp))).trans
    (requestReply_of_assemble_eq_error hassemble)
  refine ⟨⟨_, hreply⟩, hfailed _ (by simp [barLines]) _ _ hreply, ?_⟩
  refine hdocument _ (by simp [barLines]) _ (hrequest "bAR" (by simp)) ?_
  intro phrase hphrase
  obtain rfl : phrase = "bAR" := by simpa [SearchTree.leaves] using hphrase
  decide +kernel

end TagSearch.Repl
