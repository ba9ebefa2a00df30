import Walkthrough.Proofs.Json.RoundTrip
import Walkthrough.Proofs.Lines
import Walkthrough.Proofs.Loading
import Walkthrough.Trigger.Answer

/-!
What a request for a run is answered with, whatever document it brings: the requests that are
refused, those that a process is started for, and those that fail in a way nobody foresaw.
-/
namespace Walkthrough

/-- Whether a value is a list or an object. -/
def Json.holdsParts : Json → Bool
  | .arr _ | .obj _ => true
  | _ => false

namespace Trigger

/-! Arguments. -/

theorem mapM_texts (ss : List String) (n : Nat) :
    ((ss.map Json.str).zipIdx n).mapM (fun a => match a.1 with
      | .str s => Except.ok s
      | v => .error (Failure.misuse (.asText v.kindName a.2))) = .ok ss := by
  induction ss generalizing n with
  | nil => rfl
  | cons s ss ih =>
    rw [List.map_cons, List.zipIdx_cons, List.mapM_cons]
    exact except_bind_eq_ok.mpr ⟨s, rfl, except_bind_eq_ok.mpr ⟨ss, ih (n + 1), rfl⟩⟩

/-- Texts are arguments as they are. -/
theorem texts_map (ss : List String) : texts (ss.map Json.str) = .ok ss := mapM_texts ss 0

/-- The pattern that a body asks for, where it is a text or counts for nothing. -/
inductive Pattern (body : Members) : Option String → Prop
  | nothing (h : ((body.get? "grep").getD .null).truthy = false) : Pattern body none
  | text {s : String} (hget : body.get? "grep" = some (.str s)) (hs : s ≠ "") :
    Pattern body (some s)

/-- The arguments of a run, all of them texts. -/
def argumentTexts (program env : String) (pattern : Option String) (headless : Option Bool) :
    List String :=
  [program, "-m", "stepengine", "--json", "--env", env] ++
    (pattern.map fun s => ["--grep", s]).getD [] ++
    (headless.map fun b => if b then "--headless" else "--headed").toList

theorem texts_arguments {body : Members} {pattern : Option String} (h : Pattern body pattern)
    (program env : String) (headless : Option Bool) :
    texts (arguments program env ((body.get? "grep").getD .null) headless) =
      .ok (argumentTexts program env pattern headless) := by
  have harguments : arguments program env ((body.get? "grep").getD .null) headless =
      (argumentTexts program env pattern headless).map .str := by
    cases h with
    | nothing h => cases headless <;> simp [arguments, argumentTexts, h]
    | text hget hs => cases headless <;> simp [arguments, argumentTexts, hget, Json.truthy, hs]
  rw [harguments, texts_map]

/-- A pattern that counts and is no text is no argument. -/
theorem texts_arguments_error {v : Json} (htruthy : v.truthy = true) (htext : ∀ s, v ≠ .str s)
    (program env : String) (headless : Option Bool) :
    ∃ f, texts (arguments program env v headless) = .error f := by
  refine ⟨.misuse (.asText v.kindName 7), mapM_eq_error.mpr ?_⟩
  refine ⟨([program, "-m", "stepengine", "--json", "--env", env, "--grep"].map Json.str).zipIdx,
    (v, 7), ((headless.map fun b =>
      Json.str (if b then "--headless" else "--headed")).toList).zipIdx 8, ?_, ?_, ?_⟩
  · simp [arguments, htruthy]
  · simp
  · cases v with
    | str s => exact (htext s rfl).elim
    | _ => rfl

/-! Scenarios. -/

/-- The scenarios that a body brings for its run, as text: none, or some that all load. -/
inductive Inline (body : Members) : Option String → Prop
  | nothing (h : (body.get? "scenarios").getD .null = .null) : Inline body none
  | scenarios {v : Json} {scenarios : List Scenario} (hget : body.get? "scenarios" = some v)
    (hparts : v.holdsParts = true)
    (hholds : Scenario.Holds "request" (v.render true) scenarios) :
    Inline body (some (v.render true))

section Body

variable {body : Members} {v : Json} {scenarios pattern : Option String}

theorem inlineScenarios_eq (hget : body.get? "scenarios" = some v) (hparts : v.holdsParts = true) :
    inlineScenarios body = match Scenario.ofText "request" "request" (v.render true) with
      | .ok _ => .ok (some (v.render true))
      | .error (.load e) => .error (.rejected (.notLoaded e))
      | .error e => .error (.failed (.ofUnloaded e)) := by
  unfold inlineScenarios
  rw [hget]
  cases v with
  | arr items => rfl
  | obj ms => rfl
  | _ => cases hparts

theorem Inline.inlineScenarios (h : Inline body scenarios) : inlineScenarios body = .ok scenarios := by
  cases h with
  | nothing h =>
    unfold Trigger.inlineScenarios
    rw [h]
  | scenarios hget hparts hholds =>
    rw [inlineScenarios_eq hget hparts, Scenario.ofText_eq_ok.mpr hholds]

theorem inlineScenarios_of_other (hget : body.get? "scenarios" = some v) (hnull : v ≠ .null)
    (hparts : v.holdsParts = false) : inlineScenarios body = .error (.rejected .notScenarios) := by
  unfold inlineScenarios
  rw [hget]
  cases v with
  | null => exact (hnull rfl).elim
  | arr items => cases hparts
  | obj ms => cases hparts
  | _ => rfl

/-- The process that a body asks for, with its scenarios and its pattern. -/
def Server.childWith (s : Server) (body : Members) (scenarios pattern : Option String) : Child :=
  let env := envOf s.settings body
  let headless := headlessOf ((body.get? "headless").getD .null)
  { arguments := argumentTexts s.program env pattern headless
    vars := childVars s.environment env headless scenarios
    timeout := s.settings.runTimeout }

variable {s : Server}

theorem childOf_eq (hscenarios : Inline body scenarios) (hpattern : Pattern body pattern) :
    s.childOf body = .ok (s.childWith body scenarios pattern) := by
  unfold Server.childOf
  rw [hscenarios.inlineScenarios]
  simp only [texts_arguments hpattern]
  rfl

theorem childOf_error {e : Refusal} (h : inlineScenarios body = .error e) :
    s.childOf body = .error e := by
  unfold Server.childOf
  rw [h]
  rfl

theorem childOf_of_other_pattern (hscenarios : Inline body scenarios)
    (hget : body.get? "grep" = some v) (htruthy : v.truthy = true) (htext : ∀ s, v ≠ .str s) :
    ∃ f, s.childOf body = .error (.failed f) := by
  unfold Server.childOf
  rw [hscenarios.inlineScenarios, hget]
  obtain ⟨f, hf⟩ := texts_arguments_error htruthy htext s.program (envOf s.settings body)
    (headlessOf ((body.get? "headless").getD .null))
  refine ⟨f, ?_⟩
  simp only [Option.getD_some, hf]
  rfl

end Body

/-! Results. -/

/-- The last line of an output that is not passed over holds a whole number too long to convert. -/
def EndsTooLong (output : String) : Prop :=
  ∃ earlier line later rest digits, Text.lines output.toList = earlier ++ line :: later ∧
    (∀ l ∈ later, objectOfLine l = .ok none) ∧ Text.trimBy Text.isBlank line = '{' :: rest ∧
    Json.read (String.ofList ('{' :: rest)) = .error (.hugeInteger digits)

theorem objectOfLine_error {line : List Char} :
    (∃ f, objectOfLine line = .error f) ↔ ∃ rest digits,
      Text.trimBy Text.isBlank line = '{' :: rest ∧
      Json.read (String.ofList ('{' :: rest)) = .error (.hugeInteger digits) := by
  unfold objectOfLine
  constructor
  · rintro ⟨f, h⟩
    split at h
    · rename_i rest hline
      split at h
      · cases h
      · rename_i digits hread
        exact ⟨rest, digits, hline, hread⟩
      · cases h
    · cases h
  · rintro ⟨rest, digits, hline, hread⟩
    rw [hline]
    simp only [hread]
    exact ⟨_, rfl⟩

theorem firstObject_error {ls : List (List Char)} :
    (∃ f, firstObject ls = .error f) ↔ ∃ before line after, ls = before ++ line :: after ∧
      (∀ l ∈ before, objectOfLine l = .ok none) ∧ ∃ f, objectOfLine line = .error f := by
  induction ls with
  | nil => simp [firstObject]
  | cons line ls ih =>
    constructor
    · rintro ⟨f, h⟩
      obtain h | ⟨found, hfound, h⟩ := except_bind_eq_error.mp h
      · exact ⟨[], line, ls, rfl, by simp, f, h⟩
      · cases found with
        | some ms => cases h
        | none =>
          obtain ⟨before, l, after, rfl, hbefore, hl⟩ := ih.mp ⟨f, h⟩
          exact ⟨line :: before, l, after, rfl, List.forall_mem_cons.mpr ⟨hfound, hbefore⟩, hl⟩
    · rintro ⟨before, l, after, hls, hbefore, hl⟩
      cases before with
      | nil =>
        cases hls
        obtain ⟨f, hf⟩ := hl
        exact ⟨f, except_bind_eq_error.mpr (.inl hf)⟩
      | cons x before =>
        cases hls
        obtain ⟨hx, hbefore⟩ := List.forall_mem_cons.mp hbefore
        obtain ⟨f, hf⟩ := ih.mpr ⟨before, l, after, rfl, hbefore, hl⟩
        exact ⟨f, except_bind_eq_error.mpr (.inr ⟨none, hx, hf⟩)⟩

theorem results_error {output : String} :
    (∃ f, results output = .error f) ↔ EndsTooLong output := by
  rw [results, firstObject_error]
  simp only [objectOfLine_error]
  constructor
  · rintro ⟨before, line, after, hlines, hbefore, rest, digits, hline, hread⟩
    refine ⟨after.reverse, line, before.reverse, rest, digits, ?_, ?_, hline, hread⟩
    · rw [← List.reverse_reverse (Text.lines output.toList), hlines]
      simp
    · exact fun l hl => hbefore l (List.mem_reverse.mp hl)
  · rintro ⟨earlier, line, later, rest, digits, hlines, hlater, hline, hread⟩
    refine ⟨later.reverse, line, earlier.reverse, ?_, ?_, rest, digits, hline, hread⟩
    · rw [hlines]
      simp
    · exact fun l hl => hlater l (List.mem_reverse.mp hl)

/-- A process that ended by itself and wrote texts; the one of its output is kept. -/
inductive Ending.Exits : Ending → String → Prop
  | intro {code : Int} {out err : Output} {text errors : String} (hout : out.read = .ok text)
    (herr : err.read = .ok errors) : Exits (.finished code out err) text

/-- A run whose process ended by itself is answered with what the process wrote, unless a number in
it cannot be converted. -/
theorem launch_exits {s : Server} {c : Child} {text : String} (h : (s.start c).Exits text)
    (id : String) :
    (s.launch id c).child = some c ∧
      ((s.launch id c).answer.status = 200 ∧ ¬ EndsTooLong text ∨
        (s.launch id c).answer.status = 500 ∧ EndsTooLong text) := by
  generalize hend : s.start c = ending at h
  cases h with
  | @intro code out err _ errors hout herr =>
    have hanswer : finishedAnswer code out err = (results text).map fun found =>
        ⟨200, some (.obj [("code", .int code), ("stdout", .str text), ("stderr", .str errors),
          ("results", (found.map Json.obj).getD .null)])⟩ := by
      rw [finishedAnswer, hout, herr]
      rfl
    rw [Server.launch, hend, answerTo, hanswer]
    cases hresults : results text with
    | ok found =>
      refine ⟨rfl, .inl ⟨rfl, fun h => ?_⟩⟩
      obtain ⟨f, hf⟩ := results_error.mpr h
      rw [hresults] at hf
      cases hf
    | error f => exact ⟨rfl, .inr ⟨rfl, results_error.mp ⟨f, hresults⟩⟩⟩

/-! Requests. -/

/-- The text of a body, without a byte order mark in front. -/
def Request.text (r : Request) : String :=
  match r.body.toList with
  | '\uFEFF' :: rest => String.ofList rest
  | cs => String.ofList cs

/-- The document that a body holds, if it is said to hold one and can be read. -/
def Request.document? (r : Request) : Option Json :=
  if isDocumentType (mediaType r.contentType) then (Json.read r.text).toOption else none

/-- The members that a document brings: those of an object; none where it counts for nothing, or
where there is no document. -/
inductive Brings : Option Json → Members → Prop
  | object (body : Members) : Brings (some (.obj body)) body
  | falsy {v : Json} (h : v.truthy = false) : Brings (some v) []
  | unread : Brings none []

theorem document_eq (r : Request) : document r = match r.document? with
    | some v => if v.truthy then v else .obj []
    | none => .obj [] := by
  unfold document Request.document? Request.text
  split
  · dsimp only
    generalize Json.read _ = found
    cases found <;> rfl
  · rfl

theorem Brings.document {r : Request} {body : Members} (h : Brings r.document? body) :
    document r = .obj body := by
  rw [document_eq]
  generalize r.document? = found at h
  cases h with
  | object =>
    -- an object without members counts for nothing, and stands for itself all the same
    cases body with
    | nil => rfl
    | cons m ms => rfl
  | falsy h => simp [h]
  | unread => rfl

/-- A post to the address at which runs are asked for. -/
def Request.AsksForRun (r : Request) : Prop :=
  plainPath r.path = "/run-test" ∧ r.method.toUpper = "POST"

theorem respond_of_run {r : Request} (h : r.AsksForRun) (s : Server) (id : String) :
    s.respond id r = s.answerRun id r := by
  have hfile : isFilePath "/run-test" = false := by decide +kernel
  have hmethods : methodsOf "/run-test" = ["POST", "OPTIONS"] := by simp [methodsOf, hfile]
  simp [Server.respond, h.1, h.2, hmethods]

/-- The processes that a document asks to start. -/
inductive Server.Starts (s : Server) (found : Option Json) : Child → Prop
  | intro {body : Members} {scenarios pattern : Option String} (hbody : Brings found body)
    (hscenarios : Inline body scenarios) (hpattern : Pattern body pattern) :
    Starts s found (s.childWith body scenarios pattern)

/-- The status and the process that a document is answered with. -/
inductive Server.Answers (s : Server) (found : Option Json) : Nat → Option Child → Prop
  | notObject {v : Json} (hfound : found = some v) (htruthy : v.truthy = true)
    (hobject : ∀ body, v ≠ .obj body) : Answers s found 400 none
  | notScenarios {body : Members} {v : Json} (hbody : Brings found body)
    (hget : body.get? "scenarios" = some v) (hnull : v ≠ .null) (hparts : v.holdsParts = false) :
    Answers s found 400 none
  | notLoaded {body : Members} {v : Json} {e : Scenario.LoadError} (hbody : Brings found body)
    (hget : body.get? "scenarios" = some v) (hparts : v.holdsParts = true)
    (hload : Scenario.ofText "request" "request" (v.render true) = .error (.load e)) :
    Answers s found 400 none
  | escaped {body : Members} {v : Json} {u : Scenario.Unloaded} (hbody : Brings found body)
    (hget : body.get? "scenarios" = some v) (hparts : v.holdsParts = true)
    (hescapes : Scenario.Escapes "request" (v.render true) u) : Answers s found 500 none
  | otherPattern {body : Members} {v : Json} {scenarios : Option String}
    (hbody : Brings found body) (hscenarios : Inline body scenarios)
    (hget : body.get? "grep" = some v) (htruthy : v.truthy = true) (htext : ∀ s, v ≠ .str s) :
    Answers s found 500 none
  | finished {c : Child} {text : String} (hstarts : s.Starts found c)
    (hexits : (s.start c).Exits text) (hresults : ¬ EndsTooLong text) :
    Answers s found 200 (some c)
  | unconverted {c : Child} {text : String} (hstarts : s.Starts found c)
    (hexits : (s.start c).Exits text) (hresults : EndsTooLong text) : Answers s found 500 (some c)

section Run

variable {s : Server} {r : Request} {body : Members} {found : Option Json}

theorem respond_eq (hrun : r.AsksForRun) (hbody : Brings r.document? body) (id : String) :
    s.respond id r = match s.childOf body with
      | .ok c => s.launch id c
      | .error (.rejected why) => rejection why
      | .error (.failed f) => ⟨(failureAnswer id f).1, none, [(failureAnswer id f).2]⟩ := by
  rw [respond_of_run hrun]
  unfold Server.answerRun
  rewrite [hbody.document]
  rfl

theorem respond_of_other {v : Json} (hrun : r.AsksForRun) (hfound : r.document? = some v)
    (htruthy : v.truthy = true) (hobject : ∀ body, v ≠ .obj body) (id : String) :
    s.respond id r = rejection .notObject := by
  rw [respond_of_run hrun]
  unfold Server.answerRun
  rw [document_eq, hfound]
  cases v with
  | obj body => exact (hobject body rfl).elim
  | _ => simp [htruthy]

theorem Server.Starts.respond {c : Child} (h : s.Starts r.document? c) (hrun : r.AsksForRun)
    (id : String) : s.respond id r = s.launch id c := by
  cases h with
  | intro hbody hscenarios hpattern =>
    rw [respond_eq hrun hbody, childOf_eq hscenarios hpattern]

theorem Server.Answers.respond {status : Nat} {child : Option Child}
    (h : s.Answers r.document? status child) (hrun : r.AsksForRun) (id : String) :
    (s.respond id r).answer.status = status ∧ (s.respond id r).child = child := by
  cases h with
  | notObject hfound htruthy hobject =>
    rw [respond_of_other hrun hfound htruthy hobject]
    exact ⟨rfl, rfl⟩
  | notScenarios hbody hget hnull hparts =>
    rw [respond_eq hrun hbody, childOf_error (inlineScenarios_of_other hget hnull hparts)]
    exact ⟨rfl, rfl⟩
  | @notLoaded body _ e hbody hget hparts hload =>
    have hinline : inlineScenarios body = .error (.rejected (.notLoaded e)) := by
      rw [inlineScenarios_eq hget hparts, hload]
    rw [respond_eq hrun hbody, childOf_error hinline]
    exact ⟨rfl, rfl⟩
  | @escaped body _ u hbody hget hparts hescapes =>
    have hinline : inlineScenarios body = .error (.failed (.ofUnloaded u)) := by
      rw [inlineScenarios_eq hget hparts, hescapes.ofText]
      cases hescapes <;> rfl
    rw [respond_eq hrun hbody, childOf_error hinline]
    exact ⟨rfl, rfl⟩
  | otherPattern hbody hscenarios hget htruthy htext =>
    obtain ⟨f, hchild⟩ := childOf_of_other_pattern (s := s) hscenarios hget htruthy htext
    rw [respond_eq hrun hbody, hchild]
    exact ⟨rfl, rfl⟩
  | finished hstarts hexits hresults =>
    rw [hstarts.respond hrun]
    obtain ⟨hchild, ⟨hstatus, -⟩ | ⟨-, htooLong⟩⟩ := launch_exits hexits id
    · exact ⟨hstatus, hchild⟩
    · exact (hresults htooLong).elim
  | unconverted hstarts hexits hresults =>
    rw [hstarts.respond hrun]
    obtain ⟨hchild, ⟨-, hnot⟩ | ⟨hstatus, -⟩⟩ := launch_exits hexits id
    · exact (hnot hresults).elim
    · exact ⟨hstatus, hchild⟩

/-- A pattern is left out, handed on, or none that can be handed on. -/
theorem pattern_cases (body : Members) : (∃ pattern, Pattern body pattern) ∨
    ∃ v, body.get? "grep" = some v ∧ v.truthy = true ∧ ∀ s, v ≠ .str s := by
  cases hget : body.get? "grep" with
  | none => exact .inl ⟨none, .nothing (by rw [hget]; rfl)⟩
  | some v =>
    by_cases htruthy : v.truthy = true
    · cases v with
      | str text => exact .inl ⟨some text, .text hget (by simpa [Json.truthy] using htruthy)⟩
      | _ => exact .inr ⟨_, rfl, htruthy, by simp⟩
    · exact .inl ⟨none, .nothing (by simpa [hget] using htruthy)⟩

theorem answers_of_scenarios (hexits : ∀ c, s.Starts found c → ∃ text, (s.start c).Exits text)
    (hbody : Brings found body) {scenarios : Option String} (hscenarios : Inline body scenarios) :
    ∃ status child, s.Answers found status child := by
  obtain ⟨pattern, hpattern⟩ | ⟨v, hget, htruthy, htext⟩ := pattern_cases body
  · have hstarts : s.Starts found (s.childWith body scenarios pattern) :=
      .intro hbody hscenarios hpattern
    obtain ⟨text, hends⟩ := hexits _ hstarts
    by_cases htooLong : EndsTooLong text
    · exact ⟨_, _, .unconverted hstarts hends htooLong⟩
    · exact ⟨_, _, .finished hstarts hends htooLong⟩
  · exact ⟨_, _, .otherPattern hbody hscenarios hget htruthy htext⟩

theorem answers_of_body (hexits : ∀ c, s.Starts found c → ∃ text, (s.start c).Exits text)
    (hbody : Brings found body) : ∃ status child, s.Answers found status child := by
  cases hget : body.get? "scenarios" with
  | none => exact answers_of_scenarios hexits hbody (.nothing (by rw [hget]; rfl))
  | some v =>
    cases hparts : v.holdsParts with
    | false =>
      by_cases hnull : v = .null
      · exact answers_of_scenarios hexits hbody (.nothing (by rw [hget, hnull]; rfl))
      · exact ⟨_, _, .notScenarios hbody hget hnull hparts⟩
    | true =>
      cases hload : Scenario.ofText "request" "request" (v.render true) with
      | ok scenarios =>
        have hholds := Scenario.ofText_eq_ok.mp hload
        exact answers_of_scenarios hexits hbody (.scenarios hget hparts hholds)
      | error u =>
        obtain ⟨e, rfl, -⟩ | hescapes := Scenario.ofText_error hload
        · exact ⟨_, _, .notLoaded hbody hget hparts hload⟩
        · exact ⟨_, _, .escaped hbody hget hparts hescapes⟩

/-- Every document has its answer. -/
theorem exists_answers (hexits : ∀ c, s.Starts found c → ∃ text, (s.start c).Exits text) :
    ∃ status child, s.Answers found status child := by
  cases found with
  | none => exact answers_of_body hexits .unread
  | some v =>
    cases htruthy : v.truthy with
    | false => exact answers_of_body hexits (.falsy htruthy)
    | true =>
      by_cases hobject : ∃ body, v = .obj body
      · obtain ⟨body, rfl⟩ := hobject
        exact answers_of_body hexits (.object body)
      · exact ⟨_, _, .notObject rfl htruthy fun body hv => hobject ⟨body, hv⟩⟩

/-- The answer to a request for a run, where every process ends by itself: the status is 400, 200 or
500 and a process was started just as `Answers` has it of the document that was brought. -/
theorem respond_iff (hrun : r.AsksForRun)
    (hexits : ∀ c, s.Starts r.document? c → ∃ text, (s.start c).Exits text) (id : String)
    (status : Nat) (child : Option Child) :
    ((s.respond id r).answer.status = status ∧ (s.respond id r).child = child) ↔
      s.Answers r.document? status child := by
  constructor
  · -- some answer is due, and the one that is given is that one
    rintro ⟨rfl, rfl⟩
    obtain ⟨status, child, h⟩ := exists_answers hexits
    obtain ⟨hstatus, hchild⟩ := h.respond hrun id
    rwa [hstatus, hchild]
  · exact fun h => h.respond hrun id

end Run

/-- A server whose processes end at once and write nothing. -/
def quietServer : Server where
  settings := { uploadBaseDir := ⟨.slash, []⟩ }
  environment := {}
  program := "python"
  start _ := .finished 0 (.text "") (.text "")

/-- A post of a document in which a run is asked for. -/
def post (body : String) : Request where
  method := "POST"
  path := "/run-test"
  contentType := "application/json"
  body := body

theorem respond_iff_of_pattern : ∃ child,
    (quietServer.respond "id" (post "\x7b\"grep\": \"Login\"\x7d")).answer.status = 200 ∧
      (quietServer.respond "id" (post "\x7b\"grep\": \"Login\"\x7d")).child = some child ∧
      child.arguments =
        ["python", "-m", "stepengine", "--json", "--env", "dev", "--grep", "Login"] := by
  let r : Request := post "\x7b\"grep\": \"Login\"\x7d"
  let body : Members := [("grep", .str "Login")]
  have hrun : r.AsksForRun := ⟨by decide +kernel, by decide +kernel⟩
  have htype : isDocumentType (mediaType r.contentType) = true := by decide +kernel
  have htext : r.text = (Json.obj body).render true := by decide +kernel
  have hfaithful : (Json.obj body).Faithful := ⟨by decide, trivial, trivial⟩
  have hjson : Json.read r.text = .ok (.obj body) :=
    (congrArg Json.read htext).trans (Json.read_render true hfaithful)
  have hfound : r.document? = some (.obj body) := by
    simp only [Request.document?, htype, hjson, if_true, Except.toOption]
  have hread : (Output.text "").read = .ok "" := by
    simp [Output.read, Text.Ansi.stripText, Text.Ansi.strip]
  have hexits : ∀ c, (quietServer.start c).Exits "" := fun _ => .intro hread hread
  have hresults : ¬ EndsTooLong "" := by
    rw [← results_error]
    simp [results, Text.lines_nil, firstObject]
  have hstarts : quietServer.Starts r.document? (quietServer.childWith body none (some "Login")) := by
    rw [hfound]
    exact .intro (.object body) (.nothing rfl) (.text rfl (by decide))
  obtain ⟨hstatus, hchild⟩ := (respond_iff hrun (fun c _ => ⟨"", hexits c⟩) "id" 200 _).mpr
    (.finished hstarts (hexits _) hresults)
  exact ⟨_, hstatus, hchild, by rfl⟩

/-- Scenarios with a list in the place of an action, and a pattern that is a list, are failures that
nobody foresaw; an empty list in the place of an object starts a run. -/
theorem respond_broken :
    (quietServer.respond "id" (post
      "\x7b\"scenarios\": \x7b\"testSteps\": [\x7b\"action\": []\x7d]\x7d\x7d")).answer.status = 500 ∧
    (quietServer.respond "id" (post "\x7b\"grep\": [1]\x7d")).answer.status = 500 ∧
    (quietServer.respond "id" (post "[]")).answer.status = 200 ∧
    (quietServer.respond "id" (post "[]")).child.isSome := by
  decide +kernel

end Trigger
end Walkthrough
