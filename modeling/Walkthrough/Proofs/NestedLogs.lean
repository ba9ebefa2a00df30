import Mathlib.Data.List.Induction
import Mathlib.Data.List.Nodup
import Mathlib.Logic.Function.Basic
import Walkthrough.Logging.RunLog

/-!
Several logs that are opened and closed on one logger. Whatever the order of the calls, each open log has
one handler there, and the handlers from before stay. If logs are closed in the reverse of the order in
which they were opened, the logger's level lets the messages of all of them through, and in the end it
is the one from before.
-/
namespace Walkthrough

/-- A call of one of several logs. The files and the day are those that it meets: between two calls
anything may happen to them. -/
inductive LogCall (ι : Type) where
  | opens (i : ι) (disk : Disk) (cwd : Path) (today : Date)
  | closes (i : ι)
  deriving DecidableEq

/-- A logger with the logs that may be opened on it. -/
structure LogBook (ι : Type) where
  logger : Logger
  log : ι → RunLog

theorem Logger.lt_freshId {l : Logger} {h : LogHandler} (hh : h ∈ l.handlers) :
    h.id < l.freshId := by
  have hle : ∀ (ids : List Nat) (n : Nat),
      n ≤ ids.foldl max n ∧ ∀ m ∈ ids, m ≤ ids.foldl max n := by
    intro ids
    induction ids with
    | nil => simp
    | cons m ids ih =>
      intro n
      obtain ⟨hfirst, hothers⟩ := ih (max n m)
      rw [List.foldl_cons]
      exact ⟨by omega, List.forall_mem_cons.mpr ⟨by omega, hothers⟩⟩
  exact (hle (l.handlers.map (·.id + 1)) 0).2 (h.id + 1) (List.mem_map.mpr ⟨h, hh, rfl⟩)

namespace RunLog

variable {r : RunLog} {a : Attachment} {disk : Disk} {cwd : Path} {today : Date}

/-- The handler of an open log. -/
def handler? (r : RunLog) : Option LogHandler := r.attached.map (·.handler)

/-- The level that a logger takes when a log is opened on it. -/
def lowered (level own : Int) : Int := if level = 0 ∨ own < level then own else level

theorem joined_handlers (l : Logger) (h : LogHandler) :
    (joined l h).handlers = l.handlers ++ [h] := by
  unfold joined
  dsimp only
  split <;> rfl

theorem joined_name (l : Logger) (h : LogHandler) : (joined l h).name = l.name := by
  unfold joined
  dsimp only
  split <;> rfl

theorem joined_level (l : Logger) (h : LogHandler) :
    (joined l h).level = lowered l.level h.level := by
  unfold joined lowered Logger.attach
  dsimp only
  split <;> rfl

theorem attach_of_closed (h : r.attached = none) (l : Logger) (path : Path) :
    r.attach l path = ({ r with attached := some ⟨⟨l.freshId, r.level, path⟩, l.level⟩ },
      joined l ⟨l.freshId, r.level, path⟩) := by
  rw [attach, h]

theorem close_of_open (h : r.attached = some a) (l : Logger) :
    r.close l =
      ({ r with attached := none }, { l.detach a.handler.id with level := a.previousLevel }) := by
  rw [close, h]

theorem close_of_closed (h : r.attached = none) (l : Logger) : r.close l = (r, l) := by
  rw [close, h]

theorem open_of_open (h : r.attached = some a) (l : Logger) :
    r.open_ l disk cwd today = .ok (r, l, disk, a.handler.path) := by
  rw [open_, path?, h, Option.map_some]

theorem open_of_closed (h : r.attached = none) (l : Logger) : r.open_ l disk cwd today =
    (prepare r.dir disk cwd today).map fun made =>
      ((r.attach l made.2).1, (r.attach l made.2).2, made.1, made.2) := by
  rw [open_, path?, h, Option.map_none]
  cases prepare r.dir disk cwd today <;> rfl

end RunLog

namespace LogCall

variable {ι : Type} [DecidableEq ι]

/-- The logs that are open after a call, in the order in which they were opened. A log is opened unless
it is open already or the file of the day cannot be made. -/
def nextOpen (dir : ι → Path) (opened : List ι) : LogCall ι → List ι
  | .opens i disk cwd today =>
    if i ∈ opened then opened
    else
      match RunLog.prepare (dir i) disk cwd today with
      | .ok _ => opened ++ [i]
      | .error _ => opened
  | .closes i => opened.erase i

/-- The logs that are open after some calls when none was before. -/
def stillOpen (dir : ι → Path) (calls : List (LogCall ι)) : List ι :=
  calls.foldl (nextOpen dir) []

/-- Whether a call, if it closes an open log, closes the one that was opened last. -/
def ClosesLast (opened : List ι) : LogCall ι → Prop
  | .opens .. => True
  | .closes i => i ∈ opened → opened.getLast? = some i

/-- A log that is open is closed only when none of those that were opened after it is open any more.
Calls that change nothing may come at any time: to open a log that is open, to close one that is not.
No other calls keep the level right, whatever the levels: `LogBook.nested_iff`. -/
def Nested (dir : ι → Path) (calls : List (LogCall ι)) : Prop :=
  ∀ before c later, calls = before ++ c :: later → c.ClosesLast (stillOpen dir before)

instance (opened : List ι) (c : LogCall ι) : Decidable (c.ClosesLast opened) :=
  match c with
  | .opens .. => .isTrue trivial
  | .closes i => inferInstanceAs (Decidable (i ∈ opened → opened.getLast? = some i))

instance (dir : ι → Path) (calls : List (LogCall ι)) : Decidable (Nested dir calls) :=
  decidable_of_iff
    (∀ k : Fin calls.length, calls[k].ClosesLast (stillOpen dir (calls.take k))) <| by
    constructor
    · rintro h before c later rfl
      simpa using h ⟨before.length, by simp⟩
    · intro h k
      refine h (calls.take k) calls[k] (calls.drop (k + 1)) ?_
      rw [Fin.getElem_fin, ← List.drop_eq_getElem_cons, List.take_append_drop]

variable {dir : ι → Path} {calls : List (LogCall ι)} {c : LogCall ι}

theorem stillOpen_concat :
    stillOpen dir (calls ++ [c]) = c.nextOpen dir (stillOpen dir calls) :=
  List.foldl_append

theorem nested_nil (dir : ι → Path) : Nested dir [] := fun _ _ _ hcalls => by simp at hcalls

theorem Nested.of_prefix {before : List (LogCall ι)} (h : Nested dir calls)
    (hbefore : before <+: calls) : Nested dir before := by
  obtain ⟨later, rfl⟩ := hbefore
  refine fun first c rest hsplit => h first c (rest ++ later) ?_
  rw [hsplit, List.append_assoc, List.cons_append]

theorem nested_concat :
    Nested dir (calls ++ [c]) ↔ Nested dir calls ∧ c.ClosesLast (stillOpen dir calls) := by
  constructor
  · exact fun h => ⟨h.of_prefix (List.prefix_append calls [c]), h calls c [] rfl⟩
  · rintro ⟨h, hlast⟩ before d later hcalls
    obtain rfl | ⟨later, c', rfl⟩ := List.eq_nil_or_concat later
    · obtain ⟨rfl, ⟨⟩⟩ := List.append_inj' hcalls rfl
      exact hlast
    · rw [List.concat_eq_append, ← List.cons_append, ← List.append_assoc] at hcalls
      obtain ⟨rfl, -⟩ := List.append_inj' hcalls rfl
      exact h before d later rfl

end LogCall

namespace LogBook

open LogCall

variable {ι : Type} {l : Logger} {dir : ι → Path} {level : ι → Int} {b : LogBook ι}
  {opened : List ι} {i : ι}

/-- Logs for some directories and with some levels, of which none has been opened yet. -/
def fresh (l : Logger) (dir : ι → Path) (level : ι → Int) : LogBook ι :=
  ⟨l, fun i => { dir := dir i, level := level i }⟩

/-- What holds of a log after any calls of it and of others. -/
structure KeepsLog (l : Logger) (dir : Path) (level : Int) (r : RunLog) : Prop where
  sameDir : r.dir = dir
  sameLevel : r.level = level
  handlerLevel : ∀ h, r.handler? = some h → h.level = level
  added : ∀ h, r.handler? = some h → ∀ h' ∈ l.handlers, h'.id ≠ h.id

/-- What holds of all logs and their logger after any calls. Handlers are told apart by their
numbers. -/
structure Keeps (l : Logger) (dir : ι → Path) (level : ι → Int) (b : LogBook ι) (opened : List ι) :
    Prop where
  log : ∀ i, KeepsLog l (dir i) (level i) (b.log i)
  nodup : opened.Nodup
  isOpen : ∀ i, (b.log i).handler?.isSome ↔ i ∈ opened
  name : b.logger.name = l.name
  handlers : b.logger.handlers = l.handlers ++ opened.filterMap fun i => (b.log i).handler?
  own : ∀ i h j h', (b.log i).handler? = some h → (b.log j).handler? = some h' → h'.id = h.id →
    j = i

theorem KeepsLog.eq_of_closed {d : Path} {n : Int} {r : RunLog} (h : KeepsLog l d n r)
    (hclosed : r.attached = none) : r = { dir := d, level := n } := by
  cases r
  obtain ⟨rfl, rfl, -, -⟩ := h
  cases hclosed
  rfl

theorem keeps_fresh (l : Logger) (dir : ι → Path) (level : ι → Int) :
    Keeps l dir level (fresh l dir level) [] where
  log i := ⟨rfl, rfl, fun _ h => (by cases h), fun _ h => (by cases h)⟩
  nodup := List.nodup_nil
  isOpen i := by simp [fresh, RunLog.handler?]
  name := rfl
  handlers := (List.append_nil _).symm
  own _ _ _ _ h := by cases h

theorem Keeps.mem_handlers (h : Keeps l dir level b opened) {a : LogHandler}
    (ha : (b.log i).handler? = some a) : a ∈ b.logger.handlers := by
  have hmem : i ∈ opened := (h.isOpen i).mp (by rw [ha]; rfl)
  rw [h.handlers]
  exact List.mem_append_right _ (List.mem_filterMap.mpr ⟨i, hmem, ha⟩)

theorem Keeps.closed (h : Keeps l dir level b opened) (hi : i ∉ opened) :
    (b.log i).attached = none := by
  cases ha : (b.log i).attached with
  | none => rfl
  | some a => exact absurd ((h.isOpen i).mp (by simp [RunLog.handler?, ha])) hi

theorem Keeps.attached (h : Keeps l dir level b opened) (hi : i ∈ opened) :
    ∃ a, (b.log i).attached = some a := by
  cases ha : (b.log i).attached with
  | none => exact absurd ((h.isOpen i).mpr hi) (by simp [RunLog.handler?, ha])
  | some a => exact ⟨a, rfl⟩

/-- The level of a logger on which logs have been opened one after the other. -/
def levelOver (start : Int) (level : ι → Int) (opened : List ι) : Int :=
  opened.foldl (fun below i => RunLog.lowered below (level i)) start

theorem levelOver_concat (start : Int) : levelOver start level (opened ++ [i]) =
    RunLog.lowered (levelOver start level opened) (level i) :=
  List.foldl_append

/-- It is the level from before or that of one of the logs. -/
theorem levelOver_mem (start : Int) (level : ι → Int) (opened : List ι) :
    levelOver start level opened = start ∨
      ∃ i ∈ opened, levelOver start level opened = level i := by
  induction opened using List.reverseRecOn with
  | nil => exact Or.inl rfl
  | append_singleton opened i ih =>
    rw [levelOver_concat, RunLog.lowered]
    split
    · exact Or.inr ⟨i, by simp, rfl⟩
    · obtain hstart | ⟨j, hj, hlevel⟩ := ih
      · exact Or.inl hstart
      · exact Or.inr ⟨j, List.mem_append_left _ hj, hlevel⟩

/-- It is set, and no higher than that of any of the logs. -/
theorem levelOver_lets (hlevel : ∀ i, 0 < level i) (start : Int) (opened : List ι) :
    ∀ i ∈ opened, levelOver start level opened ≠ 0 ∧ levelOver start level opened ≤ level i := by
  induction opened using List.reverseRecOn with
  | nil => simp
  | append_singleton opened j ih =>
    have hpositive := hlevel j
    rw [levelOver_concat, RunLog.lowered]
    intro i hi
    rcases List.mem_append.mp hi with hi | hi
    · obtain ⟨hset, hle⟩ := ih i hi
      split <;> omega
    · obtain rfl := List.mem_singleton.mp hi
      split <;> omega

/-- What holds besides after nested calls: the level of the logger, and the one that each open log is
to give back. -/
structure Stacked (l : Logger) (level : ι → Int) (b : LogBook ι) (opened : List ι) : Prop where
  current : b.logger.level = levelOver l.level level opened
  previous : ∀ earlier i later a, opened = earlier ++ i :: later → (b.log i).attached = some a →
    a.previousLevel = levelOver l.level level earlier

/-- When no log is open any more, nothing is left of the calls. -/
theorem Stacked.eq_fresh (h : Stacked l level b []) (hkeeps : Keeps l dir level b []) :
    b = fresh l dir level := by
  have hlog : ∀ i, b.log i = { dir := dir i, level := level i } := fun i =>
    (hkeeps.log i).eq_of_closed (hkeeps.closed List.not_mem_nil)
  have hhandlers : b.logger.handlers = l.handlers := hkeeps.handlers.trans (List.append_nil _)
  have hlogger : b.logger = l := by
    rw [show b.logger = ⟨b.logger.name, b.logger.level, b.logger.handlers⟩ from rfl, hkeeps.name,
      h.current, hhandlers]
    rfl
  exact congrArg₂ LogBook.mk hlogger (funext hlog)

variable [DecidableEq ι]

/-- One of the logs and the logger as a call has left them. -/
def put (b : LogBook ι) (i : ι) (left : RunLog × Logger) : LogBook ι :=
  ⟨left.2, Function.update b.log i left.1⟩

/-- The logs after a call. One that fails leaves them as they are. -/
def call (b : LogBook ι) : LogCall ι → LogBook ι
  | .opens i disk cwd today =>
    match (b.log i).open_ b.logger disk cwd today with
    | .ok (r, l, _, _) => b.put i (r, l)
    | .error _ => b
  | .closes i => b.put i ((b.log i).close b.logger)

def after (b : LogBook ι) (calls : List (LogCall ι)) : LogBook ι := calls.foldl call b

theorem after_concat (b : LogBook ι) (calls : List (LogCall ι)) (c : LogCall ι) :
    b.after (calls ++ [c]) = (b.after calls).call c :=
  List.foldl_append

theorem put_self (b : LogBook ι) (i : ι) : b.put i (b.log i, b.logger) = b := by
  simp [put]

theorem put_log_self (b : LogBook ι) (i : ι) (left : RunLog × Logger) :
    (b.put i left).log i = left.1 :=
  Function.update_self ..

theorem put_log_other (b : LogBook ι) {j : ι} (hj : j ≠ i) (left : RunLog × Logger) :
    (b.put i left).log j = b.log j :=
  Function.update_of_ne hj ..

theorem handler?_put (b : LogBook ι) (i j : ι) (left : RunLog × Logger) :
    ((b.put i left).log j).handler? =
      if j = i then left.1.handler? else (b.log j).handler? := by
  split
  · rw [‹j = i›, put_log_self]
  · rw [put_log_other b ‹¬j = i›]

/-- What a call can do: nothing, to open a log that was closed, or to close one that was open. -/
theorem Keeps.call_cases (h : Keeps l dir level b opened) (c : LogCall ι) :
    (b.call c = b ∧ c.nextOpen dir opened = opened) ∨
    (∃ i path, i ∉ opened ∧ c.nextOpen dir opened = opened ++ [i] ∧
      b.call c = b.put i ((b.log i).attach b.logger path)) ∨
    ∃ i, c = .closes i ∧ i ∈ opened ∧ c.nextOpen dir opened = opened.erase i ∧
      b.call c = b.put i ((b.log i).close b.logger) := by
  cases c with
  | opens i disk cwd today =>
    by_cases hi : i ∈ opened
    · obtain ⟨a, ha⟩ := h.attached hi
      refine Or.inl ⟨?_, if_pos hi⟩
      simp only [call, RunLog.open_of_open ha, put_self]
    · simp only [call, RunLog.open_of_closed (h.closed hi), nextOpen, if_neg hi, (h.log i).sameDir]
      cases RunLog.prepare (dir i) disk cwd today with
      | ok made => exact Or.inr (Or.inl ⟨i, made.2, hi, rfl, rfl⟩)
      | error e => exact Or.inl ⟨rfl, rfl⟩
  | closes i =>
    by_cases hi : i ∈ opened
    · exact Or.inr (Or.inr ⟨i, rfl, hi, rfl, rfl⟩)
    · refine Or.inl ⟨?_, List.erase_of_not_mem hi⟩
      rw [call, RunLog.close_of_closed (h.closed hi), put_self]

/-- A log that is opened puts a handler with a new number behind the others. -/
theorem Keeps.opening (h : Keeps l dir level b opened) (hi : i ∉ opened) (path : Path) :
    Keeps l dir level (b.put i ((b.log i).attach b.logger path)) (opened ++ [i]) := by
  rw [RunLog.attach_of_closed (h.closed hi)]
  have hnew : ∀ a ∈ b.logger.handlers, a.id ≠ b.logger.freshId := fun a ha =>
    Nat.ne_of_lt (Logger.lt_freshId ha)
  constructor
  case log =>
    refine (Function.forall_update_iff b.log fun j r => KeepsLog l (dir j) (level j) r).mpr
      ⟨⟨(h.log i).sameDir, (h.log i).sameLevel, ?_, ?_⟩, fun j _ => h.log j⟩
    · rintro a ⟨⟩
      exact (h.log i).sameLevel
    · rintro a ⟨⟩ a' ha'
      exact hnew a' (by rw [h.handlers]; exact List.mem_append_left _ ha')
  case nodup => simpa using h.nodup.concat hi
  case isOpen =>
    intro j
    rw [handler?_put]
    split
    · simp [RunLog.handler?, *]
    · simp [h.isOpen j, *]
  case name => exact (RunLog.joined_name ..).trans h.name
  case handlers =>
    have hothers : ∀ left, (opened.filterMap fun j => ((b.put i left).log j).handler?) =
        opened.filterMap fun j => (b.log j).handler? := by
      refine fun left => List.filterMap_congr fun j hj => ?_
      have hne : j ≠ i := fun hji => hi (hji ▸ hj)
      rw [handler?_put, if_neg hne]
    rw [List.filterMap_append, hothers, ← List.append_assoc, ← h.handlers]
    refine (RunLog.joined_handlers ..).trans (congrArg _ ?_)
    rw [List.filterMap_cons_some, List.filterMap_nil]
    rw [handler?_put, if_pos rfl]
    rfl
  case own =>
    intro j a j' a' ha ha' hid
    rw [handler?_put] at ha ha'
    split at ha <;> split at ha'
    · simp [*]
    · cases ha
      exact absurd hid (hnew a' (h.mem_handlers ha'))
    · cases ha'
      exact absurd hid.symm (hnew a (h.mem_handlers ha))
    · exact h.own j a j' a' ha ha' hid

/-- A log that is closed takes away the handler with its number, and that is its own. -/
theorem Keeps.closing (h : Keeps l dir level b opened) (hi : i ∈ opened) :
    Keeps l dir level (b.put i ((b.log i).close b.logger)) (opened.erase i) := by
  obtain ⟨a, ha⟩ := h.attached hi
  have hhandler : (b.log i).handler? = some a.handler := by rw [RunLog.handler?, ha, Option.map_some]
  rw [RunLog.close_of_open ha]
  constructor
  case log =>
    refine (Function.forall_update_iff b.log fun j r => KeepsLog l (dir j) (level j) r).mpr
      ⟨⟨(h.log i).sameDir, (h.log i).sameLevel, ?_, ?_⟩, fun j _ => h.log j⟩
    · rintro a ⟨⟩
    · rintro a ⟨⟩
  case nodup => exact h.nodup.erase i
  case isOpen =>
    intro j
    rw [handler?_put, h.nodup.mem_erase_iff]
    split
    · simp [RunLog.handler?, *]
    · simp [h.isOpen j, *]
  case name => exact h.name
  case handlers =>
    have hbefore : l.handlers.filter (·.id != a.handler.id) = l.handlers :=
      List.filter_eq_self.mpr fun a' ha' => by simpa using (h.log i).added _ hhandler a' ha'
    change b.logger.handlers.filter (·.id != a.handler.id) = _
    rw [h.handlers, List.filter_append, hbefore, List.filter_filterMap, h.nodup.erase_eq_filter,
      List.filterMap_filter]
    refine congrArg _ (List.filterMap_congr fun j _ => ?_)
    rw [handler?_put]
    by_cases hj : j = i
    · rw [hj, hhandler]
      simp
    · cases ha' : (b.log j).handler? with
      | none => simp [hj]
      | some a' =>
        have hne : a'.id ≠ a.handler.id := fun hid => hj (h.own _ _ _ _ hhandler ha' hid)
        simp [hj, hne]
  case own =>
    intro j a j' a' ha ha' hid
    rw [handler?_put] at ha ha'
    split at ha <;> split at ha'
    · simp [*]
    · cases ha
    · cases ha'
    · exact h.own j a j' a' ha ha' hid

theorem Keeps.call (h : Keeps l dir level b opened) (c : LogCall ι) :
    Keeps l dir level (b.call c) (c.nextOpen dir opened) := by
  obtain ⟨hcall, hnext⟩ | ⟨i, path, hi, hnext, hcall⟩ | ⟨i, -, hi, hnext, hcall⟩ := h.call_cases c
  · rw [hcall, hnext]
    exact h
  · rw [hcall, hnext]
    exact h.opening hi path
  · rw [hcall, hnext]
    exact h.closing hi

theorem keeps_after (l : Logger) (dir : ι → Path) (level : ι → Int) (calls : List (LogCall ι)) :
    Keeps l dir level ((fresh l dir level).after calls) (stillOpen dir calls) := by
  induction calls using List.reverseRecOn with
  | nil => exact keeps_fresh l dir level
  | append_singleton calls c ih =>
    rw [after_concat, stillOpen_concat]
    exact ih.call c

theorem Stacked.call (h : Stacked l level b opened) (hkeeps : Keeps l dir level b opened)
    (c : LogCall ι) (hlast : c.ClosesLast opened) :
    Stacked l level (b.call c) (c.nextOpen dir opened) := by
  obtain ⟨hcall, hnext⟩ | ⟨i, path, hi, hnext, hcall⟩ | ⟨i, rfl, hi, hnext, hcall⟩ :=
    hkeeps.call_cases c
  · rw [hcall, hnext]
    exact h
  · rw [hcall, hnext, RunLog.attach_of_closed (hkeeps.closed hi)]
    constructor
    case current =>
      refine (RunLog.joined_level ..).trans ?_
      rw [levelOver_concat, h.current, (hkeeps.log i).sameLevel]
    case previous =>
      intro earlier j later a hopened ha
      obtain rfl | ⟨later, k, rfl⟩ := List.eq_nil_or_concat later
      · obtain ⟨rfl, ⟨⟩⟩ := List.append_inj' hopened rfl
        rw [put_log_self] at ha
        cases ha
        exact h.current
      · rw [List.concat_eq_append, ← List.cons_append, ← List.append_assoc] at hopened
        obtain ⟨rfl, -⟩ := List.append_inj' hopened rfl
        have hj : j ≠ i := fun hji => hi (by simp [hji])
        rw [put_log_other b hj] at ha
        exact h.previous earlier j later a rfl ha
  · obtain ⟨a, ha⟩ := hkeeps.attached hi
    obtain ⟨earlier, rfl⟩ := List.getLast?_eq_some_iff.mp (hlast hi)
    have hnot : i ∉ earlier := fun hmem =>
      (List.nodup_append.mp hkeeps.nodup).2.2 i hmem i (List.mem_singleton_self i) rfl
    rw [hcall, hnext, RunLog.close_of_open ha, List.erase_append_right [i] hnot,
      List.erase_cons_head, List.append_nil]
    constructor
    case current => exact h.previous earlier i [] a rfl ha
    case previous =>
      rintro before j later a' rfl ha'
      have hj : j ≠ i := fun hji => hnot (by simp [hji])
      rw [put_log_other b hj] at ha'
      exact h.previous before j (later ++ [i]) a' (by simp) ha'

theorem stacked_after (l : Logger) (level : ι → Int) {calls : List (LogCall ι)}
    (h : Nested dir calls) :
    Stacked l level ((fresh l dir level).after calls) (stillOpen dir calls) := by
  induction calls using List.reverseRecOn with
  | nil => exact ⟨rfl, fun _ _ _ _ hopened => by simp [stillOpen] at hopened⟩
  | append_singleton calls c ih =>
    obtain ⟨hbefore, hlast⟩ := nested_concat.mp h
    rw [after_concat, stillOpen_concat]
    exact (ih hbefore).call (keeps_after l dir level calls) c hlast

/-- If a log is closed while one that was opened after it is open, the level from before both comes back,
and that may be any. -/
theorem getLast?_of_level {calls : List (LogCall ι)} (hnested : Nested dir calls)
    (hi : i ∈ stillOpen dir calls)
    (h : ∀ level : ι → Int, (∀ i, 0 < level i) → ∀ j ∈ stillOpen dir (calls ++ [.closes i]),
      let b := (fresh { name := "" } dir level).after (calls ++ [.closes i])
      b.logger.level ≠ 0 ∧ b.logger.level ≤ level j) :
    (stillOpen dir calls).getLast? = some i := by
  obtain ⟨earlier, later, hopened⟩ := List.append_of_mem hi
  obtain rfl | ⟨later, j, rfl⟩ := List.eq_nil_or_concat later
  · rw [hopened, List.getLast?_concat]
  exfalso
  rw [List.concat_eq_append] at hopened
  -- The log that was opened last gets the lowest level.
  let level : ι → Int := fun k => if k = j then 1 else 2
  have hlevel : ∀ k, 0 < level k := fun k => by unfold level; split <;> decide
  have hkeeps := keeps_after { name := "" } dir level calls
  obtain ⟨a, ha⟩ := hkeeps.attached hi
  obtain ⟨-, hbehind, hapart⟩ := List.nodup_append.mp (hopened ▸ hkeeps.nodup)
  have hj : j ∈ stillOpen dir (calls ++ [.closes i]) := by
    have hji : j ≠ i := fun heq => (List.nodup_cons.mp hbehind).1 (by simp [heq])
    rw [stillOpen_concat, nextOpen, hkeeps.nodup.mem_erase_iff, hopened]
    exact ⟨hji, by simp⟩
  have hback : ((fresh { name := "" } dir level).after (calls ++ [.closes i])).logger.level =
      levelOver 0 level earlier := by
    rw [after_concat, call, RunLog.close_of_open ha]
    exact (stacked_after _ level hnested).previous earlier i (later ++ [j]) a hopened ha
  obtain ⟨hset, hle⟩ := h level hlevel j hj
  rw [hback] at hset hle
  obtain hzero | ⟨k, hk, htwo⟩ := levelOver_mem 0 level earlier
  · exact hset hzero
  · have hkj : k ≠ j := hapart k hk j (by simp)
    rw [htwo] at hle
    simp [level, hkj] at hle

/-- Nested calls are just those during which the level of the logger, whatever the levels from before and
of the logs, is set and no higher than that of any open log. -/
theorem nested_iff (dir : ι → Path) (calls : List (LogCall ι)) : Nested dir calls ↔
    ∀ (l : Logger) (level : ι → Int), (∀ i, 0 < level i) → ∀ before, before <+: calls →
      ∀ i ∈ stillOpen dir before,
        ((fresh l dir level).after before).logger.level ≠ 0 ∧
          ((fresh l dir level).after before).logger.level ≤ level i := by
  constructor
  · intro h l level hlevel before hbefore
    rw [(stacked_after l level (h.of_prefix hbefore)).current]
    exact levelOver_lets hlevel l.level _
  · intro h
    induction calls using List.reverseRecOn with
    | nil => exact nested_nil dir
    | append_singleton calls c ih =>
      have hnested := ih fun l level hlevel before hbefore =>
        h l level hlevel before (hbefore.trans (List.prefix_append calls [c]))
      refine nested_concat.mpr ⟨hnested, ?_⟩
      cases c with
      | opens => trivial
      | closes i =>
        exact fun hi => getLast?_of_level hnested hi fun level hlevel =>
          h { name := "" } level hlevel _ (List.prefix_refl _)

/-- After any calls each open log has a handler of its own, with the level of the log, behind the
handlers from before, which are still there. If the calls are nested, the level of the logger is set and
no higher than that of any open log, while it is still the one from before or that of an open log; and
once no log is open, the logger and all logs are as they were before the first call. -/
theorem after_gives_back (l : Logger) (dir : ι → Path) {level : ι → Int}
    (hlevel : ∀ i, 0 < level i) (calls : List (LogCall ι)) :
    let b := (fresh l dir level).after calls
    let opened := stillOpen dir calls
    opened.Nodup ∧ (∀ i, (b.log i).attached.isSome ↔ i ∈ opened) ∧
    (∃ own : ι → LogHandler, b.logger.handlers = l.handlers ++ opened.map own ∧
      ∀ i ∈ opened, (b.log i).handler? = some (own i) ∧ (own i).level = level i ∧
        own i ∉ l.handlers ∧ ∀ j ∈ opened, own j = own i → j = i) ∧
    (Nested dir calls →
      (∀ i ∈ opened, b.logger.level ≠ 0 ∧ b.logger.level ≤ level i) ∧
      (b.logger.level = l.level ∨ ∃ i ∈ opened, b.logger.level = level i) ∧
      (opened = [] → b = fresh l dir level)) := by
  intro b opened
  have hkeeps : Keeps l dir level b opened := keeps_after l dir level calls
  have hown : ∀ i ∈ opened, (b.log i).handler? = some ((b.log i).handler?.getD default) := by
    intro i hi
    obtain ⟨a, ha⟩ := hkeeps.attached hi
    rw [RunLog.handler?, ha]
    rfl
  refine ⟨hkeeps.nodup, fun i => ?_, ⟨fun i => (b.log i).handler?.getD default, ?_, fun i hi =>
    ⟨hown i hi, (hkeeps.log i).handlerLevel _ (hown i hi), fun hmem => ?_, fun j hj heq => ?_⟩⟩,
    fun hnested => ?_⟩
  · rw [← hkeeps.isOpen i, RunLog.handler?, Option.isSome_map]
  · rw [hkeeps.handlers, List.filterMap_eq_map_iff_forall_eq_some.mpr hown]
  · exact (hkeeps.log i).added _ (hown i hi) _ hmem rfl
  · exact hkeeps.own _ _ _ _ (hown i hi) (hown j hj) (congrArg LogHandler.id heq)
  · have hstacked : Stacked l level b opened := stacked_after l level hnested
    refine ⟨?_, ?_, fun hnone => ?_⟩
    · rw [hstacked.current]
      exact levelOver_lets hlevel l.level opened
    · rw [hstacked.current]
      exact levelOver_mem l.level level opened
    · rw [hnone] at hkeeps hstacked
      exact hstacked.eq_fresh hkeeps

/-- An inner log is closed twice and the outer one opened twice; a third log cannot make its directory,
as there is a file of that name. -/
theorem after_gives_back_of_refusal :
    let l : Logger := { name := "run", level := 30, handlers := [⟨7, 0, ⟨.slash, ["app.log"]⟩⟩] }
    let dir : String → Path := fun i => ⟨.slash, [i]⟩
    let level : String → Int := fun i => if i = "inner" then 10 else 20
    let opens : String → LogCall String := fun i =>
      .opens i ⟨[(["notes"], .file (.text "")) ]⟩ ⟨.slash, []⟩ ⟨2024, 5, 1⟩
    let calls := [opens "outer", opens "inner", opens "outer", opens "notes", .closes "notes",
      .closes "inner", .closes "inner"]
    let b := (fresh l dir level).after calls
    (∀ i, 0 < level i) ∧ Nested dir (calls ++ [.closes "outer"]) ∧ stillOpen dir calls = ["outer"] ∧
      (∃ h, b.logger.handlers = l.handlers ++ [h] ∧ h.level = 20) ∧
      b.logger.level ≠ 0 ∧ b.logger.level ≤ 20 ∧
      (fresh l dir level).after (calls ++ [.closes "outer"]) = fresh l dir level := by
  intro l dir level opens calls b
  have hlevel : ∀ i, 0 < level i := fun i => by unfold level; split <;> decide
  have hnested : Nested dir (calls ++ [.closes "outer"]) := by decide +kernel
  have hopened : stillOpen dir calls = ["outer"] := by decide +kernel
  have hclosed : stillOpen dir (calls ++ [.closes "outer"]) = [] := by decide +kernel
  obtain ⟨-, -, ⟨own, hhandlers, hown⟩, hlast⟩ := after_gives_back l dir hlevel calls
  obtain ⟨hlets, -⟩ := hlast (hnested.of_prefix (List.prefix_append ..))
  obtain ⟨-, -, -, hend⟩ := after_gives_back l dir hlevel (calls ++ [.closes "outer"])
  obtain ⟨-, -, hback⟩ := hend hnested
  rw [hopened] at hhandlers hown hlets
  obtain ⟨-, hown, -⟩ := hown "outer" (by simp)
  obtain ⟨hset, hle⟩ := hlets "outer" (by simp)
  exact ⟨hlevel, hnested, hopened, ⟨own "outer", hhandlers, hown⟩, hset, hle, hback hclosed⟩

end LogBook

end Walkthrough
