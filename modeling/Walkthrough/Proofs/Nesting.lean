import Mathlib.Data.List.Induction
import Mathlib.Data.List.Nodup
import Walkthrough.Proofs.Recording

/-!
What a recorder holds after any operations on it, in any order: which steps are open, where each soft
failure went, and how every step and the scenario ended.
-/
namespace Walkthrough.Recorder

/-- What is done to a recorder. The step that is left is named by the place of its record. -/
inductive Operation where
  | begin
  | enter (title : String)
  | leave (place : Nat) (error : Option Failure)
  | skip (title : String)
  | soften (message : String)
  | finish (error : Option Failure)

namespace Operation

def act : Operation → Run Unit
  | begin => beginScenario
  | enter title => openStep title
  | leave place error => closeStep place error
  | skip title => Recorder.skip title
  | soften message => softFailure message
  | finish error => Recorder.finish error

/-- The recorder after the operation. -/
def done (r : Recorder) (now : Int) : Operation → Recorder
  | begin => r.beginning now
  | enter title => r.opening title now
  | leave place error => r.closing place now (error.map Failure.text)
  | skip title => r.skipping title now
  | soften message => r.softening message
  | finish error => r.finishing now (error.map Failure.text)

/-- Listeners do not matter for what an operation does to the recorder, even if they fail. -/
theorem act_recorder (op : Operation) (w : Walk) :
    (op.act w).state.recorder = w.recorder.map fun r => op.done r w.scene.clock := by
  cases op <;> simp only [act, done, beginScenario, openStep, closeStep, Recorder.skip, softFailure,
    Recorder.finish, change_recorder]

/-- The title of the record that the operation makes, if it makes one. -/
def title? : Operation → Option String
  | enter title | skip title => some title
  | _ => none

def message? : Operation → Option String
  | soften message => some message
  | _ => none

def leftPlace? : Operation → Option Nat
  | leave place _ => some place
  | _ => none

def enters : Operation → Bool
  | enter _ => true
  | _ => false

end Operation

open Operation

/-! What operations mean for the steps, whatever a recorder makes of them. -/

section History

variable {ops : List Operation} {op : Operation} {place : Nat}

/-- The operations that make records, each at the place of its record. -/
def making (ops : List Operation) : List Operation := ops.filter fun op => op.title?.isSome

/-- The places of the steps that are entered, in the order of entry. -/
def entered (ops : List Operation) : List Nat :=
  (making ops).zipIdx.filterMap fun x => if x.1.enters then some x.2 else none

/-- The places of the steps that are entered and not left. -/
def stillOpen (ops : List Operation) : List Nat :=
  (entered ops).filter (· ∉ ops.filterMap leftPlace?)

/-- The soft failures among operations, each with the place of the step entered last among those that
are open at that moment, when other operations came before. -/
def attributed (before : List Operation) : List Operation → List (Option Nat × String)
  | [] => []
  | op :: rest =>
    (op.message?.map fun message => ((stillOpen before).getLast?, message)).toList ++
      attributed (before ++ [op]) rest

/-- The soft failures that belong to a step, or to none. -/
def messagesAt (place : Option Nat) (ops : List Operation) : List String :=
  ((attributed [] ops).filter (·.1 = place)).map (·.2)

theorem making_concat (ops : List Operation) (op : Operation) :
    making (ops ++ [op]) = making ops ++ if op.title?.isSome then [op] else [] := by
  unfold making
  rw [List.filter_append, List.filter_singleton]
  simp

theorem making_other (h : op.title? = none) : making (ops ++ [op]) = making ops := by
  rw [making_concat, h]
  exact List.append_nil _

theorem entered_enter (title : String) :
    entered (ops ++ [.enter title]) = entered ops ++ [(making ops).length] := by
  unfold entered
  rw [making_concat]
  simp [title?, enters, List.zipIdx_append]

theorem entered_other (h : op.enters = false) : entered (ops ++ [op]) = entered ops := by
  unfold entered
  rw [making_concat]
  split
  · simp [h, List.zipIdx_append]
  · rw [List.append_nil]

theorem mem_entered : place ∈ entered ops ↔ ∃ title, (making ops)[place]? = some (.enter title) := by
  unfold entered
  simp only [List.mem_filterMap, Prod.exists, Option.ite_none_right_eq_some, Option.some.injEq]
  constructor
  · rintro ⟨op, n, hmem, henters, rfl⟩
    rw [List.mk_mem_zipIdx_iff_getElem?] at hmem
    cases op <;> first | exact ⟨_, hmem⟩ | cases henters
  · rintro ⟨title, h⟩
    exact ⟨_, _, List.mk_mem_zipIdx_iff_getElem?.mpr h, rfl, rfl⟩

theorem lt_of_mem_entered (h : place ∈ entered ops) : place < (making ops).length := by
  obtain ⟨title, hplace⟩ := mem_entered.mp h
  exact (List.getElem?_eq_some_iff.mp hplace).1

theorem nodup_entered (ops : List Operation) : (entered ops).Nodup := by
  induction ops using List.reverseRecOn with
  | nil => exact List.nodup_nil
  | append_singleton ops op ih =>
    cases h : op.enters with
    | false => rwa [entered_other h]
    | true =>
      cases op with
      | enter title =>
        rw [entered_enter, List.nodup_append]
        refine ⟨ih, List.nodup_singleton _, ?_⟩
        rintro a ha b hb rfl
        obtain rfl := List.mem_singleton.mp hb
        exact Nat.lt_irrefl _ (lt_of_mem_entered ha)
      | _ => cases h

theorem lt_of_mem_stillOpen (h : place ∈ stillOpen ops) : place < (making ops).length :=
  lt_of_mem_entered (List.mem_of_mem_filter h)

theorem not_mem_stillOpen_of_left {error : Option Failure} (h : .leave place error ∈ ops) :
    place ∉ stillOpen ops := by
  intro hopen
  have hgone := (List.mem_filter.mp hopen).2
  simp only [decide_eq_true_eq] at hgone
  exact hgone (List.mem_filterMap.mpr ⟨_, h, rfl⟩)

theorem stillOpen_enter (title : String)
    (h : ∀ p ∈ ops.filterMap leftPlace?, p < (making ops).length) :
    stillOpen (ops ++ [.enter title]) = stillOpen ops ++ [(making ops).length] := by
  have hnew : (making ops).length ∉ ops.filterMap leftPlace? := fun hleft =>
    Nat.lt_irrefl _ (h _ hleft)
  have hleft : (ops ++ [Operation.enter title]).filterMap leftPlace? =
      ops.filterMap leftPlace? := by
    rw [List.filterMap_append]
    exact List.append_nil _
  unfold stillOpen
  rw [entered_enter, hleft, List.filter_append]
  simp only [List.filter_singleton, hnew, not_false_eq_true, decide_true, cond_true]

theorem stillOpen_leave (place : Nat) (error : Option Failure) :
    stillOpen (ops ++ [.leave place error]) = (stillOpen ops).filter (· ≠ place) := by
  unfold stillOpen
  rw [entered_other rfl, List.filter_filter, List.filterMap_append]
  refine List.filter_congr fun n _ => ?_
  simp [leftPlace?, and_comm]

theorem stillOpen_other (h : op.enters = false) (hleft : op.leftPlace? = none) :
    stillOpen (ops ++ [op]) = stillOpen ops := by
  unfold stillOpen
  rw [entered_other h, List.filterMap_append, List.filterMap_cons_none hleft]
  simp

theorem attributed_concat (before ops : List Operation) (op : Operation) :
    attributed before (ops ++ [op]) = attributed before ops ++
      (op.message?.map fun message => ((stillOpen (before ++ ops)).getLast?, message)).toList := by
  induction ops generalizing before with
  | nil => simp [attributed]
  | cons first rest ih => simp [attributed, ih]

/-- A soft failure goes to a step that there is. -/
theorem lt_of_attributed {message : String} {before : List Operation}
    (h : (some place, message) ∈ attributed before ops) :
    place < (making (before ++ ops)).length := by
  induction ops generalizing before with
  | nil => cases h
  | cons first rest ih =>
    obtain h | h := List.mem_append.mp h
    · obtain ⟨_, -, heq⟩ := Option.map_eq_some_iff.mp (Option.mem_toList.mp h)
      have hlast : (stillOpen before).getLast? = some place := congrArg Prod.fst heq
      have hlt := lt_of_mem_stillOpen (List.mem_of_getLast? hlast)
      refine Nat.lt_of_lt_of_le hlt ?_
      simp [making]
    · rw [List.append_cons]
      exact ih h

theorem messagesAt_soften (place : Option Nat) (message : String) :
    messagesAt place (ops ++ [.soften message]) =
      messagesAt place ops ++ if (stillOpen ops).getLast? = place then [message] else [] := by
  unfold messagesAt
  rw [attributed_concat, List.filter_append, List.map_append]
  by_cases h : (stillOpen ops).getLast? = place <;> simp [message?, h]

theorem messagesAt_other (place : Option Nat) (h : op.message? = none) :
    messagesAt place (ops ++ [op]) = messagesAt place ops := by
  unfold messagesAt
  rw [attributed_concat, h]
  simp

theorem messagesAt_new (h : (making ops).length ≤ place) : messagesAt (some place) ops = [] := by
  unfold messagesAt
  rw [List.map_eq_nil_iff, List.filter_eq_nil_iff]
  rintro ⟨p, message⟩ hmem hp
  obtain rfl : p = some place := by simpa using hp
  exact Nat.lt_irrefl _ (Nat.lt_of_lt_of_le (lt_of_attributed hmem) (by simpa using h))

end History

/-! What a recorder keeps of the operations. -/

/-- How a step ends: failed if it was left with an error or holds a soft failure, passed otherwise. -/
def endOf (error : Option Failure) (softFailures : List String) : Status :=
  if error.isSome ∨ softFailures ≠ [] then .failed else .passed

/-- A recorder holds what operations on a fresh one come to. -/
structure Keeps (r : Recorder) (ops : List Operation) : Prop where
  /-- Just the steps entered and not left are open, in the order of entry. -/
  opened : r.opened = stillOpen ops
  titles : r.account.steps.map (some ·.title) = (making ops).map title?
  /-- A record holds the soft failures that occurred while its step was the last open one. -/
  softFailures : ∀ place x, r.record? place = some x →
    x.softFailures = messagesAt (some place) ops
  unattributed : r.account.unattributed = messagesAt none ops
  /-- Every soft failure is held once. -/
  once : r.account.softFailures.Perm (ops.filterMap message?)
  unended : ∀ place ∈ stillOpen ops, ∃ x, r.record? place = some x ∧
    x.status = .unknown ∧ x.endTime = none
  ended : ∀ place error, .leave place error ∈ ops → ∃ x, r.record? place = some x ∧
    x.status = endOf error x.softFailures ∧ x.endTime.isSome

section Kept

variable {r : Recorder} {ops : List Operation} {op : Operation}

theorem Keeps.length (h : r.Keeps ops) : r.account.steps.length = (making ops).length := by
  simpa using congrArg List.length h.titles

theorem record?_lt {place : Nat} {x : StepRecord} (h : r.record? place = some x) :
    place < r.account.steps.length :=
  (List.getElem?_eq_some_iff.mp h).1

/-- A step that was left has a record. -/
theorem Keeps.left_lt (h : r.Keeps ops) : ∀ p ∈ ops.filterMap leftPlace?,
    p < (making ops).length := by
  intro p hp
  obtain ⟨op, hop, hplace⟩ := List.mem_filterMap.mp hp
  cases op with
  | leave place error =>
    obtain rfl := Option.some.inj hplace
    obtain ⟨x, hx, -⟩ := h.ended place error hop
    rw [← h.length]
    exact record?_lt hx
  | _ => cases hplace

theorem record?_addRecord_of_lt {x : StepRecord} {place : Nat} (h : place < r.account.steps.length) :
    (r.addRecord x).record? place = r.record? place :=
  List.getElem?_append_left h

theorem record?_addRecord_length {x : StepRecord} :
    (r.addRecord x).record? r.account.steps.length = some x := by
  unfold addRecord record?
  simp

theorem record?_changeRecord {f : StepRecord → StepRecord} {changed place : Nat} :
    (r.changeRecord changed f).record? place =
      if changed = place then (r.record? place).map f else r.record? place := by
  unfold changeRecord record?
  rw [List.getElem?_modify]
  split <;> simp

theorem changeRecord_map {β : Type} {f : StepRecord → StepRecord} {g : StepRecord → β}
    (hf : ∀ x, g (f x) = g x) (changed : Nat) :
    (r.changeRecord changed f).account.steps.map g = r.account.steps.map g := by
  refine List.ext_getElem? fun place => ?_
  have hrecord : (r.changeRecord changed f).record? place =
      if changed = place then (r.record? place).map f else r.record? place := record?_changeRecord
  unfold record? at hrecord
  rw [List.getElem?_map, List.getElem?_map, hrecord]
  split
  · rw [Option.map_map]
    simp only [Function.comp_def, hf]
  · rfl

theorem mem_of_concat_of_leftPlace? (h : op.leftPlace? = none) {place : Nat} {error : Option Failure}
    (hmem : .leave place error ∈ ops ++ [op]) : .leave place error ∈ ops := by
  obtain hmem | hmem := List.mem_append.mp hmem
  · exact hmem
  · obtain rfl := List.mem_singleton.mp hmem
    cases h

theorem filterMap_concat_none {β : Type} {f : Operation → Option β} (h : f op = none) :
    (ops ++ [op]).filterMap f = ops.filterMap f := by
  rw [List.filterMap_append, List.filterMap_cons_none h]
  exact List.append_nil _

variable {r' : Recorder}

/-- An operation on the scenario alone. -/
theorem Keeps.apart (h : r.Keeps ops) (hopened : r'.opened = r.opened)
    (hsteps : r'.account.steps = r.account.steps)
    (hunattributed : r'.account.unattributed = r.account.unattributed)
    (htitle : op.title? = none) (hmessage : op.message? = none) (hleft : op.leftPlace? = none)
    (henters : op.enters = false) : r'.Keeps (ops ++ [op]) := by
  have hrecord : ∀ place, r'.record? place = r.record? place := fun place => by
    rw [record?, hsteps, ← record?]
  constructor
  · rw [hopened, stillOpen_other henters hleft, h.opened]
  · rw [hsteps, making_other htitle, h.titles]
  · intro place x hx
    rw [hrecord] at hx
    rw [messagesAt_other _ hmessage, h.softFailures place x hx]
  · rw [hunattributed, messagesAt_other _ hmessage, h.unattributed]
  · rw [Account.softFailures, hsteps, hunattributed, filterMap_concat_none hmessage]
    exact h.once
  · intro place hplace
    rw [stillOpen_other henters hleft] at hplace
    rw [hrecord]
    exact h.unended place hplace
  · intro place error hmem
    rw [hrecord]
    exact h.ended place error (mem_of_concat_of_leftPlace? hleft hmem)

/-- An operation that makes a record. -/
theorem Keeps.made (h : r.Keeps ops) {x : StepRecord} (hx : x.softFailures = [])
    (hopened : r'.opened = stillOpen (ops ++ [op])) (haccount : r'.account = (r.addRecord x).account)
    (htitle : op.title? = some x.title) (hleft : op.leftPlace? = none)
    (hunended : ∀ place ∈ stillOpen (ops ++ [op]), place ∈ stillOpen ops ∨
      place = r.account.steps.length ∧ x.status = .unknown ∧ x.endTime = none) :
    r'.Keeps (ops ++ [op]) := by
  have hmessage : op.message? = none := by cases op <;> first | rfl | cases htitle
  have hrecord : ∀ place, r'.record? place = (r.addRecord x).record? place := fun place => by
    rw [record?, haccount, ← record?]
  have hlater : ∀ {place y}, r.record? place = some y → r'.record? place = some y := by
    intro place y hy
    rw [hrecord, record?_addRecord_of_lt (record?_lt hy), hy]
  have hnew : r'.record? r.account.steps.length = some x := by
    rw [hrecord, record?_addRecord_length]
  constructor
  · exact hopened
  · rw [haccount, making_concat, htitle]
    simp [addRecord, h.titles, htitle]
  · intro place y hy
    rw [messagesAt_other _ hmessage]
    obtain hlt | rfl : place < r.account.steps.length ∨ place = r.account.steps.length := by
      have hlength := record?_lt hy
      rw [haccount] at hlength
      simp only [addRecord, List.length_append, List.length_singleton] at hlength
      omega
    · rw [hrecord, record?_addRecord_of_lt hlt] at hy
      exact h.softFailures place y hy
    · obtain rfl := Option.some.inj (hnew.symm.trans hy)
      rw [hx, messagesAt_new (Nat.le_of_eq h.length.symm)]
  · rw [haccount, messagesAt_other _ hmessage]
    exact h.unattributed
  · rw [haccount, filterMap_concat_none hmessage]
    simpa [addRecord, Account.softFailures, hx] using h.once
  · intro place hplace
    obtain hopen | ⟨rfl, hstatus, htime⟩ := hunended place hplace
    · obtain ⟨y, hy, hkept⟩ := h.unended place hopen
      exact ⟨y, hlater hy, hkept⟩
    · exact ⟨x, hnew, hstatus, htime⟩
  · intro place error hmem
    obtain ⟨y, hy, hkept⟩ := h.ended place error (mem_of_concat_of_leftPlace? hleft hmem)
    exact ⟨y, hlater hy, hkept⟩

theorem Keeps.entered (h : r.Keeps ops) (title : String) (now : Int) :
    (r.opening title now).Keeps (ops ++ [.enter title]) := by
  have hopen := stillOpen_enter title h.left_lt
  refine h.made (x := { title, startTime := now }) rfl ?_ rfl rfl rfl fun place hplace => ?_
  · rw [hopen, ← h.length, ← h.opened]
    rfl
  · rw [hopen, ← h.length] at hplace
    obtain hplace | hplace := List.mem_append.mp hplace
    · exact Or.inl hplace
    · exact Or.inr ⟨List.mem_singleton.mp hplace, rfl, rfl⟩

theorem Keeps.skipped (h : r.Keeps ops) (title : String) (now : Int) :
    (r.skipping title now).Keeps (ops ++ [.skip title]) := by
  have hopen : stillOpen (ops ++ [.skip title]) = stillOpen ops := stillOpen_other rfl rfl
  refine h.made (x := { title, startTime := now, status := .skipped, endTime := some now }) rfl ?_
    rfl rfl rfl fun place hplace => Or.inl (hopen ▸ hplace)
  rw [hopen, ← h.opened]
  rfl

theorem flatMap_modify_perm {β : Type} {g : StepRecord → List β} {f : StepRecord → StepRecord}
    {b : List β} (hf : ∀ x, g (f x) = g x ++ b) {xs : List StepRecord} {n : Nat}
    (h : n < xs.length) : ((xs.modify n f).flatMap g).Perm (xs.flatMap g ++ b) := by
  induction xs generalizing n with
  | nil => cases h
  | cons x xs ih =>
    cases n with
    | zero =>
      rw [List.modify_zero_cons, List.flatMap_cons, List.flatMap_cons, hf, List.append_assoc,
        List.append_assoc]
      exact List.perm_append_comm.append_left (g x)
    | succ n =>
      rw [List.modify_succ_cons, List.flatMap_cons, List.flatMap_cons, List.append_assoc]
      exact (ih (Nat.lt_of_succ_lt_succ h)).append_left (g x)

theorem softening_perm (message : String) (h : ∀ n ∈ r.opened, n < r.account.steps.length) :
    (r.softening message).account.softFailures.Perm (r.account.softFailures ++ [message]) := by
  unfold softening Account.softFailures
  split
  · rename_i n hlast
    have hmodify := flatMap_modify_perm (g := StepRecord.softFailures) (b := [message])
      (f := fun x => { x with softFailures := x.softFailures ++ [message] }) (fun _ => rfl)
      (h n (List.mem_of_getLast? hlast))
    refine (hmodify.append_right _).trans ?_
    rw [List.append_assoc, List.append_assoc]
    exact List.perm_append_comm.append_left _
  · rw [List.append_assoc]

theorem Keeps.opened_lt (h : r.Keeps ops) : ∀ n ∈ r.opened, n < r.account.steps.length := by
  intro n hn
  rw [h.opened] at hn
  rw [h.length]
  exact lt_of_mem_stillOpen hn

theorem record?_softening (message : String) (place : Nat) :
    (r.softening message).record? place = (r.record? place).map fun x =>
      { x with softFailures :=
        x.softFailures ++ if r.opened.getLast? = some place then [message] else [] } := by
  unfold softening
  split
  · rename_i n hlast
    rw [record?_changeRecord, hlast]
    by_cases hn : n = place <;> simp [hn]
  · rename_i hlast
    rw [hlast]
    simp [record?]

theorem softening_unattributed (message : String) :
    (r.softening message).account.unattributed =
      r.account.unattributed ++ if r.opened.getLast? = none then [message] else [] := by
  unfold softening
  split
  · rename_i n hlast
    simp [changeRecord, hlast]
  · rename_i hlast
    simp [hlast]

theorem Keeps.softened (h : r.Keeps ops) (message : String) :
    (r.softening message).Keeps (ops ++ [.soften message]) := by
  have hopen : stillOpen (ops ++ [.soften message]) = stillOpen ops := stillOpen_other rfl rfl
  have hopened : (r.softening message).opened = r.opened := by
    unfold softening
    split <;> rfl
  have htitles : (r.softening message).account.steps.map (some ·.title) =
      r.account.steps.map (some ·.title) := by
    unfold softening
    split
    · refine changeRecord_map ?_ _
      exact fun _ => rfl
    · rfl
  constructor
  · rw [hopened, hopen, h.opened]
  · rw [htitles, making_other rfl, h.titles]
  · intro place x hx
    rw [record?_softening, Option.map_eq_some_iff] at hx
    obtain ⟨y, hy, rfl⟩ := hx
    rw [messagesAt_soften, ← h.opened, h.softFailures place y hy]
  · rw [softening_unattributed, messagesAt_soften, ← h.opened, h.unattributed]
  · rw [List.filterMap_append]
    exact (softening_perm message h.opened_lt).trans (h.once.append_right [message])
  · intro place hplace
    obtain ⟨y, hy, hkept⟩ := h.unended place (hopen ▸ hplace)
    have hrecord := record?_softening (r := r) message place
    rw [hy, Option.map_some] at hrecord
    exact ⟨_, hrecord, hkept⟩
  · intro place error hmem
    have hleft := mem_of_concat_of_leftPlace? rfl hmem
    obtain ⟨y, hy, hstatus, htime⟩ := h.ended place error hleft
    have hrecord := record?_softening (r := r) message place
    rw [hy, Option.map_some] at hrecord
    refine ⟨_, hrecord, ?_, htime⟩
    -- A step that was left gets no more soft failures, for it is not open.
    have hnot : r.opened.getLast? ≠ some place := by
      intro hlast
      have hopen := List.mem_of_getLast? hlast
      rw [h.opened] at hopen
      exact not_mem_stillOpen_of_left hleft hopen
    simpa [hnot] using hstatus

theorem eraseP_eq_filter {ns : List Nat} (hns : ns.Nodup) {p : Nat → Bool} {place : Nat}
    (hp : ∀ n ∈ ns, p n = true ↔ n = place) : ns.eraseP p = ns.filter (· ≠ place) := by
  induction ns with
  | nil => rfl
  | cons n ns ih =>
    obtain ⟨hn, hns⟩ := List.nodup_cons.mp hns
    by_cases heq : n = place
    · subst heq
      have hrest : ns.filter (· ≠ n) = ns := List.filter_eq_self.mpr fun m hm => by
        simpa using fun hmn : m = n => hn (hmn ▸ hm)
      rw [List.eraseP_cons_of_pos ((hp n List.mem_cons_self).mpr rfl),
        List.filter_cons_of_neg (by simp), hrest]
    · rw [List.eraseP_cons_of_neg (fun h => heq ((hp n List.mem_cons_self).mp h)),
        List.filter_cons_of_pos (by simpa using heq),
        ih hns fun m hm => hp m (List.mem_cons_of_mem n hm)]

theorem record?_closing (place n : Nat) (now : Int) (error : Option String) :
    (r.closing place now error).record? n =
      if place = n then (r.record? n).map (·.closed now error) else r.record? n :=
  record?_changeRecord

/-- A step that is left has an end, which no open step has: however alike their records were, it is
this very step that is taken from the open ones. -/
theorem Keeps.closing_opened (h : r.Keeps ops) {place : Nat} (hplace : place ∈ stillOpen ops)
    (now : Int) (error : Option String) :
    (r.closing place now error).opened = r.opened.filter (· ≠ place) := by
  have hnodup : r.opened.Nodup := h.opened ▸ (nodup_entered ops).filter _
  refine eraseP_eq_filter hnodup fun n hn => ?_
  rw [decide_eq_true_iff]
  refine ⟨fun hsame => ?_, fun hsame => hsame ▸ rfl⟩
  by_contra hne
  obtain ⟨x, hx, -, htime⟩ := h.unended n (h.opened ▸ hn)
  obtain ⟨y, hy, -⟩ := h.unended place hplace
  rw [record?_changeRecord, record?_changeRecord, if_neg (Ne.symm hne), if_pos rfl, hx, hy,
    Option.map_some, Option.some.injEq] at hsame
  rw [hsame] at htime
  cases htime

theorem status_closed (x : StepRecord) (now : Int) (error : Option Failure) :
    (x.closed now (error.map Failure.text)).status = endOf error x.softFailures := by
  unfold StepRecord.closed endOf
  cases error with
  | some e => rfl
  | none =>
    cases hsoft : x.softFailures with
    | nil => rfl
    | cons m ms => simp

theorem Keeps.left (h : r.Keeps ops) {place : Nat} (hplace : place ∈ stillOpen ops) (now : Int)
    (error : Option Failure) :
    (r.closing place now (error.map Failure.text)).Keeps (ops ++ [.leave place error]) := by
  constructor
  · rw [h.closing_opened hplace, stillOpen_leave, h.opened]
  · rw [making_other rfl, ← h.titles]
    refine changeRecord_map ?_ place
    exact fun _ => rfl
  · intro n x hx
    rw [messagesAt_other _ rfl]
    rw [record?_closing] at hx
    split at hx
    · obtain ⟨y, hy, rfl⟩ := Option.map_eq_some_iff.mp hx
      exact h.softFailures n y hy
    · exact h.softFailures n x hx
  · rw [messagesAt_other _ rfl]
    exact h.unattributed
  · have hsteps : (r.closing place now (error.map Failure.text)).account.steps.map
        StepRecord.softFailures = r.account.steps.map StepRecord.softFailures := by
      refine changeRecord_map ?_ place
      exact fun _ => rfl
    rw [filterMap_concat_none rfl, Account.softFailures, List.flatMap_def, hsteps, ← List.flatMap_def]
    exact h.once
  · intro n hn
    rw [stillOpen_leave, List.mem_filter] at hn
    have hne : place ≠ n := fun hsame => by simp [hsame] at hn
    rw [record?_closing, if_neg hne]
    exact h.unended n hn.1
  · intro n e hmem
    obtain hmem | hmem := List.mem_append.mp hmem
    · obtain ⟨x, hx, hstatus, htime⟩ := h.ended n e hmem
      have hne : place ≠ n := by
        rintro rfl
        exact not_mem_stillOpen_of_left hmem hplace
      rw [record?_closing, if_neg hne]
      exact ⟨x, hx, hstatus, htime⟩
    · obtain ⟨rfl, rfl⟩ := Operation.leave.inj (List.mem_singleton.mp hmem)
      obtain ⟨x, hx, -⟩ := h.unended n hplace
      rw [record?_closing, if_pos rfl, hx]
      exact ⟨_, rfl, status_closed x now e, rfl⟩

theorem Keeps.next (h : r.Keeps ops) (hop : ∀ p ∈ op.leftPlace?, p ∈ stillOpen ops) (now : Int) :
    (op.done r now).Keeps (ops ++ [op]) := by
  cases op with
  | begin => exact h.apart rfl rfl rfl rfl rfl rfl rfl
  | enter title => exact h.entered title now
  | leave place error => exact h.left (hop place rfl) now error
  | skip title => exact h.skipped title now
  | soften message => exact h.softened message
  | finish error => exact h.apart rfl rfl rfl rfl rfl rfl rfl

theorem keeps_fresh (title : String) (now : Int) (listeners : List Listener) (traced : Bool) :
    Keeps { account := { title, startTime := now }, listeners, traced } [] where
  opened := rfl
  titles := rfl
  softFailures _ _ hx := by cases hx
  unattributed := rfl
  once := .nil
  unended _ hplace := by cases hplace
  ended _ _ hmem := by cases hmem

theorem Keeps.finishing_status (h : r.Keeps ops) (now : Int) (error : Option Failure) :
    (r.finishing now (error.map Failure.text)).account.status =
      endOf error (ops.filterMap message?) := by
  have hnil : r.account.softFailures = [] ↔ ops.filterMap message? = [] :=
    ⟨fun hsoft => (hsoft ▸ h.once).nil_eq.symm, fun hsoft => (hsoft ▸ h.once).eq_nil⟩
  unfold finishing Account.finished endOf
  cases error with
  | some e => rfl
  | none =>
    by_cases hsoft : r.account.softFailures = []
    · simp [hsoft, hnil.mp hsoft]
    · simp [hsoft, mt hnil.mpr hsoft]

end Kept

/-- The states that operations on a recorder lead to. Between two of them anything may happen to the
page, the time and the desk, and nothing need happen; only open steps are left. -/
inductive Reached (w : Walk) : List Operation → Walk → Prop
  | start : Reached w [] w
  | next {ops : List Operation} {v u : Walk} (h : Reached w ops v) (hu : u.recorder = v.recorder)
    (op : Operation) (hop : ∀ p ∈ op.leftPlace?, p ∈ stillOpen ops) :
    Reached w (ops ++ [op]) (op.act u).state

section Reached

variable {w v : Walk} {ops : List Operation} {r : Recorder}

theorem Reached.keeps (h : Reached w ops v) (hw : w.recorder = some r) (hr : r.Keeps []) :
    ∃ r', v.recorder = some r' ∧ r'.Keeps ops := by
  induction h with
  | start => exact ⟨r, hw, hr⟩
  | @next ops v u _ hu op hop ih =>
    obtain ⟨r', hv, hkeeps⟩ := ih
    refine ⟨op.done r' u.scene.clock, ?_, hkeeps.next hop _⟩
    rw [act_recorder, hu, hv, Option.map_some]

theorem Reached.finished {before : List Operation} {error : Option Failure}
    (h : Reached w (before ++ [.finish error]) v) (hw : w.recorder = some r) (hr : r.Keeps []) :
    ∃ r', v.recorder = some r' ∧ r'.account.status = endOf error (before.filterMap message?) := by
  generalize hops : before ++ [.finish error] = ops at h
  cases h with
  | start => simp at hops
  | @next ops v u h hu op _ =>
    obtain ⟨rfl, hlast⟩ := List.append_inj' hops rfl
    obtain rfl : .finish error = op := (List.cons.inj hlast).1
    obtain ⟨r', hv, hkeeps⟩ := h.keeps hw hr
    refine ⟨_, ?_, hkeeps.finishing_status u.scene.clock error⟩
    rw [act_recorder, hu, hv, Option.map_some]
    rfl

variable {title : String} {now : Int} {listeners : List Listener} {traced : Bool}

/-- Whatever is done to a fresh recorder, and however long it takes: just the steps entered and not
left are open, every soft failure is held once, where it belongs, each step that was left ended as it
should, and the scenario too if it was finished last. -/
theorem reached_keeps
    (hw : w.recorder = some { account := { title, startTime := now }, listeners, traced })
    (h : Reached w ops v) :
    ∃ r, v.recorder = some r ∧ r.Keeps ops ∧
      ∀ before error, ops = before ++ [.finish error] →
        r.account.status = endOf error (before.filterMap message?) := by
  have hfresh := keeps_fresh title now listeners traced
  obtain ⟨r, hr, hkeeps⟩ := h.keeps hw hfresh
  refine ⟨r, hr, hkeeps, ?_⟩
  rintro before error rfl
  obtain ⟨r', hr', hstatus⟩ := h.finished hw hfresh
  obtain rfl := Option.some.inj (hr.symm.trans hr')
  exact hstatus

end Reached

/-- Two steps are open whose records are equal. The outer one is left first, and a soft failure after
that belongs to the inner one. -/
theorem reached_keeps_of_equal_records :
    let w : Walk := { recorder := some { account := { title := "scenario", startTime := 1000 } } }
    let ops : List Operation :=
      [.enter "step", .enter "step", .leave 0 none, .soften "late", .leave 1 none, .finish none]
    ∃ v r, Reached w ops v ∧ v.recorder = some r ∧ r.opened = [] ∧
      (∀ x, r.record? 0 = some x → x.softFailures = []) ∧
      (∀ x, r.record? 1 = some x → x.softFailures = ["late"]) ∧ r.account.status = .failed := by
  intro w ops
  have hreached : ∃ v, Reached w ops v := by
    have h₁ := Reached.start.next (w := w) rfl (.enter "step") (by simp [leftPlace?])
    have h₂ := h₁.next rfl (.enter "step") (by simp [leftPlace?])
    have h₃ := h₂.next rfl (.leave 0 none) (by decide)
    have h₄ := h₃.next rfl (.soften "late") (by simp [leftPlace?])
    have h₅ := h₄.next rfl (.leave 1 none) (by decide)
    exact ⟨_, h₅.next rfl (.finish none) (by simp [leftPlace?])⟩
  obtain ⟨v, hv⟩ := hreached
  obtain ⟨r, hr, hkeeps, hstatus⟩ := reached_keeps rfl hv
  have hfinished : r.account.status = .failed :=
    hstatus [.enter "step", .enter "step", .leave 0 none, .soften "late", .leave 1 none] none rfl
  exact ⟨v, r, hv, hr, hkeeps.opened, hkeeps.softFailures 0, hkeeps.softFailures 1, hfinished⟩

end Walkthrough.Recorder
