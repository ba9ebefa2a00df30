import Mathlib.Data.List.Induction
import Mathlib.Data.List.Perm.Basic
import Walkthrough.Proofs.Precedence

/-!
What the order of the variables of the process has to do with the settings: of several variables for
one setting the last one counts, and any of them can be the last.
-/
namespace Walkthrough

namespace SettingTable

variable {key : String}

theorem filter_put_other {k : String} (hk : k ≠ key) (t : SettingTable) (v : Setting) :
    (t.put k v).filter (·.1 == key) = t.filter (·.1 == key) := by
  induction t with
  | nil => simp [SettingTable.put, hk]
  | cons m t ih =>
    obtain ⟨k', v'⟩ := m
    unfold SettingTable.put
    split
    · rename_i hm
      subst hm
      rw [List.filter_cons_of_neg (by simpa using hk), List.filter_cons_of_neg (by simpa using hk)]
    · rw [List.filter_cons, List.filter_cons, ih]

/-- What a table says of a key after a change there has nothing to do with other keys. -/
theorem filter_put_self (t : SettingTable) (v : Setting) :
    (t.put key v).filter (·.1 == key) = SettingTable.put (t.filter (·.1 == key)) key v := by
  induction t with
  | nil => simp [SettingTable.put]
  | cons m t ih =>
    obtain ⟨k', v'⟩ := m
    by_cases hm : k' = key
    · subst hm
      simp [SettingTable.put]
    · have hput : SettingTable.put ((k', v') :: t) key v = (k', v') :: SettingTable.put t key v :=
        if_neg hm
      rw [hput, List.filter_cons_of_neg (by simpa using hm),
        List.filter_cons_of_neg (by simpa using hm), ih]

theorem filter_merge (t new : SettingTable) :
    (t.merge new).filter (·.1 == key) =
      SettingTable.merge (t.filter (·.1 == key)) (new.filter (·.1 == key)) := by
  induction new generalizing t with
  | nil => rfl
  | cons m new ih =>
    have hstep : t.merge (m :: new) = (t.put m.1 m.2).merge new := rfl
    rw [hstep, ih]
    by_cases hm : m.1 = key
    · subst hm
      rw [filter_put_self, List.filter_cons_of_pos (by simp)]
      rfl
    · rw [filter_put_other hm, List.filter_cons_of_neg (by simpa using hm)]

theorem get?_filter (t : SettingTable) : SettingTable.get? (t.filter (·.1 == key)) key = t.get? key := by
  induction t with
  | nil => rfl
  | cons m t ih =>
    by_cases hm : m.1 = key
    · simp [SettingTable.get?, hm]
    · simp [SettingTable.get?, hm, ih]

end SettingTable

namespace Environment

variable {e : Environment}

theorem get?_eq_some (h : (e.vars.map Prod.fst).Nodup) {name value : String} :
    e.get? name = some value ↔ (name, value) ∈ e.vars := by
  unfold get?
  generalize e.vars = vars at h
  induction vars with
  | nil => simp
  | cons v vars ih =>
    obtain ⟨hv, hvars⟩ := List.nodup_cons.mp h
    by_cases hname : v.1 = name
    · subst hname
      have hnone : (v.1, value) ∉ vars := fun hmem =>
        hv (List.mem_map.mpr ⟨_, hmem, rfl⟩)
      simp [hnone, Prod.ext_iff, eq_comm]
    · have hne : (name, value) ≠ v := fun hsame => hname (by rw [← hsame])
      rw [List.find?_cons_of_neg (by simpa using hname), ih hvars, List.mem_cons,
        or_iff_right hne]

/-- Which value a variable has does not depend on the order in which variables are listed. -/
theorem get?_perm {vars : List (String × String)} (h : (e.vars.map Prod.fst).Nodup)
    (hperm : vars.Perm e.vars) : ({ e with vars } : Environment).get? = e.get? := by
  have hnodup : (vars.map Prod.fst).Nodup := (hperm.map Prod.fst).nodup_iff.mpr h
  funext name
  refine Option.ext fun value => ?_
  rw [get?_eq_some h, get?_eq_some hnodup, hperm.mem_iff]

end Environment

namespace Settings

section Variables

variable {vars : List (String × String)} {key : String} {choice : String → Option String}

/-- The text of the last variable that spells a setting. -/
def latest? (vars : List (String × String)) (key : String) : Option String :=
  (vars.reverse.find? fun v => settingOf? v.1 = some key).map (·.2)

theorem latest?_concat (vars : List (String × String)) (v : String × String) (key : String) :
    latest? (vars ++ [v]) key = if settingOf? v.1 = some key then some v.2 else latest? vars key := by
  unfold latest?
  rw [List.reverse_concat', List.find?_cons]
  split <;> simp_all

theorem holds_latest (vars : List (String × String)) (key : String) :
    (ofVariables vars).Holds key ((latest? vars key).map .text) := by
  induction vars using List.reverseRecOn with
  | nil => rfl
  | append_singleton vars v ih =>
    rw [latest?_concat]
    cases h : settingOf? v.1 with
    | none =>
      have hlast : ofVariables (vars ++ [v]) = ofVariables vars := by
        unfold ofVariables
        rw [List.foldl_append, List.foldl_cons, List.foldl_nil, h]
      rw [hlast]
      simpa using ih
    | some k =>
      have hlast : ofVariables (vars ++ [v]) = (ofVariables vars).put k (.text v.2) := by
        unfold ofVariables
        rw [List.foldl_append, List.foldl_cons, List.foldl_nil, h]
      have hput := ih.put k (.text v.2)
      rw [hlast]
      by_cases hk : k = key <;> simpa [hk] using hput

/-- A choice of one variable for each setting that variables spell. -/
def Chooses (vars : List (String × String)) (choice : String → Option String) : Prop :=
  ∀ key, (∀ text, choice key = some text → ∃ name, (name, text) ∈ vars ∧ Spells name key) ∧
    (choice key = none → ∀ v ∈ vars, ¬ Spells v.1 key)

theorem chooses_latest (vars : List (String × String)) : Chooses vars (latest? vars) := by
  intro key
  unfold latest?
  constructor
  · intro text htext
    obtain ⟨⟨name, _⟩, hlast, rfl⟩ := Option.map_eq_some_iff.mp htext
    have hname := List.find?_some hlast
    rw [decide_eq_true_iff] at hname
    exact ⟨name, List.mem_reverse.mp (List.mem_of_find?_eq_some hlast), settingOf?_eq_some.mp hname⟩
  · intro hnone v hv hspells
    rw [Option.map_eq_none_iff, List.find?_eq_none] at hnone
    exact hnone v (List.mem_reverse.mpr hv) (by simpa using settingOf?_eq_some.mpr hspells)

theorem Chooses.perm {vars' : List (String × String)} (h : Chooses vars choice)
    (hperm : vars'.Perm vars) : Chooses vars' choice := by
  intro key
  obtain ⟨hsome, hnone⟩ := h key
  refine ⟨fun text htext => ?_, fun hkey v hv => hnone hkey v (hperm.mem_iff.mp hv)⟩
  obtain ⟨name, hmem, hname⟩ := hsome text htext
  exact ⟨name, hperm.mem_iff.mpr hmem, hname⟩

/-- Whether a variable has the text that is chosen for its setting. -/
def isChosen (choice : String → Option String) (v : String × String) : Bool :=
  match settingOf? v.1 with
  | some key => choice key = some v.2
  | none => false

/-- Any choice is what the last variables say in some order: in one that lists the chosen ones last. -/
theorem Chooses.exists_latest (h : Chooses vars choice) :
    ∃ vars' : List (String × String), vars'.Perm vars ∧ ∀ key, latest? vars' key = choice key := by
  refine ⟨vars.filter (fun v => !isChosen choice v) ++ vars.filter (isChosen choice), ?_, ?_⟩
  · simpa using List.filter_append_perm (fun v => !isChosen choice v) vars
  intro key
  obtain ⟨hsome, hnone⟩ := h key
  unfold latest?
  rw [List.reverse_append, List.find?_append]
  cases hkey : choice key with
  | some text =>
    obtain ⟨name, hmem, hname⟩ := hsome text hkey
    have hsetting : settingOf? name = some key := settingOf?_eq_some.mpr hname
    have hchosen : (name, text) ∈ vars.filter (isChosen choice) :=
      List.mem_filter.mpr ⟨hmem, by simp [isChosen, hsetting, hkey]⟩
    cases hfind : (vars.filter (isChosen choice)).reverse.find?
        fun v => settingOf? v.1 = some key with
    | none =>
      have hlost := List.find?_eq_none.mp hfind _ (List.mem_reverse.mpr hchosen)
      simp [hsetting] at hlost
    | some v =>
      have hv := List.mem_filter.mp (List.mem_reverse.mp (List.mem_of_find?_eq_some hfind))
      have hvsetting : settingOf? v.1 = some key := by simpa using List.find?_some hfind
      have htext : choice key = some v.2 := by simpa [isChosen, hvsetting] using hv.2
      rw [Option.some_or, Option.map_some, ← htext, hkey]
  | none =>
    have hlost : ∀ us : List (String × String), us ⊆ vars →
        us.reverse.find? (fun v => settingOf? v.1 = some key) = none := by
      intro us hus
      refine List.find?_eq_none.mpr fun v hv hsetting => ?_
      exact hnone hkey v (hus (List.mem_reverse.mp hv)) (settingOf?_eq_some.mp (by simpa using hsetting))
    rw [hlost _ (List.filter_subset_self _), hlost _ (List.filter_subset_self _)]
    rfl

/-- The entries of a choice, one for each setting. -/
def entries (choice : String → Option String) : SettingTable :=
  names.filterMap fun key => (choice key).map fun text => (key, .text text)

theorem holds_entries (choice : String → Option String) (hkey : key ∈ names) :
    (entries choice).Holds key ((choice key).map .text) := by
  cases h : choice key with
  | none =>
    refine SettingTable.holds_none fun m hm hkey => ?_
    obtain ⟨k, -, hk⟩ := List.mem_filterMap.mp hm
    obtain ⟨text, htext, rfl⟩ := Option.map_eq_some_iff.mp hk
    rw [show k = key from hkey, h] at htext
    cases htext
  | some text =>
    refine SettingTable.holds_some (List.mem_filterMap.mpr ⟨key, hkey, by rw [h]; rfl⟩) ?_
    have hnodup : names.Nodup := by decide
    refine List.pairwise_filterMap.mpr (hnodup.imp fun hab m hm m' hm' hboth => hab ?_)
    obtain ⟨_, -, rfl⟩ := Option.map_eq_some_iff.mp hm
    obtain ⟨_, -, rfl⟩ := Option.map_eq_some_iff.mp hm'
    exact hboth.1.trans hboth.2.symm

/-- The settings where each that variables spell has the chosen text. -/
def settled (cwd : Path) (env : String) (t : SettingTable) (choice : String → Option String) :
    Except Failure Settings :=
  ofTable cwd env (t.merge (entries choice))

/-- Of several variables for one setting the last one counts. -/
theorem ofTable_variables (cwd : Path) (env : String) (t : SettingTable)
    (h : ∀ key ∈ names, latest? vars key = choice key) :
    ofTable cwd env (t.merge (ofVariables vars)) = settled cwd env t choice := by
  refine ofComplete_congr (fun key hkey => ?_) cwd env
  have hvariables : (ofVariables vars).filter (·.1 == key) = (entries choice).filter (·.1 == key) := by
    rw [holds_latest vars key, h key hkey]
    exact (holds_entries choice hkey).symm
  rw [← SettingTable.get?_filter, SettingTable.filter_merge, SettingTable.filter_merge, hvariables,
    ← SettingTable.filter_merge, ← SettingTable.filter_merge, SettingTable.get?_filter]

end Variables

section Load

variable {disk : Disk} {environment : Environment} {asked : Option String}
  {file variablesDir : Option Path}

/-- What the sources beneath the variables of the process say. -/
def beneath (disk : Disk) (environment : Environment) (asked : Option String)
    (file variablesDir : Option Path) : Except Failure SettingTable := do
  let table ← readFile disk environment.cwd (file.getD (Path.ofString "config.toml"))
  let vars ← readVariables disk environment (variablesPath (envName environment asked) variablesDir)
  let runner ← runnerTable table
  return runner.merge (ofVariables vars)

theorem load_eq_beneath : load disk environment asked file variablesDir =
    beneath disk environment asked file variablesDir >>= fun t =>
      ofTable environment.cwd (envName environment asked)
        (t.merge (ofVariables environment.vars)) := by
  simp only [load, beneath, bind_assoc, pure_bind]
  rfl

theorem envName_congr {environment' : Environment} (h : environment'.get? = environment.get?) :
    envName environment' asked = envName environment asked := by
  unfold envName
  rw [h]

theorem beneath_congr {environment' : Environment} (h : environment'.get? = environment.get?)
    (hcwd : environment'.cwd = environment.cwd) :
    beneath disk environment' asked file variablesDir =
      beneath disk environment asked file variablesDir := by
  unfold beneath readVariables
  rw [h, hcwd, envName_congr h]

/-- The settings are those that the last variables say, whichever these are. -/
theorem load_listed {environment' : Environment} {choice : String → Option String}
    (hget : environment'.get? = environment.get?) (hcwd : environment'.cwd = environment.cwd)
    (h : ∀ key, latest? environment'.vars key = choice key) :
    load disk environment' asked file variablesDir =
      beneath disk environment asked file variablesDir >>= fun t =>
        settled environment.cwd (envName environment asked) t choice := by
  rw [load_eq_beneath, beneath_congr hget hcwd, envName_congr hget, hcwd]
  exact bind_congr fun t => ofTable_variables environment.cwd _ t fun key _ => h key

/-- The order in which the process lists its variables does not matter just where it makes no
difference which of several variables for one setting is taken: in some order each of them is. -/
theorem load_reordered_iff (hnames : (environment.vars.map Prod.fst).Nodup) :
    (∀ vars : List (String × String), vars.Perm environment.vars →
      load disk { environment with vars } asked file variablesDir =
        load disk environment asked file variablesDir) ↔
    ∀ t, beneath disk environment asked file variablesDir = .ok t →
      ∀ choice choice', Chooses environment.vars choice → Chooses environment.vars choice' →
        settled environment.cwd (envName environment asked) t choice =
          settled environment.cwd (envName environment asked) t choice' := by
  have hget : ∀ {vars : List (String × String)}, vars.Perm environment.vars →
      ({ environment with vars } : Environment).get? = environment.get? :=
    fun hperm => Environment.get?_perm hnames hperm
  constructor
  · intro hsame t ht choice choice' hchoice hchoice'
    obtain ⟨vars, hperm, hlatest⟩ := hchoice.exists_latest
    obtain ⟨vars', hperm', hlatest'⟩ := hchoice'.exists_latest
    have hboth := (hsame vars hperm).trans (hsame vars' hperm').symm
    rw [load_listed (hget hperm) rfl hlatest, load_listed (hget hperm') rfl hlatest', ht] at hboth
    exact hboth
  · intro hsettled vars hperm
    rw [load_listed (hget hperm) rfl fun _ => rfl, load_listed rfl rfl fun _ => rfl]
    cases ht : beneath disk environment asked file variablesDir with
    | error e => simp only [bind, Except.bind]
    | ok t =>
      exact hsettled t ht _ _ ((chooses_latest vars).perm hperm.symm)
        (chooses_latest environment.vars)

end Load

/-- A disk with nothing on it but the working directory. -/
def bareDisk : Disk := ⟨[(["work"], .directory)]⟩

theorem load_reordered_iff_of_like_words :
    let environment : Environment := { vars := [("HEADLESS", "1"), ("RUNNER_HEADLESS", "yes")] }
    ∀ vars : List (String × String), vars.Perm environment.vars →
      load bareDisk { environment with vars } none none none =
        load bareDisk environment none none none := by
  intro environment
  let pick : String → String → Option String :=
    fun text key => if key = "headless" then some text else none
  have hpicked : ∀ choice, Chooses environment.vars choice → choice = pick "1" ∨ choice = pick "yes" := by
    intro choice hchoice
    have hsetting : ∀ v ∈ environment.vars, settingOf? v.1 = some "headless" := by decide +kernel
    have hother : ∀ key, key ≠ "headless" → choice key = none := by
      intro key hkey
      by_contra hsome
      obtain ⟨text, htext⟩ := Option.ne_none_iff_exists'.mp hsome
      obtain ⟨name, hmem, hname⟩ := (hchoice key).1 text htext
      have heq := (settingOf?_eq_some.mpr hname).symm.trans (hsetting _ hmem)
      exact hkey (Option.some.inj heq)
    cases hkey : choice "headless" with
    | none =>
      have hspells := settingOf?_eq_some.mp (hsetting _ List.mem_cons_self)
      exact absurd hspells ((hchoice "headless").2 hkey _ List.mem_cons_self)
    | some text =>
      have hpick : choice = pick text := by
        funext key
        by_cases h : key = "headless"
        · rw [h, hkey]
          rfl
        · rw [hother key h]
          exact (if_neg h).symm
      obtain ⟨name, hmem, -⟩ := (hchoice "headless").1 text hkey
      simp only [environment, List.mem_cons, Prod.mk.injEq, List.not_mem_nil, or_false] at hmem
      obtain ⟨-, rfl⟩ | ⟨-, rfl⟩ := hmem
      · exact Or.inl hpick
      · exact Or.inr hpick
  refine (load_reordered_iff (by decide)).mpr fun t ht => ?_
  have hempty : (beneath bareDisk environment none none none).toOption.map List.isEmpty =
      some true := by decide +kernel
  rw [ht] at hempty
  obtain rfl : t = [] := List.isEmpty_iff.mp (Option.some.inj hempty)
  have hlike : (settled environment.cwd (envName environment none) [] (pick "1")).toOption =
      (settled environment.cwd (envName environment none) [] (pick "yes")).toOption := by
    decide +kernel
  have hsome : (settled environment.cwd (envName environment none) [] (pick "1")).toOption.isSome :=
    by decide +kernel
  obtain ⟨s, hs⟩ := Option.isSome_iff_exists.mp hsome
  have hall : ∀ choice, Chooses environment.vars choice →
      settled environment.cwd (envName environment none) [] choice = .ok s := by
    intro choice hchoice
    obtain rfl | rfl := hpicked choice hchoice
    · exact toOption_eq_some.mp hs
    · exact toOption_eq_some.mp (hlike ▸ hs)
  exact fun choice choice' h h' => (hall choice h).trans (hall choice' h').symm

/-- Names that differ only in small and capital letters stand for one setting. -/
theorem load_order_counts :
    let vars := [("RUNNER_BASE_URL", "https://one.test"), ("RUNNER_base_url", "https://two.test")]
    (vars.map Prod.fst).Nodup ∧ vars.reverse.Perm vars ∧
      load bareDisk { vars := vars.reverse } none none none ≠
        load bareDisk { vars } none none none := by
  intro vars
  refine ⟨by decide, vars.reverse_perm, fun hsame => ?_⟩
  have hurls : (load bareDisk { vars := vars.reverse } none none none).toOption.map baseUrl ≠
      (load bareDisk { vars } none none none).toOption.map baseUrl := by decide +kernel
  exact hurls (congrArg (·.toOption.map baseUrl) hsame)

end Settings
end Walkthrough
