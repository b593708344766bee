import Mathlib.Data.List.Basic
import NodeReport.Proofs.Store.Keeping
import NodeReport.Proofs.Store.Registry

/-! # Calls that set a store up

  A store is set up and asked for ids by calls, each of which opens its file anew. Whatever the
  calls, the ids number the sources from one in the order of their first lookups, and no source ever
  gets another id.

  * `FileSystem.call_registers`: what one call does;
  * `FileSystem.IsVacant.calls`: what calls do, one after another.
-/

namespace NodeReport

/-- A call that sets a store up. -/
inductive SetupCall where
  /-- Only this. -/
  | init
  /-- And looks up a source afterwards. -/
  | lookup (key : SourceKey)
deriving DecidableEq

namespace SetupCall

/-- What a call looks up. -/
def key? : SetupCall → Option SourceKey
  | init => none
  | lookup key => some key

end SetupCall

namespace Registry

variable {keys more : List SourceKey} {key other : SourceKey}

/-- The sources that calls register: each one once, in the order of their first lookups. -/
def registered (calls : List SetupCall) : List SourceKey :=
  (calls.filterMap SetupCall.key?).eraseDups

/-- The answer to a call. -/
def answer (keys : List SourceKey) (call : SetupCall) : Option Int :=
  call.key?.map (idOf keys)

/-- Registers what a call looks up. -/
def registerCall (keys : List SourceKey) (call : SetupCall) : List SourceKey :=
  (call.key?.map (register keys)).getD keys

/-! ### Keys of calls -/

theorem nodup_registerCall (h : keys.Nodup) (call : SetupCall) :
    (registerCall keys call).Nodup := by
  cases call with
  | init => exact h
  | lookup key => exact nodup_register h key

theorem prefix_register (keys : List SourceKey) (key : SourceKey) : keys <+: register keys key := by
  by_cases hmem : key ∈ keys
  · exact ⟨[], by rw [register_of_mem hmem, List.append_nil]⟩
  · rw [register_of_not_mem hmem]
    exact List.prefix_append keys [key]

theorem prefix_registerCall (keys : List SourceKey) (call : SetupCall) :
    keys <+: registerCall keys call := by
  cases call with
  | init => exact List.prefix_rfl
  | lookup key => exact prefix_register keys key

theorem prefix_foldl_registerCall (keys : List SourceKey) (calls : List SetupCall) :
    keys <+: calls.foldl registerCall keys := by
  induction calls generalizing keys with
  | nil => exact List.prefix_rfl
  | cons call rest ih => exact (prefix_registerCall keys call).trans (ih _)

/-- A source is registered once it was looked up. -/
theorem mem_registered {calls : List SetupCall} :
    key ∈ registered calls ↔ SetupCall.lookup key ∈ calls := by
  unfold registered
  rw [List.mem_eraseDups, List.mem_filterMap]
  constructor
  · intro h
    obtain ⟨call, hmem, hkey⟩ := h
    cases call with
    | init => cases hkey
    | lookup other =>
      cases hkey
      exact hmem
  · intro hmem
    exact ⟨_, hmem, rfl⟩

/-- The sources are registered one call after another. -/
theorem registered_eq_foldl (calls : List SetupCall) :
    registered calls = calls.foldl registerCall [] := by
  unfold registered
  induction calls using List.reverseRecOn with
  | nil => rfl
  | append_singleton calls call ih =>
    rw [List.foldl_append, ← ih, List.filterMap_append, List.foldl_cons, List.foldl_nil]
    cases call with
    | init => exact congrArg List.eraseDups (List.append_nil _)
    | lookup key =>
      -- a last key is a new one exactly if it does not stand before
      show (calls.filterMap SetupCall.key? ++ [key]).eraseDups = register _ key
      generalize calls.filterMap SetupCall.key? = keys
      rw [List.eraseDups_append]
      by_cases hmem : key ∈ keys
      · rw [register_of_mem (List.mem_eraseDups.mpr hmem)]
        simp [List.removeAll, hmem]
      · rw [register_of_not_mem (fun h => hmem (List.mem_eraseDups.mp h))]
        simp [List.removeAll, List.eraseDups_cons, hmem]

theorem nodup_registered (calls : List SetupCall) : (registered calls).Nodup := by
  rw [registered_eq_foldl]
  induction calls using List.reverseRecOn with
  | nil => exact List.nodup_nil
  | append_singleton calls call ih =>
    rw [List.foldl_append]
    exact nodup_registerCall ih call

/-- Further calls only register further sources. -/
theorem registered_mono (calls more : List SetupCall) :
    registered calls <+: registered (calls ++ more) := by
  rw [registered_eq_foldl, registered_eq_foldl, List.foldl_append]
  exact prefix_foldl_registerCall _ more

/-! ### Ids -/

/-- Registering more sources changes no id. -/
theorem idOf_mono (h : keys <+: more) (hkey : key ∈ keys) : idOf more key = idOf keys key := by
  obtain ⟨rest, rfl⟩ := h
  unfold idOf
  rw [List.idxOf_append, if_pos hkey]

/-- Registered sources have the same id only if they are the same. -/
theorem idOf_inj (hkey : key ∈ keys) : idOf keys key = idOf keys other ↔ key = other := by
  constructor
  · intro h
    have hindex : keys.idxOf key = keys.idxOf other := by
      unfold idOf at h
      omega
    exact (List.idxOf_inj hkey).mp hindex
  · intro h
    rw [h]

/-- The rows of registered sources stay as they are when more are registered. -/
theorem rows_mono (h : keys <+: more) : rows keys <+: rows more := by
  obtain ⟨rest, rfl⟩ := h
  unfold rows
  rw [List.mapIdx_append]
  exact List.prefix_append _ _

/-- A call is answered alike once more sources are registered. -/
theorem answer_mono {call : SetupCall} (h : registerCall keys call <+: more) :
    answer more call = answer (registerCall keys call) call := by
  cases call with
  | init => rfl
  | lookup key => exact congrArg some (idOf_mono h (mem_register keys key))

end Registry

/-- A database with a registry has tables. -/
theorem Database.Registers.ne_empty {db : Database} {keys : List SourceKey}
    (h : db.Registers keys) : db ≠ {} := by
  rintro rfl
  have hsources := h.sources
  cases hsources

namespace FileSystem

open Registry

variable {fs : FileSystem} {path : String} {place : Place} {db : Database} {keys : List SourceKey}

/-! ### Calls -/

/-- A call on the store at a path. -/
def call (fs : FileSystem) (now : Instant) (path : String) :
    SetupCall → FileSystem × Except SetupError (Option Int)
  | .init =>
    let (after, result) := fs.initStore now path
    (after, result.map fun _ => none)
  | .lookup key =>
    let (after, result) := fs.lookupSource now path key.host key.port key.dcid
    (after, result.map some)

/-- Calls on the store at a path, each at its own time, with their answers. -/
def calls (fs : FileSystem) (path : String) :
    List (Instant × SetupCall) → FileSystem × List (Except SetupError (Option Int))
  | [] => (fs, [])
  | (now, c) :: rest =>
    let (after, result) := fs.call now path c
    let (last, results) := after.calls path rest
    (last, result :: results)

/-- One call registers what it looks up and answers with its id. -/
theorem call_registers (hfinds : fs.Finds path place db) (h : db.Registers keys)
    (hnodup : keys.Nodup) {c : SetupCall}
    (hlimit : ((registerCall keys c).length : Int) ≤ maxInt64) (now : Instant) :
    ∃ after db', fs.call now path c = (after, .ok (answer (registerCall keys c) c)) ∧
      after.Keeps path place db' ∧ db'.Registers (registerCall keys c) := by
  cases c with
  | init =>
    obtain ⟨after, hafter, hkeeps⟩ := hfinds.initStore h.ne_empty now
    refine ⟨after, db, ?_, hkeeps, h⟩
    simp only [call, hafter]
    rfl
  | lookup key =>
    have hroom : ((register keys key).length : Int) ≤ maxInt64 := hlimit
    obtain ⟨db', hlookup, hdb'⟩ := h.lookupSource hnodup hroom
    obtain ⟨after, hafter, hkeeps⟩ := hfinds.lookupSource hlookup hdb'.ne_empty now
    refine ⟨after, db', ?_, hkeeps, hdb'⟩
    simp only [call, hafter]
    rfl

/-- Calls on a store that is kept register what they look up, and each answer holds to the end. -/
theorem Keeps.calls (h : fs.Keeps path place db) (hdb : db.Registers keys) (hnodup : keys.Nodup)
    {run : List (Instant × SetupCall)}
    (hlimit : (((run.map Prod.snd).foldl registerCall keys).length : Int) ≤ maxInt64) :
    ∃ after db', fs.calls path run =
        (after, run.map fun c => .ok (answer ((run.map Prod.snd).foldl registerCall keys) c.2)) ∧
      after.Keeps path place db' ∧ db'.Registers ((run.map Prod.snd).foldl registerCall keys) := by
  -- the database that is kept and its sources both change from call to call
  induction run generalizing fs db keys with
  | nil => exact ⟨fs, db, rfl, h, hdb⟩
  | cons first rest ih =>
    obtain ⟨now, c⟩ := first
    have hfinds := h.finds
    rw [hdb.initialised] at hfinds
    have hbefore := prefix_foldl_registerCall (registerCall keys c) (rest.map Prod.snd)
    have hlength := hbefore.length_le
    simp only [List.map_cons, List.foldl_cons] at hlimit ⊢
    obtain ⟨next, db', hcall, hnext, hdb'⟩ :=
      call_registers (c := c) hfinds hdb hnodup (by omega) now
    obtain ⟨after, last, hrest, hafter, hlast⟩ := ih hnext hdb' (nodup_registerCall hnodup c) hlimit
    refine ⟨after, last, ?_, hafter, hlast⟩
    -- the answer was given when fewer sources were registered, but is the same in the end
    unfold FileSystem.calls
    rw [hcall]
    dsimp only
    rw [hrest, answer_mono hbefore]

/-- Calls on a store that is not there yet begin without sources. -/
theorem IsVacant.calls (h : fs.IsVacant path place) {run : List (Instant × SetupCall)}
    (hrun : run ≠ [])
    (hlimit : ((registered (run.map Prod.snd)).length : Int) ≤ maxInt64) :
    ∃ after db, fs.calls path run =
        (after, run.map fun c => .ok (answer (registered (run.map Prod.snd)) c.2)) ∧
      after.Keeps path place db ∧ db.Registers (registered (run.map Prod.snd)) := by
  rw [registered_eq_foldl] at hlimit ⊢
  cases run with
  | nil => exact absurd rfl hrun
  | cons first rest =>
    obtain ⟨now, c⟩ := first
    have hbefore := prefix_foldl_registerCall (registerCall [] c) (rest.map Prod.snd)
    have hlength := hbefore.length_le
    simp only [List.map_cons, List.foldl_cons] at hlimit ⊢
    -- the first call makes the file, and all others find what it has left
    obtain ⟨next, db, hcall, hnext, hdb⟩ := call_registers (c := c) h.finds
      Database.Registers.initialised_empty List.nodup_nil (by omega) now
    obtain ⟨after, last, hrest, hafter, hlast⟩ :=
      hnext.calls hdb (nodup_registerCall List.nodup_nil c) hlimit
    refine ⟨after, last, ?_, hafter, hlast⟩
    unfold FileSystem.calls
    rw [hcall]
    dsimp only
    rw [hrest, answer_mono hbefore]

/-! ### Sources of a store -/

/-- Whether the store at a path has a row for each of these sources and no other, and lists them in
    the order of their ids. -/
def HoldsSources (fs : FileSystem) (path : String) (keys : List SourceKey) : Prop :=
  ∃ db modified, fs.openDatabase path = .ok (db, modified) ∧
    db.table? Schema.sourceTable = some (Registry.table keys) ∧
    db.reportStore.sources.value = .ok (Registry.sources keys)

theorem Keeps.holdsSources (h : fs.Keeps path place db) (hdb : db.Registers keys) :
    fs.HoldsSources path keys := by
  obtain ⟨modified, hopen⟩ := h.openDatabase
  exact ⟨db, modified, hopen, hdb.sources, hdb.value_sources⟩

/-- What calls on a store do, whatever calls follow. -/
structure KeepsIds (fs : FileSystem) (path : String) (run more : List (Instant × SetupCall))
    (keys later : List SourceKey) : Prop where
  /-- The sources are those that were looked up. -/
  mem_iff : ∀ key, key ∈ keys ↔ ∃ now, (now, SetupCall.lookup key) ∈ run
  /-- None of them stands twice. -/
  nodup : keys.Nodup
  /-- Every call succeeds, and a lookup answers with the number of its source. -/
  answers : (fs.calls path run).2 = run.map fun c => .ok (answer keys c.2)
  /-- Two lookups have the same answer exactly if they are of the same source. -/
  ids_eq_iff : ∀ key ∈ keys, ∀ other ∈ keys,
    answer keys (.lookup key) = answer keys (.lookup other) ↔ key = other
  /-- The store has these sources. -/
  holds : (fs.calls path run).1.HoldsSources path keys
  /-- It has more after more calls. -/
  holds_later : (fs.calls path (run ++ more)).1.HoldsSources path later
  /-- The rows that were there are still the same. -/
  rows_kept : rows keys <+: rows later

/-- Calls on a store that is not there yet number the sources that they look up in the order of
    their first lookups, and later calls change no row. -/
theorem calls_register (h : fs.IsVacant path place) {run more : List (Instant × SetupCall)}
    (hrun : run ≠ [])
    (hlimit : ((registered ((run ++ more).map Prod.snd)).length : Int) ≤ maxInt64) :
    KeepsIds fs path run more (registered (run.map Prod.snd))
      (registered ((run ++ more).map Prod.snd)) := by
  have hbefore : registered (run.map Prod.snd) <+: registered ((run ++ more).map Prod.snd) := by
    rw [List.map_append]
    exact registered_mono _ _
  have hlength := hbefore.length_le
  obtain ⟨after, db, hcalls, hafter, hdb⟩ := h.calls hrun (by omega)
  obtain ⟨last, db', hlater, hlast, hdb'⟩ := h.calls (List.append_ne_nil_of_left_ne_nil hrun more)
    hlimit
  refine ⟨?_, nodup_registered _, ?_, ?_, ?_, ?_, Registry.rows_mono hbefore⟩
  · intro key
    rw [mem_registered, List.mem_map]
    constructor
    · intro hlookup
      obtain ⟨⟨now, c⟩, hmem, rfl⟩ := hlookup
      exact ⟨now, hmem⟩
    · intro hlookup
      obtain ⟨now, hmem⟩ := hlookup
      exact ⟨_, hmem, rfl⟩
  · rw [hcalls]
  · intro key hkey other _
    exact (Option.some_inj (a := idOf _ key)).trans (idOf_inj hkey)
  · rw [hcalls]
    exact hafter.holdsSources hdb
  · rw [hlater]
    exact hlast.holdsSources hdb'

/-! ### A store in a directory that is still to be made -/

theorem isVacant_dataStats : IsVacant {} "data/stats.db" ["data", "stats.db"] where
  namesFile := ⟨by decide +kernel, by decide +kernel, by decide, by decide, by decide⟩
  made := by decide +kernel
  leads := by decide +kernel
  short := by decide +kernel
  absent := by decide +kernel
  canPrepare := by decide +kernel
  noLog := by decide +kernel

/-- Two sources on one machine and port are told apart by their codes. -/
def sampleCalls : List (Instant × SetupCall) :=
  [(0, .lookup ⟨"a.example", 80, "A"⟩), (1, .init), (2, .lookup ⟨"a.example", 80, "B"⟩),
    (3, .lookup ⟨"a.example", 80, "A"⟩)]

theorem calls_register_sampleCalls :
    IsVacant {} "data/stats.db" ["data", "stats.db"] ∧
      KeepsIds {} "data/stats.db" sampleCalls [(4, .lookup ⟨"c.example", 81, "C"⟩)]
        [⟨"a.example", 80, "A"⟩, ⟨"a.example", 80, "B"⟩]
        [⟨"a.example", 80, "A"⟩, ⟨"a.example", 80, "B"⟩, ⟨"c.example", 81, "C"⟩] := by
  have hkeys : registered (sampleCalls.map Prod.snd) =
      [⟨"a.example", 80, "A"⟩, ⟨"a.example", 80, "B"⟩] := by decide +kernel
  have hlater : registered
      ((sampleCalls ++ [(4, SetupCall.lookup ⟨"c.example", 81, "C"⟩)]).map Prod.snd) =
      [⟨"a.example", 80, "A"⟩, ⟨"a.example", 80, "B"⟩, ⟨"c.example", 81, "C"⟩] := by decide +kernel
  rw [← hkeys, ← hlater]
  exact ⟨isVacant_dataStats,
    calls_register isVacant_dataStats (by decide) (by rw [hlater]; decide)⟩

end FileSystem

end NodeReport
