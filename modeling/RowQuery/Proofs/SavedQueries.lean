import RowQuery.Proofs.Cutting
import RowQuery.Proofs.StoreLog

/-!
# Saved queries

What is saved in a session is what the log tells of: the queries that were saved since the session was
created, put under their trimmed names one after the other (`saved_contents`, `saved_run`). So each name
stands where it was saved first and has the query that was saved last, and no name that was saved is
missing (`keepsSaved_run`). A query under a blank name is refused and saved nowhere (`run_keepsSaved`).
-/

namespace RowQuery.Store

/-- The name under which a query is saved, and the query. Blanks around the name do not count. -/
def Use.named? : Use → Option (String × String)
  | .save name query => some (Text.trimmed name, query)
  | _ => none

/-- The queries that were saved in a session since it was created, latest first, under their trimmed names. -/
def savesOf (id : String) (log : List Event) : List (String × String) := (usesOf id log).filterMap Use.named?

/-! ## What is kept of all that was saved -/

theorem saved_contents (uses : List Use) :
    (contents uses).saved = Keyed.ofPairs (uses.filterMap Use.named?).reverse := by
  induction uses with
  | nil => rfl
  | cons usage earlier ih =>
    rw [contents] at ih ⊢
    rw [List.filterMap_cons, List.foldr_cons]
    cases usage with
    | save name query =>
      simp only [Use.change, Use.named?, Session.save, ih]
      rw [List.reverse_cons, Keyed.ofPairs_concat]
    | _ => exact ih

/-- A live session has saved what the log tells. -/
theorem saved_run {minutes : UInt64} {steps : List (Nat × Operation)} {id : String} {session : Session}
    (live : (run minutes steps).store.sessions.get? id = some session) :
    session.saved = Keyed.ofPairs (savesOf id (run minutes steps).log).reverse := by
  rw [get?_run, told] at live
  split at live
  · cases live
    exact saved_contents _
  · cases live

/-! ## Names -/

/-- What was done with a session was not refused. -/
theorem refused_of_mem_usesOf {minutes : UInt64} {steps : List (Nat × Operation)} {id : String} {usage : Use}
    (used : usage ∈ usesOf id (run minutes steps).log) : usage.refused = false := by
  obtain ⟨event, recent, told⟩ := List.mem_filterMap.mp used
  have member : event ∈ (run minutes steps).log := (List.takeWhile_sublist _).mem recent
  obtain ⟨later, earlier, log⟩ := List.append_of_mem member
  obtain ⟨before, _, answer⟩ := exists_step_of_log log
  obtain ⟨now, operation, given⟩ := event
  cases operation with
  | use other asked =>
    cases given with
    | error failure => cases told
    | ok given =>
      obtain ⟨rfl, rfl⟩ : other = id ∧ asked = usage := by simpa [Event.use?] using told
      exact (live_of_answer now answer.symm).1
  | _ => cases told

/-- Names that queries were saved under are trimmed, and not blank. -/
theorem name_of_mem_savesOf {minutes : UInt64} {steps : List (Nat × Operation)} {id name : String}
    (saved : name ∈ Keyed.keys (savesOf id (run minutes steps).log)) :
    name ≠ "" ∧ Text.trimmed name = name := by
  obtain ⟨entry, member, rfl⟩ := List.mem_map.mp saved
  obtain ⟨usage, used, named⟩ := List.mem_filterMap.mp member
  have accepted := refused_of_mem_usesOf used
  cases usage with
  | save given query =>
    cases named
    refine ⟨by simpa [Use.refused] using accepted, ?_⟩
    rw [Text.trimmed_eq_iff, Text.trimmed, String.toList_ofList]
    exact Text.trim_trim _
  | _ => cases named

/-! ## The saved queries of a session -/

/-- The saved queries of a session, by the log: each name once, trimmed and not blank, in the order in
which the names were first saved since the session was created; with each the query that was saved last
under it; and every name that was saved. -/
structure KeepsSaved (id : String) (log : List Event) (saved : Keyed String) : Prop where
  distinct : saved.keys.Nodup
  trimmed : ∀ name ∈ saved.keys, name ≠ "" ∧ Text.trimmed name = name
  order : saved.keys = (Keyed.keys (savesOf id log).reverse).eraseDups
  latest : ∀ name query, (name, query) ∈ saved →
    (savesOf id log).find? (fun entry => entry.1 = name) = some (name, query)
  present : ∀ name query, .save name query ∈ usesOf id log → Text.trimmed name ∈ saved.keys

theorem keepsSaved_run {minutes : UInt64} {steps : List (Nat × Operation)} {id : String} {session : Session}
    (live : (run minutes steps).store.sessions.get? id = some session) :
    KeepsSaved id (run minutes steps).log session.saved := by
  have saved := saved_run live
  have order : session.saved.keys = (Keyed.keys (savesOf id (run minutes steps).log).reverse).eraseDups := by
    rw [saved, Keyed.keys_ofPairs]
  have among (name : String) :
      name ∈ session.saved.keys ↔ name ∈ Keyed.keys (savesOf id (run minutes steps).log) := by
    rw [order, List.mem_eraseDups, Keyed.keys, List.map_reverse, List.mem_reverse]
    rfl
  have distinct : session.saved.keys.Nodup := saved ▸ Keyed.nodup_keys_ofPairs _
  refine ⟨distinct, ?_, order, ?_, ?_⟩
  · intro name member
    exact name_of_mem_savesOf ((among name).mp member)
  · intro name query member
    have found := Keyed.get?_of_mem distinct member
    rw [saved, Keyed.get?_ofPairs, Keyed.lastValue?, List.reverse_reverse] at found
    obtain ⟨entry, first, rfl⟩ := Option.map_eq_some_iff.mp found
    have same : entry.1 = name := by simpa using List.find?_some first
    rw [first, ← same]
  · intro name query used
    have listed : (Text.trimmed name, query) ∈ savesOf id (run minutes steps).log :=
      List.mem_filterMap.mpr ⟨_, used, rfl⟩
    exact (among _).mpr (List.mem_map.mpr ⟨_, listed, rfl⟩)

/-- After any run, a live session tells of its saved queries, which are what the log says, and takes
another one under any name that is not blank. A query that is to be saved under a blank name, in
whichever session, is refused and changes nothing. -/
theorem run_keepsSaved (minutes : UInt64) (steps : List (Nat × Operation)) (now : Nat) (id : String) :
    (∀ session, (run minutes steps).store.sessions.get? id = some session →
      KeepsSaved id (run minutes steps).log session.saved ∧
        ((run minutes steps).store.apply now (.use id .saved)).1 = .ok (.saved session.saved) ∧
        ∀ name query, Text.trimmed name ≠ "" →
          ((run minutes steps).store.apply now (.use id (.save name query))).1 = .ok .done) ∧
      ∀ name query, Text.trimmed name = "" →
        (run minutes steps).store.apply now (.use id (.save name query)) =
          (.error (.validation "Saved query name must not be empty"), (run minutes steps).store) := by
  constructor
  · intro session live
    refine ⟨keepsSaved_run live, answer_of_live now live rfl, ?_⟩
    intro name query named
    exact answer_of_live now live (by simpa [Use.refused] using named)
  · intro name query blank
    exact apply_save_of_blank now _ id blank query

/-- Queries saved under names that differ in blanks and in letter case. -/
def namingSteps : List (Nat × Operation) :=
  [(0, .create "a"), (1, .use "a" (.save " all " "select n")), (2, .use "a" (.save "ALL" "select m")),
   (3, .use "a" (.save " " "select k")), (4, .use "a" (.save "all" "select *"))]

theorem run_keepsSaved_namingSteps :
    KeepsSaved "a" (run 30 namingSteps).log [("all", "select *"), ("ALL", "select m")] ∧
      (run 30 namingSteps).store.apply 5 (.use "a" (.save "\t" "select n")) =
        (.error (.validation "Saved query name must not be empty"), (run 30 namingSteps).store) := by
  have live : (run 30 namingSteps).store.sessions.get? "a" =
      some ⟨none, [], [("all", "select *"), ("ALL", "select m")], 4⟩ := by rfl
  have keeps := run_keepsSaved 30 namingSteps 5 "a"
  exact ⟨(keeps.1 _ live).1, keeps.2 "\t" "select n" (by decide)⟩

end RowQuery.Store
