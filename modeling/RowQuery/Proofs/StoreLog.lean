import Mathlib.Data.List.Dedup
import RowQuery.Proofs.StoreOperations

/-!
# The session store and its log

The log of a run tells, for each id, whether a session is live under it, what was done with that
session since it was created, and when it was last used. That is all there is to the store: what it
keeps under an id after any run is the session that the log tells of (`get?_run`). From this follow
the data set and the history of a session, what was answered when a data set was cleared, and the
number of sessions (`run_followsLog`).
-/

namespace RowQuery.Store

/-! ## What the log tells -/

/-- The id that was created. -/
def Event.created? (event : Event) : Option String :=
  match event.operation with
  | .create id => some id
  | _ => none

/-- What was done with a session, if it was answered. -/
def Event.use? (id : String) (event : Event) : Option Use :=
  match event.operation, event.answer with
  | .use other usage, .ok _ => if other = id then some usage else none
  | _, _ => none

/-- What is put in place of the data set: another one, or none. -/
def Use.dataset? : Use → Option (Option Dataset)
  | .replaceDataset uploaded => some (some uploaded)
  | .clearDataset => some none
  | _ => none

/-- The query that is recorded. -/
def Use.entry? : Use → Option HistoryEntry
  | .record entry => some entry
  | _ => none

section
variable (id : String)

/-- What was done with a session since it was created, latest first. -/
def usesOf (log : List Event) : List Use :=
  (log.takeWhile fun event => event.created? != some id).filterMap (Event.use? id)

/-- The data set that was put into a session last, none if there was none or it was cleared after that. -/
def latestDataset (log : List Event) : Option Dataset := ((usesOf id log).findSome? Use.dataset?).join

/-- The queries that were recorded in a session, latest first. -/
def recorded (log : List Event) : List HistoryEntry := (usesOf id log).filterMap Use.entry?

/-- When a session was last used, or created. -/
def lastUsed (log : List Event) : Nat :=
  ((log.find? fun event => event.created? == some id || (event.use? id).isSome).map Event.now).getD 0

/-- An id that was created and neither deleted nor swept since. Swept is what has not been used for too
long. -/
def liveIn (timeout : UInt64) : List Event → Bool
  | [] => false
  | event :: earlier =>
    match event.operation with
    | .create other => other == id || liveIn timeout earlier
    | .delete other => other != id && liveIn timeout earlier
    | .removeExpired => liveIn timeout earlier && !outlived timeout event.now (lastUsed id earlier)
    | _ => liveIn timeout earlier

/-- A new session after all that was done with it. -/
def contents (uses : List Use) : Session := uses.foldr Use.change (Session.begin 0)

/-- The session that the log tells of, if its id is live. -/
def told (timeout : UInt64) (log : List Event) : Option Session :=
  if liveIn id timeout log then some { contents (usesOf id log) with lastActivity := lastUsed id log } else none

end

/-! ## One more event -/

section
variable {id : String} {event : Event} {log : List Event}

theorem usesOf_of_created (created : event.created? = some id) : usesOf id (event :: log) = [] := by
  rw [usesOf, List.takeWhile_cons_of_neg (by simp [created])]
  rfl

theorem usesOf_of_not_created (other : event.created? ≠ some id) :
    usesOf id (event :: log) = (event.use? id).toList ++ usesOf id log := by
  rw [usesOf, List.takeWhile_cons_of_pos (by simpa using other), List.filterMap_cons]
  cases event.use? id with
  | none => rfl
  | some usage => rfl

theorem lastUsed_of_touched (touched : event.created? = some id ∨ (event.use? id).isSome = true) :
    lastUsed id (event :: log) = event.now := by
  rw [lastUsed, List.find?_cons_of_pos (by simpa using touched)]
  rfl

theorem lastUsed_of_untouched (other : event.created? ≠ some id) (unused : event.use? id = none) :
    lastUsed id (event :: log) = lastUsed id log := by
  rw [lastUsed, List.find?_cons_of_neg (by simp [other, unused])]
  rfl

theorem told_of_untouched {timeout : UInt64} (other : event.created? ≠ some id) (unused : event.use? id = none) :
    told id timeout (event :: log) =
      if liveIn id timeout (event :: log) then
        some { contents (usesOf id log) with lastActivity := lastUsed id log }
      else none := by
  rw [told, usesOf_of_not_created other, lastUsed_of_untouched other unused, unused]
  rfl

/-- A session may be marked as used before or after it is changed. -/
theorem change_lastActivity (usage : Use) (session : Session) (now : Nat) :
    usage.change { session with lastActivity := now } = { usage.change session with lastActivity := now } := by
  cases usage <;> rfl

variable {timeout : UInt64} (now : Nat)

theorem told_of_created (answer : Except Failure Answer) :
    told id timeout (⟨now, .create id, answer⟩ :: log) = some (Session.begin now) := by
  rw [told, usesOf_of_created rfl, lastUsed_of_touched (.inl rfl), liveIn]
  simp [contents, Session.begin]

/-- A use that is answered marks the session as used and changes it. -/
theorem told_of_used (usage : Use) (answer : Answer) :
    told id timeout (⟨now, .use id usage, .ok answer⟩ :: log) =
      (told id timeout log).map fun session => usage.change { session with lastActivity := now } := by
  have used : Event.use? id ⟨now, .use id usage, .ok answer⟩ = some usage := by simp [Event.use?]
  rw [told, usesOf_of_not_created (by simp [Event.created?]), used, lastUsed_of_touched (.inr (by rw [used]; rfl)),
    liveIn, told]
  cases liveIn id timeout log with
  | false => rfl
  | true => exact congrArg some (change_lastActivity usage _ now).symm

/-- What does not concern a session leaves it as it was. -/
theorem told_of_unconcerned (other : event.created? ≠ some id) (unused : event.use? id = none)
    (same : liveIn id timeout (event :: log) = liveIn id timeout log) :
    told id timeout (event :: log) = told id timeout log := by
  rw [told_of_untouched other unused, same, told]

end

/-- What an operation does to the session that the log tells of is what the longer log tells. -/
theorem told_next {timeout : UInt64} {store : Store} {log : List Event} {id : String}
    (agrees : store.sessions.get? id = told id timeout log) (now : Nat) (operation : Operation) :
    told id timeout (⟨now, operation, (store.apply now operation).1⟩ :: log) =
      operation.on timeout now id (told id timeout log) := by
  cases operation with
  | create other =>
    by_cases same : other = id
    · subst same
      rw [told_of_created, Operation.on, if_pos rfl]
    · rw [Operation.on, if_neg same]
      exact told_of_unconcerned (by simpa [Event.created?] using same) rfl (by simp [liveIn, same])
  | use other usage =>
    rw [Operation.on]
    by_cases same : other = id
    · subst same
      rcases apply_use_cases now store other usage with
        ⟨refused, failed⟩ | ⟨accepted, absent, failed⟩ | ⟨accepted, session, live, answered⟩
      · rw [failed, if_neg (by simp [refused])]
        exact told_of_unconcerned (by simp [Event.created?]) rfl rfl
      · have dead : told other timeout log = none := agrees.symm.trans absent
        rw [failed, if_pos ⟨rfl, accepted⟩, dead]
        exact (told_of_unconcerned (by simp [Event.created?]) rfl rfl).trans dead
      · rw [answered, if_pos ⟨rfl, accepted⟩]
        exact told_of_used now usage _
    · rw [if_neg fun both => same both.1]
      refine told_of_unconcerned (by simp [Event.created?]) ?_ rfl
      cases answer : (store.apply now (.use other usage)).1 <;> simp [Event.use?, same]
  | delete other =>
    rw [told_of_untouched (by simp [Event.created?]) rfl, Operation.on, told]
    by_cases same : other = id <;> simp [liveIn, same]
  | removeExpired =>
    rw [told_of_untouched (by simp [Event.created?]) rfl, Operation.on, told, liveIn]
    cases liveIn id timeout log with
    | false => rfl
    | true => cases swept : outlived timeout now (lastUsed id log) <;> simp [Option.filter, swept]
  | has | expired | count => exact told_of_unconcerned (by simp [Event.created?]) rfl rfl

/-- What is kept under an id after any run is the session that the log tells of. -/
theorem get?_run (minutes : UInt64) (steps : List (Nat × Operation)) (id : String) :
    (run minutes steps).store.sessions.get? id = told id (minutes * 60) (run minutes steps).log := by
  induction steps using List.reverseRecOn with
  | nil => rfl
  | append_singleton steps step ih =>
    rw [get?_run_concat, run_concat, Run.next, ih]
    exact (told_next ih step.1 step.2).symm

theorem has_run (minutes : UInt64) (steps : List (Nat × Operation)) (id : String) :
    (run minutes steps).store.has id = liveIn id (minutes * 60) (run minutes steps).log := by
  rw [has, Keyed.has, get?_run, told]
  cases liveIn id (minutes * 60) (run minutes steps).log <;> rfl

/-! ## Contents -/

theorem dataset_contents (uses : List Use) : (contents uses).dataset = (uses.findSome? Use.dataset?).join := by
  induction uses with
  | nil => rfl
  | cons usage earlier ih =>
    rw [contents] at ih ⊢
    rw [List.findSome?_cons, List.foldr_cons]
    cases usage with
    | replaceDataset | clearDataset => rfl
    | _ => exact ih

theorem history_contents (uses : List Use) :
    (contents uses).history = (uses.filterMap Use.entry?).take Session.historyLimit := by
  induction uses with
  | nil => rfl
  | cons usage earlier ih =>
    rw [contents] at ih ⊢
    rw [List.filterMap_cons, List.foldr_cons]
    cases usage with
    | record entry =>
      simp only [Use.change, Use.entry?, Session.record, ih, Session.historyLimit, List.take_succ_cons, List.take_take]
      rfl
    | _ => exact ih

/-- A session that is live after a run holds what the log tells. -/
theorem contents_run {minutes : UInt64} {steps : List (Nat × Operation)} {id : String} {session : Session}
    (live : (run minutes steps).store.sessions.get? id = some session) :
    session.dataset = latestDataset id (run minutes steps).log ∧
      session.history = (recorded id (run minutes steps).log).take Session.historyLimit := by
  rw [get?_run, told] at live
  split at live
  · cases live
    exact ⟨dataset_contents _, history_contents _⟩
  · cases live

/-! ## Answers within a run -/

/-- Each event of a run was answered by the store as it was after the steps before. -/
theorem exists_step_of_log {minutes : UInt64} {steps : List (Nat × Operation)} {later earlier : List Event}
    {event : Event} (log : (run minutes steps).log = later ++ event :: earlier) :
    ∃ before, (run minutes before).log = earlier ∧
      event.answer = ((run minutes before).store.apply event.now event.operation).1 := by
  induction steps using List.reverseRecOn generalizing later with
  | nil => simp [run] at log
  | append_singleton steps step ih =>
    rw [run_concat, Run.next] at log
    cases later with
    | nil =>
      obtain ⟨rfl, same⟩ := List.cons.inj log
      exact ⟨steps, same, rfl⟩
    | cons last later => exact ih (List.cons.inj log).2

/-- A data set was there to be cleared exactly if the log tells of one. -/
theorem answer_of_clear {minutes : UInt64} {steps : List (Nat × Operation)} {later earlier : List Event}
    {event : Event} {id : String} (log : (run minutes steps).log = later ++ event :: earlier)
    (clears : event.operation = .use id .clearDataset) :
    event.answer = if liveIn id (minutes * 60) earlier then .ok (.told (latestDataset id earlier).isSome)
      else .error (.sessionNotFound id) := by
  obtain ⟨before, rfl, answer⟩ := exists_step_of_log log
  rw [answer, clears, ← has_run, has, Keyed.has]
  rcases apply_use_cases event.now (run minutes before).store id .clearDataset with
    ⟨refused, _⟩ | ⟨_, absent, failed⟩ | ⟨_, session, live, answered⟩
  · cases refused
  · rw [failed, absent]
    rfl
  · rw [answered, live, ← (contents_run live).1]
    rfl

/-! ## How many sessions there are -/

/-- The ids that are live, of all that were created. -/
def liveIds (timeout : UInt64) (log : List Event) : List String :=
  (log.filterMap Event.created?).dedup.filter fun id => liveIn id timeout log

theorem created_of_live {timeout : UInt64} {log : List Event} {id : String} (live : liveIn id timeout log = true) :
    id ∈ log.filterMap Event.created? := by
  induction log with
  | nil => cases live
  | cons event earlier ih =>
    rw [List.filterMap_cons]
    obtain ⟨now, operation, answer⟩ := event
    cases operation with
    | create other =>
      rcases (by simpa [liveIn] using live : other = id ∨ liveIn id timeout earlier = true) with same | before
      · simp [Event.created?, same]
      · exact List.mem_cons_of_mem _ (ih before)
    | delete other => exact ih (by simpa [liveIn] using live : _ ∧ _).2
    | removeExpired => exact ih (by simpa [liveIn] using live : _ ∧ _).1
    | _ => exact ih live

/-- There are as many sessions as ids that were created and neither deleted nor swept since. -/
theorem count_run (minutes : UInt64) (steps : List (Nat × Operation)) :
    (run minutes steps).store.count = (liveIds (minutes * 60) (run minutes steps).log).length := by
  have same : ∀ id, id ∈ (run minutes steps).store.sessions.keys ↔
      id ∈ liveIds (minutes * 60) (run minutes steps).log := by
    intro id
    rw [← Keyed.has_iff_mem_keys, ← has, has_run, liveIds, List.mem_filter, List.mem_dedup]
    exact ⟨fun live => ⟨created_of_live live, live⟩, And.right⟩
  rw [count, ← Keyed.length_keys]
  exact ((List.perm_ext_iff_of_nodup (distinct_run minutes steps) ((List.nodup_dedup _).filter _)).mpr same).length_eq

/-! ## Store and log -/

/-- The store after a run is what the log of the run tells: of every id whether a session is live, of every
session its data set and its history; whether there was a data set whenever one was cleared; that
operations on other sessions do not matter; and how many sessions there are. -/
structure FollowsLog (minutes : UInt64) (steps : List (Nat × Operation)) : Prop where
  live : ∀ id, (run minutes steps).store.has id = liveIn id (minutes * 60) (run minutes steps).log
  contents : ∀ id session, (run minutes steps).store.sessions.get? id = some session →
    session.dataset = latestDataset id (run minutes steps).log ∧
      session.history = (recorded id (run minutes steps).log).take 100
  cleared : ∀ later event earlier id, (run minutes steps).log = later ++ event :: earlier →
    event.operation = .use id .clearDataset →
      event.answer = if liveIn id (minutes * 60) earlier then .ok (.told (latestDataset id earlier).isSome)
        else .error (.sessionNotFound id)
  isolated : ∀ id, (run minutes (steps.filter fun step => !step.2.elsewhere id)).store.sessions.get? id =
    (run minutes steps).store.sessions.get? id
  counted : (run minutes steps).store.count = (liveIds (minutes * 60) (run minutes steps).log).length

/-- Every run follows its log. -/
theorem run_followsLog (minutes : UInt64) (steps : List (Nat × Operation)) : FollowsLog minutes steps where
  live := has_run minutes steps
  contents := fun _ _ live => contents_run live
  cleared := fun _ _ _ _ log clears => answer_of_clear log clears
  isolated := get?_run_elsewhere minutes steps
  counted := count_run minutes steps

end RowQuery.Store
