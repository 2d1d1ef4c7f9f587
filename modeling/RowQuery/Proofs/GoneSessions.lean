import RowQuery.Proofs.StoreLog

/-!
# Sessions that are gone

Whatever is asked of an id that is not live is refused or denied, and the store stays as it is
(`refuses_of_absent`). No operation but its creation makes such an id live (`absent_run`), and a
store in which an id is not live is the store of the run in which that id was never mentioned
(`store_run_of_absent`). So a session that was deleted or swept leaves nothing behind that could
come up in a later answer (`run_forgets`).
-/

namespace RowQuery.Store

/-! ## Asking for a session that is not live -/

/-- A store that finds no session under an id: each use of it fails for that reason, unless it fails
already because a query was to be saved under a blank name, and nothing is changed. -/
structure Refuses (store : Store) (id : String) : Prop where
  used : ∀ now (use : Use), (∀ name query, use = .save name query → Text.trimmed name ≠ "") →
    store.apply now (.use id use) = (.error (.sessionNotFound id), store)
  unnamed : ∀ now name query, Text.trimmed name = "" →
    store.apply now (.use id (.save name query)) =
      (.error (.validation "Saved query name must not be empty"), store)
  has : ∀ now, store.apply now (.has id) = (.ok (.told false), store)
  delete : ∀ now, store.apply now (.delete id) = (.ok (.told false), store)

/-- A use is refused outright only if it saves a query under a blank name. -/
theorem refused_eq_false {use : Use}
    (named : ∀ name query, use = .save name query → Text.trimmed name ≠ "") : use.refused = false := by
  cases use with
  | save name query => simpa [Use.refused] using named name query rfl
  | _ => rfl

theorem has_of_absent {store : Store} {id : String} (absent : store.sessions.get? id = none) :
    store.has id = false := by
  simp [has, Keyed.has, absent]

theorem absent_of_has {store : Store} {id : String} (dead : store.has id = false) :
    store.sessions.get? id = none := by
  simpa [has, Keyed.has] using dead

/-- A session that is not live can be taken out of the store without a change. -/
theorem delete_of_absent {store : Store} {id : String} (absent : store.sessions.get? id = none) :
    store.delete id = (false, store) := by
  rw [delete, has_of_absent absent, Keyed.erase_of_get? absent]

theorem refuses_of_absent {store : Store} {id : String} (absent : store.sessions.get? id = none) :
    Refuses store id := by
  refine ⟨?_, ?_, ?_, ?_⟩
  · intro now use named
    rcases apply_use_cases now store id use with ⟨refused, _⟩ | ⟨_, _, failed⟩ | ⟨_, session, live, _⟩
    · rw [refused_eq_false named] at refused
      cases refused
    · exact failed
    · rw [absent] at live
      cases live
  · intro now name query blank
    exact apply_save_of_blank now store id blank query
  · intro now
    rw [apply, has_of_absent absent]
  · intro now
    rw [apply, delete_of_absent absent]

/-! ## Not live, for ever -/

/-- Only its creation puts a session under an id where there is none. -/
theorem on_absent {operation : Operation} {id : String} (other : operation ≠ .create id) (timeout : UInt64)
    (now : Nat) : operation.on timeout now id none = none := by
  cases operation with
  | create key =>
    have apart : key ≠ id := fun same => other (congrArg Operation.create same)
    simp [Operation.on, apart]
  | use | delete => simp [Operation.on]
  | has | expired | removeExpired | count => rfl

/-- An id that is not live stays so as long as it is not created. -/
theorem absent_run {minutes : UInt64} {before later : List (Nat × Operation)} {id : String}
    (absent : (run minutes before).store.sessions.get? id = none)
    (uncreated : ∀ step ∈ later, step.2 ≠ .create id) :
    (run minutes (before ++ later)).store.sessions.get? id = none := by
  induction later using List.reverseRecOn with
  | nil => simpa using absent
  | append_singleton later step ih =>
    have earlier := ih fun step member => uncreated step (List.mem_append_left _ member)
    rw [← List.append_assoc, get?_run_concat, earlier]
    exact on_absent (uncreated step (by simp)) _ _

/-! ## Without a trace -/

/-- An operation that mentions an id. -/
def Operation.mentions (id : String) : Operation → Bool
  | .create other | .use other _ | .delete other | .has other => other == id
  | .expired | .removeExpired | .count => false

/-- The store without a session. -/
def without (store : Store) (id : String) : Store := { store with sessions := store.sessions.erase id }

/-- What a use leaves: the session that is found is changed, unless the use is refused. -/
theorem store_apply_use (store : Store) (now : Nat) (id : String) (use : Use) :
    (store.apply now (.use id use)).2 =
      { store with
        sessions :=
          if use.refused then store.sessions
          else store.sessions.change id fun session => use.change { session with lastActivity := now } } := by
  rcases apply_use_cases now store id use with
    ⟨refused, failed⟩ | ⟨accepted, absent, failed⟩ | ⟨accepted, session, live, answered⟩
  · simp [refused, failed]
  · simp [accepted, failed, Keyed.change, absent]
  · simp [accepted, answered, Keyed.change, live]

/-- A session may be left out before an operation that does not mention it as well as after it. -/
theorem without_apply_of_elsewhere (store : Store) (now : Nat) {operation : Operation} {id : String}
    (elsewhere : operation.mentions id = false) :
    (store.apply now operation).2.without id = ((store.without id).apply now operation).2 := by
  cases operation with
  | create other =>
    have apart : other ≠ id := by simpa [Operation.mentions] using elsewhere
    simp only [apply, create, without, Keyed.erase_put_of_ne _ _ apart]
  | use other use =>
    have apart : other ≠ id := by simpa [Operation.mentions] using elsewhere
    rw [store_apply_use, store_apply_use, without, without]
    by_cases refused : use.refused = true
    · simp only [refused, ↓reduceIte]
    · simp only [refused, Bool.false_eq_true, ↓reduceIte, Keyed.erase_change_of_ne _ _ apart]
  | delete other => simp only [apply, delete, without, Keyed.erase, List.filter_comm]
  | removeExpired => simp only [apply, removeExpired, without, Keyed.erase_filter]; rfl
  | has | expired | count => rfl

/-- An operation that mentions a session changes no other. -/
theorem without_apply_of_mentions (store : Store) (now : Nat) {operation : Operation} {id : String}
    (mentions : operation.mentions id = true) : (store.apply now operation).2.without id = store.without id := by
  cases operation with
  | create other =>
    obtain rfl : other = id := by simpa [Operation.mentions] using mentions
    simp only [apply, create, without, Keyed.erase_put_self]
  | use other use =>
    obtain rfl : other = id := by simpa [Operation.mentions] using mentions
    rw [store_apply_use, without, without]
    by_cases refused : use.refused = true
    · simp only [refused, ↓reduceIte]
    · simp only [refused, Bool.false_eq_true, ↓reduceIte, Keyed.erase_change_self]
  | delete other =>
    obtain rfl : other = id := by simpa [Operation.mentions] using mentions
    simp only [apply, delete, without, Keyed.erase_erase]
  | has => rfl
  | expired | removeExpired | count => cases mentions

/-- Apart from one session, a run leaves the store that it leaves without the operations that mention that
session. -/
theorem without_run (minutes : UInt64) (steps : List (Nat × Operation)) (id : String) :
    (run minutes steps).store.without id =
      (run minutes (steps.filter fun step => !step.2.mentions id)).store := by
  induction steps using List.reverseRecOn with
  | nil => rfl
  | append_singleton steps step ih =>
    rw [List.filter_append, List.filter_singleton, run_concat, Run.next]
    dsimp only
    cases mentioned : step.2.mentions id with
    | true =>
      rw [without_apply_of_mentions _ _ mentioned, ih]
      exact congrArg (fun kept => (run minutes kept).store) (List.append_nil _).symm
    | false =>
      rw [without_apply_of_elsewhere _ _ mentioned, ih]
      exact congrArg Run.store (run_concat minutes _ step).symm

/-- A store in which an id is not live is the one of the run in which it was never mentioned. -/
theorem store_run_of_absent {minutes : UInt64} {steps : List (Nat × Operation)} {id : String}
    (absent : (run minutes steps).store.sessions.get? id = none) :
    (run minutes steps).store = (run minutes (steps.filter fun step => !step.2.mentions id)).store := by
  rw [← without_run, without, Keyed.erase_of_get? absent]

/-! ## Removed sessions -/

/-- An operation that removes a session: the session is deleted, or it is swept. -/
inductive Removes (id : String) (store : Store) : Nat × Operation → Prop
  | deleted {now : Nat} (found : (store.apply now (.delete id)).1 = .ok (.told true)) :
    Removes id store (now, .delete id)
  | swept {now : Nat} (live : store.has id = true)
    (gone : (store.apply now .removeExpired).2.has id = false) : Removes id store (now, .removeExpired)

/-- The answers to operations one after the other. -/
def answers (store : Store) : List (Nat × Operation) → List (Except Failure Answer)
  | [] => []
  | step :: later => (store.apply step.1 step.2).1 :: (store.apply step.1 step.2).2.answers later

/-- How a run goes on after a session has been removed: the id is not live, whatever is asked of it is
refused or denied, and all answers on the way are those of a run in which the id was not mentioned
before. -/
structure StaysGone (minutes : UInt64) (id : String) (before later : List (Nat × Operation)) : Prop where
  dead : liveIn id (minutes * 60) (run minutes (before ++ later)).log = false
  refuses : Refuses (run minutes (before ++ later)).store id
  unseen : (run minutes before).store.answers later =
    (run minutes (before.filter fun step => !step.2.mentions id)).store.answers later

theorem absent_of_removes {minutes : UInt64} {steps : List (Nat × Operation)} {id : String}
    {removal : Nat × Operation} (removes : Removes id (run minutes steps).store removal) :
    (run minutes (steps ++ [removal])).store.sessions.get? id = none := by
  rw [run_concat, Run.next]
  cases removes with
  | deleted found => exact (Keyed.get?_erase _ id id).trans (if_pos rfl)
  | swept live gone => exact absent_of_has gone

/-- After any run, an id that is not live is refused, and the store stays as it is. A session that is
removed stays gone, however the run goes on, as long as its id is not created again. -/
theorem run_forgets (minutes : UInt64) (steps : List (Nat × Operation)) (id : String) :
    (liveIn id (minutes * 60) (run minutes steps).log = false → Refuses (run minutes steps).store id) ∧
      ∀ removal later, Removes id (run minutes steps).store removal → (∀ step ∈ later, step.2 ≠ .create id) →
        StaysGone minutes id (steps ++ [removal]) later := by
  constructor
  · intro dead
    rw [← has_run] at dead
    exact refuses_of_absent (absent_of_has dead)
  · intro removal later removes uncreated
    have absent := absent_of_removes removes
    have still := absent_run absent uncreated
    refine ⟨?_, refuses_of_absent still, ?_⟩
    · rw [← has_run]
      exact has_of_absent still
    · rw [← store_run_of_absent absent]

/-- A session in which a query is saved. -/
def savingSteps : List (Nat × Operation) := [(0, .create "a"), (1, .use "a" (.save "all" "select n"))]

/-- It is swept when it has not been used for half an hour, and another session begins. -/
theorem run_forgets_savingSteps :
    Refuses (run 30 savingSteps).store "b" ∧
      StaysGone 30 "a" (savingSteps ++ [(1800000000002, .removeExpired)])
        [(1800000000003, .create "b"), (1800000000004, .use "b" .saved)] := by
  have dead : liveIn "b" (30 * 60) (run 30 savingSteps).log = false := by decide +kernel
  have swept : Removes "a" (run 30 savingSteps).store (1800000000002, .removeExpired) :=
    .swept (by decide +kernel) (by decide +kernel)
  constructor
  · exact (run_forgets 30 savingSteps "b").1 dead
  · exact (run_forgets 30 savingSteps "a").2 _ _ swept (by simp)

end RowQuery.Store
