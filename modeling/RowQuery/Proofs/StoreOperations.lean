import RowQuery.Proofs.Keyed
import RowQuery.Session.Store

/-!
# Operations of the session store

Each operation of the store as a value, so that one can speak of any run of them. An operation on a
session that is found reads and changes that session and marks it as used (`apply_use_cases`).
What is kept under an id after an operation follows from what was kept there before and from nothing
else (`get?_apply`).
-/

namespace RowQuery.Store

/-- What is done with one session. -/
inductive Use where
  | get
  | dataset
  | replaceDataset (dataset : Dataset)
  | clearDataset
  | record (entry : HistoryEntry)
  | history
  | save (name query : String)
  | saved

/-- What the store is asked for. -/
inductive Operation where
  | create (id : String)
  | use (id : String) (use : Use)
  | delete (id : String)
  | has (id : String)
  | expired
  | removeExpired
  | count

/-- What an operation answers. -/
inductive Answer where
  | done
  | created (id : String)
  | session (session : Session)
  | dataset (dataset : Option Dataset)
  | told (truth : Bool)
  | history (entries : List HistoryEntry)
  | saved (queries : Keyed String)
  | ids (ids : List String)
  | number (n : Nat)

/-- The answer of what is done with a session, and the store afterwards. -/
def useSession (store : Store) (now : Nat) (id : String) : Use → Except Failure (Answer × Store)
  | .get => (store.session id now).map fun (session, after) => (.session session, after)
  | .dataset => (store.dataset id now).map fun (dataset, after) => (.dataset dataset, after)
  | .replaceDataset dataset => (store.replaceDataset id now dataset).map fun after => (.done, after)
  | .clearDataset => (store.clearDataset id now).map fun (held, after) => (.told held, after)
  | .record entry => (store.record id now entry).map fun after => (.done, after)
  | .history => (store.history id now).map fun (entries, after) => (.history entries, after)
  | .save name query => (store.save id now name query).map fun after => (.done, after)
  | .saved => (store.saved id now).map fun (queries, after) => (.saved queries, after)

/-- The answer of an operation, and the store afterwards. -/
def apply (store : Store) (now : Nat) : Operation → Except Failure Answer × Store
  | .create id => (.ok (.created id), store.create id now)
  | .use id use =>
    match store.useSession now id use with
    | .ok (answer, after) => (.ok answer, after)
    | .error failure => (.error failure, store)
  | .delete id => (.ok (.told (store.delete id).1), (store.delete id).2)
  | .has id => (.ok (.told (store.has id)), store)
  | .expired => (.ok (.ids (store.expired now)), store)
  | .removeExpired => (.ok (.number (store.removeExpired now).1), (store.removeExpired now).2)
  | .count => (.ok (.number store.count), store)

/-! ## Using a session -/

/-- A use that is refused, whether the session is live or not. -/
def Use.refused : Use → Bool
  | .save name _ => Text.trimmed name = ""
  | _ => false

/-- What a use makes of the session. -/
def Use.change : Use → Session → Session
  | .replaceDataset uploaded, session => { session with dataset := some uploaded }
  | .clearDataset, session => { session with dataset := none }
  | .record entry, session => session.record entry
  | .save name query, session => session.save (Text.trimmed name) query
  | _, session => session

/-- What a use tells of the session. -/
def Use.tell : Use → Session → Answer
  | .get, session => .session session
  | .dataset, session => .dataset session.dataset
  | .clearDataset, session => .told session.dataset.isSome
  | .history, session => .history session.history
  | .saved, session => .saved session.saved
  | _, _ => .done

variable (now : Nat)

/-- A session that is found is marked as used, told of, and changed. -/
theorem useSession_eq (store : Store) (id : String) (use : Use) :
    store.useSession now id use =
      if use.refused then .error (.validation "Saved query name must not be empty")
      else (store.get id now).map fun session =>
        (use.tell session, { store with sessions := store.sessions.put id (use.change session) }) := by
  cases use with
  | save name query =>
    rw [useSession, Store.save, Use.refused]
    by_cases blank : Text.trimmed name = ""
    · simp only [blank, decide_true, ↓reduceIte]
      rfl
    · simp only [blank, decide_false, Bool.false_eq_true, ↓reduceIte, update]
      cases store.get id now <;> rfl
  | replaceDataset | record =>
    simp only [useSession, Store.replaceDataset, Store.record, update]
    cases store.get id now <;> rfl
  | clearDataset =>
    rw [useSession, Store.clearDataset]
    cases store.get id now <;> rfl
  | get | dataset | history | saved =>
    simp only [useSession, Store.session, Store.dataset, Store.history, Store.saved, view]
    cases store.get id now <;> rfl

/-! ## What an operation does to one session -/

/-- A session that was last used too long ago. -/
def outlived (timeout : UInt64) (now lastActivity : Nat) : Bool := timeout.toNat * second < now - lastActivity

/-- What is kept under an id after an operation, by what was kept there before. -/
def Operation.on (timeout : UInt64) (now : Nat) (id : String) (held : Option Session) :
    Operation → Option Session
  | .create other => if other = id then some (Session.begin now) else held
  | .use other usage =>
    if other = id ∧ usage.refused = false then
      held.map fun session => usage.change { session with lastActivity := now }
    else held
  | .delete other => if other = id then none else held
  | .removeExpired => held.filter fun session => !outlived timeout now session.lastActivity
  | .has _ | .expired | .count => held

/-- A store in which no id stands twice. -/
def Distinct (store : Store) : Prop := store.sessions.keys.Nodup

/-- A use fails and changes nothing, or is answered and changes the session that was found. -/
theorem apply_use_cases (store : Store) (id : String) (use : Use) :
    (use.refused = true ∧ store.apply now (.use id use) =
        (.error (.validation "Saved query name must not be empty"), store)) ∨
      (use.refused = false ∧ store.sessions.get? id = none ∧
        store.apply now (.use id use) = (.error (.sessionNotFound id), store)) ∨
      (use.refused = false ∧ ∃ session, store.sessions.get? id = some session ∧
        store.apply now (.use id use) =
          (.ok (use.tell { session with lastActivity := now }),
            { store with
              sessions := store.sessions.put id (use.change { session with lastActivity := now }) })) := by
  rw [apply, useSession_eq]
  cases refused : use.refused with
  | true => exact .inl ⟨rfl, rfl⟩
  | false =>
    cases live : store.sessions.get? id with
    | none => exact .inr (.inl ⟨rfl, rfl, by rw [Store.get, live]; rfl⟩)
    | some session => exact .inr (.inr ⟨rfl, session, rfl, by rw [Store.get, live]; rfl⟩)

theorem apply_save_of_blank (store : Store) (id : String) {name : String}
    (blank : Text.trimmed name = "") (query : String) :
    store.apply now (.use id (.save name query)) =
      (.error (.validation "Saved query name must not be empty"), store) := by
  have refused : (Use.save name query).refused = true := by simp [Use.refused, blank]
  rcases apply_use_cases now store id (.save name query) with ⟨_, failed⟩ | ⟨accepted, _⟩ | ⟨accepted, _⟩
  · exact failed
  · simp [refused] at accepted
  · simp [refused] at accepted

/-- A use that is not refused is answered by a live session. -/
theorem answer_of_live {store : Store} {id : String} {session : Session}
    (live : store.sessions.get? id = some session) {usage : Use} (accepted : usage.refused = false) :
    (store.apply now (.use id usage)).1 = .ok (usage.tell { session with lastActivity := now }) := by
  rcases apply_use_cases now store id usage with ⟨refused, _⟩ | ⟨_, absent, _⟩ | ⟨_, found, same, answered⟩
  · rw [accepted] at refused
    cases refused
  · rw [live] at absent
    cases absent
  · rw [live] at same
    cases same
    rw [answered]

/-- Whatever is answered comes from a session that was live, and it is kept as the use changes it. -/
theorem live_of_answer {store : Store} {id : String} {usage : Use} {answer : Answer}
    (answered : (store.apply now (.use id usage)).1 = .ok answer) :
    usage.refused = false ∧ ∃ session, store.sessions.get? id = some session ∧
      (store.apply now (.use id usage)).2.sessions =
        store.sessions.put id (usage.change { session with lastActivity := now }) := by
  rcases apply_use_cases now store id usage with ⟨_, failed⟩ | ⟨_, _, failed⟩ | ⟨accepted, session, live, changed⟩
  · rw [failed] at answered
    cases answered
  · rw [failed] at answered
    cases answered
  · exact ⟨accepted, session, live, by rw [changed]⟩

theorem timeout_apply (store : Store) (operation : Operation) :
    (store.apply now operation).2.timeout = store.timeout := by
  cases operation with
  | use other use =>
    rcases apply_use_cases now store other use with ⟨_, same⟩ | ⟨_, _, same⟩ | ⟨_, _, _, changed⟩
    · rw [same]
    · rw [same]
    · rw [changed]
  | _ => rfl

theorem distinct_apply {store : Store} (distinct : store.Distinct) (operation : Operation) :
    (store.apply now operation).2.Distinct := by
  cases operation with
  | create other => exact Keyed.nodup_keys_put distinct other _
  | use other use =>
    rcases apply_use_cases now store other use with ⟨_, same⟩ | ⟨_, _, same⟩ | ⟨_, _, _, changed⟩
    · rwa [same]
    · rwa [same]
    · rw [changed]
      exact Keyed.nodup_keys_put distinct other _
  | delete other => exact Keyed.nodup_keys_filter distinct _
  | removeExpired => exact Keyed.nodup_keys_filter distinct _
  | has | expired | count => exact distinct

/-- What is kept under an id after an operation follows from what was kept there before. -/
theorem get?_apply {store : Store} (distinct : store.Distinct) (operation : Operation) (id : String) :
    (store.apply now operation).2.sessions.get? id =
      operation.on store.timeout now id (store.sessions.get? id) := by
  cases operation with
  | create other => exact Keyed.get?_put _ _ _ _
  | use other use =>
    rw [Operation.on]
    rcases apply_use_cases now store other use with
      ⟨refused, same⟩ | ⟨accepted, absent, same⟩ | ⟨accepted, session, live, changed⟩
    · rw [same, if_neg (by simp [refused])]
    · rw [same]
      by_cases here : other = id
      · rw [if_pos ⟨here, accepted⟩, ← here, absent]
        rfl
      · rw [if_neg fun both => here both.1]
    · rw [changed]
      dsimp only
      rw [Keyed.get?_put]
      by_cases here : other = id
      · rw [if_pos here, if_pos ⟨here, accepted⟩, ← here, live]
        rfl
      · rw [if_neg here, if_neg fun both => here both.1]
  | delete other => exact Keyed.get?_erase _ _ _
  | removeExpired =>
    exact Keyed.get?_filter distinct (fun session => !outlived store.timeout now session.lastActivity) id
  | has | expired | count => rfl

/-! ## Runs -/

/-- An operation that was asked for, when, and the answer to it. -/
structure Event where
  now : Nat
  operation : Operation
  answer : Except Failure Answer

/-- The store, and all that was asked of it and answered, latest first. -/
structure Run where
  store : Store
  log : List Event

/-- The run after one more operation. -/
def Run.next (run : Run) (step : Nat × Operation) : Run where
  store := (run.store.apply step.1 step.2).2
  log := ⟨step.1, step.2, (run.store.apply step.1 step.2).1⟩ :: run.log

/-- The run of operations, each at a reading of the clock, from a start without sessions. -/
def run (minutes : UInt64) (steps : List (Nat × Operation)) : Run :=
  steps.foldl Run.next ⟨.ofMinutes minutes, []⟩

section
variable (minutes : UInt64) (steps : List (Nat × Operation))

theorem run_concat (step : Nat × Operation) : run minutes (steps ++ [step]) = (run minutes steps).next step := by
  rw [run, List.foldl_append]
  rfl

theorem timeout_run : (run minutes steps).store.timeout = minutes * 60 := by
  induction steps using List.reverseRecOn with
  | nil => rfl
  | append_singleton steps step ih =>
    rw [run_concat, Run.next, timeout_apply]
    exact ih

theorem distinct_run : (run minutes steps).store.Distinct := by
  induction steps using List.reverseRecOn with
  | nil => exact List.nodup_nil
  | append_singleton steps step ih =>
    rw [run_concat]
    exact distinct_apply step.1 ih step.2

/-- What is kept under an id after one more operation of a run. -/
theorem get?_run_concat (step : Nat × Operation) (id : String) :
    (run minutes (steps ++ [step])).store.sessions.get? id =
      step.2.on (minutes * 60) step.1 id ((run minutes steps).store.sessions.get? id) := by
  rw [run_concat, ← timeout_run minutes steps]
  exact get?_apply step.1 (distinct_run minutes steps) step.2 id

end

/-! ## Operations on other sessions -/

/-- An operation that is addressed to another session and does not decide which ids are live. -/
def Operation.elsewhere (id : String) : Operation → Bool
  | .use other _ | .has other => other != id
  | _ => false

theorem on_of_elsewhere {id : String} {operation : Operation} (elsewhere : operation.elsewhere id = true)
    (timeout : UInt64) (held : Option Session) : operation.on timeout now id held = held := by
  cases operation with
  | use other use =>
    have apart : other ≠ id := by simpa [Operation.elsewhere] using elsewhere
    rw [Operation.on, if_neg fun both => apart both.1]
  | has other => rfl
  | _ => cases elsewhere

/-- What is kept under an id is the same without the operations on other sessions. -/
theorem get?_run_elsewhere (minutes : UInt64) (steps : List (Nat × Operation)) (id : String) :
    (run minutes (steps.filter fun step => !step.2.elsewhere id)).store.sessions.get? id =
      (run minutes steps).store.sessions.get? id := by
  induction steps using List.reverseRecOn with
  | nil => rfl
  | append_singleton steps step ih =>
    rw [List.filter_append, List.filter_singleton, get?_run_concat, ← ih]
    cases elsewhere : step.2.elsewhere id with
    | true =>
      rw [on_of_elsewhere step.1 elsewhere]
      exact congrArg (fun kept => (run minutes kept).store.sessions.get? id) (List.append_nil _)
    | false => exact get?_run_concat minutes _ step id

end RowQuery.Store
