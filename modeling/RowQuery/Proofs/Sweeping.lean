import RowQuery.Proofs.StoreLog

/-!
# Sweeping

Which sessions have expired is worked out twice: once to list them, and once to remove them. Both come to
the same sessions, namely those that the log last tells of longer ago than the timeout (`mem_expired_run`),
so that a sweep removes what was listed and nothing else, and leaves nothing for another sweep at the
same reading of the clock (`sweeps_of_distinct`). A session that has just been used is never among them
(`not_expired_of_used`).
-/

namespace RowQuery.Store

variable {store : Store} {now : Nat} {id : String}

/-! ## What has expired -/

/-- Listed are the sessions that are live and have expired. -/
theorem mem_expired_iff (distinct : store.Distinct) :
    id ∈ store.expired now ↔ ∃ session, store.sessions.get? id = some session ∧ store.isExpired now session = true := by
  change id ∈ Keyed.keys (store.sessions.filter fun entry => store.isExpired now entry.2) ↔ _
  rw [← Keyed.has_iff_mem_keys, Keyed.has, Keyed.get?_filter distinct, Option.isSome_iff_exists]
  simp only [Option.filter_eq_some_iff]

/-- What is kept under an id after a sweep: what was kept before, unless it has expired. -/
theorem get?_removeExpired (distinct : store.Distinct) :
    (store.removeExpired now).2.sessions.get? id =
      (store.sessions.get? id).filter fun session => !store.isExpired now session :=
  Keyed.get?_filter distinct (fun session => !store.isExpired now session) id

/-- What is not listed stays as it is. -/
theorem get?_removeExpired_of_not_mem (distinct : store.Distinct) (stays : id ∉ store.expired now) :
    (store.removeExpired now).2.sessions.get? id = store.sessions.get? id := by
  rw [get?_removeExpired distinct]
  cases live : store.sessions.get? id with
  | none => rfl
  | some session =>
    have fresh : store.isExpired now session = false := by
      rw [Bool.eq_false_iff]
      exact fun expired => stays ((mem_expired_iff distinct).mpr ⟨session, live, expired⟩)
    simp [Option.filter, fresh]

theorem get?_removeExpired_of_mem (distinct : store.Distinct) (goes : id ∈ store.expired now) :
    (store.removeExpired now).2.sessions.get? id = none := by
  obtain ⟨session, live, expired⟩ := (mem_expired_iff distinct).mp goes
  rw [get?_removeExpired distinct, live]
  simp [Option.filter, expired]

/-! ## How many there are -/

/-- The sessions that are listed and those that stay are all there are. -/
theorem length_expired_add (store : Store) (now : Nat) :
    store.count = (store.removeExpired now).2.count + (store.expired now).length := by
  have parts := store.sessions.length_eq_length_filter_add fun entry => store.isExpired now entry.2
  rw [count, count, expired, List.length_map, parts, Nat.add_comm]
  rfl

theorem removeExpired_number (store : Store) (now : Nat) :
    (store.removeExpired now).1 = (store.expired now).length := by
  have parts := length_expired_add store now
  change store.sessions.length - (store.removeExpired now).2.sessions.length = _
  rw [count, count] at parts
  omega

/-! ## Sweeping again -/

/-- What a sweep leaves has not expired. -/
theorem expired_removeExpired (store : Store) (now : Nat) : (store.removeExpired now).2.expired now = [] := by
  rw [expired, List.map_eq_nil_iff, List.filter_eq_nil_iff]
  intro entry left
  have fresh : store.isExpired now entry.2 = false := by simpa using (List.mem_filter.mp left).2
  exact Bool.eq_false_iff.mp fresh

theorem removeExpired_removeExpired (store : Store) (now : Nat) :
    (store.removeExpired now).2.removeExpired now = (0, (store.removeExpired now).2) := by
  refine Prod.ext ?_ ?_
  · rw [removeExpired_number, expired_removeExpired]
    rfl
  · simp only [removeExpired, List.filter_filter]
    exact congrArg (Store.mk store.timeout) (List.filter_congr fun entry _ => Bool.and_self _)

/-! ## Sessions in use -/

theorem lastActivity_change (usage : Use) (session : Session) :
    (usage.change session).lastActivity = session.lastActivity := by
  cases usage <;> rfl

/-- A session that was used at a reading of the clock has not expired at that reading, whatever the
timeout is. -/
theorem not_expired_of_used (distinct : store.Distinct) {usage : Use} {answer : Answer} {after : Store}
    (used : store.apply now (.use id usage) = (.ok answer, after)) :
    after.has id = true ∧ id ∉ after.expired now := by
  have still : after.Distinct := by
    have kept := distinct_apply now distinct (.use id usage)
    rwa [used] at kept
  have answered : (store.apply now (.use id usage)).1 = .ok answer := by rw [used]
  obtain ⟨_, session, _, kept⟩ := live_of_answer now answered
  rw [used] at kept
  have live : after.sessions.get? id = some (usage.change { session with lastActivity := now }) := by
    rw [kept, Keyed.get?_put_self]
  refine ⟨by simp [has, Keyed.has, live], ?_⟩
  rw [mem_expired_iff still]
  rintro ⟨found, same, expired⟩
  obtain rfl := Option.some.inj (live.symm.trans same)
  rw [isExpired, lastActivity_change] at expired
  simp at expired

/-! ## Sweeps -/

/-- A sweep at a reading of the clock: the sessions `gone` are listed as expired; just these are removed and
counted, and `after` is left; all others are as they were; and nothing is left to be swept at that reading. -/
structure Sweeps (store : Store) (now : Nat) (gone : List String) (after : Store) : Prop where
  listed : store.apply now .expired = (.ok (.ids gone), store)
  distinct : gone.Nodup
  swept : store.apply now .removeExpired = (.ok (.number gone.length), after)
  counted : store.count = after.count + gone.length
  removed : ∀ id, id ∈ gone ↔ store.has id = true ∧ after.has id = false
  others : ∀ id, id ∉ gone → after.sessions.get? id = store.sessions.get? id
  none : after.apply now .expired = (.ok (.ids []), after)
  again : after.apply now .removeExpired = (.ok (.number 0), after)

theorem sweeps_of_distinct (distinct : store.Distinct) :
    Sweeps store now (store.expired now) (store.removeExpired now).2 where
  listed := rfl
  distinct := Keyed.nodup_keys_filter distinct _
  swept := by rw [apply, removeExpired_number]
  counted := length_expired_add store now
  removed := by
    intro id
    constructor
    · intro goes
      obtain ⟨session, live, _⟩ := (mem_expired_iff distinct).mp goes
      simp [has, Keyed.has, live, get?_removeExpired_of_mem distinct goes]
    · rintro ⟨live, dead⟩
      by_contra stays
      rw [has, Keyed.has, get?_removeExpired_of_not_mem distinct stays] at dead
      rw [has, Keyed.has, dead] at live
      cases live
  others := fun id stays => get?_removeExpired_of_not_mem distinct stays
  none := by rw [apply, expired_removeExpired]
  again := by rw [apply, removeExpired_removeExpired]

/-- What has expired after a run is what the log last tells of longer ago than the timeout. -/
theorem mem_expired_run (minutes : UInt64) (steps : List (Nat × Operation)) (now : Nat) (id : String) :
    id ∈ (run minutes steps).store.expired now ↔
      liveIn id (minutes * 60) (run minutes steps).log = true ∧
        outlived (minutes * 60) now (lastUsed id (run minutes steps).log) = true := by
  rw [mem_expired_iff (distinct_run minutes steps), get?_run, told]
  have same (session : Session) : (run minutes steps).store.isExpired now session =
      outlived (minutes * 60) now session.lastActivity := by
    rw [isExpired, timeout_run]
    rfl
  simp only [same]
  split
  next live => simp [live]
  next dead => simp [dead]

/-- After any run and at any reading of the clock, a sweep removes the sessions that have expired and no
others. None that was used at that reading is removed. -/
theorem run_sweeps (minutes : UInt64) (steps : List (Nat × Operation)) (now : Nat) :
    (∃ gone after, Sweeps (run minutes steps).store now gone after ∧
      ∀ id, id ∈ gone ↔ liveIn id (minutes * 60) (run minutes steps).log = true ∧
        outlived (minutes * 60) now (lastUsed id (run minutes steps).log) = true) ∧
      ∀ id usage answer used gone after,
        (run minutes steps).store.apply now (.use id usage) = (.ok answer, used) →
          Sweeps used now gone after → id ∉ gone ∧ after.has id = true := by
  have distinct := distinct_run minutes steps
  constructor
  · exact ⟨_, _, sweeps_of_distinct distinct, mem_expired_run minutes steps now⟩
  · intro id usage answer used gone after answered sweeps
    obtain ⟨live, fresh⟩ := not_expired_of_used distinct answered
    have same : (Except.ok (Answer.ids (used.expired now)), used) = (Except.ok (Answer.ids gone), used) :=
      sweeps.listed
    obtain rfl : used.expired now = gone := by simpa using same
    refine ⟨fresh, ?_⟩
    rw [has, Keyed.has, sweeps.others id fresh]
    exact live

/-- Of two sessions without any time to stay, the one that is used at the reading of the sweep stays. -/
theorem run_sweeps_usedSession :
    let used := ((run 0 [(0, .create "a"), (0, .create "b")]).store.apply 5 (.use "a" .history)).2
    Sweeps used 5 ["b"] (used.removeExpired 5).2 ∧ "a" ∉ ["b"] ∧ (used.removeExpired 5).2.has "a" = true := by
  intro used
  have answered : (run 0 [(0, .create "a"), (0, .create "b")]).store.apply 5 (.use "a" .history) =
      (.ok (.history []), used) := by rfl
  have listed : used.expired 5 = ["b"] := by decide
  have sweeps : Sweeps used 5 ["b"] (used.removeExpired 5).2 :=
    listed ▸ sweeps_of_distinct (show used.sessions.keys.Nodup by decide)
  exact ⟨sweeps, (run_sweeps 0 [(0, .create "a"), (0, .create "b")] 5).2 _ _ _ _ _ _ answered sweeps⟩

end RowQuery.Store
