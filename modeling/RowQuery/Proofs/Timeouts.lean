import Mathlib.Algebra.Group.Nat.Defs
import RowQuery.Proofs.Asking
import RowQuery.Proofs.JsonScalars
import RowQuery.Proofs.StoreLog
import RowQuery.Service.Startup

/-!
# Timeouts

A timeout is given in minutes and kept in seconds, which are counted in 64 bits. Of two stores that are
asked the same at the same readings of the clock, the one with more seconds keeps every session that the
other keeps, and no other store does (`outlasts_iff`). More minutes are more seconds as long as these fit 64
bits (`timed_minutes`); past that the count starts again from zero, and more minutes may come to fewer
seconds (`more_minutes_fewer_seconds`).
-/

namespace RowQuery

namespace Store

/-- Whatever is asked of two stores, and whenever: what is live under the timeout `shorter` is live under the
timeout `longer`, both in minutes. -/
def Outlasts (shorter longer : UInt64) : Prop :=
  ∀ steps id, (run shorter steps).store.has id = true → (run longer steps).store.has id = true

/-! ## Seconds -/

theorem outlived_of_le {shorter longer : UInt64} (more : shorter ≤ longer) {now lastActivity : Nat}
    (gone : outlived longer now lastActivity = true) : outlived shorter now lastActivity = true := by
  have seconds := Nat.mul_le_mul_right second (UInt64.le_iff_toNat_le.mp more)
  simp only [outlived, decide_eq_true_eq] at gone ⊢
  omega

/-- An operation keeps with more seconds what it keeps with fewer. -/
theorem on_of_le {shorter longer : UInt64} (more : shorter ≤ longer) {held kept : Option Session}
    (keeps : ∀ session, held = some session → kept = some session) (now : Nat) (id : String) (operation : Operation)
    {session : Session} (live : operation.on shorter now id held = some session) :
    operation.on longer now id kept = some session := by
  cases operation with
  | create other =>
    rw [Operation.on] at live ⊢
    split at live
    next same => rw [if_pos same, live]
    next apart => rw [if_neg apart, keeps session live]
  | use other usage =>
    rw [Operation.on] at live ⊢
    split at live
    next used =>
      obtain ⟨before, found, changed⟩ := Option.map_eq_some_iff.mp live
      rw [if_pos used, keeps before found, ← changed]
      rfl
    next apart => rw [if_neg apart, keeps session live]
  | delete other =>
    rw [Operation.on] at live ⊢
    split at live
    next => cases live
    next apart => rw [if_neg apart, keeps session live]
  | removeExpired =>
    obtain ⟨found, stays⟩ := Option.filter_eq_some_iff.mp live
    refine Option.filter_eq_some_iff.mpr ⟨keeps session found, ?_⟩
    rw [Bool.not_eq_true', Bool.eq_false_iff] at stays ⊢
    exact fun gone => stays (outlived_of_le more gone)
  | has | expired | count => exact keeps session live

/-- A run keeps with more seconds what it keeps with fewer. -/
theorem get?_run_of_le {shorter longer : UInt64} (more : shorter * 60 ≤ longer * 60) (steps : List (Nat × Operation))
    (id : String) {session : Session} (live : (run shorter steps).store.sessions.get? id = some session) :
    (run longer steps).store.sessions.get? id = some session := by
  induction steps using List.reverseRecOn generalizing session with
  | nil => cases live
  | append_singleton steps step ih =>
    rw [get?_run_concat] at live ⊢
    exact on_of_le more (fun _ before => ih before) step.1 id step.2 live

/-- A session that is swept after some time unused. -/
def idleSteps (nanoseconds : Nat) : List (Nat × Operation) := [(0, .create "a"), (nanoseconds, .removeExpired)]

theorem has_idleSteps (minutes : UInt64) (nanoseconds : Nat) :
    (run minutes (idleSteps nanoseconds)).store.has "a" = !outlived (minutes * 60) nanoseconds 0 := by
  have kept := get?_run_concat minutes [(0, .create "a")] (nanoseconds, .removeExpired) "a"
  have begun : (run minutes [(0, .create "a")]).store.sessions.get? "a" = some (Session.begin 0) := rfl
  rw [begun] at kept
  change (Keyed.get? (run minutes (idleSteps nanoseconds)).store.sessions "a") = _ at kept
  rw [has, Keyed.has, kept, Operation.on, Option.filter, Session.begin]
  cases outlived (minutes * 60) nanoseconds 0 <;> rfl

/-- One timeout outlasts another exactly if it has at least as many seconds. -/
theorem outlasts_iff (shorter longer : UInt64) : Outlasts shorter longer ↔ shorter * 60 ≤ longer * 60 := by
  constructor
  · intro outlasts
    by_contra fewer
    have less : (longer * 60).toNat < (shorter * 60).toNat := by
      simpa [UInt64.le_iff_toNat_le] using fewer
    -- The session is swept when all the seconds of the shorter timeout have just passed.
    have stays : outlived (shorter * 60) ((shorter * 60).toNat * second) 0 = false := by simp [outlived]
    have goes : outlived (longer * 60) ((shorter * 60).toNat * second) 0 = true := by
      simpa [outlived, second] using less
    have still := outlasts (idleSteps ((shorter * 60).toNat * second)) "a" (by rw [has_idleSteps, stays]; rfl)
    rw [has_idleSteps, goes] at still
    cases still
  · intro more steps id live
    obtain ⟨session, found⟩ := Option.isSome_iff_exists.mp live
    rw [has, Keyed.has, get?_run_of_le more steps id found]
    rfl

/-! ## Minutes -/

/-- The most minutes whose seconds fit 64 bits. -/
def mostMinutes : Nat := 307445734561825860

theorem toNat_seconds (minutes : UInt64) : (ofMinutes minutes).timeout.toNat = minutes.toNat * 60 % 2 ^ 64 :=
  UInt64.toNat_mul minutes 60

theorem toNat_seconds_eq_iff (minutes : UInt64) :
    (ofMinutes minutes).timeout.toNat = minutes.toNat * 60 ↔ minutes.toNat ≤ mostMinutes := by
  rw [toNat_seconds, mostMinutes]
  omega

/-- As `2 ^ 62` minutes are `15` times `2 ^ 64` seconds, the count is back at zero for multiples of them, and
only for these. -/
theorem seconds_eq_zero_iff (minutes : UInt64) : (ofMinutes minutes).timeout = 0 ↔ 2 ^ 62 ∣ minutes.toNat := by
  have apart : Nat.Coprime (2 ^ 62) 15 := Nat.Coprime.pow_left 62 (by decide)
  have seconds : minutes.toNat * 60 = minutes.toNat * 15 * 4 := by omega
  have word : 2 ^ 64 = 2 ^ 62 * 4 := by decide
  calc (ofMinutes minutes).timeout = 0 ↔ minutes.toNat * 60 % 2 ^ 64 = 0 := by
        rw [← UInt64.toNat_inj, toNat_seconds]
        rfl
    _ ↔ 2 ^ 62 * 4 ∣ minutes.toNat * 15 * 4 := by rw [Nat.dvd_iff_mod_eq_zero, seconds, word]
    _ ↔ 2 ^ 62 ∣ minutes.toNat * 15 := Nat.mul_dvd_mul_iff_right (by decide)
    _ ↔ 2 ^ 62 ∣ minutes.toNat := ⟨apart.dvd_of_dvd_mul_right, fun divides => Nat.dvd_mul_right_of_dvd divides 15⟩

end Store

/-! ## On the command line -/

/-- Decimal digits are read as the number that they write. -/
theorem Text.baseDigits?_decimal {digits : List Char} (all : ∀ c ∈ digits, c.isDigit = true) (value : Nat) :
    Text.baseDigits? 10 value digits = some (Nat.ofDigitChars 10 digits value) := by
  induction digits generalizing value with
  | nil => rfl
  | cons c rest ih =>
    have digit := all c List.mem_cons_self
    have small : c.toNat - 48 < 10 := by
      have range := Char.isDigit_iff_toNat.mp digit
      simp at range
      omega
    rw [Text.baseDigits?, Text.hexValue?, if_pos digit]
    simp only [small, if_true]
    rw [ih (fun d member => all d (List.mem_cons_of_mem _ member)), Nat.ofDigitChars_cons, Nat.mul_comm]
    rfl

namespace Service

theorem word?_toString {n : Nat} (fits : n < 0x10000000000000000) : word? (toString n) = some n := by
  have written : (toString n).toList = Text.decimalDigits n := by
    rw [Nat.toString_eq_repr, Nat.toList_repr]
    rfl
  obtain ⟨c, more, opened, digit⟩ := Json.exists_head_decimalDigits n
  have noPlus : c ≠ '+' := by
    rintro rfl
    cases digit
  have value : Nat.ofDigitChars 10 (Text.decimalDigits n) 0 = n := Nat.ofDigitChars_ten_toDigits
  have read := Text.baseDigits?_decimal (@Json.isDigit_of_mem_decimalDigits n) 0
  rw [value] at read
  rw [word?, written, Text.baseWord?]
  · simp [Json.decimalDigits_ne_nil, read, Option.filter, fits]
  · intro rest plus
    rw [opened] at plus
    exact noPlus (List.cons.inj plus).1

/-- The service starts with any timeout of 64 bits. -/
theorem start_timeout {text : String} {minutes : UInt64} (read : word? text = some minutes.toNat)
    (content : String → File.Content) :
    ∃ listener, start content ["--session-timeout=" ++ text] = .ok listener ∧ listener.store = .ofMinutes minutes := by
  have joined : Console.Word.ofText ("--session-timeout=" ++ text) = .long "session-timeout" (some text) := by
    simp [Console.Word.ofText]
  have understood : Startup.ofWords ["--session-timeout=" ++ text] =
      .ok ⟨"127.0.0.1", 3335, "*", 10000, minutes, 100, none⟩ := by
    rw [Startup.ofWords, Console.read_joined joined rfl (Console.addValue_of_new rfl (by rw [read]; rfl))]
    simp [Console.Usage.read, Except.map, Startup.ofGiven, givenNumber, Console.Given.nothing, Keyed.put,
      Keyed.get?, read]
  have empty : initialDataset content none = .ok none := rfl
  have host : isHost "127.0.0.1" = true := by decide
  rw [start, understood]
  simp only [Startup.prepare, empty, host]
  exact ⟨_, rfl, rfl⟩

end Service

/-! ## Timeouts in minutes -/

namespace Store

/-- What is true of two timeouts in minutes, whichever they are: the service starts with each; it is counted in
seconds exactly as long as they fit 64 bits; it comes to no time at all only for multiples of `2 ^ 62`
minutes; the one outlasts the other if and only if it has as many seconds of 64 bits; and more minutes outlast
fewer as long as their seconds fit. -/
structure Timed (shorter longer : UInt64) : Prop where
  accepted : ∀ content, ∃ listener,
    Service.start content ["--session-timeout=" ++ toString longer.toNat] = .ok listener ∧
      listener.store = .ofMinutes longer
  counted : (ofMinutes longer).timeout.toNat = longer.toNat * 60 ↔ longer.toNat ≤ mostMinutes
  nothing : (ofMinutes longer).timeout = 0 ↔ 2 ^ 62 ∣ longer.toNat
  outlasts : Outlasts shorter longer ↔ shorter.toNat * 60 % 2 ^ 64 ≤ longer.toNat * 60 % 2 ^ 64
  more : shorter ≤ longer → longer.toNat ≤ mostMinutes → Outlasts shorter longer

theorem timed_minutes (shorter longer : UInt64) : Timed shorter longer := by
  have outlasts : Outlasts shorter longer ↔ shorter.toNat * 60 % 2 ^ 64 ≤ longer.toNat * 60 % 2 ^ 64 := by
    rw [outlasts_iff, UInt64.le_iff_toNat_le, UInt64.toNat_mul, UInt64.toNat_mul]
    rfl
  refine ⟨?_, toNat_seconds_eq_iff longer, seconds_eq_zero_iff longer, outlasts, ?_⟩
  · exact Service.start_timeout (Service.word?_toString longer.toNat_lt)
  · intro more fits
    have minutes := UInt64.le_iff_toNat_le.mp more
    rw [mostMinutes] at fits
    have most : longer.toNat * 60 < 2 ^ 64 := by omega
    have least : shorter.toNat * 60 < 2 ^ 64 := by omega
    rw [outlasts, Nat.mod_eq_of_lt most, Nat.mod_eq_of_lt least]
    exact Nat.mul_le_mul_right 60 minutes

/-- A minute outlasts `2 ^ 62` minutes, which come to no time at all. -/
theorem more_minutes_fewer_seconds :
    (1 : UInt64) ≤ 4611686018427387904 ∧ ¬Outlasts 1 4611686018427387904 ∧
      (ofMinutes 4611686018427387904).timeout = 0 ∧ (run 1 (idleSteps 1)).store.has "a" = true ∧
      (run 4611686018427387904 (idleSteps 1)).store.has "a" = false := by
  have stays : (run 1 (idleSteps 1)).store.has "a" = true := by decide +kernel
  have goes : (run 4611686018427387904 (idleSteps 1)).store.has "a" = false := by decide +kernel
  refine ⟨by decide, ?_, by decide, stays, goes⟩
  intro outlasts
  rw [outlasts _ _ stays] at goes
  cases goes

end Store

end RowQuery
