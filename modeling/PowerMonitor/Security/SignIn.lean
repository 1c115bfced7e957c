import PowerMonitor.Library.SlidingWindow
import Mathlib.Algebra.Order.Ring.Rat
import Mathlib.Logic.Function.Basic
import Mathlib.Data.List.Induction
import Mathlib.Data.List.Infix
import Mathlib.Data.List.Perm.Basic

/-! Signing in with a password, and the throttle on failed attempts.

The route checks the throttle when a request comes and counts a failure when it is answered. In between it waits for
the database, and other requests go on. Audit entries, the new session and its cookies are left out, and clocks are exact.
-/

set_option autoImplicit false
namespace PowerMonitor.Security
open Library

/-- What the route reads of a user and of the credential of its authenticator. -/
structure SignInUser where
  id : String
  isActive : Bool
  passwordHash : String
  confirmedTotpSecret : Option String
  deriving DecidableEq, Repr

/-- A request, the user that the database finds for its email, and the clocks: the monotonic one when the request comes,
the other one when its code is checked. -/
structure LoginCall where
  source : Option String
  email : String
  password : String
  totpCode : Option String := none
  user : Option SignInUser
  now : Rat
  verifiedAt : Rat := 0
  deriving DecidableEq, Repr

inductive LoginOutcome where
  | throttled | invalidCredentials | totpRequired | invalidTotp
  | signedIn (userId : String)
  deriving DecidableEq, Repr

/-- The functions of other packages that the route calls. -/
structure SignInParts where
  lower : String → String
  verifyPassword : String → String → Bool
  verifyTotp : String → String → Rat → Bool

def maxLoginAttempts : Nat := 8

def loginWindow : Rat := 300

/-- `_attempts` -/
abbrev LoginAttempts := String → List Rat

section Login
variable (parts : SignInParts)

/-- `key` in `login` -/
def loginKey (call : LoginCall) : String := call.source.getD "unknown" ++ ":" ++ parts.lower call.email

/-- What `login` answers after the throttle. -/
def checkCredentials (call : LoginCall) : LoginOutcome :=
  match call.user with
  | none => .invalidCredentials
  | some user =>
      if user.isActive = false ∨ parts.verifyPassword user.passwordHash call.password = false then .invalidCredentials
      else match user.confirmedTotpSecret with
        | none => .signedIn user.id
        | some secret => match call.totpCode with
          | none => .totpRequired
          | some code => if parts.verifyTotp secret code call.verifiedAt then .signedIn user.id else .invalidTotp

/-- What the process remembers, the requests that wait for an answer, and the answers given. -/
structure LoginState where
  attempts : LoginAttempts := fun _ => []
  pending : List LoginCall := []
  answers : List (LoginCall × LoginOutcome) := []

/-- A request comes, or the request at an index is answered. -/
inductive LoginEvent where
  | arrive (call : LoginCall)
  | settle (index : Nat)
  deriving DecidableEq, Repr

/-- `while attempts and attempts[0] < now_mono - 300: attempts.popleft()` -/
def recentAttempts (attempts : LoginAttempts) (call : LoginCall) : List Rat :=
  (attempts (loginKey parts call)).dropWhile fun time => time < call.now - loginWindow

/-- `login` up to the lookup of the user. -/
def LoginState.arrive (state : LoginState) (call : LoginCall) : LoginState :=
  let recent := recentAttempts parts state.attempts call
  let pruned := { state with attempts := Function.update state.attempts (loginKey parts call) recent }
  if maxLoginAttempts ≤ recent.length then { pruned with answers := state.answers ++ [(call, .throttled)] }
  else { pruned with pending := state.pending ++ [call] }

/-- The attempts under the key of a request after its answer. -/
def countAnswer (attempts : List Rat) (now : Rat) : LoginOutcome → List Rat
  | .invalidCredentials | .invalidTotp => attempts ++ [now]
  | .signedIn _ => []
  | .totpRequired | .throttled => attempts

/-- The rest of `login`. -/
def LoginState.settle (state : LoginState) (index : Nat) : LoginState :=
  match state.pending[index]? with
  | none => state
  | some call =>
      let outcome := checkCredentials parts call
      let key := loginKey parts call
      { attempts := Function.update state.attempts key (countAnswer (state.attempts key) call.now outcome)
        pending := state.pending.eraseIdx index
        answers := state.answers ++ [(call, outcome)] }

def LoginState.step (state : LoginState) : LoginEvent → LoginState
  | .arrive call => state.arrive parts call
  | .settle index => state.settle parts index

def loginRun (events : List LoginEvent) : LoginState := events.foldl (LoginState.step parts) {}

/-! ## Failures of one key -/

section Key
variable (key : String)

/-- The times of the failed attempts under a key since its last success, as they were answered. -/
def failuresSince (answers : List (LoginCall × LoginOutcome)) : List Rat :=
  answers.foldl (fun failures answer =>
    if loginKey parts answer.1 = key then countAnswer failures answer.1.now answer.2 else failures) []

/-- The requests with a key that wait for an answer. -/
def LoginState.inFlight (state : LoginState) : List LoginCall := state.pending.filter fun call => loginKey parts call = key

/-- The process remembers the failures of the last five minutes. They and the requests in flight are few in any five
minutes. -/
structure Remembers (flight : Nat) (state : LoginState) (now : Rat) : Prop where
  kept : KeptSince (now - loginWindow) (failuresSince parts key state.answers) (state.attempts key)
  few : ∀ start, inWindow loginWindow start (failuresSince parts key state.answers ++
    (state.inFlight parts key).map LoginCall.now) < maxLoginAttempts + flight

variable {parts key} {state : LoginState} {flight index : Nat} {now : Rat} {call : LoginCall}

theorem failuresSince_append (answers : List (LoginCall × LoginOutcome)) (outcome : LoginOutcome) :
    failuresSince parts key (answers ++ [(call, outcome)]) =
      if loginKey parts call = key then countAnswer (failuresSince parts key answers) call.now outcome
      else failuresSince parts key answers := by
  rw [failuresSince, List.foldl_append]
  rfl

/-- The process counts an answer as the record of the failures does. -/
theorem countAnswer_kept {limit : Rat} {failures attempts : List Rat} (kept : KeptSince limit failures attempts) (now : Rat)
    (outcome : LoginOutcome) : KeptSince limit (countAnswer failures now outcome) (countAnswer attempts now outcome) := by
  cases outcome with
  | invalidCredentials => exact kept.append now
  | invalidTotp => exact kept.append now
  | signedIn => exact KeptSince.refl
  | totpRequired => exact kept
  | throttled => exact kept

/-- An answer adds one failure at most. -/
theorem countP_countAnswer_le (window : Rat → Bool) (failures : List Rat) (now : Rat) (outcome : LoginOutcome) :
    (countAnswer failures now outcome).countP window ≤ failures.countP window + if window now then 1 else 0 := by
  cases outcome with
  | invalidCredentials => rw [countAnswer, List.countP_append, List.countP_singleton]
  | invalidTotp => rw [countAnswer, List.countP_append, List.countP_singleton]
  | signedIn => exact Nat.zero_le _
  | totpRequired => exact Nat.le_add_right _ _
  | throttled => exact Nat.le_add_right _ _

/-- Pruning an own or another key leaves what the process has to know. -/
theorem Remembers.prune (held : Remembers parts key flight state now) (later : now ≤ call.now) :
    KeptSince (call.now - loginWindow) (failuresSince parts key state.answers)
      (Function.update state.attempts (loginKey parts call) (recentAttempts parts state.attempts call) key) := by
  have sooner := sub_le_sub_right later loginWindow
  by_cases mine : key = loginKey parts call
  · subst mine
    rw [Function.update_self]
    exact held.kept.prune sooner
  · rw [Function.update_of_ne mine]
    exact held.kept.mono sooner

/-- The failures that the throttle counts start with the first one of the last five minutes. -/
theorem Remembers.recent_eq (held : Remembers parts (loginKey parts call) flight state now) (later : now ≤ call.now) :
    recentAttempts parts state.attempts call =
      (failuresSince parts (loginKey parts call) state.answers).dropWhile fun time => time < call.now - loginWindow :=
  held.kept.dropWhile_eq (sub_le_sub_right later loginWindow)

theorem Remembers.arrive (held : Remembers parts key flight state now) (later : now ≤ call.now)
    (few : ((state.arrive parts call).inFlight parts key).length ≤ flight) :
    Remembers parts key flight (state.arrive parts call) call.now := by
  have pruned := held.prune later
  unfold LoginState.arrive at few ⊢
  dsimp only at few ⊢
  split at few
  · next full =>
    rw [if_pos full]
    have same : failuresSince parts key (state.answers ++ [(call, .throttled)]) = failuresSince parts key state.answers := by
      rw [failuresSince_append, countAnswer, ite_self]
    refine ⟨?_, fun start => ?_⟩
    · rw [same]
      exact pruned
    · rw [same]
      exact held.few start
  · next free =>
    rw [if_neg free]
    refine ⟨pruned, fun start => ?_⟩
    by_cases mine : loginKey parts call = key
    · subst mine
      have joined : (state.pending ++ [call]).filter (fun other => loginKey parts other = loginKey parts call) =
          state.inFlight parts (loginKey parts call) ++ [call] := by
        rw [List.filter_append, LoginState.inFlight, List.filter_singleton, decide_eq_true rfl, cond_true]
      simp only [LoginState.inFlight] at few ⊢
      rw [joined] at few ⊢
      rw [List.map_append]
      refine inWindow_arrive (held.few start) ?_ (by simpa using few)
      rw [← held.recent_eq later]
      exact not_le.mp free
    · have others : (state.pending ++ [call]).filter (fun other => loginKey parts other = key) = state.inFlight parts key := by
        rw [List.filter_append, LoginState.inFlight, List.filter_singleton, decide_eq_false mine, cond_false, List.append_nil]
      simp only [LoginState.inFlight]
      rw [others]
      exact held.few start

/-- An answer moves a request from those in flight to the failures, or lets it go. -/
theorem Remembers.settle (held : Remembers parts key flight state now) : Remembers parts key flight (state.settle parts index) now := by
  unfold LoginState.settle
  split
  · exact held
  next call waits =>
  obtain ⟨inside, same⟩ := List.getElem?_eq_some_iff.mp waits
  have pending : state.pending.Perm (call :: state.pending.eraseIdx index) := by
    rw [← same]
    exact (List.getElem_cons_eraseIdx_perm inside).symm
  have flying := pending.filter fun other => loginKey parts other = key
  refine ⟨?_, fun start => ?_⟩
  · dsimp only
    rw [failuresSince_append]
    by_cases mine : loginKey parts call = key
    · subst mine
      rw [if_pos rfl, Function.update_self]
      exact countAnswer_kept held.kept _ _
    · rw [if_neg mine, Function.update_of_ne (Ne.symm mine)]
      exact held.kept
  · have before := held.few start
    dsimp only [LoginState.inFlight] at before ⊢
    rw [inWindow_append, inWindow, inWindow, (flying.map LoginCall.now).countP_eq] at before
    rw [failuresSince_append]
    by_cases mine : loginKey parts call = key
    · rw [List.filter_cons_of_pos (by simpa using mine), List.map_cons, List.countP_cons] at before
      rw [if_pos mine, inWindow_append, inWindow, inWindow]
      have one := countP_countAnswer_le (fun time => start ≤ time ∧ time ≤ start + loginWindow)
        (failuresSince parts key state.answers) call.now (checkCredentials parts call)
      omega
    · rw [List.filter_cons_of_neg (by simpa using mine)] at before
      rwa [if_neg mine, inWindow_append, inWindow, inWindow]

end Key

/-! ## Runs -/

def LoginEvent.arrival? : LoginEvent → Option LoginCall
  | .arrive call => some call
  | .settle _ => none

/-- The monotonic clock does not go back from one request to the next. -/
def InClockOrder (events : List LoginEvent) : Prop :=
  (events.filterMap LoginEvent.arrival?).Pairwise fun first second : LoginCall => first.now ≤ second.now

instance : DecidablePred InClockOrder := fun events => inferInstanceAs (Decidable (List.Pairwise _ _))

theorem InClockOrder.append {earlier : List LoginEvent} {event : LoginEvent} (ordered : InClockOrder (earlier ++ [event])) :
    InClockOrder earlier ∧ ∀ call, event = .arrive call →
      ∀ other ∈ earlier.filterMap LoginEvent.arrival?, other.now ≤ call.now := by
  rw [InClockOrder, List.filterMap_append] at ordered
  obtain ⟨before, -, precede⟩ := List.pairwise_append.mp ordered
  refine ⟨before, fun call same other member => precede other member call ?_⟩
  rw [same]
  exact List.mem_singleton_self call

variable {parts}

theorem loginRun_append (earlier : List LoginEvent) (event : LoginEvent) :
    loginRun parts (earlier ++ [event]) = (loginRun parts earlier).step parts event := by
  rw [loginRun, List.foldl_append]
  rfl

/-- Requests that come in the order of the clock keep the memory of every key. -/
theorem loginRun_remembers {key : String} {flight : Nat} {events : List LoginEvent} (ordered : InClockOrder events)
    (few : ∀ earlier, earlier <+: events → ((loginRun parts earlier).inFlight parts key).length ≤ flight)
    {now : Rat} (past : ∀ call ∈ events.filterMap LoginEvent.arrival?, call.now ≤ now) :
    Remembers parts key flight (loginRun parts events) now := by
  induction events using List.reverseRecOn generalizing now with
  | nil =>
      refine ⟨KeptSince.refl, fun start => ?_⟩
      change 0 < 8 + flight
      omega
  | append_singleton earlier event ih =>
      obtain ⟨before, precede⟩ := ordered.append
      rw [List.filterMap_append] at past
      have ih {past : Rat} := @ih before (fun first long => few first (long.trans (List.prefix_append ..))) past
      have whole := few _ (List.prefix_refl _)
      rw [loginRun_append] at whole ⊢
      cases event with
      | arrive call =>
          have arrived := (ih (precede call rfl)).arrive le_rfl whole
          have last := past call (List.mem_append_right _ (List.mem_singleton_self call))
          exact ⟨arrived.kept.mono (sub_le_sub_right last _), arrived.few⟩
      | settle index => exact (ih fun other member => past other (List.mem_append_left _ member)).settle

theorem pending_length_le (events : List LoginEvent) : (loginRun parts events).pending.length ≤ events.length := by
  induction events using List.reverseRecOn with
  | nil => exact le_rfl
  | append_singleton earlier event ih =>
      rw [loginRun_append, List.length_append, List.length_singleton]
      cases event with
      | arrive call =>
          simp only [LoginState.step, LoginState.arrive]
          split
          · exact Nat.le_succ_of_le ih
          · rw [List.length_append, List.length_singleton]
            exact Nat.succ_le_succ ih
      | settle index =>
          simp only [LoginState.step, LoginState.settle]
          split
          · exact Nat.le_succ_of_le ih
          · exact (List.length_eraseIdx_le _ _).trans (Nat.le_succ_of_le ih)

end Login

section Throttle
variable (parts : SignInParts) (events : List LoginEvent)

/-- However requests interleave, one is turned away exactly when eight attempts with its address and email have failed
since the last success, from the first of the last five minutes on. -/
theorem sign_in_throttled_iff (call : LoginCall) (ordered : InClockOrder (events ++ [.arrive call])) :
    (loginRun parts (events ++ [.arrive call])).answers = (loginRun parts events).answers ++ [(call, .throttled)] ↔
      8 ≤ ((failuresSince parts (loginKey parts call) (loginRun parts events).answers).dropWhile fun time =>
        time < call.now - 300).length := by
  obtain ⟨before, precede⟩ := ordered.append
  have held := @loginRun_remembers parts (loginKey parts call) events.length events before
    (fun earlier long => (List.length_filter_le _ _).trans ((pending_length_le earlier).trans long.length_le))
    call.now (precede call rfl)
  have recent := held.recent_eq le_rfl
  rw [loginRun_append, LoginState.step, LoginState.arrive]
  dsimp only
  split
  · next full => exact iff_of_true rfl (recent ▸ full)
  · next free => exact iff_of_false (by simp) (recent ▸ free)

/-- In any five minutes without a success, an address tries at most seven wrong passwords or codes for an email beyond
the number of its requests that are ever in flight at once. -/
theorem sign_in_guesses_bounded (key : String) (flight : Nat) (ordered : InClockOrder events)
    (few : ∀ earlier, earlier <+: events → ((loginRun parts earlier).inFlight parts key).length ≤ flight) (start : Rat) :
    ((failuresSince parts key (loginRun parts events).answers).countP fun time => start ≤ time ∧ time ≤ start + 300) ≤
      7 + flight := by
  have past : ∃ now, ∀ call ∈ events.filterMap LoginEvent.arrival?, call.now ≤ now := by
    rcases List.eq_nil_or_concat' (events.filterMap LoginEvent.arrival?) with none | ⟨front, last, split⟩
    · exact ⟨0, by simp [none]⟩
    · rw [InClockOrder, split] at ordered
      rw [split]
      refine ⟨last.now, fun call member => ?_⟩
      rcases List.mem_append.mp member with before | here
      · exact (List.pairwise_append.mp ordered).2.2 call before last (List.mem_singleton_self last)
      · rw [List.mem_singleton.mp here]
  obtain ⟨now, past⟩ := past
  have bound := (loginRun_remembers ordered few past).few start
  rw [inWindow_append, inWindow, loginWindow, maxLoginAttempts] at bound
  omega

end Throttle

/-! ## A forgotten password -/

/-- The stored text is the password, and emails are in lower case. -/
def plainParts : SignInParts where
  lower := id
  verifyPassword := fun stored password => stored = password
  verifyTotp := fun _ _ _ => false

def wrongPassword (now : Rat) : LoginCall :=
  { source := some "192.168.1.20", email := "admin@example.com", password := "guess"
    user := some { id := "admin", isActive := true, passwordHash := "secret", confirmedTotpSecret := none }, now := now }

/-- Eight guesses in as many seconds, two of them at once. -/
def eightGuesses : List LoginEvent :=
  [.arrive (wrongPassword 0), .arrive (wrongPassword 1), .settle 1, .settle 0] ++
    [2, 3, 4, 5, 6, 7].flatMap fun now => [.arrive (wrongPassword now), .settle 0]

theorem sign_in_throttled_ninth : (loginRun plainParts (eightGuesses ++ [.arrive (wrongPassword 300)])).answers =
    (loginRun plainParts eightGuesses).answers ++ [(wrongPassword 300, .throttled)] := by
  refine (sign_in_throttled_iff plainParts eightGuesses (wrongPassword 300) (by decide)).mpr ?_
  decide +kernel

theorem sign_in_guesses_bounded_two : ((failuresSince plainParts "192.168.1.20:admin@example.com"
    (loginRun plainParts eightGuesses).answers).countP fun time => 0 ≤ time ∧ time ≤ 0 + 300) ≤ 9 := by
  refine sign_in_guesses_bounded plainParts eightGuesses "192.168.1.20:admin@example.com" 2 (by decide) ?_ 0
  have checked : ∀ earlier ∈ eightGuesses.inits,
      ((loginRun plainParts earlier).inFlight plainParts "192.168.1.20:admin@example.com").length ≤ 2 := by decide +kernel
  exact fun earlier long => checked earlier ((List.mem_inits earlier eightGuesses).mpr long)

end PowerMonitor.Security
