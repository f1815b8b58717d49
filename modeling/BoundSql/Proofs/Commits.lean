import BoundSql.Proofs.Exchanges
import BoundSql.Proofs.RetryHistory

/-! # One commit at most

A transaction that is run again because it was in the way of another one leaves
nothing behind: of all that is asked of the server in a run, the last request alone
may be a commit that is granted, and then the run tells the value of the body. -/
set_option autoImplicit false
namespace BoundSql

/-- The server reports that transactions were in each other's way. -/
def DriverError.IsConflict (e : DriverError) : Prop := ∃ s, e = .server s ∧ s.code = "40001"

theorem ofDriver_conflict_iff (e : DriverError) :
    (∃ message, Failure.ofDriver e = .serializationFailure message) ↔ e.IsConflict := by
  cases e with
  | closed => simp [Failure.ofDriver, DriverError.IsConflict]
  | unsendable => simp [Failure.ofDriver, DriverError.IsConflict]
  | server s =>
    have code : DriverError.IsConflict (.server s) ↔ s.code = "40001" := by
      simp [DriverError.IsConflict]
    rw [code, Failure.ofDriver, ServerError.classify?]
    by_cases unique : s.code = "23505"
    · simp [unique]
    · by_cases foreign : s.code = "23503"
      · simp [foreign]
      · by_cases check : s.code = "23514"
        · simp [check]
        · by_cases conflict : s.code = "40001"
          · simp [conflict]
          · simp [unique, foreign, check, conflict]

theorem verdict_error_again_iff {α : Type} (failure : Failure) :
    (∃ cause, verdict (.error failure : Except Failure α) = .again cause) ↔
      ∃ message, failure = .serializationFailure message := by
  cases failure <;> simp [verdict, Failure.isSerializationFailure]

section Courses
variable {α : Type}

/-- The start, the body of a transaction that was rolled back, or the commit met
another transaction. -/
def Course.Conflicts : Course α → Prop
  | .unstarted cause => cause.IsConflict
  | .succeeded _ (.ok ()) => False
  | .succeeded _ (.error e) => e.IsConflict
  | .failed failure (.ok ()) => ∃ message, failure = .serializationFailure message
  | .failed _ (.error _) => False

/-- Another attempt is asked for exactly by conflicts. -/
theorem Course.again_iff (course : Course α) :
    (∃ cause, verdict course.outcome = .again cause) ↔ course.Conflicts := by
  match course with
  | .unstarted cause =>
    exact (verdict_error_again_iff _).trans (ofDriver_conflict_iff cause)
  | .succeeded value (.ok ()) => simp [outcome, verdict, Conflicts]
  | .succeeded value (.error e) =>
    exact (verdict_error_again_iff _).trans (ofDriver_conflict_iff e)
  | .failed failure (.ok ()) => exact verdict_error_again_iff failure
  | .failed failure (.error e) =>
    refine (verdict_error_again_iff _).trans ?_
    simp [Conflicts]

/-- A value comes from a body that succeeded and a commit that was granted. -/
theorem Course.outcome_eq_ok_iff (course : Course α) (value : α) :
    course.outcome = .ok value ↔ course = .succeeded value (.ok ()) := by
  match course with
  | .unstarted cause => simp [outcome]
  | .succeeded other (.ok ()) => simp [outcome]
  | .succeeded other (.error e) => simp [outcome]
  | .failed failure (.ok ()) => simp [outcome]
  | .failed failure (.error e) => simp [outcome]

theorem verdict_eq_done_some_iff (result : Except Failure α) (value : α) :
    verdict result = .done (.ok (some value)) ↔ result = .ok value := by
  match result with
  | .ok other => simp [verdict]
  | .error failure => cases failure <;> simp [verdict, Failure.isSerializationFailure]

end Courses

section Runs
variable {α : Type} {start : String} (starts : start ≠ "COMMIT")

theorem not_commits_of_isStatement {x : Exchange} (h : x.request.IsStatement) : ¬ x.Commits := by
  intro commits
  rw [commits.1] at h
  exact h

theorem not_commits_of_command {x : Exchange} {text : String} (h : x.request = .command text)
    (other : text ≠ "COMMIT") : ¬ x.Commits := by
  intro commits
  exact other (Request.command.inj (h.symm.trans commits.1))

include starts

theorem not_commits_opening {first : Exchange} {statements : List Exchange}
    (opened : first.request = .command start) (inside : ∀ x ∈ statements, x.request.IsStatement) :
    ∀ y ∈ first :: statements, ¬ y.Commits :=
  List.forall_mem_cons.mpr
    ⟨not_commits_of_command opened starts,
      fun y member => not_commits_of_isStatement (inside y member)⟩

/-- An attempt ends with a commit that is granted, or has none. -/
theorem AttemptRecord.Follows.commits {a : AttemptRecord α} (h : a.Follows start) :
    (∃ value x rest, a.course = .succeeded value (.ok ()) ∧ a.exchanges = rest ++ [x] ∧
        ∀ y ∈ rest, ¬ y.Commits) ∨
      ((∀ value, a.course ≠ .succeeded value (.ok ())) ∧ ∀ y ∈ a.exchanges, ¬ y.Commits) := by
  cases h with
  | @unstarted first cleanup cause opened refused closed =>
    refine Or.inr ⟨by simp, List.forall_mem_cons.mpr ⟨not_commits_of_command opened starts, ?_⟩⟩
    exact List.forall_mem_singleton.mpr (not_commits_of_command closed (by decide))
  | @succeeded first commit statements value answer opened granted inside closed answered =>
    have before := not_commits_opening starts opened inside
    cases answer with
    | ok granted => exact Or.inl ⟨value, commit, first :: statements, rfl, rfl, before⟩
    | error e =>
      refine Or.inr ⟨by simp, List.forall_mem_append.mpr ⟨before, List.forall_mem_singleton.mpr ?_⟩⟩
      intro commits
      rw [commits.2] at answered
      exact absurd answered (by simp)
  | @failed first rollback statements failure answer opened granted inside closed answered =>
    have before := not_commits_opening starts opened inside
    refine Or.inr ⟨by simp, List.forall_mem_append.mpr ⟨before, List.forall_mem_singleton.mpr ?_⟩⟩
    exact not_commits_of_command closed (by decide)

/-- An attempt that met a conflict has no commit that is granted. -/
theorem AttemptRecord.Follows.quiet {a : AttemptRecord α} (h : a.Follows start)
    (conflict : a.course.Conflicts) : ∀ y ∈ a.exchanges, ¬ y.Commits := by
  rcases h.commits starts with ⟨value, x, rest, course, -, -⟩ | ⟨-, quiet⟩
  · rw [course] at conflict
    exact conflict.elim
  · exact quiet

omit starts in
theorem eq_nil_of_only_last {β : Type} {p : β → Prop} {rest before after : List β} {last x : β}
    (only : ∀ y ∈ rest, ¬ p y) (split : rest ++ [last] = before ++ x :: after) (h : p x) :
    after = [] := by
  rcases List.eq_nil_or_concat after with empty | ⟨front, z, longer⟩
  · exact empty
  · rw [longer, List.concat_eq_append, ← List.cons_append, ← List.append_assoc] at split
    have parts := List.append_inj' split rfl
    have member : x ∈ rest := by
      rw [parts.1]
      exact List.mem_append_right _ List.mem_cons_self
    exact absurd h (only x member)

end Runs

section Transactions
variable {σ α : Type} (options : TransactionOptions) (replies : Nat → AttemptReplies)
  (body : Nat → σ → Body σ α)

/-- The attempt of some number, from a state and a connection to the next ones. -/
def transact (number : Nat) (current : σ × Connection) : Except Failure α × σ × Connection :=
  attemptOnce options (replies number) (body number) current.1 current.2

/-- The loop of transactions goes like the plain one over single attempts. -/
theorem transactFrom_eq_retryFrom (remaining next : Nat) (last : Option Failure) (state : σ)
    (c : Connection) :
    transactFrom options replies body remaining next last state c =
      retryFrom options (transact options replies body) remaining next last (state, c) := by
  induction remaining generalizing next last state c with
  | zero => rfl
  | succ remaining ih =>
    rw [transactFrom, retryFrom, transact]
    cases verdict (attemptOnce options (replies next) (body next) state c).1 with
    | done result => rfl
    | again cause => simp only [ih]

theorem runInTransaction_eq_retry (state : σ) (c : Connection) :
    runInTransaction options replies body state c =
      retry options (transact options replies body) (state, c) :=
  transactFrom_eq_retryFrom options replies body options.attempts 0 none state c

def transactionAttempt (made : Nat × σ × Connection) : AttemptRecord α :=
  attemptRecord options (replies made.1) (body made.1) made.2.1 made.2.2

def transactionAttempts (state : σ) (c : Connection) : List (AttemptRecord α) :=
  (attemptsFrom (transact options replies body) options.attempts 0 (state, c)).map
    (transactionAttempt options replies body)

def requested (attempts : List (AttemptRecord α)) : List Exchange :=
  attempts.flatMap AttemptRecord.exchanges

theorem arrivals_requested (attempts : List (AttemptRecord α)) :
    arrivals (requested attempts) = attempts.flatMap fun a => arrivals a.exchanges := by
  simp only [arrivals, requested, List.flatMap_assoc]

theorem requested_quiet {start : String} (starts : start ≠ "COMMIT")
    {attempts : List (AttemptRecord α)} (follows : ∀ a ∈ attempts, a.Follows start)
    (conflicts : ∀ a ∈ attempts, a.course.Conflicts) :
    ∀ y ∈ requested attempts, ¬ y.Commits := by
  intro y member
  obtain ⟨a, inside, asked⟩ := List.mem_flatMap.mp member
  exact (follows a inside).quiet starts (conflicts a inside) y asked

/-- Behind attempts that met conflicts a commit is the last request of all, and the body
of the last attempt succeeded. -/
theorem commits_last {start : String} (starts : start ≠ "COMMIT")
    {earlier : List (AttemptRecord α)} {last : AttemptRecord α}
    (follows : ∀ a ∈ earlier ++ [last], a.Follows start)
    (conflicts : ∀ a ∈ earlier, a.course.Conflicts) {before after : List Exchange} {x : Exchange}
    (split : requested (earlier ++ [last]) = before ++ x :: after) (commits : x.Commits) :
    after = [] ∧ ∃ value, last.course = .succeeded value (.ok ()) := by
  have quiet : ∀ y ∈ requested earlier, ¬ y.Commits :=
    requested_quiet starts (fun a inside => follows a (List.mem_append_left _ inside)) conflicts
  rw [requested, List.flatMap_append, List.flatMap_singleton] at split
  rcases (follows last (by simp)).commits starts with
    ⟨value, final, rest, course, exchanges, silent⟩ | ⟨-, silent⟩
  · rw [exchanges, ← List.append_assoc] at split
    refine ⟨eq_nil_of_only_last ?_ split commits, value, course⟩
    intro y member
    rcases List.mem_append.mp member with sooner | within
    · exact quiet y sooner
    · exact silent y within
  · have member : x ∈ before ++ x :: after := by simp
    rw [← split] at member
    rcases List.mem_append.mp member with sooner | within
    · exact absurd commits (quiet x sooner)
    · exact absurd commits (silent x within)

/-- A transaction is tried as often as allowed at most, and again only behind a
conflict.  Each attempt starts the transaction with the modes of the options, and ends it
with a commit where its body succeeded and with a rollback where it failed.  A run that
tells a value has committed the attempt that gave it; no other commit is granted, and
behind one nothing is asked of the server. -/
theorem one_commit_at_most (state : σ) (c : Connection) :
    ∃ (run : RetryRun (σ × Connection) α) (earlier : List (AttemptRecord α))
        (last : AttemptRecord α),
      runInTransaction options replies body state c = run ∧
      transactionAttempts options replies body state c = earlier ++ [last] ∧
      run.attempts = List.range (earlier.length + 1) ∧
      earlier.length + 1 ≤ options.attempts ∧
      run.state.2.log = c.log ++ arrivals (requested (earlier ++ [last])) ∧
      (∀ a ∈ earlier ++ [last],
        a.Follows (startText options.isolation options.readOnly options.deferrable)) ∧
      (∀ a ∈ earlier, a.course.Conflicts) ∧
      (∀ value, run.result = .ok (some value) ↔ last.course = .succeeded value (.ok ())) ∧
      (∀ before x after, requested (earlier ++ [last]) = before ++ x :: after → x.Commits →
        after = [] ∧ ∃ value, run.result = .ok (some value)) := by
  let attempt := transact options replies body
  let record := transactionAttempt options replies body
  have starts := startText_ne_commit options.isolation options.readOnly options.deferrable
  have outcomes : ∀ made, (attempt made.1 made.2).1 = (record made).course.outcome := by
    intro made
    exact outcome_attemptOnce options (replies made.1) (body made.1) made.2.1 made.2.2
  obtain ⟨remaining, count⟩ :=
    Nat.exists_eq_succ_of_ne_zero (Nat.pos_iff_ne_zero.mp options.attempts_pos)
  obtain ⟨earlier, last, made, history⟩ :=
    exists_history attempt options remaining 0 none (state, c)
  rw [← Nat.succ_eq_add_one, ← count] at made history
  have attempts : transactionAttempts options replies body state c =
      earlier.map record ++ [record last] := by
    rw [transactionAttempts, made, List.map_append]
    rfl
  have follows : ∀ a ∈ earlier.map record ++ [record last],
      a.Follows (startText options.isolation options.readOnly options.deferrable) := by
    rw [← attempts]
    intro a member
    obtain ⟨one, -, rfl⟩ := List.mem_map.mp member
    exact follows_attemptRecord options _ _ _ _
  have conflicts : ∀ a ∈ earlier.map record, a.course.Conflicts := by
    intro a member
    obtain ⟨one, inside, rfl⟩ := List.mem_map.mp member
    have again := history.again one inside
    simp only [AsksAgain, outcomes] at again
    exact (record one).course.again_iff.mp again
  have told : ∀ value,
      (runInTransaction options replies body state c).result = .ok (some value) ↔
        (record last).course = .succeeded value (.ok ()) := by
    intro value
    rw [runInTransaction_eq_retry, ← Course.outcome_eq_ok_iff, ← outcomes]
    exact history.settled.value_iff.trans (verdict_eq_done_some_iff _ value)
  refine ⟨_, _, _, rfl, attempts, ?_, ?_, ?_, follows, conflicts, told, ?_⟩
  · rw [runInTransaction_eq_retry, List.length_map, List.range_eq_range']
    exact history.attempts
  · rw [List.length_map]
    exact history.bounded
  · have collected := collected_retryFrom attempt (fun current => current.2.log)
      (fun made => arrivals (record made).exchanges)
      (fun number current => log_attemptOnce options _ _ _ _) options options.attempts 0 none
      (state, c)
    rw [runInTransaction_eq_retry, ← attempts, arrivals_requested, transactionAttempts,
      List.flatMap_map]
    exact collected
  · intro before x after split commits
    obtain ⟨nothing, value, course⟩ := commits_last starts follows conflicts split commits
    exact ⟨nothing, value, (told value).mpr course⟩

end Transactions

/-- A transaction that reads only and may wait for its turn, in the way of another one
when it is committed first. -/
theorem one_commit_at_most_secondTry :
    let options : TransactionOptions :=
      { isolation := .repeatableRead, readOnly := true, deferrable := true, maxAttempts := 3 }
    let replies : Nat → AttemptReplies := fun n =>
      if n = 0 then { commit := .error .running ⟨"40001", "busy", none⟩ } else {}
    let body : Nat → Unit → Body Unit Nat := fun _ _ =>
      .send "select 1" [] fun _ => .done () (.ok 7)
    let run := runInTransaction options replies body () {}
    let start := "START TRANSACTION ISOLATION LEVEL REPEATABLE READ, READ ONLY, DEFERRABLE"
    run.result = .ok (some 7) ∧ run.attempts = [0, 1] ∧
      run.state.2.log =
        [.command start, .executed "select 1" [], .command "COMMIT",
          .command start, .executed "select 1" [], .command "COMMIT"] ∧
      (∀ a ∈ transactionAttempts options replies body () {}, a.Follows start) ∧
      ∀ before x after, requested (transactionAttempts options replies body () {}) =
        before ++ x :: after → x.Commits → after = [] := by
  intro options replies body run start
  obtain ⟨_, earlier, last, rfl, made, -, -, -, follows, -, -, commits⟩ :=
    one_commit_at_most options replies body () {}
  rw [made]
  refine ⟨rfl, rfl, rfl, follows, fun before x after split granted => ?_⟩
  exact (commits before x after split granted).1

end BoundSql
