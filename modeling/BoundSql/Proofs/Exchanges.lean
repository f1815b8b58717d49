import BoundSql.Transaction.Run

/-! # What is asked of a server

Every request of a connection is kept with its outcome and with what arrived of it:
on a closed connection nothing does.  The log of the connection is what arrived, in
the order of the requests.  An attempt asks for the start, for what its body sends
and for one end, and its course says how each of these came out. -/
set_option autoImplicit false
namespace BoundSql

inductive Request
  | command (text : String)
  | statement (sql : String) (params : List Value)

def Request.IsStatement : Request → Prop
  | .command _ => False
  | .statement _ _ => True

/-- A request, whether it was granted, and the entry that the server made. -/
structure Exchange where
  request : Request
  outcome : Except DriverError Unit
  arrival : Option LogEntry

/-- What arrived at the server, in the order of the requests. -/
def arrivals (exchanges : List Exchange) : List LogEntry :=
  exchanges.flatMap fun x => x.arrival.toList

@[simp]
theorem arrivals_cons (x : Exchange) (rest : List Exchange) :
    arrivals (x :: rest) = x.arrival.toList ++ arrivals rest := List.flatMap_cons

@[simp]
theorem arrivals_append (first second : List Exchange) :
    arrivals (first ++ second) = arrivals first ++ arrivals second := List.flatMap_append

theorem arrivals_singleton (x : Exchange) : arrivals [x] = x.arrival.toList :=
  List.flatMap_singleton _ _

/-- A commit that the server granted. -/
def Exchange.Commits (x : Exchange) : Prop := x.request = .command "COMMIT" ∧ x.outcome = .ok ()

section Requests
variable (c : Connection)

def Connection.commandExchange (text : String) (reply : Reply) : Exchange :=
  ⟨.command text, (c.command text reply).1, if c.isOpen then some (.command text) else none⟩

def Connection.sendExchange (sql : String) (params : List Value) (reply : Reply) : Exchange :=
  ⟨.statement sql params, (c.send sql params reply).1.map fun _ => (),
    if isSendable sql && c.isOpen then
      match reply with
      | .error .preparing _ => some (.refused sql)
      | _ => some (.executed sql params)
    else none⟩

theorem Connection.log_command (text : String) (reply : Reply) :
    (c.command text reply).2.log = c.log ++ (c.commandExchange text reply).arrival.toList := by
  cases open? : c.isOpen with
  | false => simp [command, commandExchange, open?]
  | true => cases reply <;> simp [command, commandExchange, open?, record, close]

theorem Connection.log_send (sql : String) (params : List Value) (reply : Reply) :
    (c.send sql params reply).2.log =
      c.log ++ (c.sendExchange sql params reply).arrival.toList := by
  cases sendable? : isSendable sql with
  | false => simp [send, sendExchange, sendable?]
  | true =>
    cases open? : c.isOpen with
    | false => simp [send, sendExchange, sendable?, open?]
    | true =>
      cases reply with
      | answer a => simp [send, sendExchange, sendable?, open?, record]
      | error phase e => cases phase <;> simp [send, sendExchange, sendable?, open?, record]
      | close => simp [send, sendExchange, sendable?, open?, record, close]

end Requests

section Bodies
variable {σ α : Type}

def Body.exchanges : Body σ α → List Reply → Connection → List Exchange
  | .done _ _, _, _ => []
  | .send sql params next, replies, c =>
    let reply := replies.headD (.ofTag "")
    let sent := c.send sql params reply
    c.sendExchange sql params reply :: (next sent.1).exchanges replies.tail sent.2

theorem Body.log_run (body : Body σ α) (replies : List Reply) (c : Connection) :
    (body.run replies c).2.log = c.log ++ arrivals (body.exchanges replies c) := by
  induction body generalizing replies c with
  | done state outcome => simp [run, exchanges, arrivals]
  | send sql params next ih =>
    rw [run, exchanges, ih, c.log_send, arrivals_cons, List.append_assoc]

/-- A body sends statements and no commands. -/
theorem Body.exchanges_statements (body : Body σ α) (replies : List Reply) (c : Connection) :
    ∀ x ∈ body.exchanges replies c, x.request.IsStatement := by
  induction body generalizing replies c with
  | done state outcome => simp [exchanges]
  | send sql params next ih =>
    intro x member
    rw [exchanges] at member
    rcases List.mem_cons.mp member with head | later
    · rw [head]
      trivial
    · exact ih _ _ _ x later

end Bodies

/-- The command of SQL that starts a transaction with these modes. -/
def startText (level : Isolation) (readOnly deferrable : Bool) : String :=
  let isolation := match level with
    | .readUncommitted => "ISOLATION LEVEL READ UNCOMMITTED"
    | .readCommitted => "ISOLATION LEVEL READ COMMITTED"
    | .repeatableRead => "ISOLATION LEVEL REPEATABLE READ"
    | .serializable => "ISOLATION LEVEL SERIALIZABLE"
  let access := if readOnly then "READ ONLY" else "READ WRITE"
  let deferral := if deferrable then "DEFERRABLE" else "NOT DEFERRABLE"
  "START TRANSACTION " ++ ", ".intercalate [isolation, access, deferral]

theorem startText_ne_commit (level : Isolation) (readOnly deferrable : Bool) :
    startText level readOnly deferrable ≠ "COMMIT" := by
  cases level <;> cases readOnly <;> cases deferrable <;> decide +kernel

theorem TransactionOptions.startCommand_eq (options : TransactionOptions) :
    options.startCommand = startText options.isolation options.readOnly options.deferrable := by
  obtain ⟨level, readOnly, deferrable, maxAttempts, backoff⟩ := options
  cases level <;> cases readOnly <;> cases deferrable <;> rfl

/-- The course of an attempt: the start failed, or the body came to an outcome and
the server answered the command that ends the transaction. -/
inductive Course (α : Type)
  | unstarted (cause : DriverError)
  | succeeded (value : α) (commit : Except DriverError Unit)
  | failed (failure : Failure) (rollback : Except DriverError Unit)

/-- An attempt: what its body came to if it ran, its course, and all that was asked of
the server. -/
structure AttemptRecord (α : Type) where
  body : Option (Except Failure α)
  course : Course α
  exchanges : List Exchange

section Attempts
variable {σ α : Type}

def Course.outcome : Course α → Except Failure α
  | .unstarted cause => .error (Failure.ofDriver cause)
  | .succeeded value (.ok ()) => .ok value
  | .succeeded _ (.error e) => .error (Failure.ofDriver e)
  | .failed failure (.ok ()) => .error failure
  | .failed failure (.error e) =>
    .error (.other (failure.message ++ " (rollback failed: " ++ e.message ++ ")"))

def ending (replies : AttemptReplies) (outcome : Except Failure α) (c : Connection) :
    Course α × Exchange :=
  match outcome with
  | .ok value =>
    (.succeeded value (c.command "COMMIT" replies.commit).1,
      c.commandExchange "COMMIT" replies.commit)
  | .error failure =>
    (.failed failure (c.command "ROLLBACK" replies.rollback).1,
      c.commandExchange "ROLLBACK" replies.rollback)

/-- One attempt with all that is asked of the server, the rollback included that the
driver makes by itself where the start fails. -/
def attemptRecord (options : TransactionOptions) (replies : AttemptReplies)
    (body : σ → Body σ α) (state : σ) (c : Connection) : AttemptRecord α :=
  let start := c.commandExchange options.startCommand replies.start
  let started := c.command options.startCommand replies.start
  match started.1 with
  | .error cause =>
    ⟨none, .unstarted cause, [start, started.2.commandExchange "ROLLBACK" replies.rollback]⟩
  | .ok () =>
    let through := (body state).run replies.statements started.2
    let ended := ending replies through.1.1 through.2
    ⟨some through.1.1, ended.1,
      start :: (body state).exchanges replies.statements started.2 ++ [ended.2]⟩

/-- What an attempt of some course asks of the server, and in which order. -/
inductive AttemptRecord.Follows (startCommand : String) : AttemptRecord α → Prop
  | unstarted {start cleanup : Exchange} {cause : DriverError}
    (opened : start.request = .command startCommand) (refused : start.outcome = .error cause)
    (closed : cleanup.request = .command "ROLLBACK") :
    Follows startCommand ⟨none, .unstarted cause, [start, cleanup]⟩
  | succeeded {start commit : Exchange} {statements : List Exchange} {value : α}
    {answer : Except DriverError Unit}
    (opened : start.request = .command startCommand) (granted : start.outcome = .ok ())
    (inside : ∀ x ∈ statements, x.request.IsStatement)
    (closed : commit.request = .command "COMMIT") (answered : commit.outcome = answer) :
    Follows startCommand
      ⟨some (.ok value), .succeeded value answer, start :: statements ++ [commit]⟩
  | failed {start rollback : Exchange} {statements : List Exchange} {failure : Failure}
    {answer : Except DriverError Unit}
    (opened : start.request = .command startCommand) (granted : start.outcome = .ok ())
    (inside : ∀ x ∈ statements, x.request.IsStatement)
    (closed : rollback.request = .command "ROLLBACK") (answered : rollback.outcome = answer) :
    Follows startCommand
      ⟨some (.error failure), .failed failure answer, start :: statements ++ [rollback]⟩

theorem outcome_ending (replies : AttemptReplies) (outcome : Except Failure α) (c : Connection) :
    (finish replies outcome c).1 = (ending replies outcome c).1.outcome := by
  cases outcome with
  | ok value =>
    rw [finish, ending]
    cases (c.command "COMMIT" replies.commit).1 <;> rfl
  | error failure =>
    rw [finish, ending]
    cases (c.command "ROLLBACK" replies.rollback).1 <;> rfl

theorem log_finish (replies : AttemptReplies) (outcome : Except Failure α) (c : Connection) :
    (finish replies outcome c).2.log = c.log ++ arrivals [(ending replies outcome c).2] := by
  cases outcome with
  | ok value =>
    rw [ending, arrivals_singleton, ← c.log_command, finish]
    cases (c.command "COMMIT" replies.commit).1 <;> rfl
  | error failure =>
    rw [ending, arrivals_singleton, ← c.log_command, finish]
    cases (c.command "ROLLBACK" replies.rollback).1 <;> rfl

variable (options : TransactionOptions) (replies : AttemptReplies) (body : σ → Body σ α)
  (state : σ) (c : Connection)

/-- The record tells what the attempt comes to. -/
theorem outcome_attemptOnce :
    (attemptOnce options replies body state c).1 =
      (attemptRecord options replies body state c).course.outcome := by
  rw [attemptOnce, attemptRecord]
  cases (c.command options.startCommand replies.start).1 with
  | error cause => rfl
  | ok granted => exact outcome_ending replies _ _

/-- The log grows by what arrived of the attempt. -/
theorem log_attemptOnce :
    (attemptOnce options replies body state c).2.2.log =
      c.log ++ arrivals (attemptRecord options replies body state c).exchanges := by
  have start := c.log_command options.startCommand replies.start
  rw [attemptOnce, attemptRecord]
  cases (c.command options.startCommand replies.start).1 with
  | error cause =>
    rw [Connection.log_command, start, arrivals_cons, arrivals_singleton, List.append_assoc]
  | ok granted =>
    simp only [log_finish, Body.log_run, start, arrivals_append, arrivals_cons, List.append_assoc]

theorem follows_attemptRecord :
    (attemptRecord options replies body state c).Follows
      (startText options.isolation options.readOnly options.deferrable) := by
  rw [← options.startCommand_eq, attemptRecord]
  cases started : (c.command options.startCommand replies.start).1 with
  | error cause => exact .unstarted rfl started rfl
  | ok granted =>
    have inside := (body state).exchanges_statements replies.statements
      (c.command options.startCommand replies.start).2
    simp only [ending]
    cases ((body state).run replies.statements
        (c.command options.startCommand replies.start).2).1.1 with
    | ok value => exact .succeeded rfl started inside rfl rfl
    | error failure => exact .failed rfl started inside rfl rfl

end Attempts

end BoundSql
