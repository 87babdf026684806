import KubectlSshuttle.Lib.Transition
import KubectlSshuttle.Rushtle.Firewall

/-!
# Termination signals

The client installs its redirect with blocking commands, and only then starts
the task that catches SIGINT and SIGTERM and removes the redirect.  A signal
that arrives while its handler is not installed kills the process at once,
with whatever the commands have put into the tables so far.

The steps below are those of the main task from its first command on, of the
signal task, and the arrivals of the signals.
-/

namespace KubectlSshuttle.Rushtle.Firewall

open KubectlSshuttle.Lib
open KubectlSshuttle.Lib.Script
open KubectlSshuttle.Lib.RustText
open KubectlSshuttle.Lib.Transition

/-! ## The process -/

/-- What `run` makes the redirect of. -/
structure Redirect where
  /-- `args.manage_iptables` -/
  manages : Bool
  /-- `std::process::id()` -/
  pid : Nat
  tcpPort : UInt16
  dnsPort : UInt16
  subnetsV4 : List Text
  subnetsV6 : List Text
  dns : Bool
  nameservers : List Text

/-- The chain is named after the process. -/
def Redirect.chain (redirect : Redirect) : ChainName :=
  "RUSHTLE_".toList ++ decimal redirect.pid

/-- Nothing is installed if the user manages the rules. -/
def Redirect.install (redirect : Redirect) : Fallible Command :=
  if redirect.manages then
    Firewall.install redirect.chain redirect.tcpPort redirect.dnsPort
      redirect.subnetsV4 redirect.subnetsV6 redirect.dns redirect.nameservers
  else .finished (.ok ())

/-- There are rules for IPv6. -/
def Redirect.hasV6 (redirect : Redirect) : Bool :=
  !redirect.subnetsV6.isEmpty

theorem Redirect.chain_ne_outputChain (redirect : Redirect) :
    redirect.chain ≠ outputChain := by
  have start : "RUSHTLE_".toList = 'R' :: "USHTLE_".toList := by decide
  have output : outputChain = 'O' :: "UTPUT".toList := by decide
  intro same
  unfold Redirect.chain at same
  rw [start, output, List.cons_append] at same
  exact absurd (List.cons.inj same).1 (by decide)

/-- The error path of `install`, and the closure `cleanup`. -/
def Redirect.remove (redirect : Redirect) : Script Command Unit :=
  if redirect.manages then Firewall.remove redirect.chain redirect.hasV6
  else .finished ()

/-- The signals that the client handles. -/
inductive Signal where
  | interrupt
  | terminate
deriving DecidableEq, Repr

/-- Where the main task stands. -/
inductive MainStage where
  | installing (rest : Fallible Command)
  /-- `install` has failed, and the error path removes what it did -/
  | undoing (rest : Script Command Unit)
  /-- the signal task is not spawned yet -/
  | installed
  /-- in the accept loop, which never returns -/
  | serving

/-- Where the signal task stands. -/
inductive SignalTask where
  | unspawned
  | spawned
  /-- has installed the handler of SIGTERM -/
  | selecting
  | waiting
  /-- could not install the handler of SIGTERM -/
  | fallingBack
  | interruptOnly
  | cleaning (rest : Script Command Unit)

/-- The process and the tables of its host. -/
structure Host where
  main : MainStage
  task : SignalTask
  /-- the signals whose handlers are installed -/
  handles : Signal → Bool
  /-- the signals that a handler has noted -/
  noted : Signal → Bool
  tables : NatTables
  ended : Bool

/-- The commands of the installation lie ahead. -/
def Host.start (redirect : Redirect) (tables : NatTables) : Host where
  main := .installing redirect.install
  task := .unspawned
  handles := fun _ => false
  noted := fun _ => false
  tables := tables
  ended := false

/--
`remove` has run to its end, in the error path or in the signal task, and no
command of `install` can follow.
-/
def removalOver : MainStage → SignalTask → Bool
  | .undoing (.finished _), _ => true
  | .serving, .cleaning (.finished _) => true
  | _, _ => false

/-- Either task has removed the redirect. -/
def Host.removed (host : Host) : Bool :=
  removalOver host.main host.task

/-- What the tasks of the process, its user and the kernel do. -/
inductive HostAction where
  /-- the next command of `install`, which may fail for any reason -/
  | install (ok : Bool)
  | installReturned
  /-- the next command of the removal in the error path -/
  | undo
  | spawn
  /-- `signal(SignalKind::terminate())` -/
  | terminateInstalled (ok : Bool)
  /-- `ctrl_c()`, which returns at once if it cannot install its handler -/
  | interruptInstalled (ok : Bool)
  | arrives (signal : Signal)
  | received (signal : Signal)
  /-- the next command of the removal in the signal task -/
  | clean
  | exit
deriving DecidableEq, Repr

/-- The signals that the signal task can be told of. -/
def SignalTask.awaits : SignalTask → Signal → Bool
  | .waiting, _ => true
  -- `select!` may look at SIGTERM before it has installed the other handler
  | .selecting, .terminate => true
  | .interruptOnly, .interrupt => true
  | _, _ => false

/-- One step; a process that has ended takes none. -/
def Host.step (redirect : Redirect) (host : Host) (action : HostAction) :
    Option Host :=
  if host.ended then none
  else
    match action with
    | .install ok =>
        match host.main with
        | .installing rest =>
            (rest.attempt Command.apply ok host.tables).map
              fun (rest, tables) =>
                { host with main := .installing rest, tables := tables }
        | _ => none
    | .installReturned =>
        match host.main with
        | .installing (.finished (.ok _)) =>
            some { host with main := .installed }
        | .installing (.finished (.error _)) =>
            some { host with main := .undoing redirect.remove }
        | _ => none
    | .undo =>
        match host.main with
        | .undoing rest =>
            (rest.advance Command.apply host.tables).map
              fun (rest, tables) =>
                { host with main := .undoing rest, tables := tables }
        | _ => none
    | .spawn =>
        match host.main with
        | .installed =>
            some { host with main := .serving, task := .spawned }
        | _ => none
    | .terminateInstalled ok =>
        match host.task with
        | .spawned =>
            if ok then
              some
                { host with
                  task := .selecting
                  handles := Function.update host.handles .terminate true }
            else some { host with task := .fallingBack }
        | _ => none
    | .interruptInstalled ok =>
        let installed (task : SignalTask) : Option Host :=
          if ok then
            some
              { host with
                task := task
                handles := Function.update host.handles .interrupt true }
          else some { host with task := .cleaning redirect.remove }
        match host.task with
        | .selecting => installed .waiting
        | .fallingBack => installed .interruptOnly
        | _ => none
    | .arrives signal =>
        if host.handles signal then
          some { host with noted := Function.update host.noted signal true }
        else some { host with ended := true }
    | .received signal =>
        if host.task.awaits signal && host.noted signal then
          some { host with task := .cleaning redirect.remove }
        else none
    | .clean =>
        match host.task with
        | .cleaning rest =>
            (rest.advance Command.apply host.tables).map
              fun (rest, tables) =>
                { host with task := .cleaning rest, tables := tables }
        | _ => none
    | .exit =>
        if host.removed then some { host with ended := true } else none

/-- Spawned, and not removing anything yet. -/
def SignalTask.listening : SignalTask → Bool
  | .unspawned | .cleaning _ => false
  | .spawned | .selecting | .waiting | .fallingBack | .interruptOnly => true

/-- What a step of the process can do. -/
inductive HostMoves (redirect : Redirect) (host : Host) :
    HostAction → Host → Prop where
  | install {ok : Bool} {rest later : Fallible Command} {tables : NatTables}
      (stage : host.main = .installing rest)
      (attempted :
        rest.attempt Command.apply ok host.tables = some (later, tables)) :
      HostMoves redirect host (.install ok)
        { host with main := .installing later, tables := tables }
  | installed (stage : host.main = .installing (.finished (.ok ()))) :
      HostMoves redirect host .installReturned { host with main := .installed }
  | installFailed {command : Command}
      (stage : host.main = .installing (.finished (.error command))) :
      HostMoves redirect host .installReturned
        { host with main := .undoing redirect.remove }
  | undo {rest later : Script Command Unit} {tables : NatTables}
      (stage : host.main = .undoing rest)
      (advanced :
        rest.advance Command.apply host.tables = some (later, tables)) :
      HostMoves redirect host .undo
        { host with main := .undoing later, tables := tables }
  | spawn (stage : host.main = .installed) :
      HostMoves redirect host .spawn
        { host with main := .serving, task := .spawned }
  | terminateInstalled (stage : host.task = .spawned) :
      HostMoves redirect host (.terminateInstalled true)
        { host with
          task := .selecting
          handles := Function.update host.handles .terminate true }
  | terminateFailed (stage : host.task = .spawned) :
      HostMoves redirect host (.terminateInstalled false)
        { host with task := .fallingBack }
  | interruptInstalled {task : SignalTask}
      (stage : host.task.listening = true) (still : task.listening = true) :
      HostMoves redirect host (.interruptInstalled true)
        { host with
          task := task
          handles := Function.update host.handles .interrupt true }
  | interruptFailed (stage : host.task.listening = true) :
      HostMoves redirect host (.interruptInstalled false)
        { host with task := .cleaning redirect.remove }
  | noted {signal : Signal} (handled : host.handles signal = true) :
      HostMoves redirect host (.arrives signal)
        { host with noted := Function.update host.noted signal true }
  | killed {signal : Signal} (unhandled : host.handles signal = false) :
      HostMoves redirect host (.arrives signal) { host with ended := true }
  | received {signal : Signal} (awaits : host.task.awaits signal = true)
      (noted : host.noted signal = true) :
      HostMoves redirect host (.received signal)
        { host with task := .cleaning redirect.remove }
  | clean {rest later : Script Command Unit} {tables : NatTables}
      (stage : host.task = .cleaning rest)
      (advanced :
        rest.advance Command.apply host.tables = some (later, tables)) :
      HostMoves redirect host .clean
        { host with task := .cleaning later, tables := tables }
  | exit (removed : host.removed = true) :
      HostMoves redirect host .exit { host with ended := true }

theorem HostMoves.of_step {redirect : Redirect} {host next : Host}
    {action : HostAction}
    (taken : Host.step redirect host action = some next) :
    host.ended = false ∧ HostMoves redirect host action next := by
  simp only [Host.step, Option.ite_none_left_eq_some,
    Bool.not_eq_true] at taken
  rcases taken with ⟨running, taken⟩
  refine ⟨running, ?_⟩
  cases action with
  | install ok =>
      cases stage : host.main with
      | installing rest =>
          simp only [stage, Option.map_eq_some_iff] at taken
          rcases taken with ⟨⟨later, tables⟩, attempted, rfl⟩
          exact .install stage attempted
      | undoing | installed | serving => simp [stage] at taken
  | installReturned =>
      dsimp only at taken
      split at taken
      · next stage => cases taken; exact .installed stage
      · next stage => cases taken; exact .installFailed stage
      · cases taken
  | undo =>
      cases stage : host.main with
      | undoing rest =>
          simp only [stage, Option.map_eq_some_iff] at taken
          rcases taken with ⟨⟨later, tables⟩, advanced, rfl⟩
          exact .undo stage advanced
      | installing | installed | serving => simp [stage] at taken
  | spawn =>
      dsimp only at taken
      split at taken
      · next stage => cases taken; exact .spawn stage
      · cases taken
  | terminateInstalled ok =>
      dsimp only at taken
      split at taken
      · next stage =>
          cases ok with
          | true => cases taken; exact .terminateInstalled stage
          | false => cases taken; exact .terminateFailed stage
      · cases taken
  | interruptInstalled ok =>
      cases stage : host.task with
      | selecting | fallingBack =>
          have listening : host.task.listening = true := by rw [stage]; rfl
          simp only [stage] at taken
          cases ok with
          | true => cases taken; exact .interruptInstalled listening rfl
          | false => cases taken; exact .interruptFailed listening
      | unspawned | spawned | waiting | interruptOnly | cleaning =>
          simp [stage] at taken
  | arrives signal =>
      dsimp only at taken
      split at taken
      · next handled => cases taken; exact .noted handled
      · next unhandled =>
          cases taken
          exact .killed (Bool.eq_false_iff.mpr unhandled)
  | received signal =>
      simp only [Option.ite_none_right_eq_some, Bool.and_eq_true] at taken
      rcases taken with ⟨⟨awaits, noted⟩, taken⟩
      cases taken
      exact .received awaits noted
  | clean =>
      cases stage : host.task with
      | cleaning rest =>
          simp only [stage, Option.map_eq_some_iff] at taken
          rcases taken with ⟨⟨later, tables⟩, advanced, rfl⟩
          exact .clean stage advanced
      | unspawned | spawned | selecting | waiting | fallingBack
      | interruptOnly => simp [stage] at taken
  | exit =>
      simp only [Option.ite_none_right_eq_some] at taken
      rcases taken with ⟨removed, taken⟩
      cases taken
      exact .exit removed

/-- The chain and the jumps to it are gone from every table used. -/
def Redirect.Gone (redirect : Redirect) (tables : NatTables) : Prop :=
  ∀ bin, bin = .iptables ∨ redirect.hasV6 = true →
    (tables.of bin).rules redirect.chain = none ∧
      ∀ rules, (tables.of bin).rules outputChain = some rules →
        .jumpTo redirect.chain ∉ rules

/-! ## The phases of a run -/

section Phases

variable {redirect : Redirect} {initial : NatTables}

/-- The rest of a removal of what `install` has done to the tables. -/
def Redirect.Removing (redirect : Redirect) (initial : NatTables)
    (rest : Script Command Unit) (tables : NatTables) : Prop :=
  ∃ result installed,
    Outcome Command.apply redirect.install initial result installed ∧
      rest.eval Command.apply tables =
        redirect.remove.eval Command.apply installed

/-- How the two tasks and the tables go together. -/
inductive Phase (redirect : Redirect) (initial : NatTables) :
    MainStage → SignalTask → NatTables → Prop where
  | installing {rest : Fallible Command} {tables : NatTables}
      (continues : ∀ result final,
        Outcome Command.apply rest tables result final →
          Outcome Command.apply redirect.install initial result final) :
      Phase redirect initial (.installing rest) .unspawned tables
  | undoing {rest : Script Command Unit} {tables : NatTables}
      (removing : redirect.Removing initial rest tables) :
      Phase redirect initial (.undoing rest) .unspawned tables
  | installed {result : Except Command Unit} {tables : NatTables}
      (outcome :
        Outcome Command.apply redirect.install initial result tables) :
      Phase redirect initial .installed .unspawned tables
  | serving {task : SignalTask} {result : Except Command Unit}
      {tables : NatTables} (listening : task.listening = true)
      (outcome :
        Outcome Command.apply redirect.install initial result tables) :
      Phase redirect initial .serving task tables
  | cleaning {rest : Script Command Unit} {tables : NatTables}
      (removing : redirect.Removing initial rest tables) :
      Phase redirect initial .serving (.cleaning rest) tables

theorem Redirect.Removing.start {result : Except Command Unit}
    {tables : NatTables}
    (outcome :
      Outcome Command.apply redirect.install initial result tables) :
    redirect.Removing initial redirect.remove tables :=
  ⟨result, tables, outcome, rfl⟩

theorem Redirect.Removing.advance {rest later : Script Command Unit}
    {tables middle : NatTables}
    (removing : redirect.Removing initial rest tables)
    (advanced :
      rest.advance Command.apply tables = some (later, middle)) :
    redirect.Removing initial later middle := by
  rcases removing with ⟨result, installed, outcome, same⟩
  exact ⟨result, installed, outcome, (eval_of_advance advanced).trans same⟩

/-- The signal task listens only once the installation is over. -/
theorem Phase.of_listening {main : MainStage} {task : SignalTask}
    {tables : NatTables} (phase : Phase redirect initial main task tables)
    (listening : task.listening = true) :
    main = .serving ∧ ∃ result,
      Outcome Command.apply redirect.install initial result tables := by
  cases phase with
  | installing continues => cases listening
  | undoing removing => cases listening
  | installed outcome => cases listening
  | serving listening outcome => exact ⟨rfl, _, outcome⟩
  | cleaning removing => cases listening

/-- The signal task moves on, and leaves the tables to the other task. -/
theorem Phase.listens {main : MainStage} {task moved : SignalTask}
    {tables : NatTables} (phase : Phase redirect initial main task tables)
    (listening : task.listening = true) (still : moved.listening = true) :
    Phase redirect initial main moved tables := by
  rcases phase.of_listening listening with ⟨rfl, result, outcome⟩
  exact .serving still outcome

/-- The signal task starts its removal. -/
theorem Phase.startCleaning {main : MainStage} {task : SignalTask}
    {tables : NatTables} (phase : Phase redirect initial main task tables)
    (listening : task.listening = true) :
    Phase redirect initial main (.cleaning redirect.remove) tables := by
  rcases phase.of_listening listening with ⟨rfl, result, outcome⟩
  exact .cleaning (.start outcome)

theorem SignalTask.listening_of_awaits {task : SignalTask} {signal : Signal}
    (awaits : task.awaits signal = true) : task.listening = true := by
  cases task with
  | selecting | waiting | interruptOnly => rfl
  | unspawned | spawned | fallingBack | cleaning rest => cases awaits

theorem phase_of_step {host next : Host} {action : HostAction}
    (taken : Host.step redirect host action = some next)
    (phase : Phase redirect initial host.main host.task host.tables) :
    Phase redirect initial next.main next.task next.tables := by
  have moved := (HostMoves.of_step taken).2
  rcases host with ⟨main, task, handles, noted, tables, ended⟩
  cases moved with
  | install stage attempted =>
      cases stage
      cases phase with
      | installing continues =>
          exact .installing fun result final outcome =>
            continues result final (outcome.of_attempt attempted)
  | installed stage =>
      cases stage
      cases phase with
      | installing continues =>
          exact .installed (continues _ _ (.finished _ _))
  | installFailed stage =>
      cases stage
      cases phase with
      | installing continues =>
          exact .undoing (.start (continues _ _ (.finished _ _)))
  | undo stage advanced =>
      cases stage
      cases phase with
      | undoing removing => exact .undoing (removing.advance advanced)
  | spawn stage =>
      cases stage
      cases phase with
      | installed outcome => exact .serving rfl outcome
  | terminateInstalled stage | terminateFailed stage =>
      exact phase.listens (by rw [stage]; rfl) rfl
  | interruptInstalled stage still => exact phase.listens stage still
  | interruptFailed stage => exact phase.startCleaning stage
  | noted handled | killed unhandled | exit removed => exact phase
  | received awaits noted =>
      exact phase.startCleaning (SignalTask.listening_of_awaits awaits)
  | clean stage advanced =>
      cases stage
      cases phase with
      | cleaning removing => exact .cleaning (removing.advance advanced)
      | serving listening outcome => cases listening

theorem phase_of_run {trace : List HostAction} {host : Host}
    (run : Run (Host.step redirect) (.start redirect initial) trace host) :
    Phase redirect initial host.main host.task host.tables :=
  run.invariant
    (motive := fun _ host =>
      Phase redirect initial host.main host.task host.tables)
    (.installing fun _ _ outcome => outcome)
    (fun _ _ _ _ _ phase taken => phase_of_step taken phase)

/-- Where a removal has run to its end, the redirect is gone. -/
theorem Phase.gone {main : MainStage} {task : SignalTask}
    {tables : NatTables} (phase : Phase redirect initial main task tables)
    (manages : redirect.manages = true)
    (stale : ∀ bin, Removable redirect.chain maxDrained (initial.of bin))
    (removed : removalOver main task = true) : redirect.Gone tables := by
  have last : redirect.Removing initial (.finished ()) tables := by
    cases phase with
    | @undoing rest tables removing =>
        cases rest with
        | finished => exact removing
        | run command next => cases removed
    | @cleaning rest tables removing =>
        cases rest with
        | finished => exact removing
        | run command next => cases removed
    | @serving task result tables listening outcome =>
        cases task with
        | cleaning rest => cases listening
        | unspawned | spawned | selecting | waiting | fallingBack
        | interruptOnly => cases removed
    | installing | installed => cases removed
  rcases last with ⟨result, installed, outcome, same⟩
  have apart := redirect.chain_ne_outputChain
  rw [Redirect.install, if_pos manages] at outcome
  rw [Redirect.remove, if_pos manages] at same
  have touched := (touched_of_install apart stale outcome).1
  have restored := (eval_remove apart
    (fun bin => (touched bin).removable) redirect.hasV6).1
  intro bin asked
  have one := restored bin asked
  rw [← same, eval] at one
  exact ⟨one.gone, fun rules => one.jumpTo_notMem⟩

/-! ## How the process ends -/

theorem ended_of_step {host next : Host} {action : HostAction}
    (taken : Host.step redirect host action = some next)
    (ended : next.ended = true) :
    next = { host with ended := true } ∧
      ((∃ signal, action = .arrives signal ∧ host.handles signal = false) ∨
        host.removed = true) := by
  rcases HostMoves.of_step taken with ⟨running, moved⟩
  cases moved with
  | killed unhandled => exact ⟨rfl, .inl ⟨_, rfl, unhandled⟩⟩
  | exit removed => exact ⟨rfl, .inr removed⟩
  | install | installed | installFailed | undo | spawn | terminateInstalled
  | terminateFailed | interruptInstalled | interruptFailed | noted | received
  | clean => exact absurd ended (by simp [running])

/-- An ended process takes no further step. -/
theorem nil_of_ended {host finish : Host} {trace : List HostAction}
    (ended : host.ended = true)
    (run : Run (Host.step redirect) host trace finish) : trace = [] := by
  cases trace with
  | nil => rfl
  | cons action rest =>
      have whole : Run (Host.step redirect) host ([] ++ action :: rest)
        finish := run
      rcases whole.step_at with ⟨state, next, first, taken, _⟩
      rw [first.nil_eq] at taken
      have running := (HostMoves.of_step taken).1
      rw [ended] at running
      cases running

/--
The process has not ended before a removal has run to its end.  The redirect
is gone then, unless the tables held too many jumps of an earlier process of
the same number.
-/
def Host.Withdrawn (redirect : Redirect) (initial : NatTables)
    (host : Host) : Prop :=
  host.ended = true → host.removed = true ∧
    ((∀ bin, Removable redirect.chain maxDrained (initial.of bin)) →
      redirect.Gone host.tables)

/-- A signal arrives only once its handler is there, or nothing is left. -/
def Host.handled (host : Host) : HostAction → Bool
  | .arrives signal => host.handles signal || host.removed
  | _ => true

/-- The signals of the step meet their handlers. -/
def Handled (_ : List HostAction) (host : Host) (action : HostAction) :
    Prop :=
  host.handled action = true

theorem removed_of_meets {trace : List HostAction} {host : Host}
    (run : Run (Host.step redirect) (.start redirect initial) trace host)
    (meets : Meets (Host.step redirect) (.start redirect initial) Handled
      trace) :
    host.ended = true → host.removed = true := by
  refine run.invariant_of_meets
    (motive := fun _ host => host.ended = true → host.removed = true)
    (fun never => by cases never) ?_ meets
  intro before state action next _ _ handled taken ended
  rcases ended_of_step taken ended with ⟨rfl, ⟨signal, rfl, unhandled⟩ | removed⟩
  · rw [Handled, Host.handled, unhandled, Bool.false_or] at handled
    exact handled
  · exact removed

/-- A signal without a handler ends the process where it stands. -/
theorem meets_of_removed {trace : List HostAction} {host : Host}
    (run : Run (Host.step redirect) (.start redirect initial) trace host)
    (removed : host.ended = true → host.removed = true) :
    Meets (Host.step redirect) (.start redirect initial) Handled trace := by
  rintro before action after state rfl earlier
  rcases run.step_at with ⟨same, next, reached, taken, later⟩
  rw [← earlier.deterministic reached] at taken
  rw [Handled]
  by_contra unmet
  have arrived : ∃ signal, action = .arrives signal ∧
      state.handles signal = false ∧ state.removed = false := by
    cases action with
    | arrives signal =>
        simp only [Host.handled, Bool.or_eq_true, not_or,
          Bool.not_eq_true] at unmet
        exact ⟨signal, rfl, unmet⟩
    | _ => exact (unmet rfl).elim
  rcases arrived with ⟨signal, rfl, unhandled, remains⟩
  have killed : next = { state with ended := true } := by
    cases (HostMoves.of_step taken).2 with
    | killed unhandled => rfl
    | noted handled =>
        rw [handled] at unhandled
        cases unhandled
  subst killed
  rcases nil_of_ended rfl later with rfl
  rw [later.nil_eq] at removed
  rw [Host.removed] at remains
  rw [Host.removed, remains] at removed
  cases removed rfl

/--
The process that manages its redirect never ends before this is withdrawn
exactly if no signal arrives before its handler is there, unless a removal is
over already.
-/
theorem withdrawn_iff {trace : List HostAction} {host : Host}
    (manages : redirect.manages = true)
    (run : Run (Host.step redirect) (.start redirect initial) trace host) :
    host.Withdrawn redirect initial ↔
      Meets (Host.step redirect) (.start redirect initial) Handled
        trace := by
  constructor
  · exact fun withdrawn =>
      meets_of_removed run fun ended => (withdrawn ended).1
  · intro meets ended
    have removed := removed_of_meets run meets ended
    exact ⟨removed, fun stale => (phase_of_run run).gone manages stale removed⟩

end Phases

/-! ## Two runs -/

/-- A redirect for one IPv4 subnet. -/
def someRedirect : Redirect where
  manages := true
  pid := 4711
  tcpPort := 12300
  dnsPort := 12353
  subnetsV4 := ["10.0.0.0/8".toList]
  subnetsV6 := []
  dns := false
  nameservers := []

/-- Both tables have an empty `OUTPUT`. -/
def freshTables : NatTables :=
  let table := NatTable.empty.set outputChain (some [])
  ⟨table, table⟩

/-- All commands of `install` succeed. -/
def installs : List HostAction :=
  List.replicate 5 (.install true) ++ [.installReturned]

/-- SIGTERM is handled, and the removal is finished. -/
def removes : List HostAction :=
  [.spawn, .terminateInstalled true, .interruptInstalled true,
    .arrives .terminate, .received .terminate] ++
    List.replicate 4 .clean ++ [.exit]

/-- A handled SIGTERM ends the process without the redirect. -/
theorem withdrawn_after_terminate :
    ∃ host, Run (Host.step someRedirect) (.start someRedirect freshTables)
        (installs ++ removes) host ∧
      host.ended = true ∧ host.Withdrawn someRedirect freshTables := by
  rcases run_of_execute_any (guarded (Host.step someRedirect) Host.handled)
    (.start someRedirect freshTables) (installs ++ removes) Host.ended
    (by decide) with ⟨host, passed, ended⟩
  rcases passed.of_guarded with ⟨run, meets⟩
  exact ⟨host, run, ended, (withdrawn_iff rfl run).mpr meets⟩

/-- SIGTERM before the signal task has run leaves the jump in place. -/
theorem stranded_by_terminate :
    ∃ host, Run (Host.step someRedirect) (.start someRedirect freshTables)
        (installs ++ [.arrives .terminate]) host ∧
      host.tables.v4.rules outputChain =
        some [.jumpTo someRedirect.chain] ∧
      ¬ host.Withdrawn someRedirect freshTables := by
  rcases run_of_execute_any (Host.step someRedirect)
    (.start someRedirect freshTables) (installs ++ [.arrives .terminate])
    (fun host => (host.ended && !host.removed) &&
      decide (host.tables.v4.rules outputChain =
        some [.jumpTo someRedirect.chain])) (by decide) with
    ⟨host, run, stranded⟩
  rcases Bool.and_eq_true_iff.mp stranded with ⟨killed, hooked⟩
  rcases Bool.and_eq_true_iff.mp killed with ⟨ended, remains⟩
  refine ⟨host, run, of_decide_eq_true hooked, fun withdrawn => ?_⟩
  rw [(withdrawn ended).1] at remains
  cases remains

end KubectlSshuttle.Rushtle.Firewall
