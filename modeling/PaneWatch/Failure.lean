/-
Why an operation failed.

Every failure of the program's own is a case with what its message needs, and
`Failure.message` is the only place where messages are worded. `told` stands
for a failure that comes from outside with a message of its own, and `mute` for
one of which no message can be made.

Handlers never look at messages. They ask for the kind of a failure, and the
kinds form families: `Kind.isOwn` holds of all failures that the program
announces, `Kind.isCommand` of those that an external command caused. A handler
of everything holds up every failure but one of kind `exit`, and where it goes
on to log the message, it fails itself if there is none to be made (`held`).
-/
import PaneWatch.Accident
import PaneWatch.Check.Fault
import PaneWatch.Text.Quoted

namespace PaneWatch

namespace Failure

/-- What kind of failure something is. -/
inductive Kind where
  | general
  | notFound
  | invalid
  | invalidName
  | alreadyMonitored
  | command
  | noPanes
  | undetected
  | storage
  /-- A failure of the operating system. -/
  | system
  /-- A failure that nobody announced. -/
  | runtime
  /-- A key that something does not have. -/
  | key
  /-- The order to end the program, which is nothing that went wrong. -/
  | exit
  | faulty
  | badPattern
  | notCreated
  | accident (what : Accident)
  deriving DecidableEq, Repr

/-- Whether the program announces failures of this kind. -/
def Kind.isOwn : Kind → Bool
  | general | notFound | invalid | invalidName | alreadyMonitored | command | noPanes
  | undetected | storage => true
  | _ => false

/-- Whether failures of this kind come from an external command. -/
def Kind.isCommand : Kind → Bool
  | command | noPanes | undetected => true
  | _ => false

end Failure

/-- What went wrong with an external command. -/
inductive CommandFailure where
  /-- A process is asked for by a number that no process has. -/
  | invalidPid (pid : Int)
  | probeTimedOut (pid : Int)
  | probeMissing
  | noProcess (pid : Int)
  /-- What was to be done, and why it could not be done. -/
  | failed (action detail : String)
  /-- The text given as the number of a process is none. -/
  | noPid (text : String)
  /-- Why it is not known whether a session exists. -/
  | existenceUnknown (detail : String)
  deriving DecidableEq, Repr

/-- The message about a command. -/
def CommandFailure.message : CommandFailure → String
  | invalidPid pid => "invalid PID: " ++ toString pid
  | probeTimedOut pid => "ps timed out for PID " ++ toString pid
  | probeMissing => "ps not found"
  | noProcess pid => "failed to get process state for PID " ++ toString pid
  | failed action detail => "failed to " ++ action ++ ": " ++ detail
  | noPid text => "invalid PID format: " ++ Text.quoted text
  | existenceUnknown detail => "failed to check tmux session: " ++ detail

/-- Why an operation failed. -/
inductive Failure where
  | unknownSession (id : String)
  | unmonitored (id : String)
  | alreadyMonitored (id : String)
  | invalidName (id : String)
  | emptyId
  /-- A field was given a value of the wrong type. -/
  | wrongType (field wanted shown : String)
  /-- A session that no file can be written from. -/
  | unwritableSession (id : String)
  /-- The registry holds such a session. -/
  | unwritableRegistry
  | unreadableFile (path reason : String)
  | unwritableFile (path reason : String)
  /-- Sessions cannot be checked without panes. -/
  | noBackend
  | command (what : CommandFailure)
  | noPanes (id : String)
  /-- Neither the output nor the process table could be read. -/
  | undetected (id : String) (output process : Failure)
  | faulty (faults : List Fault)
  | badPattern
  /-- What a step needs was never created. -/
  | notCreated
  | accident (what : Accident)
  | told (kind : Failure.Kind) (message : String)
  /-- A failure from outside of which no message can be made, and what comes of trying. -/
  | mute (what : Accident)
  deriving Repr

namespace Failure

/-- The kind of a failure. -/
def kind : Failure → Kind
  | unknownSession _ | unmonitored _ => .notFound
  | alreadyMonitored _ => .alreadyMonitored
  | invalidName _ => .invalidName
  | emptyId | wrongType .. | unwritableSession _ => .invalid
  | unwritableRegistry | unreadableFile .. | unwritableFile .. => .storage
  | noBackend => .general
  | command _ => .command
  | noPanes _ => .noPanes
  | undetected .. => .undetected
  | faulty _ => .faulty
  | badPattern => .badPattern
  | notCreated => .notCreated
  | accident what => .accident what
  | told kind _ => kind
  | mute _ => .runtime

/-- The message of a failure. What only a library could say is left out. -/
def message : Failure → String
  | unknownSession id => "session " ++ id ++ " not found"
  | unmonitored id => "session " ++ id ++ " is not being monitored"
  | alreadyMonitored id => "session " ++ id ++ " is already being monitored"
  | invalidName id => "invalid session name format: " ++ Text.quoted id
  | emptyId => "session ID cannot be empty"
  | wrongType field wanted shown => field ++ " must be a " ++ wanted ++ ", got " ++ shown
  | unwritableSession id => "session " ++ id ++ " cannot be serialized: ..."
  | unwritableRegistry => "failed to serialize state: ..."
  | unreadableFile path reason => "failed to read state file " ++ path ++ ": " ++ reason
  | unwritableFile path reason => "failed to write state file " ++ path ++ ": " ++ reason
  | noBackend => "no session backend configured for cleanup"
  | command what => what.message
  | noPanes id => "no panes found for session " ++ id
  | undetected id output process =>
    "all detection methods failed for " ++ id ++ ": output=" ++ output.message
      ++ ", process=" ++ process.message
  | told kind message => if kind == .key then Text.quoted message else message
  | faulty _ | badPattern | notCreated | accident _ | mute _ => ""

/-- Whether an operation that failed so is answered with a message. -/
def isTold (f : Failure) : Bool :=
  match f with
  | faulty _ | badPattern | notCreated | accident _ | mute _ => false
  | _ => true

/-- The message of a failure, or what comes of trying to make it. -/
def text : Failure → Except Failure String
  | mute what => .error (.accident what)
  | f => .ok f.message

/-- What a handler of everything that logs the message of a failure comes to: the
message, or what gets through. -/
def held (f : Failure) : Except Failure String :=
  if f.kind == .exit then .error f else f.text

end Failure

end PaneWatch
