/-
The settings of the program, their bounds, and their plain form.

Whatever is not given has its default. Values are checked leniently, so a
number may be given as text; what is not within its bounds is a fault, and
settings with a fault are not used at all.
-/
import PaneWatch.Check
import PaneWatch.Log

namespace PaneWatch

open Number (Double)

/-- A whole number of seconds. -/
def seconds (n : Nat) : Double := Double.ofRatio false n 1

/-- The settings for watching panes. -/
structure TmuxSettings where
  /-- Seconds between two looks at a session. -/
  monitorInterval : Double := seconds 2
  /-- Seconds that a command may take. -/
  commandTimeout : Double := seconds 2
  /-- Where the state file is. -/
  stateFile : String := "data/sessions.yaml"
  /-- Whether stale sessions are removed at the start. -/
  autoCleanup : Bool := false
  /-- Hours without access after which a session is stale. -/
  cleanupAgeHours : Int := 24
  deriving DecidableEq, Repr

/-- All settings. -/
structure Settings where
  tmux : TmuxSettings := {}
  port : Int := 5050
  debug : Bool := false
  logLevel : LogLevel := .info
  deriving DecidableEq, Repr

namespace TmuxSettings

/-- The greatest interval between two looks, in seconds. -/
def maxInterval : Nat := 60

/-- The greatest time that a command may take, in seconds. -/
def maxTimeout : Nat := 30

/-- The greatest age of a session that is kept, in hours. -/
def maxAgeHours : Int := 24 * 90

/-- Checks a number of seconds above zero. -/
def checkSeconds [Check.Bounding] (most : Nat) (v : Value) : Checked Double :=
  .ofExcept (Check.number v >>= Check.Bounding.within (seconds 0) (seconds most))

/-- Checks an age in hours. -/
def checkAge (v : Value) : Checked Int :=
  .ofExcept (Check.integer v >>= Check.between 1 maxAgeHours)

/-- Checks the entries of the section. -/
def checkEntries [Check.Bounding] (entries : List (Value × Value)) : Checked TmuxSettings :=
  let absent : TmuxSettings := {}
  TmuxSettings.mk
    <$> Check.field entries "monitor_interval" absent.monitorInterval (checkSeconds maxInterval)
    <*> Check.field entries "command_timeout" absent.commandTimeout (checkSeconds maxTimeout)
    <*> Check.field entries "state_file" absent.stateFile (.ofExcept ∘ Check.text)
    <*> Check.field entries "auto_cleanup" absent.autoCleanup (.ofExcept ∘ Check.flag)
    <*> Check.field entries "cleanup_age_hours" absent.cleanupAgeHours checkAge

/-- Checks the section. -/
def check [Check.Bounding] : Value → Checked TmuxSettings
  | .map entries => checkEntries entries
  | _ => .invalid [⟨[], .notRecord⟩]

/-- The plain tree of the section. -/
def toJson (t : TmuxSettings) : Json :=
  .object [("monitor_interval", .real t.monitorInterval),
    ("command_timeout", .real t.commandTimeout), ("state_file", .text t.stateFile),
    ("auto_cleanup", .bool t.autoCleanup), ("cleanup_age_hours", .int t.cleanupAgeHours)]

end TmuxSettings

namespace Settings

/-- The least and the greatest port. -/
def ports : Int × Int := (1024, 65535)

/-- Checks a port. -/
def checkPort (v : Value) : Checked Int :=
  .ofExcept (Check.integer v >>= Check.between ports.1 ports.2)

/-- Checks the name of a level. -/
def checkLevel (v : Value) : Checked LogLevel :=
  .ofExcept do (LogLevel.ofName? (← Check.text v)).elim (.error .otherPattern) .ok

/-- Checks the entries of all settings. -/
def checkEntries [Check.Bounding] (entries : List (Value × Value)) : Checked Settings :=
  let absent : Settings := {}
  Settings.mk
    <$> Check.field entries "tmux" absent.tmux TmuxSettings.check
    <*> Check.field entries "port" absent.port checkPort
    <*> Check.field entries "debug" absent.debug (.ofExcept ∘ Check.flag)
    <*> Check.field entries "log_level" absent.logLevel checkLevel

/-- Checks all settings. -/
def check [Check.Bounding] : Value → Checked Settings
  | .map entries => checkEntries entries
  | _ => .invalid [⟨[], .notRecord⟩]

/-- The members of the plain tree of all settings, in order. -/
def toMembers (s : Settings) : List (String × Json) :=
  [("tmux", s.tmux.toJson), ("port", .int s.port), ("debug", .bool s.debug),
    ("log_level", .text s.logLevel.name)]

/-- The plain tree of all settings. -/
def toJson (s : Settings) : Json := .object s.toMembers

end Settings

end PaneWatch
