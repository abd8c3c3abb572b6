import LifeStory.Catalog.Fault
import LifeStory.Config.Basic
import LifeStory.Player

/-!
# Errors

Everything that can go wrong in a game, by cause. `GameError.message` is what is shown, and
`GameError.kind` the coarse sort of error for callers that react to it.

An operation that fails either is refused, with an error that it answers, or crashes: arithmetic on
the way does not fit its words, or there is no room for what is to be kept, and there is no answer.
-/

namespace LifeStory

/-- Why an argument is refused. -/
inductive ArgumentFault where
  | negativeTicks (argument : String) (given : Int64)
  | journalVersion (given : UInt32)
  | journalTicks (given : UInt64)
deriving DecidableEq, Repr

namespace ArgumentFault

/-- The version of journals that can be read. -/
def knownJournalVersion : UInt32 := 1

def message : ArgumentFault → String
  | negativeTicks argument given => s!"{argument} must be >= 0, got {given}"
  | journalVersion given =>
    s!"unsupported journal version {given} (expected {knownJournalVersion})"
  | journalTicks given => s!"journal tick count {given} too large"

end ArgumentFault

/-- Why a file cannot be read or written. -/
inductive FileFault where
  | notFound
  | notDirectory
  | isDirectory
  | nameTooLong
  | nulByte
  | other (description : String)
deriving DecidableEq, Repr

namespace FileFault

def message : FileFault → String
  | notFound => "No such file or directory (os error 2)"
  | notDirectory => "Not a directory (os error 20)"
  | isDirectory => "Is a directory (os error 21)"
  | nameTooLong => "File name too long (os error 36)"
  | nulByte => "file name contained an unexpected NUL byte"
  | other description => description

end FileFault

/-- Why a text is no journal. -/
inductive JournalFault where
  | empty
  | malformed
deriving DecidableEq, Repr

namespace JournalFault

def message : JournalFault → String
  | empty => "Serialization error: EOF while parsing a value at line 1 column 0"
  | malformed => "Serialization error"

end JournalFault

/-- Names a session of a table: 128 bits, in two halves. -/
structure SessionHandle where
  high : UInt64
  low : UInt64
deriving DecidableEq, Repr

namespace SessionHandle

/-- Some digits of a number to the base 16, the last ones. -/
def digits (count n : Nat) : String :=
  String.ofList <| (List.range count).map fun i =>
    Nat.digitChar (n >>> (4 * (count - 1 - i)) % 16)

/-- The handle in groups of 8, 4, 4, 4 and 12 digits. -/
def text (h : SessionHandle) : String :=
  let high := h.high.toNat
  let low := h.low.toNat
  "-".intercalate
    [digits 8 (high >>> 32), digits 4 (high >>> 16), digits 4 high, digits 4 (low >>> 48),
      digits 12 low]

end SessionHandle

/-- Why an operation fails. -/
inductive GameError where
  | argument (fault : ArgumentFault)
  | player (fault : PlayerFault)
  | noActiveEvent
  | eventMismatch (active requested : StoryletId)
  | invalidChoice (storylet : StoryletId) (choice : ChoiceId)
  | uninitialized
  | unknownSession (handle : SessionHandle)
  /-- An operation of the session crashed before. -/
  | sessionPoisoned (handle : SessionHandle)
  | content (fault : ContentFault)
  | config (fault : ConfigFault)
  | file (fault : FileFault)
  /-- A text that should be a journal is none. -/
  | journalText (fault : JournalFault)
  /-- A text that should be a configuration or content is none. -/
  | documentText

/-- A sort of error. -/
inductive ErrorKind where
  | invalidArgument
  | invalidConfig
  | noActiveEvent
  | eventMismatch
  | invalidChoice
  | uninitializedSession
  | unknownSession
  | internal
deriving DecidableEq, Repr

namespace ErrorKind

def name : ErrorKind → String
  | invalidArgument => "InvalidArgument"
  | invalidConfig => "InvalidConfig"
  | noActiveEvent => "NoActiveEvent"
  | eventMismatch => "EventMismatch"
  | invalidChoice => "InvalidChoice"
  | uninitializedSession => "UninitializedSession"
  | unknownSession => "UnknownSession"
  | internal => "Internal"

/-- The name in data. -/
def code : ErrorKind → String
  | invalidArgument => "INVALID_ARGUMENT"
  | invalidConfig => "INVALID_CONFIG"
  | noActiveEvent => "NO_ACTIVE_EVENT"
  | eventMismatch => "EVENT_MISMATCH"
  | invalidChoice => "INVALID_CHOICE"
  | uninitializedSession => "UNINITIALIZED_SESSION"
  | unknownSession => "UNKNOWN_SESSION"
  | internal => "INTERNAL"

end ErrorKind

namespace GameError

def kind : GameError → ErrorKind
  | argument _ => .invalidArgument
  | player _ => .invalidConfig
  | noActiveEvent => .noActiveEvent
  | eventMismatch _ _ => .eventMismatch
  | invalidChoice _ _ => .invalidChoice
  | uninitialized => .uninitializedSession
  | unknownSession _ => .unknownSession
  | sessionPoisoned _ | content _ | config _ | file _ | journalText _ | documentText => .internal

def message : GameError → String
  | argument fault => s!"Invalid argument: {fault.message}"
  | player fault => s!"Invalid player config: {fault.message}"
  | noActiveEvent => "No active event to resolve"
  | eventMismatch active requested =>
    s!"Event mismatch: active event is {active}, caller referenced {requested}"
  | invalidChoice storylet choice => s!"Choice {choice} is not offered by event {storylet}"
  | uninitialized => "No game session has been started"
  | unknownSession handle => s!"Unknown session: {handle.text}"
  | sessionPoisoned handle => s!"Session lock poisoned: {handle.text}"
  | content fault => s!"Invalid storylet content: {fault.message}"
  | config fault => s!"Invalid simulation config: {fault.message}"
  | file fault => s!"IO error: {fault.message}"
  | journalText fault => fault.message
  | documentText => "TOML error"

end GameError

/-- Why an operation cannot go on. -/
inductive Crash where
  /-- The product on the way to the hour of the day does not fit a word. -/
  | hourOverflow
  /-- A window is to have more room than an object can have. -/
  | capacityOverflow
deriving DecidableEq, Repr

namespace Crash

def message : Crash → String
  | hourOverflow => "attempt to multiply with overflow"
  | capacityOverflow => "capacity overflow"

/-- The exit code of a program that crashes. -/
def exitCode : UInt32 := 101

end Crash

/-- How an operation fails. -/
inductive Failure where
  | refused (error : GameError)
  | crashed (crash : Crash)

end LifeStory
