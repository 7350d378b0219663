/-
  InfraEvidence — what can go wrong.

  * `Fault`: the causes, each with what it concerns;
  * `Fault.message`: the wording;
  * `Fault.exitCode`: the number that identifies the cause to a caller;
  * `Fault.isRecoverable`: whether a survey of several files may go on;
  * `Fault.ofList`: no fault, the only one, or all of them together.

  A block that is malformed or not closed is no fault: it is passed over.
-/
namespace InfraEvidence

/-- The kinds of failures of a file operation. -/
inductive FileFailure where
  | permissionDenied
  | notFound
  | invalidData
  | other
deriving DecidableEq

/-- A cause of failure. -/
inductive Fault where
  /-- A file or stream cannot be read or written; `text` says why -/
  | file (path : String) (failure : FileFailure) (text : String)
  /-- A root of a survey does not exist -/
  | missingRoot (path : String)
  /-- No such kind of block -/
  | unknownKind (name : String)
  /-- No such report format -/
  | unknownFormat (name : String)
  /-- No such mode of analysis -/
  | unknownMode (name : String)
  /-- A malformed glob -/
  | badGlob (glob message : String)
  /-- Settings that cannot be read -/
  | unreadableSettings
  /-- A setting with a value that cannot be used -/
  | badSetting (key message : String)
  /-- A setting that is needed and not there -/
  | missingSetting (key : String)
  /-- A report that cannot be written -/
  | report (message : String)
  /-- A failure of the program itself -/
  | internal (message : String)
  /-- Several faults together -/
  | several (faults : List Fault)

namespace Fault

/-- Why bytes that are no text cannot be read. -/
def invalidUtf8Text : String := "stream did not contain valid UTF-8"

/-- A stream that is no text. -/
def invalidUtf8 (path : String) : Fault := .file path .invalidData invalidUtf8Text

/-- A report whose structured form cannot be written. -/
def ofJsonFailure (message : String) : Fault := .report ("JSON serialization error: " ++ message)

/-- The wording of a fault. -/
def message : Fault → String
  | file path _ text => "I/O error at '" ++ path ++ "': " ++ text
  | missingRoot path => "Directory not found: " ++ path
  | unknownKind name => "Unsupported block type: " ++ name
  | unknownFormat name => "Unsupported format: " ++ name
  | unknownMode name => "Invalid analysis_type: " ++ name
  | badGlob glob text => "Invalid pattern '" ++ glob ++ "': " ++ text
  | unreadableSettings => "Failed to parse configuration"
  | badSetting key text => "Invalid configuration value for '" ++ key ++ "': " ++ text
  | missingSetting key => "Missing required configuration: " ++ key
  | report text => "Failed to generate report: " ++ text
  | internal text => "Internal error: " ++ text
  | several faults => "Multiple errors occurred (" ++ toString faults.length ++ " total)"

/-- The number that identifies the cause. -/
def exitCode : Fault → Nat
  | file _ .permissionDenied _ => 13
  | missingRoot _ => 15
  | unreadableSettings => 18
  | badSetting .. => 19
  | missingSetting _ => 20
  | several _ => 21
  | unknownKind _ | unknownFormat _ | unknownMode _ | badGlob .. => 64
  | file .. | report _ | internal _ => 1

/-- A survey of several files may go on after the fault: it is about one file. -/
def isRecoverable : Fault → Bool
  | file .. => true
  | _ => false

/-- The outcome of work that met some faults. -/
def ofList : List Fault → Except Fault Unit
  | [] => .ok ()
  | [fault] => .error fault
  | faults => .error (.several faults)

end Fault

end InfraEvidence
