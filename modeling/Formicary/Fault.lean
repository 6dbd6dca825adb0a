/-
Module: Formicary.Fault
Purpose: Everything that can go wrong before a battle begins.
Main exports: FileFault, SettingsFault, Settings.read, Fault
-/
import Formicary.Brain.Fault
import Formicary.Layout
import Formicary.Settings.Toml
import Formicary.World.Map

namespace Formicary

/-- Why a file cannot be read or written. -/
inductive FileFault where
  | notFound
  /-- A file stands where a directory is needed. -/
  | notDirectory
  /-- A directory stands where a file is needed. -/
  | isDirectory
  /-- The path, or one of the names in it, is too long. -/
  | nameTooLong
  /-- The content is not a text. -/
  | notText
  /-- Another reason, in the words of the system. -/
  | other (reason : String)
deriving DecidableEq, Repr

/-- The message for a file that cannot be read or written. -/
def FileFault.message : FileFault → String
  | .notFound => "No such file or directory (os error 2)"
  | .notDirectory => "Not a directory (os error 20)"
  | .isDirectory => "Is a directory (os error 21)"
  | .nameTooLong => "File name too long (os error 36)"
  | .notText => "stream did not contain valid UTF-8"
  | .other reason => reason

/-- Why settings are refused. -/
inductive SettingsFault where
  | unreadable (path : String) (reason : FileFault)
  /-- The document is not one of settings. -/
  | malformed
  | complaint (c : Complaint)
deriving DecidableEq, Repr

/-- The message for settings that are refused. -/
def SettingsFault.message : SettingsFault → String
  | .unreadable path reason => s!"Failed to read {path}: {reason.message}"
  | .malformed => "Invalid TOML"
  | .complaint c => c.message

namespace Settings

/-- Refuse settings that give rise to a complaint. -/
def check (s : Settings) : Except SettingsFault Settings :=
  match s.complaint? with
  | some c => .error (.complaint c)
  | none => .ok s

/-- Read settings from a document. -/
def read (text : String) : Except SettingsFault Settings :=
  match ofToml? text with
  | some s => s.check
  | none => .error .malformed

end Settings

/-- Why there is no battle. -/
inductive Fault where
  | brain (fault : BrainFault)
  | world (fault : WorldFault)
  | layout (fault : LayoutFault)
  | settings (fault : SettingsFault)
  | file (fault : FileFault)
deriving DecidableEq, Repr

/-- The message for a fault, with the part of the program that it belongs to. -/
def Fault.message : Fault → String
  | .brain fault => s!"Brain error: {fault.message}"
  | .world fault => s!"World error: {fault.message}"
  | .layout fault => s!"Simulation error: {fault.message}"
  | .settings fault => s!"Config error: {fault.message}"
  | .file fault => s!"IO error: {fault.message}"

end Formicary
