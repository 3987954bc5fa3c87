import PromptCad.Session.Events

/-! What a run says to its user, and where it hears and says it. -/

namespace PromptCad.CommandLine

inductive Report where
  | error (e : Error)
  | unread (path : String) (fault : FileFault)
  | unreadInput (fault : FileFault)
  | unwritten (path : String) (fault : FileFault)
deriving DecidableEq

namespace Report

def message : Report → String
  | error e => e.message
  | unread path fault => "failed to read " ++ path ++ ": " ++ fault.message
  | unreadInput fault => "failed to read stdin: " ++ fault.message
  | unwritten path fault => "failed to write " ++ path ++ ": " ++ fault.message

def lineOf (message : String) : String := "error: " ++ message ++ "\n"

def line (r : Report) : String := lineOf r.message

end Report

structure Console (m : Type → Type) where
  /-- All that is left of the input. -/
  input : m (Except FileFault ByteArray)
  /-- Shows a text that was asked for. -/
  display : String → m Unit
  report : Report → m Unit
  log : Event → m Unit

end PromptCad.CommandLine
