import MessageSync.Simulation.Course
import MessageSync.Simulation.Fixtures

/-!
# Sessions

A session is a course in which a scripted transport stands for the network, and a store whose
operations can be made to fail for the log.
-/

namespace MessageSync

instance : KeepsSent ScriptedTransport where
  sent := ScriptedTransport.sent

/-- A course with a scripted transport and log. -/
abbrev Session := Course FaultyStore ScriptedTransport

/-- A session before its first action. What the server does is not known beforehand. -/
def Session.start (engine : Engine FaultyStore ScriptedTransport) : Session :=
  Course.start engine []

end MessageSync
