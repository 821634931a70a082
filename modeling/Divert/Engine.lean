/-
# Divert.Engine — the filter that a configuration asks for.

A dry run keeps its rules in memory; any other run uses the administration command, which has to be
usable.
-/
import Divert.Config.Basic
import Divert.Error
import Divert.Filter.Memory
import Divert.Iptables
import Divert.Translator

namespace Divert

/-- One of the two filters. -/
inductive Engine where
  | memory (filter : Memory)
  | iptables (command : Iptables)

namespace Engine

/-- The answer of the filter at hand. -/
def answer : Engine → Command → Answer × Engine
  | memory filter, c =>
    let (answer, filter) := filter.answer c
    (answer, memory filter)
  | iptables command, c =>
    let (answer, command) := command.answer c
    (answer, iptables command)

/-- What the filter at hand logs. -/
def notices : Engine → Command → List Notice
  | memory filter, c => filter.notices c
  | iptables command, c => command.notices c

/-- The filter at hand as a backend. -/
def backend : Backend Engine := ⟨answer, notices⟩

/-- Start to use the administration command. -/
def start (command : Iptables) : Except SystemError Engine :=
  match command.usable with
  | .ok () => .ok (iptables command)
  | .error reason => .error (.custom .other reason.message)

end Engine

/-- The translator of a configuration, its filter, and what is logged at the start. -/
def Translator.ofConfig (c : Config) (command : Iptables) :
    Except Error (Translator × Engine × List Notice) :=
  match ChainName.check c.chain with
  | .error reason => .error (.config (.validation reason))
  | .ok chain =>
    if c.dryRun then .ok (.start chain, .memory .fresh, [.dryRun])
    else match Engine.start command with
      | .ok engine => .ok (.start chain, engine, [.backendReady])
      | .error cause => .error (.system cause)

end Divert
