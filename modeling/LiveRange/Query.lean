import LiveRange.Dump.Source
import LiveRange.Finding

/-! Queries for a declared variable, answered from a supply of dumps. -/

namespace LiveRange

namespace Dump

structure Request where
  kind : Kind
  object : Path
  deriving DecidableEq, Repr

end Dump

/-- A computation that logs its dump requests and may fail. -/
abbrev QueryM := ExceptT Failure (StateM (List Dump.Request))

def Dump.Supply.request (supply : Dump.Supply) (kind : Dump.Kind) (object : Path) : QueryM Text := do
  modify (· ++ [{ kind, object }])
  match supply kind object with
  | .ok text => return text
  | .error failure => throw failure

def Dump.Source.request (source : Dump.Source) : Dump.Kind → Path → QueryM Text :=
  source.supply.request

def checkMachine (name : Text) : Except Failure Unit :=
  if Machine.inFamily name then .ok () else .error (.machineUnsupported name Machine.family)

/-- What is asked. The name only serves messages. -/
structure Query where
  name : Text
  line : UInt64
  source : Path
  object : Path
  machine : Text
  deriving DecidableEq, Repr

namespace Query

/-- The machine is checked before any dump is asked for, and each dump is there before the next is
asked for. -/
def answer (supply : Dump.Supply) (query : Query) : QueryM Finding := do
  checkMachine query.machine
  let lines ← supply.request .rawline query.object
  let info ← supply.request .info query.object
  let locations ← supply.request .loc query.object
  return { lines, info, locations : Dumps }.finding query.source query.line

/-- Queries in order. One that fails keeps no later one from its answer. -/
def answerAll (supply : Dump.Supply) (queries : List Query) :
    StateM (List Dump.Request) (List (Except Failure Finding)) :=
  queries.mapM fun query => (query.answer supply).run

end Query

/-- The machine an object file is built for, under the name debuggers give it. -/
def Host.machineOf (host : Host) (object : Path) : Except Failure Text :=
  match host.read object with
  | .error error => .error (.objectUninspected object (.unreadable error))
  | .ok content =>
    match host.inspect content with
    | .error reason => .error (.objectUninspected object (.reported reason))
    | .ok machine => .ok machine.name.toList

end LiveRange
