import LiveRange.Query
import Mathlib.Data.List.Nodup

/-! Which dumps queries ask for, and what they answer, for any supply of dumps: a query asks for
every kind in turn until one is missing, and nothing of it reaches the next query. -/

namespace LiveRange

/-- The order in which a query asks. -/
def Dump.Kind.inOrder : List Dump.Kind := [.rawline, .info, .loc]

theorem Dump.Kind.eq_of_inOrder_eq {served unasked : List Dump.Kind} {kind : Dump.Kind}
    (split : inOrder = served ++ kind :: unasked) :
    served = [] ∧ kind = .rawline ∨ served = [.rawline] ∧ kind = .info ∨
      served = [.rawline, .info] ∧ kind = .loc := by
  rw [inOrder] at split
  rcases served with _ | ⟨first, _ | ⟨second, _ | ⟨third, served⟩⟩⟩ <;> simp_all

/-- The plain name of the family, or one that starts like the names of its variants. -/
def Machine.Supported (name : Text) : Prop := name = "arm".toList ∨ "armv".toList <+: name

theorem Machine.inFamily_iff {name : Text} : inFamily name = true ↔ Supported name := by
  rw [inFamily, Bool.or_eq_true, beq_iff_eq, Text.startsWith_iff, family, Supported]

theorem checkMachine_of_supported {name : Text} (supported : Machine.Supported name) :
    checkMachine name = .ok () :=
  if_pos (Machine.inFamily_iff.mpr supported)

theorem checkMachine_of_unsupported {name : Text} (foreign : ¬ Machine.Supported name) :
    checkMachine name = .error (.machineUnsupported name "arm".toList) :=
  if_neg (mt Machine.inFamily_iff.mp foreign)

namespace Query

variable (supply : Dump.Supply) (query : Query)

def requests (kinds : List Dump.Kind) : List Dump.Request :=
  kinds.map fun kind => { kind, object := query.object }

/-- The requests that a query makes of a supply, and its result. -/
inductive Exchange : List Dump.Request → Except Failure Finding → Prop
  | refused (foreign : ¬ Machine.Supported query.machine) :
      Exchange [] (.error (.machineUnsupported query.machine "arm".toList))
  | failed {served unasked : List Dump.Kind} {kind : Dump.Kind} {failure : Failure}
      (supported : Machine.Supported query.machine)
      (split : Dump.Kind.inOrder = served ++ kind :: unasked)
      (there : ∀ earlier ∈ served, ∃ text, supply earlier query.object = .ok text)
      (missing : supply kind query.object = .error failure) :
      Exchange (query.requests (served ++ [kind])) (.error failure)
  | answered {lines info locations : Text} (supported : Machine.Supported query.machine)
      (first : supply .rawline query.object = .ok lines)
      (second : supply .info query.object = .ok info)
      (third : supply .loc query.object = .ok locations) :
      Exchange (query.requests Dump.Kind.inOrder)
        (.ok (Dumps.finding { lines, info, locations } query.source query.line))

/-- What a query answers and asks for on its own. -/
def alone : Except Failure Finding × List Dump.Request := (query.answer supply).run.run []

variable {supply query}

theorem exists_exchange (supply : Dump.Supply) (query : Query) :
    ∃ requests result, Exchange supply query requests result := by
  by_cases supported : Machine.Supported query.machine
  · cases first : supply .rawline query.object with
    | error failure => exact ⟨_, _, @Exchange.failed _ _ [] _ _ _ supported rfl (by simp) first⟩
    | ok lines =>
        cases second : supply .info query.object with
        | error failure =>
            refine ⟨_, _, @Exchange.failed _ _ [.rawline] _ _ _ supported rfl ?_ second⟩
            simp [first]
        | ok info =>
            cases third : supply .loc query.object with
            | error failure =>
                refine ⟨_, _, @Exchange.failed _ _ [.rawline, .info] _ _ _ supported rfl ?_ third⟩
                simp [first, second]
            | ok locations => exact ⟨_, _, .answered supported first second third⟩
  · exact ⟨_, _, .refused supported⟩

section Run

variable (log : List Dump.Request)

/-- A request is logged whether the dump is there or not, and only then does the query go on. -/
theorem run_request {kind : Dump.Kind} {object : Path} {next : Text → QueryM Finding} :
    (supply.request kind object >>= next).run.run log =
      match supply kind object with
      | .ok text => (next text).run.run (log ++ [⟨kind, object⟩])
      | .error failure => (.error failure, log ++ [⟨kind, object⟩]) := by
  rw [Dump.Supply.request]
  cases supply kind object <;> rfl

theorem answer_of_supported (supported : Machine.Supported query.machine) :
    query.answer supply = (do
      let lines ← supply.request .rawline query.object
      let info ← supply.request .info query.object
      let locations ← supply.request .loc query.object
      return { lines, info, locations : Dumps }.finding query.source query.line) := by
  rw [answer, checkMachine_of_supported supported]
  rfl

/-- What has been asked for before a query makes no difference to it. -/
theorem Exchange.run_answer {requests : List Dump.Request} {result : Except Failure Finding}
    (exchange : Exchange supply query requests result) :
    (query.answer supply).run.run log = (result, log ++ requests) := by
  cases exchange with
  | refused foreign =>
      rw [answer, checkMachine_of_unsupported foreign, List.append_nil]
      rfl
  | failed supported split there missing =>
      rcases Dump.Kind.eq_of_inOrder_eq split with ⟨rfl, rfl⟩ | ⟨rfl, rfl⟩ | ⟨rfl, rfl⟩
      · simp only [answer_of_supported supported, run_request, missing]
        rfl
      · obtain ⟨lines, first⟩ := there .rawline (by simp)
        simp only [answer_of_supported supported, run_request, first, missing, List.append_assoc]
        rfl
      · obtain ⟨lines, first⟩ := there .rawline (by simp)
        obtain ⟨info, second⟩ := there .info (by simp)
        simp only [answer_of_supported supported, run_request, first, second, missing,
          List.append_assoc]
        rfl
  | answered supported first second third =>
      simp only [answer_of_supported supported, run_request, first, second, third,
        List.append_assoc]
      rfl

end Run

theorem Exchange.alone_eq {requests : List Dump.Request} {result : Except Failure Finding}
    (exchange : Exchange supply query requests result) : query.alone supply = (result, requests) :=
  exchange.run_answer []

theorem exchange_alone (supply : Dump.Supply) (query : Query) :
    Exchange supply query (query.alone supply).2 (query.alone supply).1 := by
  obtain ⟨requests, result, exchange⟩ := exists_exchange supply query
  rw [exchange.alone_eq]
  exact exchange

theorem run_answer_eq_alone (supply : Dump.Supply) (query : Query) (log : List Dump.Request) :
    (query.answer supply).run.run log =
      ((query.alone supply).1, log ++ (query.alone supply).2) :=
  (exchange_alone supply query).run_answer log

theorem nodup_requests {kinds : List Dump.Kind} (distinct : kinds.Nodup) (query : Query) :
    (query.requests kinds).Nodup := by
  refine distinct.map ?_
  intro kind other same
  exact congrArg Dump.Request.kind same

/-- No dump is asked for twice. -/
theorem Exchange.nodup {requests : List Dump.Request} {result : Except Failure Finding}
    (exchange : Exchange supply query requests result) : requests.Nodup := by
  have distinct : Dump.Kind.inOrder.Nodup := by decide
  cases exchange with
  | refused foreign => exact List.nodup_nil
  | answered supported first second third => exact nodup_requests distinct query
  | @failed served unasked kind failure supported split there missing =>
      rw [split, List.append_cons] at distinct
      exact nodup_requests (List.Nodup.of_append_left distinct) query

/-- Behind a missing dump nothing is asked for. -/
theorem Exchange.there_of_mem_dropLast {requests : List Dump.Request}
    {result : Except Failure Finding} (exchange : Exchange supply query requests result) :
    ∀ request ∈ requests.dropLast, ∃ text, supply request.kind request.object = .ok text := by
  cases exchange with
  | refused foreign => simp
  | failed supported split there missing => simpa [Query.requests] using there
  | answered supported first second third =>
      simp [Query.requests, Dump.Kind.inOrder, first, second]

/-- Every query of a list answers as it does on its own, and the requests of all queries follow
one another. -/
theorem run_answerAll (supply : Dump.Supply) (queries : List Query) (log : List Dump.Request) :
    (answerAll supply queries).run log =
      (queries.map fun query => (query.alone supply).1,
        log ++ queries.flatMap fun query => (query.alone supply).2) := by
  induction queries generalizing log with
  | nil =>
      rw [List.map_nil, List.flatMap_nil, List.append_nil]
      rfl
  | cons query queries ih =>
      have later := ih (log ++ (query.alone supply).2)
      rw [answerAll, List.mapM_cons, StateT.run_bind, run_answer_eq_alone]
      change (answerAll supply queries >>= fun answers =>
        pure ((query.alone supply).1 :: answers)).run (log ++ (query.alone supply).2) = _
      rw [StateT.run_bind, later, List.append_assoc]
      rfl

theorem answerAll_exchanges (supply : Dump.Supply) (queries : List Query)
    (log : List Dump.Request) :
    (answerAll supply queries).run log =
        (queries.map fun query => (query.alone supply).1,
          log ++ queries.flatMap fun query => (query.alone supply).2) ∧
      ∀ query : Query, Exchange supply query (query.alone supply).2 (query.alone supply).1 ∧
        (query.alone supply).2.Nodup ∧
        ∀ request ∈ (query.alone supply).2.dropLast,
          ∃ text, supply request.kind request.object = .ok text := by
  refine ⟨run_answerAll supply queries log, ?_⟩
  intro query
  have exchange := exchange_alone supply query
  exact ⟨exchange, exchange.nodup, exchange.there_of_mem_dropLast⟩

end Query

end LiveRange
