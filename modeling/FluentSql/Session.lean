import FluentSql.Builder.Call
import FluentSql.Gateway

/-!
# Sessions

A session is one gateway and the builders that share it. There is a root builder, and every other
one is derived from a builder by choosing a table. Builders go by names, and a name that is given
again means the later builder.

`Session.step` makes one step, on a builder or on the gateway, and tells all that can be seen of it
(`Entry`): the outcome, what reached the database, what was written to the log, and the query of the
builder after the step. A step on the gateway shows the query of the root builder.
-/

namespace FluentSql

open FluentSql.Gateway

/-- A call on the gateway itself. -/
inductive GatewayCall where
  | connect
  | disconnect
  /-- A block begins in which the gateway is connected. -/
  | enter
  /-- Such a block ends. -/
  | leave
  | execute (sql params : Value)
deriving Repr

/-- The task that a call on the gateway is. -/
def GatewayCall.task : GatewayCall → Task
  | .connect | .enter => .connect
  | .disconnect | .leave => .disconnect
  | .execute sql params => .execute sql params

/-- A step of a session. Builders are given by their names. -/
inductive Step where
  /-- Derive a builder for a table and give it a name. -/
  | table (source target : String) (name : Value) (model : Option RowModel)
  /-- Make a call on a builder. -/
  | call (name : String) (c : Call)
  /-- Look at a builder. -/
  | look (name : String)
  /-- A step whose arguments could not be had. -/
  | refused (name : String) (f : Fault)
  /-- Make a call on the gateway. -/
  | gateway (c : GatewayCall)
  /-- Make some calls on the gateway at the same time. -/
  | together (cs : List GatewayCall)

/-- What a step answers with. -/
inductive Answer where
  | value (v : Value)
  /-- A new builder. -/
  | builder
  /-- The builder or the gateway on which the call was made. -/
  | receiver
deriving Repr

/-- The outcome of a step: one result, or the results of several calls. -/
inductive Outcome where
  | one (result : Except Fault Answer)
  | several (results : List (Except Fault Answer))

/-- All that can be seen of a step. -/
structure Entry where
  outcome : Outcome
  events : List Event := []
  log : List LogRecord := []
  query : Query

/-- A session. -/
structure Session where
  gateway : Gateway
  builders : List (String × Builder)

/-- What a successful call on the gateway answers with. -/
def GatewayCall.answer (c : GatewayCall) (v : Value) : Answer :=
  match c with
  | .enter => .receiver
  | _ => .value v

/-- What a successful call on a builder answers with. -/
def Call.answer (c : Call) (v : Value) : Answer :=
  match c with
  | .fluent _ => .receiver
  | _ => .value v

/-- The log record of a request. -/
def Request.logRecord (r : Request) : LogRecord :=
  ⟨"DEBUG", "chainql.query.builder", r.logLine⟩

/-- A gateway as what executes requests. -/
def Gateway.executor : Builder.Executor Gateway := fun r gateway ↦
  gateway.execute (.text r.sql) (.list r.params)

namespace Session

/-- The name of the root builder. -/
def rootName : String := "root"

/-- A session with a root builder. Its dialect is the given one or, without one, the one that is
registered for the gateway. -/
def start (r : Registry) (gateway : Gateway) (given : Option Blueprint) (model : Option RowModel) :
    Except Fault Session := do
  let given ← given.mapM Blueprint.build
  let dialect ← Builder.chooseDialect r given gateway.dialect?
  return { gateway, builders := [(rootName, { dialect, model })] }

/-- The builder of a name. -/
def builder? (s : Session) (name : String) : Option Builder :=
  s.builders.lookup name

/-- Give a builder a name. -/
def assign (s : Session) (name : String) (b : Builder) : Session :=
  { s with builders := (name, b) :: s.builders }

/-- The query of the builder of a name. -/
def queryOf (s : Session) (name : String) : Query :=
  ((s.builder? name).map Builder.query).getD {}

/-- What is seen of a step on a builder that does not exist. -/
def unknownName (s : Session) (name : String) : Entry × Session :=
  ({ outcome := .one (.error (.mismatch (.missingKey name))), query := {} }, s)

/-- What the gateway did between two of its states. -/
def newEvents (before after : Gateway) : List Event :=
  after.trace.drop before.trace.length

/-- What the gateway wrote to the log between two of its states. -/
def newRecords (before after : Gateway) : List LogRecord :=
  after.log.drop before.log.length

/-- Make a call on a builder. -/
def stepCall (s : Session) (name : String) (b : Builder) (c : Call) : Entry × Session :=
  let run := b.perform Gateway.executor c s.gateway
  ({ outcome := .one (run.result.map c.answer)
     events := newEvents s.gateway run.state
     log := run.sent.map Request.logRecord ++ newRecords s.gateway run.state
     query := run.builder.query },
    { s with gateway := run.state }.assign name run.builder)

/-- What is seen of a step on the gateway. -/
def stepGateway (s : Session) (outcome : Outcome) (gateway : Gateway) : Entry × Session :=
  ({ outcome, events := newEvents s.gateway gateway, log := newRecords s.gateway gateway,
     query := s.queryOf rootName },
    { s with gateway })

/-- The answers of some calls on the gateway that were made together. -/
def answers (cs : List GatewayCall) (results : List (Except Fault Value)) :
    List (Except Fault Answer) :=
  cs.zipWith (fun c result ↦ result.map c.answer) results

/-- Make a step. -/
def step (s : Session) : Step → Entry × Session
  | .table source target name model =>
    match s.builder? source with
    | none => s.unknownName source
    | some b =>
      let derived := b.table name model
      ({ outcome := .one (.ok .builder), query := derived.query }, s.assign target derived)
  | .call name c =>
    match s.builder? name with
    | none => s.unknownName name
    | some b => s.stepCall name b c
  | .look name => ({ outcome := .one (.ok (.value .null)), query := s.queryOf name }, s)
  | .refused name f => ({ outcome := .one (.error f), query := s.queryOf name }, s)
  | .gateway c =>
    let (result, gateway) := s.gateway.perform c.task
    s.stepGateway (.one (result.map c.answer)) gateway
  | .together cs =>
    let (results, gateway) := s.gateway.together (cs.map GatewayCall.task)
    s.stepGateway (.several (answers cs results)) gateway

/-- Make some steps one after the other. -/
def run (s : Session) : List Step → List Entry × Session
  | [] => ([], s)
  | step :: rest =>
    let (entry, s) := s.step step
    let (entries, s) := run s rest
    (entry :: entries, s)

end Session

end FluentSql
