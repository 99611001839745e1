import FluentSql.Builder.Call

/-!
# Builders side by side

Builders that share a gateway and are used at the same time. A call waits while its statement is on
its way, and meanwhile other builders go on.

So calls are taken in stages here. `Builder.start` begins a call and goes as far as its first
statement, and `Builder.resume` goes on with the reply, as far as the next statement or the end. Both
are made of the two halves of a call of a single statement, `prepare` and `absorb`, and an insertion
of many rows waits once for each item. `resume` works on the builder as it then is: what became of it
in the meantime is part of what it sees.

A family begins with one builder, and each further member is derived from a member by choosing a
table. What happens is a list of moves, in which the replies of the gateway stand as they came. As
nothing is said about the gateway, any gateway can have given them, also one in which the members
see each other's rows.
-/

namespace FluentSql

/-- What a call waits for once it has sent a statement. -/
inductive Pending where
  /-- The reply to a call of a single statement. -/
  | statement (op : Terminal)
  /-- The reply to one insertion of many, with the rows before it and the items after it. -/
  | insertion (item : Value) (created rest : List Value)
deriving Repr

/-- How far a call has come. -/
inductive Stage where
  | returned (result : Except Fault Value)
  | waiting (r : Request) (pending : Pending)

namespace Builder

/-- Go on with an insertion of many to the statement of the next item. -/
def insertNext (b : Builder) (created : List Value) : List Value → Builder × Stage
  | [] => (b.reset, .returned (.ok (.list created)))
  | item :: rest =>
    match b.prepare (.create item) with
    | (b, .error f) => (b.reset, .returned (.error f))
    | (b, .ok r) => (b, .waiting r (.insertion item created rest))

/-- Begin a call. -/
def start (b : Builder) : Call → Builder × Stage
  | .fluent c =>
    let (b, result) := b.configure c
    (b, .returned (result.map fun _ ↦ .null))
  | .terminal op =>
    match b.prepare op with
    | (b, .error f) => (b, .returned (.error f))
    | (b, .ok r) => (b, .waiting r (.statement op))
  | .createMany items =>
    match b.itemsToCreate items with
    | .error f => (b.reset, .returned (.error f))
    | .ok members => b.insertNext [] members

/-- Go on with a call when its reply has come. -/
def resume (b : Builder) (reply : Except Fault Value) : Pending → Builder × Stage
  | .statement op =>
    let (b, result) := b.absorb op reply
    (b, .returned result)
  | .insertion item created rest =>
    match b.absorb (.create item) reply with
    | (b, .error f) => (b.reset, .returned (.error f))
    | (b, .ok row) => b.insertNext (created ++ [row]) rest

end Builder

/-- A builder in use: what its call waits for, if one is under way, what it has sent, and how its
calls have ended. -/
structure Member where
  builder : Builder
  pending : Option Pending := none
  sent : List Request := []
  results : List (Except Fault Value) := []

/-- What can happen to a member. -/
inductive Signal where
  /-- A call is made on its builder. -/
  | start (c : Call)
  /-- The reply comes that its call waits for. -/
  | reply (v : Except Fault Value)

namespace Member

/-- The member when its call has come to a stage. -/
def settle (m : Member) : Builder × Stage → Member
  | (builder, .returned result) =>
    { m with builder, pending := none, results := m.results ++ [result] }
  | (builder, .waiting r pending) =>
    { m with builder, pending := some pending, sent := m.sent ++ [r] }

/-- The member after a signal. Calls on one builder do not overlap: a call begins only if none is
under way, and a reply comes only if one is. -/
def receive (m : Member) : Signal → Option Member
  | .start c =>
    match m.pending with
    | none => some (m.settle (m.builder.start c))
    | some _ => none
  | .reply v =>
    match m.pending with
    | none => none
    | some pending => some (m.settle (m.builder.resume v pending))

/-- The member after some signals. -/
def receiveAll (m : Member) (signals : List Signal) : Option Member :=
  signals.foldlM receive m

end Member

/-- What can happen in a family. Members go by the order in which they were derived. -/
inductive Move where
  /-- A builder for a table is derived from that of a member, whether a call on it is under way or
  not. -/
  | derive (source : Nat) (name : Value) (model : Option RowModel)
  | signal (i : Nat) (signal : Signal)

/-- Builders that were derived from each other. -/
structure Family where
  members : List Member

namespace Family

/-- The family before anything has happened. -/
def root (b : Builder) : Family :=
  { members := [{ builder := b }] }

/-- The family after a move, if the move is possible. -/
def step? (family : Family) : Move → Option Family
  | .derive source name model => do
    let m ← family.members[source]?
    return { members := family.members ++ [{ builder := m.builder.table name model }] }
  | .signal i signal => do
    let m ← family.members[i]?
    let m ← m.receive signal
    return { members := family.members.set i m }

/-- The family after some moves, if they are possible one after the other. -/
def run? (family : Family) (moves : List Move) : Option Family :=
  moves.foldlM step? family

end Family

end FluentSql
