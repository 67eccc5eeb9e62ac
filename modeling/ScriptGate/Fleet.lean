import ScriptGate.Startup

/-!
Several bridges on one machine, and the peers that are attached to their debug listeners.

Each listener has a token of its own, which it shares with the sessions of the peers it has accepted: the place of
its bridge and the number of the attempt to bind that made it. Whoever gives up a listener, by
ending the debug session or by giving up the bridge, cancels its token, and a session that hears of that ends.
No other session does, be it of a listener that was at the same address before or is there
later.
-/

namespace ScriptGate

/-! ## Sessions -/

/-- What the session of an attached peer hears next. -/
inductive Signal where
  /-- The token of the listener is cancelled. -/
  | shutdown
  /-- So many bytes can be read; none, if the peer has hung up. -/
  | read (count : Nat)
  /-- The connection is broken. -/
  | broken
deriving DecidableEq, Repr

namespace Signal

/-- How many bytes a session reads at once. -/
def chunk : Nat := 4096

/-- What a session hears of bytes that its peer sends. -/
def ofBytes (bytes : ByteArray) : List Signal :=
  List.replicate (bytes.size / chunk) (.read chunk) ++
    if bytes.size % chunk = 0 then [] else [.read (bytes.size % chunk)]

end Signal

/-- The connection of a peer that a listener accepted, and that the peer keeps. -/
structure Connection where
  /-- The place of the bridge whose listener accepted it. -/
  owner : Nat
  /-- The attempt to bind that made the listener. -/
  attempt : Nat
  ended : Bool
deriving DecidableEq, Repr

namespace Connection

/-- A session goes on as long as it reads bytes, which it discards, and ends at anything else. -/
def hear (c : Connection) : Signal → Connection
  | .read (_ + 1) => c
  | .read 0 | .shutdown | .broken => { c with ended := true }

/-- Whether the connection shares a token. -/
def shares (c : Connection) (owner attempt : Nat) : Prop := c.owner = owner ∧ c.attempt = attempt

instance (c : Connection) (owner attempt : Nat) : Decidable (c.shares owner attempt) :=
  inferInstanceAs (Decidable (_ ∧ _))

end Connection

/-! ## Bridges and peers -/

structure Fleet where
  /-- The bridges; one that was given up leaves its place empty. -/
  bridges : List (Option (Bridge ScriptHost))
  /-- Where a listener was last seen. -/
  lastSeen : Option (Network.Address × UInt16)
  connections : List Connection
  /-- Whether peers can reach the machine. -/
  reachable : Bool

namespace Fleet

/-- A fleet of bridges that nobody is attached to. -/
def ofBridges (bridges : List (Bridge ScriptHost)) (reachable : Bool) : Fleet :=
  ⟨bridges.map some, none, [], reachable⟩

/-- The bridge in a place. -/
def bridge? (i : Nat) (f : Fleet) : Option (Bridge ScriptHost) := (f.bridges[i]?).join

/-- The listener of the bridge in a place. -/
def listener? (i : Nat) (f : Fleet) : Option Network.Listener :=
  (f.bridge? i).bind fun b => b.host.listener

/-- Cancels a token: the sessions that share it hear of the end of their listener. -/
def cancel (owner attempt : Nat) (f : Fleet) : Fleet :=
  { f with
    connections := f.connections.map fun c =>
      if c.shares owner attempt then c.hear .shutdown else c }

/-- Puts a bridge, or none, in a place. -/
def setBridge (i : Nat) (b : Option (Bridge ScriptHost)) (f : Fleet) : Fleet :=
  { f with bridges := f.bridges.set i b }

/-- Puts a bridge, or none, in the place of another, whose listener is given up unless it is still
there. -/
def replace (i : Nat) (b : Option (Bridge ScriptHost)) (f : Fleet) : Fleet :=
  let next := f.setBridge i b
  match f.listener? i with
  | some l => if next.listener? i = some l then next else next.cancel i l.attempt
  | none => next

/-- Notes where the listener of the bridge in a place is. -/
def look (i : Nat) (f : Fleet) : Fleet :=
  match f.listener? i with
  | some l => { f with lastSeen := some (l.address, l.port) }
  | none => f

/-! ## Peers -/

/-- The place of the first bridge that listens at an address and a port, and the attempt that
made its listener. -/
def acceptor? (place : Network.Address × UInt16) (f : Fleet) : Option (Nat × Nat) :=
  (List.range f.bridges.length).findSome? fun i =>
    match f.listener? i with
    | some l => if (l.address, l.port) = place then some (i, l.attempt) else none
    | none => none

/-- Lets a peer connect to a place, send bytes and keep the connection; answers the connection, if it was
accepted. -/
def connect (place : Network.Address × UInt16) (bytes : ByteArray) (f : Fleet) :
    Option Connection × Fleet :=
  match f.acceptor? place with
  | some (owner, attempt) =>
    if f.reachable then
      let c := (Signal.ofBytes bytes).foldl Connection.hear ⟨owner, attempt, false⟩
      (some c, { f with connections := c :: f.connections })
    else (none, f)
  | none => (none, f)

/-- Lets a peer connect to where a listener was last seen; answers whether it was accepted. -/
def attach (bytes : ByteArray) (f : Fleet) : Bool × Fleet :=
  match f.lastSeen with
  | some place => ((f.connect place bytes).1.isSome, (f.connect place bytes).2)
  | none => (false, f)

/-- Whether every connection that is kept has ended. -/
def allEnded (f : Fleet) : Bool := f.connections.all Connection.ended

/-- Lets the peers give up their connections. -/
def close (f : Fleet) : Fleet := { f with connections := [] }

/-! ## Steps -/

/-- What can happen to a fleet. -/
inductive Step where
  /-- The bridge in a place is asked something. -/
  | ask (i : Nat) (action : Bridge.Action)
  /-- The bridge in a place is given up. -/
  | drop (i : Nat)
  | attach (bytes : ByteArray)
  | connect (place : Network.Address × UInt16) (bytes : ByteArray)
  | close

/-- Asks the bridge in a place. -/
def ask (i : Nat) (action : Bridge.Action) (f : Fleet) :
    Option (Turn Fleet (Except Fault Json.Value)) :=
  (f.bridge? i).map fun b =>
    (b.perform action).within fun b => (f.replace i (some b)).look i

/-- Lets a step happen. -/
def after (f : Fleet) : Step → Fleet
  | .ask i action => ((f.ask i action).map Turn.state).getD f
  | .drop i => f.replace i none
  | .attach bytes => (f.attach bytes).2
  | .connect place bytes => (f.connect place bytes).2
  | .close => f.close

end Fleet

end ScriptGate
