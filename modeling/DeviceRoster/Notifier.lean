import DeviceRoster.Config
import DeviceRoster.Fleet

/-!
# Notifiers

A `Notifier` writes the changes of several subscriptions to a sink, one line for each.  It first writes
the initial states, subscription after subscription.  Each subscription has a feed that forwards its
changes to a common pipe, and the changes in the pipe are written in their order.  Feeds and writing go
on independently; `Notifier.forward` and `Notifier.write` are their single steps.
-/

namespace DeviceRoster

/-- The end of a subscription in a notifier. -/
structure Feed where
  channel : ChannelRef
  /-- Whether the subscription has come to its end. -/
  ended : Bool
  deriving DecidableEq, Repr, Inhabited

/-- Changes on their way from subscriptions to a sink. -/
structure Notifier where
  feeds : List Feed
  /-- The initial states that are still to be written. -/
  initial : List Change
  /-- The changes that were forwarded and are still to be written. -/
  pipe : List Change
  written : List Change
  /-- Whether nothing will be written any more. -/
  finished : Bool
  deriving Repr, Inhabited

namespace Notifier

/-- Starts on the given subscriptions, whose initial states it takes. -/
def start (y : Fleet) (channels : List ChannelRef) : Fleet × Notifier :=
  let initial := channels.flatMap fun c => ((y.channel? c).map (·.initial)).getD []
  let y := channels.foldl (fun y c => y.modifyChannel c fun ch => { ch with initial := [] }) y
  (y, ⟨channels.map fun c => ⟨c, false⟩, initial, [], [], false⟩)

/-- The changes that wait in a channel. -/
def waiting (y : Fleet) (c : ChannelRef) : List Change :=
  ((y.channel? c).map Channel.waiting).getD []

/-- Whether nothing will be sent through a channel any more. -/
def isClosed (y : Fleet) (c : ChannelRef) : Bool := y.stations[c.station]?.all Station.isClosed

/-- The feed at a position takes one change from its subscription and puts it into the pipe, or ends
with the subscription. -/
def forward (y : Fleet) (n : Notifier) (position : Nat) : Fleet × Notifier :=
  match n.feeds[position]? with
  | none => (y, n)
  | some feed =>
    if feed.ended then (y, n)
    else
      match waiting y feed.channel with
      | c :: _ =>
        (y.modifyChannel feed.channel fun ch => { ch with taken := ch.taken + 1 },
          { n with pipe := n.pipe ++ [c] })
      | [] =>
        -- Nothing waits, but more may come until the registry is gone.
        if isClosed y feed.channel then
          (y, { n with feeds := n.feeds.set position { feed with ended := true } })
        else (y, n)

/-- Writes one change: an initial one first, then one from the pipe.  Once all feeds have ended and
the pipe is empty, writing has come to its end. -/
def write (n : Notifier) : Notifier :=
  match n.initial, n.pipe with
  | c :: rest, _ => { n with initial := rest, written := n.written ++ [c] }
  | [], c :: rest => { n with pipe := rest, written := n.written ++ [c] }
  | [], [] => if n.feeds.all (·.ended) then { n with finished := true } else n

/-! ## Running -/

/-- Lets a feed forward all that waits, and end if it can. -/
def forwardAll (y : Fleet) (n : Notifier) (position : Nat) : Fleet × Notifier :=
  let channel := (n.feeds[position]?.map Feed.channel).getD default
  (List.range ((waiting y channel).length + 1)).foldl
    (fun (p : Fleet × Notifier) _ => forward p.1 p.2 position) (y, n)

/-- Writes all that there is to write. -/
def writeAll (n : Notifier) : Notifier :=
  (List.range (n.initial.length + n.pipe.length + 1)).foldl (fun n _ => n.write) n

/-- Lets the workers, the feeds and the writing go on until nothing is left to do. -/
def settle (y : Fleet) (n : Notifier) : Fleet × Notifier :=
  let (y, n) := (List.range n.feeds.length).foldl
    (fun (p : Fleet × Notifier) position => forwardAll p.1 p.2 position) (y.settle, n)
  (y, n.writeAll)

/-- What has been written, line by line. -/
def lines (n : Notifier) : Except UnformattableTime (List String) := n.written.mapM Change.line

end Notifier

/-! ## Sinks -/

/-- Why a socket cannot be connected to. -/
inductive SocketProblem where
  | noPort
  | invalidPort
  | refused
  deriving DecidableEq, Repr, Inhabited

/-- The words for the problem. -/
def SocketProblem.message : SocketProblem → String
  | .noPort => "invalid socket address"
  | .invalidPort => "invalid port value"
  | .refused => "Connection refused (os error 111)"

namespace NotifySink

/-- Reads a TCP port: decimal digits, perhaps behind a plus sign, of a number of 16 bits. -/
def portNumber? (cs : List Char) : Option Nat :=
  let digits :=
    match cs with
    | '+' :: rest => rest
    | cs => cs
  if digits.isEmpty ∨ !digits.all Char.isDigit then none
  else
    let n := Json.decimalNumber digits
    if n < UInt16.size then some n else none

/-- The problem with an address that nobody listens at: it is host and port, with a colon between
them. -/
def addressProblem (address : String) : SocketProblem :=
  let cs := address.toList.reverse
  match cs.dropWhile (· != ':') with
  | [] => .noPort
  | _ :: _ =>
    match portNumber? (cs.takeWhile (· != ':')).reverse with
    | none => .invalidPort
    | some _ => .refused

/-- What is done when a sink is opened. -/
def opening : NotifySink → String
  | .file path => "creating notify file: " ++ path
  | .socket address => "connecting notify socket: " ++ address

end NotifySink

end DeviceRoster
