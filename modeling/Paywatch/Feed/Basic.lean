import Paywatch.Log
import Paywatch.Payment.Output

/-!
# The feed of a blockchain

A feed knows which addresses are watched and whom to call: the receivers of
outputs, and the subscriptions to the confidence of single outputs.  It decides
what is delivered to whom; how a callback of type `κ` is called is up to its
user.
-/

namespace Paywatch

/-- An address, since when it is watched, and what is paid to it. -/
structure Watched where
  address : String
  since : Int
  currency : String
  deriving DecidableEq, Repr

structure Subscription (κ : Type) where
  id : Nat
  output : Outpoint
  callback : κ
  deriving DecidableEq, Repr

/-- The watched addresses and whom to call, each in the order of registration. -/
structure Feed (κ : Type) where
  watched : List Watched := []
  receivers : List κ := []
  subscriptions : List (Subscription κ) := []
  nextId : Nat := 1
  deriving DecidableEq, Repr

namespace Feed

variable {κ : Type}

/-- What is paid to an address unless something else is said. -/
def defaultCurrency : String :=
  "bitcoin"

/-! ## Addresses -/

def entry? (feed : Feed κ) (address : String) : Option Watched :=
  feed.watched.find? (·.address == address)

def isWatched (feed : Feed κ) (address : String) : Bool :=
  (feed.entry? address).isSome

/-- The entries with one entered, in the place of an older one for the same address. -/
def enter (entries : List Watched) (new : Watched) : List Watched :=
  if entries.any (·.address == new.address) then
    entries.map fun old => if old.address == new.address then new else old
  else entries ++ [new]

/--
Watch an address.  An entry that reaches at least as far back stays; an earlier
time replaces it.
-/
def watch (feed : Feed κ) (new : Watched) : Feed κ × LogRecord :=
  let enterNew : Feed κ × LogRecord :=
    ({ feed with watched := enter feed.watched new },
      ⟨.info, s!"BLOCKCHAIN_WATCH: Watching {new.address} since {new.since}", none⟩)
  match feed.entry? new.address with
  | none => enterNew
  | some old =>
    if old.since ≤ new.since then
      (feed,
        ⟨.debug, s!"BLOCKCHAIN_WATCH: {old.address} already watched since {old.since}", none⟩)
    else enterNew

/-! ## Callbacks -/

/-- Call one more receiver about outputs. -/
def addReceiver (feed : Feed κ) (callback : κ) : Feed κ :=
  { feed with receivers := feed.receivers ++ [callback] }

/-- Subscribe to the confidence of an output; also the number of the subscription. -/
def subscribe (feed : Feed κ) (output : Outpoint) (callback : κ) : Nat × Feed κ :=
  (feed.nextId,
    { feed with
      subscriptions := feed.subscriptions ++ [⟨feed.nextId, output, callback⟩]
      nextId := feed.nextId + 1 })

/-- Give a subscription up; a number that is not in use is ignored. -/
def unsubscribe (feed : Feed κ) (id : Nat) : Feed κ :=
  { feed with subscriptions := feed.subscriptions.filter (·.id ≠ id) }

/-! ## Deliveries -/

/-- The outputs of a transaction, numbered from zero. -/
def outputsOf (txid : String) (payments : List (String × Int)) (confidence : Confidence)
    (height : Option Int) : List Output :=
  payments.zipIdx.map fun ((address, satoshi), index) =>
    ⟨⟨txid, index⟩, address, satoshi, confidence, height⟩

def concerns (feed : Feed κ) (outputs : List Output) : Bool :=
  outputs.any fun output => feed.isWatched output.address

/-- Every output to every receiver, output by output. -/
def deliveries (feed : Feed κ) (outputs : List Output) : List (κ × Output) :=
  outputs.flatMap fun output => feed.receivers.map fun receiver => (receiver, output)

/-- The subscriptions that a change of a transaction's confidence concerns. -/
def concernedBy (feed : Feed κ) (txid : String) : List (Subscription κ) :=
  feed.subscriptions.filter (·.output.txid == txid)

end Feed

end Paywatch
