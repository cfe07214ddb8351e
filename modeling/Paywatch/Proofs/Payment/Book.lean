import Paywatch.Proofs.Payment.Evolution

/-!
# A tracker that keeps a book

The register of sightings knows all sightings there have been.  A tracker can do
with less: a map from outpoints to what is known of the outputs that are not yet
resolved, and a count of those that were discarded.  An output leaves the map when
it is resolved, unless another sighting of the same output has taken its place
there.  This is such a tracker, function by function beside the one with the
register; what has nothing to do with the map is taken from that one.
-/

namespace Paywatch

/-! ## What is known of an output -/

inductive TrackedState where
  | observed
  | confirmed
  | discarded
  deriving DecidableEq, Repr

def TrackedState.ofStanding : Standing → TrackedState
  | .observed => .observed
  | .confirmed => .confirmed

/-- An output as it was first reported, with its state since then. -/
structure TrackedOutput where
  output : Output
  state : TrackedState := .observed
  height : Option Int := none
  subscription : Option Nat := none
  credited : Bool := false
  deriving DecidableEq, Repr

namespace TrackedOutput

/-- What a report makes of an output, and whether a credit is due then. -/
def advance (o : TrackedOutput) (confidence : Confidence) (height : Option Int) :
    TrackedOutput × Bool :=
  if o.credited ∨ o.state = .discarded then (o, false)
  else if confidence = .building then
    if o.state = .observed then ({ o with state := .confirmed, height := height }, true)
    else if o.height = none then ({ o with height := height }, true)
    else (o, true)
  else if confidence.isTerminal ∧ o.state = .observed then
    ({ o with state := .discarded }, false)
  else (o, false)

def phase (o : TrackedOutput) : Phase :=
  if o.credited then .credited
  else match o.state with
    | .observed => .observed
    | .confirmed => .confirmed o.height
    | .discarded => .discarded

/-- The sighting in the register for which an output stands. -/
def sighting (o : TrackedOutput) : Sighting :=
  ⟨o.output, o.phase, o.subscription⟩

end TrackedOutput

/-! ## The book -/

/--
The state of a tracker with a map.  Outputs are made once and then changed where
they are, so that they have numbers; the map holds numbers, in the order in which
they were entered.
-/
structure Book (ω : Type) where
  objects : List TrackedOutput := []
  tracked : List (Outpoint × Nat) := []
  discarded : Nat := 0
  feed : Feed Callback := { receivers := [.received] }
  manner : FeedManner := {}
  ledger : Ledger := {}
  journal : List TrackingEvent := []
  outside : ω

namespace Book

variable {ω α : Type}

/-- The tracker with a register that the book stands for. -/
def register (b : Book ω) : Tracking ω where
  feed := b.feed
  manner := b.manner
  sightings := b.objects.map TrackedOutput.sighting
  ledger := b.ledger
  journal := b.journal
  outside := b.outside

def start (manner : FeedManner) (outside : ω) : Book ω :=
  { manner, outside }

/-! ### What can be asked -/

def tracked? (b : Book ω) (output : Outpoint) : Option Nat :=
  b.tracked.lookup output

/-- The numbers of the tracked outputs of which something holds, in the order of the map. -/
def numbersOf (b : Book ω) (p : TrackedOutput → Bool) : List Nat :=
  (b.tracked.map (·.2)).filter fun number => b.objects[number]?.any p

def trackedCount (b : Book ω) : Nat :=
  b.tracked.length

def pendingCount (b : Book ω) : Nat :=
  (b.numbersOf (·.state = .observed)).length

def state? (b : Book ω) (output : Outpoint) : Option TrackedState :=
  match (b.tracked? output).bind (b.objects[·]?) with
  | some o => some o.state
  | none => if b.ledger.contains output then some .confirmed else none

/-! ### Small steps -/

/-- A step that has nothing to do with the map is taken as it is with the register. -/
def aside (step : Run (Tracking ω) α) : Run (Book ω) α :=
  Run.within register
    (fun t b => { b with
      feed := t.feed
      manner := t.manner
      ledger := t.ledger
      journal := t.journal
      outside := t.outside })
    step

def change (number : Nat) (f : TrackedOutput → TrackedOutput) : Run (Book ω) Unit :=
  modify fun b => { b with objects := b.objects.modify number f }

/-- Take an output out of the map, and count it if it was discarded. -/
def without (b : Book ω) (o : TrackedOutput) : Book ω :=
  { b with
    tracked := b.tracked.filter (·.1 ≠ o.output.outpoint)
    discarded := if o.state = .discarded then b.discarded + 1 else b.discarded }

/-- Forget a resolved output, if it is still the one in the map; the subscription to cancel. -/
def release (number : Nat) : Run (Book ω) (Option Nat) := do
  let b ← get
  match b.objects[number]? with
  | none => return none
  | some o =>
    if b.tracked? o.output.outpoint = some number then
      modify fun b => b.without o
    change number fun o => { o with subscription := none }
    return o.subscription

def cancel : Option Nat → Run (Book ω) Unit
  | none => return
  | some id => aside do
    Tracking.note (.cancelled id)
    modify fun t =>
      if t.manner.keepsCancelled then t else { t with feed := t.feed.unsubscribe id }

/-- Forget a resolved output and cancel its subscription. -/
def resolve (number : Nat) : Run (Book ω) Unit := do
  cancel (← release number)

/-! ### Crediting -/

def settle (number : Nat) (output : Output) (height : Int) (rate : Decimal) :
    Run (Book ω) Bool := do
  let usd ← Run.ofExcept (ofArithmetic (convertToUsd output.satoshi rate))
  if (← get).ledger.contains output.outpoint then
    aside (Tracking.log .debug
      s!"PAYMENT_TRACKER: {output.outpoint.text} credited concurrently, skipping")
    return false
  let total ← aside (Tracking.enter output usd)
  aside (Tracking.note (.credited number output height rate usd))
  change number fun o => { o with credited := true }
  resolve number
  aside <| Tracking.log .info <|
    s!"PAYMENT_TRACKER: Received {usd.text} USD / {output.satoshi} satoshi / " ++
      s!"{height} blockHeight / {rate.text} fx-rate / {output.outpoint.txid} txid " ++
      s!"(total {total.text})"
  return true

def credit (ask : Int → Run (Book ω) Decimal) (number : Nat) : Run (Book ω) Bool := do
  let b ← get
  match b.objects[number]? with
  | none => return false
  | some o =>
    if b.ledger.contains o.output.outpoint then return false
    match o.height with
    | none =>
      aside <| Tracking.log .error
        s!"PAYMENT_TRACKER: No block height for {Tracking.paymentText o.output}, credit deferred"
      return false
    | some height =>
      aside (Tracking.note (.asked number height))
      let answer ← Run.attempt (ask height)
      aside (Tracking.note (.answered number height answer.toOption))
      match answer with
      | .error failure =>
        aside (Tracking.logNoRate o.output height failure)
        return false
      | .ok rate => settle number o.output height rate

def creditAll (ask : Int → Run (Book ω) Decimal) : List Nat → Run (Book ω) Nat
  | [] => return 0
  | number :: numbers => do
    let credited ← credit ask number
    let others ← creditAll ask numbers
    return others + credited.toNat

def retry (ask : Int → Run (Book ω) Decimal) : Run (Book ω) Nat := do
  let waiting := (← get).numbersOf fun o => o.state = .confirmed && !o.credited
  if !waiting.isEmpty then
    aside <| Tracking.log .info
      s!"PAYMENT_TRACKER: Retrying {waiting.length} uncredited confirmed outputs"
  creditAll ask waiting

/-! ### Reports -/

def react (ask : Int → Run (Book ω) Decimal) (number : Nat) (confidence : Confidence)
    (height : Option Int) : Run (Book ω) Unit := do
  match (← get).objects[number]? with
  | none => return
  | some o =>
    aside (Tracking.note (.reported number confidence height))
    let (advanced, due) := o.advance confidence height
    change number fun _ => advanced
    if advanced.state = .discarded then
      if o.state = .observed then
        aside <| Tracking.log .info <|
          s!"PAYMENT_TRACKER: Discarding {o.output.outpoint.text} ({o.output.satoshi} satoshi), " ++
            s!"confidence became {confidence.text}"
      resolve number
    if due then
      discard (credit ask number)

def confidenceChanged (ask : Int → Run (Book ω) Decimal) (output : Outpoint)
    (confidence : Confidence) (height : Option Int) : Run (Book ω) Unit := do
  match (← get).tracked? output with
  | none => return
  | some number => react ask number confidence height

def announce (ask : Int → Run (Book ω) Decimal) (txid : String) (confidence : Confidence)
    (height : Option Int) : Run (Book ω) Nat :=
  Feed.announce (·.feed)
    (fun s => match s.callback with
      | .received => return
      | .confidence output => confidenceChanged ask output confidence height)
    txid

/-! ### Outputs -/

def subscribe (ask : Int → Run (Book ω) Decimal) (output : Outpoint) : Run (Book ω) Nat := do
  let (id, feed) := (← get).feed.subscribe output (.confidence output)
  modify fun b => { b with feed := feed }
  let announced := ((← get).manner.announcedAtOnce.lookup output.txid).getD []
  announced.forM fun (confidence, height) =>
    discard (announce ask output.txid confidence height)
  return id

/-- Subscribe to an output, which may have been discarded by the time that this is done. -/
def follow (ask : Int → Run (Book ω) Decimal) (number : Nat) (output : Output) :
    Run (Book ω) Unit := do
  aside <| Tracking.log .info <|
    s!"PAYMENT_TRACKER: Pending {output.satoshi} satoshi received in {output.outpoint.txid}"
  let id ← subscribe ask output.outpoint
  change number fun o => { o with subscription := some id }
  if ((← get).objects[number]?.map (·.state)) = some .discarded then
    resolve number

/-- Enter a new output into the map. -/
def track (b : Book ω) (output : Output) : Book ω :=
  { b with
    objects := b.objects ++ [{ output := output }]
    tracked := b.tracked ++ [(output.outpoint, b.objects.length)] }

def ignore (number : Nat) (output : Output) : Run (Book ω) Unit := do
  aside <| Tracking.log .warning <|
    s!"PAYMENT_TRACKER: Ignoring {output.outpoint.text} received with confidence " ++
      output.confidence.text
  resolve number

/-- A new output is decided by its first report, or it is followed. -/
def firstReported (ask : Int → Run (Book ω) Decimal) (number : Nat) (output : Output) :
    Run (Book ω) Unit := do
  if output.confidence = .building then
    change number fun o => { o with state := .confirmed, height := output.height }
    discard (credit ask number)
  else if output.confidence.isWaiting then
    follow ask number output
  else
    change number fun o => { o with state := .discarded }
    ignore number output

def observe (ask : Int → Run (Book ω) Decimal) (output : Output) : Run (Book ω) Unit := do
  let number := (← get).objects.length
  modify fun b => b.track output
  aside (Tracking.note (.sighted number output))
  aside (Tracking.note (.reported number output.confidence output.height))
  firstReported ask number output

def outputReceived (ask : Int → Run (Book ω) Decimal) (output : Output) :
    Run (Book ω) Unit := do
  let b ← get
  if b.ledger.contains output.outpoint then return
  if !b.feed.isWatched output.address then return
  match b.tracked? output.outpoint with
  | some number => react ask number output.confidence output.height
  | none => observe ask output

def receive (ask : Int → Run (Book ω) Decimal) (outputs : List Output) :
    Run (Book ω) (List Output) :=
  Feed.deliver (·.feed)
    (fun callback output => match callback with
      | .received => outputReceived ask output
      | .confidence _ => return)
    outputs

/-- Perform an operation; `ask` tells the rate of a block. -/
def perform (ask : Int → Run (Book ω) Decimal) : Tracking.Operation → Run (Book ω) Unit
  | .addAddress address since => aside (Tracking.addAddress address since)
  | .receive outputs => discard (receive ask outputs)
  | .output reported => outputReceived ask reported
  | .announce txid confidence height => discard (announce ask txid confidence height)
  | .callback outpoint confidence height => confidenceChanged ask outpoint confidence height
  | .retry => discard (retry ask)

end Book

end Paywatch
