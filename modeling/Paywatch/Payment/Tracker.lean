import Paywatch.Feed.Delivery
import Paywatch.Payment.Conversion
import Paywatch.Payment.Tracking

/-!
# The payment tracker

Every output paid to a watched address is credited once, at the rate of the
first block that is reported for it.  The rate is asked for while anything else
may happen, so that the ledger is looked at again before the credit is made.  A
credit that fails leaves its sighting as it is, for a later report or `retry`.

All operations are parametric in `ask`, the step that tells the rate of a block.
-/

namespace Paywatch

namespace Tracking

variable {ω : Type}

/-! ## Crediting -/

/-- How the log names a payment whose credit is in question. -/
def paymentText (output : Output) : String :=
  s!"utxo in tx {output.outpoint.txid} with satoshi value {output.satoshi}"

def enter (output : Output) (usd : Decimal) : Run (Tracking ω) Decimal := do
  let entered ← Run.attempt <|
    Run.within (·.ledger) (fun ledger t => { t with ledger := ledger })
      (Ledger.commit output.outpoint usd)
  match entered with
  | .error (.duplicateCredit again) =>
    log .critical s!"PAYMENT_TRACKER: Double credit attempted for {again.text}"
    throw (.duplicateCredit again)
  | entered => Run.ofExcept entered

def settle (number : Nat) (output : Output) (height : Int) (rate : Decimal) :
    Run (Tracking ω) Bool := do
  let usd ← Run.ofExcept (ofArithmetic (convertToUsd output.satoshi rate))
  if (← get).isProcessed output.outpoint then
    log .debug s!"PAYMENT_TRACKER: {output.outpoint.text} credited concurrently, skipping"
    return false
  let total ← enter output usd
  note (.credited number output height rate usd)
  change number fun s => { s with phase := .credited }
  release number
  log .info <|
    s!"PAYMENT_TRACKER: Received {usd.text} USD / {output.satoshi} satoshi / " ++
      s!"{height} blockHeight / {rate.text} fx-rate / {output.outpoint.txid} txid " ++
      s!"(total {total.text})"
  return true

def logNoRate (output : Output) (height : Int) (failure : Failure) : Run (Tracking ω) Unit :=
  if failure.isRateFailure then
    log .error <|
      s!"PAYMENT_TRACKER: Could not fetch exchange rate for {paymentText output} " ++
        s!"at block height {height}: {failure.message}"
  else
    log .error
      (s!"PAYMENT_TRACKER: Exchange rate lookup crashed for {paymentText output} " ++
        s!"at block height {height}: {failure.message}")
      (some failure)

/-- Try to credit a confirmed sighting; was it credited by this try? -/
def credit (ask : Int → Run (Tracking ω) Decimal) (number : Nat) : Run (Tracking ω) Bool := do
  let t ← get
  match t.sightings[number]? with
  | none => return false
  | some s =>
    if t.isProcessed s.outpoint then return false
    match s.phase.height? with
    | none =>
      log .error s!"PAYMENT_TRACKER: No block height for {paymentText s.output}, credit deferred"
      return false
    | some height =>
      note (.asked number height)
      let answer ← Run.attempt (ask height)
      note (.answered number height answer.toOption)
      match answer with
      | .error failure =>
        logNoRate s.output height failure
        return false
      | .ok rate => settle number s.output height rate

/-! ## Reports -/

/-- Apply a report to an open sighting, and try to credit it when it is in a block. -/
def react (ask : Int → Run (Tracking ω) Decimal) (number : Nat) (confidence : Confidence)
    (height : Option Int) : Run (Tracking ω) Unit := do
  match (← get).sightings[number]? with
  | none => return
  | some s =>
    note (.reported number confidence height)
    let phase := s.phase.advance confidence height
    change number fun s => { s with phase := phase }
    if phase = .discarded then
      log .info <|
        s!"PAYMENT_TRACKER: Discarding {s.outpoint.text} ({s.output.satoshi} satoshi), " ++
          s!"confidence became {confidence.text}"
      release number
    if confidence = .building then
      discard (credit ask number)

/-- A report on the confidence of an output; of no concern unless its sighting is open. -/
def confidenceChanged (ask : Int → Run (Tracking ω) Decimal) (output : Outpoint)
    (confidence : Confidence) (height : Option Int) : Run (Tracking ω) Unit := do
  match (← get).open? output with
  | none => return
  | some number => react ask number confidence height

/-- Report a change of a transaction's confidence to all who subscribed to it. -/
def announce (ask : Int → Run (Tracking ω) Decimal) (txid : String) (confidence : Confidence)
    (height : Option Int) : Run (Tracking ω) Nat :=
  Feed.announce (·.feed)
    (fun s => match s.callback with
      | .received => return
      | .confidence output => confidenceChanged ask output confidence height)
    txid

/-! ## Outputs -/

/-- Subscribe to the confidence of an output, during which the feed may announce changes. -/
def subscribe (ask : Int → Run (Tracking ω) Decimal) (output : Outpoint) :
    Run (Tracking ω) Nat := do
  let (id, feed) := (← get).feed.subscribe output (.confidence output)
  modify fun t => { t with feed := feed }
  let announced := ((← get).manner.announcedAtOnce.lookup output.txid).getD []
  announced.forM fun (confidence, height) =>
    discard (announce ask output.txid confidence height)
  return id

/-- Follow an undecided output until the network decides. -/
def follow (ask : Int → Run (Tracking ω) Decimal) (number : Nat) (output : Output) :
    Run (Tracking ω) Unit := do
  log .info <|
    s!"PAYMENT_TRACKER: Pending {output.satoshi} satoshi received in {output.outpoint.txid}"
  let id ← subscribe ask output.outpoint
  change number fun s => { s with subscription := some id }
  if ((← get).sightings[number]?.map (·.phase)) = some .discarded then
    release number

def observe (ask : Int → Run (Tracking ω) Decimal) (output : Output) :
    Run (Tracking ω) Unit := do
  let number := (← get).sightings.length
  let phase := Phase.atFirst output.confidence output.height
  modify fun t => { t with sightings := t.sightings ++ [⟨output, phase, none⟩] }
  note (.sighted number output)
  note (.reported number output.confidence output.height)
  match phase with
  | .confirmed _ => discard (credit ask number)
  | .discarded =>
    log .warning <|
      s!"PAYMENT_TRACKER: Ignoring {output.outpoint.text} received with confidence " ++
        output.confidence.text
  | _ => follow ask number output

/-- A report of an output; of no concern when it is credited or pays nobody watched. -/
def outputReceived (ask : Int → Run (Tracking ω) Decimal) (output : Output) :
    Run (Tracking ω) Unit := do
  let t ← get
  if t.isProcessed output.outpoint then return
  if !t.feed.isWatched output.address then return
  match t.open? output.outpoint with
  | some number => react ask number output.confidence output.height
  | none => observe ask output

/-- A transaction reaches the feed; the outputs that were delivered. -/
def receive (ask : Int → Run (Tracking ω) Decimal) (outputs : List Output) :
    Run (Tracking ω) (List Output) :=
  Feed.deliver (·.feed)
    (fun callback output => match callback with
      | .received => outputReceived ask output
      | .confidence _ => return)
    outputs

/-! ## What the operator does -/

def addAddress (address : String) (since : Int) : Run (Tracking ω) Unit := do
  log .info s!"PAYMENT_TRACKER: Add monitored Bitcoin address {address}"
  let (feed, record) := (← get).feed.watch ⟨address, since, Feed.defaultCurrency⟩
  modify fun t => { t with feed := feed }
  note (.logged record)

/-- Try to credit some sightings one after the other; how many were credited. -/
def creditAll (ask : Int → Run (Tracking ω) Decimal) : List Nat → Run (Tracking ω) Nat
  | [] => return 0
  | number :: numbers => do
    let credited ← credit ask number
    let others ← creditAll ask numbers
    return others + credited.toNat

/-- Try once more to credit every sighting that waits for it; how many were credited. -/
def retry (ask : Int → Run (Tracking ω) Decimal) : Run (Tracking ω) Nat := do
  let waiting := (← get).awaitingCredit
  if !waiting.isEmpty then
    log .info s!"PAYMENT_TRACKER: Retrying {waiting.length} uncredited confirmed outputs"
  creditAll ask waiting

end Tracking

end Paywatch
