import LogicAnalyzer.Capture.Sink
import LogicAnalyzer.Session.Settings
import LogicAnalyzer.Stream.Decoder

/-!
# Driving a capture

A controller owns a session and a sink and takes one capture after another through its
life.  Starting tells the device the masks, arms it and submits all reads.  From then on
every event is the report of a read: its bytes are decoded and delivered, and its buffer is
submitted again.  A capture ends because it is stopped, because all wanted samples are
there, because the device is done, or because something failed.  Whichever comes first
begins the stop: all reads are cancelled, and once the last one is back the device is shut
down and the trailer delivered.

Nothing happens between the operations; each takes the controller and gives its result and
the controller after it.

## Main definitions

* `Acquisition`: the capture that is running
* `Controller τ σ`: a session over a transport `τ`, delivering to a sink `σ`
* `Controller.start`, `requestStop`: beginning a capture and its end
* `Controller.dispatch`, `poll`: what one event does
* `Controller.pollUntil`, `run`: polling until the capture has ended
* `Controller.close`: giving everything back
* `deliveries`: what a decoded chunk delivers
-/

namespace LogicAnalyzer

/-- **What samples and triggers deliver**: batches that are cut where triggers fired.  The
samples start at `firstIndex`; no batch is empty. -/
def deliveries (channels : ChannelSet) (firstIndex : Nat) (samples : List UInt64) :
    (triggers : List Nat) → List StreamEvent
  | [] => if samples.isEmpty then [] else [.samples ⟨firstIndex, channels, samples⟩]
  | trigger :: rest =>
    let cut := min (trigger - firstIndex) samples.length
    let batch : List StreamEvent :=
      if cut = 0 then [] else [.samples ⟨firstIndex, channels, samples.take cut⟩]
    batch ++ .trigger trigger ::
      deliveries channels (firstIndex + cut) (samples.drop cut) rest

/-- The capture that is running. -/
structure Acquisition where
  pool : TransferPool
  /-- The stream as far as it is decoded. -/
  decoder : StreamDecoder
  /-- The channels that are recorded. -/
  channels : ChannelSet
  /-- Whether the end has begun. -/
  stopping : Bool := false
  /-- Whether the end has begun because something failed. -/
  failed : Bool := false
  /-- Why the capture ends, once that has begun. -/
  ending : Option EndReason := none
deriving DecidableEq

namespace Acquisition

/-- Parks a buffer that is not read into again. -/
def park (a : Acquisition) (delivery : ReadEvent) : Acquisition :=
  { a with pool := a.pool.park delivery.slot delivery.buffer }

end Acquisition

/-- What an operation tells about the capture. -/
inductive Progress where
  | idle
  | running
  | finished (trailer : StreamTrailer)
deriving DecidableEq, Repr

/-- A session with its captures, delivering to a sink. -/
structure Controller (τ σ : Type) where
  /-- The device and its settings. -/
  session : Session τ
  sink : σ
  /-- The capture that is running. -/
  acquisition : Option Acquisition := none
  /-- The trailer of the last capture, until the next one starts. -/
  lastTrailer : Option StreamTrailer := none
  /-- How many reads a capture keeps out. -/
  poolSize : Nat := TransferPool.standardSize
  /-- How large their buffers are. -/
  bufferSize : Nat := TransferPool.standardBufferSize
deriving DecidableEq

namespace Controller

variable {τ σ : Type}

/-- How many polls closing allows for the reads to come back. -/
def maxClosePolls : Nat := 50

/-- A controller without a capture. -/
def new (session : Session τ) (sink : σ) : Controller τ σ where
  session := session
  sink := sink

/-- Chooses number and size of the reads; one read is the least. -/
def withTransferPool (c : Controller τ σ) (poolSize bufferSize : Nat) : Controller τ σ :=
  { c with poolSize := max poolSize 1, bufferSize }

/-- Whether a capture is running. -/
def isAcquiring (c : Controller τ σ) : Bool := c.acquisition.isSome

/-- Whether a capture is running whose end has begun. -/
def isStopping (c : Controller τ σ) : Bool := c.acquisition.any Acquisition.stopping

/-- How many reads are out. -/
def outstanding (c : Controller τ σ) : Nat := (c.acquisition.map (·.pool.outstanding)).getD 0

/-- Applies an operation of the session. -/
def onSession {α : Type} (c : Controller τ σ) (operation : Session τ → α × Session τ) :
    α × Controller τ σ :=
  let (result, session) := operation c.session
  (result, { c with session })

/-- The controller with another state of the transport. -/
def withTransport (c : Controller τ σ) (transport : τ) : Controller τ σ :=
  { c with session := { c.session with transport } }

variable [Transport τ] [Sink σ]

/-! ## The stop -/

/-- **The end of a capture begins**, unless it has begun already: the first reason stays. -/
def beginStop (c : Controller τ σ) (reason : EndReason) : Controller τ σ :=
  match c.acquisition with
  | none => c
  | some a =>
    if a.stopping then c
    else
      let (pool, transport) := a.pool.cancelAll c.session.transport
      { c with
        session := { c.session with transport }.beginStop
        acquisition := some { a with pool, stopping := true, ending := some reason } }

/-- **Something failed.**  Only the first failure counts, and only if the end has not begun. -/
def abort (c : Controller τ σ) (reason : AbortReason) : Controller τ σ :=
  match c.acquisition with
  | none => c
  | some a =>
    if a.failed || a.stopping then c
    else { c with acquisition := some { a with failed := true } }.beginStop (.aborted reason)

/-- The capture is over: the device is shut down, as far as it obeys, and the trailer is
delivered. -/
def finish (c : Controller τ σ) (a : Acquisition) : StreamTrailer × Controller τ σ :=
  let trailer : StreamTrailer := ⟨a.decoder.emitted, a.ending.getD .stopped⟩
  let session := (c.session.send Command.shutdown.frame).2.finishStop
  (trailer,
    { c with
      session
      sink := Sink.take c.sink (.trailer trailer)
      acquisition := none
      lastTrailer := some trailer })

/-- Ends the capture if its end has begun and all reads are back. -/
def finishIfDrained (c : Controller τ σ) : Progress × Controller τ σ :=
  match c.acquisition with
  | none => (.idle, c)
  | some a =>
    if a.stopping && a.pool.isDrained then
      let (trailer, c) := c.finish a
      (.finished trailer, c)
    else (.running, c)

/-- **Asks for the end of the capture.**  It comes once all reads are back. -/
def requestStop (c : Controller τ σ) : Except Failure Unit × Controller τ σ :=
  if c.session.status ≠ .active then (.error (.session (.notActive c.session.status)), c)
  else if c.acquisition.isNone then (.error (.session .noAcquisition), c)
  else (.ok (), (c.beginStop .stopped).finishIfDrained.2)

/-! ## The start -/

/-- Sends commands until one is refused. -/
def sendEach (t : τ) : List Frame → Except TransferError Unit × τ
  | [] => (.ok (), t)
  | frame :: rest =>
    match Transport.send t frame with
    | (.ok (), t) => sendEach t rest
    | (.error e, t) => (.error e, t)

/-- Tells the device what to do and submits all reads.  If that fails half way, the reads that
are out already are given up on. -/
def launch (t : τ) (pool : TransferPool) (commands : List Frame) :
    Option (Except TransferError TransferPool × τ) :=
  match sendEach t commands with
  | (.error e, t) => some (.error e, t)
  | (.ok (), t) =>
    match pool.submitAll t with
    | (.ok _, pool, t) => some (.ok pool, t)
    | (.error e, pool, t) => (pool.abandon t).map fun (_, t) => (.error e, t)

/-- What a capture needs before the device is told anything: a pool, and the two commands. -/
def prepare (c : Controller τ σ) (rate : UInt64) : Except Failure (TransferPool × List Frame) := do
  let pool ← (TransferPool.allocate c.poolSize c.bufferSize).mapError .allocation
  let encode := fun command =>
    (Command.encode c.session.model.channelCount command).mapError Failure.command
  let configure ← encode (.configureTriggers c.session.masks)
  let arm ← encode (.arm rate c.session.sampleLimit)
  return (pool, [configure, arm])

/-- The controller once the device is told and all reads are out. -/
def begun (c : Controller τ σ) (rate : UInt64) (pool : TransferPool) (transport : τ) :
    Controller τ σ :=
  let session := c.session
  let channels := session.masks.channels
  let decoder := StreamDecoder.start session.model.recordWidth channels session.sampleLimit
  let header : StreamHeader := ⟨session.model, rate, session.sampleLimit, channels⟩
  { c.withTransport transport with
    acquisition := some { pool, decoder, channels }
    lastTrailer := none
    sink := Sink.take c.sink (.header header) }

/-- **Starts a capture** with the settings of the session as they are now.  If it fails, no
capture is running and the session is as active as before.  It does not come back if the
transport refuses a read and then reports events of no read of the capture for ever. -/
def start (c : Controller τ σ) : Option (Except Failure Unit × Controller τ σ) :=
  if c.session.status ≠ .active then some (.error (.session (.notActive c.session.status)), c)
  else if c.acquisition.isSome then some (.error (.session .acquisitionInProgress), c)
  else
    let rate := c.session.sampleRate.getD SampleRate.standard
    match c.prepare rate with
    | .error e => some (.error e, c)
    | .ok (pool, commands) =>
      (launch c.session.transport pool commands).map fun
        | (.error e, transport) => (.error (.transfer e), c.withTransport transport)
        | (.ok pool, transport) => (.ok (), c.begun rate pool transport)

/-! ## Events -/

/-- Decodes and delivers the bytes of a read.  A corrupt stream ends the capture before a
reached limit does, that before the end reported by the device, and if there is no reason
to end it the buffer is submitted again. -/
def receive (c : Controller τ σ) (a : Acquisition) (delivery : ReadEvent) : Controller τ σ :=
  let (decoded, decoder) := a.decoder.feed delivery.buffer.bytes
  let firstIndex := decoder.emitted - decoded.samples.length
  let events := deliveries a.channels firstIndex decoded.samples decoded.triggers
  let a := { a with decoder }
  let c := { c with sink := Sink.takeAll c.sink events }
  let parked := { c with acquisition := some (a.park delivery) }
  match decoded.corruption with
  | some cause => parked.abort (.corruption cause)
  | none =>
    if decoded.limitReached then parked.beginStop .limitReached
    else if decoded.captureDone then parked.beginStop .deviceDone
    else
      match a.pool.resubmit c.session.transport delivery.slot delivery.buffer with
      | (.ok (), pool, transport) =>
        { c.withTransport transport with acquisition := some { a with pool } }
      | (.error e, pool, transport) =>
        { c.withTransport transport with acquisition := some { a with pool } }.abort (.transfer e)

/-- **What one event does.**  Events that are not the report of a read of the capture do
nothing. -/
def dispatch (c : Controller τ σ) (event : ReadEvent) : Progress × Controller τ σ :=
  match c.acquisition with
  | none => (.idle, c)
  | some a =>
    match a.pool.accept event with
    | (none, _) => c.finishIfDrained
    | (some delivery, pool) =>
      let a := { a with pool }
      let parked := { c with acquisition := some (a.park delivery) }
      let c :=
        match delivery.outcome with
        | .cancelled => parked
        | .failed e => parked.abort (.transfer e)
        | .received => if a.stopping || a.failed then parked else c.receive a delivery
      c.finishIfDrained

/-- Takes one event from the transport, if one is ready. -/
def poll (c : Controller τ σ) : Progress × Controller τ σ :=
  if c.acquisition.isNone then (.idle, c)
  else
    match Transport.next c.session.transport with
    | (some event, transport) => (c.withTransport transport).dispatch event
    | (none, transport) => (c.withTransport transport).finishIfDrained

/-! ## Polling to the end -/

/-- Polls until something else than `running` comes back, at most `limit` times, and counts
the polls. -/
def pollUntil : (limit : Nat) → Controller τ σ → Nat × Progress × Controller τ σ
  | 0, c => (0, .running, c)
  | limit + 1, c =>
    match c.poll with
    | (.running, c) =>
      let (polls, progress, c) := pollUntil limit c
      (polls + 1, progress, c)
    | (progress, c) => (1, progress, c)

/-- Polls once, and says how the capture has ended if it has. -/
def runNext (c : Controller τ σ) :
    Controller τ σ ⊕ (Except Failure StreamTrailer × Controller τ σ) :=
  match c.poll with
  | (.running, c) => .inl c
  | (.finished trailer, c) => .inr (.ok trailer, c)
  | (.idle, c) =>
    match c.lastTrailer with
    | some trailer => .inr (.ok trailer, c)
    | none => .inr (.error (.session .noAcquisition), c)

/-- **Polls until the capture has ended.**  It does not come back from a capture that never
does. -/
def run (c : Controller τ σ) : Option (Except Failure StreamTrailer × Controller τ σ) :=
  loop runNext c

/-- **Gives the transport and the sink back.**  A running capture is stopped first and given a
number of polls to come to its end; the device is shut down either way. -/
def close (c : Controller τ σ) : τ × σ :=
  let c := if c.isAcquiring then (pollUntil maxClosePolls (c.beginStop .stopped)).2.2 else c
  (c.session.close, c.sink)

end Controller

end LogicAnalyzer
