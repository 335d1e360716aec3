import LogicAnalyzer.Proofs.Capture.Completion
import LogicAnalyzer.Proofs.Capture.Exports
import LogicAnalyzer.Proofs.Program.Counter

/-!
# What the simulated capture tells

The simulated device streams a counter with a trigger behind its first quarter, and reports the end.
All that the program tells of the capture follows from the count and the limit that it is asked for:
how many samples there were, why it ended, whether the trigger came in time, and how often the lowest
channels changed.

## Main definitions

* `SimulatedCapture.summary`: what is told, from the count and the limit
* `SimulatedCapture.ready`: the controller just before the start
* `SimulatedCapture.Comes`: what steps of the program come to

## Main results

* `SimulatedCapture.exists_outcome`: what the capture leaves behind
* `SimulatedCapture.Tallied.comes_report`: what is told of it
* `SimulatedCapture.told_in_closed_form`: what the program tells
-/

namespace LogicAnalyzer.Program.SimulatedCapture

open Rehearsal (Rehearsing)

/-! ## Up to the start -/

/-- The masks that the plan compiles to. -/
def watched : TriggerMasks :=
  { channels := ⟨0xffff⟩, triggers := ⟨1⟩, edges := ⟨1⟩, levels := ⟨1⟩ }

theorem build_plan : plan.build = .ok watched := by decide

/-- What the device streams: a quarter of the counter, the trigger, and the rest. -/
def script (count : Nat) : List StreamPart :=
  [.records ((counter count).take (count / 4)), .trigger,
    .records ((counter count).drop (count / 4))]

/-- **The controller just before the start**, with these bytes to be streamed. -/
def ready (stream : List UInt8) (limit : UInt64) : Rehearsing where
  session :=
    { transport := { model, stream, commands := [(Command.selectClock .internal).frame] }
      model
      status := .active
      sampleRate := some SampleRate.standard
      sampleLimit := limit
      masks := watched }
  sink := {}

/-- **The device** has the script to stream, and the notice that the capture is complete. -/
theorem device_eq {count : Nat} {bytes : List UInt8}
    (h : Script.encode model.recordWidth (script count) = some bytes) :
    device count =
      some { model, stream := bytes ++ Response.captureDone.frame.toBytes } := by
  simp only [script, Script.encode, StreamPart.encode, Option.bind_eq_bind, Option.bind_some,
    Option.bind_eq_some_iff, Option.pure_def, Option.some.injEq] at h
  obtain ⟨before, hbefore, _, ⟨_, ⟨after, hafter, rfl⟩, rfl⟩, rfl⟩ := h
  simp [device, SimulatedDevice.queueSamples, SimulatedDevice.queueTrigger,
    SimulatedDevice.queueCaptureDone, SimulatedDevice.queue, hbefore, hafter]

/-- **The device is brought up and configured**: up to the start nothing depends on what is
streamed, and every step works. -/
theorem prepare_eq (stream : List UInt8) (limit : UInt64) :
    prepare { model, stream } limit = .ok (ready stream limit) := by
  have hplan : plan.build.mapError Failure.trigger = .ok watched := by rw [build_plan]; rfl
  rw [prepare]
  simp only [hplan]
  rfl

/-- **The capture** is started on the controller that is ready, and run to its end. -/
theorem capture_eq {request : Request} {stream : List UInt8} {started after : Rehearsing}
    {trailer : StreamTrailer} (hdevice : device request.samples.toNat = some { model, stream })
    (hstart : (ready stream request.limit).start = some (.ok (), started))
    (hrun : started.run = some (.ok trailer, after)) :
    capture request = some (.ok ⟨trailer, after.close.1, after.close.2⟩) := by
  simp only [capture, hdevice, Option.bind_eq_bind, Option.bind_some, prepare_eq, hstart, hrun]
  rfl

/-- The header of the recording. -/
def recordedHeader (limit : UInt64) : StreamHeader :=
  ⟨model, SampleRate.standard, limit, watched.channels⟩

/-- **The start works**, whatever is streamed and however much is wanted.  The device has accepted
three commands then, and the recording has its header. -/
theorem exists_started (stream : List UInt8) (limit : UInt64) :
    ∃ started, (ready stream limit).start = some (.ok (), started) ∧
      started.session.transport.commands.length = 3 ∧
      started.sink.header = some (recordedHeader limit) := by
  have hoffered : SampleRate.standard ∈ SampleRate.offered := by decide
  have hmasks : watched.check model.channelCount = .ok () := by decide
  obtain ⟨pool, hpool⟩ : ∃ pool, TransferPool.allocate (ready stream limit).poolSize
      (ready stream limit).bufferSize = .ok pool := ⟨_, rfl⟩
  have hprepare : (ready stream limit).prepare SampleRate.standard =
      .ok (pool, [(Command.configureTriggers watched).frame,
        (Command.arm SampleRate.standard limit).frame]) :=
    Controller.prepare_eq_ok.mpr ⟨hpool, _, _, Command.encode_configureTriggers hmasks,
      Command.encode_arm hoffered limit, rfl⟩
  obtain ⟨started, hstart⟩ :=
    Controller.start_of_faultless (c := ready stream limit) ⟨rfl, rfl, rfl, rfl⟩ rfl rfl rfl hprepare
  obtain ⟨hcommands, hsink⟩ := Controller.told_of_start hstart rfl
  refine ⟨started, hstart, ?_, ?_⟩
  · rw [hcommands]
    rfl
  · rw [hsink]
    rfl

/-! ## What the capture leaves behind -/

/-- How many samples are wanted of so many under a limit. -/
def wanted (count limit : Nat) : Nat := if limit = 0 then count else min limit count

/-- **What the capture leaves behind**, from the count and the limit: as many samples of the counter as
are wanted, the trigger if it came in time, and four commands. -/
structure Tallied (count : Nat) (limit : UInt64) (outcome : Outcome) : Prop where
  header : outcome.recording.header = some (recordedHeader limit)
  samples : outcome.recording.samples = counter (wanted count limit.toNat)
  triggers : outcome.recording.triggers = [count / 4].filter (inTime limit)
  delivered : outcome.trailer.samples = wanted count limit.toNat
  reason : outcome.trailer.reason =
    if inTime limit count then .deviceDone else .limitReached
  commands : outcome.device.commands.length = 4

theorem within_counter (limit : UInt64) (count : Nat) :
    within limit (counter count) = counter (wanted count limit.toNat) := by
  rw [within, wanted]
  simp only [toNat_limit_eq_zero]
  split
  · rfl
  · exact take_counter count limit.toNat

theorem samples_script (count : Nat) : Script.samples (script count) = counter count := by
  simp [script, Script.samples]

theorem triggers_script (count : Nat) : Script.triggers 0 (script count) = [count / 4] := by
  have hquarter : min (count / 4) count = count / 4 := Nat.min_eq_left (Nat.div_le_self ..)
  simp [script, Script.triggers, length_counter, hquarter]

/-- **There is an outcome**, whatever is asked for. -/
theorem exists_outcome (request : Request) :
    ∃ outcome, capture request = some (.ok outcome) ∧
      Tallied request.samples.toNat request.limit outcome := by
  generalize hcount : request.samples.toNat = count
  obtain ⟨bytes, hencode⟩ : ∃ bytes, Script.encode model.recordWidth (script count) = some bytes :=
    Script.exists_encode (by decide) (by decide) _
  have hdevice := device_eq hencode
  rw [← hcount] at hdevice
  generalize hstream : bytes ++ Response.captureDone.frame.toBytes = stream at hdevice
  have hreads : StreamDecoder.Reads model.recordWidth watched.channels request.limit bytes _ _ :=
    .of_script (by decide) hencode
  rw [samples_script, triggers_script] at hreads
  have houtcome := hreads.outcome
  rw [hstream, within_counter, length_counter] at houtcome
  obtain ⟨started, hstart, hcommands, hheader⟩ := exists_started stream request.limit
  let before := ready stream request.limit
  have hconclusive : (Rehearsal.newDecoder before).Conclusive stream := hstream ▸ hreads.conclusive
  have hreason : ((Rehearsal.newDecoder before).outcome stream).reason ≠ none := by
    intro hnone
    cases hnone.symm.trans (congrArg Outcome.reason houtcome)
  have hmoves : before.session.transport.stream ++ Rehearsal.Move.bytes [] = stream :=
    List.append_nil _
  have hpool : (before.withTransferPool TransferPool.standardSize
    TransferPool.standardBufferSize).start = some (.ok (), started) := hstart
  obtain ⟨running, trailer, idle, after, hfollow, hcomes⟩ :=
    Rehearsal.comesTo_of_start ⟨rfl, rfl, rfl, rfl⟩ rfl hpool hconclusive hreason hmoves
      (Nat.le_refl _)
  have hrun := Rehearsal.run_of_follow hfollow
  have hclose : after.close = (after.session.transport, after.sink) := by
    rw [Controller.close, Controller.isAcquiring_eq_false.mpr hcomes.idle, Session.close,
      if_neg Bool.false_ne_true, if_pos hcomes.status]
  have hkept := Rehearsal.header_follow (stream.length + max TransferPool.standardSize 1) started
  rw [show Rehearsal.follow started (List.replicate _ .poll) = _ from hfollow] at hkept
  have hsamples : after.sink.samples = counter (wanted count request.limit.toNat) :=
    (hcomes.samples.trans (congrArg Outcome.samples houtcome)).trans (cut_counter _)
  have hdelivered := hcomes.count
  rw [← hcomes.samples, hsamples, length_counter] at hdelivered
  refine ⟨_, capture_eq hdevice hstart hrun, ?_⟩
  rw [hclose]
  exact
    { header := hkept.trans hheader
      samples := hsamples
      triggers := hcomes.triggers.trans (congrArg Outcome.triggers houtcome)
      delivered := hdelivered
      reason := Option.some.inj (hcomes.reason.trans (congrArg Outcome.reason houtcome))
      commands := by rw [hcomes.commands, List.length_append, hcommands]; rfl }

/-! ## What is told -/

/-- The line about a channel: the transitions of its digit. -/
def channelLine (count limit channel : Nat) : String :=
  s!"  CH{channel + 1}: {(wanted count limit - 1) / 2 ^ channel} transitions\n"

/-- **What is told**, from the count and the limit. -/
def summary (count limit : Nat) : String :=
  s!"Captured {wanted count limit} samples (" ++
    (if 0 < limit ∧ limit ≤ count then "LimitReached" else "DeviceDone") ++ ")\n" ++
    "Device saw 4 commands\n" ++
    (if limit = 0 ∨ count / 4 < limit then s!"Trigger at sample [{count / 4}]\n" else "") ++
    String.join ((List.range 4).map (channelLine count limit))

variable {count : Nat} {limit : UInt64} {outcome : Outcome}

/-- **The transitions of a channel** are those of a digit. -/
theorem Tallied.transitions (h : Tallied count limit outcome) {channel : Nat} (hlow : channel < 16) :
    transitions (outcome.recording.samples.map (levelOf · channel)) =
      (wanted count limit.toNat - 1) / 2 ^ channel := by
  rw [h.samples, levels_counter _ hlow, transitions_testBit]

/-- **The reason** is the limit, if there were as many samples as wanted. -/
theorem Tallied.reasonText (h : Tallied count limit outcome) :
    reasonText outcome.trailer.reason =
      if 0 < limit.toNat ∧ limit.toNat ≤ count then "LimitReached" else "DeviceDone" := by
  rw [h.reason]
  by_cases hintime : inTime limit count = true
  · have hlimit := inTime_iff.mp hintime
    rw [if_pos hintime, if_neg (by omega)]
    rfl
  · have hlimit := mt inTime_iff.mpr hintime
    rw [if_neg hintime, if_pos (by omega)]
    rfl

/-! ## What steps come to -/

section Steps

variable {ε α β : Type} {steps : Steps ε α} {next : α → Steps ε β} {a : α} {stop : Stop ε}
  {result : Except (Stop ε) β} {deeds rest : List Deed}

/-- **What steps come to**: their result, and the deeds that they add to those before. -/
def Comes (steps : Steps ε α) (result : Except (Stop ε) α) (deeds : List Deed) : Prop :=
  ∀ before, steps.run.run before = (result, before ++ deeds)

theorem comes_pure (a : α) : Comes (pure a : Steps ε α) (.ok a) [] := by
  intro before
  rw [List.append_nil]
  rfl

theorem comes_act (deed : Deed) : Comes (act deed : Steps ε Unit) (.ok ()) [deed] := fun _ => rfl

theorem comes_require_ok (a : α) : Comes (require (.ok a) : Steps ε α) (.ok a) [] := comes_pure a

theorem comes_require_error (e : ε) :
    Comes (require (.error e) : Steps ε α) (.error (.table e)) [] := by
  intro before
  rw [List.append_nil]
  rfl

/-- Steps that come to something are gone on from, -/
theorem Comes.bind (h : Comes steps (.ok a) deeds) (hnext : Comes (next a) result rest) :
    Comes (steps >>= next) result (deeds ++ rest) := by
  intro before
  rw [ExceptT.run_bind, StateT.run_bind, h before]
  exact (hnext (before ++ deeds)).trans (by rw [List.append_assoc])

/-- and nothing is done behind those that break off. -/
theorem Comes.bind_error (h : Comes steps (.error stop) deeds) :
    Comes (steps >>= next) (.error stop) deeds := by
  intro before
  rw [ExceptT.run_bind, StateT.run_bind, h before]
  rfl

theorem Comes.forM {items : List α} {act : α → Steps ε PUnit} {deed : α → Deed}
    (h : ∀ item ∈ items, Comes (act item) (.ok ()) [deed item]) :
    Comes (items.forM act) (.ok ()) (items.map deed) := by
  induction items with
  | nil => exact comes_pure ()
  | cons item items ih =>
    exact (h item List.mem_cons_self).bind (ih fun other hmem => h other (List.mem_cons_of_mem _ hmem))

end Steps

variable {ε : Type} {library : TableLibrary ε}

/-- **A channel** is told of from its column. -/
theorem Tallied.comes_reportChannel (h : Tallied count limit outcome) (hlibrary : library.Lawful)
    {channel : Nat} (hlow : channel < 16) :
    Comes (reportChannel library (Recording.sheet (recordedHeader limit) outcome.recording.samples)
      channel) (.ok ()) [.tells (channelLine count limit.toNat channel)] := by
  have hrecorded : ∀ channel < 16, watched.channels.contains channel = true := by decide
  have hcolumn : library.column (Recording.sheet (recordedHeader limit) outcome.recording.samples)
      (model.channelName channel) =
        .ok (.levels (outcome.recording.samples.map (levelOf · channel))) :=
    Recording.column_eq_ok hlibrary (hrecorded channel hlow)
  have hlt : channel < ChannelSet.capacity := Nat.lt_trans hlow (by decide)
  have hline : "  " ++ model.channelName channel ++
      s!": {SimulatedCapture.transitions (outcome.recording.samples.map (levelOf · channel))} transitions\n" =
        channelLine count limit.toNat channel := by
    rw [channelLine, h.transitions hlow, Model.channelName_eq _ hlt]
    apply String.toList_inj.mp
    simp [toString]
  unfold reportChannel
  dsimp only
  rw [hcolumn]
  refine (comes_require_ok _).bind ?_
  rw [hlibrary.levels]
  refine (comes_require_ok _).bind ?_
  exact hline ▸ comes_act _

/-- **The trigger** is told of, if it came in time. -/
theorem Tallied.comes_reportTriggers (h : Tallied count limit outcome) :
    Comes (reportTriggers outcome.recording.triggers : Steps ε Unit) (.ok ())
      (if limit.toNat = 0 ∨ count / 4 < limit.toNat then
        [.tells s!"Trigger at sample [{count / 4}]\n"] else []) := by
  rw [h.triggers]
  by_cases hintime : inTime limit (count / 4) = true
  · have hlist : "Trigger at sample " ++ listText [count / 4] ++ "\n" =
        s!"Trigger at sample [{count / 4}]\n" := by
      apply String.toList_inj.mp
      simp [listText, toString]
    rw [if_pos (inTime_iff.mp hintime), List.filter_cons_of_pos hintime, ← hlist]
    exact comes_act _
  · rw [if_neg (mt inTime_iff.mpr hintime), List.filter_cons_of_neg hintime]
    exact comes_pure ()

/-- What is told of the capture, one deed after another. -/
def reportDeeds (count limit : Nat) : List Deed :=
  [.tells (s!"Captured {wanted count limit} samples (" ++
    (if 0 < limit ∧ limit ≤ count then "LimitReached" else "DeviceDone") ++ ")\n")] ++
  ([.tells s!"Device saw {4} commands\n"] ++
  ((if limit = 0 ∨ count / 4 < limit then [.tells s!"Trigger at sample [{count / 4}]\n"] else []) ++
  ([] ++ (List.range 4).map fun channel => .tells (channelLine count limit channel))))

/-- **The capture is told of.** -/
theorem Tallied.comes_report (h : Tallied count limit outcome) (hlibrary : library.Lawful) :
    Comes (report library outcome) (.ok ()) (reportDeeds count limit.toNat) := by
  have hlow : model.channels.toList.take reportedChannels = List.range 4 := by decide
  have hchannels : Comes ((List.range 4).forM (reportChannel library
      (Recording.sheet (recordedHeader limit) outcome.recording.samples))) (.ok ())
      ((List.range 4).map fun channel => .tells (channelLine count limit.toNat channel)) :=
    Comes.forM fun channel hchannel =>
      h.comes_reportChannel hlibrary (Nat.lt_trans (List.mem_range.mp hchannel) (by decide))
  unfold report
  rw [h.reasonText, h.delivered, h.commands, hlow, Recording.table_eq_ok hlibrary h.header]
  refine (comes_act _).bind ((comes_act _).bind ?_)
  exact h.comes_reportTriggers.bind ((comes_require_ok _).bind hchannels)

/-- All of it together is the summary. -/
theorem told_reportDeeds (count limit : Nat) :
    String.join ((reportDeeds count limit).map Deed.told) = summary count limit := by
  have hcommands : s!"Device saw {4} commands\n" = "Device saw 4 commands\n" := by decide
  have htrigger : String.join ((if limit = 0 ∨ count / 4 < limit then
      [Deed.tells s!"Trigger at sample [{count / 4}]\n"] else []).map Deed.told) =
        if limit = 0 ∨ count / 4 < limit then s!"Trigger at sample [{count / 4}]\n" else "" := by
    split <;> simp [Deed.told]
  have hlines : ((List.range 4).map fun channel =>
      Deed.tells (channelLine count limit channel)).map Deed.told =
        (List.range 4).map (channelLine count limit) := by
    rw [List.map_map]
    rfl
  simp only [reportDeeds, List.map_append, String.join_append, htrigger, hlines, hcommands]
  simp only [List.map_cons, List.map_nil, Deed.told, String.join_cons, String.join_nil,
    String.append_empty, String.empty_append, ← String.append_assoc]
  rfl

/-! ## What is written -/

section Keep

variable {files : Files ε} {r : Recording} {table : SampleTable} {path text : String} {e : ε}

/-- **The export is written**, if the system takes the file, -/
theorem comes_keep_of_written (hexports : r.Exports library table text)
    (hfile : (files.create path >>= fun _ => files.write path text) = .ok ()) :
    Comes (keep library files r (some path)) (.ok ())
      [.saves path text, .tells ("Wrote " ++ path ++ "\n")] := by
  have hsave : r.save library files path = .ok text := by rw [hexports.save_eq, hfile]; rfl
  unfold keep
  dsimp only
  rw [hsave]
  exact (comes_require_ok _).bind ((comes_act _).bind (comes_act _))

/-- and otherwise the program breaks off. -/
theorem comes_keep_of_refused (hexports : r.Exports library table text)
    (hfile : (files.create path >>= fun _ => files.write path text) = .error e) :
    Comes (keep library files r (some path)) (.error (.table e)) [] := by
  have hsave : r.save library files path = .error e := by rw [hexports.save_eq, hfile]; rfl
  unfold keep
  dsimp only
  rw [hsave]
  exact (comes_require_error _).bind_error

end Keep

/-! ## The program -/

/-- **The program** tells of the capture and writes it to its file, one after the other. -/
theorem perform_eq {files : Files ε} {request : Request} {ending : Except (Stop ε) Unit}
    {told kept : List Deed} (hcapture : capture request = some (.ok outcome))
    (hreport : Comes (report library outcome) (.ok ()) told)
    (hkeep : Comes (keep library files outcome.recording request.output) ending kept) :
    perform library files request = some ⟨ending, told ++ kept⟩ := by
  have hrun : (report library outcome >>= fun _ =>
      keep library files outcome.recording request.output).run.run [] = (ending, told ++ kept) :=
    (hreport.bind hkeep []).trans (by rw [List.nil_append])
  unfold perform
  rw [hcapture]
  exact congrArg (fun run : Except (Stop ε) Unit × List Deed => some (Run.mk run.1 run.2)) hrun

/-- **What the program tells**, in closed form, with a library that can be relied on.  Whatever is
asked for, the capture comes to an end, and what the program tells of it follows from count and
limit: how many samples there were and why it ended, four commands, the trigger if it came in time,
and for each of the four lowest channels how often a counter changes its digit.  The program ends
well then, unless it is asked for a file that the system refuses. -/
theorem told_in_closed_form {ε : Type} (library : TableLibrary ε) (hlibrary : library.Lawful)
    (files : Files ε) (request : Request) :
    ∃ outcome table text run, capture request = some (.ok outcome) ∧
      outcome.recording.Exports library table text ∧
      perform library files request = some run ∧
      match request.output with
      | none =>
        run.exitCode = 0 ∧ run.output = summary request.samples.toNat request.limit.toNat
      | some path =>
        match files.create path >>= fun _ => files.write path text with
        | .ok () =>
          run.exitCode = 0 ∧
            run.output = summary request.samples.toNat request.limit.toNat ++
              ("Wrote " ++ path ++ "\n")
        | .error _ =>
          run.exitCode = 1 ∧ run.output = summary request.samples.toNat request.limit.toNat := by
  obtain ⟨outcome, hcapture, htallied⟩ := exists_outcome request
  obtain ⟨table, text, hexports⟩ : ∃ table text, outcome.recording.Exports library table text := by
    obtain ⟨text, hexports, -⟩ := Recording.exists_exports hlibrary htallied.header
    exact ⟨_, text, hexports⟩
  have hreport := htallied.comes_report hlibrary
  have htold := told_reportDeeds request.samples.toNat request.limit.toNat
  generalize reportDeeds request.samples.toNat request.limit.toNat = told at hreport htold
  have hperform {ending : Except (Stop ε) Unit} {kept : List Deed}
      (hkeep : Comes (keep library files outcome.recording request.output) ending kept) :
      perform library files request = some ⟨ending, told ++ kept⟩ :=
    perform_eq hcapture hreport hkeep
  have houtput (kept : List Deed) : String.join ((told ++ kept).map Deed.told) =
      summary request.samples.toNat request.limit.toNat ++ String.join (kept.map Deed.told) := by
    rw [List.map_append, String.join_append, htold]
  refine ⟨outcome, table, text, ?_⟩
  cases hpath : request.output with
  | none =>
    rw [hpath] at hperform
    exact ⟨_, hcapture, hexports, hperform (comes_pure ()), rfl, (houtput []).trans (by simp)⟩
  | some path =>
    rw [hpath] at hperform
    dsimp only
    cases hfile : files.create path >>= fun _ => files.write path text with
    | ok written =>
      refine ⟨_, hcapture, hexports, hperform (comes_keep_of_written hexports hfile), rfl, ?_⟩
      exact (houtput _).trans (by simp [Deed.told])
    | error e =>
      refine ⟨_, hcapture, hexports, hperform (comes_keep_of_refused hexports hfile), rfl, ?_⟩
      exact (houtput []).trans (by simp)

/-- Ten samples, of which three are wanted. -/
theorem told_in_closed_form_of_ten_samples :
    ∃ run, perform .plain .willing { samples := 10, limit := 3, output := some "ten.csv" } = some run ∧
      run.exitCode = 0 ∧ run.output =
        "Captured 3 samples (LimitReached)\nDevice saw 4 commands\nTrigger at sample [2]\n" ++
          "  CH1: 2 transitions\n  CH2: 1 transitions\n  CH3: 0 transitions\n" ++
          "  CH4: 0 transitions\nWrote ten.csv\n" := by
  obtain ⟨outcome, table, text, run, -, -, hrun, hcode, houtput⟩ :=
    told_in_closed_form .plain TableLibrary.plain_lawful .willing
      { samples := 10, limit := 3, output := some "ten.csv" }
  refine ⟨run, hrun, hcode, houtput.trans ?_⟩
  decide +kernel

end LogicAnalyzer.Program.SimulatedCapture
