import LogicAnalyzer.Device.Simulated
import LogicAnalyzer.Proofs.Capture.Configuration
import LogicAnalyzer.Proofs.Capture.PlainTables

/-!
# Exports are lossless

The table of a recording tells of its samples what was recorded.  What a capture delivers has levels
of recorded channels only, so of a recording that a capture filled nothing is lost.

## Main definitions

* `deliveredBatches`: the batches among some deliveries
* `Recording.Filled`: recordings that were given a capture

## Main results

* `Recording.Filled.levels?_sheet`: a column has the levels of the batches, one after another
* `Controller.exports_are_lossless`: exports are lossless
-/

namespace LogicAnalyzer

variable {channels : ChannelSet} {n m : Nat} {events body : List StreamEvent}
  {header : StreamHeader}

/-! ## Batches -/

/-- **The batches among some deliveries**, in order. -/
def deliveredBatches (events : List StreamEvent) : List SampleBatch :=
  events.filterMap fun
    | .samples batch => some batch
    | _ => none

/-- The samples among some deliveries are those of the batches. -/
theorem deliveredSamples_eq_flatMap (events : List StreamEvent) :
    deliveredSamples events = (deliveredBatches events).flatMap SampleBatch.samples := by
  induction events with
  | nil => rfl
  | cons event rest ih =>
    cases event with
    | samples batch =>
      have hcons : deliveredSamples (.samples batch :: rest) =
          batch.samples ++ deliveredSamples rest := rfl
      rw [hcons, ih]
      rfl
    | header header => exact ih
    | trigger sampleIndex => exact ih
    | trailer trailer => exact ih

/-- Batches that join are labelled with the recorded channels. -/
theorem Continues.labelled (h : Continues channels n events m) :
    ∀ batch ∈ deliveredBatches events, batch.channels = channels := by
  induction h with
  | nil n => exact nofun
  | samples _ _ _ ih =>
    intro batch hmem
    rcases List.mem_cons.mp hmem with rfl | hmem
    · rfl
    · exact ih batch hmem
  | trigger _ ih => exact ih

theorem Continues.header_notMem (h : Continues channels n events m) (header : StreamHeader) :
    .header header ∉ events := by
  induction h with
  | nil n => exact nofun
  | samples _ _ _ ih => simpa using ih
  | trigger _ ih => simpa using ih

/-- A pair of sinks is given what each of them is. -/
theorem Sink.takeAll_pair {σ ρ : Type} [Sink σ] [Sink ρ] (sinks : σ × ρ)
    (events : List StreamEvent) :
    takeAll sinks events = (takeAll sinks.1 events, takeAll sinks.2 events) := by
  induction events generalizing sinks with
  | nil => rfl
  | cons event rest ih => exact ih (take sinks event)

namespace Recording

variable {r : Recording}

/-- Deliveries without a header add their samples to a recording. -/
theorem samples_takeAll (hheader : ∀ header, .header header ∉ events) (r : Recording) :
    (Sink.takeAll r events).header = r.header ∧
      (Sink.takeAll r events).samples = r.samples ++ deliveredSamples events := by
  induction events generalizing r with
  | nil => exact ⟨rfl, (List.append_nil _).symm⟩
  | cons event rest ih =>
    obtain ⟨hkept, hsamples⟩ := ih (fun header hmem => hheader header (List.mem_cons_of_mem _ hmem))
      (Sink.take r event)
    cases event with
    | header header => exact absurd List.mem_cons_self (hheader header)
    | samples batch => exact ⟨hkept, hsamples.trans (List.append_assoc ..)⟩
    | trigger sampleIndex => exact ⟨hkept, hsamples⟩
    | trailer trailer => exact ⟨hkept, hsamples⟩

/-- **Recordings that were given a capture**: a header, and these deliveries behind it. -/
structure Filled (r : Recording) (header : StreamHeader) (body : List StreamEvent) : Prop where
  begun : r.header = some header
  samples : r.samples = deliveredSamples body
  labelled : ∀ batch ∈ deliveredBatches body, batch.channels = header.channels
  masked : ∀ sample ∈ r.samples, sample &&& header.channels.bits = sample

/-- A sample that has levels of recorded channels only is as it was recorded. -/
theorem Filled.map_samples (h : r.Filled header body) :
    r.samples.map (· &&& header.channels.bits) = r.samples :=
  (List.map_congr_left h.masked).trans (List.map_id' _)

/-- **A column has the levels of the batches**, one after another. -/
theorem Filled.levels?_sheet (h : r.Filled header body) {channel : Nat}
    (hchannel : header.channels.contains channel = true) :
    ∃ levels, (deliveredBatches body).mapM (·.levels? channel) = some levels ∧
      (sheet header r.samples).levels? (header.model.channelName channel) = some levels.flatten := by
  have hlt := ChannelSet.lt_of_contains hchannel
  have hbatch : ∀ batch ∈ deliveredBatches body,
      batch.levels? channel = some (batch.samples.map (levelOf · channel)) := by
    intro batch hmem
    rw [SampleBatch.levels?, h.labelled batch hmem, if_pos hchannel]
  refine ⟨(deliveredBatches body).map fun batch => batch.samples.map (levelOf · channel), ?_, ?_⟩
  · generalize deliveredBatches body = batches at hbatch
    induction batches with
    | nil => rfl
    | cons batch rest ih =>
      rw [List.mapM_cons, hbatch batch List.mem_cons_self,
        ih fun batch hmem => hbatch batch (List.mem_cons_of_mem _ hmem)]
      rfl
  · rw [Recording.levels?_sheet header r.samples hlt, if_pos hchannel, h.samples,
      deliveredSamples_eq_flatMap, List.map_flatMap, List.flatMap_def]

end Recording

/-! ## Captures -/

namespace Controller

variable {τ σ : Type} [Transport τ] [Sink σ] {sink : σ} {c : Controller τ σ}

/-- Closing gives back a sink that was given captures, too. -/
theorem Delivered.close (h : c.Delivered sink) :
    ∃ c' : Controller τ σ, c'.Delivered sink ∧ c'.sink = c.close.2 := by
  have hkept := persists_delivered (τ := τ) sink
  unfold Controller.close
  split
  · refine ⟨(pollUntil maxClosePolls (c.beginStop .stopped)).2.2, ?_, rfl⟩
    exact of_pollUntil (motive := fun c => c.Delivered sink) (fun _ => hkept.poll)
      (h.beginStop .stopped) maxClosePolls
  · exact ⟨c, h, rfl⟩

omit [Transport τ] in
/-- The last of the captures that a sink was given has a header, batches and triggers that join,
and perhaps a trailer. -/
theorem Delivered.exists_last (h : c.Delivered sink) :
    ∃ events, c.sink = Sink.takeAll sink events ∧ (events = [] ∨
      ∃ before header body ending n, events = before ++ .header header :: (body ++ ending) ∧
        Continues header.channels 0 body n ∧
        (ending = [] ∨ ∃ trailer, ending = [.trailer trailer])) := by
  obtain ⟨captures, rest, hcaptures, hsink, hidle, hrunning⟩ := h
  refine ⟨_, hsink, ?_⟩
  cases hc : c.acquisition with
  | some a =>
    obtain ⟨-, header, body, hheader, rfl, hbody⟩ := hrunning a hc
    exact .inr ⟨captures.flatten, header, body, [], _, by simp, hheader ▸ hbody, .inl rfl⟩
  | none =>
    obtain rfl := hidle hc
    rcases List.eq_nil_or_concat captures with rfl | ⟨front, last, rfl⟩
    · exact .inl rfl
    · obtain ⟨header, body, trailer, rfl, hbody⟩ := hcaptures last (by simp)
      exact .inr ⟨front.flatten, header, body, [.trailer trailer], _, by simp, hbody,
        .inr ⟨trailer, rfl⟩⟩

omit [Transport τ] in
/-- **A recording that is given captures** is filled by the last of them. -/
theorem Delivered.filled {c : Controller τ (List StreamEvent × Recording)}
    (h : c.Delivered ([], {})) (hheader : c.sink.2.header = some header) :
    ∃ before body, c.sink.1 = before ++ .header header :: body ∧
      (∀ other, .header other ∉ body) ∧ c.sink.2.Filled header body := by
  obtain ⟨events, hsink, hevents⟩ := h.exists_last
  rw [Sink.takeAll_pair, Sink.takeAll_list] at hsink
  rcases hevents with rfl | ⟨before, header', body, ending, n, rfl, hbody, hending⟩
  · rw [hsink] at hheader
    cases hheader
  have hquiet : (∀ other, .header other ∉ ending) ∧ deliveredBatches ending = [] := by
    rcases hending with rfl | ⟨trailer, rfl⟩
    · exact ⟨nofun, rfl⟩
    · exact ⟨by simp, rfl⟩
  have hnone : ∀ other, .header other ∉ body ++ ending := by
    intro other hmem
    exact (List.mem_append.mp hmem).elim (hbody.header_notMem other) (hquiet.1 other)
  have hrecording : c.sink.2 = Sink.takeAll { header := some header' } (body ++ ending) := by
    rw [hsink, Sink.takeAll_append]
    rfl
  obtain ⟨hkept, hsamples⟩ := Recording.samples_takeAll hnone { header := some header' }
  rw [← hrecording] at hkept hsamples
  obtain rfl : header' = header := Option.some.inj (hkept.symm.trans hheader)
  have hbatches : deliveredBatches (body ++ ending) = deliveredBatches body := by
    rw [deliveredBatches, List.filterMap_append, ← deliveredBatches, ← deliveredBatches, hquiet.2,
      List.append_nil]
  have hall : c.sink.2.samples = deliveredSamples body := by
    rw [hsamples, deliveredSamples_eq_flatMap, deliveredSamples_eq_flatMap, hbatches]
    rfl
  refine ⟨before, body ++ ending, by rw [hsink]; rfl, hnone, ⟨hheader, hsamples, ?_, ?_⟩⟩
  · rw [hbatches]
    exact hbody.labelled
  · rw [hall]
    exact hbody.masked

/-- **Exports are lossless.**  A recording with a header is exported, if the library can be relied
on: its table is never refused, and its text by nothing but the files.  The table has a row for each
sample and a column for the times and for each recorded channel, in ascending order.  From its rows,
and from the lines of its text as well, the samples are put together again, as far as they have
levels of recorded channels.

If the recording was given captures, from a controller or on closing it, these are the samples
themselves, and the column of a channel has its levels from the batches of the last capture, one
batch after another. -/
theorem exports_are_lossless {ε : Type} (library : TableLibrary ε) (hlibrary : library.Lawful) :
    (∀ (r : Recording) (header : StreamHeader), r.header = some header →
        ∃ table text, r.Exports library table text ∧
          table.Tells text header.model header.channels r.samples) ∧
      ∀ {τ : Type} [Transport τ] (session : Session τ) (ops : List (Operation τ))
        (answers : List Answer) (c : Controller τ (List StreamEvent × Recording))
        (given : List StreamEvent) (r : Recording) (header : StreamHeader),
        (new session ([], {})).performAll ops = some (answers, c) →
        (given, r) = c.sink ∨ (given, r) = c.close.2 → r.header = some header →
          ∃ table text before body, r.Exports library table text ∧
            given = before ++ .header header :: body ∧
            (∀ other, .header other ∉ body) ∧
            (∀ batch ∈ deliveredBatches body, batch.channels = header.channels) ∧
            table.samples header.model = r.samples ∧
            Text.samples header.model text = r.samples ∧
            ∀ channel, header.channels.contains channel = true →
              ∃ levels, (deliveredBatches body).mapM (·.levels? channel) = some levels ∧
                table.levels? (header.model.channelName channel) = some levels.flatten := by
  constructor
  · intro r header hheader
    obtain ⟨text, hexports, htells⟩ := Recording.exists_exports hlibrary hheader
    exact ⟨_, text, hexports, htells⟩
  · intro τ _ session ops answers c given r header hops hsink hheader
    have hnew : (new session (([], {}) : List StreamEvent × Recording)).Delivered ([], {}) :=
      ⟨[], [], nofun, rfl, fun _ => rfl, nofun⟩
    have hdelivered := hnew.performAll hops
    obtain ⟨c', hc', hgiven⟩ : ∃ c' : Controller τ (List StreamEvent × Recording),
        c'.Delivered ([], {}) ∧ c'.sink = (given, r) := by
      rcases hsink with hsink | hsink
      · exact ⟨c, hdelivered, hsink.symm⟩
      · obtain ⟨c', hc', hclosed⟩ := hdelivered.close
        exact ⟨c', hc', hclosed.trans hsink.symm⟩
    have hlast : c'.sink.2.header = some header := by rwa [hgiven]
    have hfilled := hc'.filled hlast
    rw [hgiven] at hfilled
    obtain ⟨before, body, hlist, hnone, hfilled⟩ := hfilled
    obtain ⟨text, hexports, htells⟩ := Recording.exists_exports hlibrary hheader
    exact ⟨_, text, before, body, hexports, hlist, hnone, hfilled.labelled,
      htells.recombined.trans hfilled.map_samples, htells.reread.trans hfilled.map_samples,
      fun channel => hfilled.levels?_sheet⟩

/-- A capture of three channels that delivers two samples. -/
theorem exports_are_lossless_of_two_samples :
    ∃ (answers : List Answer) (c : Controller SimulatedDevice (List StreamEvent × Recording))
        (given : List StreamEvent) (r : Recording) (table : SampleTable) (text : String)
        (batches : List SampleBatch),
      (new (.new { model := .lwla1016 } .lwla1016) ([], {})).performAll
          [.configureTriggers { channels := ⟨7⟩ }, .openDevice, .setTransferPool 1 8, .start,
            .adjust fun d => d.queue [1, 128, 4, 0, 1, 0, 254, 255], .poll] = some (answers, c) ∧
        (given, r) = c.sink ∧ r.Exports .plain table text ∧
        table.samples .lwla1016 = [1, 6] ∧ Text.samples .lwla1016 text = [1, 6] ∧
        (∃ levels, batches.mapM (·.levels? 1) = some levels ∧
          table.levels? (Model.lwla1016.channelName 1) = some levels.flatten) ∧
        ∃ table text, r.Exports .plain table text ∧ table.Tells text .lwla1016 ⟨7⟩ [1, 6] := by
  obtain ⟨htables, hcaptures⟩ := exports_are_lossless .plain TableLibrary.plain_lawful
  let header : StreamHeader := ⟨.lwla1016, SampleRate.standard, 0, ⟨7⟩⟩
  let given : List StreamEvent := [.header header, .samples ⟨0, ⟨7⟩, [1, 6]⟩]
  let r : Recording := { header := some header, samples := [1, 6], batches := 1 }
  have hrun : ((new (.new ({ model := .lwla1016 } : SimulatedDevice) .lwla1016)
      (([], {}) : List StreamEvent × Recording)).performAll
        [.configureTriggers { channels := ⟨7⟩ }, .openDevice, .setTransferPool 1 8, .start,
          .adjust fun d => d.queue [1, 128, 4, 0, 1, 0, 254, 255], .poll]).map (·.2.sink) =
      some (given, r) := by
    decide +kernel
  obtain ⟨⟨answers, c⟩, hops, hsink⟩ := Option.map_eq_some_iff.mp hrun
  obtain ⟨table, text, -, body, hexports, -, -, -, hrecombined, hreread, hcolumns⟩ :=
    hcaptures _ _ answers c given r header hops (.inl hsink.symm) rfl
  exact ⟨answers, c, given, r, table, text, deliveredBatches body, hops, hsink.symm, hexports,
    hrecombined, hreread, hcolumns 1 (by decide), htables r header rfl⟩

end Controller

end LogicAnalyzer
