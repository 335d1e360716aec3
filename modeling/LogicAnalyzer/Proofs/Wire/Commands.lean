import LogicAnalyzer.Proofs.Trigger.Regular
import LogicAnalyzer.Proofs.Wire.Grammar
import Mathlib.Order.Bounds.Basic

/-!
# Commands can be told apart

The device is told one command after another, and has nothing but the bytes.  Every frame says how
long it is, so there is one way to cut them, and a frame says which command it is of and with which
values.  Masks for channels that a device lacks have no frame; they are the masks that are refused
when they are made.

## Main definitions

* `Frame.Cuts`: the bytes are cut into frames, header by header
* `Command.words?`: the words that a payload spells
* `Command.ofFrame?`: the command that a frame tells
* `TriggerMasks.Exceeds`: the bits that a device has no channel for

## Main results

* `Frame.cuts_iff`, `Frame.Cuts.unique`: there is one way to cut bytes
* `Command.ofFrame?_eq_some`: a frame tells the command that it is the frame of
* `TriggerMasks.excess?_eq_some`: the highest bit without a channel
* `Command.encode_eq_channelOverflow`: masks have no frame if they are refused when checked
* `Command.stream_unambiguous`: commands are told apart, and which masks have a frame
-/

namespace LogicAnalyzer

/-! ## Cutting -/

namespace Frame

variable {bytes : List UInt8} {f : Frame} {frames cut : List Frame}

/-- **Bytes are cut into frames**: each begins with an operation code and the length of its payload,
low byte first, and the next begins behind the payload. -/
inductive Cuts : List UInt8 → List Frame → Prop where
  | nil : Cuts [] []
  | cons (b₀ b₁ low high : UInt8) (payload rest : List UInt8) (frames : List Frame)
      (complete : payload.length = low.toNat + 256 * high.toNat) (others : Cuts rest frames) :
      Cuts (b₀ :: b₁ :: low :: high :: (payload ++ rest))
        (⟨UInt16.ofNat (ofLittleEndian [b₀, b₁]), payload⟩ :: frames)

/-- A frame that was cut off is written as it was. -/
theorem toBytes_cut (b₀ b₁ low high : UInt8) {payload : List UInt8}
    (complete : payload.length = low.toNat + 256 * high.toNat) :
    toBytes ⟨UInt16.ofNat (ofLittleEndian [b₀, b₁]), payload⟩ =
      b₀ :: b₁ :: low :: high :: payload := by
  have hword (first second : UInt8) :
      littleEndian 2 (ofLittleEndian [first, second]) = [first, second] :=
    littleEndian_ofLittleEndian [first, second]
  rw [toBytes, Response.toNat_word, complete, ← Response.ofLittleEndian_pair, hword, hword]
  rfl

/-- The header of a frame that is written announces its payload. -/
theorem exists_header (h : f.payload.length ≤ maxPayload) :
    ∃ b₀ b₁ low high : UInt8, f.payload.length = low.toNat + 256 * high.toNat ∧
      f.opcode = UInt16.ofNat (ofLittleEndian [b₀, b₁]) := by
  have hopcode : UInt16.ofNat (ofLittleEndian (littleEndian 2 f.opcode.toNat)) = f.opcode := by
    have hlt : f.opcode.toNat < 256 ^ 2 := f.opcode.toNat_lt
    rw [ofLittleEndian_littleEndian, Nat.mod_eq_of_lt hlt, UInt16.ofNat_toNat]
  have hlength : ofLittleEndian (littleEndian 2 f.payload.length) = f.payload.length := by
    have hlt : f.payload.length < 256 ^ 2 := Nat.lt_of_le_of_lt h (by decide)
    rw [ofLittleEndian_littleEndian, Nat.mod_eq_of_lt hlt]
  exact ⟨_, _, _, _, hlength.symm.trans (Response.ofLittleEndian_pair _ _), hopcode.symm⟩

/-- **The ways to cut bytes** are those to write them as frames that can announce their payload. -/
theorem cuts_iff :
    Cuts bytes cut ↔
      (∀ f ∈ cut, f.payload.length ≤ maxPayload) ∧ bytes = cut.flatMap toBytes := by
  constructor
  · intro h
    induction h with
    | nil => exact ⟨nofun, rfl⟩
    | cons b₀ b₁ low high payload rest frames complete _ ih =>
      obtain ⟨hfits, rfl⟩ := ih
      refine ⟨List.forall_mem_cons.mpr ⟨?_, hfits⟩, ?_⟩
      · have hlow := low.toNat_lt
        have hhigh := high.toNat_lt
        rw [maxPayload]
        dsimp only
        omega
      · rw [List.flatMap_cons, toBytes_cut b₀ b₁ low high complete]
        rfl
  · rintro ⟨hfits, rfl⟩
    induction cut with
    | nil => exact .nil
    | cons f rest ih =>
      obtain ⟨hf, hrest⟩ := List.forall_mem_cons.mp hfits
      obtain ⟨b₀, b₁, low, high, hcomplete, hopcode⟩ := exists_header hf
      obtain ⟨opcode, payload⟩ := f
      obtain rfl : opcode = UInt16.ofNat (ofLittleEndian [b₀, b₁]) := hopcode
      rw [List.flatMap_cons, toBytes_cut b₀ b₁ low high hcomplete]
      exact .cons b₀ b₁ low high payload _ rest hcomplete (ih hrest)

/-- **There is one way to cut bytes.** -/
theorem Cuts.unique (h : Cuts bytes frames) (h' : Cuts bytes cut) : cut = frames := by
  induction h generalizing cut with
  | nil =>
    cases h'
    rfl
  | cons b₀ b₁ low high payload rest frames complete _ ih =>
    generalize hbytes : b₀ :: b₁ :: low :: high :: (payload ++ rest) = bytes at h'
    rcases h' with _ | ⟨c₀, c₁, low', high', payload', rest', frames', complete', others'⟩
    · contradiction
    · simp only [List.cons.injEq] at hbytes
      obtain ⟨rfl, rfl, rfl, rfl, hpayloads⟩ := hbytes
      obtain ⟨rfl, rfl⟩ := List.append_inj hpayloads (complete.trans complete'.symm)
      rw [ih others']

end Frame

/-! ## Reading commands -/

namespace Command

variable {command : Command} {f : Frame} {value : UInt64} {bytes : List UInt8}
  {words : List UInt64}

/-- **The words that a payload spells**, if it is made of whole ones: eight bytes each, low byte
first. -/
def words? : List UInt8 → Option (List UInt64)
  | [] => some []
  | b₀ :: b₁ :: b₂ :: b₃ :: b₄ :: b₅ :: b₆ :: b₇ :: rest =>
    (words? rest).map fun words =>
      UInt64.ofNat (ofLittleEndian [b₀, b₁, b₂, b₃, b₄, b₅, b₆, b₇]) :: words
  | _ => none

theorem words?_word_append (value : UInt64) (rest : List UInt8) :
    words? (word value ++ rest) = (words? rest).map fun words => value :: words := by
  have hvalue : UInt64.ofNat (ofLittleEndian (word value)) = value := by
    have hlt : value.toNat < 256 ^ 8 := value.toNat_lt
    rw [word, ofLittleEndian_littleEndian, Nat.mod_eq_of_lt hlt, UInt64.ofNat_toNat]
  -- `word` unfolds to eight bytes, which is what `words?` matches on
  have hread : words? (word value ++ rest) =
      (words? rest).map fun words => UInt64.ofNat (ofLittleEndian (word value)) :: words := rfl
  rw [hread, hvalue]

/-- Eight bytes are written as they were read. -/
theorem word_ofLittleEndian (h : bytes.length = 8) :
    word (UInt64.ofNat (ofLittleEndian bytes)) = bytes := by
  have hlt : ofLittleEndian bytes < 2 ^ 64 := by
    have hbytes := ofLittleEndian_lt bytes
    rwa [h] at hbytes
  have hread := littleEndian_ofLittleEndian bytes
  rw [h] at hread
  rw [word, UInt64.toNat_ofNat', Nat.mod_eq_of_lt hlt, hread]

/-- **A payload spells the words that it was written from**, and no others. -/
theorem words?_eq_some : words? bytes = some words ↔ bytes = words.flatMap word := by
  constructor
  · intro h
    fun_induction words? bytes generalizing words with
    | case1 =>
      obtain rfl := Option.some.inj h
      rfl
    | case2 b₀ b₁ b₂ b₃ b₄ b₅ b₆ b₇ rest ih =>
      obtain ⟨others, hothers, rfl⟩ := Option.map_eq_some_iff.mp h
      rw [List.flatMap_cons, word_ofLittleEndian rfl, ← ih hothers]
      rfl
    | case3 => contradiction
  · rintro rfl
    induction words with
    | nil => rfl
    | cons value words ih => rw [List.flatMap_cons, words?_word_append, ih, Option.map_some]

/-- **The command that a frame tells**: which one by its operation code, and its values by the
payload. -/
def ofFrame? (f : Frame) : Option Command :=
  if f.opcode = selectClockOpcode then
    match f.payload with
    | [code] => (ClockSource.ofCode? code).map selectClock
    | _ => none
  else if f.opcode = configureTriggersOpcode then
    match words? f.payload with
    | some [channels, triggers, edges, levels] =>
      some (configureTriggers ⟨⟨channels⟩, ⟨triggers⟩, ⟨edges⟩, ⟨levels⟩⟩)
    | _ => none
  else if f.opcode = armOpcode then
    match words? f.payload with
    | some [rate, limit] => some (arm rate limit)
    | _ => none
  else none

/-- The payload for masks is their four words. -/
theorem payload_configureTriggers (masks : TriggerMasks) :
    (configureTriggers masks).frame.payload =
      [masks.channels.bits, masks.triggers.bits, masks.edges.bits, masks.levels.bits].flatMap
        word := by
  simp only [frame, List.flatMap_cons, List.flatMap_nil, List.append_nil, List.append_assoc]

/-- The payload for arming is the rate and the limit. -/
theorem payload_arm (rate limit : UInt64) :
    (arm rate limit).frame.payload = [rate, limit].flatMap word := by
  simp only [frame, List.flatMap_cons, List.flatMap_nil, List.append_nil]

/-- A frame tells the command that it is the frame of. -/
theorem ofFrame?_frame (command : Command) : ofFrame? command.frame = some command := by
  unfold ofFrame?
  rcases command with source | masks | ⟨rate, limit⟩
  · exact congrArg (Option.map selectClock) (ClockSource.ofCode?_code source)
  · have hwords := words?_eq_some.mpr (payload_configureTriggers masks)
    rw [if_neg (by simp [frame, configureTriggersOpcode, selectClockOpcode])]
    rw [hwords]
    rfl
  · have hwords := words?_eq_some.mpr (payload_arm rate limit)
    rw [if_neg (by simp [frame, armOpcode, selectClockOpcode])]
    rw [hwords]
    rfl

/-- A frame that tells a command is its frame. -/
theorem eq_frame_of_ofFrame? (h : ofFrame? f = some command) : f = command.frame := by
  obtain ⟨opcode, payload⟩ := f
  unfold ofFrame? at h
  dsimp only at h
  split_ifs at h with hclock hconfigure harm
  · split at h
    · rename_i _ code
      obtain ⟨source, hsource, rfl⟩ := Option.map_eq_some_iff.mp h
      have hcode : source.code = code := by simpa using List.find?_some hsource
      rw [hclock, frame, hcode]
    · contradiction
  · split at h
    · rename_i channels triggers edges levels hwords
      obtain rfl := Option.some.inj h
      rw [hconfigure, words?_eq_some.mp hwords]
      have hpayload := payload_configureTriggers ⟨⟨channels⟩, ⟨triggers⟩, ⟨edges⟩, ⟨levels⟩⟩
      exact congrArg (Frame.mk configureTriggersOpcode) hpayload.symm
    · contradiction
  · split at h
    · rename_i rate limit hwords
      obtain rfl := Option.some.inj h
      rw [harm, words?_eq_some.mp hwords]
      exact congrArg (Frame.mk armOpcode) (payload_arm rate limit).symm
    · contradiction

/-- **A frame tells the command that it is the frame of**, and no other frame does. -/
theorem ofFrame?_eq_some : ofFrame? f = some command ↔ f = command.frame := by
  constructor
  · exact eq_frame_of_ofFrame?
  · rintro rfl
    exact ofFrame?_frame command

/-- Every command fits a frame. -/
theorem length_payload_le (command : Command) :
    command.frame.payload.length ≤ Frame.maxPayload := by
  rcases command with source | masks | ⟨rate, limit⟩
  · exact Nat.le_of_ble_eq_true rfl
  · exact Nat.le_of_ble_eq_true rfl
  · exact Nat.le_of_ble_eq_true rfl

/-- Commands that could be encoded have the frames that commands have. -/
theorem eq_map_frame {commands : List Command} {frames : List Frame}
    (h : List.Forall₂ (fun command frame =>
      ∃ channelCount, encode channelCount command = .ok frame) commands frames) :
    frames = commands.map frame := by
  induction h with
  | nil => rfl
  | cons hencode _ ih =>
    obtain ⟨channelCount, hframe⟩ := hencode
    rw [List.map_cons, ← encode_eq_ok hframe, ih]

end Command

/-! ## Masks that have no frame -/

namespace TriggerMasks

variable {m : TriggerMasks} {channelCount channel limit : Nat}

/-- **The bits that a device has no channel for**, in any of the four words. -/
def Exceeds (m : TriggerMasks) (channelCount i : Nat) : Prop :=
  channelCount ≤ i ∧
    (m.channels.contains i = true ∨ m.triggers.contains i = true ∨ m.edges.contains i = true ∨
      m.levels.contains i = true)

theorem excess?_eq_none_iff : m.excess? channelCount = none ↔ ∀ i, ¬ m.Exceeds channelCount i := by
  rw [excess?_eq_none]
  refine forall_congr' fun i => ?_
  rw [Exceeds, ← contains_mentioned, not_and', Nat.not_le]

/-- **The highest bit without a channel** is the one that is reported. -/
theorem excess?_eq_some :
    m.excess? channelCount = some channel ↔
      IsGreatest {i | m.Exceeds channelCount i} channel := by
  have hgreatest {found : Nat} (h : m.excess? channelCount = some found) :
      IsGreatest {i | m.Exceeds channelCount i} found := by
    obtain ⟨hle, hmentioned⟩ := of_excess? h
    refine ⟨⟨hle, contains_mentioned.mp hmentioned⟩, ?_⟩
    rintro i ⟨-, hi⟩
    obtain ⟨hhighest, -⟩ := Option.filter_eq_some_iff.mp h
    exact ChannelSet.le_of_highest? hhighest (contains_mentioned.mpr hi)
  constructor
  · exact hgreatest
  · intro h
    rcases hexcess : m.excess? channelCount with _ | found
    · exact absurd h.1 (excess?_eq_none_iff.mp hexcess channel)
    · rw [IsGreatest.unique (hgreatest hexcess) h]

/-- Masks are refused for the highest bit without a channel. -/
theorem check_eq_overLimit :
    m.check channelCount = .error (.channelOverLimit channel limit) ↔
      m.excess? channelCount = some channel ∧ channelCount = limit := by
  unfold check
  split
  · rename_i found hexcess
    rw [hexcess, Except.error.injEq, TriggerError.channelOverLimit.injEq, Option.some.injEq]
  · rename_i hexcess
    rw [hexcess]
    split <;> simp

end TriggerMasks

namespace Command

variable {masks : TriggerMasks} {channelCount channel limit : Nat} {error : CommandError}

/-- Masks have no frame for the same reason. -/
theorem encode_eq_error :
    encode channelCount (configureTriggers masks) = .error error ↔
      ∃ channel, masks.excess? channelCount = some channel ∧
        error = .channelOverflow channel channelCount := by
  rcases hexcess : masks.excess? channelCount with _ | found
  · have hframe : encode channelCount (configureTriggers masks) =
        .ok (configureTriggers masks).frame := by
      simp only [encode, check, hexcess]
      rfl
    rw [hframe]
    constructor
    · intro hok
      contradiction
    · rintro ⟨channel, hnone, -⟩
      contradiction
  · have hrefused : encode channelCount (configureTriggers masks) =
        .error (.channelOverflow found channelCount) := by
      simp only [encode, check, hexcess]
      rfl
    rw [hrefused, Except.error.injEq]
    constructor
    · rintro rfl
      exact ⟨found, rfl, rfl⟩
    · rintro ⟨channel, heq, rfl⟩
      rw [Option.some.inj heq]

/-- Masks have no frame if and only if they have a bit without a channel, -/
theorem exists_encode_eq_error :
    (∃ error, encode channelCount (configureTriggers masks) = .error error) ↔
      ∃ i, masks.Exceeds channelCount i := by
  simp only [encode_eq_error]
  constructor
  · rintro ⟨-, channel, hexcess, -⟩
    exact ⟨channel, (TriggerMasks.excess?_eq_some.mp hexcess).1⟩
  · rintro ⟨i, hi⟩
    have hsome : masks.excess? channelCount ≠ none := fun hnone =>
      TriggerMasks.excess?_eq_none_iff.mp hnone i hi
    obtain ⟨channel, hexcess⟩ := Option.ne_none_iff_exists'.mp hsome
    exact ⟨_, channel, hexcess, rfl⟩

/-- which is reported as it is when they are checked. -/
theorem encode_eq_channelOverflow :
    encode channelCount (configureTriggers masks) = .error (.channelOverflow channel limit) ↔
      masks.check channelCount = .error (.channelOverLimit channel limit) := by
  rw [encode_eq_error, TriggerMasks.check_eq_overLimit]
  constructor
  · rintro ⟨found, hexcess, heq⟩
    obtain ⟨rfl, rfl⟩ := CommandError.channelOverflow.inj heq
    exact ⟨hexcess, rfl⟩
  · rintro ⟨hexcess, rfl⟩
    exact ⟨channel, hexcess, rfl⟩

/-- **Commands are told apart.**  There is one way to cut the bytes of some commands into frames,
and each frame tells the command that it is of, with its clock, its masks, or its rate and limit.
Masks have no frame if and only if some bit of theirs has no channel, and the highest such bit is
reported; it is the one that the masks are refused for when they are checked, so masks that pass the
check have a frame. -/
theorem stream_unambiguous :
    (∀ (commands : List Command) (frames : List Frame),
      List.Forall₂ (fun command frame => ∃ channelCount, encode channelCount command = .ok frame)
        commands frames →
      (∀ cut, Frame.Cuts (frames.flatMap Frame.toBytes) cut ↔ cut = frames) ∧
        frames.map ofFrame? = commands.map some) ∧
    ∀ (masks : TriggerMasks) (channelCount : Nat),
      ((∃ error, encode channelCount (configureTriggers masks) = .error error) ↔
        ∃ i, masks.Exceeds channelCount i) ∧
      (∀ error, encode channelCount (configureTriggers masks) = .error error ↔
        ∃ channel, IsGreatest {i | masks.Exceeds channelCount i} channel ∧
          error = .channelOverflow channel channelCount) ∧
      (∀ channel limit,
        encode channelCount (configureTriggers masks) = .error (.channelOverflow channel limit) ↔
          masks.check channelCount = .error (.channelOverLimit channel limit)) ∧
      (masks.check channelCount = .ok () →
        encode channelCount (configureTriggers masks) = .ok (configureTriggers masks).frame) := by
  constructor
  · intro commands frames hencoded
    obtain rfl := eq_map_frame hencoded
    have hcuts : Frame.Cuts ((commands.map frame).flatMap Frame.toBytes) (commands.map frame) := by
      rw [Frame.cuts_iff]
      refine ⟨List.forall_mem_map.mpr fun command _ => command.length_payload_le, rfl⟩
    refine ⟨fun cut => ⟨fun hcut => hcuts.unique hcut, fun heq => heq ▸ hcuts⟩, ?_⟩
    rw [List.map_map]
    exact List.map_congr_left fun command _ => ofFrame?_eq_some.mpr rfl
  · intro masks channelCount
    refine ⟨exists_encode_eq_error, ?_, ?_, encode_configureTriggers⟩
    · intro error
      simp only [encode_eq_error, TriggerMasks.excess?_eq_some]
    · intro channel limit
      exact encode_eq_channelOverflow

/-- Three commands for the smaller model, and masks that it has no frame for: the highest channel
is one to record, and is reported. -/
theorem stream_unambiguous_of_three_commands :
    let commands := [selectClock .internal, configureTriggers ⟨⟨0x8005⟩, ⟨0x4⟩, ⟨0x4⟩, ⟨0x4⟩⟩,
      arm 125000000 1000]
    List.Forall₂ (fun command frame => ∃ channelCount, encode channelCount command = .ok frame)
        commands (commands.map frame) ∧
      (∀ cut, Frame.Cuts ((commands.map frame).flatMap Frame.toBytes) cut ↔
        cut = commands.map frame) ∧
      encode 16 (configureTriggers ⟨⟨0x200000000⟩, ⟨0x10000⟩, ⟨0x10000⟩, ⟨0⟩⟩) =
        .error (.channelOverflow 33 16) := by
  intro commands
  have hencoded : List.Forall₂
      (fun command frame => ∃ channelCount, encode channelCount command = .ok frame)
      commands (commands.map frame) := by
    refine .cons ⟨16, rfl⟩ (.cons ⟨16, ?_⟩ (.cons ⟨16, ?_⟩ .nil))
    · exact encode_configureTriggers (by decide +kernel)
    · exact encode_arm (by decide) 1000
  have hmasks := stream_unambiguous.2 ⟨⟨0x200000000⟩, ⟨0x10000⟩, ⟨0x10000⟩, ⟨0⟩⟩ 16
  exact ⟨hencoded, (stream_unambiguous.1 commands _ hencoded).1,
    (hmasks.2.2.1 33 16).mpr (by decide +kernel)⟩

end Command

end LogicAnalyzer
