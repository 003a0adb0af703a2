import MultibusGateway.Core.Downlinks
import MultibusGateway.Lorawan.Locality

/-! The parsing of an FPort 85 payload. All of its commands are parsed before the first one
is applied, and a payload parses as the commands that its parts parse as. -/

namespace Application
open ByteString Modbus Lorawan Framing

def Parses (p : Bytes) (command : ParsedCommand) (n : Nat) : Prop :=
  parseCommand p = some (command, n)

theorem parsedAs_some {α : Type} (command : α → ParsedCommand) (decoded : Decoded α)
    (parsed : ParsedCommand) (n : Nat) :
    parsedAs command decoded = some (parsed, n) ↔
      ∃ value, decoded = .ok (value, n) ∧ n ≠ 0 ∧ command value = parsed := by
  unfold parsedAs
  split
  · simp
  · rename_i value consumed
    constructor
    · intro accepted
      split at accepted
      · cases accepted
      · rename_i some
        cases accepted
        exact ⟨value, rfl, some, rfl⟩
    · rintro ⟨_, same, some, rfl⟩
      cases same
      rw [if_neg some]

theorem parsedAs_local {α : Type} (command : α → ParsedCommand) (decode : Bytes → Decoded α)
    (isLocal : Local 3 (Accepts decode)) :
    Local 3 fun p parsed n => parsedAs command (decode p) = some (parsed, n) := by
  intro p parsed n accepted
  obtain ⟨value, decoded, some, rfl⟩ := (parsedAs_some command (decode p) parsed n).mp accepted
  obtain ⟨least, inside, found⟩ := isLocal p value n decoded
  refine ⟨least, inside, fun q agree => ?_⟩
  exact (parsedAs_some command (decode q) _ n).mpr ⟨value, found q agree, some, rfl⟩

theorem supported_ok {α : Type} (supports : α → Bool) (decoded : Decoded α) (value : α) (n : Nat) :
    supported supports decoded = .ok (value, n) ↔
      decoded = .ok (value, n) ∧ supports value = true := by
  unfold supported
  split
  · simp
  · rename_i other consumed
    constructor
    · intro accepted
      split at accepted
      · rename_i fit
        cases accepted
        exact ⟨rfl, fit⟩
      · cases accepted
    · rintro ⟨same, fit⟩
      cases same
      rw [if_pos fit]

theorem supported_local {α : Type} (supports : α → Bool) (decode : Bytes → Decoded α)
    (isLocal : Local 3 (Accepts decode)) :
    Local 3 (Accepts fun p => supported supports (decode p)) := by
  intro p value n accepted
  obtain ⟨decoded, fit⟩ := (supported_ok supports (decode p) value n).mp accepted
  obtain ⟨least, inside, found⟩ := isLocal p value n decoded
  exact ⟨least, inside, fun q agree => (supported_ok supports _ value n).mpr ⟨found q agree, fit⟩⟩

theorem header_local (test : Bytes → Bool)
    (header : ∀ n p q, Agree n p q → 3 ≤ n → test q = test p)
    (first second : Bytes → Option (ParsedCommand × Nat))
    (firstLocal : Local 3 fun p parsed n => first p = some (parsed, n))
    (secondLocal : Local 3 fun p parsed n => second p = some (parsed, n)) :
    Local 3 fun p parsed n => (if test p then first p else second p) = some (parsed, n) := by
  intro p parsed n accepted
  dsimp only at accepted ⊢
  split at accepted
  · rename_i chosen
    obtain ⟨least, inside, found⟩ := firstLocal p parsed n accepted
    refine ⟨least, inside, fun q agree => ?_⟩
    rw [header n p q agree least, if_pos chosen]
    exact found q agree
  · rename_i chosen
    obtain ⟨least, inside, found⟩ := secondLocal p parsed n accepted
    refine ⟨least, inside, fun q agree => ?_⟩
    rw [header n p q agree least, if_neg chosen]
    exact found q agree

theorem reportInterval_local : Local 3 fun p parsed n =>
    (match decodeReportIntervalCommand p with
      | none => none
      | some (settings, consumed) =>
        if consumed = 0 then none else some (ParsedCommand.reportInterval settings, consumed)) =
      some (parsed, n) := by
  intro p parsed n accepted
  dsimp only at accepted ⊢
  split at accepted
  · cases accepted
  · rename_i settings consumed decoded
    split at accepted
    · cases accepted
    · rename_i some
      cases accepted
      obtain ⟨least, inside, found⟩ := decodeReportIntervalCommand_local p settings n decoded
      refine ⟨least, inside, fun q agree => ?_⟩
      rw [found q agree]
      exact if_neg some

theorem parseHeadedCommand_local :
    Local 3 fun p parsed n => parseHeadedCommand p = some (parsed, n) := by
  have same (n : Nat) (p q : Bytes) (agree : Agree n p q) (least : 3 ≤ n) (channelId type : UInt8) :
      hasHeader q channelId type = hasHeader p channelId type :=
    hasHeader_agree agree (by omega) channelId type
  unfold parseHeadedCommand
  dsimp only
  refine header_local _ (fun n p q agree least => by simp only [same n p q agree least]) _ _
    (parsedAs_local _ _ decodeBasicControlCommand_local) ?_
  refine header_local _ (fun n p q agree least => same n p q agree least _ _) _ _
    (parsedAs_local _ _ decodeUtcTimezoneCommand_local) ?_
  refine header_local _ (fun n p q agree least => same n p q agree least _ _) _ _
    (parsedAs_local _ _ decodeLnsTimeSyncCommand_local) ?_
  refine header_local _ (fun n p q agree least => same n p q agree least _ _) _ _
    (parsedAs_local _ _ decodeDstSettingsCommand_local) ?_
  refine header_local _ (fun n p q agree least => same n p q agree least _ _) _ _
    (parsedAs_local _ _ (decodeHistoryToggleCommand_local _)) ?_
  refine header_local _ (fun n p q agree least => same n p q agree least _ _) _ _
    (parsedAs_local _ _ (decodeHistoryToggleCommand_local _)) ?_
  refine header_local _ (fun n p q agree least => same n p q agree least _ _) _ _
    (parsedAs_local _ _ (decodeIntervalCommand_local _)) ?_
  refine header_local _ (fun n p q agree least => same n p q agree least _ _) _ _
    (parsedAs_local _ _ (decodeIntervalCommand_local _)) ?_
  refine header_local _ (fun n p q agree least => by simp only [same n p q agree least]) _ _
    (parsedAs_local _ _ decodeHistoryQueryCommand_local) ?_
  refine header_local _ (fun n p q agree least => same n p q agree least _ _) _ _
    (parsedAs_local _ _ decodeRuleStatusCommand_local) ?_
  refine header_local _ (fun n p q agree least => same n p q agree least _ _) _ _
    (parsedAs_local _ _ decodeRuleEnquiryCommand_local) ?_
  refine header_local _ (fun n p q agree least => same n p q agree least _ _) _ _
    (parsedAs_local _ _ decodeRuleConfigurationCommand_local) ?_
  refine header_local _ (fun n p q agree least => same n p q agree least _ _) _ _
    (parsedAs_local _ _ decodePeriodicReportEnquiryCommand_local) ?_
  refine header_local _ (fun n p q agree least => same n p q agree least _ _) _ _
    reportInterval_local ?_
  refine header_local _ (fun n p q agree least => same n p q agree least _ _) _ _
    (parsedAs_local _ _ decodeModbusChannelCommand_local) ?_
  refine header_local _ (fun n p q agree least => same n p q agree least _ _) _ _
    (parsedAs_local _ _ (supported_local _ _ decodeRs485SettingsCommand_local)) ?_
  refine header_local _ (fun n p q agree least => same n p q agree least _ _) _ _
    (parsedAs_local _ _ (supported_local _ _ decodeModbusMasterSettingsCommand_local)) ?_
  refine header_local _ (fun n p q agree least => same n p q agree least _ _) _ _
    (parsedAs_local _ _ decodeRs485SettingsEnquiryCommand_local) ?_
  intro p parsed n accepted
  cases accepted

theorem parseCommand_local : Local 3 Parses := by
  intro p parsed n accepted
  unfold Parses parseCommand at accepted
  split at accepted
  · cases accepted
  · obtain ⟨least, inside, found⟩ := parseHeadedCommand_local p parsed n accepted
    refine ⟨least, inside, fun q agree => ?_⟩
    have long : ¬ q.length < 2 := by
      have := agree.right
      omega
    rw [Parses, parseCommand, if_neg long]
    exact found q agree

theorem drop_length_lt (p : Bytes) (command : ParsedCommand) (n : Nat)
    (parsed : parseCommand p = some (command, n)) : (p.drop n).length < p.length := by
  obtain ⟨least, inside, -⟩ := parseCommand_local p command n parsed
  rw [List.length_drop]
  omega

/-- The loop ends with the commands of the payload, or before a part that does not parse. -/
theorem parseLoop_cases (turns : Nat) (p : Bytes) (commands : List ParsedCommand)
    (enough : p.length ≤ turns) :
    (∃ items, Items parseCommand p items [] ∧
      parseLoop turns p commands = .parsed (commands ++ items)) ∨
    (∃ items rest, Items parseCommand p items rest ∧ rest ≠ [] ∧ parseCommand rest = none ∧
      parseLoop turns p commands = .failed) := by
  induction turns generalizing p commands with
  | zero =>
    obtain rfl := List.eq_nil_of_length_eq_zero (Nat.le_zero.mp enough)
    exact .inl ⟨[], .done [], by simp [parseLoop]⟩
  | succ turns ih =>
    rw [parseLoop]
    split
    · rename_i empty
      obtain rfl := List.eq_nil_of_length_eq_zero empty
      exact .inl ⟨[], .done [], by simp⟩
    · rename_i some
      split
      · rename_i refused
        exact .inr ⟨[], p, .done p, by simpa using some, refused, rfl⟩
      · rename_i command n parsed
        have shorter := drop_length_lt p command n parsed
        obtain ⟨items, found, ended⟩ | ⟨items, rest, found, others, refused, ended⟩ :=
          ih (p.drop n) (commands ++ [command]) (by omega)
        · exact .inl ⟨command :: items, .item parsed found, by simpa using ended⟩
        · exact .inr ⟨command :: items, rest, .item parsed found, others, refused, ended⟩

theorem parseLoop_item (p : Bytes) (command : ParsedCommand) (n turns : Nat)
    (commands : List ParsedCommand) (parsed : parseCommand p = some (command, n))
    (enough : p.length ≤ turns) :
    ∃ left, (p.drop n).length ≤ left ∧
      parseLoop turns p commands = parseLoop left (p.drop n) (commands ++ [command]) := by
  have shorter := drop_length_lt p command n parsed
  have some : ¬ p.length = 0 := by omega
  cases turns with
  | zero => omega
  | succ turns =>
    refine ⟨turns, by omega, ?_⟩
    rw [parseLoop, if_neg some, parsed]

theorem parseLoop_parsed (p rest : Bytes) (items : List ParsedCommand)
    (found : Items parseCommand p items rest) (whole : rest = []) (turns : Nat)
    (commands : List ParsedCommand) (enough : p.length ≤ turns) :
    parseLoop turns p commands = .parsed (commands ++ items) := by
  induction found generalizing turns commands with
  | done p =>
    subst whole
    cases turns <;> simp [parseLoop]
  | @item p rest n command items first _ ih =>
    obtain ⟨left, enough, turn⟩ := parseLoop_item p command n turns commands first enough
    rw [turn, ih whole left (commands ++ [command]) enough, List.append_assoc,
      List.singleton_append]

theorem parseLoop_failed (p rest : Bytes) (items : List ParsedCommand)
    (found : Items parseCommand p items rest) (others : rest ≠ [])
    (refused : parseCommand rest = none) (turns : Nat) (commands : List ParsedCommand)
    (enough : p.length ≤ turns) : parseLoop turns p commands = .failed := by
  induction found generalizing turns commands with
  | done p =>
    have some : ¬ p.length = 0 := by simpa using others
    cases turns with
    | zero => omega
    | succ turns => rw [parseLoop, if_neg some, refused]
  | @item p rest n command items first _ ih =>
    obtain ⟨left, enough, turn⟩ := parseLoop_item p command n turns commands first enough
    rw [turn]
    exact ih others refused left (commands ++ [command]) enough

theorem parseCommand_of_single (p : Bytes) (command : ParsedCommand)
    (single : parseCommands p = .parsed [command]) :
    parseCommand p = some (command, p.length) := by
  obtain ⟨items, found, ended⟩ | ⟨_, _, _, _, _, ended⟩ :=
    parseLoop_cases p.length p [] (Nat.le_refl _)
  · have same : items = [command] := by
      have both := ended.symm.trans single
      simpa using both
    subst same
    cases found with
    | @item _ _ n _ _ first others =>
      have inside := (parseCommand_local p command n first).2.1
      generalize tail : p.drop n = q at others
      cases others
      have long := List.drop_eq_nil_iff.mp tail
      rw [first, Nat.le_antisymm inside long]
  · have both := ended.symm.trans single
    cases both

/-- All decoders of the dispatch, with the checks made while parsing. -/
def DecodersLocal : Prop :=
  Local 3 (Accepts decodeBasicControlCommand) ∧
  Local 3 (Accepts decodeUtcTimezoneCommand) ∧
  Local 3 (Accepts decodeLnsTimeSyncCommand) ∧
  Local 3 (Accepts decodeDstSettingsCommand) ∧
  Local 3 (Accepts (decodeHistoryToggleCommand kDataStorageType)) ∧
  Local 3 (Accepts (decodeHistoryToggleCommand kDataRetransmissionType)) ∧
  Local 3 (Accepts decodeRetransmissionIntervalCommand) ∧
  Local 3 (Accepts decodeRetrievabilityIntervalCommand) ∧
  Local 3 (Accepts decodeHistoryQueryCommand) ∧
  Local 3 (Accepts decodeRuleStatusCommand) ∧
  Local 3 (Accepts decodeRuleEnquiryCommand) ∧
  Local 3 (Accepts decodeRuleConfigurationCommand) ∧
  Local 3 (Accepts decodePeriodicReportEnquiryCommand) ∧
  (Local 3 fun p settings n => decodeReportIntervalCommand p = some (settings, n)) ∧
  Local 3 (Accepts decodeModbusChannelCommand) ∧
  Local 3 (Accepts decodeRs485SettingsCommand) ∧
  Local 3 (Accepts decodeModbusMasterSettingsCommand) ∧
  Local 3 (Accepts decodeRs485SettingsEnquiryCommand) ∧
  Local 3 Parses

theorem decoders_local : DecodersLocal :=
  ⟨decodeBasicControlCommand_local, decodeUtcTimezoneCommand_local,
    decodeLnsTimeSyncCommand_local, decodeDstSettingsCommand_local,
    decodeHistoryToggleCommand_local _, decodeHistoryToggleCommand_local _,
    decodeIntervalCommand_local _, decodeIntervalCommand_local _,
    decodeHistoryQueryCommand_local, decodeRuleStatusCommand_local,
    decodeRuleEnquiryCommand_local, decodeRuleConfigurationCommand_local,
    decodePeriodicReportEnquiryCommand_local, decodeReportIntervalCommand_local,
    decodeModbusChannelCommand_local, decodeRs485SettingsCommand_local,
    decodeModbusMasterSettingsCommand_local, decodeRs485SettingsEnquiryCommand_local,
    parseCommand_local⟩

theorem handleLoRaDownlink_commands (deliver : Deliver State) (app : State) (p : Bytes)
    (some : p ≠ []) (unmatched : matchesServerRule app.rules p = false) :
    handleLoRaDownlink deliver app ⟨kCompatibilityFPort, p⟩ =
      applyParsed deliver app (parseCommands p) := by
  have length : ¬ p.length = 0 := by simpa using some
  simp only [handleLoRaDownlink, length, unmatched, if_false, bne_self_eq_false,
    Bool.false_eq_true]

/-- A payload that no server-message rule waits for: the parse loop ends, the decoders are
local, nothing changes when one command does not parse, and commands put one after the other
parse as these commands and are applied in their order. -/
theorem downlink_parsed_compositionally (deliver : Deliver State) (app : State) (p : Bytes)
    (unmatched : matchesServerRule app.rules p = false) :
    parseCommands p ≠ .unfinished ∧ DecodersLocal ∧
      (∀ items rest, Items parseCommand p items rest → rest ≠ [] → parseCommand rest = none →
        handleLoRaDownlink deliver app ⟨kCompatibilityFPort, p⟩ = (app, false)) ∧
      ∀ pieces : List (Bytes × ParsedCommand),
        (∀ piece ∈ pieces, parseCommands piece.1 = .parsed [piece.2]) →
        p = pieces.flatMap Prod.fst →
          parseCommands p = .parsed (pieces.map Prod.snd) ∧
            (p ≠ [] → handleLoRaDownlink deliver app ⟨kCompatibilityFPort, p⟩ =
              applyCommands deliver (pieces.map Prod.snd) app) := by
  refine ⟨?_, decoders_local, ?_, ?_⟩
  · obtain ⟨_, _, ended⟩ | ⟨_, _, _, _, _, ended⟩ :=
      parseLoop_cases p.length p [] (Nat.le_refl _)
    · rw [parseCommands, ended]
      exact ParseResult.noConfusion
    · rw [parseCommands, ended]
      exact ParseResult.noConfusion
  · intro items rest found others refused
    have some : p ≠ [] := by
      rintro rfl
      cases found with
      | done => exact others rfl
      | item first _ => exact absurd (drop_length_lt _ _ _ first) (Nat.not_lt_zero _)
    rw [handleLoRaDownlink_commands deliver app p some unmatched, parseCommands,
      parseLoop_failed p rest items found others refused p.length [] (Nat.le_refl _)]
    rfl
  · intro pieces single whole
    have found := items_flatMap 3 parseCommand parseCommand_local pieces
      (fun piece member => parseCommand_of_single _ _ (single piece member)) []
    rw [List.append_nil, ← whole] at found
    have parsed : parseCommands p = .parsed (pieces.map Prod.snd) :=
      parseLoop_parsed p [] _ found rfl p.length [] (Nat.le_refl _)
    refine ⟨parsed, fun some => ?_⟩
    rw [handleLoRaDownlink_commands deliver app p some unmatched, parsed]
    rfl

theorem downlink_parsed_compositionally_two :
    parseCommands [0xff, 0x68, 0x01, 0xff, 0x03, 0x3c, 0x00] =
      .parsed [.dataStorage true, .reportInterval { seconds := 60 }] :=
  ((downlink_parsed_compositionally (deliverNested 0) {} _ (by decide)).2.2.2
    [([0xff, 0x68, 0x01], .dataStorage true),
      ([0xff, 0x03, 0x3c, 0x00], .reportInterval { seconds := 60 })] (by decide) rfl).1

end Application
