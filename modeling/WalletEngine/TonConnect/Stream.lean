import WalletEngine.TonConnect.Plain
import WalletEngine.TonConnect.Sse

/-! # The event stream as a whole

The decoder takes a stream in pieces. Taking the lines of a stream is a scan that can be cut
anywhere; what a push adds to it is the charge for the unfinished line. -/

namespace WalletEngine

namespace BridgeSseDecoder

variable {lib : Libraries}

/-- The state after a line and the message of an event that it ends. -/
abbrev LineResult (lib : Libraries) :=
  BridgeSseDecoder × Except HttpBridgeError (Option (BridgeSseMessage lib))

section Lines

variable (decoder : BridgeSseDecoder) (line : List UInt8)

/-- A line with its break fits into the event that it belongs to. -/
def Fits : Prop :=
  decoder.currentEventBytes + (stripCr line).length + 1 ≤ decoder.maxEventBytes.1

/-- The text of a line, without its carriage return. -/
def lineText : Option String :=
  String.fromUTF8? ⟨(stripCr line).toArray⟩

variable {decoder line}

theorem takeLine_large (large : ¬ decoder.Fits line) :
    (decoder.takeLine line : LineResult lib) =
      (decoder.charge (stripCr line), .error .eventTooLarge) :=
  if_pos (Nat.not_le.mp large)

theorem takeLine_eq (fits : decoder.Fits line) :
    (decoder.takeLine line : LineResult lib) =
      match lineText line with
      | none => (decoder.charge (stripCr line), .error .invalidSseUtf8)
      | some text =>
        if text = "" then
          match (decoder.charge (stripCr line)).dispatch with
          | .error error => ((decoder.charge (stripCr line)).cleared, .error error)
          | .ok message =>
            ({ (decoder.charge (stripCr line)).cleared with currentEventBytes := 0 },
              .ok message)
        else ((decoder.charge (stripCr line)).processLine text.toList, .ok none) :=
  if_neg (Nat.not_lt.mpr fits)

end Lines

/-- Where taking the complete lines of some bytes ends: the messages so far, the state, and
either the failure of a line or the bytes of the unfinished one. -/
structure Scan (lib : Libraries) where
  messages : List (BridgeSseMessage lib)
  decoder : BridgeSseDecoder
  outcome : Except HttpBridgeError (List UInt8)

/-- The same scan behind earlier messages. -/
def Scan.after (scanned : Scan lib) (earlier : List (BridgeSseMessage lib)) : Scan lib :=
  { scanned with messages := earlier ++ scanned.messages }

/-- Take the complete lines and no more. -/
def scan (decoder : BridgeSseDecoder) (line : List UInt8) : List UInt8 → Scan lib
  | [] => ⟨[], decoder, .ok line⟩
  | byte :: bytes =>
    if byte = 10 then
      match decoder.takeLine line with
      | (next, .error error) => ⟨[], { next with pending := bytes }, .error error⟩
      | (next, .ok message) => (next.scan [] bytes).after message.toList
    else decoder.scan (line ++ [byte]) bytes

/-- The end of a push: the unfinished line is kept and charged. -/
def Scan.finish (scanned : Scan lib) :
    BridgeSseDecoder × Except HttpBridgeError (List (BridgeSseMessage lib)) :=
  match scanned.outcome with
  | .error error => (scanned.decoder, .error error)
  | .ok line =>
    ({ scanned.decoder with pending := line },
      if scanned.decoder.maxEventBytes.1 < scanned.decoder.currentEventBytes + line.length then
        .error .eventTooLarge
      else .ok scanned.messages)

/-- Go on with more bytes; behind a failing line they are left in the buffer. -/
def Scan.resume (scanned : Scan lib) (bytes : List UInt8) : Scan lib :=
  match scanned.outcome with
  | .error _ =>
    { scanned with
      decoder := { scanned.decoder with pending := scanned.decoder.pending ++ bytes } }
  | .ok line => (scanned.decoder.scan line bytes).after scanned.messages

theorem Scan.finish_after (scanned : Scan lib) (earlier : List (BridgeSseMessage lib)) :
    (scanned.after earlier).finish =
      (scanned.finish.1, scanned.finish.2.map (earlier ++ ·)) := by
  obtain ⟨messages, decoder, outcome⟩ := scanned
  cases outcome with
  | error error => rfl
  | ok line =>
    refine Prod.ext rfl ?_
    change (if decoder.maxEventBytes.1 < decoder.currentEventBytes + line.length then _ else
      .ok (earlier ++ messages)) = Except.map _ (if decoder.maxEventBytes.1 <
        decoder.currentEventBytes + line.length then _ else .ok messages)
    split <;> rfl

theorem Scan.resume_after (scanned : Scan lib) (earlier : List (BridgeSseMessage lib))
    (bytes : List UInt8) :
    (scanned.after earlier).resume bytes = (scanned.resume bytes).after earlier := by
  obtain ⟨messages, decoder, outcome⟩ := scanned
  cases outcome with
  | error error => rfl
  | ok line => simp only [Scan.after, Scan.resume, List.append_assoc]

/-- Draining the buffer is a scan and the charge for what is left. -/
theorem drain_eq_finish (decoder : BridgeSseDecoder) (line bytes : List UInt8) :
    decoder.drain line bytes = (decoder.scan line bytes : Scan lib).finish := by
  induction bytes generalizing decoder line with
  | nil => rfl
  | cons byte bytes ih =>
    rw [drain, scan]
    split
    · cases taken : (decoder.takeLine line : LineResult lib) with
      | mk next result =>
        cases result with
        | error error => rfl
        | ok message => simp only [ih, Scan.finish_after]
    · exact ih decoder _

theorem push_eq_finish (decoder : BridgeSseDecoder) (chunk : List UInt8) :
    decoder.push chunk = (decoder.scan [] (decoder.pending ++ chunk) : Scan lib).finish :=
  drain_eq_finish decoder [] _

/-- A scan can be cut at any byte. -/
theorem scan_append (decoder : BridgeSseDecoder) (line first second : List UInt8) :
    (decoder.scan line (first ++ second) : Scan lib) =
      (decoder.scan line first).resume second := by
  induction first generalizing decoder line with
  | nil => rfl
  | cons byte bytes ih =>
    rw [List.cons_append, scan, scan]
    split
    · cases taken : (decoder.takeLine line : LineResult lib) with
      | mk next result =>
        cases result with
        | error error => rfl
        | ok message => simp only [ih, Scan.resume_after]
    · exact ih decoder _

/-- Bytes without a line break extend the unfinished line. -/
theorem scan_line (decoder : BridgeSseDecoder) (line : List UInt8) {bytes : List UInt8}
    (unbroken : 10 ∉ bytes) :
    (decoder.scan line bytes : Scan lib) = ⟨[], decoder, .ok (line ++ bytes)⟩ := by
  induction bytes generalizing line with
  | nil => rw [scan, List.append_nil]
  | cons byte bytes ih =>
    rw [List.mem_cons, not_or] at unbroken
    rw [scan, if_neg (Ne.symm unbroken.1), ih _ unbroken.2, List.append_assoc, List.singleton_append]

section Buffer

/-- A decoder with other bytes in its buffer. -/
def buffering (decoder : BridgeSseDecoder) (bytes : List UInt8) : BridgeSseDecoder :=
  { decoder with pending := bytes }

theorem processLine_buffering (decoder : BridgeSseDecoder) (bytes : List UInt8) (line : List Char) :
    (decoder.buffering bytes).processLine line = (decoder.processLine line).buffering bytes := by
  simp only [processLine]
  split
  · rfl
  · split
    · rfl
    · split
      · rfl
      · split <;> rfl

/-- A line is taken without a look at the buffer. -/
theorem takeLine_buffering (decoder : BridgeSseDecoder) (bytes line : List UInt8) :
    ((decoder.buffering bytes).takeLine line : LineResult lib) =
      ((decoder.takeLine line : LineResult lib).1.buffering bytes,
        (decoder.takeLine line : LineResult lib).2) := by
  have charged : (decoder.buffering bytes).charge (stripCr line) =
      (decoder.charge (stripCr line)).buffering bytes := rfl
  have dispatched : ((decoder.charge (stripCr line)).buffering bytes).dispatch =
      ((decoder.charge (stripCr line)).dispatch : Except _ (Option (BridgeSseMessage lib))) := rfl
  by_cases fits : decoder.Fits line
  · have same : (decoder.buffering bytes).Fits line := fits
    rw [takeLine_eq fits, takeLine_eq same, charged, dispatched]
    cases lineText line with
    | none => rfl
    | some text =>
      simp only
      by_cases blank : text = ""
      · rw [if_pos blank, if_pos blank]
        cases (decoder.charge (stripCr line)).dispatch <;> rfl
      · rw [if_neg blank, if_neg blank, processLine_buffering]
  · have same : ¬ (decoder.buffering bytes).Fits line := fits
    rw [takeLine_large fits, takeLine_large same, charged]

/-- A scan that did not fail has left the buffer alone. -/
def Scan.buffering (scanned : Scan lib) (bytes : List UInt8) : Scan lib :=
  match scanned.outcome with
  | .error _ => scanned
  | .ok _ => { scanned with decoder := scanned.decoder.buffering bytes }

theorem Scan.buffering_after (scanned : Scan lib) (bytes : List UInt8)
    (earlier : List (BridgeSseMessage lib)) :
    (scanned.buffering bytes).after earlier = (scanned.after earlier).buffering bytes := by
  obtain ⟨messages, decoder, outcome⟩ := scanned
  cases outcome <;> rfl

theorem Scan.finish_buffering (scanned : Scan lib) (bytes : List UInt8) :
    (scanned.buffering bytes).finish = scanned.finish := by
  obtain ⟨messages, decoder, outcome⟩ := scanned
  cases outcome <;> rfl

theorem Scan.messages_buffering (scanned : Scan lib) (bytes : List UInt8) :
    (scanned.buffering bytes).messages = scanned.messages := by
  obtain ⟨messages, decoder, outcome⟩ := scanned
  cases outcome <;> rfl

theorem scan_buffering (decoder : BridgeSseDecoder) (bytes line rest : List UInt8) :
    ((decoder.buffering bytes).scan line rest : Scan lib) =
      (decoder.scan line rest).buffering bytes := by
  induction rest generalizing decoder line with
  | nil => rfl
  | cons byte rest ih =>
    rw [scan, scan]
    split
    · rw [takeLine_buffering]
      cases taken : (decoder.takeLine line : LineResult lib) with
      | mk next result =>
        cases result with
        | error error => rfl
        | ok message => simp only [ih, Scan.buffering_after]
    · exact ih decoder _

end Buffer

section Chunks

variable {decoder next : BridgeSseDecoder} {line first : List UInt8}
  {messages : List (BridgeSseMessage lib)}

/-- The state after a push and the messages that it returns. -/
abbrev PushResult (lib : Libraries) :=
  BridgeSseDecoder × Except HttpBridgeError (List (BridgeSseMessage lib))

theorem scan_unbroken {bytes rest : List UInt8} (unbroken : 10 ∉ line)
    (ended : (decoder.scan line bytes : Scan lib).outcome = .ok rest) : 10 ∉ rest := by
  induction bytes generalizing decoder line with
  | nil =>
    cases ended
    exact unbroken
  | cons byte bytes ih =>
    rw [scan] at ended
    split at ended
    · split at ended
      · cases ended
      · exact ih List.not_mem_nil ended
    · next other =>
        refine ih (fun listed => ?_) ended
        rcases List.mem_append.mp listed with early | last
        · exact unbroken early
        · exact other (List.mem_singleton.mp last).symm

/-- A push that returns has scanned to an unfinished line, which it keeps. -/
theorem push_ok {chunk : List UInt8} (pushed : decoder.push chunk = (next, .ok messages)) :
    ∃ state line, decoder.scan [] (decoder.pending ++ chunk) = ⟨messages, state, .ok line⟩ ∧
      next = state.buffering line ∧ 10 ∉ line := by
  rw [push_eq_finish] at pushed
  cases scanned : (decoder.scan [] (decoder.pending ++ chunk) : Scan lib) with
  | mk earlier state outcome =>
    rw [scanned] at pushed
    cases outcome with
    | error error => cases pushed
    | ok line =>
      have unbroken : 10 ∉ line := by
        have ended := congrArg Scan.outcome scanned
        exact scan_unbroken List.not_mem_nil ended
      obtain ⟨kept, returned⟩ := Prod.mk.inj pushed
      split at returned
      · cases returned
      · cases returned
        exact ⟨state, line, rfl, kept.symm, unbroken⟩

/-- The next push goes on where the last one stopped. -/
theorem scan_after_push {state : BridgeSseDecoder} (unbroken : 10 ∉ line) (chunk : List UInt8) :
    ((state.buffering line).scan [] ((state.buffering line).pending ++ chunk) : Scan lib) =
      (state.scan line chunk).buffering line := by
  rw [scan_buffering]
  change Scan.buffering (state.scan [] (line ++ chunk)) line = _
  rw [scan_append, scan_line _ _ unbroken]
  rfl

/-- What a successful push leaves behind is exactly what the next one needs. -/
theorem push_append (pushed : decoder.push first = (next, .ok messages)) (second : List UInt8) :
    (decoder.push (first ++ second) : PushResult lib) =
      ((next.push second : PushResult lib).1,
        (next.push second : PushResult lib).2.map (messages ++ ·)) := by
  obtain ⟨state, line, scanned, rfl, unbroken⟩ := push_ok pushed
  rw [push_eq_finish, push_eq_finish, scan_after_push unbroken, Scan.finish_buffering,
    ← List.append_assoc, scan_append, scanned]
  exact Scan.finish_after _ _

theorem length_le_stripCr (line : List UInt8) : line.length ≤ (stripCr line).length + 1 := by
  unfold stripCr
  split
  · rw [List.length_dropLast]
    omega
  · omega

/-- An unfinished line that is too long already stays too long. -/
theorem finish_scan_large
    (large : decoder.maxEventBytes.1 < decoder.currentEventBytes + line.length)
    (bytes : List UInt8) :
    (decoder.scan line bytes : Scan lib).finish.2 = .error .eventTooLarge := by
  induction bytes generalizing line with
  | nil => exact if_pos large
  | cons byte bytes ih =>
    rw [scan]
    split
    · have beyond : ¬ decoder.Fits line := by
        have short := length_le_stripCr line
        unfold Fits
        omega
      rw [takeLine_large beyond]
      rfl
    · refine ih ?_
      rw [List.length_append, List.length_singleton]
      omega

/-- A push that fails would have failed in the same way with more bytes. -/
theorem push_append_error {error : HttpBridgeError}
    (failed : (decoder.push first : PushResult lib).2 = .error error) (second : List UInt8) :
    (decoder.push (first ++ second) : PushResult lib).2 = .error error := by
  rw [push_eq_finish] at failed ⊢
  rw [← List.append_assoc, scan_append]
  cases scanned : (decoder.scan [] (decoder.pending ++ first) : Scan lib) with
  | mk earlier state outcome =>
    rw [scanned] at failed
    cases outcome with
    | error reason => exact failed
    | ok line =>
      simp only [Scan.finish] at failed
      split at failed
      · next large =>
          cases failed
          have fails : (state.scan line second : Scan lib).finish.2 = .error .eventTooLarge :=
            finish_scan_large large second
          change ((state.scan line second : Scan lib).after earlier).finish.2 = _
          rw [Scan.finish_after, fails]
          rfl
      · cases failed

/-- Push chunks one after the other up to the first that fails; with the messages returned. -/
def pushAll (decoder : BridgeSseDecoder) :
    List (List UInt8) → List (BridgeSseMessage lib) × BridgeSseDecoder × Except HttpBridgeError Unit
  | [] => ([], decoder, .ok ())
  | chunk :: chunks =>
    match decoder.push chunk with
    | (next, .error error) => ([], next, .error error)
    | (next, .ok messages) =>
      let (others, outcome) := next.pushAll chunks
      (messages ++ others, outcome)

/-- The messages of all events of a stream that end before its first failing one. -/
def messagesBefore (decoder : BridgeSseDecoder) (stream : List UInt8) :
    List (BridgeSseMessage lib) :=
  (decoder.scan [] (decoder.pending ++ stream) : Scan lib).messages

/-- What the following chunks return comes after what the first did. -/
theorem messagesBefore_append (pushed : decoder.push first = (next, .ok messages))
    (second : List UInt8) :
    decoder.messagesBefore (first ++ second) = messages ++ next.messagesBefore second := by
  obtain ⟨state, line, scanned, rfl, unbroken⟩ := push_ok pushed
  rw [messagesBefore, messagesBefore, scan_after_push unbroken, Scan.messages_buffering,
    ← List.append_assoc, scan_append, scanned]
  rfl

/-- How a stream is cut into chunks does not matter: if it can be taken at once, then in chunks
with the same messages and the same state at the end; if not, the chunks fail in the same way,
and no message of the failing event or of a later one was returned before. -/
theorem pushAll_chunks (decoder : BridgeSseDecoder) (first : List UInt8)
    (rest : List (List UInt8)) :
    match (decoder.push (first ++ rest.flatten) : PushResult lib) with
    | (after, .ok messages) => decoder.pushAll (first :: rest) = (messages, after, .ok ())
    | (_, .error error) =>
      ∃ returned after, decoder.pushAll (first :: rest) = (returned, after, .error error) ∧
        returned <+: (decoder.messagesBefore (first ++ rest.flatten) :
          List (BridgeSseMessage lib)) := by
  induction rest generalizing decoder first with
  | nil =>
    rw [List.flatten_nil, List.append_nil]
    cases pushed : (decoder.push first : PushResult lib) with
    | mk next result =>
      cases result with
      | error error => exact ⟨[], next, by simp only [pushAll, pushed], List.nil_prefix⟩
      | ok messages => simp only [pushAll, pushed, List.append_nil]
  | cons second rest ih =>
    rw [List.flatten_cons]
    cases pushed : (decoder.push first : PushResult lib) with
    | mk next result =>
      cases result with
      | error error =>
        have failed := push_append_error (congrArg Prod.snd pushed) (second ++ rest.flatten)
        split
        · next returned => rw [returned] at failed; cases failed
        · next returned =>
            rw [returned] at failed
            cases failed
            exact ⟨[], next, by simp only [pushAll, pushed], List.nil_prefix⟩
      | ok messages =>
        have later := ih next second
        rw [push_append pushed, messagesBefore_append pushed]
        cases resumed : (next.push (second ++ rest.flatten) : PushResult lib) with
        | mk last outcome =>
          rw [resumed] at later
          cases outcome with
          | error error =>
            obtain ⟨returned, after, ran, before⟩ := later
            refine ⟨messages ++ returned, after, ?_, ?_⟩
            · rw [pushAll, pushed]
              simp only [ran]
            · exact List.prefix_append_right_inj messages |>.mpr before
          | ok others =>
            change decoder.pushAll (first :: second :: rest) = _
            rw [pushAll, pushed]
            simp only [later]

end Chunks

section Memory

/-- The bytes of the fields of the unfinished event. -/
def fieldBytes (decoder : BridgeSseDecoder) : Nat :=
  decoder.eventType.elim 0 String.utf8ByteSize + (decoder.dataLines.map String.utf8ByteSize).sum

/-- The bytes that are held for the unfinished event. -/
def heldBytes (decoder : BridgeSseDecoder) : Nat :=
  decoder.pending.length + decoder.fieldBytes

/-- The charge covers the fields of the event. -/
def Charged (decoder : BridgeSseDecoder) : Prop :=
  decoder.fieldBytes ≤ decoder.currentEventBytes

theorem utf8ByteSize_append_right (first second : List Char) :
    (String.ofList second).utf8ByteSize ≤ (String.ofList (first ++ second)).utf8ByteSize := by
  rw [String.ofList_append, String.utf8ByteSize_append]
  exact Nat.le_add_left _ _

/-- The value of a line is a part of the line. -/
theorem utf8ByteSize_lineField (line : List Char) :
    (String.ofList (lineField line).2).utf8ByteSize ≤ (String.ofList line).utf8ByteSize := by
  unfold lineField
  split
  · next field value found =>
      rw [eq_append_of_splitOnce found]
      exact utf8ByteSize_append_right (field ++ [':', ' ']) value |>.trans (by simp)
  · next field value _ found =>
      rw [eq_append_of_splitOnce found]
      exact utf8ByteSize_append_right (field ++ [':']) value |>.trans (by simp)
  · exact Nat.zero_le _

theorem fieldBytes_processLine (decoder : BridgeSseDecoder) (line : List Char) :
    (decoder.processLine line).fieldBytes ≤
      decoder.fieldBytes + (String.ofList line).utf8ByteSize := by
  have value := utf8ByteSize_lineField line
  unfold processLine
  split
  · exact Nat.le_add_right _ _
  · dsimp only
    split
    · simp only [fieldBytes, Option.elim_some]
      omega
    · split
      · simp only [fieldBytes, List.map_append, List.map_singleton, List.sum_append,
          List.sum_singleton]
        omega
      · split
        · exact Nat.le_add_right _ _
        · exact Nat.le_add_right _ _

theorem processLine_charge (decoder : BridgeSseDecoder) (line : List Char) :
    (decoder.processLine line).currentEventBytes = decoder.currentEventBytes ∧
      (decoder.processLine line).maxEventBytes = decoder.maxEventBytes := by
  unfold processLine
  dsimp only
  repeat' split
  all_goals exact ⟨rfl, rfl⟩

/-- A line is charged in full, and what it leaves in the fields is a part of it. -/
theorem takeLine_charged {decoder next : BridgeSseDecoder} {line : List UInt8}
    {message : Option (BridgeSseMessage lib)} (charged : decoder.Charged)
    (taken : decoder.takeLine line = (next, .ok message)) :
    next.Charged ∧ next.maxEventBytes = decoder.maxEventBytes := by
  by_cases fits : decoder.Fits line
  · rw [takeLine_eq fits] at taken
    split at taken
    · cases taken
    · next text read =>
        split at taken
        · split at taken
          · cases taken
          · cases taken
            exact ⟨Nat.zero_le _, rfl⟩
        · cases taken
          obtain ⟨same, bound⟩ := processLine_charge (decoder.charge (stripCr line)) text.toList
          have added := fieldBytes_processLine (decoder.charge (stripCr line)) text.toList
          have size : text.utf8ByteSize = (stripCr line).length := by
            rw [← length_utf8, utf8_of_fromUTF8 read]
          have kept : (decoder.charge (stripCr line)).fieldBytes ≤ decoder.currentEventBytes :=
            charged
          rw [String.ofList_toList, size] at added
          refine ⟨?_, bound⟩
          rw [Charged, same]
          change _ ≤ decoder.currentEventBytes + (stripCr line).length + 1
          omega
  · rw [takeLine_large fits] at taken
    cases taken

theorem drain_charged {decoder next : BridgeSseDecoder} {line bytes : List UInt8}
    {messages : List (BridgeSseMessage lib)} (charged : decoder.Charged)
    (drained : decoder.drain line bytes = (next, .ok messages)) :
    next.Charged ∧ next.maxEventBytes = decoder.maxEventBytes ∧
      next.heldBytes ≤ next.maxEventBytes.1 := by
  induction bytes generalizing decoder line messages with
  | nil =>
    obtain ⟨kept, returned⟩ := Prod.mk.inj drained
    split at returned
    · cases returned
    · next small =>
        have fields : decoder.fieldBytes ≤ decoder.currentEventBytes := charged
        cases kept
        refine ⟨charged, rfl, ?_⟩
        change line.length + decoder.fieldBytes ≤ decoder.maxEventBytes.1
        omega
  | cons byte bytes ih =>
    rw [drain] at drained
    split at drained
    · split at drained
      · cases drained
      · next after message taken =>
          obtain ⟨covered, bound⟩ := takeLine_charged charged taken
          cases rest : (after.drain [] bytes : PushResult lib) with
          | mk final result =>
            rw [rest] at drained
            cases result with
            | error error => cases drained
            | ok others =>
              cases drained
              obtain ⟨last, same, held⟩ := ih covered rest
              exact ⟨last, same.trans bound, held⟩
    · exact ih charged drained

/-- **Bounded memory.** After any pushes that all returned, the unfinished line and the fields of
the unfinished event take no more bytes than an event may have. -/
theorem held_bytes_bounded (maxEventBytes : NonZeroUsize) (chunks : List (List UInt8))
    {messages : List (BridgeSseMessage lib)} {decoder : BridgeSseDecoder}
    (pushed : (new maxEventBytes).pushAll chunks = (messages, decoder, .ok ())) :
    decoder.heldBytes ≤ maxEventBytes.1 := by
  have runs : ∀ (chunks : List (List UInt8)) (start : BridgeSseDecoder)
      (messages : List (BridgeSseMessage lib)), start.Charged →
      start.heldBytes ≤ start.maxEventBytes.1 →
      start.pushAll chunks = (messages, decoder, .ok ()) →
        decoder.heldBytes ≤ start.maxEventBytes.1 := by
    intro chunks
    induction chunks with
    | nil =>
      intro start messages _ held pushed
      cases pushed
      exact held
    | cons chunk chunks ih =>
      intro start messages charged _ pushed
      rw [pushAll] at pushed
      split at pushed
      · cases pushed
      · next next returned first =>
          obtain ⟨covered, bound, held⟩ := drain_charged charged first
          obtain ⟨-, rest⟩ := Prod.mk.inj pushed
          rw [← bound]
          exact ih next _ covered held (Prod.ext rfl rest)
  have empty : (new maxEventBytes).Charged := Nat.le_refl 0
  exact runs chunks _ messages empty (Nat.zero_le _) pushed

/-- A type, a data line and the start of another line are held. -/
theorem held_bytes_bounded_line : ∃ decoder, (new ⟨24, by decide⟩).pushAll
      [utf8 "event: ab\ndata: c", utf8 "d\nda"] =
        (([] : List (BridgeSseMessage plainLibraries)), decoder, .ok ()) ∧
    decoder.heldBytes = 6 ∧ decoder.heldBytes ≤ 24 := by
  have pushed : (new ⟨24, by decide⟩).pushAll [utf8 "event: ab\ndata: c", utf8 "d\nda"] =
      (([] : List (BridgeSseMessage plainLibraries)),
        ⟨utf8 "da", some "ab", ["cd"], none, 19, ⟨24, by decide⟩⟩, .ok ()) := rfl
  exact ⟨_, pushed, by decide, held_bytes_bounded _ _ pushed⟩

end Memory

end BridgeSseDecoder

end WalletEngine
