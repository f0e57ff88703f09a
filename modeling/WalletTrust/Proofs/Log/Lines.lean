import WalletTrust.Log.Method
import WalletTrust.Proofs.Json.Printable
import WalletTrust.Proofs.Log.Record
import WalletTrust.Text.Lines

/-!
# One line for every event

A logger that writes documents puts one line into its output for every call at or above its
threshold. The line reads back as what was logged, so that no text can pass for a line of its own.
-/

namespace WalletTrust

/-! ## Lines of a text -/

namespace Text

private theorem linesFrom_line {line : Points} (h : ∀ point ∈ line, endsLine point = false)
    (read rest : Points) :
    linesFrom read (line ++ 0xa :: rest) = (read.reverse ++ line) :: linesFrom [] rest := by
  induction line generalizing read with
  | nil =>
    have hfeed : endsLine 0xa = true := by decide
    rw [List.nil_append, List.append_nil, linesFrom, if_pos hfeed]
    rintro _ ⟨⟩
  | cons point line ih =>
    obtain ⟨hpoint, hline⟩ := List.forall_mem_cons.1 h
    rw [List.cons_append, linesFrom, if_neg (by simp [hpoint]), ih hline, List.reverse_cons,
      List.append_assoc, List.singleton_append]
    rintro _ rfl
    cases hpoint

/-- Lines that nothing ends but the line feed behind each are found again. -/
theorem lines_flatMap {lines : List Points}
    (h : ∀ line ∈ lines, ∀ point ∈ line, endsLine point = false) :
    Text.lines (lines.flatMap (· ++ [0xa])) = lines := by
  induction lines with
  | nil => rfl
  | cons line lines ih =>
    obtain ⟨hline, hlines⟩ := List.forall_mem_cons.1 h
    rw [List.flatMap_cons, List.append_assoc, List.singleton_append, Text.lines,
      linesFrom_line hline, ← Text.lines, ih hlines]
    rfl

theorem endsLine_of_printable {point : Nat} (h : 0x20 ≤ point ∧ point < 0x7f) :
    endsLine point = false := by
  simp only [endsLine, Bool.or_eq_false_iff, Bool.and_eq_false_iff, beq_eq_false_iff_ne,
    decide_eq_false_iff_not]
  omega

end Text

namespace Log

/-- An event at a level, with context that can be written as a document. -/
structure Message where
  level : Level
  event : String
  context : List (String × Value)
  distinct : (context.map (·.1)).Nodup
  unreserved : ∀ field ∈ context, field.1 ∉ reservedNames
  documents : ∀ field ∈ context, Json.IsDocument field.2

namespace Message

variable (m : Message)

/-- The call of the method that is named like the level. -/
def call : Value × Value × List (Value × Value) :=
  (.text m.level.name, .text m.event, m.context.map Json.named)

def record (logger timestamp : String) : Value :=
  Log.record logger timestamp m.level m.event m.context

theorem areFree_context : AreFree m.context := ⟨m.distinct, m.unreserved⟩

variable {m}

theorem isDocument_record (logger timestamp : String) :
    Json.IsDocument (m.record logger timestamp) := by
  refine .map (m.areFree_context.nodup_recordFields logger timestamp m.level m.event) ?_
  simp only [recordFields, particulars, List.forall_mem_cons, List.forall_mem_append]
  exact ⟨.text _, m.documents, .text _, .text _, .text _, List.forall_mem_nil _⟩

/-! ## One call -/

/-- None of these names stands for a field of the context. -/
theorem clash?_context {parameters : List String} (h : ∀ name ∈ parameters, name ∈ reservedNames) :
    Method.clash? parameters (m.context.map Json.named) = none := by
  rw [Method.clash?, List.findSome?_eq_none_iff]
  intro entry hentry
  obtain ⟨field, hfield, rfl⟩ := List.mem_map.1 hentry
  rw [List.find?_eq_none]
  intro name hname
  rw [m.areFree_context.isNamed_of_reserved (h name hname) hfield]
  decide

private theorem document_message (logger timestamp : String) :
    document (.text logger) timestamp ⟨m.level, .text m.event, m.context.map Json.named⟩ =
      .ok (Text.toPoints (Json.write (m.record logger timestamp))) := by
  have hcheck : Json.check (Log.record logger timestamp m.level m.event m.context) = .ok () :=
    Json.check_of_isDocument (isDocument_record logger timestamp)
  rw [document_of_areFree m.areFree_context, hcheck]
  rfl

theorem ofName?_name (level : Level) : Method.ofName? level.name = some (.level level) := by
  cases level <;> rfl

private theorem checkClash_context (t : Threshold) (level : Level) :
    Method.checkClash (Method.signature t (.level level)) (m.context.map Json.named) = .ok () := by
  have hreserved : ∀ name ∈ Signature.object :: ["event"], name ∈ reservedNames := by decide
  have hnone : Method.clash? (Signature.object ::
      (Method.signature t (.level level)).parameters.take 1) (m.context.map Json.named) = none :=
    clash?_context hreserved
  rw [Method.checkClash, hnone]

theorem checkWriter_context : Method.checkWriter (m.context.map Json.named) = .ok () := by
  have hreserved : ∀ name ∈ Method.writer.parameters, name ∈ reservedNames := by decide
  rw [Method.checkWriter, clash?_context hreserved]

def writer (threshold : Threshold) (logger timestamp : String) : Logger :=
  { threshold, format := .ofName "json", name := .text logger, timestamp }

def line (m : Message) (logger timestamp : String) : Text.Points :=
  Text.toPoints (Json.write (m.record logger timestamp))

/-- A call writes the line of its message, or nothing below the threshold. -/
theorem call_writer (threshold : Threshold) (logger timestamp : String) :
    (writer threshold logger timestamp).call m.call.1 m.call.2.1 m.call.2.2 =
      .ok (if threshold.admits m.level then some (m.line logger timestamp) else none) := by
  have hperform : (writer threshold logger timestamp).call m.call.1 m.call.2.1 m.call.2.2 =
      (writer threshold logger timestamp).performWriting (.level m.level) (.text m.event)
        (m.context.map Json.named) := by
    simp only [call, Logger.call, ofName?_name]
    rfl
  have hwrite : (writer threshold logger timestamp).performWriting (.level m.level)
      (.text m.event) (m.context.map Json.named) =
      (writer threshold logger timestamp).write m.level (.text m.event)
        (m.context.map Json.named) := by
    simp only [Logger.performWriting, checkClash_context, bind, Except.bind]
    rfl
  have hline : (Call.mk m.level (.text m.event) (m.context.map Json.named)).written
      (.ofName "json") (.text logger) timestamp = .ok (m.line logger timestamp) :=
    document_message logger timestamp
  rw [hperform, hwrite, Logger.write, writer]
  by_cases hlevel : threshold.admits m.level
  · rw [if_pos hlevel, if_pos hlevel, checkWriter_context, hline]
    rfl
  · rw [if_neg hlevel, if_neg hlevel]

/-! ## What a line says -/

/-- A line is printable ASCII, and every reader that allows its nesting reads the record of the
message. -/
structure IsLine (logger timestamp : String) (m : Message) (line : Text.Points) : Prop where
  printable : ∀ point ∈ line, 0x20 ≤ point ∧ point < 0x7f
  reads : ∀ limit, Json.nesting (m.record logger timestamp) ≤ limit →
    Json.readWithin limit line = .ok (m.record logger timestamp)

private theorem isLine_line (m : Message) (logger timestamp : String) :
    m.IsLine logger timestamp (m.line logger timestamp) where
  printable := by
    intro point hpoint
    rw [line, Text.toPoints, Json.write, String.toList_ofList] at hpoint
    obtain ⟨c, hc, rfl⟩ := List.mem_map.1 hpoint
    exact Json.isPlain_chars (isDocument_record logger timestamp) c hc
  reads _ := Json.readWithin_write (isDocument_record logger timestamp)

private theorem output_writer (threshold : Threshold) (logger timestamp : String)
    (messages : List Message) :
    (writer threshold logger timestamp).output (messages.map Message.call) =
      .ok (((messages.filter fun m => threshold.admits m.level).map
        (Message.line · logger timestamp)).flatMap (· ++ [0xa])) := by
  induction messages with
  | nil => rfl
  | cons m messages ih =>
    have hcall := call_writer (m := m) threshold logger timestamp
    rw [List.map_cons, Logger.output, hcall, ih, List.filter_cons]
    by_cases hlevel : threshold.admits m.level
    · rw [if_pos hlevel, if_pos hlevel, List.map_cons, List.flatMap_cons, List.append_assoc]
      rfl
    · rw [if_neg hlevel, if_neg hlevel]
      rfl

end Message

/-- Every call at or above the threshold puts one line of its own into the output, from which its
event and its context are read back; other calls put nothing there. -/
theorem lines_read_back_as_logged (threshold : Threshold) (logger timestamp : String)
    (messages : List Message) :
    ∃ lines, (Message.writer threshold logger timestamp).output (messages.map Message.call) =
        .ok (lines.flatMap (· ++ [0xa])) ∧
      Text.lines (lines.flatMap (· ++ [0xa])) = lines ∧
      List.Forall₂ (Message.IsLine logger timestamp)
        (messages.filter fun m => threshold.admits m.level) lines := by
  refine ⟨_, Message.output_writer threshold logger timestamp messages, ?_, ?_⟩
  · apply Text.lines_flatMap
    intro line hline point hpoint
    obtain ⟨m, -, rfl⟩ := List.mem_map.1 hline
    exact Text.endsLine_of_printable ((m.isLine_line logger timestamp).printable point hpoint)
  · rw [List.forall₂_map_right_iff, List.forall₂_same]
    exact fun m _ => m.isLine_line logger timestamp

/-- An event whose text looks like a line of its own. -/
def Message.forging : Message where
  level := .warning
  event := "ok\"\x7d\n\x7b\"level\": \"info"
  context := [("detail", .list [.text "\\\u2028😀", .int (-7), .null])]
  distinct := by decide
  unreserved := by simp [reservedNames]
  documents := by
    have hitems : ∀ v ∈ [Value.text "\\\u2028😀", .int (-7), .null], Json.IsDocument v := by
      simp only [List.forall_mem_cons]
      exact ⟨.text _, .int (by decide), .null, List.forall_mem_nil _⟩
    rw [List.forall_mem_singleton]
    exact .list hitems

/-- An event below the threshold of most loggers. -/
def Message.whisper : Message where
  level := .debug
  event := "\n"
  context := []
  distinct := by decide
  unreserved := nofun
  documents := nofun

theorem lines_read_back_as_logged_forging :
    ∃ line, (Message.writer (some .info) "main" "now").output
        [Message.forging.call, Message.whisper.call] = .ok (line ++ [0xa]) ∧
      Text.lines (line ++ [0xa]) = [line] ∧ Message.IsLine "main" "now" .forging line := by
  obtain ⟨lines, houtput, hlines, hall⟩ :=
    lines_read_back_as_logged (some .info) "main" "now" [.forging, .whisper]
  have hadmitted : [Message.forging, .whisper].filter
      (fun m => Threshold.admits (some .info) m.level) = [.forging] := rfl
  rw [hadmitted] at hall
  obtain ⟨line, rest, hline, hrest, rfl⟩ := List.forall₂_cons_left_iff.1 hall
  cases hrest
  rw [List.flatMap_cons, List.flatMap_nil, List.append_nil] at houtput hlines
  exact ⟨line, houtput, hlines, hline⟩

end Log
end WalletTrust
