import Mathlib.Data.List.Chain
import Mathlib.Data.List.TakeWhile
import LwipExt.Lib.Run
import LwipExt.Telnet.Reading

/-!
Which commands the telnet server executes.

The stream of a client is a sequence of command lines, cut into segments in any way.
The server executes them all, in order and once, exactly in the runs whose events are
all `Taken`. The proof follows the text of the stream: what was executed and what is in
the buffer is all of it as long as nothing was lost or kept with a line end
(`Intact`), and a run that is not `Intact` stays so.
-/

namespace LwipExt.Telnet

/-! ### The stream of a client -/

/-- How a client ends a line. -/
inductive LineEnd where
  | crlf
  | lf
  | cr
  deriving DecidableEq, Repr

/-- The bytes of a line end. -/
def LineEnd.bytes : LineEnd → Bytes
  | .crlf => [asciiKeyCr, asciiKeyLf]
  | .lf => [asciiKeyLf]
  | .cr => [asciiKeyCr]

/-- A command line: not empty, shorter than the buffer, and without line ends, NUL or
option bytes. -/
structure CommandLine where
  text : Bytes
  ending : LineEnd
  nonempty : text ≠ []
  short : text.length < extCmdBufsize
  plain : ∀ b ∈ text, isLineEnd b = false ∧ b ≠ 0 ∧ b ≠ telnetProtocolIac

/-- The bytes of a command line. -/
def CommandLine.bytes (line : CommandLine) : Bytes := line.text ++ line.ending.bytes

/-- The stream of command lines. -/
def stream (lines : List CommandLine) : Bytes := lines.flatMap CommandLine.bytes

/-- The lines of what arrived. -/
def linesOf (received : Bytes) : Lib.Lines UInt8 := ({} : Lib.Lines UInt8).read isLineEnd received

/-- Adjacent line ends are those of a carriage return and line feed. -/
def EndsPaired (a b : UInt8) : Prop :=
  isLineEnd a = true → isLineEnd b = true → a = asciiKeyCr ∧ b = asciiKeyLf

/-- A beginning of a stream of command lines, so far as the server can tell. -/
structure Typed (bytes : Bytes) : Prop where
  short : ∀ before, before <+: bytes → (linesOf before).unfinished.length < extCmdBufsize
  plain : ∀ b ∈ bytes, b ≠ 0 ∧ b ≠ telnetProtocolIac
  paired : bytes.IsChain EndsPaired

theorem Typed.of_prefix {bytes before : Bytes} (typed : Typed bytes) (isPrefix : before <+: bytes) :
    Typed before := by
  constructor
  · exact fun first isFirst => typed.short first (isFirst.trans isPrefix)
  · exact fun b mem => typed.plain b (isPrefix.subset mem)
  · obtain ⟨rest, rfl⟩ := isPrefix
    exact (List.isChain_append.mp typed.paired).1

/-- A prefix ends in the first part or in the second. -/
theorem prefix_append_cases {before bytes bytes' : Bytes} (isPrefix : before <+: bytes ++ bytes') :
    before <+: bytes ∨ ∃ more, before = bytes ++ more ∧ more <+: bytes' := by
  rcases List.prefix_or_prefix_of_prefix isPrefix (List.prefix_append bytes bytes') with
    inFirst | ⟨more, rfl⟩
  · exact .inl inFirst
  · exact .inr ⟨more, rfl, (List.prefix_append_right_inj bytes).mp isPrefix⟩

theorem LineEnd.bytes_ends (ending : LineEnd) : ∀ b ∈ ending.bytes, isLineEnd b = true := by
  cases ending <;> decide +kernel

theorem LineEnd.bytes_plain (ending : LineEnd) :
    ∀ b ∈ ending.bytes, b ≠ 0 ∧ b ≠ telnetProtocolIac := by
  cases ending <;> decide +kernel

theorem LineEnd.bytes_ne_nil (ending : LineEnd) : ending.bytes ≠ [] := by
  cases ending <;> decide

theorem CommandLine.text_plain (line : CommandLine) : ∀ b ∈ line.text, isLineEnd b = false :=
  fun b mem => (line.plain b mem).1

/-- A command line is read as one line. -/
theorem read_bytes (line : CommandLine) {lines : Lib.Lines UInt8} (between : lines.unfinished = []) :
    lines.read isLineEnd line.bytes = ⟨lines.complete ++ [line.text], []⟩ := by
  rw [CommandLine.bytes, Lib.Lines.read_append, Lib.Lines.read_text line.text_plain, between,
    List.nil_append, Lib.Lines.read_ends line.ending.bytes_ends line.ending.bytes_ne_nil
      line.nonempty]

/-- The lines of a stream of command lines are the commands. -/
theorem read_stream (commands : List CommandLine) {lines : Lib.Lines UInt8}
    (between : lines.unfinished = []) :
    lines.read isLineEnd (stream commands) =
      ⟨lines.complete ++ commands.map CommandLine.text, []⟩ := by
  induction commands generalizing lines with
  | nil =>
      obtain ⟨complete, unfinished⟩ := lines
      obtain rfl := between
      simp [stream]
  | cons line rest ih =>
      rw [stream, List.flatMap_cons, Lib.Lines.read_append, read_bytes line between, ← stream,
        ih rfl]
      simp

/-- Inside a stream of command lines, the line is shorter than the buffer. -/
theorem short_stream (commands : List CommandLine) {lines : Lib.Lines UInt8}
    (between : lines.unfinished = []) {before : Bytes} (isPrefix : before <+: stream commands) :
    (lines.read isLineEnd before).unfinished.length < extCmdBufsize := by
  induction commands generalizing lines before with
  | nil =>
      obtain rfl : before = [] := List.prefix_nil.mp isPrefix
      rw [Lib.Lines.read_nil, between]
      decide
  | cons line rest ih =>
      rw [stream, List.flatMap_cons] at isPrefix
      rcases prefix_append_cases isPrefix with inLine | ⟨more, rfl, isMore⟩
      · rcases prefix_append_cases inLine with inText | ⟨ends, rfl, isEnds⟩
        · have text : ∀ b ∈ before, isLineEnd b = false :=
            fun b mem => line.text_plain b (inText.subset mem)
          rw [Lib.Lines.read_text text, between, List.nil_append]
          exact Nat.lt_of_le_of_lt inText.length_le line.short
        · have allEnds : ∀ b ∈ ends, isLineEnd b = true :=
            fun b mem => line.ending.bytes_ends b (isEnds.subset mem)
          rw [Lib.Lines.read_append, Lib.Lines.read_text line.text_plain, between,
            List.nil_append]
          cases ends with
          | nil => exact line.short
          | cons b ends =>
              rw [Lib.Lines.read_ends allEnds (List.cons_ne_nil b ends) line.nonempty]
              exact (by decide : 0 < extCmdBufsize)
      · rw [Lib.Lines.read_append, read_bytes line between]
        exact ih rfl isMore

theorem CommandLine.bytes_paired (line : CommandLine) : line.bytes.IsChain EndsPaired := by
  have text : line.text.IsChain EndsPaired := by
    apply List.Pairwise.isChain
    apply List.pairwise_of_forall_mem_list
    intro a mem _ _ isEnd
    rw [line.text_plain a mem] at isEnd
    cases isEnd
  have ends : line.ending.bytes.IsChain EndsPaired := by
    cases line.ending with
    | crlf => exact List.isChain_cons_cons.mpr ⟨fun _ _ => ⟨rfl, rfl⟩, List.isChain_singleton _⟩
    | lf => exact List.isChain_singleton _
    | cr => exact List.isChain_singleton _
  refine List.isChain_append.mpr ⟨text, ends, ?_⟩
  intro a last _ _ isEnd
  rw [line.text_plain a (List.mem_of_getLast? last)] at isEnd
  cases isEnd

theorem paired_stream (commands : List CommandLine) : (stream commands).IsChain EndsPaired := by
  induction commands with
  | nil => exact List.isChain_nil
  | cons line rest ih =>
      rw [stream, List.flatMap_cons]
      refine List.isChain_append.mpr ⟨line.bytes_paired, ih, ?_⟩
      intro a _ b first _ isEnd
      -- the next line begins with text
      cases rest with
      | nil => cases first
      | cons next rest =>
          rw [List.flatMap_cons, CommandLine.bytes, List.append_assoc,
            List.head?_append_of_ne_nil _ next.nonempty] at first
          rw [next.text_plain b (List.mem_of_head? first)] at isEnd
          cases isEnd

/-- A stream of command lines is typed. -/
theorem stream_typed (commands : List CommandLine) : Typed (stream commands) := by
  constructor
  · exact fun before isPrefix => short_stream commands rfl isPrefix
  · intro b mem
    obtain ⟨line, _, inLine⟩ := List.mem_flatMap.mp mem
    rcases List.mem_append.mp inLine with inText | inEnd
    · exact (line.plain b inText).2
    · exact line.ending.bytes_plain b inEnd
  · exact paired_stream commands

/-! ### The server in step with the stream -/

variable {ι : Type}

/-- The commands of the complete lines were executed, and what is in the buffer is the
unfinished line. -/
structure InStep (ctx : TelnetCtx ι) : Prop where
  executed : ctx.executed = (linesOf ctx.received).complete
  buffered : ctx.buffered = (linesOf ctx.received).unfinished

/-- The text that arrived was executed or is in the buffer, all of it, and no line end
with it. -/
def Intact (ctx : TelnetCtx ι) : Prop :=
  ctx.executed.flatten ++ ctx.buffered = textOf ctx.received

/-- An event is taken: the line that is unfinished does not end with the session; a
segment that has text of a line, or its end, is read and fits, has line ends at its
end only, and more than two bytes are in the buffer when it ends a line. -/
def Taken (ctx : TelnetCtx ι) : TelnetEvent → Prop
  | .recv (some p) err =>
      textOf ((linesOf ctx.received).unfinished ++ p) = [] ∨
        err = false ∧ ctx.receiving = true ∧ p.length < extCmdBufsize ∧
          (∀ b ∈ p.dropWhile fun b => !isLineEnd b, isLineEnd b = true) ∧
          ((∀ b ∈ p, isLineEnd b = false) ∨
            2 < (linesOf ctx.received).unfinished.length + p.length)
  | event => Ends ctx event → (linesOf ctx.received).unfinished = []

instance (ctx : TelnetCtx ι) : ∀ event, Decidable (Taken ctx event)
  | .recv (some _) _ => inferInstanceAs (Decidable (_ ∨ _))
  | .recv none _ | .sent | .poll | .error => inferInstanceAs (Decidable (_ → _))

/-- What no event breaks. -/
structure Kept (ctx : TelnetCtx ι) : Prop where
  idle : Idle ctx
  lastText : ∀ b, ctx.buffered.getLast? = some b → isLineEnd b = false
  fromStream : ∀ b ∈ ctx.buffered, b ∈ ctx.received
  noMore : (textOf (ctx.executed.flatten ++ ctx.buffered)).Sublist (textOf ctx.received)

theorem symbols_linesOf (bytes : Bytes) :
    (linesOf bytes).complete.flatten ++ (linesOf bytes).unfinished = textOf bytes := by
  have symbols : ((({} : Lib.Lines UInt8).read isLineEnd bytes)).symbols = _ :=
    Lib.Lines.symbols_read bytes
  simpa [Lib.Lines.symbols, linesOf, textOf] using symbols

theorem linesOf_append (bytes bytes' : Bytes) :
    linesOf (bytes ++ bytes') = (linesOf bytes).read isLineEnd bytes' :=
  Lib.Lines.read_append bytes bytes'

theorem isText_textOf (bytes : Bytes) : ∀ b ∈ textOf bytes, isLineEnd b = false := by
  intro b mem
  simpa using (List.mem_filter.mp mem).2

theorem unfinished_text (bytes : Bytes) : ∀ b ∈ (linesOf bytes).unfinished, isLineEnd b = false := by
  intro b mem
  apply isText_textOf bytes
  rw [← symbols_linesOf]
  exact List.mem_append_right _ mem

theorem InStep.intact {ctx : TelnetCtx ι} (inStep : InStep ctx) : Intact ctx := by
  rw [Intact, inStep.executed, inStep.buffered, symbols_linesOf]

/-! ### What a step can add -/

theorem commandOf_begins (line : Bytes) : commandOf line <+: line := by
  rw [commandOf]
  split
  · exact (List.dropLast_prefix _).trans (List.dropLast_prefix _)
  · exact List.dropLast_prefix _

/-- Every event adds to the text that is held a beginning of what is in the buffer and
the segment. -/
theorem telnetStep_adds (bspCmdProcess : ι → Bytes → ι × Bytes × Bool) {ctx : TelnetCtx ι}
    (idle : Idle ctx) (event : TelnetEvent) :
    ∃ more, more <+: ctx.buffered ++ event.segment ∧
      (telnetStep bspCmdProcess ctx event).executed.flatten ++
        (telnetStep bspCmdProcess ctx event).buffered = ctx.executed.flatten ++ more := by
  by_cases segment : ∃ p err, event = .recv (some p) err
  · obtain ⟨p, err, rfl⟩ := segment
    have fits : fitting ctx.buffered p <+: p := List.take_prefix _ p
    have held : ctx.buffered ++ fitting ctx.buffered p <+: ctx.buffered ++ p :=
      (List.prefix_append_right_inj ctx.buffered).mpr fits
    cases telnetStep_recv bspCmdProcess ctx p err with
    | unread executed buffered why =>
        refine ⟨ctx.buffered, List.prefix_append _ p, ?_⟩
        rw [executed, buffered]
    | dropped executed buffered why =>
        refine ⟨[], List.nil_prefix, ?_⟩
        rw [executed, buffered]
    | added executed buffered taken nonempty opened =>
        refine ⟨_, held, ?_⟩
        rw [executed, buffered]
    | ran executed buffered taken long ended =>
        refine ⟨cstr (commandOf (ctx.buffered ++ fitting ctx.buffered p)), ?_, ?_⟩
        · exact ((List.takeWhile_prefix _).trans (commandOf_begins _)).trans held
        · rw [executed, buffered, List.flatten_append, List.flatten_singleton, List.append_nil]
  · have other : ∀ p err, event ≠ .recv (some p) err := fun p err same => segment ⟨p, err, same⟩
    obtain ⟨executed, buffered⟩ := telnetStep_other bspCmdProcess idle other
    rw [executed, buffered]
    split
    · exact ⟨[], List.nil_prefix, rfl⟩
    · exact ⟨ctx.buffered, List.prefix_append _ _, rfl⟩

/-- If all text is held after text `p` came, it was held before, and all of `p` was
added. -/
theorem intact_of_added {held buffered text p more : Bytes}
    (noMore : (textOf (held ++ buffered)).Sublist text)
    (lastText : ∀ b, buffered.getLast? = some b → isLineEnd b = false)
    (isText : ∀ b ∈ text, isLineEnd b = false) (isPrefix : more <+: buffered ++ p)
    (intact : held ++ more = text ++ textOf p) :
    held ++ buffered = text ∧ more = buffered ++ textOf p := by
  have allText : ∀ b ∈ held ++ more, isLineEnd b = false := by
    intro b mem
    rw [intact] at mem
    exact (List.mem_append.mp mem).elim (isText b) (isText_textOf p b)
  have length := congrArg List.length intact
  have bound := noMore.length_le
  have heldText : textOf held = held := textOf_eq_self fun b mem =>
    allText b (List.mem_append_left _ mem)
  simp only [textOf_append, heldText, List.length_append] at length bound
  rcases prefix_append_cases isPrefix with ⟨rest, rfl⟩ | ⟨fit, rfl, isFit⟩
  · -- nothing of the segment was added, so it has no text and nothing was dropped
    have moreText : textOf more = more := textOf_eq_self fun b mem =>
      allText b (List.mem_append_right _ mem)
    simp only [textOf_append, moreText, List.length_append] at bound
    have noText : textOf p = [] := List.length_eq_zero_iff.mp (by omega)
    have noRest : textOf rest = [] := List.length_eq_zero_iff.mp (by omega)
    have nothing : rest = [] := by
      by_contra some_
      have last := List.getLast?_eq_some_getLast some_
      have isLast : (more ++ rest).getLast? = some (rest.getLast some_) := by
        rw [List.getLast?_append, last]
        rfl
      have mem : rest.getLast some_ ∈ textOf rest :=
        List.mem_filter.mpr ⟨List.getLast_mem some_, by simp [lastText _ isLast]⟩
      rw [noRest] at mem
      cases mem
    rw [noText, List.append_nil] at intact
    rw [nothing, noText, List.append_nil, List.append_nil]
    exact ⟨intact, rfl⟩
  · have bufferedText : textOf buffered = buffered := textOf_eq_self fun b mem =>
      allText b (List.mem_append_right _ (List.mem_append_left _ mem))
    have fitText : textOf fit = fit := textOf_eq_self fun b mem =>
      allText b (List.mem_append_right _ (List.mem_append_right _ mem))
    have fitBound := (isFit.sublist.filter fun b => !isLineEnd b).length_le
    change (textOf fit).length ≤ (textOf p).length at fitBound
    rw [fitText] at fitBound
    simp only [bufferedText, List.length_append] at bound length
    rw [← List.append_assoc] at intact
    obtain ⟨before, added⟩ := List.append_inj intact (by simp only [List.length_append]; omega)
    exact ⟨before, by rw [added]⟩

theorem Kept.of_intact_step (bspCmdProcess : ι → Bytes → ι × Bytes × Bool) {ctx : TelnetCtx ι}
    (kept : Kept ctx) (event : TelnetEvent)
    (intact : Intact (telnetStep bspCmdProcess ctx event)) :
    Intact ctx ∧ ∀ more, (telnetStep bspCmdProcess ctx event).executed.flatten ++
        (telnetStep bspCmdProcess ctx event).buffered = ctx.executed.flatten ++ more →
      more <+: ctx.buffered ++ event.segment → more = ctx.buffered ++ textOf event.segment := by
  have arrived : (telnetStep bspCmdProcess ctx event).received = ctx.received ++ event.segment := rfl
  rw [Intact, arrived, textOf_append] at intact
  have from_ : ∀ more, (telnetStep bspCmdProcess ctx event).executed.flatten ++
        (telnetStep bspCmdProcess ctx event).buffered = ctx.executed.flatten ++ more →
      more <+: ctx.buffered ++ event.segment →
      ctx.executed.flatten ++ ctx.buffered = textOf ctx.received ∧
        more = ctx.buffered ++ textOf event.segment := fun more held isPrefix =>
    intact_of_added kept.noMore kept.lastText (isText_textOf ctx.received) isPrefix
      (held.symm.trans intact)
  obtain ⟨more, isPrefix, held⟩ := telnetStep_adds bspCmdProcess kept.idle event
  exact ⟨(from_ more held isPrefix).1, fun more held isPrefix => (from_ more held isPrefix).2⟩

/-- What is in the buffer goes, stays, or grows by bytes of the segment up to text. -/
theorem telnetStep_buffered (bspCmdProcess : ι → Bytes → ι × Bytes × Bool) {ctx : TelnetCtx ι}
    (idle : Idle ctx) (event : TelnetEvent) :
    (telnetStep bspCmdProcess ctx event).buffered = [] ∨
      (telnetStep bspCmdProcess ctx event).buffered = ctx.buffered ∨
      ∃ fit, fit <+: event.segment ∧
        (telnetStep bspCmdProcess ctx event).buffered = ctx.buffered ++ fit ∧
        ∀ b, (ctx.buffered ++ fit).getLast? = some b → isLineEnd b = false := by
  by_cases segment : ∃ p err, event = .recv (some p) err
  · obtain ⟨p, err, rfl⟩ := segment
    cases telnetStep_recv bspCmdProcess ctx p err with
    | unread executed buffered why => exact .inr (.inl buffered)
    | dropped executed buffered why => exact .inl buffered
    | added executed buffered taken nonempty opened =>
        exact .inr (.inr ⟨_, List.take_prefix _ p, buffered, opened⟩)
    | ran executed buffered taken long ended => exact .inl buffered
  · have other : ∀ p err, event ≠ .recv (some p) err := fun p err same => segment ⟨p, err, same⟩
    obtain ⟨_, buffered⟩ := telnetStep_other bspCmdProcess idle other
    rw [buffered]
    split
    · exact .inl rfl
    · exact .inr (.inl rfl)

/-- No event breaks what is kept. -/
theorem Kept.step (bspCmdProcess : ι → Bytes → ι × Bytes × Bool) {ctx : TelnetCtx ι}
    (kept : Kept ctx) (event : TelnetEvent) : Kept (telnetStep bspCmdProcess ctx event) := by
  have arrived : (telnetStep bspCmdProcess ctx event).received = ctx.received ++ event.segment := rfl
  constructor
  · exact telnetStep_idle bspCmdProcess kept.idle event
  · intro b last
    rcases telnetStep_buffered bspCmdProcess kept.idle event with
      gone | stays | ⟨fit, _, grown, text⟩
    · rw [gone] at last
      cases last
    · rw [stays] at last
      exact kept.lastText b last
    · rw [grown] at last
      exact text b last
  · intro b mem
    rw [arrived, List.mem_append]
    rcases telnetStep_buffered bspCmdProcess kept.idle event with
      gone | stays | ⟨fit, isFit, grown, _⟩
    · rw [gone] at mem
      cases mem
    · rw [stays] at mem
      exact .inl (kept.fromStream b mem)
    · rw [grown] at mem
      exact (List.mem_append.mp mem).imp (kept.fromStream b) fun inFit => isFit.subset inFit
  · obtain ⟨more, isPrefix, held⟩ := telnetStep_adds bspCmdProcess kept.idle event
    have added := isPrefix.sublist.filter fun b => !isLineEnd b
    change (textOf more).Sublist (textOf (ctx.buffered ++ event.segment)) at added
    rw [held, arrived, textOf_append, textOf_append]
    calc (textOf ctx.executed.flatten ++ textOf more).Sublist
          (textOf ctx.executed.flatten ++ textOf (ctx.buffered ++ event.segment)) := added.append_left _
      _ = textOf (ctx.executed.flatten ++ ctx.buffered) ++ textOf event.segment := by
        simp only [textOf_append, List.append_assoc]
      List.Sublist _ (textOf ctx.received ++ textOf event.segment) := kept.noMore.append_right _

/-! ### Segments that are taken -/

/-- A piece with line ends at its end only. -/
theorem split_piece (p : Bytes) (atEnd : ∀ b ∈ p.dropWhile fun b => !isLineEnd b, isLineEnd b = true) :
    ∃ text ends, p = text ++ ends ∧ (∀ b ∈ text, isLineEnd b = false) ∧
      ∀ b ∈ ends, isLineEnd b = true := by
  refine ⟨p.takeWhile fun b => !isLineEnd b, p.dropWhile fun b => !isLineEnd b,
    List.takeWhile_append_dropWhile.symm, ?_, atEnd⟩
  intro b mem
  simpa using List.mem_takeWhile_imp mem

/-- A line end in the stream is one byte, or two of which the first is a carriage
return. -/
theorem ends_cases {ends : Bytes} (allEnds : ∀ b ∈ ends, isLineEnd b = true)
    (paired : ends.IsChain EndsPaired) (nonempty : ends ≠ []) :
    (∃ b, ends = [b]) ∨ ends = [asciiKeyCr, asciiKeyLf] := by
  match ends, nonempty with
  | [b], _ => exact .inl ⟨b, rfl⟩
  | [a, b], _ =>
      obtain ⟨rfl, rfl⟩ := (List.isChain_cons_cons.mp paired).1 (allEnds a (by simp))
        (allEnds b (by simp))
      exact .inr rfl
  | a :: b :: c :: rest, _ =>
      obtain ⟨first, tail⟩ := List.isChain_cons_cons.mp paired
      have lf := (first (allEnds a (by simp)) (allEnds b (by simp))).2
      have cr := ((List.isChain_cons_cons.mp tail).1 (allEnds b (by simp)) (allEnds c (by simp))).1
      rw [lf] at cr
      cases cr

/-- The command is the line without its end. -/
theorem commandOf_append {line ends : Bytes}
    (isText : ∀ b ∈ line, isLineEnd b = false)
    (form : (∃ b, ends = [b]) ∨ ends = [asciiKeyCr, asciiKeyLf]) :
    commandOf (line ++ ends) = line := by
  rcases form with ⟨b, rfl⟩ | rfl
  · have noCr : line.getLast? ≠ some asciiKeyCr := fun last => by
      have text := isText asciiKeyCr (List.mem_of_getLast? last)
      revert text
      decide
    rw [commandOf, List.dropLast_concat, if_neg noCr]
  · have whole : (line ++ [asciiKeyCr, asciiKeyLf]).dropLast = line ++ [asciiKeyCr] :=
      List.dropLast_append_cons
    rw [commandOf, whole, List.getLast?_concat, if_pos rfl, List.dropLast_concat]

variable (bspCmdProcess : ι → Bytes → ι × Bytes × Bool)

/-- A segment without text between two lines, if it is one, changes nothing. -/
theorem InStep.of_noText {ctx : TelnetCtx ι} (inStep : InStep ctx) {p : Bytes} {err : Bool}
    (typed : Typed (ctx.received ++ p))
    (noText : textOf ((linesOf ctx.received).unfinished ++ p) = []) :
    InStep (telnetStep bspCmdProcess ctx (.recv (some p) err)) := by
  have arrived : (telnetStep bspCmdProcess ctx (.recv (some p) err)).received =
    ctx.received ++ p := rfl
  rw [textOf_append, textOf_eq_self (unfinished_text ctx.received)] at noText
  obtain ⟨between, noText⟩ := List.append_eq_nil_iff.mp noText
  have ends : ∀ b ∈ p, isLineEnd b = true := by
    simpa [textOf] using noText
  have same : linesOf (ctx.received ++ p) = linesOf ctx.received := by
    rw [linesOf_append, Lib.Lines.read_ends_of_empty ends between]
  have empty : ctx.buffered = [] := inStep.buffered.trans between
  have fitEnds : ∀ b ∈ fitting ctx.buffered p, isLineEnd b = true :=
    fun b mem => ends b ((List.take_prefix _ p).subset mem)
  have unchanged : (telnetStep bspCmdProcess ctx (.recv (some p) err)).executed = ctx.executed ∧
      (telnetStep bspCmdProcess ctx (.recv (some p) err)).buffered = [] := by
    cases telnetStep_recv bspCmdProcess ctx p err with
    | unread executed buffered why => exact ⟨executed, buffered.trans empty⟩
    | dropped executed buffered why => exact ⟨executed, buffered⟩
    | added executed buffered taken nonempty opened =>
        have last := List.getLast?_eq_some_getLast nonempty
        have atEnd : (ctx.buffered ++ fitting ctx.buffered p).getLast? =
            some ((fitting ctx.buffered p).getLast nonempty) := by
          rw [List.getLast?_append, last]
          rfl
        have text := opened _ atEnd
        rw [fitEnds _ (List.getLast_mem nonempty)] at text
        cases text
    | ran executed buffered taken long ended =>
        have fits : (fitting ctx.buffered p).length ≤ p.length := (List.take_prefix _ p).length_le
        have nothing : ctx.buffered.length = 0 := by
          rw [empty]
          rfl
        rw [List.length_append, nothing] at long
        have short : p.length ≤ 2 := by
          have nonempty : p ≠ [] := fun none => by
            have zero : p.length = 0 := List.length_eq_zero_iff.mpr none
            omega
          rcases ends_cases ends (List.isChain_append.mp typed.paired).2.1 nonempty with
            ⟨b, rfl⟩ | rfl
          · exact Nat.le_succ 1
          · exact Nat.le_refl 2
        omega
  constructor
  · rw [unchanged.1, arrived, same]
    exact inStep.executed
  · rw [unchanged.2, arrived, same, between]

/-- A segment that is read and has line ends at its end only keeps the server in step. -/
theorem InStep.of_read {ctx : TelnetCtx ι} (inStep : InStep ctx) (kept : Kept ctx) {p : Bytes}
    {err : Bool} (typed : Typed (ctx.received ++ p))
    (hasText : textOf ((linesOf ctx.received).unfinished ++ p) ≠ [])
    (noError : err = false) (receiving : ctx.receiving = true) (short : p.length < extCmdBufsize)
    (atEnd : ∀ b ∈ p.dropWhile fun b => !isLineEnd b, isLineEnd b = true)
    (long : (∀ b ∈ p, isLineEnd b = false) ∨
      2 < (linesOf ctx.received).unfinished.length + p.length) :
    InStep (telnetStep bspCmdProcess ctx (.recv (some p) err)) := by
  have arrived : (telnetStep bspCmdProcess ctx (.recv (some p) err)).received =
    ctx.received ++ p := rfl
  obtain ⟨text, ends, rfl, isText, allEnds⟩ := split_piece p atEnd
  rw [← inStep.buffered] at hasText long
  -- the line, whose end may follow, fits into the buffer
  have line : linesOf (ctx.received ++ text) =
      ⟨(linesOf ctx.received).complete, ctx.buffered ++ text⟩ := by
    rw [linesOf_append, Lib.Lines.read_text isText, inStep.buffered]
  have fits : (ctx.buffered ++ text).length < extCmdBufsize := by
    have bound := typed.short (ctx.received ++ text) (by
      rw [← List.append_assoc]
      exact List.prefix_append _ ends)
    rw [line] at bound
    exact bound
  have lineText : ∀ b ∈ ctx.buffered ++ text, isLineEnd b = false := by
    intro b mem
    rcases List.mem_append.mp mem with held | inText
    · rw [inStep.buffered] at held
      exact unfinished_text ctx.received b held
    · exact isText b inText
  have nonempty : ctx.buffered ++ text ≠ [] := fun none => hasText (by
    rw [← List.append_assoc, textOf_append, none, textOf_eq_nil allEnds]
    rfl)
  have plain : ∀ b ∈ ctx.buffered ++ text, b ≠ 0 := by
    intro b mem
    refine (typed.plain b ?_).1
    rcases List.mem_append.mp mem with held | inText
    · exact List.mem_append_left _ (kept.fromStream b held)
    · exact List.mem_append_right _ (List.mem_append_left _ inText)
  have fitting_eq : fitting ctx.buffered (text ++ ends) =
      text ++ ends.take (extCmdBufsize - ctx.buffered.length - text.length) := by
    rw [List.length_append] at fits
    rw [fitting, List.take_append, List.take_of_length_le (by omega)]
  have notUnread : text ++ ends = [] ∨ (text ++ ends).head? = some telnetProtocolIac ∨
      extCmdBufsize ≤ ctx.buffered.length → text ++ ends = [] := by
    rintro (none | option | full)
    · exact none
    · have mem : telnetProtocolIac ∈ ctx.received ++ (text ++ ends) :=
        List.mem_append_right _ (List.mem_of_head? option)
      exact absurd rfl (typed.plain _ mem).2
    · rw [List.length_append] at fits
      omega
  have lastOf {data : Bytes} {b : UInt8} (last : data.getLast? = some b)
      (textOnly : ∀ b ∈ data, isLineEnd b = false) : isLineEnd b = false :=
    textOnly b (List.mem_of_getLast? last)
  by_cases noEnd : ends = []
  · -- the line stays unfinished
    subst noEnd
    simp only [List.take_nil, List.append_nil] at fitting_eq arrived notUnread short ⊢
    have effect := telnetStep_recv bspCmdProcess ctx text err
    have done : (telnetStep bspCmdProcess ctx (.recv (some text) err)).executed = ctx.executed ∧
        (telnetStep bspCmdProcess ctx (.recv (some text) err)).buffered =
          ctx.buffered ++ text := by
      cases effect with
      | unread executed buffered why =>
          obtain rfl := notUnread (why receiving).2
          exact ⟨executed, buffered.trans (List.append_nil _).symm⟩
      | dropped executed buffered why =>
          rcases why receiving with broken | tooLong | ⟨_, b, last, isEnd⟩
          · rw [noError] at broken
            cases broken
          · omega
          · rw [fitting_eq] at last
            rw [lastOf last lineText] at isEnd
            cases isEnd
      | added executed buffered taken nonempty opened =>
          rw [fitting_eq] at buffered
          exact ⟨executed, buffered⟩
      | ran executed buffered taken long ended =>
          obtain ⟨b, last, isEnd⟩ := ended
          rw [fitting_eq] at last
          rw [lastOf last lineText] at isEnd
          cases isEnd
    constructor
    · rw [done.1, arrived, line]
      exact inStep.executed
    · rw [done.2, arrived, line]
  · -- the line is complete, and its end may have lost a line feed that did not fit
    have complete : linesOf (ctx.received ++ (text ++ ends)) =
        ⟨(linesOf ctx.received).complete ++ [ctx.buffered ++ text], []⟩ := by
      rw [← List.append_assoc, linesOf_append, line, Lib.Lines.read_ends allEnds noEnd nonempty]
    generalize kept_ : ends.take (extCmdBufsize - ctx.buffered.length - text.length) = cut
      at fitting_eq
    have cutLength : cut.length =
        min (extCmdBufsize - ctx.buffered.length - text.length) ends.length := by
      rw [← kept_, List.length_take]
    have endsLength := List.length_pos_of_ne_nil noEnd
    rw [List.length_append] at fits
    have cutSome : cut ≠ [] := List.ne_nil_of_length_pos (by omega)
    have cutPrefix : cut <+: ends := by
      rw [← kept_]
      exact List.take_prefix _ _
    have data : ctx.buffered ++ fitting ctx.buffered (text ++ ends) =
        (ctx.buffered ++ text) ++ cut := by
      rw [fitting_eq, List.append_assoc]
    have lastEnds : ((ctx.buffered ++ text) ++ cut).getLast? = some (cut.getLast cutSome) := by
      rw [List.getLast?_append, List.getLast?_eq_some_getLast cutSome]
      rfl
    have form : (∃ b, cut = [b]) ∨ cut = [asciiKeyCr, asciiKeyLf] := by
      have chain : (text ++ ends).IsChain EndsPaired := (List.isChain_append.mp typed.paired).2.1
      obtain ⟨rest, whole⟩ := cutPrefix
      rw [← whole] at chain
      refine ends_cases (fun b mem => allEnds b ?_) ?_ cutSome
      · rw [← whole]
        exact List.mem_append_left _ mem
      · exact (List.isChain_append.mp (List.isChain_append.mp chain).2.1).1
    have done : (telnetStep bspCmdProcess ctx (.recv (some (text ++ ends)) err)).executed =
          ctx.executed ++ [ctx.buffered ++ text] ∧
        (telnetStep bspCmdProcess ctx (.recv (some (text ++ ends)) err)).buffered = [] := by
      cases telnetStep_recv bspCmdProcess ctx (text ++ ends) err with
      | unread executed buffered why =>
          exact absurd (List.append_eq_nil_iff.mp (notUnread (why receiving).2)).2 noEnd
      | dropped executed buffered why =>
          rcases why receiving with broken | tooLong | ⟨tiny, _⟩
          · rw [noError] at broken
            cases broken
          · omega
          · rw [data, List.length_append, List.length_append] at tiny
            rcases long with textOnly | long
            · have isEnd := allEnds _ (List.getLast_mem noEnd)
              rw [textOnly _ (List.mem_append_right _ (List.getLast_mem noEnd))] at isEnd
              cases isEnd
            · rw [List.length_append] at long
              have size : extCmdBufsize = 1024 := rfl
              omega
      | added executed buffered taken nonempty opened =>
          rw [data] at opened
          have isEnd := allEnds _ (cutPrefix.subset (List.getLast_mem cutSome))
          rw [opened _ lastEnds] at isEnd
          cases isEnd
      | ran executed buffered taken long ended =>
          rw [data, commandOf_append lineText form, cstr_of_not_mem fun mem => plain 0 mem rfl] at executed
          exact ⟨executed, buffered⟩
    constructor
    · rw [done.1, arrived, complete, inStep.executed]
    · rw [done.2, arrived, complete]

/-- Of a segment that leaves the server intact, only line ends are behind the first. -/
theorem ends_behind_text {p ends : Bytes} (p_eq : p = textOf p ++ ends) :
    (∀ b ∈ ends, isLineEnd b = true) ∧
      (p.dropWhile fun b => !isLineEnd b) = ends := by
  have allEnds : ∀ b ∈ ends, isLineEnd b = true := by
    have twice := congrArg textOf p_eq
    rw [textOf_append, textOf_eq_self (isText_textOf p)] at twice
    have nothing := List.append_cancel_left ((List.append_nil _).trans twice)
    simpa [textOf] using nothing.symm
  refine ⟨allEnds, ?_⟩
  rw [p_eq, List.dropWhile_append_of_pos]
  · cases ends with
    | nil => rfl
    | cons b rest => simp [allEnds b (List.mem_cons_self ..)]
  · intro b mem
    simp [isText_textOf p b mem]

/-- Only a segment that is taken leaves the server intact. -/
theorem taken_of_intact {ctx : TelnetCtx ι} (inStep : InStep ctx) (kept : Kept ctx) {p : Bytes}
    {err : Bool} (typed : Typed (ctx.received ++ p))
    (intact : Intact (telnetStep bspCmdProcess ctx (.recv (some p) err))) :
    Taken ctx (.recv (some p) err) := by
  obtain ⟨_, added_eq⟩ := kept.of_intact_step bspCmdProcess (.recv (some p) err) intact
  simp only [TelnetEvent.segment] at added_eq
  rw [Taken, ← inStep.buffered]
  by_cases hasText : textOf (ctx.buffered ++ p) = []
  · exact .inl hasText
  refine .inr ?_
  have fits : fitting ctx.buffered p <+: p := List.take_prefix _ p
  have heldPrefix : ctx.buffered ++ fitting ctx.buffered p <+: ctx.buffered ++ p :=
    (List.prefix_append_right_inj ctx.buffered).mpr fits
  have room : ctx.buffered.length < extCmdBufsize := by
    rw [inStep.buffered]
    exact typed.short ctx.received (List.prefix_append _ p)
  cases telnetStep_recv bspCmdProcess ctx p err with
  | unread executed buffered why =>
      -- nothing was added, so the segment has no text and the line was begun
      have same := added_eq ctx.buffered (by rw [executed, buffered]) (List.prefix_append _ p)
      have noText : textOf p = [] := List.append_cancel_left
        (same.symm.trans (List.append_nil _).symm)
      have receiving : ctx.receiving = true := by
        by_contra other
        have noLine := buffered_of_not_receiving (Bool.eq_false_iff.mpr other)
        rw [textOf_append, noLine, noText] at hasText
        exact hasText rfl
      obtain ⟨noError, rfl | option | full⟩ := why receiving
      · exact ⟨noError, receiving, by decide, by simp, .inl (by simp)⟩
      · have mem : telnetProtocolIac ∈ ctx.received ++ p :=
          List.mem_append_right _ (List.mem_of_head? option)
        exact absurd rfl (typed.plain _ mem).2
      · omega
  | dropped executed buffered why =>
      have nothing := added_eq [] (by rw [executed, buffered]) List.nil_prefix
      obtain ⟨noLine, noText⟩ := List.append_eq_nil_iff.mp nothing.symm
      have none : textOf (ctx.buffered ++ p) = [] := by
        rw [textOf_append, noLine, noText]
        rfl
      exact absurd none hasText
  | added executed buffered taken nonempty opened =>
      have same := added_eq _ (by rw [executed, buffered]) heldPrefix
      have fit := List.append_cancel_left same
      obtain ⟨receiving, noError, short⟩ := taken
      obtain ⟨rest, whole⟩ := fits
      have all : rest = [] := by
        by_contra more
        have line := typed.short (ctx.received ++ fitting ctx.buffered p) (by
          rw [List.prefix_append_right_inj]
          exact ⟨rest, whole⟩)
        have text : ∀ b ∈ fitting ctx.buffered p, isLineEnd b = false := by
          rw [fit]
          exact isText_textOf p
        rw [linesOf_append, Lib.Lines.read_text text, ← inStep.buffered, List.length_append] at line
        have total := congrArg List.length whole
        have restLength := List.length_pos_of_ne_nil more
        have fitLength : (fitting ctx.buffered p).length =
            min (extCmdBufsize - ctx.buffered.length) p.length := List.length_take
        rw [List.length_append] at total
        omega
      have isText : p = textOf p ++ [] := by
        rw [all, fit] at whole
        exact whole.symm
      have textOnly : ∀ b ∈ p, isLineEnd b = false := by
        rw [isText, List.append_nil]
        exact isText_textOf p
      refine ⟨noError, receiving, short, ?_, .inl textOnly⟩
      rw [(ends_behind_text isText).2]
      exact (ends_behind_text isText).1
  | ran executed buffered taken long ended =>
      have plain : ∀ b ∈ commandOf (ctx.buffered ++ fitting ctx.buffered p), b ≠ 0 := by
        intro b mem
        refine (typed.plain b ?_).1
        rcases List.mem_append.mp ((commandOf_begins _).subset mem) with held | inFit
        · exact List.mem_append_left _ (kept.fromStream b held)
        · exact List.mem_append_right _ (fits.subset inFit)
      rw [cstr_of_not_mem fun mem => plain 0 mem rfl] at executed
      have same := added_eq (commandOf (ctx.buffered ++ fitting ctx.buffered p))
        (by rw [executed, buffered, List.flatten_append, List.flatten_singleton, List.append_nil])
        ((commandOf_begins _).trans heldPrefix)
      obtain ⟨tail, cut⟩ := commandOf_begins (ctx.buffered ++ fitting ctx.buffered p)
      rw [same, List.append_assoc] at cut
      have fit := List.append_cancel_left cut
      obtain ⟨rest, whole⟩ := fits
      have shape : p = textOf p ++ (tail ++ rest) := by
        rw [← List.append_assoc, fit]
        exact whole.symm
      obtain ⟨receiving, noError, short⟩ := taken
      refine ⟨noError, receiving, short, ?_, .inr ?_⟩
      · rw [(ends_behind_text shape).2]
        exact (ends_behind_text shape).1
      · rw [List.length_append] at long
        have bound : (fitting ctx.buffered p).length ≤ p.length := (List.take_prefix _ p).length_le
        omega

/-! ### One event -/

/-- An event that is taken keeps the server in step with the stream. -/
theorem InStep.step {ctx : TelnetCtx ι} (inStep : InStep ctx) (kept : Kept ctx)
    {event : TelnetEvent} (typed : Typed (ctx.received ++ event.segment))
    (taken : Taken ctx event) : InStep (telnetStep bspCmdProcess ctx event) := by
  by_cases segment : ∃ p err, event = .recv (some p) err
  · obtain ⟨p, err, rfl⟩ := segment
    by_cases hasText : textOf ((linesOf ctx.received).unfinished ++ p) = []
    · exact inStep.of_noText bspCmdProcess typed hasText
    · rcases taken with noText | ⟨noError, receiving, short, atEnd, long⟩
      · exact absurd noText hasText
      · exact inStep.of_read bspCmdProcess kept typed hasText noError receiving short atEnd long
  · have other : ∀ p err, event ≠ .recv (some p) err := fun p err same => segment ⟨p, err, same⟩
    have noSegment : event.segment = [] := by
      cases event with
      | recv p err =>
          cases p with
          | none => rfl
          | some p => exact absurd rfl (other p err)
      | sent | poll | error => rfl
    have between : Ends ctx event → (linesOf ctx.received).unfinished = [] := by
      cases event with
      | recv p err =>
          cases p with
          | none => exact taken
          | some p => exact absurd rfl (other p err)
      | sent | poll | error => exact taken
    have arrived : (telnetStep bspCmdProcess ctx event).received = ctx.received := by
      rw [telnetStep, noSegment, List.append_nil]
    obtain ⟨executed, buffered⟩ := telnetStep_other bspCmdProcess kept.idle other
    constructor
    · rw [executed, arrived]
      exact inStep.executed
    · rw [buffered, arrived]
      split
      next ends => exact (between ends).symm
      next => exact inStep.buffered

/-- A session that ends and leaves the server intact ends between two lines. -/
theorem between_of_intact {ctx : TelnetCtx ι} (inStep : InStep ctx) (kept : Kept ctx)
    {event : TelnetEvent} (other : ∀ p err, event ≠ .recv (some p) err)
    (intact : Intact (telnetStep bspCmdProcess ctx event)) (ends : Ends ctx event) :
    (linesOf ctx.received).unfinished = [] := by
  obtain ⟨_, added_eq⟩ := kept.of_intact_step bspCmdProcess event intact
  obtain ⟨executed, buffered⟩ := telnetStep_other bspCmdProcess kept.idle other
  rw [if_pos ends] at buffered
  have nothing := added_eq [] (by rw [executed, buffered]) List.nil_prefix
  rw [← inStep.buffered]
  exact (List.append_eq_nil_iff.mp nothing.symm).1

/-- An event leaves a server in step intact exactly when it is taken. -/
theorem intact_step_iff {ctx : TelnetCtx ι} (inStep : InStep ctx) (kept : Kept ctx)
    {event : TelnetEvent} (typed : Typed (ctx.received ++ event.segment)) :
    Intact (telnetStep bspCmdProcess ctx event) ↔ Taken ctx event := by
  constructor
  · intro intact
    cases event with
    | recv p err =>
        cases p with
        | some p => exact taken_of_intact bspCmdProcess inStep kept typed intact
        | none =>
            exact between_of_intact bspCmdProcess inStep kept (fun _ _ same => by cases same) intact
    | sent | poll | error =>
        exact between_of_intact bspCmdProcess inStep kept (fun _ _ same => by cases same) intact
  · exact fun taken => (inStep.step bspCmdProcess kept typed taken).intact

/-! ### A session -/

/-- The bytes that the events of a session bring. -/
def segments (events : List TelnetEvent) : Bytes := events.flatMap TelnetEvent.segment

theorem segments_cons (event : TelnetEvent) (events : List TelnetEvent) :
    segments (event :: events) = event.segment ++ segments events := List.flatMap_cons

theorem received_run (ctx : TelnetCtx ι) (events : List TelnetEvent) :
    (Lib.run (telnetStep bspCmdProcess) ctx events).received = ctx.received ++ segments events := by
  induction events generalizing ctx with
  | nil => simp [segments]
  | cons event rest ih =>
      rw [Lib.run_cons, ih, segments_cons, ← List.append_assoc]
      rfl

/-- What a typed stream brings is typed at every event. -/
theorem along_typed {ctx : TelnetCtx ι} {events : List TelnetEvent}
    (typed : Typed (ctx.received ++ segments events)) :
    Lib.Along (telnetStep bspCmdProcess)
      (fun ctx event => Typed (ctx.received ++ event.segment)) ctx events := by
  induction events generalizing ctx with
  | nil => trivial
  | cons event rest ih =>
      rw [segments_cons, ← List.append_assoc] at typed
      exact ⟨typed.of_prefix (List.prefix_append _ _), ih typed⟩

/-- The server greets a client with nothing in its buffer. -/
theorem accept_inStep (interpreter : ι) (outcomes : List SendOutcome) :
    InStep (telnetCallbackAccept interpreter outcomes) ∧
      Kept (telnetCallbackAccept interpreter outcomes) := by
  have sending := telnetMsgPrompt_sending
    { conn := some {}, cmd := List.replicate extCmdBufsize 0
      response := List.replicate extCommandBufferSize 0, interpreter := interpreter
      outcomes := outcomes : TelnetCtx ι }
  have executed : (telnetCallbackAccept interpreter outcomes).executed = [] := sending.executed
  have received : (telnetCallbackAccept interpreter outcomes).received = [] := sending.received
  have start : ∀ conn, (telnetCallbackAccept interpreter outcomes).conn = some conn →
      conn.readIndex = 0 := by
    intro conn' held'
    obtain ⟨conn, held, index, _⟩ := sending.conn conn' held'
    cases held
    exact index
  have buffered : (telnetCallbackAccept interpreter outcomes).buffered = [] :=
    buffered_of_start fun conn held _ => start conn held
  constructor
  · constructor
    · rw [executed, received]
      rfl
    · rw [buffered, received]
      rfl
  · constructor
    · exact fun conn held _ => start conn held
    · intro b last
      rw [buffered] at last
      cases last
    · intro b mem
      rw [buffered] at mem
      cases mem
    · rw [executed, buffered, received]
      exact List.Sublist.refl _

/-- A server that executed the commands of the whole stream has lost nothing. -/
theorem Kept.intact_of_executed {ctx : TelnetCtx ι} (kept : Kept ctx)
    {commands : List CommandLine} (received : ctx.received = stream commands)
    (executed : ctx.executed = commands.map CommandLine.text) : Intact ctx := by
  have all : ctx.executed.flatten = textOf ctx.received := by
    have symbols := symbols_linesOf (stream commands)
    rw [linesOf, read_stream commands rfl, List.nil_append, List.append_nil] at symbols
    rw [executed, received]
    exact symbols
  have bound := kept.noMore.length_le
  rw [textOf_append, all, textOf_eq_self (isText_textOf _), List.length_append] at bound
  have noText : textOf ctx.buffered = [] := List.length_eq_zero_iff.mp (by omega)
  have nothing : ctx.buffered = [] := by
    by_contra some_
    have text := kept.lastText _ (List.getLast?_eq_some_getLast some_)
    have mem : ctx.buffered.getLast some_ ∈ textOf ctx.buffered :=
      List.mem_filter.mpr ⟨List.getLast_mem some_, by simp [text]⟩
    rw [noText] at mem
    cases mem
  rw [Intact, all, nothing, List.append_nil]

/-- The server executes the commands of a stream, each once and in order, exactly when
all events of the session are taken. -/
theorem executed_iff_taken (interpreter : ι) (outcomes : List SendOutcome)
    (commands : List CommandLine) (events : List TelnetEvent)
    (whole : segments events = stream commands) :
    (Lib.run (telnetStep bspCmdProcess) (telnetCallbackAccept interpreter outcomes)
        events).executed = commands.map CommandLine.text ↔
      Lib.Along (telnetStep bspCmdProcess) Taken (telnetCallbackAccept interpreter outcomes)
        events := by
  obtain ⟨inStep, kept⟩ := accept_inStep interpreter outcomes
  have start : (telnetCallbackAccept interpreter outcomes).received = [] :=
    (telnetMsgPrompt_sending _).received
  have typed : Typed ((telnetCallbackAccept interpreter outcomes).received ++ segments events) := by
    rw [start, whole]
    exact stream_typed commands
  have arrived := received_run bspCmdProcess (telnetCallbackAccept interpreter outcomes) events
  rw [start, List.nil_append, whole] at arrived
  -- a server that is intact is in step, and one that is not stays so
  let Inv (ctx : TelnetCtx ι) : Prop := Kept ctx ∧ (Intact ctx → InStep ctx)
  have preserved : ∀ ctx event, Inv ctx → Typed (ctx.received ++ event.segment) →
      Inv (telnetStep bspCmdProcess ctx event) := by
    rintro ctx event ⟨kept, inStep⟩ typed
    refine ⟨kept.step bspCmdProcess event, fun intact => ?_⟩
    have before := inStep (kept.of_intact_step bspCmdProcess event intact).1
    exact before.step bspCmdProcess kept typed
      ((intact_step_iff bspCmdProcess before kept typed).mp intact)
  have atEnd := Lib.run_invariant preserved (⟨kept, fun _ => inStep⟩ : Inv _) (along_typed
    bspCmdProcess typed)
  have taken := Lib.clean_guarded_run_iff Inv Intact _
    (fun ctx event inv typed intact =>
      intact_step_iff bspCmdProcess (inv.2 intact) inv.1 typed)
    preserved
    (fun ctx event inv _ lost intact => lost (inv.1.of_intact_step bspCmdProcess event intact).1)
    (⟨kept, fun _ => inStep⟩ : Inv _) inStep.intact (along_typed bspCmdProcess typed)
  rw [← taken]
  constructor
  · intro executed
    exact atEnd.1.intact_of_executed arrived executed
  · intro intact
    rw [(atEnd.2 intact).executed, arrived, linesOf, read_stream commands rfl]
    rfl

/-- However the stream is cut, the commands are executed, each once and in order, if
every segment with text arrives while the server reads, shorter than its buffer and
with line ends at its end only, if more than two bytes make up each line, and if no
session ends within a line. -/
theorem commands_executed_once (interpreter : ι) (outcomes : List SendOutcome)
    (commands : List CommandLine) (events : List TelnetEvent)
    (whole : segments events = stream commands)
    (taken : Lib.Along (telnetStep bspCmdProcess) Taken
      (telnetCallbackAccept interpreter outcomes) events) :
    (Lib.run (telnetStep bspCmdProcess) (telnetCallbackAccept interpreter outcomes)
      events).executed = commands.map CommandLine.text :=
  (executed_iff_taken bspCmdProcess interpreter outcomes commands events whole).mpr taken

/-- An interpreter that answers every command with one line. -/
def okInterpreter (_ : Unit) (_ : Bytes) : Unit × Bytes × Bool := ((), str "ok" ++ crlf, false)

/-- The command line `ls`. -/
def lsLine : CommandLine where
  text := str "ls"
  ending := .crlf
  nonempty := by decide
  short := by decide
  plain := by decide +kernel

/-- The command line `version`. -/
def versionLine : CommandLine where
  text := str "version"
  ending := .crlf
  nonempty := by decide
  short := by decide
  plain := by decide +kernel

theorem commands_executed_once_versions :
    (Lib.run (telnetStep okInterpreter) (telnetCallbackAccept () [])
      [.recv (some (str "l")) false, .recv (some (str "s\r")) false, .recv (some [10]) false,
        .sent, .recv (some (str "vers")) false, .poll,
        .recv (some (str "ion\r\n")) false]).executed = [str "ls", str "version"] :=
  commands_executed_once okInterpreter () [] [lsLine, versionLine] _ (by decide +kernel)
    (by decide +kernel)

/-- A command that arrives while another one is answered is not executed. -/
theorem version_ignored :
    ¬ ∀ (commands : List CommandLine) (events : List TelnetEvent),
      segments events = stream commands →
      (Lib.run (telnetStep okInterpreter) (telnetCallbackAccept () []) events).executed =
        commands.map CommandLine.text := by
  intro executed
  have both := executed [lsLine, versionLine]
    [.recv (some (str "ls\r\n")) false, .recv (some (str "version\r\n")) false, .sent]
    (by decide +kernel)
  revert both
  decide +kernel

end LwipExt.Telnet
