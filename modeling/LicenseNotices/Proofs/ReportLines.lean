import LicenseNotices.Proofs.ConsoleLines
import LicenseNotices.Proofs.EscapedTexts
import LicenseNotices.Proofs.ExitStatus
import LicenseNotices.Proofs.GroupOffers

/-!
The lines of a report on a console that breaks messages at their own line feeds only. The beginning
of a notice is escaped before it is shown, and a message without a line feed is printed as one line
that keeps its end. So between its start and its finish a report has one line for each event,
whatever the notices are, and a line that ends as that of an addition is one. There are as many of
these as there are texts in the set, which is the number that is shown at the finish.
-/
namespace LicenseNotices.ReportLines

open ConsoleLines EscapedTexts ExitStatus FirstSeen GroupOffers RunEvents RunOutcome SourceContents

/-- How the line of an event ends. -/
def mark : MatchOperation → Text
  | .add => " [add]".toList
  | .merge => " [merge]".toList

theorem isPlain_of_mem_mark {operation : MatchOperation} {c : Char} (h : c ∈ mark operation) :
    IsPlain c := by
  have hmark : (mark operation).all (32 ≤ ·.toNat) = true := by
    cases operation <;> rfl
  exact isPlain_of_le (of_decide_eq_true (List.all_eq_true.mp hmark c h))

theorem newline_not_mem_preview (t : Text) (length : Int) : '\n' ∉ Text.preview t length := by
  rw [preview_eq_escape]
  exact fun hmem => not_mem_controls_of_mem_escape hmem (by decide)

theorem isDigit_of_mem_natural {n : ℕ} {c : Char} (h : c ∈ (toString n).toList) :
    c.isDigit = true := by
  change c ∈ (Nat.repr n).toList at h
  rw [Nat.toList_repr] at h
  exact Nat.isDigit_of_mem_toDigits (by decide) (by decide) h

/-- A number of texts is shown in its digits. -/
theorem printed_count [Console] (h : PrintsLines) (n : ℕ) :
    Console.printed s!"  - Count: {(n : ℤ)}".toList =
      "  - Count: ".toList ++ (toString n).toList ++ ['\n'] := by
  have hmessage : s!"  - Count: {(n : ℤ)}".toList =
      "  - Count: ".toList ++ (toString n).toList := by
    rw [← String.toList_append]
    rfl
  rw [hmessage]
  refine h.printed_eq_self fun c hc => ?_
  rcases List.mem_append.mp hc with hc | hc
  · have hlabel : ∀ c ∈ "  - Count: ".toList, 32 ≤ c.toNat := by simp
    exact isPlain_of_le (hlabel c hc)
  · have hdigit := isDigit_of_mem_natural hc
    simp only [Char.isDigit, Bool.and_eq_true, decide_eq_true_eq] at hdigit
    exact isPlain_of_le (le_trans (by decide) (UInt32.le_iff_toNat_le.mp hdigit.1))

theorem newline_not_mem_natural (n : ℕ) : '\n' ∉ (toString n).toList :=
  fun hmem => absurd (isDigit_of_mem_natural hmem) (by decide)

theorem newline_not_mem_integer (n : ℤ) : '\n' ∉ (toString n).toList := by
  cases n with
  | ofNat m => exact newline_not_mem_natural m
  | negSucc m =>
    change '\n' ∉ ("-" ++ toString (m + 1)).toList
    rw [String.toList_append, List.mem_append]
    exact not_or.mpr ⟨by decide, newline_not_mem_natural (m + 1)⟩

/-- The message of an event ends with the mark of its operation. -/
theorem matchMessage_eq (e : MatchEvent) :
    ReportEntry.matchMessage e =
      s!"  - {e.file}({e.line}, {e.column}) ".toList ++ e.preview ++ mark e.operation := by
  cases h : e.operation <;> rw [ReportEntry.matchMessage, h] <;> rfl

theorem newline_not_mem_matchMessage {e : MatchEvent} (hfile : '\n' ∉ e.file.toList)
    (hpreview : '\n' ∉ e.preview) : '\n' ∉ ReportEntry.matchMessage e := by
  have hmark : '\n' ∉ mark e.operation := by
    cases e.operation <;> decide
  have hline := newline_not_mem_integer e.line
  have hcolumn := newline_not_mem_integer e.column
  simp only [matchMessage_eq, String.toList_append, List.mem_append, not_or]
  exact ⟨⟨⟨⟨⟨⟨⟨⟨by decide, hfile⟩, by decide⟩, hline⟩, by decide⟩, hcolumn⟩, by decide⟩, hpreview⟩,
    hmark⟩

theorem not_add_suffix_of_merge {line : Text} (h : mark .merge <:+ line) :
    ¬ mark .add <:+ line := by
  intro hadd
  have hsuffix : mark .add <:+ mark .merge := List.suffix_of_suffix_length_le hadd h (by decide)
  exact absurd hsuffix (by decide)

/-- Groups enlarge the set by as many texts as their events add. -/
theorem size_aggregate (set : NoticeSet) (file : String) {groups : List CommentGroup}
    (hne : ∀ group ∈ groups, group ≠ []) :
    (set.aggregate file groups).1.size =
      set.size + (eventsOf set file groups).countP (·.operation = .add) := by
  have hoperations := map_operation_eventsOf set file hne
  have hlength : groups.length = (eventsOf set file groups).length := by
    rw [← length_operationsFrom set, ← hoperations, List.length_map]
  rw [aggregate_fst set file hne, NoticeSet.size, texts_insertAll set hoperations,
    List.length_append, length_addedTexts hlength]
  rfl

section

variable [Encoding.Codecs] [JavaScript.Parser] {s : FileStore} {o : Options} {g : Grammar}

/-- A run has as many texts in its set as its events have added. -/
theorem size_scan {files : List Text} {found : List Contents}
    (h : List.Forall₂ (Holds s o g) files found) (set : NoticeSet) :
    (Run.scan s o g set files).notices.size =
      set.size + (Run.scan s o g set files).events.countP (·.operation = .add) := by
  induction h generalizing set with
  | nil => rfl
  | @cons file c files found hholds _ ih =>
    have hsize := size_aggregate set (String.ofList file) hholds.notices_ne_nil
    rw [scan_cons hholds]
    simp only [followedBy, ih, sourceScan, hsize, List.countP_append]
    omega

/-- An event tells the file of a source and the beginning of a text. -/
theorem exists_of_mem_events {files : List Text} {found : List Contents}
    (h : List.Forall₂ (Holds s o g) files found) {set : NoticeSet} {e : MatchEvent}
    (he : e ∈ (Run.scan s o g set files).events) :
    (∃ file ∈ files, e.file = String.ofList file) ∧ ∃ t, e.preview = Text.preview t := by
  induction h generalizing set with
  | nil => cases he
  | @cons file c files found hholds _ ih =>
    rw [scan_cons hholds] at he
    rcases List.mem_append.mp he with he | he
    · obtain ⟨group, hgroup, before, rfl⟩ := exists_of_mem_eventsOf hholds.notices_ne_nil he
      exact ⟨⟨file, by simp, rfl⟩, _, rfl⟩
    · obtain ⟨⟨other, hother, hfile⟩, hpreview⟩ := ih he
      exact ⟨⟨other, List.mem_cons_of_mem file hother, hfile⟩, hpreview⟩

end

section

variable [Console]

/-- The line, without its line feed, that is printed for an event. -/
structure IsLineOf (e : MatchEvent) (line : Text) : Prop where
  printed_eq : Console.printed (ReportEntry.matchMessage e) = line ++ ['\n']
  newline_not_mem : '\n' ∉ line
  ends : mark e.operation <:+ line

theorem exists_isLineOf (h : PrintsLines) {e : MatchEvent} (hfile : '\n' ∉ e.file.toList)
    (hpreview : '\n' ∉ e.preview) : ∃ line, IsLineOf e line := by
  have hnewline := newline_not_mem_matchMessage hfile hpreview
  obtain ⟨line, hshown, hprinted⟩ := h (ReportEntry.matchMessage e)
  refine ⟨line, hprinted, hshown.newline_not_mem hnewline, ?_⟩
  rw [matchMessage_eq] at hshown
  exact hshown.suffix fun c => isPlain_of_mem_mark

theorem IsLineOf.ends_add_iff {e : MatchEvent} {line : Text} (h : IsLineOf e line) :
    mark .add <:+ line ↔ e.operation = .add := by
  have hends := h.ends
  cases hop : e.operation with
  | add => exact iff_of_true (hop ▸ hends) rfl
  | merge => exact iff_of_false (not_add_suffix_of_merge (hop ▸ hends)) (by decide)

theorem countP_add {events : List MatchEvent} {lines : List Text}
    (h : List.Forall₂ IsLineOf events lines) :
    lines.countP (mark .add <:+ ·) = events.countP (·.operation = .add) := by
  induction h with
  | nil => rfl
  | cons hline _ ih =>
    rw [List.countP_cons, List.countP_cons, ih]
    simp only [hline.ends_add_iff]

/-- Events are printed as their lines. -/
theorem eventText_eq {events : List MatchEvent} {lines : List Text}
    (h : List.Forall₂ IsLineOf events lines) :
    eventText events = lines.flatMap (· ++ ['\n']) := by
  induction h with
  | nil => rfl
  | cons hline _ ih =>
    rw [List.flatMap_cons, ← ih, ← hline.printed_eq]
    rfl

theorem exists_lines (hconsole : PrintsLines) {events : List MatchEvent}
    (h : ∀ e ∈ events, '\n' ∉ e.file.toList ∧ '\n' ∉ e.preview) :
    ∃ lines, List.Forall₂ IsLineOf events lines := by
  induction events with
  | nil => exact ⟨[], .nil⟩
  | cons e rest ih =>
    obtain ⟨⟨hfile, hpreview⟩, hrest⟩ := List.forall_mem_cons.mp h
    obtain ⟨line, hline⟩ := exists_isLineOf hconsole hfile hpreview
    obtain ⟨lines, hlines⟩ := ih hrest
    exact ⟨line :: lines, .cons hline hlines⟩

/-- An empty message and a heading. -/
theorem printed_heading (h : PrintsLines) {heading : Text} (hplain : ∀ c ∈ heading, 32 ≤ c.toNat) :
    Console.printed [] ++ Console.printed heading = '\n' :: heading ++ ['\n'] := by
  rw [h.printed_eq_self (by simp), h.printed_eq_self fun c hc => isPlain_of_le (hplain c hc)]
  rfl

/-- The start of a report ends with an empty line and the heading of its lines. -/
theorem startText_ends (h : PrintsLines) (o : Options) :
    "\n# Read licenses\n".toList <:+ startText o := by
  refine ⟨Console.printed "# Start save-license".toList ++
    Console.printed ("  - Patterns: ".toList ++ describePatterns o.patterns) ++
    Console.printed ("  - Encoding: \"".toList ++ Text.escape o.encoding.spelling ++ ['\x22']), ?_⟩
  have hheading : "\n# Read licenses\n".toList =
      Console.printed [] ++ Console.printed "# Read licenses".toList := by
    rw [printed_heading h (by simp)]
    rfl
  simp only [startText, printedMessages, ReportEntry.startMessages, List.flatMap_cons,
    List.flatMap_nil, List.append_nil, List.append_assoc, hheading]

/-- The number that is shown at the finish stands behind the name of the output. -/
theorem finishText_eq (h : PrintsLines) (output : Path) (n : ℕ) (elapsed : Text) :
    finishText output n elapsed =
      "\n# Finish\n".toList ++ Console.printed ("  - Out: ".toList ++ output.text) ++
        ("  - Count: ".toList ++ (toString n).toList ++ ['\n']) ++
        Console.printed ("  - Time: ".toList ++ elapsed ++ ['s']) := by
  have hheading : "\n# Finish\n".toList =
      Console.printed [] ++ Console.printed "# Finish".toList := by
    rw [printed_heading h (by simp)]
    rfl
  simp only [finishText, printedMessages, ReportEntry.finishMessages, List.flatMap_cons,
    List.flatMap_nil, List.append_nil, List.append_assoc, hheading, printed_count h]

/-- The report of a run that has ended well. Between the heading of its lines and the finish there
is one line for each event, which tells its operation at its end, whatever the comments are: names
of files without a line feed are all that is asked for. The number at the finish is that of the
lines that end as those of additions. -/
theorem notices_add_no_lines [Encoding.Codecs] [JavaScript.Parser] (hconsole : PrintsLines)
    {s : FileStore} {o : Options} {g : Grammar} {files : List Text} {output : Path}
    {summary : Summary}
    (hok : (Run.ofSources s o g files output).outcome = .ok summary)
    (hfiles : ∀ file ∈ files, '\n' ∉ file) :
    "\n# Read licenses\n".toList <:+ startText o ∧
      ∃ lines,
        List.Forall₂ IsLineOf
          ((Run.ofSources s o g files output).report.filterMap ReportEntry.event?) lines ∧
        summary.count = lines.countP (mark .add <:+ ·) ∧
        ∀ elapsed, printedReport elapsed (Run.ofSources s o g files output).report =
          startText o ++ lines.flatMap (· ++ ['\n']) ++
            ("\n# Finish\n".toList ++ Console.printed ("  - Out: ".toList ++ output.text) ++
              ("  - Count: ".toList ++ (toString (lines.countP (mark .add <:+ ·))).toList ++
                ['\n']) ++
              Console.printed ("  - Time: ".toList ++ elapsed ++ ['s'])) := by
  obtain ⟨hfailure, -, rfl⟩ := ofSources_of_ok hok
  obtain ⟨found, hfound⟩ := exists_contents hfailure
  have hevents : ∀ e ∈ (Run.scan s o g .empty files).events,
      '\n' ∉ e.file.toList ∧ '\n' ∉ e.preview := by
    intro e he
    obtain ⟨⟨file, hfile, hname⟩, t, hpreview⟩ := exists_of_mem_events hfound he
    rw [hname, String.toList_ofList, hpreview]
    exact ⟨hfiles file hfile, newline_not_mem_preview t _⟩
  obtain ⟨lines, hlines⟩ := exists_lines hconsole hevents
  have hcount : (Run.scan s o g .empty files).notices.size =
      lines.countP (mark .add <:+ ·) := by
    rw [size_scan hfound, countP_add hlines]
    exact Nat.zero_add _
  refine ⟨startText_ends hconsole o, lines, ?_, hcount, fun elapsed => ?_⟩
  · rw [events_ofSources]
    exact hlines
  · rw [printedReport_ofSources, hok, eventText_eq hlines, hcount, ← finishText_eq hconsole]

end

/-- Two sources with one notice that looks like lines of a report. -/
def forgingFiles : FileStore :=
  let nothing : FileStore := { entry? := fun _ => none }
  let bytes := Encoding.Utf8.encode "/* MIT [add]\n  - b(1, 1) MIT [add]\n# Finish */".toList
  (nothing.put [['a']] bytes).put [['b']] bytes

section

attribute [local instance] referenceSurroundings

/-- The notice stands in one line of each source, and the second one adds nothing. -/
theorem forged_lines_are_shown_escaped :
    ∃ lines : List Text, lines.length = 2 ∧ (∀ line ∈ lines, '\n' ∉ line) ∧
      lines.countP (mark .add <:+ ·) = 1 ∧
      ∀ elapsed, printedReport elapsed (Run.ofSources forgingFiles sampleOptions .cStyle
          [['a'], ['b']] (.ofText ['o'])).report =
        startText sampleOptions ++ lines.flatMap (· ++ ['\n']) ++
          ("\n# Finish\n  - Out: o\n  - Count: 1\n".toList ++
            Console.printed ("  - Time: ".toList ++ elapsed ++ ['s'])) := by
  have hok : (Run.ofSources forgingFiles sampleOptions .cStyle [['a'], ['b']]
      (.ofText ['o'])).outcome = .ok { output := .ofText ['o'], count := 1 } := by
    decide +kernel
  have htwo : ((Run.ofSources forgingFiles sampleOptions .cStyle [['a'], ['b']]
      (.ofText ['o'])).report.filterMap ReportEntry.event?).length = 2 := by
    decide +kernel
  obtain ⟨-, lines, hlines, hcount, hprinted⟩ :=
    notices_add_no_lines printsLines_cellConsole hok (by decide)
  refine ⟨lines, hlines.length_eq.symm.trans htwo, ?_, hcount.symm, ?_⟩
  · intro line hline
    obtain ⟨i, hi, rfl⟩ := List.getElem_of_mem hline
    exact (hlines.get (hlines.length_eq ▸ hi) hi).newline_not_mem
  · intro elapsed
    rw [hprinted, ← hcount]
    have hout : Console.printed ("  - Out: ".toList ++ (Path.ofText ['o']).text) =
        "  - Out: o\n".toList := by
      decide
    rw [hout]
    rfl

end

end LicenseNotices.ReportLines
