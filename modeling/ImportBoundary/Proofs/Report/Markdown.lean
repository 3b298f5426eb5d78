import Mathlib.Data.List.TakeWhile
import ImportBoundary.Report.Markdown

/-!
# Reading a report that is written as Markdown

A reader of a written report goes by its lines: one that starts with `- [` begins a finding, and those
behind it that start with a quotation mark hold the lines of its message (`sections`). Every part of a
report is written in whole lines (`Written`). The lines of a message are all quoted, and the only other
texts of a report that its lines take in are those that stand on one line (`Report.Unbroken`). So no
message begins a finding or ends the quotation of its own one, and the reader finds the messages line
by line (`sections_markdown`).
-/

namespace ImportBoundary

/-! ## Whole lines

Texts that are made of whole lines can be put one behind another, and their lines are then those of the
first text and those of the second one. Each part of a report is such a text.
-/

namespace Text

/-- The text of whole lines: each of them ends with a line feed. -/
def ended (lines : List (List Char)) : List Char := lines.flatMap fun line => line ++ ['\n']

/-- Behind the last line feed of whole lines is one more piece, with nothing in it. -/
theorem split_ended {lines : List (List Char)} (unbroken : ∀ line ∈ lines, '\n' ∉ line) :
    split '\n' (ended lines) = lines ++ [[]] := by
  induction lines with
  | nil => rfl
  | cons line rest ih =>
      obtain ⟨first, others⟩ := List.forall_mem_cons.mp unbroken
      rw [ended, List.flatMap_cons, List.append_assoc, List.singleton_append,
        split_append_cons first, List.cons_append]
      exact congrArg (List.cons line) (ih others)

/-- A line of a text has no line feed in it. -/
theorem not_mem_of_mem_lines {s line : List Char} (mem : line ∈ lines s) : '\n' ∉ line := by
  -- A line is a piece of the text, perhaps without the carriage return at its end.
  have part {pieces : List (List Char)} (clean : ∀ piece ∈ pieces, '\n' ∉ piece)
      (mem : line ∈ linesOfPieces pieces) : '\n' ∉ line := by
    fun_induction linesOfPieces pieces with
    | case1 => cases mem
    | case2 => cases mem
    | case3 last =>
        cases List.mem_singleton.mp mem
        exact clean _ List.mem_cons_self
    | case4 piece rest _ ih =>
        obtain ⟨first, others⟩ := List.forall_mem_cons.mp clean
        rcases List.mem_cons.mp mem with rfl | mem
        · unfold dropReturn
          split
          · exact fun inside => first (List.dropLast_subset piece inside)
          · exact first
        · exact ih others mem
  exact part (fun _ mem inside => (mem_of_mem_split mem inside).1 rfl) mem

end Text

namespace Markdown

/-- The text is made of the given lines, and none of them has a line feed in it. -/
structure Written (s : String) (lines : List (List Char)) : Prop where
  whole : s.toList = Text.ended lines
  unbroken : ∀ line ∈ lines, '\n' ∉ line

variable {s t : String} {a b : List (List Char)}

theorem written_empty : Written "" [] :=
  ⟨rfl, nofun⟩

theorem Written.append (ha : Written s a) (hb : Written t b) : Written (s ++ t) (a ++ b) where
  whole := by
    rw [String.toList_append, ha.whole, hb.whole]
    exact List.flatMap_append.symm
  unbroken := List.forall_mem_append.mpr ⟨ha.unbroken, hb.unbroken⟩

theorem written_line (line : String) (unbroken : '\n' ∉ line.toList) :
    Written (line ++ "\n") [line.toList] where
  whole := by
    rw [String.toList_append]
    exact (List.append_nil _).symm
  unbroken := List.forall_mem_singleton.mpr unbroken

/-- Texts one after another are made of their lines one after another. -/
theorem written_join {α : Type} {write : α → String} {lines : α → List (List Char)} {xs : List α}
    (each : ∀ x ∈ xs, Written (write x) (lines x)) :
    Written (String.join (xs.map write)) (xs.flatMap lines) := by
  induction xs with
  | nil => exact written_empty
  | cons x rest ih =>
      obtain ⟨first, others⟩ := List.forall_mem_cons.mp each
      rw [List.map_cons, String.join_cons, List.flatMap_cons]
      exact first.append (ih others)

/-! ## Reading by lines

The reader is meant to be simple. It looks at how a line begins and nowhere else, so a line of a
message can mislead it only by the way in which the line is written.
-/

/-- Whether a line begins a finding. -/
def begins (line : List Char) : Bool := Text.startsWith "- [".toList line

def dropBlank : List Char → List Char
  | ' ' :: rest => rest
  | s => s

/-- What a line quotes: what stands behind the mark and one blank. -/
def quoted? (line : List Char) : Option (List Char) :=
  (Text.strip? "  >".toList line).map dropBlank

/-- The lines that begin findings, each with what is quoted behind it and before the next one. -/
def sections : List (List Char) → List (List Char × List (List Char))
  | [] => []
  | line :: rest =>
    if begins line then
      (line, (rest.takeWhile fun other => !begins other).filterMap quoted?) :: sections rest
    else sections rest

/-- Every line that begins a finding has its section. -/
theorem map_fst_sections (lines : List (List Char)) :
    (sections lines).map Prod.fst = lines.filter begins := by
  induction lines with
  | nil => rfl
  | cons line rest ih =>
      unfold sections
      split
      · next first => rw [List.filter_cons_of_pos first, List.map_cons, ih]
      · next other => rw [List.filter_cons_of_neg other, ih]

theorem sections_append {front rest : List (List Char)} (plain : ∀ line ∈ front, begins line = false) :
    sections (front ++ rest) = sections rest := by
  induction front with
  | nil => rfl
  | cons line front ih =>
      obtain ⟨first, others⟩ := List.forall_mem_cons.mp plain
      rw [List.cons_append, sections, if_neg (Bool.eq_false_iff.mp first), ih others]

/-- Blocks of lines that each begin with the line of a finding are read one by one. -/
theorem sections_flatMap {α : Type} {head : α → List Char} {body : α → List (List Char)}
    {last : List (List Char)} (begin : ∀ x, begins (head x))
    (plain : ∀ x, ∀ line ∈ body x, begins line = false) (plain_last : ∀ line ∈ last, begins line = false)
    (mute : last.filterMap quoted? = []) (xs : List α) :
    sections (xs.flatMap (fun x => head x :: body x) ++ last) =
      xs.map fun x => (head x, (body x).filterMap quoted?) := by
  -- What is read before the next finding is the rest of this one, and nothing behind the last finding.
  have stop (xs : List α) :
      ((xs.flatMap (fun x => head x :: body x) ++ last).takeWhile fun line => !begins line).filterMap
        quoted? = [] := by
    cases xs with
    | nil =>
        have all : ∀ line ∈ last, (!begins line) = true := by simpa using plain_last
        rw [List.flatMap_nil, List.nil_append, List.takeWhile_eq_self_iff.mpr all, mute]
    | cons x rest =>
        rw [List.flatMap_cons, List.cons_append, List.cons_append, List.takeWhile_cons_of_neg]
        · rfl
        · simp [begin x]
  induction xs with
  | nil =>
      have none : sections (last ++ []) = [] := sections_append plain_last
      rwa [List.append_nil] at none
  | cons x rest ih =>
      have all : ∀ line ∈ body x, (!begins line) = true := by simpa using plain x
      rw [List.flatMap_cons, List.cons_append, List.cons_append, List.append_assoc, sections,
        if_pos (begin x), sections_append (plain x), ih, List.map_cons,
        List.takeWhile_append_of_pos all, List.filterMap_append, stop rest, List.append_nil]

/-! ## Texts on one line

The profile, the checks, paths, help texts and the reason for a note are put into lines as they are. A
line feed in one of them would break its line in two, so they are required to have none. Nothing is
required of messages.
-/

/-- A text that stands on one line. -/
def Unbroken (s : String) : Prop := '\n' ∉ s.toList

instance (s : String) : Decidable (Unbroken s) := inferInstanceAs (Decidable (¬ '\n' ∈ s.toList))

theorem unbroken_append : Unbroken (s ++ t) ↔ Unbroken s ∧ Unbroken t := by
  simp [Unbroken]

theorem unbroken_code : Unbroken (code s) ↔ Unbroken s := by
  have tick : Unbroken "`" := by decide
  simp [code, unbroken_append, tick]

theorem unbroken_toString (n : Nat) : Unbroken (toString n) := by
  intro mem
  rw [Nat.toString_eq_ofList_toDigits, String.toList_ofList] at mem
  exact absurd (Nat.isDigit_of_mem_toDigits (by decide) (by decide) mem) (by decide)

def endLines (lines : List String) : String := String.join (lines.map fun line => line ++ "\n")

theorem endLines_paragraph (line : String) : endLines [line, ""] = line ++ "\n\n" := by
  show String.join [line ++ "\n", "" ++ "\n"] = _
  rw [String.join_cons, String.join_cons, String.join_nil, String.append_assoc]
  rfl

theorem written_endLines {lines : List String} (unbroken : ∀ line ∈ lines, Unbroken line) :
    Written (endLines lines) (lines.map String.toList) := by
  rw [List.map_eq_flatMap (f := String.toList)]
  exact written_join fun line mem => written_line line (unbroken line mem)

/-! ## The lines of a report

The text that is written for a report is compared with its lines, part by part: the opening, the note,
the heading of the findings, and every finding with its message and its help.
-/

def openingLines (verdict : Verdict) (s : Summary) : List String :=
  ["# Modguard report", "", "- Verdict: **" ++ verdictWord verdict ++ "**",
    "- Profile: " ++ code s.profile,
    "- Scanned: " ++ toString s.filesScanned ++ " files, " ++ toString s.edgesScanned ++ " imports",
    "- Findings: " ++ toString s.findingsEmitted ++ " (emitted) / " ++ toString s.findingsTotal ++
      " (total)", ""]

def noteLines : Option String → List String
  | none => []
  | some reason => ["> Note: " ++ reason, ""]

/-- The lines before the findings, or the one that stands in their place. -/
def leadLines (fs : List Finding) : List String :=
  if fs.isEmpty then ["No findings."] else ["## Findings", ""]

def headline (f : Finding) : String :=
  "- [" ++ severityWord f.severity ++ "] " ++ code f.check ++ " / " ++ code f.code ++ place f.location

def mark (line : List Char) : List Char :=
  if line.isEmpty then "  >".toList else "  > ".toList ++ line

def helpLines : Option String → List String
  | none => []
  | some help => ["  help: " ++ help, ""]

/-- The lines of a finding behind the first one. -/
def bodyLines (f : Finding) : List (List Char) :=
  [] :: ((Text.lines f.message.toList).map mark ++ [] :: (helpLines f.help).map String.toList)

theorem opening_eq (verdict : Verdict) (s : Summary) :
    opening verdict s = endLines (openingLines verdict s) := by
  unfold opening openingLines endLines
  rw [show "# Modguard report\n\n" = "# Modguard report" ++ "\n" ++ ("" ++ "\n") from rfl,
    show "**\n" = "**" ++ "\n" from rfl, show " imports\n" = " imports" ++ "\n" from rfl,
    show " (total)\n\n" = " (total)" ++ "\n" ++ ("" ++ "\n") from rfl]
  simp only [List.map_cons, List.map_nil, String.join_cons, String.join_nil, String.append_assoc,
    String.append_empty]

theorem note_eq (reason : Option String) : note reason = endLines (noteLines reason) := by
  cases reason with
  | none => rfl
  | some reason => exact (endLines_paragraph _).symm

theorem help_eq (text : Option String) : help text = endLines (helpLines text) := by
  cases text with
  | none => rfl
  | some text => exact (endLines_paragraph _).symm

theorem unbroken_openingLines {verdict : Verdict} {s : Summary} (profile : Unbroken s.profile) :
    ∀ line ∈ openingLines verdict s, Unbroken line := by
  have word : Unbroken (verdictWord verdict) := by cases verdict <;> decide
  simp only [openingLines, List.forall_mem_cons, unbroken_append, unbroken_code, unbroken_toString,
    profile, word]
  decide

theorem unbroken_noteLines {reason : Option String} (h : ∀ text ∈ reason, Unbroken text) :
    ∀ line ∈ noteLines reason, Unbroken line := by
  cases reason with
  | none => exact List.forall_mem_nil _
  | some reason =>
      simp only [noteLines, List.forall_mem_cons, unbroken_append, h reason rfl]
      decide

theorem unbroken_helpLines {help : Option String} (h : ∀ text ∈ help, Unbroken text) :
    ∀ line ∈ helpLines help, Unbroken line := by
  cases help with
  | none => exact List.forall_mem_nil _
  | some help =>
      simp only [helpLines, List.forall_mem_cons, unbroken_append, h help rfl]
      decide

theorem unbroken_leadLines (fs : List Finding) : ∀ line ∈ leadLines fs, Unbroken line := by
  cases fs with
  | nil => decide
  | cons f rest =>
      show ∀ line ∈ ["## Findings", ""], Unbroken line
      decide

theorem written_quoteLine {line : List Char} (unbroken : '\n' ∉ line) :
    Written (quoteLine line) [mark line] := by
  unfold quoteLine mark
  split
  · exact written_line "  >" (by decide)
  · have text : ("  > " ++ String.ofList line).toList = "  > ".toList ++ line :=
      String.toList_append.trans (congrArg _ String.toList_ofList)
    have quoted : '\n' ∉ ("  > " ++ String.ofList line).toList := by
      simpa using unbroken
    exact text ▸ written_line ("  > " ++ String.ofList line) quoted

/-- A message is quoted in whole lines. -/
theorem written_quote (message : String) :
    Written (quote message) ((Text.lines message.toList).map mark) := by
  rw [List.map_eq_flatMap (f := mark)]
  exact written_join fun line mem => written_quoteLine (Text.not_mem_of_mem_lines mem)

end Markdown

/-- The texts of the finding stand on one line each, but for its message. -/
structure Finding.Unbroken (f : Finding) : Prop where
  check : Markdown.Unbroken f.check
  code : Markdown.Unbroken f.code
  path : ∀ l ∈ f.location, Markdown.Unbroken l.path.text
  help : ∀ text ∈ f.help, Markdown.Unbroken text

/-- The texts of the report stand on one line each, but for the messages of its findings. -/
structure Report.Unbroken (r : Report) : Prop where
  profile : Markdown.Unbroken r.summary.profile
  note : ∀ reason ∈ r.summary.truncatedReason, Markdown.Unbroken reason
  findings : ∀ f ∈ r.findings, f.Unbroken

namespace Markdown

variable {f : Finding} {r : Report}

theorem unbroken_place {location : Option Location} (h : ∀ l ∈ location, Unbroken l.path.text) :
    Unbroken (place location) := by
  cases location with
  | none => exact List.not_mem_nil
  | some l =>
      obtain ⟨path, line, column⟩ := l
      have unbroken : Unbroken path.text := h _ rfl
      cases line with
      | none =>
          show Unbroken (" at " ++ code path.text)
          rw [unbroken_append, unbroken_code]
          exact ⟨by decide, unbroken⟩
      | some n =>
          show Unbroken (" at " ++ code (path.text ++ ":" ++ toString n))
          rw [unbroken_append, unbroken_code, unbroken_append, unbroken_append]
          exact ⟨by decide, ⟨unbroken, by decide⟩, unbroken_toString n⟩

theorem unbroken_headline (unbroken : f.Unbroken) : Unbroken (headline f) := by
  have word : Unbroken (severityWord f.severity) := by cases f.severity <;> decide
  simp only [headline, unbroken_append, unbroken_code, unbroken.check, unbroken.code,
    unbroken_place unbroken.path, word]
  decide

/-- A finding is written in whole lines. -/
theorem written_finding (unbroken : f.Unbroken) :
    Written (finding f) ((headline f).toList :: bodyLines f) := by
  have empty : Written "\n" [[]] := written_line "" (by decide)
  have first : Written (heading f) [(headline f).toList] :=
    written_line (headline f) (unbroken_headline unbroken)
  have last : Written (help f.help) ((helpLines f.help).map String.toList) := by
    rw [help_eq]
    exact written_endLines (unbroken_helpLines unbroken.help)
  have whole := (((first.append empty).append (written_quote f.message)).append empty).append last
  show Written (heading f ++ "\n" ++ quote f.message ++ "\n" ++ help f.help) _
  simpa [bodyLines] using whole

/-- A report is written in whole lines: those before the findings, and then those of the findings. -/
theorem written_markdown (unbroken : r.Unbroken) :
    Written r.markdown
      ((openingLines r.verdict r.summary ++ noteLines r.summary.truncatedReason ++
          leadLines r.findings).map String.toList ++
        r.findings.flatMap fun f => (headline f).toList :: bodyLines f) := by
  have start : Written (opening r.verdict r.summary) _ :=
    opening_eq r.verdict r.summary ▸ written_endLines (unbroken_openingLines unbroken.profile)
  have noted : Written (note r.summary.truncatedReason) _ :=
    note_eq r.summary.truncatedReason ▸ written_endLines (unbroken_noteLines unbroken.note)
  have listed : Written (findings r.findings) ((leadLines r.findings).map String.toList ++
      r.findings.flatMap fun f => (headline f).toList :: bodyLines f) := by
    have lead := written_endLines (unbroken_leadLines r.findings)
    have items := written_join fun f mem => written_finding (unbroken.findings f mem)
    cases none : r.findings with
    | nil =>
        rw [none] at lead
        have same : findings [] = endLines (leadLines []) := rfl
        rw [same, List.flatMap_nil, List.append_nil]
        exact lead
    | cons f rest =>
        rw [none] at lead items
        exact lead.append items
  rw [List.map_append, List.map_append, List.append_assoc]
  exact (start.append noted).append listed

/-! ## What is read

Of all lines only the first one of a finding begins with a bracket behind a dash. Quoted lines begin
with two blanks and a quotation mark, and no line of the other parts begins in this way, whatever the
texts in it are.
-/

theorem begins_headline (f : Finding) : begins (headline f).toList = true := by
  have start : (headline f).toList = "- [".toList ++ (severityWord f.severity ++ "] " ++ code f.check ++
      " / " ++ code f.code ++ place f.location).toList := by
    simp [headline]
  rw [begins, Text.startsWith, start, Text.strip?_append]
  rfl

/-- No line before the findings begins one. -/
theorem begins_frontLines (r : Report) :
    ∀ line ∈ (openingLines r.verdict r.summary ++ noteLines r.summary.truncatedReason ++
      leadLines r.findings).map String.toList, begins line = false := by
  have opening : ∀ line ∈ openingLines r.verdict r.summary, begins line.toList = false := by
    simp [openingLines, begins, Text.startsWith, Text.strip?]
  have note : ∀ line ∈ noteLines r.summary.truncatedReason, begins line.toList = false := by
    cases r.summary.truncatedReason with
    | none => exact List.forall_mem_nil _
    | some reason => simp [noteLines, begins, Text.startsWith, Text.strip?]
  have lead : ∀ line ∈ leadLines r.findings, begins line.toList = false := by
    cases r.findings with
    | nil => simp [leadLines, begins, Text.startsWith, Text.strip?]
    | cons f rest => simp [leadLines, begins, Text.startsWith, Text.strip?]
  rw [List.forall_mem_map, List.forall_mem_append, List.forall_mem_append]
  exact ⟨⟨opening, note⟩, lead⟩

theorem begins_mark (line : List Char) : begins (mark line) = false := by
  unfold mark
  split <;> rfl

/-- A quoted line is read as it was. -/
theorem quoted?_mark (line : List Char) : quoted? (mark line) = some line := by
  unfold mark
  split
  · next empty => rw [List.isEmpty_iff.mp empty]; rfl
  · rfl

/-- No line of a finding but the first one begins a finding. -/
theorem begins_bodyLines (f : Finding) : ∀ line ∈ bodyLines f, begins line = false := by
  have help : ∀ line ∈ (helpLines f.help).map String.toList, begins line = false := by
    cases f.help with
    | none => exact List.forall_mem_nil _
    | some help => simp [helpLines, begins, Text.startsWith, Text.strip?]
  unfold bodyLines
  rw [List.forall_mem_cons, List.forall_mem_append, List.forall_mem_map, List.forall_mem_cons]
  exact ⟨rfl, fun line _ => begins_mark line, rfl, help⟩

/-- What the lines of a finding quote are the lines of its message. -/
theorem filterMap_quoted?_bodyLines (f : Finding) :
    (bodyLines f).filterMap quoted? = Text.lines f.message.toList := by
  have help : ((helpLines f.help).map String.toList).filterMap quoted? = [] := by
    cases f.help with
    | none => rfl
    | some help => simp [helpLines, quoted?, Text.strip?]
  have message : ((Text.lines f.message.toList).map mark).filterMap quoted? =
      Text.lines f.message.toList := by
    have same : quoted? ∘ mark = some := funext quoted?_mark
    rw [List.filterMap_map, same, List.filterMap_some]
  unfold bodyLines
  rw [List.filterMap_cons_none rfl, List.filterMap_append, message, List.filterMap_cons_none rfl, help,
    List.append_nil]

/-- In a report whose other texts stand on one line, the lines that begin findings are the first lines
of its findings, in order, and what is quoted between one of them and the next are the lines of the
message, whatever the messages hold. -/
theorem sections_markdown (unbroken : r.Unbroken) :
    (Text.split '\n' r.markdown.toList).filter begins =
        r.findings.map (fun f => (headline f).toList) ∧
      sections (Text.split '\n' r.markdown.toList) =
        r.findings.map fun f => ((headline f).toList, Text.lines f.message.toList) := by
  have written := written_markdown unbroken
  have read : sections (Text.split '\n' r.markdown.toList) =
      r.findings.map fun f => ((headline f).toList, Text.lines f.message.toList) := by
    rw [written.whole, Text.split_ended written.unbroken, List.append_assoc,
      sections_append (begins_frontLines r),
      sections_flatMap begins_headline begins_bodyLines (List.forall_mem_singleton.mpr rfl) rfl]
    simp only [filterMap_quoted?_bodyLines]
  refine ⟨?_, read⟩
  rw [← map_fst_sections, read, List.map_map]
  rfl

/-- A finding whose message is written like a finding with a quotation of its own. -/
def forgedFinding : Finding where
  severity := .warning
  check := "imports.layers"
  code := "layer_violation"
  message := "no\r\n- [INFO] `a` / `b`\n\n  > yes\n"
  location := some ⟨⟨"src/a.ts"⟩, some 3, none⟩
  help := some "Keep out."
  url := none
  fingerprint := none
  payload := .null

/-- A report of that finding, and of another one that begins like a quotation. -/
def forgedReport : Report :=
  { Report.ofError (some "strict") "" .epoch with
    findings := [forgedFinding, Report.errorFinding "  > - [\n## Findings"] }

/-- The report has two findings, and each has all lines of its message in it. -/
theorem sections_markdown_forged :
    forgedReport.Unbroken ∧
      (Text.split '\n' forgedReport.markdown.toList).filter begins =
        ["- [WARN] `imports.layers` / `layer_violation` at `src/a.ts:3`".toList,
          "- [ERROR] `tool.runtime` / `runtime_error`".toList] ∧
      sections (Text.split '\n' forgedReport.markdown.toList) =
        [("- [WARN] `imports.layers` / `layer_violation` at `src/a.ts:3`".toList,
            ["no".toList, "- [INFO] `a` / `b`".toList, [], "  > yes".toList]),
          ("- [ERROR] `tool.runtime` / `runtime_error`".toList,
            ["  > - [".toList, "## Findings".toList])] := by
  have unbroken : forgedReport.Unbroken :=
    { profile := by decide
      note := nofun
      findings := by
        intro f mem
        rcases List.mem_cons.mp mem with rfl | mem
        · exact ⟨by decide, by decide, fun _ h => Option.some.inj h ▸ by decide,
            fun _ h => Option.some.inj h ▸ by decide⟩
        · cases List.mem_singleton.mp mem
          exact ⟨by decide, by decide, nofun, fun _ h => Option.some.inj h ▸ by decide⟩ }
  obtain ⟨headings, quotations⟩ := sections_markdown unbroken
  exact ⟨unbroken, headings.trans (by decide +kernel), quotations.trans (by decide +kernel)⟩

end Markdown

end ImportBoundary
