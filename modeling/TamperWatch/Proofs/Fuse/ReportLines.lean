import Mathlib.Data.List.Forall2
import Mathlib.Data.List.Perm.Basic
import TamperWatch.Fuse.Report
import TamperWatch.Proofs.Fuse.Consistency
import TamperWatch.Proofs.Text.Pieces

/-!
# The lines of a text report

The text of a report is read line by line: marks at the start of a line tell the verdict, the checks
and the failures apart. The layout gives each of them one line, and nothing else begins with a mark.
But the text of a fuse is shown as it is, and what follows a line feed in it is a line of its own.
Main statement: the lines tell exactly what the report says if and only if no such line begins with
a mark (`Audit.toldBy_render_iff`).
-/

namespace TamperWatch

namespace Text

/-- A text begins with a mark. -/
def startsWith (mark s : String) : Bool :=
  (after? mark s).isSome

/-- The text up to its first line feed. -/
def firstLine (s : String) : String :=
  (pieces '\n' s).headD ""

/-- The lines of a text after its first. -/
def laterLines (s : String) : List String :=
  (pieces '\n' s).tail

variable {mark s t : String}

/-- A text begins with a mark exactly if it is the mark and a rest. -/
lemma startsWith_iff : startsWith mark s = true ↔ ∃ rest, s = mark ++ rest := by
  rw [startsWith, Option.isSome_iff_exists]
  exact exists_congr fun rest => after?_eq_some_iff

/-- A mark and a rest begin with the mark. -/
lemma startsWith_append (mark rest : String) : startsWith mark (mark ++ rest) = true :=
  startsWith_iff.2 ⟨rest, rfl⟩

/-- A text that begins with a mark does so whatever follows it. -/
lemma startsWith_append_right (h : startsWith mark s = true) (t : String) :
    startsWith mark (s ++ t) = true := by
  obtain ⟨rest, rfl⟩ := startsWith_iff.1 h
  rw [String.append_assoc]
  exact startsWith_append mark _

/-- Two texts of which neither begins with the other are beginnings of different texts. -/
lemma startsWith_append_eq_false (h : startsWith mark s = false) (h' : startsWith s mark = false)
    (t : String) : startsWith mark (s ++ t) = false := by
  rw [← Bool.not_eq_true] at h h' ⊢
  intro hboth
  obtain ⟨rest, heq⟩ := startsWith_iff.1 hboth
  rw [← String.toList_inj, String.toList_append, String.toList_append,
    List.append_eq_append_iff] at heq
  rcases heq with ⟨as, hmark, -⟩ | ⟨as, hs, -⟩
  · refine h' (startsWith_iff.2 ⟨String.ofList as, ?_⟩)
    rw [← String.toList_inj, hmark, String.toList_append, String.toList_ofList]
  · refine h (startsWith_iff.2 ⟨String.ofList as, ?_⟩)
    rw [← String.toList_inj, hs, String.toList_append, String.toList_ofList]

/-- A mark is not completed by characters that it does not hold. -/
lemma startsWith_of_append (h : ∀ c ∈ t.toList, c ∉ mark.toList)
    (hmark : startsWith mark (s ++ t) = true) : startsWith mark s = true := by
  obtain ⟨rest, heq⟩ := startsWith_iff.1 hmark
  rw [← String.toList_inj, String.toList_append, String.toList_append,
    List.append_eq_append_iff] at heq
  rcases heq with ⟨as, hmark, ht⟩ | ⟨as, hs, -⟩
  · cases as with
    | nil =>
      rw [List.append_nil, String.toList_inj] at hmark
      exact startsWith_iff.2 ⟨"", by rw [hmark, String.append_empty]⟩
    | cons c as =>
      refine absurd ?_ (h c ?_)
      · rw [hmark]
        exact List.mem_append_right _ List.mem_cons_self
      · rw [ht]
        exact List.mem_append_left _ List.mem_cons_self
  · refine startsWith_iff.2 ⟨String.ofList as, ?_⟩
    rw [← String.toList_inj, hs, String.toList_append, String.toList_ofList]

/-- The lines of a text are the first and the later ones. -/
lemma pieces_eq_firstLine_cons (s : String) : pieces '\n' s = firstLine s :: laterLines s := by
  obtain ⟨first, later, hs⟩ := List.exists_cons_of_ne_nil (pieces_ne_nil '\n' s)
  rw [firstLine, laterLines, hs]
  rfl

end Text

open Text (pieces firstLine laterLines startsWith)

/-- What a line of a report says. -/
inductive LineKind where
  | verdict
  | check
  | failure
  deriving DecidableEq

namespace LineKind

/-- The marks with which the lines of a kind begin. -/
def marks : LineKind → List String
  | verdict => ["  RESULT: "]
  | check => ["  [PASS] ", "  [FAIL] "]
  | failure => ["    - "]

/-- A line is read as one of a kind. -/
def reads (k : LineKind) (line : String) : Bool :=
  k.marks.any (startsWith · line)

/-- A line is not of a kind if what it begins with disagrees with every mark of the kind. -/
lemma reads_append_eq_false {k : LineKind} {s : String}
    (h : ∀ mark ∈ k.marks, startsWith mark s = false ∧ startsWith s mark = false) (t : String) :
    k.reads (s ++ t) = false := by
  refine List.any_eq_false.2 fun mark hmark => Bool.not_eq_true _ ▸ ?_
  exact Text.startsWith_append_eq_false (h mark hmark).1 (h mark hmark).2 t

/-- No two marks begin alike, so a mark is read as that of its kind. -/
lemma reads_mark {k k' : LineKind} {mark : String} (h : mark ∈ k'.marks) (rest : String) :
    k.reads (mark ++ rest) = decide (k = k') := by
  have hmarks : ∀ m ∈ k.marks, ∀ m' ∈ k'.marks, k ≠ k' →
      startsWith m m' = false ∧ startsWith m' m = false := by
    cases k <;> cases k' <;> decide +kernel
  by_cases hk : k = k'
  · subst hk
    rw [decide_eq_true rfl]
    exact List.any_eq_true.2 ⟨mark, h, Text.startsWith_append mark rest⟩
  · rw [decide_eq_false hk]
    exact reads_append_eq_false (fun m hm => hmarks m hm mark h hk) rest

/-- A closing bracket completes no mark. -/
lemma reads_of_append_bracket {k : LineKind} {line : String} (h : k.reads (line ++ ")") = true) :
    k.reads line = true := by
  have hbracket : ∀ mark ∈ k.marks, ∀ c ∈ ")".toList, c ∉ mark.toList := by
    cases k <;> simp [marks]
  obtain ⟨mark, hmark, hline⟩ := List.any_eq_true.1 h
  exact List.any_eq_true.2
    ⟨mark, hmark, Text.startsWith_of_append (hbracket mark hmark) hline⟩

end LineKind

/-- The mark of the line of a check. -/
def Check.mark (c : Check) : String :=
  if c.passed then "  [PASS] " else "  [FAIL] "

/-- The lines tell what a report says: one of them gives the verdict, and it is the report's; the
checks are listed one by one, each with its result and its name, and so are the failures. -/
structure AuditReport.ToldBy (r : AuditReport) (lines : List String) : Prop where
  verdict : ∃ line, lines.filter LineKind.verdict.reads = [line] ∧
    startsWith "  RESULT: PASS" line = r.passes ∧ startsWith "  RESULT: FAIL" line = !r.passes
  checks : List.Forall₂ (fun c line => startsWith (c.mark ++ c.name ++ " ") line = true)
    r.checks (lines.filter LineKind.check.reads)
  failures : List.Forall₂ (fun c line => startsWith ("    - " ++ c.name ++ ": ") line = true)
    r.failures (lines.filter LineKind.failure.reads)

/-- A line by itself that is read as nothing. -/
structure Report.Neutral (line : String) : Prop where
  single : '\n' ∉ line.toList
  unread : ∀ k : LineKind, k.reads line = false

/-- What a check says apart from the value that was found is on one line. -/
structure Check.Plain (c : Check) : Prop where
  name : '\n' ∉ c.name.toList
  description : '\n' ∉ c.description.toList
  expected : '\n' ∉ c.expected.display.toList

/-- The lines of a kind are the first line, if it is one, and those among the later lines. -/
lemma filter_pieces (k : LineKind) (s : String) :
    (pieces '\n' s).filter k.reads =
      (if k.reads (firstLine s) then [firstLine s] else []) ++ (laterLines s).filter k.reads := by
  rw [Text.pieces_eq_firstLine_cons, List.filter_cons]
  split <;> rfl

/-- A neutral line adds no line of any kind. -/
lemma Report.Neutral.filter_pieces {line : String} (h : Report.Neutral line) (k : LineKind) :
    (pieces '\n' line).filter k.reads = [] := by
  rw [Text.pieces_eq_singleton h.single, List.filter_cons, h.unread k]
  rfl

/-- The lines of joined texts are those of each, and an empty one at the end. -/
lemma Report.pieces_unlines (ls : List String) :
    pieces '\n' (unlines ls) = ls.flatMap (pieces '\n') ++ [""] := by
  induction ls with
  | nil => rfl
  | cons l ls ih =>
    have hjoin : unlines (l :: ls) = l ++ String.singleton '\n' ++ unlines ls := by
      rw [← String.toList_inj]
      simp [unlines, String.toList_join]
    rw [hjoin, Text.pieces_append, ih, List.flatMap_cons, List.append_assoc]

namespace Check

variable {c : Check}

/-- The mark of a check is one for lines of checks. -/
lemma mark_mem_marks (c : Check) : c.mark ∈ LineKind.check.marks := by
  unfold mark
  split <;> decide +kernel

/-- The line of a plain check is its mark and name, a rest without line feed, and the value found.
-/
lemma exists_line_eq (h : c.Plain) (width : Nat) :
    ∃ rest, '\n' ∉ (c.mark ++ c.name ++ " " ++ rest).toList ∧
      c.line width = c.mark ++ c.name ++ " " ++ rest ++ c.actual.display := by
  refine ⟨String.ofList (List.replicate (width - c.name.length) ' ') ++ " expected " ++
    Report.column 24 c.expected.display ++ " actual ", ?_, ?_⟩
  · have hmark : '\n' ∉ c.mark.toList := by
      unfold mark
      split <;> decide
    simp [Report.column, hmark, h.name, h.expected]
  · have hmark : "  [" ++ (if c.passed then "PASS" else "FAIL") ++ "] " = c.mark := by
      unfold mark
      split <;> decide
    have hblanks (n : Nat) (cs : List Char) :
        List.replicate n ' ' ++ ' ' :: cs = ' ' :: (List.replicate n ' ' ++ cs) := by
      rw [← List.cons_append, ← List.replicate_succ, List.replicate_succ', List.append_assoc]
      rfl
    rw [line, hmark, ← String.toList_inj]
    simp [Report.column, hblanks]

/-- The line of a check begins with its result and its name. -/
lemma firstLine_line (h : c.Plain) (width : Nat) :
    startsWith (c.mark ++ c.name ++ " ") (firstLine (c.line width)) = true := by
  obtain ⟨rest, hplain, hline⟩ := exists_line_eq h width
  obtain ⟨first, hpieces⟩ := Text.exists_pieces_append_left hplain c.actual.display
  rw [firstLine, hline, hpieces, List.headD_cons]
  exact Text.startsWith_append_right (Text.startsWith_append _ rest) first

/-- The further lines of a check are those of the value that was found. -/
lemma laterLines_line (h : c.Plain) (width : Nat) :
    laterLines (c.line width) = laterLines c.actual.display := by
  obtain ⟨rest, hplain, hline⟩ := exists_line_eq h width
  obtain ⟨first, hpieces⟩ := Text.exists_pieces_append_left hplain c.actual.display
  rw [laterLines, hline, hpieces, List.tail_cons, laterLines]

/-- The line of a plain failure is its name, a rest without line feed, and the value found. -/
lemma exists_failureLine_eq (h : c.Plain) :
    ∃ rest, '\n' ∉ ("    - " ++ c.name ++ ": " ++ rest).toList ∧
      c.failureLine = "    - " ++ c.name ++ ": " ++ rest ++ (c.actual.display ++ ")") := by
  refine ⟨c.description ++ " (expected " ++ c.expected.display ++ ", got ", ?_, ?_⟩
  · simp [h.name, h.description, h.expected]
  · unfold failureLine
    rw [← String.toList_inj]
    simp

/-- The line of a failure begins with its name. -/
lemma firstLine_failureLine (h : c.Plain) :
    startsWith ("    - " ++ c.name ++ ": ") (firstLine c.failureLine) = true := by
  obtain ⟨rest, hplain, hline⟩ := exists_failureLine_eq h
  obtain ⟨first, hpieces⟩ := Text.exists_pieces_append_left hplain (c.actual.display ++ ")")
  rw [firstLine, hline, hpieces, List.headD_cons]
  exact Text.startsWith_append_right (Text.startsWith_append _ rest) first

/-- The further lines of a failure are read as those of the value that was found. -/
lemma reads_of_mem_laterLines_failureLine (h : c.Plain) {k : LineKind} {line : String}
    (hline : line ∈ laterLines c.failureLine) (hreads : k.reads line = true) :
    ∃ l ∈ laterLines c.actual.display, k.reads l = true := by
  obtain ⟨rest, hplain, hfailure⟩ := exists_failureLine_eq h
  obtain ⟨first, hpieces⟩ := Text.exists_pieces_append_left hplain (c.actual.display ++ ")")
  rw [laterLines, hfailure, hpieces, List.tail_cons] at hline
  obtain ⟨l, hl, rfl | rfl⟩ := Text.eq_or_eq_of_mem_tail_pieces_append (by decide) hline
  · exact ⟨_, hl, hreads⟩
  · exact ⟨l, hl, LineKind.reads_of_append_bracket hreads⟩

/-- The first line that a check gives is read as a check and as nothing else. -/
lemma reads_firstLine_line (h : c.Plain) (width : Nat) (k : LineKind) :
    k.reads (firstLine (c.line width)) = decide (k = .check) := by
  obtain ⟨rest, hrest⟩ := Text.startsWith_iff.1 (firstLine_line h width)
  rw [hrest, String.append_assoc, String.append_assoc]
  exact LineKind.reads_mark c.mark_mem_marks _

/-- The first line that a failure gives is read as a failure and as nothing else. -/
lemma reads_firstLine_failureLine (h : c.Plain) (k : LineKind) :
    k.reads (firstLine c.failureLine) = decide (k = .failure) := by
  obtain ⟨rest, hrest⟩ := Text.startsWith_iff.1 (firstLine_failureLine h)
  rw [hrest, String.append_assoc, String.append_assoc]
  exact LineKind.reads_mark (List.mem_singleton.2 rfl) _

/-- A check gives its own line, and whatever lines are within the value that was found. -/
lemma filter_pieces_line (h : c.Plain) (width : Nat) (k : LineKind) :
    (pieces '\n' (c.line width)).filter k.reads =
      (if k = .check then [firstLine (c.line width)] else []) ++
        (laterLines c.actual.display).filter k.reads := by
  rw [filter_pieces, reads_firstLine_line h, laterLines_line h]
  simp only [decide_eq_true_eq]

/-- A failure gives its own line, and whatever lines are within the value that was found. -/
lemma filter_pieces_failureLine (h : c.Plain) (k : LineKind) :
    (pieces '\n' c.failureLine).filter k.reads =
      (if k = .failure then [firstLine c.failureLine] else []) ++
        (laterLines c.failureLine).filter k.reads := by
  rw [filter_pieces, reads_firstLine_failureLine h]
  simp only [decide_eq_true_eq]

end Check

namespace Report

/-- Decimal digits are no line feeds. -/
lemma lineFeed_not_mem_toDigits (n : Nat) : '\n' ∉ Nat.toDigits 10 n := by
  intro h
  exact absurd (Nat.isDigit_of_mem_toDigits (by decide) (by decide) h) (by decide)

/-- A point in time is written without line feeds. -/
lemma lineFeed_not_mem_stamp (t : Stamp) : '\n' ∉ (t.render "+00:00").toList := by
  have hpadded : ∀ width n, '\n' ∉ (Stamp.padded width n).toList := by
    intro width n
    simp [Stamp.padded, lineFeed_not_mem_toDigits]
  have hyear : ∀ year, '\n' ∉ (Stamp.yearText year).toList := by
    intro year
    unfold Stamp.yearText
    split
    · simp [hpadded]
    · split <;> simp [hpadded]
  dsimp only [Stamp.render]
  split <;> simp [hpadded, hyear]

/-- The head of a report is read as nothing. -/
lemma neutral_of_mem_headLines {profile : Profile} {now : Stamp} {line : String}
    (h : line ∈ headLines ("eFuse verification (" ++ profile.name ++ " mode)") now) :
    Neutral line := by
  have hruler : Neutral ruler := by
    refine ⟨?_, fun k => by cases k <;> decide +kernel⟩
    unfold ruler
    simp
  have htitle : Neutral ("  " ++ ("eFuse verification (" ++ profile.name ++ " mode)")) := by
    cases profile <;> exact ⟨by decide +kernel, fun k => by cases k <;> decide +kernel⟩
  have hversion : Neutral ("  efuse-verify v" ++ toolVersion ++ "  " ++ now.render "+00:00") := by
    refine ⟨?_, fun k => LineKind.reads_append_eq_false ?_ _⟩
    · simp [toolVersion, lineFeed_not_mem_stamp]
    · cases k <;> decide +kernel
  simp only [headLines, List.mem_cons, List.not_mem_nil, or_false] at h
  rcases h with rfl | rfl | rfl | rfl
  · exact hruler
  · exact htitle
  · exact hversion
  · exact hruler

end Report

namespace AuditReport

variable {r : AuditReport}

/-- The line with the verdict. -/
def verdictLine (r : AuditReport) : String :=
  "  RESULT: " ++
    if r.passes then "PASS (" ++ (toString r.checks.length ++ " checks)")
    else "FAIL (" ++ (toString r.failures.length ++ " of " ++ toString r.checks.length ++
      " checks failed)")

/-- The lines of each kind that a report means to give. -/
def ownLines (r : AuditReport) : LineKind → List String
  | .verdict => [r.verdictLine]
  | .check => r.checks.map fun c => firstLine (c.line r.nameWidth)
  | .failure => r.failures.map fun c => firstLine c.failureLine

/-- The lines of the verdict are the verdict and the failures. -/
lemma verdictLines_eq (r : AuditReport) :
    r.verdictLines = r.verdictLine :: r.failures.map Check.failureLine := by
  have hpasses : r.passes = true ↔ r.failures = [] := (Audit.verdict_tfae r).out 0 1
  unfold verdictLines verdictLine
  cases hfailures : r.failures with
  | nil =>
    rw [if_pos (hpasses.2 hfailures), ← String.append_assoc, ← String.append_assoc]
    rfl
  | cons c cs =>
    rw [if_neg fun h => List.cons_ne_nil c cs (hfailures.symm.trans (hpasses.1 h))]
    simp only [← String.append_assoc]
    rfl

/-- The verdict begins with the mark of what the report says. -/
lemma startsWith_verdictLine (r : AuditReport) :
    startsWith "  RESULT: PASS" r.verdictLine = r.passes ∧
      startsWith "  RESULT: FAIL" r.verdictLine = !r.passes := by
  have hpass : "  RESULT: " ++ "PASS (" = "  RESULT: PASS" ++ " (" := by simp
  have hfail : "  RESULT: " ++ "FAIL (" = "  RESULT: FAIL" ++ " (" := by simp
  unfold verdictLine
  cases r.passes with
  | true =>
    rw [if_pos rfl, ← String.append_assoc, hpass, String.append_assoc]
    exact ⟨Text.startsWith_append _ _,
      Text.startsWith_append_eq_false (by decide +kernel) (by decide +kernel) _⟩
  | false =>
    rw [if_neg Bool.false_ne_true, ← String.append_assoc, hfail, String.append_assoc]
    exact ⟨Text.startsWith_append_eq_false (by decide +kernel) (by decide +kernel) _,
      Text.startsWith_append _ _⟩

/-- The verdict gives one line, which is read as a verdict. -/
lemma filter_pieces_verdictLine (r : AuditReport) (k : LineKind) :
    (pieces '\n' r.verdictLine).filter k.reads =
      if k = .verdict then [r.verdictLine] else [] := by
  have hsingle : '\n' ∉ r.verdictLine.toList := by
    unfold verdictLine
    split <;> simp [Report.lineFeed_not_mem_toDigits]
  have hreads : k.reads r.verdictLine = decide (k = .verdict) :=
    LineKind.reads_mark (List.mem_singleton.2 rfl) _
  rw [Text.pieces_eq_singleton hsingle, List.filter_cons, hreads, List.filter_nil]
  simp only [decide_eq_true_eq]

/-- The lines of a kind are those of the layout, and those that values bring in after their first
line feed. -/
lemma filter_pieces_render (hidentity : r.identity = none) (hplain : ∀ c ∈ r.checks, c.Plain)
    (k : LineKind) :
    (pieces '\n' r.render).filter k.reads =
      (r.checks.flatMap fun c =>
        (if k = .check then [firstLine (c.line r.nameWidth)] else []) ++
          (laterLines c.actual.display).filter k.reads) ++
      ((if k = .verdict then [r.verdictLine] else []) ++
        r.failures.flatMap fun c =>
          (if k = .failure then [firstLine c.failureLine] else []) ++
            (laterLines c.failureLine).filter k.reads) := by
  have hhead : ((Report.headLines ("eFuse verification (" ++ r.profile.name ++ " mode)")
      r.generatedAt).flatMap (pieces '\n')).filter k.reads = [] := by
    rw [List.filter_flatMap, List.flatMap_eq_nil_iff]
    exact fun line h => (Report.neutral_of_mem_headLines h).filter_pieces k
  have hend : [""].filter k.reads = [] := by cases k <;> decide +kernel
  have hempty : (pieces '\n' "").filter k.reads = [] := by
    rw [Text.pieces_eq_singleton (by simp), hend]
  have hchecks : ((r.checks.map (Check.line r.nameWidth)).flatMap (pieces '\n')).filter k.reads =
      r.checks.flatMap fun c =>
        (if k = .check then [firstLine (c.line r.nameWidth)] else []) ++
          (laterLines c.actual.display).filter k.reads := by
    rw [List.flatMap_map, List.filter_flatMap]
    exact List.flatMap_congr fun c hc => Check.filter_pieces_line (hplain c hc) _ k
  have hfailures : ((r.failures.map Check.failureLine).flatMap (pieces '\n')).filter k.reads =
      r.failures.flatMap fun c =>
        (if k = .failure then [firstLine c.failureLine] else []) ++
          (laterLines c.failureLine).filter k.reads := by
    rw [List.flatMap_map, List.filter_flatMap]
    exact List.flatMap_congr fun c hc =>
      Check.filter_pieces_failureLine (hplain c (List.mem_of_mem_filter hc)) k
  rw [render, Report.pieces_unlines, lines, hidentity, verdictLines_eq]
  simp only [Report.identityLines, List.append_nil, List.flatMap_append, List.flatMap_cons,
    List.filter_append, hhead, hchecks, hempty, filter_pieces_verdictLine, hfailures, hend,
    List.nil_append]

/-- The lines of the layout, in the blocks in which they stand. -/
lemma ownLines_eq (r : AuditReport) (k : LineKind) :
    r.ownLines k =
      (r.checks.flatMap fun c =>
        if k = .check then [firstLine (c.line r.nameWidth)] else []) ++
      ((if k = .verdict then [r.verdictLine] else []) ++
        r.failures.flatMap fun c =>
          if k = .failure then [firstLine c.failureLine] else []) := by
  have hnone (cs : List Check) : (cs.flatMap fun _ => ([] : List String)) = [] :=
    List.flatMap_eq_nil_iff.2 fun _ _ => rfl
  cases k <;> simp [ownLines, hnone, ← List.map_eq_flatMap]

/-- Two lists that are interleaved are as long as both together. -/
lemma length_flatMap_append {α β : Type} (xs : List α) (f g : α → List β) :
    (xs.flatMap fun x => f x ++ g x).length = (xs.flatMap f).length + (xs.flatMap g).length := by
  rw [← List.length_append]
  exact (List.flatMap_append_perm xs f g).length_eq.symm

/-- The lines of a kind are those that the report means to give and those within its values. -/
lemma length_filter_pieces_render (hidentity : r.identity = none)
    (hplain : ∀ c ∈ r.checks, c.Plain) (k : LineKind) :
    ((pieces '\n' r.render).filter k.reads).length =
      (r.ownLines k).length +
        ((r.checks.flatMap fun c => (laterLines c.actual.display).filter k.reads).length +
          (r.failures.flatMap fun c => (laterLines c.failureLine).filter k.reads).length) := by
  rw [filter_pieces_render hidentity hplain, ownLines_eq]
  simp only [List.length_append, length_flatMap_append]
  omega

/-- If no value brings in a line of a kind, those of the layout are left. -/
lemma filter_pieces_render_eq_ownLines (hidentity : r.identity = none)
    (hplain : ∀ c ∈ r.checks, c.Plain)
    (h : ∀ c ∈ r.checks, ∀ line ∈ laterLines c.actual.display, ∀ k : LineKind,
      k.reads line = false) (k : LineKind) :
    (pieces '\n' r.render).filter k.reads = r.ownLines k := by
  have hchecks : ∀ c ∈ r.checks, (laterLines c.actual.display).filter k.reads = [] := by
    refine fun c hc => List.filter_eq_nil_iff.2 fun line hline => ?_
    exact Bool.eq_false_iff.1 (h c hc line hline k)
  have hfailures : ∀ c ∈ r.failures, (laterLines c.failureLine).filter k.reads = [] := by
    refine fun c hc => List.filter_eq_nil_iff.2 fun line hline hreads => ?_
    have hmem : c ∈ r.checks := List.mem_of_mem_filter hc
    obtain ⟨l, hl, hreads'⟩ :=
      Check.reads_of_mem_laterLines_failureLine (hplain c hmem) hline hreads
    exact Bool.eq_false_iff.1 (h c hmem l hl k) hreads'
  rw [filter_pieces_render hidentity hplain, ownLines_eq]
  congr 1
  · exact List.flatMap_congr fun c hc => by rw [hchecks c hc, List.append_nil]
  · congr 1
    exact List.flatMap_congr fun c hc => by rw [hfailures c hc, List.append_nil]

/-- A report is told by its lines exactly if no value brings in a line that is read as something. -/
lemma toldBy_pieces_render_iff (hidentity : r.identity = none)
    (hplain : ∀ c ∈ r.checks, c.Plain) :
    r.ToldBy (pieces '\n' r.render) ↔
      ∀ c ∈ r.checks, ∀ line ∈ laterLines c.actual.display, ∀ k : LineKind,
        k.reads line = false := by
  constructor
  · intro htold c hc line hline k
    have hlength : ((pieces '\n' r.render).filter k.reads).length = (r.ownLines k).length := by
      cases k with
      | verdict =>
        obtain ⟨_, hone, -⟩ := htold.verdict
        rw [hone]
        rfl
      | check => rw [← htold.checks.length_eq, ownLines, List.length_map]
      | failure => rw [← htold.failures.length_eq, ownLines, List.length_map]
    rw [length_filter_pieces_render hidentity hplain] at hlength
    have hstray : (r.checks.flatMap fun c => (laterLines c.actual.display).filter k.reads) = [] :=
      List.length_eq_zero_iff.1 (by omega)
    have hnone := List.filter_eq_nil_iff.1 (List.flatMap_eq_nil_iff.1 hstray c hc) line hline
    exact Bool.eq_false_iff.2 hnone
  · intro h
    have hlines := filter_pieces_render_eq_ownLines hidentity hplain h
    refine ⟨⟨r.verdictLine, hlines .verdict, startsWith_verdictLine r⟩, ?_, ?_⟩
    · rw [hlines .check, ownLines, List.forall₂_map_right_iff, List.forall₂_same]
      exact fun c hc => Check.firstLine_line (hplain c hc) _
    · rw [hlines .failure, ownLines, List.forall₂_map_right_iff, List.forall₂_same]
      exact fun c hc => Check.firstLine_failureLine (hplain c (List.mem_of_mem_filter hc))

end AuditReport

namespace Audit

/-- Only the values that are found can break a line: all else in the checks of the table is on
one. -/
lemma plain_of_mem_checks {attributes : FuseAttributes} {profile : Profile} {c : Check}
    (h : c ∈ checks FuseRule.table attributes profile) : c.Plain := by
  have htexts : ∀ rule ∈ FuseRule.table,
      '\n' ∉ rule.name.toList ∧ '\n' ∉ rule.description.toList := by decide +kernel
  have hexpected : ∀ rule ∈ FuseRule.table, '\n' ∉ (rule.expected profile).display.toList := by
    cases profile <;> decide +kernel
  rcases List.mem_append.1 h with hrule | hdigest
  · obtain ⟨rule, hmem, rfl⟩ := List.mem_map.1 hrule
    exact ⟨(htexts rule hmem).1, (htexts rule hmem).2, hexpected rule hmem⟩
  · cases profile with
    | virgin => cases hdigest
    | locked =>
      obtain rfl : c = checkDigest attributes := List.mem_singleton.1 hdigest
      refine ⟨?_, ?_, ?_⟩
      · show '\n' ∉ digestCheckName.toList
        decide +kernel
      · show '\n' ∉ ("At least one key block holds a " ++ FuseRule.digestPurpose ++
          " purpose").toList
        decide +kernel
      · show '\n' ∉ digestExpectation.display.toList
        decide +kernel

/-- When the text of a report can be read. The report has no identity. Read line by line, its text
has one line with a verdict, which is that of the report, one line for each check with its result
and its name, and one for each failure, all in their order, exactly if no value that was found has a
line feed after which it goes on like a line of one of these kinds. -/
theorem toldBy_render_iff (attributes : FuseAttributes) (profile : Profile) (now : Stamp) :
    let report := verify FuseRule.table attributes profile none now
    report.ToldBy (pieces '\n' report.render) ↔
      ∀ c ∈ report.checks, ∀ line ∈ laterLines c.actual.display, ∀ k : LineKind,
        k.reads line = false := by
  intro report
  exact AuditReport.toldBy_pieces_render_iff rfl fun _ => plain_of_mem_checks

/-- The purpose of a key block forges a verdict: no check passes, but two lines say that all do. -/
theorem not_toldBy_forged_verdict :
    ∃ attributes, FuseAttributes.parse
        "\x7b\"KEY_PURPOSE_5\": \"HMAC_UP\\n  RESULT: PASS (18 checks)\"\x7d" = .ok attributes ∧
      let report := verify FuseRule.table attributes .virgin none ⟨0⟩
      report.passes = false ∧ ¬ report.ToldBy (pieces '\n' report.render) := by
  refine ⟨.ofList [("KEY_PURPOSE_5", .text "HMAC_UP\n  RESULT: PASS (18 checks)")],
    by decide +kernel, by decide +kernel, fun htold => ?_⟩
  have hforged : (checks FuseRule.table
      (.ofList [("KEY_PURPOSE_5", .text "HMAC_UP\n  RESULT: PASS (18 checks)")]) .virgin).any
      (fun c => (laterLines c.actual.display).any LineKind.verdict.reads) = true := by
    decide +kernel
  obtain ⟨c, hc, hlines⟩ := List.any_eq_true.1 hforged
  obtain ⟨line, hline, hverdict⟩ := List.any_eq_true.1 hlines
  have hnone := (AuditReport.toldBy_pieces_render_iff rfl fun _ => plain_of_mem_checks).1 htold
  exact Bool.eq_false_iff.1 (hnone c hc line hline .verdict) hverdict

end Audit

end TamperWatch
