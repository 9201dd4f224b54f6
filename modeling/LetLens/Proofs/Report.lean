import LetLens.Proofs.Check
import LetLens.Proofs.Endings
import LetLens.Proofs.Outline

/-! The report of the checker, told apart. It prints less than a program and its diagnostics hold,
and it does not mark where one thing ends and the next one begins. Still a number ends before the
first character that is no digit, a name before its quote, and a kind before the next blank, so each
line of the tree and each diagnostic can be told from whatever is printed behind it: `Ends`. The
rest of a binding that was read from a text is always the same. So the report of a text tells all of
its reading. -/

namespace LetLens

/-! ### Diagnostics -/

/-- The line of a diagnostic, behind the path of the file. A path may have line feeds in it. -/
def Diagnostic.entry (path : String) (d : Diagnostic) : String :=
  path ++ ":" ++ d.location.text ++ ": " ++ d.message ++ "\n"

theorem Diagnostic.toList_message (d : Diagnostic) :
    d.message.toList = "expected next token to be ".toList ++ (d.expected.spelling.toList ++
      ([','] ++ ' ' :: ("got ".toList ++ (d.found.spelling.toList ++
        ([] ++ ' ' :: "instead".toList))))) := by
  have hGot : ", got ".toList = [','] ++ ' ' :: "got ".toList := by decide
  have hInstead : " instead".toList = ' ' :: "instead".toList := by decide
  show ("expected next token to be " ++ d.expected.spelling ++ ", got " ++ d.found.spelling ++
    " instead").toList = _
  simp only [String.toList_append, List.append_assoc, hGot, hInstead, List.cons_append,
    List.nil_append]

theorem Diagnostic.toList_entry (path : String) (d : Diagnostic) (r : List Char) :
    (d.entry path).toList ++ r = (path ++ ":").toList ++ (d.location.text.toList ++
      ':' :: (" ".toList ++ (d.message.toList ++ '\n' :: r))) := by
  have hColon : ": ".toList = ':' :: " ".toList := by decide
  have hFeed : "\n".toList = ['\n'] := by decide
  simp only [entry, String.toList_append, List.append_assoc, hColon, hFeed, List.cons_append,
    List.nil_append]

theorem Diagnostic.ends_entry (path : String) :
    Ends (fun _ => True) fun d : Diagnostic => (d.entry path).toList := by
  intro d e _ _ r s h
  simp only [toList_entry, toList_message, List.append_assoc, List.cons_append] at h
  obtain ⟨hLocation, -, hMessage⟩ := Location.text_append_inj (by decide) (by decide)
    (List.append_cancel_left h)
  obtain ⟨hExpected, hRest⟩ := TokenKind.spelling_append_inj [','] (by simp)
    (List.append_cancel_left (List.append_cancel_left hMessage))
  obtain ⟨hFound, hRest⟩ := TokenKind.spelling_append_inj [] (by simp)
    (List.append_cancel_left hRest)
  obtain ⟨-, hBehind⟩ := List.cons.inj (List.append_cancel_left hRest)
  refine ⟨?_, hBehind⟩
  cases d
  cases e
  simp_all

/-! ### Bindings -/

namespace Binding

theorem IsRead.eq_of {b c : Binding} (hb : b.IsRead) (hc : c.IsRead)
    (hOpening : b.token.location = c.token.location) (hName : b.target.name = c.target.name)
    (hTarget : b.target.token.location = c.target.token.location) : b = c := by
  have hParts (b : Binding) : b = ⟨b.token, b.target, b.value⟩ := rfl
  rw [hParts b, hParts c, hb.opening, hb.target, hb.value, hc.opening, hc.target, hc.value,
    hOpening, hName, hTarget]

/-- The lines of a binding in the tree. -/
def report (b : Binding) : List Char := b.outline.flatMap fun l => l.text.toList ++ ['\n']

theorem report_append {b : Binding} (hb : b.IsRead) (r : List Char) :
    b.report ++ r = "  LetStatement @ ".toList ++ (b.token.location.text.toList ++
      '\n' :: ("    name: Identifier \"".toList ++ (b.target.name.toList ++
        '"' :: (" @ ".toList ++ (b.target.token.location.text.toList ++
          '\n' :: ("    value: <not parsed>\n".toList ++ r)))))) := by
  simp [report, outline, OutlineLine.text, OutlineLevel.indent, hb.value]

theorem ends_report : Ends IsRead report := by
  intro b c hb hc r s h
  rw [report_append hb, report_append hc] at h
  obtain ⟨hOpening, -, hRest⟩ := Location.text_append_inj (by decide) (by decide)
    (List.append_cancel_left h)
  obtain ⟨hName, -, hRest⟩ := append_cons_inj_of_stop hb.isWord.forall_isWordPart
    hc.isWord.forall_isWordPart (by decide) (by decide) (List.append_cancel_left hRest)
  obtain ⟨hTarget, -, hRest⟩ := Location.text_append_inj (by decide) (by decide)
    (List.append_cancel_left hRest)
  exact ⟨hb.eq_of hc hOpening (String.toList_inj.mp hName) hTarget, List.append_cancel_left hRest⟩

end Binding

/-! ### The report -/

namespace Command

/-- What is printed of a reading. -/
def reportText (path : String) (r : Reading) : String :=
  String.join ((checkReport path r).map (· ++ "\n"))

theorem toList_reportText (path : String) (r : Reading) :
    (reportText path r).toList = "Program (".toList ++ (r.program.bindings.length.repr.toList ++
      ' ' :: ("statements)\n".toList ++ (r.program.bindings.flatMap Binding.report ++
        r.diagnostics.flatMap fun d => (d.entry path).toList))) := by
  have hTree : r.program.bindings.flatMap Binding.report =
      (r.program.bindings.flatMap Binding.outline).flatMap fun l => l.text.toList ++ ['\n'] := by
    rw [List.flatMap_assoc]
    rfl
  rw [hTree]
  simp [reportText, checkReport, Program.outline, Diagnostic.entry, OutlineLine.text,
    OutlineLevel.indent, List.flatMap_map, Function.comp_def, String.toList_join]

/-- The report of a text tells its reading. -/
theorem reportText_inj {path text text' : String}
    (h : reportText path (.ofText text) = reportText path (.ofText text')) :
    Reading.ofText text = Reading.ofText text' := by
  have hChars := congrArg String.toList h
  rw [toList_reportText, toList_reportText] at hChars
  obtain ⟨hCount, -, hRest⟩ := repr_append_inj (by decide) (by decide)
    (List.append_cancel_left hChars)
  obtain ⟨hBindings, hEntries⟩ := Binding.ends_report.flatMap_append_inj (fun b => Reading.isRead)
    (fun b => Reading.isRead) hCount (List.append_cancel_left hRest)
  have hDiagnostics := (Diagnostic.ends_entry path).flatMap_inj
    (fun d => by simp [Diagnostic.entry]) (by simp) (by simp) hEntries
  exact congrArg₂ (fun bs ds => Reading.mk ⟨bs⟩ ds) hBindings hDiagnostics

theorem stdout_run_check {s : Surroundings} {path text : String}
    (h : s.find path = .file (encode text)) :
    (run s ["--check", path]).stdout = encode (reportText path (.ofText text)) := by
  rw [run_check, runCheck, Surroundings.readText_of_file h]
  rfl

/-- What the tree has for each binding: three lines, and no name breaks one of them. -/
theorem lines_outline {text : String} {b : Binding}
    (hb : b ∈ (Reading.ofText text).program.bindings) :
    (b.outline.map OutlineLine.text).length = 3 ∧
      ∀ line ∈ b.outline.map OutlineLine.text, '\n' ∉ line.toList := by
  refine ⟨rfl, fun line hLine hFeed => ?_⟩
  obtain ⟨l, hl, rfl⟩ := List.mem_map.mp hLine
  have hOutline : l ∈ (Reading.ofText text).program.outline :=
    List.mem_cons_of_mem _ (List.mem_flatMap.mpr ⟨b, hb, hl⟩)
  exact absurd (Reading.printable_outline hOutline '\n' hFeed) (by decide)

theorem reportText_eq_join (path : String) (r : Reading) :
    reportText path r = String.join
      ((("Program (" ++ r.program.bindings.length.repr ++ " statements)") ::
        (r.program.bindings.map fun b => b.outline.map OutlineLine.text).flatten).map (· ++ "\n") ++
      r.diagnostics.map (Diagnostic.entry path)) := by
  have hHead (text : String) : OutlineLine.text ⟨.program, text⟩ = text := String.empty_append
  rw [reportText, checkReport, Program.outline, List.map_append, List.map_cons, hHead,
    List.map_flatMap, List.flatMap_def, List.map_map]
  rfl

/-- What the checker prints for a text is faithful: it is the same for two texts, under the same
path, just when they have the same program and the same diagnostics, places included. It consists of
the number of the statements, three lines for each of them and an entry for each diagnostic. -/
theorem stdout_check_eq_iff {s s' : Surroundings} {path text text' : String}
    (h : s.find path = .file (encode text)) (h' : s'.find path = .file (encode text')) :
    ((run s ["--check", path]).stdout = (run s' ["--check", path]).stdout ↔
      Reading.ofText text = Reading.ofText text') ∧
    ∃ statements : List (List String),
      (run s ["--check", path]).stdout = encode (String.join
        ((("Program (" ++ statements.length.repr ++ " statements)") :: statements.flatten).map
            (· ++ "\n") ++
          (Reading.ofText text).diagnostics.map (Diagnostic.entry path))) ∧
      statements.length = (Reading.ofText text).program.bindings.length ∧
      ∀ lines ∈ statements, lines.length = 3 ∧ ∀ line ∈ lines, '\n' ∉ line.toList := by
  constructor
  · rw [stdout_run_check h, stdout_run_check h', encode_inj]
    exact ⟨reportText_inj, congrArg (reportText path)⟩
  · refine ⟨(Reading.ofText text).program.bindings.map fun b => b.outline.map OutlineLine.text,
      ?_, List.length_map _, ?_⟩
    · rw [stdout_run_check h, reportText_eq_join, List.length_map]
    · intro lines hLines
      obtain ⟨b, hb, rfl⟩ := List.mem_map.mp hLines
      exact lines_outline hb

/-- A name that moves by one column is told, in a value nothing is. -/
theorem stdout_check_moved_name :
    let holding (text : String) : Surroundings := ⟨fun _ => .file (encode text), [], none, none⟩
    let printed (text : String) : Bytes := (run (holding text) ["--check", "a: 1,\n"]).stdout
    printed "let a = 1; let ," ≠ printed "let  a = 1;let ," ∧
      printed "let a = 1; let ," = printed "let a = @; let ," := by
  intro holding printed
  have hFile (text : String) : (holding text).find "a: 1,\n" = .file (encode text) := rfl
  refine ⟨fun hSame => ?_, ?_⟩
  · have hReadings := (stdout_check_eq_iff (hFile _) (hFile _)).1.mp hSame
    revert hReadings
    decide +kernel
  · refine (stdout_check_eq_iff (hFile _) (hFile _)).1.mpr ?_
    decide +kernel

end Command

end LetLens
