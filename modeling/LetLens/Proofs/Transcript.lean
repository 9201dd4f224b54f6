import LetLens.Proofs.Layout
import LetLens.Proofs.Session

/-! Transcripts read back. Nothing is escaped in a transcript: prompts run into what follows them,
and a literal may be any character of a prompt or of the braces around it. Still the tokens of every
line can be told from it, by kind and literal. `readAnswers` finds the prompts, since only a prompt
starts like one, and divides the answers into their lines, since no literal has a line feed;
`readLexeme` takes such a line apart at the first blank behind the kind, since no kind is spelled
with a blank. -/

namespace LetLens

/-! ### Token lines -/

/-- The text of a token of this kind and literal, wherever it stands. -/
def lexemeText (l : TokenKind × String) : String := Token.text ⟨l.1, l.2, .start⟩

theorem tokenTexts_eq_map (text : String) : tokenTexts text = (lexemes text).map lexemeText := by
  rw [tokenTexts, lexemes, List.map_map]
  rfl

theorem toList_lexemeText (l : TokenKind × String) :
    (lexemeText l).toList = '\x7b' :: ("Type:".toList ++ (l.1.spelling.toList ++
      ' ' :: ("Literal:".toList ++ (l.2.toList ++ ['\x7d'])))) := by
  have hType : "\x7bType:".toList = '\x7b' :: "Type:".toList := by decide
  have hLiteral : " Literal:".toList = ' ' :: "Literal:".toList := by decide
  simp only [lexemeText, Token.text, String.toList_append, hType, hLiteral, List.append_assoc,
    List.cons_append]
  rfl

/-- The kind and the literal of which this is the text. -/
def readLexeme (line : List Char) : Option (TokenKind × String) :=
  let behind := line.drop "\x7bType:".length
  let literal := ((behind.dropWhile (· ≠ ' ')).drop " Literal:".length).dropLast
  (TokenKind.ofSpelling? (behind.takeWhile (· ≠ ' '))).map fun k => (k, String.ofList literal)

theorem readLexeme_lexemeText (l : TokenKind × String) :
    readLexeme (lexemeText l).toList = some l := by
  have hKind : ∀ c ∈ l.1.spelling.toList, decide (c ≠ ' ') := by
    intro c hc
    apply decide_eq_true
    rintro rfl
    exact l.1.not_isBlank_spelling ' ' hc (by decide)
  have hFront : ('\x7b' :: "Type:".toList).length = "\x7bType:".length := by decide
  have hMiddle : (' ' :: "Literal:".toList).length = " Literal:".length := by decide
  rw [readLexeme, toList_lexemeText, ← List.cons_append, List.drop_left' hFront,
    takeWhile_append_of_stop hKind (by simp), dropWhile_append_of_stop hKind (by simp),
    ← List.cons_append, List.drop_left' hMiddle, TokenKind.ofSpelling?_spelling]
  simp

/-! ### Answers -/

namespace Repl

/-- The lines up to the next prompt, and those behind each prompt from there on. A character that a
prompt starts with starts a prompt where a line could start. `skip` characters of a prompt are still
to be passed over, and `line` is what there is of the current line. -/
def readAnswers : Nat → List Char → List Char → List (List Char) × List (List (List Char))
  | _, _, [] => ([], [])
  | skip + 1, line, _ :: cs => readAnswers skip line cs
  | 0, line, c :: cs =>
    if c = '\n' then
      let later := readAnswers 0 [] cs
      (line :: later.1, later.2)
    else if line = [] ∧ c = 'ʕ' then
      let later := readAnswers (prompt.length - 1) [] cs
      ([], later.1 :: later.2)
    else readAnswers 0 (line ++ [c]) cs

theorem readAnswers_skip (skipped line cs : List Char) :
    readAnswers skipped.length line (skipped ++ cs) = readAnswers 0 line cs := by
  induction skipped with
  | nil => rfl
  | cons c skipped ih => exact ih

theorem readAnswers_prompt (cs : List Char) :
    readAnswers 0 [] (prompt.toList ++ cs) =
      ([], (readAnswers 0 [] cs).1 :: (readAnswers 0 [] cs).2) := by
  have hStart : prompt.toList = 'ʕ' :: prompt.toList.tail := by decide
  have hLength : prompt.length - 1 = prompt.toList.tail.length := by decide
  rw [hStart, List.cons_append, readAnswers, if_neg (by decide), if_pos ⟨rfl, rfl⟩, hLength,
    readAnswers_skip]

theorem readAnswers_lineFeed (line cs : List Char) :
    readAnswers 0 line ('\n' :: cs) =
      (line :: (readAnswers 0 [] cs).1, (readAnswers 0 [] cs).2) := by
  rw [readAnswers, if_pos rfl]

/-- A line that does not start like a prompt is read up to its line feed. -/
theorem readAnswers_line {line text : List Char} (hStart : line = [] → ∀ c ∈ text.head?, c ≠ 'ʕ')
    (hFeed : '\n' ∉ text) (cs : List Char) :
    readAnswers 0 line (text ++ '\n' :: cs) =
      ((line ++ text) :: (readAnswers 0 [] cs).1, (readAnswers 0 [] cs).2) := by
  induction text generalizing line with
  | nil => rw [List.nil_append, readAnswers_lineFeed, List.append_nil]
  | cons c text ih =>
    rw [List.mem_cons, not_or] at hFeed
    obtain ⟨hc, hText⟩ := hFeed
    have hMark : ¬(line = [] ∧ c = 'ʕ') := fun h => hStart h.1 c rfl h.2
    have hInside : line ++ [c] = [] → ∀ d ∈ text.head?, d ≠ 'ʕ' := by simp
    rw [List.cons_append, readAnswers, if_neg (Ne.symm hc), if_neg hMark, ih hInside hText]
    simp

theorem lineFeed_not_mem_lexemeText {text : String} {l : TokenKind × String}
    (hl : l ∈ lexemes text) : '\n' ∉ (lexemeText l).toList := by
  have hKind : '\n' ∉ l.1.spelling.toList :=
    fun h => l.1.not_isBlank_spelling '\n' h (by decide)
  have hLiteral : '\n' ∉ l.2.toList :=
    fun h => (isLexeme_of_mem_lexemes hl).not_isBlank '\n' h (by decide)
  have hFront : '\n' ∉ "Type:".toList := by decide
  have hMiddle : '\n' ∉ "Literal:".toList := by decide
  rw [toList_lexemeText]
  simp only [List.mem_append, List.mem_cons, List.not_mem_nil, or_false, not_or]
  exact ⟨by decide, hFront, hKind, by decide, hMiddle, hLiteral, by decide⟩

theorem readAnswers_lexemes {ls : List (TokenKind × String)}
    (hls : ∀ l ∈ ls, '\n' ∉ (lexemeText l).toList) (cs : List Char) :
    readAnswers 0 [] ((ls.flatMap fun l => (lexemeText l ++ "\n").toList) ++ cs) =
      ((ls.map fun l => (lexemeText l).toList) ++ (readAnswers 0 [] cs).1,
        (readAnswers 0 [] cs).2) := by
  induction ls with
  | nil => rfl
  | cons l ls ih =>
    obtain ⟨hl, hls⟩ := List.forall_mem_cons.mp hls
    have hStart : ∀ c ∈ (lexemeText l).toList.head?, c ≠ 'ʕ' := by
      simp [toList_lexemeText]
    have hLine : (lexemeText l ++ "\n").toList = (lexemeText l).toList ++ ['\n'] :=
      String.toList_append
    rw [List.flatMap_cons, hLine, List.append_assoc, List.append_assoc, List.singleton_append,
      readAnswers_line (fun _ => hStart) hl, ih hls]
    rfl

theorem toList_answer (line : String) :
    (answer line).toList = (lexemes line).flatMap fun l => (lexemeText l ++ "\n").toList := by
  rw [answer, tokenTexts_eq_map, String.toList_join, List.map_map, List.flatMap_map]
  rfl

/-- Behind the last prompt there is one empty line. -/
theorem readAnswers_transcript (lines : List String) :
    readAnswers 0 [] (transcript lines).toList =
      ([], (lines.map fun line => (lexemes line).map fun l => (lexemeText l).toList) ++
        [[[]]]) := by
  induction lines with
  | nil =>
    have hEnd : (transcript []).toList = prompt.toList ++ ['\n'] := by decide
    rw [hEnd, readAnswers_prompt, readAnswers_lineFeed]
    rfl
  | cons line lines ih =>
    have hLines : (transcript (line :: lines)).toList = prompt.toList ++
        (((lexemes line).flatMap fun l => (lexemeText l ++ "\n").toList) ++
          (transcript lines).toList) := by
      simp only [transcript, exchange_cons, String.toList_append, toList_answer, List.append_assoc]
    rw [hLines, readAnswers_prompt, readAnswers_lexemes fun l => lineFeed_not_mem_lexemeText, ih,
      List.append_nil]
    rfl

/-- The tokens of every line, by kind and literal, told from all that was written. -/
def readTranscript (output : Bytes) : List (List (TokenKind × String)) :=
  let answers := (readAnswers 0 [] ((decode? output).getD "").toList).2
  answers.dropLast.map fun lines => lines.filterMap readLexeme

theorem readTranscript_encode (lines : List String) :
    readTranscript (encode (transcript lines)) = lines.map lexemes := by
  have hLexemes (ls : List (TokenKind × String)) :
      (ls.map fun l => (lexemeText l).toList).filterMap readLexeme = ls := by
    simp [List.filterMap_map, readLexeme_lexemeText]
  rw [readTranscript, decode?_encode, Option.getD_some, readAnswers_transcript,
    List.dropLast_concat, List.map_map]
  exact List.map_congr_left fun line _ => hLexemes (lexemes line)

theorem transcript_eq_of_lexemes {lines lines' : List String}
    (h : lines.map lexemes = lines'.map lexemes) : transcript lines = transcript lines' := by
  have hExchange (ls : List String) : exchange ls =
      String.join ((ls.map lexemes).map fun l =>
        prompt ++ String.join ((l.map lexemeText).map (· ++ "\n"))) := by
    simp [exchange, answer, tokenTexts_eq_map, Function.comp_def]
  rw [transcript, transcript, hExchange, hExchange, h]

/-- What a session writes tells the tokens of every line by kind and literal, and nothing else of
its input: `readTranscript` reads them back, and the same is written for two texts exactly when they
have the same number of lines with the same tokens line by line. -/
theorem output_run_eq_iff :
    (∀ text, readTranscript (run (encode text) none).output = (fullLines text).map lexemes) ∧
    ∀ a b, (run (encode a) none).output = (run (encode b) none).output ↔
      (fullLines a).map lexemes = (fullLines b).map lexemes := by
  have hOutput (text : String) :
      (run (encode text) none).output = encode (transcript (fullLines text)) := by
    rw [run_encode, write_stop_none]
  have hRead (text : String) :
      readTranscript (run (encode text) none).output = (fullLines text).map lexemes := by
    rw [hOutput, readTranscript_encode]
  refine ⟨hRead, fun a b => ⟨fun h => ?_, fun h => ?_⟩⟩
  · rw [← hRead a, h, hRead b]
  · rw [hOutput, hOutput, transcript_eq_of_lexemes h]

/-- An empty line, and literals that occur in prompts and in the texts of tokens. -/
example : readTranscript (encode (transcript ["ʕ\x7d\n", "\n"])) =
    [[(.illegal, "ʕ"), (.rightBrace, "\x7d")], []] := by
  decide +kernel

end Repl

end LetLens
