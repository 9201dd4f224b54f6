import LetLens.Proofs.Composition
import LetLens.Proofs.Lines
import LetLens.Repl

/-! Sessions of the token prompt. It makes no difference how a text is divided into writes
(`write_append`), so a session does no more than write one text and stop: after the answers to all
lines and one more prompt, or behind the prompt before a line that is no text. What it writes on an
output without a limit follows, and so does where an output with a limit cuts it off. The lines are
scanned one by one, and yet the tokens are those of the whole input, because no token goes over the
end of a line. -/

namespace LetLens

/-! ### Tokens line by line -/

/-- The texts of the tokens of a text, without the end token. -/
def tokenTexts (text : String) : List String := (tokensOf text).dropLast.map Token.text

theorem Token.text_relocate (f : Location → Location) (t : Token) :
    (t.relocate f).text = t.text := rfl

theorem tokenTexts_append_lineFeed (a b : String) :
    tokenTexts (a ++ "\n" ++ b) = tokenTexts a ++ tokenTexts b := by
  have hb : (tokensOf b).map (Token.relocate (.below (1 + a.toList.count '\n'))) ≠ [] := by
    simpa using (ended_tokensOf b).ne_nil
  rw [tokenTexts, tokensOf_append_lineFeed, List.dropLast_append_of_ne_nil hb, List.map_append,
    ← List.map_dropLast, List.map_map]
  simp only [Function.comp_def, Token.text_relocate, tokenTexts]

theorem tokenTexts_lineFeed (a : String) : tokenTexts (a ++ "\n") = tokenTexts a := by
  have hNothing : tokenTexts "" = [] := by decide +kernel
  simpa [hNothing] using tokenTexts_append_lineFeed a ""

theorem flatMap_tokenTexts {ls : List (List Char)} (h : IsCut (· = '\n') ls) :
    (ls.map String.ofList).flatMap tokenTexts = tokenTexts (String.ofList ls.flatten) := by
  induction h with
  | nil => decide +kernel
  | rest => simp
  | @piece l c ls _ hc _ ih =>
    obtain rfl : c = '\n' := by simpa using hc
    have hLine : String.ofList (l ++ ['\n']) = String.ofList l ++ "\n" := String.ofList_append
    have hText : String.ofList ((l ++ ['\n']) ++ ls.flatten) =
        String.ofList l ++ "\n" ++ String.ofList ls.flatten := by
      rw [String.ofList_append, hLine]
    rw [List.map_cons, List.flatMap_cons, ih, List.flatten_cons, hText, hLine,
      tokenTexts_append_lineFeed, tokenTexts_lineFeed]

/-- No token goes over the end of a line. -/
theorem AreLines.flatMap_tokenTexts {text : String} {lines : List String}
    (h : AreLines text lines) : lines.flatMap tokenTexts = tokenTexts text := by
  have hChars := LetLens.flatMap_tokenTexts h.cut
  rw [← List.flatMap_def, ← String.toList_join, h.join, String.ofList_toList] at hChars
  simpa [Function.comp_def] using hChars

theorem Ended.filter_not_isEnd {ts : List Token} (h : Ended ts) :
    ts.filter (!·.isEnd) = ts.dropLast := by
  obtain ⟨e, hConcat, hBody, he⟩ := h.exists_eq_concat
  rw [hConcat, List.filter_append, List.dropLast_concat]
  simpa [he] using hBody

namespace Repl

/-! ### Writing -/

/-- Writes nothing more. -/
def stop (failure : Option Failure) (_ : Room) : Outcome := ⟨[], failure⟩

theorem write_empty (next : Room → Outcome) : write "" next = next := by
  funext room
  cases room <;> rfl

/-- Two texts are written one after the other as they are together, even if there is no room for
all of them. -/
theorem write_append (a b : String) (next : Room → Outcome) :
    write (a ++ b) next = write a (write b next) := by
  funext room
  cases room with
  | none => simp [write, encode_append]
  | some n =>
    simp only [write, encode_append, List.length_append]
    by_cases ha : (encode a).length ≤ n
    · rw [if_pos ha]
      by_cases hb : (encode b).length ≤ n - (encode a).length
      · rw [if_pos (by omega), if_pos hb, Nat.sub_add_eq, List.append_assoc]
      · rw [if_neg (by omega), if_neg hb, List.take_append, List.take_of_length_le ha]
    · rw [if_neg (by omega), if_neg ha, List.take_append_of_le_length (by omega)]

theorem foldr_write (texts : List String) (next : Room → Outcome) :
    texts.foldr write next = write (String.join texts) next := by
  induction texts with
  | nil => exact (write_empty next).symm
  | cons text texts ih => rw [List.foldr_cons, ih, String.join_cons, write_append]

theorem write_stop_none (text : String) (failure : Option Failure) :
    write text (stop failure) none = ⟨encode text, failure⟩ := by
  simp [write, stop]

theorem write_stop_some (text : String) (failure : Option Failure) (n : Nat) :
    write text (stop failure) (some n) =
      if (encode text).length ≤ n then ⟨encode text, failure⟩
      else ⟨(encode text).take n, some .outputFull⟩ := by
  simp [write, stop]

/-! ### Lines -/

/-- What is written in answer to a line: its tokens, one to a line. -/
def answer (line : String) : String := String.join ((tokenTexts line).map (· ++ "\n"))

/-- What is written while these lines are read: a prompt before each, and its answer. -/
def exchange (lines : List String) : String :=
  String.join (lines.map fun line => prompt ++ answer line)

theorem exchange_cons (line : String) (lines : List String) :
    exchange (line :: lines) = prompt ++ answer line ++ exchange lines := by
  rw [exchange, List.map_cons, String.join_cons, exchange]

theorem reply_encode (line : String) :
    reply (encode line) = .ok ((tokenTexts line).map (· ++ "\n")) := by
  have hTokens : (tokensOf line).filter (!·.isEnd) = (tokensOf line).dropLast :=
    (ended_tokensOf line).filter_not_isEnd
  rw [reply, decode?_encode]
  simp only [hTokens, tokenTexts, List.map_map, Function.comp_def]

theorem reply_of_invalid {line : Bytes} (h : ∀ text, line ≠ encode text) :
    reply line = .error .invalidText := by
  unfold reply
  cases hText : decode? line with
  | none => rfl
  | some text => exact absurd (decode?_eq_some_iff.mp hText) (h text)

theorem runLines_nil : runLines [] = write (prompt ++ "\n") (stop none) :=
  (write_append prompt "\n" (stop none)).symm

theorem runLines_encode (line : String) (lines : List Bytes) :
    runLines (encode line :: lines) = write (prompt ++ answer line) (runLines lines) := by
  rw [write_append, answer, ← foldr_write, runLines, reply_encode]

theorem runLines_invalid {line : Bytes} (h : ∀ text, line ≠ encode text) (lines : List Bytes) :
    runLines (line :: lines) = write prompt (stop (some .invalidText)) := by
  rw [runLines, reply_of_invalid h]
  rfl

theorem runLines_encode_append (lines : List String) (more : List Bytes) :
    runLines (lines.map encode ++ more) = write (exchange lines) (runLines more) := by
  induction lines with
  | nil => exact (write_empty _).symm
  | cons line lines ih =>
    rw [List.map_cons, List.cons_append, runLines_encode, ih, ← write_append, exchange_cons]

/-! ### Sessions -/

/-- All that is written in a session on these lines. -/
def transcript (lines : List String) : String := exchange lines ++ prompt ++ "\n"

theorem run_of_lines {input : Bytes} {lines : List String}
    (h : cutAfter (· = 0x0a) input = lines.map encode) :
    run input = write (transcript lines) (stop none) := by
  have hLines := runLines_encode_append lines []
  rw [List.append_nil, ← h, runLines_nil, ← write_append, ← String.append_assoc] at hLines
  exact hLines

theorem run_encode (text : String) :
    run (encode text) = write (transcript (fullLines text)) (stop none) :=
  run_of_lines (cutAfter_encode text)

/-- A session on a text answers all lines and comes to its end. It writes a prompt before each line,
the tokens of the line behind it, one to a line, and at the end one more prompt and a line feed. The
tokens of all lines are the tokens of the text. -/
theorem run_encode_eq_transcript (text : String) :
    AreLines text (fullLines text) ∧
    run (encode text) none = ⟨encode (transcript (fullLines text)), none⟩ ∧
    (fullLines text).flatMap tokenTexts = tokenTexts text := by
  have hLines := areLines_fullLines text
  refine ⟨hLines, ?_, hLines.flatMap_tokenTexts⟩
  rw [run_encode, write_stop_none]

/-- Lines that together are no text have a first one that is none. -/
theorem exists_first_invalid {all : List Bytes} (h : ∀ text, all.flatten ≠ encode text) :
    ∃ (lines : List String) (bad : Bytes) (after : List Bytes),
      all = lines.map encode ++ bad :: after ∧ ∀ text, bad ≠ encode text := by
  induction all with
  | nil => exact absurd rfl (h "")
  | cons line all ih =>
    by_cases hLine : ∃ text, line = encode text
    · obtain ⟨text, rfl⟩ := hLine
      have hLater : ∀ later, all.flatten ≠ encode later := by
        intro later hEq
        apply h (text ++ later)
        rw [List.flatten_cons, hEq, encode_append]
      obtain ⟨lines, bad, after, rfl, hBad⟩ := ih hLater
      exact ⟨text :: lines, bad, after, rfl, hBad⟩
    · exact ⟨[], line, all, rfl, fun text hEq => hLine ⟨text, hEq⟩⟩

/-- An input that is no text has a first line that is none. -/
theorem exists_cut_of_invalid {input : Bytes} (h : ∀ text, input ≠ encode text) :
    ∃ (lines : List String) (bad : Bytes) (after : List Bytes),
      cutAfter (· = 0x0a) input = lines.map encode ++ bad :: after ∧
        ∀ text, bad ≠ encode text := by
  apply exists_first_invalid
  rwa [flatten_cutAfter]

theorem run_of_first_invalid {input bad : Bytes} {lines : List String} {after : List Bytes}
    (hCut : cutAfter (· = 0x0a) input = lines.map encode ++ bad :: after)
    (hBad : ∀ text, bad ≠ encode text) :
    run input = write (exchange lines ++ prompt) (stop (some .invalidText)) := by
  funext room
  rw [run, hCut, runLines_encode_append, runLines_invalid hBad, ← write_append]

/-- A session comes to its end if and only if its input is a text. Otherwise it stops at the first
line that is none, and it has written what a session on the lines before that one writes, without
the line feed at the end of it. -/
theorem run_ends_iff (input : Bytes) :
    ((run input none).failure = none ↔ ∃ text, input = encode text) ∧
    ((∀ text, input ≠ encode text) →
      ∃ before bad after, IsCut (· = 0x0a) (before ++ bad :: after) ∧
        (before ++ bad :: after).flatten = input ∧
        (∀ line ∈ before, ∃ text, line = encode text) ∧ (∀ text, bad ≠ encode text) ∧
        (run input none).failure = some .invalidText ∧
        run before.flatten none = ⟨(run input none).output ++ encode "\n", none⟩) := by
  constructor
  · constructor
    · intro hEnds
      by_contra hInvalid
      obtain ⟨lines, bad, after, hCut, hBad⟩ :=
        exists_cut_of_invalid fun text h => hInvalid ⟨text, h⟩
      rw [run_of_first_invalid hCut hBad, write_stop_none] at hEnds
      contradiction
    · rintro ⟨text, rfl⟩
      rw [run_encode, write_stop_none]
  · intro hInvalid
    obtain ⟨lines, bad, after, hCut, hBad⟩ := exists_cut_of_invalid hInvalid
    obtain ⟨hPieces, hJoin⟩ := cutAfter_eq_iff.mp hCut
    have hBefore := run_of_lines hPieces.left.cutAfter_flatten
    refine ⟨lines.map encode, bad, after, hPieces, hJoin, ?_, hBad, ?_, ?_⟩
    · intro line hLine
      obtain ⟨text, -, rfl⟩ := List.mem_map.mp hLine
      exact ⟨text, rfl⟩
    · rw [run_of_first_invalid hCut hBad, write_stop_none]
    · rw [run_of_first_invalid hCut hBad, hBefore, write_stop_none, write_stop_none, transcript,
        encode_append]

/-- A session writes one text and stops. -/
theorem exists_run_eq_write (input : Bytes) :
    ∃ text failure, failure ≠ some .outputFull ∧ run input = write text (stop failure) := by
  by_cases hText : ∃ text, input = encode text
  · obtain ⟨text, rfl⟩ := hText
    exact ⟨_, none, by simp, run_encode text⟩
  · obtain ⟨lines, bad, after, hCut, hBad⟩ := exists_cut_of_invalid fun text h => hText ⟨text, h⟩
    exact ⟨_, some .invalidText, by simp, run_of_first_invalid hCut hBad⟩

/-- An output with room for `n` bytes takes what is written on one without a limit, or the first `n`
bytes of it. Only when there are more bytes does the session fail for lack of room, and then it does
so whatever it would have come to. -/
theorem run_some_eq (input : Bytes) :
    (run input none).failure ≠ some .outputFull ∧
    ∀ n, run input (some n) =
      if (run input none).output.length ≤ n then run input none
      else ⟨(run input none).output.take n, some .outputFull⟩ := by
  obtain ⟨text, failure, hFailure, hRun⟩ := exists_run_eq_write input
  rw [hRun, write_stop_none]
  exact ⟨hFailure, write_stop_some text failure⟩

end Repl

end LetLens
