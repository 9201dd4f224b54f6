import LetLens.Command
import LetLens.Proofs.Encoding
import LetLens.Proofs.Grammar

/-! The checker. Its exit code tells whether a path leads to something that can be read as a text of
the grammar. It does not ask whether that is a file. -/

namespace LetLens.Command

namespace Surroundings

/-- What can be read as a text is what the system answers with the encoding of one. -/
theorem readText_eq_ok_iff {s : Surroundings} {path text : String} :
    s.readText path = .ok text ↔ (s.find path).read? = some (.ok (encode text)) := by
  unfold readText
  cases hRead : (s.find path).read? with
  | none => simp
  | some answer =>
    cases answer with
    | error e => simp
    | ok content =>
      simp only [Option.some.injEq, Except.ok.injEq, ← decode?_eq_some_iff]
      cases decode? content <;> simp

theorem readText_of_file {s : Surroundings} {path text : String}
    (h : s.find path = .file (encode text)) : s.readText path = .ok text :=
  readText_eq_ok_iff.mpr (by rw [h]; rfl)

end Surroundings

theorem run_check (s : Surroundings) (path : String) : run s ["--check", path] = runCheck s path :=
  rfl

section

variable {s : Surroundings} {path text : String}

/-- A text is reported on, and the exit code tells whether it has diagnostics. -/
theorem code_run_check (h : s.readText path = .ok text) :
    (run s ["--check", path]).code =
      if (Reading.ofText text).diagnostics.isEmpty then 0 else 1 := by
  rw [run_check, runCheck, h]
  rfl

/-- What is not a text is refused. -/
theorem run_check_eq_refused {e : ReadError} (h : s.readText path = .error e) :
    run s ["--check", path] = .refused e.report := by
  rw [run_check, runCheck, h]

end

theorem code_run_check_eq_zero_or_one (s : Surroundings) (path : String) :
    (run s ["--check", path]).code = 0 ∨ (run s ["--check", path]).code = 1 := by
  cases hRead : s.readText path with
  | error e => exact .inr (by rw [run_check_eq_refused hRead]; rfl)
  | ok text =>
    rw [code_run_check hRead]
    split
    · exact .inl rfl
    · exact .inr rfl

theorem code_run_check_eq_zero_iff (s : Surroundings) (path : String) :
    (run s ["--check", path]).code = 0 ↔
      ∃ text, (s.find path).read? = some (.ok (encode text)) ∧
        ∃ phrases, FallsInto text phrases := by
  simp only [← Surroundings.readText_eq_ok_iff]
  constructor
  · intro hCode
    cases hRead : s.readText path with
    | error e =>
      rw [run_check_eq_refused hRead] at hCode
      exact absurd hCode Nat.one_ne_zero
    | ok text =>
      rw [code_run_check hRead] at hCode
      have hNone : (Reading.ofText text).diagnostics = [] := by simpa using hCode
      exact ⟨text, rfl, (diagnostics_eq_nil_iff text).mp hNone⟩
  · rintro ⟨text, hRead, hPhrases⟩
    rw [code_run_check hRead, (diagnostics_eq_nil_iff text).mpr hPhrases]
    rfl

/-- The checker accepts exactly its grammar. A text has no diagnostics if and only if its tokens
fall into phrases; they do so in one way, and its bindings are the clauses. The exit code is 0 if
the path leads to something that the system gives, and this is the encoding of such a text. In all
other cases it is 1, and nothing is printed of what cannot be read as a text. -/
theorem check_accepts_grammar :
    (∀ text : String,
      ((Reading.ofText text).diagnostics = [] ↔ ∃ phrases, FallsInto text phrases) ∧
      ∀ phrases, FallsInto text phrases →
        (Reading.ofText text).program.bindings = phrases.filterMap Phrase.binding? ∧
          ∀ phrases', FallsInto text phrases' → phrases' = phrases) ∧
    ∀ (s : Surroundings) (path : String),
      ((run s ["--check", path]).code = 0 ↔
        ∃ text, (s.find path).read? = some (.ok (encode text)) ∧
          ∃ phrases, FallsInto text phrases) ∧
      ((run s ["--check", path]).code = 0 ∨ (run s ["--check", path]).code = 1) ∧
      ((∀ text, (s.find path).read? ≠ some (.ok (encode text))) →
        (run s ["--check", path]).stdout = []) := by
  refine ⟨fun text => ⟨diagnostics_eq_nil_iff text, fun phrases h => ⟨?_, fun phrases' h' => ?_⟩⟩,
    fun s path => ⟨code_run_check_eq_zero_iff s path, code_run_check_eq_zero_or_one s path,
      fun hNot => ?_⟩⟩
  · rw [ofText_of_fallsInto h]
  · exact tokensOfPhrases_injective (h'.trans h.symm)
  · cases hRead : s.readText path with
    | error e =>
      rw [run_check_eq_refused hRead]
      rfl
    | ok text => exact absurd (Surroundings.readText_eq_ok_iff.mp hRead) (hNot text)

/-- The content of the file at a path, whether the system gives it or not. -/
def Surroundings.fileAt? (s : Surroundings) (path : String) : Option Bytes :=
  match s.find path with
  | .file content | .locked content _ => some content
  | .missing | .folder | .device _ => none

/-- Files do not settle it: the empty device is accepted, and a locked file is refused whatever it
holds. -/
theorem check_accepts_device :
    let folder : Folder := ⟨[(["a"], .locked (encode "let x = 5;") ⟨13, "Permission denied"⟩)]⟩
    let s : Surroundings := ⟨folder.find, [], none, none⟩
    let accepted (path : String) : Prop := (run s ["--check", path]).code = 0
    let holdsPhrases (path : String) : Prop :=
      ∃ text, s.fileAt? path = some (encode text) ∧ ∃ phrases, FallsInto text phrases
    (accepted "/dev/null" ∧ ¬holdsPhrases "/dev/null") ∧ ¬accepted "a" ∧ holdsPhrases "a" := by
  intro folder s accepted holdsPhrases
  have hGrammar : ∃ phrases, FallsInto "let x = 5;" phrases :=
    (diagnostics_eq_nil_iff _).mp (by decide +kernel)
  have hNoFile : s.fileAt? "/dev/null" = none := by
    decide +kernel
  refine ⟨⟨?_, ?_⟩, ?_, "let x = 5;", ?_, hGrammar⟩
  · show (run s ["--check", "/dev/null"]).code = 0
    decide +kernel
  · rintro ⟨text, hFile, -⟩
    exact absurd (hNoFile.symm.trans hFile) nofun
  · show ¬(run s ["--check", "a"]).code = 0
    decide +kernel
  · decide +kernel

end LetLens.Command
