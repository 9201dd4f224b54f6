import LetLens.Inspector.Basic
import LetLens.Proofs.Layout
import LetLens.Proofs.Pending
import Mathlib.Data.List.Destutter

/-! The order of the diagnostics, and the lines that the inspector marks. The diagnostics of a text
report tokens in the order of the text, so their places increase. That is why it is enough to drop
equal neighbours from their lines: no line comes back after another one. -/

namespace LetLens

/-! ### Places of diagnostics -/

namespace Reading

theorem pairwise_diagnostics (text : String) :
    (ofText text).diagnostics.Pairwise fun d d' => d.location < d'.location := by
  have hTokens : ((tokensOf text).map Token.spot).Pairwise fun s s' => s.2 < s'.2 :=
    List.pairwise_map.mpr (Layout.pairwise_tokensOf text)
  have hSpots := hTokens.sublist (diagnostics_ofText_sublist text)
  rwa [List.pairwise_map] at hSpots

theorem countP_found_eof_le (text : String) :
    (ofText text).diagnostics.countP (·.found = .eof) ≤ 1 := by
  have hCount : ((ofText text).diagnostics.map Diagnostic.spot).countP (·.1 = .eof) ≤
      ((tokensOf text).map Token.spot).countP (·.1 = .eof) :=
    (diagnostics_ofText_sublist text).countP_le
  rw [List.countP_map, List.countP_map] at hCount
  exact hCount.trans (ended_tokensOf text).countP_isEnd.le

end Reading

/-! ### Lines -/

theorem dropRepeats_eq_destutter (l : List Nat) : dropRepeats l = l.destutter (· ≠ ·) := by
  fun_induction dropRepeats l with
  | case1 => rfl
  | case2 n => rfl
  | case3 n l ih => rw [ih, List.destutter_cons_cons, if_neg (by simp), List.destutter_cons']
  | case4 n m l h ih =>
    rw [ih, List.destutter_cons_cons, if_pos h, List.destutter_cons']

theorem mem_dropRepeats {n : Nat} {l : List Nat} : n ∈ dropRepeats l ↔ n ∈ l := by
  fun_induction dropRepeats l with
  | case1 => rfl
  | case2 m => rfl
  | case3 m l ih => simp [ih]
  | case4 m m' l h ih => simp [ih]

/-- Of lines in order, each is left once. -/
theorem dropRepeats_eq_dedup {l : List Nat} (h : l.Pairwise (· ≤ ·)) : dropRepeats l = l.dedup := by
  rw [dropRepeats_eq_destutter]
  exact h.destutter_eq_dedup

theorem pairwise_dedup {l : List Nat} (h : l.Pairwise (· ≤ ·)) : l.dedup.Pairwise (· < ·) :=
  ((h.sublist l.dedup_sublist).and l.nodup_dedup).imp fun h => Nat.lt_of_le_of_ne h.1 h.2

namespace Inspector

/-- The places of the diagnostics increase, so that no two are at one place and the end of a text is
reported at most once. The marked lines are those of the diagnostics, increasing too and each of
them once. -/
theorem errorLines_ofText_increase (text : String) :
    (Reading.ofText text).diagnostics.Pairwise (fun d d' => d.location < d'.location) ∧
    ((Reading.ofText text).diagnostics.map (·.location)).Nodup ∧
    (Reading.ofText text).diagnostics.countP (·.found = .eof) ≤ 1 ∧
    (ofText text).errorLines.Pairwise (· < ·) ∧
    ∀ n, n ∈ (ofText text).errorLines ↔
      ∃ d ∈ (ofText text).diagnostics, d.location.line = n := by
  have hPlaces := Reading.pairwise_diagnostics text
  have hLines : ((ofText text).diagnostics.map (·.location.line)).Pairwise (· ≤ ·) := by
    refine List.pairwise_map.mpr (hPlaces.imp fun h => ?_)
    rw [Location.lt_def] at h
    omega
  rw [errorLines, dropRepeats_eq_dedup hLines]
  refine ⟨hPlaces, ?_, Reading.countP_found_eof_le text, pairwise_dedup hLines, fun n => ?_⟩
  · refine List.pairwise_map.mpr (hPlaces.imp fun h hSame => ?_)
    exact Location.lt_irrefl _ (hSame ▸ h)
  · rw [List.mem_dedup, List.mem_map]

end Inspector

end LetLens
