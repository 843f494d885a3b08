import Mathlib
import Pseudoclock.Json.Reading
import Pseudoclock.Json.Value

/-!
Strings: what stands between the quotes of a written string is read back as its characters, whichever of
them are escaped.
-/

namespace Pseudoclock.Json

/-- The escapes of one letter. -/
private theorem stringPieces_letter {letter c : Char} (hletter : letter ≠ 'u') (hunescape : unescape? letter = some c)
    (text : List Char) : stringPieces ('\\' :: letter :: text) =
      (stringPieces text).map fun parts => (.char c :: parts.1, parts.2) := by
  rw [stringPieces]
  · rw [hunescape]
    cases stringPieces text <;> rfl
  · intro _ _ _ _ _ hu
    exact absurd hu hletter

private theorem unitOf?_digits : ∀ n, n < 0x20 →
    unitOf? '0' '0' (Nat.digitChar (n / 16)) (Nat.digitChar (n % 16)) = some n := by
  decide

/-- The escapes of other control characters. -/
private theorem stringPieces_unit {n : Nat} (hn : n < 0x20) (text : List Char) :
    stringPieces (['\\', 'u', '0', '0', Nat.digitChar (n / 16), Nat.digitChar (n % 16)] ++ text) =
      (stringPieces text).map fun parts => (.unit n :: parts.1, parts.2) := by
  simp only [List.cons_append, List.nil_append]
  rw [stringPieces, unitOf?_digits n hn]
  cases stringPieces text <;> rfl

private theorem stringPieces_char {c : Char} (hquote : c ≠ '"') (hbackslash : c ≠ '\\') (hcontrol : ¬ c.toNat < 0x20)
    (text : List Char) : stringPieces (c :: text) =
      (stringPieces text).map fun parts => (.char c :: parts.1, parts.2) := by
  rw [stringPieces]
  · simp only [hcontrol, hbackslash, or_self, if_false]
    cases stringPieces text <;> rfl
  · intro h
    exact hquote h
  · rintro _ _ _ _ _ h _
    exact hbackslash h
  · rintro _ _ h _
    exact hbackslash h

/-- A piece that is read as one character. -/
private structure IsPieceOf (c : Char) (piece : Piece) : Prop where
  stringPieces_eq : ∀ text, stringPieces (escapeChar c ++ text) =
    (stringPieces text).map fun parts => (piece :: parts.1, parts.2)
  assemble_eq : ∀ pieces, assemble (piece :: pieces) = (assemble pieces).map (c :: ·)

private theorem IsPieceOf.ofLetter {letter c : Char} (hescape : escapeChar c = ['\\', letter])
    (hletter : letter ≠ 'u') (hunescape : unescape? letter = some c) : IsPieceOf c (.char c) :=
  ⟨fun text => by rw [hescape]; exact stringPieces_letter hletter hunescape text, fun _ => rfl⟩

private theorem exists_isPieceOf (c : Char) : ∃ piece, IsPieceOf c piece := by
  by_cases hquote : c = '"'
  · exact ⟨_, .ofLetter (by rw [hquote]; rfl) (by decide) (by rw [hquote]; rfl)⟩
  by_cases hbackslash : c = '\\'
  · exact ⟨_, .ofLetter (by rw [hbackslash]; rfl) (by decide) (by rw [hbackslash]; rfl)⟩
  by_cases hb : c = '\x08'
  · exact ⟨_, .ofLetter (by rw [hb]; rfl) (by decide) (by rw [hb]; rfl)⟩
  by_cases ht : c = '\t'
  · exact ⟨_, .ofLetter (by rw [ht]; rfl) (by decide) (by rw [ht]; rfl)⟩
  by_cases hn : c = '\n'
  · exact ⟨_, .ofLetter (by rw [hn]; rfl) (by decide) (by rw [hn]; rfl)⟩
  by_cases hf : c = '\x0c'
  · exact ⟨_, .ofLetter (by rw [hf]; rfl) (by decide) (by rw [hf]; rfl)⟩
  by_cases hr : c = '\r'
  · exact ⟨_, .ofLetter (by rw [hr]; rfl) (by decide) (by rw [hr]; rfl)⟩
  by_cases hcontrol : c.toNat < 0x20
  · refine ⟨.unit c.toNat, fun text => ?_, fun pieces => ?_⟩
    · rw [escapeChar]
      simp only [hquote, hbackslash, hb, ht, hn, hf, hr, hcontrol, if_false, if_true]
      exact stringPieces_unit hcontrol text
    · have hlow : c.toNat < 0xd800 ∨ 0xdfff < c.toNat := .inl (by omega)
      rw [assemble.eq_def]
      simp only
      rw [if_pos hlow, Char.ofNat_toNat]
  · refine ⟨.char c, fun text => ?_, fun _ => rfl⟩
    rw [escapeChar]
    simp only [hquote, hbackslash, hb, ht, hn, hf, hr, hcontrol, if_false]
    exact stringPieces_char hquote hbackslash hcontrol text

private theorem stringPieces_flatMap (characters rest : List Char) :
    ∃ pieces, stringPieces (characters.flatMap escapeChar ++ '"' :: rest) = some (pieces, rest) ∧
      assemble pieces = some characters := by
  induction characters with
  | nil => exact ⟨[], by simp [stringPieces], rfl⟩
  | cons c characters ih =>
    obtain ⟨pieces, hpieces, hassemble⟩ := ih
    obtain ⟨piece, hpiece⟩ := exists_isPieceOf c
    refine ⟨piece :: pieces, ?_, ?_⟩
    · rw [List.flatMap_cons, List.append_assoc, hpiece.stringPieces_eq, hpieces]
      rfl
    · rw [hpiece.assemble_eq, hassemble]
      rfl

theorem stringPieces_quote (s : String) (rest : List Char) :
    ∃ body pieces, quote s ++ rest = '"' :: body ∧ stringPieces body = some (pieces, rest) ∧
      contentOf pieces = some s := by
  obtain ⟨pieces, hpieces, hassemble⟩ := stringPieces_flatMap s.toList rest
  refine ⟨_, pieces, by simp [quote], hpieces, ?_⟩
  rw [contentOf, hassemble, Option.map_some, String.ofList_toList]

end Pseudoclock.Json
