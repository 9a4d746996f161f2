import TermSearch.Proofs.Document.Answer
import TermSearch.Proofs.Regex.Lawful
import TermSearch.Proofs.Sql.Like

/-!
# Two ways to write a pattern

A pattern is written for `LIKE` and as a regular expression. Read without regard to case, the two accept the same texts
as long as wildcards meet no line breaks: a point does not stand for a line break, while `_` and `%` stand for any
character (`Wildcard.translations_agree`). A text with a line break can tell the two apart
(`Wildcard.translations_differ_at_newline`).
-/

namespace TermSearch.Wildcard

open PatternSign (AtPoint standsFor)
open Sql.Like (accepts read)

section

variable [PatternEngine]

theorem standsFor_patternFlags : standsFor (Document.patternFlags "i") = PatternEngine.sameCase := rfl

omit [PatternEngine] in
theorem atPoint_patternFlags : AtPoint (Document.patternFlags "i") = (· ≠ '\n') := by
  funext t
  simp [AtPoint, Document.patternFlags]

variable [LawfulPatternEngine]

/-- **The pattern of a value, read without regard to case, occurs in the texts that are like the value**, where
wildcards stand for anything but line breaks. -/
theorem occursIn_readLike {value : String} {occursIn : String → Bool} (h : Document.readLike value = .ok occursIn)
    (text : String) : occursIn text = true ↔ IsLike PatternEngine.sameCase (· ≠ '\n') value text := by
  rw [← standsFor_patternFlags, ← atPoint_patternFlags]
  exact occursIn_iff_isLike rfl h text

/-- What a pattern that is taken answers, or that it is too large. -/
theorem compilePattern_toRegex (value text : String) :
    (∃ found, (Document.compilePattern "i" (.string (toRegex value))).map (· text) = .ok found ∧
      (found = true ↔ IsLike PatternEngine.sameCase (· ≠ '\n') value text)) ∨
    Document.PatternTooLarge value ∧
      (Document.compilePattern "i" (.string (toRegex value))).map (· text) =
        .error (Document.tooLargePattern value) := by
  rcases Document.patternReads_or value with ⟨occursIn, hread⟩ | hlarge
  · refine .inl ⟨occursIn text, ?_, occursIn_readLike hread text⟩
    rw [Document.readLike] at hread
    rw [Document.compilePattern, hread]
    rfl
  · refine .inr ⟨hlarge, ?_⟩
    rw [Document.PatternTooLarge, Document.readLike] at hlarge
    rw [Document.compilePattern, hlarge]
    rfl

/-- **The two ways to write a pattern agree but for line breaks.** The regular expression of a value answers whether a
text starts with a match in which wildcards stand for anything but line breaks, unless it is too large. The pattern for
`LIKE` accepts the texts that start with any match. So what the expression accepts `LIKE` accepts, and the two agree if
there is no line break in the text or no wildcard in the value. -/
theorem translations_agree (value text : String) :
    ∃ found : Bool,
      ((Document.compilePattern "i" (.string (toRegex value))).map (· text) = .ok found ∨
        Document.PatternTooLarge value ∧
          (Document.compilePattern "i" (.string (toRegex value))).map (· text) =
            .error (Document.tooLargePattern value)) ∧
      (found = true ↔ IsLike PatternEngine.sameCase (· ≠ '\n') value text) ∧
      (accepts PatternEngine.sameCase (read (toLike value).toList) text.toList = true ↔
        IsLike PatternEngine.sameCase (fun _ => True) value text) ∧
      (found = true → accepts PatternEngine.sameCase (read (toLike value).toList) text.toList = true) ∧
      ('\n' ∉ text.toList ∨ (segments value.toList).all Segment.isLiteral = true →
        accepts PatternEngine.sameCase (read (toLike value).toList) text.toList = found) := by
  classical
  have hwide : IsLike PatternEngine.sameCase (· ≠ '\n') value text →
      IsLike PatternEngine.sameCase (fun _ => True) value text := fun h => h.change (.inl fun _ _ _ => trivial)
  refine ⟨decide (IsLike PatternEngine.sameCase (· ≠ '\n') value text), ?_, decide_eq_true_iff, Sql.Like.accepts_toLike,
    ?_, ?_⟩
  · refine (compilePattern_toRegex value text).imp_left ?_
    rintro ⟨found, hfound, hlike⟩
    rw [hfound, ← hlike, Bool.decide_eq_true]
  · rw [decide_eq_true_iff, Sql.Like.accepts_toLike]
    exact hwide
  · intro hnewline
    rw [Bool.eq_iff_iff, decide_eq_true_iff, Sql.Like.accepts_toLike]
    refine ⟨fun h => h.change ?_, hwide⟩
    refine hnewline.imp_left fun hnewline t ht _ => ?_
    rintro rfl
    exact hnewline ht

end

theorem translations_agree_robin :
    '\n' ∉ "Robin".toList ∧
      (Document.compilePattern "i" (.string (toRegex "r?B*n"))).map (· "Robin") = .ok true ∧
      accepts PatternEngine.sameCase (read (toLike "r?B*n").toList) "Robin".toList = true := by
  have hnewline : '\n' ∉ "Robin".toList := by decide
  have haccepts : accepts PatternEngine.sameCase (read (toLike "r?B*n").toList) "Robin".toList = true := by
    decide +kernel
  obtain ⟨found, hanswer, _, _, _, hagree⟩ := translations_agree "r?B*n" "Robin"
  have hfound : true = found := haccepts.symm.trans (hagree (.inl hnewline))
  have hcompiles : ∃ occursIn, Document.compilePattern "i" (.string (toRegex "r?B*n")) = .ok occursIn := ⟨_, rfl⟩
  obtain ⟨occursIn, hcompiled⟩ := hcompiles
  rcases hanswer with hanswer | ⟨_, hrefused⟩
  · exact ⟨hnewline, hfound ▸ hanswer, haccepts⟩
  · rw [hcompiled] at hrefused
    cases hrefused

/-- A line break can stand for a `?` under `LIKE`, but not in the expression. -/
theorem translations_differ_at_newline :
    (Document.compilePattern "i" (.string (toRegex "a?b"))).map (· "a\nb") = .ok false ∧
      accepts PatternEngine.sameCase (read (toLike "a?b").toList) "a\nb".toList = true ∧
      IsLike PatternEngine.sameCase (fun _ => True) "a?b" "a\nb" := by
  have haccepts : accepts PatternEngine.sameCase (read (toLike "a?b").toList) "a\nb".toList = true := by decide +kernel
  refine ⟨?_, haccepts, Sql.Like.accepts_toLike.mp haccepts⟩
  rfl

end TermSearch.Wildcard
