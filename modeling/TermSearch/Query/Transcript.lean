import TermSearch.Query.Basic

/-!
# Transcripts

The plainest backend: a query is the text of what was asked of it, one remark after the other, and a merge
puts the texts in brackets behind the connective. It shows how a search is compiled without any store.
-/

namespace TermSearch

/-- A query that is the text of its conditions. -/
structure Transcript where
  text : String
  deriving DecidableEq, Repr

namespace Transcript

/-- The transcript with a remark added. -/
def note (t : Transcript) (remark : String) : Transcript :=
  if t.text = "" then ⟨remark⟩ else ⟨t.text ++ " " ++ remark⟩

/-- The transcripts that are not empty in brackets behind the connective; one alone stays as it is. -/
def merge (t : Transcript) (p : Predicate) : List Transcript → Transcript
  | [] => t
  | others =>
    match ((t :: others).map (·.text)).filter (· ≠ "") with
    | [] => ⟨""⟩
    | [text] => ⟨text⟩
    | texts => ⟨"(" ++ p.name ++ " " ++ String.intercalate " " texts ++ ")"⟩

end Transcript

/-- An operation on transcripts: a remark. -/
inductive TranscriptMethod where
  | note (remark : String)
  deriving DecidableEq, Repr

instance : Query Transcript where
  Method := TranscriptMethod
  compare t field op value := t.note (field ++ ":" ++ op.name ++ ":" ++ value)
  merge := Transcript.merge
  cleared _ := ⟨""⟩
  render t := t.text
  perform
    | .note remark, t => .ok (t.note remark)

end TermSearch
