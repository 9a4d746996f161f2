import TermSearch.Proofs.Definition.Course
import TermSearch.Proofs.Definition.SurfaceStages
import TermSearch.Query.Transcript

/-!
# Searches that are always answered

A rule can fail, and then the whole search does. A definition is answering (`Definition.Answering`) when each of its
matchers lets through only terms for which its rule works (`RuleBody.Answers`); then every search has an answer,
whatever was typed (`Compiler.search_of_answering`).

Drafts are followed up to such a definition by an invariant (`Draft.Answering`) that helpers keep if their own rule
works for the terms they take. A surface keeps it as long as no entry that compares terms by their own field has an
empty list of fields (`Surface.search_answers`): an empty list takes terms without a field too, and these have
nothing to be compared by.
-/

namespace TermSearch

variable {Q : Type}

/-! ## Rules that work -/

/-- The rule works for every term it may run for. -/
def RuleBody.Answers (body : RuleBody Q) (fields : AcceptedFields) : Prop :=
  ∀ (scope : Q) (calls : Calls Q) (v : Visit), fields.allows v.field = true →
    (body scope calls { visit := v, scope := .start scope v.term.negated }).failure = none

section Rules

variable [Query Q]

/-- Renaming works for every term. -/
theorem RuleBody.rename_answers (target : String) (fields : AcceptedFields) :
    (RuleBody.rename target : RuleBody Q).Answers fields :=
  fun _ _ _ _ => rfl

/-- A form that has something to build for every term makes a rule that works. -/
theorem SearchForm.answers {form : SearchForm} {fields : AcceptedFields}
    (h : ∀ (scope : Q) (t : Term) (seen : Option String), fields.allows seen = true →
      ∃ built, form.build scope t seen = .ok built) (consume : Bool) :
    (RuleBody.search (Q := Q) form.step consume).Answers fields := by
  intro scope calls v hallows
  obtain ⟨built, hbuilt⟩ := h scope v.term v.field hallows
  rw [SearchForm.build_eq] at hbuilt
  rw [RuleBody.search_eq]
  cases hfailure : (form.step.run v (.start scope v.term.negated)).failure with
  | none => rfl
  | some cause =>
    rw [hfailure] at hbuilt
    cases hbuilt

/-- Terms that have one of some fields can be compared by it. -/
theorem SearchForm.own_answers {fields : List String} (hfields : fields ≠ []) (consume : Bool) :
    (RuleBody.search (Q := Q) SearchForm.own.step consume).Answers (.only fields) := by
  refine SearchForm.answers (fun scope t seen hallows => ?_) consume
  cases seen with
  | some field => exact ⟨_, rfl⟩
  | none => simp [AcceptedFields.allows, AcceptedFields.only, AcceptedFields.isAny, hfields] at hallows

/-- Every term can be compared by given fields. -/
theorem SearchForm.spread_answers (p : Predicate) (names : List String) (fields : AcceptedFields) (consume : Bool) :
    (RuleBody.search (Q := Q) (SearchForm.spread p names).step consume).Answers fields :=
  SearchForm.answers (fun _ _ _ _ => ⟨_, rfl⟩) consume

end Rules

/-! ## Definitions -/

/-- **Each matcher runs a rule that works for the terms it lets through.** -/
structure Definition.Answering (d : Definition Q) : Prop where
  hasRules : d.hasRules = true
  matchers : ∀ m ∈ d.matchers, ∃ body, d.declarations.rules.get? m.rule = some body ∧ body.Answers m.fields

namespace Compiler

variable {c : Compiler Q} {calls : Calls Q}

theorem runRuleWith_of_answers (calls : Calls Q) {rule : String} {body : RuleBody Q} {fields : AcceptedFields}
    {v : Visit} (hget : c.definition.declarations.rules.get? rule = some body) (hbody : body.Answers fields)
    (hopen : v.isSettled = false) (hallows : fields.allows v.field = true) :
    ∃ built v', c.runRuleWith calls rule v = (.ok built, v') := by
  have hnone := hbody c.scope calls (SearchStage.claimed rule v) hallows
  unfold runRuleWith
  rw [hget]
  simp only [claim?_of_open hopen]
  rw [show (SearchStage.claimed rule v).term = v.term from rfl] at hnone
  rw [hnone]
  exact ⟨_, _, rfl⟩

theorem runMatchers_of_answers {ms : List (Matcher Q)}
    (h : ∀ m ∈ ms, ∃ body, c.definition.declarations.rules.get? m.rule = some body ∧ body.Answers m.fields)
    (v : Visit) : ∃ queries, c.runMatchers calls ms v = .ok queries := by
  induction ms generalizing v with
  | nil => exact ⟨[], rfl⟩
  | cons m rest ih =>
    rw [List.forall_mem_cons] at h
    rw [runMatchers]
    by_cases hsettled : v.isSettled = true
    · exact ⟨[], if_pos hsettled⟩
    rw [if_neg hsettled]
    by_cases haccepts : m.accepts c.scope v = true
    · rw [if_neg (by simp [haccepts])]
      obtain ⟨body, hget, hbody⟩ := h.1
      have hallows : m.fields.allows v.field = true := by
        unfold Matcher.accepts at haccepts
        exact (Bool.and_eq_true _ _ ▸ haccepts).2
      obtain ⟨built, v', hrun⟩ :=
        runRuleWith_of_answers calls hget hbody (by simpa using hsettled) hallows
      obtain ⟨more, hmore⟩ := ih h.2 v'
      rw [hrun]
      simp only [hmore]
      exact ⟨_, rfl⟩
    · rw [if_pos (by simp [haccepts])]
      exact ih h.2 v

theorem termQueries_of_answering (h : c.definition.Answering) (t : Term) :
    ∃ queries, c.termQueries calls t = .ok queries := by
  unfold termQueries
  rw [if_neg (by simp [h.hasRules])]
  split
  · exact runMatchers_of_answers h.matchers _
  · exact ⟨[], rfl⟩

/-- **An answering definition has an answer to everything that can be typed.** -/
theorem search_of_answering [Query Q] (h : c.definition.Answering) (input : String) : ∃ q, c.search input = .ok q :=
  compile_ok_iff.mpr fun t _ => termQueries_of_answering h t

end Compiler

/-! ## Drafts -/

namespace Draft

/-- What has been declared so far leads to an answering definition, and goes on to whatever helpers declare. -/
structure Answering (d : Draft Q) : Prop where
  /-- No matcher waits for a name that is yet to be made up. -/
  named : ∀ m ∈ d.declarations.matchers, ∀ stem n, m.rule = numberedName stem n → n ≤ d.declarations.generated
  answers : ∀ m ∈ d.declarations.matchers, ∀ body, d.declarations.rules.get? m.rule = some body →
    body.Answers m.options.fields

variable {d : Draft Q}

theorem Answering.start : (Definition.start : Draft Q).Answering where
  named := fun _ h => nomatch h
  answers := fun _ h => nomatch h

/-- A helper adds its rule and its matcher, unless the name is taken. -/
theorem generate_eq {stem : String} {body : RuleBody Q} {options : MatcherOptions Q}
    (h : (d.generate stem body options).errors = []) :
    d.errors = [] ∧ (d.generate stem body options).declarations =
      { d.declarations with
        generated := d.declarations.generated + 1
        rules := d.declarations.rules.insert (numberedName stem (d.declarations.generated + 1)) body
        matchers := d.declarations.matchers ++
          [{ rule := numberedName stem (d.declarations.generated + 1), options }] } := by
  have hdraft : d.generate stem body options =
      ((d.declare ({ · with generated := d.declarations.generated + 1 })).rule
        (numberedName stem (d.declarations.generated + 1)) body).matcher
          (numberedName stem (d.declarations.generated + 1)) options := rfl
  rw [hdraft] at h ⊢
  by_cases hmem : numberedName stem (d.declarations.generated + 1) ∈ d.ownRules
  · unfold Draft.rule at h
    rw [if_pos (show _ ∈ (d.declare _).ownRules from hmem)] at h
    simp [Draft.matcher, Draft.declare] at h
  · rw [rule_of_not_mem (d := d.declare _) hmem] at h ⊢
    exact ⟨h, rfl⟩

/-- **A helper whose rule works for the terms it takes keeps the definition answering.** -/
theorem Answering.generate (hd : d.errors = [] → d.Answering) (stem : String) {body : RuleBody Q}
    (options : MatcherOptions Q) (hbody : body.Answers options.fields)
    (h : (d.generate stem body options).errors = []) : (d.generate stem body options).Answering := by
  obtain ⟨herrors, hdeclarations⟩ := generate_eq h
  have hanswering := hd herrors
  -- the rule is new to the matchers declared before
  have hne : ∀ m ∈ d.declarations.matchers, m.rule ≠ numberedName stem (d.declarations.generated + 1) := by
    intro m hm heq
    have := hanswering.named m hm _ _ heq
    omega
  constructor
  · rw [hdeclarations]
    intro m hm stem' n hname
    rcases List.mem_append.mp hm with hm | hm
    · exact Nat.le_succ_of_le (hanswering.named m hm stem' n hname)
    · rw [List.mem_singleton.mp hm] at hname
      exact Nat.le_of_eq (number_eq_of_numberedName_eq hname).symm
  · rw [hdeclarations]
    intro m hm body' hget
    rcases List.mem_append.mp hm with hm | hm
    · rw [KeyMap.get?_insert_of_ne (hne m hm)] at hget
      exact hanswering.answers m hm body' hget
    · rw [List.mem_singleton.mp hm] at hget ⊢
      rw [KeyMap.get?_insert_self] at hget
      cases hget
      exact hbody

/-- A helper adds a matcher. -/
theorem generate_matchers_ne_nil (d : Draft Q) (stem : String) (body : RuleBody Q) (options : MatcherOptions Q) :
    (d.generate stem body options).declarations.matchers ≠ [] := by
  intro hnil
  exact List.cons_ne_nil _ _ (List.append_eq_nil_iff.mp hnil).2

theorem resolve_ok {s : Declarations Q} {spec : PendingMatcher Q} {m : Matcher Q} (h : resolve s spec = .ok m) :
    s.rules.has spec.rule = true ∧ m.rule = spec.rule ∧ m.fields = spec.options.fields := by
  obtain ⟨hhas, -, -, hrule, -, hfields⟩ := resolve_eq_ok_iff.mp h
  exact ⟨hhas, hrule, hfields⟩

/-- A definition that was built keeps its declarations; its matchers are those that were declared, each with a
rule. -/
theorem build_ok {definition : Definition Q} (h : d.build = .ok definition) :
    d.errors = [] ∧ definition.declarations = d.declarations ∧
      (∀ spec ∈ d.declarations.matchers, ∃ m, resolve d.declarations spec = .ok m) ∧
      ∀ m ∈ definition.matchers, ∃ spec ∈ d.declarations.matchers, resolve d.declarations spec = .ok m := by
  obtain ⟨herrors, hdeclarations, resolved, hall, hsort⟩ := build_eq_ok_iff.mp h
  refine ⟨herrors, hdeclarations, exists_forall₂_iff.mp ⟨resolved, hall⟩, fun m hm => ?_⟩
  rw [hsort, List.mem_mergeSort] at hm
  exact exists_of_forall₂ hall.flip m hm

/-- **An answering draft is built into an answering definition.** -/
theorem Answering.build (h : d.Answering) (hne : d.declarations.matchers ≠ []) {definition : Definition Q}
    (hbuild : d.build = .ok definition) : definition.Answering := by
  obtain ⟨-, hdeclarations, hall, hexists⟩ := build_ok hbuild
  constructor
  · obtain ⟨spec, specs, hcons⟩ := List.exists_cons_of_ne_nil hne
    obtain ⟨m, hm⟩ := hall spec (by simp [hcons])
    have hhas := (resolve_ok hm).1
    unfold Definition.hasRules
    rw [hdeclarations]
    cases hrules : d.declarations.rules with
    | nil =>
      rw [hrules] at hhas
      cases hhas
    | cons e rules => rfl
  · intro m hm
    obtain ⟨spec, hspec, hm⟩ := hexists m hm
    obtain ⟨hhas, hrule, hfields⟩ := resolve_ok hm
    obtain ⟨body, hbody⟩ := Option.isSome_iff_exists.mp hhas
    rw [hdeclarations, hrule, hfields]
    exact ⟨body, hbody, h.answers spec hspec body hbody⟩

/-- An extension goes on where the definition has ended. -/
theorem Answering.extend (h : d.Answering) {definition : Definition Q} (hbuild : d.build = .ok definition) :
    definition.extend.Answering := by
  have hdeclarations : definition.extend.declarations = d.declarations := (build_ok hbuild).2.1
  constructor <;> rw [hdeclarations]
  · exact h.named
  · exact h.answers

end Draft

/-! ## Surfaces -/

section Surface

variable [Query Q]

theorem SurfaceEntry.apply_answering {d : Draft Q} (hd : d.errors = [] → d.Answering) {e : SurfaceEntry}
    (hfields : e.kind = .inFields ∨ e.kind = .specific → e.fields ≠ []) :
    (e.apply d).errors = [] → (e.apply d).Answering := by
  obtain ⟨kind, fields, field, consume, rank⟩ := e
  cases kind with
  | inFields =>
    have hown := Draft.Answering.generate hd "search_in_specific_fields" { fields := .only fields, rank }
      (SearchForm.own_answers (hfields (.inl rfl)) consume)
    exact Draft.Answering.generate hown _ _ (SearchForm.spread_answers .or fields _ consume)
  | anyOf => exact Draft.Answering.generate hd _ _ (SearchForm.spread_answers .or fields _ consume)
  | allOf => exact Draft.Answering.generate hd _ _ (SearchForm.spread_answers .and fields _ consume)
  | specific => exact Draft.Answering.generate hd _ _ (SearchForm.own_answers (hfields (.inr rfl)) consume)

namespace Surface

variable {s : Surface} {d : Draft Q}

/-- **A surface keeps a draft answering** if no entry compares terms by their own field among none. -/
theorem apply_answering (hfields : ∀ e ∈ s.search, e.kind = .inFields ∨ e.kind = .specific → e.fields ≠ [])
    (hd : d.errors = [] → d.Answering) : (s.apply d).errors = [] → (s.apply d).Answering := by
  -- permitting adds a filter only
  have hpermit : (if s.permit.isEmpty then d else d.permit s.permit).errors = [] →
      (if s.permit.isEmpty then d else d.permit s.permit).Answering := by
    split
    · exact hd
    · exact fun herrors => ⟨(hd herrors).named, (hd herrors).answers⟩
  unfold apply
  refine List.foldlRecOn (motive := fun d : Draft Q => d.errors = [] → d.Answering) s.search _
    (List.foldlRecOn (motive := fun d : Draft Q => d.errors = [] → d.Answering) s.aliases.toList _ hpermit ?_) ?_
  · exact fun d hd a _ => Draft.Answering.generate hd _ _ (RuleBody.rename_answers a.2 _)
  · exact fun d hd e he => SurfaceEntry.apply_answering hd (hfields e he)

theorem apply_matchers_ne_nil (hdeclares : s.aliases.toList ≠ [] ∨ s.search ≠ []) (d : Draft Q) :
    (s.apply d).declarations.matchers ≠ [] := by
  have hentry : ∀ (d : Draft Q) (e : SurfaceEntry), (e.apply d).declarations.matchers ≠ [] := by
    rintro d ⟨kind, fields, field, consume, rank⟩
    cases kind <;> exact Draft.generate_matchers_ne_nil _ _ _ _
  have hfold : ∀ {α : Type} {f : Draft Q → α → Draft Q} (d : Draft Q) (l : List α),
      (∀ d a, (f d a).declarations.matchers ≠ []) → d.declarations.matchers ≠ [] ∨ l ≠ [] →
        (l.foldl f d).declarations.matchers ≠ [] := by
    intro α f d l hf h
    cases l with
    | nil => exact h.resolve_right (fun hne => hne rfl)
    | cons a l =>
      exact List.foldlRecOn (motive := fun d : Draft Q => d.declarations.matchers ≠ []) l f (hf d a)
        fun d _ a _ => hf d a
  exact hfold _ s.search hentry <| hdeclares.imp_left fun h =>
    hfold _ s.aliases.toList (fun _ _ => Draft.generate_matchers_ne_nil _ _ _ _) (.inr h)

/-- **Every search is answered** over a surface that declares something, if no entry that compares terms by their
own field has an empty list of fields. -/
theorem search_answers (hdeclares : s.aliases.toList ≠ [] ∨ s.search ≠ [])
    (hfields : ∀ e ∈ s.search, e.kind = .inFields ∨ e.kind = .specific → e.fields ≠ []) (hd : d.Answering)
    {definition : Definition Q} (hbuild : (s.apply d).build = .ok definition) (scope : Q) (input : String) :
    ∃ q, (⟨definition, scope⟩ : Compiler Q).search input = .ok q := by
  have herrors : (s.apply d).errors = [] := (Draft.build_ok hbuild).1
  have hanswering := apply_answering hfields (fun _ => hd) herrors
  exact Compiler.search_of_answering (hanswering.build (apply_matchers_ne_nil hdeclares d) hbuild) input

/-- A surface with entries of every kind. -/
def library : Surface where
  permit := []
  aliases := .ofList [("by", "author")]
  search :=
    [{ kind := .inFields, fields := ["title", "author"], field := none, consume := false, rank := 0 },
      { kind := .anyOf, fields := [], field := some "about", consume := true, rank := -1 },
      { kind := .allOf, fields := ["title", "notes"], field := none, consume := true, rank := 2 },
      { kind := .specific, fields := ["year"], field := none, consume := true, rank := 1 }]

/-- An odd search of the library. -/
theorem search_answers_library :
    ∃ d, (library.apply (Definition.start : Draft Transcript)).build = .ok d ∧
      ∃ q, (⟨d, ⟨""⟩⟩ : Compiler Transcript).search "by: \"old boar\" or !year:<1990 about:" = .ok q := by
  obtain ⟨d, hbuild, -⟩ := (library.apply_hasStages (Q := Transcript)).build
  exact ⟨d, hbuild, search_answers (.inl (by decide)) (by decide) .start hbuild _ _⟩

/-- A surface that compares terms by their own field among none. -/
def noFields : Surface where
  permit := []
  aliases := .nil
  search := [{ kind := .specific, fields := [], field := none, consume := true, rank := 0 }]

/-- Its only rule runs for terms without a field too, and fails. -/
theorem search_fails_noFields :
    ∃ d, (noFields.apply (Definition.start : Draft Transcript)).build = .ok d ∧
      (⟨d, ⟨""⟩⟩ : Compiler Transcript).search "badger" = .error (.missingField ":eq:badger") := by
  obtain ⟨d, hbuild, hqueries⟩ :=
    build_eq (Q := Transcript) noFields (by unfold RanksFit; decide) (.inr (by decide))
  have hlanguage : d.declarations.language = .simple := by
    rw [(Draft.build_ok hbuild).2.1]
    rfl
  have hparse : Language.simple.parse "badger" =
      { children := [.group [.term (Term.bare "badger")] []], keywords := [] } := by
    have hfirst : Text.dropBlanks "badger".toList = 'b' :: "adger".toList := rfl
    show Group.ofLexemes (lexChars _) = _
    rw [lexChars_of_dropBlanks_cons hfirst, lexChars_of_dropBlanks_nil rfl]
    rfl
  have hterm : noFields.termQueries ⟨""⟩ (Term.bare "badger") =
      (.error (.missingField ":eq:badger") : Except QueryError (List Transcript)) := by
    have hstages : noFields.searchStages =
        [{ fields := .only [], form := .own, consume := true, rank := 0 }] := List.mergeSort_singleton _
    unfold termQueries
    rw [hstages]
    rfl
  refine ⟨d, hbuild, ?_⟩
  unfold Compiler.search Compiler.compile Compiler.compileWith
  rw [show (Compiler.mk d ⟨""⟩).definition = d from rfl, hlanguage, hparse]
  simp only [Compiler.listQueries, Compiler.nodeQueries, hqueries, hterm]
  rfl

end Surface

end Surface

end TermSearch
