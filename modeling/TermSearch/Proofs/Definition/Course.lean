import TermSearch.Definition.Compiler

/-!
# The course of a term through the matchers

The compiler only answers with the queries that rules built. Its course keeps the rest: which matchers were tried,
and what each of them saw (`Compiler.course`). The matchers of the course that accept what they see are those whose
rules run (`Compiler.applications`), and the answer of the compiler is what these rules build
(`Compiler.runMatchers_eq`, `Compiler.termQueries_ok`). A tree adds no failure to those of its terms
(`Compiler.compile_ok_iff`).
-/

namespace TermSearch

namespace Compiler

variable {Q : Type} {c : Compiler Q} {calls : Calls Q}

/-- The matchers that are tried for a term, each with the visit it finds: one after the other, until the term is
settled or a rule fails. -/
def course (c : Compiler Q) (calls : Calls Q) : List (Matcher Q) → Visit → List (Matcher Q × Visit)
  | [], _ => []
  | m :: rest, v =>
    if v.isSettled then []
    else
      (m, v) ::
        if !m.accepts c.scope v then course c calls rest v
        else
          match c.runRuleWith calls m.rule v with
          | (.error _, _) => []
          | (.ok _, v') => course c calls rest v'

/-- The runs of rules for a term: the matchers that accept the visit they find. -/
def applications (c : Compiler Q) (calls : Calls Q) (ms : List (Matcher Q)) (v : Visit) : List (Matcher Q × Visit) :=
  (c.course calls ms v).filter fun e => e.1.accepts c.scope e.2

/-- What a rule builds for the visit that its matcher finds. -/
def built (c : Compiler Q) (calls : Calls Q) (e : Matcher Q × Visit) : Except QueryError (Option Q) :=
  (c.runRuleWith calls e.1.rule e.2).1

/-- The matchers of the definition that are tried for a term: none if a filter refuses it. -/
def termCourse (c : Compiler Q) (calls : Calls Q) (t : Term) : List (Matcher Q × Visit) :=
  if c.definition.declarations.filters.all (· (.start t)) then c.course calls c.definition.matchers (.start t)
  else []

/-- The runs of rules of the definition for a term. -/
def termApplications (c : Compiler Q) (calls : Calls Q) (t : Term) : List (Matcher Q × Visit) :=
  (c.termCourse calls t).filter fun e => e.1.accepts c.scope e.2

/-! ## Along the course -/

/-- No matcher is passed over. -/
theorem course_isPrefix (ms : List (Matcher Q)) (v : Visit) : (c.course calls ms v).map Prod.fst <+: ms := by
  induction ms generalizing v with
  | nil => exact List.prefix_rfl
  | cons m rest ih =>
    unfold course
    split
    · exact List.nil_prefix
    · refine (List.prefix_cons_inj m).mpr ?_
      split
      · exact ih v
      · split
        · exact List.nil_prefix
        · exact ih _

theorem mem_of_mem_course {ms : List (Matcher Q)} {v : Visit} {e : Matcher Q × Visit}
    (h : e ∈ c.course calls ms v) : e.1 ∈ ms :=
  (course_isPrefix ms v).subset (List.mem_map_of_mem h)

/-- No matcher is tried on a settled term, and what every run of a rule leaves alone, every matcher finds. -/
theorem course_forall {P : Visit → Prop} {ms : List (Matcher Q)} {v : Visit} (hv : P v)
    (hrun : ∀ m ∈ ms, ∀ v v' built, v.isSettled = false → c.runRuleWith calls m.rule v = (.ok built, v') →
      P v → P v') :
    ∀ e ∈ c.course calls ms v, e.2.isSettled = false ∧ P e.2 := by
  induction ms generalizing v with
  | nil =>
    intro e he
    cases he
  | cons m rest ih =>
    rw [List.forall_mem_cons] at hrun
    unfold course
    by_cases hsettled : v.isSettled = true
    · rw [if_pos hsettled]
      intro e he
      cases he
    have hopen : v.isSettled = false := by simpa using hsettled
    rw [if_neg hsettled, List.forall_mem_cons]
    refine ⟨⟨hopen, hv⟩, ?_⟩
    by_cases haccepts : m.accepts c.scope v = true
    · rw [if_neg (by simp [haccepts])]
      rcases hrule : c.runRuleWith calls m.rule v with ⟨_ | built, v'⟩
      · intro e he
        cases he
      · exact ih (hrun.1 v v' built hopen hrule hv) hrun.2
    · rw [if_pos (by simp [haccepts])]
      exact ih hv hrun.2

/-- No matcher is tried on a settled term. -/
theorem open_of_mem_course {ms : List (Matcher Q)} {v : Visit} {e : Matcher Q × Visit}
    (h : e ∈ c.course calls ms v) : e.2.isSettled = false :=
  (course_forall (P := fun _ => True) trivial (fun _ _ _ _ _ _ _ _ => trivial) e h).1

/-! ## What the course builds -/

theorem applications_cons (m : Matcher Q) (rest : List (Matcher Q)) {v : Visit} (hopen : v.isSettled = false) :
    c.applications calls (m :: rest) v =
      if m.accepts c.scope v then
        (m, v) :: match c.runRuleWith calls m.rule v with
          | (.error _, _) => []
          | (.ok _, v') => c.applications calls rest v'
      else c.applications calls rest v := by
  unfold applications
  rw [course, if_neg (by simp [hopen]), List.filter_cons]
  by_cases haccepts : m.accepts c.scope v = true
  · rw [if_pos haccepts, if_pos haccepts, if_neg (by simp [haccepts])]
    rcases c.runRuleWith calls m.rule v with ⟨_ | built, v'⟩ <;> rfl
  · rw [if_neg haccepts, if_neg haccepts, if_pos (by simp [haccepts])]

theorem applications_of_settled {ms : List (Matcher Q)} {v : Visit} (h : v.isSettled = true) :
    c.applications calls ms v = [] := by
  unfold applications
  cases ms with
  | nil => rfl
  | cons m rest => rw [course, if_pos h, List.filter_nil]

/-- **The compiler answers with what the rules of the course build**, or with the first failure among them. -/
theorem runMatchers_eq (ms : List (Matcher Q)) (v : Visit) :
    c.runMatchers calls ms v = ((c.applications calls ms v).mapM (c.built calls)).map List.reduceOption := by
  induction ms generalizing v with
  | nil => rfl
  | cons m rest ih =>
    rw [runMatchers]
    by_cases hsettled : v.isSettled = true
    · rw [if_pos hsettled, applications_of_settled hsettled]
      rfl
    rw [if_neg hsettled, applications_cons m rest (by simpa using hsettled)]
    by_cases haccepts : m.accepts c.scope v = true
    · rw [if_neg (by simp [haccepts]), if_pos haccepts, List.mapM_cons]
      unfold built
      rcases hrule : c.runRuleWith calls m.rule v with ⟨cause | built, v'⟩
      · rfl
      · simp only [ih v']
        show _ = Except.map _ (((c.applications calls rest v').mapM (c.built calls)).map (built :: ·))
        cases (c.applications calls rest v').mapM (c.built calls) with
        | error cause => rfl
        | ok more => cases built <;> rfl
    · rw [if_pos (by simp [haccepts]), if_neg haccepts, ih v]

/-- **The queries of a term** are those that its runs of rules build. -/
theorem termQueries_ok {t : Term} {queries : List Q} (h : c.termQueries calls t = .ok queries) :
    ∃ builts, (c.termApplications calls t).mapM (c.built calls) = .ok builts ∧ queries = builts.reduceOption := by
  unfold termQueries at h
  unfold termApplications termCourse
  split at h
  · cases h
  split at h
  · next hfilters =>
    rw [if_pos hfilters]
    rw [runMatchers_eq] at h
    change ∃ builts, (c.applications calls c.definition.matchers (.start t)).mapM (c.built calls) = .ok builts ∧ _
    cases hbuilts : (c.applications calls c.definition.matchers (.start t)).mapM (c.built calls) with
    | error cause =>
      rw [hbuilts] at h
      cases h
    | ok builts =>
      rw [hbuilts] at h
      cases h
      exact ⟨builts, rfl, rfl⟩
  · next hfilters =>
    rw [if_neg hfilters]
    cases h
    exact ⟨[], rfl, rfl⟩

/-! ## Trees -/

variable [Query Q]

mutual

theorem nodeQueries_ok_iff (calls : Calls Q) :
    ∀ node : Node, (∃ queries, c.nodeQueries calls node = .ok queries) ↔
      ∀ t ∈ node.terms, ∃ queries, c.termQueries calls t = .ok queries
  | .term t => by rw [nodeQueries, Node.terms, List.forall_mem_singleton]
  | .group children keywords => by
    rw [nodeQueries, Node.terms, ← listQueries_ok_iff calls children]
    cases c.listQueries calls children with
    | error cause => exact ⟨nofun, nofun⟩
    | ok built => exact ⟨fun _ => ⟨_, rfl⟩, fun _ => ⟨_, rfl⟩⟩

/-- **Nodes are answered exactly if each of their terms is.** -/
theorem listQueries_ok_iff (calls : Calls Q) :
    ∀ nodes : List Node, (∃ queries, c.listQueries calls nodes = .ok queries) ↔
      ∀ t ∈ Node.listTerms nodes, ∃ queries, c.termQueries calls t = .ok queries
  | [] => by
    rw [listQueries, Node.listTerms]
    exact ⟨fun _ => nofun, fun _ => ⟨_, rfl⟩⟩
  | node :: nodes => by
    rw [listQueries, Node.listTerms, List.forall_mem_append, ← nodeQueries_ok_iff calls node,
      ← listQueries_ok_iff calls nodes]
    cases c.nodeQueries calls node with
    | error cause => exact ⟨nofun, fun h => nomatch h.1⟩
    | ok built =>
      cases c.listQueries calls nodes with
      | error cause => exact ⟨nofun, fun h => nomatch h.2⟩
      | ok more => exact ⟨fun _ => ⟨⟨_, rfl⟩, ⟨_, rfl⟩⟩, fun _ => ⟨_, rfl⟩⟩

end

/-- **A tree is compiled exactly if each of its terms is answered.** -/
theorem compile_ok_iff {root : Group} :
    (∃ q, c.compile root = .ok q) ↔ ∀ t ∈ root.terms, ∃ queries, c.queriesFor t = .ok queries := by
  refine Iff.trans ?_ (listQueries_ok_iff (c.calls maxDepth) root.children)
  unfold compile compileWith
  cases c.listQueries (c.calls maxDepth) root.children with
  | error cause => exact ⟨nofun, nofun⟩
  | ok built => exact ⟨fun _ => ⟨_, rfl⟩, fun _ => ⟨_, rfl⟩⟩

end Compiler

end TermSearch
