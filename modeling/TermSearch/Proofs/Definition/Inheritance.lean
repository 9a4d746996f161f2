import TermSearch.Proofs.Definition.Lineage
import TermSearch.Query.Transcript

/-!
# What a definition inherits

Each level of a chain may give a rule or a condition that it inherits another body. `Lineage.build_inherits` says when a
level is built and what its names stand for then: a rule for the body on the last level that declares it, in whatever
matcher it is named, and a guard for the condition declared last. The names that helpers make up cannot get in the way.
They are numbered through the whole chain (`Lineage.numbered_madeUp`), so none is made up twice, and whoever names rules
in another manner keeps clear of them.
-/

namespace TermSearch

variable {Q : Type}

/-! ## Names that are made up -/

/-- What the names begin with that helpers make up. -/
def Helper.stems : List String := ["alias", "search_in_specific_fields", "search_in_any_of", "search_in_all_of"]

/-- A name as helpers make it up. -/
def IsMadeUp (name : String) : Prop := ∃ stem ∈ Helper.stems, ∃ number, name = numberedName stem number

/-- A name without a `#` is not made up. -/
theorem not_isMadeUp {name : String} (h : '#' ∉ name.toList) : ¬ IsMadeUp name := by
  rintro ⟨stem, -, number, rfl⟩
  exact h (by simp [numberedName, String.toList_append])

/-- The names have the numbers that come after a given one. -/
def Numbered : Nat → List String → Prop
  | _, [] => True
  | given, name :: names =>
    (∃ stem ∈ Helper.stems, name = numberedName stem (given + 1)) ∧ Numbered (given + 1) names

namespace Numbered

variable {given : Nat} {names names' : List String}

theorem append (h : Numbered given names) (h' : Numbered (given + names.length) names') :
    Numbered given (names ++ names') := by
  induction names generalizing given with
  | nil => exact h'
  | cons name names ih =>
    refine ⟨h.1, ih h.2 ?_⟩
    rwa [Nat.add_right_comm]

theorem exists_number (h : Numbered given names) :
    ∀ name ∈ names, ∃ stem ∈ Helper.stems, ∃ number, given < number ∧ name = numberedName stem number := by
  induction names generalizing given with
  | nil => exact nofun
  | cons name names ih =>
    obtain ⟨⟨stem, hstem, heq⟩, hrest⟩ := h
    refine List.forall_mem_cons.mpr ⟨⟨stem, hstem, given + 1, by omega, heq⟩, fun other hother => ?_⟩
    obtain ⟨stem', hstem', number, hlt, heq'⟩ := ih hrest other hother
    exact ⟨stem', hstem', number, by omega, heq'⟩

theorem isMadeUp (h : Numbered given names) : ∀ name ∈ names, IsMadeUp name := by
  intro name hname
  obtain ⟨stem, hstem, number, -, heq⟩ := h.exists_number name hname
  exact ⟨stem, hstem, number, heq⟩

/-- **No name is made up twice.** -/
theorem nodup (h : Numbered given names) : names.Nodup := by
  induction names generalizing given with
  | nil => exact List.nodup_nil
  | cons name names ih =>
    obtain ⟨⟨stem, -, heq⟩, hrest⟩ := h
    refine List.nodup_cons.mpr ⟨fun hmem => ?_, ih hrest⟩
    obtain ⟨stem', -, number, hlt, heq'⟩ := hrest.exists_number name hmem
    have hnumber := number_eq_of_numberedName_eq (heq.symm.trans heq')
    omega

end Numbered

/-! ## Rules of a level -/

/-- The name of the rule that is declared by name. -/
def Declaration.ruleName? : Declaration Q → Option String
  | .rule name _ => some name
  | _ => none

section Levels

variable [Query Q]

theorem Declaration.stem_mem_of_mem_helpers {a : Declaration Q} {h : Helper Q} (hmem : h ∈ a.helpers) :
    h.stem ∈ Helper.stems := by
  cases a <;> simp [helpers] at hmem
  · simp [hmem, Helper.stems]
  · simp [hmem, helpers.specific, Helper.stems]
  · simp [hmem, helpers.anyOf, Helper.stems]
  · simp [hmem, Helper.stems]
  · rcases hmem with rfl | rfl <;> simp [helpers.specific, helpers.anyOf, Helper.stems]

omit [Query Q] in
theorem Content.numbered_ofHelpers (given : Nat) {hs : List (Helper Q)} (hstems : ∀ h ∈ hs, h.stem ∈ Helper.stems) :
    Numbered given ((ofHelpers given hs).madeUp.map Prod.fst) := by
  induction hs generalizing given with
  | nil => trivial
  | cons h hs ih =>
    rw [List.forall_mem_cons] at hstems
    exact ⟨⟨h.stem, hstems.1, rfl⟩, ih (given + 1) hstems.2⟩

theorem Content.madeUp_content (given : Nat) (a : Declaration Q) :
    (a.content given).madeUp = (ofHelpers given a.helpers).madeUp := by
  cases a <;> rfl

theorem Content.numbered_ofLevel (given : Nat) (level : List (Declaration Q)) :
    Numbered given ((ofLevel given level).madeUp.map Prod.fst) := by
  induction level generalizing given with
  | nil => trivial
  | cons a level ih =>
    have hfirst := numbered_ofHelpers given fun h => a.stem_mem_of_mem_helpers (h := h)
    have hlength := Draft.length_madeUp_content given a
    rw [← madeUp_content] at hfirst
    have hrest := ih (given + a.helpers.length)
    rw [← hlength, ← List.length_map Prod.fst] at hrest
    have happend := hfirst.append hrest
    rw [← List.map_append, List.length_map, hlength] at happend
    exact happend

/-- The rules of a level are those declared by name and those of helpers. -/
theorem Content.rules_perm (given : Nat) (level : List (Declaration Q)) :
    ((ofLevel given level).rules.map Prod.fst).Perm
      (level.filterMap Declaration.ruleName? ++ (ofLevel given level).madeUp.map Prod.fst) := by
  induction level generalizing given with
  | nil => exact .nil
  | cons a level ih =>
    have hfirst : (a.content given).rules.map Prod.fst =
        a.ruleName?.toList ++ (a.content given).madeUp.map Prod.fst := by
      cases a <;> rfl
    have hperm := List.Perm.append (.of_eq hfirst) (ih (given + a.helpers.length))
    rw [← List.map_append] at hperm
    refine hperm.trans (List.perm_iff_count.mpr fun name => ?_)
    have hnames : (a :: level).filterMap Declaration.ruleName? =
        a.ruleName?.toList ++ level.filterMap Declaration.ruleName? := by
      rw [List.filterMap_cons]
      cases a.ruleName? <;> rfl
    rw [hnames, show (ofLevel given (a :: level)).madeUp =
      (a.content given).madeUp ++ (ofLevel (given + a.helpers.length) level).madeUp from rfl, List.map_append]
    simp only [List.count_append]
    omega

theorem Content.mem_of_mem_rules {given : Nat} {level : List (Declaration Q)} {r : String × RuleBody Q}
    (h : r ∈ (ofLevel given level).rules) : r ∈ (ofLevel given level).madeUp ∨ Declaration.rule r.1 r.2 ∈ level := by
  have hfirst : ∀ a : Declaration Q, ∀ given, r ∈ (a.content given).rules →
      r ∈ (a.content given).madeUp ∨ Declaration.rule r.1 r.2 = a := by
    intro a given hmem
    cases a with
    | rule name body =>
      rw [List.mem_singleton.mp hmem]
      exact .inr rfl
    | _ => exact .inl hmem
  induction level generalizing given with
  | nil => cases h
  | cons a level ih =>
    rcases List.mem_append.mp h with h | h
    · refine (hfirst a given h).imp (List.mem_append_left _) fun heq => ?_
      rw [heq]
      exact List.mem_cons_self
    · exact (ih h).imp (List.mem_append_right _) (List.mem_cons_of_mem a)

theorem Content.madeUp_subset_rules {given : Nat} {level : List (Declaration Q)} :
    (ofLevel given level).madeUp ⊆ (ofLevel given level).rules := by
  have hfirst : ∀ a : Declaration Q, ∀ given, (a.content given).madeUp ⊆ (a.content given).rules := by
    intro a given
    cases a <;> simp [Declaration.content, Content.empty, ofHelpers, Content.append, Declaration.helpers]
  induction level generalizing given with
  | nil => exact List.nil_subset _
  | cons a level ih =>
    exact List.append_subset.mpr
      ⟨List.subset_append_of_subset_left _ (hfirst a given), List.subset_append_of_subset_right _ ih⟩

end Levels

/-! ## Rules of a chain -/

namespace Lineage

variable [Query Q] {l : Lineage Q}

/-- **Names are numbered through the whole chain.** -/
theorem numbered_madeUp (l : Lineage Q) : Numbered 0 (l.madeUp.map Prod.fst) := by
  induction l with
  | root level =>
    rw [madeUp, contents, List.flatMap_singleton]
    exact Content.numbered_ofLevel 0 level
  | extend parent level ih =>
    rw [madeUp, contents, List.flatMap_append, List.flatMap_singleton, List.map_append]
    refine ih.append ?_
    rw [List.length_map, Nat.zero_add]
    exact Content.numbered_ofLevel _ level

theorem mem_of_mem_rules {r : String × RuleBody Q} (h : r ∈ l.rules) :
    r ∈ l.madeUp ∨ ∃ level ∈ l.levels, Declaration.rule r.1 r.2 ∈ level := by
  induction l with
  | root level =>
    rw [rules, contents, List.flatMap_singleton] at h
    rw [madeUp, contents, List.flatMap_singleton, levels]
    exact (Content.mem_of_mem_rules h).imp_right fun hmem => ⟨level, List.mem_singleton.mpr rfl, hmem⟩
  | extend parent level ih =>
    rw [rules, contents, List.flatMap_append, List.flatMap_singleton] at h
    rw [madeUp, contents, List.flatMap_append, List.flatMap_singleton, levels]
    rcases List.mem_append.mp h with h | h
    · refine (ih h).imp (List.mem_append_left _) ?_
      rintro ⟨level', hlevel', hmem⟩
      exact ⟨level', List.mem_append_left _ hlevel', hmem⟩
    · exact (Content.mem_of_mem_rules h).imp (List.mem_append_right _) fun hmem =>
        ⟨level, List.mem_append_right _ (List.mem_singleton.mpr rfl), hmem⟩

theorem madeUp_subset_rules (l : Lineage Q) : l.madeUp ⊆ l.rules := by
  have hcontents : ∀ c ∈ l.contents, c.madeUp ⊆ c.rules := by
    induction l with
    | root level => exact List.forall_mem_singleton.mpr Content.madeUp_subset_rules
    | extend parent level ih =>
      exact List.forall_mem_append.mpr ⟨ih, List.forall_mem_singleton.mpr Content.madeUp_subset_rules⟩
  intro r hr
  obtain ⟨c, hc, hr⟩ := List.mem_flatMap.mp hr
  exact List.mem_flatMap.mpr ⟨c, hc, hcontents c hc hr⟩

/-- No rule that is declared by name has a name as helpers make it up. -/
def NamesApart (l : Lineage Q) : Prop :=
  ∀ level ∈ l.levels, ∀ name ∈ level.filterMap Declaration.ruleName?, ¬ IsMadeUp name

/-- **The rule of a helper is the only one of its name.** -/
theorem lastGiven_madeUp (hnames : l.NamesApart) {r : String × RuleBody Q} (hr : r ∈ l.madeUp) :
    KeyMap.LastGiven l.rules r.1 r.2 := by
  obtain ⟨body, hlast⟩ := KeyMap.exists_lastGiven (List.mem_map_of_mem (l.madeUp_subset_rules hr))
  have hmem : (r.1, body) ∈ l.rules := by
    obtain ⟨before, after, heq, -⟩ := hlast
    rw [heq]
    exact List.mem_append_right _ List.mem_cons_self
  rcases mem_of_mem_rules hmem with hmadeUp | ⟨level, hlevel, hrule⟩
  · have heq := List.inj_on_of_nodup_map (numbered_madeUp l).nodup hmadeUp hr rfl
    rwa [show body = r.2 from congrArg Prod.snd heq] at hlast
  · exact absurd ((numbered_madeUp l).isMadeUp r.1 (List.mem_map_of_mem hr))
      (hnames level hlevel r.1 (List.mem_filterMap.mpr ⟨_, hrule, rfl⟩))

/-! ## The definition of a chain -/

/-- What the names of a definition stand for. -/
structure Gives (l : Lineage Q) (d : Definition Q) : Prop where
  /-- A rule has the body that it has on the last level that declares it. -/
  rules : ∀ before c after, l.contents = before ++ c :: after → ∀ name body, (name, body) ∈ c.rules →
    (∀ later ∈ after, name ∉ later.rules.map Prod.fst) → d.declarations.rules.get? name = some body
  undeclared : ∀ name, name ∉ l.rules.map Prod.fst → d.declarations.rules.get? name = none
  /-- The matchers of all levels run these rules, and their guards are the conditions declared last. -/
  matchers : ∃ resolved, List.Forall₂ l.Resolves l.matchers resolved ∧
    d.matchers = resolved.mergeSort fun a b => decide (a.rank ≤ b.rank)
  /-- The rule of a helper has the body that the helper has given it. -/
  madeUp : ∀ r ∈ l.madeUp, d.declarations.rules.get? r.1 = some r.2

theorem gives_of_build (hnames : l.NamesApart) {d : Definition Q} (h : l.build = .ok d) : l.Gives d := by
  obtain ⟨hdeclared, hnodup⟩ := declaredBy_of_build h
  have hget : ∀ name body, KeyMap.LastGiven l.rules name body → d.declarations.rules.get? name = some body := by
    intro name body hlast
    rw [hdeclared.rules]
    exact KeyMap.get?_ofList_eq_some_iff.mpr hlast
  refine ⟨fun before c after hsplit name body hmem hlater => hget name body ?_, fun name hname => ?_,
    matchers_of_build h, fun r hr => hget r.1 r.2 (lastGiven_madeUp hnames hr)⟩
  · have hrules : l.rules = before.flatMap Content.rules ++ (c.rules ++ after.flatMap Content.rules) := by
      rw [Lineage.rules, hsplit, List.flatMap_append, List.flatMap_cons]
    have hlast := KeyMap.lastGiven_of_mem (hnodup c (by rw [hsplit]; simp)) hmem
    rw [hrules]
    refine hlast.append (fun hmem => ?_) _
    obtain ⟨r, hr, hname⟩ := List.mem_map.mp hmem
    obtain ⟨later, hlate, hr⟩ := List.mem_flatMap.mp hr
    exact hlater later hlate (List.mem_map.mpr ⟨r, hr, hname⟩)
  · cases hfound : d.declarations.rules.get? name with
    | none => rfl
    | some body =>
      rw [hdeclared.rules] at hfound
      obtain ⟨before, after, heq, -⟩ := KeyMap.get?_ofList_eq_some_iff.mp hfound
      refine absurd ?_ hname
      rw [Lineage.rules, heq]
      simp

/-- A guard that names no condition, or one that is declared. -/
def GuardDeclared (l : Lineage Q) (guard : Option (Guard Q)) : Prop :=
  ∀ name, guard = some (.named name) → name ∈ l.conditions.map Prod.fst

theorem exists_guardMeans_iff {guard : Option (Guard Q)} :
    (∃ test, GuardMeans l.conditions guard test) ↔ l.GuardDeclared guard := by
  constructor
  · rintro ⟨test, h⟩ name rfl
    cases h with
    | named hlast =>
      obtain ⟨before, after, heq, -⟩ := hlast
      rw [heq]
      simp
  · intro h
    rcases guard with _ | ⟨name⟩ | test
    · exact ⟨_, .none⟩
    · obtain ⟨test, hlast⟩ := KeyMap.exists_lastGiven (h name rfl)
      exact ⟨_, .named hlast⟩
    · exact ⟨_, .inline test⟩

theorem exists_resolves_iff {spec : PendingMatcher Q} :
    (∃ m, l.Resolves spec m) ↔
      spec.rule ∈ l.rules.map Prod.fst ∧ l.GuardDeclared spec.options.onlyIf ∧
        l.GuardDeclared spec.options.exceptIf := by
  rw [← exists_guardMeans_iff, ← exists_guardMeans_iff]
  constructor
  · rintro ⟨m, h⟩
    exact ⟨h.declared, ⟨_, h.onlyIf⟩, ⟨_, h.exceptIf⟩⟩
  · rintro ⟨hrule, ⟨onlyIf, honlyIf⟩, ⟨exceptIf, hexceptIf⟩⟩
    exact ⟨{ rule := spec.rule, rank := spec.options.rank, fields := spec.options.fields, onlyIf, exceptIf },
      hrule, rfl, rfl, rfl, honlyIf, hexceptIf⟩

omit [Query Q] in
theorem level_mem_levels (l : Lineage Q) : l.level ∈ l.levels := by
  cases l with
  | root level => exact List.mem_singleton.mpr rfl
  | extend parent level => exact List.mem_append_right _ (List.mem_singleton.mpr rfl)

/-- Rules that helpers add are never declared twice. -/
theorem nodup_rules_iff (hnames : l.NamesApart) (given : Nat) :
    ((Content.ofLevel given l.level).rules.map Prod.fst).Nodup ↔
      (l.level.filterMap Declaration.ruleName?).Nodup := by
  have hnumbered := Content.numbered_ofLevel given l.level
  rw [(Content.rules_perm given l.level).nodup_iff, List.nodup_append]
  refine ⟨fun h => h.1, fun h => ⟨h, hnumbered.nodup, fun name hname other hother heq => ?_⟩⟩
  exact hnames l.level l.level_mem_levels name hname (heq ▸ hnumbered.isMadeUp other hother)

/-- **A chain inherits consistently.** Its last level is built exactly if it declares no rule twice and each matcher of
the chain names a rule, and in its guards conditions, that some level declares. Helpers make up no name twice. And in
what is built each name stands for what was declared under it last, whichever level names it. -/
theorem build_inherits (l : Lineage Q) (hparent : ∀ parent ∈ l.parent?, ∃ d, parent.build = .ok d)
    (hnames : l.NamesApart) :
    ((∃ d, l.build = .ok d) ↔
      (l.level.filterMap Declaration.ruleName?).Nodup ∧
        ∀ spec ∈ l.matchers, spec.rule ∈ l.rules.map Prod.fst ∧
          l.GuardDeclared spec.options.onlyIf ∧ l.GuardDeclared spec.options.exceptIf) ∧
      (l.madeUp.map Prod.fst).Nodup ∧ ∀ d, l.build = .ok d → l.Gives d := by
  refine ⟨?_, (numbered_madeUp l).nodup, fun d => gives_of_build hnames⟩
  obtain ⟨draft, before, hopens⟩ := exists_opensOn hparent
  simp only [← exists_resolves_iff]
  rw [← nodup_rules_iff hnames draft.declarations.generated, ← exists_forall₂_iff]
  constructor
  · rintro ⟨d, hbuild⟩
    obtain ⟨hnodup, -, resolved, hresolved, -⟩ := hopens.build_eq_ok_iff.mp hbuild
    exact ⟨hnodup, resolved, hresolved⟩
  · rintro ⟨hnodup, resolved, hresolved⟩
    exact ⟨⟨_, _⟩, hopens.build_eq_ok_iff.mpr ⟨hnodup, rfl, resolved, hresolved, rfl⟩⟩

end Lineage

/-! ## A chain of two levels -/

namespace Lineage

/-- A rule that makes a remark. -/
def remark (text : String) : RuleBody Transcript := .ofSteps [fun _ _ => .build (.method (TranscriptMethod.note text))]

/-- Terms with a short value. -/
def isShort : GuardTest Transcript := fun _ v => decide (v.term.value.length < 4)

/-- Terms with a long value. -/
def isLong : GuardTest Transcript := fun _ v => decide (10 < v.term.value.length)

/-- A definition with a rule for terms of a certain kind. -/
def wood : Lineage Transcript :=
  .root [.rename "by" "author", .condition "fitting" isShort, .rule "generic" (remark "wood"),
    .matcher "generic" { onlyIf := some (.named "fitting") }]

/-- The same with another rule for terms of another kind. -/
def thicket : Lineage Transcript :=
  .extend wood [.rule "generic" (remark "thicket"), .searchIn ["title"] {}, .condition "fitting" isLong]

/-- The matcher that is inherited runs the new rule under the new condition, and the rules of helpers are numbered
through both levels. -/
theorem build_inherits_thicket :
    ∃ d, thicket.build = .ok d ∧ d.declarations.rules.get? "generic" = some (remark "thicket") ∧
      d.declarations.rules.get? "alias#1" = some (.rename "author") ∧
      (∃ m ∈ d.matchers, m.rule = "generic" ∧ m.onlyIf = some isLong) ∧
      thicket.madeUp.map Prod.fst = ["alias#1", "search_in_specific_fields#2", "search_in_any_of#3"] := by
  have hgeneric : ¬ IsMadeUp "generic" := not_isMadeUp (by decide)
  have hfitting : ∀ l : Lineage Transcript, "fitting" ∈ l.conditions.map Prod.fst →
      l.GuardDeclared (some (.named "fitting")) := by
    rintro l hmem _ ⟨⟩
    exact hmem
  have hwood : ∃ d, wood.build = .ok d := by
    refine (build_inherits wood nofun ?_).1.mpr ⟨by decide, ?_⟩
    · simpa [NamesApart, wood, levels, Declaration.ruleName?] using hgeneric
    · show ∀ spec ∈ [PendingMatcher.mk "alias#1" _, PendingMatcher.mk "generic" _], _
      simp only [List.forall_mem_cons]
      exact ⟨⟨by decide, nofun, nofun⟩, ⟨by decide, hfitting wood (by decide), nofun⟩, nofun⟩
  obtain ⟨hiff, -, hgives⟩ := build_inherits thicket (by rintro _ ⟨⟩; exact hwood)
    (by simpa [NamesApart, thicket, wood, levels, Declaration.ruleName?] using hgeneric)
  obtain ⟨d, hbuild⟩ := hiff.mpr ⟨by decide, by
    show ∀ spec ∈ [PendingMatcher.mk "alias#1" _, PendingMatcher.mk "generic" _,
      PendingMatcher.mk "search_in_specific_fields#2" _, PendingMatcher.mk "search_in_any_of#3" _], _
    simp only [List.forall_mem_cons]
    exact ⟨⟨by decide, nofun, nofun⟩, ⟨by decide, hfitting thicket (by decide), nofun⟩,
      ⟨by decide, nofun, nofun⟩, ⟨by decide, nofun, nofun⟩, nofun⟩⟩
  have hgiven := hgives d hbuild
  refine ⟨d, hbuild, ?_, hgiven.madeUp ("alias#1", .rename "author") List.mem_cons_self, ?_, by decide⟩
  · exact hgiven.rules wood.contents _ [] rfl "generic" _ List.mem_cons_self nofun
  · obtain ⟨resolved, hresolved, hsort⟩ := hgiven.matchers
    change List.Forall₂ _ [_, PendingMatcher.mk "generic" { onlyIf := some (.named "fitting") }, _, _] _ at hresolved
    obtain ⟨m₁, ms, -, hrest, rfl⟩ := List.forall₂_cons_left_iff.mp hresolved
    obtain ⟨m, ms, hm, -, rfl⟩ := List.forall₂_cons_left_iff.mp hrest
    refine ⟨m, by rw [hsort]; exact List.mem_mergeSort.mpr (by simp), hm.rule, ?_⟩
    have honlyIf := guardTest_eq_ok_iff.mpr hm.onlyIf
    exact (Except.ok.inj honlyIf).symm

end Lineage

end TermSearch
