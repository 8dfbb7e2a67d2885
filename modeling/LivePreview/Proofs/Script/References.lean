import LivePreview.Script.References
import LivePreview.Script.Sources

/-!
# The sources of a module

A visit of a module gives new texts to the references that no declaration exported by name holds,
one after another in the order of the text, and changes nothing else. So the texts are like the
values of a list: a module is built from them, and a visit of the module in any monad is a visit of
the list.

## Main definitions

* `LivePreview.Script.Holed`: a tree that is built from the texts of its references.

## Main results

* `LivePreview.Script.Program.sources_eq_reached`: the sources of a module.
* `LivePreview.Script.Program.references_withSources`: the references with other sources.
* `LivePreview.Script.Program.withSources_withSources`: other sources change nothing else.
-/

namespace LivePreview.Script

open Reference

/-! ### Trees as lists of texts -/

section MapM

variable {σ : Type} (f : String → StateM σ String)

theorem mapM_append_apply (l l' : List String) (s : σ) :
    (l ++ l').mapM f s =
      ((l.mapM f s).1 ++ (l'.mapM f (l.mapM f s).2).1, (l'.mapM f (l.mapM f s).2).2) := by
  rw [List.mapM_append]
  rfl

theorem length_mapM : (l : List String) → (s : σ) → (l.mapM f s).1.length = l.length
  | [], _ => rfl
  | source :: l, s => by
      rw [List.mapM_cons]
      exact congrArg (· + 1) (length_mapM l (f source s).2)

end MapM

/-- A visit of trees of some kind. -/
abbrev Visit (α : Type) : Type 1 := ∀ σ : Type, (String → StateM σ String) → α → StateM σ α

/-- A tree is built from the texts of the references that a visit reaches: with other texts it is a
tree with these references, and a visit of it is a visit of the list of its texts. -/
def Holed {α : Type} (visit : Visit α) (refs : α → List Reference) (x : α) : Prop :=
  ∃ build : List String → α, build (reached (refs x)) = x ∧
    ∀ l, l.length = (reached (refs x)).length → refs (build l) = refill (refs x) l ∧
      ∀ σ (f : String → StateM σ String) s,
        visit σ f (build l) s = (build (l.mapM f s).1, (l.mapM f s).2)

section Holed

variable {α β γ : Type} {visit : Visit α} {visit' : Visit β} {visit'' : Visit γ}
  {refs : α → List Reference} {refs' : β → List Reference} {refs'' : γ → List Reference}

/-- A tree is built from no texts if a visit leaves it as it is. -/
theorem Holed.const (x : α) (hvisit : ∀ σ f s, visit σ f x s = (x, s))
    (hrefs : ∀ r ∈ refs x, r.inside = true) : Holed visit refs x := by
  have hreached : reached (refs x) = [] := by
    rw [reached, List.filter_eq_nil_iff.2 fun r hr => by simp [hrefs r hr], List.map_nil]
  refine ⟨fun _ => x, rfl, fun l hl => ⟨(refill_of_forall_inside hrefs l).symm, fun σ f s => ?_⟩⟩
  rw [hreached, List.length_nil] at hl
  obtain rfl := List.eq_nil_of_length_eq_zero hl
  exact hvisit σ f s

/-- A tree around another one is built from the same texts. -/
theorem Holed.map (c : α → β) {x : α} (h : Holed visit refs x)
    (hvisit : ∀ x σ f s, visit' σ f (c x) s = (c (visit σ f x s).1, (visit σ f x s).2))
    (hrefs : ∀ x, refs' (c x) = refs x) : Holed visit' refs' (c x) := by
  obtain ⟨build, hbuild, hl⟩ := h
  refine ⟨fun l => c (build l), by simp only [hrefs, hbuild], fun l hlength => ?_⟩
  rw [hrefs] at hlength
  obtain ⟨hrefill, hmap⟩ := hl l hlength
  exact ⟨by rw [hrefs, hrefs, hrefill], fun σ f s => by simp only [hvisit, hmap σ f s]⟩

/-- A tree of two parts is built from the texts of the first before those of the second. -/
theorem Holed.map₂ (c : α → β → γ) {x : α} {y : β} (hx : Holed visit refs x)
    (hy : Holed visit' refs' y)
    (hvisit : ∀ x y σ f s, visit'' σ f (c x y) s =
      (c (visit σ f x s).1 (visit' σ f y (visit σ f x s).2).1, (visit' σ f y (visit σ f x s).2).2))
    (hrefs : ∀ x y, refs'' (c x y) = refs x ++ refs' y) : Holed visit'' refs'' (c x y) := by
  obtain ⟨build, hbuild, hl⟩ := hx
  obtain ⟨build', hbuild', hl'⟩ := hy
  let n := (reached (refs x)).length
  refine ⟨fun l => c (build (l.take n)) (build' (l.drop n)), by simp [hrefs, n, hbuild, hbuild'],
    fun l hlength => ?_⟩
  rw [hrefs, reached_append, List.length_append] at hlength
  have htake : (l.take n).length = n := by
    rw [List.length_take]
    omega
  have hdrop : (l.drop n).length = (reached (refs' y)).length := by
    rw [List.length_drop]
    omega
  obtain ⟨hrefill, hmap⟩ := hl _ htake
  obtain ⟨hrefill', hmap'⟩ := hl' _ hdrop
  refine ⟨?_, fun σ f s => ?_⟩
  · rw [hrefs, hrefs, hrefill, hrefill', ← refill_append htake, List.take_append_drop]
  · have happend := mapM_append_apply f (l.take n) (l.drop n) s
    rw [List.take_append_drop] at happend
    have hn : ((l.take n).mapM f s).1.length = n := (length_mapM f _ s).trans htake
    simp only [hvisit, hmap σ f s, hmap' σ f _, happend, List.take_left' hn, List.drop_left' hn]

/-- Two trees, visited one after the other. -/
theorem Holed.pair {x : α} {y : β} (hx : Holed visit refs x) (hy : Holed visit' refs' y) :
    Holed (fun σ f p => do return (← visit σ f p.1, ← visit' σ f p.2))
      (fun p => refs p.1 ++ refs' p.2) (x, y) :=
  hx.map₂ Prod.mk hy (fun _ _ _ _ _ => rfl) fun _ _ => rfl

end Holed

/-! ### Trees of a module -/

/-- A text is built from itself. -/
theorem StringValue.holed (value : StringValue) :
    Holed (fun _ => StringValue.mapSource) (fun value => [value.reference]) value := by
  refine ⟨fun l => { value with text := l.headD value.text }, rfl, fun l hl => ?_⟩
  obtain ⟨source, rfl⟩ := List.length_eq_one_iff.1 hl
  exact ⟨rfl, fun _ _ _ => rfl⟩

mutual

/-- An expression is built from its texts. -/
theorem Expr.holed : (e : Expr) → Holed (fun _ => Expr.mapSources) Expr.references e
  | .template tag texts values =>
    .map₂ (Expr.template · texts ·) tag.holed (holedOf values) (fun _ _ _ _ _ => rfl) fun _ _ => rfl
  | .array items => .map Expr.array (holedOf items) (fun _ _ _ _ => rfl) fun _ => rfl
  | .object comments members =>
    .map (Expr.object comments) (holedOfMembers members) (fun _ _ _ _ => rfl) fun _ => rfl
  | .function isAsync isGenerator name params body =>
    .map₂ (Expr.function isAsync isGenerator name) (holedOf params) (holedOfBody body)
      (fun _ _ _ _ _ => rfl) fun _ _ => rfl
  | .arrow isAsync params value =>
    .map₂ (Expr.arrow isAsync) (holedOf params) value.holed (fun _ _ _ _ _ => rfl) fun _ _ => rfl
  | .arrowBlock isAsync params body =>
    .map₂ (Expr.arrowBlock isAsync) (holedOf params) (holedOfBody body)
      (fun _ _ _ _ _ => rfl) fun _ _ => rfl
  | .classOf name base members =>
    .map₂ (Expr.classOf name) base.holed (holedOfMembers members)
      (fun _ _ _ _ _ => rfl) fun _ _ => rfl
  | .unary op operand => .map (Expr.unary op) operand.holed (fun _ _ _ _ => rfl) fun _ => rfl
  | .update op before operand =>
    .map (Expr.update op before) operand.holed (fun _ _ _ _ => rfl) fun _ => rfl
  | .binary op left right =>
    .map₂ (Expr.binary op) left.holed right.holed (fun _ _ _ _ _ => rfl) fun _ _ => rfl
  | .assign op target value =>
    .map₂ (Expr.assign op) target.holed value.holed (fun _ _ _ _ _ => rfl) fun _ _ => rfl
  | .conditional test yes no =>
    .map₂ (fun p no => Expr.conditional p.1 p.2 no) (test.holed.pair yes.holed) no.holed
      (fun _ _ _ _ _ => rfl) fun _ _ => rfl
  | .sequence items => .map Expr.sequence (holedOf items) (fun _ _ _ _ => rfl) fun _ => rfl
  | .member object name optional =>
    .map (Expr.member · name optional) object.holed (fun _ _ _ _ => rfl) fun _ => rfl
  | .index object key optional =>
    .map₂ (Expr.index · · optional) object.holed key.holed (fun _ _ _ _ _ => rfl) fun _ _ => rfl
  | .call callee args optional =>
    .map₂ (Expr.call · · optional) callee.holed (holedOf args) (fun _ _ _ _ _ => rfl) fun _ _ => rfl
  | .construct callee args =>
    .map₂ Expr.construct callee.holed (holedOf args) (fun _ _ _ _ _ => rfl) fun _ _ => rfl
  | .chain e => .map Expr.chain e.holed (fun _ _ _ _ => rfl) fun _ => rfl
  | .paren e => .map Expr.paren e.holed (fun _ _ _ _ => rfl) fun _ => rfl
  | .spread e => .map Expr.spread e.holed (fun _ _ _ _ => rfl) fun _ => rfl
  | .yield delegate value =>
    .map (Expr.yield delegate) value.holed (fun _ _ _ _ => rfl) fun _ => rfl
  | .importCall phase args =>
    .map (Expr.importCall phase) (holedOf args) (fun _ _ _ _ => rfl) fun _ => rfl
  | .element tag attributes children remarks =>
    .map₂ (fun p children => Expr.element p.1 p.2 children remarks)
      (tag.holed.pair (holedOfMembers attributes)) (holedOf children)
      (fun _ _ _ _ _ => rfl) fun _ _ => rfl
  | .fragment children remarks =>
    .map (Expr.fragment · remarks) (holedOf children) (fun _ _ _ _ => rfl) fun _ => rfl
  | .cast leads e => .map (Expr.cast leads) e.holed (fun _ _ _ _ => rfl) fun _ => rfl
  | .decorated decorators e =>
    .map₂ Expr.decorated (holedOf decorators) e.holed (fun _ _ _ _ _ => rfl) fun _ _ => rfl
  | .noted comments e => .map (Expr.noted comments) e.holed (fun _ _ _ _ => rfl) fun _ => rfl
  | .pureCall e => .map Expr.pureCall e.holed (fun _ _ _ _ => rfl) fun _ => rfl
  | .pureFunction e => .map Expr.pureFunction e.holed (fun _ _ _ _ => rfl) fun _ => rfl
  | .absent => .const _ (fun _ _ _ => rfl) (by simp [Expr.references])
  | .name _ => .const _ (fun _ _ _ => rfl) (by simp [Expr.references])
  | .keyword _ => .const _ (fun _ _ _ => rfl) (by simp [Expr.references])
  | .number _ => .const _ (fun _ _ _ => rfl) (by simp [Expr.references])
  | .bigint _ => .const _ (fun _ _ _ => rfl) (by simp [Expr.references])
  | .string _ => .const _ (fun _ _ _ => rfl) (by simp [Expr.references])
  | .regex _ => .const _ (fun _ _ _ => rfl) (by simp [Expr.references])
  | .namespaced _ _ => .const _ (fun _ _ _ => rfl) (by simp [Expr.references])

/-- Expressions are built from their texts. -/
theorem holedOf : (l : List Expr) → Holed (fun _ => mapSourcesOf) referencesOf l
  | [] => .const [] (fun _ _ _ => rfl) (by simp [referencesOf])
  | e :: l => .map₂ List.cons e.holed (holedOf l) (fun _ _ _ _ _ => rfl) fun _ _ => rfl

/-- Members are built from their texts. -/
theorem holedOfMembers : (l : List Member) →
    Holed (fun _ => mapSourcesOfMembers) referencesOfMembers l
  | [] => .const [] (fun _ _ _ => rfl) (by simp [referencesOfMembers])
  | member :: l =>
    .map₂ List.cons member.holed (holedOfMembers l) (fun _ _ _ _ _ => rfl) fun _ _ => rfl

/-- A member is built from its texts. -/
theorem Member.holed : (member : Member) →
    Holed (fun _ => Member.mapSources) Member.references member
  | .mk comments decorators isStatic kind computed key value =>
    .map₂ (fun p value => Member.mk comments p.1 isStatic kind computed p.2 value)
      ((holedOf decorators).pair key.holed) value.holed (fun _ _ _ _ _ => rfl) fun _ _ => rfl

/-- A statement is built from its texts. -/
theorem Stmt.holed : (s : Stmt) → Holed (fun _ => Stmt.mapSources) Stmt.references s
  | .commented comments s =>
    .map (Stmt.commented comments) s.holed (fun _ _ _ _ => rfl) fun _ => rfl
  | .expr e => .map Stmt.expr e.holed (fun _ _ _ _ => rfl) fun _ => rfl
  | .declaration e => .map Stmt.declaration e.holed (fun _ _ _ _ => rfl) fun _ => rfl
  | .bindings kind declarators =>
    .map (Stmt.bindings kind) (holedOf declarators) (fun _ _ _ _ => rfl) fun _ => rfl
  | .block body => .map Stmt.block (holedOfBody body) (fun _ _ _ _ => rfl) fun _ => rfl
  | .ifThen test yes =>
    .map₂ Stmt.ifThen test.holed yes.holed (fun _ _ _ _ _ => rfl) fun _ _ => rfl
  | .ifElse test yes no =>
    .map₂ (fun p no => Stmt.ifElse p.1 p.2 no) (test.holed.pair yes.holed) no.holed
      (fun _ _ _ _ _ => rfl) fun _ _ => rfl
  | .forLoop start test step body =>
    .map₂ (fun p body => Stmt.forLoop p.1.1 p.1.2 p.2 body)
      ((start.holed.pair test.holed).pair step.holed) body.holed
      (fun _ _ _ _ _ => rfl) fun _ _ => rfl
  | .forEach isAwait left link range body =>
    .map₂ (fun p body => Stmt.forEach isAwait p.1 link p.2 body) (left.holed.pair range.holed)
      body.holed (fun _ _ _ _ _ => rfl) fun _ _ => rfl
  | .headed word head body =>
    .map₂ (Stmt.headed word) head.holed body.holed (fun _ _ _ _ _ => rfl) fun _ _ => rfl
  | .doLoop body test =>
    .map₂ Stmt.doLoop body.holed test.holed (fun _ _ _ _ _ => rfl) fun _ _ => rfl
  | .jump word value => .map (Stmt.jump word) value.holed (fun _ _ _ _ => rfl) fun _ => rfl
  | .labeled label body => .map (Stmt.labeled label) body.holed (fun _ _ _ _ => rfl) fun _ => rfl
  | .switch subject clauses =>
    .map₂ Stmt.switch subject.holed (holedOfClauses clauses) (fun _ _ _ _ _ => rfl) fun _ _ => rfl
  | .attempt body clauses =>
    .map₂ Stmt.attempt (holedOfBody body) (holedOfClauses clauses)
      (fun _ _ _ _ _ => rfl) fun _ _ => rfl
  | .enumeration name members remarks =>
    .map (Stmt.enumeration name · remarks) (holedOfMembers members) (fun _ _ _ _ => rfl)
      fun _ => rfl
  | .space word name body =>
    .map (Stmt.space word name) (holedOfBody body) (fun _ _ _ _ => rfl) fun _ => rfl
  | .alias name target => .map (Stmt.alias name) target.holed (fun _ _ _ _ => rfl) fun _ => rfl
  | .outside body => .map Stmt.outside (holedOfBody body) (fun _ _ _ _ => rfl) fun _ => rfl
  | .erased isAmbient values types body =>
    .map (Stmt.erased isAmbient values types) (holedOfBody body) (fun _ _ _ _ => rfl) fun _ => rfl
  | .importFrom phase bindings source attributes =>
    .map (Stmt.importFrom phase bindings · attributes) source.holed (fun _ _ _ _ => rfl)
      fun _ => rfl
  | .exportFrom specifiers source attributes =>
    .map (Stmt.exportFrom specifiers · attributes) source.holed (fun _ _ _ _ => rfl) fun _ => rfl
  | .exportAll name source attributes =>
    .map (Stmt.exportAll name · attributes) source.holed (fun _ _ _ _ => rfl) fun _ => rfl
  -- A visit passes over what is exported by name, and so over all that stands in it.
  | .exportDeclaration true s =>
    .const _ (fun _ _ _ => rfl) (by simp [Stmt.references, Reference.enclosed])
  | .exportDeclaration false s =>
    .map (Stmt.exportDeclaration false) s.holed (fun _ _ _ _ => rfl) fun _ => rfl
  | .exportDefault declares e =>
    .map (Stmt.exportDefault declares) e.holed (fun _ _ _ _ => rfl) fun _ => rfl
  | .exportValue e => .map Stmt.exportValue e.holed (fun _ _ _ _ => rfl) fun _ => rfl
  | .typesOnly types (some source) =>
    .map (fun source => Stmt.typesOnly types (some source)) source.holed (fun _ _ _ _ => rfl)
      fun _ => rfl
  | .empty => .const _ (fun _ _ _ => rfl) (by simp [Stmt.references])
  | .remarks _ => .const _ (fun _ _ _ => rfl) (by simp [Stmt.references])
  | .directive _ => .const _ (fun _ _ _ => rfl) (by simp [Stmt.references])
  | .exit _ _ => .const _ (fun _ _ _ => rfl) (by simp [Stmt.references])
  | .typeDeclaration _ _ => .const _ (fun _ _ _ => rfl) (by simp [Stmt.references])
  | .ambient _ => .const _ (fun _ _ _ => rfl) (by simp [Stmt.references])
  | .exportNames _ => .const _ (fun _ _ _ => rfl) (by simp [Stmt.references])
  | .typesOnly _ none => .const _ (fun _ _ _ => rfl) (by simp [Stmt.references])

/-- Statements are built from their texts. -/
theorem holedOfBody : (l : List Stmt) → Holed (fun _ => mapSourcesOfBody) referencesOfBody l
  | [] => .const [] (fun _ _ _ => rfl) (by simp [referencesOfBody])
  | s :: l => .map₂ List.cons s.holed (holedOfBody l) (fun _ _ _ _ _ => rfl) fun _ _ => rfl

/-- Clauses are built from their texts. -/
theorem holedOfClauses : (l : List Clause) →
    Holed (fun _ => mapSourcesOfClauses) referencesOfClauses l
  | [] => .const [] (fun _ _ _ => rfl) (by simp [referencesOfClauses])
  | c :: l => .map₂ List.cons c.holed (holedOfClauses l) (fun _ _ _ _ _ => rfl) fun _ _ => rfl

/-- A clause is built from its texts. -/
theorem Clause.holed : (c : Clause) → Holed (fun _ => Clause.mapSources) Clause.references c
  | .case value body =>
    .map₂ Clause.case value.holed (holedOfBody body) (fun _ _ _ _ _ => rfl) fun _ _ => rfl
  | .default body => .map Clause.default (holedOfBody body) (fun _ _ _ _ => rfl) fun _ => rfl
  | .handler comments param inner body =>
    .map₂ (Clause.handler comments · inner ·) param.holed (holedOfBody body)
      (fun _ _ _ _ _ => rfl) fun _ _ => rfl
  | .finalizer body => .map Clause.finalizer (holedOfBody body) (fun _ _ _ _ => rfl) fun _ => rfl

end

/-! ### Modules -/

namespace Program

theorem mapM_collect : (l found : List String) → l.mapM collect found = (l, found ++ l)
  | [], found => by
      rw [List.append_nil]
      rfl
  | source :: l, found => by
      have hl := mapM_collect l (found ++ [source])
      rw [List.append_assoc, List.singleton_append] at hl
      rw [List.mapM_cons]
      exact congrArg (fun r => (source :: r.1, r.2)) hl

theorem mapM_replace : {l given : List String} → given.length = l.length →
    l.mapM replace given = (given, [])
  | [], [], _ => rfl
  | source :: l, new :: given, h => by
      rw [List.mapM_cons]
      exact congrArg (fun r => (new :: r.1, r.2)) (mapM_replace (Nat.succ.inj h))

variable {p : Program} {l l' : List String}

/-- The sources of a module are the texts of the references outside of declarations that are
exported by name. -/
theorem sources_eq_reached (p : Program) : p.sources = reached p.references := by
  obtain ⟨build, hbuild, hl⟩ := holedOfBody p.body
  have hvisit := (hl _ rfl).2 _ collect []
  rw [hbuild, mapM_collect] at hvisit
  exact congrArg Prod.snd hvisit

/-- A module is built from its sources, and with other sources from those. -/
theorem exists_build (p : Program) : ∃ build : List String → Program, build p.sources = p ∧
    ∀ l, l.length = p.sources.length → (build l).references = refill p.references l ∧
      ∀ l', l'.length = l.length → (build l).withSources l' = build l' := by
  obtain ⟨build, hbuild, hl⟩ := holedOfBody p.body
  have hsources : p.sources = reached (referencesOfBody p.body) := sources_eq_reached p
  refine ⟨fun l => { p with body := build l }, by simp only [hsources, hbuild],
    fun l hlength => ?_⟩
  obtain ⟨hrefill, hvisit⟩ := hl l (hsources ▸ hlength)
  refine ⟨hrefill, fun l' hlength' => ?_⟩
  have hreplace := hvisit _ replace l'
  rw [mapM_replace hlength'] at hreplace
  exact congrArg (fun r => { p with body := r.1 }) hreplace

/-- With other sources a module has the same references with these texts. -/
theorem references_withSources (h : l.length = p.sources.length) :
    (p.withSources l).references = refill p.references l := by
  obtain ⟨build, hbuild, hl⟩ := exists_build p
  have hwith := (hl _ rfl).2 l h
  rw [hbuild] at hwith
  rw [hwith, (hl l h).1]

/-- The sources given last are those that a module has: other sources change nothing else. -/
theorem withSources_withSources (h : l.length = p.sources.length)
    (h' : l'.length = p.sources.length) :
    (p.withSources l).withSources l' = p.withSources l' := by
  obtain ⟨build, hbuild, hl⟩ := exists_build p
  have hwith := (hl _ rfl).2
  rw [hbuild] at hwith
  rw [hwith l h, hwith l' h', (hl l h).2 l' (h'.trans h.symm)]

/-- With its own sources a module is as it was. -/
theorem withSources_sources (p : Program) : p.withSources p.sources = p := by
  obtain ⟨build, hbuild, hl⟩ := exists_build p
  have hwith := (hl _ rfl).2 _ rfl
  rwa [hbuild] at hwith

end Program

end LivePreview.Script
