import Registrar.Proofs.Registration.Entering
import Registrar.Proofs.Registration.Forms

/-! # What modules store

Statements of the forms the scan knows store what the scan finds: a call of an entry point that
names its key by a literal, the application of the decorator it returns, and a definition with one
such decorator. All that the surroundings carry out stores nothing, so that modules store their
registrations in the order of their statements.
-/

namespace Registrar

open Session Run Registration

/-- Surroundings that store nothing in a container. They are only asked of what modules contain, so
that it does not matter what they make of anything else. -/
structure Surroundings.Quiet (index : Nat) (surroundings : Surroundings) : Prop where
  value : ∀ expression, Run.Quiet index (surroundings.value expression)
  spread : ∀ expression, Run.Quiet index (surroundings.spread expression)
  spreadNames : ∀ expression, Run.Quiet index (surroundings.spreadNames expression)
  define : ∀ statement, Run.Quiet index (surroundings.define statement)
  decorate : ∀ decorator value, Run.Quiet index (surroundings.decorate decorator value)
  conclude : ∀ statement value, Run.Quiet index (surroundings.conclude statement value)
  other : ∀ statement, Run.Quiet index (surroundings.other statement)

namespace EntryCall

/-- The values of an argument: a literal has its text, and only an unpacked argument may have more
or less than one. -/
structure Spells (argument : Source.Expr) (values : List Value) : Prop where
  literal : ∀ text, literal? argument = some text → values = [.text text]
  single : (∀ inner, argument ≠ .starred inner) → values.length = 1

/-- The names and values of a keyword. -/
structure Names (keyword : Option String × Source.Expr) (values : List (String × Value)) :
    Prop where
  literal : ∀ name text, keyword.1 = some name → literal? keyword.2 = some text →
    values = [(name, .text text)]
  single : keyword.1.isSome → values.length = 1

theorem exists_of_forall₂ {α β : Type} {relation : α → β → Prop} {elements : List α}
    {others : List β} (h : List.Forall₂ relation elements others) {element : α}
    (hmem : element ∈ elements) : ∃ other ∈ others, relation element other := by
  induction h with
  | nil => cases hmem
  | cons hfirst _ ih =>
    rcases List.mem_cons.mp hmem with rfl | hmem
    · exact ⟨_, List.mem_cons_self, hfirst⟩
    · obtain ⟨other, hother, hrelation⟩ := ih hmem
      exact ⟨other, List.mem_cons_of_mem _ hother, hrelation⟩

theorem length_flatten_of_forall₂ {α β : Type} {relation : α → List β → Prop} {elements : List α}
    {others : List (List β)} (h : List.Forall₂ relation elements others)
    (hsingle : ∀ element ∈ elements, ∀ other, relation element other → other.length = 1) :
    others.flatten.length = elements.length := by
  induction h with
  | nil => rfl
  | cons hfirst _ ih =>
    obtain ⟨hone, hrest⟩ := List.forall_mem_cons.mp hsingle
    rw [List.flatten_cons, List.length_append, hone _ hfirst, ih hrest, List.length_cons,
      Nat.add_comm]

variable {key : String} {entry : EntryCall} {positions : List (List Value)}
  {names : List (List (String × Value))}

theorem Keyed.givesKey (h : entry.Keyed key)
    (hpositions : List.Forall₂ Spells entry.arguments positions)
    (hnames : List.Forall₂ Names entry.keywords names) :
    GivesKey key positions.flatten names.flatten := by
  obtain ⟨expression, hexpression, hliteral⟩ := Option.bind_eq_some_iff.mp h.literal
  unfold keyExpression? at hexpression
  generalize entry.arguments = arguments at hpositions hexpression
  cases hpositions with
  | cons hfirst _ =>
    cases hexpression
    rw [hfirst.literal key hliteral]
    exact .inl rfl
  | nil =>
    obtain ⟨front, back, hkeywords, -⟩ := List.lookup_eq_some_iff.mp hexpression
    obtain ⟨values, hvalues, hspelled⟩ := exists_of_forall₂ hnames
      (hkeywords ▸ List.mem_append_right front List.mem_cons_self)
    refine .inr ⟨rfl, List.mem_flatten.mpr ⟨values, hvalues, ?_⟩⟩
    rw [hspelled.literal "name" key rfl hliteral]
    exact List.mem_cons_self

theorem Open.length_flatten (h : entry.Open)
    (hpositions : List.Forall₂ Spells entry.arguments positions)
    (hnames : List.Forall₂ Names entry.keywords names) :
    positions.flatten.length + names.flatten.length = 2 := by
  rw [length_flatten_of_forall₂ hpositions fun argument hmem _ hspells =>
      hspells.single (h.positions argument hmem),
    length_flatten_of_forall₂ hnames fun keyword hmem _ hspells =>
      hspells.single (h.names keyword hmem), h.count]

end EntryCall

namespace Surroundings

variable {index : Nat} {surroundings : Surroundings} {before : Session} {kind : ItemKind}
  {key : String} {entry : EntryCall}

/-- Applying a decorator that an entry point returned stores an item. -/
theorem call_gives {decorator : Value} (hready : before.Ready index)
    (hpends : EntryCall.Pends index kind key decorator before) (positions : List Value)
    (names : List (String × Value)) :
    Gives index before (Run.call decorator positions names) fun value after entries =>
      after.objects.metadata? value = some (kind, key) ∧ entries = [(key, kind)] := by
  obtain ⟨registration, hobject, rfl, hentry, hname⟩ := hpends
  change Gives registration.container before
    (Run.callOnce (Run.callWithin 999) decorator positions names) _
  have hread : Gives registration.container before (Run.object? decorator) fun found _ entries =>
      entries = [] ∧ found = some (.pending registration) :=
    gives_of_eq hready (Run.object?_apply decorator before) ⟨rfl, hobject⟩
  unfold Run.callOnce
  refine hread.bind_of_nil fun found after hafter _ hfound => ?_
  subst hfound
  dsimp only
  split
  · exact complete_gives hafter hentry hname _
  · exact gives_throw _

section

variable (hquiet : surroundings.Quiet index)
include hquiet

theorem operand_gives (argument : Source.Expr) (hready : before.Ready index) :
    Gives index before (surroundings.operand argument) fun value _ entries =>
      entries = [] ∧ ∀ text, literal? argument = some text → value = .text text := by
  unfold operand
  split
  · next text htext =>
    refine gives_pure hready ⟨rfl, fun other hother => ?_⟩
    rw [Option.some.inj (htext.symm.trans hother)]
  · next hnone =>
    refine (hquiet.value argument before hready).mono fun value after entries hentries => ?_
    refine ⟨hentries, fun text htext => ?_⟩
    rw [hnone] at htext
    cases htext

theorem positions_gives (argument : Source.Expr) (hready : before.Ready index) :
    Gives index before (surroundings.positions argument) fun values _ entries =>
      entries = [] ∧ EntryCall.Spells argument values := by
  unfold positions
  split
  · next inner =>
    refine (hquiet.spread inner before hready).mono fun values after entries hentries => ?_
    exact ⟨hentries, nofun, fun h => absurd rfl (h inner)⟩
  · refine (operand_gives hquiet argument hready).bind_of_nil fun value after hafter _ hvalue => ?_
    refine gives_pure hafter ⟨rfl, fun text htext => ?_, fun _ => rfl⟩
    rw [hvalue text htext]

theorem names_gives (keyword : Option String × Source.Expr) (hready : before.Ready index) :
    Gives index before (surroundings.names keyword) fun values _ entries =>
      entries = [] ∧ EntryCall.Names keyword values := by
  unfold names
  split
  · next argument =>
    refine (hquiet.spreadNames argument before hready).mono fun values after entries hentries => ?_
    exact ⟨hentries, nofun, nofun⟩
  · next name argument =>
    refine (operand_gives hquiet argument hready).bind_of_nil fun value after hafter _ hvalue => ?_
    refine gives_pure hafter ⟨rfl, fun other text hother htext => ?_, fun _ => rfl⟩
    cases hother
    rw [hvalue text htext]

theorem reach_quiet (callee : Source.Expr) : Run.Quiet index (surroundings.reach callee) := by
  unfold reach
  split
  · exact (hquiet.value _).bind fun _ => quiet_pure _
  · exact quiet_pure _

/-- A call of an entry point with a key returns a decorator for it, or an item under it. -/
theorem perform_gives (hready : before.Ready index) (hkey : entry.Keyed key) :
    Gives index before (surroundings.perform index entry) fun value after entries =>
      (EntryCall.Pends index entry.kind key value after ∧ entries = []) ∨
        (¬entry.Open ∧ after.objects.metadata? value = some (entry.kind, key) ∧
          entries = [(key, entry.kind)]) := by
  unfold perform
  refine (reach_quiet hquiet entry.callee).gives_bind hready fun _ reached hreached _ => ?_
  refine (gives_mapM (fun argument _ before => positions_gives hquiet argument)
    hreached).bind_of_nil fun positions taken htaken _ hpositions => ?_
  refine (gives_mapM (fun keyword _ before => names_gives hquiet keyword)
    htaken).bind_of_nil fun names named hnamed _ hnames => ?_
  have hentered : EntryCall.Entered index entry.kind key _
      (EntryCall.enter index entry.kind positions.flatten names.flatten) :=
    EntryCall.enter_entered (hkey.givesKey hpositions hnames)
  refine (hentered.gives hnamed).mono fun value after entries h => ?_
  rcases h with h | ⟨hgiven, h⟩
  · exact .inl h
  · exact .inr ⟨fun hopen => hgiven ⟨hopen.kind, hopen.length_flatten hpositions hnames⟩, h⟩

/-- A call that leaves the implementation to its decorator returns that. -/
theorem perform_of_open (hready : before.Ready index) (hkey : entry.Keyed key)
    (hopen : entry.Open) :
    Gives index before (surroundings.perform index entry) fun value after entries =>
      entries = [] ∧ EntryCall.Pends index entry.kind key value after :=
  (perform_gives hquiet hready hkey).mono fun _ _ _ h =>
    (h.resolve_right fun hgiven => hgiven.1 hopen).symm

end

end Surroundings

namespace Surroundings

variable {index : Nat} {surroundings : Surroundings} {before : Session} {kind : ItemKind}
  {key : String} {expression : Source.Expr}

theorem evaluate_of_isPlain (h : IsPlain expression) :
    surroundings.evaluate index expression = surroundings.value expression := by
  unfold evaluate
  rw [h.ofExpr?_eq]
  cases expression with
  | call line callee arguments keywords =>
    dsimp only
    rw [(isPlain_call_iff.mp h).2]
  | _ => rfl

theorem labels_gives (expression : Source.Expr) (value : Value) (hready : before.Ready index) :
    Gives index before (labels expression value) fun labels after entries =>
      entries = [] ∧ after = before ∧ labels =
        if (valueCall? .usual none expression).isSome then [before.objects.metadata? value]
        else [] :=
  gives_of_eq hready rfl ⟨rfl, rfl, rfl⟩

variable (hquiet : surroundings.Quiet index)
include hquiet

/-- An expression that registers has an item for its value, or none that could be told. -/
theorem evaluate_gives (hready : before.Ready index) (h : Registers key kind expression) :
    Gives index before (surroundings.evaluate index expression) fun value after entries =>
      after.objects.metadata? value = none ∨ entries = [(key, kind)] := by
  cases h with
  | @direct _ entry hentry hkind hkeyed =>
    unfold evaluate
    rw [hentry]
    refine (perform_gives hquiet hready hkeyed).mono fun value after entries h => ?_
    subst hkind
    rcases h with ⟨⟨registration, hobject, -⟩, -⟩ | ⟨-, -, hentries⟩
    · left
      rw [Store.metadata?_eq, hobject]
      rfl
    · exact .inr hentries
  | @applied line callee arguments keywords entry hentry hkind hkeyed hopen =>
    have hother : EntryCall.ofExpr? (.call line callee arguments keywords) = none := by
      cases callee with
      | call => rfl
      | _ => cases hentry
    unfold evaluate
    rw [hother]
    dsimp only
    rw [hentry]
    subst hkind
    refine (perform_of_open hquiet hready hkeyed hopen).bind_of_nil
      fun decorator after hafter _ hpends => ?_
    refine (gives_mapM (fun argument _ before => positions_gives hquiet argument)
      hafter).bind_of_nil fun positions taken htaken hstores _ => ?_
    have hpends := hpends.of_stores hstores
    refine (gives_mapM (fun keyword _ before => names_gives hquiet keyword)
      htaken).bind_of_nil fun names named hnamed hstores _ => ?_
    refine (call_gives hnamed (hpends.of_stores hstores) _ _).mono fun value after entries h => ?_
    exact .inr h.2

theorem decorated_of_plain {define : Run Value} {decorators : List Source.Expr}
    (hready : before.Ready index) (hdefine : Run.Quiet index define)
    (h : ∀ decorator ∈ decorators, IsPlain decorator) :
    Gives index before (surroundings.decorated index define decorators) fun made _ entries =>
      entries = [] ∧ made.2 = [] := by
  induction decorators generalizing before with
  | nil =>
    refine hdefine.gives_bind hready fun value after hafter _ => ?_
    exact gives_pure hafter ⟨rfl, rfl⟩
  | cons expression rest ih =>
    obtain ⟨hplain, hrest⟩ := List.forall_mem_cons.mp h
    unfold decorated
    rw [evaluate_of_isPlain hplain, hplain.ofExpr?_eq]
    refine (hquiet.value expression).gives_bind hready fun decorator after hafter _ => ?_
    refine (ih hafter hrest).bind_of_nil fun made last hlast _ hlabels => ?_
    refine (hquiet.decorate decorator made.1).gives_bind hlast fun value final hfinal _ => ?_
    exact gives_pure hfinal ⟨rfl, hlabels⟩

/-- A definition with one decorator that registers stores its item. -/
theorem decorated_gives {define : Run Value} {decorators : List Source.Expr}
    (hready : before.Ready index) (hdefine : Run.Quiet index define)
    (h : Decorates key kind decorators) :
    Gives index before (surroundings.decorated index define decorators) fun _ _ entries =>
      entries = [(key, kind)] := by
  induction h generalizing before with
  | @here expression rest entry hentry hkind hkeyed hopen hplain =>
    subst hkind
    unfold decorated evaluate
    rw [hentry]
    dsimp only
    refine (perform_of_open hquiet hready hkeyed hopen).bind_of_nil
      fun decorator after hafter _ hpends => ?_
    refine (decorated_of_plain hquiet hafter hdefine hplain).bind_of_nil
      fun made last hlast hstores _ => ?_
    refine (call_gives hlast (hpends.of_stores hstores) _ _).bind
      fun item final entries hfinal _ ⟨_, hentries⟩ => ?_
    subst hentries
    exact gives_of_eq hfinal rfl rfl
  | @under expression rest hplain _ ih =>
    unfold decorated
    rw [evaluate_of_isPlain hplain, hplain.ofExpr?_eq]
    refine (hquiet.value expression).gives_bind hready fun decorator after hafter _ => ?_
    refine (ih hafter).bind fun made last entries hlast _ hentries => ?_
    subst hentries
    refine (hquiet.decorate decorator made.1).gives_bind hlast fun value final hfinal _ => ?_
    exact gives_pure hfinal rfl

/-- What is done with the value of a statement's expression. -/
theorem conclude_gives {value : Value} (statement : Source.Stmt) (hready : before.Ready index) :
    Gives index before (do
      let labels ← labels expression value
      surroundings.conclude statement value
      return labels) fun labels _ entries => entries = [] ∧ labels =
        if (valueCall? .usual none expression).isSome then [before.objects.metadata? value]
        else [] := by
  refine (labels_gives expression value hready).bind_of_nil
    fun labels after hafter _ ⟨hsame, hlabels⟩ => ?_
  subst hsame
  refine (hquiet.conclude statement value).gives_bind hafter fun _ last hlast _ => ?_
  exact gives_pure hlast ⟨rfl, hlabels⟩

/-- The value of a statement that registers is an item, or it is told that it is none. -/
theorem value_gives (statement : Source.Stmt) (hready : before.Ready index)
    (h : Registers key kind expression) :
    Gives index before (do
      let result ← surroundings.evaluate index expression
      let labels ← labels expression result
      surroundings.conclude statement result
      return labels) fun labels _ entries => none ∉ labels → entries = [(key, kind)] := by
  refine (evaluate_gives hquiet hready h).bind fun value after entries hafter _ hvalue => ?_
  refine (conclude_gives hquiet statement hafter).mono
    fun labels last more ⟨hmore, hlabels⟩ hnone => ?_
  rw [if_pos (h.valueCall?_isSome none)] at hlabels
  rw [hmore, List.append_nil]
  refine hvalue.resolve_left fun hlabel => hnone ?_
  rw [hlabels, hlabel]
  exact List.mem_singleton_self _

theorem value_of_isPlain (statement : Source.Stmt) (hready : before.Ready index)
    (h : IsPlain expression) :
    Gives index before (do
      let result ← surroundings.evaluate index expression
      let labels ← labels expression result
      surroundings.conclude statement result
      return labels) fun labels _ entries => entries = [] ∧ labels = [] := by
  rw [evaluate_of_isPlain h]
  refine (hquiet.value expression).gives_bind hready fun value after hafter _ => ?_
  refine (conclude_gives hquiet statement hafter).mono fun labels last more ⟨hmore, hlabels⟩ => ?_
  rw [h] at hlabels
  exact ⟨hmore, hlabels⟩

/-- A definition is carried out as its decorators are. -/
theorem definition_gives {statement : Source.Stmt} {decorators : List Source.Expr}
    {property : List Label → List (String × ItemKind) → Prop}
    (h : Gives index before
      (surroundings.decorated index (surroundings.define statement) decorators)
      fun made _ entries => property made.2 entries) :
    Gives index before (do
      let (result, labels) ← surroundings.decorated index (surroundings.define statement) decorators
      surroundings.conclude statement result
      return labels) fun labels _ entries => property labels entries := by
  refine h.bind fun made after entries hafter _ hmade => ?_
  refine (hquiet.conclude statement made.1).gives_bind hafter fun _ last hlast _ => ?_
  refine gives_pure hlast ?_
  rwa [List.append_nil]

theorem carryOut_of_idle {statement : Source.Stmt} (hready : before.Ready index)
    (h : Idle statement) :
    Gives index before (surroundings.carryOut index statement) fun labels _ entries =>
      entries = [] ∧ labels = [] := by
  cases statement with
  | assign targets value =>
    obtain ⟨symbol, hcalls⟩ := calls_assign targets value
    exact value_of_isPlain hquiet _ hready (isPlain_of_toList (hcalls.symm.trans h))
  | annAssign target hint value =>
    cases value with
    | none =>
      exact (hquiet.other _).gives_bind hready fun _ _ hlast _ => gives_pure hlast ⟨rfl, rfl⟩
    | some value => exact value_of_isPlain hquiet _ hready (isPlain_of_toList h)
  | evaluate value => exact value_of_isPlain hquiet _ hready (isPlain_of_toList h)
  | functionDef isAsync name parameters decorators returns body =>
    exact definition_gives hquiet (decorated_of_plain hquiet hready (hquiet.define _) h)
  | classDef name bases keywords decorators body =>
    exact definition_gives hquiet (decorated_of_plain hquiet hready (hquiet.define _) h)
  | _ => exact (hquiet.other _).gives_bind hready fun _ _ hlast _ => gives_pure hlast ⟨rfl, rfl⟩

/-- A statement that registers stores its item, if it is told to have one. -/
theorem carryOut_gives {statement : Source.Stmt} (hready : before.Ready index)
    (h : Declares key kind statement) :
    Gives index before (surroundings.carryOut index statement) fun labels _ entries =>
      none ∉ labels → entries = [(key, kind)] := by
  cases h with
  | assign targets hvalue => exact value_gives hquiet _ hready hvalue
  | annAssign target hint hvalue => exact value_gives hquiet _ hready hvalue
  | evaluate hvalue => exact value_gives hquiet _ hready hvalue
  | functionDef isAsync name parameters returns body hdecorators =>
    refine definition_gives hquiet ((decorated_gives hquiet hready (hquiet.define _)
      hdecorators).mono fun made after entries hentries _ => hentries)
  | classDef name bases keywords body hdecorators =>
    refine definition_gives hquiet ((decorated_gives hquiet hready (hquiet.define _)
      hdecorators).mono fun made after entries hentries _ => hentries)

/-- Modules store what their statements register, in order, if all of it is told to be items. -/
theorem execute_gives {modules : List Source.Module} {declared : List (String × ItemKind)}
    (hready : before.Ready index) (h : Declared modules.flatten declared) :
    Gives index before (surroundings.execute index modules) fun labels _ entries =>
      none ∉ labels → entries = declared := by
  have hstatements : Gives index before (modules.flatten.mapM (surroundings.carryOut index))
      fun labels _ entries => none ∉ labels.flatten → entries = declared := by
    generalize modules.flatten = statements at h
    induction h generalizing before with
    | nil => exact gives_pure hready fun _ => rfl
    | idle hidle _ ih =>
      rw [List.mapM_cons]
      refine (carryOut_of_idle hquiet hready hidle).bind_of_nil
        fun labels after hafter _ hlabels => ?_
      refine (ih hafter).bind fun more last others hlast _ hothers => ?_
      refine gives_pure hlast fun hnone => ?_
      rw [hlabels, List.flatten_cons, List.nil_append] at hnone
      rw [List.append_nil, hothers hnone]
    | declares hdeclares _ ih =>
      rw [List.mapM_cons]
      refine (carryOut_gives hquiet hready hdeclares).bind
        fun labels after entries hafter _ hentries => ?_
      refine (ih hafter).bind fun more last others hlast _ hothers => ?_
      refine gives_pure hlast fun hnone => ?_
      rw [List.flatten_cons, List.mem_append, not_or] at hnone
      rw [hentries hnone.1, hothers hnone.2, List.append_nil]
      rfl
  refine hstatements.bind fun labels after entries hafter _ hentries => ?_
  exact gives_pure hafter fun hnone => by rw [List.append_nil]; exact hentries hnone

end Surroundings

end Registrar
