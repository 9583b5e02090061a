import Mathlib.Data.List.Basic
import Registrar.Registration.Scan

/-! # Keys given by name

The scan reads the constants of a module before it reads its registrations. A name is the key that
the last statement of the module gives it which binds this name alone to a string literal, wherever
the registration stands. That is what the name was assigned last before the registration if it is
only ever assigned such literals, and none from the registration on.
-/

namespace Registrar.Registration

open Source

/-- The text of a statement that binds a name, and nothing else, to a string literal. -/
def textFor? (id : String) (statement : Stmt) : Option String :=
  (constant? statement).bind fun (name, text) => if name = id then some text else none

/-- Whether a target is a name. -/
def isTarget (id : String) : Expr → Bool
  | .name other => other == id
  | _ => false

/-- What a statement assigns to a name. -/
def assigned? (id : String) : Stmt → Option Expr
  | .assign targets value => if targets.any (isTarget id) then some value else none
  | .annAssign target _ value => if isTarget id target then value else none
  | _ => none

/-- What a name was assigned last by some statements. -/
def lastAssigned? (id : String) (statements : List Stmt) : Option Expr :=
  statements.reverse.findSome? (assigned? id)

/-- The text of the last statement that binds a name, and nothing else, to a string literal. -/
def lastText? (id : String) (statements : List Stmt) : Option String :=
  statements.reverse.findSome? (textFor? id)

variable {id text : String} {statement : Stmt} {body before after : List Stmt}

theorem lookup_constants (id : String) (body : Module) :
    (constants body).lookup id = lastText? id body := by
  unfold constants lastText?
  rw [← List.filterMap_reverse]
  induction body.reverse with
  | nil => rfl
  | cons statement statements ih =>
    cases hconstant : constant? statement with
    | none => simpa [hconstant, textFor?] using ih
    | some constant =>
      obtain ⟨name, text⟩ := constant
      by_cases hname : name = id
      · simp [hconstant, textFor?, hname]
      · have hother : (id == name) = false := by simpa using Ne.symm hname
        simpa [hconstant, textFor?, hname, List.lookup_cons, hother] using ih

/-- What binds a name to a string literal assigns it that literal. -/
theorem assigned?_of_textFor? (h : textFor? id statement = some text) :
    ∃ value, assigned? id statement = some value ∧ literal? value = some text := by
  obtain ⟨⟨name, found⟩, hconstant, hname⟩ := Option.bind_eq_some_iff.mp h
  obtain ⟨rfl, rfl⟩ : name = id ∧ found = text := by simpa using hname
  unfold constant? at hconstant
  split at hconstant
  · next value =>
    obtain ⟨text, htext, hpair⟩ := Option.map_eq_some_iff.mp hconstant
    obtain ⟨rfl, rfl⟩ := Prod.mk.inj hpair
    exact ⟨value, by simp [assigned?, isTarget], htext⟩
  · next value =>
    obtain ⟨text, htext, hpair⟩ := Option.map_eq_some_iff.mp hconstant
    obtain ⟨rfl, rfl⟩ := Prod.mk.inj hpair
    exact ⟨value, by simp [assigned?, isTarget], htext⟩
  · cases hconstant

/-- A name that is only assigned string literals, alone, has the text of the last one. -/
theorem lastText?_eq_of_literals
    (h : ∀ statement ∈ before, (assigned? id statement).isSome → (textFor? id statement).isSome) :
    lastText? id before = (lastAssigned? id before).bind literal? := by
  have hreverse : ∀ statement ∈ before.reverse, (assigned? id statement).isSome →
      (textFor? id statement).isSome := fun statement hmem =>
    h statement (List.mem_reverse.mp hmem)
  unfold lastText? lastAssigned?
  generalize before.reverse = statements at hreverse
  induction statements with
  | nil => rfl
  | cons statement statements ih =>
    obtain ⟨hstatement, hstatements⟩ := List.forall_mem_cons.mp hreverse
    cases htext : textFor? id statement with
    | none =>
      have hassigned : assigned? id statement = none := by
        rw [← Option.not_isSome_iff_eq_none]
        intro hsome
        simpa [htext] using hstatement hsome
      simpa [htext, hassigned] using ih hstatements
    | some text =>
      obtain ⟨value, hvalue, hliteral⟩ := assigned?_of_textFor? htext
      simp [htext, hvalue, hliteral]

/-- Statements that bind no string literal to a name leave its text as it was. -/
theorem lastText?_append (h : ∀ statement ∈ after, textFor? id statement = none) :
    lastText? id (before ++ after) = lastText? id before := by
  have hafter : after.reverse.findSome? (textFor? id) = none :=
    List.findSome?_eq_none_iff.mpr fun statement hmem => h statement (List.mem_reverse.mp hmem)
  unfold lastText?
  rw [List.reverse_append, List.findSome?_append, hafter, Option.none_or]

/-- The key the scan reads off the key expression of a call in a module. -/
def keyIn? (body : Module) : Option Expr → Option String
  | some (.name id) => (lastText? id body).bind nonEmpty?
  | other => (other.bind literal?).bind nonEmpty?

theorem resolveKey?_eq (body : Module) (key : Option Expr) :
    resolveKey? (constants body) key = keyIn? body key := by
  cases key with
  | none => rfl
  | some value =>
    cases value with
    | name id => rw [resolveKey?, lookup_constants, keyIn?]
    | _ => rfl

/-- Keys are the constants of the whole module. Every registration with a key given as a name is
reported under the text of the last statement, before or behind it, that binds this name alone to a
string literal, and it is skipped if there is none or the text is empty. Where everything assigned
to the name before the registration is such a literal, and no statement from the registration on
binds the name to one, that is what the name was assigned last before the registration. -/
theorem scanModule_constants (entryPoints : EntryPoints) (body : Module) :
    (scanModule entryPoints body).registrations =
      (body.flatMap fun statement => (calls entryPoints statement).filterMap fun call =>
        (keyIn? body call.key).map fun key =>
          ⟨call.symbol.filter (isExported · (exportedNames body)), key, call.kind⟩) ∧
    ∀ before statement after id, body = before ++ statement :: after →
      (∀ other ∈ before, (assigned? id other).isSome → (textFor? id other).isSome) →
      (∀ other ∈ statement :: after, textFor? id other = none) →
      keyIn? body (some (.name id)) = ((lastAssigned? id before).bind literal?).bind nonEmpty? := by
  constructor
  · simp only [scanModule, List.filterMap_flatMap, resolveKey?_eq]
  · rintro before statement after id rfl hbefore hafter
    rw [keyIn?, lastText?_append hafter, lastText?_eq_of_literals hbefore]

/-- Whether the key of each registration in a module that is given as a name is the string literal
that the name was assigned last before the registration. -/
def FollowsAssignments (entryPoints : EntryPoints) (body : Module) : Prop :=
  ∀ before statement after, body = before ++ statement :: after →
    ∀ call ∈ calls entryPoints statement, ∀ id, call.key = some (.name id) →
      resolveKey? (constants body) call.key =
        ((lastAssigned? id before).bind literal?).bind nonEmpty?

/-- A module that binds a name to `first`, registers under it, and binds `other` to `second`. -/
def bindingTwice (first other second : String) : Module :=
  let text (string : String) : Expr := .constant (.text (string.toList.map Char.toNat))
  [.assign [.name "K"] (text first),
    .assign [.name "A"] (.call 2 (.name "register_hook") [.name "K", .list []] []),
    .assign [.name other] (text second)]

/-- The second binding is of another name, so the key is what the name was bound to. -/
theorem bindingTwice_constants :
    keyIn? (bindingTwice "a" "L" "b") (some (.name "K")) = some "a" := by
  have hkey := (scanModule_constants .usual (bindingTwice "a" "L" "b")).2
    (bindingTwice "a" "L" "b").dropLast.dropLast
  refine (hkey _ _ "K" rfl ?_ ?_).trans ?_
  · simp [bindingTwice, textFor?, constant?, literal?]
  · simp [textFor?, constant?, literal?]
  · decide

/-- A later binding of the name changes the key: the keys of a module do not follow the order of its
assignments. -/
theorem bindingTwice_not_followsAssignments :
    (scanSource? .usual "K = 'a'\nA = register_hook(K, [])\nK = 'b'\n").map (·.registrations) =
      some [⟨some "A", "b", .hook⟩] ∧
    ¬ ∀ entryPoints body, FollowsAssignments entryPoints body := by
  refine ⟨by decide +kernel, fun h => ?_⟩
  have hkey := h .usual (bindingTwice "a" "K" "b") [_] _ [_] rfl _ (List.mem_singleton.mpr rfl) "K"
    rfl
  revert hkey
  decide

end Registrar.Registration
